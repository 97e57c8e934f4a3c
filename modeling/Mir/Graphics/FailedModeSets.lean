/-
This file proves for which runs a display buffer survives that CRTCs cannot be set: an output loses
its CRTC then, and must not be waited for before it has one again.

Whether there is a page flip to wait for is one flag for all outputs, so an output without a CRTC is
waited for as soon as the flip of another one is accepted.
-/

import Mir.Graphics.DisplayBuffer

namespace Mir.Graphics.Scanout

open PageFlip Throwing

namespace DisplayBuffer

variable {kernel : Kernel} {frame : Frame} {buffer : DisplayBuffer}

/-- No output without a CRTC has been waited for, and no flip has been scheduled for a CRTC with a
pending one. -/
structure Survives (buffer : DisplayBuffer) : Prop where
  waits : .noCrtcToWaitOn ∉ buffer.thrown
  schedules : .alreadyScheduled ∉ buffer.thrown

/-- Page flips are tried on none of the outputs, or get scheduled on none, or each output that is on
has a CRTC. -/
def FlipsTogether (kernel : Kernel) (buffer : DisplayBuffer) : Prop :=
  buffer.needsSetCrtc = false → buffer.outputs.any (returnsTrue kernel buffer) = true →
    buffer.Driven

/-- What is asked of a step: no frame is flipped while an output that is on lacks its CRTC. -/
def KeepsTogether (buffer : DisplayBuffer) : Op → Prop
  | .post kernel => FlipsTogether kernel buffer
  | _ => True

/-- What holds as long as all outputs flip together. -/
structure Sound (buffer : DisplayBuffer) : Prop where
  wired : buffer.Wired
  awaited : buffer.Awaited
  driven : buffer.pageFlipsPending = true → buffer.Driven
  thrown : ∀ error ∈ buffer.thrown, error = .failedToFindCrtc

/-- How a part of a call ends: it throws nothing but that a CRTC was not found. -/
abbrev EndsSound {Value : Type} (computation : Call Value) (buffer : DisplayBuffer) : Prop :=
  Ends computation buffer (fun _ after => after.Sound)
    (fun error after => error = .failedToFindCrtc ∧ after.Sound)

namespace Sound

theorem survives (sound : buffer.Sound) : buffer.Survives where
  waits := fun member => nomatch sound.thrown _ member
  schedules := fun member => nomatch sound.thrown _ member

/-- The frames are not looked at by what holds of the outputs. -/
theorem of_same {after : DisplayBuffer} (sound : buffer.Sound)
    (outputs : after.outputs = buffer.outputs) (kms : after.kms = buffer.kms)
    (pending : after.pendingPageFlips = buffer.pendingPageFlips)
    (flag : after.pageFlipsPending = buffer.pageFlipsPending)
    (thrown : after.thrown = buffer.thrown) : after.Sound := by
  refine ⟨⟨?_, ?_⟩, ⟨?_, ?_⟩, ?_, ?_⟩
  · rw [outputs]
    exact sound.wired.nodup
  · rw [outputs, kms]
    exact sound.wired.apart
  · rw [flag, pending]
    exact sound.awaited.quiet
  · rw [pending, outputs, kms]
    exact sound.awaited.pending
  · unfold Driven
    rw [flag, outputs, kms]
    exact sound.driven
  · rw [thrown]
    exact sound.thrown

theorem moveFrames (sound : buffer.Sound) : buffer.moveFrames.Sound := by
  unfold DisplayBuffer.moveFrames
  split
  · exact sound.of_same rfl rfl rfl rfl rfl
  · exact sound

/-- With all flips done nothing is to be waited for. -/
theorem waited (sound : buffer.Sound) :
    Sound { buffer with pendingPageFlips := fun _ => none, pageFlipsPending := false } where
  wired := ⟨sound.wired.nodup, sound.wired.apart⟩
  awaited := ⟨fun _ _ => rfl, fun _ isPending => absurd rfl isPending⟩
  driven := nofun
  thrown := sound.thrown

theorem waitForPageFlip (sound : buffer.Sound) : EndsSound waitForPageFlip buffer := by
  refine (ends_waitForPageFlip sound.awaited sound.driven).mono ?_ fun _ _ => id
  rintro _ _ rfl
  exact sound.waited.moveFrames

/-- After the flips are tried, they are awaited from outputs with CRTCs, or there are none. -/
theorem schedulePageFlip (sound : buffer.Sound) (notPending : buffer.pageFlipsPending = false)
    (together : buffer.outputs.any (returnsTrue kernel buffer) = true → buffer.Driven) :
    Ends (schedulePageFlip kernel frame) buffer
      (fun scheduled after => after.Sound ∧ after.pageFlipsPending = scheduled)
      (fun error after => error = .failedToFindCrtc ∧ after.Sound) := by
  refine (ends_schedulePageFlip sound.wired sound.awaited notPending).mono ?_ fun _ _ => id
  rintro scheduled _ ⟨isScheduled, pending, pendings, rfl⟩
  refine ⟨⟨⟨sound.wired.nodup, fun first firstMember second secondMember crtc => ?_⟩,
    ⟨fun quiet crtc => ?_, fun crtc isPending => ?_⟩, fun isPending => ?_, sound.thrown⟩, rfl⟩
  · dsimp only
    rw [currentCrtc_flipped, currentCrtc_flipped]
    exact sound.wired.apart first firstMember second secondMember crtc
  · by_contra isPending
    obtain ⟨id, member, takes, -⟩ := pendings crtc isPending
    have returns : buffer.outputs.any (returnsTrue kernel buffer) = true :=
      List.any_eq_true.mpr ⟨id, member, returnsTrue_of_takesFlip takes⟩
    rw [← isScheduled] at returns
    exact absurd (quiet.symm.trans returns) nofun
  · obtain ⟨id, member, takes, known⟩ := pendings crtc isPending
    refine ⟨id, member, ?_⟩
    dsimp only
    rw [currentCrtc_flipped, poweredOn_flipped]
    exact ⟨(takesFlip_iff.mp takes).1, known⟩
  · intro id member
    dsimp only
    rw [currentCrtc_flipped, poweredOn_flipped]
    exact together (isScheduled.symm.trans isPending) id member

theorem setCrtc (sound : buffer.Sound) (notPending : buffer.pageFlipsPending = false) :
    EndsSound (setCrtc kernel frame) buffer := by
  have kept : ∀ after, Rewired buffer after → after.Sound := by
    intro after rewired
    have quiet : ∀ crtc, after.pendingPageFlips crtc = none := by
      intro crtc
      rw [rewired.same]
      exact sound.awaited.quiet notPending crtc
    refine ⟨rewired.wired, ⟨fun _ => quiet, fun crtc isPending => ?_⟩, fun isPending => ?_, ?_⟩
    · exact absurd (quiet crtc) isPending
    · rw [rewired.same] at isPending
      exact absurd (isPending.symm.trans notPending) nofun
    · rw [rewired.same]
      exact sound.thrown
  refine (ends_setCrtc sound.wired).mono (fun _ after holds => kept after holds.1) ?_
  rintro error after ⟨isError, rewired, -⟩
  exact ⟨isError, kept after rewired⟩

theorem tryFlips (sound : buffer.Sound) (notPending : buffer.pageFlipsPending = false)
    (together : FlipsTogether kernel buffer) :
    Ends (tryFlips kernel frame) buffer
      (fun _ after => after.Sound ∧
        (after.needsSetCrtc = true → after.pageFlipsPending = false))
      (fun error after => error = .failedToFindCrtc ∧ after.Sound) := by
  unfold DisplayBuffer.tryFlips
  refine ends_readState_bind ?_
  split
  · next flips =>
    refine (sound.schedulePageFlip notPending (together flips)).bind ?_
    rintro scheduled after ⟨afterSound, same⟩
    refine ends_change ⟨afterSound.of_same rfl rfl rfl rfl rfl, fun needs => ?_⟩
    rw [← same] at needs
    simpa using needs
  · exact ends_pure () ⟨sound, fun _ => notPending⟩

theorem fallBack (sound : buffer.Sound)
    (notPending : buffer.needsSetCrtc = true → buffer.pageFlipsPending = false) :
    EndsSound (fallBack kernel frame) buffer := by
  unfold DisplayBuffer.fallBack
  refine ends_readState_bind ?_
  split
  · next needs =>
    refine (sound.setCrtc (notPending needs)).bind fun _ after afterSound => ?_
    exact ends_change (afterSound.of_same rfl rfl rfl rfl rfl)
  · exact ends_pure () sound

theorem schedule (sound : buffer.Sound) : EndsSound (schedule frame) buffer := by
  unfold DisplayBuffer.schedule
  split
  · refine ends_change_bind (waitForPageFlip ?_)
    exact sound.of_same rfl rfl rfl rfl rfl
  · refine ends_change_bind (ends_readState_bind ?_)
    split
    · refine waitForPageFlip ?_
      exact sound.of_same rfl rfl rfl rfl rfl
    · refine ends_pure () ?_
      exact sound.of_same rfl rfl rfl rfl rfl

/-- Whether all outputs flip together is a matter of the outputs and of what was asked for. -/
theorem flipsTogether_congr {after : DisplayBuffer} (together : FlipsTogether kernel buffer)
    (outputs : after.outputs = buffer.outputs) (kms : after.kms = buffer.kms)
    (needs : after.needsSetCrtc = buffer.needsSetCrtc) : FlipsTogether kernel after := by
  have returns : returnsTrue kernel after = returnsTrue kernel buffer := by
    funext id
    simp only [returnsTrue, kms]
  unfold FlipsTogether Driven
  rw [needs, outputs, kms, returns]
  exact together

theorem nextFrame (sound : buffer.Sound) (notPending : buffer.pageFlipsPending = false)
    (together : FlipsTogether kernel buffer) :
    Ends nextFrame buffer
      (fun _ after => after.Sound ∧ after.pageFlipsPending = false ∧ FlipsTogether kernel after)
      (fun error after => error = .failedToFindCrtc ∧ after.Sound) := by
  unfold Ends Throwing.run DisplayBuffer.nextFrame
  cases buffer.bypassBuf with
  | some client => exact ⟨sound, notPending, together⟩
  | none =>
    exact ⟨sound.of_same rfl rfl rfl rfl rfl, notPending,
      flipsTogether_congr together rfl rfl rfl⟩

/-- A whole frame is shown without harm if all outputs flip together. -/
theorem post (sound : buffer.Sound) (together : FlipsTogether kernel buffer) :
    EndsSound (post kernel) buffer := by
  unfold DisplayBuffer.post
  refine (ends_waitForPageFlip sound.awaited sound.driven).bind ?_
  rintro _ _ rfl
  have waitedTogether := flipsTogether_congr together
    (outputs_moveFrames { buffer with
      pendingPageFlips := fun _ => none
      pageFlipsPending := false })
    (kms_moveFrames _) (needsSetCrtc_moveFrames _)
  refine (sound.waited.moveFrames.nextFrame (pageFlipsPending_moveFrames _)
    waitedTogether).bind ?_
  rintro frame after ⟨afterSound, notPending, afterTogether⟩
  refine (afterSound.tryFlips notPending afterTogether).bind ?_
  rintro _ tried ⟨triedSound, triedPending⟩
  refine (triedSound.fallBack triedPending).bind fun _ shown shownSound => ?_
  refine shownSound.schedule.bind fun _ scheduled scheduledSound => ?_
  exact ends_change (scheduledSound.of_same rfl rfl rfl rfl rfl)

theorem step (sound : buffer.Sound) (op : Op) (together : buffer.KeepsTogether op) :
    (buffer.step op).Sound := by
  cases op with
  | overlay found => exact sound.of_same rfl rfl rfl rfl rfl
  | swapBuffers => exact sound.of_same rfl rfl rfl rfl rfl
  | scheduleSetCrtc => exact sound.of_same rfl rfl rfl rfl rfl
  | post kernel =>
    refine step_post ((sound.post together).mono (fun _ _ afterSound => afterSound) ?_)
    rintro error after ⟨isError, afterSound⟩
    refine ⟨⟨afterSound.wired.nodup, afterSound.wired.apart⟩, ⟨afterSound.awaited.quiet,
      afterSound.awaited.pending⟩, afterSound.driven, fun other member => ?_⟩
    rcases List.mem_cons.mp member with rfl | earlier
    · exact isError
    · exact afterSound.thrown other earlier

/-- What the constructor leaves. -/
theorem construct {outputs : List ConnectorID} (distinct : outputs.Nodup)
    (poweredOn : ConnectorID → Bool) (kernel : Kernel) :
    EndsSound (construct kernel) (blank outputs poweredOn) := by
  have blankSound : (blank outputs poweredOn).Sound := by
    refine ⟨⟨distinct, ?_⟩, ⟨fun _ _ => rfl, fun _ isPending => absurd rfl isPending⟩, nofun,
      nofun⟩
    intro id _ other _ crtc known
    cases known
  unfold DisplayBuffer.construct
  refine ends_change_bind (setCrtc ?_ rfl)
  exact blankSound.of_same rfl rfl rfl rfl rfl

end Sound

/-- A kernel with a CRTC for each of two connectors, which sets that of the second only if it is
told to. -/
def twoCrtcs (setsSecond : Bool) : Kernel := fun id =>
  if id = 1 then ⟨.unused 10, true, true⟩ else ⟨.unused 20, setsSecond, true⟩

/-- Two outputs that are on. -/
def twoOutputs (kernel : Kernel) : DisplayBuffer :=
  ((construct kernel).run (blank [1, 2] fun _ => true)).2

end DisplayBuffer

end Mir.Graphics.Scanout

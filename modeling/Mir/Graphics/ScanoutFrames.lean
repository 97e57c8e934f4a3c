/-
This file proves for which runs a display buffer keeps the frames that its outputs scan out, if the
CRTCs can always be set: whenever it flips, all outputs must get to know the frame.

One flip that is scheduled counts as success for all outputs, so an output whose flip failed goes on
with the frame before, which is released when the next frame is shown.
-/

import Mir.Graphics.FailedModeSets

namespace Mir.Graphics.Scanout

open PageFlip Throwing

/-- The front buffer that a frame is, if it is one. -/
def Frame.front : Frame → List FrontBuffer
  | .composite front => [front]
  | .bypass _ => []

namespace DisplayBuffer

variable {kernel : Kernel} {frame : Frame} {buffer : DisplayBuffer}

/-! ### Frames that are kept -/

/-- The frame has not been let go: it is in one of the slots, or is the next one for bypass. -/
def Holds (buffer : DisplayBuffer) : Frame → Prop
  | .composite front =>
    buffer.visibleCompositeFrame = some front ∨ buffer.scheduledCompositeFrame = some front
  | .bypass client =>
    buffer.visibleBypassFrame = some client ∨ buffer.scheduledBypassFrame = some client ∨
      buffer.bypassBuf = some client

/-- The front buffers that were released, and the ones in the slots. -/
def accounted (buffer : DisplayBuffer) : List FrontBuffer :=
  buffer.released ++
    (buffer.visibleCompositeFrame.toList ++ buffer.scheduledCompositeFrame.toList)

structure KeepsFrames (buffer : DisplayBuffer) : Prop where
  /-- Each front buffer locked was released once or is in one slot. -/
  fronts : buffer.accounted.Perm (List.range buffer.locked)
  /-- No output was last told to scan out a frame that has been let go since. -/
  scanned : ∀ id ∈ buffer.outputs, ∀ shown, (buffer.kms id).scansOut = some shown →
    buffer.Holds shown
  /-- No frame was let go while an output was last told to scan it out. -/
  lost : buffer.lost = []

/-- All CRTCs can be set. -/
def SetsCrtcs (buffer : DisplayBuffer) : Op → Prop
  | .post kernel => ∀ id ∈ buffer.outputs, (kernel id).sets = true
  | _ => True

/-- If the frame is flipped, each output takes the flip or scans the frame out already, as it may do
with a client's buffer. -/
def TellsAll (kernel : Kernel) (buffer : DisplayBuffer) : Prop :=
  buffer.needsSetCrtc = false → buffer.outputs.any (returnsTrue kernel buffer) = true →
    ∀ id ∈ buffer.outputs, takesFlip kernel buffer id = true ∨
      ∃ client, buffer.bypassBuf = some client ∧
        (buffer.kms id).scansOut = some (.bypass client)

/-- What is asked of a step: a frame that is flipped gets known to all outputs. -/
def KeepsTold (buffer : DisplayBuffer) : Op → Prop
  | .post kernel => TellsAll kernel buffer
  | _ => True

/-! ### The slots -/

/-- The latest of the frames in the slots. -/
def latest (buffer : DisplayBuffer) : Option Frame :=
  (buffer.scheduledBypassFrame.map Frame.bypass).or
    ((buffer.scheduledCompositeFrame.map Frame.composite).or
      ((buffer.visibleBypassFrame.map Frame.bypass).or
        (buffer.visibleCompositeFrame.map Frame.composite)))

/-- What holds of the slots, with the front buffers that are locked and in no slot yet. -/
structure Stored (inHand : List FrontBuffer) (buffer : DisplayBuffer) : Prop where
  fronts : (inHand ++ buffer.accounted).Perm (List.range buffer.locked)
  scheduled : buffer.scheduledBypassFrame = none ∨ buffer.scheduledCompositeFrame = none
  visible : buffer.visibleBypassFrame = none ∨ buffer.visibleCompositeFrame = none
  lost : buffer.lost = []

/-- No frame is scheduled. -/
structure Settled (buffer : DisplayBuffer) : Prop where
  bypass : buffer.scheduledBypassFrame = none
  composite : buffer.scheduledCompositeFrame = none

/-- All outputs have CRTCs, and were last told to scan out the same frame. -/
structure Shows (shown : Option Frame) (buffer : DisplayBuffer) : Prop where
  crtcs : ∀ id ∈ buffer.outputs, (buffer.kms id).currentCrtc ≠ none
  told : ∀ id ∈ buffer.outputs, (buffer.kms id).scansOut = shown

/-- What holds between the steps: the outputs scan out the latest frame. -/
structure Steady (buffer : DisplayBuffer) : Prop where
  sound : buffer.Sound
  stored : buffer.Stored []
  shows : buffer.Shows buffer.latest

theorem holds_latest {shown : Frame} (isLatest : buffer.latest = some shown) :
    buffer.Holds shown := by
  unfold latest at isLatest
  unfold Holds
  cases scheduledBypass : buffer.scheduledBypassFrame with
  | some client =>
    rw [scheduledBypass] at isLatest
    cases isLatest
    exact .inr (.inl rfl)
  | none =>
    cases scheduledComposite : buffer.scheduledCompositeFrame with
    | some front =>
      rw [scheduledBypass, scheduledComposite] at isLatest
      cases isLatest
      exact .inr rfl
    | none =>
      cases visibleBypass : buffer.visibleBypassFrame with
      | some client =>
        rw [scheduledBypass, scheduledComposite, visibleBypass] at isLatest
        cases isLatest
        exact .inl rfl
      | none =>
        cases visibleComposite : buffer.visibleCompositeFrame with
        | some front =>
          rw [scheduledBypass, scheduledComposite, visibleBypass, visibleComposite] at isLatest
          cases isLatest
          exact .inl rfl
        | none =>
          rw [scheduledBypass, scheduledComposite, visibleBypass, visibleComposite] at isLatest
          cases isLatest

theorem Steady.keepsFrames (steady : buffer.Steady) : buffer.KeepsFrames where
  fronts := steady.stored.fronts
  scanned := fun id member _ isShown =>
    holds_latest ((steady.shows.told id member).symm.trans isShown)
  lost := steady.stored.lost

/-- A front buffer is not in both slots. -/
theorem Stored.slots_differ {inHand : List FrontBuffer} (stored : buffer.Stored inHand)
    {front : FrontBuffer} (visible : buffer.visibleCompositeFrame = some front) :
    buffer.scheduledCompositeFrame ≠ some front := by
  intro scheduled
  have nodup := stored.fronts.nodup_iff.mpr List.nodup_range
  unfold accounted at nodup
  rw [visible, scheduled] at nodup
  have twice := (List.nodup_append'.mp (List.nodup_append'.mp nodup).2.1).2.1
  simp at twice

/-- A frame that gives way to a scheduled one is not the latest. -/
theorem not_mem_replaced (stored : buffer.Stored [])
    (scheduled : buffer.scheduledBypassFrame.isSome ∨ buffer.scheduledCompositeFrame.isSome)
    {shown : Frame} (isLatest : buffer.latest = some shown) : shown ∉ buffer.replaced := by
  unfold latest at isLatest
  unfold replaced
  intro member
  rw [List.mem_append, List.mem_map, List.mem_map] at member
  cases scheduledBypass : buffer.scheduledBypassFrame with
  | some client =>
    rw [scheduledBypass] at isLatest
    cases isLatest
    rcases member with ⟨front, -, differs⟩ | ⟨other, isReplaced, same⟩
    · cases differs
    · cases same
      rw [List.mem_filter, decide_eq_true_iff] at isReplaced
      exact isReplaced.2.1 scheduledBypass
  | none =>
    cases scheduledComposite : buffer.scheduledCompositeFrame with
    | some front =>
      rw [scheduledBypass, scheduledComposite] at isLatest
      cases isLatest
      rcases member with ⟨other, isVisible, same⟩ | ⟨other, -, differs⟩
      · cases same
        exact stored.slots_differ (Option.mem_toList.mp isVisible) scheduledComposite
      · cases differs
    | none =>
      rw [scheduledBypass, scheduledComposite] at scheduled
      rcases scheduled with isSome | isSome <;> cases isSome

/-- What the scheduled frames replace is scanned out by no output. -/
theorem nothing_lost (stored : buffer.Stored []) (shows : buffer.Shows buffer.latest)
    (scheduled : buffer.scheduledBypassFrame.isSome ∨ buffer.scheduledCompositeFrame.isSome) :
    buffer.replaced.filter buffer.isScannedOut = [] := by
  rw [List.filter_eq_nil_iff]
  intro shown member isScanned
  obtain ⟨id, output, told⟩ := List.any_eq_true.mp isScanned
  have isLatest := (shows.told id output).symm.trans (of_decide_eq_true told)
  exact not_mem_replaced stored scheduled isLatest member

theorem settled_moveFrames (buffer : DisplayBuffer) : buffer.moveFrames.Settled := by
  unfold moveFrames
  split
  · exact ⟨rfl, rfl⟩
  · next unscheduled =>
    rw [not_or, Bool.not_eq_true, Bool.not_eq_true, Option.isSome_eq_false_iff,
      Option.isSome_eq_false_iff, Option.isNone_iff_eq_none, Option.isNone_iff_eq_none]
      at unscheduled
    exact ⟨unscheduled.1, unscheduled.2⟩

theorem latest_moveFrames (buffer : DisplayBuffer) :
    buffer.moveFrames.latest = buffer.latest := by
  unfold moveFrames
  split
  · next scheduled =>
    unfold latest
    cases scheduledBypass : buffer.scheduledBypassFrame with
    | some client => rfl
    | none =>
      cases scheduledComposite : buffer.scheduledCompositeFrame with
      | some front => rfl
      | none =>
        rw [scheduledBypass, scheduledComposite] at scheduled
        rcases scheduled with isSome | isSome <;> cases isSome
  · rfl

theorem Stored.moveFrames (stored : buffer.Stored []) (shows : buffer.Shows buffer.latest) :
    buffer.moveFrames.Stored [] := by
  unfold DisplayBuffer.moveFrames
  split
  · next scheduled =>
    refine ⟨?_, .inl rfl, stored.scheduled, ?_⟩
    · -- the visible front buffer goes over to the released ones
      have moved : (buffer.visibleCompositeFrame.toList ++ buffer.released ++
          (buffer.scheduledCompositeFrame.toList ++ [])).Perm buffer.accounted := by
        unfold accounted
        rw [List.append_nil, ← List.append_assoc]
        exact List.perm_append_comm.append_right _
      exact moved.trans stored.fronts
    · dsimp only
      rw [nothing_lost stored shows scheduled, stored.lost, List.append_nil]
  · exact stored

theorem Steady.moveFrames (steady : buffer.Steady) : buffer.moveFrames.Steady where
  sound := steady.sound.moveFrames
  stored := steady.stored.moveFrames steady.shows
  shows := by
    rw [latest_moveFrames]
    refine ⟨?_, ?_⟩
    · rw [outputs_moveFrames, kms_moveFrames]
      exact steady.shows.crtcs
    · rw [outputs_moveFrames, kms_moveFrames]
      exact steady.shows.told

theorem bypassBuf_moveFrames (buffer : DisplayBuffer) :
    buffer.moveFrames.bypassBuf = buffer.bypassBuf := by
  unfold moveFrames
  split <;> rfl

/-! ### The parts of a step -/

/-- What holds while a frame is on its way to the slots. -/
structure Carries (frame : Frame) (buffer : DisplayBuffer) : Prop where
  sound : buffer.Sound
  stored : buffer.Stored frame.front
  settled : buffer.Settled
  crtcs : ∀ id ∈ buffer.outputs, (buffer.kms id).currentCrtc ≠ none

/-- If the frame is flipped, all outputs scan it out then. -/
def TellsFrame (kernel : Kernel) (frame : Frame) (buffer : DisplayBuffer) : Prop :=
  buffer.needsSetCrtc = false → buffer.outputs.any (returnsTrue kernel buffer) = true →
    ∀ id ∈ buffer.outputs, takesFlip kernel buffer id = true ∨
      (buffer.kms id).scansOut = some frame

theorem driven_of_crtcs
    (crtcs : ∀ id ∈ buffer.outputs, (buffer.kms id).currentCrtc ≠ none) : buffer.Driven :=
  fun id member _ => crtcs id member

theorem tellsAll_congr {after : DisplayBuffer} (tells : TellsAll kernel buffer)
    (outputs : after.outputs = buffer.outputs) (kms : after.kms = buffer.kms)
    (needs : after.needsSetCrtc = buffer.needsSetCrtc)
    (bypass : after.bypassBuf = buffer.bypassBuf) : TellsAll kernel after := by
  have returns : returnsTrue kernel after = returnsTrue kernel buffer := by
    funext id
    simp only [returnsTrue, kms]
  have takes : takesFlip kernel after = takesFlip kernel buffer := by
    funext id
    simp only [takesFlip, kms]
  unfold TellsAll
  rw [needs, outputs, kms, returns, takes, bypass]
  exact tells

/-- With all flips done the frames are the same. -/
theorem Steady.waited (steady : buffer.Steady) :
    Steady { buffer with pendingPageFlips := fun _ => none, pageFlipsPending := false } where
  sound := steady.sound.waited
  stored := ⟨steady.stored.fronts, steady.stored.scheduled, steady.stored.visible,
    steady.stored.lost⟩
  shows := ⟨steady.shows.crtcs, steady.shows.told⟩

theorem Steady.nextFrame (steady : buffer.Steady) (settled : buffer.Settled)
    (tells : TellsAll kernel buffer) :
    Ends nextFrame buffer
      (fun frame after => after.Carries frame ∧ TellsFrame kernel frame after ∧
        after.pageFlipsPending = buffer.pageFlipsPending ∧ after.outputs = buffer.outputs)
      (fun _ _ => False) := by
  unfold Ends Throwing.run DisplayBuffer.nextFrame
  cases bypass : buffer.bypassBuf with
  | some client =>
    refine ⟨⟨steady.sound, steady.stored, settled, steady.shows.crtcs⟩, ?_, rfl, rfl⟩
    intro flips returns id member
    rcases tells flips returns id member with takes | ⟨other, isNext, told⟩
    · exact .inl takes
    · rw [bypass] at isNext
      cases isNext
      exact .inr told
  | none =>
    refine ⟨⟨steady.sound.of_same rfl rfl rfl rfl rfl, ⟨?_, steady.stored.scheduled,
      steady.stored.visible, steady.stored.lost⟩, ⟨settled.bypass, settled.composite⟩,
      steady.shows.crtcs⟩, ?_, rfl, rfl⟩
    · -- one more front buffer is locked, and it is in hand
      rw [List.range_succ]
      exact List.perm_append_comm.trans (steady.stored.fronts.append_right [buffer.locked])
    · intro flips returns id member
      rcases tells flips returns id member with takes | ⟨other, isNext, -⟩
      · exact .inl takes
      · rw [bypass] at isNext
        cases isNext

namespace Carries

/-- A frame that was flipped is known to all outputs. -/
theorem tryFlips (carries : buffer.Carries frame) (notPending : buffer.pageFlipsPending = false)
    (tells : TellsFrame kernel frame buffer) :
    Ends (tryFlips kernel frame) buffer
      (fun _ after => after.Carries frame ∧
        (after.needsSetCrtc = true → after.pageFlipsPending = false) ∧
        (after.needsSetCrtc = false → after.Shows (some frame)) ∧ after.outputs = buffer.outputs)
      (fun _ _ => False) := by
  have driven := driven_of_crtcs carries.crtcs
  unfold DisplayBuffer.tryFlips
  refine ends_readState_bind ?_
  split
  · next flips =>
    have ends := @Sound.schedulePageFlip kernel frame buffer carries.sound notPending
      fun _ => driven
    have given := @ends_schedulePageFlip kernel frame buffer (fun _ _ => False)
      carries.sound.wired carries.sound.awaited notPending
    refine ((ends.and given).mono (fun _ _ holds => holds) fun _ _ both => both.2).bind ?_
    rintro scheduled _ ⟨⟨sound, -⟩, isScheduled, pending, pendings, rfl⟩
    have crtcs : ∀ id ∈ buffer.outputs,
        (flipped kernel frame buffer buffer.outputs id).currentCrtc ≠ none := by
      intro id member
      rw [currentCrtc_flipped]
      exact carries.crtcs id member
    refine ends_change ⟨⟨sound.of_same rfl rfl rfl rfl rfl, ⟨carries.stored.fronts,
      carries.stored.scheduled, carries.stored.visible, carries.stored.lost⟩,
      ⟨carries.settled.bypass, carries.settled.composite⟩, crtcs⟩, fun needs => ?_, fun needs => ?_,
      rfl⟩
    · simpa using needs
    · have returns : buffer.outputs.any (returnsTrue kernel buffer) = true := by
        rw [← isScheduled]
        simpa using needs
      refine ⟨crtcs, fun id member => ?_⟩
      dsimp only [flipped]
      split
      · rfl
      · next refuses =>
        rcases tells flips returns id member with takes | told
        · exact absurd ⟨member, takes⟩ refuses
        · exact told
  · next needs =>
    exact ends_pure () ⟨carries, fun _ => notPending, fun flips => absurd flips needs, rfl⟩

theorem fallBack (carries : buffer.Carries frame)
    (notPending : buffer.needsSetCrtc = true → buffer.pageFlipsPending = false)
    (shows : buffer.needsSetCrtc = false → buffer.Shows (some frame))
    (sets : ∀ id ∈ buffer.outputs, (kernel id).sets = true) :
    Ends (fallBack kernel frame) buffer
      (fun _ after => after.Carries frame ∧ after.Shows (some frame))
      (fun _ _ => False) := by
  unfold DisplayBuffer.fallBack
  refine ends_readState_bind ?_
  split
  · next needs =>
    have ends := @Sound.setCrtc kernel frame buffer carries.sound (notPending needs)
    have given := @ends_setCrtc kernel frame buffer carries.sound.wired
    refine ((ends.and given).mono (fun _ _ holds => holds) ?_).bind ?_
    · rintro error after ⟨-, -, -, id, member, unknown⟩
      exact carries.crtcs id member unknown
    · rintro _ after ⟨sound, rewired, isSet⟩
      have outputs : after.outputs = buffer.outputs := by rw [rewired.same]
      have crtcs : ∀ id ∈ after.outputs, (after.kms id).currentCrtc ≠ none := by
        intro id member
        rw [outputs] at member
        exact (isSet id member).2 (carries.crtcs id member) (sets id member)
      have stored : after.Stored frame.front := by
        rw [rewired.same]
        exact ⟨carries.stored.fronts, carries.stored.scheduled, carries.stored.visible,
          carries.stored.lost⟩
      have settled : after.Settled := by
        rw [rewired.same]
        exact ⟨carries.settled.bypass, carries.settled.composite⟩
      refine ends_change ⟨⟨sound.of_same rfl rfl rfl rfl rfl, ⟨stored.fronts, stored.scheduled,
        stored.visible, stored.lost⟩, ⟨settled.bypass, settled.composite⟩, crtcs⟩, crtcs, ?_⟩
      intro id member
      have inBuffer : id ∈ buffer.outputs := by
        rw [← outputs]
        exact member
      exact (isSet id inBuffer).1 (crtcs id member)
  · next needs =>
    exact ends_pure () ⟨carries, shows (Bool.eq_false_iff.mpr needs)⟩

/-- Once it is in its slot, the frame is the latest one. -/
theorem scheduled (carries : buffer.Carries frame) (shows : buffer.Shows (some frame)) :
    match frame with
    | .bypass client => Steady { buffer with scheduledBypassFrame := some client }
    | .composite front => Steady { buffer with scheduledCompositeFrame := some front } := by
  cases frame with
  | bypass client =>
    exact ⟨carries.sound.of_same rfl rfl rfl rfl rfl, ⟨carries.stored.fronts,
      .inr carries.settled.composite, carries.stored.visible, carries.stored.lost⟩, shows.crtcs,
      shows.told⟩
  | composite front =>
    have isLatest :
        latest { buffer with scheduledCompositeFrame := some front } = some (.composite front) := by
      unfold latest
      dsimp only
      rw [carries.settled.bypass]
      rfl
    refine ⟨carries.sound.of_same rfl rfl rfl rfl rfl, ⟨?_, .inl carries.settled.bypass,
      carries.stored.visible, carries.stored.lost⟩, ?_⟩
    · have fronts := carries.stored.fronts
      unfold accounted at fronts ⊢
      rw [carries.settled.composite, Option.toList_none, List.append_nil] at fronts
      refine List.Perm.trans ?_ fronts
      rw [List.nil_append, ← List.append_assoc]
      exact List.perm_append_comm
    · rw [isLatest]
      exact ⟨shows.crtcs, shows.told⟩

end Carries

theorem Steady.waitForPageFlip (steady : buffer.Steady) :
    Ends waitForPageFlip buffer (fun _ after => after.Steady) (fun _ _ => False) := by
  refine (ends_waitForPageFlip steady.sound.awaited steady.sound.driven).mono ?_ fun _ _ => id
  rintro _ _ rfl
  exact steady.waited.moveFrames

theorem Carries.schedule (carries : buffer.Carries frame) (shows : buffer.Shows (some frame)) :
    Ends (schedule frame) buffer (fun _ after => after.Steady) (fun _ _ => False) := by
  have steady := carries.scheduled shows
  cases frame with
  | bypass client => exact ends_change_bind steady.waitForPageFlip
  | composite front =>
    unfold DisplayBuffer.schedule
    refine ends_change_bind (ends_readState_bind ?_)
    split
    · exact steady.waitForPageFlip
    · exact ends_pure () steady

/-- The next frame for bypass is in no slot. -/
theorem Steady.bypassing (steady : buffer.Steady) (next : Option ClientBuffer) :
    Steady { buffer with bypassBuf := next } where
  sound := steady.sound.of_same rfl rfl rfl rfl rfl
  stored := ⟨steady.stored.fronts, steady.stored.scheduled, steady.stored.visible,
    steady.stored.lost⟩
  shows := ⟨steady.shows.crtcs, steady.shows.told⟩

/-! ### Whole steps -/

namespace Steady

theorem post (steady : buffer.Steady) (sets : ∀ id ∈ buffer.outputs, (kernel id).sets = true)
    (tells : TellsAll kernel buffer) :
    Ends (post kernel) buffer (fun _ after => after.Steady) (fun _ _ => False) := by
  unfold DisplayBuffer.post
  refine (ends_waitForPageFlip steady.sound.awaited steady.sound.driven).bind ?_
  rintro _ _ rfl
  have waitedTells := tellsAll_congr tells
    (outputs_moveFrames { buffer with
      pendingPageFlips := fun _ => none
      pageFlipsPending := false })
    (kms_moveFrames _) (needsSetCrtc_moveFrames _) (bypassBuf_moveFrames _)
  refine (steady.waited.moveFrames.nextFrame (settled_moveFrames _) waitedTells).bind ?_
  rintro frame after ⟨carries, frameTells, flag, outputs⟩
  have notPending : after.pageFlipsPending = false := by
    rw [flag]
    exact pageFlipsPending_moveFrames _
  refine (carries.tryFlips notPending frameTells).bind ?_
  rintro _ tried ⟨triedCarries, triedPending, triedShows, triedOutputs⟩
  have triedSets : ∀ id ∈ tried.outputs, (kernel id).sets = true := by
    intro id member
    rw [triedOutputs, outputs, outputs_moveFrames] at member
    exact sets id member
  refine (triedCarries.fallBack triedPending triedShows triedSets).bind ?_
  rintro _ shown ⟨shownCarries, shows⟩
  refine (shownCarries.schedule shows).bind fun _ scheduled scheduledSteady => ?_
  exact ends_change (scheduledSteady.bypassing none)

theorem step (steady : buffer.Steady) (op : Op) (sets : buffer.SetsCrtcs op)
    (told : buffer.KeepsTold op) : (buffer.step op).Steady := by
  cases op with
  | overlay found => exact steady.bypassing found
  | swapBuffers => exact steady.bypassing none
  | scheduleSetCrtc =>
    exact ⟨steady.sound.of_same rfl rfl rfl rfl rfl, ⟨steady.stored.fronts,
      steady.stored.scheduled, steady.stored.visible, steady.stored.lost⟩, steady.shows.crtcs,
      steady.shows.told⟩
  | post kernel =>
    exact step_post ((steady.post sets told).mono (fun _ _ afterSteady => afterSteady)
      fun _ _ => False.elim)

/-- What the constructor leaves, if it sets all CRTCs. -/
theorem construct {outputs : List ConnectorID} (distinct : outputs.Nodup)
    {poweredOn : ConnectorID → Bool} {first : DisplayBuffer}
    (constructed : (construct kernel).run (blank outputs poweredOn) = (.ok (), first))
    (crtcs : ∀ id ∈ first.outputs, (first.kms id).currentCrtc ≠ none) : first.Steady := by
  have wired : Wired { blank outputs poweredOn with
      locked := 1
      scheduledCompositeFrame := some 0 } :=
    ⟨distinct, fun _ _ _ _ _ known => nomatch known⟩
  have ends : Ends (DisplayBuffer.construct kernel) (blank outputs poweredOn)
      (fun _ after => Rewired { blank outputs poweredOn with
          locked := 1
          scheduledCompositeFrame := some 0 } after ∧
        ∀ id ∈ outputs, IsSet kernel (.composite 0) id ⟨poweredOn id, none, none⟩ (after.kms id))
      (fun _ _ => True) := by
    unfold DisplayBuffer.construct
    refine ends_change_bind ?_
    exact (ends_setCrtc wired).mono (fun _ _ holds => holds) fun _ _ _ => trivial
  have sound : Ends (DisplayBuffer.construct kernel) (blank outputs poweredOn)
      (fun _ after => after.Sound) _ := Sound.construct distinct poweredOn kernel
  unfold Ends at ends sound
  rw [constructed] at ends sound
  obtain ⟨rewired, isSet⟩ := ends
  have same := rewired.same
  have told : ∀ id ∈ first.outputs, (first.kms id).scansOut = some (.composite 0) := by
    intro id member
    have inOutputs : id ∈ outputs := by
      rw [same] at member
      exact member
    exact (isSet id inOutputs).1 (crtcs id member)
  have isLatest : first.latest = some (.composite 0) := by
    rw [same]
    rfl
  refine ⟨sound, ?_, ?_⟩
  · rw [same]
    exact ⟨.refl _, .inl rfl, .inl rfl, rfl⟩
  · rw [isLatest]
    exact ⟨crtcs, told⟩

end Steady

/-- A kernel that sets all CRTCs, and takes no flip of the second connector. -/
def flipsFirst : Kernel := fun id => ⟨.disconnected, true, id = 1⟩

end DisplayBuffer

end Mir.Graphics.Scanout

/-
This file models what a display buffer of the mesa platform does with its frames: it locks
composited frames from its surface or takes over a client's buffer for bypass, tells all its outputs
to scan a frame out, by page flips or by setting their CRTCs, and lets go of the frame before.

Every call to the kernel may fail, for each output on its own.
-/

import Mathlib.Data.List.Basic
import Mathlib.Logic.Function.Basic
import Mir.Graphics.PageFlipper
import Mir.Library.Throwing
import Mir.Library.Transition

namespace Mir.Graphics.Scanout

open PageFlip Throwing

/-! ### Outputs and frames -/

/-- The front buffers are known by the order in which they were locked. -/
abbrev FrontBuffer := Nat

abbrev ClientBuffer := Nat

inductive Frame
  | composite (front : FrontBuffer)
  | bypass (buffer : ClientBuffer)
  deriving DecidableEq, Repr

/-- `scansOut` is what the output was last told to scan out. -/
structure KMSOutput where
  poweredOn : Bool
  currentCrtc : Option CrtcID
  scansOut : Option Frame
  deriving DecidableEq, Repr

/-- What the kernel has for a connector that has no CRTC. -/
inductive FoundCrtc
  | disconnected
  | missing
  | unused (crtc : CrtcID)
  deriving DecidableEq, Repr

/-- How the kernel answers the calls for an output. -/
structure Answer where
  found : FoundCrtc
  sets : Bool
  flips : Bool
  deriving DecidableEq, Repr

abbrev Kernel := ConnectorID → Answer

/-- What can be thrown: no CRTC was found, an output without one is waited for, which is a fatal
error, or a flip is scheduled for a CRTC that has one pending. -/
inductive Thrown
  | failedToFindCrtc
  | noCrtcToWaitOn
  | alreadyScheduled
  deriving DecidableEq, Repr

/-- The display buffer with its outputs and the page flipper. `locked` is the number of front
buffers locked. The last three fields are the history: the front buffers released, the frames let
go while an output was last told to scan them out, and what was thrown. -/
structure DisplayBuffer where
  outputs : List ConnectorID
  kms : ConnectorID → KMSOutput
  pendingPageFlips : CrtcID → Option ConnectorID
  visibleCompositeFrame : Option FrontBuffer
  scheduledCompositeFrame : Option FrontBuffer
  visibleBypassFrame : Option ClientBuffer
  scheduledBypassFrame : Option ClientBuffer
  bypassBuf : Option ClientBuffer
  needsSetCrtc : Bool
  pageFlipsPending : Bool
  locked : Nat
  released : List FrontBuffer
  lost : List Frame
  thrown : List Thrown

/-! ### The outputs -/

/-- A computation on a display buffer. -/
abbrev Call := Throwing DisplayBuffer Thrown

namespace DisplayBuffer

def tells (buffer : DisplayBuffer) (id : ConnectorID) (output : KMSOutput) : DisplayBuffer :=
  { buffer with kms := Function.update buffer.kms id output }

/-- `ensure_crtc`, with the CRTC. A CRTC that another output has is not found. -/
def ensureCrtc (kernel : Kernel) (id : ConnectorID) : Call (Option CrtcID) := fun buffer =>
  match (buffer.kms id).currentCrtc with
  | some crtc => (.ok (some crtc), buffer)
  | none =>
    match (kernel id).found with
    | .disconnected => (.ok none, buffer)
    | .missing => (.error .failedToFindCrtc, buffer)
    | .unused crtc =>
      if buffer.outputs.any fun other => (buffer.kms other).currentCrtc = some crtc then
        (.error .failedToFindCrtc, buffer)
      else
        (.ok (some crtc), buffer)

/-- An output whose CRTC cannot be set loses it. -/
def drmModeSetCrtc (kernel : Kernel) (frame : Frame) (id : ConnectorID) (crtc : CrtcID)
    (buffer : DisplayBuffer) : DisplayBuffer :=
  if (kernel id).sets = true then
    buffer.tells id { buffer.kms id with currentCrtc := some crtc, scansOut := some frame }
  else
    buffer.tells id { buffer.kms id with currentCrtc := none }

/-- An output without a CRTC is left as it is. -/
def setCrtcOf (kernel : Kernel) (frame : Frame) (id : ConnectorID) : Call Unit := do
  let ensured ← ensureCrtc kernel id
  match ensured with
  | none => pure ()
  | some crtc => change (drmModeSetCrtc kernel frame id crtc)

/-- A flip is not scheduled for an output that is off. -/
def schedulePageFlipOf (kernel : Kernel) (frame : Frame) (id : ConnectorID) : Call Bool :=
  fun buffer =>
    if (buffer.kms id).poweredOn = false then
      (.ok true, buffer)
    else
      match (buffer.kms id).currentCrtc with
      | none => (.ok false, buffer)
      | some crtc =>
        if (buffer.pendingPageFlips crtc).isSome then
          (.error .alreadyScheduled, buffer)
        else if (kernel id).flips = true then
          (.ok true,
            { buffer.tells id { buffer.kms id with scansOut := some frame } with
              pendingPageFlips := Function.update buffer.pendingPageFlips crtc (some id) })
        else
          (.ok false, buffer)

/-- The flip of the output's CRTC is done when the page flipper returns. -/
def waitForPageFlipOf (id : ConnectorID) : Call Unit := fun buffer =>
  if (buffer.kms id).poweredOn = false then
    (.ok (), buffer)
  else
    match (buffer.kms id).currentCrtc with
    | none => (.error .noCrtcToWaitOn, buffer)
    | some crtc =>
      (.ok (), { buffer with
        pendingPageFlips := Function.update buffer.pendingPageFlips crtc none })

/-! ### The display buffer -/

def setCrtc (kernel : Kernel) (frame : Frame) : Call Unit := do
  let buffer ← readState
  forEach buffer.outputs (setCrtcOf kernel frame)

/-- Whether a flip is pending afterwards. -/
def schedulePageFlip (kernel : Kernel) (frame : Frame) : Call Bool := do
  let buffer ← readState
  forEach buffer.outputs fun id => do
    let scheduled ← schedulePageFlipOf kernel frame id
    change fun buffer => { buffer with pageFlipsPending := buffer.pageFlipsPending || scheduled }
  let buffer ← readState
  pure buffer.pageFlipsPending

/-- The frames that are let go when the scheduled ones get visible. -/
def replaced (buffer : DisplayBuffer) : List Frame :=
  buffer.visibleCompositeFrame.toList.map Frame.composite ++
    (buffer.visibleBypassFrame.toList.filter fun frame =>
      decide (buffer.scheduledBypassFrame ≠ some frame ∧ buffer.bypassBuf ≠ some frame)).map
        Frame.bypass

def isScannedOut (buffer : DisplayBuffer) (frame : Frame) : Bool :=
  buffer.outputs.any fun id => decide ((buffer.kms id).scansOut = some frame)

/-- The scheduled frames, if there are any, get visible, and the visible composited one is
released. -/
def moveFrames (buffer : DisplayBuffer) : DisplayBuffer :=
  if buffer.scheduledBypassFrame.isSome ∨ buffer.scheduledCompositeFrame.isSome then
    { buffer with
      visibleBypassFrame := buffer.scheduledBypassFrame
      scheduledBypassFrame := none
      visibleCompositeFrame := buffer.scheduledCompositeFrame
      scheduledCompositeFrame := none
      released := buffer.visibleCompositeFrame.toList ++ buffer.released
      lost := buffer.replaced.filter buffer.isScannedOut ++ buffer.lost }
  else
    buffer

def waitForPageFlip : Call Unit := do
  let buffer ← readState
  if buffer.pageFlipsPending = true then
    forEach buffer.outputs waitForPageFlipOf
    change fun buffer => { buffer with pageFlipsPending := false }
  change moveFrames

/-- The frame to be shown: the one for bypass, or else the front buffer, which is locked. -/
def nextFrame : Call Frame := fun buffer =>
  match buffer.bypassBuf with
  | some client => (.ok (.bypass client), buffer)
  | none => (.ok (.composite buffer.locked), { buffer with locked := buffer.locked + 1 })

/-- Page flips are tried first, unless the CRTCs are to be set. -/
def tryFlips (kernel : Kernel) (frame : Frame) : Call Unit := do
  let buffer ← readState
  if buffer.needsSetCrtc = false then
    let scheduled ← schedulePageFlip kernel frame
    change fun buffer => { buffer with needsSetCrtc := !scheduled }

def fallBack (kernel : Kernel) (frame : Frame) : Call Unit := do
  let buffer ← readState
  if buffer.needsSetCrtc = true then
    setCrtc kernel frame
    change fun buffer => { buffer with needsSetCrtc := false }

/-- A bypassed frame is waited for, and a composited one if there is one output. -/
def schedule (frame : Frame) : Call Unit :=
  match frame with
  | .bypass client => do
    change fun buffer => { buffer with scheduledBypassFrame := some client }
    waitForPageFlip
  | .composite front => do
    change fun buffer => { buffer with scheduledCompositeFrame := some front }
    let buffer ← readState
    if buffer.outputs.length = 1 then waitForPageFlip

def post (kernel : Kernel) : Call Unit := do
  waitForPageFlip
  let frame ← nextFrame
  tryFlips kernel frame
  fallBack kernel frame
  schedule frame
  change fun buffer => { buffer with bypassBuf := none }

/-- A display buffer before its constructor: outputs without CRTCs, and no frame. -/
def blank (outputs : List ConnectorID) (poweredOn : ConnectorID → Bool) : DisplayBuffer where
  outputs := outputs
  kms := fun id => ⟨poweredOn id, none, none⟩
  pendingPageFlips := fun _ => none
  visibleCompositeFrame := none
  scheduledCompositeFrame := none
  visibleBypassFrame := none
  scheduledBypassFrame := none
  bypassBuf := none
  needsSetCrtc := false
  pageFlipsPending := false
  locked := 0
  released := []
  lost := []
  thrown := []

/-- The constructor shows a first front buffer by setting the CRTCs. -/
def construct (kernel : Kernel) : Call Unit := do
  change fun buffer => { buffer with locked := 1, scheduledCompositeFrame := some 0 }
  setCrtc kernel (.composite 0)

/-- The operations. What the search for a renderable to bypass ended in is part of `overlay`. -/
inductive Op
  | overlay (found : Option ClientBuffer)
  | swapBuffers
  | scheduleSetCrtc
  | post (kernel : Kernel)

def step (buffer : DisplayBuffer) : Op → DisplayBuffer
  | .overlay found => { buffer with bypassBuf := found }
  | .swapBuffers => { buffer with bypassBuf := none }
  | .scheduleSetCrtc => { buffer with needsSetCrtc := true }
  | .post kernel =>
    match (post kernel).run buffer with
    | (.ok _, after) => after
    | (.error error, after) => { after with thrown := error :: after.thrown }

/-- What holds however a frame ends holds after the step. -/
theorem step_post {property : DisplayBuffer → Prop} {kernel : Kernel} {buffer : DisplayBuffer}
    (ends : Ends (post kernel) buffer (fun _ after => property after)
      (fun error after => property { after with thrown := error :: after.thrown })) :
    property (buffer.step (.post kernel)) := by
  unfold Ends at ends
  unfold step
  dsimp only
  rcases result : (post kernel).run buffer with ⟨error | _, after⟩
  · rw [result] at ends
    exact ends
  · rw [result] at ends
    exact ends

/-! ### Moving the frames -/

section MoveFrames

variable (buffer : DisplayBuffer)

@[simp] theorem outputs_moveFrames : buffer.moveFrames.outputs = buffer.outputs := by
  unfold moveFrames
  split <;> rfl

@[simp] theorem kms_moveFrames : buffer.moveFrames.kms = buffer.kms := by
  unfold moveFrames
  split <;> rfl

@[simp] theorem needsSetCrtc_moveFrames :
    buffer.moveFrames.needsSetCrtc = buffer.needsSetCrtc := by
  unfold moveFrames
  split <;> rfl

@[simp] theorem pageFlipsPending_moveFrames :
    buffer.moveFrames.pageFlipsPending = buffer.pageFlipsPending := by
  unfold moveFrames
  split <;> rfl

end MoveFrames

/-! ### What the loops do -/

/-- The flip of an output goes through to the kernel, which takes it. -/
def takesFlip (kernel : Kernel) (buffer : DisplayBuffer) (id : ConnectorID) : Bool :=
  (buffer.kms id).poweredOn && (buffer.kms id).currentCrtc.isSome && (kernel id).flips

/-- What `schedule_page_flip` of an output returns. -/
def returnsTrue (kernel : Kernel) (buffer : DisplayBuffer) (id : ConnectorID) : Bool :=
  !(buffer.kms id).poweredOn || (buffer.kms id).currentCrtc.isSome && (kernel id).flips

/-- The outputs after some of them have taken a flip. -/
def flipped (kernel : Kernel) (frame : Frame) (buffer : DisplayBuffer) (ids : List ConnectorID) :
    ConnectorID → KMSOutput := fun id =>
  if id ∈ ids ∧ takesFlip kernel buffer id = true then
    { buffer.kms id with scansOut := some frame }
  else
    buffer.kms id

/-- Distinct outputs, no two of which have the same CRTC. -/
structure Wired (buffer : DisplayBuffer) : Prop where
  nodup : buffer.outputs.Nodup
  apart : ∀ id ∈ buffer.outputs, ∀ other ∈ buffer.outputs, ∀ crtc,
    (buffer.kms id).currentCrtc = some crtc → (buffer.kms other).currentCrtc = some crtc →
    id = other

/-- Each output that is on has a CRTC. -/
def Driven (buffer : DisplayBuffer) : Prop :=
  ∀ id ∈ buffer.outputs, (buffer.kms id).poweredOn = true →
    (buffer.kms id).currentCrtc ≠ none

/-- A pending flip is one of an output that is on, and is waited for. -/
structure Awaited (buffer : DisplayBuffer) : Prop where
  quiet : buffer.pageFlipsPending = false → ∀ crtc, buffer.pendingPageFlips crtc = none
  pending : ∀ crtc, buffer.pendingPageFlips crtc ≠ none → ∃ id ∈ buffer.outputs,
    (buffer.kms id).poweredOn = true ∧ (buffer.kms id).currentCrtc = some crtc

variable {kernel : Kernel} {frame : Frame} {buffer : DisplayBuffer}
  {thrown : Thrown → DisplayBuffer → Prop}

theorem kms_tells_self (id : ConnectorID) (output : KMSOutput) :
    (buffer.tells id output).kms id = output := Function.update_self _ _ _

theorem kms_tells_other {id other : ConnectorID} (output : KMSOutput) (unlike : other ≠ id) :
    (buffer.tells id output).kms other = buffer.kms other := Function.update_of_ne unlike _ _

theorem ends_schedulePageFlipOf (id : ConnectorID)
    (idle : ∀ crtc, (buffer.kms id).currentCrtc = some crtc →
      buffer.pendingPageFlips crtc = none) :
    Ends (schedulePageFlipOf kernel frame id) buffer
      (fun scheduled after => scheduled = returnsTrue kernel buffer id ∧
        ((takesFlip kernel buffer id = false ∧ after = buffer) ∨
          takesFlip kernel buffer id = true ∧ ∃ crtc, (buffer.kms id).currentCrtc = some crtc ∧
            after = { buffer.tells id { buffer.kms id with scansOut := some frame } with
              pendingPageFlips := Function.update buffer.pendingPageFlips crtc (some id) }))
      thrown := by
  unfold Ends Throwing.run schedulePageFlipOf returnsTrue takesFlip
  cases power : (buffer.kms id).poweredOn with
  | false => simp
  | true =>
    cases known : (buffer.kms id).currentCrtc with
    | none => simp
    | some crtc =>
      have notPending := idle crtc known
      cases flips : (kernel id).flips <;> simp [notPending]

theorem takesFlip_iff {id : ConnectorID} :
    takesFlip kernel buffer id = true ↔ (buffer.kms id).poweredOn = true ∧
      (buffer.kms id).currentCrtc.isSome = true ∧ (kernel id).flips = true := by
  unfold takesFlip
  rw [Bool.and_eq_true, Bool.and_eq_true, and_assoc]

theorem returnsTrue_of_takesFlip {id : ConnectorID} (takes : takesFlip kernel buffer id = true) :
    returnsTrue kernel buffer id = true := by
  obtain ⟨power, known, flips⟩ := takesFlip_iff.mp takes
  unfold returnsTrue
  rw [power, known, flips]
  rfl

/-- A flip changes neither the CRTC nor the power of an output. -/
@[simp] theorem currentCrtc_flipped (ids : List ConnectorID) (id : ConnectorID) :
    (flipped kernel frame buffer ids id).currentCrtc = (buffer.kms id).currentCrtc := by
  unfold flipped
  split <;> rfl

@[simp] theorem poweredOn_flipped (ids : List ConnectorID) (id : ConnectorID) :
    (flipped kernel frame buffer ids id).poweredOn = (buffer.kms id).poweredOn := by
  unfold flipped
  split <;> rfl

theorem flipped_other {ids : List ConnectorID} {id : ConnectorID} (absent : id ∉ ids) :
    flipped kernel frame buffer ids id = buffer.kms id :=
  if_neg fun both => absent both.1

/-- One more output has taken its flip. -/
theorem flipped_append_taken {ids : List ConnectorID} {id : ConnectorID}
    (takes : takesFlip kernel buffer id = true) :
    flipped kernel frame buffer (ids ++ [id]) =
      Function.update (flipped kernel frame buffer ids) id
        { buffer.kms id with scansOut := some frame } := by
  funext other
  by_cases same : other = id
  · subst same
    rw [Function.update_self]
    exact if_pos ⟨List.mem_append_right _ List.mem_cons_self, takes⟩
  · rw [Function.update_of_ne same]
    simp [flipped, same]

theorem flipped_append_refused {ids : List ConnectorID} {id : ConnectorID}
    (refuses : takesFlip kernel buffer id = false) :
    flipped kernel frame buffer (ids ++ [id]) = flipped kernel frame buffer ids := by
  funext other
  by_cases same : other = id
  · subst same
    simp [flipped, refuses]
  · simp [flipped, same]

/-- The loop that schedules the flips throws nothing, and tells the frame to each output that takes
its flip. -/
theorem ends_schedulePageFlip (wired : buffer.Wired) (awaited : buffer.Awaited)
    (notPending : buffer.pageFlipsPending = false) :
    Ends (schedulePageFlip kernel frame) buffer
      (fun scheduled after => scheduled = buffer.outputs.any (returnsTrue kernel buffer) ∧
        ∃ pending, (∀ crtc, pending crtc ≠ none → ∃ id ∈ buffer.outputs,
            takesFlip kernel buffer id = true ∧ (buffer.kms id).currentCrtc = some crtc) ∧
          after = { buffer with
            kms := flipped kernel frame buffer buffer.outputs
            pendingPageFlips := pending
            pageFlipsPending := scheduled })
      thrown := by
  -- the loop is through with the outputs in `done`, and the others are as they were
  let through (done : List ConnectorID) (now : DisplayBuffer) : Prop :=
    ∃ pending, (∀ crtc, pending crtc ≠ none → ∃ id ∈ done,
        takesFlip kernel buffer id = true ∧ (buffer.kms id).currentCrtc = some crtc) ∧
      now = { buffer with
        kms := flipped kernel frame buffer done
        pendingPageFlips := pending
        pageFlipsPending := done.any (returnsTrue kernel buffer) }
  unfold schedulePageFlip
  refine ends_readState_bind ?_
  refine (ends_forEach through ?_ ?_).bind ?_
  · refine ⟨buffer.pendingPageFlips, fun crtc pending => ?_, ?_⟩
    · exact absurd (awaited.quiet notPending crtc) pending
    · have none_flipped : flipped kernel frame buffer [] = buffer.kms := by
        funext id
        exact flipped_other List.not_mem_nil
      rw [none_flipped, List.any_nil, ← notPending]
  · rintro done id rest outputs now ⟨pending, pendings, rfl⟩
    have member : id ∈ buffer.outputs := by
      rw [outputs]
      exact List.mem_append_right _ List.mem_cons_self
    have absent : id ∉ done := by
      have nodup := wired.nodup
      rw [outputs] at nodup
      exact fun inDone =>
        (List.nodup_append'.mp nodup).2.2 inDone List.mem_cons_self
    have unchanged : flipped kernel frame buffer done id = buffer.kms id := flipped_other absent
    refine (ends_schedulePageFlipOf id fun crtc known => ?_).bind ?_
    · dsimp only at known ⊢
      rw [unchanged] at known
      by_contra isPending
      obtain ⟨other, inDone, -, otherKnown⟩ := pendings crtc isPending
      have inOutputs : other ∈ buffer.outputs := by
        rw [outputs]
        exact List.mem_append_left _ inDone
      exact absent (wired.apart id member other inOutputs crtc known otherKnown ▸ inDone)
    · rintro scheduled after ⟨isScheduled, given⟩
      have returns : scheduled = returnsTrue kernel buffer id := by
        rw [isScheduled]
        simp only [returnsTrue, unchanged]
      have takes : takesFlip kernel { buffer with
          kms := flipped kernel frame buffer done
          pendingPageFlips := pending
          pageFlipsPending := done.any (returnsTrue kernel buffer) } id =
            takesFlip kernel buffer id := by
        simp only [takesFlip, unchanged]
      have any : (done.any (returnsTrue kernel buffer) || scheduled) =
          (done ++ [id]).any (returnsTrue kernel buffer) := by
        simp [returns]
      rw [takes] at given
      rcases given with ⟨refuses, rfl⟩ | ⟨takesIt, crtc, known, rfl⟩
      · refine ends_change ⟨pending, fun crtc isPending => ?_, ?_⟩
        · obtain ⟨other, inDone, facts⟩ := pendings crtc isPending
          exact ⟨other, List.mem_append_left _ inDone, facts⟩
        · rw [flipped_append_refused refuses, ← any]
      · dsimp only at known
        rw [unchanged] at known
        refine ends_change ⟨Function.update pending crtc (some id), fun other isPending => ?_, ?_⟩
        · by_cases same : other = crtc
          · subst same
            exact ⟨id, List.mem_append_right _ List.mem_cons_self, takesIt, known⟩
          · rw [Function.update_of_ne same] at isPending
            obtain ⟨output, inDone, facts⟩ := pendings other isPending
            exact ⟨output, List.mem_append_left _ inDone, facts⟩
        · rw [flipped_append_taken takesIt, ← any]
          simp only [tells, unchanged]
  · rintro _ _ ⟨pending, pendings, rfl⟩
    exact ends_readState_bind (ends_pure _ ⟨rfl, pending, pendings, rfl⟩)

/-- Waiting for a page flip of which all outputs know throws nothing, and all flips are done. -/
theorem ends_waitForPageFlip (awaited : buffer.Awaited)
    (driven : buffer.pageFlipsPending = true → buffer.Driven) :
    Ends waitForPageFlip buffer
      (fun _ after => after = moveFrames { buffer with
        pendingPageFlips := fun _ => none
        pageFlipsPending := false })
      thrown := by
  -- what is pending is a flip of an output that the loop is still to come to
  let through (done : List ConnectorID) (now : DisplayBuffer) : Prop :=
    ∃ pending, (∀ crtc, pending crtc ≠ none → ∃ id ∈ buffer.outputs, id ∉ done ∧
        (buffer.kms id).poweredOn = true ∧ (buffer.kms id).currentCrtc = some crtc) ∧
      now = { buffer with pendingPageFlips := pending }
  unfold waitForPageFlip
  refine ends_readState_bind ?_
  cases flips : buffer.pageFlipsPending with
  | false =>
    have quiet : buffer.pendingPageFlips = fun _ => none := funext (awaited.quiet flips)
    refine ends_change ?_
    rw [← quiet, ← flips]
  | true =>
    rw [if_pos rfl]
    refine (ends_forEach through ?_ ?_).bind ?_
    · refine ⟨buffer.pendingPageFlips, fun crtc isPending => ?_, rfl⟩
      obtain ⟨id, member, facts⟩ := awaited.pending crtc isPending
      exact ⟨id, member, List.not_mem_nil, facts⟩
    · rintro done id rest outputs now ⟨pending, pendings, rfl⟩
      have member : id ∈ buffer.outputs := by
        rw [outputs]
        exact List.mem_append_right _ List.mem_cons_self
      unfold Ends Throwing.run waitForPageFlipOf
      cases power : (buffer.kms id).poweredOn with
      | false =>
        refine ⟨pending, fun crtc isPending => ?_, rfl⟩
        obtain ⟨other, inOutputs, notDone, isOn, known⟩ := pendings crtc isPending
        refine ⟨other, inOutputs, ?_, isOn, known⟩
        rw [List.mem_append, List.mem_singleton, not_or]
        refine ⟨notDone, ?_⟩
        rintro rfl
        rw [power] at isOn
        cases isOn
      | true =>
        obtain ⟨crtc, known⟩ := Option.ne_none_iff_exists'.mp (driven flips id member power)
        simp only [known, Bool.true_eq_false, if_false]
        refine ⟨Function.update pending crtc none, fun other isPending => ?_, rfl⟩
        have unlike : other ≠ crtc := by
          rintro rfl
          exact isPending (Function.update_self _ _ _)
        rw [Function.update_of_ne unlike] at isPending
        obtain ⟨output, inOutputs, notDone, isOn, otherKnown⟩ := pendings other isPending
        refine ⟨output, inOutputs, ?_, isOn, otherKnown⟩
        rw [List.mem_append, List.mem_singleton, not_or]
        refine ⟨notDone, ?_⟩
        rintro rfl
        exact unlike (Option.some.inj (otherKnown.symm.trans known))
    · rintro _ _ ⟨pending, pendings, rfl⟩
      have quiet : pending = fun _ => none := by
        funext crtc
        by_contra isPending
        obtain ⟨id, member, notDone, -⟩ := pendings crtc isPending
        exact notDone member
      refine ends_change_bind (ends_change ?_)
      rw [quiet]

/-- Only the outputs differ, and they are as powered and as well wired as before. -/
structure Rewired (before after : DisplayBuffer) : Prop where
  same : after = { before with kms := after.kms }
  power : ∀ id, (after.kms id).poweredOn = (before.kms id).poweredOn
  wired : after.Wired

theorem rewired_tells {now : DisplayBuffer} (rewired : Rewired buffer now) {id : ConnectorID}
    {output : KMSOutput} (power : output.poweredOn = (now.kms id).poweredOn)
    (apart : ∀ other ∈ now.outputs, other ≠ id → ∀ crtc,
      (now.kms other).currentCrtc = some crtc → output.currentCrtc ≠ some crtc) :
    Rewired buffer (now.tells id output) where
  same := by
    rw [rewired.same]
    rfl
  power := fun other => by
    by_cases same : other = id
    · subst same
      rw [kms_tells_self, power, rewired.power]
    · rw [kms_tells_other output same, rewired.power]
  wired := by
    refine ⟨rewired.wired.nodup, fun first firstMember second secondMember crtc => ?_⟩
    by_cases firstSame : first = id
    · subst firstSame
      rw [kms_tells_self]
      by_cases secondSame : second = first
      · exact fun _ _ => secondSame.symm
      · rw [kms_tells_other output secondSame]
        exact fun known otherKnown =>
          absurd known (apart second secondMember secondSame crtc otherKnown)
    · rw [kms_tells_other output firstSame]
      by_cases secondSame : second = id
      · subst secondSame
        rw [kms_tells_self]
        exact fun known otherKnown =>
          absurd otherKnown (apart first firstMember firstSame crtc known)
      · rw [kms_tells_other output secondSame]
        exact rewired.wired.apart first firstMember second secondMember crtc

/-- The CRTC found for an output is not one of another output, and an output that has one keeps
it. -/
theorem ends_ensureCrtc (wired : buffer.Wired) {id : ConnectorID} (member : id ∈ buffer.outputs) :
    Ends (ensureCrtc kernel id) buffer
      (fun ensured after => after = buffer ∧
        ((buffer.kms id).currentCrtc ≠ none → ensured ≠ none) ∧ ∀ crtc ∈ ensured,
        ∀ other ∈ buffer.outputs, other ≠ id → (buffer.kms other).currentCrtc ≠ some crtc)
      (fun error after => error = .failedToFindCrtc ∧ after = buffer ∧
        (buffer.kms id).currentCrtc = none) := by
  unfold Ends Throwing.run ensureCrtc
  cases known : (buffer.kms id).currentCrtc with
  | some crtc =>
    refine ⟨rfl, fun _ => nofun, ?_⟩
    rintro _ ⟨⟩ other inOutputs unlike otherKnown
    exact unlike (wired.apart other inOutputs id member crtc otherKnown known)
  | none =>
    cases found : (kernel id).found with
    | disconnected => exact ⟨rfl, fun isKnown => absurd rfl isKnown, nofun⟩
    | missing =>
      show Thrown.failedToFindCrtc = .failedToFindCrtc ∧ buffer = buffer ∧ _
      exact ⟨rfl, rfl, rfl⟩
    | unused crtc =>
      by_cases isUsed :
          buffer.outputs.any fun other => decide ((buffer.kms other).currentCrtc = some crtc)
      · dsimp only
        rw [if_pos isUsed]
        exact ⟨rfl, rfl, rfl⟩
      · dsimp only
        rw [if_neg isUsed]
        refine ⟨rfl, fun isKnown => absurd rfl isKnown, ?_⟩
        rintro _ ⟨⟩ other inOutputs - otherKnown
        exact isUsed (List.any_eq_true.mpr ⟨other, inOutputs, decide_eq_true otherKnown⟩)

/-- What becomes of an output whose CRTC is to be set: if it has one afterwards, it was told the
frame, and it loses the one that it has only if that cannot be set. -/
def IsSet (kernel : Kernel) (frame : Frame) (id : ConnectorID) (before after : KMSOutput) : Prop :=
  (after.currentCrtc ≠ none → after.scansOut = some frame) ∧
    (before.currentCrtc ≠ none → (kernel id).sets = true → after.currentCrtc ≠ none)

/-- Setting the CRTC of one output, among outputs that are well wired. -/
theorem ends_setCrtcOf {now : DisplayBuffer} (rewired : Rewired buffer now) {id : ConnectorID}
    (member : id ∈ now.outputs) :
    Ends (setCrtcOf kernel frame id) now
      (fun _ after => Rewired buffer after ∧ IsSet kernel frame id (now.kms id) (after.kms id) ∧
        ∀ other, other ≠ id → after.kms other = now.kms other)
      (fun error after => error = .failedToFindCrtc ∧ Rewired buffer after ∧
        (now.kms id).currentCrtc = none) := by
  unfold setCrtcOf
  have ensures := @ends_ensureCrtc kernel now rewired.wired id member
  refine (ensures.mono (fun _ _ holds => holds) ?_).bind ?_
  · rintro error _ ⟨isError, rfl, unknown⟩
    exact ⟨isError, rewired, unknown⟩
  · rintro ensured after ⟨same, kept, others⟩
    obtain rfl : now = after := same.symm
    cases ensured with
    | none =>
      have unknown : (now.kms id).currentCrtc = none := by
        by_contra known
        exact kept known rfl
      exact ends_pure () ⟨rewired, ⟨fun known => absurd unknown known,
        fun known => absurd unknown known⟩, fun _ _ => rfl⟩
    | some crtc =>
      refine ends_change ?_
      unfold drmModeSetCrtc
      split
      · refine ⟨rewired_tells rewired rfl ?_, ?_, fun other => kms_tells_other _⟩
        · intro other inOutputs unlike otherCrtc known same
          exact others crtc rfl other inOutputs unlike (known.trans same.symm)
        · rw [kms_tells_self]
          exact ⟨fun _ => rfl, fun _ _ => nofun⟩
      · next fails =>
        refine ⟨rewired_tells rewired rfl fun _ _ _ _ _ => nofun, ?_,
          fun other => kms_tells_other _⟩
        rw [kms_tells_self]
        exact ⟨fun known => absurd rfl known, fun _ sets => absurd sets fails⟩

/-- Setting the CRTCs throws at most that none was found, and leaves the outputs well wired. -/
theorem ends_setCrtc (wired : buffer.Wired) :
    Ends (setCrtc kernel frame) buffer
      (fun _ after => Rewired buffer after ∧ ∀ id ∈ buffer.outputs,
        IsSet kernel frame id (buffer.kms id) (after.kms id))
      (fun error after => error = .failedToFindCrtc ∧ Rewired buffer after ∧
        ∃ id ∈ buffer.outputs, (buffer.kms id).currentCrtc = none) := by
  -- the loop is through with the outputs in `done`, and the others are as they were
  let through (done : List ConnectorID) (now : DisplayBuffer) : Prop :=
    Rewired buffer now ∧ (∀ id ∈ done, IsSet kernel frame id (buffer.kms id) (now.kms id)) ∧
      ∀ id, id ∉ done → now.kms id = buffer.kms id
  unfold setCrtc
  refine ends_readState_bind ?_
  refine (ends_forEach through ⟨⟨rfl, fun _ => rfl, wired⟩, nofun, fun _ _ => rfl⟩ ?_).mono
    (fun _ _ holds => ⟨holds.1, holds.2.1⟩) fun _ _ => id
  rintro done id rest outputs now ⟨rewired, isSet, untouched⟩
  have inBuffer : id ∈ buffer.outputs := by
    rw [outputs]
    exact List.mem_append_right _ List.mem_cons_self
  have member : id ∈ now.outputs := by
    rw [rewired.same]
    exact inBuffer
  have absent : id ∉ done := by
    have nodup := wired.nodup
    rw [outputs] at nodup
    exact fun inDone => (List.nodup_append'.mp nodup).2.2 inDone List.mem_cons_self
  refine (ends_setCrtcOf rewired member).mono ?_ ?_
  · rintro _ after ⟨afterRewired, afterSet, others⟩
    rw [untouched id absent] at afterSet
    refine ⟨afterRewired, fun other inDone => ?_, fun other notDone => ?_⟩
    · rcases List.mem_append.mp inDone with earlier | isId
      · rw [others other (fun same => absent (same ▸ earlier))]
        exact isSet other earlier
      · rw [List.mem_singleton.mp isId]
        exact afterSet
    · rw [List.mem_append, List.mem_singleton, not_or] at notDone
      rw [others other notDone.2, untouched other notDone.1]
  · rintro error after ⟨isError, afterRewired, unknown⟩
    rw [untouched id absent] at unknown
    exact ⟨isError, afterRewired, id, inBuffer, unknown⟩

end DisplayBuffer

end Mir.Graphics.Scanout

/-
This file pairs the presses and releases of pointer buttons. Beside the dispatcher it
keeps, for each device, the buttons its last event reported as held and for each button
the surface that received the last press of it.

A release should go to the surface that received the press. The dispatcher does this as
long as a gesture has one owner from the first press to the last release, and there are
two ways to break that: a gesture starts while a button is held that was pressed over
nothing, or over a surface that is gone, and then the release of that button is taken for
a part of it; and a gesture ends while only buttons are held that it does not look at.
-/

import Mathlib.Data.Fintype.Basic
import Mir.Input.Crossings

namespace Mir.Input

open Transition

instance : Fintype PointerButton where
  elems := {.primary, .secondary, .tertiary, .back, .forward, .side, .extra, .task}
  complete := by
    intro button
    cases button <;> decide

/-! ### Who receives an event -/

/-- The surfaces a pointer event was passed to. -/
def recipients (deliveries : List Delivery) : List SurfaceID :=
  deliveries.filterMap fun delivery =>
    match delivery with
    | .pointer id _ => some id
    | _ => none

/-- The surfaces that an event is passed to in a state of the dispatcher. -/
def World.recipients (world : World) (event : PointerEvent) : List SurfaceID :=
  Input.recipients
    (world.scene.dispatchPointer (world.pointerState event.deviceID) event).deliveries

@[simp] theorem recipients_append (first second : List Delivery) :
    recipients (first ++ second) = recipients first ++ recipients second :=
  List.filterMap_append

@[simp] theorem recipients_deliver (scene : Scene) (id : SurfaceID) (event : PointerEvent)
    (rest : List Delivery) :
    recipients (scene.deliver id event :: rest) = id :: recipients rest :=
  rfl

/-- Enter and leave events are not passed on. -/
@[simp] theorem recipients_retarget (scene : Scene) (current target : Option SurfaceID)
    (event : PointerEvent) : recipients (scene.retarget current target event) = [] := by
  unfold Scene.retarget Scene.cross
  split_ifs
  · cases current <;> cases target <;> rfl
  · rfl

theorem recipients_passed {scene : Scene} {event : PointerEvent} {id : SurfaceID}
    {passed : List Delivery} (passes : ∀ delivery ∈ passed, scene.Passes event id delivery) :
    recipients passed = List.replicate passed.length id := by
  induction passed with
  | nil => rfl
  | cons delivery rest inductionHypothesis =>
    have tail := inductionHypothesis fun other member =>
      passes other (List.mem_cons_of_mem _ member)
    rw [List.length_cons, List.replicate_succ, ← tail]
    rcases passes delivery List.mem_cons_self with rfl | rfl <;> rfl

@[simp] theorem recipients_nil : recipients [] = [] :=
  rfl

section PointerStep

variable {scene : Scene} {state next : PointerInputState} {event : PointerEvent}
  {deliveries : List Delivery}

/-- The owner of the gesture is passed everything. -/
theorem PointerStep.recipients_of_owner (step : PointerStep scene state event next deliveries)
    {owner : SurfaceID} (owned : state.gestureOwner = some owner) :
    recipients deliveries = [owner] := by
  cases step <;> simp_all

/-- Without an owner a press goes to the target. -/
theorem PointerStep.recipients_of_press (step : PointerStep scene state event next deliveries)
    (free : state.gestureOwner = none) (down : event.action = .buttonDown) :
    recipients deliveries = (scene.findTargetSurface event.position).toList := by
  cases step with
  | held owner owned goesOn => simp_all
  | ended owner owned ends => simp_all
  | dropped _ up => simp_all
  | outside _ _ target => simp [target]
  | inside id passed _ _ target passes once atMost =>
    rw [recipients_append, recipients_retarget, recipients_passed passes,
      once (by simp [down]), target]
    rfl

/-- Without an owner a release goes to nobody. -/
theorem PointerStep.recipients_of_release (step : PointerStep scene state event next deliveries)
    (free : state.gestureOwner = none) (up : event.action = .buttonUp) :
    recipients deliveries = [] := by
  cases step <;> simp_all

/-- Who owns the gesture after an event. -/
theorem PointerStep.gestureOwner (step : PointerStep scene state event next deliveries) :
    next.gestureOwner =
      match state.gestureOwner with
      | some owner => if isGestureTerminator event then none else some owner
      | none =>
        if event.action = .buttonDown then scene.findTargetSurface event.position else none := by
  cases step <;> simp_all

end PointerStep

/-! ### Presses and releases -/

/-- The dispatcher, the buttons the last event of each device reported as held, and for each button
the surface that received the last press of it. -/
structure Pressing where
  world : World
  held : DeviceID → PointerButton → Bool
  pressedOn : DeviceID → PointerButton → Option SurfaceID

namespace Pressing

def initial : Pressing where
  world := World.initial
  held := fun _ _ => false
  pressedOn := fun _ _ => none

/-- The surfaces that an event is passed to. -/
def recipients (state : Pressing) (event : PointerEvent) : List SurfaceID :=
  Input.recipients (state.world.scene.dispatchPointer
    (state.world.pointerState event.deviceID) event).deliveries

def gestureOwner (state : Pressing) (device : DeviceID) : Option SurfaceID :=
  (state.world.pointerState device).gestureOwner

/-- The button was not held before and a press reports it as held. -/
def Presses (state : Pressing) (event : PointerEvent) (button : PointerButton) : Prop :=
  event.action = .buttonDown ∧ state.held event.deviceID button = false ∧
    event.buttonState button = true

instance (state : Pressing) (event : PointerEvent) (button : PointerButton) :
    Decidable (state.Presses event button) :=
  inferInstanceAs (Decidable (_ ∧ _))

def pointer (state : Pressing) (event : PointerEvent) : Pressing where
  world := state.world.dispatchPointer event
  held := Function.update state.held event.deviceID event.buttonState
  pressedOn := Function.update state.pressedOn event.deviceID fun button =>
    if state.Presses event button then (state.recipients event).head?
    else state.pressedOn event.deviceID button

def step (state : Pressing) : Op → Pressing
  | .pointer event => state.pointer event
  | op => { state with world := state.world.step op }

end Pressing

/-- The buttons reported with an action are those that were held, and the one that is pressed or
less the one that is released. -/
def ConsistentAs (held reported : PointerButton → Bool) : PointerAction → Prop
  | .buttonDown =>
    ∃ pressed, held pressed = false ∧ ∀ button, reported button = (held button || button = pressed)
  | .buttonUp =>
    ∃ released, held released = true ∧
      ∀ button, reported button = (held button && button ≠ released)
  | .enter | .leave | .motion => ∀ button, reported button = held button

instance (held reported : PointerButton → Bool) :
    (action : PointerAction) → Decidable (ConsistentAs held reported action)
  | .buttonDown | .buttonUp => inferInstanceAs (Decidable (∃ _, _))
  | .enter | .leave | .motion => inferInstanceAs (Decidable (∀ _, _))

def Consistent (held : PointerButton → Bool) (event : PointerEvent) : Prop :=
  ConsistentAs held event.buttonState event.action

instance (held : PointerButton → Bool) (event : PointerEvent) : Decidable (Consistent held event) :=
  inferInstanceAs (Decidable (ConsistentAs _ _ _))

/-- The events of a device are consistent; no device is reset and the dispatcher is not stopped. -/
def ReportsConsistently (device : DeviceID) (state : Pressing) (op : Op) : Prop :=
  Undisturbed state.world op ∧
    ∀ event ∈ op.pointerEvent, event.deviceID = device → Consistent (state.held device) event

/-- A gesture starts only when no button is held, and does not end while one is held. -/
def KeepsOneOwner (device : DeviceID) (state : Pressing) (op : Op) : Prop :=
  ∀ event ∈ op.pointerEvent, event.deviceID = device →
    (event.action = .buttonDown → state.gestureOwner device = none →
      state.world.scene.findTargetSurface event.position ≠ none →
      ∀ button, state.held device button = false) ∧
    (event.action = .buttonUp → state.gestureOwner device ≠ none →
      anyPressed event = true ∨ ∀ button, event.buttonState button = false)

instance (device : DeviceID) (state : Pressing) (op : Op) :
    Decidable (ReportsConsistently device state op) :=
  inferInstanceAs (Decidable (_ ∧ _))

instance (device : DeviceID) (state : Pressing) (op : Op) :
    Decidable (KeepsOneOwner device state op) :=
  inferInstanceAs (Decidable (∀ event ∈ op.pointerEvent, _))

/-- A release goes to the surface that received the press of the same button if that is still in
the scene, and to no surface that did not receive it. -/
def Paired (state : Pressing) (event : PointerEvent) : Prop :=
  event.action = .buttonUp → ∀ button, state.held event.deviceID button = true →
    event.buttonState button = false →
    (∀ surface ∈ state.world.scene.surfaces,
      state.pressedOn event.deviceID button = some surface → surface ∈ state.recipients event) ∧
    ∀ surface ∈ state.recipients event, state.pressedOn event.deviceID button = some surface

/-! ### One owner -/

/-- While buttons of a device are held, the surface that received their presses owns the gesture,
unless it is gone. -/
structure OneOwner (device : DeviceID) (state : Pressing) : Prop where
  follows : FollowsPointers state.world
  old : ∀ button surface, state.pressedOn device button = some surface →
    surface < state.world.made
  owned : ∀ button surface, state.held device button = true →
    state.pressedOn device button = some surface → surface ∈ state.world.known →
    state.gestureOwner device = some surface
  shared : ∀ owner, state.gestureOwner device = some owner →
    ∀ button, state.held device button = true → state.pressedOn device button = some owner

/-- The owner of a gesture is a surface the dispatcher knows. -/
theorem FollowsPointers.owner_known {world : World} (follows : FollowsPointers world)
    {device : DeviceID} {owner : SurfaceID}
    (owned : (world.pointerState device).gestureOwner = some owner) : owner ∈ world.known :=
  follows.located.isKnown device owner (follows.owner device owner owned)

namespace OneOwner

variable {device : DeviceID} {state : Pressing}

theorem paired (one : OneOwner device state) {event : PointerEvent}
    (same : event.deviceID = device) : Paired state event := by
  subst same
  intro up button held released
  have step := state.world.scene.dispatchPointer_step
    (state.world.pointerState event.deviceID) event
  cases owned : (state.world.pointerState event.deviceID).gestureOwner with
  | none =>
    have nobody : state.recipients event = [] := step.recipients_of_release owned up
    rw [nobody]
    refine ⟨fun surface shown pressed => ?_, fun surface member => absurd member List.not_mem_nil⟩
    have owner := one.owned button surface held pressed (List.mem_append_left _ shown)
    exact absurd (owned.symm.trans owner) (Option.some_ne_none surface).symm
  | some owner =>
    have only : state.recipients event = [owner] := step.recipients_of_owner owned
    have pressed := one.shared owner owned button held
    rw [only]
    refine ⟨fun surface shown pressedOn => ?_, fun surface member => ?_⟩
    · exact List.mem_singleton.mpr (Option.some.inj (pressedOn.symm.trans pressed))
    · rw [List.mem_singleton.mp member]
      exact pressed

/-- An operation that is no event of the device leaves the gesture alone or takes its owner away. -/
theorem elsewhere (one : OneOwner device state) (op : Op) (permitted : Undisturbed state.world op)
    (other : ∀ event ∈ op.pointerEvent, event.deviceID ≠ device) {next : Pressing}
    (world : next.world = state.world.step op) (held : next.held device = state.held device)
    (pressedOn : next.pressedOn device = state.pressedOn device) : OneOwner device next := by
  have placed := one.follows.placed
  have owner (id : SurfaceID) : next.gestureOwner device = some id ↔
      state.gestureOwner device = some id ∧ id ∈ (state.world.step op).known := by
    unfold Pressing.gestureOwner
    rw [world, state.world.pointerState_step op permitted device other]
    exact placed.forgets_eq_some op (fun other owned => one.follows.owner_known owned) id
  refine ⟨world ▸ one.follows.step op permitted, fun button surface pressed => ?_,
    fun button surface isHeld pressed member => ?_, fun id owned button isHeld => ?_⟩
  · rw [pressedOn] at pressed
    rw [world]
    exact Nat.lt_of_lt_of_le (one.old button surface pressed) (placed.made_step op)
  · rw [held] at isHeld
    rw [pressedOn] at pressed
    rw [world] at member
    have older := one.old button surface pressed
    have before := (placed.known_of_step op member).resolve_right (Nat.not_le.mpr older)
    exact (owner surface).mpr ⟨one.owned button surface isHeld pressed before, member⟩
  · rw [held] at isHeld
    rw [pressedOn]
    exact one.shared id ((owner id).mp owned).1 button isHeld

section Event

variable {event : PointerEvent}

theorem pointer_gestureOwner (state : Pressing) (event : PointerEvent) :
    (state.pointer event).gestureOwner event.deviceID =
      match state.gestureOwner event.deviceID with
      | some owner => if isGestureTerminator event then none else some owner
      | none =>
        if event.action = .buttonDown then
          state.world.scene.findTargetSurface event.position
        else none := by
  unfold Pressing.gestureOwner Pressing.pointer
  rw [World.dispatchPointer_pointerState, Function.update_self]
  exact (state.world.scene.dispatchPointer_step _ event).gestureOwner

theorem pointer_held (state : Pressing) (event : PointerEvent) :
    (state.pointer event).held event.deviceID = event.buttonState :=
  Function.update_self _ _ _

theorem pointer_pressedOn (state : Pressing) (event : PointerEvent) (button : PointerButton) :
    (state.pointer event).pressedOn event.deviceID button =
      if state.Presses event button then (state.recipients event).head?
      else state.pressedOn event.deviceID button :=
  congrFun (Function.update_self event.deviceID _ state.pressedOn) button

theorem notTerminator (event : PointerEvent) (notUp : event.action ≠ .buttonUp) :
    isGestureTerminator event = false := by
  simp [isGestureTerminator, notUp]

/-- A press goes to the surface that owns the gesture afterwards. -/
theorem head_recipients (state : Pressing) (down : event.action = .buttonDown) :
    (state.recipients event).head? = (state.pointer event).gestureOwner event.deviceID := by
  have step := state.world.scene.dispatchPointer_step
    (state.world.pointerState event.deviceID) event
  rw [pointer_gestureOwner, Pressing.gestureOwner]
  cases owned : (state.world.pointerState event.deviceID).gestureOwner with
  | none =>
    have target : state.recipients event = _ := step.recipients_of_press owned down
    rw [target]
    dsimp only
    rw [if_pos down]
    exact Option.head?_toList
  | some owner =>
    have only : state.recipients event = [owner] := step.recipients_of_owner owned
    rw [only]
    simp [notTerminator event (by simp [down])]

/-- A press makes the owner of the gesture the receiver of the button, and the gesture had this
owner before unless no button was held. -/
theorem press (one : OneOwner event.deviceID state) (down : event.action = .buttonDown)
    (keeps : KeepsOneOwner event.deviceID state (.pointer event)) :
    OneOwner event.deviceID (state.pointer event) := by
  have follows : FollowsPointers (state.pointer event).world := one.follows.pointer event
  have pressedOn (button : PointerButton) :
      (state.pointer event).pressedOn event.deviceID button =
        if state.Presses event button then (state.pointer event).gestureOwner event.deviceID
        else state.pressedOn event.deviceID button := by
    rw [← head_recipients state down, pointer_pressedOn]
  have before (button : PointerButton) (isHeld : (state.pointer event).held event.deviceID button)
      (notPressed : ¬ state.Presses event button) : state.held event.deviceID button = true := by
    rw [pointer_held] at isHeld
    by_contra notHeld
    exact notPressed ⟨down, Bool.eq_false_iff.mpr notHeld, isHeld⟩
  have stays {owner : SurfaceID} (owned : state.gestureOwner event.deviceID = some owner) :
      (state.pointer event).gestureOwner event.deviceID = some owner := by
    rw [pointer_gestureOwner, owned]
    simp [notTerminator event (by simp [down])]
  refine ⟨follows, fun button surface pressed => ?_, fun button surface isHeld pressed known => ?_,
    fun owner owned button isHeld => ?_⟩
  · rw [pressedOn] at pressed
    split_ifs at pressed with presses
    · exact follows.located.below surface (follows.owner_known pressed)
    · exact one.old button surface pressed
  · rw [pressedOn] at pressed
    split_ifs at pressed with presses
    · exact pressed
    · exact stays (one.owned button surface (before button isHeld presses) pressed known)
  · rw [pressedOn]
    split_ifs with presses
    · exact owned
    · have isHeld := before button isHeld presses
      cases previous : state.gestureOwner event.deviceID with
      | some other =>
        rw [stays previous] at owned
        rw [← owned]
        exact one.shared other previous button isHeld
      | none =>
        rw [pointer_gestureOwner, previous] at owned
        dsimp only at owned
        rw [if_pos down] at owned
        have target : state.world.scene.findTargetSurface event.position ≠ none := by
          rw [owned]
          exact Option.some_ne_none owner
        have noneHeld := (keeps event rfl rfl).1 down previous target button
        exact absurd isHeld (Bool.eq_false_iff.mp noneHeld)

/-- Only a press reports a button that was not held. -/
theorem held_of_reported {held : PointerButton → Bool} {button : PointerButton}
    (notDown : event.action ≠ .buttonDown) (consistent : Consistent held event)
    (reported : event.buttonState button = true) : held button = true := by
  unfold Consistent at consistent
  cases action : event.action with
  | buttonDown => exact absurd action notDown
  | buttonUp =>
    rw [action] at consistent
    obtain ⟨released, -, same⟩ := consistent
    rw [same] at reported
    exact (Bool.and_eq_true _ _ ▸ reported).1
  | enter | leave | motion =>
    rw [action] at consistent
    exact (consistent button).symm.trans reported

/-- Only a press begins a gesture. -/
theorem gestureOwner_of_notPress {owner : SurfaceID} (notDown : event.action ≠ .buttonDown)
    (owned : (state.pointer event).gestureOwner event.deviceID = some owner) :
    state.gestureOwner event.deviceID = some owner := by
  rw [pointer_gestureOwner] at owned
  cases previous : state.gestureOwner event.deviceID with
  | none =>
    rw [previous] at owned
    dsimp only at owned
    rw [if_neg notDown] at owned
    cases owned
  | some other =>
    rw [previous] at owned
    dsimp only at owned
    split_ifs at owned
    exact owned

/-- An event that is no press leaves the gesture to its owner as long as buttons are held. -/
theorem notPress (one : OneOwner event.deviceID state) (notDown : event.action ≠ .buttonDown)
    (consistent : Consistent (state.held event.deviceID) event)
    (keeps : KeepsOneOwner event.deviceID state (.pointer event)) :
    OneOwner event.deviceID (state.pointer event) := by
  have pressedOn (button : PointerButton) : (state.pointer event).pressedOn event.deviceID button =
      state.pressedOn event.deviceID button := by
    rw [pointer_pressedOn]
    exact if_neg fun presses => notDown presses.1
  have goesOn {owner : SurfaceID} {button : PointerButton}
      (owned : state.gestureOwner event.deviceID = some owner)
      (reported : event.buttonState button = true) : isGestureTerminator event = false := by
    by_cases up : event.action = .buttonUp
    · have ends := (keeps event rfl rfl).2 up (by simp [owned])
      rcases ends with pressed | noneHeld
      · simp [isGestureTerminator, pressed]
      · exact absurd reported (Bool.eq_false_iff.mp (noneHeld button))
    · exact notTerminator event up
  refine ⟨one.follows.pointer event, fun button surface pressed => ?_,
    fun button surface isHeld pressed known => ?_, fun id owned button isHeld => ?_⟩
  · rw [pressedOn] at pressed
    exact one.old button surface pressed
  · rw [pointer_held] at isHeld
    rw [pressedOn] at pressed
    have before := held_of_reported notDown consistent isHeld
    have owned := one.owned button surface before pressed known
    rw [pointer_gestureOwner, owned]
    simp [goesOn owned isHeld]
  · rw [pointer_held] at isHeld
    rw [pressedOn]
    exact one.shared id (gestureOwner_of_notPress notDown owned) button
      (held_of_reported notDown consistent isHeld)

end Event

theorem step (one : OneOwner device state) (op : Op)
    (permitted : ReportsConsistently device state op) (keeps : KeepsOneOwner device state op) :
    OneOwner device (state.step op) := by
  by_cases here : ∃ event, op = .pointer event ∧ event.deviceID = device
  · obtain ⟨event, rfl, rfl⟩ := here
    by_cases down : event.action = .buttonDown
    · exact one.press down keeps
    · exact one.notPress down (permitted.2 event rfl rfl) keeps
  · have other : ∀ event ∈ op.pointerEvent, event.deviceID ≠ device := by
      intro event member same
      cases op <;> simp_all [Op.pointerEvent]
    cases op with
    | pointer event =>
      refine one.elsewhere _ permitted.1 other rfl ?_ ?_
      · exact Function.update_of_ne (other event rfl).symm _ _
      · exact Function.update_of_ne (other event rfl).symm _ _
    | _ => exact one.elsewhere _ permitted.1 other rfl rfl rfl

end OneOwner

theorem oneOwner_initial (device : DeviceID) : OneOwner device Pressing.initial where
  follows := followsPointers_initial
  old := by
    intro button surface pressed
    cases pressed
  owned := by
    intro button surface isHeld
    cases isHeld
  shared := by
    intro owner owned
    cases owned

/-- In every run whose events are consistent, a gesture that starts only when no button is held
and ends only when none is held gives every release to the surface that received the press. -/
theorem releases_follow_presses (device : DeviceID) {state : Pressing}
    (reached : Reaches Pressing.step
      (fun state op => ReportsConsistently device state op ∧ KeepsOneOwner device state op)
      Pressing.initial state)
    (event : PointerEvent) (same : event.deviceID = device) : Paired state event := by
  have one : OneOwner device state := reached.invariant (oneOwner_initial device)
    fun _ op one permitted => one.step op permitted.1 permitted.2
  exact one.paired same

/-- Two buttons are pressed in a surface; the first is released outside of it. -/
def dragOutside : List Op :=
  [.addSurface (square 0), .addSurface (square 10), .pointer (pointerAt .motion 0 5),
    .pointer (pointerAt .buttonDown 0b1 5), .pointer (pointerAt .buttonDown 0b11 5),
    .pointer (pointerAt .motion 0b11 15), .pointer (pointerAt .buttonUp 0b10 15)]

theorem dragOutside_releases_inside :
    let state := dragOutside.foldl Pressing.step Pressing.initial
    let event := pointerAt .buttonUp 0 15
    (state.pressedOn 0 .secondary = some 0 ∧ state.recipients event = [0]) ∧
      Paired state event := by
  refine ⟨by decide, ?_⟩
  exact releases_follow_presses 0 (Reaches.start.foldl dragOutside (by decide)) _ rfl

/-- The primary and the side button are pressed in a surface and the primary one is released: the
gesture ends, and the release of the side button goes to nobody. -/
theorem side_button_release_is_lost :
    ¬ ∀ device state,
      Reaches Pressing.step (ReportsConsistently device) Pressing.initial state →
      ∀ event, event.deviceID = device → Consistent (state.held device) event →
        Paired state event := by
  intro claimed
  have paired := claimed 0 _ (Reaches.start.foldl
    [.addSurface (square 0), .pointer (pointerAt .buttonDown 0b1 5),
      .pointer (pointerAt .buttonDown 0b100001 5), .pointer (pointerAt .buttonUp 0b100000 5)]
    (by decide)) (pointerAt .buttonUp 0 5) rfl (by decide)
  have received := (paired rfl .side (by decide) (by decide)).1 0 (by decide) (by decide)
  revert received
  decide

end Mir.Input

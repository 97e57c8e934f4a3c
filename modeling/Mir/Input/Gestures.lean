/-
This file follows touch gestures. A gesture begins with the first contact of a device and
lasts until none is left; it belongs to the topmost exposed surface that contains the
first contact of its first event. Beside the dispatcher this file keeps the contacts of
the last event of each device and the surface its gesture began in.

The dispatcher looks at each event alone: an event whose contacts all go down is the start
of a gesture to it. In a valid stream a contact that is down may be reported to go down
again, and if an event in the middle of a gesture does so with all its contacts, the
gesture is handed to whatever surface is there.
-/

import Mir.Input.Dispatcher
import Mir.Input.Validator

namespace Mir.Input

open Transition

/-! ### Gestures -/

/-- The dispatcher, the contacts of the last event of each device, the surface its gesture began
in, and whether it was reset or the dispatcher stopped since then. -/
structure Touching where
  world : World
  last : DeviceID → List ContactState
  start : DeviceID → Option SurfaceID
  lost : DeviceID → Bool

/-- The topmost exposed surface at the first contact of an event. -/
def Scene.topmostSurface (scene : Scene) (event : TouchEvent) : Option SurfaceID :=
  scene.surfaces.reverse.find? fun id =>
    (scene.state id).exposed && (scene.state id).inputAreaContains event.position

namespace Touching

def initial : Touching where
  world := World.initial
  last := fun _ => []
  start := fun _ => none
  lost := fun _ => false

/-- A contact of the device is down. -/
def UnderWay (state : Touching) (device : DeviceID) : Prop := liveIDs (state.last device) ≠ []

instance (state : Touching) (device : DeviceID) : Decidable (state.UnderWay device) :=
  inferInstanceAs (Decidable (_ ≠ _))

/-- The surface the gesture of an event began in. -/
def gestureSurface (state : Touching) (event : TouchEvent) : Option SurfaceID :=
  if state.UnderWay event.deviceID then state.start event.deviceID
  else state.world.scene.topmostSurface event

/-- The owner of the gesture for the dispatcher. -/
def owner (state : Touching) (device : DeviceID) : Option SurfaceID :=
  state.world.touchState device

/-- The surfaces that receive an event. -/
def recipients (state : Touching) (event : TouchEvent) : List SurfaceID :=
  (state.world.scene.dispatchTouch (state.owner event.deviceID) event).deliveries.filterMap
    fun delivery =>
      match delivery with
      | .touch id _ => some id
      | _ => none

/-- The gesture of an event has been cut off by a reset or a stop. -/
def cutOff (state : Touching) (event : TouchEvent) : Bool :=
  state.UnderWay event.deviceID && state.lost event.deviceID

def touch (state : Touching) (event : TouchEvent) : Touching where
  world := state.world.dispatchTouch event
  last := Function.update state.last event.deviceID event.contacts
  start := Function.update state.start event.deviceID (state.gestureSurface event)
  lost := Function.update state.lost event.deviceID (state.cutOff event)

def step (state : Touching) : Op → Touching
  | .touch event => state.touch event
  | .stop => { state with world := state.world.step .stop, lost := fun _ => true }
  | .deviceReset device =>
    { state with
      world := state.world.step (.deviceReset device)
      lost := Function.update state.lost device true }
  | op => { state with world := state.world.step op }

end Touching

/-- The touch events of a device are a valid stream. -/
def ReportsValidTouches (device : DeviceID) (state : Touching) (op : Op) : Prop :=
  ∀ event ∈ op.touchEvent, event.deviceID = device → Follows (state.last device) event.contacts

/-- An event in the middle of a gesture whose contacts all go down finds the owner of the gesture
at its first contact. -/
def RestartsInPlace (device : DeviceID) (state : Touching) (op : Op) : Prop :=
  ∀ event ∈ op.touchEvent, event.deviceID = device → state.UnderWay device →
    isGestureStart event = true →
    state.world.scene.findTargetSurface event.position = state.owner device

instance (device : DeviceID) (state : Touching) (op : Op) :
    Decidable (ReportsValidTouches device state op) :=
  inferInstanceAs (Decidable (∀ event ∈ op.touchEvent, _))

instance (device : DeviceID) (state : Touching) (op : Op) :
    Decidable (RestartsInPlace device state op) :=
  inferInstanceAs (Decidable (∀ event ∈ op.touchEvent, _))

/-- An event of a gesture is received by no surface but the one the gesture began in, and by that
one as long as it is in the scene and nothing was reset. -/
def KeepsToOneSurface (state : Touching) (event : TouchEvent) : Prop :=
  (∀ surface ∈ state.recipients event, state.gestureSurface event = some surface) ∧
  (state.cutOff event = false → ∀ surface ∈ state.world.scene.surfaces,
    state.gestureSurface event = some surface → surface ∈ state.recipients event)

/-! ### Events -/

/-- An event leaves no contact down if it is the end of a gesture to the dispatcher. -/
theorem isGestureEnd_iff (event : TouchEvent) :
    isGestureEnd event = true ↔ liveIDs event.contacts = [] := by
  simp [isGestureEnd, liveIDs]

/-- The first event of a gesture is the start of one to the dispatcher. -/
theorem isGestureStart_of_follows {previous : List ContactState} {event : TouchEvent}
    (free : liveIDs previous = []) (follows : Follows previous event.contacts) :
    isGestureStart event = true := by
  rw [follows_iff, free] at follows
  refine List.all_eq_true.mpr fun contact member => decide_eq_true ?_
  exact follows.2 contact member List.not_mem_nil

theorem Touching.recipients_eq (state : Touching) (event : TouchEvent) :
    state.recipients event =
      (if isGestureStart event then state.world.scene.findTargetSurface event.position
        else state.owner event.deviceID).toList := by
  unfold Touching.recipients
  rw [Scene.dispatchTouch_deliveries, List.filterMap_map]
  cases (if isGestureStart event then state.world.scene.findTargetSurface event.position
    else state.owner event.deviceID) <;> rfl

theorem Scene.topmostSurface_eq (scene : Scene) (event : TouchEvent) :
    scene.topmostSurface event = scene.findTargetSurface event.position :=
  (scene.findTargetSurface_eq event.position).symm

/-! ### Runs -/

/-- The owner of a gesture for the dispatcher is the surface it began in, until that is gone or
the device reset. -/
structure KeepsOwner (device : DeviceID) (state : Touching) : Prop where
  placed : state.world.Placed
  isKnown : ∀ id, state.owner device = some id → id ∈ state.world.known
  idle : ¬ state.UnderWay device → state.owner device = none
  owner : state.UnderWay device → ∀ id, state.owner device = some id →
    state.start device = some id
  kept : state.UnderWay device → state.lost device = false → ∀ id ∈ state.world.known,
    state.start device = some id → state.owner device = some id
  old : ∀ id, state.start device = some id → id < state.world.made

/-- What an operation that is no event of a touch device does to the owner of its gesture. -/
theorem World.touchState_step (world : World) (op : Op) (device : DeviceID)
    (other : ∀ event ∈ op.touchEvent, event.deviceID ≠ device) :
    (world.step op).touchState device = world.forgets (world.touchState device) op ∨
      (op = .stop ∨ op = .deviceReset device) ∧ (world.step op).touchState device = none := by
  cases op with
  | key event alive =>
    rcases world.dispatchKey_cases event alive with same | ⟨focus, given⟩
    · exact .inl (congrFun (congrArg World.touchState same) device)
    · exact .inl (congrFun (congrArg World.touchState given) device)
  | touch event => exact .inl (Function.update_of_ne (other event rfl).symm _ _)
  | stop => exact .inr ⟨.inl rfl, rfl⟩
  | deviceReset reset =>
    dsimp only [World.step, World.deviceReset]
    split_ifs
    · exact .inl rfl
    · by_cases same : device = reset
      · subst same
        exact .inr ⟨.inr rfl, Function.update_self _ _ _⟩
      · exact .inl (Function.update_of_ne same _ _)
  | restack surfaces =>
    dsimp only [World.step]
    split_ifs <;> exact .inl rfl
  | removeSurface id =>
    dsimp only [World.step]
    split_ifs <;> exact .inl rfl
  | surfaceRemoved id =>
    dsimp only [World.step, World.forgets]
    split_ifs <;> exact .inl rfl
  | pointer _ | setFocus _ | start | addSurface _ | changeSurface _ _ => exact .inl rfl

namespace KeepsOwner

variable {device : DeviceID} {state : Touching}

/-- An operation that is no event of the device leaves the gesture alone or takes its owner away. -/
theorem elsewhere (keeps : KeepsOwner device state) (op : Op)
    (other : ∀ event ∈ op.touchEvent, event.deviceID ≠ device) {next : Touching}
    (world : next.world = state.world.step op) (last : next.last device = state.last device)
    (start : next.start device = state.start device)
    (lost : next.lost device = false →
      state.lost device = false ∧ op ≠ .stop ∧ op ≠ .deviceReset device) :
    KeepsOwner device next := by
  have placed := keeps.placed
  have underWay : next.UnderWay device ↔ state.UnderWay device := by
    unfold Touching.UnderWay
    rw [last]
  have forgotten (id : SurfaceID) := placed.forgets_eq_some op keeps.isKnown id
  have before (id : SurfaceID) (owned : next.owner device = some id) :
      state.owner device = some id ∧ id ∈ (state.world.step op).known := by
    unfold Touching.owner at owned
    rw [world] at owned
    rcases state.world.touchState_step op device other with same | ⟨-, cleared⟩
    · rw [same] at owned
      exact (forgotten id).mp owned
    · rw [cleared] at owned
      cases owned
  refine ⟨world ▸ placed.step op, fun id owned => ?_, fun idle => ?_, fun live id owned => ?_,
    fun live notLost id member began => ?_, fun id began => ?_⟩
  · rw [world]
    exact (before id owned).2
  · refine Option.eq_none_iff_forall_ne_some.mpr fun id owned => ?_
    have none := keeps.idle (underWay.not.mp idle)
    exact absurd ((before id owned).1.symm.trans none) (Option.some_ne_none id)
  · rw [start]
    exact keeps.owner (underWay.mp live) id (before id owned).1
  · obtain ⟨notLost, notStop, notReset⟩ := lost notLost
    rw [start] at began
    rw [world] at member
    have old := (placed.known_of_step op member).resolve_right (Nat.not_le.mpr (keeps.old id began))
    have owned := keeps.kept (underWay.mp live) notLost id old began
    unfold Touching.owner
    rw [world]
    rcases state.world.touchState_step op device other with same | ⟨stopped | reset, -⟩
    · rw [same]
      exact (forgotten id).mpr ⟨owned, member⟩
    · exact absurd stopped notStop
    · exact absurd reset notReset
  · rw [start] at began
    rw [world]
    exact Nat.lt_of_lt_of_le (keeps.old id began) (placed.made_step op)

section Event

variable {event : TouchEvent}

/-- The surface that receives an event of a gesture under way is its owner, that of a first event
is the topmost one. -/
theorem receiver (follows : Follows (state.last event.deviceID) event.contacts)
    (restarts : RestartsInPlace event.deviceID state (.touch event)) :
    (if isGestureStart event then state.world.scene.findTargetSurface event.position
      else state.owner event.deviceID) =
      if state.UnderWay event.deviceID then state.owner event.deviceID
      else state.world.scene.topmostSurface event := by
  split_ifs with starts live
  · exact restarts event rfl rfl live starts
  · exact (state.world.scene.topmostSurface_eq event).symm
  · rfl
  · next free => exact absurd (isGestureStart_of_follows (not_not.mp free) follows) starts

/-- The first surface of a gesture is known. -/
theorem topmost_known (state : Touching) {id : SurfaceID}
    (topmost : state.world.scene.topmostSurface event = some id) : id ∈ state.world.known := by
  rw [Scene.topmostSurface_eq] at topmost
  exact List.mem_append_left _ (Scene.findTargetSurface_mem topmost)

theorem keepsToOneSurface (keeps : KeepsOwner event.deviceID state)
    (follows : Follows (state.last event.deviceID) event.contacts)
    (restarts : RestartsInPlace event.deviceID state (.touch event)) :
    KeepsToOneSurface state event := by
  unfold KeepsToOneSurface Touching.gestureSurface Touching.cutOff
  rw [Touching.recipients_eq, receiver follows restarts]
  split_ifs with live
  · refine ⟨fun surface received => ?_, fun notCut surface shown began => ?_⟩
    · exact keeps.owner live surface (Option.mem_toList.mp received)
    · have notLost : state.lost event.deviceID = false := by simpa [live] using notCut
      exact Option.mem_toList.mpr
        (keeps.kept live notLost surface (List.mem_append_left _ shown) began)
  · exact ⟨fun surface received => Option.mem_toList.mp received,
      fun _ surface _ began => Option.mem_toList.mpr began⟩

theorem touch (keeps : KeepsOwner event.deviceID state)
    (follows : Follows (state.last event.deviceID) event.contacts)
    (restarts : RestartsInPlace event.deviceID state (.touch event)) :
    KeepsOwner event.deviceID (state.touch event) := by
  have owner : (state.touch event).owner event.deviceID =
      if isGestureEnd event then none
      else if state.UnderWay event.deviceID then state.owner event.deviceID
      else state.world.scene.topmostSurface event := by
    unfold Touching.owner Touching.touch
    rw [World.dispatchTouch_touchState, Function.update_self, Scene.dispatchTouch_gestureOwner]
    refine congrArg (fun receiver => if isGestureEnd event then none else receiver) ?_
    exact receiver follows restarts
  have start : (state.touch event).start event.deviceID =
      if state.UnderWay event.deviceID then state.start event.deviceID
      else state.world.scene.topmostSurface event :=
    Function.update_self _ _ _
  have lost : (state.touch event).lost event.deviceID =
      (state.UnderWay event.deviceID && state.lost event.deviceID) :=
    Function.update_self _ _ _
  have ends : isGestureEnd event = true ↔ ¬ (state.touch event).UnderWay event.deviceID := by
    have last : (state.touch event).last event.deviceID = event.contacts :=
      Function.update_self _ _ _
    rw [isGestureEnd_iff, Touching.UnderWay, not_not, last]
  refine ⟨keeps.placed.step (.touch event), fun id owned => ?_, fun idle => ?_,
    fun live id owned => ?_, fun live notLost id member began => ?_, fun id began => ?_⟩
  · rw [owner] at owned
    split_ifs at owned with finished live
    · exact keeps.isKnown id owned
    · exact topmost_known state owned
  · rw [owner, if_pos (ends.mpr idle)]
  · rw [owner, if_neg fun finished => ends.mp finished live] at owned
    rw [start]
    split_ifs at owned ⊢ with before
    · exact keeps.owner before id owned
    · exact owned
  · rw [start] at began
    rw [lost] at notLost
    rw [owner, if_neg fun finished => ends.mp finished live]
    split_ifs at began ⊢ with before
    · exact keeps.kept before (by simpa [before] using notLost) id member began
    · exact began
  · rw [start] at began
    split_ifs at began with before
    · exact keeps.old id began
    · exact keeps.placed.below id (topmost_known state began)

end Event

theorem step (keeps : KeepsOwner device state) (op : Op)
    (valid : ReportsValidTouches device state op) (restarts : RestartsInPlace device state op) :
    KeepsOwner device (state.step op) := by
  by_cases here : ∃ event, op = .touch event ∧ event.deviceID = device
  · obtain ⟨event, rfl, rfl⟩ := here
    exact keeps.touch (valid event rfl rfl) restarts
  · have other : ∀ event ∈ op.touchEvent, event.deviceID ≠ device := by
      intro event member same
      cases op <;> simp_all [Op.touchEvent]
    cases op with
    | touch event =>
      have elsewhere {Value : Type} (value : DeviceID → Value) (new : Value) :
          Function.update value event.deviceID new device = value device :=
        Function.update_of_ne (other event rfl).symm _ _
      refine keeps.elsewhere _ other rfl (elsewhere _ _) (elsewhere _ _) fun notLost => ?_
      exact ⟨(elsewhere _ _).symm.trans notLost, by simp, by simp⟩
    | stop =>
      refine keeps.elsewhere .stop other rfl rfl rfl fun notLost => ?_
      cases notLost
    | deviceReset reset =>
      refine keeps.elsewhere (.deviceReset reset) other rfl rfl rfl fun notLost => ?_
      have notLost : Function.update state.lost reset true device = false := notLost
      rw [Function.update_apply] at notLost
      split_ifs at notLost with same
      exact ⟨notLost, by simp, by simpa using Ne.symm same⟩
    | _ => exact keeps.elsewhere _ other rfl rfl rfl fun notLost => ⟨notLost, by simp, by simp⟩

end KeepsOwner

theorem keepsOwner_initial (device : DeviceID) : KeepsOwner device Touching.initial where
  placed := World.placed_initial
  isKnown := by
    intro id owned
    cases owned
  idle := fun _ => rfl
  owner := by
    intro live id owned
    cases owned
  kept := fun live => absurd rfl live
  old := by
    intro id began
    cases began

/-- In every run in which the touch events of a device are a valid stream and no event in the
middle of a gesture starts it again elsewhere, every event of a gesture is received by the surface
it began in or by none. -/
theorem gestures_keep_to_one_surface (device : DeviceID) {state : Touching}
    (reached : Reaches Touching.step
      (fun state op => ReportsValidTouches device state op ∧ RestartsInPlace device state op)
      Touching.initial state)
    (event : TouchEvent) (same : event.deviceID = device)
    (valid : ReportsValidTouches device state (.touch event))
    (restarts : RestartsInPlace device state (.touch event)) :
    KeepsToOneSurface state event := by
  subst same
  have keeps : KeepsOwner event.deviceID state :=
    reached.invariant (keepsOwner_initial event.deviceID) fun _ op keeps permitted =>
      keeps.step op permitted.1 permitted.2
  exact keeps.keepsToOneSurface (valid event rfl rfl) restarts

/-- A touch event with contacts at distances from the left edge. -/
def touchAt (contacts : List (TouchID × TouchAction × Nat)) : TouchEvent where
  deviceID := 0
  eventTime := 0
  cookie := []
  modifiers := 0
  contacts := contacts.map fun contact =>
    { plainContact contact.1 contact.2.1 with x := contact.2.2, y := 1 }

/-- A finger goes down in a surface and moves into the next one, where another finger joins. -/
def joiningFingers : List Op :=
  [.addSurface (square 0), .addSurface (square 10), .touch (touchAt [(1, .down, 5)]),
    .touch (touchAt [(1, .change, 15), (2, .down, 16)])]

theorem joiningFingers_keep_to_one_surface :
    let state := joiningFingers.foldl Touching.step Touching.initial
    let event := touchAt [(1, .up, 15), (2, .change, 17)]
    (state.gestureSurface event = some 0 ∧ state.recipients event = [0]) ∧
      KeepsToOneSurface state event := by
  refine ⟨by decide, ?_⟩
  exact gestures_keep_to_one_surface 0 (Reaches.start.foldl joiningFingers (by decide)) _ rfl
    (by decide) (by decide)

/-- A finger goes down in a surface and is reported to go down again in the next one, which then
owns the gesture. -/
theorem second_down_moves_gesture :
    ¬ ∀ device state,
      Reaches Touching.step (ReportsValidTouches device) Touching.initial state →
      ∀ event, event.deviceID = device → ReportsValidTouches device state (.touch event) →
        KeepsToOneSurface state event := by
  intro claimed
  have keeps := claimed 0 _ (Reaches.start.foldl
    [.addSurface (square 0), .addSurface (square 10),
      .touch (touchAt [(1, .down, 5)])]
    (by decide)) (touchAt [(1, .down, 15)]) rfl (by decide)
  have received := keeps.1 1 (by decide)
  revert received
  decide

end Mir.Input

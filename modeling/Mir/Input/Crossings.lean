/-
This file follows a pointer from surface to surface. From what the surfaces received so
far it is read off which of them the pointer has entered and not left; for the surfaces
the dispatcher has not been told to forget, this is its current target.

An incoming event may itself have the action enter or leave. No input platform reports
such events, and the dispatcher passes them on like any other: the enter and leave events
below are the ones it makes.
-/

import Mathlib.Data.List.Nodup
import Mir.Input.Dispatcher

namespace Mir.Input

open Transition

/-! ### What the surfaces know -/

/-- The enter and leave events the dispatcher sent to a surface, newest first. -/
def sentCrossings (received : List Delivery) (device : DeviceID) (surface : SurfaceID) :
    List PointerAction :=
  received.filterMap fun delivery =>
    match delivery with
    | .crossing id event =>
      if id = surface ∧ event.deviceID = device then some event.action else none
    | _ => none

/-- All enter and leave events a surface received, newest first. -/
def receivedCrossings (received : List Delivery) (device : DeviceID) (surface : SurfaceID) :
    List PointerAction :=
  received.filterMap fun delivery =>
    match delivery with
    | .crossing id event =>
      if id = surface ∧ event.deviceID = device then some event.action else none
    | .pointer id event =>
      if id = surface ∧ event.deviceID = device ∧
          (event.action = .enter ∨ event.action = .leave) then
        some event.action
      else none
    | _ => none

/-- Enter and leave events alternate, and the oldest is an enter event. -/
def Alternates : List PointerAction → Prop
  | [] => True
  | action :: older =>
    (action = .leave ∧ older.head? = some .enter ∨ action = .enter ∧ older.head? ≠ some .enter) ∧
      Alternates older

/-- The pointer entered the surface and has not left it. -/
def Entered (received : List Delivery) (device : DeviceID) (surface : SurfaceID) : Prop :=
  (sentCrossings received device surface).head? = some .enter

/-- Every event passed on went to a surface its pointer had entered. -/
def PassedInside : List Delivery → Prop
  | [] => True
  | .pointer id event :: older => Entered older event.deviceID id ∧ PassedInside older
  | _ :: older => PassedInside older

theorem sentCrossings_crossing (received : List Delivery) (id : SurfaceID) (event : PointerEvent)
    (device : DeviceID) (surface : SurfaceID) :
    sentCrossings (.crossing id event :: received) device surface =
      if id = surface ∧ event.deviceID = device then
        event.action :: sentCrossings received device surface
      else sentCrossings received device surface := by
  unfold sentCrossings
  split_ifs with sent
  · rw [List.filterMap_cons_some]
    exact if_pos sent
  · rw [List.filterMap_cons_none]
    exact if_neg sent

/-- A crossing decides about the surface it is sent to, and about no other. -/
theorem entered_crossing (received : List Delivery) (id : SurfaceID) (event : PointerEvent)
    (device : DeviceID) (surface : SurfaceID) :
    Entered (.crossing id event :: received) device surface ↔
      if id = surface ∧ event.deviceID = device then event.action = .enter
      else Entered received device surface := by
  unfold Entered
  rw [sentCrossings_crossing]
  split_ifs
  · rw [List.head?_cons, Option.some_inj]
  · rfl

/-- At most one event of each kind is sent by a crossing, so only their order is reversed. -/
theorem Scene.reverse_cross (scene : Scene) (current target : Option SurfaceID)
    (event : PointerEvent) :
    (scene.cross current target event).reverse =
      (target.toList.map fun id => scene.sendEnterExitEvent id event .enter) ++
        current.toList.map fun id => scene.sendEnterExitEvent id event .leave := by
  cases current <;> cases target <;> rfl

/-! ### Where the pointers are -/

/-- Among the known surfaces the ones that pointers have entered are their targets; surfaces that
are yet to be made have received nothing. -/
structure Located (received : List Delivery) (known : List SurfaceID) (made : Nat)
    (target : DeviceID → Option SurfaceID) : Prop where
  below : ∀ id ∈ known, id < made
  unmade : ∀ device id, made ≤ id → sentCrossings received device id = []
  entered : ∀ device, ∀ id ∈ known, Entered received device id ↔ target device = some id
  alternate : ∀ device id, Alternates (sentCrossings received device id)
  isKnown : ∀ device id, target device = some id → id ∈ known
  inside : PassedInside received

namespace Located

variable {received : List Delivery} {known : List SurfaceID} {made : Nat}
  {target : DeviceID → Option SurfaceID}

/-- The pointer leaves the surface it is in, or enters one when it is in none. -/
theorem crossing (located : Located received known made target) {id : SurfaceID}
    {event : PointerEvent}
    (member : id ∈ known)
    (turn : event.action = .leave ∧ target event.deviceID = some id ∨
      event.action = .enter ∧ target event.deviceID = none) :
    Located (.crossing id event :: received) known made
      (Function.update target event.deviceID
        (if event.action = .enter then some id else none)) where
  below := located.below
  unmade device other later := by
    have older : ¬ (id = other ∧ event.deviceID = device) := by
      rintro ⟨rfl, -⟩
      exact absurd (located.below id member) (Nat.not_lt.mpr later)
    rw [sentCrossings_crossing, if_neg older]
    exact located.unmade device other later
  entered device other known := by
    rw [entered_crossing, Function.update_apply]
    by_cases same : event.deviceID = device
    · subst same
      rw [if_pos rfl]
      by_cases crossed : id = other
      · simp [crossed]
      · have elsewhere : ¬ Entered received event.deviceID other := by
          rw [located.entered _ other known]
          rcases turn with ⟨-, there⟩ | ⟨-, nowhere⟩
          · simpa [there] using crossed
          · simp [nowhere]
        simp [crossed, elsewhere]
    · rw [if_neg (fun sent => same sent.2), if_neg (Ne.symm same)]
      exact located.entered device other known
  alternate device other := by
    rw [sentCrossings_crossing]
    split_ifs with sent
    · obtain ⟨rfl, rfl⟩ := sent
      have entered := located.entered event.deviceID id member
      refine ⟨turn.imp (And.imp_right entered.mpr) (And.imp_right fun nowhere => ?_),
        located.alternate _ _⟩
      rw [nowhere] at entered
      exact fun inside => Option.some_ne_none id (entered.mp inside).symm
    · exact located.alternate device other
  isKnown device other targeted := by
    rw [Function.update_apply] at targeted
    split_ifs at targeted with same entered
    · exact Option.some.inj targeted ▸ member
    · exact located.isKnown device other targeted
  inside := located.inside

/-- Surfaces may be made and forgotten: a surface that is not known yet is a new one. -/
theorem change_known (located : Located received known made target) (others : List SurfaceID)
    (later : Nat) (next : DeviceID → Option SurfaceID) (still : made ≤ later)
    (below : ∀ id ∈ others, id < later)
    (same : ∀ device, ∀ id ∈ others, next device = some id ↔ target device = some id)
    (isKnown : ∀ device id, next device = some id → id ∈ others)
    (new : ∀ id ∈ others, id ∉ known → made ≤ id) :
    Located received others later next where
  below := below
  unmade device id unmade := located.unmade device id (still.trans unmade)
  entered device id member := by
    rw [same device id member]
    by_cases old : id ∈ known
    · exact located.entered device id old
    · refine iff_of_false ?_ fun targeted => old (located.isKnown device id targeted)
      unfold Entered
      rw [located.unmade device id (new id member old)]
      simp
  alternate := located.alternate
  isKnown := isKnown
  inside := located.inside

/-- The events of other devices than pointers change nothing. -/
theorem other (located : Located received known made target) {delivery : Delivery}
    (silent : sentCrossings (delivery :: received) = sentCrossings received)
    (inside : PassedInside (delivery :: received)) :
    Located (delivery :: received) known made target where
  below := located.below
  unmade := by
    rw [silent]
    exact located.unmade
  entered := by
    unfold Entered
    rw [silent]
    exact located.entered
  alternate := by
    rw [silent]
    exact located.alternate
  isKnown := located.isKnown
  inside := inside

/-- An event is passed to the surface its pointer is in. -/
theorem passed (located : Located received known made target) (scene : Scene)
    {event : PointerEvent} {id : SurfaceID} {deliveries : List Delivery}
    (there : target event.deviceID = some id)
    (passes : ∀ delivery ∈ deliveries, scene.Passes event id delivery) :
    Located (deliveries ++ received) known made target := by
  induction deliveries with
  | nil => exact located
  | cons delivery rest inductionHypothesis =>
    have tail := inductionHypothesis fun other member =>
      passes other (List.mem_cons_of_mem _ member)
    have inside := (tail.entered _ id (tail.isKnown _ id there)).mpr there
    rcases passes delivery List.mem_cons_self with rfl | rfl
    · exact tail.other rfl ⟨inside, tail.inside⟩
    · exact tail.other rfl ⟨inside, tail.inside⟩

theorem leaveCurrent (located : Located received known made target) (scene : Scene)
    (event : PointerEvent) :
    Located (((target event.deviceID).toList.map fun id =>
        scene.sendEnterExitEvent id event .leave) ++ received) known made
      (Function.update target event.deviceID none) := by
  cases there : target event.deviceID with
  | none =>
    have same : Function.update target event.deviceID none = target := by
      rw [← there, Function.update_eq_self]
    rw [same]
    exact located
  | some id => exact located.crossing (located.isKnown _ id there) (.inl ⟨rfl, there⟩)

theorem enterNext (located : Located received known made target) (scene : Scene)
    (event : PointerEvent) (nowhere : target event.deviceID = none) (next : Option SurfaceID)
    (member : ∀ id, next = some id → id ∈ known) :
    Located ((next.toList.map fun id => scene.sendEnterExitEvent id event .enter) ++ received)
      known made (Function.update target event.deviceID next) := by
  cases next with
  | none =>
    have same : Function.update target event.deviceID none = target := by
      rw [← nowhere, Function.update_eq_self]
    rw [same]
    exact located
  | some id => exact located.crossing (member id rfl) (.inr ⟨rfl, nowhere⟩)

/-- A pointer that is found in a target leaves the surface it was in and enters the target. -/
theorem retarget (located : Located received known made target) (scene : Scene)
    (event : PointerEvent) (next : Option SurfaceID) (member : ∀ id, next = some id → id ∈ known) :
    Located ((scene.retarget (target event.deviceID) next event).reverse ++ received) known made
      (Function.update target event.deviceID next) := by
  unfold Scene.retarget
  split_ifs with moved
  · have entered := (located.leaveCurrent scene event).enterNext scene event
      (Function.update_self event.deviceID none target) next member
    rw [Function.update_idem, ← List.append_assoc] at entered
    rw [Scene.reverse_cross]
    exact entered
  · rw [← not_not.mp moved, Function.update_eq_self]
    exact located

end Located

/-! ### Runs -/

def World.target (world : World) (device : DeviceID) : Option SurfaceID :=
  (world.pointerState device).currentTarget

/-- What holds in every run in which no device is reset and the dispatcher is not stopped. -/
structure FollowsPointers (world : World) : Prop where
  placed : world.Placed
  located : Located world.received world.known world.made world.target
  owner : ∀ device id, (world.pointerState device).gestureOwner = some id →
    world.target device = some id

theorem followsPointers_initial : FollowsPointers World.initial where
  placed := World.placed_initial
  located :=
    { below := fun _ member => absurd member List.not_mem_nil
      unmade := fun _ _ _ => rfl
      entered := fun _ _ member => absurd member List.not_mem_nil
      alternate := fun _ _ => trivial
      isKnown := by
        intro device id targeted
        cases targeted
      inside := trivial }
  owner := by
    intro device id owned
    cases owned

namespace FollowsPointers

variable {world : World}

/-- A surface in the scene is known. -/
theorem found (world : World) {point : Geometry.Point} (id : SurfaceID)
    (target : world.scene.findTargetSurface point = some id) : id ∈ world.known :=
  List.mem_append_left _ (Scene.findTargetSurface_mem target)

theorem deliver_passes (scene : Scene) (id : SurfaceID) (event : PointerEvent) :
    ∀ delivery ∈ [scene.deliver id event], scene.Passes event id delivery := by
  intro delivery member
  exact .inl (List.mem_singleton.mp member)

/-- Whatever a pointer event does, the pointer is then where the dispatcher has it. -/
theorem pointerStep (follows : FollowsPointers world) {event : PointerEvent}
    {state : PointerInputState} {deliveries : List Delivery}
    (step : PointerStep world.scene (world.pointerState event.deviceID) event state deliveries) :
    Located (deliveries.reverse ++ world.received) world.known world.made
        (Function.update world.target event.deviceID state.currentTarget) ∧
      ∀ id, state.gestureOwner = some id → state.currentTarget = some id := by
  have located := follows.located
  cases step with
  | held owner owned goesOn =>
    refine ⟨?_, follows.owner event.deviceID⟩
    have same := Function.update_eq_self event.deviceID world.target
    rw [World.target] at same
    rw [same]
    exact located.passed world.scene (follows.owner _ _ owned) (deliver_passes _ _ _)
  | ended owner owned ends =>
    refine ⟨?_, fun id owned => by cases owned⟩
    rw [List.reverse_cons, List.append_assoc]
    exact (located.passed world.scene (follows.owner _ _ owned) (deliver_passes _ _ _)).retarget
      world.scene event _ (found world)
  | dropped free up =>
    refine ⟨?_, follows.owner event.deviceID⟩
    have same := Function.update_eq_self event.deviceID world.target
    rw [World.target] at same
    rw [same]
    exact located
  | outside free notUp target =>
    refine ⟨?_, fun id owned => by cases owned⟩
    exact located.retarget world.scene event none fun id none => by cases none
  | inside id passed free notUp target passes once atMost =>
    refine ⟨?_, fun other owned => ?_⟩
    · rw [List.reverse_append, List.append_assoc]
      refine (located.retarget world.scene event (some id) fun other same =>
        found world other (target.trans same)).passed world.scene
          (Function.update_self _ _ _) ?_
      exact fun delivery member => passes delivery (List.mem_reverse.mp member)
    · split_ifs at owned
      exact owned

theorem target_dispatchPointer (world : World) (event : PointerEvent) :
    (world.dispatchPointer event).target =
      Function.update world.target event.deviceID
        (world.scene.dispatchPointer (world.pointerState event.deviceID)
          event).state.currentTarget := by
  funext device
  unfold World.target
  rw [World.dispatchPointer_pointerState, Function.update_apply, Function.update_apply]
  split_ifs <;> rfl

theorem pointer (follows : FollowsPointers world) (event : PointerEvent) :
    FollowsPointers (world.dispatchPointer event) := by
  obtain ⟨located, owner⟩ := follows.pointerStep (Scene.dispatchPointer_step _ _ event)
  refine ⟨follows.placed.step (.pointer event), ?_, fun device id owned => ?_⟩
  · have target : (world.dispatchPointer event).target = _ := target_dispatchPointer world event
    rw [target]
    exact located
  · rw [target_dispatchPointer, Function.update_apply]
    rw [World.dispatchPointer_pointerState, Function.update_apply] at owned
    split_ifs at owned ⊢
    · exact owner id owned
    · exact follows.owner device id owned

/-- An operation that is no pointer event leaves the pointers where they are, apart from surfaces
the dispatcher is told to forget. -/
theorem elsewhere (follows : FollowsPointers world) (op : Op) (permitted : Undisturbed world op)
    (notPointer : op.pointerEvent = none) : FollowsPointers (world.step op) := by
  have noEvent (device : DeviceID) : ∀ event ∈ op.pointerEvent, event.deviceID ≠ device := by
    rw [notPointer]
    exact fun event member => by cases member
  have state (device : DeviceID) := world.pointerState_step op permitted device (noEvent device)
  have targeted (device : DeviceID) (id : SurfaceID) :
      (world.step op).target device = some id ↔
        world.target device = some id ∧ id ∈ (world.step op).known := by
    rw [World.target, state device]
    exact follows.placed.forgets_eq_some op (follows.located.isKnown device) id
  have owner (device : DeviceID) (id : SurfaceID) :
      ((world.step op).pointerState device).gestureOwner = some id ↔
        (world.pointerState device).gestureOwner = some id ∧ id ∈ (world.step op).known := by
    rw [state device]
    refine follows.placed.forgets_eq_some op (fun other owned => ?_) id
    exact follows.located.isKnown device other (follows.owner device other owned)
  refine ⟨follows.placed.step op, ?_, fun device id owned => ?_⟩
  · have located : Located world.received (world.step op).known (world.step op).made
        (world.step op).target := by
      refine follows.located.change_known _ _ _ (follows.placed.made_step op)
        (follows.placed.step op).below ?_ ?_ ?_
      · exact fun device id member => (targeted device id).trans (and_iff_left member)
      · exact fun device id target => ((targeted device id).mp target).2
      · exact fun id member unknown => (follows.placed.known_of_step op member).resolve_left unknown
    rcases world.received_step op notPointer with same | ⟨id, event, key⟩ | ⟨id, event, touch⟩
    · rw [same]
      exact located
    · rw [key]
      exact located.other rfl located.inside
    · rw [touch]
      exact located.other rfl located.inside
  · obtain ⟨before, member⟩ := (owner device id).mp owned
    exact (targeted device id).mpr ⟨follows.owner device id before, member⟩

theorem step (follows : FollowsPointers world) (op : Op) (permitted : Undisturbed world op) :
    FollowsPointers (world.step op) := by
  cases notPointer : op.pointerEvent with
  | none => exact follows.elsewhere op permitted notPointer
  | some event =>
    cases op with
    | pointer event => exact follows.pointer event
    | _ => cases notPointer

end FollowsPointers

theorem Reaches.followsPointers {world : World}
    (reached : Reaches World.step Undisturbed World.initial world) : FollowsPointers world :=
  reached.invariant followsPointers_initial fun _ op follows permitted => follows.step op permitted

/-- If no event that was passed on is itself an enter or leave event, surfaces received those the
dispatcher sent. -/
theorem receivedCrossings_eq (received : List Delivery)
    (plain : ∀ id event, .pointer id event ∈ received →
      event.action ≠ .enter ∧ event.action ≠ .leave)
    (device : DeviceID) (surface : SurfaceID) :
    receivedCrossings received device surface = sentCrossings received device surface := by
  refine List.filterMap_congr fun delivery member => ?_
  cases delivery with
  | key id event => rfl
  | touch id event => rfl
  | crossing id event => rfl
  | pointer id event =>
    refine if_neg ?_
    rintro ⟨-, -, entering | leaving⟩
    · exact (plain id event member).1 entering
    · exact (plain id event member).2 leaving

/-- In every run the enter and leave events sent to a surface alternate, a surface of the scene
that was entered and not left is the device's current target and the only such surface, and events
are only passed to a surface their pointer has entered. -/
theorem pointers_enter_and_leave_in_turn {world : World}
    (reached : Reaches World.step Undisturbed World.initial world) (device : DeviceID) :
    (∀ surface, Alternates (sentCrossings world.received device surface)) ∧
    (∀ surface ∈ world.scene.surfaces, Entered world.received device surface →
      (world.pointerState device).currentTarget = some surface) ∧
    (∀ first ∈ world.scene.surfaces, ∀ second ∈ world.scene.surfaces,
      Entered world.received device first → Entered world.received device second →
        first = second) ∧
    PassedInside world.received ∧
    ((∀ id event, .pointer id event ∈ world.received →
        event.action ≠ .enter ∧ event.action ≠ .leave) →
      ∀ surface, Alternates (receivedCrossings world.received device surface)) := by
  have follows := Reaches.followsPointers reached
  have targeted : ∀ surface ∈ world.scene.surfaces, Entered world.received device surface →
      (world.pointerState device).currentTarget = some surface := fun surface shown =>
    (follows.located.entered device surface (List.mem_append_left _ shown)).mp
  refine ⟨follows.located.alternate device, targeted, ?_, follows.located.inside, ?_⟩
  · intro first shown second alsoShown entered alsoEntered
    have same := (targeted first shown entered).symm.trans (targeted second alsoShown alsoEntered)
    exact Option.some.inj same
  · intro plain surface
    rw [receivedCrossings_eq _ plain]
    exact follows.located.alternate device surface

/-- A pointer event at a distance from the left edge. -/
def pointerAt (action : PointerAction) (buttons : BitVec 32) (left : Nat) : PointerEvent where
  deviceID := 0
  eventTime := 0
  cookie := []
  modifiers := 0
  action := action
  buttons := buttons
  x := left
  y := 1
  hscroll := 0
  vscroll := 0
  relativeX := 0
  relativeY := 0

/-- The pointer goes from a surface to the one beside it, which is then removed. -/
def acrossSurfaces : List Op :=
  [.addSurface (square 0), .addSurface (square 10), .pointer (pointerAt .motion 0 5),
    .pointer (pointerAt .motion 0 15), .removeSurface 1, .surfaceRemoved 1,
    .pointer (pointerAt .motion 0 5)]

theorem acrossSurfaces_enters_and_leaves :
    let world := acrossSurfaces.foldl World.step World.initial
    sentCrossings world.received 0 0 = [.enter, .leave, .enter] ∧
    sentCrossings world.received 0 1 = [.enter] ∧
    ∀ surface, Alternates (sentCrossings world.received 0 surface) := by
  refine ⟨by decide, by decide, ?_⟩
  exact (pointers_enter_and_leave_in_turn
    (Reaches.start.foldl acrossSurfaces (by decide)) 0).1

/-- A surface is entered, and then an incoming enter event is passed to it. -/
theorem incoming_enter_is_passed_on :
    ¬ ∀ world, Reaches World.step Undisturbed World.initial world → ∀ device surface,
      Alternates (receivedCrossings world.received device surface) := by
  intro claimed
  have alternates := claimed _ (Reaches.start.foldl
    [.addSurface (square 0), .pointer (pointerAt .motion 0 5), .pointer (pointerAt .enter 0 5)]
    (by decide)) 0 0
  have twice : receivedCrossings ([.addSurface (square 0), .pointer (pointerAt .motion 0 5),
      .pointer (pointerAt .enter 0 5)].foldl World.step World.initial).received 0 0 =
      [.enter, .enter] := by decide
  rw [twice] at alternates
  exact absurd alternates.1 (by decide)

end Mir.Input

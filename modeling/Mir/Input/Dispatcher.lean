/-
This file embeds the dispatcher that hands input events to surfaces, together with the
scene it looks at. For each pointer device it keeps the surface the pointer is in and the
surface that owns the gesture under way; for each touch device it keeps the owner of the
gesture. What surfaces receive is recorded, newest first.

The scene is changed by others: a surface is added on top, surfaces are put in another
order, a surface changes its area, and a surface is removed in two steps, first from the
scene and later, when the observers are told, from the dispatcher. Each surface is added
once, when its session has just made it.
-/

import Mathlib.Data.List.Perm.Basic
import Mathlib.Logic.Function.Basic
import Mir.Input.Event
import Mir.Library.Transition

namespace Mir.Input

open Mir.Geometry

abbrev SurfaceID := Nat

/-! ### The scene -/

/-- What the dispatcher asks of a surface. `visible` says that it is not hidden and has content,
`exposed` is its visibility attribute. -/
structure Surface where
  exposed : Bool
  visible : Bool
  surfaceRect : Rectangle
  customInputRectangles : List Rectangle
  deriving DecidableEq

def Surface.inputBounds (surface : Surface) : Rectangle := surface.surfaceRect

def Surface.inputAreaContains (surface : Surface) (point : Point) : Bool :=
  if !surface.visible then false
  else if surface.customInputRectangles.isEmpty then surface.surfaceRect.containsPoint point
  else
    let localPoint : Point :=
      ⟨point.x - surface.surfaceRect.topLeft.x, point.y - surface.surfaceRect.topLeft.y⟩
    surface.customInputRectangles.any fun rectangle => rectangle.containsPoint localPoint

/-- The surfaces from the bottom to the top, and the state of every surface ever made. -/
structure Scene where
  surfaces : List SurfaceID
  state : SurfaceID → Surface

/-- The surfaces a visitor of the scene is called with. -/
def Scene.exposed (scene : Scene) : List SurfaceID :=
  scene.surfaces.filter fun id => (scene.state id).exposed

/-- The last surface visited that contains the point. -/
def Scene.findTargetSurface (scene : Scene) (point : Point) : Option SurfaceID :=
  scene.exposed.foldl
    (fun topTarget id => if (scene.state id).inputAreaContains point then some id else topTarget)
    none

/-- A square of ten pixels at a distance from the left edge. -/
def square (left : Int) : Surface where
  exposed := true
  visible := true
  surfaceRect := ⟨⟨left, 0⟩, ⟨10, 10⟩⟩
  customInputRectangles := []

/-! ### Pointers -/

/-- What a surface receives: an event that was passed on, or an enter or leave event that the
dispatcher made. -/
inductive Delivery
  | key (surface : SurfaceID) (event : KeyboardEvent)
  | touch (surface : SurfaceID) (event : TouchEvent)
  | pointer (surface : SurfaceID) (event : PointerEvent)
  | crossing (surface : SurfaceID) (event : PointerEvent)
  deriving DecidableEq

structure PointerInputState where
  currentTarget : Option SurfaceID
  gestureOwner : Option SurfaceID
  deriving DecidableEq, Repr

def Scene.topLeft (scene : Scene) (id : SurfaceID) : Point :=
  (scene.state id).inputBounds.topLeft

def Scene.deliver (scene : Scene) (id : SurfaceID) (event : PointerEvent) : Delivery :=
  .pointer id (event.relativeTo (scene.topLeft id))

def Scene.deliverWithoutRelativeMotion (scene : Scene) (id : SurfaceID) (event : PointerEvent) :
    Delivery :=
  scene.deliver id { event with hscroll := 0, vscroll := 0, relativeX := 0, relativeY := 0 }

def Scene.sendEnterExitEvent (scene : Scene) (id : SurfaceID) (event : PointerEvent)
    (action : PointerAction) : Delivery :=
  .crossing id (({ event with cookie := [], action := action }).relativeTo (scene.topLeft id))

/-- Whether one of the buttons that keep a gesture up is held. -/
def anyPressed (event : PointerEvent) : Bool :=
  [PointerButton.primary, .secondary, .tertiary, .back, .forward].any event.buttonState

def isGestureTerminator (event : PointerEvent) : Bool :=
  !anyPressed event && event.action = .buttonUp

/-- The pointer leaves the surface it was in, if any, and enters the target, if any. -/
def Scene.cross (scene : Scene) (current target : Option SurfaceID) (event : PointerEvent) :
    List Delivery :=
  (current.toList.map fun id => scene.sendEnterExitEvent id event .leave) ++
    target.toList.map fun id => scene.sendEnterExitEvent id event .enter

/-- The state afterwards, what surfaces receive in this order, and whether the event was handled. -/
structure PointerOutcome where
  state : PointerInputState
  deliveries : List Delivery
  handled : Bool
  deriving DecidableEq

def Scene.dispatchPointer (scene : Scene) (state : PointerInputState) (event : PointerEvent) :
    PointerOutcome :=
  match state.gestureOwner with
  | some owner =>
    let delivered := scene.deliver owner event
    if isGestureTerminator event then
      let target := scene.findTargetSurface event.position
      if state.currentTarget ≠ target then
        ⟨⟨target, none⟩, delivered :: scene.cross state.currentTarget target event, true⟩
      else ⟨⟨state.currentTarget, none⟩, [delivered], true⟩
    else ⟨state, [delivered], true⟩
  | none =>
    -- without an owner the button went down over nothing, and so it comes up over nothing
    if event.action = .buttonUp then ⟨state, [], false⟩
    else
      let target := scene.findTargetSurface event.position
      let sent := decide (state.currentTarget ≠ target)
      let crossed := if sent then scene.cross state.currentTarget target event else []
      match target with
      | none => ⟨⟨none, none⟩, crossed, sent⟩
      | some id =>
        let owner := if event.action = .buttonDown then some id else none
        let passed :=
          if sent then
            if event.action ≠ .motion then [scene.deliverWithoutRelativeMotion id event] else []
          else [scene.deliver id event]
        ⟨⟨some id, owner⟩, crossed ++ passed, true⟩

/-! ### Touch -/

def isGestureStart (event : TouchEvent) : Bool :=
  event.contacts.all fun contact => contact.action = .down

def isGestureEnd (event : TouchEvent) : Bool :=
  event.contacts.all fun contact => contact.action = .up

structure TouchOutcome where
  gestureOwner : Option SurfaceID
  deliveries : List Delivery
  handled : Bool
  deriving DecidableEq

def Scene.deliverTouch (scene : Scene) (id : SurfaceID) (event : TouchEvent) : Delivery :=
  .touch id (event.relativeTo (scene.topLeft id))

/-- An event that signifies the start of a gesture decides who owns it. -/
def Scene.dispatchTouch (scene : Scene) (gestureOwner : Option SurfaceID) (event : TouchEvent) :
    TouchOutcome :=
  let gestureOwner :=
    if isGestureStart event then scene.findTargetSurface event.position else gestureOwner
  match gestureOwner with
  | some owner =>
    ⟨if isGestureEnd event then none else some owner, [scene.deliverTouch owner event], true⟩
  | none => ⟨none, [], false⟩

/-! ### The dispatcher and its surroundings -/

/-- `removing` are the surfaces that have left the scene and that the dispatcher has not been
told about; surfaces are numbered as they are made. -/
structure World where
  scene : Scene
  removing : List SurfaceID
  made : Nat
  pointerState : DeviceID → PointerInputState
  touchState : DeviceID → Option SurfaceID
  focusSurface : Option SurfaceID
  started : Bool
  received : List Delivery

def World.initial : World where
  scene := ⟨[], fun _ => ⟨false, false, .empty, []⟩⟩
  removing := []
  made := 0
  pointerState := fun _ => ⟨none, none⟩
  touchState := fun _ => none
  focusSurface := none
  started := false
  received := []

/-- `forget id` is what a removal does to a state that may hold the surface. -/
def forget (id : SurfaceID) (held : Option SurfaceID) : Option SurfaceID :=
  if held = some id then none else held

def World.surfaceRemoved (world : World) (id : SurfaceID) : World :=
  { world with
    focusSurface := forget id world.focusSurface
    pointerState := fun device =>
      ⟨forget id (world.pointerState device).currentTarget,
        forget id (world.pointerState device).gestureOwner⟩
    touchState := fun device => forget id (world.touchState device) }

def World.deviceReset (world : World) (device : DeviceID) : World :=
  if !world.started then world
  else
    { world with
      pointerState := Function.update world.pointerState device ⟨none, none⟩
      touchState := Function.update world.touchState device none }

/-- `alive` is whether the weak reference to the focused surface can still be locked. -/
def World.dispatchKey (world : World) (event : KeyboardEvent) (alive : Bool) : World :=
  if !world.started then world
  else
    match world.focusSurface with
    | none => world
    | some focus =>
      if alive then { world with received := .key focus event :: world.received } else world

def World.dispatchPointer (world : World) (event : PointerEvent) : World :=
  let outcome := world.scene.dispatchPointer (world.pointerState event.deviceID) event
  { world with
    pointerState := Function.update world.pointerState event.deviceID outcome.state
    received := outcome.deliveries.reverse ++ world.received }

def World.dispatchTouch (world : World) (event : TouchEvent) : World :=
  let outcome := world.scene.dispatchTouch (world.touchState event.deviceID) event
  { world with
    touchState := Function.update world.touchState event.deviceID outcome.gestureOwner
    received := outcome.deliveries.reverse ++ world.received }

inductive Op
  | key (event : KeyboardEvent) (alive : Bool)
  | touch (event : TouchEvent)
  | pointer (event : PointerEvent)
  | setFocus (target : Option SurfaceID)
  | start
  | stop
  | deviceReset (device : DeviceID)
  | addSurface (surface : Surface)
  | changeSurface (id : SurfaceID) (surface : Surface)
  | restack (surfaces : List SurfaceID)
  | removeSurface (id : SurfaceID)
  | surfaceRemoved (id : SurfaceID)

/-- The pointer event of an operation, if it is one. -/
def Op.pointerEvent : Op → Option PointerEvent
  | .pointer event => some event
  | _ => none

/-- The touch event of an operation, if it is one. -/
def Op.touchEvent : Op → Option TouchEvent
  | .touch event => some event
  | _ => none

/-- A removal of what is not there, a report of a removal that was made before, and an order of
other surfaces than those of the scene do not happen: they change nothing. -/
def World.step (world : World) : Op → World
  | .key event alive => world.dispatchKey event alive
  | .touch event => world.dispatchTouch event
  | .pointer event => world.dispatchPointer event
  | .setFocus target => { world with focusSurface := target }
  | .start => { world with started := true }
  | .stop =>
    { world with
      pointerState := fun _ => ⟨none, none⟩
      touchState := fun _ => none
      started := false }
  | .deviceReset device => world.deviceReset device
  | .addSurface surface =>
    { world with
      scene :=
        { surfaces := world.scene.surfaces ++ [world.made]
          state := Function.update world.scene.state world.made surface }
      made := world.made + 1 }
  | .changeSurface id surface =>
    { world with
      scene := { world.scene with state := Function.update world.scene.state id surface } }
  | .restack surfaces =>
    if surfaces.Perm world.scene.surfaces then
      { world with scene := { world.scene with surfaces := surfaces } }
    else world
  | .removeSurface id =>
    if id ∈ world.scene.surfaces then
      { world with
        scene := { world.scene with surfaces := world.scene.surfaces.erase id }
        removing := id :: world.removing }
    else world
  | .surfaceRemoved id =>
    if id ∈ world.removing then
      { world.surfaceRemoved id with removing := world.removing.erase id }
    else world

/-- No device is reset and the dispatcher is not stopped. -/
def Undisturbed (_ : World) : Op → Prop
  | .stop => False
  | .deviceReset _ => False
  | _ => True

instance (world : World) : (op : Op) → Decidable (Undisturbed world op)
  | .stop | .deviceReset _ => inferInstanceAs (Decidable False)
  | .key _ _ | .touch _ | .pointer _ | .setFocus _ | .start | .addSurface _ | .changeSurface _ _
  | .restack _ | .removeSurface _ | .surfaceRemoved _ => inferInstanceAs (Decidable True)

/-! ### The target -/

theorem foldl_last_find {Item : Type} (test : Item → Bool) (items : List Item)
    (first : Option Item) :
    items.foldl (fun found item => if test item then some item else found) first =
      (items.reverse.find? test).or first := by
  induction items generalizing first with
  | nil => rfl
  | cons item rest inductionHypothesis =>
    rw [List.foldl_cons, inductionHypothesis, List.reverse_cons, List.find?_append, Option.or_assoc]
    congr 1
    cases tested : test item <;> simp [tested]

/-- The target is the topmost exposed surface that contains the point. -/
theorem Scene.findTargetSurface_eq (scene : Scene) (point : Point) :
    scene.findTargetSurface point =
      scene.surfaces.reverse.find? fun id =>
        (scene.state id).exposed && (scene.state id).inputAreaContains point := by
  unfold findTargetSurface exposed
  rw [foldl_last_find, Option.or_none, ← List.filter_reverse, List.find?_filter]
  congr 1
  funext id
  rw [Bool.decide_and, Bool.decide_coe, Bool.decide_coe]

theorem Scene.findTargetSurface_mem {scene : Scene} {point : Point} {id : SurfaceID}
    (found : scene.findTargetSurface point = some id) : id ∈ scene.surfaces := by
  rw [findTargetSurface_eq] at found
  exact List.mem_reverse.mp (List.mem_of_find?_eq_some found)

/-! ### What a pointer event does -/

/-- What is sent when the pointer is found in a target: nothing if it is already there. -/
def Scene.retarget (scene : Scene) (current target : Option SurfaceID) (event : PointerEvent) :
    List Delivery :=
  if current ≠ target then scene.cross current target event else []

/-- The event as a surface receives it, with or without its relative motion. -/
def Scene.Passes (scene : Scene) (event : PointerEvent) (id : SurfaceID) (delivery : Delivery) :
    Prop :=
  delivery = scene.deliver id event ∨ delivery = scene.deliverWithoutRelativeMotion id event

/-- All that a pointer event can do. -/
inductive PointerStep (scene : Scene) (state : PointerInputState) (event : PointerEvent) :
    PointerInputState → List Delivery → Prop
  | held (owner : SurfaceID) (owned : state.gestureOwner = some owner)
      (goesOn : isGestureTerminator event = false) :
      PointerStep scene state event state [scene.deliver owner event]
  | ended (owner : SurfaceID) (owned : state.gestureOwner = some owner)
      (ends : isGestureTerminator event = true) :
      PointerStep scene state event ⟨scene.findTargetSurface event.position, none⟩
        (scene.deliver owner event ::
          scene.retarget state.currentTarget (scene.findTargetSurface event.position) event)
  | dropped (free : state.gestureOwner = none) (up : event.action = .buttonUp) :
      PointerStep scene state event state []
  | outside (free : state.gestureOwner = none) (notUp : event.action ≠ .buttonUp)
      (target : scene.findTargetSurface event.position = none) :
      PointerStep scene state event ⟨none, none⟩ (scene.retarget state.currentTarget none event)
  | inside (id : SurfaceID) (passed : List Delivery) (free : state.gestureOwner = none)
      (notUp : event.action ≠ .buttonUp)
      (target : scene.findTargetSurface event.position = some id)
      (passes : ∀ delivery ∈ passed, scene.Passes event id delivery)
      (once : event.action ≠ .motion → passed.length = 1) (atMost : passed.length ≤ 1) :
      PointerStep scene state event
        ⟨some id, if event.action = .buttonDown then some id else none⟩
        (scene.retarget state.currentTarget (some id) event ++ passed)

theorem Scene.dispatchPointer_step (scene : Scene) (state : PointerInputState)
    (event : PointerEvent) :
    PointerStep scene state event (scene.dispatchPointer state event).state
      (scene.dispatchPointer state event).deliveries := by
  cases owned : state.gestureOwner with
  | some owner =>
    simp only [dispatchPointer, owned]
    by_cases ends : isGestureTerminator event = true
    · have ended : PointerStep scene state event _ _ := .ended owner owned ends
      unfold retarget at ended
      simp only [if_pos ends]
      split_ifs at ended ⊢ with moved
      · exact ended
      · rw [not_not.mp moved]
        exact ended
    · simp only [if_neg ends]
      exact .held owner owned (Bool.not_eq_true _ ▸ ends)
  | none =>
    simp only [dispatchPointer, owned]
    by_cases up : event.action = .buttonUp
    · simp only [if_pos up]
      exact .dropped owned up
    · simp only [if_neg up]
      cases target : scene.findTargetSurface event.position with
      | none =>
        have outside := PointerStep.outside owned up target
        simpa only [retarget, decide_eq_true_eq] using outside
      | some id =>
        simp only [decide_eq_true_eq]
        refine .inside id _ owned up target ?_ ?_ ?_
        · intro delivery member
          split_ifs at member <;> simp_all [Passes]
        · intro notMotion
          split_ifs <;> rfl
        · split_ifs <;> simp

/-! ### What the other events do -/

@[simp] theorem World.dispatchPointer_pointerState (world : World) (event : PointerEvent) :
    (world.dispatchPointer event).pointerState =
      Function.update world.pointerState event.deviceID
        (world.scene.dispatchPointer (world.pointerState event.deviceID) event).state :=
  rfl

@[simp] theorem World.dispatchTouch_touchState (world : World) (event : TouchEvent) :
    (world.dispatchTouch event).touchState =
      Function.update world.touchState event.deviceID
        (world.scene.dispatchTouch (world.touchState event.deviceID) event).gestureOwner :=
  rfl

/-- A key is given to the focused surface or to none. -/
theorem World.dispatchKey_cases (world : World) (event : KeyboardEvent) (alive : Bool) :
    world.dispatchKey event alive = world ∨
      ∃ focus, world.dispatchKey event alive =
        { world with received := .key focus event :: world.received } := by
  unfold dispatchKey
  cases world.started with
  | false => exact .inl rfl
  | true =>
    cases world.focusSurface with
    | none => exact .inl rfl
    | some focus =>
      cases alive with
      | false => exact .inl rfl
      | true => exact .inr ⟨focus, rfl⟩

/-- A touch event is given to the owner of the gesture, if there is one. -/
theorem Scene.dispatchTouch_deliveries (scene : Scene) (gestureOwner : Option SurfaceID)
    (event : TouchEvent) :
    (scene.dispatchTouch gestureOwner event).deliveries =
      (if isGestureStart event then scene.findTargetSurface event.position
        else gestureOwner).toList.map fun id => scene.deliverTouch id event := by
  unfold dispatchTouch
  dsimp only
  split <;> simp_all

theorem Scene.dispatchTouch_gestureOwner (scene : Scene) (gestureOwner : Option SurfaceID)
    (event : TouchEvent) :
    (scene.dispatchTouch gestureOwner event).gestureOwner =
      if isGestureEnd event then none
      else if isGestureStart event then scene.findTargetSurface event.position
      else gestureOwner := by
  unfold dispatchTouch
  dsimp only
  split <;> simp_all

theorem forget_eq_some {id other : SurfaceID} {held : Option SurfaceID} :
    forget id held = some other ↔ held = some other ∧ other ≠ id := by
  unfold forget
  split_ifs with same
  · subst same
    simp only [Option.some.injEq, false_iff, not_and, not_not]
    exact Eq.symm
  · refine ⟨fun equal => ⟨equal, ?_⟩, And.left⟩
    rintro rfl
    exact same equal

/-! ### The surfaces the dispatcher may hold -/

/-- The surfaces in the scene, and those that have left it without the dispatcher being told. -/
def World.known (world : World) : List SurfaceID := world.scene.surfaces ++ world.removing

/-- All that an operation can do to the known surfaces. -/
inductive KnownStep (world : World) (op : Op) (next : World) : Prop
  | same (perm : next.known.Perm world.known) (made : next.made = world.made)
  | added (surface : Surface) (asked : op = .addSurface surface)
      (perm : next.known.Perm (world.made :: world.known)) (made : next.made = world.made + 1)
  | forgotten (id : SurfaceID) (asked : op = .surfaceRemoved id) (removing : id ∈ world.removing)
      (perm : next.known.Perm (world.known.erase id)) (made : next.made = world.made)

/-- Each surface is known once, and the surfaces that are known have been made. -/
structure World.Placed (world : World) : Prop where
  distinct : world.known.Nodup
  below : ∀ id ∈ world.known, id < world.made

theorem World.placed_initial : World.initial.Placed where
  distinct := List.nodup_nil
  below := fun _ member => absurd member List.not_mem_nil

namespace World.Placed

variable {world : World}

theorem knownStep (placed : world.Placed) (op : Op) : KnownStep world op (world.step op) := by
  cases op with
  | key event alive =>
    rcases world.dispatchKey_cases event alive with same | ⟨focus, given⟩
    · have same : world.step (.key event alive) = world := same
      rw [same]
      exact .same (.refl _) rfl
    · have given : world.step (.key event alive) = _ := given
      rw [given]
      exact .same (.refl _) rfl
  | touch event => exact .same (.refl _) rfl
  | pointer event => exact .same (.refl _) rfl
  | setFocus target => exact .same (.refl _) rfl
  | start => exact .same (.refl _) rfl
  | stop => exact .same (.refl _) rfl
  | deviceReset device =>
    dsimp only [World.step, World.deviceReset]
    split_ifs <;> exact .same (.refl _) rfl
  | addSurface surface =>
    refine .added surface rfl ?_ rfl
    have known : (world.step (.addSurface surface)).known =
        world.scene.surfaces ++ world.made :: world.removing :=
      List.append_assoc _ _ _
    rw [known]
    exact List.perm_middle
  | changeSurface id surface => exact .same (.refl _) rfl
  | restack surfaces =>
    dsimp only [World.step]
    split_ifs with same
    · exact .same (same.append_right _) rfl
    · exact .same (.refl _) rfl
  | removeSurface id =>
    dsimp only [World.step]
    split_ifs with member
    · have moved := (List.perm_cons_erase member).symm.append_right world.removing
      exact .same (List.perm_middle.trans moved) rfl
    · exact .same (.refl _) rfl
  | surfaceRemoved id =>
    dsimp only [World.step]
    split_ifs with member
    · refine .forgotten id rfl member ?_ rfl
      have notShown : id ∉ world.scene.surfaces := fun shown =>
        (List.nodup_append.mp placed.distinct).2.2 id shown id member rfl
      rw [World.known, World.known, List.erase_append_right _ notShown]
      rfl
    · exact .same (.refl _) rfl

theorem step (placed : world.Placed) (op : Op) : (world.step op).Placed := by
  cases placed.knownStep op with
  | same perm made =>
    refine ⟨perm.nodup_iff.mpr placed.distinct, fun id member => ?_⟩
    rw [made]
    exact placed.below id (perm.mem_iff.mp member)
  | added surface asked perm made =>
    refine ⟨perm.nodup_iff.mpr (List.nodup_cons.mpr ⟨fun member => ?_, placed.distinct⟩),
      fun id member => ?_⟩
    · exact absurd (placed.below _ member) (Nat.lt_irrefl _)
    · rw [made]
      rcases List.mem_cons.mp (perm.mem_iff.mp member) with rfl | old
      · exact Nat.lt_succ_self _
      · exact Nat.lt_succ_of_lt (placed.below id old)
  | forgotten id asked removing perm made =>
    refine ⟨perm.nodup_iff.mpr (placed.distinct.erase id), fun other member => ?_⟩
    rw [made]
    exact placed.below other (List.mem_of_mem_erase (perm.mem_iff.mp member))

theorem made_step (placed : world.Placed) (op : Op) : world.made ≤ (world.step op).made := by
  cases placed.knownStep op with
  | same perm made => exact made.ge
  | added surface asked perm made => exact made ▸ Nat.le_succ _
  | forgotten id asked removing perm made => exact made.ge

/-- A surface that is known after an operation was known before or is new. -/
theorem known_of_step (placed : world.Placed) (op : Op) {id : SurfaceID}
    (member : id ∈ (world.step op).known) : id ∈ world.known ∨ world.made ≤ id := by
  cases placed.knownStep op with
  | same perm made => exact .inl (perm.mem_iff.mp member)
  | added surface asked perm made =>
    rcases List.mem_cons.mp (perm.mem_iff.mp member) with rfl | old
    · exact .inr (Nat.le_refl _)
    · exact .inl old
  | forgotten id asked removing perm made =>
    exact .inl (List.mem_of_mem_erase (perm.mem_iff.mp member))

/-- A known surface stays known unless its removal is reported. -/
theorem kept_known (placed : world.Placed) (op : Op) {id : SurfaceID} (member : id ∈ world.known)
    (kept : op = .surfaceRemoved id → id ∉ world.removing) : id ∈ (world.step op).known := by
  cases placed.knownStep op with
  | same perm made => exact perm.mem_iff.mpr member
  | added surface asked perm made => exact perm.mem_iff.mpr (List.mem_cons_of_mem _ member)
  | forgotten other asked removing perm made =>
    have different : id ≠ other := by
      rintro rfl
      exact kept asked removing
    exact perm.mem_iff.mpr ((List.mem_erase_of_ne different).mpr member)

/-- A surface whose removal is reported is no longer known. -/
theorem removed_unknown (placed : world.Placed) {id : SurfaceID} (removing : id ∈ world.removing) :
    id ∉ (world.step (.surfaceRemoved id)).known := by
  have notShown : id ∉ world.scene.surfaces := fun shown =>
    (List.nodup_append.mp placed.distinct).2.2 id shown id removing rfl
  have known : (world.step (.surfaceRemoved id)).known = world.known.erase id := by
    dsimp only [World.step]
    rw [if_pos removing, World.known, World.known, List.erase_append_right _ notShown]
    rfl
  rw [known]
  exact placed.distinct.not_mem_erase

end World.Placed

/-! ### What the dispatcher forgets -/

/-- What an operation makes of a surface that the dispatcher may hold. -/
def World.forgets (world : World) (held : Option SurfaceID) : Op → Option SurfaceID
  | .surfaceRemoved id => if id ∈ world.removing then forget id held else held
  | _ => held

/-- A known surface that is held is held until it is no longer known. -/
theorem World.Placed.forgets_eq_some {world : World} (placed : world.Placed) (op : Op)
    {held : Option SurfaceID} (known : ∀ id, held = some id → id ∈ world.known) (id : SurfaceID) :
    world.forgets held op = some id ↔ held = some id ∧ id ∈ (world.step op).known := by
  by_cases told : ∃ removed, op = .surfaceRemoved removed ∧ removed ∈ world.removing
  · obtain ⟨removed, rfl, removing⟩ := told
    rw [World.forgets, if_pos removing, forget_eq_some]
    refine and_congr_right fun isHeld => ⟨fun other => ?_, fun member same => ?_⟩
    · refine placed.kept_known _ (known id isHeld) fun same => ?_
      cases same
      exact absurd rfl other
    · subst same
      exact placed.removed_unknown removing member
  · have same : world.forgets held op = held := by
      unfold World.forgets
      split
      · next removed => exact if_neg fun removing => told ⟨removed, rfl, removing⟩
      · rfl
    rw [same]
    refine ⟨fun isHeld => ⟨isHeld, placed.kept_known op (known id isHeld) fun asked removing => ?_⟩,
      And.left⟩
    exact told ⟨id, asked, removing⟩

/-- What an operation that is no event of a pointer device does to the state of the device. -/
theorem World.pointerState_step (world : World) (op : Op) (permitted : Undisturbed world op)
    (device : DeviceID) (other : ∀ event ∈ op.pointerEvent, event.deviceID ≠ device) :
    (world.step op).pointerState device =
      ⟨world.forgets (world.pointerState device).currentTarget op,
        world.forgets (world.pointerState device).gestureOwner op⟩ := by
  cases op with
  | key event alive =>
    rcases world.dispatchKey_cases event alive with same | ⟨focus, given⟩
    · exact congrFun (congrArg World.pointerState same) device
    · exact congrFun (congrArg World.pointerState given) device
  | pointer event => exact Function.update_of_ne (other event rfl).symm _ _
  | stop => exact permitted.elim
  | deviceReset device => exact permitted.elim
  | restack surfaces =>
    dsimp only [World.step]
    split_ifs <;> rfl
  | removeSurface id =>
    dsimp only [World.step]
    split_ifs <;> rfl
  | surfaceRemoved id =>
    dsimp only [World.step, World.forgets]
    split_ifs <;> rfl
  | touch _ | setFocus _ | start | addSurface _ | changeSurface _ _ => rfl

/-- What is received through an operation that is no pointer event. -/
theorem World.received_step (world : World) (op : Op) (notPointer : op.pointerEvent = none) :
    (world.step op).received = world.received ∨
      (∃ id event, (world.step op).received = .key id event :: world.received) ∨
      ∃ id event, (world.step op).received = .touch id event :: world.received := by
  cases op with
  | key event alive =>
    rcases world.dispatchKey_cases event alive with same | ⟨focus, given⟩
    · exact .inl (congrArg World.received same)
    · exact .inr (.inl ⟨focus, event, congrArg World.received given⟩)
  | touch event =>
    dsimp only [World.step, World.dispatchTouch]
    rw [Scene.dispatchTouch_deliveries]
    cases (if isGestureStart event then world.scene.findTargetSurface event.position
      else world.touchState event.deviceID) with
    | none => exact .inl rfl
    | some owner => exact .inr (.inr ⟨owner, _, rfl⟩)
  | pointer event => cases notPointer
  | deviceReset device =>
    dsimp only [World.step, World.deviceReset]
    split_ifs <;> exact .inl rfl
  | restack surfaces =>
    dsimp only [World.step]
    split_ifs <;> exact .inl rfl
  | removeSurface id =>
    dsimp only [World.step]
    split_ifs <;> exact .inl rfl
  | surfaceRemoved id =>
    dsimp only [World.step]
    split_ifs <;> exact .inl rfl
  | setFocus _ | start | stop | addSurface _ | changeSurface _ _ => exact .inl rfl

end Mir.Input

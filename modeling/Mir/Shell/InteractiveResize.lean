/-
This file says when the edges of a window that are not dragged stay where they are while it is
resized with the pointer or with four fingers.

Where the cursor was when a gesture starts, the active surface is selected, and the edges that are
dragged are those opposite to the corner farthest from there. Each motion changes the lengths by
what the cursor moved by, and if the left or the top edge is dragged also the position. Lengths are
then made large enough and constrained; a surface that is dragged by its left edge is moved by what
a constraint adds to its width, though its right edge would stay if it were moved back by that. The
pointer keeps to the surface and the edges, and fingers choose them again with each motion.

Sums of coordinates and lengths wrap an `int`, so edges are compared as an `int` has them.
-/

import Mir.Library.Transition
import Mir.Shell.WindowGeometry

namespace Mir.Shell

open Fallible Mir.Geometry

/-! ### The state -/

/-- Where the cursor of an event is, and what is answered on the way: which surfaces are where it is
and was, which is the default one, and whether a surface has input where it was. -/
structure CursorEvent where
  cursor : Point
  surfaceAtCursor : Option SurfaceID
  surfaceAtOldCursor : Option SurfaceID
  defaultSurface : Option SurfaceID
  inputAreaContains : SurfaceID → Bool

inductive PointerAction
  | buttonDown
  | motion
  | other
  deriving DecidableEq, Repr

structure PointerEvent extends CursorEvent where
  action : PointerAction
  onlyAlt : Bool
  primary : Bool
  tertiary : Bool

inductive TouchAction
  | up
  | down
  | change
  deriving DecidableEq, Repr

/-- The cursor is in the middle of the fingers. -/
structure TouchEvent extends CursorEvent where
  actions : List TouchAction

inductive InputEvent
  | pointer (event : PointerEvent)
  | touch (event : TouchEvent)

def InputEvent.toCursorEvent : InputEvent → CursorEvent
  | .pointer event => event.toCursorEvent
  | .touch event => event.toCursorEvent

/-- Whether an event resizes the active surface and does nothing else. -/
def InputEvent.resizes : InputEvent → Bool
  | .pointer event =>
    decide (event.action = .motion) && event.onlyAlt && event.tertiary && !event.primary
  | .touch event => decide (event.actions = [.change, .change, .change, .change])

structure CursorPolicy extends PlacedPolicy where
  oldCursor : Point
  resizing : Bool
  leftResize : Bool
  topResize : Bool

/-! ### The operations -/

/-- The length of a surface whose edge is dragged, and how far its other end may be moved. -/
def dragLength (dragsStart : Bool) (minLength length delta : Int) : Int × Int :=
  let newLength := asInt (length + asInt ((if dragsStart then -1 else 1) * delta))
  let least := max minLength 5
  if newLength < least then (least, if delta > 0 then 0 else delta) else (newLength, delta)

def dragPosition (dragsStart : Bool) (position delta : Int) : Int :=
  if dragsStart then asInt (position + delta) else position

def lengthSquared (first second : Point) : Int :=
  let dx := asInt (first.x - second.x)
  let dy := asInt (first.y - second.y)
  asLong (dx * dx + dy * dy)

/-- The corner farthest from the cursor. -/
def farthestCorner (rect : Rectangle) (cursor : Point) : Point :=
  let right := asInt rect.right
  let bottom := asInt rect.bottom
  let corners : List Point := [⟨right, rect.top⟩, ⟨rect.left, bottom⟩, rect.topLeft]
  corners.foldl
    (fun anchor corner =>
      if lengthSquared cursor anchor < lengthSquared cursor corner then corner else anchor)
    ⟨right, bottom⟩

namespace CursorPolicy

/-- Whether the left edge is dragged, and whether the top edge is. -/
def draggedEdges (policy : CursorPolicy) (surface : SurfaceID) : Bool × Bool :=
  if policy.resizing then (policy.leftResize, policy.topResize)
  else
    let anchor := farthestCorner (policy.rect surface) policy.oldCursor
    (decide (anchor.x ≠ (policy.topLeft surface).x), decide (anchor.y ≠ (policy.topLeft surface).y))

/-- The position and size that the cursor asks for. -/
def draggedTo (policy : CursorPolicy) (surface : SurfaceID) (cursor : Point) : Point × Size :=
  let (left, top) := policy.draggedEdges surface
  let constraints := policy.constraints surface
  let size := policy.size surface
  let topLeft := policy.topLeft surface
  let (newWidth, dx) := dragLength left constraints.minWidth size.width
    (asInt (cursor.x - policy.oldCursor.x))
  let (newHeight, dy) := dragLength top constraints.minHeight size.height
    (asInt (cursor.y - policy.oldCursor.y))
  (⟨dragPosition left topLeft.x dx, dragPosition top topLeft.y dy⟩, ⟨newWidth, newHeight⟩)

def resize (policy : CursorPolicy) (surface : Option SurfaceID) (cursor : Point) :
    Except ResizeFailure CursorPolicy :=
  match surface with
  | none => .ok policy
  | some surface =>
    if policy.manager.surfaceInfo surface = none then .error (.failed .outOfRange)
    else do
      let (left, top) := policy.draggedEdges surface
      let (newPos, newSize) := policy.draggedTo surface cursor
      let placed ← policy.resizeWithin (policy.constraints surface) surface newPos newSize left top
      return { policy with toPlacedPolicy := placed, leftResize := left, topResize := top }

def selectActiveSurface (policy : CursorPolicy) (surface : Option SurfaceID) :
    Except ResizeFailure CursorPolicy :=
  match policy.manager.selectActiveSurface (policy.manager.made + 1) surface with
  | .error failure => .error (.failed failure)
  | .ok active => .ok { policy with manager := { policy.manager with activeSurface := active } }

/-- The active surface is selected unless the pointer is resizing it. -/
def selectResized (policy : CursorPolicy) (event : CursorEvent) :
    Except ResizeFailure CursorPolicy :=
  if policy.resizing then .ok policy else policy.selectActiveSurface event.surfaceAtOldCursor

def resizeActive (policy : CursorPolicy) (event : CursorEvent) :
    Except ResizeFailure CursorPolicy := do
  let selected ← policy.selectResized event
  let resized ← selected.resize (selected.manager.activeSurfaceOr event.defaultSurface) event.cursor
  return { resized with oldCursor := event.cursor }

/-- A surface that is maximized in a direction is not dragged in it. -/
def drag (policy : CursorPolicy) (surface : Option SurfaceID) (event : CursorEvent) :
    Except ResizeFailure CursorPolicy :=
  match surface with
  | none => .ok policy
  | some surface =>
    let dx := event.cursor.x - policy.oldCursor.x
    let dy := event.cursor.y - policy.oldCursor.y
    let move (movement : Point) : Except ResizeFailure CursorPolicy := do
      let placed ← policy.moveTree surface movement
      return { policy with toPlacedPolicy := placed }
    if !event.inputAreaContains surface then .ok policy
    else if policy.manager.surfaceInfo surface = none then .error (.failed .outOfRange)
    else
      match policy.state surface with
      | .restored => move ⟨dx, dy⟩
      | .vertmaximized => move ⟨dx, 0⟩
      | .horizmaximized => move ⟨0, dy⟩
      | _ => .ok policy

def dragActive (policy : CursorPolicy) (event : CursorEvent) :
    Except ResizeFailure CursorPolicy := do
  let selected ← policy.selectActiveSurface event.surfaceAtOldCursor
  let dragged ← selected.drag (selected.manager.activeSurfaceOr event.defaultSurface) event
  return { dragged with oldCursor := event.cursor }

def click (policy : CursorPolicy) (event : CursorEvent) : Except ResizeFailure CursorPolicy :=
  match event.surfaceAtCursor with
  | none => .ok policy
  | some surface => policy.selectActiveSurface (some surface)

/-- Whether the active surface can be locked. -/
def hasActiveSurface (policy : CursorPolicy) : Bool :=
  (policy.manager.activeSurface.bind policy.manager.lock).isSome

/-- With both buttons pressed a surface is dragged and then resized. -/
def moveWithAlt (policy : CursorPolicy) (event : PointerEvent) :
    Except ResizeFailure CursorPolicy :=
  (if event.primary then policy.dragActive event.toCursorEvent else .ok policy) >>= fun dragged =>
    if event.tertiary then dragged.resizeActive event.toCursorEvent else .ok dragged

def handleAction (policy : CursorPolicy) (event : PointerEvent) :
    Except ResizeFailure CursorPolicy :=
  match event.action with
  | .buttonDown => policy.click event.toCursorEvent
  | .motion => if event.onlyAlt then policy.moveWithAlt event else .ok policy
  | .other => .ok policy

/-- Whether the pointer is resizing a surface is noted last, and with it where the cursor is. -/
def handlePointerEvent (policy : CursorPolicy) (event : PointerEvent) :
    Except ResizeFailure CursorPolicy := do
  let handled ← policy.handleAction event
  let resizeEvent := decide (event.action = .motion) && event.onlyAlt && event.tertiary
  return { handled with
    resizing := resizeEvent && handled.hasActiveSurface
    oldCursor := event.cursor }

/-- Four fingers resize, and three drag. -/
def handleFingers (policy : CursorPolicy) (event : TouchEvent) :
    Except ResizeFailure CursorPolicy :=
  if .down ∈ event.actions then .ok policy
  else
    match event.actions.length with
    | 4 => policy.resizeActive event.toCursorEvent
    | 3 => policy.dragActive event.toCursorEvent
    | _ => .ok policy

/-- When a finger is lifted nothing is done, not even to note where the cursor is. -/
def handleTouchEvent (policy : CursorPolicy) (event : TouchEvent) :
    Except ResizeFailure CursorPolicy :=
  if .up ∈ event.actions then .ok policy
  else do
    let handled ← policy.handleFingers event
    return { handled with oldCursor := event.cursor }

def handleEvent (policy : CursorPolicy) : InputEvent → Except ResizeFailure CursorPolicy
  | .pointer event => policy.handlePointerEvent event
  | .touch event => policy.handleTouchEvent event

end CursorPolicy

/-! ### One length -/

/-- The length that is dragged is not made large enough, or it is the least already and its start is
not moved. -/
def LeavesLength (minLength length delta : Int) : Prop :=
  max minLength 5 ≤ asInt (length + asInt (-delta)) ∨ 0 < delta ∧ length = max minLength 5

instance (minLength length delta : Int) : Decidable (LeavesLength minLength length delta) :=
  inferInstanceAs (Decidable (_ ∨ _))

theorem least_le_dragLength (dragsStart : Bool) (minLength length delta : Int) :
    5 ≤ (dragLength dragsStart minLength length delta).1 := by
  unfold dragLength
  dsimp only
  split_ifs <;> omega

/-- The end of a length that is dragged by its start stays, if what is asked for is given. -/
theorem dragLength_end {minLength length delta given : Int}
    (leaves : LeavesLength minLength length delta) (position : Int)
    (isGiven : given = (dragLength true minLength length delta).1) :
    let dragged := dragLength true minLength length delta
    asInt (asInt (dragPosition true position dragged.2 + asInt (given - dragged.1)) +
      if given ≤ 0 then 1 else given) = asInt (position + length) := by
  have least := least_le_dragLength true minLength length delta
  dsimp only
  rw [if_neg (by omega), isGiven, Int.sub_self]
  clear isGiven least
  have sign : (if true = true then (-1 : Int) else 1) * delta = -delta := by simp
  unfold dragLength dragPosition
  dsimp only
  rw [sign, if_pos rfl]
  by_cases enough : max minLength 5 ≤ asInt (length + asInt (-delta))
  · rw [if_neg (Int.not_lt.mpr enough)]
    unfold asInt
    simp only [Rounding.wrap_wrap_add, Rounding.wrap_add_wrap]
    congr 1
    omega
  · obtain ⟨positive, isLeast⟩ := leaves.resolve_left enough
    rw [if_pos (Int.not_le.mp enough), if_pos positive, ← isLeast]
    unfold asInt
    simp only [Rounding.wrap_wrap_add, Rounding.wrap_add_wrap, Int.add_zero]

/-! ### One event -/

namespace CursorPolicy

variable {policy next start last : CursorPolicy} {surface : SurfaceID} {event : InputEvent}

/-- The edges that are not dragged are where they were. -/
structure KeepsEdges (before after : CursorPolicy) (surface : SurfaceID) : Prop where
  left : after.leftResize = false → (after.rect surface).left = (before.rect surface).left
  right : after.leftResize = true →
    asInt (after.rect surface).right = asInt (before.rect surface).right
  top : after.topResize = false → (after.rect surface).top = (before.rect surface).top
  bottom : after.topResize = true →
    asInt (after.rect surface).bottom = asInt (before.rect surface).bottom

/-- The condition under which they are: a length whose left or top end is dragged is not made large
enough, and constraints give it as it is asked for. -/
structure LeavesEdges (policy : CursorPolicy) (surface : SurfaceID) (cursor : Point) : Prop where
  width : (policy.draggedEdges surface).1 = true →
    LeavesLength (policy.constraints surface).minWidth (policy.size surface).width
      (asInt (cursor.x - policy.oldCursor.x)) ∧
    ∀ given ∈ (policy.constraints surface).constrainSize (policy.draggedTo surface cursor).2,
      given.width = (policy.draggedTo surface cursor).2.width
  height : (policy.draggedEdges surface).2 = true →
    LeavesLength (policy.constraints surface).minHeight (policy.size surface).height
      (asInt (cursor.y - policy.oldCursor.y)) ∧
    ∀ given ∈ (policy.constraints surface).constrainSize (policy.draggedTo surface cursor).2,
      given.height = (policy.draggedTo surface cursor).2.height

instance (policy : CursorPolicy) (surface : SurfaceID) (cursor : Point) :
    Decidable (policy.LeavesEdges surface cursor) :=
  decidable_of_iff (((policy.draggedEdges surface).1 = true → _) ∧
      ((policy.draggedEdges surface).2 = true → _))
    ⟨fun both => ⟨both.1, both.2⟩, fun leaves => ⟨leaves.width, leaves.height⟩⟩

/-- A restored surface gets the size that constraints make of the one it is asked to have, and is
moved by what they add to the lengths that are dragged by their start. -/
theorem resizeWithin_restored {policy next : PlacedPolicy} {constraints : SizeConstraints}
    {newPos : Point} {newSize : Size} {left top : Bool} (numbered : policy.manager.Numbered)
    (restored : policy.state surface = .restored)
    (done : policy.resizeWithin constraints surface newPos newSize left top = .ok next) :
    ∃ given, constraints.constrainSize newSize = some given ∧
      next.toCanonicalPolicy = policy.toCanonicalPolicy ∧
      next.rect surface =
        ⟨⟨if left then asInt (newPos.x + asInt (given.width - newSize.width)) else newPos.x,
          if top then asInt (newPos.y + asInt (given.height - newSize.height)) else newPos.y⟩,
          resized given⟩ := by
  unfold PlacedPolicy.resizeWithin SizeConstraints.constrainResize at done
  rw [restored] at done
  cases isGiven : constraints.constrainSize newSize with
  | none =>
    rw [isGiven] at done
    cases done
  | some given =>
    rw [isGiven] at done
    have same := PlacedPolicy.applyResize_eq done
    refine ⟨given, rfl, ?_, ?_⟩
    · rw [same]
    · have size : next.size surface = resized given := by
        rw [same]
        exact Function.update_self _ _ _
      rw [PlacedPolicy.rect, size, PlacedPolicy.applyResize_topLeft numbered done]

theorem resize_eq {cursor : Point} (done : policy.resize (some surface) cursor = .ok next) :
    ∃ placed, policy.resizeWithin (policy.constraints surface) surface
        (policy.draggedTo surface cursor).1 (policy.draggedTo surface cursor).2
        (policy.draggedEdges surface).1 (policy.draggedEdges surface).2 = .ok placed ∧
      next = { policy with
        toPlacedPolicy := placed
        leftResize := (policy.draggedEdges surface).1
        topResize := (policy.draggedEdges surface).2 } := by
  unfold resize at done
  dsimp only at done
  split_ifs at done
  obtain ⟨placed, isPlaced, done⟩ := bind_ok done
  exact ⟨placed, isPlaced, (Except.ok.inj done).symm⟩

theorem resize_keepsEdges {cursor : Point} (numbered : policy.manager.Numbered)
    (restored : policy.state surface = .restored) (leaves : policy.LeavesEdges surface cursor)
    (done : policy.resize (some surface) cursor = .ok next) : KeepsEdges policy next surface := by
  obtain ⟨placed, isPlaced, rfl⟩ := resize_eq done
  obtain ⟨given, isGiven, -, rect⟩ := resizeWithin_restored numbered restored isPlaced
  constructor
  · intro notLeft
    dsimp only [Rectangle.left] at notLeft ⊢
    rw [rect, notLeft]
    dsimp only [draggedTo]
    rw [notLeft]
    rfl
  · intro left
    dsimp only [Rectangle.right, Rectangle.bottomRight] at left ⊢
    obtain ⟨leavesLength, gives⟩ := leaves.width left
    have isAsked := gives given isGiven
    rw [rect, left]
    dsimp only [draggedTo] at isAsked ⊢
    rw [left] at isAsked ⊢
    exact dragLength_end leavesLength _ isAsked
  · intro notTop
    dsimp only [Rectangle.top] at notTop ⊢
    rw [rect, notTop]
    dsimp only [draggedTo]
    rw [notTop]
    rfl
  · intro top
    dsimp only [Rectangle.bottom, Rectangle.bottomRight] at top ⊢
    obtain ⟨leavesLength, gives⟩ := leaves.height top
    have isAsked := gives given isGiven
    rw [rect, top]
    dsimp only [draggedTo] at isAsked ⊢
    rw [top] at isAsked ⊢
    exact dragLength_end leavesLength _ isAsked

/-- What another surface being active leaves of the policy. -/
def withActive (policy : CursorPolicy) (active : Option SurfaceID) : CursorPolicy :=
  { policy with manager := { policy.manager with activeSurface := active } }

theorem selectResized_eq {event : CursorEvent} (done : policy.selectResized event = .ok next) :
    ∃ active, next = policy.withActive active ∧
      (policy.resizing = true → active = policy.manager.activeSurface) := by
  unfold selectResized selectActiveSurface at done
  split_ifs at done with resizing
  · exact ⟨policy.manager.activeSurface, (Except.ok.inj done).symm, fun _ => rfl⟩
  · split at done
    · cases done
    · exact ⟨_, (Except.ok.inj done).symm, fun isResizing => absurd isResizing resizing⟩

/-- The surface that an event resizes. -/
def resizedSurface (policy : CursorPolicy) (event : CursorEvent) : Option SurfaceID :=
  match policy.selectResized event with
  | .ok selected => selected.manager.activeSurfaceOr event.defaultSurface
  | .error _ => none

theorem resizedSurface_of_resizing (resizing : policy.resizing = true)
    (active : policy.manager.activeSurface.bind policy.manager.lock = some surface)
    (event : CursorEvent) : policy.resizedSurface event = some surface := by
  unfold resizedSurface selectResized
  rw [if_pos resizing]
  dsimp only
  unfold Manager.activeSurfaceOr
  rw [active]

/-- The pointer is resizing after an event of its own if there is an active surface. -/
def resizingAfter (resized : CursorPolicy) : InputEvent → Bool
  | .pointer _ => resized.hasActiveSurface
  | .touch _ => resized.resizing

theorem handleEvent_eq (resizes : event.resizes = true)
    (done : policy.handleEvent event = .ok next) :
    ∃ resized, policy.resizeActive event.toCursorEvent = .ok resized ∧
      next = { resized with
        resizing := resized.resizingAfter event
        oldCursor := event.toCursorEvent.cursor } := by
  cases event with
  | pointer event =>
    dsimp only [InputEvent.resizes] at resizes
    simp only [Bool.and_eq_true, Bool.not_eq_true', decide_eq_true_iff] at resizes
    obtain ⟨⟨⟨isMotion, onlyAlt⟩, tertiary⟩, notPrimary⟩ := resizes
    obtain ⟨resized, isResized, done⟩ := bind_ok done
    unfold handleAction moveWithAlt at isResized
    rw [isMotion, onlyAlt, tertiary, notPrimary] at isResized
    refine ⟨resized, isResized, ?_⟩
    cases done
    rw [isMotion, onlyAlt, tertiary]
    rfl
  | touch event =>
    have fingers : event.actions = [.change, .change, .change, .change] :=
      decide_eq_true_iff.mp resizes
    dsimp only [handleEvent] at done
    rw [handleTouchEvent, if_neg (by rw [fingers]; decide)] at done
    obtain ⟨resized, isResized, done⟩ := bind_ok done
    rw [handleFingers, if_neg (by rw [fingers]; decide), fingers] at isResized
    exact ⟨resized, isResized, (Except.ok.inj done).symm⟩

theorem resizeActive_eq {event : CursorEvent} (done : policy.resizeActive event = .ok next) :
    ∃ active resized, (policy.withActive active).resize (policy.resizedSurface event) event.cursor =
        .ok resized ∧
      (policy.withActive active).manager.activeSurfaceOr event.defaultSurface =
        policy.resizedSurface event ∧
      (policy.resizing = true → active = policy.manager.activeSurface) ∧
      next = { resized with oldCursor := event.cursor } := by
  obtain ⟨selected, isSelected, afterSelection⟩ := bind_ok done
  obtain ⟨resized, isResized, ends⟩ := bind_ok afterSelection
  obtain ⟨active, rfl, same⟩ := selectResized_eq isSelected
  have target : (policy.withActive active).manager.activeSurfaceOr event.defaultSurface =
      policy.resizedSurface event := by
    rw [resizedSurface, isSelected]
  rw [target] at isResized
  exact ⟨active, resized, isResized, target, same, (Except.ok.inj ends).symm⟩

/-- What holds of a surface in the course of a gesture. -/
structure InGesture (start policy : CursorPolicy) (surface : SurfaceID) : Prop where
  numbered : policy.manager.Numbered
  restored : policy.state surface = .restored
  selected : policy.resizing = true →
    policy.manager.activeSurface.bind policy.manager.lock = some surface
  edges : KeepsEdges start policy surface

/-- An event drags the edges that it is to drag, and the others stay. -/
theorem handleEvent_inGesture (numbered : policy.manager.Numbered)
    (restored : policy.state surface = .restored)
    (selected : policy.resizing = true →
      policy.manager.activeSurface.bind policy.manager.lock = some surface)
    (resizes : event.resizes = true)
    (target : policy.resizedSurface event.toCursorEvent = some surface)
    (leaves : policy.LeavesEdges surface event.toCursorEvent.cursor)
    (done : policy.handleEvent event = .ok next) :
    InGesture policy next surface ∧
      (next.leftResize, next.topResize) = policy.draggedEdges surface := by
  obtain ⟨handled, isHandled, rfl⟩ := handleEvent_eq resizes done
  obtain ⟨active, resized, isResized, isTarget, same, rfl⟩ := resizeActive_eq isHandled
  rw [target] at isResized isTarget
  have numberedActive : (policy.withActive active).manager.Numbered :=
    ⟨numbered.registered, numbered.parents, numbered.children⟩
  have edges := resize_keepsEdges numberedActive restored ⟨leaves.width, leaves.height⟩ isResized
  obtain ⟨placed, isPlaced, rfl⟩ := resize_eq isResized
  obtain ⟨-, -, canonical, -⟩ := resizeWithin_restored numberedActive restored isPlaced
  have manager : placed.manager = (policy.withActive active).manager := by rw [canonical]
  have state : placed.state = policy.state := by
    rw [canonical]
    rfl
  refine ⟨⟨?_, ?_, ?_, ⟨edges.left, edges.right, edges.top, edges.bottom⟩⟩, rfl⟩
  · dsimp only
    rw [manager]
    exact numberedActive
  · dsimp only
    rw [state]
    exact restored
  · intro resizing
    cases event with
    | pointer event =>
      dsimp only [resizingAfter, hasActiveSurface] at resizing ⊢
      rw [manager] at resizing ⊢
      obtain ⟨other, isActive⟩ := Option.isSome_iff_exists.mp resizing
      unfold Manager.activeSurfaceOr at isTarget
      rw [isActive] at isTarget ⊢
      exact isTarget
    | touch event =>
      dsimp only [resizingAfter] at resizing ⊢
      rw [manager, same resizing]
      exact selected resizing

/-! ### Gestures -/

theorem KeepsEdges.trans {middle : CursorPolicy} (first : KeepsEdges start middle surface)
    (second : KeepsEdges middle last surface)
    (same : (last.leftResize, last.topResize) = (middle.leftResize, middle.topResize)) :
    KeepsEdges start last surface := by
  obtain ⟨sameLeft, sameTop⟩ := Prod.mk.inj same
  constructor
  · exact fun notLeft => (second.left notLeft).trans (first.left (sameLeft ▸ notLeft))
  · exact fun left => (second.right left).trans (first.right (sameLeft ▸ left))
  · exact fun notTop => (second.top notTop).trans (first.top (sameTop ▸ notTop))
  · exact fun top => (second.bottom top).trans (first.bottom (sameTop ▸ top))

/-- An event after others, if none of them failed. -/
def step (outcome : Except ResizeFailure CursorPolicy) (event : InputEvent) :
    Except ResizeFailure CursorPolicy :=
  outcome >>= fun policy => policy.handleEvent event

/-- A gesture goes on while the pointer is resizing, or if fingers choose the surface and the edges
again that they chose before. -/
def GoesOn (policy : CursorPolicy) (surface : SurfaceID) : InputEvent → Prop
  | .pointer _ => policy.resizing = true
  | .touch event => policy.resizedSurface event.toCursorEvent = some surface ∧
      policy.draggedEdges surface = (policy.leftResize, policy.topResize)

instance (policy : CursorPolicy) (surface : SurfaceID) (event : InputEvent) :
    Decidable (policy.GoesOn surface event) :=
  match event with
  | .pointer _ => inferInstanceAs (Decidable (policy.resizing = true))
  | .touch _ => inferInstanceAs (Decidable (_ ∧ _))

/-- It goes on with an event that resizes and meets the condition. -/
def Allowed (surface : SurfaceID) (outcome : Except ResizeFailure CursorPolicy)
    (event : InputEvent) : Prop :=
  ∃ policy, outcome = .ok policy ∧ event.resizes = true ∧ policy.GoesOn surface event ∧
    policy.LeavesEdges surface event.toCursorEvent.cursor

theorem InGesture.goesOn (gesture : InGesture start policy surface)
    (goesOn : policy.GoesOn surface event) :
    policy.resizedSurface event.toCursorEvent = some surface ∧
      policy.draggedEdges surface = (policy.leftResize, policy.topResize) := by
  cases event with
  | pointer event =>
    have resizing : policy.resizing = true := goesOn
    exact ⟨resizedSurface_of_resizing resizing (gesture.selected resizing) _, if_pos resizing⟩
  | touch event => exact goesOn

theorem InGesture.handle (gesture : InGesture start policy surface) {outcome}
    (isOutcome : outcome = .ok policy) (allowed : Allowed surface outcome event)
    (done : policy.handleEvent event = .ok next) : InGesture start next surface := by
  obtain ⟨before, isBefore, resizes, goesOn, leaves⟩ := allowed
  obtain rfl : policy = before := Except.ok.inj (isOutcome.symm.trans isBefore)
  obtain ⟨target, sameEdges⟩ := gesture.goesOn goesOn
  obtain ⟨now, edges⟩ := handleEvent_inGesture gesture.numbered gesture.restored gesture.selected
    resizes target leaves done
  exact ⟨now.numbered, now.restored, now.selected,
    gesture.edges.trans now.edges (edges.trans sameEdges)⟩

/-- In a gesture whose events all meet the condition, the edges of a restored surface that are not
dragged are, after each event, where they were at its start. -/
theorem opposite_edges_stay {begun : CursorPolicy} (numbered : start.manager.Numbered)
    (restored : start.state surface = .restored) (idle : start.resizing = false)
    (first : InputEvent) (resizes : first.resizes = true)
    (target : start.resizedSurface first.toCursorEvent = some surface)
    (leaves : start.LeavesEdges surface first.toCursorEvent.cursor)
    (begins : start.handleEvent first = .ok begun)
    (reached : Transition.Reaches step (Allowed surface) (.ok begun) (.ok last)) :
    KeepsEdges start last surface := by
  have nothing (resizing : start.resizing = true) :
      start.manager.activeSurface.bind start.manager.lock = some surface := by
    rw [idle] at resizing
    cases resizing
  have begunIn :=
    (handleEvent_inGesture numbered restored nothing resizes target leaves begins).1
  have always : ∀ policy, (Except.ok last : Except ResizeFailure CursorPolicy) = .ok policy →
      InGesture start policy surface := by
    refine @Transition.Reaches.invariant _ _ step (Allowed surface) _ _
      (fun outcome => ∀ policy, outcome = .ok policy → InGesture start policy surface) reached
      (fun policy same => Except.ok.inj same ▸ begunIn) ?_
    intro outcome event before allowed policy done
    obtain ⟨middle, isMiddle, handled⟩ := bind_ok done
    exact (before middle isMiddle).handle isMiddle allowed handled
  exact (always last rfl).edges

/-- A window that is pointed at near its top left corner. -/
private def nearTopLeft (constraints : SizeConstraints) : CursorPolicy where
  manager := [.addSession 0, .addSurface 0 (some .normal) none].foldl Manager.step .initial
  state := fun _ => .restored
  outputID := fun _ => none
  outputNamed := fun _ => false
  fullscreenSurfaces := []
  aborted := false
  topLeft := fun _ => ⟨10, 20⟩
  size := fun _ => ⟨200, 100⟩
  restoreRect := fun _ => .empty
  constraints := fun _ => constraints
  displayArea := ⟨⟨0, 0⟩, ⟨640, 480⟩⟩
  oldCursor := ⟨12, 22⟩
  resizing := false
  leftResize := false
  topResize := false

private theorem numbered_nearTopLeft (constraints : SizeConstraints) :
    (nearTopLeft constraints).manager.Numbered := by
  have opened := Manager.numbered_step Manager.numbered_initial (.addSession 0)
  exact Manager.numbered_step opened (.addSurface 0 (some .normal) none)

private def cursorAt (cursor : Point) : CursorEvent where
  cursor := cursor
  surfaceAtCursor := some 0
  surfaceAtOldCursor := some 0
  defaultSurface := none
  inputAreaContains := fun _ => true

private def motionTo (cursor : Point) : InputEvent :=
  .pointer ⟨cursorAt cursor, .motion, true, false, true⟩

private def fingersTo (cursor : Point) : InputEvent :=
  .touch ⟨cursorAt cursor, [.change, .change, .change, .change]⟩

private def unbounded : SizeConstraints := .new SizeConstraints.unconstrained

private def atMost210 : SizeConstraints :=
  .new { SizeConstraints.unconstrained with maxWidth := some 210 }

private theorem two_events {constraints : SizeConstraints} {first second : InputEvent}
    (resizes : second.resizes = true)
    (goes : ((nearTopLeft constraints).handleEvent first).toOption.map (fun begun =>
      (decide (begun.GoesOn 0 second ∧ begun.LeavesEdges 0 second.toCursorEvent.cursor),
        (begun.handleEvent second).toOption.map fun _ => ())) = some (true, some ())) :
    ∃ begun last, (nearTopLeft constraints).handleEvent first = .ok begun ∧
      begun.handleEvent second = .ok last ∧
      Transition.Reaches step (Allowed 0) (.ok begun) (.ok last) := by
  obtain ⟨begun, isBegun, observed⟩ := ok_of_observed goes
  obtain ⟨meets, ends⟩ := Prod.mk.inj observed
  obtain ⟨goesOn, leaves⟩ := of_decide_eq_true meets
  obtain ⟨last, isLast, -⟩ := ok_of_observed ends
  have reached : Transition.Reaches step (Allowed 0) (.ok begun) (step (.ok begun) second) :=
    .step _ .start ⟨begun, rfl, resizes, goesOn, leaves⟩
  rw [show step (.ok begun) second = .ok last from isLast] at reached
  exact ⟨begun, last, isBegun, isLast, reached⟩

theorem opposite_edges_stay_of_two :
    (∃ begun last, (nearTopLeft unbounded).handleEvent (motionTo ⟨2, 32⟩) = .ok begun ∧
      begun.handleEvent (motionTo ⟨52, 12⟩) = .ok last ∧
        KeepsEdges (nearTopLeft unbounded) last 0) ∧
    ∃ begun last, (nearTopLeft unbounded).handleEvent (fingersTo ⟨2, 32⟩) = .ok begun ∧
      begun.handleEvent (fingersTo ⟨52, 12⟩) = .ok last ∧
        KeepsEdges (nearTopLeft unbounded) last 0 := by
  obtain ⟨begun, last, isBegun, isLast, reached⟩ := @two_events unbounded (motionTo ⟨2, 32⟩)
    (motionTo ⟨52, 12⟩) rfl (by decide +kernel)
  obtain ⟨touched, left, isTouched, isLeft, fingersReached⟩ := @two_events unbounded
    (fingersTo ⟨2, 32⟩) (fingersTo ⟨52, 12⟩) rfl (by decide +kernel)
  refine ⟨⟨begun, last, isBegun, isLast, ?_⟩, touched, left, isTouched, isLeft, ?_⟩
  · exact opposite_edges_stay (numbered_nearTopLeft unbounded) rfl rfl (motionTo ⟨2, 32⟩) rfl
      (by decide) (by decide) isBegun reached
  · exact opposite_edges_stay (numbered_nearTopLeft unbounded) rfl rfl (fingersTo ⟨2, 32⟩) rfl
      (by decide) (by decide) isTouched fingersReached

/-- A window is made narrower than five pixels by its left edge, and its right edge is where the
five pixels end. Another is made wider by its left edge than it may be, and its right edge is as
much short of where it was as the window is moved too far. -/
theorem opposite_edges_move :
    (¬ ∀ (start next : CursorPolicy) (surface : SurfaceID) (event : InputEvent),
      start.manager.Numbered → start.state surface = .restored → start.resizing = false →
        event.resizes = true → start.resizedSurface event.toCursorEvent = some surface →
          start.handleEvent event = .ok next → KeepsEdges start next surface) ∧
    ((nearTopLeft unbounded).handleEvent (motionTo ⟨300, 22⟩)).toOption.map
      (fun next => next.rect 0) = some ⟨⟨10, 20⟩, ⟨5, 100⟩⟩ ∧
    ((nearTopLeft atMost210).handleEvent (motionTo ⟨-8, 22⟩)).toOption.map
      (fun next => next.rect 0) = some ⟨⟨-20, 20⟩, ⟨210, 100⟩⟩ := by
  refine ⟨fun claimed => ?_, by decide +kernel, by decide +kernel⟩
  have outcome : ((nearTopLeft unbounded).handleEvent (motionTo ⟨300, 22⟩)).toOption.map
      (fun next => (next.leftResize, next.rect 0)) = some (true, ⟨⟨10, 20⟩, ⟨5, 100⟩⟩) := by
    decide +kernel
  obtain ⟨next, done, observed⟩ := ok_of_observed outcome
  obtain ⟨left, rect⟩ := Prod.mk.inj observed
  have edges := claimed _ next 0 _ (numbered_nearTopLeft unbounded) rfl rfl rfl (by decide) done
  have right := edges.right left
  rw [rect] at right
  revert right
  decide

end CursorPolicy

end Mir.Shell

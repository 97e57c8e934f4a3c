/-
This file embeds where the window manager has surfaces and how large it makes them. A state that is
set gives a surface a rectangle, and a modification may ask for a size, which is constrained; in
both cases the surface is resized and then moved with all that is below it.

What each surface in a tree is moved by does not depend on where the surfaces are: it is as many
times the movement as the walk over the tree comes to the surface, and for the root that is once.

Positions are integers here, as they are for rectangles. Whether the buffers of a surface can be had
in the new size is left out.
-/

import Mir.Library.Fallible
import Mir.Shell.SizeConstraints

namespace Mir.Shell

open Fallible Mir.Geometry

/-! ### The state -/

/-- Why a surface is not resized or moved. -/
inductive ResizeFailure
  | failed (failure : Failure)
  | divisionByZero
  deriving DecidableEq, Repr

/-- How displays are laid out decides what becomes of a rectangle on them. -/
structure DisplayLayout where
  placeInOutput : OutputID → Rectangle → Rectangle
  sizeToOutput : Rectangle → Rectangle

/-- `topLeft` and `size` are a surface's own, `restoreRect` and `constraints` are kept with what the
manager knows about it. -/
structure PlacedPolicy extends CanonicalPolicy where
  topLeft : SurfaceID → Point
  size : SurfaceID → Size
  restoreRect : SurfaceID → Rectangle
  constraints : SurfaceID → SizeConstraints
  displayArea : Rectangle

/-- What a specification has that places a surface. -/
structure SurfaceModifications where
  parents : Manager.Modifications
  constraints : RequestedConstraints
  outputID : Option OutputID
  width : Option Int
  height : Option Int
  state : Option WindowState
  deriving DecidableEq, Repr

def SurfaceModifications.asksSize (modifications : SurfaceModifications) : Bool :=
  modifications.width.isSome || modifications.height.isSome

/-- What a specification leaves out of a size is as it was. -/
def SurfaceModifications.newSize (modifications : SurfaceModifications) (size : Size) : Size where
  width := modifications.width.getD size.width
  height := modifications.height.getD size.height

/-! ### The operations -/

/-- The size of a surface that is resized, which has at least one pixel. -/
def resized (size : Size) : Size where
  width := if size.width ≤ 0 then 1 else size.width
  height := if size.height ≤ 0 then 1 else size.height

/-- The rectangle that a state gives to a surface; some only hide it. -/
def stateRect (layout : DisplayLayout) (displayArea restoreRect : Rectangle)
    (outputID : Option OutputID) (old : Rectangle) : WindowState → Option Rectangle
  | .restored => some restoreRect
  | .maximized => some displayArea
  | .horizmaximized =>
    some ⟨⟨displayArea.topLeft.x, restoreRect.topLeft.y⟩,
      ⟨displayArea.size.width, restoreRect.size.height⟩⟩
  | .vertmaximized =>
    some ⟨⟨restoreRect.topLeft.x, displayArea.topLeft.y⟩,
      ⟨restoreRect.size.width, displayArea.size.height⟩⟩
  | .fullscreen =>
    match outputID with
    | some output => some (layout.placeInOutput output old)
    | none => some (layout.sizeToOutput old)
  | .hidden | .minimized | .unknown => none

namespace PlacedPolicy

def rect (policy : PlacedPolicy) (surface : SurfaceID) : Rectangle :=
  ⟨policy.topLeft surface, policy.size surface⟩

def resizeSurface (policy : PlacedPolicy) (surface : SurfaceID) (size : Size) : PlacedPolicy :=
  { policy with size := Function.update policy.size surface (resized size) }

def moveTree (policy : PlacedPolicy) (root : SurfaceID) (movement : Point) :
    Except ResizeFailure PlacedPolicy :=
  match policy.manager.moveTree movement (policy.manager.made + 1) (some root) policy.topLeft with
  | .error failure => .error (.failed failure)
  | .ok topLeft => .ok { policy with topLeft := topLeft }

def applyResize (policy : PlacedPolicy) (surface : SurfaceID) (newPos : Point) (newSize : Size) :
    Except ResizeFailure PlacedPolicy :=
  let old := policy.topLeft surface
  (policy.resizeSurface surface newSize).moveTree surface ⟨newPos.x - old.x, newPos.y - old.y⟩

/-- A resize as constraints allow it. -/
def resizeWithin (policy : PlacedPolicy) (constraints : SizeConstraints) (surface : SurfaceID)
    (newPos : Point) (newSize : Size) (leftResize topResize : Bool) :
    Except ResizeFailure PlacedPolicy :=
  match constraints.constrainResize (policy.state surface) (policy.rect surface) newPos newSize
    leftResize topResize with
  | none => .error .divisionByZero
  | some (newPos, newSize) => policy.applyResize surface newPos newSize

/-- The rectangle that a surface is restored to. -/
def restoredRect (policy : PlacedPolicy) (surface : SurfaceID) : Rectangle :=
  if policy.state surface = .restored then policy.rect surface else policy.restoreRect surface

/-- What is noted of a surface before its state is looked at. -/
def noteState (policy : PlacedPolicy) (surface : SurfaceID) : PlacedPolicy :=
  { policy with
    toCanonicalPolicy := policy.noteFullscreen surface
    restoreRect := Function.update policy.restoreRect surface (policy.restoredRect surface) }

def withState (policy : PlacedPolicy) (surface : SurfaceID) (value : WindowState) : PlacedPolicy :=
  { policy with state := Function.update policy.state surface value }

def handleSetState (policy : PlacedPolicy) (layout : DisplayLayout) (surface : SurfaceID)
    (value : WindowState) : Except ResizeFailure PlacedPolicy :=
  if policy.manager.surfaceInfo surface = none then .error (.failed .outOfRange)
  else if value = .unknown then .ok policy
  else
    let noted := policy.noteState surface
    if policy.state surface = value then .ok noted
    else
      match stateRect layout noted.displayArea (noted.restoreRect surface)
        (noted.outputID surface) (noted.rect surface) value with
      | none => .ok (noted.withState surface value)
      | some rect => do
        let moved ← noted.applyResize surface rect.topLeft rect.size
        return moved.withState surface value

/-- What is kept of a surface is modified as a copy, and the two are swapped. -/
def swapInfo (policy : PlacedPolicy) (surface : SurfaceID)
    (modifications : SurfaceModifications) : PlacedPolicy :=
  { policy with
    toCanonicalPolicy := policy.modified surface modifications.parents modifications.outputID
    constraints := Function.update policy.constraints surface
      ((policy.constraints surface).modify modifications.constraints) }

/-- A size that a modification asks for. -/
def resizeAsked (policy : PlacedPolicy) (surfaceInfo : SizeConstraints) (surface : SurfaceID)
    (modifications : SurfaceModifications) : Except ResizeFailure PlacedPolicy :=
  if modifications.asksSize then
    policy.resizeWithin surfaceInfo surface (policy.topLeft surface)
      (modifications.newSize (policy.size surface)) false false
  else .ok policy

/-- The copy has, once it is swapped, the constraints that there were before. -/
def handleModifySurface (policy : PlacedPolicy) (layout : DisplayLayout) (surface : SurfaceID)
    (modifications : SurfaceModifications) : Except ResizeFailure PlacedPolicy :=
  match (policy.manager.modifySurface surface modifications.parents).2 with
  | .error failure => .error (.failed failure)
  | .ok () => do
    let changed ← (policy.swapInfo surface modifications).resizeAsked (policy.constraints surface)
      surface modifications
    match modifications.state with
    | none => return changed
    | some value => changed.handleSetState layout surface value

end PlacedPolicy

/-! ### Trees that are moved -/

/-- A position after a number of movements. -/
def movedBy (movement : Point) (times : Nat) (position : Point) : Point :=
  ⟨position.x + times * movement.x, position.y + times * movement.y⟩

theorem movedBy_zero (movement position : Point) : movedBy movement 0 position = position := by
  simp [movedBy]

theorem movedBy_add (movement position : Point) (first second : Nat) :
    movedBy movement second (movedBy movement first position) =
      movedBy movement (first + second) position := by
  simp only [movedBy, Nat.cast_add, Int.add_mul, Int.add_assoc]

/-- A walk over surfaces that are moved. -/
abbrev Walk := Point → (SurfaceID → Point) → Except Failure (SurfaceID → Point)

/-- Whether a walk fails, and how often it comes to each surface, is the same for all movements and
positions. -/
def Walk.Uniform (walk : Walk) : Prop :=
  (∃ failure, ∀ movement topLeft, walk movement topLeft = .error failure) ∨
  ∃ visits : SurfaceID → Nat, ∀ movement topLeft,
    walk movement topLeft =
      .ok fun surface => movedBy movement (visits surface) (topLeft surface)

namespace Walk

theorem Uniform.bind {first second : Walk} (isFirst : first.Uniform) (isSecond : second.Uniform) :
    Uniform fun movement topLeft => first movement topLeft >>= second movement := by
  rcases isFirst with ⟨failure, fails⟩ | ⟨visits, moves⟩
  · refine .inl ⟨failure, fun movement topLeft => ?_⟩
    dsimp only
    rw [fails]
    rfl
  · rcases isSecond with ⟨failure, fails⟩ | ⟨more, movesMore⟩
    · refine .inl ⟨failure, fun movement topLeft => ?_⟩
      dsimp only
      rw [moves]
      exact fails _ _
    · refine .inr ⟨fun surface => visits surface + more surface, fun movement topLeft => ?_⟩
      dsimp only
      rw [moves]
      refine (movesMore movement _).trans (congrArg Except.ok (funext fun surface => ?_))
      exact movedBy_add _ _ _ _

theorem uniform_foldlM {walk : SurfaceID → Walk} (each : ∀ surface, (walk surface).Uniform)
    (surfaces : List SurfaceID) :
    Uniform fun movement topLeft =>
      surfaces.foldlM (fun topLeft surface => walk surface movement topLeft) topLeft := by
  induction surfaces with
  | nil =>
    refine .inr ⟨fun _ => 0, fun movement topLeft => congrArg Except.ok (funext fun surface => ?_)⟩
    exact (movedBy_zero _ _).symm
  | cons first rest inductionHypothesis =>
    simp only [List.foldlM_cons]
    exact (each first).bind inductionHypothesis

/-- The root itself is moved once before its children. -/
theorem uniform_update (root : SurfaceID) :
    Uniform fun movement topLeft => .ok (Function.update topLeft root
      ⟨(topLeft root).x + movement.x, (topLeft root).y + movement.y⟩) := by
  refine .inr ⟨fun surface => if surface = root then 1 else 0, fun movement topLeft => ?_⟩
  refine congrArg Except.ok (funext fun surface => ?_)
  by_cases isRoot : surface = root
  · subst isRoot
    simp [movedBy]
  · dsimp only
    rw [Function.update_of_ne isRoot, if_neg isRoot, movedBy_zero]

end Walk

namespace Manager

variable {manager : Manager}

theorem uniform_moveTree (manager : Manager) (depth : Nat) (root : Option SurfaceID) :
    Walk.Uniform fun movement topLeft => manager.moveTree movement depth root topLeft := by
  induction depth generalizing root with
  | zero => exact .inl ⟨.stackExhausted, fun _ _ => rfl⟩
  | succ depth inductionHypothesis =>
    cases root with
    | none => exact .inl ⟨.nullDereference, fun _ _ => rfl⟩
    | some root =>
      cases known : manager.surfaceInfo root with
      | none =>
        refine .inl ⟨.outOfRange, fun movement topLeft => ?_⟩
        dsimp only
        rw [moveTree, infoFor, known]
        rfl
      | some info =>
        simp only [moveTree, infoFor_known known]
        exact (Walk.uniform_update root).bind
          (Walk.uniform_foldlM (fun child => inductionHypothesis (manager.lock child)) _)

/-- A tree cannot be moved at all, or each surface of it is moved so many times. -/
theorem moveTree_cases (manager : Manager) (depth : Nat) (root : Option SurfaceID) :
    (∃ failure, ∀ movement topLeft,
      manager.moveTree movement depth root topLeft = .error failure) ∨
    ∃ visits : SurfaceID → Nat, ∀ movement topLeft,
      manager.moveTree movement depth root topLeft =
        .ok fun surface => movedBy movement (visits surface) (topLeft surface) :=
  manager.uniform_moveTree depth root

theorem known_of_infoFor {surface : SurfaceID} {info : SurfaceInfo}
    (isInfo : manager.infoFor surface = .ok info) : manager.surfaceInfo surface = some info := by
  unfold infoFor at isInfo
  split at isInfo
  · cases isInfo
  · rename_i known
    rw [known, Except.ok.inj isInfo]

theorem lock_mem {surface locked : SurfaceID} (isLocked : locked ∈ manager.lock surface) :
    locked = surface := by
  unfold lock at isLocked
  split_ifs at isLocked
  · cases isLocked
  · exact (Option.some.inj isLocked).symm

/-- Children are newer, so older surfaces than the root stay where they are. -/
theorem moveTree_older (numbered : manager.Numbered) {movement : Point} {depth : Nat}
    {root : Option SurfaceID} {topLeft moved : SurfaceID → Point}
    (done : manager.moveTree movement depth root topLeft = .ok moved) {other : SurfaceID}
    (older : ∀ surface ∈ root, other < surface) : moved other = topLeft other := by
  induction depth generalizing root topLeft moved with
  | zero => cases done
  | succ depth inductionHypothesis =>
    cases root with
    | none => cases done
    | some root =>
      rw [moveTree] at done
      obtain ⟨info, isInfo, done⟩ := bind_ok done
      have isOlder := older root rfl
      refine foldlM_invariant (fun state => state other = topLeft other)
        (fun child member state next same isNext => ?_)
        (Function.update_of_ne (Nat.ne_of_lt isOlder) _ _) done
      refine (inductionHypothesis isNext fun locked isLocked => ?_).trans same
      rw [lock_mem isLocked]
      exact isOlder.trans (numbered.children root info child (known_of_infoFor isInfo) member).1

/-- The root is moved once. -/
theorem moveTree_root (numbered : manager.Numbered) {movement : Point} {depth : Nat}
    {root : SurfaceID} {topLeft moved : SurfaceID → Point}
    (done : manager.moveTree movement depth (some root) topLeft = .ok moved) :
    moved root = ⟨(topLeft root).x + movement.x, (topLeft root).y + movement.y⟩ := by
  cases depth with
  | zero => cases done
  | succ depth =>
    rw [moveTree] at done
    obtain ⟨info, isInfo, done⟩ := bind_ok done
    refine foldlM_invariant (fun state => state root = _)
      (fun child member state next same isNext => ?_) (Function.update_self _ _ _) done
    refine (moveTree_older numbered isNext fun locked isLocked => ?_).trans same
    rw [lock_mem isLocked]
    exact (numbered.children root info child (known_of_infoFor isInfo) member).1

end Manager

namespace PlacedPolicy

variable {policy next : PlacedPolicy} {layout : DisplayLayout} {surface : SurfaceID}
  {value : WindowState}

theorem moves_of_ok {movement : Point} (done : policy.moveTree surface movement = .ok next) :
    policy.moves surface = true := by
  unfold moveTree at done
  unfold CanonicalPolicy.moves
  rcases policy.manager.moveTree_cases (policy.manager.made + 1) (some surface) with
    ⟨failure, fails⟩ | ⟨visits, moves⟩
  · rw [fails] at done
    cases done
  · rw [moves]
    rfl

theorem moveTree_of_moves (moves : policy.moves surface = true) (movement : Point) :
    ∃ next, policy.moveTree surface movement = .ok next := by
  unfold CanonicalPolicy.moves at moves
  unfold moveTree
  rcases policy.manager.moveTree_cases (policy.manager.made + 1) (some surface) with
    ⟨failure, fails⟩ | ⟨visits, moved⟩
  · rw [fails] at moves
    cases moves
  · rw [moved]
    exact ⟨_, rfl⟩

/-- A tree that is moved takes along nothing but positions. -/
theorem moveTree_eq {movement : Point} (done : policy.moveTree surface movement = .ok next) :
    next = { policy with topLeft := next.topLeft } ∧
      policy.manager.moveTree movement (policy.manager.made + 1) (some surface) policy.topLeft =
        .ok next.topLeft := by
  unfold moveTree at done
  split at done
  · cases done
  · rename_i moved
    cases done
    exact ⟨rfl, moved⟩

/-- A resize changes one size, and positions. -/
theorem applyResize_eq {newPos : Point} {newSize : Size}
    (done : policy.applyResize surface newPos newSize = .ok next) :
    next = { policy with
      topLeft := next.topLeft
      size := Function.update policy.size surface (resized newSize) } :=
  (moveTree_eq done).1

/-- A surface that is resized is where it was asked to be. -/
theorem applyResize_topLeft (numbered : policy.manager.Numbered) {newPos : Point} {newSize : Size}
    (done : policy.applyResize surface newPos newSize = .ok next) :
    next.topLeft surface = newPos := by
  rw [Manager.moveTree_root numbered (moveTree_eq done).2]
  simp [resizeSurface]

/-! ### What setting a state does -/

/-- The rectangle that a state gives a surface as things are. -/
def askedRect (policy : PlacedPolicy) (layout : DisplayLayout) (surface : SurfaceID)
    (value : WindowState) : Option Rectangle :=
  stateRect layout policy.displayArea (policy.restoredRect surface)
    ((policy.noteFullscreen surface).outputID surface) (policy.rect surface) value

theorem noteState_restoreRect (policy : PlacedPolicy) (surface : SurfaceID) :
    (policy.noteState surface).restoreRect surface = policy.restoredRect surface :=
  Function.update_self _ _ _

theorem noteFullscreen_manager (policy : CanonicalPolicy) (surface : SurfaceID) :
    (policy.noteFullscreen surface).manager = policy.manager ∧
      (policy.noteFullscreen surface).state = policy.state := by
  unfold CanonicalPolicy.noteFullscreen
  split_ifs <;> exact ⟨rfl, rfl⟩

/-- What becomes of a policy when a state is set and nothing fails. -/
inductive SetsState (policy : PlacedPolicy) (layout : DisplayLayout) (surface : SurfaceID)
    (value : WindowState) : PlacedPolicy → Prop
  | ignored (unknown : value = .unknown) : SetsState policy layout surface value policy
  | already (valid : value ≠ .unknown) (same : policy.state surface = value) :
    SetsState policy layout surface value (policy.noteState surface)
  | hidden (valid : value ≠ .unknown) (differs : policy.state surface ≠ value)
      (noRect : policy.askedRect layout surface value = none) :
    SetsState policy layout surface value ((policy.noteState surface).withState surface value)
  | placed (valid : value ≠ .unknown) (differs : policy.state surface ≠ value) {rect : Rectangle}
      (isRect : policy.askedRect layout surface value = some rect) {moved : PlacedPolicy}
      (done : (policy.noteState surface).applyResize surface rect.topLeft rect.size = .ok moved) :
    SetsState policy layout surface value (moved.withState surface value)

theorem handleSetState_setsState
    (done : policy.handleSetState layout surface value = .ok next) :
    policy.manager.surfaceInfo surface ≠ none ∧ SetsState policy layout surface value next := by
  unfold handleSetState at done
  dsimp only at done
  rw [noteState_restoreRect] at done
  split_ifs at done with unregistered unknown same
  · cases done
    exact ⟨unregistered, .ignored unknown⟩
  · cases done
    exact ⟨unregistered, .already unknown same⟩
  · refine ⟨unregistered, ?_⟩
    split at done
    · rename_i noRect
      cases done
      exact .hidden unknown same noRect
    · rename_i rect isRect
      obtain ⟨moved, resizes, done⟩ := bind_ok done
      cases done
      exact .placed unknown same isRect resizes

/-- A state gives no rectangle if it hides the surface. -/
theorem askedRect_eq_none_iff (valid : value ≠ .unknown) :
    policy.askedRect layout surface value = none ↔ value = .hidden ∨ value = .minimized := by
  unfold askedRect stateRect
  cases value <;> simp at valid ⊢
  split <;> simp

/-- The state and the set of fullscreen surfaces become what they do where sizes are left out. -/
theorem handleSetState_canonical (done : policy.handleSetState layout surface value = .ok next) :
    next.toCanonicalPolicy = policy.toCanonicalPolicy.handleSetState surface value true := by
  obtain ⟨registered, sets⟩ := handleSetState_setsState done
  unfold CanonicalPolicy.handleSetState
  cases sets with
  | ignored unknown => rw [if_pos (.inr unknown)]
  | already valid same =>
    rw [if_neg (not_or.mpr ⟨registered, valid⟩)]
    dsimp only
    rw [if_pos same]
    rfl
  | hidden valid differs noRect =>
    rw [if_neg (not_or.mpr ⟨registered, valid⟩)]
    dsimp only
    rw [if_neg differs, if_pos ((askedRect_eq_none_iff valid).mp noRect)]
    simp [withState, noteState, noteFullscreen_manager]
  | placed valid differs isRect resizes =>
    have moves : policy.moves surface = true := by
      have noted := moves_of_ok resizes
      unfold CanonicalPolicy.moves at noted ⊢
      simpa [resizeSurface, noteState, noteFullscreen_manager] using noted
    rw [if_neg (not_or.mpr ⟨registered, valid⟩)]
    dsimp only
    rw [if_neg differs, if_neg, if_pos (by rw [moves]; rfl)]
    · rw [applyResize_eq resizes]
      simp [withState, noteState, noteFullscreen_manager]
    · rw [← @askedRect_eq_none_iff policy layout surface value valid, isRect]
      exact Option.some_ne_none _

end PlacedPolicy

end Mir.Shell

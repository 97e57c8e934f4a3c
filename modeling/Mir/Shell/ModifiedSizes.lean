/-
This file says when a surface has, after a modification, the size that its constraints as they are
then make of what was asked for.

The constraints that a modification sets are copied to a new record, which is swapped with the one
that is kept; what a size that is asked for is constrained by after that are the constraints there
were before. Without a size nothing is constrained, and a state that is set resizes the surface once
more.
-/

import Mir.Shell.WindowGeometry

namespace Mir.Shell

open Fallible Mir.Geometry

namespace PlacedPolicy

variable {policy next changed : PlacedPolicy} {layout : DisplayLayout} {surface : SurfaceID}
  {modifications : SurfaceModifications}

/-! ### What was asked for -/

/-- What constraints make of the size that is asked for. -/
def constrainedSize (policy : PlacedPolicy) (constraints : SizeConstraints) (surface : SurfaceID)
    (modifications : SurfaceModifications) : Option Size :=
  (constraints.constrainResize (policy.state surface) (policy.rect surface)
    (policy.topLeft surface) (modifications.newSize (policy.size surface)) false false).map Prod.snd

/-- The constraints there were, and those there will be. -/
def formerSize (policy : PlacedPolicy) (surface : SurfaceID)
    (modifications : SurfaceModifications) : Option Size :=
  policy.constrainedSize (policy.constraints surface) surface modifications

def latterSize (policy : PlacedPolicy) (surface : SurfaceID)
    (modifications : SurfaceModifications) : Option Size :=
  policy.constrainedSize ((policy.constraints surface).modify modifications.constraints) surface
    modifications

/-- The size before a state is set. -/
def sizeBeforeState (policy : PlacedPolicy) (surface : SurfaceID)
    (modifications : SurfaceModifications) : Option Size :=
  if modifications.asksSize then (policy.formerSize surface modifications).map resized
  else some (policy.size surface)

/-- A state that is asked for, if it is another one and does not only hide the surface. -/
def placingState (policy : PlacedPolicy) (surface : SurfaceID)
    (modifications : SurfaceModifications) : Option WindowState :=
  modifications.state.filter fun value =>
    value ≠ .unknown ∧ value ≠ .hidden ∧ value ≠ .minimized ∧ value ≠ policy.state surface

/-- The rectangle that a state gives a surface of some size. -/
def rectOfSize (policy : PlacedPolicy) (layout : DisplayLayout) (surface : SurfaceID) (size : Size)
    (value : WindowState) : Option Rectangle :=
  let old : Rectangle := ⟨policy.topLeft surface, size⟩
  stateRect layout policy.displayArea
    (if policy.state surface = .restored then old else policy.restoreRect surface) none old value

/-- The condition under which a surface is of the size that its constraints make of what is asked
for: those there were make the same of a size that is asked for, and if none is, those there will be
leave the size that the surface has. A state that is set has to give it that size. -/
def RequestHolds (policy : PlacedPolicy) (layout : DisplayLayout) (surface : SurfaceID)
    (modifications : SurfaceModifications) : Prop :=
  match policy.placingState surface modifications with
  | some value =>
    ∃ size ∈ policy.sizeBeforeState surface modifications,
      ∃ rect ∈ policy.rectOfSize layout surface size value,
        policy.latterSize surface modifications = some (resized rect.size)
  | none =>
    if modifications.asksSize then
      ∃ former ∈ policy.formerSize surface modifications,
        policy.latterSize surface modifications = some (resized former)
    else policy.latterSize surface modifications = some (policy.size surface)

/-! ### What a modification does -/

/-- A resize that moves neither the left nor the top edge leaves the position, in every state. -/
theorem constrainResize_topLeft {constraints : SizeConstraints} {state : WindowState}
    {old : Rectangle} {size newSize : Size} {newPos : Point}
    (given : constraints.constrainResize state old old.topLeft size false false =
      some (newPos, newSize)) : newPos = old.topLeft := by
  unfold SizeConstraints.constrainResize at given
  obtain ⟨given, -, kept⟩ := Option.bind_eq_some_iff.mp given
  cases state <;> exact (congrArg Prod.fst (Option.some.inj kept)).symm

theorem applyResize_stays {newSize : Size}
    (done : policy.applyResize surface (policy.topLeft surface) newSize = .ok next) :
    next = { policy with size := Function.update policy.size surface (resized newSize) } := by
  have same := applyResize_eq done
  have moved := (moveTree_eq done).2
  have positions : next.topLeft = policy.topLeft := by
    rcases policy.manager.moveTree_cases (policy.manager.made + 1) (some surface) with
      ⟨failure, fails⟩ | ⟨visits, moves⟩
    · dsimp only [resizeSurface] at moved
      rw [fails] at moved
      cases moved
    · dsimp only [resizeSurface] at moved
      rw [moves] at moved
      rw [← Except.ok.inj moved]
      funext other
      simp [movedBy]
  rw [positions] at same
  exact same

/-- What is left of a surface as it was before a state is set. -/
structure Changes (policy changed : PlacedPolicy) (surface : SurfaceID)
    (modifications : SurfaceModifications) : Prop where
  constraints : changed.constraints surface =
    (policy.constraints surface).modify modifications.constraints
  canonical : changed.toCanonicalPolicy =
    policy.modified surface modifications.parents modifications.outputID
  topLeft : changed.topLeft = policy.topLeft
  restoreRect : changed.restoreRect = policy.restoreRect
  displayArea : changed.displayArea = policy.displayArea
  size : policy.sizeBeforeState surface modifications = some (changed.size surface)

theorem Changes.state (changes : Changes policy changed surface modifications) :
    changed.state = policy.state := by
  rw [changes.canonical]
  rfl

theorem resizeAsked_changes
    (done : (policy.swapInfo surface modifications).resizeAsked (policy.constraints surface) surface
      modifications = .ok changed) : Changes policy changed surface modifications := by
  have constraints : (policy.swapInfo surface modifications).constraints surface =
      (policy.constraints surface).modify modifications.constraints := Function.update_self _ _ _
  unfold resizeAsked at done
  split_ifs at done with asks
  · unfold resizeWithin at done
    split at done
    · cases done
    · rename_i newPos newSize given
      obtain rfl : newPos = policy.topLeft surface := constrainResize_topLeft given
      have former : policy.formerSize surface modifications = some newSize :=
        congrArg (Option.map Prod.snd) given
      rw [applyResize_stays done]
      refine ⟨constraints, rfl, rfl, rfl, rfl, ?_⟩
      dsimp only
      rw [sizeBeforeState, if_pos asks, former, Function.update_self]
      rfl
  · cases done
    exact ⟨constraints, rfl, rfl, rfl, rfl, if_neg asks⟩

theorem handleModifySurface_changes
    (done : policy.handleModifySurface layout surface modifications = .ok next) :
    (policy.manager.modifySurface surface modifications.parents).2 = .ok () ∧
    ∃ changed, Changes policy changed surface modifications ∧
      match modifications.state with
      | none => next = changed
      | some value => changed.handleSetState layout surface value = .ok next := by
  unfold handleModifySurface at done
  split at done
  · cases done
  · rename_i accepted
    obtain ⟨changed, isChanged, done⟩ := bind_ok done
    refine ⟨accepted, changed, resizeAsked_changes isChanged, ?_⟩
    cases asked : modifications.state with
    | none =>
      rw [asked] at done
      exact (Except.ok.inj done).symm
    | some value =>
      rw [asked] at done
      exact done

/-- The parents, the state and the set of fullscreen surfaces become what they do where sizes are
left out. -/
theorem handleModifySurface_canonical
    (done : policy.handleModifySurface layout surface modifications = .ok next) :
    next.toCanonicalPolicy = policy.toCanonicalPolicy.modifySurface surface modifications.parents
      modifications.outputID modifications.state true true := by
  obtain ⟨accepted, changed, changes, stateSet⟩ := handleModifySurface_changes done
  unfold CanonicalPolicy.modifySurface
  rw [accepted]
  dsimp only
  cases asked : modifications.state with
  | none =>
    rw [asked] at stateSet
    rw [show next = changed from stateSet]
    exact changes.canonical
  | some value =>
    rw [asked] at stateSet
    rw [handleSetState_canonical stateSet, changes.canonical]
    rfl

/-- The output is forgotten before a surface becomes fullscreen. -/
theorem Changes.askedRect (changes : Changes policy changed surface modifications)
    {value : WindowState} (differs : value ≠ policy.state surface) :
    changed.askedRect layout surface value =
      policy.rectOfSize layout surface (changed.size surface) value := by
  have same : changed.restoredRect surface =
      if policy.state surface = .restored then ⟨policy.topLeft surface, changed.size surface⟩
      else policy.restoreRect surface := by
    rw [restoredRect, rect, changes.state, changes.topLeft, changes.restoreRect]
  unfold PlacedPolicy.askedRect rectOfSize
  rw [same, changes.displayArea, rect, changes.topLeft]
  by_cases fullscreen : policy.state surface = .fullscreen
  · rw [fullscreen] at differs
    cases value <;> first | rfl | exact absurd rfl differs
  · have forgotten : (changed.noteFullscreen surface).outputID surface = none := by
      unfold CanonicalPolicy.noteFullscreen
      rw [changes.state, if_pos fullscreen]
      exact Function.update_self _ _ _
    rw [forgotten]

/-- A state that is set leaves the constraints, and the size unless it places the surface. -/
theorem Changes.size_of_state (changes : Changes policy changed surface modifications)
    {value : WindowState} (asked : modifications.state = some value)
    (done : changed.handleSetState layout surface value = .ok next) :
    next.constraints = changed.constraints ∧
    (policy.placingState surface modifications = none ∧
        next.size surface = changed.size surface ∨
      policy.placingState surface modifications = some value ∧
        ∃ rect, policy.rectOfSize layout surface (changed.size surface) value = some rect ∧
          next.size surface = resized rect.size) := by
  have sameState := congrFun changes.state surface
  unfold placingState
  rw [asked, Option.filter_some]
  cases (handleSetState_setsState done).2 with
  | ignored unknown => exact ⟨rfl, .inl ⟨by simp [unknown], rfl⟩⟩
  | already valid same => exact ⟨rfl, .inl ⟨by simp [← same, sameState], rfl⟩⟩
  | hidden valid differs noRect =>
    refine ⟨rfl, .inl ⟨?_, rfl⟩⟩
    rcases (askedRect_eq_none_iff valid).mp noRect with rfl | rfl <;> simp
  | @placed valid differs rect isRect moved resizes =>
    rw [sameState] at differs
    have places : ¬(value = .hidden ∨ value = .minimized) := by
      rw [← @askedRect_eq_none_iff changed layout surface value valid, isRect]
      exact Option.some_ne_none _
    have isAsked := (changes.askedRect (Ne.symm differs)).symm.trans isRect
    have same := applyResize_eq resizes
    have size : moved.size surface = resized rect.size := by
      rw [same]
      exact Function.update_self _ _ _
    refine ⟨?_, .inr ⟨?_, rect, isAsked, size⟩⟩
    · rw [same]
      rfl
    · obtain ⟨notHidden, notMinimized⟩ := not_or.mp places
      simp [valid, notHidden, notMinimized, Ne.symm differs]

/-! ### The size and the constraints -/

theorem size_iff (done : policy.handleModifySurface layout surface modifications = .ok next) :
    next.constraints surface = (policy.constraints surface).modify modifications.constraints ∧
    (policy.constrainedSize (next.constraints surface) surface modifications =
        some (next.size surface) ↔
      policy.RequestHolds layout surface modifications) := by
  obtain ⟨-, changed, changes, stateSet⟩ := handleModifySurface_changes done
  have before := changes.size
  have withoutState : policy.placingState surface modifications = none →
      next.size surface = changed.size surface →
      (policy.latterSize surface modifications = some (next.size surface) ↔
        policy.RequestHolds layout surface modifications) := by
    intro noState same
    unfold RequestHolds
    rw [noState, same]
    dsimp only
    unfold sizeBeforeState at before
    split_ifs at before ⊢ with asks
    · obtain ⟨former, isFormer, size⟩ := Option.map_eq_some_iff.mp before
      rw [isFormer, ← size]
      constructor
      · exact fun latter => ⟨former, rfl, latter⟩
      · rintro ⟨other, isOther, latter⟩
        cases isOther
        exact latter
    · rw [Option.some.inj before]
  cases asked : modifications.state with
  | none =>
    rw [asked] at stateSet
    obtain rfl : next = changed := stateSet
    rw [changes.constraints]
    refine ⟨rfl, withoutState ?_ rfl⟩
    rw [placingState, asked]
    rfl
  | some value =>
    rw [asked] at stateSet
    obtain ⟨constraints, sizes⟩ := changes.size_of_state asked stateSet
    rw [constraints, changes.constraints]
    refine ⟨rfl, ?_⟩
    rcases sizes with ⟨noState, same⟩ | ⟨places, rect, isRect, same⟩
    · exact withoutState noState same
    · unfold RequestHolds
      rw [places, before, same]
      dsimp only
      constructor
      · exact fun latter => ⟨_, rfl, rect, isRect, latter⟩
      · rintro ⟨size, isSize, other, isOther, latter⟩
        cases isSize
        rw [isRect] at isOther
        cases isOther
        exact latter

/-- Lengths are bounded, and nothing else is constrained. -/
structure OnlyBounds (constraints : SizeConstraints) : Prop where
  widthInc : constraints.widthInc = none
  heightInc : constraints.heightInc = none
  minAspect : constraints.minAspect = none
  maxAspect : constraints.maxAspect = none

theorem OnlyBounds.constrainedSize {constraints : SizeConstraints} (bounds : OnlyBounds constraints)
    (restored : policy.state surface = .restored) :
    policy.constrainedSize constraints surface modifications =
      some (constraints.clamp (modifications.newSize (policy.size surface))) := by
  unfold PlacedPolicy.constrainedSize SizeConstraints.constrainResize SizeConstraints.constrainSize
    SizeConstraints.correctMinAspect SizeConstraints.correctMaxAspect SizeConstraints.increment
    incrementLength
  rw [bounds.minAspect, bounds.maxAspect, bounds.widthInc, bounds.heightInc, restored]
  rfl

/-- Between bounds, the condition is one on what both pairs of them make of the lengths. -/
theorem requestHolds_bounds_iff (restored : policy.state surface = .restored)
    (noState : modifications.state = none) (former : OnlyBounds (policy.constraints surface))
    (latter : OnlyBounds ((policy.constraints surface).modify modifications.constraints)) :
    let bounds := (policy.constraints surface).modify modifications.constraints
    policy.RequestHolds layout surface modifications ↔
      bounds.clamp (modifications.newSize (policy.size surface)) =
        if modifications.asksSize then
          resized ((policy.constraints surface).clamp (modifications.newSize (policy.size surface)))
        else policy.size surface := by
  have nothing : policy.placingState surface modifications = none := by
    rw [placingState, noState]
    rfl
  unfold RequestHolds formerSize latterSize
  rw [nothing, former.constrainedSize restored, latter.constrainedSize restored]
  dsimp only
  split_ifs with asks
  · constructor
    · rintro ⟨other, isOther, agree⟩
      cases isOther
      exact Option.some.inj agree
    · exact fun agree => ⟨_, rfl, congrArg some agree⟩
  · exact Option.some_inj

/-- A window with the default constraints. -/
private def oneWindow : PlacedPolicy where
  manager := [.addSession 0, .addSurface 0 (some .normal) none].foldl Manager.step .initial
  state := fun _ => .restored
  outputID := fun _ => none
  outputNamed := fun _ => false
  fullscreenSurfaces := []
  aborted := false
  topLeft := fun _ => ⟨10, 20⟩
  size := fun _ => ⟨40, 30⟩
  restoreRect := fun _ => .empty
  constraints := fun _ => .new SizeConstraints.unconstrained
  displayArea := ⟨⟨0, 0⟩, ⟨640, 480⟩⟩

private def noDisplay : DisplayLayout := ⟨fun _ => id, id⟩

/-- A least width is set, and maybe a width asked for. -/
private def atLeast (minWidth : Int) (width : Option Int) : SurfaceModifications where
  parents := ⟨none, none⟩
  constraints := { SizeConstraints.unconstrained with minWidth := some minWidth }
  outputID := none
  width := width
  height := none
  state := none

/-- Whether a modification sets a bound or an increment. -/
private def setsLengths (modifications : SurfaceModifications) : Bool :=
  let constraints := modifications.constraints
  constraints.minWidth.isSome || constraints.minHeight.isSome || constraints.maxWidth.isSome ||
    constraints.maxHeight.isSome || constraints.widthInc.isSome || constraints.heightInc.isSome

end PlacedPolicy

end Mir.Shell

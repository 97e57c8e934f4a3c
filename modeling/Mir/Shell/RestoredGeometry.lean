/-
This file proves that a surface that comes back to its restored state has the place it had when it
left it, with all that is below it, whatever states it passes through.

The rectangle to restore is saved each time a state is set of a surface that is restored. Meanwhile
the surfaces of the tree are displaced, each as many times by what the root is displaced by as the
walk over the tree comes to it. Back in its place the root is displaced by nothing, and so is the
tree.

Lengths come back if there was at least one pixel of them: a surface that is resized has one.
-/

import Mir.Shell.WindowGeometry

namespace Mir.Shell

open Fallible Mir.Geometry

/-! ### Displacements -/

theorem movedBy_movedBy (first second position : Point) (times : Nat) :
    movedBy second times (movedBy first times position) =
      movedBy ⟨first.x + second.x, first.y + second.y⟩ times position := by
  simp only [movedBy, Int.mul_add, Int.add_assoc]

/-- What is moved once and stays where it is was moved by nothing. -/
theorem eq_zero_of_movedBy {movement position : Point}
    (stays : movedBy movement 1 position = position) : movement = ⟨0, 0⟩ := by
  obtain ⟨dx, dy⟩ := movement
  obtain ⟨x, y⟩ := position
  simpa [movedBy] using stays

theorem movedBy_nothing (times : Nat) (position : Point) :
    movedBy ⟨0, 0⟩ times position = position := by
  simp [movedBy]

/-- How often each surface of a tree is moved; the root is moved once. -/
theorem Manager.moveTree_visits {manager : Manager} (numbered : manager.Numbered)
    (root : SurfaceID) :
    ∃ visits : SurfaceID → Nat, visits root = 1 ∧ ∀ movement topLeft moved,
      manager.moveTree movement (manager.made + 1) (some root) topLeft = .ok moved →
        moved = fun surface => movedBy movement (visits surface) (topLeft surface) := by
  rcases manager.moveTree_cases (manager.made + 1) (some root) with
    ⟨failure, fails⟩ | ⟨visits, moves⟩
  · refine ⟨fun _ => 1, rfl, fun movement topLeft moved done => ?_⟩
    rw [fails] at done
    cases done
  · refine ⟨visits, ?_, fun movement topLeft moved done => ?_⟩
    · have once := moveTree_root numbered (moves ⟨1, 0⟩ fun _ => ⟨0, 0⟩)
      have byOne := (Point.mk.inj once).1
      simpa using byOne
    · rw [moves] at done
      exact (Except.ok.inj done).symm

/-- Lengths of at least one pixel are as they were. -/
def KeepsSize (before after : Size) : Prop :=
  (0 < before.width → after.width = before.width) ∧
    (0 < before.height → after.height = before.height)

theorem KeepsSize.resized {before after : Size} (keeps : KeepsSize before after) :
    KeepsSize before (resized after) := by
  unfold KeepsSize Shell.resized at *
  dsimp only
  split_ifs <;> omega

/-! ### What can be restored -/

namespace PlacedPolicy

variable {policy start next : PlacedPolicy} {layout : DisplayLayout} {surface : SurfaceID}
  {value : WindowState}

def setStates (policy : PlacedPolicy) (layout : DisplayLayout) (surface : SurfaceID)
    (values : List WindowState) : Except ResizeFailure PlacedPolicy :=
  values.foldlM (fun policy value => policy.handleSetState layout surface value) policy

/-- The invariant of the states a root passes through: the tree is displaced, and what the root is
restored to is the place it had. -/
structure Restorable (visits : SurfaceID → Nat) (start policy : PlacedPolicy)
    (surface : SurfaceID) : Prop where
  manager : policy.manager = start.manager
  displaced : ∃ movement, policy.topLeft =
    fun other => movedBy movement (visits other) (start.topLeft other)
  place : (policy.restoredRect surface).topLeft = start.topLeft surface
  size : KeepsSize (start.size surface) (policy.restoredRect surface).size

theorem noteState_restoredRect (policy : PlacedPolicy) (surface : SurfaceID) :
    (policy.noteState surface).restoredRect surface = policy.restoredRect surface := by
  have sameState : (policy.noteState surface).state = policy.state :=
    (noteFullscreen_manager policy.toCanonicalPolicy surface).2
  rw [restoredRect, sameState, noteState_restoreRect, restoredRect]
  split_ifs <;> rfl

/-- In another state than restored, what is to be restored is what was saved. -/
theorem restoredRect_withState (policy : PlacedPolicy) (surface : SurfaceID)
    (differs : value ≠ .restored) :
    (policy.withState surface value).restoredRect surface = policy.restoreRect surface := by
  rw [restoredRect, if_neg]
  · rfl
  · rw [withState]
    dsimp only
    rw [Function.update_self]
    exact differs

theorem restoredRect_restored (policy : PlacedPolicy) (surface : SurfaceID) :
    (policy.withState surface .restored).restoredRect surface = policy.rect surface :=
  if_pos (Function.update_self _ _ _)

theorem restorable_start (restored : start.state surface = .restored)
    (visits : SurfaceID → Nat) : Restorable visits start start surface where
  manager := rfl
  displaced := ⟨⟨0, 0⟩, funext fun _ => (movedBy_nothing _ _).symm⟩
  place := by
    rw [restoredRect, if_pos restored]
    rfl
  size := by
    rw [restoredRect, if_pos restored]
    exact ⟨fun _ => rfl, fun _ => rfl⟩

theorem Restorable.handleSetState {visits : SurfaceID → Nat} (numbered : start.manager.Numbered)
    (walks : ∀ movement topLeft moved,
      start.manager.moveTree movement (start.manager.made + 1) (some surface) topLeft =
        .ok moved → moved = fun other => movedBy movement (visits other) (topLeft other))
    (restorable : Restorable visits start policy surface)
    (done : policy.handleSetState layout surface value = .ok next) :
    Restorable visits start next surface := by
  have noted : (policy.noteState surface).manager = start.manager :=
    (noteFullscreen_manager policy.toCanonicalPolicy surface).1.trans restorable.manager
  cases (handleSetState_setsState done).2 with
  | ignored unknown => exact restorable
  | already valid same =>
    refine ⟨noted, restorable.displaced, ?_, ?_⟩
    · rw [noteState_restoredRect]
      exact restorable.place
    · rw [noteState_restoredRect]
      exact restorable.size
  | hidden valid differs noRect =>
    have differsRestored : value ≠ .restored := by
      rcases (askedRect_eq_none_iff valid).mp noRect with rfl | rfl <;> exact nofun
    refine ⟨noted, restorable.displaced, ?_, ?_⟩
    · rw [restoredRect_withState _ _ differsRestored, noteState_restoreRect]
      exact restorable.place
    · rw [restoredRect_withState _ _ differsRestored, noteState_restoreRect]
      exact restorable.size
  | @placed valid differs rect isRect moved resizes =>
    have same := applyResize_eq resizes
    have isMoved := (moveTree_eq resizes).2
    have displaced : ∃ movement, moved.topLeft =
        fun other => movedBy movement (visits other) (start.topLeft other) := by
      obtain ⟨before, isBefore⟩ := restorable.displaced
      dsimp only [resizeSurface] at isMoved
      rw [noted] at isMoved
      have isWalk := walks _ _ _ isMoved
      rw [show (policy.noteState surface).topLeft = _ from isBefore] at isWalk
      simp only [movedBy_movedBy] at isWalk
      exact ⟨_, isWalk⟩
    have manager : moved.manager = start.manager := by
      rw [same]
      exact noted
    refine ⟨manager, displaced, ?_, ?_⟩
    · by_cases isRestored : value = .restored
      · subst isRestored
        obtain rfl : policy.restoredRect surface = rect := Option.some.inj isRect
        rw [restoredRect_restored]
        exact (applyResize_topLeft (noted.symm ▸ numbered) resizes).trans restorable.place
      · rw [restoredRect_withState _ _ isRestored, same, noteState_restoreRect]
        exact restorable.place
    · by_cases isRestored : value = .restored
      · subst isRestored
        obtain rfl : policy.restoredRect surface = rect := Option.some.inj isRect
        rw [restoredRect_restored, rect, same]
        dsimp only
        rw [Function.update_self]
        exact restorable.size.resized
      · rw [restoredRect_withState _ _ isRestored, same, noteState_restoreRect]
        exact restorable.size

theorem Restorable.setStates {visits : SurfaceID → Nat} (numbered : start.manager.Numbered)
    (walks : ∀ movement topLeft moved,
      start.manager.moveTree movement (start.manager.made + 1) (some surface) topLeft =
        .ok moved → moved = fun other => movedBy movement (visits other) (topLeft other))
    (restorable : Restorable visits start policy surface) {values : List WindowState}
    (done : policy.setStates layout surface values = .ok next) :
    Restorable visits start next surface :=
  foldlM_invariant (fun state => Restorable visits start state surface)
    (fun _ _ _ _ before set => before.handleSetState numbered walks set) restorable done

/-! ### States that are set of a tree that can be moved -/

theorem handleSetState_of_moves (moves : policy.moves surface = true) (layout : DisplayLayout)
    (value : WindowState) : ∃ next, policy.handleSetState layout surface value = .ok next := by
  have noted : (policy.noteState surface).moves surface = true := by
    unfold CanonicalPolicy.moves at moves ⊢
    simpa [noteState, noteFullscreen_manager] using moves
  have registered : policy.manager.surfaceInfo surface ≠ none := by
    intro unregistered
    unfold CanonicalPolicy.moves at moves
    rw [Manager.moveTree, Manager.infoFor, unregistered] at moves
    cases moves
  unfold PlacedPolicy.handleSetState
  dsimp only
  rw [if_neg registered]
  split_ifs
  · exact ⟨_, rfl⟩
  · exact ⟨_, rfl⟩
  · split
    · exact ⟨_, rfl⟩
    · rename_i rect isRect
      obtain ⟨moved, done⟩ :=
        @moveTree_of_moves ((policy.noteState surface).resizeSurface surface rect.size) surface
          noted ⟨_, _⟩
      refine ⟨moved.withState surface value, ?_⟩
      rw [applyResize, done]
      rfl

theorem handleSetState_manager (done : policy.handleSetState layout surface value = .ok next) :
    next.manager = policy.manager := by
  rw [handleSetState_canonical done]
  rcases policy.toCanonicalPolicy.handleSetState_cases surface value true with
    ⟨-, same⟩ | ⟨-, -, set⟩
  · rw [same]
  · exact set.manager

theorem setStates_of_moves (moves : policy.moves surface = true) (layout : DisplayLayout)
    (values : List WindowState) : ∃ next, policy.setStates layout surface values = .ok next := by
  induction values generalizing policy with
  | nil => exact ⟨policy, rfl⟩
  | cons value rest inductionHypothesis =>
    obtain ⟨middle, done⟩ := handleSetState_of_moves moves layout value
    have stillMoves : middle.moves surface = true := by
      unfold CanonicalPolicy.moves
      rw [handleSetState_manager done]
      exact moves
    obtain ⟨next, rested⟩ := inductionHypothesis stillMoves
    refine ⟨next, ?_⟩
    rw [setStates, List.foldlM_cons, done]
    exact rested

/-- States are set of the root of a tree that is restored, and they can be if the tree can be moved.
Whenever the root is restored again, all surfaces are where they were, and so are the lengths of the
root of at least one pixel. -/
theorem restored_geometry (numbered : policy.manager.Numbered)
    (restored : policy.state surface = .restored) (layout : DisplayLayout)
    (values : List WindowState) :
    (policy.moves surface = true → ∃ next, policy.setStates layout surface values = .ok next) ∧
    ∀ next, policy.setStates layout surface values = .ok next →
      next.state surface = .restored →
        next.topLeft = policy.topLeft ∧ KeepsSize (policy.size surface) (next.size surface) := by
  refine ⟨fun moves => setStates_of_moves moves layout values, fun next done isRestored => ?_⟩
  obtain ⟨visits, once, walks⟩ := Manager.moveTree_visits numbered surface
  have restorable := (restorable_start restored visits).setStates numbered walks done
  have place := restorable.place
  have size := restorable.size
  rw [restoredRect, if_pos isRestored] at place size
  refine ⟨?_, size⟩
  obtain ⟨movement, displaced⟩ := restorable.displaced
  have stays : movedBy movement 1 (policy.topLeft surface) = policy.topLeft surface := by
    have here := congrFun displaced surface
    rw [once] at here
    exact here.symm.trans place
  rw [displaced, eq_zero_of_movedBy stays]
  exact funext fun other => movedBy_nothing _ _

/-- A window with a satellite, which is placed beside it. -/
private def withSatellite (size : Size) : PlacedPolicy where
  manager := [.addSession 0, .addSurface 0 (some .normal) none,
    .addSurface 0 (some .satellite) (some 0)].foldl Manager.step .initial
  state := fun _ => .restored
  outputID := fun _ => none
  outputNamed := fun _ => false
  fullscreenSurfaces := []
  aborted := false
  topLeft := fun surface => if surface = 0 then ⟨10, 20⟩ else ⟨60, 20⟩
  size := fun _ => size
  restoreRect := fun _ => .empty
  constraints := fun _ => .new SizeConstraints.unconstrained
  displayArea := ⟨⟨0, 0⟩, ⟨640, 480⟩⟩

private def oneOutput : DisplayLayout where
  placeInOutput := fun _ _ => ⟨⟨0, 0⟩, ⟨640, 480⟩⟩
  sizeToOutput := fun _ => ⟨⟨0, 0⟩, ⟨640, 480⟩⟩

private def allStates : List WindowState :=
  [.maximized, .hidden, .vertmaximized, .fullscreen, .minimized, .horizmaximized, .restored]

private theorem numbered_withSatellite (size : Size) :
    (withSatellite size).manager.Numbered := by
  have opened := Manager.numbered_step Manager.numbered_initial (.addSession 0)
  have window := Manager.numbered_step opened (.addSurface 0 (some .normal) none)
  exact Manager.numbered_step window (.addSurface 0 (some .satellite) (some 0))

theorem restored_geometry_of_satellite :
    ∃ next, (withSatellite ⟨40, 30⟩).setStates oneOutput 0 allStates = .ok next ∧
      next.topLeft = (withSatellite ⟨40, 30⟩).topLeft ∧ next.size 0 = ⟨40, 30⟩ := by
  obtain ⟨goes, comesBack⟩ := @restored_geometry (withSatellite ⟨40, 30⟩) 0
    (numbered_withSatellite ⟨40, 30⟩) rfl oneOutput allStates
  obtain ⟨next, done⟩ := goes (by decide)
  have states : ((withSatellite ⟨40, 30⟩).setStates oneOutput 0 allStates).toOption.map
      (fun last => last.state 0) = some .restored := by decide
  rw [done] at states
  obtain ⟨topLeft, keeps⟩ := comesBack next done (Option.some.inj states)
  refine ⟨next, done, topLeft, ?_⟩
  exact congrArg₂ Size.mk (keeps.1 (by decide)) (keeps.2 (by decide))

/-- A surface without any pixel has one after it was maximized. -/
theorem restored_size_differs :
    ¬ ∀ (policy next : PlacedPolicy) (layout : DisplayLayout) (surface : SurfaceID)
      (values : List WindowState), policy.manager.Numbered → policy.state surface = .restored →
        policy.setStates layout surface values = .ok next → next.state surface = .restored →
          next.topLeft = policy.topLeft ∧ next.size surface = policy.size surface := by
  intro claimed
  have outcome : ((withSatellite ⟨0, 0⟩).setStates oneOutput 0 [.maximized, .restored]).toOption.map
      (fun last => (last.state 0, last.size 0)) = some (.restored, ⟨1, 1⟩) := by decide
  obtain ⟨next, done, observed⟩ := ok_of_observed outcome
  obtain ⟨isRestored, size⟩ := Prod.mk.inj observed
  have same := (claimed _ next oneOutput 0 _ (numbered_withSatellite ⟨0, 0⟩) rfl done isRestored).2
  exact absurd (size.symm.trans same) (by decide)

end PlacedPolicy

end Mir.Shell

/-
This file is a small library of computations that may fail. It says what the outcome of computations
that are done one after another tells of each of them, and the other way round.
-/

import Mathlib.Logic.Basic

namespace Fallible

variable {Failure Value State Item : Type}

/-! ### Two computations -/

section Bind

variable {first : Except Failure Value} {rest : Value → Except Failure State}

theorem bind_ok {last : State} (done : first >>= rest = .ok last) :
    ∃ middle, first = .ok middle ∧ rest middle = .ok last := by
  cases first with
  | error failure => cases done
  | ok middle => exact ⟨middle, rfl, done⟩

theorem bind_succeeds_iff :
    (∃ last, first >>= rest = .ok last) ↔
      ∃ middle, first = .ok middle ∧ ∃ last, rest middle = .ok last := by
  constructor
  · rintro ⟨last, done⟩
    obtain ⟨middle, isMiddle, isLast⟩ := bind_ok done
    exact ⟨middle, isMiddle, last, isLast⟩
  · rintro ⟨middle, rfl, succeeds⟩
    exact succeeds

theorem bind_ne_error {failure : Failure} (fine : first ≠ .error failure)
    (restFine : ∀ value, rest value ≠ .error failure) : first >>= rest ≠ .error failure := by
  cases first with
  | error other => exact fun same => fine (congrArg Except.error (Except.error.inj same))
  | ok value => exact restFine value

/-- What is observed of an outcome was observed of a value. -/
theorem ok_of_observed {Result : Type} {observe : Value → Result} {result : Result}
    (observed : first.toOption.map observe = some result) :
    ∃ value, first = .ok value ∧ observe value = result := by
  cases first with
  | error failure => cases observed
  | ok value => exact ⟨value, rfl, Option.some.inj observed⟩

end Bind

/-! ### A computation for each item -/

section Items

variable {failure : Failure} {action : Item → Except Failure Value} {items : List Item}

theorem mapM_succeeds_iff :
    (∃ values, items.mapM action = .ok values) ↔
      ∀ item ∈ items, ∃ value, action item = .ok value := by
  induction items with
  | nil => exact iff_of_true ⟨[], rfl⟩ nofun
  | cons item items inductionHypothesis =>
    rw [List.mapM_cons, bind_succeeds_iff, List.forall_mem_cons, ← inductionHypothesis,
      ← exists_and_right]
    refine exists_congr fun value => and_congr_right fun _ => ?_
    rw [bind_succeeds_iff]
    exact exists_congr fun values => and_iff_left ⟨_, rfl⟩

theorem mapM_eq_self {action : Item → Except Failure Item}
    (each : ∀ item ∈ items, action item = .ok item) : items.mapM action = .ok items := by
  induction items with
  | nil => rfl
  | cons item items inductionHypothesis =>
    obtain ⟨first, rest⟩ := List.forall_mem_cons.mp each
    rw [List.mapM_cons, first, inductionHypothesis rest]
    rfl

/-- A failure that no item gives is not given by all of them. -/
theorem mapM_ne_error (fine : ∀ item ∈ items, action item ≠ .error failure) :
    items.mapM action ≠ .error failure := by
  induction items with
  | nil => exact fun same => by cases same
  | cons item items inductionHypothesis =>
    rw [List.mapM_cons]
    refine bind_ne_error (fine item List.mem_cons_self) fun value => ?_
    refine bind_ne_error (inductionHypothesis fun other member =>
      fine other (List.mem_cons_of_mem _ member)) fun values same => ?_
    cases same

end Items

/-! ### A computation that goes on with the state that each item leaves -/

section Fold

variable {failure : Failure} {action : State → Item → Except Failure State} {items : List Item}

theorem foldlM_ne_error (fine : ∀ item ∈ items, ∀ state, action state item ≠ .error failure)
    (state : State) : items.foldlM action state ≠ .error failure := by
  induction items generalizing state with
  | nil => exact fun same => by cases same
  | cons item items inductionHypothesis =>
    rw [List.foldlM_cons]
    exact bind_ne_error (fine item List.mem_cons_self state) fun next =>
      inductionHypothesis (fun other member => fine other (List.mem_cons_of_mem _ member)) next

/-- What each item keeps is kept by all of them. -/
theorem foldlM_invariant (property : State → Prop) {first last : State}
    (preserved : ∀ item ∈ items, ∀ state next, property state → action state item = .ok next →
      property next)
    (initially : property first) (done : items.foldlM action first = .ok last) :
    property last := by
  induction items generalizing first with
  | nil =>
    cases done
    exact initially
  | cons item rest inductionHypothesis =>
    rw [List.foldlM_cons] at done
    obtain ⟨middle, isFirst, done⟩ := bind_ok done
    exact inductionHypothesis (fun other member => preserved other (List.mem_cons_of_mem _ member))
      (preserved item List.mem_cons_self first middle initially isFirst) done

end Fold

end Fallible

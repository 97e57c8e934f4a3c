/-
This file is a small library of matching by marks: each element of one list is looked for among the
elements of another that have no mark yet, and the first that equals it gets one. However the
elements are repeated, all of them are found exactly if they are some of the elements of the other
list, in any order.
-/

import Mathlib.Data.List.Perm.Subperm

namespace Matching

variable {Element : Type*} [DecidableEq Element]

/-- The marks after the first element without a mark that equals one got its mark. -/
def markFirst (element : Element) : List Element → List Bool → Option (List Bool)
  | other :: others, marked :: marks =>
    if !marked && decide (other = element) then some (true :: marks)
    else (markFirst element others marks).map fun marks => marked :: marks
  | _, _ => none

/-- Whether each element is found among those that have no mark when it is looked for. -/
def allFound (others : List Element) : List Element → List Bool → Bool
  | [], _ => true
  | element :: elements, marks =>
    match markFirst element others marks with
    | none => false
    | some marks => allFound others elements marks

/-- The elements that have no mark. -/
def unmarked : List Element → List Bool → List Element
  | other :: others, marked :: marks =>
    if marked then unmarked others marks else other :: unmarked others marks
  | _, _ => []

omit [DecidableEq Element] in
theorem unmarked_replicate (others : List Element) :
    unmarked others (List.replicate others.length false) = others := by
  induction others with
  | nil => rfl
  | cons other others inductionHypothesis =>
    rw [List.length_cons, List.replicate_succ, unmarked, if_neg Bool.false_ne_true,
      inductionHypothesis]

theorem notMem_unmarked_of_none {element : Element} {others : List Element} {marks : List Bool}
    (none : markFirst element others marks = none) : element ∉ unmarked others marks := by
  fun_induction markFirst element others marks with
  | case1 => cases none
  | case2 other others marked marks other_ne inductionHypothesis =>
    have later := inductionHypothesis (Option.map_eq_none_iff.mp none)
    unfold unmarked
    split_ifs with isMarked
    · exact later
    · have unlike : other ≠ element := by simpa [isMarked] using other_ne
      exact fun member => later ((List.mem_cons.mp member).resolve_left unlike.symm)
  | case3 others marks notBoth =>
    unfold unmarked
    split
    next => exact (notBoth _ _ _ _ rfl rfl).elim
    next => exact List.not_mem_nil

/-- The element that gets a mark is one of those that had none. -/
theorem perm_unmarked_of_some {element : Element} {others : List Element} {marks next : List Bool}
    (found : markFirst element others marks = some next) :
    (unmarked others marks).Perm (element :: unmarked others next) := by
  fun_induction markFirst element others marks generalizing next with
  | case1 other others marked marks isFirst =>
    obtain ⟨isFree, rfl⟩ : marked = false ∧ other = element := by simpa using isFirst
    cases found
    rw [unmarked, unmarked, isFree]
    exact .refl _
  | case2 other others marked marks other_ne inductionHypothesis =>
    obtain ⟨rest, isRest, rfl⟩ := Option.map_eq_some_iff.mp found
    have later := inductionHypothesis isRest
    rw [unmarked, unmarked]
    split_ifs
    · exact later
    · exact (later.cons other).trans (.swap element other _)
  | case3 => cases found

theorem allFound_iff (others elements : List Element) (marks : List Bool) :
    allFound others elements marks = true ↔ elements.Subperm (unmarked others marks) := by
  induction elements generalizing marks with
  | nil => exact iff_of_true rfl List.nil_subperm
  | cons element elements inductionHypothesis =>
    unfold allFound
    cases found : markFirst element others marks with
    | none =>
      refine iff_of_false Bool.false_ne_true fun subperm => ?_
      exact notMem_unmarked_of_none found (subperm.subset List.mem_cons_self)
    | some next =>
      dsimp only
      rw [inductionHypothesis, (perm_unmarked_of_some found).subperm_left, List.subperm_cons]

/-- Lists of one length are permutations of each other exactly if all elements of the one are found
in the other. -/
theorem perm_iff (elements others : List Element) :
    elements.Perm others ↔ elements.length = others.length ∧
      allFound others elements (List.replicate others.length false) = true := by
  rw [allFound_iff, unmarked_replicate]
  constructor
  · exact fun perm => ⟨perm.length_eq, perm.subperm⟩
  · rintro ⟨sameLength, subperm⟩
    exact subperm.perm_of_length_le (Nat.le_of_eq sameLength.symm)

end Matching

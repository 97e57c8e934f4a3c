/-
This file is a small library of threads in a list, each at its place. When one of them moves, what
all of them weigh together and what all of them carry together changes by what the one does.
-/

import Mathlib.Algebra.GroupWithZero.Nat
import Mathlib.Algebra.Order.Group.Nat
import Mathlib.Data.List.Perm.Basic

open scoped List

namespace Crew

variable {Member Item : Type*} {crew : List Member} {place : Nat} {old new : Member}

/-- What all members weigh together. -/
def total (weight : Member → Nat) (crew : List Member) : Nat := (crew.map weight).sum

variable {weight : Member → Nat}

theorem total_append (other : List Member) :
    total weight (crew ++ other) = total weight crew + total weight other := by
  unfold total
  rw [List.map_append, List.sum_append]

/-- The list without the one that moves. -/
theorem perm_eraseIdx (isAt : crew[place]? = some old) : crew.Perm (old :: crew.eraseIdx place) := by
  obtain ⟨inside, same⟩ := List.getElem?_eq_some_iff.mp isAt
  rw [← same]
  exact (List.getElem_cons_eraseIdx_perm inside).symm

theorem set_perm_eraseIdx (isAt : crew[place]? = some old) :
    (crew.set place new).Perm (new :: crew.eraseIdx place) := by
  obtain ⟨inside, -⟩ := List.getElem?_eq_some_iff.mp isAt
  exact List.set_perm_cons_eraseIdx inside new

theorem total_of_perm {other : List Member} (perm : crew.Perm other) :
    total weight crew = total weight other :=
  (perm.map weight).sum_nat

theorem total_set (weight : Member → Nat) (isAt : crew[place]? = some old) (new : Member) :
    total weight (crew.set place new) + weight old = total weight crew + weight new := by
  rw [total_of_perm (set_perm_eraseIdx isAt), total_of_perm (perm_eraseIdx isAt)]
  unfold total
  rw [List.map_cons, List.sum_cons, List.map_cons, List.sum_cons]
  omega

theorem le_total (weight : Member → Nat) (isAt : crew[place]? = some old) :
    weight old ≤ total weight crew := by
  rw [total_of_perm (perm_eraseIdx isAt)]
  unfold total
  rw [List.map_cons, List.sum_cons]
  exact Nat.le_add_right _ _

theorem exists_of_total_pos (weighs : 0 < total weight crew) :
    ∃ place : Nat, ∃ member, crew[place]? = some member ∧ 0 < weight member := by
  induction crew with
  | nil => exact absurd weighs (Nat.lt_irrefl 0)
  | cons first rest inductionHypothesis =>
    by_cases isHeavy : 0 < weight first
    · exact ⟨0, first, rfl, isHeavy⟩
    · have later : 0 < total weight rest := by
        unfold total at weighs ⊢
        rw [List.map_cons, List.sum_cons] at weighs
        omega
      obtain ⟨place, member, isAt, heavy⟩ := inductionHypothesis later
      exact ⟨place + 1, member, isAt, heavy⟩

/-- What all members carry, up to its order. -/
theorem flatMap_set (carries : Member → List Item) (isAt : crew[place]? = some old)
    (new : Member) :
    ((crew.set place new).flatMap carries ++ carries old).Perm
      (crew.flatMap carries ++ carries new) := by
  have before := (perm_eraseIdx isAt).flatMap_right carries
  have replaced : (crew.set place new).Perm (new :: crew.eraseIdx place) := set_perm_eraseIdx isAt
  have after := replaced.flatMap_right carries
  rw [List.flatMap_cons] at before after
  calc
    _ ~ (carries new ++ (crew.eraseIdx place).flatMap carries) ++ carries old :=
      after.append_right _
    _ ~ (crew.eraseIdx place).flatMap carries ++ carries new ++ carries old :=
      List.perm_append_comm.append_right _
    _ ~ (carries old ++ (crew.eraseIdx place).flatMap carries) ++ carries new := by
      rw [List.append_assoc]
      refine (List.Perm.append_left _ List.perm_append_comm).trans ?_
      rw [← List.append_assoc]
      exact List.perm_append_comm.append_right _
    _ ~ _ := before.symm.append_right _

/-! ### What one member carries and what the others do -/

variable {carries : Member → List Item} {item : Item}

theorem mem_flatMap (isAt : crew[place]? = some old) :
    item ∈ crew.flatMap carries ↔
      item ∈ carries old ∨ item ∈ (crew.eraseIdx place).flatMap carries := by
  rw [((perm_eraseIdx isAt).flatMap_right carries).mem_iff, List.flatMap_cons, List.mem_append]

theorem mem_flatMap_set (isAt : crew[place]? = some old) :
    item ∈ (crew.set place new).flatMap carries ↔
      item ∈ carries new ∨ item ∈ (crew.eraseIdx place).flatMap carries := by
  have replaced : (crew.set place new).Perm (new :: crew.eraseIdx place) := set_perm_eraseIdx isAt
  rw [(replaced.flatMap_right carries).mem_iff, List.flatMap_cons, List.mem_append]

/-- No item is carried twice; what one member carries no other does. -/
theorem notMem_others (isAt : crew[place]? = some old) (nodup : (crew.flatMap carries).Nodup)
    (member : item ∈ carries old) : item ∉ (crew.eraseIdx place).flatMap carries := by
  have apart := ((perm_eraseIdx isAt).flatMap_right carries).nodup_iff.mp nodup
  rw [List.flatMap_cons] at apart
  exact fun other => (List.nodup_append.mp apart).2.2 item member item other rfl

theorem nodup_carries (isAt : crew[place]? = some old) (nodup : (crew.flatMap carries).Nodup) :
    (carries old).Nodup := by
  have apart := ((perm_eraseIdx isAt).flatMap_right carries).nodup_iff.mp nodup
  rw [List.flatMap_cons] at apart
  exact apart.sublist (List.sublist_append_left _ _)

/-- A member may drop some of what it carries. -/
theorem nodup_set (isAt : crew[place]? = some old) (nodup : (crew.flatMap carries).Nodup)
    (fewer : (carries new).Sublist (carries old)) :
    ((crew.set place new).flatMap carries).Nodup := by
  have replaced : (crew.set place new).Perm (new :: crew.eraseIdx place) := set_perm_eraseIdx isAt
  have apart := ((perm_eraseIdx isAt).flatMap_right carries).nodup_iff.mp nodup
  refine (replaced.flatMap_right carries).nodup_iff.mpr ?_
  rw [List.flatMap_cons] at apart ⊢
  exact apart.sublist (fewer.append_right _)

end Crew

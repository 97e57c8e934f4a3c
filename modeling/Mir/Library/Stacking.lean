/-
This file is a small library of filters that justify what they remove. A list is split
in two, each part in the order of the whole, and every item that is removed comes with
a reason, which may refer to the items after it that were kept. What is stacked in the
list, the first item at the bottom, is then seen from above as if nothing were removed,
whenever the reason is that something opaque covers the item.
-/

import Mathlib.Data.List.Basic
import Mathlib.Data.List.Perm.Basic

namespace Stacking

variable {Item : Type*}

/-- A list is split into what is kept and what is removed, both in order. An item is removed
because of the items kept after it. -/
inductive Splits (reason : Item → List Item → Prop) : List Item → List Item → List Item → Prop
  | nil : Splits reason [] [] []
  | keep (item : Item) {whole kept removed : List Item} (rest : Splits reason whole kept removed) :
      Splits reason (item :: whole) (item :: kept) removed
  | remove (item : Item) {whole kept removed : List Item}
      (rest : Splits reason whole kept removed) (because : reason item kept) :
      Splits reason (item :: whole) kept (item :: removed)

/-- The item seen where `covers` holds of the items that are there: the last of them. -/
def topmost (covers : Item → Bool) (stack : List Item) : Option Item :=
  (stack.filter covers).getLast?

/-- All that is seen there, from the top down to the first opaque item. -/
def visible (covers opaqueItem : Item → Bool) : List Item → List Item
  | [] => []
  | item :: above =>
    let seen := visible covers opaqueItem above
    if covers item ∧ ¬ seen.any opaqueItem then seen ++ [item] else seen

namespace Splits

variable {reason : Item → List Item → Prop} {whole kept removed : List Item}

theorem kept_sublist (splits : Splits reason whole kept removed) : kept.Sublist whole := by
  induction splits with
  | nil => exact List.Sublist.refl _
  | keep item _ inductionHypothesis => exact inductionHypothesis.cons_cons item
  | remove item _ _ inductionHypothesis => exact inductionHypothesis.cons item

theorem removed_sublist (splits : Splits reason whole kept removed) : removed.Sublist whole := by
  induction splits with
  | nil => exact List.Sublist.refl _
  | keep item _ inductionHypothesis => exact inductionHypothesis.cons item
  | remove item _ _ inductionHypothesis => exact inductionHypothesis.cons_cons item

/-- Nothing is lost and nothing is added. -/
theorem perm (splits : Splits reason whole kept removed) : (kept ++ removed).Perm whole := by
  induction splits with
  | nil => exact List.Perm.refl _
  | keep item _ inductionHypothesis => exact inductionHypothesis.cons item
  | remove item _ _ inductionHypothesis =>
    exact List.perm_middle.trans (inductionHypothesis.cons item)

/-- Every item removed had a reason, among the items kept in the end. -/
theorem exists_reason (splits : Splits reason whole kept removed) {item : Item}
    (member : item ∈ removed) : ∃ above, above.Sublist kept ∧ reason item above := by
  induction splits with
  | nil => cases member
  | keep other _ inductionHypothesis =>
    obtain ⟨above, fewer, because⟩ := inductionHypothesis member
    exact ⟨above, fewer.cons other, because⟩
  | remove other _ because inductionHypothesis =>
    rcases List.mem_cons.mp member with rfl | before
    · exact ⟨_, List.Sublist.refl _, because⟩
    · exact inductionHypothesis before

/-- What is on top stays, when everything removed from there is under something kept. -/
theorem topmost_eq (splits : Splits reason whole kept removed) (covers : Item → Bool)
    (covered : ∀ item above, reason item above → covers item = true →
      ∃ cover ∈ above, covers cover = true) :
    topmost covers whole = topmost covers kept := by
  unfold topmost
  induction splits with
  | nil => rfl
  | keep item _ inductionHypothesis =>
    by_cases here : covers item = true
    · rw [List.filter_cons_of_pos here, List.filter_cons_of_pos here, List.getLast?_cons,
        List.getLast?_cons, inductionHypothesis]
    · rw [List.filter_cons_of_neg here, List.filter_cons_of_neg here, inductionHypothesis]
  | @remove item whole kept removed _ because inductionHypothesis =>
    by_cases here : covers item = true
    · obtain ⟨cover, above, covering⟩ := covered item _ because here
      have some : kept.filter covers ≠ [] := by
        intro nothing
        exact List.not_mem_nil (nothing ▸ List.mem_filter.mpr ⟨above, covering⟩)
      rw [List.filter_cons_of_pos here, List.getLast?_cons, inductionHypothesis,
        List.getLast?_eq_some_getLast some]
      rfl
    · rw [List.filter_cons_of_neg here, inductionHypothesis]

/-- An opaque item that is there is seen, or another one above it is. -/
theorem any_visible {covers opaqueItem : Item → Bool} {stack : List Item} {item : Item}
    (member : item ∈ stack) (here : covers item = true) (blocks : opaqueItem item = true) :
    (visible covers opaqueItem stack).any opaqueItem = true := by
  induction stack with
  | nil => cases member
  | cons other above inductionHypothesis =>
    rw [visible]
    rcases List.mem_cons.mp member with rfl | behind
    · split
      · rw [List.any_append]
        simp [blocks]
      · rename_i hidden
        rw [here] at hidden
        simpa using hidden
    · split
      · rw [List.any_append, inductionHypothesis behind, Bool.true_or]
      · exact inductionHypothesis behind

/-- All that is seen stays, when everything removed from there is under something opaque. -/
theorem visible_eq (splits : Splits reason whole kept removed) (covers opaqueItem : Item → Bool)
    (covered : ∀ item above, reason item above → covers item = true →
      ∃ cover ∈ above, covers cover = true ∧ opaqueItem cover = true) :
    visible covers opaqueItem whole = visible covers opaqueItem kept := by
  induction splits with
  | nil => rfl
  | keep item _ inductionHypothesis => rw [visible, visible, inductionHypothesis]
  | remove item _ because inductionHypothesis =>
    rw [visible, inductionHypothesis]
    refine if_neg ?_
    rintro ⟨here, clear⟩
    obtain ⟨cover, above, covering, blocks⟩ := covered item _ because here
    exact clear (any_visible above covering blocks)

end Splits

end Stacking

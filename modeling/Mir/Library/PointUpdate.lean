/-
This file is a small library of loops that change a map at one key after another. Where the keys
are distinct, each entry is changed once, from its first value. Where they are not, a part of an
entry is known if all changes at its key agree on it.
-/

import Mathlib.Data.List.Nodup
import Mathlib.Logic.Function.Basic

namespace PointUpdate

variable {Key Value Item : Type*} [DecidableEq Key]

/-- Each item changes the entry at its key. -/
def through (key : Item → Key) (change : Item → Value → Value) (items : List Item)
    (map : Key → Value) : Key → Value :=
  items.foldl (fun map item => Function.update map (key item) (change item (map (key item)))) map

variable {key : Item → Key} {change : Item → Value → Value} {items : List Item}

theorem through_cons (item : Item) (rest : List Item) (map : Key → Value) :
    through key change (item :: rest) map =
      through key change rest (Function.update map (key item) (change item (map (key item)))) := rfl

theorem through_other {other : Key} (map : Key → Value) (absent : other ∉ items.map key) :
    through key change items map other = map other := by
  induction items generalizing map with
  | nil => rfl
  | cons item rest inductionHypothesis =>
    obtain ⟨different, later⟩ := not_or.mp (mt List.mem_cons.mpr absent)
    rw [through_cons, inductionHypothesis _ later, Function.update_of_ne different]

theorem through_self {item : Item} (map : Key → Value) (nodup : (items.map key).Nodup)
    (member : item ∈ items) :
    through key change items map (key item) = change item (map (key item)) := by
  induction items generalizing map with
  | nil => cases member
  | cons first rest inductionHypothesis =>
    obtain ⟨fresh, nodup⟩ := List.nodup_cons.mp nodup
    rw [through_cons]
    rcases List.mem_cons.mp member with rfl | later
    · rw [through_other _ fresh, Function.update_self]
    · have different : key item ≠ key first := fun same => fresh (same ▸ List.mem_map_of_mem later)
      rw [inductionHypothesis _ nodup later, Function.update_of_ne different]

/-! ### Keys that come again -/

/-- A change of one entry keeps a relation between two maps, if it keeps it there. -/
theorem related_update (related : Value → Value → Prop) {map other : Key → Value}
    {value next : Value} (initially : ∀ key, related (map key) (other key)) (here : Key)
    (changed : related value next) (key : Key) :
    related (Function.update map here value key) (Function.update other here next key) := by
  by_cases same : key = here
  · subst same
    rw [Function.update_self, Function.update_self]
    exact changed
  · rw [Function.update_of_ne same, Function.update_of_ne same]
    exact initially key

/-- Two loops over the same items, the changes of which keep a relation. -/
theorem through_related (related : Value → Value → Prop) {otherChange : Item → Value → Value}
    {map other : Key → Value} (initially : ∀ key, related (map key) (other key))
    (each : ∀ item ∈ items, ∀ value next, related value next →
      related (change item value) (otherChange item next)) (here : Key) :
    related (through key change items map here) (through key otherChange items other here) := by
  induction items generalizing map other with
  | nil => exact initially here
  | cons first rest inductionHypothesis =>
    rw [through_cons, through_cons]
    refine inductionHypothesis ?_ fun item later => each item (List.mem_cons_of_mem _ later)
    exact related_update related initially _ (each first List.mem_cons_self _ _ (initially _))

variable {View : Type*} (view : Value → View) {here : Key}

/-- A part of an entry that no change at its key touches. -/
theorem view_through_of_kept (map : Key → Value)
    (kept : ∀ item ∈ items, key item = here → ∀ value, view (change item value) = view value) :
    view (through key change items map here) = view (map here) := by
  induction items generalizing map with
  | nil => rfl
  | cons first rest inductionHypothesis =>
    rw [through_cons,
      inductionHypothesis _ fun item later => kept item (List.mem_cons_of_mem _ later)]
    by_cases same : here = key first
    · subst same
      rw [Function.update_self]
      exact kept first List.mem_cons_self rfl _
    · rw [Function.update_of_ne same]

/-- A part of an entry that has the value which all changes at its key set it to. -/
theorem view_through_of_settled {value : View} (map : Key → Value)
    (settled : view (map here) = value)
    (set : ∀ item ∈ items, key item = here → ∀ old, view (change item old) = value) :
    view (through key change items map here) = value := by
  induction items generalizing map with
  | nil => exact settled
  | cons first rest inductionHypothesis =>
    rw [through_cons]
    refine inductionHypothesis _ ?_ fun item later => set item (List.mem_cons_of_mem _ later)
    by_cases same : here = key first
    · subst same
      rw [Function.update_self]
      exact set first List.mem_cons_self rfl _
    · rw [Function.update_of_ne same]
      exact settled

/-- A part of an entry that all changes at its key set to one value, of which there is one. -/
theorem view_through_of_set {value : View} (map : Key → Value) {item : Item}
    (member : item ∈ items) (isHere : key item = here)
    (set : ∀ item ∈ items, key item = here → ∀ old, view (change item old) = value) :
    view (through key change items map here) = value := by
  induction items generalizing map with
  | nil => cases member
  | cons first rest inductionHypothesis =>
    have later : ∀ item ∈ rest, key item = here → ∀ old, view (change item old) = value :=
      fun item later => set item (List.mem_cons_of_mem _ later)
    rw [through_cons]
    rcases List.mem_cons.mp member with rfl | isLater
    · refine view_through_of_settled view _ ?_ later
      rw [isHere, Function.update_self]
      exact set item List.mem_cons_self isHere _
    · exact inductionHypothesis _ isLater later

end PointUpdate

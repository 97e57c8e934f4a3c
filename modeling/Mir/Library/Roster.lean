/-
This file is a small library of rosters: entries under distinct keys, kept in the order in which
they joined. An entry is changed in its place, and leaves from it.

There are two ways to reason about one entry. By its key, `find_join`, `find_change`, `find_leave`
and `find_mapValues` say what each operation makes of the values. By its place, `split` takes the
roster apart at the entry, and says of each operation on it what becomes of the two sides.
-/

import Mathlib.Data.List.Nodup

/-- Entries in the order in which they joined, each key once. -/
structure Roster (Key Value : Type*) where
  entries : List (Key × Value)
  nodup : (entries.map Prod.fst).Nodup

namespace Roster

variable {Key Value : Type*} [DecidableEq Key]

def empty : Roster Key Value := ⟨[], List.nodup_nil⟩

def find (roster : Roster Key Value) (key : Key) : Option Value :=
  (roster.entries.find? fun entry => entry.1 = key).map Prod.snd

/-- The entries that joined before the one of a key. -/
def ahead (roster : Roster Key Value) (key : Key) : List (Key × Value) :=
  roster.entries.takeWhile fun entry => entry.1 ≠ key

/-- An entry under a key that is there already does not join. -/
def join (roster : Roster Key Value) (key : Key) (value : Value) : Roster Key Value :=
  if known : key ∈ roster.entries.map Prod.fst then
    roster
  else
    { entries := roster.entries ++ [(key, value)]
      nodup := by
        rw [List.map_append]
        refine List.nodup_append'.mpr ⟨roster.nodup, List.nodup_singleton _, ?_⟩
        exact List.disjoint_singleton.mpr known }

def change (roster : Roster Key Value) (key : Key) (value : Value) : Roster Key Value where
  entries := roster.entries.map fun entry => if entry.1 = key then (key, value) else entry
  nodup := by
    have sameKeys : (roster.entries.map fun entry => if entry.1 = key then (key, value) else entry
        ).map Prod.fst = roster.entries.map Prod.fst := by
      rw [List.map_map]
      refine List.map_congr_left fun entry _ => ?_
      by_cases isKey : entry.1 = key <;> simp [isKey]
    rw [sameKeys]
    exact roster.nodup

def leave (roster : Roster Key Value) (key : Key) : Roster Key Value where
  entries := roster.entries.filter fun entry => entry.1 ≠ key
  nodup := (List.filter_sublist.map Prod.fst).nodup roster.nodup

/-- Every value is changed, whatever its key. -/
def mapValues (roster : Roster Key Value) (update : Value → Value) : Roster Key Value where
  entries := roster.entries.map fun entry => (entry.1, update entry.2)
  nodup := by
    rw [List.map_map]
    exact roster.nodup

theorem find_eq_none_iff (roster : Roster Key Value) (key : Key) :
    roster.find key = none ↔ key ∉ roster.entries.map Prod.fst := by
  rw [find, Option.map_eq_none_iff, List.find?_eq_none, List.mem_map]
  constructor
  · rintro unlike ⟨entry, member, isKey⟩
    exact unlike entry member (decide_eq_true isKey)
  · intro absent entry member isKey
    exact absent ⟨entry, member, of_decide_eq_true isKey⟩

theorem entries_join (roster : Roster Key Value) {key : Key} (value : Value)
    (unknown : roster.find key = none) :
    (roster.join key value).entries = roster.entries ++ [(key, value)] := by
  rw [join, dif_neg ((roster.find_eq_none_iff key).mp unknown)]

theorem find_join (roster : Roster Key Value) {key : Key} (value : Value)
    (unknown : roster.find key = none) (other : Key) :
    (roster.join key value).find other = if key = other then some value else roster.find other := by
  rw [find, roster.entries_join value unknown, List.find?_append]
  by_cases same : key = other
  · subst same
    have absent : roster.entries.find? (fun entry => entry.1 = key) = none :=
      Option.map_eq_none_iff.mp unknown
    simp [absent]
  · simp [find, same]

theorem find_change (roster : Roster Key Value) {key : Key} {old : Value} (value : Value)
    (known : roster.find key = some old) (other : Key) :
    (roster.change key value).find other =
      if key = other then some value else roster.find other := by
  rw [find, find, change, List.find?_map]
  by_cases same : key = other
  · subst same
    obtain ⟨entry, isFirst, -⟩ := Option.map_eq_some_iff.mp known
    have isKey : entry.1 = key := by simpa using List.find?_some isFirst
    have keyKept : (fun entry : Key × Value => decide (entry.1 = key)) ∘
        (fun entry => if entry.1 = key then (key, value) else entry) =
        fun entry => decide (entry.1 = key) := by
      funext entry
      by_cases isKey : entry.1 = key <;> simp [isKey]
    rw [keyKept, isFirst]
    simp [isKey]
  · have otherKept : (fun entry : Key × Value => decide (entry.1 = other)) ∘
        (fun entry => if entry.1 = key then (key, value) else entry) =
        fun entry => decide (entry.1 = other) := by
      funext entry
      by_cases isKey : entry.1 = key <;> simp [isKey, same]
    rw [otherKept, if_neg same]
    cases isFirst : roster.entries.find? fun entry => decide (entry.1 = other) with
    | none => rfl
    | some entry =>
      have isOther : entry.1 = other := by simpa using List.find?_some isFirst
      have notKey : ¬ entry.1 = key := fun isKey => same (isKey.symm.trans isOther)
      simp [notKey]

theorem find_leave (roster : Roster Key Value) (key other : Key) :
    (roster.leave key).find other = if key = other then none else roster.find other := by
  rw [find, find, leave, List.find?_filter]
  by_cases same : key = other
  · subst same
    rw [if_pos rfl, Option.map_eq_none_iff, List.find?_eq_none]
    intro entry _
    by_cases isKey : entry.1 = key <;> simp [isKey]
  · rw [if_neg same]
    congr 2
    funext entry
    by_cases isOther : entry.1 = other
    · simp [isOther, Ne.symm same]
    · simp [isOther]

theorem find_mapValues (roster : Roster Key Value) (update : Value → Value) (key : Key) :
    (roster.mapValues update).find key = (roster.find key).map update := by
  rw [find, find, mapValues, List.find?_map, Option.map_map, Option.map_map]
  rfl

theorem mem_entries_iff (roster : Roster Key Value) (key : Key) (value : Value) :
    (key, value) ∈ roster.entries ↔ roster.find key = some value := by
  constructor
  · intro member
    cases found : roster.find key with
    | none =>
      have absent := (roster.find_eq_none_iff key).mp found
      exact absurd (List.mem_map.mpr ⟨_, member, rfl⟩) absent
    | some other =>
      obtain ⟨entry, isFirst, rfl⟩ := Option.map_eq_some_iff.mp found
      have isKey : entry.1 = key := by simpa using List.find?_some isFirst
      have same : entry = (key, value) :=
        List.inj_on_of_nodup_map roster.nodup (List.mem_of_find?_eq_some isFirst) member isKey
      rw [same]
  · intro found
    obtain ⟨entry, isFirst, rfl⟩ := Option.map_eq_some_iff.mp found
    have isKey : entry.1 = key := by simpa using List.find?_some isFirst
    rw [← isKey]
    exact List.mem_of_find?_eq_some isFirst

/-- A roster is taken apart at an entry. -/
theorem split (roster : Roster Key Value) {key : Key} {value : Value}
    (found : roster.find key = some value) :
    ∃ before after, roster.entries = before ++ (key, value) :: after ∧
      roster.ahead key = before ∧
      (∀ other, (roster.change key other).entries = before ++ (key, other) :: after) ∧
      (roster.leave key).entries = before ++ after := by
  obtain ⟨⟨other, _⟩, isFirst, rfl⟩ := Option.map_eq_some_iff.mp found
  obtain ⟨isKey, before, after, entries, unlike⟩ := List.find?_eq_some_iff_append.mp isFirst
  obtain rfl : other = key := of_decide_eq_true isKey
  have beforeOther : ∀ entry ∈ before, entry.1 ≠ other := by
    intro entry member
    simpa using unlike entry member
  have afterOther : ∀ entry ∈ after, entry.1 ≠ other := by
    intro entry member same
    have nodup := roster.nodup
    rw [entries, List.map_append, List.map_cons] at nodup
    refine (List.nodup_cons.mp (List.nodup_append'.mp nodup).2.1).1 ?_
    exact List.mem_map.mpr ⟨entry, member, same⟩
  have kept : ∀ others : List (Key × Value), (∀ entry ∈ others, entry.1 ≠ other) →
      others.filter (fun entry => entry.1 ≠ other) = others := by
    intro others unlike
    exact List.filter_eq_self.mpr fun entry member => decide_eq_true (unlike entry member)
  have unchanged : ∀ (value : Value) (others : List (Key × Value)),
      (∀ entry ∈ others, entry.1 ≠ other) →
      others.map (fun entry => if entry.1 = other then (other, value) else entry) = others := by
    intro value others unlike
    refine (List.map_congr_left fun entry member => ?_).trans (List.map_id others)
    rw [if_neg (unlike entry member)]
    rfl
  refine ⟨before, after, entries, ?_, fun value => ?_, ?_⟩
  · rw [ahead, entries, List.takeWhile_append_of_pos]
    · simp
    · exact fun entry member => decide_eq_true (beforeOther entry member)
  · show roster.entries.map _ = _
    rw [entries, List.map_append, List.map_cons, unchanged value before beforeOther,
      unchanged value after afterOther, if_pos rfl]
  · show roster.entries.filter _ = _
    rw [entries, List.filter_append, List.filter_cons_of_neg (by simp), kept before beforeOther,
      kept after afterOther]

end Roster

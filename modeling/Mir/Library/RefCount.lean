/-
This file is a small library of reference counts kept beside the things they
count. A table holds entries; each entry is for one item and has a counter; the
outstanding references are a list of items. `Counted` says that the counters are
right and that nothing outside the table is referred to. It is kept by the moves
a table makes: a new unused entry, one more reference, one less, and dropping
entries that nobody refers to.
-/

import Mathlib.Data.List.Nodup

namespace RefCount

variable {Entry Item : Type*} [DecidableEq Item] {item : Entry → Item} {count : Entry → Nat}
  {entries kept : List Entry} {held : List Item}

/-- Every counter is the number of references to its item, and every reference is to an item of
the table. -/
structure Counted (item : Entry → Item) (count : Entry → Nat) (entries : List Entry)
    (held : List Item) : Prop where
  counts : ∀ entry ∈ entries, count entry = held.count (item entry)
  listed : ∀ reference ∈ held, reference ∈ entries.map item

namespace Counted

theorem nil : Counted item count [] [] := ⟨by simp, by simp⟩

/-- The order of the references does not matter. -/
theorem perm {other : List Item} (counted : Counted item count entries held)
    (same : held.Perm other) : Counted item count entries other :=
  ⟨fun entry member => (counted.counts entry member).trans (same.count_eq _),
    fun reference member => counted.listed reference (same.mem_iff.mpr member)⟩

/-- An item is referred to exactly when its counter is positive. -/
theorem mem_held_iff (counted : Counted item count entries held) {entry : Entry}
    (member : entry ∈ entries) : item entry ∈ held ↔ count entry ≠ 0 := by
  rw [counted.counts entry member, ← Nat.pos_iff_ne_zero, List.count_pos_iff]

/-- A new entry for an item nobody refers to starts at zero. -/
theorem cons_fresh (counted : Counted item count entries held) {entry : Entry}
    (unused : count entry = 0) (fresh : item entry ∉ held) :
    Counted item count (entry :: entries) held := by
  refine ⟨fun other member => ?_, fun reference member => ?_⟩
  · rcases List.mem_cons.mp member with rfl | old
    · rw [unused, List.count_eq_zero_of_not_mem fresh]
    · exact counted.counts other old
  · exact List.mem_cons_of_mem _ (counted.listed reference member)

/-- One more reference to the first entry, whose item has no other entry. -/
theorem acquire_front {front : Entry} {rest : List Entry}
    (counted : Counted item count (front :: rest) held) (used : Entry)
    (same : item used = item front)
    (once : count used = count front + 1) (alone : item front ∉ rest.map item) :
    Counted item count (used :: rest) (item front :: held) := by
  refine ⟨fun other member => ?_, fun reference member => ?_⟩
  · rcases List.mem_cons.mp member with rfl | behind
    · rw [once, same, List.count_cons_self, counted.counts front List.mem_cons_self]
    · have different : item front ≠ item other := by
        intro equal
        exact alone (equal ▸ List.mem_map_of_mem behind)
      rw [List.count_cons_of_ne different,
        counted.counts other (List.mem_cons_of_mem _ behind)]
  · rw [List.map_cons, same]
    rcases List.mem_cons.mp member with rfl | old
    · exact List.mem_cons_self
    · exact counted.listed reference old

/-- One reference less, taken off the counter of its item. -/
theorem release {reference : Item} {taken : Entry → Entry}
    (counted : Counted item count entries held)
    (same : ∀ entry ∈ entries, item (taken entry) = item entry)
    (here : ∀ entry ∈ entries, item entry = reference → count (taken entry) = count entry - 1)
    (elsewhere : ∀ entry ∈ entries, item entry ≠ reference → count (taken entry) = count entry) :
    Counted item count (entries.map taken) (held.erase reference) := by
  refine ⟨fun other member => ?_, fun other member => ?_⟩
  · obtain ⟨entry, old, rfl⟩ := List.mem_map.mp member
    rw [same entry old]
    by_cases equal : item entry = reference
    · rw [here entry old equal, counted.counts entry old, equal, List.count_erase_self]
    · rw [elsewhere entry old equal, counted.counts entry old, List.count_erase_of_ne equal]
  · obtain ⟨entry, old, equal⟩ :=
      List.mem_map.mp (counted.listed other (List.mem_of_mem_erase member))
    rw [List.map_map]
    exact List.mem_map.mpr ⟨entry, old, (same entry old).trans equal⟩

/-- Entries that nobody refers to may be dropped. -/
theorem drop_unused (counted : Counted item count entries held) (sublist : kept.Sublist entries)
    (keeps : ∀ entry ∈ entries, count entry ≠ 0 → entry ∈ kept) :
    Counted item count kept held := by
  refine ⟨fun entry member => counted.counts entry (sublist.subset member), ?_⟩
  intro reference member
  obtain ⟨entry, old, rfl⟩ := List.mem_map.mp (counted.listed reference member)
  exact List.mem_map_of_mem (keeps entry old ((counted.mem_held_iff old).mp member))

end Counted

end RefCount

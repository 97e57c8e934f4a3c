/-
This file is a small library of ordered maps, kept as lists of entries with increasing
keys. A map carries the proof that its entries are in order, so no two of them have the
same key and a walk over the entries meets the keys from the lowest on.
-/

import Mathlib.Algebra.GroupWithZero.Nat
import Mathlib.Data.List.Basic
import Mathlib.Data.List.Pairwise
import Mathlib.Order.Lattice

structure OrderedMap (Key Value : Type) [LinearOrder Key] where
  entries : List (Key × Value)
  ordered : entries.Pairwise fun first second => first.1 < second.1

namespace OrderedMap

variable {Key Value : Type} [LinearOrder Key]

def empty : OrderedMap Key Value := ⟨[], List.Pairwise.nil⟩

def size (map : OrderedMap Key Value) : Nat := map.entries.length

/-- The value at a key. -/
def find (map : OrderedMap Key Value) (key : Key) : Option Value :=
  (map.entries.find? fun entry => entry.1 = key).map Prod.snd

/-- The lowest key whose entry is wanted. -/
def firstKey (map : OrderedMap Key Value) (wanted : Key → Value → Bool) : Option Key :=
  (map.entries.find? fun entry => wanted entry.1 entry.2).map Prod.fst

/-! ### Changing a map -/

/-- The entries with a value at a key, which replaces what was there. -/
def insertEntry (key : Key) (value : Value) : List (Key × Value) → List (Key × Value)
  | [] => [(key, value)]
  | entry :: rest =>
    if key < entry.1 then (key, value) :: entry :: rest
    else if key = entry.1 then (key, value) :: rest
    else entry :: insertEntry key value rest

theorem mem_insertEntry {key : Key} {value : Value} {entries : List (Key × Value)}
    {entry : Key × Value} (member : entry ∈ insertEntry key value entries) :
    entry = (key, value) ∨ entry ∈ entries := by
  induction entries with
  | nil => exact .inl (List.mem_singleton.mp member)
  | cons first rest inductionHypothesis =>
    rw [insertEntry] at member
    split_ifs at member with before same
    · exact List.mem_cons.mp member
    · exact (List.mem_cons.mp member).imp id (List.mem_cons_of_mem _)
    · rcases List.mem_cons.mp member with rfl | later
      · exact .inr List.mem_cons_self
      · exact (inductionHypothesis later).imp id (List.mem_cons_of_mem _)

theorem ordered_insertEntry (key : Key) (value : Value) {entries : List (Key × Value)}
    (ordered : entries.Pairwise fun first second => first.1 < second.1) :
    (insertEntry key value entries).Pairwise fun first second => first.1 < second.1 := by
  induction entries with
  | nil => exact List.pairwise_singleton _ _
  | cons first rest inductionHypothesis =>
    obtain ⟨lowest, restOrdered⟩ := List.pairwise_cons.mp ordered
    rw [insertEntry]
    split_ifs with before same
    · refine List.pairwise_cons.mpr ⟨fun entry member => ?_, ordered⟩
      rcases List.mem_cons.mp member with rfl | later
      · exact before
      · exact before.trans (lowest entry later)
    · refine List.pairwise_cons.mpr ⟨fun entry member => ?_, restOrdered⟩
      exact same ▸ lowest entry member
    · refine List.pairwise_cons.mpr ⟨fun entry member => ?_, inductionHypothesis restOrdered⟩
      rcases mem_insertEntry member with rfl | old
      · exact lt_of_le_of_ne (not_lt.mp before) (Ne.symm same)
      · exact lowest entry old

def set (map : OrderedMap Key Value) (key : Key) (value : Value) : OrderedMap Key Value :=
  ⟨insertEntry key value map.entries, ordered_insertEntry key value map.ordered⟩

/-- Only the entries that are wanted. -/
def filter (map : OrderedMap Key Value) (wanted : Key → Value → Bool) : OrderedMap Key Value :=
  ⟨map.entries.filter fun entry => wanted entry.1 entry.2, map.ordered.filter _⟩

def erase (map : OrderedMap Key Value) (key : Key) : OrderedMap Key Value :=
  map.filter fun other _ => other ≠ key

/-! ### Reading a map -/

@[simp] theorem find_empty (key : Key) : (empty : OrderedMap Key Value).find key = none := rfl

theorem find_eq_some_iff (map : OrderedMap Key Value) (key : Key) (value : Value) :
    map.find key = some value ↔ (key, value) ∈ map.entries := by
  obtain ⟨entries, ordered⟩ := map
  unfold find
  induction entries with
  | nil => simp
  | cons first rest inductionHypothesis =>
    obtain ⟨lowest, restOrdered⟩ := List.pairwise_cons.mp ordered
    obtain ⟨firstKey, firstValue⟩ := first
    rw [List.find?_cons, List.mem_cons]
    by_cases same : firstKey = key
    · subst same
      have missing : (firstKey, value) ∉ rest := fun member =>
        lt_irrefl firstKey (lowest (firstKey, value) member)
      simp [missing, eq_comm]
    · simpa [same, Ne.symm same] using inductionHypothesis restOrdered

theorem find_set (map : OrderedMap Key Value) (key other : Key) (value : Value) :
    (map.set key value).find other = if other = key then some value else map.find other := by
  obtain ⟨entries, ordered⟩ := map
  unfold set find
  dsimp only
  clear ordered
  induction entries with
  | nil =>
    by_cases same : other = key
    · simp [insertEntry, same]
    · simp [insertEntry, same, Ne.symm same]
  | cons first rest inductionHypothesis =>
    rw [insertEntry]
    split_ifs with before same found
    all_goals grind

theorem find_filter (map : OrderedMap Key Value) (wanted : Key → Value → Bool) (key : Key) :
    (map.filter wanted).find key = (map.find key).filter (wanted key) := by
  refine Option.ext fun value => ?_
  rw [Option.filter_eq_some_iff, find_eq_some_iff, find_eq_some_iff]
  exact List.mem_filter

theorem find_erase (map : OrderedMap Key Value) (key other : Key) :
    (map.erase key).find other = if other = key then none else map.find other := by
  rw [erase, find_filter]
  by_cases same : other = key
  · simp [same]
  · cases map.find other <;> simp [same]

theorem firstKey_eq_some {map : OrderedMap Key Value} {wanted : Key → Value → Bool} {key : Key}
    (first : map.firstKey wanted = some key) :
    ∃ value, map.find key = some value ∧ wanted key value = true := by
  obtain ⟨⟨other, value⟩, found, rfl⟩ := Option.map_eq_some_iff.mp first
  refine ⟨value, (map.find_eq_some_iff _ _).mpr (List.mem_of_find?_eq_some found), ?_⟩
  have accepted := List.find?_some found
  exact accepted

theorem firstKey_eq_none_iff (map : OrderedMap Key Value) (wanted : Key → Value → Bool) :
    map.firstKey wanted = none ↔
      ∀ key value, map.find key = some value → wanted key value = false := by
  rw [firstKey, Option.map_eq_none_iff, List.find?_eq_none]
  constructor
  · intro unwanted key value found
    exact Bool.eq_false_iff.mpr (unwanted (key, value) ((map.find_eq_some_iff _ _).mp found))
  · rintro unwanted ⟨key, value⟩ member
    exact Bool.eq_false_iff.mp (unwanted key value ((map.find_eq_some_iff _ _).mpr member))

/-! ### Counting entries -/

theorem find_cons {first : Key × Value} {rest : List (Key × Value)}
    (ordered : (first :: rest).Pairwise fun first second => first.1 < second.1) (key : Key) :
    (⟨first :: rest, ordered⟩ : OrderedMap Key Value).find key =
      if first.1 = key then some first.2
      else (⟨rest, ordered.of_cons⟩ : OrderedMap Key Value).find key := by
  unfold find
  rw [List.find?_cons]
  by_cases same : first.1 = key
  · simp [same]
  · simp [same]

theorem size_set (map : OrderedMap Key Value) (key : Key) (value : Value) :
    (map.set key value).size = if (map.find key).isSome then map.size else map.size + 1 := by
  obtain ⟨entries, ordered⟩ := map
  induction entries with
  | nil => rfl
  | cons first rest inductionHypothesis =>
    obtain ⟨lowest, restOrdered⟩ := List.pairwise_cons.mp ordered
    have later := inductionHypothesis restOrdered
    unfold set size at later ⊢
    rw [find_cons]
    dsimp only [insertEntry] at later ⊢
    by_cases before : key < first.1
    · have missing : (⟨rest, restOrdered⟩ : OrderedMap Key Value).find key = none := by
        refine Option.eq_none_iff_forall_ne_some.mpr fun other found => ?_
        have after := lowest _ ((find_eq_some_iff _ _ _).mp found)
        exact lt_irrefl _ (before.trans after)
      rw [if_pos before, if_neg (ne_of_gt before), missing]
      rfl
    · rw [if_neg before]
      by_cases same : key = first.1
      · rw [if_pos same, if_pos same.symm]
        rfl
      · rw [if_neg same, if_neg (Ne.symm same), List.length_cons, later, List.length_cons]
        split_ifs <;> rfl

theorem size_set_new (map : OrderedMap Key Value) {key : Key} (value : Value)
    (new : map.find key = none) : (map.set key value).size = map.size + 1 := by
  rw [size_set, new]
  rfl

theorem size_set_known (map : OrderedMap Key Value) {key : Key} {old : Value} (value : Value)
    (known : map.find key = some old) : (map.set key value).size = map.size := by
  rw [size_set, known]
  rfl

/-- Each entry is kept by a filter or is not. -/
theorem size_filter (map : OrderedMap Key Value) (wanted : Key → Value → Bool) :
    (map.filter wanted).size +
      (map.entries.filter fun entry => !wanted entry.1 entry.2).length = map.size := by
  unfold filter size
  exact (List.length_eq_length_filter_add fun entry : Key × Value => wanted entry.1 entry.2).symm

theorem size_erase (map : OrderedMap Key Value) {key : Key} {value : Value}
    (known : map.find key = some value) : (map.erase key).size + 1 = map.size := by
  obtain ⟨entries, ordered⟩ := map
  induction entries with
  | nil => cases known
  | cons first rest inductionHypothesis =>
    obtain ⟨lowest, restOrdered⟩ := List.pairwise_cons.mp ordered
    rw [find_cons] at known
    unfold erase filter size
    dsimp only
    by_cases same : first.1 = key
    · have kept : rest.filter (fun entry => decide (entry.1 ≠ key)) = rest := by
        refine List.filter_eq_self.mpr fun entry member => decide_eq_true ?_
        exact ne_of_gt (same ▸ lowest entry member)
      rw [List.filter_cons_of_neg (by simp [same]), kept, List.length_cons]
    · rw [if_neg same] at known
      have later := inductionHypothesis restOrdered known
      rw [List.filter_cons_of_pos (by simp [same]), List.length_cons, List.length_cons]
      exact congrArg Nat.succ later

/-! ### Counting the values of one kind -/

/-- How many values of a map are of one kind. -/
def count (map : OrderedMap Key Value) (kind : Value → Bool) : Nat :=
  map.entries.countP fun entry => kind entry.2

@[simp] theorem count_empty (kind : Value → Bool) :
    (empty : OrderedMap Key Value).count kind = 0 := rfl

theorem count_cons {first : Key × Value} {rest : List (Key × Value)}
    (ordered : (first :: rest).Pairwise fun first second => first.1 < second.1)
    (kind : Value → Bool) :
    (⟨first :: rest, ordered⟩ : OrderedMap Key Value).count kind =
      (⟨rest, ordered.of_cons⟩ : OrderedMap Key Value).count kind +
        if kind first.2 then 1 else 0 :=
  List.countP_cons

/-- A value taken out of a map is no longer counted. -/
theorem count_erase (map : OrderedMap Key Value) {key : Key} {value : Value}
    (known : map.find key = some value) (kind : Value → Bool) :
    (map.erase key).count kind + (if kind value then 1 else 0) = map.count kind := by
  obtain ⟨entries, ordered⟩ := map
  induction entries with
  | nil => cases known
  | cons first rest inductionHypothesis =>
    obtain ⟨lowest, restOrdered⟩ := List.pairwise_cons.mp ordered
    rw [find_cons] at known
    rw [count_cons]
    unfold erase filter count
    dsimp only
    by_cases same : first.1 = key
    · rw [if_pos same] at known
      cases known
      have kept : rest.filter (fun entry => decide (entry.1 ≠ key)) = rest := by
        refine List.filter_eq_self.mpr fun entry member => decide_eq_true ?_
        exact ne_of_gt (same ▸ lowest entry member)
      rw [List.filter_cons_of_neg (by simp [same]), kept]
    · rw [if_neg same] at known
      have later := inductionHypothesis restOrdered known
      unfold erase filter count at later
      dsimp only at later
      rw [List.filter_cons_of_pos (by simp [same]), List.countP_cons]
      omega

/-- Setting a key takes what was there out and counts the new value. -/
theorem count_set (map : OrderedMap Key Value) (key : Key) (value : Value)
    (kind : Value → Bool) :
    (map.set key value).count kind + (if (map.find key).any kind then 1 else 0) =
      map.count kind + if kind value then 1 else 0 := by
  obtain ⟨entries, ordered⟩ := map
  induction entries with
  | nil => simp [set, insertEntry, count, find, List.countP_cons]
  | cons first rest inductionHypothesis =>
    obtain ⟨lowest, restOrdered⟩ := List.pairwise_cons.mp ordered
    have later := inductionHypothesis restOrdered
    rw [find_cons, count_cons]
    unfold set count at later ⊢
    dsimp only [insertEntry] at later ⊢
    by_cases before : key < first.1
    · have missing : (⟨rest, restOrdered⟩ : OrderedMap Key Value).find key = none := by
        refine Option.eq_none_iff_forall_ne_some.mpr fun other found => ?_
        have after := lowest _ ((find_eq_some_iff _ _ _).mp found)
        exact lt_irrefl _ (before.trans after)
      rw [if_pos before, if_neg (ne_of_gt before), missing, List.countP_cons, List.countP_cons]
      simp
    · rw [if_neg before]
      by_cases same : key = first.1
      · rw [if_pos same, if_pos same.symm, List.countP_cons]
        simp only [Option.any_some]
        omega
      · rw [if_neg same, if_neg (Ne.symm same), List.countP_cons]
        omega

theorem count_set_known (map : OrderedMap Key Value) {key : Key} {old : Value} (value : Value)
    (known : map.find key = some old) (kind : Value → Bool) :
    (map.set key value).count kind + (if kind old then 1 else 0) =
      map.count kind + if kind value then 1 else 0 := by
  have set := map.count_set key value kind
  rwa [known, Option.any_some] at set

theorem count_le_add (map : OrderedMap Key Value) {kind first second : Value → Bool}
    (either : ∀ value, kind value = true → first value = true ∨ second value = true) :
    map.count kind ≤ map.count first + map.count second := by
  unfold count
  induction map.entries with
  | nil => exact Nat.le_refl _
  | cons entry rest inductionHypothesis =>
    have counted := either entry.2
    rw [List.countP_cons, List.countP_cons, List.countP_cons]
    by_cases isKind : kind entry.2 = true
    · rcases counted isKind with isFirst | isSecond
      · rw [if_pos isKind, if_pos isFirst]
        omega
      · rw [if_pos isKind, if_pos isSecond]
        omega
    · rw [if_neg isKind]
      omega

/-- A value is counted when the map holds one of its kind. -/
theorem count_pos_iff (map : OrderedMap Key Value) (kind : Value → Bool) :
    0 < map.count kind ↔ ∃ key value, map.find key = some value ∧ kind value = true := by
  rw [count, List.countP_pos_iff]
  constructor
  · rintro ⟨⟨key, value⟩, member, wanted⟩
    exact ⟨key, value, (map.find_eq_some_iff _ _).mpr member, wanted⟩
  · rintro ⟨key, value, found, wanted⟩
    exact ⟨(key, value), (map.find_eq_some_iff _ _).mp found, wanted⟩

theorem of_count_eq_zero {map : OrderedMap Key Value} {kind : Value → Bool}
    (none : map.count kind = 0) {key : Key} {value : Value}
    (found : map.find key = some value) : kind value = false := by
  refine Bool.eq_false_iff.mpr fun isKind => ?_
  have counted := (map.count_pos_iff kind).mpr ⟨key, value, found, isKind⟩
  exact absurd none (Nat.ne_of_gt counted)

/-! ### Adding up the weights of the values -/

def total (map : OrderedMap Key Value) (weight : Value → Nat) : Nat :=
  (map.entries.map fun entry => weight entry.2).sum

/-- A value that replaces another one changes the total by the difference of their weights. -/
theorem total_set_known (map : OrderedMap Key Value) {key : Key} {old : Value} (value : Value)
    (known : map.find key = some old) (weight : Value → Nat) :
    (map.set key value).total weight + weight old = map.total weight + weight value := by
  obtain ⟨entries, ordered⟩ := map
  induction entries with
  | nil => cases known
  | cons first rest inductionHypothesis =>
    obtain ⟨lowest, restOrdered⟩ := List.pairwise_cons.mp ordered
    rw [find_cons] at known
    unfold set total at inductionHypothesis ⊢
    dsimp only [insertEntry] at inductionHypothesis ⊢
    by_cases same : first.1 = key
    · rw [if_pos same] at known
      cases known
      rw [if_neg (same ▸ lt_irrefl _), if_pos same.symm, List.map_cons, List.sum_cons,
        List.map_cons, List.sum_cons]
      dsimp only
      omega
    · rw [if_neg same] at known
      have after : ¬key < first.1 :=
        fun before => lt_irrefl _ (before.trans (lowest _ ((find_eq_some_iff _ _ _).mp known)))
      have later := inductionHypothesis restOrdered known
      rw [if_neg after, if_neg (Ne.symm same), List.map_cons, List.sum_cons, List.map_cons,
        List.sum_cons]
      omega

/-! ### All the entries at once -/

/-- Every value changed in the same way. -/
def mapValues (map : OrderedMap Key Value) (change : Value → Value) : OrderedMap Key Value :=
  ⟨map.entries.map fun entry => (entry.1, change entry.2),
    List.pairwise_map.mpr map.ordered⟩

/-- The keys of the values of one kind, from the lowest on. -/
def keysOf (map : OrderedMap Key Value) (kind : Value → Bool) : List Key :=
  (map.entries.filter fun entry => kind entry.2).map Prod.fst

theorem find_mapValues (map : OrderedMap Key Value) (change : Value → Value) (key : Key) :
    (map.mapValues change).find key = (map.find key).map change := by
  unfold find mapValues
  rw [List.find?_map, Option.map_map, Option.map_map]
  rfl

theorem mem_keysOf (map : OrderedMap Key Value) (kind : Value → Bool) (key : Key) :
    key ∈ map.keysOf kind ↔ ∃ value, map.find key = some value ∧ kind value = true := by
  unfold keysOf
  rw [List.mem_map]
  constructor
  · rintro ⟨⟨key, value⟩, member, rfl⟩
    obtain ⟨entry, wanted⟩ := List.mem_filter.mp member
    exact ⟨value, (map.find_eq_some_iff _ _).mpr entry, wanted⟩
  · rintro ⟨value, found, wanted⟩
    exact ⟨(key, value), List.mem_filter.mpr ⟨(map.find_eq_some_iff _ _).mp found, wanted⟩, rfl⟩

theorem nodup_keysOf (map : OrderedMap Key Value) (kind : Value → Bool) :
    (map.keysOf kind).Nodup :=
  List.pairwise_map.mpr ((map.ordered.filter _).imp fun before => ne_of_lt before)

/-! ### The keys of one kind -/

theorem length_keysOf (map : OrderedMap Key Value) (kind : Value → Bool) :
    (map.keysOf kind).length = map.count kind := by
  rw [keysOf, List.length_map, count, List.countP_eq_length_filter]

theorem mem_keysOf_of_find {map : OrderedMap Key Value} {key : Key} {value : Value}
    (found : map.find key = some value) (kind : Value → Bool) :
    key ∈ map.keysOf kind ↔ kind value = true := by
  rw [mem_keysOf]
  constructor
  · rintro ⟨other, same, wanted⟩
    rw [found] at same
    cases same
    exact wanted
  · exact fun wanted => ⟨value, found, wanted⟩

theorem mem_keysOf_set (map : OrderedMap Key Value) (key other : Key) (value : Value)
    (kind : Value → Bool) :
    other ∈ (map.set key value).keysOf kind ↔
      if other = key then kind value = true else other ∈ map.keysOf kind := by
  rw [mem_keysOf, find_set]
  by_cases same : other = key
  · rw [if_pos same, if_pos same]
    constructor
    · rintro ⟨found, isValue, wanted⟩
      cases isValue
      exact wanted
    · exact fun wanted => ⟨value, rfl, wanted⟩
  · rw [if_neg same, if_neg same, mem_keysOf]

/-- A value that replaces another one of its kind. -/
theorem mem_keysOf_set_same {map : OrderedMap Key Value} {key : Key} {old value : Value}
    (known : map.find key = some old) {kind : Value → Bool} (same : kind value = kind old)
    (other : Key) : other ∈ (map.set key value).keysOf kind ↔ other ∈ map.keysOf kind := by
  rw [mem_keysOf_set]
  by_cases isKey : other = key
  · rw [if_pos isKey, isKey, mem_keysOf_of_find known, same]
  · rw [if_neg isKey]

/-- The list holds the keys of one kind, each of them once. -/
def Lists (map : OrderedMap Key Value) (kind : Value → Bool) (keys : List Key) : Prop :=
  keys.Nodup ∧ ∀ key, key ∈ keys ↔ key ∈ map.keysOf kind

/-- There is at most one key of the kind, and this is it. -/
def HoldsOnly (map : OrderedMap Key Value) (kind : Value → Bool) (holder : Option Key) : Prop :=
  ∀ key, holder = some key ↔ key ∈ map.keysOf kind

section

variable {map : OrderedMap Key Value} {kind : Value → Bool} {key : Key} {old value : Value}

theorem Lists.length_eq {keys : List Key} (lists : map.Lists kind keys) :
    keys.length = map.count kind := by
  rw [← length_keysOf]
  exact ((List.perm_ext_iff_of_nodup lists.1 (map.nodup_keysOf kind)).mpr lists.2).length_eq

theorem Lists.set_same {keys : List Key} (lists : map.Lists kind keys)
    (known : map.find key = some old) (same : kind value = kind old) :
    (map.set key value).Lists kind keys :=
  ⟨lists.1, fun other => (lists.2 other).trans (mem_keysOf_set_same known same other).symm⟩

theorem Lists.set_in {keys : List Key} (lists : map.Lists kind keys) (fresh : key ∉ keys)
    (isKind : kind value = true) : (map.set key value).Lists kind (keys ++ [key]) := by
  refine ⟨List.nodup_append.mpr ⟨lists.1, List.pairwise_singleton _ key, ?_⟩, fun other => ?_⟩
  · rintro first member second isSecond rfl
    exact fresh (List.mem_singleton.mp isSecond ▸ member)
  · rw [mem_keysOf_set, List.mem_append, List.mem_singleton, lists.2]
    by_cases same : other = key
    · rw [if_pos same]
      exact ⟨fun _ => isKind, fun _ => .inr same⟩
    · rw [if_neg same]
      exact ⟨fun either => either.resolve_right same, .inl⟩

theorem Lists.set_out {keys : List Key} (lists : map.Lists kind keys)
    (isNotKind : kind value = false) : (map.set key value).Lists kind (keys.erase key) := by
  refine ⟨lists.1.erase key, fun other => ?_⟩
  rw [mem_keysOf_set, lists.1.mem_erase_iff, lists.2]
  by_cases same : other = key
  · rw [if_pos same, isNotKind]
    exact ⟨fun both => absurd same both.1, fun wrong => absurd wrong Bool.false_ne_true⟩
  · rw [if_neg same]
    exact ⟨And.right, fun member => ⟨same, member⟩⟩

/-- A new key that is not of the kind is not in the list. -/
theorem Lists.set_new {keys : List Key} (lists : map.Lists kind keys)
    (new : map.find key = none) (isNotKind : kind value = false) :
    (map.set key value).Lists kind keys := by
  refine ⟨lists.1, fun other => ?_⟩
  rw [mem_keysOf_set, lists.2]
  by_cases same : other = key
  · rw [if_pos same, isNotKind, mem_keysOf, same, new]
    exact ⟨fun ⟨_, found, _⟩ => (nomatch found), fun wrong => absurd wrong Bool.false_ne_true⟩
  · rw [if_neg same]

variable {holder : Option Key}

theorem HoldsOnly.set_same (only : map.HoldsOnly kind holder)
    (known : map.find key = some old) (same : kind value = kind old) :
    (map.set key value).HoldsOnly kind holder :=
  fun other => (only other).trans (mem_keysOf_set_same known same other).symm

theorem HoldsOnly.set_in (only : map.HoldsOnly kind none) (isKind : kind value = true) :
    (map.set key value).HoldsOnly kind (some key) := by
  intro other
  rw [mem_keysOf_set]
  by_cases same : other = key
  · rw [if_pos same, same]
    exact ⟨fun _ => isKind, fun _ => rfl⟩
  · rw [if_neg same, ← only other]
    exact ⟨fun isKey => absurd (Option.some.inj isKey).symm same, fun none => (nomatch none)⟩

theorem HoldsOnly.set_out (only : map.HoldsOnly kind holder)
    (known : map.find key = some old) (isKind : kind old = true)
    (isNotKind : kind value = false) : (map.set key value).HoldsOnly kind none := by
  have isHolder : holder = some key :=
    (only key).mpr ((mem_keysOf_of_find known kind).mpr isKind)
  intro other
  rw [mem_keysOf_set]
  by_cases same : other = key
  · rw [if_pos same, isNotKind]
    exact ⟨fun none => (nomatch none), fun wrong => absurd wrong Bool.false_ne_true⟩
  · rw [if_neg same, ← only other, isHolder]
    exact ⟨fun none => (nomatch none), fun isOther => absurd (Option.some.inj isOther).symm same⟩

theorem HoldsOnly.set_new (only : map.HoldsOnly kind holder) (new : map.find key = none)
    (isNotKind : kind value = false) : (map.set key value).HoldsOnly kind holder := by
  intro other
  rw [mem_keysOf_set, only]
  by_cases same : other = key
  · rw [if_pos same, isNotKind, mem_keysOf, same, new]
    exact ⟨fun ⟨_, found, _⟩ => (nomatch found), fun wrong => absurd wrong Bool.false_ne_true⟩
  · rw [if_neg same]

/-- What is of the kind is the holder. -/
theorem HoldsOnly.eq_some (only : map.HoldsOnly kind holder) (known : map.find key = some old)
    (isKind : kind old = true) : holder = some key :=
  (only key).mpr ((mem_keysOf_of_find known kind).mpr isKind)

end

end OrderedMap

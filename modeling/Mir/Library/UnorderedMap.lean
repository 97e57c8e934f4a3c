/-
This file is a small library of maps that are walked in an order of their own, as hash tables
are. A new entry may change the order of all, and an entry that goes leaves the order of the
others as it is. A map carries the proof that no two of its entries have the same key.
-/

import Mathlib.Data.List.Perm.Basic
import Mathlib.Data.List.Nodup
import Mathlib.Logic.Function.Basic

/-- The keys in the order of a walk; a value counts only at a key. -/
structure UnorderedMap (Key Value : Type) where
  keys : List Key
  distinct : keys.Nodup
  value : Key → Value

namespace UnorderedMap

variable {Key Value : Type} [DecidableEq Key]

def empty (value : Key → Value) : UnorderedMap Key Value := ⟨[], List.nodup_nil, value⟩

/-- The value at a key. -/
def find (map : UnorderedMap Key Value) (key : Key) : Option Value :=
  if key ∈ map.keys then some (map.value key) else none

def values (map : UnorderedMap Key Value) : List Value := map.keys.map map.value

/-! ### Changing a map -/

/-- The keys after a new one, in an order that is proposed if it is an order of these keys. -/
def keysWith (keys : List Key) (key : Key) (order : List Key) : List Key :=
  if order.Perm (key :: keys) then order else key :: keys

theorem perm_keysWith (keys : List Key) (key : Key) (order : List Key) :
    (keysWith keys key order).Perm (key :: keys) := by
  unfold keysWith
  split_ifs with perm
  · exact perm
  · exact .refl _

/-- A value at a key, unless the map has one there. -/
def emplace (map : UnorderedMap Key Value) (key : Key) (value : Value) (order : List Key) :
    UnorderedMap Key Value :=
  if known : key ∈ map.keys then map
  else
    { keys := keysWith map.keys key order
      distinct := (perm_keysWith map.keys key order).nodup_iff.mpr
        (List.nodup_cons.mpr ⟨known, map.distinct⟩)
      value := Function.update map.value key value }

def erase (map : UnorderedMap Key Value) (key : Key) : UnorderedMap Key Value :=
  { map with keys := map.keys.erase key, distinct := map.distinct.erase key }

/-- The value at a key is changed, if there is one. -/
def modify (map : UnorderedMap Key Value) (key : Key) (change : Value → Value) :
    UnorderedMap Key Value :=
  if key ∈ map.keys then
    { map with value := Function.update map.value key (change (map.value key)) }
  else map

/-! ### What a change does -/

theorem find_eq_some_iff (map : UnorderedMap Key Value) (key : Key) (value : Value) :
    map.find key = some value ↔ key ∈ map.keys ∧ map.value key = value := by
  unfold find
  split_ifs with known <;> simp [known]

theorem find_eq_none_iff (map : UnorderedMap Key Value) (key : Key) :
    map.find key = none ↔ key ∉ map.keys := by
  unfold find
  split_ifs with known <;> simp [known]

theorem emplace_known (map : UnorderedMap Key Value) {key : Key} (value : Value)
    (order : List Key) (known : key ∈ map.keys) : map.emplace key value order = map :=
  dif_pos known

theorem perm_emplace (map : UnorderedMap Key Value) {key : Key} (value : Value)
    (order : List Key) (unknown : key ∉ map.keys) :
    (map.emplace key value order).keys.Perm (key :: map.keys) := by
  unfold emplace
  rw [dif_neg unknown]
  exact perm_keysWith map.keys key order

theorem value_emplace (map : UnorderedMap Key Value) {key : Key} (value : Value)
    (order : List Key) (unknown : key ∉ map.keys) :
    (map.emplace key value order).value = Function.update map.value key value := by
  unfold emplace
  rw [dif_neg unknown]

theorem mem_keys_emplace (map : UnorderedMap Key Value) (key other : Key) (value : Value)
    (order : List Key) :
    other ∈ (map.emplace key value order).keys ↔ other = key ∨ other ∈ map.keys := by
  by_cases known : key ∈ map.keys
  · rw [map.emplace_known value order known]
    refine ⟨.inr, ?_⟩
    rintro (rfl | member)
    · exact known
    · exact member
  · exact (map.perm_emplace value order known).mem_iff.trans List.mem_cons

theorem mem_keys_erase (map : UnorderedMap Key Value) (key other : Key) :
    other ∈ (map.erase key).keys ↔ other ≠ key ∧ other ∈ map.keys :=
  map.distinct.mem_erase_iff

theorem find_emplace (map : UnorderedMap Key Value) (key other : Key) (value : Value)
    (order : List Key) :
    (map.emplace key value order).find other =
      if other = key then some ((map.find key).getD value) else map.find other := by
  unfold find
  simp only [mem_keys_emplace]
  unfold emplace
  by_cases known : key ∈ map.keys
  · by_cases same : other = key
    · subst same
      simp [known]
    · simp [known, same]
  · by_cases same : other = key
    · subst same
      simp [known]
    · simp [known, same, Function.update_of_ne]

theorem find_erase (map : UnorderedMap Key Value) (key other : Key) :
    (map.erase key).find other = if other = key then none else map.find other := by
  unfold find
  simp only [mem_keys_erase]
  by_cases same : other = key
  · simp [same]
  · simp [same, erase]

@[simp] theorem keys_modify (map : UnorderedMap Key Value) (key : Key)
    (change : Value → Value) : (map.modify key change).keys = map.keys := by
  unfold modify
  split_ifs <;> rfl

theorem value_modify (map : UnorderedMap Key Value) (key : Key) (change : Value → Value)
    {other : Key} (known : other ∈ map.keys) :
    (map.modify key change).value other =
      if other = key then change (map.value other) else map.value other := by
  unfold modify
  by_cases same : other = key
  · subst same
    simp [known]
  · split_ifs <;> simp [same]

theorem find_modify (map : UnorderedMap Key Value) (key other : Key) (change : Value → Value) :
    (map.modify key change).find other =
      if other = key then (map.find other).map change else map.find other := by
  unfold find
  rw [keys_modify]
  by_cases known : other ∈ map.keys
  · rw [if_pos known, if_pos known, value_modify map key change known]
    split_ifs <;> rfl
  · simp [known]

theorem modify_unknown (map : UnorderedMap Key Value) {key : Key} (change : Value → Value)
    (unknown : map.find key = none) : map.modify key change = map :=
  if_neg ((map.find_eq_none_iff key).mp unknown)

/-- A change that leaves the value as it is. -/
theorem modify_eq_self (map : UnorderedMap Key Value) {key : Key} {change : Value → Value}
    {value : Value} (found : map.find key = some value) (same : change value = value) :
    map.modify key change = map := by
  obtain ⟨known, rfl⟩ := (map.find_eq_some_iff key value).mp found
  unfold modify
  rw [if_pos known, same, Function.update_eq_self]

/-- The values are those found. -/
theorem mem_values_iff (map : UnorderedMap Key Value) (value : Value) :
    value ∈ map.values ↔ ∃ key, map.find key = some value := by
  unfold values
  rw [List.mem_map]
  exact exists_congr fun key => (map.find_eq_some_iff key value).symm

end UnorderedMap

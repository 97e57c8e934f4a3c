/-
This file is a small library of logs whose entries each concern one key: the values that a log
has about a key, in their order, and what adding and erasing entries do to them.
-/

import Mathlib.Data.List.Basic
import Mathlib.Data.List.Nodup

namespace KeyedLog

variable {Key Value : Type*} [DecidableEq Key]

/-- The values about a key. -/
def about (key : Key) (log : List (Key × Value)) : List Value :=
  (log.filter fun entry => entry.1 = key).map Prod.snd

variable (key : Key)

@[simp] theorem about_nil : about key ([] : List (Key × Value)) = [] := rfl

@[simp] theorem about_append (first second : List (Key × Value)) :
    about key (first ++ second) = about key first ++ about key second := by
  unfold about
  rw [List.filter_append, List.map_append]

theorem about_cons (entry : Key × Value) (log : List (Key × Value)) :
    about key (entry :: log) =
      if entry.1 = key then entry.2 :: about key log else about key log := by
  unfold about
  rw [List.filter_cons]
  by_cases same : entry.1 = key
  · simp [same]
  · simp [same]

theorem about_singleton (entry : Key × Value) :
    about key [entry] = if entry.1 = key then [entry.2] else [] :=
  about_cons key entry []

theorem mem_about_iff (value : Value) (log : List (Key × Value)) :
    value ∈ about key log ↔ (key, value) ∈ log := by
  unfold about
  simp

/-- Only a key that an entry concerns loses a value. -/
theorem about_erase [BEq Value] [LawfulBEq Value] [BEq (Key × Value)] [LawfulBEq (Key × Value)]
    (entry : Key × Value) (log : List (Key × Value)) :
    about key (log.erase entry) =
      if entry.1 = key then (about key log).erase entry.2 else about key log := by
  induction log with
  | nil => simp
  | cons first rest inductionHypothesis =>
    obtain ⟨firstKey, firstValue⟩ := first
    obtain ⟨entryKey, entryValue⟩ := entry
    rw [List.erase_cons, about_cons]
    dsimp only at inductionHypothesis ⊢
    by_cases same : (firstKey, firstValue) = (entryKey, entryValue)
    · cases same
      by_cases isKey : firstKey = key
      · simp [isKey]
      · simp [isKey]
    · rw [if_neg (by simpa using same), about_cons, inductionHypothesis]
      dsimp only
      by_cases isKey : firstKey = key
      · by_cases isEntry : entryKey = key
        · have different : firstValue ≠ entryValue := by
            rintro rfl
            exact same (by rw [isKey, isEntry])
          simp [isKey, isEntry, different]
        · simp [isKey, isEntry]
      · simp [isKey]

/-- Keys that are given one value together are each given it once. -/
theorem about_map {keys : List Key} (distinct : keys.Nodup) (value : Value) :
    about key (keys.map fun other => (other, value)) = if key ∈ keys then [value] else [] := by
  induction keys with
  | nil => rfl
  | cons first rest inductionHypothesis =>
    obtain ⟨missing, restDistinct⟩ := List.nodup_cons.mp distinct
    rw [List.map_cons, about_cons, inductionHypothesis restDistinct]
    by_cases same : first = key
    · subst same
      simp [missing]
    · simp [same, Ne.symm same]

/-- Entries that are filtered out by their key leave nothing about it, and others as they were. -/
theorem about_filter (kept : Key → Bool) (log : List (Key × Value)) :
    about key (log.filter fun entry => kept entry.1) =
      if kept key then about key log else [] := by
  induction log with
  | nil => simp
  | cons first rest inductionHypothesis =>
    rw [List.filter_cons, about_cons]
    by_cases same : first.1 = key
    · by_cases keeps : kept key = true
      · simp [same, keeps, about_cons, inductionHypothesis]
      · simp [same, keeps, inductionHypothesis]
    · by_cases keeps : kept first.1 = true
      · simp [same, keeps, about_cons, inductionHypothesis]
      · simp [same, keeps, inductionHypothesis]

end KeyedLog

/-
This file is a small library of histories, lists of events in their order. An event fits or does
not fit what was before it, and a history is fitting when each of its events fits. An event may ask
for another one that comes after it, or set a value that the last one decides.
-/

import Mathlib.Data.List.Infix

namespace History

variable {Event : Type*}

/-- Every event fits the events before it. -/
def Along (fits : List Event → Event → Prop) (history : List Event) : Prop :=
  ∀ before event, before ++ [event] <+: history → fits before event

variable {fits : List Event → Event → Prop} {history : List Event} {event : Event}

theorem along_nil : Along fits [] := by
  intro before event isPrefix
  cases before <;> cases List.prefix_nil.mp isPrefix

/-- A history goes on fitting if the next event fits it. -/
theorem along_append_singleton :
    Along fits (history ++ [event]) ↔ Along fits history ∧ fits history event := by
  constructor
  · intro along
    refine ⟨fun before other isPrefix => ?_, along history event (List.prefix_refl _)⟩
    exact along before other (isPrefix.trans (List.prefix_append _ _))
  · rintro ⟨along, fitting⟩ before other isPrefix
    rcases List.prefix_concat_iff.mp isPrefix with same | earlier
    · obtain ⟨rfl, last⟩ := List.append_inj' same rfl
      cases last
      exact fitting
    · exact along before other earlier

/-- What happened fits what was before it. -/
theorem Along.of_mem (along : Along fits history) (member : event ∈ history) :
    ∃ before, before ⊆ history ∧ fits before event := by
  obtain ⟨before, later, rfl⟩ := List.append_of_mem member
  refine ⟨before, fun other => List.mem_append_left _, along before event ?_⟩
  exact ⟨later, by rw [List.append_assoc, List.singleton_append]⟩

/-! ### What is answered -/

variable {asks answers : Event → Prop}

/-- After each event that asks there is one that answers. -/
def FollowedBy (asks answers : Event → Prop) (history : List Event) : Prop :=
  ∀ before event after, history = before ++ event :: after → asks event →
    ∃ other ∈ after, answers other

theorem followedBy_nil : FollowedBy asks answers [] := fun _ _ _ whole =>
  absurd whole.symm (List.append_ne_nil_of_right_ne_nil _ (List.cons_ne_nil _ _))

/-- The last event must not ask, and answers everything before it or nothing. -/
theorem followedBy_append_singleton :
    FollowedBy asks answers (history ++ [event]) ↔
      ¬ asks event ∧ (FollowedBy asks answers history ∨ answers event) := by
  constructor
  · intro followed
    refine ⟨fun asksLast => ?_, ?_⟩
    · obtain ⟨other, member, -⟩ := followed history event [] rfl asksLast
      cases member
    · refine or_iff_not_imp_right.mpr fun noAnswer before other after whole asksEarlier => ?_
      obtain ⟨answer, member, isAnswer⟩ :=
        followed before other (after ++ [event]) (by rw [whole]; simp) asksEarlier
      rcases List.mem_append.mp member with found | isLast
      · exact ⟨answer, found, isAnswer⟩
      · exact absurd (List.mem_singleton.mp isLast ▸ isAnswer) noAnswer
  · rintro ⟨asksNot, answered⟩ before other after whole asksOther
    rcases List.eq_nil_or_concat after with rfl | ⟨middle, last, rfl⟩
    · obtain ⟨-, same⟩ := List.append_inj' whole rfl
      cases same
      exact absurd asksOther asksNot
    · rw [List.concat_eq_append, ← List.cons_append, ← List.append_assoc] at whole
      obtain ⟨earlier, same⟩ := List.append_inj' whole rfl
      cases same
      rw [List.concat_eq_append]
      rcases answered with followed | isAnswer
      · obtain ⟨answer, member, isAnswer⟩ := followed before other middle earlier asksOther
        exact ⟨answer, List.mem_append_left _ member, isAnswer⟩
      · exact ⟨event, List.mem_append_right _ (List.mem_singleton_self _), isAnswer⟩

/-- An event that does not ask leaves what is answered. -/
theorem FollowedBy.append (followed : FollowedBy asks answers history) (asksNot : ¬ asks event) :
    FollowedBy asks answers (history ++ [event]) :=
  followedBy_append_singleton.mpr ⟨asksNot, .inl followed⟩

/-- An answer is one to everything before it. -/
theorem followedBy_of_answers (asksNot : ¬ asks event) (isAnswer : answers event) :
    FollowedBy asks answers (history ++ [event]) :=
  followedBy_append_singleton.mpr ⟨asksNot, .inr isAnswer⟩

/-! ### What is set last -/

variable {Value : Type*} {sets : Event → Option Value} {first : Value}

/-- The value that was set last, or the first one. -/
def latest (sets : Event → Option Value) (first : Value) (history : List Event) : Value :=
  history.foldl (fun value event => (sets event).getD value) first

theorem latest_append_singleton :
    latest sets first (history ++ [event]) =
      (sets event).getD (latest sets first history) := by
  unfold latest
  rw [List.foldl_append]
  rfl

/-- A switch is off in the end exactly if it was switched off after each time that it was switched
on. -/
theorem latest_eq_false_iff {sets : Event → Option Bool} :
    latest sets false history = false ↔
      FollowedBy (fun event => sets event = some true) (fun event => sets event = some false)
        history := by
  induction history using List.reverseRecOn with
  | nil => exact iff_of_true rfl followedBy_nil
  | append_singleton earlier last inductionHypothesis =>
    rw [latest_append_singleton, followedBy_append_singleton, ← inductionHypothesis]
    cases sets last with
    | none => simp
    | some value => cases value <;> simp

end History

/-
This file is a small library of guarded runs of a deterministic transition
function. A system is a total `step : State → Label → State`; what a caller may
ask for is a guard `allowed : State → Label → Prop` on the state before the
step. A state is reached when some finite sequence of allowed labels leads to
it, and a property of every run is proved by one step lemma.

A guard is how a condition on an environment is stated ("the client submits only
what it owns") as well as a condition under which a defective program is still
correct ("the branch that goes wrong is not taken"): weakening the guard
enlarges the set of runs.
-/

import Mathlib.Algebra.GroupWithZero.Nat
import Mathlib.Data.List.Basic

namespace Transition

variable {State Label : Type*}

/-- The states some finite sequence of allowed steps leads to. -/
inductive Reaches (step : State → Label → State) (allowed : State → Label → Prop)
    (first : State) : State → Prop
  | start : Reaches step allowed first first
  | step {state : State} (label : Label) (before : Reaches step allowed first state)
      (permitted : allowed state label) : Reaches step allowed first (step state label)

namespace Reaches

variable {step : State → Label → State} {allowed weaker : State → Label → Prop}
  {first state : State}

/-- The induction rule of every run: what holds at the start and is preserved by each allowed
step holds in every state reached. -/
theorem invariant {property : State → Prop} (reached : Reaches step allowed first state)
    (initially : property first)
    (preserved : ∀ before label, property before → allowed before label →
      property (step before label)) :
    property state := by
  induction reached with
  | start => exact initially
  | step label _ permitted inductionHypothesis =>
    exact preserved _ label inductionHypothesis permitted

/-- The induction rule with a fact already known of every state reached. -/
theorem invariant_with {known property : State → Prop}
    (reached : Reaches step allowed first state)
    (always : ∀ other, Reaches step allowed first other → known other)
    (initially : property first)
    (preserved : ∀ before label, known before → property before → allowed before label →
      property (step before label)) :
    property state := by
  induction reached with
  | start => exact initially
  | step label before permitted inductionHypothesis =>
    exact preserved _ label (always _ before) inductionHypothesis permitted

/-- A run under a guard is a run under any weaker guard. -/
theorem mono (reached : Reaches step allowed first state)
    (weaken : ∀ before label, allowed before label → weaker before label) :
    Reaches step weaker first state := by
  induction reached with
  | start => exact .start
  | step label _ permitted inductionHypothesis =>
    exact .step label inductionHypothesis (weaken _ _ permitted)

end Reaches

/-- Every label of a sequence is allowed in the state it is taken from. -/
def AllowedAlong (step : State → Label → State) (allowed : State → Label → Prop) :
    State → List Label → Prop
  | _, [] => True
  | state, label :: rest => allowed state label ∧ AllowedAlong step allowed (step state label) rest

/-- Whether a sequence is allowed is decided by running it. -/
instance decidableAllowedAlong (step : State → Label → State) (allowed : State → Label → Prop)
    [∀ state label, Decidable (allowed state label)] :
    ∀ state labels, Decidable (AllowedAlong step allowed state labels)
  | _, [] => inferInstanceAs (Decidable True)
  | state, label :: rest =>
    have := decidableAllowedAlong step allowed (step state label) rest
    inferInstanceAs (Decidable (allowed state label ∧ _))

/-- A sequence is allowed if each of its labels is in every state. -/
theorem allowedAlong_of_forall {step : State → Label → State} {allowed : State → Label → Prop}
    {labels : List Label} (each : ∀ label ∈ labels, ∀ state, allowed state label) (state : State) :
    AllowedAlong step allowed state labels := by
  induction labels generalizing state with
  | nil => trivial
  | cons label rest inductionHypothesis =>
    exact ⟨each label List.mem_cons_self state,
      inductionHypothesis (fun other later => each other (List.mem_cons_of_mem _ later)) _⟩

/-- A guard that looks at the label only is one on each label. -/
theorem allowedAlong_label_iff {step : State → Label → State} {permitted : Label → Prop}
    {labels : List Label} (state : State) :
    AllowedAlong step (fun _ label => permitted label) state labels ↔
      ∀ label ∈ labels, permitted label := by
  constructor
  · intro along label member
    induction labels generalizing state with
    | nil => cases member
    | cons first rest inductionHypothesis =>
      rcases List.mem_cons.mp member with rfl | later
      · exact along.1
      · exact inductionHypothesis _ along.2 later
  · exact fun each => allowedAlong_of_forall (fun label member _ => each label member) state

/-- What an invariant makes of the guard is a guard of the sequence, too. -/
theorem AllowedAlong.of_invariant {step : State → Label → State}
    {allowed other : State → Label → Prop} {invariant : State → Prop} {state : State}
    {labels : List Label} (along : AllowedAlong step allowed state labels)
    (initially : invariant state)
    (keeps : ∀ before label, invariant before → allowed before label →
      invariant (step before label))
    (gives : ∀ before label, invariant before → allowed before label → other before label) :
    AllowedAlong step other state labels := by
  induction labels generalizing state with
  | nil => trivial
  | cons label rest inductionHypothesis =>
    obtain ⟨permitted, later⟩ := along
    exact ⟨gives state label initially permitted,
      inductionHypothesis later (keeps state label initially permitted)⟩

/-- In a possible sequence, a property that an invariant gives, and that a step which is not allowed
breaks, holds after every part exactly if the whole sequence is allowed. -/
theorem forall_prefix_iff_of_possible {step : State → Label → State}
    {possible allowed : State → Label → Prop} {invariant property : State → Prop} {state : State}
    {labels : List Label} (along : AllowedAlong step possible state labels)
    (initially : invariant state)
    (keeps : ∀ before label, invariant before → possible before label → allowed before label →
      invariant (step before label))
    (gives : ∀ other, invariant other → property other)
    (needs : ∀ before label, invariant before → possible before label →
      property (step before label) → allowed before label) :
    (∀ done, done <+: labels → property (done.foldl step state)) ↔
      AllowedAlong step allowed state labels := by
  induction labels generalizing state with
  | nil =>
    refine ⟨fun _ => trivial, fun _ done isPrefix => ?_⟩
    rw [List.prefix_nil.mp isPrefix]
    exact gives _ initially
  | cons label rest inductionHypothesis =>
    obtain ⟨isPossible, restPossible⟩ := along
    constructor
    · intro always
      have permitted : allowed state label := needs state label initially isPossible
        (always [label] (List.cons_prefix_cons.mpr ⟨rfl, List.nil_prefix⟩))
      have kept := keeps state label initially isPossible permitted
      refine ⟨permitted, (inductionHypothesis restPossible kept).mp fun done isPrefix => ?_⟩
      exact always (label :: done) (List.cons_prefix_cons.mpr ⟨rfl, isPrefix⟩)
    · rintro ⟨permitted, later⟩ done isPrefix
      cases done with
      | nil => exact gives _ initially
      | cons head tail =>
        obtain ⟨rfl, tailPrefix⟩ := List.cons_prefix_cons.mp isPrefix
        have kept := keeps state head initially isPossible permitted
        exact (inductionHypothesis restPossible kept).mpr later tail tailPrefix

/-- A property that an invariant gives, and that a step which is not allowed breaks, holds after
every part of a sequence exactly if the whole sequence is allowed. -/
theorem forall_prefix_iff_of_invariant {step : State → Label → State}
    {allowed : State → Label → Prop} {invariant property : State → Prop} {state : State}
    {labels : List Label} (initially : invariant state)
    (keeps : ∀ before, ∀ label ∈ labels, invariant before → allowed before label →
      invariant (step before label))
    (gives : ∀ other, invariant other → property other)
    (needs : ∀ before, ∀ label ∈ labels, invariant before → property (step before label) →
      allowed before label) :
    (∀ done, done <+: labels → property (done.foldl step state)) ↔
      AllowedAlong step allowed state labels := by
  have along : AllowedAlong step (fun _ label => label ∈ labels) state labels :=
    allowedAlong_of_forall (fun _ member _ => member) state
  exact forall_prefix_iff_of_possible along initially
    (fun before label holds member permitted => keeps before label member holds permitted) gives
    (fun before label holds member kept => needs before label member holds kept)

/-- A property that a step keeps exactly if it is allowed holds after every part of a sequence
exactly if the whole sequence is allowed. -/
theorem forall_prefix_iff_allowedAlong {step : State → Label → State}
    {allowed : State → Label → Prop} {property : State → Prop} {state : State}
    {labels : List Label} (holds : property state)
    (keeps_iff : ∀ before, ∀ label ∈ labels, property before →
      (property (step before label) ↔ allowed before label)) :
    (∀ done, done <+: labels → property (done.foldl step state)) ↔
      AllowedAlong step allowed state labels :=
  forall_prefix_iff_of_invariant holds
    (fun before label member kept => (keeps_iff before label member kept).mpr)
    (fun _ kept => kept)
    (fun before label member kept => (keeps_iff before label member kept).mp)

/-- Running an allowed sequence from a state reached reaches its last state. -/
theorem Reaches.foldl {step : State → Label → State} {allowed : State → Label → Prop}
    {first state : State} (reached : Reaches step allowed first state) (labels : List Label)
    (along : AllowedAlong step allowed state labels) :
    Reaches step allowed first (labels.foldl step state) := by
  induction labels generalizing state with
  | nil => exact reached
  | cons label rest inductionHypothesis =>
    exact inductionHypothesis (.step label reached along.1) along.2

/-- The rule of progress: where each state on the way to a goal allows a step that comes nearer, by
a measure, some allowed steps lead to the goal. -/
theorem leads_to {step : State → Label → State} {allowed : State → Label → Prop}
    {onTheWay goal : State → Prop} (measure : State → Nat)
    (advance : ∀ state, onTheWay state → ∃ label, allowed state label ∧
      (goal (step state label) ∨
        onTheWay (step state label) ∧ measure (step state label) < measure state))
    {state : State} (isOnTheWay : onTheWay state) :
    ∃ labels, AllowedAlong step allowed state labels ∧ goal (labels.foldl step state) := by
  generalize distance : measure state = bound
  induction bound using Nat.strongRecOn generalizing state with
  | _ bound inductionHypothesis =>
    obtain ⟨label, permitted, arrives | ⟨stays, nearer⟩⟩ := advance state isOnTheWay
    · exact ⟨[label], ⟨permitted, trivial⟩, arrives⟩
    · obtain ⟨labels, along, arrives⟩ := inductionHypothesis _ (distance ▸ nearer) stays rfl
      exact ⟨label :: labels, ⟨permitted, along⟩, arrives⟩

/-- The rule of termination: where each allowed step takes one off a measure, up to what its label
costs, a run is no longer than the measure and the costs. -/
theorem length_le_of_measure {step : State → Label → State} {allowed : State → Label → Prop}
    (measure : State → Nat) (cost : Label → Nat)
    (decreases : ∀ state label, allowed state label →
      measure (step state label) + 1 ≤ measure state + cost label)
    {state : State} {labels : List Label} (along : AllowedAlong step allowed state labels) :
    labels.length ≤ measure state + (labels.map cost).sum := by
  induction labels generalizing state with
  | nil => exact Nat.zero_le _
  | cons label rest inductionHypothesis =>
    have first := decreases state label along.1
    have later := inductionHypothesis along.2
    rw [List.length_cons, List.map_cons, List.sum_cons]
    omega

end Transition

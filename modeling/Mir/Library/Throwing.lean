/-
This file is a small library of computations that change a state and may throw. What a computation
changed before it threw stays; a handler goes on from there. A computation is run on the first
state and gives its value or what was thrown, with the last state.
-/

import Mathlib.Logic.Basic

/-- A computation on a state that may throw. -/
def Throwing (State Error Value : Type) : Type := State → Except Error Value × State

namespace Throwing

variable {State Error Value Other : Type}

def run (computation : Throwing State Error Value) (state : State) : Except Error Value × State :=
  computation state

instance : Monad (Throwing State Error) where
  pure value := fun state => (.ok value, state)
  bind computation next := fun state =>
    match computation state with
    | (.ok value, after) => next value after
    | (.error error, after) => (.error error, after)

def throwing (error : Error) : Throwing State Error Value := fun state => (.error error, state)

def readState : Throwing State Error State := fun state => (.ok state, state)

def change (update : State → State) : Throwing State Error Unit := fun state =>
  (.ok (), update state)

/-- What something else gave or threw, without a change of the state. -/
def ofExcept (result : Except Error Value) : Throwing State Error Value := fun state =>
  (result, state)

def handling (computation : Throwing State Error Value)
    (handler : Error → Throwing State Error Value) : Throwing State Error Value := fun state =>
  match computation state with
  | (.ok value, after) => (.ok value, after)
  | (.error error, after) => handler error after

/-! ### Running a computation -/

@[simp] theorem run_pure (value : Value) (state : State) :
    (pure value : Throwing State Error Value).run state = (.ok value, state) := rfl

@[simp] theorem run_throwing (error : Error) (state : State) :
    (throwing error : Throwing State Error Value).run state = (.error error, state) := rfl

@[simp] theorem run_readState (state : State) :
    (readState : Throwing State Error State).run state = (.ok state, state) := rfl

@[simp] theorem run_change (update : State → State) (state : State) :
    (change update : Throwing State Error Unit).run state = (.ok (), update state) := rfl

@[simp] theorem run_ofExcept (result : Except Error Value) (state : State) :
    (ofExcept result : Throwing State Error Value).run state = (result, state) := rfl

theorem run_bind (computation : Throwing State Error Value)
    (next : Value → Throwing State Error Other) (state : State) :
    (computation >>= next).run state =
      match computation.run state with
      | (.ok value, after) => (next value).run after
      | (.error error, after) => (.error error, after) := rfl

theorem run_handling (computation : Throwing State Error Value)
    (handler : Error → Throwing State Error Value) (state : State) :
    (computation.handling handler).run state =
      match computation.run state with
      | (.ok value, after) => (.ok value, after)
      | (.error error, after) => (handler error).run after := rfl

variable {computation : Throwing State Error Value} {state after : State}

theorem run_bind_ok {value : Value} (next : Value → Throwing State Error Other)
    (gives : computation.run state = (.ok value, after)) :
    (computation >>= next).run state = (next value).run after := by
  rw [run_bind, gives]

theorem run_bind_error {error : Error} (next : Value → Throwing State Error Other)
    (throws : computation.run state = (.error error, after)) :
    (computation >>= next).run state = (.error error, after) := by
  rw [run_bind, throws]

theorem run_handling_ok {value : Value} (handler : Error → Throwing State Error Value)
    (gives : computation.run state = (.ok value, after)) :
    (computation.handling handler).run state = (.ok value, after) := by
  rw [run_handling, gives]

theorem run_handling_error {error : Error} (handler : Error → Throwing State Error Value)
    (throws : computation.run state = (.error error, after)) :
    (computation.handling handler).run state = (handler error).run after := by
  rw [run_handling, throws]

instance : LawfulMonad (Throwing State Error) := by
  refine LawfulMonad.mk' (Throwing State Error) (fun computation => ?_) (fun _ _ => rfl)
    fun computation next last => ?_
  · funext state
    show (computation >>= pure).run state = computation.run state
    rw [run_bind]
    rcases computation.run state with ⟨_ | _, _⟩ <;> rfl
  · funext state
    show (computation >>= next >>= last).run state =
      (computation >>= fun value => next value >>= last).run state
    rw [run_bind, run_bind, run_bind]
    rcases computation.run state with ⟨_ | _, _⟩ <;> rfl

/-! ### What a computation keeps -/

variable {View : Type}

/-- Whether a computation throws or not, what is seen of the state stays as it was. -/
def Keeps (view : State → View) (computation : Throwing State Error Value) : Prop :=
  ∀ state, view (computation.run state).2 = view state

theorem keeps_pure (view : State → View) (value : Value) :
    Keeps view (pure value : Throwing State Error Value) := fun _ => rfl

theorem keeps_throwing (view : State → View) (error : Error) :
    Keeps view (throwing error : Throwing State Error Value) := fun _ => rfl

theorem keeps_readState (view : State → View) :
    Keeps view (readState : Throwing State Error State) := fun _ => rfl

theorem keeps_change {view : State → View} {update : State → State}
    (same : ∀ state, view (update state) = view state) :
    Keeps view (change update : Throwing State Error Unit) := same

/-- What is seen after a computation is seen after the ones that keep it, too. -/
theorem view_run_bind {view : State → View} {next : Value → Throwing State Error Other}
    (later : ∀ value, Keeps view (next value)) (state : State) :
    view ((computation >>= next).run state).2 = view (computation.run state).2 := by
  rw [run_bind]
  rcases computation.run state with ⟨error | value, after⟩
  · rfl
  · exact later value after

theorem Keeps.bind {view : State → View} {next : Value → Throwing State Error Other}
    (first : Keeps view computation) (later : ∀ value, Keeps view (next value)) :
    Keeps view (computation >>= next) :=
  fun state => (view_run_bind later state).trans (first state)

theorem Keeps.refusing {view : State → View} {wrong : Prop} [Decidable wrong] (error : Error)
    (rest : Keeps view computation) :
    Keeps view (if wrong then throwing error else computation) := by
  split
  · exact keeps_throwing view error
  · exact rest

/-- What is seen less of the state stays too. -/
theorem Keeps.through {view : State → View} (kept : Keeps view computation)
    (less : View → Other) : Keeps (fun state => less (view state)) computation :=
  fun state => congrArg less (kept state)

/-! ### When a computation gives a value -/

/-- On this state a computation gives a value exactly if a condition holds. -/
structure GivesIff (computation : Throwing State Error Value) (state : State) (condition : Prop)
    (value : Value) (after : State) : Prop where
  gives : condition → computation.run state = (.ok value, after)
  throws : ¬ condition → ∃ error other, computation.run state = (.error error, other)

theorem givesIff_pure (value : Value) (state : State) :
    GivesIff (pure value : Throwing State Error Value) state True value state :=
  ⟨fun _ => rfl, fun never => absurd trivial never⟩

theorem givesIff_throwing (error : Error) (state : State) (value : Value) (after : State) :
    GivesIff (throwing error : Throwing State Error Value) state False value after :=
  ⟨False.elim, fun _ => ⟨error, state, rfl⟩⟩

theorem givesIff_readState (state : State) :
    GivesIff (readState : Throwing State Error State) state True state state :=
  ⟨fun _ => rfl, fun never => absurd trivial never⟩

theorem givesIff_change (update : State → State) (state : State) :
    GivesIff (change update : Throwing State Error Unit) state True () (update state) :=
  ⟨fun _ => rfl, fun never => absurd trivial never⟩

namespace GivesIff

variable {condition later : Prop} {value : Value} {other : Other} {last : State}

theorem congr (first : GivesIff computation state condition value after)
    (same : condition ↔ later) : GivesIff computation state later value after :=
  ⟨fun holds => first.gives (same.mpr holds), fun fails => first.throws (mt same.mp fails)⟩

/-- One computation after another gives a value if both do. -/
theorem bind {next : Value → Throwing State Error Other}
    (first : GivesIff computation state condition value after)
    (second : condition → GivesIff (next value) after later other last) :
    GivesIff (computation >>= next) state (condition ∧ later) other last := by
  refine ⟨fun both => ?_, fun fails => ?_⟩
  · rw [run_bind_ok next (first.gives both.1)]
    exact (second both.1).gives both.2
  · by_cases holds : condition
    · rw [run_bind_ok next (first.gives holds)]
      exact (second holds).throws fun also => fails ⟨holds, also⟩
    · obtain ⟨error, stopped, thrown⟩ := first.throws holds
      exact ⟨error, stopped, run_bind_error next thrown⟩

/-- A function of the value is given when the value is. -/
theorem map (first : GivesIff computation state condition value after) (next : Value → Other) :
    GivesIff (computation >>= fun given => pure (next given)) state condition (next value) after :=
  (first.bind fun _ => givesIff_pure (next value) after).congr (and_iff_left trivial)

/-- After a computation that always gives a value it is the next one that decides. -/
theorem always_bind {next : Value → Throwing State Error Other}
    (first : GivesIff computation state True value after)
    (second : GivesIff (next value) after later other last) :
    GivesIff (computation >>= next) state later other last :=
  (first.bind fun _ => second).congr ⟨And.right, fun holds => ⟨trivial, holds⟩⟩

/-- A computation that is only begun if nothing is wrong. -/
theorem refusing {wrong : Prop} [Decidable wrong] (error : Error)
    (rest : GivesIff computation state condition value after) :
    GivesIff (if wrong then throwing error else computation) state (¬ wrong ∧ condition) value
      after := by
  by_cases isWrong : wrong
  · rw [if_pos isWrong]
    exact (givesIff_throwing error state value after).congr
      ⟨False.elim, fun both => both.1 isWrong⟩
  · rw [if_neg isWrong]
    exact rest.congr ⟨fun holds => ⟨isWrong, holds⟩, And.right⟩

end GivesIff

/-! ### What is left behind by a computation that throws -/

/-- If the computation throws, what is seen of the state is as before. -/
def RestoresOnError (view : State → View) (computation : Throwing State Error Value)
    (state : State) : Prop :=
  ∀ error after, computation.run state = (.error error, after) → view after = view state

/-- A computation whose first part keeps what is seen, and whose second part does not, restores it
exactly if the second part gives a value whenever the first does. -/
theorem restoresOnError_iff {view : State → View} {early : Throwing State Error Value}
    {late : Value → Throwing State Error Other} {condition later : Prop} {value : Value}
    {other : Other} {last : State} (keeps : Keeps view early)
    (first : GivesIff early state condition value after)
    (second : GivesIff (late value) after later other last)
    (moves : view ((late value).run after).2 ≠ view after) :
    RestoresOnError view (early >>= late) state ↔ (condition → later) := by
  constructor
  · intro restores holds
    refine Classical.by_contradiction fun fails => ?_
    obtain ⟨error, stopped, thrown⟩ := second.throws fails
    have same := restores error stopped ((run_bind_ok late (first.gives holds)).trans thrown)
    have kept := keeps state
    rw [first.gives holds] at kept
    rw [thrown] at moves
    exact moves (same.trans kept.symm)
  · intro implies error stopped thrown
    by_cases holds : condition
    · rw [run_bind_ok late (first.gives holds), second.gives (implies holds)] at thrown
      cases thrown
    · obtain ⟨earlier, middle, stops⟩ := first.throws holds
      rw [run_bind_error late stops] at thrown
      cases thrown
      have kept := keeps state
      rwa [stops] at kept

/-! ### Pre- and postconditions -/

/-- From this state, the computation gives a value and a state of one kind or throws and leaves a
state of another. -/
def Ends (computation : Throwing State Error Value) (state : State)
    (post : Value → State → Prop) (thrown : Error → State → Prop) : Prop :=
  match computation.run state with
  | (.ok value, after) => post value after
  | (.error error, after) => thrown error after

section Ends

variable {post : Value → State → Prop} {last : Other → State → Prop}
  {thrown : Error → State → Prop}

theorem ends_pure (value : Value) (holds : post value state) :
    Ends (pure value : Throwing State Error Value) state post thrown := holds

theorem ends_change {post : Unit → State → Prop} {update : State → State}
    (holds : post () (update state)) :
    Ends (change update : Throwing State Error Unit) state post thrown := holds

theorem ends_readState_bind {next : State → Throwing State Error Other}
    (ends : Ends (next state) state last thrown) :
    Ends (readState >>= next) state last thrown := ends

theorem ends_change_bind {update : State → State} {next : Unit → Throwing State Error Other}
    (ends : Ends (next ()) (update state) last thrown) :
    Ends (change update >>= next) state last thrown := ends

/-- One computation after another: the second starts where the first ends. -/
theorem Ends.bind {next : Value → Throwing State Error Other}
    (first : Ends computation state post thrown)
    (second : ∀ value after, post value after → Ends (next value) after last thrown) :
    Ends (computation >>= next) state last thrown := by
  unfold Ends at first ⊢
  rw [run_bind]
  rcases result : computation.run state with ⟨error | value, after⟩
  · rw [result] at first
    exact first
  · rw [result] at first
    exact second value after first

theorem Ends.mono {other : Value → State → Prop} {otherThrown : Error → State → Prop}
    (ends : Ends computation state post thrown) (weaker : ∀ value after, post value after →
      other value after) (weakerThrown : ∀ error after, thrown error after →
      otherThrown error after) : Ends computation state other otherThrown := by
  unfold Ends at ends ⊢
  rcases result : computation.run state with ⟨error | value, after⟩
  · rw [result] at ends
    exact weakerThrown error after ends
  · rw [result] at ends
    exact weaker value after ends

/-- What is known of the end in two ways is known together. -/
theorem Ends.and {other : Value → State → Prop} {otherThrown : Error → State → Prop}
    (ends : Ends computation state post thrown)
    (otherEnds : Ends computation state other otherThrown) :
    Ends computation state (fun value after => post value after ∧ other value after)
      (fun error after => thrown error after ∧ otherThrown error after) := by
  unfold Ends at ends otherEnds ⊢
  rcases result : computation.run state with ⟨error | value, after⟩
  · rw [result] at ends otherEnds
    exact ⟨ends, otherEnds⟩
  · rw [result] at ends otherEnds
    exact ⟨ends, otherEnds⟩

end Ends

/-- The loop over the items of a container. -/
def forEach {Item : Type} : List Item → (Item → Throwing State Error Unit) →
    Throwing State Error Unit
  | [], _ => pure ()
  | item :: rest, body => body item >>= fun _ => forEach rest body

/-- The rule of a loop, with an invariant of the items that it is through with. -/
theorem ends_forEach {Item : Type} {items : List Item} {body : Item → Throwing State Error Unit}
    {thrown : Error → State → Prop} (invariant : List Item → State → Prop)
    (initially : invariant [] state)
    (each : ∀ done item rest, items = done ++ item :: rest → ∀ before, invariant done before →
      Ends (body item) before (fun _ => invariant (done ++ [item])) thrown) :
    Ends (forEach items body) state (fun _ => invariant items) thrown := by
  suffices ends : ∀ rest done now, items = done ++ rest → invariant done now →
      Ends (forEach rest body) now (fun _ => invariant items) thrown from
    ends items [] state rfl initially
  intro rest
  induction rest with
  | nil =>
    intro done now same holds
    rw [List.append_nil] at same
    subst same
    exact ends_pure () holds
  | cons item rest inductionHypothesis =>
    intro done now same holds
    refine (each done item rest same now holds).bind fun _ after kept => ?_
    refine inductionHypothesis (done ++ [item]) after ?_ kept
    rw [List.append_assoc]
    exact same

end Throwing

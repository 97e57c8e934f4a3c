/-
This file proves what the disabling of contexts achieves. A thread disables a context with its lock
held, so no callback of the context runs then except its own, and the loop does not start a callback
that was disabled. When a call is over, the contexts that it was to disable are silent, and they
stay silent whatever the threads do.
-/

import Mir.Library.CrossedLocks

namespace Monitor

/-! ### Stages -/

namespace Stage

variable {Call Context : Type}

/-- The contexts that a thread is still to disable, the one that it has locked included. -/
def pending : Stage Call Context → List Context
  | clearing (some _) contexts later => contexts ++ later
  | clearing none contexts _ => contexts
  | disabling (some _) context contexts later => context :: (contexts ++ later)
  | disabling none context contexts _ => context :: contexts
  | resting | dispatching _ => []

@[simp] theorem pending_outside (contexts : List Context) :
    (outside contexts : Stage Call Context).pending = contexts := by
  cases contexts <;> rfl

theorem pending_disabling (call : Option Call) (context : Context)
    (contexts later : List Context) :
    (disabling call context contexts later).pending =
      context :: (next call contexts later).pending := by
  cases call with
  | none => exact congrArg (context :: ·) (pending_outside contexts).symm
  | some call => rfl

theorem pending_clearing (call : Option Call) (context : Context)
    (contexts later : List Context) :
    (clearing call (context :: contexts) later).pending =
      (disabling call context contexts later).pending := by
  cases call <;> rfl

/-- The call for which it holds the mutex. -/
def serving : Stage Call Context → Option Call
  | clearing call _ _ | disabling call _ _ _ => call
  | resting | dispatching _ => none

@[simp] theorem serving_outside (contexts : List Context) :
    (outside contexts : Stage Call Context).serving = none := by
  cases contexts <;> rfl

@[simp] theorem serving_next (call : Option Call) (contexts later : List Context) :
    (next call contexts later).serving = call := by
  cases call with
  | none => exact serving_outside contexts
  | some call => rfl

end Stage

section Moves

variable {Thread Data Call Context : Type} [DecidableEq Thread] [Fintype Thread]
  [DecidableEq Context] (monitor : Monitor Data Call Context) (loop : Thread)
  {state next : State Thread Data Call Context}

/-! ### What a move begins -/

/-- The call for which the move locks the mutex. -/
def entering (state : State Thread Data Call Context) : Move Thread Call Context → Option Call
  | .lock thread =>
    match state.stage thread, state.calls thread with
    | .resting, call :: _ => if FreeFor loop state thread .mutex then some call else none
    | _, _ => none
  | _ => none

/-- The context of the callback that the move starts. -/
def starting (state : State Thread Data Call Context) : Move Thread Call Context → Option Context
  | .lockSource =>
    match state.stage loop with
    | .dispatching context =>
      if FreeFor loop state loop (.context context) ∧ context ∉ state.disabled then some context
      else none
    | _ => none
  | _ => none

variable {loop}

theorem entering_eq_some {move : Move Thread Call Context} {call : Call}
    (enters : entering loop state move = some call) :
    ∃ thread calls, move = .lock thread ∧ state.stage thread = .resting ∧
      state.calls thread = call :: calls ∧ FreeFor loop state thread .mutex := by
  unfold entering at enters
  split at enters
  next thread =>
    split at enters
    next other calls stage next =>
      split_ifs at enters with free
      cases enters
      exact ⟨thread, calls, rfl, stage, next, free⟩
    next => cases enters
  next => cases enters

theorem step_lock {thread : Thread} {call : Call} {calls : List Call}
    (stage : state.stage thread = .resting) (next : state.calls thread = call :: calls)
    (free : FreeFor loop state thread .mutex) :
    monitor.step loop state (.lock thread) =
      { (state.plans thread calls).goes thread (.clearing (some call)
          (monitor.enter state.data call).inside (monitor.enter state.data call).outside) with
        data := (monitor.enter state.data call).data } := by
  dsimp only [step, lock]
  rw [stage, next]
  exact if_pos free

theorem starting_eq_some {move : Move Thread Call Context} {context : Context}
    (starts : starting loop state move = some context) :
    move = .lockSource ∧ state.stage loop = .dispatching context ∧
      FreeFor loop state loop (.context context) ∧ context ∉ state.disabled := by
  unfold starting at starts
  split at starts
  next =>
    split at starts
    next other stage =>
      split_ifs at starts with can
      cases starts
      exact ⟨rfl, stage, can⟩
    next => cases starts
  next => cases starts

/-! ### The call that a thread serves -/

/-- A thread serves a call until it unlocks the mutex. -/
theorem serving_of_step {thread : Thread} {call : Call} (move : Move Thread Call Context)
    (serves : (state.stage thread).serving = some call) :
    ((monitor.step loop state move).stage thread).serving = some call ∨
      (monitor.step loop state move).data = monitor.leave state.data call := by
  have elsewhere : ∀ {mover : Thread} {stage : Stage Call Context},
      (state.stage mover).serving = none →
        ((state.goes mover stage).stage thread).serving = some call := by
    intro mover stage nothing
    rw [stage_goes_of_ne]
    · exact serves
    · rintro rfl
      exact Option.some_ne_none call (serves.symm.trans nothing)
  have here : ∀ {mover : Thread} {stage : Stage Call Context},
      stage.serving = (state.stage mover).serving →
        ((state.goes mover stage).stage thread).serving = some call := by
    intro mover stage same
    by_cases isMover : thread = mover
    · rw [isMover, stage_goes, same, ← isMover, serves]
    · rw [stage_goes_of_ne stage isMover, serves]
  have moved := monitor.step_cases loop state move
  generalize monitor.step loop state move = next at moved ⊢
  cases moved with
  | waits | called _ _ idle | ended _ _ => exact .inl serves
  | dispatched context script idle => exact .inl (elsewhere (by rw [idle.1]; rfl))
  | skipped context stage => exact .inl (elsewhere (by rw [stage]; rfl))
  | started context stage free enabled => exact .inl (elsewhere (by rw [stage]; rfl))
  | entered mover other calls stage next free => exact .inl (elsewhere (by rw [stage]; rfl))
  | locked mover other context contexts later stage free => exact .inl (here (by rw [stage]; rfl))
  | unlocked mover other context contexts later stage =>
    exact .inl (here (by rw [stage, Stage.serving_next]; rfl))
  | left mover other later stage =>
    by_cases same : thread = mover
    · rw [same, stage] at serves
      cases serves
      exact .inr rfl
    · exact .inl ((congrArg Stage.serving (stage_goes_of_ne _ same)).trans serves)

/-! ### Contexts that are disabled -/

/-- The context is disabled and does not run, unless the thread is the loop and runs it itself. -/
def Silent (loop thread : Thread) (state : State Thread Data Call Context) (context : Context) :
    Prop :=
  context ∈ state.disabled ∧ (thread ≠ loop → state.running ≠ some context)

variable {thread : Thread} {context : Context}

/-- No move starts the callback of a context that is disabled. -/
theorem Silent.not_starting (silent : Silent loop thread state context)
    (move : Move Thread Call Context) : starting loop state move ≠ some context := by
  intro starts
  exact (starting_eq_some starts).2.2.2 silent.1

/-- What is disabled stays disabled. -/
theorem disabled_subset_step (move : Move Thread Call Context) :
    state.disabled ⊆ (monitor.step loop state move).disabled := by
  have moved := monitor.step_cases loop state move
  generalize monitor.step loop state move = next at moved ⊢
  cases moved with
  | unlocked thread call context contexts later stage => exact List.subset_cons_self _ _
  | _ => exact List.Subset.refl _

/-- A callback that is disabled runs only if it ran before. -/
theorem running_of_step (move : Move Thread Call Context) (isDisabled : context ∈ state.disabled)
    (runs : (monitor.step loop state move).running = some context) :
    state.running = some context := by
  have moved := monitor.step_cases loop state move
  generalize monitor.step loop state move = next at moved runs
  cases moved with
  | started other stage free enabled =>
    cases runs
    exact absurd isDisabled enabled
  | ended stage calls => cases runs
  | _ => exact runs

theorem Silent.step (silent : Silent loop thread state context)
    (move : Move Thread Call Context) :
    Silent loop thread (monitor.step loop state move) context := by
  refine ⟨disabled_subset_step monitor move silent.1, fun different runs => ?_⟩
  exact silent.2 different (running_of_step monitor move silent.1 runs)

theorem Silent.foldl (silent : Silent loop thread state context)
    (moves : List (Move Thread Call Context)) :
    Silent loop thread (moves.foldl (monitor.step loop) state) context :=
  List.foldlRecOn (motive := fun state => Silent loop thread state context) moves _ silent
    fun _ kept move _ => kept.step monitor move

/-! ### Contexts that are being disabled -/

/-- The thread is still to disable the context, or has done so. -/
def Silencing (loop thread : Thread) (state : State Thread Data Call Context)
    (context : Context) : Prop :=
  context ∈ (state.stage thread).pending ∨ Silent loop thread state context

omit [Fintype Thread] [DecidableEq Context] in
/-- A thread that goes elsewhere with as much to disable, where nothing else changes that the
contexts see. -/
theorem Silencing.of_goes (silencing : Silencing loop thread state context) {mover : Thread}
    {stage : Stage Call Context} (goes : next.stage = (state.goes mover stage).stage)
    (pending : context ∈ (state.stage mover).pending →
      context ∈ stage.pending ∨ Silent loop mover next context)
    (silent : Silent loop thread state context → Silent loop thread next context) :
    Silencing loop thread next context := by
  rcases silencing with waits | isSilent
  · by_cases same : thread = mover
    · subst same
      exact (pending waits).imp_left fun stays => by rwa [goes, stage_goes]
    · refine .inl ?_
      rwa [goes, stage_goes_of_ne stage same]
  · exact .inr (silent isSilent)

theorem Silencing.step (silencing : Silencing loop thread state context)
    (exclusive : Exclusive loop state) (move : Move Thread Call Context) :
    Silencing loop thread (monitor.step loop state move) context := by
  have kept : Silent loop thread state context →
      Silent loop thread (monitor.step loop state move) context :=
    fun silent => silent.step monitor move
  have moved := monitor.step_cases loop state move
  generalize monitor.step loop state move = next at moved kept ⊢
  cases moved with
  | waits => exact silencing
  | called other call idle => exact silencing
  | dispatched other script idle =>
    refine silencing.of_goes rfl (fun waits => ?_) kept
    rw [idle.1] at waits
    cases waits
  | skipped other stage | started other stage free enabled =>
    refine silencing.of_goes rfl (fun waits => ?_) kept
    rw [stage] at waits
    cases waits
  | entered other call calls stage next free =>
    refine silencing.of_goes rfl (fun waits => ?_) kept
    rw [stage] at waits
    cases waits
  | locked other call head contexts later stage free =>
    refine silencing.of_goes rfl (fun waits => .inl ?_) kept
    rwa [stage, Stage.pending_clearing] at waits
  | unlocked mover call head contexts later stage =>
    refine silencing.of_goes rfl (fun waits => ?_) kept
    rw [stage, Stage.pending_disabling] at waits
    rcases List.mem_cons.mp waits with rfl | further
    · -- The thread holds the lock of the context, so the loop does not run its callback.
      refine .inr ⟨List.mem_cons_self, fun different runs => different ?_⟩
      refine exclusive (.context context) mover loop (.inr ?_) (.inl ⟨rfl, runs⟩)
      rw [stage]
      rfl
    · exact .inl further
  | left other call later stage =>
    refine silencing.of_goes rfl (fun waits => .inl ?_) kept
    rw [stage] at waits
    rwa [Stage.pending_outside]
  | ended stage calls => exact silencing.imp_right kept

theorem Silencing.foldl (silencing : Silencing loop thread state context)
    (exclusive : Exclusive loop state) (moves : List (Move Thread Call Context)) :
    Silencing loop thread (moves.foldl (monitor.step loop) state) context := by
  induction moves generalizing state with
  | nil => exact silencing
  | cons move rest inductionHypothesis =>
    exact inductionHypothesis (silencing.step monitor exclusive move) (exclusive.step monitor move)

/-- When a thread rests after it has entered for a call, the contexts that the call was to disable
are silent. -/
theorem silent_of_entered {call : Call} {calls : List Call} (exclusive : Exclusive loop state)
    (stage : state.stage thread = .resting) (next : state.calls thread = call :: calls)
    (free : FreeFor loop state thread .mutex) (moves : List (Move Thread Call Context))
    (rests : (moves.foldl (monitor.step loop)
      (monitor.step loop state (.lock thread))).stage thread = .resting)
    (member : context ∈ (monitor.enter state.data call).inside ++
      (monitor.enter state.data call).outside) :
    Silent loop thread (moves.foldl (monitor.step loop)
      (monitor.step loop state (.lock thread))) context := by
  have initially : Silencing loop thread (monitor.step loop state (.lock thread)) context := by
    rw [step_lock monitor stage next free]
    refine .inl ?_
    rw [stage_goes]
    exact member
  have returned := initially.foldl monitor (exclusive.step monitor (.lock thread)) moves
  refine returned.resolve_left fun waits => ?_
  rw [rests] at waits
  cases waits

end Moves

end Monitor

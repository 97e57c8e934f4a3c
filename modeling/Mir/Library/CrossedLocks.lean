/-
This file proves when two threads never each want a lock that the other holds. The loop holds the
context of its callback when it comes to the mutex for a call of the callback, and another thread
holds the mutex when it comes to the contexts that its call disables. So no thread may hold the
mutex for a call that is still to lock the context of a callback which is still to lock the mutex.
-/

import Mir.Library.Monitor

namespace Monitor

open Transition

/-! ### Stages -/

namespace Stage

variable {Call Context : Type} (contexts later : List Context)

@[simp] theorem holdsMutex_outside :
    (outside contexts : Stage Call Context).holdsMutex = false := by
  cases contexts <;> rfl

@[simp] theorem locked_outside : (outside contexts : Stage Call Context).locked = none := by
  cases contexts <;> rfl

@[simp] theorem remaining_outside : (outside contexts : Stage Call Context).remaining = [] := by
  cases contexts <;> rfl

variable (call : Option Call) (context : Context)

theorem holdsMutex_next :
    (next call contexts later).holdsMutex = (disabling call context contexts later).holdsMutex := by
  cases call with
  | none => exact holdsMutex_outside contexts
  | some call => rfl

@[simp] theorem locked_next : (next call contexts later).locked = none := by
  cases call with
  | none => exact locked_outside contexts
  | some call => rfl

theorem remaining_next :
    (next call contexts later).remaining = (disabling call context contexts later).remaining := by
  cases call with
  | none => exact remaining_outside contexts
  | some call => rfl

theorem holdsMutex_of_mem_remaining {stage : Stage Call Context} {context : Context}
    (member : context ∈ stage.remaining) : stage.holdsMutex = true := by
  unfold remaining at member
  split at member
  · rfl
  · rfl
  · cases member

theorem mem_remaining_of_wanted {stage : Stage Call Context} {context : Context}
    (holds : stage.holdsMutex = true) (wants : stage.wanted = some context) :
    context ∈ stage.remaining := by
  unfold wanted at wants
  split at wants
  · cases holds
  next call head contexts later =>
    cases wants
    cases call with
    | none => cases holds
    | some call => exact List.mem_cons_self
  · cases wants

theorem locked_ne_of_wanted {stage : Stage Call Context} {context other : Context}
    (wants : stage.wanted = some context) : stage.locked ≠ some other := by
  unfold wanted at wants
  split at wants
  · nofun
  · nofun
  · cases wants

theorem locked_eq_some_iff {stage : Stage Call Context} {context : Context} :
    stage.locked = some context ↔
      ∃ call contexts later, stage = disabling call context contexts later := by
  cases stage <;> simp [locked]

end Stage

section Threads

variable {Thread Data Call Context : Type} {loop : Thread}
  {state next : State Thread Data Call Context}

/-! ### A lock is held by one thread -/

theorem holds_congr {thread : Thread} (stage : next.stage thread = state.stage thread)
    (running : thread = loop → next.running = state.running) (lock : Lock Context) :
    Holds loop next thread lock ↔ Holds loop state thread lock := by
  cases lock with
  | mutex =>
    unfold Holds
    rw [stage]
  | context context =>
    unfold Holds
    rw [stage]
    refine or_congr_left (and_congr_right fun isLoop => ?_)
    rw [running isLoop]

def Exclusive (loop : Thread) (state : State Thread Data Call Context) : Prop :=
  ∀ lock first second, Holds loop state first lock → Holds loop state second lock → first = second

theorem exclusive_initial (data : Data) :
    Exclusive loop (initial data : State Thread Data Call Context) := by
  intro lock first second holds
  cases lock with
  | mutex => cases holds
  | context context =>
    rcases holds with ⟨-, running⟩ | isLocked
    · cases running
    · cases isLocked

/-- A thread that gets only locks which no other thread holds. -/
theorem Exclusive.of_frees (exclusive : Exclusive loop state) (thread : Thread)
    (others : ∀ other, other ≠ thread → ∀ lock, Holds loop next other lock →
      Holds loop state other lock)
    (own : ∀ lock, Holds loop next thread lock →
      Holds loop state thread lock ∨ FreeFor loop state thread lock) :
    Exclusive loop next := by
  have key : ∀ lock other, other ≠ thread → Holds loop next thread lock →
      ¬ Holds loop next other lock := by
    intro lock other different holds otherHolds
    have before := others other different lock otherHolds
    rcases own lock holds with ownBefore | free
    · exact different (exclusive lock other thread before ownBefore)
    · exact free other different before
  intro lock first second firstHolds secondHolds
  by_cases isFirst : first = thread
  · by_cases isSecond : second = thread
    · exact isFirst.trans isSecond.symm
    · exact absurd secondHolds (key lock second isSecond (isFirst ▸ firstHolds))
  · by_cases isSecond : second = thread
    · exact absurd firstHolds (key lock first isFirst (isSecond ▸ secondHolds))
    · exact exclusive lock first second (others first isFirst lock firstHolds)
        (others second isSecond lock secondHolds)

/-! ### The context that another thread is still to lock -/

/-- The context of the callback, when it has still a call to make. -/
def asking (loop : Thread) (state : State Thread Data Call Context) : Option Context :=
  match state.calls loop with
  | [] => none
  | _ :: _ => state.running

/-- Another thread holds the mutex and is still to lock the context. -/
def Awaited (loop : Thread) (state : State Thread Data Call Context) (context : Context) : Prop :=
  ∃ thread, thread ≠ loop ∧ context ∈ (state.stage thread).remaining

theorem asking_eq_some_iff {context : Context} :
    asking loop state = some context ↔
      state.calls loop ≠ [] ∧ state.running = some context := by
  unfold asking
  cases state.calls loop <;> simp

/-- When the loop is about to lock the mutex, the context that it holds is not awaited. -/
def Clear (loop : Thread) (state : State Thread Data Call Context) : Prop :=
  state.stage loop = .resting → ∀ context ∈ asking loop state, ¬ Awaited loop state context

theorem clear_initial (data : Data) :
    Clear loop (initial data : State Thread Data Call Context) := by
  intro resting context asks
  cases asks

/-! ### Crossed waits -/

/-- A thread that wants the mutex and one that holds it and wants a lock of the first. -/
theorem Clear.not_waiting (clear : Clear loop state) {first second : Thread} {lock : Lock Context}
    (different : first ≠ second) (firstWants : Wants state first .mutex)
    (secondHolds : Holds loop state second .mutex) (secondWants : Wants state second lock) :
    ¬ Holds loop state first lock := by
  intro firstHolds
  obtain ⟨resting, calls⟩ := firstWants
  unfold Holds at secondHolds
  cases lock with
  | mutex =>
    rw [secondWants.1] at secondHolds
    cases secondHolds
  | context context =>
    rcases firstHolds with ⟨isLoop, running⟩ | isLocked
    · subst isLoop
      refine clear resting context (asking_eq_some_iff.mpr ⟨calls, running⟩) ?_
      exact ⟨second, different.symm, Stage.mem_remaining_of_wanted secondHolds secondWants⟩
    · rw [resting] at isLocked
      cases isLocked

theorem Clear.not_crossed (clear : Clear loop state) : ¬ Crossed loop state := by
  rintro ⟨first, second, different, ⟨lock, firstWants, secondHolds⟩, other, secondWants, firstHolds⟩
  cases lock with
  | mutex => exact clear.not_waiting different firstWants secondHolds secondWants firstHolds
  | context context =>
    cases other with
    | mutex => exact clear.not_waiting different.symm secondWants firstHolds firstWants secondHolds
    | context held =>
      -- Who wants a context has locked none, and only the loop holds one of a callback.
      have isLoop : ∀ {thread wanted locked}, (state.stage thread).wanted = some wanted →
          Holds loop state thread (.context locked) → thread = loop := by
        intro thread wanted locked wants holds
        refine holds.elim And.left fun isLocked => ?_
        exact absurd isLocked (Stage.locked_ne_of_wanted wants)
      exact different ((isLoop firstWants firstHolds).trans (isLoop secondWants secondHolds).symm)

end Threads

section Moves

variable {Thread Data Call Context : Type} [DecidableEq Thread]
  {state : State Thread Data Call Context} {thread other : Thread}

@[simp] theorem stage_goes (stage : Stage Call Context) :
    (state.goes thread stage).stage thread = stage := Function.update_self ..

theorem stage_goes_of_ne (stage : Stage Call Context) (different : other ≠ thread) :
    (state.goes thread stage).stage other = state.stage other :=
  Function.update_of_ne different ..

@[simp] theorem calls_plans (calls : List Call) :
    (state.plans thread calls).calls thread = calls := Function.update_self ..

theorem calls_plans_of_ne (calls : List Call) (different : other ≠ thread) :
    (state.plans thread calls).calls other = state.calls other :=
  Function.update_of_ne different ..

variable {loop : Thread} {next : State Thread Data Call Context}

/-- A thread that goes where it holds nothing new, or only what no other thread holds. -/
theorem Exclusive.of_goes (exclusive : Exclusive loop state) {stage : Stage Call Context}
    (goes : next.stage = (state.goes thread stage).stage) (running : next.running = state.running)
    (mutex : stage.holdsMutex = true →
      (state.stage thread).holdsMutex = true ∨ FreeFor loop state thread .mutex)
    (context : ∀ context, stage.locked = some context →
      (state.stage thread).locked = some context ∨
        FreeFor loop state thread (.context context)) :
    Exclusive loop next := by
  have stageThread : next.stage thread = stage := by rw [goes, stage_goes]
  refine exclusive.of_frees thread (fun other different lock holds => ?_) fun lock holds => ?_
  · have same : next.stage other = state.stage other := by
      rw [goes, stage_goes_of_ne stage different]
    exact (holds_congr same (fun _ => running) lock).mp holds
  · cases lock with
    | mutex =>
      unfold Holds at holds
      rw [stageThread] at holds
      exact mutex holds
    | context locked =>
      rcases holds with ⟨isLoop, isRunning⟩ | isLocked
      · exact .inl (.inl ⟨isLoop, running ▸ isRunning⟩)
      · rw [stageThread] at isLocked
        exact (context locked isLocked).imp_left .inr

theorem awaited_goes_iff {stage : Stage Call Context} {context : Context}
    (goes : next.stage = (state.goes loop stage).stage) :
    Awaited loop next context ↔ Awaited loop state context := by
  refine exists_congr fun other => and_congr_right fun different => ?_
  rw [goes, stage_goes_of_ne stage different]

theorem clear_of_goes {stage : Stage Call Context}
    (goes : next.stage = (state.goes loop stage).stage) (notResting : stage ≠ .resting) :
    Clear loop next := by
  intro resting
  rw [goes, stage_goes] at resting
  exact absurd resting notResting

/-- Another thread goes where the context that the loop holds does not come to be awaited. -/
theorem Clear.of_other (clear : Clear loop state) {stage : Stage Call Context}
    (different : thread ≠ loop) (goes : next.stage = (state.goes thread stage).stage)
    (running : next.running = state.running) (calls : next.calls loop = state.calls loop)
    (remaining : ∀ context ∈ stage.remaining, context ∈ (state.stage thread).remaining ∨
      (state.stage loop = .resting → context ∉ asking loop state)) :
    Clear loop next := by
  intro resting context asks ⟨other, otherDifferent, member⟩
  rw [goes, stage_goes_of_ne stage (Ne.symm different)] at resting
  have asked : context ∈ asking loop state := by
    rw [Option.mem_def, asking_eq_some_iff, calls, running] at asks
    exact asking_eq_some_iff.mpr asks
  rw [goes] at member
  by_cases same : other = thread
  · rw [same, stage_goes] at member
    rcases remaining context member with before | refused
    · exact clear resting context asked ⟨thread, different, before⟩
    · exact refused resting asked
  · rw [stage_goes_of_ne stage same] at member
    exact clear resting context asked ⟨other, otherDifferent, member⟩

variable [Fintype Thread] [DecidableEq Context] (monitor : Monitor Data Call Context)

theorem Exclusive.step (exclusive : Exclusive loop state) (move : Move Thread Call Context) :
    Exclusive loop (monitor.step loop state move) := by
  have moved := monitor.step_cases loop state move
  generalize monitor.step loop state move = next at moved ⊢
  cases moved with
  | waits => exact exclusive
  | called thread call idle =>
    exact fun lock first second => exclusive lock first second
  | dispatched context script idle => exact exclusive.of_goes rfl rfl nofun nofun
  | skipped context stage => exact exclusive.of_goes rfl rfl nofun nofun
  | started context stage free enabled =>
    refine exclusive.of_frees loop (fun other different lock holds => ?_) fun lock holds => ?_
    · refine (holds_congr ?_ (fun isLoop => absurd isLoop different) lock).mp holds
      exact stage_goes_of_ne _ different
    · cases lock with
      | mutex =>
        unfold Holds at holds
        rw [stage_goes] at holds
        cases holds
      | context locked =>
        rcases holds with ⟨-, isRunning⟩ | isLocked
        · cases isRunning
          exact .inr free
        · rw [stage_goes] at isLocked
          cases isLocked
  | entered thread call calls stage next free =>
    exact exclusive.of_goes rfl rfl (fun _ => .inr free) nofun
  | locked thread call context contexts later stage free =>
    refine exclusive.of_goes rfl rfl (fun holds => ?_) fun locked isLocked => ?_
    · rw [stage]
      cases call with
      | none => cases holds
      | some call => exact .inl rfl
    · cases isLocked
      exact .inr free
  | unlocked thread call context contexts later stage =>
    refine exclusive.of_goes rfl rfl (fun holds => ?_) fun locked isLocked => ?_
    · rw [Stage.holdsMutex_next contexts later call context] at holds
      rw [stage]
      exact .inl holds
    · rw [Stage.locked_next] at isLocked
      cases isLocked
  | left thread call later stage =>
    refine exclusive.of_goes rfl rfl (fun holds => ?_) fun locked isLocked => ?_
    · rw [Stage.holdsMutex_outside] at holds
      cases holds
    · rw [Stage.locked_outside] at isLocked
      cases isLocked
  | ended stage calls =>
    refine exclusive.of_frees loop (fun other different lock holds => ?_) fun lock holds => ?_
    · refine (holds_congr ?_ (fun isLoop => absurd isLoop different) lock).mp holds
      rfl
    · cases lock with
      | mutex => exact .inl holds
      | context locked =>
        rcases holds with ⟨-, isRunning⟩ | isLocked
        · cases isRunning
        · exact .inl (.inr isLocked)

/-! ### The condition on a move -/

instance (context : Context) : Decidable (Awaited loop state context) :=
  inferInstanceAs (Decidable (∃ thread, thread ≠ loop ∧ context ∈ (state.stage thread).remaining))

/-- The condition on a move: the loop does not start a callback that makes calls, or come back to
the mutex for another call of it, while its context is awaited, and no other thread enters a call
that disables the context of a callback which has still a call to make. -/
def KeepsClear (monitor : Monitor Data Call Context) (loop : Thread)
    (state : State Thread Data Call Context) : Move Thread Call Context → Prop
  | .lockSource =>
    match state.stage loop with
    | .dispatching context =>
      FreeFor loop state loop (.context context) → context ∉ state.disabled →
        state.calls loop ≠ [] → ¬ Awaited loop state context
    | _ => True
  | .lock thread =>
    thread ≠ loop → state.stage loop = .resting → state.stage thread = .resting →
      FreeFor loop state thread .mutex → ∀ call ∈ (state.calls thread).head?,
        ∀ context ∈ asking loop state, context ∉ (monitor.enter state.data call).inside
  | .unlockContext thread =>
    thread = loop →
      match state.stage loop with
      | .disabling none _ [] _ => ∀ context ∈ asking loop state, ¬ Awaited loop state context
      | _ => True
  | _ => True

instance (monitor : Monitor Data Call Context) :
    (move : Move Thread Call Context) → Decidable (KeepsClear monitor loop state move)
  | .lockSource =>
    match stage : state.stage loop with
    | .dispatching context =>
      decidable_of_iff (FreeFor loop state loop (.context context) → context ∉ state.disabled →
          state.calls loop ≠ [] → ¬ Awaited loop state context)
        (by simp only [KeepsClear, stage])
    | .resting | .clearing _ _ _ | .disabling _ _ _ _ => .isTrue (by simp only [KeepsClear, stage])
  | .lock thread =>
    inferInstanceAs (Decidable (thread ≠ loop → state.stage loop = .resting →
      state.stage thread = .resting → FreeFor loop state thread .mutex →
        ∀ call ∈ (state.calls thread).head?, ∀ context ∈ asking loop state,
          context ∉ (monitor.enter state.data call).inside))
  | .unlockContext thread =>
    match stage : state.stage loop with
    | .disabling none _ [] _ =>
      decidable_of_iff (thread = loop → ∀ context ∈ asking loop state, ¬ Awaited loop state context)
        (by simp only [KeepsClear, stage])
    | .disabling (some _) _ _ _ | .disabling none _ (_ :: _) _ | .resting | .dispatching _
    | .clearing _ _ _ => .isTrue (by simp [KeepsClear, stage])
  | .call _ _ | .dispatch _ _ | .lockContext _ | .unlock _ | .endCallback =>
    inferInstanceAs (Decidable True)

theorem Clear.step (clear : Clear loop state) (exclusive : Exclusive loop state)
    (move : Move Thread Call Context) (permitted : monitor.KeepsClear loop state move) :
    Clear loop (monitor.step loop state move) := by
  have moved := monitor.step_cases loop state move
  generalize monitor.step loop state move = next at moved ⊢
  cases moved with
  | waits => exact clear
  | called thread call idle =>
    intro resting context asks
    obtain ⟨calls, running⟩ := asking_eq_some_iff.mp asks
    by_cases isLoop : thread = loop
    · have stopped : state.running = none := idle.2.2 isLoop
      exact absurd (running.symm.trans stopped) (Option.some_ne_none context)
    · refine clear resting context (asking_eq_some_iff.mpr ⟨?_, running⟩)
      rw [← calls_plans_of_ne [call] (Ne.symm isLoop)]
      exact calls
  | dispatched context script idle => exact clear_of_goes rfl (by rintro ⟨⟩)
  | skipped context stage =>
    intro resting other asks
    exact absurd (calls_plans []) (asking_eq_some_iff.mp asks).1
  | started context stage free enabled =>
    intro resting other asks awaited
    obtain ⟨calls, running⟩ := asking_eq_some_iff.mp asks
    cases running
    dsimp only [KeepsClear] at permitted
    rw [stage] at permitted
    exact permitted free enabled calls ((awaited_goes_iff rfl).mp awaited)
  | entered thread call calls stage next free =>
    by_cases isLoop : thread = loop
    · subst isLoop
      exact clear_of_goes rfl (by rintro ⟨⟩)
    · refine clear.of_other isLoop rfl rfl (calls_plans_of_ne calls (Ne.symm isLoop)) ?_
      intro context member
      refine .inr fun resting asks => ?_
      exact permitted isLoop resting stage free call (by rw [next]; rfl) context asks member
  | locked thread call context contexts later stage free =>
    by_cases isLoop : thread = loop
    · subst isLoop
      exact clear_of_goes rfl (by rintro ⟨⟩)
    · refine clear.of_other isLoop rfl rfl rfl fun other member => .inl ?_
      rw [stage]
      cases call with
      | none => cases member
      | some call => exact List.mem_cons_of_mem context member
  | unlocked thread call context contexts later stage =>
    by_cases isLoop : thread = loop
    · subst isLoop
      intro resting other asks awaited
      have rests : Stage.next call contexts later = .resting := (stage_goes _).symm.trans resting
      cases call with
      | some call => cases rests
      | none =>
        cases contexts with
        | cons head rest => cases rests
        | nil =>
          dsimp only [KeepsClear] at permitted
          rw [stage] at permitted
          exact permitted rfl other asks ((awaited_goes_iff rfl).mp awaited)
    · refine clear.of_other isLoop rfl rfl rfl fun other member => .inl ?_
      rw [Stage.remaining_next contexts later call context] at member
      rw [stage]
      exact member
  | left thread call later stage =>
    by_cases isLoop : thread = loop
    · subst isLoop
      intro resting context asks awaited
      obtain ⟨other, different, member⟩ := (awaited_goes_iff rfl).mp awaited
      have both := exclusive .mutex other thread (Stage.holdsMutex_of_mem_remaining member)
      exact different (both (by unfold Holds; rw [stage]; rfl))
    · refine clear.of_other isLoop rfl rfl rfl fun other member => ?_
      rw [Stage.remaining_outside] at member
      cases member
  | ended stage calls =>
    intro resting context asks
    exact absurd (asking_eq_some_iff.mp asks).2.symm (Option.some_ne_none context)

/-! ### How threads come to a crossed wait -/

theorem step_unlockContext {call : Option Call} {context : Context}
    {contexts later : List Context}
    (stage : state.stage thread = .disabling call context contexts later) :
    monitor.step loop state (.unlockContext thread) =
      { state.goes thread (.next call contexts later) with
        disabled := context :: state.disabled } := by
  dsimp only [step, unlockContext]
  rw [stage]

/-- The thread that holds a context lets go of it. -/
theorem Exclusive.frees (exclusive : Exclusive loop state) (thread : Thread) {context : Context}
    (notRunning : state.running ≠ some context)
    (resting : state.stage loop = .resting) :
    ∃ moves, let after := List.foldl (monitor.step loop) state moves
      Exclusive loop after ∧ after.stage thread = state.stage thread ∧
      after.running = state.running ∧ after.calls = state.calls ∧
      after.stage loop = .resting ∧ FreeFor loop after thread (.context context) := by
  by_cases free : FreeFor loop state thread (.context context)
  · exact ⟨[], exclusive, rfl, rfl, rfl, resting, free⟩
  · unfold FreeFor at free
    push Not at free
    obtain ⟨holder, different, holds⟩ := free
    have isLocked := holds.resolve_left fun both => notRunning both.2
    obtain ⟨call, contexts, later, stage⟩ := Stage.locked_eq_some_iff.mp isLocked
    have moved : monitor.step loop state (.unlockContext holder) =
        { state.goes holder (.next call contexts later) with
          disabled := context :: state.disabled } := by
      dsimp only [Monitor.step, unlockContext]
      rw [stage]
    have kept : Exclusive loop (monitor.step loop state (.unlockContext holder)) :=
        exclusive.step monitor _
    refine ⟨[.unlockContext holder], kept, ?_⟩
    rw [List.foldl_cons, List.foldl_nil, moved]
    refine ⟨stage_goes_of_ne _ different.symm, rfl, rfl, ?_, fun other _ otherHolds => ?_⟩
    · have notLoop : loop ≠ holder := by
        intro same
        rw [← same, resting] at stage
        cases stage
      exact (stage_goes_of_ne _ notLoop).trans resting
    · have otherLocked := otherHolds.resolve_left fun both => notRunning both.2
      by_cases same : other = holder
      · rw [same] at otherLocked
        have nowhere := (congrArg Stage.locked (stage_goes _)).symm.trans otherLocked
        rw [Stage.locked_next] at nowhere
        cases nowhere
      · have before := (congrArg Stage.locked (stage_goes_of_ne _ same)).symm.trans otherLocked
        exact same (exclusive (.context context) other holder (.inr before) (.inr isLocked))

theorem disables_head {call : Call} {context : Context}
    {contexts later : List Context}
    (stage : state.stage thread = .clearing (some call) (context :: contexts) later)
    (free : FreeFor loop state thread (.context context)) :
    [.lockContext thread, .unlockContext thread].foldl (monitor.step loop) state =
      { (state.goes thread (.disabling (some call) context contexts later)).goes thread
          (.clearing (some call) contexts later) with
        disabled := context :: state.disabled } := by
  have locks : monitor.step loop state (.lockContext thread) =
      state.goes thread (.disabling (some call) context contexts later) := by
    dsimp only [step, lockContext]
    rw [stage]
    exact if_pos free
  rw [List.foldl_cons, locks, List.foldl_cons, List.foldl_nil,
    step_unlockContext monitor (stage_goes _)]
  rfl

/-- A thread that is still to lock the context of a callback comes to want it. -/
theorem Exclusive.crosses (exclusive : Exclusive loop state) {call : Call} {context : Context}
    {contexts later : List Context} (different : thread ≠ loop)
    (stage : state.stage thread = .clearing (some call) contexts later)
    (member : context ∈ contexts) (resting : state.stage loop = .resting)
    (calls : state.calls loop ≠ []) (running : state.running = some context) :
    ∃ moves, Crossed loop (List.foldl (monitor.step loop) state moves) := by
  induction contexts generalizing state with
  | nil => cases member
  | cons head rest inductionHypothesis =>
    by_cases same : context = head
    · subst same
      refine ⟨[], thread, loop, different, ⟨.context context, ?_, .inl ⟨rfl, running⟩⟩, .mutex,
        ⟨resting, calls⟩, ?_⟩
      · exact congrArg Stage.wanted stage
      · exact congrArg Stage.holdsMutex stage
    · have notRunning : state.running ≠ some head := by
        rw [running]
        exact fun both => same (Option.some.inj both)
      have inRest := (List.mem_cons.mp member).resolve_left same
      obtain ⟨freeing, exclusiveFreed, stageFreed, runningFreed, callsFreed, restingFreed, free⟩ :=
        exclusive.frees monitor thread notRunning resting
      have disables := disables_head monitor (stageFreed.trans stage) free
      have exclusiveNext : Exclusive loop ([.lockContext thread, .unlockContext thread].foldl
          (monitor.step loop) (freeing.foldl (monitor.step loop) state)) :=
        (exclusiveFreed.step monitor (.lockContext thread)).step monitor (.unlockContext thread)
      rw [disables] at exclusiveNext
      obtain ⟨moves, crossed⟩ := inductionHypothesis exclusiveNext (stage_goes _) inRest
        (((stage_goes_of_ne _ different.symm).trans (stage_goes_of_ne _ different.symm)).trans
          restingFreed)
        (callsFreed ▸ calls) (runningFreed.trans running)
      refine ⟨freeing ++ ([.lockContext thread, .unlockContext thread] ++ moves), ?_⟩
      rw [List.foldl_append, List.foldl_append, disables]
      exact crossed

/-- When the context of a callback that has a call to make is awaited, a crossed wait follows. -/
theorem Exclusive.crosses_of_awaited (exclusive : Exclusive loop state) {context : Context}
    (resting : state.stage loop = .resting) (asks : asking loop state = some context)
    (awaited : Awaited loop state context) :
    ∃ moves, Crossed loop (List.foldl (monitor.step loop) state moves) := by
  obtain ⟨calls, running⟩ := asking_eq_some_iff.mp asks
  obtain ⟨thread, different, member⟩ := awaited
  cases stage : state.stage thread with
  | clearing call contexts later =>
    rw [stage] at member
    cases call with
    | none => cases member
    | some call => exact exclusive.crosses monitor different stage member resting calls running
  | disabling call locked contexts later =>
    rw [stage] at member
    cases call with
    | none => cases member
    | some call =>
      have moved : monitor.step loop state (.unlockContext thread) = _ :=
        step_unlockContext monitor stage
      have kept := exclusive.step monitor (.unlockContext thread)
      rw [moved] at kept
      obtain ⟨moves, crossed⟩ := kept.crosses monitor different (stage_goes _) member
        ((stage_goes_of_ne _ different.symm).trans resting) calls running
      refine ⟨.unlockContext thread :: moves, ?_⟩
      rw [List.foldl_cons, moved]
      exact crossed
  | resting =>
    rw [stage] at member
    cases member
  | dispatching other =>
    rw [stage] at member
    cases member

/-- A move that does not keep clear leads to a crossed wait. -/
theorem Exclusive.crosses_of_not_keepsClear (exclusive : Exclusive loop state)
    (move : Move Thread Call Context) (breaks : ¬ monitor.KeepsClear loop state move) :
    ∃ moves, Crossed loop
      (List.foldl (monitor.step loop) (monitor.step loop state move) moves) := by
  have kept := exclusive.step monitor move
  cases move with
  | lockSource =>
    dsimp only [KeepsClear] at breaks
    split at breaks
    next context stage =>
      push Not at breaks
      obtain ⟨free, enabled, calls, awaited⟩ := breaks
      have moved : monitor.step loop state .lockSource =
          { state.goes loop .resting with
            data := monitor.start state.data context
            running := some context } := by
        dsimp only [Monitor.step, lockSource]
        rw [stage]
        exact (if_pos free).trans (if_neg enabled)
      rw [moved] at kept ⊢
      exact kept.crosses_of_awaited monitor (stage_goes _)
        (asking_eq_some_iff.mpr ⟨calls, rfl⟩) ((awaited_goes_iff rfl).mpr awaited)
    next => exact absurd trivial breaks
  | lock thread =>
    dsimp only [KeepsClear] at breaks
    push Not at breaks
    obtain ⟨different, resting, threadResting, free, call, next, context, asks, inside⟩ := breaks
    obtain ⟨calls, next⟩ := List.head?_eq_some_iff.mp next
    have moved : monitor.step loop state (.lock thread) =
        { (state.plans thread calls).goes thread (.clearing (some call)
            (monitor.enter state.data call).inside (monitor.enter state.data call).outside) with
          data := (monitor.enter state.data call).data } := by
      dsimp only [Monitor.step, Monitor.lock]
      rw [threadResting, next]
      exact if_pos free
    obtain ⟨asksCalls, running⟩ := asking_eq_some_iff.mp asks
    rw [moved] at kept ⊢
    refine kept.crosses monitor different (stage_goes _) inside
      ((stage_goes_of_ne _ different.symm).trans resting) (fun noCalls => asksCalls ?_) running
    exact (calls_plans_of_ne calls different.symm).symm.trans noCalls
  | unlockContext thread =>
    dsimp only [KeepsClear] at breaks
    push Not at breaks
    obtain ⟨rfl, breaks⟩ := breaks
    split at breaks
    next locked later stage =>
      push Not at breaks
      obtain ⟨context, asks, awaited⟩ := breaks
      rw [step_unlockContext monitor stage] at kept ⊢
      exact kept.crosses_of_awaited monitor (stage_goes _) asks ((awaited_goes_iff rfl).mpr awaited)
    next => exact absurd trivial breaks
  | _ => exact absurd trivial breaks

/-! ### Every run -/

variable {monitor} in
/-- In every run whose moves keep clear no two threads each want a lock that the other holds; a
move that does not keep clear leads to such a wait. -/
theorem not_crossed_of_keepsClear {data : Data}
    (reached : Reaches (monitor.step loop) (monitor.KeepsClear loop) (initial data) state) :
    ¬ Crossed loop state ∧ ∀ move, ¬ monitor.KeepsClear loop state move → ∃ moves, Crossed loop
      (List.foldl (monitor.step loop) (monitor.step loop state move) moves) := by
  have exclusive : ∀ other, Reaches (monitor.step loop) (monitor.KeepsClear loop) (initial data)
      other → Exclusive loop other := fun other reachedOther =>
    reachedOther.invariant (exclusive_initial data) fun _ move kept _ => kept.step monitor move
  have clear : Clear loop state := reached.invariant_with exclusive (clear_initial data)
    fun _ move exclusiveBefore kept permitted => kept.step monitor exclusiveBefore move permitted
  exact ⟨clear.not_crossed, (exclusive state reached).crosses_of_not_keepsClear monitor⟩

end Moves

/-- In a run of two threads they are numbers. -/
instance twoThreads : NeZero 2 := ⟨Nat.succ_ne_zero 1⟩

end Monitor

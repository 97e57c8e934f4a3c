/-
This file models the futures of the client library that use no thread local storage: a promise, its
future, and the continuation that `then` leaves in the state they share. The promise and the future
are handles that cannot be copied, so each is in the hands of one thread at a time, and the two
threads are interleaved at every locked section and around the calls of the continuation.

It proves for which runs the continuation is called exactly once and a satisfied promise rejects
what follows. Both go wrong where only the flag for a value is tested and not the exception.
-/

import Mir.Library.Transition

namespace Mir.Client.NoTLSFuture

/-! ### The shared state -/

/-- The text of the error with which a satisfied promise rejects a call. -/
def promiseAlreadySatisfied : String := "promise_already_satisfied"

/-- The text of the exception that a promise leaves behind when it is destroyed. -/
def brokenPromise : String := "broken_promise"

/-- What a promise of a `T` shares with its future. An exception is an `E`, and `continuation` is
`none` for the function that does nothing. -/
structure PromiseState (T E Continuation : Type*) where
  set : Bool
  capturedException : Option E
  value : T
  continuation : Option Continuation

namespace PromiseState

variable {T E Continuation : Type*}

/-- The state of a new promise. -/
def new [Inhabited T] : PromiseState T E Continuation := ⟨false, none, default, none⟩

/-- What the condition variable waits for. -/
def ready (state : PromiseState T E Continuation) : Bool :=
  state.set || state.capturedException.isSome

/-- The locked section of the constructor and the destructor of the write lock. -/
def setValue (state : PromiseState T E Continuation) (value : T) :
    Except String (PromiseState T E Continuation) :=
  if state.set then
    .error promiseAlreadySatisfied
  else
    .ok { state with value := value, set := true }

def setException (state : PromiseState T E Continuation) (exception : E) :
    Except String (PromiseState T E Continuation) :=
  if state.set || state.capturedException.isSome then
    .error promiseAlreadySatisfied
  else
    .ok { state with capturedException := some exception }

/-- Nothing if the promise was satisfied before. -/
def breakPromise (state : PromiseState T E Continuation) (exception : E) :
    Option (PromiseState T E Continuation) :=
  if state.set || state.capturedException.isSome then
    none
  else
    some { state with capturedException := some exception }

/-- What reading the value gives once the state is ready. -/
def getValue (state : PromiseState T E Continuation) : Except E T :=
  match state.capturedException with
  | some exception => .error exception
  | none => .ok state.value

/-- The locked section, with the continuation if it is called here after the section. -/
def setContinuation (state : PromiseState T E Continuation) (continuation : Continuation) :
    PromiseState T E Continuation × Option Continuation :=
  if state.set then
    (state, some continuation)
  else
    ({ state with continuation := some continuation }, none)

/-- What can be read of a state: nothing before it is ready. -/
def content (state : PromiseState T E Continuation) : Option (Except E T) :=
  if state.ready then some state.getValue else none

/-- What a continuation does with the promise of the future that `then` returned. A state that
rejects both calls stays as it is. -/
def settle (state : PromiseState T E Continuation) :
    Except E T → PromiseState T E Continuation
  | .ok value => (state.setValue value).toOption.getD state
  | .error exception => (state.setException exception).toOption.getD state

/-- The promise that a continuation owns is destroyed with it. -/
def abandon (state : PromiseState T E Continuation) (exception : E) :
    PromiseState T E Continuation :=
  (state.breakPromise exception).getD state

variable (state : PromiseState T E Continuation)

theorem ready_iff : state.ready = true ↔ state.set = true ∨ state.capturedException.isSome := by
  simp only [ready, Bool.or_eq_true]

theorem content_of_ready (isReady : state.ready = true) :
    state.content = some state.getValue := by
  rw [content, if_pos isReady]

theorem content_of_not_ready (notReady : state.ready = false) : state.content = none := by
  simp [content, notReady]

theorem setValue_ok {value : T} {next : PromiseState T E Continuation}
    (accepted : state.setValue value = .ok next) :
    state.set = false ∧ next = { state with value := value, set := true } := by
  unfold setValue at accepted
  split at accepted
  · cases accepted
  · next notSet => exact ⟨Bool.eq_false_iff.mpr notSet, (Except.ok.inj accepted).symm⟩

theorem setValue_error {value : T} {error : String}
    (refused : state.setValue value = .error error) :
    state.set = true ∧ error = promiseAlreadySatisfied := by
  unfold setValue at refused
  split at refused
  · next isSet => exact ⟨isSet, (Except.error.inj refused).symm⟩
  · cases refused

theorem setException_ok {exception : E} {next : PromiseState T E Continuation}
    (accepted : state.setException exception = .ok next) :
    state.ready = false ∧ next = { state with capturedException := some exception } := by
  unfold setException at accepted
  split at accepted
  · cases accepted
  · next notReady => exact ⟨Bool.eq_false_iff.mpr notReady, (Except.ok.inj accepted).symm⟩

theorem setException_error {exception : E} {error : String}
    (refused : state.setException exception = .error error) :
    state.ready = true ∧ error = promiseAlreadySatisfied := by
  unfold setException at refused
  split at refused
  · next isReady => exact ⟨isReady, (Except.error.inj refused).symm⟩
  · cases refused

theorem breakPromise_some {exception : E} {next : PromiseState T E Continuation}
    (broken : state.breakPromise exception = some next) :
    state.ready = false ∧ next = { state with capturedException := some exception } := by
  unfold breakPromise at broken
  split at broken
  · cases broken
  · next notReady => exact ⟨Bool.eq_false_iff.mpr notReady, (Option.some.inj broken).symm⟩

/-- A promise that a continuation has settled is satisfied. -/
theorem ready_settle (returned : Except E T) : (state.settle returned).ready = true := by
  cases returned with
  | ok value =>
    cases accepted : state.setValue value with
    | ok next =>
      obtain ⟨-, rfl⟩ := setValue_ok state accepted
      simp [settle, accepted, Except.toOption, ready]
    | error error =>
      obtain ⟨isSet, -⟩ := setValue_error state accepted
      simp [settle, accepted, Except.toOption, ready, isSet]
  | error exception =>
    cases accepted : state.setException exception with
    | ok next =>
      obtain ⟨-, rfl⟩ := setException_ok state accepted
      simp [settle, accepted, Except.toOption, ready]
    | error error =>
      obtain ⟨isReady, -⟩ := setException_error state accepted
      simp [settle, accepted, Except.toOption, isReady]

/-- Destroying a promise leaves a satisfied state as it is. -/
theorem abandon_of_ready (isReady : state.ready = true) (exception : E) :
    state.abandon exception = state := by
  have asWritten : (state.set || state.capturedException.isSome) = true := isReady
  rw [abandon, breakPromise, if_pos asWritten, Option.getD_none]

end PromiseState

/-! ### The two threads -/

/-- A continuation takes a ready future. It is known by what it returns or throws for what that
future carries. -/
abbrev Completion (T E R : Type*) := Except E T → Except E R

/-- A call of the continuation: whether its future was ready, and what it carried. -/
structure Run (T E : Type*) where
  ready : Bool
  carried : Except E T

/-- A call of `set_value` or `set_exception`: whether the promise was satisfied before, and how the
call was answered. -/
structure Call where
  satisfied : Bool
  answer : Except String Unit

/-- How far the thread of the promise is. `inside` has what the running continuation is going to
return. -/
inductive PromisePhase (R E : Type*)
  | idle
  | continuing
  | inside (returned : Except E R)
  | clearing
  | notifying

/-- How far the thread of the future is. A future is `gone` when it has no state any more. -/
inductive FuturePhase (R E : Type*)
  | valid
  | waiting
  | woken
  | inside (returned : Except E R)
  | gone

/-- A thread in the condition variable is woken up. -/
def FuturePhase.notified {R E : Type*} : FuturePhase R E → FuturePhase R E
  | .waiting => .woken
  | future => future

theorem FuturePhase.notified_ne_waiting {R E : Type*} (future : FuturePhase R E) :
    future.notified ≠ .waiting := by
  cases future <;> exact nofun

theorem FuturePhase.notified_ne_inside {R E : Type*} {future : FuturePhase R E}
    {returned : Except E R} (other : future ≠ .inside returned) :
    future.notified ≠ .inside returned := by
  cases future with
  | inside _ => exact other
  | valid | waiting | woken | gone => exact nofun

/-- A promise, its future and the future that `then` returned. The last five fields are the history:
what satisfied the promise first, whether `then` was called, the calls of the continuation, the
answered calls of the promise, and what reading the future gave. -/
structure System (T R E : Type*) where
  state : PromiseState T E (Completion T E R)
  result : PromiseState R E Unit
  promise : PromisePhase R E
  destroyed : Bool
  future : FuturePhase R E
  outcome : Option (Except E T)
  attached : Bool
  runs : List (Run T E)
  calls : List Call
  got : List (Except E T)

/-- The steps of the two threads. The first three are the locked sections of the promise's members,
and the four that follow are what each of them does after its section. -/
inductive Op (T R E : Type*)
  | setValue (value : T)
  | setException (exception : E)
  | destroyPromise
  | callContinuation
  | continuationReturns
  | clearContinuation
  | notifyAll
  | andThen (completion : Completion T E R)
  | completionReturns
  | get
  | wake
  | detach

namespace System

variable {T R E : Type*}

/-- A promise whose future was just taken. -/
def new [Inhabited T] [Inhabited R] : System T R E where
  state := .new
  result := .new
  promise := .idle
  destroyed := false
  future := .valid
  outcome := none
  attached := false
  runs := []
  calls := []
  got := []

/-- The promise still has its owner, who is in no call of it. -/
def mayCall (system : System T R E) : Bool :=
  !system.destroyed && match system.promise with
    | .idle => true
    | _ => false

/-- Whether something else than the promise has the state: the future, or the continuation in the
state itself. -/
def isShared (system : System T R E) : Bool :=
  system.state.continuation.isSome || match system.future with
    | .gone => false
    | _ => true

/-- The continuation begins with a future of the state. -/
def beginRun (system : System T R E) : List (Run T E) :=
  ⟨system.state.ready, system.state.getValue⟩ :: system.runs

def setValue (system : System T R E) (value : T) : System T R E :=
  if system.mayCall then
    match system.state.setValue value with
    | .error error =>
      { system with calls := ⟨system.state.ready, .error error⟩ :: system.calls }
    | .ok state =>
      { system with
        state := state
        promise := .continuing
        outcome := system.outcome.or (some (.ok value))
        calls := ⟨system.state.ready, .ok ()⟩ :: system.calls }
  else
    system

def setException (system : System T R E) (exception : E) : System T R E :=
  if system.mayCall then
    match system.state.setException exception with
    | .error error =>
      { system with calls := ⟨system.state.ready, .error error⟩ :: system.calls }
    | .ok state =>
      { system with
        state := state
        promise := .continuing
        outcome := system.outcome.or (some (.error exception))
        calls := ⟨system.state.ready, .ok ()⟩ :: system.calls }
  else
    system

/-- The destructor breaks the promise only if the state is shared. -/
def destroyPromise (runtimeError : String → E) (system : System T R E) : System T R E :=
  if system.mayCall then
    if system.isShared then
      match system.state.breakPromise (runtimeError brokenPromise) with
      | none => { system with destroyed := true }
      | some state =>
        { system with
          state := state
          promise := .continuing
          destroyed := true
          outcome := system.outcome.or (some (.error (runtimeError brokenPromise))) }
    else
      { system with destroyed := true }
  else
    system

/-- The stored function is called where it is, outside the mutex. -/
def callContinuation (system : System T R E) : System T R E :=
  match system.promise with
  | .continuing =>
    match system.state.continuation with
    | none => { system with promise := .clearing }
    | some completion =>
      { system with
        promise := .inside (completion system.state.getValue)
        runs := system.beginRun }
  | _ => system

def continuationReturns (system : System T R E) : System T R E :=
  match system.promise with
  | .inside returned =>
    { system with promise := .clearing, result := system.result.settle returned }
  | _ => system

/-- The function that does nothing replaces the stored one, whether it has been called or not, and
the promise in the one replaced is destroyed. -/
def clearContinuation (runtimeError : String → E) (system : System T R E) : System T R E :=
  match system.promise with
  | .clearing =>
    { system with
      promise := .notifying
      state := { system.state with continuation := none }
      result := if system.state.continuation.isSome then
          system.result.abandon (runtimeError brokenPromise)
        else
          system.result }
  | _ => system

def notifyAll (system : System T R E) : System T R E :=
  match system.promise with
  | .notifying =>
    { system with
      promise := .idle
      future := system.future.notified }
  | _ => system

/-- `then`, up to the end of the locked section. -/
def andThen (system : System T R E) (completion : Completion T E R) : System T R E :=
  match system.future with
  | .valid =>
    match system.state.setContinuation completion with
    | (state, none) => { system with state := state, attached := true, future := .gone }
    | (state, some completion) =>
      { system with
        state := state
        attached := true
        future := .inside (completion state.getValue)
        runs := system.beginRun }
  | _ => system

def completionReturns (system : System T R E) : System T R E :=
  match system.future with
  | .inside returned =>
    { system with future := .gone, result := system.result.settle returned }
  | _ => system

/-- Where reading the value throws, the future keeps its state. -/
def read (system : System T R E) : System T R E :=
  if system.state.ready then
    { system with
      future := match system.state.getValue with
        | .ok _ => .gone
        | .error _ => .valid
      got := system.state.getValue :: system.got }
  else
    { system with future := .waiting }

def get (system : System T R E) : System T R E :=
  match system.future with
  | .valid => system.read
  | _ => system

/-- A thread in the condition variable can also wake up without a notification. -/
def wake (system : System T R E) : System T R E :=
  match system.future with
  | .waiting | .woken => system.read
  | _ => system

def detach (system : System T R E) : System T R E :=
  match system.future with
  | .valid => { system with future := .gone }
  | _ => system

/-- One step of either thread. A step that the thread is not at changes nothing. -/
def step (runtimeError : String → E) (system : System T R E) : Op T R E → System T R E
  | .setValue value => system.setValue value
  | .setException exception => system.setException exception
  | .destroyPromise => system.destroyPromise runtimeError
  | .callContinuation => system.callContinuation
  | .continuationReturns => system.continuationReturns
  | .clearContinuation => system.clearContinuation runtimeError
  | .notifyAll => system.notifyAll
  | .andThen completion => system.andThen completion
  | .completionReturns => system.completionReturns
  | .get => system.get
  | .wake => system.wake
  | .detach => system.detach

/-! ### What promise and future keep -/

/-- No member of the promise is between its locked section and the end of its call of the
continuation. -/
def CalledBack (system : System T R E) : Prop :=
  system.promise ≠ .continuing ∧ ∀ returned, system.promise ≠ .inside returned

/-- What a promise and its future promise: the continuation is called at most once, with a ready
future of what satisfied the promise; once the call that satisfied the promise has called back and
`then` has returned, it has been called and the future that `then` returned is ready; a satisfied
promise rejects each call with the error for it; reading the future gives what satisfied the
promise; and whoever waits for a ready future is going to be notified. -/
structure KeepsPromise (system : System T R E) : Prop where
  once : system.runs.length ≤ 1
  carried : ∀ run ∈ system.runs, run.ready = true ∧ system.outcome = some run.carried
  delivered : system.attached = true → system.future = .gone → system.state.ready = true →
    system.CalledBack → system.runs ≠ [] ∧ system.result.ready = true
  rejects : ∀ call ∈ system.calls, call.satisfied = true →
    call.answer = .error promiseAlreadySatisfied
  reads : ∀ outcome ∈ system.got, system.outcome = some outcome
  notified : system.future = .waiting → system.state.ready = true → system.promise ≠ .idle

/-- No value is set after an exception, and `then` comes before the thread that sets an exception,
or breaks the promise, calls the continuation. -/
def TestsBoth (system : System T R E) : Op T R E → Prop
  | .setValue _ => system.mayCall = true → system.state.capturedException.isSome →
    system.state.set = true
  | .andThen _ => system.future = .valid → system.state.capturedException.isSome →
    system.state.set = true ∨ system.promise = .continuing
  | _ => True

/-- Where the continuation is: not passed yet, stored and still to be called, running on either
thread, or done. -/
inductive Stage (system : System T R E) : Prop
  | apart (attached : system.attached = false)
      (future : ∀ returned, system.future ≠ .inside returned)
      (promise : ∀ returned, system.promise ≠ .inside returned)
      (continuation : system.state.continuation = none) (runs : system.runs = [])
  | stored (future : system.future = .gone)
      (ahead : system.state.ready = true → system.promise = .continuing)
      (continuation : system.state.continuation.isSome) (runs : system.runs = [])
  | calledBack (returned : Except E R) (future : system.future = .gone)
      (promise : system.promise = .inside returned) (runs : system.runs.length = 1)
  | calledHere (returned : Except E R) (future : system.future = .inside returned)
      (promise : ∀ returned, system.promise ≠ .inside returned)
      (continuation : system.state.continuation = none) (runs : system.runs.length = 1)
  | done (future : system.future = .gone)
      (promise : ∀ returned, system.promise ≠ .inside returned)
      (continuation : system.promise = .continuing → system.state.continuation = none)
      (runs : system.runs.length = 1) (result : system.result.ready = true)

/-- What holds as long as both are tested. -/
structure Sound (system : System T R E) : Prop where
  content : system.outcome = system.state.content
  quiet : system.state.ready = false → system.promise = .idle
  stage : system.Stage
  carried : ∀ run ∈ system.runs, run.ready = true ∧ system.outcome = some run.carried
  rejects : ∀ call ∈ system.calls, call.satisfied = true →
    call.answer = .error promiseAlreadySatisfied
  reads : ∀ outcome ∈ system.got, system.outcome = some outcome
  notified : system.future = .waiting → system.state.ready = true → system.promise ≠ .idle

/-! ### The steps keep what holds -/

namespace Sound

variable {system : System T R E} {runtimeError : String → E}

/-- Nothing has been called before the promise is satisfied. -/
theorem runs_eq_nil (sound : system.Sound) (notReady : system.state.ready = false) :
    system.runs = [] := by
  refine List.eq_nil_iff_forall_not_mem.mpr fun run member => ?_
  have carried := (sound.carried run member).2
  rw [sound.content, system.state.content_of_not_ready notReady] at carried
  cases carried

theorem new [Inhabited T] [Inhabited R] : (System.new : System T R E).Sound where
  content := rfl
  quiet := fun _ => rfl
  stage := .apart rfl (fun _ => nofun) (fun _ => nofun) rfl rfl
  carried := by simp [System.new]
  rejects := by simp [System.new]
  reads := by simp [System.new]
  notified := by simp [System.new]

/-- The first to satisfy the promise goes on to call the continuation. -/
theorem satisfy (sound : system.Sound) (notReady : system.state.ready = false)
    {state : PromiseState T E (Completion T E R)} {outcome : Except E T} {destroyed : Bool}
    {calls : List Call} (isReady : state.ready = true) (getValue : state.getValue = outcome)
    (continuation : state.continuation = system.state.continuation)
    (rejects : ∀ call ∈ calls, call.satisfied = true →
      call.answer = .error promiseAlreadySatisfied) :
    Sound { system with
      state := state
      promise := .continuing
      destroyed := destroyed
      outcome := system.outcome.or (some outcome)
      calls := calls } where
  content := by
    have first : system.outcome = none := by
      rw [sound.content, system.state.content_of_not_ready notReady]
    rw [first, state.content_of_ready isReady, getValue]
    rfl
  quiet := fun unready => by
    rw [isReady] at unready
    cases unready
  stage := by
    have noRuns := sound.runs_eq_nil notReady
    cases sound.stage with
    | apart attached future _ noContinuation _ =>
      exact .apart attached future (fun _ => nofun) (continuation.trans noContinuation) noRuns
    | stored future _ isStored _ =>
      refine .stored future (fun _ => rfl) ?_ noRuns
      rw [continuation]
      exact isStored
    | calledBack _ _ _ runs => exact absurd runs (by simp [noRuns])
    | calledHere _ _ _ _ runs => exact absurd runs (by simp [noRuns])
    | done _ _ _ runs _ => exact absurd runs (by simp [noRuns])
  carried := fun run member => by
    rw [sound.runs_eq_nil notReady] at member
    cases member
  rejects := rejects
  reads := fun got member => by
    have before := sound.reads got member
    rw [sound.content, system.state.content_of_not_ready notReady] at before
    cases before
  notified := fun _ _ => nofun

/-- Neither the end of the promise's owner nor an answered call is looked at by what else holds. -/
theorem withHistory (sound : system.Sound) (destroyed : Bool) {calls : List Call}
    (rejects : ∀ call ∈ calls, call.satisfied = true →
      call.answer = .error promiseAlreadySatisfied) :
    Sound { system with destroyed := destroyed, calls := calls } where
  content := sound.content
  quiet := sound.quiet
  stage := by
    cases sound.stage with
    | apart attached future promise continuation runs =>
      exact .apart attached future promise continuation runs
    | stored future ahead continuation runs => exact .stored future ahead continuation runs
    | calledBack returned future promise runs => exact .calledBack returned future promise runs
    | calledHere returned future promise continuation runs =>
      exact .calledHere returned future promise continuation runs
    | done future promise continuation runs result =>
      exact .done future promise continuation runs result
  carried := sound.carried
  rejects := rejects
  reads := sound.reads
  notified := sound.notified

/-- A rejected call changes nothing but the history. -/
theorem refuse (sound : system.Sound) :
    Sound { system with
      calls := ⟨system.state.ready, .error promiseAlreadySatisfied⟩ :: system.calls } := by
  refine sound.withHistory system.destroyed fun call member satisfied => ?_
  rcases List.mem_cons.mp member with rfl | earlier
  · rfl
  · exact sound.rejects call earlier satisfied

theorem answered (sound : system.Sound) (notReady : system.state.ready = false) :
    ∀ call ∈ ⟨system.state.ready, .ok ()⟩ :: system.calls, call.satisfied = true →
      call.answer = .error promiseAlreadySatisfied := by
  intro call member satisfied
  rcases List.mem_cons.mp member with rfl | earlier
  · rw [notReady] at satisfied
    cases satisfied
  · exact sound.rejects call earlier satisfied

theorem setValue (sound : system.Sound) (value : T)
    (testsBoth : system.TestsBoth (.setValue value)) : (system.setValue value).Sound := by
  unfold System.setValue
  split
  · next mayCall =>
    split
    · next error refused =>
      obtain ⟨-, rfl⟩ := system.state.setValue_error refused
      exact sound.refuse
    · next state accepted =>
      obtain ⟨notSet, rfl⟩ := system.state.setValue_ok accepted
      have noException : system.state.capturedException = none := by
        by_contra captured
        have isSet := testsBoth mayCall (Option.isSome_iff_ne_none.mpr captured)
        rw [notSet] at isSet
        cases isSet
      have notReady : system.state.ready = false := by
        rw [PromiseState.ready, notSet, noException]
        rfl
      refine sound.satisfy notReady rfl ?_ rfl (sound.answered notReady)
      simp [PromiseState.getValue, noException]
  · exact sound

theorem setException (sound : system.Sound) (exception : E) :
    (system.setException exception).Sound := by
  unfold System.setException
  split
  · split
    · next error refused =>
      obtain ⟨-, rfl⟩ := system.state.setException_error refused
      exact sound.refuse
    · next state accepted =>
      obtain ⟨notReady, rfl⟩ := system.state.setException_ok accepted
      exact sound.satisfy notReady (by simp [PromiseState.ready]) rfl rfl
        (sound.answered notReady)
  · exact sound

theorem destroyPromise (sound : system.Sound) :
    (system.destroyPromise runtimeError).Sound := by
  unfold System.destroyPromise
  split
  · split
    · split
      · exact sound.withHistory true sound.rejects
      · next state broken =>
        obtain ⟨notReady, rfl⟩ := system.state.breakPromise_some broken
        exact sound.satisfy notReady (by simp [PromiseState.ready]) rfl rfl sound.rejects
    · exact sound.withHistory true sound.rejects
  · exact sound

/-- A call of the continuation on a state that is ready is one with what satisfied the promise. -/
theorem carried_beginRun (sound : system.Sound) (isReady : system.state.ready = true) :
    ∀ run ∈ system.beginRun, run.ready = true ∧ system.outcome = some run.carried := by
  intro run member
  rcases List.mem_cons.mp member with rfl | earlier
  · exact ⟨isReady, sound.content.trans (system.state.content_of_ready isReady)⟩
  · exact sound.carried run earlier

theorem ready_of_promise (sound : system.Sound) (busy : system.promise ≠ .idle) :
    system.state.ready = true := by
  by_contra notReady
  exact busy (sound.quiet (Bool.eq_false_iff.mpr notReady))

theorem callContinuation (sound : system.Sound) : system.callContinuation.Sound := by
  unfold System.callContinuation
  split
  · next continuing =>
    have isReady : system.state.ready = true :=
      sound.ready_of_promise (by rw [continuing]; exact nofun)
    have unready : system.state.ready ≠ false := by rw [isReady]; exact nofun
    split
    · next noContinuation =>
      refine ⟨sound.content, fun notReady => absurd notReady unready, ?_, sound.carried,
        sound.rejects, sound.reads, fun _ _ => nofun⟩
      cases sound.stage with
      | apart attached future _ continuation runs =>
        exact .apart attached future (fun _ => nofun) continuation runs
      | stored _ _ isStored _ =>
        rw [noContinuation] at isStored
        cases isStored
      | calledBack returned _ promise _ =>
        rw [continuing] at promise
        cases promise
      | calledHere returned future _ continuation runs =>
        exact .calledHere returned future (fun _ => nofun) continuation runs
      | done future _ _ runs result =>
        exact .done future (fun _ => nofun) (fun _ => noContinuation) runs result
    · next completion isStored =>
      refine ⟨sound.content, fun notReady => absurd notReady unready, ?_,
        sound.carried_beginRun isReady, sound.rejects, sound.reads, fun _ _ => nofun⟩
      cases sound.stage with
      | stored future _ _ noRuns =>
        refine .calledBack _ future rfl ?_
        simp [beginRun, noRuns]
      | apart _ _ _ continuation _ =>
        rw [isStored] at continuation
        cases continuation
      | calledBack returned _ promise _ =>
        rw [continuing] at promise
        cases promise
      | calledHere _ _ _ continuation _ =>
        rw [isStored] at continuation
        cases continuation
      | done _ _ continuation _ _ =>
        rw [isStored] at continuation
        cases continuation continuing
  · exact sound

theorem continuationReturns (sound : system.Sound) : system.continuationReturns.Sound := by
  unfold System.continuationReturns
  split
  · next returned inside =>
    have isReady : system.state.ready = true :=
      sound.ready_of_promise (by rw [inside]; exact nofun)
    have unready : system.state.ready ≠ false := by rw [isReady]; exact nofun
    refine ⟨sound.content, fun notReady => absurd notReady unready, ?_, sound.carried,
      sound.rejects, sound.reads, fun _ _ => nofun⟩
    cases sound.stage with
    | calledBack _ future _ runs =>
      exact .done future (fun _ => nofun) (fun isContinuing => nomatch isContinuing) runs
        (system.result.ready_settle returned)
    | apart _ _ promise _ _ => exact absurd inside (promise returned)
    | stored _ ahead _ _ =>
      rw [ahead isReady] at inside
      cases inside
    | calledHere _ _ promise _ _ => exact absurd inside (promise returned)
    | done _ promise _ _ _ => exact absurd inside (promise returned)
  · exact sound

theorem clearContinuation (sound : system.Sound) :
    (system.clearContinuation runtimeError).Sound := by
  unfold System.clearContinuation
  split
  · next clearing =>
    have isReady : system.state.ready = true :=
      sound.ready_of_promise (by rw [clearing]; exact nofun)
    refine ⟨sound.content, fun notReady => ?_, ?_, sound.carried, sound.rejects, sound.reads,
      fun _ _ => nofun⟩
    · rw [show PromiseState.ready { system.state with continuation := none } =
        system.state.ready from rfl, isReady] at notReady
      cases notReady
    cases sound.stage with
    | apart attached future _ _ runs =>
      exact .apart attached future (fun _ => nofun) rfl runs
    | stored _ ahead _ _ =>
      rw [ahead isReady] at clearing
      cases clearing
    | calledBack returned _ promise _ =>
      rw [clearing] at promise
      cases promise
    | calledHere returned future _ _ runs =>
      exact .calledHere returned future (fun _ => nofun) rfl runs
    | done future _ _ runs result =>
      refine .done future (fun _ => nofun) (fun _ => rfl) runs ?_
      dsimp only
      split
      · rw [system.result.abandon_of_ready result]
        exact result
      · exact result
  · exact sound

theorem notifyAll (sound : system.Sound) : system.notifyAll.Sound := by
  unfold System.notifyAll
  split
  · next notifying =>
    refine ⟨sound.content, fun _ => rfl, ?_, sound.carried, sound.rejects, sound.reads,
      fun waiting _ => absurd waiting system.future.notified_ne_waiting⟩
    cases sound.stage with
    | apart attached future _ continuation runs =>
      exact .apart attached (fun returned => FuturePhase.notified_ne_inside (future returned))
        (fun _ => nofun) continuation runs
    | stored _ ahead _ _ =>
      have isReady : system.state.ready = true :=
        sound.ready_of_promise (by rw [notifying]; exact nofun)
      rw [ahead isReady] at notifying
      cases notifying
    | calledBack returned _ promise _ =>
      rw [notifying] at promise
      cases promise
    | calledHere returned future _ continuation runs =>
      refine .calledHere returned ?_ (fun _ => nofun) continuation runs
      dsimp only
      rw [future]
      rfl
    | done future _ _ runs result =>
      refine .done ?_ (fun _ => nofun) (fun isContinuing => nomatch isContinuing) runs result
      dsimp only
      rw [future]
      rfl
  · exact sound

/-- As long as the future is not passed on, no continuation is known. -/
theorem apart (sound : system.Sound) (notGone : system.future ≠ .gone)
    (notInside : ∀ returned, system.future ≠ .inside returned) :
    system.attached = false ∧ (∀ returned, system.promise ≠ .inside returned) ∧
      system.state.continuation = none ∧ system.runs = [] := by
  cases sound.stage with
  | apart attached _ promise continuation runs => exact ⟨attached, promise, continuation, runs⟩
  | stored future _ _ _ => exact absurd future notGone
  | calledBack _ future _ _ => exact absurd future notGone
  | calledHere returned future _ _ _ => exact absurd future (notInside returned)
  | done future _ _ _ _ => exact absurd future notGone

theorem andThen (sound : system.Sound) (completion : Completion T E R)
    (testsBoth : system.TestsBoth (.andThen completion)) : (system.andThen completion).Sound := by
  unfold System.andThen
  split
  · next valid =>
    obtain ⟨-, promise, noContinuation, noRuns⟩ :=
      sound.apart (by rw [valid]; exact nofun) (fun _ => by rw [valid]; exact nofun)
    unfold PromiseState.setContinuation
    by_cases isSet : system.state.set = true
    · have isReady : system.state.ready = true := system.state.ready_iff.mpr (.inl isSet)
      rw [if_pos isSet]
      refine ⟨sound.content, sound.quiet, ?_, sound.carried_beginRun isReady, sound.rejects,
        sound.reads, fun waiting _ => nomatch waiting⟩
      refine .calledHere _ rfl promise noContinuation ?_
      simp [beginRun, noRuns]
    · rw [if_neg isSet]
      refine ⟨sound.content, sound.quiet, ?_, sound.carried, sound.rejects, sound.reads,
        fun waiting _ => nomatch waiting⟩
      refine .stored rfl (fun isReady => ?_) rfl noRuns
      have captured := (system.state.ready_iff.mp isReady).resolve_left isSet
      exact (testsBoth valid captured).resolve_left isSet
  · exact sound

theorem completionReturns (sound : system.Sound) : system.completionReturns.Sound := by
  unfold System.completionReturns
  split
  · next returned inside =>
    refine ⟨sound.content, sound.quiet, ?_, sound.carried, sound.rejects, sound.reads,
      fun waiting _ => nomatch waiting⟩
    cases sound.stage with
    | calledHere _ _ promise continuation runs =>
      exact .done rfl promise (fun _ => continuation) runs (system.result.ready_settle returned)
    | apart _ future _ _ _ => exact absurd inside (future returned)
    | stored future _ _ _ =>
      rw [inside] at future
      cases future
    | calledBack _ future _ _ =>
      rw [inside] at future
      cases future
    | done future _ _ _ _ =>
      rw [inside] at future
      cases future
  · exact sound

/-- A future that has not been passed on is read, waits or is let go, and nothing else changes. -/
theorem withFuture (sound : system.Sound) (notGone : system.future ≠ .gone)
    (notInside : ∀ returned, system.future ≠ .inside returned) {future : FuturePhase R E}
    {got : List (Except E T)} (other : ∀ returned, future ≠ .inside returned)
    (reads : ∀ outcome ∈ got, system.outcome = some outcome)
    (notified : future = .waiting → system.state.ready = true → system.promise ≠ .idle) :
    Sound { system with future := future, got := got } := by
  obtain ⟨attached, promise, noContinuation, noRuns⟩ := sound.apart notGone notInside
  exact ⟨sound.content, sound.quiet, .apart attached other promise noContinuation noRuns,
    sound.carried, sound.rejects, reads, notified⟩

theorem read (sound : system.Sound) (notGone : system.future ≠ .gone)
    (notInside : ∀ returned, system.future ≠ .inside returned) : system.read.Sound := by
  unfold System.read
  split
  · next isReady =>
    refine sound.withFuture notGone notInside (fun returned => ?_) (fun outcome member => ?_) ?_
    · split <;> exact nofun
    · rcases List.mem_cons.mp member with rfl | earlier
      · exact sound.content.trans (system.state.content_of_ready isReady)
      · exact sound.reads outcome earlier
    · split <;> exact nofun
  · next notReady =>
    exact sound.withFuture notGone notInside (fun _ => nofun) sound.reads
      fun _ isReady => absurd isReady notReady

theorem get (sound : system.Sound) : system.get.Sound := by
  unfold System.get
  split
  · next valid =>
    exact sound.read (by rw [valid]; exact nofun) (fun _ => by rw [valid]; exact nofun)
  · exact sound

theorem wake (sound : system.Sound) : system.wake.Sound := by
  unfold System.wake
  split
  · next waiting =>
    exact sound.read (by rw [waiting]; exact nofun) (fun _ => by rw [waiting]; exact nofun)
  · next woken =>
    exact sound.read (by rw [woken]; exact nofun) (fun _ => by rw [woken]; exact nofun)
  · exact sound

theorem detach (sound : system.Sound) : system.detach.Sound := by
  unfold System.detach
  split
  · next valid =>
    exact sound.withFuture (by rw [valid]; exact nofun) (fun _ => by rw [valid]; exact nofun)
      (fun _ => nofun) sound.reads nofun
  · exact sound

theorem step (sound : system.Sound) (op : Op T R E) (testsBoth : system.TestsBoth op) :
    (system.step runtimeError op).Sound := by
  cases op with
  | setValue value => exact sound.setValue value testsBoth
  | setException exception => exact sound.setException exception
  | destroyPromise => exact sound.destroyPromise
  | callContinuation => exact sound.callContinuation
  | continuationReturns => exact sound.continuationReturns
  | clearContinuation => exact sound.clearContinuation
  | notifyAll => exact sound.notifyAll
  | andThen completion => exact sound.andThen completion testsBoth
  | completionReturns => exact sound.completionReturns
  | get => exact sound.get
  | wake => exact sound.wake
  | detach => exact sound.detach

/-! ### What holds is what is promised -/

theorem keepsPromise (sound : system.Sound) : system.KeepsPromise where
  once := by
    cases sound.stage with
    | apart _ _ _ _ runs | stored _ _ _ runs => simp [runs]
    | calledBack _ _ _ runs | calledHere _ _ _ _ runs | done _ _ _ runs _ =>
      exact Nat.le_of_eq runs
  carried := sound.carried
  delivered := fun isAttached isGone isReady calledBack => by
    cases sound.stage with
    | apart attached _ _ _ _ =>
      rw [attached] at isAttached
      cases isAttached
    | stored _ ahead _ _ => exact absurd (ahead isReady) calledBack.1
    | calledBack returned _ promise _ => exact absurd promise (calledBack.2 returned)
    | calledHere _ future _ _ _ =>
      rw [isGone] at future
      cases future
    | done _ _ _ runs result =>
      exact ⟨List.ne_nil_of_length_eq_add_one runs, result⟩
  rejects := sound.rejects
  reads := sound.reads
  notified := sound.notified

/-- A step that does not test both breaks a promise. -/
theorem testsBoth_of_keepsPromise (sound : system.Sound) (op : Op T R E)
    (keeps : (system.step runtimeError op).KeepsPromise) : system.TestsBoth op := by
  cases op with
  | setValue value =>
    intro mayCall captured
    by_contra notSet
    have accepted : system.state.setValue value =
        .ok { system.state with value := value, set := true } := by
      rw [PromiseState.setValue, if_neg notSet]
    have rejects := keeps.rejects
    simp only [System.step, System.setValue, mayCall, accepted, if_true] at rejects
    have isReady : system.state.ready = true := system.state.ready_iff.mpr (.inr captured)
    exact nomatch rejects _ List.mem_cons_self isReady
  | andThen completion =>
    intro valid captured
    by_contra missed
    obtain ⟨notSet, notContinuing⟩ := not_or.mp missed
    obtain ⟨-, promise, -, noRuns⟩ :=
      sound.apart (by rw [valid]; exact nofun) (fun _ => by rw [valid]; exact nofun)
    have stored : system.andThen completion =
        { system with
          state := { system.state with continuation := some completion }
          attached := true
          future := .gone } := by
      simp only [System.andThen, valid, PromiseState.setContinuation, if_neg notSet]
    have delivered := keeps.delivered
    rw [System.step, stored] at delivered
    have isReady : system.state.ready = true := system.state.ready_iff.mpr (.inr captured)
    exact (delivered rfl rfl isReady ⟨notContinuing, promise⟩).1 noRuns
  | setException _ | destroyPromise | callContinuation | continuationReturns | clearContinuation
  | notifyAll | completionReturns | get | wake | detach => trivial

end Sound

/-- What is left of the calls in progress, whichever step they are at. -/
def remaining : List (Op T R E) :=
  [.callContinuation, .continuationReturns, .clearContinuation, .notifyAll, .completionReturns]

theorem promise_completionReturns (system : System T R E) :
    system.completionReturns.promise = system.promise := by
  unfold completionReturns
  split <;> rfl

theorem future_completionReturns (system : System T R E) (returned : Except E R) :
    system.completionReturns.future ≠ .inside returned := by
  unfold completionReturns
  split
  · exact nofun
  · next notInside => exact notInside returned

/-- No call is held up: after its remaining steps neither thread is in one. -/
theorem idle_remaining (runtimeError : String → E) (system : System T R E) :
    (remaining.foldl (System.step runtimeError) system).promise = .idle ∧
      ∀ returned, (remaining.foldl (System.step runtimeError) system).future ≠
        .inside returned := by
  refine ⟨?_, future_completionReturns _⟩
  show System.promise (System.completionReturns _) = _
  rw [promise_completionReturns]
  rcases system with ⟨⟨set, captured, value, continuation⟩, result, promise, destroyed, future, _⟩
  cases promise with
  | continuing => cases continuation <;> rfl
  | idle | inside _ | clearing | notifying => rfl

/-- A promise and its future keep what they promise throughout a run exactly if no step of it meets
an exception where only the flag for a value is tested. -/
theorem keeps_promise_iff [Inhabited T] [Inhabited R] (runtimeError : String → E)
    (ops : List (Op T R E)) :
    (∀ done, done <+: ops →
      (done.foldl (System.step runtimeError) (System.new : System T R E)).KeepsPromise) ↔
      Transition.AllowedAlong (System.step runtimeError) TestsBoth System.new ops :=
  Transition.forall_prefix_iff_of_invariant Sound.new
    (fun _ op _ sound testsBoth => sound.step op testsBoth)
    (fun _ sound => sound.keepsPromise)
    (fun _ op _ sound keeps => sound.testsBoth_of_keepsPromise op keeps)

/-- An exception is set and its thread is done before `then`: the continuation that is stored then
is never called. -/
theorem then_after_exception_is_not_called :
    ¬ ∀ (runtimeError : String → String) (ops : List (Op Nat Nat String)),
      (ops.foldl (System.step runtimeError) System.new).KeepsPromise := by
  intro always
  have broken := always id
    [.setException "failed", .callContinuation, .clearContinuation, .notifyAll, .andThen id]
  exact (broken.delivered rfl rfl rfl ⟨nofun, fun _ => nofun⟩).1 rfl

end System

end Mir.Client.NoTLSFuture

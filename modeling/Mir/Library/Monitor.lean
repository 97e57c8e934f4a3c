/-
This file is a small library of threads that share data under a mutex and of callbacks that one of
them, the loop, runs. Each source of callbacks has a context with a lock of its own, which the loop
holds while it runs the callback, and which is also locked to disable the source. A call locks the
mutex, changes the data, and may disable contexts before it lets go of the mutex and afterwards.
Callbacks make calls too. The mutex is not recursive; the lock of a context is.
-/

import Mathlib.Data.Fintype.Basic
import Mathlib.Logic.Function.Basic
import Mir.Library.Transition

/-- What a call makes of the data when it has locked the mutex, and the contexts that it disables
while it holds the mutex and afterwards. -/
structure Entry (Data Context : Type) where
  data : Data
  inside : List Context
  outside : List Context

/-- The calls on some data. `leave` is what a call changes before it unlocks the mutex, `offers`
says which calls a thread may make by itself, `ready` whether the loop may dispatch a source and
`script` which calls its callback may make one after another. `take` is what the dispatch of a
source changes, and `start` what the start of a callback does without the mutex. -/
structure Monitor (Data Call Context : Type) where
  enter : Data → Call → Entry Data Context
  leave : Data → Call → Data
  offers : Call → Bool
  ready : Data → Context → Bool
  script : Data → Context → List Call → Bool
  take : Data → Context → Data
  start : Data → Context → Data

namespace Monitor

inductive Lock (Context : Type)
  | mutex
  | context (context : Context)

/-- Where a thread stands. It is about to lock the context of a source that it dispatches, or it has
contexts to disable, or it has locked a context to disable it; `call` is the call for which it holds
the mutex, and `later` are the contexts for when it has let go of it. -/
inductive Stage (Call Context : Type)
  | resting
  | dispatching (context : Context)
  | clearing (call : Option Call) (contexts later : List Context)
  | disabling (call : Option Call) (context : Context) (contexts later : List Context)
  deriving DecidableEq

namespace Stage

variable {Call Context : Type}

def holdsMutex : Stage Call Context → Bool
  | clearing (some _) _ _ | disabling (some _) _ _ _ => true
  | _ => false

/-- The context that it has locked to disable it. -/
def locked : Stage Call Context → Option Context
  | disabling _ context _ _ => some context
  | _ => none

/-- The context that it is about to lock. -/
def wanted : Stage Call Context → Option Context
  | dispatching context => some context
  | clearing _ (context :: _) _ => some context
  | _ => none

def dispatched : Stage Call Context → Option Context
  | dispatching context => some context
  | _ => none

/-- The contexts that it is still to lock while it holds the mutex. -/
def remaining : Stage Call Context → List Context
  | clearing (some _) contexts _ | disabling (some _) _ contexts _ => contexts
  | _ => []

/-- Without the mutex, there being contexts to disable or not. -/
def outside : List Context → Stage Call Context
  | [] => resting
  | context :: contexts => clearing none (context :: contexts) []

/-- After a context was disabled. -/
def next : Option Call → List Context → List Context → Stage Call Context
  | some call, contexts, later => clearing (some call) contexts later
  | none, contexts, _ => outside contexts

end Stage

/-- `running` is the context of the callback that the loop runs, and `calls` are the calls that a
thread has still to make. -/
structure State (Thread Data Call Context : Type) where
  data : Data
  disabled : List Context
  running : Option Context
  calls : Thread → List Call
  stage : Thread → Stage Call Context

inductive Move (Thread Call Context : Type)
  | call (thread : Thread) (call : Call)
  | dispatch (context : Context) (script : List Call)
  | lockSource
  | lock (thread : Thread)
  | lockContext (thread : Thread)
  | unlockContext (thread : Thread)
  | unlock (thread : Thread)
  | endCallback
  deriving DecidableEq

section Threads

variable {Thread Data Call Context : Type} (loop : Thread)
  (state : State Thread Data Call Context) (thread : Thread)

def initial (data : Data) : State Thread Data Call Context :=
  ⟨data, [], none, fun _ => [], fun _ => .resting⟩

/-! ### Who holds and who wants a lock -/

def Holds : Lock Context → Prop
  | .mutex => (state.stage thread).holdsMutex = true
  | .context context =>
    (thread = loop ∧ state.running = some context) ∨ (state.stage thread).locked = some context

/-- The next that the thread does is to lock it. -/
def Wants : Lock Context → Prop
  | .mutex => state.stage thread = .resting ∧ state.calls thread ≠ []
  | .context context => (state.stage thread).wanted = some context

def FreeFor (lock : Lock Context) : Prop :=
  ∀ other, other ≠ thread → ¬ Holds loop state other lock

/-- Two threads each want a lock that the other holds. -/
def Crossed : Prop :=
  ∃ first second, first ≠ second ∧
    (∃ lock, Wants state first lock ∧ Holds loop state second lock) ∧
    ∃ lock, Wants state second lock ∧ Holds loop state first lock

/-- The thread does nothing at the moment and runs no callback. -/
def Idle : Prop :=
  state.stage thread = .resting ∧ state.calls thread = [] ∧ (thread = loop → state.running = none)

instance : (stage : Stage Call Context) → Decidable (stage = .resting)
  | .resting => .isTrue rfl
  | .dispatching _ | .clearing _ _ _ | .disabling _ _ _ _ => .isFalse nofun

variable [DecidableEq Thread]

instance : Decidable (Idle loop state thread) :=
  inferInstanceAs (Decidable (_ ∧ _ ∧ (_ → _)))

instance [DecidableEq Context] :
    (lock : Lock Context) → Decidable (Holds loop state thread lock)
  | .mutex => inferInstanceAs (Decidable (_ = true))
  | .context _ => inferInstanceAs (Decidable (_ ∨ _))

instance [Fintype Thread] [DecidableEq Context] (lock : Lock Context) :
    Decidable (FreeFor loop state thread lock) :=
  inferInstanceAs (Decidable (∀ other, other ≠ thread → ¬ Holds loop state other lock))

/-- The thread stands elsewhere. -/
def State.goes (stage : Stage Call Context) : State Thread Data Call Context :=
  { state with stage := Function.update state.stage thread stage }

def State.plans (calls : List Call) : State Thread Data Call Context :=
  { state with calls := Function.update state.calls thread calls }

end Threads

section Moves

variable {Thread Data Call Context : Type} [DecidableEq Thread] [Fintype Thread]
  [DecidableEq Context] (monitor : Monitor Data Call Context) (loop : Thread)
  (state : State Thread Data Call Context)

/-! ### The moves of the threads -/

def call (thread : Thread) (call : Call) : State Thread Data Call Context :=
  if monitor.offers call = true ∧ Idle loop state thread then state.plans thread [call] else state

def dispatch (context : Context) (script : List Call) : State Thread Data Call Context :=
  if Idle loop state loop ∧ monitor.ready state.data context = true ∧
      monitor.script state.data context script = true then
    { (state.plans loop script).goes loop (.dispatching context) with
      data := monitor.take state.data context }
  else state

/-- The callback of a source that was disabled is not run. -/
def lockSource : State Thread Data Call Context :=
  match state.stage loop with
  | .dispatching context =>
    if FreeFor loop state loop (.context context) then
      if context ∈ state.disabled then (state.plans loop []).goes loop .resting
      else
        { state.goes loop .resting with
          data := monitor.start state.data context
          running := some context }
    else state
  | _ => state

def lock (thread : Thread) : State Thread Data Call Context :=
  match state.stage thread, state.calls thread with
  | .resting, call :: calls =>
    if FreeFor loop state thread .mutex then
      let entry := monitor.enter state.data call
      { (state.plans thread calls).goes thread
          (.clearing (some call) entry.inside entry.outside) with
        data := entry.data }
    else state
  | _, _ => state

def lockContext (thread : Thread) : State Thread Data Call Context :=
  match state.stage thread with
  | .clearing call (context :: contexts) later =>
    if FreeFor loop state thread (.context context) then
      state.goes thread (.disabling call context contexts later)
    else state
  | _ => state

def unlockContext (thread : Thread) : State Thread Data Call Context :=
  match state.stage thread with
  | .disabling call context contexts later =>
    { state.goes thread (.next call contexts later) with disabled := context :: state.disabled }
  | _ => state

def unlock (thread : Thread) : State Thread Data Call Context :=
  match state.stage thread with
  | .clearing (some call) [] later =>
    { state.goes thread (.outside later) with data := monitor.leave state.data call }
  | _ => state

def endCallback : State Thread Data Call Context :=
  if state.stage loop = .resting ∧ state.calls loop = [] then { state with running := none }
  else state

/-- A move that has to wait changes nothing. -/
def step : Move Thread Call Context → State Thread Data Call Context
  | .call thread call => monitor.call loop state thread call
  | .dispatch context script => monitor.dispatch loop state context script
  | .lockSource => monitor.lockSource loop state
  | .lock thread => monitor.lock loop state thread
  | .lockContext thread => lockContext loop state thread
  | .unlockContext thread => unlockContext state thread
  | .unlock thread => monitor.unlock state thread
  | .endCallback => endCallback loop state

/-! ### What a move does -/

/-- All that a move can do. -/
inductive Moved : Move Thread Call Context → State Thread Data Call Context → Prop
  | waits (move : Move Thread Call Context) : Moved move state
  | called (thread : Thread) (call : Call) (idle : Idle loop state thread) :
      Moved (.call thread call) (state.plans thread [call])
  | dispatched (context : Context) (script : List Call) (idle : Idle loop state loop) :
      Moved (.dispatch context script)
        { (state.plans loop script).goes loop (.dispatching context) with
          data := monitor.take state.data context }
  | skipped (context : Context) (stage : state.stage loop = .dispatching context) :
      Moved .lockSource ((state.plans loop []).goes loop .resting)
  | started (context : Context) (stage : state.stage loop = .dispatching context)
      (free : FreeFor loop state loop (.context context))
      (enabled : context ∉ state.disabled) :
      Moved .lockSource
        { state.goes loop .resting with
          data := monitor.start state.data context
          running := some context }
  | entered (thread : Thread) (call : Call) (calls : List Call)
      (stage : state.stage thread = .resting) (next : state.calls thread = call :: calls)
      (free : FreeFor loop state thread .mutex) :
      Moved (.lock thread)
        { (state.plans thread calls).goes thread (.clearing (some call)
            (monitor.enter state.data call).inside (monitor.enter state.data call).outside) with
          data := (monitor.enter state.data call).data }
  | locked (thread : Thread) (call : Option Call) (context : Context)
      (contexts later : List Context)
      (stage : state.stage thread = .clearing call (context :: contexts) later)
      (free : FreeFor loop state thread (.context context)) :
      Moved (.lockContext thread) (state.goes thread (.disabling call context contexts later))
  | unlocked (thread : Thread) (call : Option Call) (context : Context)
      (contexts later : List Context)
      (stage : state.stage thread = .disabling call context contexts later) :
      Moved (.unlockContext thread)
        { state.goes thread (.next call contexts later) with
          disabled := context :: state.disabled }
  | left (thread : Thread) (call : Call) (later : List Context)
      (stage : state.stage thread = .clearing (some call) [] later) :
      Moved (.unlock thread)
        { state.goes thread (.outside later) with data := monitor.leave state.data call }
  | ended (stage : state.stage loop = .resting) (calls : state.calls loop = []) :
      Moved .endCallback { state with running := none }

theorem step_cases (move : Move Thread Call Context) :
    monitor.Moved loop state move (monitor.step loop state move) := by
  cases move with
  | call thread call =>
    dsimp only [step, Monitor.call]
    split_ifs with can
    · exact .called thread call can.2
    · exact .waits _
  | dispatch context script =>
    dsimp only [step, dispatch]
    split_ifs with can
    · exact .dispatched context script can.1
    · exact .waits _
  | lockSource =>
    dsimp only [step, lockSource]
    split
    next context stage =>
      split_ifs with free isDisabled
      · exact .skipped context stage
      · exact .started context stage free isDisabled
      · exact .waits _
    next => exact .waits _
  | lock thread =>
    dsimp only [step, lock]
    split
    next call calls stage next =>
      split_ifs with free
      · exact .entered thread call calls stage next free
      · exact .waits _
    next => exact .waits _
  | lockContext thread =>
    dsimp only [step, lockContext]
    split
    next call context contexts later stage =>
      split_ifs with free
      · exact .locked thread call context contexts later stage free
      · exact .waits _
    next => exact .waits _
  | unlockContext thread =>
    dsimp only [step, unlockContext]
    split
    next call context contexts later stage =>
      exact .unlocked thread call context contexts later stage
    next => exact .waits _
  | unlock thread =>
    dsimp only [step, unlock]
    split
    next call later stage => exact .left thread call later stage
    next => exact .waits _
  | endCallback =>
    dsimp only [step, endCallback]
    split_ifs with can
    · exact .ended can.1 can.2
    · exact .waits _

end Moves

end Monitor

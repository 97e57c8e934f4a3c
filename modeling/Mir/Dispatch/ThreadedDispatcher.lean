/-
This file embeds the shutdown of a threaded dispatcher. Its threads poll one set of sources: the
exiter, a counting semaphore that one thread at a time dispatches, and the dispatchee that they are
for. A thread that reads a token from the semaphore clears its running flag and leaves its loop; an
exception makes it leave without. Each section that a mutex protects, each read or write of the
semaphore, and each arming of the exiter is one step.
-/

import Mathlib.Data.List.Nodup
import Mathlib.Order.Nat
import Mathlib.Tactic.SplitIfs
import Mir.Library.History
import Mir.Library.OrderedMap
import Mir.Library.Transition

namespace Mir.Dispatch

abbrev ThreadID := Nat

/-- Where a thread is. One that is registering holds the mutex of the running flags until it has
written its token; a thread dispatches the exiter from the time it is told of it until it has armed
it again; and one that leaves or is unregistering does so with the value of its running flag. -/
inductive ThreadPhase
  | started
  | registering
  | polling
  | handling
  | reading
  | consumed
  | flagged
  | leaving (running : Bool)
  | unregistering (running : Bool)
  | exited
  deriving DecidableEq, Repr

inductive DispatcherEvent
  | tokenRead (thread : ThreadID)
  | flagCleared (found : Bool)
  | unregistered (found : Bool)
  deriving DecidableEq, Repr

/-- `tokens` is the value of the semaphore, `threadCount` the number that is still to be written
to it for the shutdown, `runningFlags` the threads that have a flag, `registering` and `exiting`
the threads that hold the mutex of the flags and dispatch the exiter; `threads` counts the threads
made, and `history` is what happened, in its order. -/
structure ThreadedDispatcher where
  tokens : Nat
  shuttingDown : Bool
  threadCount : Option Nat
  threads : Nat
  phases : OrderedMap ThreadID ThreadPhase
  runningFlags : List ThreadID
  registering : Option ThreadID
  exiting : Option ThreadID
  terminatingThreads : List ThreadID
  killedThreads : List ThreadID
  threadpool : List ThreadID
  history : List DispatcherEvent

inductive DispatcherOp
  | addThread
  | register (thread : ThreadID)
  | writeOwn (thread : ThreadID)
  | handle (thread : ThreadID)
  | returns (thread : ThreadID)
  | throws (thread : ThreadID)
  | exit (thread : ThreadID)
  | read (thread : ThreadID)
  | clearFlag (thread : ThreadID)
  | rearm (thread : ThreadID)
  | pushID (thread : ThreadID)
  | eraseFlag (thread : ThreadID)
  | terminateOneThread
  | takeTerminated
  | joinKilled (thread : ThreadID)
  | terminateAllThreads
  | writeAll
  deriving DecidableEq, Repr

namespace ThreadedDispatcher

/-- The constructor starts the first thread. -/
def initial : ThreadedDispatcher :=
  ⟨0, false, none, 1, .set .empty 0 .started, [], none, none, [], [], [0], []⟩

variable (dispatcher : ThreadedDispatcher)

def setPhase (thread : ThreadID) (phase : ThreadPhase) : ThreadedDispatcher :=
  { dispatcher with phases := dispatcher.phases.set thread phase }

def is (thread : ThreadID) (phase : ThreadPhase) : Bool :=
  decide (dispatcher.phases.find thread = some phase)

/-! ### The steps of a thread -/

/-- A thread that registers after the shutdown has begun writes a token itself. -/
def register (thread : ThreadID) : ThreadedDispatcher :=
  if dispatcher.is thread .started ∧ dispatcher.registering = none then
    let registered := { dispatcher with runningFlags := dispatcher.runningFlags ++ [thread] }
    if dispatcher.shuttingDown then
      { registered.setPhase thread .registering with registering := some thread }
    else registered.setPhase thread .polling
  else dispatcher

def writeOwn (thread : ThreadID) : ThreadedDispatcher :=
  if dispatcher.is thread .registering then
    { dispatcher.setPhase thread .polling with
      tokens := dispatcher.tokens + 1
      registering := none }
  else dispatcher

/-- A thread goes from one phase to another. -/
def move (thread : ThreadID) (before after : ThreadPhase) : ThreadedDispatcher :=
  if dispatcher.is thread before then dispatcher.setPhase thread after else dispatcher

def handle (thread : ThreadID) : ThreadedDispatcher := dispatcher.move thread .polling .handling

def returns (thread : ThreadID) : ThreadedDispatcher := dispatcher.move thread .handling .polling

/-- Polling or a handler throws, and the exception handler returns. -/
def throws (thread : ThreadID) : ThreadedDispatcher :=
  if dispatcher.is thread .polling ∨ dispatcher.is thread .handling then
    dispatcher.setPhase thread (.leaving true)
  else dispatcher

/-- The exiter is readable and armed: one thread is told, and the exiter is not armed any more. -/
def exit (thread : ThreadID) : ThreadedDispatcher :=
  if dispatcher.is thread .polling ∧ dispatcher.exiting = none ∧ 0 < dispatcher.tokens then
    { dispatcher.setPhase thread .reading with exiting := some thread }
  else dispatcher

/-- Without a token the read blocks. -/
def read (thread : ThreadID) : ThreadedDispatcher :=
  if dispatcher.is thread .reading ∧ 0 < dispatcher.tokens then
    { dispatcher.setPhase thread .consumed with
      tokens := dispatcher.tokens - 1
      history := dispatcher.history ++ [.tokenRead thread] }
  else dispatcher

/-- A thread that has no flag would leave through the exception, with the exiter not armed. -/
def clearFlag (thread : ThreadID) : ThreadedDispatcher :=
  if dispatcher.is thread .consumed ∧ dispatcher.registering = none then
    if thread ∈ dispatcher.runningFlags then
      { dispatcher.setPhase thread .flagged with
        history := dispatcher.history ++ [.flagCleared true] }
    else
      { dispatcher.setPhase thread (.leaving true) with
        history := dispatcher.history ++ [.flagCleared false] }
  else dispatcher

def rearm (thread : ThreadID) : ThreadedDispatcher :=
  if dispatcher.is thread .flagged then
    { dispatcher.setPhase thread (.leaving false) with exiting := none }
  else dispatcher

def pushID (thread : ThreadID) : ThreadedDispatcher :=
  match dispatcher.phases.find thread with
  | some (.leaving running) =>
    { dispatcher.setPhase thread (.unregistering running) with
      terminatingThreads := dispatcher.terminatingThreads ++ [thread] }
  | _ => dispatcher

def eraseFlag (thread : ThreadID) : ThreadedDispatcher :=
  match dispatcher.phases.find thread, dispatcher.registering with
  | some (.unregistering _), none =>
    { dispatcher.setPhase thread .exited with
      runningFlags := dispatcher.runningFlags.erase thread
      history := dispatcher.history ++
        [.unregistered (decide (thread ∈ dispatcher.runningFlags))] }
  | _, _ => dispatcher

/-! ### The steps of the owner -/

/-- The destructor holds the mutex of the pool from before the shutdown begins. -/
def addThread : ThreadedDispatcher :=
  if dispatcher.shuttingDown then dispatcher
  else
    { dispatcher.setPhase dispatcher.threads .started with
      threads := dispatcher.threads + 1
      threadpool := dispatcher.threadpool ++ [dispatcher.threads] }

def terminateOneThread : ThreadedDispatcher := { dispatcher with tokens := dispatcher.tokens + 1 }

/-- `remove_thread` waits until some thread terminates. -/
def takeTerminated : ThreadedDispatcher :=
  match dispatcher.terminatingThreads.getLast? with
  | some killed =>
    { dispatcher with
      terminatingThreads := dispatcher.terminatingThreads.dropLast
      killedThreads := killed :: dispatcher.killedThreads }
  | none => dispatcher

/-- The join returns once the thread has exited. -/
def joinKilled (thread : ThreadID) : ThreadedDispatcher :=
  if thread ∈ dispatcher.killedThreads ∧ dispatcher.is thread .exited ∧
      dispatcher.shuttingDown = false then
    { dispatcher with
      killedThreads := dispatcher.killedThreads.erase thread
      threadpool := dispatcher.threadpool.erase thread }
  else dispatcher

/-- The destructor counts the flags. -/
def terminateAllThreads : ThreadedDispatcher :=
  if dispatcher.registering = none ∧ dispatcher.shuttingDown = false then
    { dispatcher with
      shuttingDown := true
      threadCount := some dispatcher.runningFlags.length }
  else dispatcher

def writeAll : ThreadedDispatcher :=
  match dispatcher.threadCount with
  | some count => { dispatcher with tokens := dispatcher.tokens + count, threadCount := none }
  | none => dispatcher

/-- A step that has to wait changes nothing. -/
def step (dispatcher : ThreadedDispatcher) : DispatcherOp → ThreadedDispatcher
  | .addThread => dispatcher.addThread
  | .register thread => dispatcher.register thread
  | .writeOwn thread => dispatcher.writeOwn thread
  | .handle thread => dispatcher.handle thread
  | .returns thread => dispatcher.returns thread
  | .throws thread => dispatcher.throws thread
  | .exit thread => dispatcher.exit thread
  | .read thread => dispatcher.read thread
  | .clearFlag thread => dispatcher.clearFlag thread
  | .rearm thread => dispatcher.rearm thread
  | .pushID thread => dispatcher.pushID thread
  | .eraseFlag thread => dispatcher.eraseFlag thread
  | .terminateOneThread => dispatcher.terminateOneThread
  | .takeTerminated => dispatcher.takeTerminated
  | .joinKilled thread => dispatcher.joinKilled thread
  | .terminateAllThreads => dispatcher.terminateAllThreads
  | .writeAll => dispatcher.writeAll

def after (ops : List DispatcherOp) : ThreadedDispatcher := ops.foldl step initial

end ThreadedDispatcher

/-! ### What a step does -/

/-- All that a step can do. -/
inductive DispatcherStep (dispatcher : ThreadedDispatcher) :
    DispatcherOp → ThreadedDispatcher → Prop
  | waits (op : DispatcherOp) : DispatcherStep dispatcher op dispatcher
  | adds (running : dispatcher.shuttingDown = false) :
      DispatcherStep dispatcher .addThread
        { dispatcher with
          phases := dispatcher.phases.set dispatcher.threads .started
          threads := dispatcher.threads + 1
          threadpool := dispatcher.threadpool ++ [dispatcher.threads] }
  | registers (thread : ThreadID) (known : dispatcher.phases.find thread = some .started)
      (free : dispatcher.registering = none) (running : dispatcher.shuttingDown = false) :
      DispatcherStep dispatcher (.register thread)
        { dispatcher with
          runningFlags := dispatcher.runningFlags ++ [thread]
          phases := dispatcher.phases.set thread .polling }
  | registersLate (thread : ThreadID) (known : dispatcher.phases.find thread = some .started)
      (free : dispatcher.registering = none) (late : dispatcher.shuttingDown = true) :
      DispatcherStep dispatcher (.register thread)
        { dispatcher with
          runningFlags := dispatcher.runningFlags ++ [thread]
          phases := dispatcher.phases.set thread .registering
          registering := some thread }
  | writesOwn (thread : ThreadID) (known : dispatcher.phases.find thread = some .registering) :
      DispatcherStep dispatcher (.writeOwn thread)
        { dispatcher with
          phases := dispatcher.phases.set thread .polling
          tokens := dispatcher.tokens + 1
          registering := none }
  | handles (thread : ThreadID) (known : dispatcher.phases.find thread = some .polling) :
      DispatcherStep dispatcher (.handle thread)
        { dispatcher with phases := dispatcher.phases.set thread .handling }
  | returns (thread : ThreadID) (known : dispatcher.phases.find thread = some .handling) :
      DispatcherStep dispatcher (.returns thread)
        { dispatcher with phases := dispatcher.phases.set thread .polling }
  | throws (thread : ThreadID) (phase : ThreadPhase)
      (known : dispatcher.phases.find thread = some phase)
      (inLoop : phase = .polling ∨ phase = .handling) :
      DispatcherStep dispatcher (.throws thread)
        { dispatcher with phases := dispatcher.phases.set thread (.leaving true) }
  | exits (thread : ThreadID) (known : dispatcher.phases.find thread = some .polling)
      (armed : dispatcher.exiting = none) (readable : 0 < dispatcher.tokens) :
      DispatcherStep dispatcher (.exit thread)
        { dispatcher with
          phases := dispatcher.phases.set thread .reading
          exiting := some thread }
  | reads (thread : ThreadID) (known : dispatcher.phases.find thread = some .reading)
      (readable : 0 < dispatcher.tokens) :
      DispatcherStep dispatcher (.read thread)
        { dispatcher with
          phases := dispatcher.phases.set thread .consumed
          tokens := dispatcher.tokens - 1
          history := dispatcher.history ++ [.tokenRead thread] }
  | clears (thread : ThreadID) (known : dispatcher.phases.find thread = some .consumed)
      (free : dispatcher.registering = none) (found : thread ∈ dispatcher.runningFlags) :
      DispatcherStep dispatcher (.clearFlag thread)
        { dispatcher with
          phases := dispatcher.phases.set thread .flagged
          history := dispatcher.history ++ [.flagCleared true] }
  | misses (thread : ThreadID) (known : dispatcher.phases.find thread = some .consumed)
      (missing : thread ∉ dispatcher.runningFlags) :
      DispatcherStep dispatcher (.clearFlag thread)
        { dispatcher with
          phases := dispatcher.phases.set thread (.leaving true)
          history := dispatcher.history ++ [.flagCleared false] }
  | rearms (thread : ThreadID) (known : dispatcher.phases.find thread = some .flagged) :
      DispatcherStep dispatcher (.rearm thread)
        { dispatcher with
          phases := dispatcher.phases.set thread (.leaving false)
          exiting := none }
  | pushes (thread : ThreadID) (running : Bool)
      (known : dispatcher.phases.find thread = some (.leaving running)) :
      DispatcherStep dispatcher (.pushID thread)
        { dispatcher with
          phases := dispatcher.phases.set thread (.unregistering running)
          terminatingThreads := dispatcher.terminatingThreads ++ [thread] }
  | erases (thread : ThreadID) (running : Bool)
      (known : dispatcher.phases.find thread = some (.unregistering running))
      (free : dispatcher.registering = none) :
      DispatcherStep dispatcher (.eraseFlag thread)
        { dispatcher with
          phases := dispatcher.phases.set thread .exited
          runningFlags := dispatcher.runningFlags.erase thread
          history := dispatcher.history ++
            [.unregistered (decide (thread ∈ dispatcher.runningFlags))] }
  | terminatesOne :
      DispatcherStep dispatcher .terminateOneThread
        { dispatcher with tokens := dispatcher.tokens + 1 }
  | takes (killed : ThreadID) (last : dispatcher.terminatingThreads.getLast? = some killed) :
      DispatcherStep dispatcher .takeTerminated
        { dispatcher with
          terminatingThreads := dispatcher.terminatingThreads.dropLast
          killedThreads := killed :: dispatcher.killedThreads }
  | joins (thread : ThreadID) :
      DispatcherStep dispatcher (.joinKilled thread)
        { dispatcher with
          killedThreads := dispatcher.killedThreads.erase thread
          threadpool := dispatcher.threadpool.erase thread }
  | terminatesAll (free : dispatcher.registering = none)
      (running : dispatcher.shuttingDown = false) :
      DispatcherStep dispatcher .terminateAllThreads
        { dispatcher with
          shuttingDown := true
          threadCount := some dispatcher.runningFlags.length }
  | writesAll (count : Nat) (pending : dispatcher.threadCount = some count) :
      DispatcherStep dispatcher .writeAll
        { dispatcher with tokens := dispatcher.tokens + count, threadCount := none }

namespace ThreadedDispatcher

theorem step_cases (dispatcher : ThreadedDispatcher) (op : DispatcherOp) :
    DispatcherStep dispatcher op (dispatcher.step op) := by
  cases op with
  | addThread =>
    dsimp only [step, addThread]
    split_ifs with late
    · exact .waits _
    · exact .adds (Bool.not_eq_true _ ▸ late)
  | register thread =>
    dsimp only [step, register]
    split_ifs with can late
    · exact .registersLate thread (of_decide_eq_true can.1) can.2 late
    · exact .registers thread (of_decide_eq_true can.1) can.2 (Bool.not_eq_true _ ▸ late)
    · exact .waits _
  | writeOwn thread =>
    dsimp only [step, writeOwn]
    split_ifs with can
    · exact .writesOwn thread (of_decide_eq_true can)
    · exact .waits _
  | handle thread =>
    dsimp only [step, handle, move]
    split_ifs with can
    · exact .handles thread (of_decide_eq_true can)
    · exact .waits _
  | returns thread =>
    dsimp only [step, returns, move]
    split_ifs with can
    · exact .returns thread (of_decide_eq_true can)
    · exact .waits _
  | throws thread =>
    dsimp only [step, throws]
    split_ifs with can
    · rcases can with can | can
      · exact .throws thread .polling (of_decide_eq_true can) (.inl rfl)
      · exact .throws thread .handling (of_decide_eq_true can) (.inr rfl)
    · exact .waits _
  | exit thread =>
    dsimp only [step, exit]
    split_ifs with can
    · exact .exits thread (of_decide_eq_true can.1) can.2.1 can.2.2
    · exact .waits _
  | read thread =>
    dsimp only [step, read]
    split_ifs with can
    · exact .reads thread (of_decide_eq_true can.1) can.2
    · exact .waits _
  | clearFlag thread =>
    dsimp only [step, clearFlag]
    split_ifs with can found
    · exact .clears thread (of_decide_eq_true can.1) can.2 found
    · exact .misses thread (of_decide_eq_true can.1) found
    · exact .waits _
  | rearm thread =>
    dsimp only [step, rearm]
    split_ifs with can
    · exact .rearms thread (of_decide_eq_true can)
    · exact .waits _
  | pushID thread =>
    dsimp only [step, pushID]
    split
    next running known => exact .pushes thread running known
    next => exact .waits _
  | eraseFlag thread =>
    dsimp only [step, eraseFlag]
    split
    next running known free => exact .erases thread running known free
    next => exact .waits _
  | terminateOneThread => exact .terminatesOne
  | takeTerminated =>
    dsimp only [step, takeTerminated]
    split
    next killed last => exact .takes killed last
    next => exact .waits _
  | joinKilled thread =>
    dsimp only [step, joinKilled]
    split_ifs
    · exact .joins thread
    · exact .waits _
  | terminateAllThreads =>
    dsimp only [step, terminateAllThreads]
    split_ifs with can
    · exact .terminatesAll can.1 can.2
    · exact .waits _
  | writeAll =>
    dsimp only [step, writeAll]
    split
    next count pending => exact .writesAll count pending
    next => exact .waits _

end ThreadedDispatcher

end Mir.Dispatch

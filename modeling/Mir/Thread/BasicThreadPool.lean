/-
This file embeds the server's thread pool. A call of the pool holds the pool's mutex to its end, and
looks at the queues of the worker threads one after another; each look, like every section of a
worker that its own mutex protects, is one step, and the steps of the workers come in any order
between those of the call. A task stays at the front of its worker's queue while it is executed.
-/

import Mathlib.Data.List.Basic
import Mathlib.Logic.Function.Basic
import Mir.Library.History
import Mir.Library.Transition

namespace Mir.Thread

abbrev TaskID := Nat

/-- A submitted task, numbered in the order of submission, with the id it was given, if any. -/
structure Task where
  number : Nat
  id : Option TaskID
  deriving DecidableEq, Repr

/-- A worker waits for tasks, where `notified` says that it is to look at its queue (as it does when
its thread starts); it executes a task; or the task has returned. -/
inductive WorkerPhase
  | waiting (notified : Bool)
  | executing (task : Task)
  | executed (task : Task)
  deriving DecidableEq, Repr

structure WorkerThread where
  tasks : List Task
  phase : WorkerPhase
  currentID : Option TaskID
  deriving DecidableEq, Repr

/-- Where a call of the pool is: it looks for an idle thread from a place on; it has chosen the
thread for its task; or it shrinks the pool, which had so many threads, by so many at most. -/
inductive PoolCall
  | looking (id : Option TaskID) (place : Nat)
  | queueing (thread : Nat) (id : Option TaskID)
  | shrinking (place : Nat) (maxThreadsToRemove : Int) (before : Nat)
  deriving DecidableEq, Repr

inductive PoolEvent
  | submitted (task : Task)
  | started (task : Task)
  | ran (task : Task)
  | ready (task : Task)
  | removed (tasks : List Task)
  | shrunk (before after : Nat)
  deriving DecidableEq, Repr

/-- `threads` are the numbers of the threads in the pool, `created` counts the threads made and
`submitted` the tasks; `history` is what happened, in its order. -/
structure BasicThreadPool where
  minThreads : Int
  threads : List Nat
  worker : Nat → WorkerThread
  created : Nat
  submitted : Nat
  call : Option PoolCall
  history : List PoolEvent

inductive PoolOp
  | run
  | runWith (id : Option TaskID)
  | look
  | queue
  | shrink
  | lookToRemove
  | wake (thread : Nat)
  | execute (thread : Nat)
  | finish (thread : Nat)
  deriving DecidableEq, Repr

/-! ### A worker -/

namespace WorkerThread

/-- A task that is queued notifies a worker that waits. -/
def queueTask (worker : WorkerThread) (task : Task) : WorkerThread :=
  { tasks := worker.tasks ++ [task]
    phase :=
      match worker.phase with
      | .waiting _ => .waiting true
      | phase => phase
    currentID := task.id }

def isIdle (worker : WorkerThread) : Bool := worker.tasks.isEmpty

/-- The worker takes the task at the front, or waits. -/
def next (worker : WorkerThread) : WorkerThread × List PoolEvent :=
  match worker.tasks with
  | [] => ({ worker with phase := .waiting false }, [])
  | task :: _ => ({ worker with phase := .executing task }, [.started task])

/-- The task at the front is taken off and its future made ready. -/
def popTask (worker : WorkerThread) : WorkerThread := { worker with tasks := worker.tasks.tail }

end WorkerThread

namespace BasicThreadPool

def initial (minThreads : Int) : BasicThreadPool :=
  ⟨minThreads, [], fun _ => ⟨[], .waiting true, none⟩, 0, 0, none, []⟩

variable (pool : BasicThreadPool)

def setWorker (thread : Nat) (worker : WorkerThread) (events : List PoolEvent) :
    BasicThreadPool :=
  { pool with
    worker := Function.update pool.worker thread worker
    history := pool.history ++ events }

/-! ### The calls of the pool -/

def findThreadBy (id : Option TaskID) : Option Nat :=
  pool.threads.find? fun thread => (pool.worker thread).currentID = id

def run : BasicThreadPool :=
  match pool.call with
  | none => { pool with call := some (.looking none 0) }
  | some _ => pool

/-- The id may be null, and then the thread found is one whose id is null. -/
def runWith (id : Option TaskID) : BasicThreadPool :=
  match pool.call, pool.findThreadBy id with
  | none, some thread => { pool with call := some (.queueing thread id) }
  | none, none => { pool with call := some (.looking id 0) }
  | some _, _ => pool

/-- One turn of `find_idle_thread`; after the last thread a new one is made. -/
def look : BasicThreadPool :=
  match pool.call with
  | some (.looking id place) =>
    match pool.threads[place]? with
    | some thread =>
      if (pool.worker thread).isIdle then { pool with call := some (.queueing thread id) }
      else { pool with call := some (.looking id (place + 1)) }
    | none =>
      { pool with
        threads := pool.threads ++ [pool.created]
        worker := Function.update pool.worker pool.created ⟨[], .waiting true, id⟩
        created := pool.created + 1
        call := some (.queueing pool.created id) }
  | _ => pool

def queue : BasicThreadPool :=
  match pool.call with
  | some (.queueing thread id) =>
    { pool with
      worker := Function.update pool.worker thread
        ((pool.worker thread).queueTask ⟨pool.submitted, id⟩)
      submitted := pool.submitted + 1
      call := none
      history := pool.history ++ [.submitted ⟨pool.submitted, id⟩] }
  | _ => pool

def shrink : BasicThreadPool :=
  match pool.call with
  | none =>
    { pool with
      call := some (.shrinking 0 (pool.threads.length - pool.minThreads) pool.threads.length) }
  | some _ => pool

/-- One turn of the loop that removes threads; a removed thread is told to exit and joined. -/
def lookToRemove : BasicThreadPool :=
  match pool.call with
  | some (.shrinking place maxThreadsToRemove before) =>
    match pool.threads[place]? with
    | some thread =>
      if (pool.worker thread).isIdle ∧ maxThreadsToRemove > 0 then
        { pool with
          threads := pool.threads.eraseIdx place
          call := some (.shrinking place (maxThreadsToRemove - 1) before)
          history := pool.history ++ [.removed (pool.worker thread).tasks] }
      else { pool with call := some (.shrinking (place + 1) maxThreadsToRemove before) }
    | none =>
      { pool with
        call := none
        history := pool.history ++ [.shrunk before pool.threads.length] }
  | _ => pool

/-! ### The steps of the workers -/

/-- A worker that waits looks at its queue, notified or not. -/
def wake (thread : Nat) : BasicThreadPool :=
  if thread ∈ pool.threads then
    match (pool.worker thread).phase with
    | .waiting _ =>
      pool.setWorker thread (pool.worker thread).next.1 (pool.worker thread).next.2
    | _ => pool
  else pool

def execute (thread : Nat) : BasicThreadPool :=
  if thread ∈ pool.threads then
    match (pool.worker thread).phase with
    | .executing task =>
      pool.setWorker thread { pool.worker thread with phase := .executed task } [.ran task]
    | _ => pool
  else pool

/-- The worker goes on to its next task in the same section. -/
def finish (thread : Nat) : BasicThreadPool :=
  if thread ∈ pool.threads then
    match (pool.worker thread).phase with
    | .executed task =>
      pool.setWorker thread (pool.worker thread).popTask.next.1
        (.ready task :: (pool.worker thread).popTask.next.2)
    | _ => pool
  else pool

/-- A step that is not possible changes nothing. -/
def step (pool : BasicThreadPool) : PoolOp → BasicThreadPool
  | .run => pool.run
  | .runWith id => pool.runWith id
  | .look => pool.look
  | .queue => pool.queue
  | .shrink => pool.shrink
  | .lookToRemove => pool.lookToRemove
  | .wake thread => pool.wake thread
  | .execute thread => pool.execute thread
  | .finish thread => pool.finish thread

/-- The pool after some steps. -/
def after (minThreads : Int) (ops : List PoolOp) : BasicThreadPool :=
  ops.foldl step (initial minThreads)

end BasicThreadPool

/-! ### What a pool promises -/

def PoolEvent.isSubmission : PoolEvent → Bool
  | submitted _ => true
  | _ => false

/-- Tasks are numbered as they are submitted. A task starts once, after those of its own id that
were submitted before it have run; its future becomes ready once it has run; only a thread without
tasks is removed; and so many threads stay. -/
def PoolEvent.Fits (minThreads : Int) (before : List PoolEvent) : PoolEvent → Prop
  | submitted task => task.number = before.countP isSubmission
  | started task =>
    .submitted task ∈ before ∧ .started task ∉ before ∧
      ∀ other, .submitted other ∈ before → other.number < task.number →
        other.id = task.id → task.id ≠ none → .ran other ∈ before
  | ran task => .started task ∈ before ∧ .ran task ∉ before
  | ready task => .ran task ∈ before ∧ .ready task ∉ before
  | removed tasks => tasks = []
  | shrunk threadsBefore threadsAfter => min (threadsBefore : Int) minThreads ≤ threadsAfter

end Mir.Thread

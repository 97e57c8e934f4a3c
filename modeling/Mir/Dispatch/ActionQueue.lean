/-
This file embeds the queue of actions that threads hand to the ones that dispatch it. The file
descriptor by which it is watched is a counting semaphore with a token for each action; a thread
takes a token first, without the lock, and then the action at the front of the queue. Each read and
write of the semaphore and each section that the lock protects is a step, and so is the end of an
action. An action may itself hand actions to the queue.

It proves that whatever steps the threads take, no thread finds the queue empty that has a token,
every action is taken once and in its order, and is run to its end by the thread that took it; and
that the threads that dispatch the queue can always run it dry.
-/

import Mir.Library.Crew
import Mir.Library.Transition

open scoped List

namespace Mir.Dispatch

/-- Where a thread is in `dispatch`: outside, with a token but not yet with an action, or in the
action. -/
inductive QueuePhase (Action : Type)
  | outside
  | consumed
  | running (action : Action)

/-- `pushing` says that the thread is in `enqueue`, holding the lock: it has put its action into the
queue, and not yet written its token. -/
structure QueueThread (Action : Type) where
  phase : QueuePhase Action
  pushing : Bool

namespace QueueThread

variable {Action : Type}

def isConsumed (thread : QueueThread Action) : Nat :=
  match thread.phase with
  | .consumed => 1
  | _ => 0

def isPushing (thread : QueueThread Action) : Nat := if thread.pushing then 1 else 0

def running (thread : QueueThread Action) : List Action :=
  match thread.phase with
  | .running action => [action]
  | _ => []

end QueueThread

/-- The queue, its threads, and what has been put into the queue, taken from it and brought to its
end. `frontOfEmpty` says that the front of an empty queue was asked for. -/
structure ActionQueue (Action : Type) where
  eventFd : Nat
  actions : List Action
  threads : List (QueueThread Action)
  enqueued : List Action
  taken : List Action
  finished : List Action
  frontOfEmpty : Bool

inductive QueueOp (Action : Type)
  | join
  | push (thread : Nat) (action : Action)
  | wake (thread : Nat)
  | consume (thread : Nat)
  | take (thread : Nat)
  | finish (thread : Nat)

namespace ActionQueue

variable {Action : Type}

def initial : ActionQueue Action := ⟨0, [], [], [], [], [], false⟩

variable (queue : ActionQueue Action)

/-- How many threads have read a token and not yet taken an action. -/
def consumers : Nat := Crew.total QueueThread.isConsumed queue.threads

/-- How many threads hold the lock across two steps. -/
def pushers : Nat := Crew.total QueueThread.isPushing queue.threads

/-- The actions that threads are in. -/
def running : List Action := queue.threads.flatMap QueueThread.running

def setThread (thread : Nat) (next : QueueThread Action) : ActionQueue Action :=
  { queue with threads := queue.threads.set thread next }

/-- A thread that does not dispatch the queue, or is in an action, puts one into the queue. -/
def push (thread : Nat) (action : Action) : ActionQueue Action :=
  match queue.threads[thread]? with
  | none => queue
  | some old =>
    if queue.pushers = 0 ∧ old.isConsumed = 0 then
      { queue.setThread thread { old with pushing := true } with
        actions := queue.actions ++ [action]
        enqueued := queue.enqueued ++ [action] }
    else queue

def wake (thread : Nat) : ActionQueue Action :=
  match queue.threads[thread]? with
  | none => queue
  | some old =>
    if old.pushing then
      { queue.setThread thread { old with pushing := false } with eventFd := queue.eventFd + 1 }
    else queue

/-- Without a token the read fails, and another thread has won the race. -/
def consume (thread : Nat) : ActionQueue Action :=
  match queue.threads[thread]? with
  | some ⟨.outside, false⟩ =>
    if 0 < queue.eventFd then
      { queue.setThread thread ⟨.consumed, false⟩ with eventFd := queue.eventFd - 1 }
    else queue
  | _ => queue

def take (thread : Nat) : ActionQueue Action :=
  match queue.threads[thread]? with
  | some ⟨.consumed, false⟩ =>
    if queue.pushers = 0 then
      match queue.actions with
      | [] => { queue with frontOfEmpty := true }
      | action :: actions =>
        { queue.setThread thread ⟨.running action, false⟩ with
          actions := actions
          taken := queue.taken ++ [action] }
    else queue
  | _ => queue

/-- The action returns or throws. -/
def finish (thread : Nat) : ActionQueue Action :=
  match queue.threads[thread]? with
  | some ⟨.running action, false⟩ =>
    { queue.setThread thread ⟨.outside, false⟩ with finished := queue.finished ++ [action] }
  | _ => queue

def step : QueueOp Action → ActionQueue Action
  | .join => { queue with threads := queue.threads ++ [⟨.outside, false⟩] }
  | .push thread action => queue.push thread action
  | .wake thread => queue.wake thread
  | .consume thread => queue.consume thread
  | .take thread => queue.take thread
  | .finish thread => queue.finish thread

/-! ### What holds between the steps -/

/-- There is a token for each action, unless a thread has it or is still to write it. -/
structure Kept : Prop where
  locked : queue.pushers ≤ 1
  tokens : queue.eventFd + queue.consumers + queue.pushers = queue.actions.length
  inOrder : queue.enqueued = queue.taken ++ queue.actions
  brought : (queue.finished ++ queue.running).Perm queue.taken
  front : queue.frontOfEmpty = false

variable {queue} {thread : Nat} {old : QueueThread Action}

theorem kept_initial : (initial : ActionQueue Action).Kept :=
  ⟨Nat.zero_le 1, rfl, rfl, .nil, rfl⟩

theorem consumers_set (isAt : queue.threads[thread]? = some old) (next : QueueThread Action) :
    (queue.setThread thread next).consumers + old.isConsumed =
      queue.consumers + next.isConsumed :=
  Crew.total_set QueueThread.isConsumed isAt next

theorem pushers_set (isAt : queue.threads[thread]? = some old) (next : QueueThread Action) :
    (queue.setThread thread next).pushers + old.isPushing = queue.pushers + next.isPushing :=
  Crew.total_set QueueThread.isPushing isAt next

theorem running_set (isAt : queue.threads[thread]? = some old) (next : QueueThread Action) :
    ((queue.setThread thread next).running ++ old.running).Perm
      (queue.running ++ next.running) :=
  Crew.flatMap_set QueueThread.running isAt next

/-- A thread that stays in its action, or outside, is in what it was in. -/
theorem running_set_same (isAt : queue.threads[thread]? = some old) (next : QueueThread Action)
    (same : next.running = old.running) :
    (queue.setThread thread next).running.Perm queue.running := by
  have perm := running_set isAt next
  rw [same] at perm
  exact (List.perm_append_right_iff _).mp perm

theorem Kept.join (kept : queue.Kept) : (queue.step .join).Kept := by
  obtain ⟨locked, tokens, inOrder, brought, front⟩ := kept
  have consumers : (queue.step .join).consumers = queue.consumers := by
    show Crew.total QueueThread.isConsumed (queue.threads ++ [⟨.outside, false⟩]) = _
    rw [Crew.total_append]
    rfl
  have pushers : (queue.step .join).pushers = queue.pushers := by
    show Crew.total QueueThread.isPushing (queue.threads ++ [⟨.outside, false⟩]) = _
    rw [Crew.total_append]
    rfl
  have running : (queue.step .join).running = queue.running :=
    List.flatMap_append.trans (List.append_nil _)
  refine ⟨pushers ▸ locked, ?_, inOrder, running ▸ brought, front⟩
  rw [consumers, pushers]
  exact tokens

theorem Kept.push (kept : queue.Kept) (thread : Nat) (action : Action) :
    (queue.push thread action).Kept := by
  unfold ActionQueue.push
  split
  · exact kept
  · rename_i old isAt
    split
    · rename_i isFree
      have isOld : old.isPushing ≤ queue.pushers := Crew.le_total QueueThread.isPushing isAt
      have consumers := consumers_set isAt { old with pushing := true }
      have pushers := pushers_set isAt { old with pushing := true }
      have pushes : QueueThread.isPushing { old with pushing := true } = 1 := rfl
      have waits : QueueThread.isConsumed { old with pushing := true } = old.isConsumed := rfl
      have tokens := kept.tokens
      refine ⟨?_, ?_, ?_, ?_, kept.front⟩
      · show (queue.setThread thread { old with pushing := true }).pushers ≤ 1
        omega
      · show queue.eventFd + (queue.setThread thread { old with pushing := true }).consumers +
          (queue.setThread thread { old with pushing := true }).pushers =
          (queue.actions ++ [action]).length
        rw [List.length_append, List.length_singleton]
        omega
      · show queue.enqueued ++ [action] = queue.taken ++ (queue.actions ++ [action])
        rw [kept.inOrder, List.append_assoc]
      · have running := running_set_same isAt { old with pushing := true } rfl
        exact (running.append_left _).trans kept.brought
    · exact kept

theorem Kept.wake (kept : queue.Kept) (thread : Nat) : (queue.wake thread).Kept := by
  unfold ActionQueue.wake
  split
  · exact kept
  · rename_i old isAt
    split
    · rename_i isPushing
      have consumers := consumers_set isAt { old with pushing := false }
      have pushers := pushers_set isAt { old with pushing := false }
      have pushes : old.isPushing = 1 := if_pos isPushing
      have rests : QueueThread.isPushing { old with pushing := false } = 0 := rfl
      have waits : QueueThread.isConsumed { old with pushing := false } = old.isConsumed := rfl
      have tokens := kept.tokens
      have locked := kept.locked
      refine ⟨?_, ?_, kept.inOrder, ?_, kept.front⟩
      · show (queue.setThread thread { old with pushing := false }).pushers ≤ 1
        omega
      · show queue.eventFd + 1 + (queue.setThread thread { old with pushing := false }).consumers +
          (queue.setThread thread { old with pushing := false }).pushers = queue.actions.length
        omega
      · have running := running_set_same isAt { old with pushing := false } rfl
        exact (running.append_left _).trans kept.brought
    · exact kept

theorem Kept.consume (kept : queue.Kept) (thread : Nat) : (queue.consume thread).Kept := by
  unfold ActionQueue.consume
  split
  · rename_i isAt
    split
    · rename_i readable
      have consumers : _ + 0 = _ + 1 := consumers_set isAt ⟨.consumed, false⟩
      have pushers : _ + 0 = _ + 0 := pushers_set isAt ⟨.consumed, false⟩
      have tokens := kept.tokens
      have locked := kept.locked
      refine ⟨?_, ?_, kept.inOrder, ?_, kept.front⟩
      · show (queue.setThread thread ⟨.consumed, false⟩).pushers ≤ 1
        omega
      · show queue.eventFd - 1 + (queue.setThread thread ⟨.consumed, false⟩).consumers +
          (queue.setThread thread ⟨.consumed, false⟩).pushers = queue.actions.length
        omega
      · exact ((running_set_same isAt ⟨.consumed, false⟩ rfl).append_left _).trans kept.brought
    · exact kept
  · exact kept

/-- A thread with a token finds an action at the front of the queue. -/
theorem Kept.take (kept : queue.Kept) (thread : Nat) : (queue.take thread).Kept := by
  unfold ActionQueue.take
  split
  · rename_i isAt
    split
    · rename_i isFree
      have tokens := kept.tokens
      have isConsumer : 1 ≤ queue.consumers := Crew.le_total QueueThread.isConsumed isAt
      split
      · rename_i isEmpty
        rw [isEmpty, List.length_nil] at tokens
        omega
      · rename_i action actions isFront
        have consumers : _ + 1 = _ + 0 := consumers_set isAt ⟨.running action, false⟩
        have pushers : _ + 0 = _ + 0 := pushers_set isAt ⟨.running action, false⟩
        have running := running_set isAt ⟨.running action, false⟩
        rw [isFront, List.length_cons] at tokens
        refine ⟨?_, ?_, ?_, ?_, kept.front⟩
        · show (queue.setThread thread ⟨.running action, false⟩).pushers ≤ 1
          omega
        · show queue.eventFd + (queue.setThread thread ⟨.running action, false⟩).consumers +
            (queue.setThread thread ⟨.running action, false⟩).pushers = actions.length
          omega
        · show queue.enqueued = queue.taken ++ [action] ++ actions
          rw [kept.inOrder, isFront, List.append_assoc]
          rfl
        · show (queue.finished ++ (queue.setThread thread ⟨.running action, false⟩).running).Perm
            (queue.taken ++ [action])
          have brought := kept.brought.append_right [action]
          rw [List.append_assoc] at brought
          rw [show QueueThread.running ⟨.consumed, false⟩ = ([] : List Action) from rfl,
            List.append_nil] at running
          exact (running.append_left _).trans brought
    · exact kept
  · exact kept

theorem Kept.finish (kept : queue.Kept) (thread : Nat) : (queue.finish thread).Kept := by
  unfold ActionQueue.finish
  split
  · rename_i action isAt
    have consumers : _ + 0 = _ + 0 := consumers_set isAt ⟨.outside, false⟩
    have pushers : _ + 0 = _ + 0 := pushers_set isAt ⟨.outside, false⟩
    have running := running_set isAt ⟨.outside, false⟩
    have tokens := kept.tokens
    have locked := kept.locked
    refine ⟨?_, ?_, kept.inOrder, ?_, kept.front⟩
    · show (queue.setThread thread ⟨.outside, false⟩).pushers ≤ 1
      omega
    · show queue.eventFd + (queue.setThread thread ⟨.outside, false⟩).consumers +
        (queue.setThread thread ⟨.outside, false⟩).pushers = queue.actions.length
      omega
    · show (queue.finished ++ [action] ++ (queue.setThread thread ⟨.outside, false⟩).running).Perm
        queue.taken
      rw [List.append_assoc]
      have same : (queue.setThread thread ⟨.outside, false⟩).running ++ [action] ~
          queue.running ++ [] := running
      rw [List.append_nil] at same
      exact ((List.perm_append_comm.trans same).append_left _).trans kept.brought
  · exact kept

theorem Kept.step (kept : queue.Kept) (op : QueueOp Action) : (queue.step op).Kept := by
  cases op with
  | join => exact kept.join
  | push thread action => exact kept.push thread action
  | wake thread => exact kept.wake thread
  | consume thread => exact kept.consume thread
  | take thread => exact kept.take thread
  | finish thread => exact kept.finish thread

theorem kept_run (ops : List (QueueOp Action)) : (ops.foldl step initial).Kept := by
  suffices keeps : ∀ queue : ActionQueue Action, queue.Kept → (ops.foldl step queue).Kept from
    keeps initial kept_initial
  intro queue kept
  induction ops generalizing queue with
  | nil => exact kept
  | cons op rest inductionHypothesis => exact inductionHypothesis _ (kept.step op)

/-! ### The queue can be run dry -/

/-- The steps by which threads finish what they have begun and dispatch the queue. -/
def Dispatches : QueueOp Action → Prop
  | .join => False
  | .push _ _ => False
  | _ => True

/-- How many steps a thread is away from having nothing to do but to wait for a lock. -/
def stepsLeft (thread : QueueThread Action) : Nat :=
  thread.isPushing +
    match thread.phase with
    | .outside => 1
    | .consumed => 0
    | .running _ => 2

def distance (queue : ActionQueue Action) : Nat :=
  4 * queue.actions.length + Crew.total stepsLeft queue.threads

/-- Everything that was put into the queue was taken and brought to its end. -/
structure IsDry (queue : ActionQueue Action) : Prop where
  actions : queue.actions = []
  running : queue.running = []

theorem enqueued_of_dispatches (queue : ActionQueue Action) {op : QueueOp Action}
    (dispatches : Dispatches op) :
    (queue.step op).enqueued = queue.enqueued ∧
      (queue.step op).threads.length = queue.threads.length := by
  cases op with
  | join => exact dispatches.elim
  | push thread action => exact dispatches.elim
  | wake thread =>
    show (queue.wake thread).enqueued = _ ∧ (queue.wake thread).threads.length = _
    unfold ActionQueue.wake
    split
    · exact ⟨rfl, rfl⟩
    · split
      · exact ⟨rfl, List.length_set⟩
      · exact ⟨rfl, rfl⟩
  | consume thread =>
    show (queue.consume thread).enqueued = _ ∧ (queue.consume thread).threads.length = _
    unfold ActionQueue.consume
    split
    · split
      · exact ⟨rfl, List.length_set⟩
      · exact ⟨rfl, rfl⟩
    · exact ⟨rfl, rfl⟩
  | take thread =>
    show (queue.take thread).enqueued = _ ∧ (queue.take thread).threads.length = _
    unfold ActionQueue.take
    split
    · split
      · split
        · exact ⟨rfl, rfl⟩
        · exact ⟨rfl, List.length_set⟩
      · exact ⟨rfl, rfl⟩
    · exact ⟨rfl, rfl⟩
  | finish thread =>
    show (queue.finish thread).enqueued = _ ∧ (queue.finish thread).threads.length = _
    unfold ActionQueue.finish
    split
    · exact ⟨rfl, List.length_set⟩
    · exact ⟨rfl, rfl⟩

theorem distance_set (isAt : queue.threads[thread]? = some old) (next : QueueThread Action) :
    Crew.total stepsLeft (queue.threads.set thread next) + stepsLeft old =
      Crew.total stepsLeft queue.threads + stepsLeft next :=
  Crew.total_set stepsLeft isAt next

/-- A thread that writes its token comes nearer. -/
theorem wake_nearer (isAt : queue.threads[thread]? = some old) (isPushing : old.pushing = true) :
    distance (queue.wake thread) < distance queue := by
  unfold ActionQueue.wake
  rw [isAt]
  show distance (if old.pushing = true then _ else queue) < _
  rw [if_pos isPushing]
  have total := distance_set isAt { old with pushing := false }
  have before : stepsLeft old = stepsLeft { old with pushing := false } + 1 := by
    obtain ⟨phase, pushing⟩ := old
    cases (isPushing : pushing = true)
    cases phase <;> rfl
  show 4 * queue.actions.length +
    Crew.total stepsLeft (queue.threads.set thread { old with pushing := false }) < _
  unfold distance
  omega

theorem consume_nearer (isAt : queue.threads[thread]? = some ⟨.outside, false⟩)
    (readable : 0 < queue.eventFd) : distance (queue.consume thread) < distance queue := by
  unfold ActionQueue.consume
  rw [isAt]
  show distance (if 0 < queue.eventFd then _ else queue) < _
  rw [if_pos readable]
  have total : _ + 1 = _ + 0 := distance_set isAt ⟨.consumed, false⟩
  show 4 * queue.actions.length +
    Crew.total stepsLeft (queue.threads.set thread ⟨.consumed, false⟩) < _
  unfold distance
  omega

theorem take_nearer (kept : queue.Kept) (isAt : queue.threads[thread]? = some ⟨.consumed, false⟩)
    (isFree : queue.pushers = 0) : distance (queue.take thread) < distance queue := by
  unfold ActionQueue.take
  rw [isAt]
  show distance (if queue.pushers = 0 then _ else queue) < _
  rw [if_pos isFree]
  have tokens := kept.tokens
  have isConsumer : 1 ≤ queue.consumers := Crew.le_total QueueThread.isConsumed isAt
  cases isFront : queue.actions with
  | nil =>
    rw [isFront, List.length_nil] at tokens
    omega
  | cons action actions =>
    have total : _ + 0 = _ + 2 := distance_set isAt ⟨.running action, false⟩
    show 4 * actions.length +
      Crew.total stepsLeft (queue.threads.set thread ⟨.running action, false⟩) < _
    unfold distance
    rw [isFront, List.length_cons]
    omega

theorem finish_nearer {action : Action}
    (isAt : queue.threads[thread]? = some ⟨.running action, false⟩) :
    distance (queue.finish thread) < distance queue := by
  unfold ActionQueue.finish
  rw [isAt]
  have total : _ + 2 = _ + 1 := distance_set isAt ⟨.outside, false⟩
  show 4 * queue.actions.length +
    Crew.total stepsLeft (queue.threads.set thread ⟨.outside, false⟩) < _
  unfold distance
  omega

/-- While there is something to do, some thread can come nearer. -/
theorem advance (kept : queue.Kept) (hasThread : queue.threads ≠ []) (isLeft : ¬ queue.IsDry) :
    ∃ op, Dispatches op ∧ distance (queue.step op) < distance queue := by
  by_cases isFree : queue.pushers = 0
  · -- nobody holds the lock, so no thread is in the middle of pushing
    have none_pushing : ∀ (place : Nat) (member : QueueThread Action),
        queue.threads[place]? = some member → member.pushing = false := by
      intro place member isAt
      have weight : member.isPushing ≤ queue.pushers := Crew.le_total QueueThread.isPushing isAt
      refine Bool.eq_false_iff.mpr fun isPushing => ?_
      have pushes : member.isPushing = 1 := if_pos isPushing
      omega
    by_cases waiting : queue.consumers = 0
    · by_cases isRunning : queue.running = []
      · -- every thread is outside, and the tokens are all there
        have isLong : 0 < queue.eventFd := by
          have tokens := kept.tokens
          have left : queue.actions ≠ [] := fun isEmpty => isLeft ⟨isEmpty, isRunning⟩
          have longer := List.length_pos_iff.mpr left
          omega
        obtain ⟨first, rest, isCons⟩ := List.exists_cons_of_ne_nil hasThread
        have isAt : queue.threads[0]? = some first := by rw [isCons]; rfl
        obtain ⟨phase, pushing⟩ := first
        cases (none_pushing 0 _ isAt : pushing = false)
        cases phase with
        | outside => exact ⟨.consume 0, trivial, consume_nearer isAt isLong⟩
        | consumed =>
          have weight : 1 ≤ queue.consumers := Crew.le_total QueueThread.isConsumed isAt
          omega
        | running action =>
          have member : action ∈ queue.running :=
            List.mem_flatMap.mpr ⟨_, List.mem_of_getElem? isAt, List.mem_singleton.mpr rfl⟩
          rw [isRunning] at member
          cases member
      · obtain ⟨action, member⟩ := List.exists_mem_of_ne_nil _ isRunning
        obtain ⟨⟨phase, pushing⟩, isThread, runs⟩ := List.mem_flatMap.mp member
        obtain ⟨place, isAt⟩ := List.mem_iff_getElem?.mp isThread
        cases (none_pushing place _ isAt : pushing = false)
        cases phase with
        | outside => cases runs
        | consumed => cases runs
        | running action => exact ⟨.finish place, trivial, finish_nearer isAt⟩
    · obtain ⟨place, ⟨phase, pushing⟩, isAt, consumes⟩ :=
        Crew.exists_of_total_pos (Nat.pos_of_ne_zero waiting)
      cases (none_pushing place _ isAt : pushing = false)
      cases phase with
      | outside => exact absurd consumes (Nat.lt_irrefl 0)
      | consumed => exact ⟨.take place, trivial, take_nearer kept isAt isFree⟩
      | running action => exact absurd consumes (Nat.lt_irrefl 0)
  · obtain ⟨place, member, isAt, pushes⟩ :=
      Crew.exists_of_total_pos (Nat.pos_of_ne_zero isFree)
    have isPushing : member.pushing = true := by
      cases same : member.pushing with
      | true => rfl
      | false =>
        unfold QueueThread.isPushing at pushes
        rw [same] at pushes
        exact absurd pushes (Nat.lt_irrefl 0)
    exact ⟨.wake place, trivial, wake_nearer isAt isPushing⟩

/-- On the way to a dry queue, into which nothing more is put. -/
structure Draining (enqueued : List Action) (queue : ActionQueue Action) : Prop where
  kept : queue.Kept
  enqueued : queue.enqueued = enqueued
  hasThread : queue.threads ≠ []
  isLeft : ¬ queue.IsDry

structure Drained (enqueued : List Action) (queue : ActionQueue Action) : Prop where
  kept : queue.Kept
  enqueued : queue.enqueued = enqueued
  isDry : queue.IsDry

theorem Draining.advance {enqueued : List Action} (draining : Draining enqueued queue) :
    ∃ op, Dispatches op ∧ (Drained enqueued (queue.step op) ∨
      Draining enqueued (queue.step op) ∧ distance (queue.step op) < distance queue) := by
  obtain ⟨op, dispatches, nearer⟩ :=
    ActionQueue.advance draining.kept draining.hasThread draining.isLeft
  obtain ⟨same, length⟩ := enqueued_of_dispatches queue dispatches
  have still := same.trans draining.enqueued
  refine ⟨op, dispatches, ?_⟩
  by_cases arrives : (queue.step op).IsDry
  · exact .inl ⟨draining.kept.step op, still, arrives⟩
  · refine .inr ⟨⟨draining.kept.step op, still, ?_, arrives⟩, nearer⟩
    intro isEmpty
    rw [isEmpty, List.length_nil] at length
    exact draining.hasThread (List.length_eq_zero_iff.mp length.symm)

/-- What the threads that dispatch the queue can always reach. -/
theorem runs_dry (kept : queue.Kept) (hasThread : queue.threads ≠ []) :
    ∃ ops : List (QueueOp Action), (∀ op ∈ ops, Dispatches op) ∧ (ops.foldl step queue).IsDry ∧
      (ops.foldl step queue).Kept ∧ (ops.foldl step queue).enqueued = queue.enqueued := by
  by_cases isDry : queue.IsDry
  · refine ⟨[], fun op member => ?_, isDry, kept, rfl⟩
    cases member
  have leads : ∃ ops, Transition.AllowedAlong step (fun _ op => Dispatches op) queue ops ∧
      Drained queue.enqueued (ops.foldl step queue) :=
    Transition.leads_to distance (fun after draining => draining.advance)
      (⟨kept, rfl, hasThread, isDry⟩ : Draining queue.enqueued queue)
  obtain ⟨ops, along, drained⟩ := leads
  exact ⟨ops, (Transition.allowedAlong_label_iff queue).mp along, drained.isDry, drained.kept,
    drained.enqueued⟩

/-- Whatever threads put into the queue and take from it, in whatever order of their steps: the
front of an empty queue is never asked for, the actions are taken once each and in their order, the
descriptor is readable unless a thread is on its way for each action that is left, what was taken is
run or was brought to its end, and the threads can bring all of it to its end. -/
theorem actions_taken_in_order (ops : List (QueueOp Action)) :
    let queue := ops.foldl step initial
    queue.Kept ∧ (queue.threads ≠ [] →
      ∃ more : List (QueueOp Action), (∀ op ∈ more, Dispatches op) ∧
        (more.foldl step queue).taken = queue.enqueued ∧
        ((more.foldl step queue).finished).Perm queue.enqueued) := by
  intro queue
  refine ⟨kept_run ops, fun hasThread => ?_⟩
  obtain ⟨more, dispatch, isDry, kept, same⟩ := runs_dry (kept_run ops) hasThread
  have taken : (more.foldl step queue).taken = queue.enqueued := by
    rw [← same, kept.inOrder, isDry.actions, List.append_nil]
  refine ⟨more, dispatch, taken, ?_⟩
  have brought := kept.brought
  rwa [isDry.running, List.append_nil, taken] at brought

end ActionQueue

end Mir.Dispatch

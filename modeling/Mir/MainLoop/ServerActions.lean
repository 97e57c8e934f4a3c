/-
This file embeds the server actions of the main loop and as much of an iteration of the loop as
they need. An iteration goes through the sources twice, to prepare and to check them, and then
dispatches those that were found ready, in the order in which they were attached. A walk also
comes to the sources that are attached while it is under way. The loop takes one step at a time,
and the calls of other threads and of the running actions come between its steps.
-/

import Mathlib.Data.List.Basic
import Mir.Library.Transition

namespace Mir.MainLoop

abbrev OwnerID := Nat

/-- An action with its number in the order of enqueueing. -/
structure ServerAction where
  serial : Nat
  owner : OwnerID
  deriving DecidableEq, Repr

/-- `ready` are the sources that `prepare` has found ready, `rest` are those the walk has still to
come to, and `pending` are those that will be dispatched. -/
inductive Phase
  | waiting
  | preparing (ready rest : List ServerAction)
  | polling (ready : List ServerAction)
  | checking (ready rest pending : List ServerAction)
  | dispatching (pending : List ServerAction)
  deriving DecidableEq, Repr

/-- The actions that will be dispatched without being tested again. -/
def Phase.found : Phase → List ServerAction
  | .waiting => []
  | .preparing ready _ => ready
  | .polling ready => ready
  | .checking ready _ pending => ready ++ pending
  | .dispatching pending => pending

/-- A walk that is under way comes to a source that is attached. -/
def Phase.attach (action : ServerAction) : Phase → Phase
  | .preparing ready rest => .preparing ready (rest ++ [action])
  | .checking ready rest pending => .checking ready (rest ++ [action]) pending
  | phase => phase

/-- Whether another thread that attaches a source has to wake the loop up. -/
def Phase.mayBlock : Phase → Bool
  | .preparing _ _ | .polling _ | .checking _ _ _ => true
  | .waiting | .dispatching _ => false

inductive LoopEvent
  | enqueued (action : ServerAction)
  | paused (owner : OwnerID)
  | resumed (owner : OwnerID)
  | started (action : ServerAction)
  deriving DecidableEq, Repr

/-- `sources` are the actions whose sources are attached, in that order, `woken` says that a
wakeup is under way to the loop, and `history` is what happened, in its order. -/
structure Loop where
  sources : List ServerAction
  doNotProcess : List OwnerID
  phase : Phase
  woken : Bool
  enqueued : Nat
  history : List LoopEvent

def Loop.initial : Loop := ⟨[], [], .waiting, false, 0, []⟩

namespace Loop

def shouldProcessActionsFor (loop : Loop) (owner : OwnerID) : Bool :=
  decide (owner ∉ loop.doNotProcess)

def enqueue (loop : Loop) (owner : OwnerID) : Loop :=
  let action : ServerAction := ⟨loop.enqueued, owner⟩
  { loop with
    sources := loop.sources ++ [action]
    phase := loop.phase.attach action
    woken := loop.woken || loop.phase.mayBlock
    enqueued := loop.enqueued + 1
    history := loop.history ++ [.enqueued action] }

def pauseProcessingFor (loop : Loop) (owner : OwnerID) : Loop :=
  { loop with
    doNotProcess :=
      if owner ∈ loop.doNotProcess then loop.doNotProcess else loop.doNotProcess ++ [owner]
    history := loop.history ++ [.paused owner] }

def resumeProcessingFor (loop : Loop) (owner : OwnerID) : Loop :=
  { loop with
    doNotProcess := loop.doNotProcess.filter fun other => other ≠ owner
    woken := true
    history := loop.history ++ [.resumed owner] }

/-- One step of the loop. The context waits as long as no source is ready and nothing wakes it;
a source is destroyed when its action was run. -/
def turn (loop : Loop) : Loop :=
  match loop.phase with
  | .waiting => { loop with phase := .preparing [] loop.sources }
  | .preparing ready [] => { loop with phase := .polling ready }
  | .preparing ready (action :: rest) =>
    if loop.shouldProcessActionsFor action.owner then
      { loop with phase := .preparing (ready ++ [action]) rest }
    else { loop with phase := .preparing ready rest }
  | .polling ready =>
    if ready = [] ∧ loop.woken = false then loop
    else { loop with phase := .checking ready loop.sources [], woken := false }
  | .checking _ [] pending => { loop with phase := .dispatching pending }
  | .checking ready (action :: rest) pending =>
    if action ∈ ready ∨ loop.shouldProcessActionsFor action.owner then
      { loop with phase := .checking ready rest (pending ++ [action]) }
    else { loop with phase := .checking ready rest pending }
  | .dispatching [] => { loop with phase := .waiting }
  | .dispatching (action :: rest) =>
    { loop with
      phase := .dispatching rest
      sources := loop.sources.erase action
      history := loop.history ++ [.started action] }

end Loop

/-- `wakeup` stands for everything else that ends a wait of the loop. -/
inductive LoopOp
  | turn
  | enqueue (owner : OwnerID)
  | pause (owner : OwnerID)
  | resume (owner : OwnerID)
  | wakeup
  deriving DecidableEq, Repr

def Loop.step (loop : Loop) : LoopOp → Loop
  | .turn => loop.turn
  | .enqueue owner => loop.enqueue owner
  | .pause owner => loop.pauseProcessingFor owner
  | .resume owner => loop.resumeProcessingFor owner
  | .wakeup => { loop with woken := true }

/-! ### What happened -/

/-- Whether the owner is paused after a history. -/
def pausedAfter (owner : OwnerID) (history : List LoopEvent) : Bool :=
  history.foldl
    (fun paused event =>
      match event with
      | .paused other => if other = owner then true else paused
      | .resumed other => if other = owner then false else paused
      | _ => paused)
    false

def LoopEvent.enqueuedAction : LoopEvent → Option ServerAction
  | .enqueued action => some action
  | _ => none

def LoopEvent.startedAction : LoopEvent → Option ServerAction
  | .started action => some action
  | _ => none

/-- The actions of an owner in the order of enqueueing. -/
def enqueuedOf (owner : OwnerID) (history : List LoopEvent) : List ServerAction :=
  (history.filterMap LoopEvent.enqueuedAction).filter fun action => action.owner = owner

/-- The actions of an owner in the order in which they started. -/
def startedOf (owner : OwnerID) (history : List LoopEvent) : List ServerAction :=
  (history.filterMap LoopEvent.startedAction).filter fun action => action.owner = owner

/-- No action starts while its owner is paused, and the actions of an owner start once each and in
the order of enqueueing, none being left out. -/
structure Orderly (history : List LoopEvent) : Prop where
  pauses : ∀ before action, before ++ [.started action] <+: history →
    pausedAfter action.owner before = false
  turns : ∀ owner, startedOf owner history <+: enqueuedOf owner history
  once : ∀ owner, (startedOf owner history).Nodup

section History

variable (owner : OwnerID) (history : List LoopEvent)

@[simp] theorem pausedAfter_enqueued (action : ServerAction) :
    pausedAfter owner (history ++ [.enqueued action]) = pausedAfter owner history := by
  unfold pausedAfter
  rw [List.foldl_append]
  rfl

@[simp] theorem pausedAfter_started (action : ServerAction) :
    pausedAfter owner (history ++ [.started action]) = pausedAfter owner history := by
  unfold pausedAfter
  rw [List.foldl_append]
  rfl

@[simp] theorem pausedAfter_paused (other : OwnerID) :
    pausedAfter owner (history ++ [.paused other]) =
      if other = owner then true else pausedAfter owner history := by
  unfold pausedAfter
  rw [List.foldl_append]
  rfl

@[simp] theorem pausedAfter_resumed (other : OwnerID) :
    pausedAfter owner (history ++ [.resumed other]) =
      if other = owner then false else pausedAfter owner history := by
  unfold pausedAfter
  rw [List.foldl_append]
  rfl

@[simp] theorem enqueuedOf_append (later : List LoopEvent) :
    enqueuedOf owner (history ++ later) = enqueuedOf owner history ++ enqueuedOf owner later := by
  unfold enqueuedOf
  rw [List.filterMap_append, List.filter_append]

@[simp] theorem startedOf_append (later : List LoopEvent) :
    startedOf owner (history ++ later) = startedOf owner history ++ startedOf owner later := by
  unfold startedOf
  rw [List.filterMap_append, List.filter_append]

theorem mem_startedOf (action : ServerAction) :
    action ∈ startedOf owner history ↔ .started action ∈ history ∧ action.owner = owner := by
  unfold startedOf
  rw [List.mem_filter, List.mem_filterMap, decide_eq_true_iff]
  refine and_congr_left fun _ => ⟨?_, fun member => ⟨_, member, rfl⟩⟩
  rintro ⟨event, member, found⟩
  cases event with
  | started other =>
    cases found
    exact member
  | _ => cases found

end History

/-! ### What a turn does -/

/-- All that a turn of the loop can do. -/
inductive Turn (loop : Loop) : Loop → Prop
  | begins (phase : loop.phase = .waiting) :
      Turn loop { loop with phase := .preparing [] loop.sources }
  | finds (ready rest : List ServerAction) (action : ServerAction)
      (phase : loop.phase = .preparing ready (action :: rest))
      (process : action.owner ∉ loop.doNotProcess) :
      Turn loop { loop with phase := .preparing (ready ++ [action]) rest }
  | leaves (ready rest : List ServerAction) (action : ServerAction)
      (phase : loop.phase = .preparing ready (action :: rest))
      (paused : action.owner ∈ loop.doNotProcess) :
      Turn loop { loop with phase := .preparing ready rest }
  | prepared (ready : List ServerAction) (phase : loop.phase = .preparing ready []) :
      Turn loop { loop with phase := .polling ready }
  | waits (phase : loop.phase = .polling []) (asleep : loop.woken = false) : Turn loop loop
  | polled (ready : List ServerAction) (phase : loop.phase = .polling ready) :
      Turn loop { loop with phase := .checking ready loop.sources [], woken := false }
  | takes (ready rest pending : List ServerAction) (action : ServerAction)
      (phase : loop.phase = .checking ready (action :: rest) pending)
      (process : action ∈ ready ∨ action.owner ∉ loop.doNotProcess) :
      Turn loop { loop with phase := .checking ready rest (pending ++ [action]) }
  | passes (ready rest pending : List ServerAction) (action : ServerAction)
      (phase : loop.phase = .checking ready (action :: rest) pending)
      (notReady : action ∉ ready) (paused : action.owner ∈ loop.doNotProcess) :
      Turn loop { loop with phase := .checking ready rest pending }
  | checked (ready pending : List ServerAction) (phase : loop.phase = .checking ready [] pending) :
      Turn loop { loop with phase := .dispatching pending }
  | starts (rest : List ServerAction) (action : ServerAction)
      (phase : loop.phase = .dispatching (action :: rest)) :
      Turn loop
        { loop with
          phase := .dispatching rest
          sources := loop.sources.erase action
          history := loop.history ++ [.started action] }
  | ends (phase : loop.phase = .dispatching []) : Turn loop { loop with phase := .waiting }

theorem Loop.turn_cases (loop : Loop) : Turn loop loop.turn := by
  unfold Loop.turn
  split
  next phase => exact .begins phase
  next ready phase => exact .prepared ready phase
  next ready action rest phase =>
    split_ifs with process
    · exact .finds ready rest action phase (of_decide_eq_true process)
    · refine .leaves ready rest action phase (not_not.mp fun unpaused => process ?_)
      exact decide_eq_true unpaused
  next ready phase =>
    split_ifs with asleep
    · exact .waits (asleep.1 ▸ phase) asleep.2
    · exact .polled ready phase
  next ready pending phase => exact .checked ready pending phase
  next ready action rest pending phase =>
    split_ifs with process
    · exact .takes ready rest pending action phase (process.imp id of_decide_eq_true)
    · obtain ⟨notReady, unprocessed⟩ := not_or.mp process
      refine .passes ready rest pending action phase notReady (not_not.mp fun unpaused => ?_)
      exact unprocessed (decide_eq_true unpaused)
  next phase => exact .ends phase
  next action rest phase => exact .starts rest action phase

end Mir.MainLoop

/-
This file embeds the alarms of the main loop. Each scheduling of an alarm has a timer source of its
own with a context: a lock, which the loop holds while it runs the callback, and a flag that says
whether the callback may still be run. The calls of an alarm exclude each other by the alarm's
mutex; between their steps come the steps of the loop, which finds sources ready and dispatches
them afterwards, also sources that were destroyed meanwhile. A call is made by the callback itself
or by another thread.
-/

import Mathlib.Data.List.Basic
import Mathlib.Data.List.Nodup
import Mir.Library.Transition

namespace Mir.MainLoop

inductive AlarmState
  | pending
  | cancelled
  | triggered
  deriving DecidableEq, Repr

/-- The number of a scheduling and of its timer source. -/
abbrev TimerID := Nat

/-- What the holder of the alarm's mutex has done. `byCallback` says that the call is made by the
callback. A cancellation has disabled the context or not; a rescheduling has set the state, knows
whether it supersedes a pending scheduling, and has attached its new source or not. -/
inductive AlarmCall
  | cancelling (byCallback disabled : Bool)
  | rescheduling (byCallback superseding : Bool) (attached : Option TimerID)
  deriving DecidableEq, Repr

def AlarmCall.byCallback : AlarmCall → Bool
  | cancelling byCallback _ => byCallback
  | rescheduling byCallback _ _ => byCallback

/-- What the loop does while it holds the lock of a context: it has seen that the context is
enabled, or it runs the callback. -/
inductive TimerDispatch
  | locked (id : TimerID)
  | running (id : TimerID)
  deriving DecidableEq, Repr

def TimerDispatch.id : TimerDispatch → TimerID
  | locked id => id
  | running id => id

inductive AlarmEvent
  | scheduled (id : TimerID)
  | rescheduled (id : TimerID) (superseding : Bool)
  | contextLocked (id : TimerID)
  | ran (id : TimerID)
  | cancelReturned (result : Bool)
  | stateRead (state : AlarmState)
  deriving DecidableEq, Repr

/-- `gsource` is the source that the alarm has a handle of, `made` counts the schedulings, `found`
are the sources that were found ready and not dispatched yet, and `history` is what happened, in
its order. -/
structure Alarm where
  state : AlarmState
  gsource : Option TimerID
  made : Nat
  enabled : List TimerID
  attached : List TimerID
  found : List TimerID
  dispatch : Option TimerDispatch
  call : Option AlarmCall
  history : List AlarmEvent

def Alarm.initial : Alarm := ⟨.cancelled, none, 0, [], [], [], none, none, []⟩

inductive AlarmOp
  | find (id : TimerID)
  | lock (id : TimerID)
  | trigger
  | finish
  | cancel (byCallback : Bool)
  | disable
  | endCancel
  | reschedule (byCallback : Bool)
  | attach
  | endReschedule
  | readState
  deriving DecidableEq, Repr

namespace Alarm

def runningCallback (alarm : Alarm) : Bool :=
  match alarm.dispatch with
  | some (.running _) => true
  | _ => false

/-- The alarm's mutex is free, and the callback makes calls only while it runs. -/
def canCall (alarm : Alarm) (byCallback : Bool) : Bool :=
  alarm.call.isNone && (!byCallback || alarm.runningCallback)

def holdsContext (alarm : Alarm) (id : TimerID) : Bool :=
  decide (alarm.dispatch.map TimerDispatch.id = some id)

/-! ### The steps of the loop -/

def find (alarm : Alarm) (id : TimerID) : Alarm :=
  if alarm.dispatch = none ∧ id ∈ alarm.attached ∧ id ∉ alarm.found then
    { alarm with found := alarm.found ++ [id] }
  else alarm

/-- A source is destroyed when it was dispatched. -/
def lock (alarm : Alarm) (id : TimerID) : Alarm :=
  if alarm.dispatch = none ∧ id ∈ alarm.found then
    let taken :=
      { alarm with
        found := alarm.found.erase id
        attached := alarm.attached.filter fun other => other ≠ id }
    if id ∈ alarm.enabled then
      { taken with
        dispatch := some (.locked id)
        history := alarm.history ++ [.contextLocked id] }
    else taken
  else alarm

/-- The wrapper of the callback sets the state without the alarm's mutex. -/
def trigger (alarm : Alarm) : Alarm :=
  match alarm.dispatch with
  | some (.locked id) =>
    { alarm with
      state := .triggered
      dispatch := some (.running id)
      history := alarm.history ++ [.ran id] }
  | _ => alarm

def finish (alarm : Alarm) : Alarm :=
  if alarm.runningCallback ∧ alarm.call.map AlarmCall.byCallback ≠ some true then
    { alarm with dispatch := none }
  else alarm

/-! ### The steps of `cancel` -/

def cancel (alarm : Alarm) (byCallback : Bool) : Alarm :=
  if alarm.canCall byCallback then { alarm with call := some (.cancelling byCallback false) }
  else alarm

/-- The lock of a context is recursive: only another thread waits for it. -/
def ensureNoFurtherDispatch (alarm : Alarm) : Alarm :=
  match alarm.call, alarm.gsource with
  | some (.cancelling byCallback false), none =>
    { alarm with call := some (.cancelling byCallback true) }
  | some (.cancelling byCallback false), some id =>
    if alarm.holdsContext id ∧ byCallback = false then alarm
    else
      { alarm with
        enabled := alarm.enabled.filter fun other => other ≠ id
        call := some (.cancelling byCallback true) }
  | _, _ => alarm

def endCancel (alarm : Alarm) : Alarm :=
  match alarm.call with
  | some (.cancelling _ true) =>
    if alarm.state = .pending then
      { alarm with
        gsource := none
        attached := alarm.attached.filter fun other => some other ≠ alarm.gsource
        state := .cancelled
        call := none
        history := alarm.history ++ [.cancelReturned true] }
    else
      { alarm with
        call := none
        history := alarm.history ++ [.cancelReturned (decide (alarm.state = .cancelled))] }
  | _ => alarm

/-! ### The steps of `reschedule_for` -/

def rescheduleFor (alarm : Alarm) (byCallback : Bool) : Alarm :=
  if alarm.canCall byCallback then
    { alarm with
      state := .pending
      call := some (.rescheduling byCallback (decide (alarm.state = .pending)) none) }
  else alarm

def addTimerGSource (alarm : Alarm) : Alarm :=
  match alarm.call with
  | some (.rescheduling byCallback superseding none) =>
    { alarm with
      made := alarm.made + 1
      enabled := alarm.enabled ++ [alarm.made]
      attached := alarm.attached ++ [alarm.made]
      call := some (.rescheduling byCallback superseding (some alarm.made))
      history := alarm.history ++ [.scheduled alarm.made] }
  | _ => alarm

/-- The old source is destroyed; its context stays as it is. -/
def endReschedule (alarm : Alarm) : Alarm :=
  match alarm.call with
  | some (.rescheduling _ superseding (some id)) =>
    { alarm with
      gsource := some id
      attached := alarm.attached.filter fun other => some other ≠ alarm.gsource
      call := none
      history := alarm.history ++ [.rescheduled id superseding] }
  | _ => alarm

def readState (alarm : Alarm) : Alarm :=
  if alarm.call = none then
    { alarm with history := alarm.history ++ [.stateRead alarm.state] }
  else alarm

/-- A step that has to wait changes nothing. -/
def step (alarm : Alarm) : AlarmOp → Alarm
  | .find id => alarm.find id
  | .lock id => alarm.lock id
  | .trigger => alarm.trigger
  | .finish => alarm.finish
  | .cancel byCallback => alarm.cancel byCallback
  | .disable => alarm.ensureNoFurtherDispatch
  | .endCancel => alarm.endCancel
  | .reschedule byCallback => alarm.rescheduleFor byCallback
  | .attach => alarm.addTimerGSource
  | .endReschedule => alarm.endReschedule
  | .readState => alarm.readState

end Alarm

/-! ### What a step does -/

/-- All that a step can do. -/
inductive AlarmStep (alarm : Alarm) : AlarmOp → Alarm → Prop
  | waits (op : AlarmOp) : AlarmStep alarm op alarm
  | finds (id : TimerID) (idle : alarm.dispatch = none) (attached : id ∈ alarm.attached)
      (notYet : id ∉ alarm.found) :
      AlarmStep alarm (.find id) { alarm with found := alarm.found ++ [id] }
  | locks (id : TimerID) (idle : alarm.dispatch = none) (found : id ∈ alarm.found)
      (enabled : id ∈ alarm.enabled) :
      AlarmStep alarm (.lock id)
        { alarm with
          found := alarm.found.erase id
          attached := alarm.attached.filter fun other => other ≠ id
          dispatch := some (.locked id)
          history := alarm.history ++ [.contextLocked id] }
  | skips (id : TimerID) (idle : alarm.dispatch = none) (found : id ∈ alarm.found)
      (disabled : id ∉ alarm.enabled) :
      AlarmStep alarm (.lock id)
        { alarm with
          found := alarm.found.erase id
          attached := alarm.attached.filter fun other => other ≠ id }
  | triggers (id : TimerID) (locked : alarm.dispatch = some (.locked id)) :
      AlarmStep alarm .trigger
        { alarm with
          state := .triggered
          dispatch := some (.running id)
          history := alarm.history ++ [.ran id] }
  | finishes (running : alarm.runningCallback = true)
      (outside : alarm.call.map AlarmCall.byCallback ≠ some true) :
      AlarmStep alarm .finish { alarm with dispatch := none }
  | cancels (byCallback : Bool) (can : alarm.canCall byCallback = true) :
      AlarmStep alarm (.cancel byCallback)
        { alarm with call := some (.cancelling byCallback false) }
  | disablesNothing (byCallback : Bool) (call : alarm.call = some (.cancelling byCallback false))
      (nothing : alarm.gsource = none) :
      AlarmStep alarm .disable { alarm with call := some (.cancelling byCallback true) }
  | disables (byCallback : Bool) (id : TimerID)
      (call : alarm.call = some (.cancelling byCallback false)) (handle : alarm.gsource = some id)
      (can : alarm.holdsContext id = true → byCallback = true) :
      AlarmStep alarm .disable
        { alarm with
          enabled := alarm.enabled.filter fun other => other ≠ id
          call := some (.cancelling byCallback true) }
  | cancelled (byCallback : Bool) (call : alarm.call = some (.cancelling byCallback true))
      (pending : alarm.state = .pending) :
      AlarmStep alarm .endCancel
        { alarm with
          gsource := none
          attached := alarm.attached.filter fun other => some other ≠ alarm.gsource
          state := .cancelled
          call := none
          history := alarm.history ++ [.cancelReturned true] }
  | refused (byCallback : Bool) (call : alarm.call = some (.cancelling byCallback true))
      (notPending : alarm.state ≠ .pending) :
      AlarmStep alarm .endCancel
        { alarm with
          call := none
          history := alarm.history ++ [.cancelReturned (decide (alarm.state = .cancelled))] }
  | reschedules (byCallback : Bool) (can : alarm.canCall byCallback = true) :
      AlarmStep alarm (.reschedule byCallback)
        { alarm with
          state := .pending
          call := some (.rescheduling byCallback (decide (alarm.state = .pending)) none) }
  | attaches (byCallback superseding : Bool)
      (call : alarm.call = some (.rescheduling byCallback superseding none)) :
      AlarmStep alarm .attach
        { alarm with
          made := alarm.made + 1
          enabled := alarm.enabled ++ [alarm.made]
          attached := alarm.attached ++ [alarm.made]
          call := some (.rescheduling byCallback superseding (some alarm.made))
          history := alarm.history ++ [.scheduled alarm.made] }
  | rescheduled (byCallback superseding : Bool) (id : TimerID)
      (call : alarm.call = some (.rescheduling byCallback superseding (some id))) :
      AlarmStep alarm .endReschedule
        { alarm with
          gsource := some id
          attached := alarm.attached.filter fun other => some other ≠ alarm.gsource
          call := none
          history := alarm.history ++ [.rescheduled id superseding] }
  | reads (free : alarm.call = none) :
      AlarmStep alarm .readState
        { alarm with history := alarm.history ++ [.stateRead alarm.state] }

theorem Alarm.step_cases (alarm : Alarm) (op : AlarmOp) : AlarmStep alarm op (alarm.step op) := by
  cases op with
  | find id =>
    dsimp only [step, find]
    split_ifs with can
    · exact .finds id can.1 can.2.1 can.2.2
    · exact .waits _
  | lock id =>
    dsimp only [step, lock]
    split_ifs with can enabled
    · exact .locks id can.1 can.2 enabled
    · exact .skips id can.1 can.2 enabled
    · exact .waits _
  | trigger =>
    dsimp only [step, trigger]
    split
    next id locked => exact .triggers id locked
    next => exact .waits _
  | finish =>
    dsimp only [step, finish]
    split_ifs with can
    · exact .finishes can.1 can.2
    · exact .waits _
  | cancel byCallback =>
    dsimp only [step, cancel]
    split_ifs with can
    · exact .cancels byCallback can
    · exact .waits _
  | disable =>
    dsimp only [step, ensureNoFurtherDispatch]
    split
    next byCallback call nothing => exact .disablesNothing byCallback call nothing
    next byCallback id call handle =>
      split_ifs with holds
      · exact .waits _
      · refine .disables byCallback id call handle fun isHeld => ?_
        exact Bool.not_eq_false _ ▸ fun other => holds ⟨isHeld, other⟩
    next => exact .waits _
  | endCancel =>
    dsimp only [step, endCancel]
    split
    next byCallback call =>
      split_ifs with pending
      · exact .cancelled byCallback call pending
      · exact .refused byCallback call pending
    next => exact .waits _
  | reschedule byCallback =>
    dsimp only [step, rescheduleFor]
    split_ifs with can
    · exact .reschedules byCallback can
    · exact .waits _
  | attach =>
    dsimp only [step, addTimerGSource]
    split
    next byCallback superseding call => exact .attaches byCallback superseding call
    next => exact .waits _
  | endReschedule =>
    dsimp only [step, endReschedule]
    split
    next byCallback superseding id call => exact .rescheduled byCallback superseding id call
    next => exact .waits _
  | readState =>
    dsimp only [step, readState]
    split_ifs with free
    · exact .reads free
    · exact .waits _

/-! ### What an alarm promises -/

/-- How the latest scheduling stands: there is none or it has run or been cancelled, or its
callback is still to be run. -/
def standing (history : List AlarmEvent) : Option TimerID :=
  history.foldl
    (fun waiting event =>
      match event with
      | .scheduled id => some id
      | .ran id => if waiting = some id then none else waiting
      | .cancelReturned true => none
      | _ => waiting)
    none

/-- Whether the alarm is cancelled and not scheduled again. -/
def stillCancelled (history : List AlarmEvent) : Bool :=
  history.foldl
    (fun cancelled event =>
      match event with
      | .scheduled _ => false
      | .cancelReturned true => true
      | _ => cancelled)
    false

/-- Each scheduling runs once at most, none runs that a later one had replaced before its context
was locked, none runs while the alarm is cancelled, and the state is pending exactly while the
latest scheduling waits. -/
structure KeepsPromises (history : List AlarmEvent) : Prop where
  once : ∀ before id, before ++ [.ran id] <+: history → .ran id ∉ before
  replaced : ∀ before id, before ++ [.contextLocked id] <+: history →
    (∃ later superseding, id < later ∧ .rescheduled later superseding ∈ before) →
    .ran id ∉ history
  cancelled : ∀ before id, before ++ [.ran id] <+: history → stillCancelled before = false
  reads : ∀ before state, before ++ [.stateRead state] <+: history →
    (state = .pending ↔ (standing before).isSome)

end Mir.MainLoop

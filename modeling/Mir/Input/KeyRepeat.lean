/-
This file embeds the repetition of keys that are held down, and proves when it does not deadlock. An
alarm for each key runs on the main loop and locks the mutex of the dispatcher to repeat the key.
The dispatcher destroys alarms while it holds this mutex, and to destroy an alarm is to lock the
context of its timer source, which the loop holds while the alarm runs.
-/

import Mir.Input.Event
import Mir.Library.CrossedLocks
import Mir.Library.UnorderedMap
import Mir.MainLoop.Alarm

namespace Mir.Input

open Mir.MainLoop Monitor Transition

/-! ### The data under the mutex -/

/-- The alarms of a keyboard, each as the timer source that it has a handle of. -/
structure KeyboardState where
  repeatAlarmsByScancode : UnorderedMap Int TimerID

def KeyboardState.empty : KeyboardState := ⟨.empty fun _ => 0⟩

/-- `made` has for each timer source the key that its callback repeats, and `attached` are the
sources that were not dispatched yet. A source whose alarm was destroyed may be among them: it is
disabled. The order in which the maps are walked is left as it comes. -/
structure RepeatState where
  repeatStateByDevice : UnorderedMap DeviceID KeyboardState
  touchButtonDevice : Option DeviceID
  made : List (DeviceID × Int)
  attached : List TimerID

/-- The calls that lock the mutex; the last is made by the callback of an alarm. -/
inductive RepeatCall
  | setTouchButtonDevice (id : DeviceID)
  | removeDevice (id : DeviceID)
  | handleKeyInput (id : DeviceID) (action : KeyboardAction) (scanCode : Int)
  | stop
  | repeatKey (source : TimerID)
  deriving DecidableEq

namespace RepeatState

def initial : RepeatState := ⟨.empty fun _ => .empty, none, [], []⟩

variable (state : RepeatState)

def ensureStateForDevice (id : DeviceID) : RepeatState :=
  { state with repeatStateByDevice := state.repeatStateByDevice.emplace id .empty [] }

def alarms (id : DeviceID) : UnorderedMap Int TimerID :=
  ((state.repeatStateByDevice.find id).getD .empty).repeatAlarmsByScancode

def changeAlarms (id : DeviceID)
    (change : UnorderedMap Int TimerID → UnorderedMap Int TimerID) : RepeatState :=
  { state with
    repeatStateByDevice := state.repeatStateByDevice.modify id fun device =>
      ⟨change device.repeatAlarmsByScancode⟩ }

/-- A new timer source for a key. -/
def schedule (id : DeviceID) (scanCode : Int) : RepeatState :=
  { state with
    made := state.made ++ [(id, scanCode)]
    attached := state.attached ++ [state.made.length] }

/-! ### The calls -/

def setTouchButtonDevice (id : DeviceID) : Entry RepeatState TimerID :=
  ⟨{ state with touchButtonDevice := some id }, [], []⟩

/-- The alarms of the device are destroyed. -/
def removeDevice (id : DeviceID) : Entry RepeatState TimerID :=
  ⟨{ state with
      repeatStateByDevice := state.repeatStateByDevice.erase id
      touchButtonDevice :=
        if state.touchButtonDevice = some id then none else state.touchButtonDevice },
    (state.alarms id).values, []⟩

/-- The alarm of a key that goes up is destroyed; a second down repeats the key at once. -/
def handleKeyInput (id : DeviceID) (action : KeyboardAction) (scanCode : Int) :
    Entry RepeatState TimerID :=
  let ensured := state.ensureStateForDevice id
  match action, (ensured.alarms id).find scanCode with
  | .up, none => ⟨ensured, [], []⟩
  | .up, some alarm => ⟨ensured.changeAlarms id fun alarms => alarms.erase scanCode, [alarm], []⟩
  | .down, some _ => ⟨ensured, [], []⟩
  | .down, none =>
    ⟨(ensured.changeAlarms id fun alarms =>
        alarms.emplace scanCode state.made.length []).schedule id scanCode, [], []⟩
  | .repeat, _ => ⟨ensured, [], []⟩

def stop : Entry RepeatState TimerID :=
  ⟨{ state with repeatStateByDevice := .empty fun _ => .empty },
    state.repeatStateByDevice.values.flatMap fun device => device.repeatAlarmsByScancode.values,
    []⟩

/-- The alarm is scheduled again: it has a new timer source. -/
def repeatKey (source : TimerID) : Entry RepeatState TimerID :=
  match state.made[source]? with
  | none => ⟨state, [], []⟩
  | some (id, scanCode) =>
    ⟨(state.changeAlarms id fun alarms =>
        alarms.modify scanCode fun _ => state.made.length).schedule id scanCode, [], []⟩

def enter : RepeatCall → Entry RepeatState TimerID
  | .setTouchButtonDevice id => state.setTouchButtonDevice id
  | .removeDevice id => state.removeDevice id
  | .handleKeyInput id action scanCode => state.handleKeyInput id action scanCode
  | .stop => state.stop
  | .repeatKey source => state.repeatKey source

end RepeatState

def RepeatCall.isOfCallback : RepeatCall → Bool
  | repeatKey _ => true
  | _ => false

/-- The threads around the dispatcher. A timer source is dispatched once, and its callback repeats
its key. -/
def keyRepeatDispatcher : Monitor RepeatState RepeatCall TimerID where
  enter := RepeatState.enter
  leave state _ := state
  offers call := !call.isOfCallback
  ready state source := decide (source ∈ state.attached)
  script _ source calls := decide (calls = [.repeatKey source])
  take state source := { state with attached := state.attached.erase source }
  start state _ := state

/-! ### Every run -/

section Runs

variable {Thread : Type} [Fintype Thread] [DecidableEq Thread] {loop : Thread}
  {state : State Thread RepeatState RepeatCall TimerID}

/-- In every run in which no alarm is destroyed that has begun to run and not yet locked the mutex,
no two threads wait for each other; otherwise they come to it. -/
theorem key_repeat_does_not_deadlock
    (reached : Reaches (keyRepeatDispatcher.step loop) (keyRepeatDispatcher.KeepsClear loop)
      (initial .initial) state) :
    ¬ Crossed loop state ∧ ∀ move, ¬ keyRepeatDispatcher.KeepsClear loop state move →
      ∃ moves, Crossed loop (List.foldl (keyRepeatDispatcher.step loop)
        (keyRepeatDispatcher.step loop state move) moves) :=
  not_crossed_of_keepsClear reached

/-- A key goes down, is repeated, and goes up when its alarm rests. -/
def pressAndRelease : List (Move (Fin 2) RepeatCall TimerID) :=
  [.call 1 (.handleKeyInput 7 .down 30), .lock 1, .unlock 1, .dispatch 0 [.repeatKey 0],
    .lockSource, .lock 0, .unlock 0, .endCallback, .call 1 (.handleKeyInput 7 .up 30), .lock 1,
    .lockContext 1, .unlockContext 1, .unlock 1]

theorem key_repeat_does_not_deadlock_when_released :
    let state := pressAndRelease.foldl (keyRepeatDispatcher.step 0) (initial .initial)
    ¬ Crossed 0 state ∧ ∀ move, ¬ keyRepeatDispatcher.KeepsClear 0 state move →
      ∃ moves, Crossed 0 (List.foldl (keyRepeatDispatcher.step 0)
        (keyRepeatDispatcher.step 0 state move) moves) :=
  key_repeat_does_not_deadlock (Reaches.start.foldl pressAndRelease (by decide))

/-- The key goes up when the loop has locked the context of its alarm: each waits for the other. -/
theorem key_up_meets_its_alarm :
    ¬ ∀ moves : List (Move (Fin 2) RepeatCall TimerID),
      ¬ Crossed 0 (moves.foldl (keyRepeatDispatcher.step 0) (initial .initial)) := by
  intro claimed
  refine claimed [.call 1 (.handleKeyInput 7 .down 30), .lock 1, .unlock 1,
    .dispatch 0 [.repeatKey 0], .lockSource, .call 1 (.handleKeyInput 7 .up 30), .lock 1] ?_
  refine ⟨0, 1, by decide, ⟨.mutex, ⟨rfl, ?_⟩, rfl⟩, .context 0, rfl, .inl ⟨rfl, rfl⟩⟩
  exact List.cons_ne_nil (RepeatCall.repeatKey 0) []

end Runs

end Mir.Input

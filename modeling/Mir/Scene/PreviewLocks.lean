/-
This file proves when the alarm that ends a preview does not deadlock with the calls of sessions.
Its callback locks the configuration mutex to read the base configuration. A cancellation takes the
alarm away under this mutex and cancels it afterwards; a confirmation destroys it under the mutex.
-/

import Mir.Library.CrossedLocks
import Mir.MainLoop.Alarm
import Mir.Scene.DisplayChanger

namespace Mir.Scene

open Mir.MainLoop Monitor Transition

/-- What the changer keeps of a preview, the alarm being the timer source that it has a handle of.
`made` counts the timer sources, and `attached` are those that were not dispatched yet. -/
structure PreviewState where
  previewConfigurationTimeout : Option TimerID
  currentlyPreviewingSession : Option SessionID
  made : Nat
  attached : List TimerID

/-- The calls that lock the mutex. The last is for all that leave the alarm alone. -/
inductive PreviewCall
  | previewBaseConfiguration (session : SessionID)
  | confirmBaseConfiguration
  | cancelBaseConfigurationPreview (session : SessionID)
  | baseConfiguration
  | otherCall
  deriving DecidableEq

namespace PreviewState

def initial : PreviewState := ⟨none, none, 0, []⟩

variable (state : PreviewState)

/-- A preview is refused while there is an alarm. -/
def previewBaseConfiguration (session : SessionID) : Entry PreviewState TimerID :=
  match state.previewConfigurationTimeout with
  | some _ => ⟨state, [], []⟩
  | none =>
    ⟨{ previewConfigurationTimeout := some state.made
       currentlyPreviewingSession := some session
       made := state.made + 1
       attached := state.attached ++ [state.made] }, [], []⟩

def ended : PreviewState :=
  { state with previewConfigurationTimeout := none, currentlyPreviewingSession := none }

def confirmBaseConfiguration : Entry PreviewState TimerID :=
  ⟨state.ended, state.previewConfigurationTimeout.toList, []⟩

/-- To cancel an alarm is to lock its context, and so is to destroy it. -/
def cancelBaseConfigurationPreview (session : SessionID) : Entry PreviewState TimerID :=
  match state.previewConfigurationTimeout with
  | none => ⟨state, [], []⟩
  | some alarm =>
    if state.currentlyPreviewingSession = some session then ⟨state.ended, [], [alarm, alarm]⟩
    else ⟨state, [], []⟩

def enter : PreviewCall → Entry PreviewState TimerID
  | .previewBaseConfiguration session => state.previewBaseConfiguration session
  | .confirmBaseConfiguration => state.confirmBaseConfiguration
  | .cancelBaseConfigurationPreview session => state.cancelBaseConfigurationPreview session
  | .baseConfiguration | .otherCall => ⟨state, [], []⟩

end PreviewState

/-- The threads around a changer. The callback of the alarm reads the base configuration, unless
its session is gone or the display throws. -/
def previewChanger : Monitor PreviewState PreviewCall TimerID where
  enter := PreviewState.enter
  leave state _ := state
  offers _ := true
  ready state source := decide (source ∈ state.attached)
  script _ _ calls := decide (calls = [] ∨ calls = [.baseConfiguration])
  take state source := { state with attached := state.attached.erase source }
  start state _ := state

/-! ### Every run -/

section Runs

variable {Thread : Type} [Fintype Thread] [DecidableEq Thread] {loop : Thread}
  {state : State Thread PreviewState PreviewCall TimerID}

/-- In every run in which no confirmation destroys an alarm whose callback has begun and is still to
read the base configuration, no two threads wait for each other; otherwise they come to it. -/
theorem preview_timeout_does_not_deadlock
    (reached : Reaches (previewChanger.step loop) (previewChanger.KeepsClear loop)
      (initial .initial) state) :
    ¬ Crossed loop state ∧ ∀ move, ¬ previewChanger.KeepsClear loop state move →
      ∃ moves, Crossed loop (List.foldl (previewChanger.step loop)
        (previewChanger.step loop state move) moves) :=
  not_crossed_of_keepsClear reached

/-- A preview times out and is confirmed; another one is cancelled when it times out. -/
def confirmAndCancel : List (Move (Fin 2) PreviewCall TimerID) :=
  [.call 1 (.previewBaseConfiguration 7), .lock 1, .unlock 1, .dispatch 0 [.baseConfiguration],
    .lockSource, .lock 0, .unlock 0, .call 1 .confirmBaseConfiguration, .lock 1, .endCallback,
    .lockContext 1, .unlockContext 1, .unlock 1, .call 1 (.previewBaseConfiguration 7), .lock 1,
    .unlock 1, .dispatch 0 [.baseConfiguration], .lockSource,
    .call 1 (.cancelBaseConfigurationPreview 7), .lock 1, .unlock 1, .lockContext 1, .lock 0,
    .unlock 0, .endCallback, .lockContext 1, .unlockContext 1]

theorem preview_timeout_does_not_deadlock_when_cancelled :
    let state := confirmAndCancel.foldl (previewChanger.step 0) (initial .initial)
    ¬ Crossed 0 state ∧ ∀ move, ¬ previewChanger.KeepsClear 0 state move →
      ∃ moves, Crossed 0 (List.foldl (previewChanger.step 0)
        (previewChanger.step 0 state move) moves) :=
  preview_timeout_does_not_deadlock (Reaches.start.foldl confirmAndCancel (by decide))

/-- The preview is confirmed when the loop has begun to run its alarm: each waits for the other. -/
theorem confirmation_meets_the_timeout :
    ¬ ∀ moves : List (Move (Fin 2) PreviewCall TimerID),
      ¬ Crossed 0 (moves.foldl (previewChanger.step 0) (initial .initial)) := by
  intro claimed
  refine claimed [.call 1 (.previewBaseConfiguration 7), .lock 1, .unlock 1,
    .dispatch 0 [.baseConfiguration], .lockSource, .call 1 .confirmBaseConfiguration, .lock 1] ?_
  refine ⟨0, 1, by decide, ⟨.mutex, ⟨rfl, ?_⟩, rfl⟩, .context 0, rfl, .inl ⟨rfl, rfl⟩⟩
  exact List.cons_ne_nil PreviewCall.baseConfiguration []

end Runs

end Mir.Scene

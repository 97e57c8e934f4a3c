/-
This file proves when callbacks may call the main loop again without a deadlock. The callback of an
alarm may cancel or reschedule the alarm, and the handler of a file descriptor may register and
unregister handlers. Both run with the context of their source locked; another thread that cancels
the alarm or unregisters the handler locks this context while it holds the mutex of the alarm or of
the sources.
-/

import Mir.Library.CrossedLocks
import Mir.MainLoop.Alarm

namespace Mir.MainLoop

open Monitor Transition

/-! ### An alarm -/

/-- What the mutex of an alarm guards. `attached` are the timer sources that the loop may find
ready. -/
structure AlarmData where
  state : AlarmState
  gsource : Option TimerID
  made : Nat
  attached : List TimerID

inductive AlarmRequest
  | cancel
  | state
  | rescheduleFor
  deriving DecidableEq

namespace AlarmData

def initial : AlarmData := ⟨.cancelled, none, 0, []⟩

variable (data : AlarmData)

/-- The context of the source is locked and unlocked again before the state is read. -/
def enter : AlarmRequest → Entry AlarmData TimerID
  | .cancel => ⟨data, data.gsource.toList, []⟩
  | .state => ⟨data, [], []⟩
  | .rescheduleFor =>
    ⟨{ state := .pending
       gsource := some data.made
       made := data.made + 1
       attached :=
        (data.attached.filter fun source => some source ≠ data.gsource) ++ [data.made] }, [], []⟩

def leave : AlarmRequest → AlarmData
  | .cancel =>
    if data.state = .pending then
      { data with
        state := .cancelled
        gsource := none
        attached := data.attached.filter fun source => some source ≠ data.gsource }
    else data
  | .state | .rescheduleFor => data

end AlarmData

/-- The threads around an alarm. The state is set to triggered without the mutex, and the callback
may make any calls. -/
def alarmMonitor : Monitor AlarmData AlarmRequest TimerID where
  enter := AlarmData.enter
  leave := AlarmData.leave
  offers _ := true
  ready data source := decide (source ∈ data.attached)
  script _ _ _ := true
  take data source := { data with attached := data.attached.erase source }
  start data _ := { data with state := .triggered }

/-! ### The sources of file descriptors -/

/-- A source with the number of its context. -/
structure FdSource where
  context : Nat
  owner : Nat
  deriving DecidableEq

structure FdSources where
  sources : List FdSource
  made : Nat

inductive FdRequest
  | registerFdHandler (owner : Nat)
  | unregisterFdHandler (owner : Nat)
  deriving DecidableEq

namespace FdSources

def initial : FdSources := ⟨[], 0⟩

variable (data : FdSources)

def enter : FdRequest → Entry FdSources Nat
  | .registerFdHandler owner =>
    ⟨{ sources := data.sources ++ [⟨data.made, owner⟩], made := data.made + 1 }, [], []⟩
  | .unregisterFdHandler owner =>
    ⟨data, (data.sources.filter fun source => source.owner = owner).map FdSource.context, []⟩

/-- A source is destroyed after its context was disabled. -/
def leave : FdRequest → FdSources
  | .registerFdHandler _ => data
  | .unregisterFdHandler owner =>
    { data with sources := data.sources.filter fun source => source.owner ≠ owner }

end FdSources

/-- The threads around the sources. A source goes on after it was dispatched, and its handler may
make any calls. -/
def fdMonitor : Monitor FdSources FdRequest Nat where
  enter := FdSources.enter
  leave := FdSources.leave
  offers _ := true
  ready data context := decide (context ∈ data.sources.map FdSource.context)
  script _ _ _ := true
  take data _ := data
  start data _ := data

/-! ### Every run -/

section Runs

variable {Thread : Type} [Fintype Thread] [DecidableEq Thread] {loop : Thread}
  {alarm : State Thread AlarmData AlarmRequest TimerID}
  {sources : State Thread FdSources FdRequest Nat}

/-- In every run in which no thread cancels an alarm or unregisters a handler while its callback has
begun and has still a call to make, no two threads wait for each other; otherwise they come to
it. -/
theorem callbacks_reenter_without_deadlock
    (alarmReached : Reaches (alarmMonitor.step loop) (alarmMonitor.KeepsClear loop)
      (initial .initial) alarm)
    (sourcesReached : Reaches (fdMonitor.step loop) (fdMonitor.KeepsClear loop)
      (initial .initial) sources) :
    (¬ Crossed loop alarm ∧ ∀ move, ¬ alarmMonitor.KeepsClear loop alarm move →
      ∃ moves, Crossed loop (List.foldl (alarmMonitor.step loop)
        (alarmMonitor.step loop alarm move) moves)) ∧
    ¬ Crossed loop sources ∧ ∀ move, ¬ fdMonitor.KeepsClear loop sources move →
      ∃ moves, Crossed loop (List.foldl (fdMonitor.step loop)
        (fdMonitor.step loop sources move) moves) :=
  ⟨not_crossed_of_keepsClear alarmReached, not_crossed_of_keepsClear sourcesReached⟩

/-- The alarm is rescheduled by its callback, and cancelled by another thread after that. -/
def rescheduleAndCancel : List (Move (Fin 2) AlarmRequest TimerID) :=
  [.call 1 .rescheduleFor, .lock 1, .unlock 1, .dispatch 0 [.rescheduleFor], .lockSource,
    .lock 0, .unlock 0, .call 1 .cancel, .lock 1, .lockContext 1, .unlockContext 1, .unlock 1,
    .endCallback]

/-- A handler registers another one and unregisters its own, and that of another owner is
unregistered by another thread. -/
def registerAndUnregister : List (Move (Fin 2) FdRequest Nat) :=
  [.call 1 (.registerFdHandler 7), .lock 1, .unlock 1,
    .dispatch 0 [.registerFdHandler 8, .unregisterFdHandler 7], .lockSource, .lock 0, .unlock 0,
    .call 1 (.unregisterFdHandler 8), .lock 1, .lockContext 1, .unlockContext 1, .unlock 1, .lock 0,
    .lockContext 0, .unlockContext 0, .unlock 0, .endCallback]

theorem callbacks_reenter_without_deadlock_in_turn :
    let alarm := rescheduleAndCancel.foldl (alarmMonitor.step 0) (initial .initial)
    let sources := registerAndUnregister.foldl (fdMonitor.step 0) (initial .initial)
    (¬ Crossed 0 alarm ∧ ∀ move, ¬ alarmMonitor.KeepsClear 0 alarm move →
      ∃ moves, Crossed 0 (List.foldl (alarmMonitor.step 0)
        (alarmMonitor.step 0 alarm move) moves)) ∧
    ¬ Crossed 0 sources ∧ ∀ move, ¬ fdMonitor.KeepsClear 0 sources move →
      ∃ moves, Crossed 0 (List.foldl (fdMonitor.step 0) (fdMonitor.step 0 sources move) moves) :=
  callbacks_reenter_without_deadlock (Reaches.start.foldl rescheduleAndCancel (by decide))
    (Reaches.start.foldl registerAndUnregister (by decide))

/-- An alarm is cancelled when its callback is to reschedule it, and a handler is unregistered when
it is to register another: each waits for the other. -/
theorem calls_meet_the_callback :
    (¬ ∀ moves : List (Move (Fin 2) AlarmRequest TimerID),
      ¬ Crossed 0 (moves.foldl (alarmMonitor.step 0) (initial .initial))) ∧
    ¬ ∀ moves : List (Move (Fin 2) FdRequest Nat),
      ¬ Crossed 0 (moves.foldl (fdMonitor.step 0) (initial .initial)) := by
  constructor
  · intro claimed
    refine claimed [.call 1 .rescheduleFor, .lock 1, .unlock 1, .dispatch 0 [.rescheduleFor],
      .lockSource, .call 1 .cancel, .lock 1] ?_
    refine ⟨0, 1, by decide, ⟨.mutex, ⟨rfl, ?_⟩, rfl⟩, .context 0, rfl, .inl ⟨rfl, rfl⟩⟩
    exact List.cons_ne_nil AlarmRequest.rescheduleFor []
  · intro claimed
    refine claimed [.call 1 (.registerFdHandler 7), .lock 1, .unlock 1,
      .dispatch 0 [.registerFdHandler 7], .lockSource, .call 1 (.unregisterFdHandler 7),
      .lock 1] ?_
    refine ⟨0, 1, by decide, ⟨.mutex, ⟨rfl, ?_⟩, rfl⟩, .context 0, rfl, .inl ⟨rfl, rfl⟩⟩
    exact List.cons_ne_nil (FdRequest.registerFdHandler 7) []

end Runs

end Mir.MainLoop

/-
This file embeds the detector of applications that do not respond, and proves that it goes on
looking and blames no session without reason.

An alarm on the main loop starts the ping cycle. Sessions register, unregister and answer on
other threads. Each of these calls does one part under the lock, tells observers and sets the
alarm again afterwards, so the parts of different calls can come in any order. A timer that is
already being dispatched goes off although the alarm has been set again, and so the alarm may
fire in any of its states.
-/

import Mir.Library.OrderedMap
import Mir.Library.Transition

namespace Mir.Scene.NotResponding

abbrev SessionID := Nat

/-! ### The state -/

structure ANRContext where
  repliedSinceLastPing : Bool
  flaggedAsUnresponsive : Bool
  deriving DecidableEq, Repr

def ANRContext.initial : ANRContext := ⟨true, false⟩

def ANRContext.newlyUnresponsive (context : ANRContext) : Bool :=
  !context.repliedSinceLastPing && !context.flaggedAsUnresponsive

def ANRContext.needsPing (context : ANRContext) : Bool := context.repliedSinceLastPing

/-- What a ping cycle does to one session. -/
def ANRContext.pingCycle (context : ANRContext) : ANRContext :=
  if context.newlyUnresponsive then { context with flaggedAsUnresponsive := true }
  else if context.needsPing then { context with repliedSinceLastPing := false }
  else context

inductive AlarmState
  | pending
  | cancelled
  | triggered
  deriving DecidableEq, Repr

/-- How far the main loop is with a ping cycle. -/
inductive PingCycle
  | idle
  | fired
  | notifying (unresponsiveSessions : List SessionID) (needsRearm : Bool)
  deriving DecidableEq, Repr

/-- What a call on another thread has left to do when it has given up the lock. -/
structure Call where
  nowResponsive : Option SessionID
  reschedules : Bool
  deriving DecidableEq, Repr

inductive Notification
  | sessionUnresponsive
  | sessionNowResponsive
  deriving DecidableEq, Repr

/-- What has happened under the lock. -/
inductive Event
  | registered (session : SessionID)
  | unregistered (session : SessionID)
  | pong (session : SessionID)
  | pingCycle (pinged unresponsive : List SessionID)
  deriving DecidableEq, Repr

/-- `notifications` is what the observers were told. The source keeps neither `history` nor
`outstanding`, the changes of flags that observers have yet to hear of, in their order. -/
structure Detector where
  sessions : OrderedMap SessionID ANRContext
  alarm : AlarmState
  cycle : PingCycle
  calls : List Call
  notifications : List (SessionID × Notification)
  outstanding : List (SessionID × Notification)
  history : List Event

namespace Detector

def initial : Detector where
  sessions := .empty
  alarm := .cancelled
  cycle := .idle
  calls := []
  notifications := []
  outstanding := []
  history := []

/-- No call is in progress. -/
def Quiescent (detector : Detector) : Prop := detector.cycle = .idle ∧ detector.calls = []

instance (detector : Detector) : Decidable detector.Quiescent :=
  inferInstanceAs (Decidable (_ ∧ _))

/-! ### The operations -/

/-- The part of `register_session` under the lock. -/
def registerSession (detector : Detector) (session : SessionID) : Detector :=
  { detector with
    sessions := detector.sessions.set session .initial
    calls := detector.calls ++ [⟨none, decide (detector.alarm ≠ .pending)⟩]
    history := detector.history ++ [.registered session] }

def unregisterSession (detector : Detector) (session : SessionID) : Detector :=
  { detector with
    sessions := detector.sessions.erase session
    history := detector.history ++ [.unregistered session] }

/-- The part of `pong_received` under the lock; it throws when the session is not registered. -/
def pongReceived (detector : Detector) (session : SessionID) : Detector :=
  match detector.sessions.find session with
  | none => detector
  | some context =>
    { detector with
      sessions := detector.sessions.set session ⟨true, false⟩
      calls := detector.calls ++
        [⟨if context.flaggedAsUnresponsive then some session else none,
          decide (detector.alarm ≠ .pending)⟩]
      outstanding := detector.outstanding ++
        if context.flaggedAsUnresponsive then [(session, .sessionNowResponsive)] else []
      history := detector.history ++ [.pong session] }

/-- Observers are told, and the change is no longer outstanding. -/
def tell (detector : Detector) (session : SessionID) (notification : Notification) : Detector :=
  { detector with
    notifications := detector.notifications ++ [(session, notification)]
    outstanding := detector.outstanding.erase (session, notification) }

/-- The next thing a call does without the lock: it tells observers, or sets the alarm if it has
to and returns. -/
def proceed (detector : Detector) (number : Nat) : Detector :=
  match detector.calls[number]? with
  | none => detector
  | some ⟨some session, reschedules⟩ =>
    { detector.tell session .sessionNowResponsive with
      calls := detector.calls.set number ⟨none, reschedules⟩ }
  | some ⟨none, reschedules⟩ =>
    { detector with
      alarm := if reschedules then .pending else detector.alarm
      calls := detector.calls.eraseIdx number }

/-- The alarm notes that it is triggered before it calls back. -/
def alarmFires (detector : Detector) : Detector :=
  match detector.cycle with
  | .idle => { detector with alarm := .triggered, cycle := .fired }
  | _ => detector

/-- The part of `handle_ping_cycle` under the lock. -/
def handlePingCycle (detector : Detector) : Detector :=
  match detector.cycle with
  | .fired =>
    let unresponsive := detector.sessions.keysOf ANRContext.newlyUnresponsive
    let pinged := detector.sessions.keysOf ANRContext.needsPing
    { detector with
      sessions := detector.sessions.mapValues ANRContext.pingCycle
      cycle := .notifying unresponsive (!pinged.isEmpty)
      outstanding := detector.outstanding ++
        unresponsive.map fun session => (session, .sessionUnresponsive)
      history := detector.history ++ [.pingCycle pinged unresponsive] }
  | _ => detector

/-- The ping cycle tells observers of one of the sessions. -/
def notifyUnresponsive (detector : Detector) (session : SessionID) : Detector :=
  match detector.cycle with
  | .notifying sessions needsRearm =>
    if session ∈ sessions then
      { detector.tell session .sessionUnresponsive with
        cycle := .notifying (sessions.erase session) needsRearm }
    else detector
  | _ => detector

/-- The ping cycle sets the alarm again if it has to, and returns. -/
def rearm (detector : Detector) : Detector :=
  match detector.cycle with
  | .notifying [] needsRearm =>
    { detector with
      alarm := if needsRearm then .pending else detector.alarm
      cycle := .idle }
  | _ => detector

end Detector

inductive Op
  | registerSession (session : SessionID)
  | unregisterSession (session : SessionID)
  | pongReceived (session : SessionID)
  | proceed (number : Nat)
  | alarmFires
  | handlePingCycle
  | notifyUnresponsive (session : SessionID)
  | rearm
  deriving DecidableEq, Repr

def Detector.step (detector : Detector) : Op → Detector
  | .registerSession session => detector.registerSession session
  | .unregisterSession session => detector.unregisterSession session
  | .pongReceived session => detector.pongReceived session
  | .proceed number => detector.proceed number
  | .alarmFires => detector.alarmFires
  | .handlePingCycle => detector.handlePingCycle
  | .notifyUnresponsive session => detector.notifyUnresponsive session
  | .rearm => detector.rearm

namespace Detector

variable {detector : Detector}

/-- What a call does without the lock, if there is such a call. -/
theorem proceed_cases (detector : Detector) (number : Nat) :
    detector.proceed number = detector ∨
    (∃ session reschedules, detector.calls[number]? = some ⟨some session, reschedules⟩ ∧
      detector.proceed number = { detector.tell session .sessionNowResponsive with
        calls := detector.calls.set number ⟨none, reschedules⟩ }) ∨
    ∃ reschedules, detector.calls[number]? = some ⟨none, reschedules⟩ ∧
      detector.proceed number = { detector with
        alarm := if reschedules then .pending else detector.alarm
        calls := detector.calls.eraseIdx number } := by
  unfold proceed
  split
  · exact .inl rfl
  · rename_i session reschedules found
    exact .inr (.inl ⟨session, reschedules, found, rfl⟩)
  · rename_i reschedules found
    exact .inr (.inr ⟨reschedules, found, rfl⟩)

/-! ### The alarm is set -/

/-- A ping cycle that is under way sets the alarm again if a session needs it. -/
def PingCycle.setsAlarm : PingCycle → Bool
  | .idle => false
  | .fired => true
  | .notifying _ needsRearm => needsRearm

/-- The alarm is set or somebody is about to set it. -/
def Watching (detector : Detector) : Prop :=
  detector.alarm = .pending ∨ PingCycle.setsAlarm detector.cycle = true ∨
    ∃ call ∈ detector.calls, call.reschedules = true

/-- A session that is registered and not flagged is watched. -/
def Watched (detector : Detector) : Prop :=
  ∀ session context, detector.sessions.find session = some context →
    context.flaggedAsUnresponsive = false → detector.Watching

/-- A call that found the alarm not pending sets it. -/
theorem watching_of_call (before : Detector) {next : Detector} {nowResponsive : Option SessionID}
    (sameAlarm : next.alarm = before.alarm)
    (added : next.calls =
      before.calls ++ [⟨nowResponsive, decide (before.alarm ≠ .pending)⟩]) :
    next.Watching := by
  by_cases pending : before.alarm = .pending
  · exact .inl (sameAlarm.trans pending)
  · refine .inr (.inr ⟨⟨nowResponsive, decide (before.alarm ≠ .pending)⟩, ?_,
      decide_eq_true pending⟩)
    rw [added]
    exact List.mem_append_right _ List.mem_cons_self

theorem watching_proceed (watching : detector.Watching) (number : Nat) :
    (detector.proceed number).Watching := by
  rcases detector.proceed_cases number with same | ⟨session, reschedules, found, same⟩ |
    ⟨reschedules, found, same⟩
  · rw [same]
    exact watching
  · rw [same]
    rcases watching with pending | sets | ⟨call, member, will⟩
    · exact .inl pending
    · exact .inr (.inl sets)
    · obtain ⟨other, isOther⟩ := List.mem_iff_getElem?.mp member
      by_cases this : other = number
      · -- the call keeps its intention to set the alarm
        rw [this, found] at isOther
        cases isOther
        refine .inr (.inr ⟨⟨none, reschedules⟩, List.mem_iff_getElem?.mpr ⟨number, ?_⟩, will⟩)
        exact (List.getElem?_set_self (List.getElem?_eq_some_iff.mp found).1)
      · refine .inr (.inr ⟨call, List.mem_iff_getElem?.mpr ⟨other, ?_⟩, will⟩)
        exact (List.getElem?_set_ne (Ne.symm this)).trans isOther
  · rw [same]
    rcases watching with pending | sets | ⟨call, member, will⟩
    · refine .inl ?_
      dsimp only
      split_ifs
      · rfl
      · exact pending
    · exact .inr (.inl sets)
    · by_cases this : reschedules = true
      · exact .inl (if_pos this)
      · obtain ⟨other, isOther⟩ := List.mem_iff_getElem?.mp member
        refine .inr (.inr ⟨call, List.mem_eraseIdx_iff_getElem?.mpr ⟨other, ?_, isOther⟩, will⟩)
        rintro rfl
        rw [found] at isOther
        cases isOther
        exact this will

theorem sessions_proceed (detector : Detector) (number : Nat) :
    (detector.proceed number).sessions = detector.sessions := by
  unfold proceed
  split <;> rfl

theorem watched_step (watched : detector.Watched) (op : Op) : (detector.step op).Watched := by
  cases op with
  | registerSession session =>
    exact fun _ _ _ _ => watching_of_call detector rfl rfl
  | unregisterSession session =>
    intro other context found unflagged
    refine watched other context ?_ unflagged
    have found : (detector.sessions.erase session).find other = some context := found
    rw [OrderedMap.find_erase] at found
    split_ifs at found
    exact found
  | pongReceived session =>
    dsimp only [step]
    unfold pongReceived
    split
    · exact watched
    · exact fun _ _ _ _ => watching_of_call detector rfl rfl
  | proceed number =>
    intro other context found unflagged
    have found : (detector.proceed number).sessions.find other = some context := found
    rw [sessions_proceed] at found
    exact watching_proceed (watched other context found unflagged) number
  | alarmFires =>
    dsimp only [step]
    unfold alarmFires
    split
    · exact fun _ _ _ _ => .inr (.inl rfl)
    · exact watched
  | handlePingCycle =>
    dsimp only [step]
    unfold handlePingCycle
    split
    · intro other context found unflagged
      -- a session that is not flagged now was pinged
      dsimp only at found
      rw [OrderedMap.find_mapValues] at found
      obtain ⟨before, known, rfl⟩ := Option.map_eq_some_iff.mp found
      have pinged : other ∈ detector.sessions.keysOf ANRContext.needsPing := by
        refine (OrderedMap.mem_keysOf _ _ _).mpr ⟨before, known, ?_⟩
        obtain ⟨replied, flagged⟩ := before
        cases replied <;> cases flagged <;> first | rfl | cases unflagged
      refine .inr (.inl ?_)
      simpa [PingCycle.setsAlarm] using List.ne_nil_of_mem pinged
    · exact watched
  | notifyUnresponsive session =>
    dsimp only [step]
    unfold notifyUnresponsive
    split
    · rename_i sessions needsRearm isNotifying
      split_ifs
      · intro other context found unflagged
        have watching := watched other context found unflagged
        unfold Watching at watching ⊢
        rw [isNotifying] at watching
        exact watching
      · exact watched
    · exact watched
  | rearm =>
    dsimp only [step]
    unfold rearm
    split
    · rename_i needsRearm isNotifying
      intro other context found unflagged
      rcases watched other context found unflagged with pending | sets | calls
      · exact .inl (by cases needsRearm <;> simp [pending])
      · rw [isNotifying] at sets
        exact .inl (if_pos sets)
      · exact .inr (.inr calls)
    · exact watched

/-! ### No session is flagged without reason -/

/-- Neither an answer of the session nor the next firing of the alarm. -/
def Silent (session : SessionID) : Event → Prop
  | .registered other => other ≠ session
  | .unregistered other => other ≠ session
  | .pong other => other ≠ session
  | .pingCycle _ _ => False

/-- The session was sent a ping when the alarm last fired, and has not answered. -/
def UnansweredPing (history : List Event) (session : SessionID) : Prop :=
  ∃ earlier pinged unresponsive since,
    history = earlier ++ .pingCycle pinged unresponsive :: since ∧ session ∈ pinged ∧
      ∀ event ∈ since, Silent session event

/-- The alarm fired again without an answer to the ping before, and there was none since. -/
def MissedPeriod (history : List Event) (session : SessionID) : Prop :=
  ∃ period pinged unresponsive since,
    history = period ++ .pingCycle pinged unresponsive :: since ∧
      UnansweredPing period session ∧ session ∈ unresponsive ∧ .pong session ∉ since

theorem UnansweredPing.append {history : List Event} {session : SessionID}
    (unanswered : UnansweredPing history session) {event : Event}
    (silent : Silent session event) : UnansweredPing (history ++ [event]) session := by
  obtain ⟨earlier, pinged, unresponsive, since, rfl, wasPinged, quiet⟩ := unanswered
  refine ⟨earlier, pinged, unresponsive, since ++ [event], by simp, wasPinged, ?_⟩
  intro other member
  rcases List.mem_append.mp member with old | new
  · exact quiet other old
  · rw [List.mem_singleton.mp new]
    exact silent

theorem MissedPeriod.append {history : List Event} {session : SessionID}
    (missed : MissedPeriod history session) {event : Event} (noAnswer : event ≠ .pong session) :
    MissedPeriod (history ++ [event]) session := by
  obtain ⟨period, pinged, unresponsive, since, rfl, unanswered, flagged, noPong⟩ := missed
  refine ⟨period, pinged, unresponsive, since ++ [event], by simp, unanswered, flagged, ?_⟩
  intro member
  rcases List.mem_append.mp member with old | new
  · exact noPong old
  · exact noAnswer (List.mem_singleton.mp new).symm

/-- What is kept about a session is borne out by what has happened. -/
structure BorneOut (history : List Event) (session : SessionID) (context : ANRContext) : Prop where
  pinged : context.newlyUnresponsive = true → UnansweredPing history session
  flagged : context.flaggedAsUnresponsive = true → MissedPeriod history session

def AllBorneOut (detector : Detector) : Prop :=
  ∀ session context, detector.sessions.find session = some context →
    BorneOut detector.history session context

theorem BorneOut.append {history : List Event} {session : SessionID} {context : ANRContext}
    (borneOut : BorneOut history session context) {event : Event}
    (silent : Silent session event) : BorneOut (history ++ [event]) session context where
  pinged new := (borneOut.pinged new).append silent
  flagged isFlagged := by
    refine (borneOut.flagged isFlagged).append ?_
    rintro rfl
    exact silent rfl

/-- A session that has just registered or answered is blamed for nothing. -/
theorem borneOut_responsive (history : List Event) (session : SessionID) :
    BorneOut history session ⟨true, false⟩ where
  pinged new := by cases new
  flagged isFlagged := by cases isFlagged

theorem borneOut_pingCycle {session : SessionID} {context : ANRContext}
    (found : detector.sessions.find session = some context)
    (borneOut : BorneOut detector.history session context) :
    BorneOut (detector.history ++
      [.pingCycle (detector.sessions.keysOf ANRContext.needsPing)
        (detector.sessions.keysOf ANRContext.newlyUnresponsive)]) session context.pingCycle := by
  obtain ⟨replied, flagged⟩ := context
  refine ⟨fun unanswered => ?_, fun isFlagged => ?_⟩
  · -- only a session that had answered is pinged
    have had : replied = true := by
      cases replied
      · cases flagged <;> cases unanswered
      · rfl
    refine ⟨detector.history, _, _, [], rfl, ?_, fun _ member => by cases member⟩
    exact (OrderedMap.mem_keysOf _ _ _).mpr ⟨⟨replied, flagged⟩, found, had⟩
  · cases flagged with
    | true => exact (borneOut.flagged rfl).append (by simp)
    | false =>
      have silent : replied = false := by
        cases replied
        · rfl
        · cases isFlagged
      subst silent
      refine ⟨detector.history, _, _, [], rfl, borneOut.pinged rfl, ?_, List.not_mem_nil⟩
      exact (OrderedMap.mem_keysOf _ _ _).mpr ⟨⟨false, false⟩, found, rfl⟩

/-- Registering and answering concern one session only. -/
theorem allBorneOut_set (borneOut : detector.AllBorneOut) (session : SessionID) (event : Event)
    (others : ∀ other, other ≠ session → Silent other event) {next : Detector}
    (isSessions : next.sessions = detector.sessions.set session ⟨true, false⟩)
    (isHistory : next.history = detector.history ++ [event]) : next.AllBorneOut := by
  intro other context found
  rw [isSessions, OrderedMap.find_set] at found
  rw [isHistory]
  split_ifs at found with same
  · cases found
    exact borneOut_responsive _ other
  · exact (borneOut other context found).append (others other same)

theorem allBorneOut_step (borneOut : detector.AllBorneOut) (op : Op) :
    (detector.step op).AllBorneOut := by
  cases op with
  | registerSession session =>
    exact allBorneOut_set borneOut session (.registered session)
      (fun _ different => Ne.symm different) rfl rfl
  | unregisterSession session =>
    intro other context found
    have found : (detector.sessions.erase session).find other = some context := found
    rw [OrderedMap.find_erase] at found
    split_ifs at found with same
    exact (borneOut other context found).append (Ne.symm same)
  | pongReceived session =>
    dsimp only [step]
    unfold pongReceived
    split
    · exact borneOut
    · exact allBorneOut_set borneOut session (.pong session)
        (fun _ different => Ne.symm different) rfl rfl
  | proceed number =>
    rcases detector.proceed_cases number with same | ⟨_, _, _, same⟩ | ⟨_, _, same⟩
    all_goals
      dsimp only [step]
      rw [same]
      exact borneOut
  | alarmFires =>
    dsimp only [step]
    unfold alarmFires
    split <;> exact borneOut
  | handlePingCycle =>
    dsimp only [step]
    unfold handlePingCycle
    split
    · intro other context found
      dsimp only at found
      rw [OrderedMap.find_mapValues] at found
      obtain ⟨before, known, rfl⟩ := Option.map_eq_some_iff.mp found
      exact borneOut_pingCycle known (borneOut other before known)
    · exact borneOut
  | notifyUnresponsive session =>
    dsimp only [step]
    unfold notifyUnresponsive
    split
    · split_ifs <;> exact borneOut
    · exact borneOut
  | rearm =>
    dsimp only [step]
    unfold rearm
    split <;> exact borneOut

/-- In every run, when no call is in progress and a registered session is not flagged, the alarm
is pending; and a flagged session was sent a ping at one firing of the alarm and had not answered
when the alarm next fired. -/
theorem detection_goes_on {detector : Detector}
    (reached : Transition.Reaches step (fun _ _ => True) initial detector) :
    (detector.Quiescent → (∃ session context, detector.sessions.find session = some context ∧
      context.flaggedAsUnresponsive = false) → detector.alarm = .pending) ∧
    ∀ session context, detector.sessions.find session = some context →
      context.flaggedAsUnresponsive = true → MissedPeriod detector.history session := by
  have watched : detector.Watched := by
    refine reached.invariant (fun _ _ found => ?_) fun _ op before _ => watched_step before op
    cases found
  have borneOut : detector.AllBorneOut := by
    refine reached.invariant (fun _ _ found => ?_) fun _ op before _ => allBorneOut_step before op
    cases found
  refine ⟨?_, fun session context found => (borneOut session context found).flagged⟩
  rintro ⟨isIdle, noCalls⟩ ⟨session, context, found, unflagged⟩
  rcases watched session context found unflagged with pending | sets | ⟨call, member, -⟩
  · exact pending
  · rw [isIdle] at sets
    cases sets
  · rw [noCalls] at member
    cases member

/-- One session answers while the alarm has fired and the ping cycle waits for the lock, the other
never does. -/
private def answeredOnce : List Op :=
  [.registerSession 1, .proceed 0, .registerSession 2, .proceed 0, .alarmFires, .handlePingCycle,
    .rearm, .alarmFires, .pongReceived 1, .handlePingCycle, .notifyUnresponsive 2, .proceed 0,
    .rearm]

theorem detection_goes_on_for_one :
    ((answeredOnce.foldl step initial).alarm = .pending) ∧
      MissedPeriod (answeredOnce.foldl step initial).history 2 := by
  have reached : Transition.Reaches step (fun _ _ => True) initial
      (answeredOnce.foldl step initial) :=
    Transition.Reaches.start.foldl answeredOnce (by decide)
  obtain ⟨goesOn, blamed⟩ := detection_goes_on reached
  exact ⟨goesOn (by decide) ⟨1, ⟨false, false⟩, by decide, rfl⟩,
    blamed 2 ⟨false, true⟩ (by decide) rfl⟩

end Detector

end Mir.Scene.NotResponding

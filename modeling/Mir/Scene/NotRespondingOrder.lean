/-
This file proves when the observers of the detector hear of a session's states in turn.

Flags change under the lock, but observers are told without it. The ping cycle flags a session,
the session answers on another thread, and the news that it is responsive again can overtake the
news that it is not. Observers hear of the states in turn as long as no notification overtakes
the one of an earlier change of the same session's flag.
-/

import Mathlib.Data.List.Count
import Mathlib.Data.List.Perm.Basic
import Mir.Library.KeyedLog
import Mir.Scene.NotRespondingDetector

namespace Mir.Scene.NotResponding

open KeyedLog

/-! ### States in turn -/

/-- What an observer expects to hear next about a session. -/
def expected (notifications : List Notification) : Notification :=
  match notifications.getLast? with
  | some .sessionUnresponsive => .sessionNowResponsive
  | _ => .sessionUnresponsive

/-- Each notification is the one expected after those before it. -/
def Alternates (notifications : List Notification) : Prop :=
  ∀ earlier next, earlier ++ [next] <+: notifications → next = expected earlier

theorem expected_append (notifications : List Notification) (last : Notification) :
    expected (notifications ++ [last]) =
      match last with
      | .sessionUnresponsive => .sessionNowResponsive
      | .sessionNowResponsive => .sessionUnresponsive := by
  unfold expected
  rw [List.getLast?_concat]
  cases last <;> rfl

theorem expected_eq_iff (notifications : List Notification) :
    expected notifications = .sessionNowResponsive ↔
      notifications.getLast? = some .sessionUnresponsive := by
  unfold expected
  split
  · rename_i last
    exact ⟨fun _ => last, fun _ => rfl⟩
  · rename_i other
    exact ⟨fun same => (by cases same), fun last => absurd last other⟩

theorem alternates_nil : Alternates [] := by
  intro earlier next shorter
  exact absurd (List.prefix_nil.mp shorter) (List.append_ne_nil_of_right_ne_nil _ (by simp))

theorem Alternates.earlier {first second : List Notification} (alternates : Alternates second)
    (shorter : first <+: second) : Alternates first :=
  fun earlier next begins => alternates earlier next (begins.trans shorter)

theorem Alternates.append {notifications : List Notification}
    (alternates : Alternates notifications) {last : Notification}
    (isExpected : last = expected notifications) : Alternates (notifications ++ [last]) := by
  intro earlier next begins
  rcases List.prefix_concat_iff.mp begins with same | shorter
  · obtain ⟨rfl, isLast⟩ := List.append_inj' same rfl
    cases isLast
    exact isExpected
  · exact alternates earlier next shorter

namespace Detector

/-- What observers were told about a session. -/
def told (detector : Detector) (session : SessionID) : List Notification :=
  about session detector.notifications

/-- All the changes of a session's flag, those that observers have yet to hear of last. -/
def changes (detector : Detector) (session : SessionID) : List Notification :=
  about session (detector.notifications ++ detector.outstanding)

/-- What an operation is going to tell observers. -/
def tells (detector : Detector) : Op → Option (SessionID × Notification)
  | .proceed number =>
    (detector.calls[number]?.bind Call.nowResponsive).map fun session =>
      (session, .sessionNowResponsive)
  | .notifyUnresponsive session =>
    match detector.cycle with
    | .notifying sessions _ =>
      if session ∈ sessions then some (session, .sessionUnresponsive) else none
    | _ => none
  | _ => none

/-- The notification of an earlier change to the other state is not overtaken. -/
def InTurn (detector : Detector) (op : Op) : Prop :=
  ∀ session notification, detector.tells op = some (session, notification) →
    (about session detector.outstanding).head? = some notification

instance (detector : Detector) (op : Op) : Decidable (detector.InTurn op) :=
  decidable_of_iff
    (∀ entry ∈ detector.tells op, (about entry.1 detector.outstanding).head? = some entry.2)
    ⟨fun inTurn session notification tells => inTurn (session, notification) tells,
      fun inTurn entry tells => inTurn entry.1 entry.2 tells⟩

/-- A session registers once. -/
def RegistersOnce (detector : Detector) : Op → Prop
  | .registerSession session => .registered session ∉ detector.history
  | _ => True

instance (detector : Detector) : ∀ op, Decidable (detector.RegistersOnce op)
  | .registerSession session => inferInstanceAs (Decidable (Event.registered session ∉ _))
  | .unregisterSession _ | .pongReceived _ | .proceed _ | .alarmFires | .handlePingCycle
  | .notifyUnresponsive _ | .rearm => inferInstanceAs (Decidable True)

/-- What the ping cycle has yet to tell observers of. -/
def PingCycle.unresponsive : PingCycle → List SessionID
  | .notifying sessions _ => sessions
  | _ => []

/-- How many calls have yet to tell observers that a session is responsive again. -/
def telling (calls : List Call) (session : SessionID) : Nat :=
  calls.countP fun call => call.nowResponsive = some session

/-- The changes alternate, and each that observers have yet to hear of is in the hands of one
call. -/
structure Ordered (detector : Detector) : Prop where
  alternates : ∀ session, Alternates (detector.changes session)
  agrees : ∀ session context, detector.sessions.find session = some context →
    (expected (detector.changes session) = .sessionNowResponsive ↔
      context.flaggedAsUnresponsive = true)
  unknown : ∀ session, .registered session ∉ detector.history → detector.changes session = []
  known : ∀ session context, detector.sessions.find session = some context →
    .registered session ∈ detector.history
  cycle : ∀ session, detector.outstanding.count (session, .sessionUnresponsive) =
    (PingCycle.unresponsive detector.cycle).count session
  calls : ∀ session, detector.outstanding.count (session, .sessionNowResponsive) =
    telling detector.calls session

variable {detector : Detector}

/-- What is told in turn was the first of the changes outstanding. -/
theorem changes_tell {session : SessionID} {notification : Notification}
    (first : (about session detector.outstanding).head? = some notification) (other : SessionID) :
    (detector.tell session notification).changes other = detector.changes other := by
  unfold changes tell
  rw [about_append, about_append, about_append, about_cons, about_erase]
  by_cases same : session = other
  · subst same
    obtain ⟨rest, isFirst⟩ := List.head?_eq_some_iff.mp first
    rw [if_pos rfl, if_pos rfl, isFirst, List.erase_cons_head]
    simp
  · rw [if_neg same, if_neg same]
    simp

theorem telling_append (calls : List Call) (call : Call) (session : SessionID) :
    telling (calls ++ [call]) session =
      telling calls session + if call.nowResponsive = some session then 1 else 0 := by
  unfold telling
  rw [List.countP_append, List.countP_singleton]
  simp

/-- A call that has told observers, or has returned, has nothing more to tell. -/
theorem telling_set {calls : List Call} {number : Nat} {call : Call}
    (found : calls[number]? = some call) (next : Call) (session : SessionID)
    (silent : next.nowResponsive = none) :
    telling (calls.set number next) session +
      (if call.nowResponsive = some session then 1 else 0) = telling calls session := by
  obtain ⟨inside, isCall⟩ := List.getElem?_eq_some_iff.mp found
  unfold telling
  rw [List.countP_set inside, isCall, silent]
  have counted : call.nowResponsive = some session →
      0 < calls.countP fun call => call.nowResponsive = some session := fun tells =>
    List.countP_pos_iff.mpr ⟨call, List.mem_of_getElem? found, decide_eq_true tells⟩
  by_cases tells : call.nowResponsive = some session
  · have positive := counted tells
    simp only [tells]
    simp
    omega
  · simp [tells]

theorem telling_eraseIdx {calls : List Call} {number : Nat} {call : Call}
    (found : calls[number]? = some call) (session : SessionID)
    (silent : call.nowResponsive = none) :
    telling (calls.eraseIdx number) session = telling calls session := by
  obtain ⟨inside, isCall⟩ := List.getElem?_eq_some_iff.mp found
  have moved : (call :: calls.eraseIdx number).Perm calls := by
    rw [← isCall]
    exact List.getElem_cons_eraseIdx_perm inside
  unfold telling
  rw [← moved.countP_eq, List.countP_cons, silent]
  simp

theorem Ordered.registerSession (ordered : detector.Ordered) {session : SessionID}
    (once : .registered session ∉ detector.history) :
    (detector.registerSession session).Ordered where
  alternates := ordered.alternates
  agrees other context found := by
    have found : (detector.sessions.set session .initial).find other = some context := found
    rw [OrderedMap.find_set] at found
    split_ifs at found with same
    · cases found
      have none : detector.changes other = [] := ordered.unknown other (same ▸ once)
      show expected (detector.changes other) = _ ↔ _
      rw [none]
      decide
    · exact ordered.agrees other context found
  unknown other new := ordered.unknown other fun old => new (List.mem_append_left _ old)
  known other context found := by
    have found : (detector.sessions.set session .initial).find other = some context := found
    rw [OrderedMap.find_set] at found
    split_ifs at found with same
    · subst same
      exact List.mem_append_right _ List.mem_cons_self
    · exact List.mem_append_left _ (ordered.known other context found)
  cycle := ordered.cycle
  calls other := by
    show _ = telling (detector.calls ++ _) other
    rw [telling_append]
    exact ordered.calls other

theorem Ordered.unregisterSession (ordered : detector.Ordered) (session : SessionID) :
    (detector.unregisterSession session).Ordered where
  alternates := ordered.alternates
  agrees other context found := by
    have found : (detector.sessions.erase session).find other = some context := found
    rw [OrderedMap.find_erase] at found
    split_ifs at found
    exact ordered.agrees other context found
  unknown other new := ordered.unknown other fun old => new (List.mem_append_left _ old)
  known other context found := by
    have found : (detector.sessions.erase session).find other = some context := found
    rw [OrderedMap.find_erase] at found
    split_ifs at found
    exact List.mem_append_left _ (ordered.known other context found)
  cycle := ordered.cycle
  calls := ordered.calls

/-- An answer of a flagged session is one more change, and of no other session. -/
theorem changes_pongReceived {session : SessionID} {context : ANRContext}
    (found : detector.sessions.find session = some context) (other : SessionID) :
    (detector.pongReceived session).changes other = detector.changes other ++
      if other = session ∧ context.flaggedAsUnresponsive = true then [.sessionNowResponsive]
      else [] := by
  unfold pongReceived
  rw [found]
  unfold changes
  dsimp only
  rw [← List.append_assoc, about_append]
  by_cases flagged : context.flaggedAsUnresponsive = true
  · rw [if_pos flagged, about_cons]
    by_cases same : session = other
    · simp [same, flagged]
    · simp [same, Ne.symm same]
  · simp [flagged]

theorem Ordered.pongReceived (ordered : detector.Ordered) (session : SessionID) :
    (detector.pongReceived session).Ordered := by
  cases found : detector.sessions.find session with
  | none =>
    have same : detector.pongReceived session = detector := by
      unfold Detector.pongReceived
      rw [found]
    rw [same]
    exact ordered
  | some context =>
    have grown := changes_pongReceived found
    have answered : (detector.pongReceived session).sessions =
        detector.sessions.set session ⟨true, false⟩ := by
      unfold Detector.pongReceived
      rw [found]
    have noted : (detector.pongReceived session).history = detector.history ++ [.pong session] := by
      unfold Detector.pongReceived
      rw [found]
    refine ⟨fun other => ?_, fun other next isNext => ?_, fun other new => ?_,
      fun other next isNext => ?_, fun other => ?_, fun other => ?_⟩
    · rw [grown]
      split_ifs with unflags
      · obtain ⟨rfl, flagged⟩ := unflags
        exact (ordered.alternates other).append
          ((ordered.agrees other context found).mpr flagged).symm
      · rw [List.append_nil]
        exact ordered.alternates other
    · rw [answered, OrderedMap.find_set] at isNext
      rw [grown]
      split_ifs at isNext with same
      · subst same
        cases isNext
        by_cases flagged : context.flaggedAsUnresponsive = true
        · rw [if_pos ⟨rfl, flagged⟩, expected_append]
          decide
        · rw [if_neg fun both => flagged both.2, List.append_nil,
            ordered.agrees other context found]
          exact iff_of_false flagged (by decide)
      · rw [if_neg fun both => same both.1, List.append_nil]
        exact ordered.agrees other next isNext
    · rw [noted] at new
      have unknown : .registered other ∉ detector.history := fun old =>
        new (List.mem_append_left _ old)
      rw [grown, ordered.unknown other unknown, if_neg]
      · rfl
      · rintro ⟨rfl, -⟩
        exact unknown (ordered.known other context found)
    · rw [answered, OrderedMap.find_set] at isNext
      rw [noted]
      refine List.mem_append_left _ ?_
      split_ifs at isNext with same
      · exact same ▸ ordered.known session context found
      · exact ordered.known other next isNext
    · have before := ordered.cycle other
      unfold Detector.pongReceived
      rw [found]
      by_cases flagged : context.flaggedAsUnresponsive = true
      · simpa [flagged] using before
      · simpa [flagged] using before
    · have before := ordered.calls other
      unfold Detector.pongReceived
      rw [found]
      dsimp only
      rw [telling_append]
      by_cases flagged : context.flaggedAsUnresponsive = true
      · by_cases same : session = other
        · simpa [flagged, same] using before
        · simpa [flagged, same] using before
      · simpa [flagged] using before

/-- No flag changes, and what is told is told in turn. -/
theorem Ordered.of_changes {next : Detector} (ordered : detector.Ordered)
    (same : ∀ session, next.changes session = detector.changes session)
    (sessions : next.sessions = detector.sessions) (history : next.history = detector.history)
    (cycle : ∀ session, next.outstanding.count (session, .sessionUnresponsive) =
      (PingCycle.unresponsive next.cycle).count session)
    (calls : ∀ session, next.outstanding.count (session, .sessionNowResponsive) =
      telling next.calls session) :
    next.Ordered := by
  refine ⟨fun session => ?_, fun session context => ?_, fun session => ?_,
    fun session context => ?_, cycle, calls⟩
  · rw [same]
    exact ordered.alternates session
  · rw [same, sessions]
    exact ordered.agrees session context
  · rw [same, history]
    exact ordered.unknown session
  · rw [sessions, history]
    exact ordered.known session context

theorem Ordered.proceed (ordered : detector.Ordered) {number : Nat}
    (inTurn : detector.InTurn (.proceed number)) : (detector.proceed number).Ordered := by
  rcases detector.proceed_cases number with same | ⟨session, reschedules, found, same⟩ |
    ⟨reschedules, found, same⟩
  · rw [same]
    exact ordered
  · have first : (about session detector.outstanding).head? = some .sessionNowResponsive := by
      refine inTurn session .sessionNowResponsive ?_
      show (detector.calls[number]?.bind Call.nowResponsive).map _ = _
      rw [found]
      rfl
    rw [same]
    refine ordered.of_changes (changes_tell first) rfl rfl (fun other => ?_) fun other => ?_
    · show (detector.outstanding.erase _).count _ = _
      rw [List.count_erase_of_ne (by simp)]
      exact ordered.cycle other
    · have told := telling_set found (⟨none, reschedules⟩ : Call) other rfl
      have before := ordered.calls other
      show (detector.outstanding.erase _).count _ = _
      rw [List.count_erase]
      by_cases isOther : session = other
      · simp [isOther] at told ⊢
        omega
      · simp [isOther] at told ⊢
        omega
  · rw [same]
    refine ordered.of_changes (fun _ => rfl) rfl rfl ordered.cycle fun other => ?_
    rw [telling_eraseIdx found other rfl]
    exact ordered.calls other

theorem Ordered.notifyUnresponsive (ordered : detector.Ordered) {session : SessionID}
    (inTurn : detector.InTurn (.notifyUnresponsive session)) :
    (detector.notifyUnresponsive session).Ordered := by
  unfold Detector.notifyUnresponsive
  unfold InTurn tells at inTurn
  split
  · rename_i sessions needsRearm isNotifying
    rw [isNotifying] at inTurn
    split_ifs with member
    · have first := inTurn session .sessionUnresponsive (if_pos member)
      refine ordered.of_changes (changes_tell first) rfl rfl (fun other => ?_) fun other => ?_
      · have before := ordered.cycle other
        rw [isNotifying] at before
        show (detector.outstanding.erase _).count _ = (sessions.erase session).count other
        rw [List.count_erase, List.count_erase, before]
        by_cases isOther : session = other
        · simp [isOther, PingCycle.unresponsive]
        · simp [isOther, PingCycle.unresponsive]
      · show (detector.outstanding.erase _).count _ = _
        rw [List.count_erase_of_ne (by simp)]
        exact ordered.calls other
    · exact ordered
  · exact ordered

/-- The sessions that a ping cycle flags, each as one more change. -/
theorem changes_handlePingCycle (fired : detector.cycle = .fired) (session : SessionID) :
    detector.handlePingCycle.changes session = detector.changes session ++
      if session ∈ detector.sessions.keysOf ANRContext.newlyUnresponsive then
        [.sessionUnresponsive]
      else [] := by
  unfold handlePingCycle
  rw [fired]
  unfold changes
  dsimp only
  rw [← List.append_assoc, about_append,
    about_map session (OrderedMap.nodup_keysOf _ _)]

theorem Ordered.handlePingCycle (ordered : detector.Ordered) :
    detector.handlePingCycle.Ordered := by
  by_cases fired : detector.cycle = .fired
  · have grown := changes_handlePingCycle fired
    have cycled : detector.handlePingCycle.sessions =
        detector.sessions.mapValues ANRContext.pingCycle := by
      unfold Detector.handlePingCycle
      rw [fired]
    have noted : ∀ session, .registered session ∈ detector.handlePingCycle.history ↔
        .registered session ∈ detector.history := by
      intro session
      unfold Detector.handlePingCycle
      rw [fired]
      simp
    have unflagged : ∀ session,
        session ∈ detector.sessions.keysOf ANRContext.newlyUnresponsive →
        expected (detector.changes session) = .sessionUnresponsive := by
      intro session member
      obtain ⟨context, found, newly⟩ := (OrderedMap.mem_keysOf _ _ _).mp member
      have agrees := ordered.agrees session context found
      unfold ANRContext.newlyUnresponsive at newly
      cases isExpected : expected (detector.changes session) with
      | sessionUnresponsive => rfl
      | sessionNowResponsive =>
        rw [agrees.mp isExpected] at newly
        simp at newly
    refine ⟨fun session => ?_, fun session next isNext => ?_, fun session new => ?_,
      fun session next isNext => ?_, fun session => ?_, fun session => ?_⟩
    · rw [grown]
      split_ifs with flags
      · exact (ordered.alternates session).append (unflagged session flags).symm
      · rw [List.append_nil]
        exact ordered.alternates session
    · rw [cycled, OrderedMap.find_mapValues] at isNext
      obtain ⟨before, found, rfl⟩ := Option.map_eq_some_iff.mp isNext
      rw [grown]
      split_ifs with flags
      · obtain ⟨context, isContext, newly⟩ := (OrderedMap.mem_keysOf _ _ _).mp flags
        rw [found] at isContext
        cases isContext
        rw [expected_append]
        simp [ANRContext.pingCycle, newly]
      · have notNewly : before.newlyUnresponsive = false := by
          refine Bool.eq_false_iff.mpr fun newly => flags ?_
          exact (OrderedMap.mem_keysOf _ _ _).mpr ⟨before, found, newly⟩
        rw [List.append_nil, ordered.agrees session before found]
        unfold ANRContext.pingCycle
        rw [notNewly]
        by_cases pings : before.needsPing = true
        · simp [pings]
        · simp [pings]
    · rw [noted] at new
      rw [grown, ordered.unknown session new, if_neg]
      · rfl
      · intro flags
        obtain ⟨context, found, -⟩ := (OrderedMap.mem_keysOf _ _ _).mp flags
        exact new (ordered.known session context found)
    · rw [cycled, OrderedMap.find_mapValues] at isNext
      obtain ⟨before, found, -⟩ := Option.map_eq_some_iff.mp isNext
      exact (noted session).mpr (ordered.known session before found)
    · have before := ordered.cycle session
      unfold Detector.handlePingCycle
      rw [fired] at before ⊢
      dsimp only [PingCycle.unresponsive] at before ⊢
      rw [List.count_append, before, List.count_nil, Nat.zero_add]
      exact List.count_map_of_injective _ _ (fun _ _ same => (Prod.mk.inj same).1) session
    · have before := ordered.calls session
      unfold Detector.handlePingCycle
      rw [fired]
      dsimp only
      rw [List.count_append, before, List.count_eq_zero_of_not_mem (by simp), Nat.add_zero]
  · have same : detector.handlePingCycle = detector := by
      unfold Detector.handlePingCycle
      split
      · exact absurd ‹_› fired
      · rfl
    rw [same]
    exact ordered

theorem Ordered.step (ordered : detector.Ordered) {op : Op} (inTurn : detector.InTurn op)
    (once : detector.RegistersOnce op) : (detector.step op).Ordered := by
  cases op with
  | registerSession session => exact ordered.registerSession once
  | unregisterSession session => exact ordered.unregisterSession session
  | pongReceived session => exact ordered.pongReceived session
  | proceed number => exact ordered.proceed inTurn
  | alarmFires =>
    dsimp only [Detector.step]
    unfold alarmFires
    split
    · rename_i isIdle
      refine ordered.of_changes (fun _ => rfl) rfl rfl (fun session => ?_) ordered.calls
      have before := ordered.cycle session
      rw [isIdle] at before
      exact before
    · exact ordered
  | handlePingCycle => exact ordered.handlePingCycle
  | notifyUnresponsive session => exact ordered.notifyUnresponsive inTurn
  | rearm =>
    dsimp only [Detector.step]
    unfold rearm
    split
    · rename_i needsRearm isNotifying
      refine ordered.of_changes (fun _ => rfl) rfl rfl (fun session => ?_) ordered.calls
      have before := ordered.cycle session
      rw [isNotifying] at before
      exact before
    · exact ordered

/-- What is about to be told is outstanding. -/
theorem Ordered.outstanding (ordered : detector.Ordered) {op : Op} {session : SessionID}
    {notification : Notification} (tells : detector.tells op = some (session, notification)) :
    (session, notification) ∈ detector.outstanding := by
  refine List.count_pos_iff.mp ?_
  cases op with
  | proceed number =>
    obtain ⟨other, isTold, same⟩ := Option.map_eq_some_iff.mp tells
    cases same
    obtain ⟨call, found, nowResponsive⟩ := Option.bind_eq_some_iff.mp isTold
    rw [ordered.calls]
    exact List.countP_pos_iff.mpr
      ⟨call, List.mem_of_getElem? found, decide_eq_true nowResponsive⟩
  | notifyUnresponsive other =>
    have before := ordered.cycle session
    unfold Detector.tells at tells
    dsimp only at tells
    split at tells
    · rename_i sessions needsRearm isNotifying
      split_ifs at tells with member
      cases tells
      rw [before, isNotifying]
      exact List.count_pos_iff.mpr member
    · cases tells
  | _ => cases tells

theorem notifyUnresponsive_of_notifying {sessions : List SessionID} {needsRearm : Bool}
    {session : SessionID} (isNotifying : detector.cycle = .notifying sessions needsRearm)
    (member : session ∈ sessions) :
    detector.notifyUnresponsive session =
      { detector.tell session .sessionUnresponsive with
        cycle := .notifying (sessions.erase session) needsRearm } := by
  unfold notifyUnresponsive
  rw [isNotifying]
  exact if_pos member

/-- Whatever an operation tells observers is the last they were told. -/
theorem told_step {op : Op} {session : SessionID} {notification : Notification}
    (tells : detector.tells op = some (session, notification)) :
    (detector.step op).told session = detector.told session ++ [notification] := by
  have added : (detector.step op).notifications =
      detector.notifications ++ [(session, notification)] := by
    cases op with
    | proceed number =>
      obtain ⟨other, isTold, same⟩ := Option.map_eq_some_iff.mp tells
      cases same
      obtain ⟨⟨nowResponsive, reschedules⟩, found, isOther⟩ := Option.bind_eq_some_iff.mp isTold
      dsimp only at isOther
      subst isOther
      dsimp only [step]
      unfold proceed
      rw [found]
      rfl
    | notifyUnresponsive other =>
      unfold Detector.tells at tells
      dsimp only at tells
      split at tells
      · rename_i sessions needsRearm isNotifying
        split_ifs at tells with member
        cases tells
        show (detector.notifyUnresponsive session).notifications = _
        rw [notifyUnresponsive_of_notifying isNotifying member]
        rfl
      · cases tells
    | _ => cases tells
  unfold told
  rw [added, about_append, about_cons, if_pos rfl]
  rfl

/-- A notification that overtakes another is not the one expected. -/
theorem Ordered.overtaken (ordered : detector.Ordered) {op : Op}
    (overtakes : ¬ detector.InTurn op) :
    ∃ session, ¬ Alternates ((detector.step op).told session) := by
  unfold InTurn at overtakes
  push Not at overtakes
  obtain ⟨session, notification, tells, notFirst⟩ := overtakes
  refine ⟨session, fun alternates => ?_⟩
  have member := (mem_about_iff session notification _).mpr (ordered.outstanding tells)
  obtain ⟨first, rest, isFirst⟩ := List.exists_cons_of_ne_nil (List.ne_nil_of_mem member)
  have whole := ordered.alternates session
  unfold changes at whole
  rw [about_append, isFirst] at whole
  have expectedFirst : first = expected (detector.told session) :=
    whole _ first ⟨rest, by rw [List.append_assoc]; rfl⟩
  rw [told_step tells] at alternates
  have expectedNow : notification = expected (detector.told session) :=
    alternates _ notification List.prefix_rfl
  rw [isFirst, List.head?_cons, expectedFirst, ← expectedNow] at notFirst
  exact notFirst rfl

theorem ordered_initial : initial.Ordered where
  alternates _ := alternates_nil
  agrees _ _ found := by cases found
  unknown _ _ := rfl
  known _ _ found := by cases found
  cycle _ := rfl
  calls _ := rfl

/-- In every run in which no notification overtakes the one of an earlier change of the session's
flag, what observers hear of each session alternates, first that it is unresponsive; and when no
call is in progress, the last they heard agrees with the flag. A notification that does overtake
another breaks the alternation. -/
theorem notifications_alternate {detector : Detector}
    (reached : Transition.Reaches step
      (fun before op => before.InTurn op ∧ before.RegistersOnce op) initial detector) :
    (∀ session, Alternates (detector.told session)) ∧
    (detector.Quiescent → ∀ session context, detector.sessions.find session = some context →
      ((detector.told session).getLast? = some .sessionUnresponsive ↔
        context.flaggedAsUnresponsive = true)) ∧
    ∀ op, ¬ detector.InTurn op → ∃ session, ¬ Alternates ((detector.step op).told session) := by
  have ordered : detector.Ordered := reached.invariant ordered_initial
    fun _ _ before allowed => before.step allowed.1 allowed.2
  refine ⟨fun session => ?_, fun quiescent session context found => ?_,
    fun op => ordered.overtaken⟩
  · refine (ordered.alternates session).earlier ?_
    unfold changes
    rw [about_append]
    exact List.prefix_append _ _
  · obtain ⟨isIdle, noCalls⟩ := quiescent
    have nothing : detector.outstanding = [] := by
      refine List.eq_nil_iff_forall_not_mem.mpr fun ⟨other, notification⟩ => ?_
      refine List.count_eq_zero.mp ?_
      cases notification with
      | sessionUnresponsive => rw [ordered.cycle, isIdle]; rfl
      | sessionNowResponsive => rw [ordered.calls, noCalls]; rfl
    have agrees := ordered.agrees session context found
    unfold changes at agrees
    rw [nothing, List.append_nil, expected_eq_iff] at agrees
    exact agrees

/-- A session misses a ping and answers after observers have heard of it. -/
private def answersLate : List Op :=
  [.registerSession 1, .proceed 0, .alarmFires, .handlePingCycle, .rearm, .alarmFires,
    .handlePingCycle, .notifyUnresponsive 1, .rearm, .pongReceived 1, .proceed 0, .proceed 0]

theorem notifications_alternate_when_late :
    Alternates ((answersLate.foldl step initial).told 1) ∧
      (answersLate.foldl step initial).told 1 =
        [.sessionUnresponsive, .sessionNowResponsive] := by
  have reached : Transition.Reaches step
      (fun before op => before.InTurn op ∧ before.RegistersOnce op) initial
      (answersLate.foldl step initial) :=
    Transition.Reaches.start.foldl answersLate (by decide)
  exact ⟨(notifications_alternate reached).1 1, by decide⟩

/-- The session answers between the two parts of the ping cycle that flags it. -/
private def answersInBetween : List Op :=
  [.registerSession 1, .proceed 0, .alarmFires, .handlePingCycle, .rearm, .alarmFires,
    .handlePingCycle, .pongReceived 1, .proceed 0, .notifyUnresponsive 1, .proceed 0, .rearm]

/-- Observers first hear that the session is responsive again, and then that it is unresponsive,
which is the last they hear although the session is not flagged. -/
theorem answer_overtakes :
    (¬ ∀ detector, Transition.Reaches step (fun before op => before.RegistersOnce op) initial
      detector → ∀ session, Alternates (detector.told session)) ∧
    ¬ ∀ detector, Transition.Reaches step (fun before op => before.RegistersOnce op) initial
      detector → detector.Quiescent → ∀ session context,
        detector.sessions.find session = some context →
          ((detector.told session).getLast? = some .sessionUnresponsive ↔
            context.flaggedAsUnresponsive = true) := by
  have reached : Transition.Reaches step (fun before op => before.RegistersOnce op) initial
      (answersInBetween.foldl step initial) :=
    Transition.Reaches.start.foldl answersInBetween (by decide)
  refine ⟨fun claimed => ?_, fun claimed => ?_⟩
  · have alternates := claimed _ reached 1
    have heard : (answersInBetween.foldl step initial).told 1 =
        [.sessionNowResponsive, .sessionUnresponsive] := by decide
    rw [heard] at alternates
    have first := alternates [] .sessionNowResponsive ⟨[.sessionUnresponsive], rfl⟩
    cases first
  · have agrees := claimed _ reached (by decide) 1 ⟨true, false⟩ (by decide)
    revert agrees
    decide

end Detector

end Mir.Scene.NotResponding

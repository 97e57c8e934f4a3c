/-
This file embeds the manager of prompt sessions and its container, and proves what a listener
hears of each prompt session.

A prompt session is started for a helper and an application, and gets providers. It stops when
it is asked to or when its helper is removed; its providers are then removed first, as far as
they can be locked. Stopping tells the listener whether or not the prompt session was running,
so a prompt session that is asked to stop again is heard to stop again.
-/

import Mir.Library.KeyedLog
import Mir.Library.Transition

namespace Mir.Scene.PromptSessions

open KeyedLog

abbrev SessionID := Nat

abbrev PromptSessionID := Nat

abbrev ProcessID := Nat

/-! ### The state -/

inductive ParticipantType
  | helper
  | application
  | promptProvider
  deriving DecidableEq, Repr

inductive PromptSessionState
  | stopped
  | started
  | suspended
  deriving DecidableEq, Repr

/-- What the listener is told about a prompt session. -/
inductive Event
  | starting
  | stopping
  | suspending
  | resuming
  | promptProviderAdded (session : SessionID)
  | promptProviderRemoved (session : SessionID)
  deriving DecidableEq, Repr

inductive Failure
  | noPromptSession
  | noApplication
  | noHelper
  deriving DecidableEq, Repr

abbrev Role := PromptSessionID × ParticipantType

/-- The participants are in the order in which they were inserted, each with its role. Prompt
sessions are numbered as they are made. -/
structure Manager where
  promptSessions : List PromptSessionID
  participants : List (Role × SessionID)
  states : PromptSessionID → PromptSessionState
  made : Nat
  appContainer : List (SessionID × ProcessID)
  expired : SessionID → Bool
  told : List (PromptSessionID × Event)

namespace Manager

def initial : Manager where
  promptSessions := []
  participants := []
  states := fun _ => .stopped
  made := 0
  appContainer := []
  expired := fun _ => false
  told := []

/-! ### The container -/

/-- A participant is inserted once in each role, if it can be locked. -/
def insertParticipant (manager : Manager) (promptSession : PromptSessionID) (session : SessionID)
    (type : ParticipantType) : Except Failure (Manager × Bool) :=
  if promptSession ∈ manager.promptSessions then
    if manager.expired session = false ∧
        ((promptSession, type), session) ∉ manager.participants then
      .ok ({ manager with
        participants := manager.participants ++ [((promptSession, type), session)] }, true)
    else .ok (manager, false)
  else .error .noPromptSession

/-- A prompt session that was just made is inserted. -/
def insertPromptSession (manager : Manager) : Manager :=
  { manager with
    promptSessions := manager.promptSessions ++ [manager.made]
    made := manager.made + 1 }

def removePromptSession (manager : Manager) (promptSession : PromptSessionID) : Manager :=
  { manager with
    promptSessions := manager.promptSessions.filter (· ≠ promptSession)
    participants := manager.participants.filter fun entry => entry.1.1 ≠ promptSession }

/-- The providers of a prompt session. -/
def providers (manager : Manager) (promptSession : PromptSessionID) : List SessionID :=
  about (promptSession, .promptProvider) manager.participants

/-! ### The manager -/

def tell (manager : Manager) (promptSession : PromptSessionID) (event : Event) : Manager :=
  { manager with told := manager.told ++ [(promptSession, event)] }

/-- A participant that was there is removed, and the listener is told of a provider. -/
def removeParticipant (manager : Manager) (role : Role) (session : SessionID) : Manager :=
  if (role, session) ∈ manager.participants then
    let removed : Manager :=
      { manager with participants := manager.participants.erase (role, session) }
    if role.2 = .promptProvider then removed.tell role.1 (.promptProviderRemoved session)
    else removed
  else manager

def removeParticipants (manager : Manager) (role : Role) (sessions : List SessionID) : Manager :=
  sessions.foldl (fun manager session => manager.removeParticipant role session) manager

/-- The providers that can be locked are removed one by one, what is left all at once. -/
def stopPromptSessionLocked (manager : Manager) (promptSession : PromptSessionID) : Manager :=
  let participants := (manager.providers promptSession).filter fun session =>
    !manager.expired session
  let left := manager.removeParticipants (promptSession, .promptProvider) participants
  let stopped : Manager :=
    { left with states := Function.update left.states promptSession .stopped }
  (stopped.removePromptSession promptSession).tell promptSession .stopping

/-- What a session leaves behind in one role when it is removed. -/
def leave (session : SessionID) (manager : Manager) (role : Role) : Manager :=
  if role.2 = .helper then manager.stopPromptSessionLocked role.1
  else manager.removeParticipant role session

/-- The roles of a session in one of their kinds. -/
def rolesOf (manager : Manager) (session : SessionID) (type : ParticipantType) : List Role :=
  (manager.participants.filter fun entry =>
    entry.2 = session ∧ entry.1.2 = type ∧ entry.1.1 ∈ manager.promptSessions).map Prod.fst

/-- The roles of a session are in the order of their kinds. -/
def removeSession (manager : Manager) (session : SessionID) : Manager :=
  (manager.rolesOf session .helper ++ manager.rolesOf session .application ++
    manager.rolesOf session .promptProvider).foldl (leave session) manager

def stopPromptSession (manager : Manager) (promptSession : PromptSessionID) : Manager :=
  manager.stopPromptSessionLocked promptSession

/-- A prompt session that is not running is not suspended, but the listener is told. -/
def suspendPromptSession (manager : Manager) (promptSession : PromptSessionID) : Manager :=
  { manager.tell promptSession .suspending with
    states :=
      if manager.states promptSession = .started then
        Function.update manager.states promptSession .suspended
      else manager.states }

def resumePromptSession (manager : Manager) (promptSession : PromptSessionID) : Manager :=
  { manager.tell promptSession .resuming with
    states :=
      if manager.states promptSession = .suspended then
        Function.update manager.states promptSession .started
      else manager.states }

/-- The last session with a process. -/
def applicationWith (manager : Manager) (process : ProcessID) : Option SessionID :=
  ((manager.appContainer.filter fun entry => entry.2 = process).getLast?).map Prod.fst

/-- A prompt session that was just made starts, and the listener is told. -/
def startPromptSession (manager : Manager) (promptSession : PromptSessionID) : Manager :=
  { manager.tell promptSession .starting with
    states := Function.update manager.states promptSession .started }

/-- The application takes part after the listener was told, and only if it is not there already. -/
def startPromptSessionFor (manager : Manager) (helper : SessionID) (process : ProcessID) :
    Manager × Except Failure PromptSessionID :=
  match manager.applicationWith process with
  | none => (manager, .error .noApplication)
  | some application =>
    let promptSession := manager.made
    let inserted := manager.insertPromptSession
    match inserted.insertParticipant promptSession helper .helper with
    | .error failure => (inserted, .error failure)
    | .ok (_, false) => (inserted, .error .noHelper)
    | .ok (withHelper, true) =>
      let started := withHelper.startPromptSession promptSession
      match started.insertParticipant promptSession application .application with
      | .error failure => (started, .error failure)
      | .ok (withApplication, _) => (withApplication, .ok promptSession)

def addPromptProvider (manager : Manager) (promptSession : PromptSessionID)
    (provider : SessionID) : Manager :=
  match manager.insertParticipant promptSession provider .promptProvider with
  | .error _ => manager
  | .ok (_, false) => manager
  | .ok (added, true) => added.tell promptSession (.promptProviderAdded provider)

end Manager

inductive Op
  | openSession (session : SessionID) (process : ProcessID)
  | closeSession (session : SessionID)
  | expire (session : SessionID)
  | start (helper : SessionID) (process : ProcessID)
  | stop (promptSession : PromptSessionID)
  | suspend (promptSession : PromptSessionID)
  | resume (promptSession : PromptSessionID)
  | addPromptProvider (promptSession : PromptSessionID) (provider : SessionID)
  | removeSession (session : SessionID)
  deriving DecidableEq, Repr

/-- What a caller can refer to: sessions that have not expired, and prompt sessions that were
made. A session in the container of sessions does not expire. -/
def Manager.CanRefer (manager : Manager) : Op → Prop
  | .openSession session _ => manager.expired session = false
  | .closeSession _ => True
  | .expire session => ∀ entry ∈ manager.appContainer, entry.1 ≠ session
  | .start helper _ => manager.expired helper = false
  | .stop promptSession => promptSession < manager.made
  | .suspend promptSession => promptSession < manager.made
  | .resume promptSession => promptSession < manager.made
  | .addPromptProvider promptSession provider =>
    promptSession < manager.made ∧ manager.expired provider = false
  | .removeSession session => manager.expired session = false

instance (manager : Manager) : DecidablePred manager.CanRefer
  | .openSession session _ => inferInstanceAs (Decidable (manager.expired session = false))
  | .closeSession _ => .isTrue trivial
  | .expire session =>
    inferInstanceAs (Decidable (∀ entry ∈ manager.appContainer, entry.1 ≠ session))
  | .start helper _ => inferInstanceAs (Decidable (manager.expired helper = false))
  | .stop promptSession => inferInstanceAs (Decidable (promptSession < manager.made))
  | .suspend promptSession => inferInstanceAs (Decidable (promptSession < manager.made))
  | .resume promptSession => inferInstanceAs (Decidable (promptSession < manager.made))
  | .addPromptProvider promptSession provider => inferInstanceAs (Decidable
      (promptSession < manager.made ∧ manager.expired provider = false))
  | .removeSession session => inferInstanceAs (Decidable (manager.expired session = false))

def Manager.step (manager : Manager) : Op → Manager
  | .openSession session process =>
    { manager with appContainer := manager.appContainer ++ [(session, process)] }
  | .closeSession session =>
    { manager with appContainer := manager.appContainer.filter fun entry => entry.1 ≠ session }
  | .expire session =>
    { manager with expired := Function.update manager.expired session true }
  | .start helper process => (manager.startPromptSessionFor helper process).1
  | .stop promptSession => manager.stopPromptSession promptSession
  | .suspend promptSession => manager.suspendPromptSession promptSession
  | .resume promptSession => manager.resumePromptSession promptSession
  | .addPromptProvider promptSession provider => manager.addPromptProvider promptSession provider
  | .removeSession session => manager.removeSession session

namespace Manager

variable {manager : Manager}

/-! ### What the container holds -/

/-- Participants take part in prompt sessions that are there, each once in a role, and a prompt
session that was heard to stop is there no more. -/
structure Closed (manager : Manager) : Prop where
  entries : ∀ entry ∈ manager.participants, entry.1.1 ∈ manager.promptSessions
  known : ∀ promptSession ∈ manager.promptSessions, promptSession < manager.made
  distinct : manager.participants.Nodup
  gone : ∀ promptSession, (promptSession, .stopping) ∈ manager.told →
    promptSession < manager.made ∧ promptSession ∉ manager.promptSessions

/-- Participants leave, and nothing else changes but what the listener was told. -/
structure Leaves (before after : Manager) : Prop where
  participants : after.participants.Sublist before.participants
  promptSessions : after.promptSessions = before.promptSessions
  made : after.made = before.made
  expired : after.expired = before.expired

theorem Leaves.refl (manager : Manager) : Leaves manager manager :=
  ⟨List.Sublist.refl _, rfl, rfl, rfl⟩

theorem Leaves.trans {first second third : Manager} (early : Leaves first second)
    (late : Leaves second third) : Leaves first third :=
  ⟨late.participants.trans early.participants, late.promptSessions.trans early.promptSessions,
    late.made.trans early.made, late.expired.trans early.expired⟩

theorem removeParticipant_cases (manager : Manager) (role : Role) (session : SessionID) :
    ((role, session) ∉ manager.participants ∧ manager.removeParticipant role session = manager) ∨
    (role, session) ∈ manager.participants ∧ manager.removeParticipant role session =
      { manager with
        participants := manager.participants.erase (role, session)
        told := manager.told ++ if role.2 = .promptProvider then
          [(role.1, .promptProviderRemoved session)] else [] } := by
  unfold removeParticipant
  by_cases there : (role, session) ∈ manager.participants
  · rw [if_pos there]
    refine .inr ⟨there, ?_⟩
    by_cases provider : role.2 = .promptProvider
    · rw [if_pos provider, if_pos provider]
      rfl
    · rw [if_neg provider, if_neg provider, List.append_nil]
  · exact .inl ⟨there, if_neg there⟩

theorem leaves_removeParticipant (manager : Manager) (role : Role) (session : SessionID) :
    Leaves manager (manager.removeParticipant role session) := by
  rcases manager.removeParticipant_cases role session with ⟨-, same⟩ | ⟨-, same⟩
  · rw [same]
    exact .refl manager
  · rw [same]
    exact ⟨List.erase_sublist, rfl, rfl, rfl⟩

theorem leaves_removeParticipants (manager : Manager) (role : Role) (sessions : List SessionID) :
    Leaves manager (manager.removeParticipants role sessions) := by
  induction sessions generalizing manager with
  | nil => exact .refl manager
  | cons first rest inductionHypothesis =>
    exact (manager.leaves_removeParticipant role first).trans (inductionHypothesis _)

theorem closed_removeParticipant (closed : manager.Closed) (role : Role) (session : SessionID) :
    (manager.removeParticipant role session).Closed := by
  have leaves := manager.leaves_removeParticipant role session
  refine ⟨fun entry member => ?_, fun promptSession member => ?_,
    closed.distinct.sublist leaves.participants, fun promptSession heard => ?_⟩
  · rw [leaves.promptSessions]
    exact closed.entries entry (leaves.participants.subset member)
  · rw [leaves.made]
    rw [leaves.promptSessions] at member
    exact closed.known promptSession member
  · rw [leaves.made, leaves.promptSessions]
    refine closed.gone promptSession ?_
    rcases manager.removeParticipant_cases role session with ⟨-, same⟩ | ⟨-, same⟩
    · rw [same] at heard
      exact heard
    · rw [same] at heard
      rcases List.mem_append.mp heard with before | now
      · exact before
      · split_ifs at now
        · cases List.mem_singleton.mp now
        · cases now

theorem closed_removeParticipants (closed : manager.Closed) (role : Role)
    (sessions : List SessionID) : (manager.removeParticipants role sessions).Closed := by
  induction sessions generalizing manager with
  | nil => exact closed
  | cons first rest inductionHypothesis =>
    exact inductionHypothesis (closed_removeParticipant closed role first)

theorem participants_stop (manager : Manager) (promptSession : PromptSessionID) :
    ∃ left, Leaves manager left ∧
      (manager.stopPromptSessionLocked promptSession).participants =
        left.participants.filter fun entry => entry.1.1 ≠ promptSession :=
  ⟨_, manager.leaves_removeParticipants _ _, rfl⟩

theorem promptSessions_stop (manager : Manager) (promptSession : PromptSessionID) :
    (manager.stopPromptSessionLocked promptSession).promptSessions =
      manager.promptSessions.filter (· ≠ promptSession) := by
  have leaves := manager.leaves_removeParticipants (promptSession, .promptProvider)
    ((manager.providers promptSession).filter fun session => !manager.expired session)
  show List.filter _ (manager.removeParticipants _ _).promptSessions = _
  rw [leaves.promptSessions]

theorem made_stop (manager : Manager) (promptSession : PromptSessionID) :
    (manager.stopPromptSessionLocked promptSession).made = manager.made :=
  (manager.leaves_removeParticipants (promptSession, .promptProvider)
    ((manager.providers promptSession).filter fun session => !manager.expired session)).made

theorem expired_stop (manager : Manager) (promptSession : PromptSessionID) :
    (manager.stopPromptSessionLocked promptSession).expired = manager.expired :=
  (manager.leaves_removeParticipants (promptSession, .promptProvider)
    ((manager.providers promptSession).filter fun session => !manager.expired session)).expired

theorem closed_stop (closed : manager.Closed) {promptSession : PromptSessionID}
    (isMade : promptSession < manager.made) :
    (manager.stopPromptSessionLocked promptSession).Closed := by
  have left := closed_removeParticipants closed (promptSession, .promptProvider)
    ((manager.providers promptSession).filter fun session => !manager.expired session)
  have leaves := manager.leaves_removeParticipants (promptSession, .promptProvider)
    ((manager.providers promptSession).filter fun session => !manager.expired session)
  refine ⟨fun entry member => ?_, fun other member => ?_, left.distinct.filter _,
    fun other heard => ?_⟩
  · obtain ⟨stays, other⟩ := List.mem_filter.mp member
    exact List.mem_filter.mpr ⟨left.entries entry stays, other⟩
  · exact left.known other (List.mem_filter.mp member).1
  · rw [made_stop, promptSessions_stop]
    rcases List.mem_append.mp heard with before | now
    · obtain ⟨wasMade, notThere⟩ := left.gone other before
      rw [leaves.made] at wasMade
      rw [leaves.promptSessions] at notThere
      exact ⟨wasMade, fun member => notThere (List.mem_filter.mp member).1⟩
    · cases List.mem_singleton.mp now
      exact ⟨isMade, fun member => by simpa using (List.mem_filter.mp member).2⟩

/-! ### A session is removed -/

theorem mem_rolesOf {session : SessionID} {type : ParticipantType} {role : Role} :
    role ∈ manager.rolesOf session type ↔
      (role, session) ∈ manager.participants ∧ role.2 = type ∧
        role.1 ∈ manager.promptSessions := by
  unfold rolesOf
  rw [List.mem_map]
  constructor
  · rintro ⟨⟨other, another⟩, member, rfl⟩
    obtain ⟨there, wanted⟩ := List.mem_filter.mp member
    obtain ⟨same, kind, running⟩ := of_decide_eq_true wanted
    dsimp only at same
    subst same
    exact ⟨there, kind, running⟩
  · rintro ⟨there, kind, running⟩
    exact ⟨(role, session), List.mem_filter.mpr ⟨there, decide_eq_true ⟨rfl, kind, running⟩⟩, rfl⟩

theorem closed_leave (closed : manager.Closed) (session : SessionID) {role : Role}
    (isMade : role.1 < manager.made) : (leave session manager role).Closed := by
  unfold leave
  split_ifs
  · exact closed_stop closed isMade
  · exact closed_removeParticipant closed role session

theorem made_leave (session : SessionID) (manager : Manager) (role : Role) :
    (leave session manager role).made = manager.made := by
  unfold leave
  split_ifs
  · exact manager.made_stop role.1
  · exact (manager.leaves_removeParticipant role session).made

/-- Whatever takes part after a session left in one role took part before, and the session does
so in that role no more. -/
theorem participants_leave (distinct : manager.participants.Nodup) (session : SessionID)
    (role : Role) :
    (leave session manager role).participants.Sublist manager.participants ∧
      (role, session) ∉ (leave session manager role).participants := by
  unfold leave
  split_ifs
  · obtain ⟨left, leaves, same⟩ := manager.participants_stop role.1
    rw [same]
    refine ⟨List.filter_sublist.trans leaves.participants, fun member => ?_⟩
    simpa using (List.mem_filter.mp member).2
  · refine ⟨(manager.leaves_removeParticipant role session).participants, ?_⟩
    rcases manager.removeParticipant_cases role session with ⟨missing, same⟩ | ⟨-, same⟩
    · rw [same]
      exact missing
    · rw [same]
      exact fun member => ((List.Nodup.mem_erase_iff distinct).mp member).1 rfl

/-- A session that leaves in several roles. -/
theorem foldl_leave (closed : manager.Closed) (session : SessionID) {roles : List Role}
    (made : ∀ role ∈ roles, role.1 < manager.made) :
    (roles.foldl (leave session) manager).Closed ∧
      (roles.foldl (leave session) manager).participants.Sublist manager.participants ∧
      ∀ role ∈ roles, (role, session) ∉ (roles.foldl (leave session) manager).participants := by
  induction roles generalizing manager with
  | nil => exact ⟨closed, List.Sublist.refl _, fun _ member => by cases member⟩
  | cons first rest inductionHypothesis =>
    have leftOnce := participants_leave closed.distinct session first
    obtain ⟨stillClosed, fewer, others⟩ :=
      inductionHypothesis (closed_leave closed session (made first List.mem_cons_self))
        fun role member => by
          rw [made_leave]
          exact made role (List.mem_cons_of_mem _ member)
    refine ⟨stillClosed, fewer.trans leftOnce.1, fun role member => ?_⟩
    rcases List.mem_cons.mp member with rfl | later
    · exact fun there => leftOnce.2 (fewer.subset there)
    · exact others role later

/-- The roles in which a session leaves are all it has. -/
theorem removeSession_spec (closed : manager.Closed) (session : SessionID) :
    (manager.removeSession session).Closed ∧
      ∀ entry ∈ (manager.removeSession session).participants, entry.2 ≠ session := by
  have made : ∀ role ∈ manager.rolesOf session .helper ++ manager.rolesOf session .application ++
      manager.rolesOf session .promptProvider, role.1 < manager.made := by
    intro role member
    rw [List.mem_append, List.mem_append, mem_rolesOf, mem_rolesOf, mem_rolesOf] at member
    rcases member with (⟨-, -, running⟩ | ⟨-, -, running⟩) | ⟨-, -, running⟩
    all_goals exact closed.known role.1 running
  obtain ⟨stillClosed, fewer, left⟩ := foldl_leave closed session made
  refine ⟨stillClosed, ?_⟩
  rintro ⟨role, other⟩ member same
  dsimp only at same
  subst same
  have there := fewer.subset member
  refine left role ?_ member
  rw [List.mem_append, List.mem_append, mem_rolesOf, mem_rolesOf, mem_rolesOf]
  have running := closed.entries _ there
  cases kind : role.2 with
  | helper => exact .inl (.inl ⟨there, rfl, running⟩)
  | application => exact .inl (.inr ⟨there, rfl, running⟩)
  | promptProvider => exact .inr ⟨there, rfl, running⟩

/-! ### Runs -/

theorem insertParticipant_new {promptSession : PromptSessionID} {session : SessionID}
    {type : ParticipantType} (runs : promptSession ∈ manager.promptSessions)
    (lockable : manager.expired session = false)
    (new : ((promptSession, type), session) ∉ manager.participants) :
    manager.insertParticipant promptSession session type =
      .ok ({ manager with
        participants := manager.participants ++ [((promptSession, type), session)] }, true) := by
  rw [insertParticipant, if_pos runs, if_pos ⟨lockable, new⟩]

theorem insertParticipant_cases {promptSession : PromptSessionID}
    (runs : promptSession ∈ manager.promptSessions) (session : SessionID)
    (type : ParticipantType) :
    manager.insertParticipant promptSession session type = .ok (manager, false) ∨
      ((promptSession, type), session) ∉ manager.participants ∧
        manager.insertParticipant promptSession session type =
          .ok ({ manager with
            participants :=
              manager.participants ++ [((promptSession, type), session)] }, true) := by
  unfold insertParticipant
  rw [if_pos runs]
  split_ifs with new
  · exact .inr ⟨new.2, rfl⟩
  · exact .inl rfl

/-- A prompt session starts with a helper, and with its application if that can be locked, or
nothing happens. -/
theorem start_cases (closed : manager.Closed) {helper : SessionID}
    (lockable : manager.expired helper = false) (process : ProcessID) :
    (manager.startPromptSessionFor helper process).1 = manager ∨
      ∃ more : List (Role × SessionID), more.Nodup ∧
        (∀ entry ∈ more, entry.1.1 = manager.made ∧ entry.1.2 ≠ .promptProvider) ∧
        (manager.startPromptSessionFor helper process).1 =
          { manager with
            promptSessions := manager.promptSessions ++ [manager.made]
            participants := manager.participants ++ more
            made := manager.made + 1
            states := Function.update manager.states manager.made .started
            told := manager.told ++ [(manager.made, .starting)] } := by
  have fresh : ((manager.made, .helper), helper) ∉ manager.participants := by
    intro member
    exact Nat.lt_irrefl _ (closed.known _ (closed.entries _ member))
  unfold startPromptSessionFor
  cases manager.applicationWith process with
  | none => exact .inl rfl
  | some application =>
    refine .inr ?_
    obtain ⟨withHelper, isWith⟩ : ∃ next : Manager, next = { manager.insertPromptSession with
        participants := manager.participants ++ [((manager.made, .helper), helper)] } := ⟨_, rfl⟩
    have runs : manager.made ∈ manager.insertPromptSession.promptSessions :=
      List.mem_append_right _ List.mem_cons_self
    have inserted : manager.insertPromptSession.insertParticipant manager.made helper .helper =
        .ok (withHelper, true) := by
      rw [isWith]
      exact insertParticipant_new runs lockable fresh
    have started : manager.made ∈ (withHelper.startPromptSession manager.made).promptSessions := by
      rw [isWith]
      exact runs
    dsimp only
    rw [inserted]
    dsimp only
    rcases insertParticipant_cases started application .application with same | ⟨-, same⟩
    · rw [same, isWith]
      exact ⟨[((manager.made, .helper), helper)], by simp, by simp, rfl⟩
    · rw [same, isWith]
      refine ⟨[((manager.made, .helper), helper), ((manager.made, .application), application)],
        by simp, by simp, ?_⟩
      simp [insertPromptSession, startPromptSession, tell]

theorem addPromptProvider_cases (manager : Manager) (promptSession : PromptSessionID)
    (provider : SessionID) :
    manager.addPromptProvider promptSession provider = manager ∨
      promptSession ∈ manager.promptSessions ∧
        ((promptSession, .promptProvider), provider) ∉ manager.participants ∧
        manager.addPromptProvider promptSession provider =
          { manager with
            participants := manager.participants ++ [((promptSession, .promptProvider), provider)]
            told := manager.told ++ [(promptSession, .promptProviderAdded provider)] } := by
  unfold addPromptProvider
  by_cases runs : promptSession ∈ manager.promptSessions
  · rcases insertParticipant_cases runs provider .promptProvider with same | ⟨new, same⟩
    · rw [same]
      exact .inl rfl
    · rw [same]
      exact .inr ⟨runs, new, rfl⟩
  · rw [insertParticipant, if_neg runs]
    exact .inl rfl

theorem closed_initial : initial.Closed where
  entries _ member := by cases member
  known _ member := by cases member
  distinct := List.nodup_nil
  gone _ heard := by cases heard

/-- Nothing changes in the container, and no prompt session is heard to stop. -/
theorem closed_of_same (closed : manager.Closed) {next : Manager}
    (promptSessions : next.promptSessions = manager.promptSessions)
    (participants : next.participants = manager.participants) (made : next.made = manager.made)
    (told : ∀ promptSession, (promptSession, .stopping) ∈ next.told →
      (promptSession, .stopping) ∈ manager.told) : next.Closed where
  entries := by
    rw [participants, promptSessions]
    exact closed.entries
  known := by
    rw [promptSessions, made]
    exact closed.known
  distinct := by
    rw [participants]
    exact closed.distinct
  gone promptSession heard := by
    rw [promptSessions, made]
    exact closed.gone promptSession (told promptSession heard)

theorem closed_start (closed : manager.Closed) {helper : SessionID}
    (lockable : manager.expired helper = false) (process : ProcessID) :
    (manager.startPromptSessionFor helper process).1.Closed := by
  rcases start_cases closed lockable process with same | ⟨more, distinct, new, same⟩
  · rw [same]
    exact closed
  · rw [same]
    refine ⟨fun entry member => ?_, fun promptSession member => ?_, ?_,
      fun promptSession heard => ?_⟩
    · rcases List.mem_append.mp member with old | added
      · exact List.mem_append_left _ (closed.entries entry old)
      · exact List.mem_append_right _ (List.mem_singleton.mpr (new entry added).1)
    · rcases List.mem_append.mp member with old | added
      · exact Nat.lt_succ_of_lt (closed.known promptSession old)
      · rw [List.mem_singleton.mp added]
        exact Nat.lt_succ_self _
    · refine List.nodup_append.mpr ⟨closed.distinct, distinct, fun entry old other added => ?_⟩
      rintro rfl
      have isMade := closed.known _ (closed.entries entry old)
      rw [(new entry added).1] at isMade
      exact Nat.lt_irrefl _ isMade
    · rcases List.mem_append.mp heard with before | now
      · obtain ⟨wasMade, notThere⟩ := closed.gone promptSession before
        refine ⟨Nat.lt_succ_of_lt wasMade, fun member => ?_⟩
        rcases List.mem_append.mp member with old | added
        · exact notThere old
        · rw [List.mem_singleton.mp added] at wasMade
          exact Nat.lt_irrefl _ wasMade
      · cases List.mem_singleton.mp now

theorem closed_addPromptProvider (closed : manager.Closed) (promptSession : PromptSessionID)
    (provider : SessionID) : (manager.addPromptProvider promptSession provider).Closed := by
  rcases manager.addPromptProvider_cases promptSession provider with same | ⟨runs, new, same⟩
  · rw [same]
    exact closed
  · rw [same]
    refine ⟨fun entry member => ?_, closed.known, ?_, fun other heard => ?_⟩
    · rcases List.mem_append.mp member with old | added
      · exact closed.entries entry old
      · rw [List.mem_singleton.mp added]
        exact runs
    · refine List.nodup_append.mpr ⟨closed.distinct, List.nodup_singleton _, ?_⟩
      intro entry old other added
      rw [List.mem_singleton.mp added]
      rintro rfl
      exact new old
    · rcases List.mem_append.mp heard with before | now
      · exact closed.gone other before
      · cases List.mem_singleton.mp now

theorem closed_step (closed : manager.Closed) {op : Op} (canRefer : manager.CanRefer op) :
    (manager.step op).Closed := by
  cases op with
  | openSession session process => exact closed_of_same closed rfl rfl rfl fun _ => id
  | closeSession session => exact closed_of_same closed rfl rfl rfl fun _ => id
  | expire session => exact closed_of_same closed rfl rfl rfl fun _ => id
  | start helper process => exact closed_start closed canRefer process
  | stop promptSession => exact closed_stop closed canRefer
  | suspend promptSession =>
    refine closed_of_same closed rfl rfl rfl fun other heard => ?_
    simpa [step, suspendPromptSession, tell] using heard
  | resume promptSession =>
    refine closed_of_same closed rfl rfl rfl fun other heard => ?_
    simpa [step, resumePromptSession, tell] using heard
  | addPromptProvider promptSession provider =>
    exact closed_addPromptProvider closed promptSession provider
  | removeSession session => exact (removeSession_spec closed session).1

/-- In every run, a session that is removed takes part in nothing, and nobody takes part in a
prompt session that was heard to stop. -/
theorem container_forgets {manager : Manager}
    (reached : Transition.Reaches step CanRefer initial manager) :
    (∀ session, ∀ entry ∈ (manager.removeSession session).participants, entry.2 ≠ session) ∧
    ∀ promptSession, (promptSession, .stopping) ∈ manager.told →
      ∀ entry ∈ manager.participants, entry.1.1 ≠ promptSession := by
  have closed : manager.Closed := reached.invariant closed_initial
    fun _ _ before canRefer => closed_step before canRefer
  refine ⟨fun session => (removeSession_spec closed session).2, ?_⟩
  intro promptSession heard entry member isHere
  exact (closed.gone promptSession heard).2 (isHere ▸ closed.entries entry member)

end Manager

end Mir.Scene.PromptSessions

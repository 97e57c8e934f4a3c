/-
This file proves when what a listener hears of each prompt session is a life: it starts, gets and
loses providers, and stops once, when it has no provider left.

It is a life as long as only prompt sessions that run are stopped, and only when each of their
providers can still be locked. What the container holds needs no such condition.
-/

import Mir.Scene.PromptSessions

namespace Mir.Scene.PromptSessions

open KeyedLog

/-! ### A life -/

/-- How far the life of a prompt session has come for somebody who listens. -/
inductive Phase
  | before
  | running (providers : List SessionID)
  | stopped
  deriving DecidableEq, Repr

/-- What may be heard in a phase, and the phase after it. A provider is added once and removed
before it is added again, and none is left when the prompt session stops. When it is suspended or
resumed does not matter here. -/
def advance : Phase → Event → Option Phase
  | phase, .suspending => some phase
  | phase, .resuming => some phase
  | .before, .starting => some (.running [])
  | .running providers, .promptProviderAdded session =>
    if session ∈ providers then none else some (.running (providers ++ [session]))
  | .running providers, .promptProviderRemoved session =>
    if session ∈ providers then some (.running (providers.erase session)) else none
  | .running [], .stopping => some .stopped
  | _, _ => none

/-- The phase after a trace, if the trace is that of a life. -/
def lifeCycle (trace : List Event) : Option Phase := trace.foldlM advance .before

theorem lifeCycle_append (trace : List Event) (event : Event) :
    lifeCycle (trace ++ [event]) = (lifeCycle trace).bind fun phase => advance phase event := by
  unfold lifeCycle
  rw [List.foldlM_append]
  cases trace.foldlM advance .before with
  | none => rfl
  | some phase => exact Option.bind_fun_some _

namespace Manager

variable {manager : Manager}

/-- What the listener heard of a prompt session. -/
def trace (manager : Manager) (promptSession : PromptSessionID) : List Event :=
  about promptSession manager.told

/-- Where a prompt session is in its life. -/
def phase (manager : Manager) (promptSession : PromptSessionID) : Phase :=
  if promptSession ∈ manager.promptSessions then .running (manager.providers promptSession)
  else if promptSession < manager.made then .stopped
  else .before

/-- What the listener heard agrees with the container. -/
def Tracked (manager : Manager) : Prop :=
  ∀ promptSession, lifeCycle (manager.trace promptSession) = some (manager.phase promptSession)

/-- A prompt session runs, and each of its providers can be locked. -/
def CanStop (manager : Manager) (promptSession : PromptSessionID) : Prop :=
  promptSession ∈ manager.promptSessions ∧
    ∀ provider ∈ manager.providers promptSession, manager.expired provider = false

instance (manager : Manager) : DecidablePred manager.CanStop :=
  fun promptSession => inferInstanceAs (Decidable (promptSession ∈ manager.promptSessions ∧
    ∀ provider ∈ manager.providers promptSession, manager.expired provider = false))

theorem tracked_of_same {next : Manager} (tracked : manager.Tracked)
    (told : next.told = manager.told)
    (phase : ∀ promptSession, next.phase promptSession = manager.phase promptSession) :
    next.Tracked := by
  intro promptSession
  rw [trace, told, phase]
  exact tracked promptSession

/-- One more thing is heard of one prompt session, and it alone comes to another phase. -/
theorem tracked_of_told {next : Manager} (tracked : manager.Tracked)
    {promptSession : PromptSessionID} {event : Event}
    (told : next.told = manager.told ++ [(promptSession, event)])
    (advances : advance (manager.phase promptSession) event = some (next.phase promptSession))
    (others : ∀ other, other ≠ promptSession → next.phase other = manager.phase other) :
    next.Tracked := by
  intro other
  rw [trace, told, about_append, about_singleton]
  by_cases same : promptSession = other
  · subst same
    rw [if_pos rfl, lifeCycle_append]
    show (lifeCycle (manager.trace promptSession)).bind _ = _
    rw [tracked promptSession]
    exact advances
  · rw [if_neg same, List.append_nil, others other (Ne.symm same)]
    exact tracked other

theorem phase_running {promptSession : PromptSessionID}
    (runs : promptSession ∈ manager.promptSessions) :
    manager.phase promptSession = .running (manager.providers promptSession) :=
  if_pos runs

theorem tracked_removeParticipant (closed : manager.Closed) (tracked : manager.Tracked)
    (role : Role) (session : SessionID) : (manager.removeParticipant role session).Tracked := by
  rcases manager.removeParticipant_cases role session with ⟨-, same⟩ | ⟨there, same⟩
  · rw [same]
    exact tracked
  · rw [same]
    have runs : role.1 ∈ manager.promptSessions := closed.entries (role, session) there
    -- only the providers of one prompt session become fewer
    have others : ∀ promptSession, role ≠ (promptSession, .promptProvider) →
        about (promptSession, ParticipantType.promptProvider)
          (manager.participants.erase (role, session)) = manager.providers promptSession := by
      intro promptSession different
      rw [about_erase, if_neg different]
      rfl
    by_cases provider : role.2 = .promptProvider
    · have isRole : role = (role.1, .promptProvider) := by rw [← provider]
      have member : session ∈ manager.providers role.1 :=
        (mem_about_iff _ _ _).mpr (isRole ▸ there)
      refine tracked_of_told tracked (by rw [if_pos provider]) ?_ fun other different => ?_
      · have fewer : about (role.1, ParticipantType.promptProvider)
            (manager.participants.erase (role, session)) =
              (manager.providers role.1).erase session := by
          rw [about_erase, if_pos isRole]
          rfl
        rw [phase_running runs]
        unfold phase providers
        rw [if_pos runs, fewer]
        exact if_pos member
      · unfold phase providers
        rw [others other fun isOther => different (by rw [isOther])]
        rfl
    · refine tracked_of_same tracked (by rw [if_neg provider, List.append_nil]) fun other => ?_
      unfold phase providers
      rw [others other fun isOther => provider (by rw [isOther])]
      rfl

theorem tracked_removeParticipants (closed : manager.Closed) (tracked : manager.Tracked)
    (role : Role) (sessions : List SessionID) :
    (manager.removeParticipants role sessions).Tracked := by
  induction sessions generalizing manager with
  | nil => exact tracked
  | cons first rest inductionHypothesis =>
    exact inductionHypothesis (closed_removeParticipant closed role first)
      (tracked_removeParticipant closed tracked role first)

/-- Removing all the providers one by one leaves none. -/
theorem providers_removeParticipants {promptSession : PromptSessionID}
    {sessions : List SessionID} (all : manager.providers promptSession = sessions) :
    (manager.removeParticipants (promptSession, .promptProvider) sessions).providers
      promptSession = [] := by
  induction sessions generalizing manager with
  | nil => exact all
  | cons first rest inductionHypothesis =>
    refine inductionHypothesis ?_
    have member : first ∈ manager.providers promptSession := by
      rw [all]
      exact List.mem_cons_self
    have there := (mem_about_iff _ _ _).mp member
    show (manager.removeParticipant _ first).providers promptSession = rest
    rcases manager.removeParticipant_cases (promptSession, .promptProvider) first with
      ⟨missing, -⟩ | ⟨-, same⟩
    · exact absurd there missing
    · rw [same]
      show about _ (manager.participants.erase _) = rest
      rw [about_erase, if_pos rfl]
      show (manager.providers promptSession).erase first = rest
      rw [all, List.erase_cons_head]

/-- The providers of other prompt sessions stay. -/
theorem providers_removeParticipants_other (manager : Manager) (sessions : List SessionID)
    {promptSession other : PromptSessionID} (different : other ≠ promptSession) :
    (manager.removeParticipants (promptSession, .promptProvider) sessions).providers other =
      manager.providers other := by
  induction sessions generalizing manager with
  | nil => rfl
  | cons first rest inductionHypothesis =>
    refine (inductionHypothesis _).trans ?_
    show (manager.removeParticipant _ first).providers other = _
    rcases manager.removeParticipant_cases (promptSession, .promptProvider) first with
      ⟨-, same⟩ | ⟨-, same⟩
    · rw [same]
    · rw [same]
      show about _ (manager.participants.erase _) = _
      rw [about_erase, if_neg]
      · rfl
      · exact fun isOther => different (Prod.mk.inj isOther).1.symm

theorem providers_stop_other (manager : Manager) {promptSession other : PromptSessionID}
    (different : other ≠ promptSession) :
    (manager.stopPromptSessionLocked promptSession).providers other = manager.providers other := by
  rw [← manager.providers_removeParticipants_other
    ((manager.providers promptSession).filter fun session => !manager.expired session) different]
  refine (about_filter (other, ParticipantType.promptProvider)
    (fun role => decide (role.1 ≠ promptSession)) _).trans ?_
  rw [if_pos (decide_eq_true different)]
  rfl

theorem phase_stop_other (manager : Manager) {promptSession other : PromptSessionID}
    (different : other ≠ promptSession) :
    (manager.stopPromptSessionLocked promptSession).phase other = manager.phase other := by
  unfold phase
  rw [promptSessions_stop, made_stop, manager.providers_stop_other different]
  simp only [List.mem_filter, different, ne_eq, not_false_eq_true, decide_true, and_true]

theorem tracked_stop (closed : manager.Closed) (tracked : manager.Tracked)
    {promptSession : PromptSessionID} (canStop : manager.CanStop promptSession) :
    (manager.stopPromptSessionLocked promptSession).Tracked := by
  obtain ⟨runs, lockable⟩ := canStop
  have all : (manager.providers promptSession).filter (fun session => !manager.expired session) =
      manager.providers promptSession :=
    List.filter_eq_self.mpr fun provider member => by rw [lockable provider member]; rfl
  have leaves := manager.leaves_removeParticipants (promptSession, .promptProvider)
    (manager.providers promptSession)
  have left := tracked_removeParticipants closed tracked (promptSession, .promptProvider)
    (manager.providers promptSession)
  have empty : (manager.removeParticipants (promptSession, .promptProvider)
      (manager.providers promptSession)).providers promptSession = [] :=
    providers_removeParticipants rfl
  have stillRuns : promptSession ∈ (manager.removeParticipants (promptSession, .promptProvider)
      (manager.providers promptSession)).promptSessions := leaves.promptSessions ▸ runs
  have told : (manager.stopPromptSessionLocked promptSession).told =
      (manager.removeParticipants (promptSession, .promptProvider)
        (manager.providers promptSession)).told ++ [(promptSession, .stopping)] := by
    unfold stopPromptSessionLocked
    rw [all]
    rfl
  refine tracked_of_told left told ?_ fun other different => ?_
  · rw [phase_running stillRuns, empty]
    unfold phase
    rw [promptSessions_stop, made_stop, if_neg (by simp [List.mem_filter]),
      if_pos (closed.known promptSession runs)]
    rfl
  · rw [manager.phase_stop_other different]
    unfold phase
    rw [leaves.promptSessions, leaves.made,
      manager.providers_removeParticipants_other _ different]

theorem tracked_start (closed : manager.Closed) (tracked : manager.Tracked) {helper : SessionID}
    (lockable : manager.expired helper = false) (process : ProcessID) :
    (manager.startPromptSessionFor helper process).1.Tracked := by
  rcases start_cases closed lockable process with same | ⟨more, -, new, same⟩
  · rw [same]
    exact tracked
  · rw [same]
    -- neither the helper nor the application is a provider
    have unchanged : ∀ promptSession, about (promptSession, ParticipantType.promptProvider)
        (manager.participants ++ more) = manager.providers promptSession := by
      intro promptSession
      have nothing : about (promptSession, ParticipantType.promptProvider) more = [] := by
        refine List.eq_nil_iff_forall_not_mem.mpr fun session member => ?_
        exact (new _ ((mem_about_iff _ _ _).mp member)).2 rfl
      rw [about_append, nothing, List.append_nil]
      rfl
    have notThere : manager.made ∉ manager.promptSessions := fun member =>
      Nat.lt_irrefl _ (closed.known _ member)
    have noProviders : manager.providers manager.made = [] := by
      refine List.eq_nil_iff_forall_not_mem.mpr fun session member => ?_
      exact notThere (closed.entries _ ((mem_about_iff _ _ _).mp member))
    refine tracked_of_told tracked rfl ?_ fun other different => ?_
    · unfold phase providers
      rw [unchanged, noProviders, if_neg notThere, if_neg (Nat.lt_irrefl _),
        if_pos (List.mem_append_right _ List.mem_cons_self)]
      rfl
    · unfold phase providers
      rw [unchanged]
      have sameMember : other ∈ manager.promptSessions ++ [manager.made] ↔
          other ∈ manager.promptSessions := by simp [different]
      have sameMade : other < manager.made + 1 ↔ other < manager.made := by
        rw [Nat.lt_succ_iff_lt_or_eq, or_iff_left different]
      simp only [sameMember, sameMade]
      rfl

theorem tracked_addPromptProvider (tracked : manager.Tracked) (promptSession : PromptSessionID)
    (provider : SessionID) : (manager.addPromptProvider promptSession provider).Tracked := by
  rcases manager.addPromptProvider_cases promptSession provider with same | ⟨runs, new, same⟩
  · rw [same]
    exact tracked
  · rw [same]
    have notYet : provider ∉ manager.providers promptSession := fun member =>
      new ((mem_about_iff _ _ _).mp member)
    refine tracked_of_told tracked rfl ?_ fun other different => ?_
    · unfold phase providers
      rw [if_pos runs, if_pos runs, about_append, about_singleton, if_pos rfl]
      exact if_neg notYet
    · have elsewhere : (promptSession, ParticipantType.promptProvider) ≠
          (other, ParticipantType.promptProvider) :=
        fun same => different (Prod.mk.inj same).1.symm
      have unchanged : about (other, ParticipantType.promptProvider) (manager.participants ++
          [((promptSession, .promptProvider), provider)]) = manager.providers other := by
        rw [about_append, about_singleton, if_neg elsewhere, List.append_nil]
        rfl
      unfold phase providers
      rw [unchanged]
      rfl

/-! ### The condition -/

/-- Only a prompt session that can stop is stopped, by a caller or with its helper. -/
def StopsRunning (manager : Manager) : Op → Prop
  | .stop promptSession => manager.CanStop promptSession
  | .removeSession session => ∀ role ∈ manager.rolesOf session .helper, manager.CanStop role.1
  | _ => True

instance (manager : Manager) : DecidablePred manager.StopsRunning
  | .stop promptSession => inferInstanceAs (Decidable (manager.CanStop promptSession))
  | .removeSession session => inferInstanceAs (Decidable
      (∀ role ∈ manager.rolesOf session .helper, manager.CanStop role.1))
  | .openSession _ _ | .closeSession _ | .expire _ | .start _ _ | .suspend _ | .resume _
  | .addPromptProvider _ _ => .isTrue trivial

/-- A prompt session that can stop still can when a session leaves in another role. -/
theorem canStop_leave {promptSession : PromptSessionID} (canStop : manager.CanStop promptSession)
    (session : SessionID) {role : Role} (other : role ≠ (promptSession, .helper)) :
    (leave session manager role).CanStop promptSession := by
  obtain ⟨runs, lockable⟩ := canStop
  unfold leave
  split_ifs with helper
  · have different : promptSession ≠ role.1 := by
      rintro rfl
      exact other (by rw [← helper])
    refine ⟨?_, fun provider member => ?_⟩
    · rw [promptSessions_stop]
      exact List.mem_filter.mpr ⟨runs, decide_eq_true different⟩
    · rw [expired_stop]
      rw [providers_stop_other _ different] at member
      exact lockable provider member
  · have leaves := manager.leaves_removeParticipant role session
    refine ⟨leaves.promptSessions ▸ runs, fun provider member => ?_⟩
    rw [leaves.expired]
    refine lockable provider ((mem_about_iff _ _ _).mpr ?_)
    exact leaves.participants.subset ((mem_about_iff _ _ _).mp member)

theorem tracked_foldl_leave (closed : manager.Closed) (tracked : manager.Tracked)
    (session : SessionID) {roles : List Role} (distinct : roles.Nodup)
    (made : ∀ role ∈ roles, role.1 < manager.made)
    (canStop : ∀ role ∈ roles, role.2 = .helper → manager.CanStop role.1) :
    (roles.foldl (leave session) manager).Tracked := by
  induction roles generalizing manager with
  | nil => exact tracked
  | cons first rest inductionHypothesis =>
    obtain ⟨missing, restDistinct⟩ := List.nodup_cons.mp distinct
    have stillTracked : (leave session manager first).Tracked := by
      unfold leave
      split_ifs with helper
      · exact tracked_stop closed tracked (canStop first List.mem_cons_self helper)
      · exact tracked_removeParticipant closed tracked first session
    refine inductionHypothesis (closed_leave closed session (made first List.mem_cons_self))
      stillTracked restDistinct (fun role member => ?_) fun role member helper => ?_
    · rw [made_leave]
      exact made role (List.mem_cons_of_mem _ member)
    · refine canStop_leave (canStop role (List.mem_cons_of_mem _ member) helper) session ?_
      rintro rfl
      refine missing ?_
      rw [← helper]
      exact member

theorem nodup_rolesOf (closed : manager.Closed) (session : SessionID) (type : ParticipantType) :
    (manager.rolesOf session type).Nodup := by
  unfold rolesOf
  refine List.Nodup.map_on (fun first isFirst second isSecond same => ?_)
    (closed.distinct.filter _)
  have firstSession := (of_decide_eq_true (List.mem_filter.mp isFirst).2).1
  have secondSession := (of_decide_eq_true (List.mem_filter.mp isSecond).2).1
  exact Prod.ext same (firstSession.trans secondSession.symm)

theorem tracked_removeSession (closed : manager.Closed) (tracked : manager.Tracked)
    {session : SessionID} (canStop : ∀ role ∈ manager.rolesOf session .helper,
      manager.CanStop role.1) : (manager.removeSession session).Tracked := by
  have ofType : ∀ {type : ParticipantType} {role : Role},
      role ∈ manager.rolesOf session type → role.2 = type ∧ role.1 < manager.made := by
    intro type role member
    obtain ⟨-, kind, runs⟩ := mem_rolesOf.mp member
    exact ⟨kind, closed.known role.1 runs⟩
  have apart : ∀ {first second : ParticipantType}, first ≠ second →
      ∀ role ∈ manager.rolesOf session first, ∀ other ∈ manager.rolesOf session second,
        role ≠ other := by
    rintro first second different role isFirst other isSecond rfl
    exact different ((ofType isFirst).1.symm.trans (ofType isSecond).1)
  refine tracked_foldl_leave closed tracked session ?_ (fun role member => ?_)
    fun role member helper => ?_
  · refine List.nodup_append.mpr ⟨List.nodup_append.mpr ⟨nodup_rolesOf closed session .helper,
      nodup_rolesOf closed session .application, apart (by decide)⟩,
      nodup_rolesOf closed session .promptProvider, fun role member => ?_⟩
    rcases List.mem_append.mp member with isHelper | isApplication
    · exact apart (by decide) role isHelper
    · exact apart (by decide) role isApplication
  · rw [List.mem_append, List.mem_append] at member
    rcases member with (here | here) | here
    all_goals exact (ofType here).2
  · rw [List.mem_append, List.mem_append] at member
    rcases member with (isHelper | isApplication) | isProvider
    · exact canStop role isHelper
    · have kind := (ofType isApplication).1
      rw [helper] at kind
      cases kind
    · have kind := (ofType isProvider).1
      rw [helper] at kind
      cases kind

theorem tracked_step (closed : manager.Closed) (tracked : manager.Tracked) {op : Op}
    (canRefer : manager.CanRefer op) (stops : manager.StopsRunning op) :
    (manager.step op).Tracked := by
  cases op with
  | openSession session process => exact tracked
  | closeSession session => exact tracked
  | expire session => exact tracked
  | start helper process => exact tracked_start closed tracked canRefer process
  | stop promptSession => exact tracked_stop closed tracked stops
  | suspend promptSession => exact tracked_of_told tracked rfl rfl fun _ _ => rfl
  | resume promptSession => exact tracked_of_told tracked rfl rfl fun _ _ => rfl
  | addPromptProvider promptSession provider =>
    exact tracked_addPromptProvider tracked promptSession provider
  | removeSession session => exact tracked_removeSession closed tracked stops

/-- A provider that is not removed stays. -/
theorem providers_removeParticipants_kept {promptSession : PromptSessionID} {kept : SessionID}
    {sessions : List SessionID} (notAmong : kept ∉ sessions)
    (there : kept ∈ manager.providers promptSession) :
    kept ∈ (manager.removeParticipants (promptSession, .promptProvider) sessions).providers
      promptSession := by
  induction sessions generalizing manager with
  | nil => exact there
  | cons first rest inductionHypothesis =>
    have different : kept ≠ first := fun same => notAmong (same ▸ List.mem_cons_self)
    have notLater : kept ∉ rest := fun member => notAmong (List.mem_cons_of_mem _ member)
    refine inductionHypothesis notLater ?_
    show kept ∈ (manager.removeParticipant _ first).providers promptSession
    rcases manager.removeParticipant_cases (promptSession, .promptProvider) first with
      ⟨-, same⟩ | ⟨-, same⟩
    · rw [same]
      exact there
    · rw [same]
      show kept ∈ about _ (manager.participants.erase _)
      rw [about_erase, if_pos rfl]
      exact (List.mem_erase_of_ne different).mpr there

/-- A prompt session that cannot stop is heard to stop out of turn. -/
theorem stop_breaks (closed : manager.Closed) (tracked : manager.Tracked)
    {promptSession : PromptSessionID} (isMade : promptSession < manager.made)
    (cannot : ¬ manager.CanStop promptSession) :
    lifeCycle ((manager.stopPromptSessionLocked promptSession).trace promptSession) = none := by
  have left := tracked_removeParticipants closed tracked (promptSession, .promptProvider)
    ((manager.providers promptSession).filter fun session => !manager.expired session)
  have leaves := manager.leaves_removeParticipants (promptSession, .promptProvider)
    ((manager.providers promptSession).filter fun session => !manager.expired session)
  have told : (manager.stopPromptSessionLocked promptSession).trace promptSession =
      (manager.removeParticipants (promptSession, .promptProvider)
        ((manager.providers promptSession).filter fun session => !manager.expired session)).trace
          promptSession ++ [.stopping] := by
    show about promptSession (_ ++ [(promptSession, Event.stopping)]) = _
    rw [about_append, about_singleton, if_pos rfl]
    rfl
  rw [told, lifeCycle_append, left promptSession]
  by_cases runs : promptSession ∈ manager.promptSessions
  · unfold CanStop at cannot
    push Not at cannot
    obtain ⟨provider, isProvider, gone⟩ := cannot runs
    have stays : provider ∈ (manager.removeParticipants (promptSession, .promptProvider)
        ((manager.providers promptSession).filter fun session =>
          !manager.expired session)).providers promptSession :=
      providers_removeParticipants_kept (by simp [gone]) isProvider
    rw [phase_running (leaves.promptSessions ▸ runs)]
    obtain ⟨first, rest, isCons⟩ := List.exists_cons_of_ne_nil (List.ne_nil_of_mem stays)
    rw [isCons]
    rfl
  · unfold phase
    rw [leaves.promptSessions, leaves.made, if_neg runs, if_pos isMade]
    rfl

/-- In every run in which only running prompt sessions are stopped, each of whose providers can be
locked, what the listener hears of each prompt session is a life: it starts once, each provider is
added before it is removed and is not added twice in between, and it stops once at most, when each
provider was removed. A session that is removed takes part in nothing, and nobody in a prompt
session that stopped. Another prompt session that is asked to stop is heard out of turn. -/
theorem prompt_sessions_live {manager : Manager}
    (reached : Transition.Reaches step (fun before op => before.CanRefer op ∧
      before.StopsRunning op) initial manager) :
    (∀ promptSession,
      lifeCycle (manager.trace promptSession) = some (manager.phase promptSession)) ∧
    (∀ session, ∀ entry ∈ (manager.removeSession session).participants, entry.2 ≠ session) ∧
    (∀ promptSession, (promptSession, .stopping) ∈ manager.told →
      ∀ entry ∈ manager.participants, entry.1.1 ≠ promptSession) ∧
    ∀ promptSession, promptSession < manager.made → ¬ manager.CanStop promptSession →
      lifeCycle ((manager.stopPromptSession promptSession).trace promptSession) = none := by
  have anyRun : Transition.Reaches step CanRefer initial manager :=
    reached.mono fun _ _ allowed => allowed.1
  have closed : ∀ other, Transition.Reaches step (fun before op => before.CanRefer op ∧
      before.StopsRunning op) initial other → other.Closed := fun _ run =>
    run.invariant closed_initial fun _ _ before allowed => closed_step before allowed.1
  have tracked : manager.Tracked := by
    refine reached.invariant_with closed (fun _ => rfl) fun _ _ known before allowed => ?_
    exact tracked_step known before allowed.1 allowed.2
  obtain ⟨removed, forgotten⟩ := container_forgets anyRun
  exact ⟨tracked, removed, forgotten, fun promptSession =>
    stop_breaks (closed manager reached) tracked⟩

/-- A prompt session with a provider that is removed, added again and outlives the helper. -/
private def helperRemoved : List Op :=
  [.openSession 1 100, .openSession 2 200, .start 1 200, .addPromptProvider 0 3,
    .removeSession 3, .addPromptProvider 0 3, .suspend 0, .addPromptProvider 0 1,
    .removeSession 1]

theorem prompt_sessions_live_with_helper :
    (helperRemoved.foldl step initial).trace 0 =
        [.starting, .promptProviderAdded 3, .promptProviderRemoved 3, .promptProviderAdded 3,
          .suspending, .promptProviderAdded 1, .promptProviderRemoved 3,
          .promptProviderRemoved 1, .stopping] ∧
      lifeCycle ((helperRemoved.foldl step initial).trace 0) = some .stopped := by
  have reached : Transition.Reaches step (fun before op => before.CanRefer op ∧
      before.StopsRunning op) initial (helperRemoved.foldl step initial) :=
    Transition.Reaches.start.foldl helperRemoved (by decide)
  exact ⟨by decide, (prompt_sessions_live reached).1 0⟩

/-- A prompt session is stopped twice. -/
private def stoppedTwice : List Op :=
  [.openSession 1 100, .start 1 100, .stop 0, .stop 0]

theorem stop_is_heard_twice :
    ¬ ∀ manager, Transition.Reaches step CanRefer initial manager →
      ∀ promptSession, (manager.trace promptSession).count .stopping ≤ 1 := by
  intro claimed
  have reached : Transition.Reaches step CanRefer initial (stoppedTwice.foldl step initial) :=
    Transition.Reaches.start.foldl stoppedTwice (by decide)
  have once := claimed _ reached 0
  revert once
  decide

end Manager

end Mir.Scene.PromptSessions

/-
This file states what holds between any two steps of a threaded dispatcher. The flags are those of
the registered threads, one thread at most dispatches the exiter, and once the shutdown has begun
each thread that still needs a token finds one: among those in the semaphore, those that the
destructor is about to write, and those that the threads write as they register.
-/

import Mir.Dispatch.ThreadedDispatcher

namespace Mir.Dispatch

/-! ### Kinds of phases -/

namespace ThreadPhase

def isRegistered : ThreadPhase → Bool
  | .started | .exited => false
  | _ => true

def isRegistering : ThreadPhase → Bool
  | .registering => true
  | _ => false

def isReading : ThreadPhase → Bool
  | .reading => true
  | _ => false

def dispatchesExiter : ThreadPhase → Bool
  | .reading | .consumed | .flagged => true
  | _ => false

/-- Started and not unregistered, with a flag that is true. -/
def isRunning : ThreadPhase → Bool
  | .leaving running | .unregistering running => running
  | .flagged | .exited => false
  | _ => true

/-- Running, and without a token of its own. -/
def needsToken : ThreadPhase → Bool
  | .started | .registering | .polling | .handling | .reading => true
  | .leaving running | .unregistering running => running
  | .consumed | .flagged | .exited => false

/-- It writes a token itself if it registers after the shutdown has begun. -/
def owesToken : ThreadPhase → Bool
  | .started | .registering => true
  | _ => false

def mayHaveRead : ThreadPhase → Bool
  | .consumed | .flagged | .leaving _ | .unregistering _ | .exited => true
  | _ => false

theorem registered_or_owes (phase : ThreadPhase) (needs : phase.needsToken = true) :
    phase.isRegistered = true ∨ phase.owesToken = true := by
  cases phase with
  | started => exact .inr rfl
  | exited => cases needs
  | _ => exact .inl rfl

end ThreadPhase

/-! ### What holds between two steps -/

/-- A thread reads one token at most, finds its flag when it clears it, and has one to erase. -/
def DispatcherEvent.Fits (before : List DispatcherEvent) : DispatcherEvent → Prop
  | .tokenRead thread => .tokenRead thread ∉ before
  | .flagCleared found => found = true
  | .unregistered found => found = true

namespace ThreadedDispatcher

variable {dispatcher : ThreadedDispatcher}

/-- The threads that still need a token find one. -/
def Enough (dispatcher : ThreadedDispatcher) : Prop :=
  dispatcher.phases.count ThreadPhase.needsToken ≤
    dispatcher.tokens + dispatcher.threadCount.getD 0 +
      dispatcher.phases.count ThreadPhase.owesToken

structure Sound (dispatcher : ThreadedDispatcher) : Prop where
  unmade : ∀ thread, dispatcher.threads ≤ thread → dispatcher.phases.find thread = none
  pooled : ∀ thread ∈ dispatcher.threadpool, thread ∈ dispatcher.phases.keysOf fun _ => true
  flags : dispatcher.phases.Lists ThreadPhase.isRegistered dispatcher.runningFlags
  registrar : dispatcher.phases.HoldsOnly ThreadPhase.isRegistering dispatcher.registering
  exiter : dispatcher.phases.HoldsOnly ThreadPhase.dispatchesExiter dispatcher.exiting
  readable : ∀ thread ∈ dispatcher.phases.keysOf ThreadPhase.isReading, 0 < dispatcher.tokens
  enough : dispatcher.shuttingDown = true → dispatcher.Enough
  along : History.Along DispatcherEvent.Fits dispatcher.history
  readOnce : ∀ thread, .tokenRead thread ∈ dispatcher.history →
    thread ∈ dispatcher.phases.keysOf ThreadPhase.mayHaveRead

theorem sound_initial : initial.Sound where
  unmade thread made := by
    have other : thread ≠ 0 := Nat.ne_of_gt made
    rw [initial, OrderedMap.find_set, if_neg other]
    rfl
  pooled thread member := member
  flags := ⟨List.nodup_nil, fun _ => Iff.rfl⟩
  registrar thread := ⟨fun none => (nomatch none), fun member => (nomatch member)⟩
  exiter thread := ⟨fun none => (nomatch none), fun member => (nomatch member)⟩
  readable thread reading := nomatch reading
  enough shutting := nomatch shutting
  along := History.along_nil
  readOnce thread read := nomatch read

/-! ### A thread goes on to its next phase -/

section

variable {thread : ThreadID} {before after : ThreadPhase}

theorem Sound.unmade_set (sound : dispatcher.Sound)
    (known : dispatcher.phases.find thread = some before) (other : ThreadID)
    (made : dispatcher.threads ≤ other) :
    (dispatcher.phases.set thread after).find other = none := by
  have missing := sound.unmade other made
  rw [OrderedMap.find_set, if_neg, missing]
  rintro rfl
  rw [known] at missing
  cases missing

theorem Sound.pooled_set (sound : dispatcher.Sound)
    (known : dispatcher.phases.find thread = some before) (other : ThreadID)
    (member : other ∈ dispatcher.threadpool) :
    other ∈ (dispatcher.phases.set thread after).keysOf fun _ => true := by
  have same : (fun _ : ThreadPhase => true) after = (fun _ => true) before := rfl
  exact (OrderedMap.mem_keysOf_set_same known same other).mpr (sound.pooled other member)

theorem Sound.readable_set (sound : dispatcher.Sound) (notReading : after.isReading = false)
    (other : ThreadID)
    (reading : other ∈ (dispatcher.phases.set thread after).keysOf ThreadPhase.isReading) :
    0 < dispatcher.tokens := by
  rw [OrderedMap.mem_keysOf_set] at reading
  by_cases same : other = thread
  · rw [if_pos same, notReading] at reading
    cases reading
  · rw [if_neg same] at reading
    exact sound.readable other reading

theorem Sound.readOnce_set (sound : dispatcher.Sound)
    (known : dispatcher.phases.find thread = some before)
    (still : before.mayHaveRead = true → after.mayHaveRead = true) (other : ThreadID)
    (read : .tokenRead other ∈ dispatcher.history) :
    other ∈ (dispatcher.phases.set thread after).keysOf ThreadPhase.mayHaveRead := by
  have had := sound.readOnce other read
  rw [OrderedMap.mem_keysOf_set]
  by_cases same : other = thread
  · rw [if_pos same]
    rw [same, OrderedMap.mem_keysOf_of_find known] at had
    exact still had
  · rw [if_neg same]
    exact had

/-- The next phase needs and owes no more than the one before did. -/
theorem Sound.enough_set (sound : dispatcher.Sound)
    (known : dispatcher.phases.find thread = some before)
    (needs : after.needsToken = true → before.needsToken = true)
    (owes : after.owesToken = before.owesToken) (shutting : dispatcher.shuttingDown = true) :
    { dispatcher with phases := dispatcher.phases.set thread after }.Enough := by
  have enough := sound.enough shutting
  have needed := dispatcher.phases.count_set_known after known ThreadPhase.needsToken
  have owed := dispatcher.phases.count_set_known after known ThreadPhase.owesToken
  have less : (if after.needsToken = true then 1 else 0) ≤
      if before.needsToken = true then 1 else 0 := by
    by_cases stillNeeds : after.needsToken = true
    · rw [if_pos stillNeeds, if_pos (needs stillNeeds)]
    · rw [if_neg stillNeeds]
      exact Nat.zero_le _
  rw [owes] at owed
  unfold Enough at enough ⊢
  dsimp only
  omega

/-- Nothing but the phase of one thread changes, and the phases differ in no kind. -/
theorem Sound.set_phase (sound : dispatcher.Sound)
    (known : dispatcher.phases.find thread = some before)
    (registered : after.isRegistered = before.isRegistered)
    (registering : after.isRegistering = before.isRegistering)
    (dispatches : after.dispatchesExiter = before.dispatchesExiter)
    (notReading : after.isReading = false)
    (needs : after.needsToken = before.needsToken) (owes : after.owesToken = before.owesToken)
    (still : before.mayHaveRead = true → after.mayHaveRead = true) :
    { dispatcher with phases := dispatcher.phases.set thread after }.Sound where
  unmade := sound.unmade_set known
  pooled := sound.pooled_set known
  flags := sound.flags.set_same known registered
  registrar := sound.registrar.set_same known registering
  exiter := sound.exiter.set_same known dispatches
  readable := sound.readable_set notReading
  enough := sound.enough_set known (fun after => needs ▸ after) owes
  along := sound.along
  readOnce := sound.readOnce_set known still

end

/-! ### Every step -/

theorem Sound.flag_of_find (sound : dispatcher.Sound) {thread : ThreadID} {phase : ThreadPhase}
    (known : dispatcher.phases.find thread = some phase) :
    thread ∈ dispatcher.runningFlags ↔ phase.isRegistered = true :=
  (sound.flags.2 thread).trans (OrderedMap.mem_keysOf_of_find known _)

theorem Sound.adds (sound : dispatcher.Sound) (running : dispatcher.shuttingDown = false) :
    { dispatcher with
      phases := dispatcher.phases.set dispatcher.threads .started
      threads := dispatcher.threads + 1
      threadpool := dispatcher.threadpool ++ [dispatcher.threads] }.Sound := by
  have new := sound.unmade dispatcher.threads (Nat.le_refl _)
  have other : ∀ thread ∈ dispatcher.phases.keysOf fun _ => true, thread ≠ dispatcher.threads := by
    rintro thread member rfl
    obtain ⟨phase, known, -⟩ := (OrderedMap.mem_keysOf ..).mp member
    rw [new] at known
    cases known
  exact
    { unmade := by
        intro thread made
        rw [OrderedMap.find_set, if_neg (Nat.ne_of_gt made)]
        exact sound.unmade thread (Nat.le_of_succ_le made)
      pooled := by
        intro thread member
        rw [OrderedMap.mem_keysOf_set]
        rcases List.mem_append.mp member with earlier | added
        · have pooled := sound.pooled thread earlier
          rw [if_neg (other thread pooled)]
          exact pooled
        · rw [if_pos (List.mem_singleton.mp added)]
      flags := sound.flags.set_new new rfl
      registrar := sound.registrar.set_new new rfl
      exiter := sound.exiter.set_new new rfl
      readable := sound.readable_set rfl
      enough := fun shutting => absurd (running.symm.trans shutting) Bool.false_ne_true
      along := sound.along
      readOnce := by
        intro thread read
        have had := sound.readOnce thread read
        obtain ⟨phase, known, -⟩ := (OrderedMap.mem_keysOf ..).mp had
        rw [OrderedMap.mem_keysOf_set, if_neg]
        · exact had
        · exact other thread ((OrderedMap.mem_keysOf_of_find known _).mpr rfl) }

theorem Sound.registers (sound : dispatcher.Sound) {thread : ThreadID}
    (known : dispatcher.phases.find thread = some .started)
    (running : dispatcher.shuttingDown = false) :
    { dispatcher with
      runningFlags := dispatcher.runningFlags ++ [thread]
      phases := dispatcher.phases.set thread .polling }.Sound where
  unmade := sound.unmade_set known
  pooled := sound.pooled_set known
  flags := sound.flags.set_in (fun member => nomatch (sound.flag_of_find known).mp member) rfl
  registrar := sound.registrar.set_same known rfl
  exiter := sound.exiter.set_same known rfl
  readable := sound.readable_set rfl
  enough shutting := absurd (running.symm.trans shutting) Bool.false_ne_true
  along := sound.along
  readOnce := sound.readOnce_set known fun wrong => nomatch wrong

theorem Sound.registersLate (sound : dispatcher.Sound) {thread : ThreadID}
    (known : dispatcher.phases.find thread = some .started)
    (free : dispatcher.registering = none) :
    { dispatcher with
      runningFlags := dispatcher.runningFlags ++ [thread]
      phases := dispatcher.phases.set thread .registering
      registering := some thread }.Sound where
  unmade := sound.unmade_set known
  pooled := sound.pooled_set known
  flags := sound.flags.set_in (fun member => nomatch (sound.flag_of_find known).mp member) rfl
  registrar := (free ▸ sound.registrar : dispatcher.phases.HoldsOnly _ none).set_in rfl
  exiter := sound.exiter.set_same known rfl
  readable := sound.readable_set rfl
  enough := sound.enough_set known id rfl
  along := sound.along
  readOnce := sound.readOnce_set known fun wrong => nomatch wrong

/-- The token that the thread owed is in the semaphore. -/
theorem Sound.writesOwn (sound : dispatcher.Sound) {thread : ThreadID}
    (known : dispatcher.phases.find thread = some .registering) :
    { dispatcher with
      phases := dispatcher.phases.set thread .polling
      tokens := dispatcher.tokens + 1
      registering := none }.Sound where
  unmade := sound.unmade_set known
  pooled := sound.pooled_set known
  flags := sound.flags.set_same known rfl
  registrar := sound.registrar.set_out known rfl rfl
  exiter := sound.exiter.set_same known rfl
  readable _ _ := Nat.succ_pos _
  enough shutting := by
    have enough := sound.enough shutting
    have needed := dispatcher.phases.count_set_known .polling known ThreadPhase.needsToken
    have owed := dispatcher.phases.count_set_known .polling known ThreadPhase.owesToken
    unfold Enough at enough ⊢
    simp only [ThreadPhase.needsToken, ThreadPhase.owesToken, if_true, Bool.false_eq_true,
      if_false] at needed owed
    dsimp only
    omega
  along := sound.along
  readOnce := sound.readOnce_set known fun wrong => nomatch wrong

theorem Sound.exits (sound : dispatcher.Sound) {thread : ThreadID}
    (known : dispatcher.phases.find thread = some .polling) (armed : dispatcher.exiting = none)
    (readable : 0 < dispatcher.tokens) :
    { dispatcher with
      phases := dispatcher.phases.set thread .reading
      exiting := some thread }.Sound where
  unmade := sound.unmade_set known
  pooled := sound.pooled_set known
  flags := sound.flags.set_same known rfl
  registrar := sound.registrar.set_same known rfl
  exiter := (armed ▸ sound.exiter : dispatcher.phases.HoldsOnly _ none).set_in rfl
  readable _ _ := readable
  enough := sound.enough_set known id rfl
  along := sound.along
  readOnce := sound.readOnce_set known fun wrong => nomatch wrong

/-- Only the thread that dispatches the exiter is about to read. -/
theorem Sound.reads (sound : dispatcher.Sound) {thread : ThreadID}
    (known : dispatcher.phases.find thread = some .reading)
    (readable : 0 < dispatcher.tokens) :
    { dispatcher with
      phases := dispatcher.phases.set thread .consumed
      tokens := dispatcher.tokens - 1
      history := dispatcher.history ++ [DispatcherEvent.tokenRead thread] }.Sound where
  unmade := sound.unmade_set known
  pooled := sound.pooled_set known
  flags := sound.flags.set_same known rfl
  registrar := sound.registrar.set_same known rfl
  exiter := sound.exiter.set_same known rfl
  readable other reading := by
    rw [OrderedMap.mem_keysOf_set] at reading
    by_cases same : other = thread
    · rw [if_pos same] at reading
      cases reading
    · rw [if_neg same] at reading
      obtain ⟨phase, found, isReading⟩ := (OrderedMap.mem_keysOf ..).mp reading
      have dispatches : phase.dispatchesExiter = true := by
        cases phase with
        | reading => rfl
        | _ => cases isReading
      have first := sound.exiter.eq_some known rfl
      have second := sound.exiter.eq_some found dispatches
      exact absurd (Option.some.inj (second.symm.trans first)) same
  enough shutting := by
    have enough := sound.enough shutting
    have needed := dispatcher.phases.count_set_known .consumed known ThreadPhase.needsToken
    have owed := dispatcher.phases.count_set_known .consumed known ThreadPhase.owesToken
    unfold Enough at enough ⊢
    simp only [ThreadPhase.needsToken, ThreadPhase.owesToken, if_true, Bool.false_eq_true,
      if_false] at needed owed
    dsimp only
    omega
  along := by
    refine History.along_append_singleton.mpr ⟨sound.along, fun read => ?_⟩
    have had := sound.readOnce thread read
    rw [OrderedMap.mem_keysOf_of_find known] at had
    cases had
  readOnce other read := by
    rcases List.mem_append.mp read with earlier | now
    · exact sound.readOnce_set known (fun wrong => nomatch wrong) other earlier
    · cases List.mem_singleton.mp now
      rw [OrderedMap.mem_keysOf_set, if_pos rfl]
      rfl

theorem Sound.clears (sound : dispatcher.Sound) {thread : ThreadID}
    (known : dispatcher.phases.find thread = some .consumed) :
    { dispatcher with
      phases := dispatcher.phases.set thread .flagged
      history := dispatcher.history ++ [DispatcherEvent.flagCleared true] }.Sound where
  unmade := sound.unmade_set known
  pooled := sound.pooled_set known
  flags := sound.flags.set_same known rfl
  registrar := sound.registrar.set_same known rfl
  exiter := sound.exiter.set_same known rfl
  readable := sound.readable_set rfl
  enough := sound.enough_set known id rfl
  along := History.along_append_singleton.mpr ⟨sound.along, rfl⟩
  readOnce other read := by
    rcases List.mem_append.mp read with earlier | now
    · exact sound.readOnce_set known (fun _ => rfl) other earlier
    · cases List.mem_singleton.mp now

theorem Sound.rearms (sound : dispatcher.Sound) {thread : ThreadID}
    (known : dispatcher.phases.find thread = some .flagged) :
    { dispatcher with
      phases := dispatcher.phases.set thread (.leaving false)
      exiting := none }.Sound where
  unmade := sound.unmade_set known
  pooled := sound.pooled_set known
  flags := sound.flags.set_same known rfl
  registrar := sound.registrar.set_same known rfl
  exiter := sound.exiter.set_out known rfl rfl
  readable := sound.readable_set rfl
  enough := sound.enough_set known id rfl
  along := sound.along
  readOnce := sound.readOnce_set known id

theorem Sound.erases (sound : dispatcher.Sound) {thread : ThreadID} {running : Bool}
    (known : dispatcher.phases.find thread = some (.unregistering running)) :
    { dispatcher with
      phases := dispatcher.phases.set thread .exited
      runningFlags := dispatcher.runningFlags.erase thread
      history := dispatcher.history ++
        [DispatcherEvent.unregistered (decide (thread ∈ dispatcher.runningFlags))] }.Sound where
  unmade := sound.unmade_set known
  pooled := sound.pooled_set known
  flags := sound.flags.set_out rfl
  registrar := sound.registrar.set_same known rfl
  exiter := sound.exiter.set_same known rfl
  readable := sound.readable_set rfl
  enough := sound.enough_set known (fun wrong => nomatch wrong) rfl
  along := by
    refine History.along_append_singleton.mpr ⟨sound.along, decide_eq_true ?_⟩
    exact (sound.flag_of_find known).mpr rfl
  readOnce other read := by
    rcases List.mem_append.mp read with earlier | now
    · exact sound.readOnce_set known (fun _ => rfl) other earlier
    · cases List.mem_singleton.mp now

/-- The destructor counts the registered threads; those that are not write their tokens. -/
theorem Sound.terminatesAll (sound : dispatcher.Sound) :
    { dispatcher with
      shuttingDown := true
      threadCount := some dispatcher.runningFlags.length }.Sound :=
  { sound with
    enough := fun _ => by
      have either := dispatcher.phases.count_le_add ThreadPhase.registered_or_owes
      have counted := sound.flags.length_eq
      unfold Enough
      dsimp only [Option.getD_some]
      omega }

theorem Sound.step (sound : dispatcher.Sound) (op : DispatcherOp) :
    (dispatcher.step op).Sound := by
  have stepped := dispatcher.step_cases op
  generalize dispatcher.step op = after at stepped
  cases stepped with
  | waits => exact sound
  | adds running => exact sound.adds running
  | registers thread known _ running => exact sound.registers known running
  | registersLate thread known free => exact sound.registersLate known free
  | writesOwn thread known => exact sound.writesOwn known
  | handles thread known => exact sound.set_phase known rfl rfl rfl rfl rfl rfl id
  | returns thread known => exact sound.set_phase known rfl rfl rfl rfl rfl rfl id
  | throws thread phase known inLoop =>
    rcases inLoop with rfl | rfl
    · exact sound.set_phase known rfl rfl rfl rfl rfl rfl fun wrong => nomatch wrong
    · exact sound.set_phase known rfl rfl rfl rfl rfl rfl fun wrong => nomatch wrong
  | exits thread known armed readable => exact sound.exits known armed readable
  | reads thread known readable => exact sound.reads known readable
  | clears thread known => exact sound.clears known
  | misses thread known missing => exact absurd ((sound.flag_of_find known).mpr rfl) missing
  | rearms thread known => exact sound.rearms known
  | pushes thread running known =>
    have moved : { dispatcher with
        phases := dispatcher.phases.set thread (.unregistering running) }.Sound :=
      sound.set_phase known rfl rfl rfl rfl rfl rfl id
    exact { moved with }
  | erases thread running known => exact sound.erases known
  | terminatesOne =>
    exact
      { sound with
        readable := fun _ _ => Nat.succ_pos _
        enough := fun shutting => by
          have enough := sound.enough shutting
          unfold Enough at enough ⊢
          dsimp only
          omega }
  | takes killed last => exact { sound with }
  | joins thread =>
    exact
      { sound with
        pooled := fun other member => sound.pooled other (List.mem_of_mem_erase member) }
  | terminatesAll => exact sound.terminatesAll
  | writesAll count pending =>
    exact
      { sound with
        readable := fun thread reading =>
          Nat.lt_of_lt_of_le (sound.readable thread reading) (Nat.le_add_right _ _)
        enough := fun shutting => by
          have enough := sound.enough shutting
          unfold Enough at enough ⊢
          rw [pending] at enough
          dsimp only [Option.getD_some, Option.getD_none] at enough ⊢
          omega }

theorem sound_after (ops : List DispatcherOp) : (after ops).Sound := by
  rw [after]
  induction ops using List.reverseRecOn with
  | nil => exact sound_initial
  | append_singleton ops op inductionHypothesis =>
    rw [List.foldl_append]
    exact inductionHypothesis.step op

end ThreadedDispatcher

end Mir.Dispatch

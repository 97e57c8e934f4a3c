/-
This file proves that the shutdown of a threaded dispatcher ends. From every state reached, each
thread that still needs a token finds one, so as long as some thread has not exited there is a step
that a thread or the destructor can take; and each step but the start of a handler takes something
off what remains to be done. Whatever the order of the steps, the threads have then all exited, and
the destructor has joined them.
-/

import Mir.Dispatch.ShutdownSound

namespace Mir.Dispatch

/-- An upper bound of the steps of a thread until it has exited. -/
def ThreadPhase.stepsLeft : ThreadPhase → Nat
  | .started => 8
  | .registering | .handling => 7
  | .polling => 6
  | .reading => 5
  | .consumed => 4
  | .flagged => 3
  | .leaving _ => 2
  | .unregistering _ => 1
  | .exited => 0

namespace DispatcherOp

/-- The steps of the threads, and the write of the destructor. -/
def isShutdown : DispatcherOp → Bool
  | .addThread | .terminateOneThread | .takeTerminated | .joinKilled _ | .terminateAllThreads =>
    false
  | _ => true

/-- A thread need not call a handler, and need not throw. -/
def isDue : DispatcherOp → Bool
  | .handle _ | .throws _ => false
  | op => op.isShutdown

/-- A handler that is called has to return. -/
def handlerCost : DispatcherOp → Nat
  | .handle _ => 2
  | _ => 0

end DispatcherOp

namespace ThreadedDispatcher

variable {dispatcher : ThreadedDispatcher}

/-- An upper bound of the steps until every thread has exited, if no more handlers are called. -/
def stepsLeft (dispatcher : ThreadedDispatcher) : Nat :=
  dispatcher.phases.total ThreadPhase.stepsLeft + if dispatcher.threadCount.isSome then 1 else 0

/-- A step of the shutdown that does not have to wait. -/
def Proceeds (dispatcher : ThreadedDispatcher) (op : DispatcherOp) : Prop :=
  op.isShutdown = true ∧ dispatcher.step op ≠ dispatcher

/-! ### The shutdown ends -/

theorem stepsLeft_set {next : ThreadedDispatcher} {thread : ThreadID}
    {before after : ThreadPhase} {cost : Nat}
    (known : dispatcher.phases.find thread = some before)
    (phases : next.phases = dispatcher.phases.set thread after)
    (sameCount : next.threadCount = dispatcher.threadCount)
    (fewer : after.stepsLeft + 1 ≤ before.stepsLeft + cost) :
    next.stepsLeft + 1 ≤ dispatcher.stepsLeft + cost := by
  have total := dispatcher.phases.total_set_known after known ThreadPhase.stepsLeft
  unfold stepsLeft
  rw [phases, sameCount]
  omega

theorem stepsLeft_step {op : DispatcherOp} (proceeds : dispatcher.Proceeds op) :
    (dispatcher.step op).stepsLeft + 1 ≤ dispatcher.stepsLeft + op.handlerCost := by
  obtain ⟨isShutdown, changes⟩ := proceeds
  have stepped := dispatcher.step_cases op
  generalize dispatcher.step op = after at stepped changes
  cases stepped with
  | waits => exact absurd rfl changes
  | registers thread known => exact stepsLeft_set known rfl rfl (Nat.le_of_ble_eq_true rfl)
  | registersLate thread known => exact stepsLeft_set known rfl rfl (Nat.le_of_ble_eq_true rfl)
  | writesOwn thread known => exact stepsLeft_set known rfl rfl (Nat.le_of_ble_eq_true rfl)
  | handles thread known => exact stepsLeft_set known rfl rfl (Nat.le_of_ble_eq_true rfl)
  | returns thread known => exact stepsLeft_set known rfl rfl (Nat.le_of_ble_eq_true rfl)
  | throws thread phase known inLoop =>
    rcases inLoop with rfl | rfl
    · exact stepsLeft_set known rfl rfl (Nat.le_of_ble_eq_true rfl)
    · exact stepsLeft_set known rfl rfl (Nat.le_of_ble_eq_true rfl)
  | exits thread known => exact stepsLeft_set known rfl rfl (Nat.le_of_ble_eq_true rfl)
  | reads thread known => exact stepsLeft_set known rfl rfl (Nat.le_of_ble_eq_true rfl)
  | clears thread known => exact stepsLeft_set known rfl rfl (Nat.le_of_ble_eq_true rfl)
  | misses thread known => exact stepsLeft_set known rfl rfl (Nat.le_of_ble_eq_true rfl)
  | rearms thread known => exact stepsLeft_set known rfl rfl (Nat.le_of_ble_eq_true rfl)
  | pushes thread running known => exact stepsLeft_set known rfl rfl (Nat.le_refl 2)
  | erases thread running known => exact stepsLeft_set known rfl rfl (Nat.le_refl 1)
  | writesAll count pending =>
    unfold stepsLeft
    rw [pending]
    exact Nat.le_refl _
  | adds | terminatesOne | takes | joins | terminatesAll => cases isShutdown

/-- However the shutdown goes on, it ends, unless handlers are called again and again. -/
theorem length_le_of_proceeds {ops : List DispatcherOp}
    (along : Transition.AllowedAlong step Proceeds dispatcher ops) :
    ops.length ≤ dispatcher.stepsLeft + (ops.map DispatcherOp.handlerCost).sum :=
  Transition.length_le_of_measure stepsLeft DispatcherOp.handlerCost
    (fun _ _ => stepsLeft_step) along

/-! ### It ends only when every thread has exited -/

theorem is_of_find {thread : ThreadID} {phase : ThreadPhase}
    (known : dispatcher.phases.find thread = some phase) : dispatcher.is thread phase = true :=
  decide_eq_true known

/-- A step that takes a thread to another phase. -/
theorem proceeds_of_set {op : DispatcherOp} {thread : ThreadID} {before : ThreadPhase}
    (after : ThreadPhase) (isShutdown : op.isShutdown = true)
    (known : dispatcher.phases.find thread = some before) (different : after ≠ before)
    (phases : (dispatcher.step op).phases = dispatcher.phases.set thread after) :
    dispatcher.Proceeds op := by
  refine ⟨isShutdown, fun same => different ?_⟩
  have found := congrArg (fun map => map.find thread) phases
  rw [same, OrderedMap.find_set, if_pos rfl, known] at found
  exact (Option.some.inj found).symm

theorem register_proceeds {thread : ThreadID}
    (known : dispatcher.phases.find thread = some .started)
    (free : dispatcher.registering = none) : dispatcher.Proceeds (.register thread) := by
  have can : dispatcher.is thread .started = true ∧ dispatcher.registering = none :=
    ⟨is_of_find known, free⟩
  by_cases late : dispatcher.shuttingDown = true
  · refine proceeds_of_set .registering rfl known (by decide) ?_
    rw [step, register, if_pos can, if_pos late]
    rfl
  · refine proceeds_of_set .polling rfl known (by decide) ?_
    rw [step, register, if_pos can, if_neg late]
    rfl

/-- A thread that dispatches the exiter takes its next step. -/
theorem Sound.exiter_proceeds (sound : dispatcher.Sound) (free : dispatcher.registering = none)
    {thread : ThreadID} (exiting : dispatcher.exiting = some thread) :
    ∃ op, op.isDue = true ∧ dispatcher.Proceeds op := by
  obtain ⟨phase, known, dispatches⟩ :=
    (OrderedMap.mem_keysOf ..).mp ((sound.exiter thread).mp exiting)
  cases phase with
  | reading =>
    have readable := sound.readable thread ((OrderedMap.mem_keysOf_of_find known _).mpr rfl)
    refine ⟨.read thread, rfl, proceeds_of_set .consumed rfl known (by decide) ?_⟩
    rw [ThreadedDispatcher.step, read, if_pos ⟨is_of_find known, readable⟩]
    rfl
  | consumed =>
    have found := (sound.flag_of_find known).mpr rfl
    refine ⟨.clearFlag thread, rfl, proceeds_of_set .flagged rfl known (by decide) ?_⟩
    rw [ThreadedDispatcher.step, clearFlag, if_pos ⟨is_of_find known, free⟩, if_pos found]
    rfl
  | flagged =>
    refine ⟨.rearm thread, rfl, proceeds_of_set (.leaving false) rfl known (by decide) ?_⟩
    rw [ThreadedDispatcher.step, rearm, if_pos (is_of_find known)]
    rfl
  | _ => cases dispatches

/-- With the semaphore readable and the exiter armed, a thread that polls is told of it; if the
semaphore is empty, some thread is still to register and to write a token. -/
theorem Sound.polling_proceeds (sound : dispatcher.Sound)
    (shutting : dispatcher.shuttingDown = true) (written : dispatcher.threadCount = none)
    (free : dispatcher.registering = none) (armed : dispatcher.exiting = none)
    {thread : ThreadID} (known : dispatcher.phases.find thread = some .polling) :
    ∃ op, op.isDue = true ∧ dispatcher.Proceeds op := by
  by_cases owed : 0 < dispatcher.phases.count ThreadPhase.owesToken
  · obtain ⟨other, phase, found, owes⟩ := (OrderedMap.count_pos_iff ..).mp owed
    cases phase with
    | started => exact ⟨.register other, rfl, register_proceeds found free⟩
    | registering => cases free.symm.trans (sound.registrar.eq_some found rfl)
    | _ => cases owes
  · have enough := sound.enough shutting
    have needed : 0 < dispatcher.phases.count ThreadPhase.needsToken :=
      (OrderedMap.count_pos_iff ..).mpr ⟨thread, .polling, known, rfl⟩
    unfold Enough at enough
    rw [written, Option.getD_none] at enough
    have readable : 0 < dispatcher.tokens := by omega
    refine ⟨.exit thread, rfl, proceeds_of_set .reading rfl known (by decide) ?_⟩
    rw [ThreadedDispatcher.step, exit, if_pos ⟨is_of_find known, armed, readable⟩]
    rfl

/-- While a thread has not exited, a thread or the destructor takes a step. -/
theorem Sound.proceeds (sound : dispatcher.Sound) (shutting : dispatcher.shuttingDown = true)
    {thread : ThreadID} {phase : ThreadPhase}
    (known : dispatcher.phases.find thread = some phase) (alive : phase ≠ .exited) :
    ∃ op, op.isDue = true ∧ dispatcher.Proceeds op := by
  rcases written : dispatcher.threadCount with - | count
  · rcases free : dispatcher.registering with - | registrar
    · rcases armed : dispatcher.exiting with - | exiter
      · cases phase with
        | started => exact ⟨.register thread, rfl, register_proceeds known free⟩
        | registering => cases free.symm.trans (sound.registrar.eq_some known rfl)
        | polling => exact sound.polling_proceeds shutting written free armed known
        | handling =>
          refine ⟨.returns thread, rfl, proceeds_of_set .polling rfl known (by decide) ?_⟩
          rw [ThreadedDispatcher.step, returns, move, if_pos (is_of_find known)]
          rfl
        | reading | consumed | flagged => cases armed.symm.trans (sound.exiter.eq_some known rfl)
        | leaving running =>
          refine ⟨.pushID thread, rfl, proceeds_of_set (.unregistering running) rfl known
            (fun same => nomatch same) ?_⟩
          simp only [ThreadedDispatcher.step, pushID, known]
          rfl
        | unregistering running =>
          refine ⟨.eraseFlag thread, rfl, proceeds_of_set .exited rfl known
            (fun same => nomatch same) ?_⟩
          simp only [ThreadedDispatcher.step, eraseFlag, known, free]
          rfl
        | exited => exact absurd rfl alive
      · exact sound.exiter_proceeds free armed
    · have known := (OrderedMap.mem_keysOf ..).mp ((sound.registrar registrar).mp free)
      obtain ⟨phase, known, registering⟩ := known
      cases phase with
      | registering =>
        refine ⟨.writeOwn registrar, rfl, proceeds_of_set .polling rfl known (by decide) ?_⟩
        rw [ThreadedDispatcher.step, writeOwn, if_pos (is_of_find known)]
        rfl
      | _ => cases registering
  · refine ⟨.writeAll, rfl, rfl, fun same => ?_⟩
    have counts := congrArg threadCount same
    simp only [ThreadedDispatcher.step, writeAll, written] at counts
    cases counts

/-! ### Every run -/

theorem step_shuttingDown (op : DispatcherOp) (shutting : dispatcher.shuttingDown = true) :
    (dispatcher.step op).shuttingDown = true := by
  have stepped := dispatcher.step_cases op
  generalize dispatcher.step op = after at stepped
  cases stepped with
  | terminatesAll => rfl
  | _ => exact shutting

theorem foldl_shuttingDown (ops : List DispatcherOp) (shutting : dispatcher.shuttingDown = true) :
    (ops.foldl step dispatcher).shuttingDown = true := by
  induction ops generalizing dispatcher with
  | nil => exact shutting
  | cons op rest inductionHypothesis => exact inductionHypothesis (step_shuttingDown op shutting)

/-- In every order of the steps, no thread reads two tokens, each finds its flag when it clears it,
and has one to erase when it leaves. Once the shutdown has begun, the threads that are started and
not unregistered, whose flag is true and which have read no token, are no more than the tokens in
the semaphore, those the destructor is about to write, and those that threads write themselves as
they register. However the shutdown goes on, it ends, except by calls of handlers without end; and
where it cannot go on, every thread that the destructor joins has exited. -/
theorem every_thread_exits (ops : List DispatcherOp) :
    History.Along DispatcherEvent.Fits (after ops).history ∧
      ((after ops).shuttingDown = true →
        (after ops).phases.count ThreadPhase.needsToken ≤
          (after ops).tokens + (after ops).threadCount.getD 0 +
            (after ops).phases.count ThreadPhase.owesToken ∧
        ∀ later, Transition.AllowedAlong step Proceeds (after ops) later →
          later.length ≤ (after ops).stepsLeft + (later.map DispatcherOp.handlerCost).sum ∧
          ((∀ op, op.isDue = true → ¬(later.foldl step (after ops)).Proceeds op) →
            ∀ thread ∈ (later.foldl step (after ops)).threadpool,
              (later.foldl step (after ops)).phases.find thread = some .exited)) := by
  have sound := sound_after ops
  refine ⟨sound.along, fun shutting => ⟨sound.enough shutting, fun later along => ?_⟩⟩
  refine ⟨length_le_of_proceeds along, fun stuck thread member => ?_⟩
  have soundLater : (later.foldl step (after ops)).Sound := by
    rw [after, ← List.foldl_append]
    exact sound_after (ops ++ later)
  obtain ⟨phase, known, -⟩ := (OrderedMap.mem_keysOf ..).mp (soundLater.pooled thread member)
  by_contra running
  obtain ⟨op, isDue, proceeds⟩ := soundLater.proceeds (foldl_shuttingDown later shutting) known
    fun exited => running (exited ▸ known)
  exact stuck op isDue proceeds

/-- A thread that has not registered when the destructor counts the flags has no token in the
semaphore, and its flag is true. -/
theorem unregistered_thread_has_no_token :
    ¬ ∀ ops : List DispatcherOp, (after ops).shuttingDown = true →
      (after ops).phases.count ThreadPhase.isRunning ≤ (after ops).tokens :=
  fun always => absurd (always [.terminateAllThreads, .writeAll] rfl) (by decide)

end ThreadedDispatcher

end Mir.Dispatch

/-
This file embeds the policy that drops a frame of a blocked client after a timeout. The policy
counts the swaps that wait, in a machine integer, beside an alarm of the main loop. Its calls and
the callback of its alarm are made under the mutex of the stream, so that each of them is one step;
the loop finds sources of the alarm ready at any time between them.
-/

import Mir.MainLoop.AlarmSound

namespace Mir.MainLoop.Alarm

/-! ### The calls of an alarm, each from its beginning to its end -/

def rescheduleIn (alarm : Alarm) (byCallback : Bool) : Alarm :=
  ((alarm.step (.reschedule byCallback)).step .attach).step .endReschedule

/-- The call returns whether the state is cancelled at its end. -/
def cancelNow (alarm : Alarm) : Alarm :=
  ((alarm.step (.cancel false)).step .disable).step .endCancel

variable {alarm : Alarm}

theorem Sound.rescheduleIn (sound : alarm.Sound) (byCallback : Bool) :
    (alarm.rescheduleIn byCallback).Sound :=
  ((sound.step _).step _).step _

theorem Sound.cancelNow (sound : alarm.Sound) : alarm.cancelNow.Sound :=
  ((sound.step _).step _).step _

theorem rescheduleIn_eq {byCallback : Bool} (can : alarm.canCall byCallback = true) :
    alarm.rescheduleIn byCallback =
      { alarm with
        state := .pending
        gsource := some alarm.made
        made := alarm.made + 1
        enabled := alarm.enabled ++ [alarm.made]
        attached := (alarm.attached ++ [alarm.made]).filter fun other => some other ≠ alarm.gsource
        call := none
        history := alarm.history ++ [.scheduled alarm.made] ++
          [.rescheduled alarm.made (decide (alarm.state = .pending))] } := by
  simp only [rescheduleIn, step, rescheduleFor, if_pos can, addTimerGSource, endReschedule]

theorem rescheduleIn_dispatch {byCallback : Bool} (can : alarm.canCall byCallback = true) :
    (alarm.rescheduleIn byCallback).dispatch = alarm.dispatch := by
  rw [rescheduleIn_eq can]

theorem find_dispatch (id : TimerID) : (alarm.step (.find id)).dispatch = alarm.dispatch := by
  dsimp only [step, find]
  split <;> rfl

/-- Every source of the alarm is gone or disabled. -/
structure Vacant (alarm : Alarm) : Prop where
  sound : alarm.Sound
  free : alarm.call = none
  notPending : alarm.state ≠ .pending
  nothing : ∀ id ∈ alarm.enabled, id ∉ alarm.attached ∧ id ∉ alarm.found

/-- One source of the alarm is left, and it will run the callback. -/
structure Scheduled (alarm : Alarm) (id : TimerID) : Prop where
  sound : alarm.Sound
  free : alarm.call = none
  pending : alarm.state = .pending
  handle : alarm.gsource = some id
  attached : id ∈ alarm.attached
  enabled : id ∈ alarm.enabled
  alone : ∀ other ∈ alarm.enabled, other ∈ alarm.attached ∨ other ∈ alarm.found → other = id

theorem vacant_initial : initial.Vacant :=
  ⟨sound_initial, rfl, nofun, fun _ member => by cases member⟩

theorem Vacant.armed (vacant : alarm.Vacant) {byCallback : Bool}
    (can : alarm.canCall byCallback = true) :
    (alarm.rescheduleIn byCallback).Scheduled alarm.made := by
  have sound := vacant.sound.rescheduleIn byCallback
  rw [rescheduleIn_eq can] at sound ⊢
  have notHandle : some alarm.made ≠ alarm.gsource := by
    intro same
    have newest : alarm.newest = some alarm.made := by rw [newest, vacant.free, same]
    exact absurd (vacant.sound.newestLast _ newest) (Nat.succ_ne_self _)
  refine ⟨sound, rfl, rfl, rfl, ?_, List.mem_append_right _ (List.mem_singleton_self _), ?_⟩
  · rw [List.mem_filter, decide_eq_true_eq]
    exact ⟨List.mem_append_right _ (List.mem_singleton_self _), notHandle⟩
  · intro other enabled left
    rcases List.mem_append.mp enabled with old | new
    · obtain ⟨notAttached, notFound⟩ := vacant.nothing other old
      refine left.elim (fun attached => ?_) fun found => absurd found notFound
      rcases List.mem_append.mp (List.mem_of_mem_filter attached) with past | last
      · exact absurd past notAttached
      · exact List.mem_singleton.mp last
    · exact List.mem_singleton.mp new

theorem Scheduled.find {id : TimerID} (armed : alarm.Scheduled id) (other : TimerID) :
    (alarm.step (.find other)).Scheduled id := by
  have stepped := alarm.step_cases (.find other)
  have sound := armed.sound.step (.find other)
  generalize alarm.step (.find other) = after at stepped sound
  cases stepped with
  | waits => exact armed
  | finds _ idle attached notYet =>
    refine { armed with sound := sound, alone := fun third enabled left => ?_ }
    refine armed.alone third enabled (left.elim .inl fun found => ?_)
    rcases List.mem_append.mp found with past | last
    · exact .inr past
    · rw [List.mem_singleton.mp last]
      exact .inl attached

theorem Vacant.find (vacant : alarm.Vacant) (id : TimerID) :
    (alarm.step (.find id)).Vacant := by
  have stepped := alarm.step_cases (.find id)
  have sound := vacant.sound.step (.find id)
  generalize alarm.step (.find id) = after at stepped sound
  cases stepped with
  | waits => exact vacant
  | finds _ idle attached notYet =>
    refine { vacant with sound := sound, nothing := fun other enabled => ?_ }
    obtain ⟨notAttached, notFound⟩ := vacant.nothing other enabled
    refine ⟨notAttached, fun found => ?_⟩
    rcases List.mem_append.mp found with past | last
    · exact notFound past
    · rw [List.mem_singleton.mp last] at notAttached
      exact notAttached attached

/-- A source that was found ready stays so until it is dispatched. -/
theorem Scheduled.found_after {id : TimerID} (armed : alarm.Scheduled id)
    (idle : alarm.dispatch = none) :
    id ∈ (alarm.step (.find id)).found := by
  by_cases already : id ∈ alarm.found
  · simp only [step, Alarm.find, already, not_true_eq_false, and_false, if_false]
  · simp only [step, Alarm.find, idle, armed.attached, already, not_false_eq_true, and_self,
      if_true, List.mem_append, List.mem_singleton, or_true]

theorem cancelNow_eq (free : alarm.call = none) (idle : alarm.dispatch = none) :
    alarm.cancelNow =
      ({ alarm with
        enabled := alarm.enabled.filter fun other => some other ≠ alarm.gsource
        call := some (.cancelling false true) } : Alarm).endCancel := by
  have can : alarm.canCall false = true := (canCall_iff false).mpr ⟨free, nofun⟩
  simp only [Alarm.cancelNow, step, Alarm.cancel, if_pos can]
  congr 1
  cases handle : alarm.gsource with
  | none => simp [ensureNoFurtherDispatch]
  | some id => simp [ensureNoFurtherDispatch, holdsContext, idle]

theorem Scheduled.cancelNow {id : TimerID} (armed : alarm.Scheduled id)
    (idle : alarm.dispatch = none) :
    alarm.cancelNow.Vacant ∧ alarm.cancelNow.dispatch = none ∧
      alarm.cancelNow.state = .cancelled := by
  have sound := armed.sound.cancelNow
  rw [cancelNow_eq armed.free idle] at sound ⊢
  simp only [endCancel, armed.pending, if_true] at sound ⊢
  refine ⟨⟨sound, rfl, nofun, fun other enabled => ?_⟩, idle, trivial⟩
  obtain ⟨was, notHandle⟩ := List.mem_filter.mp enabled
  rw [decide_eq_true_eq, armed.handle] at notHandle
  refine ⟨fun attached => ?_, fun found => ?_⟩
  · exact notHandle (congrArg some (armed.alone other was (.inl (List.mem_of_mem_filter attached))))
  · exact notHandle (congrArg some (armed.alone other was (.inr found)))

theorem Vacant.cancelNow (vacant : alarm.Vacant) (idle : alarm.dispatch = none) :
    alarm.cancelNow.Vacant ∧ alarm.cancelNow.dispatch = none ∧
      alarm.cancelNow.state = alarm.state := by
  have sound := vacant.sound.cancelNow
  rw [cancelNow_eq vacant.free idle] at sound ⊢
  simp only [endCancel, vacant.notPending, if_false] at sound ⊢
  refine ⟨⟨sound, rfl, vacant.notPending, fun other enabled => ?_⟩, idle, trivial⟩
  exact vacant.nothing other (List.mem_of_mem_filter enabled)

/-- The dispatch of the one source that is left begins its callback. -/
theorem Scheduled.lock {id : TimerID} (armed : alarm.Scheduled id) (idle : alarm.dispatch = none)
    (found : id ∈ alarm.found) :
    (alarm.step (.lock id)).dispatch = some (.locked id) ∧
      ((alarm.step (.lock id)).step .trigger).Vacant ∧
      ((alarm.step (.lock id)).step .trigger).runningCallback = true := by
  have sound := (armed.sound.step (.lock id)).step .trigger
  have locked : alarm.step (.lock id) =
      { alarm with
        found := alarm.found.erase id
        attached := alarm.attached.filter fun other => other ≠ id
        dispatch := some (.locked id)
        history := alarm.history ++ [.contextLocked id] } := by
    simp only [step, Alarm.lock, if_pos (And.intro idle found), if_pos armed.enabled]
  rw [locked] at sound ⊢
  refine ⟨rfl, ⟨sound, armed.free, nofun, fun other enabled => ?_⟩, rfl⟩
  refine ⟨fun attached => ?_, fun stays => ?_⟩
  · obtain ⟨was, differs⟩ := List.mem_filter.mp attached
    rw [decide_eq_true_eq] at differs
    exact differs (armed.alone other enabled (.inl was))
  · rw [armed.alone other enabled (.inr (List.mem_of_mem_erase stays))] at stays
    exact armed.sound.distinct.not_mem_erase stays

/-- The dispatch of any other source does nothing. -/
theorem Scheduled.lock_other {id other : TimerID} (armed : alarm.Scheduled id)
    (idle : alarm.dispatch = none) (differs : other = id → other ∉ alarm.found) :
    (alarm.step (.lock other)).Scheduled id ∧ (alarm.step (.lock other)).dispatch = none := by
  have stepped := alarm.step_cases (.lock other)
  have sound := armed.sound.step (.lock other)
  generalize alarm.step (.lock other) = after at stepped sound
  cases stepped with
  | waits => exact ⟨armed, idle⟩
  | locks _ _ found enabled =>
    exact absurd found (differs (armed.alone other enabled (.inr found)))
  | skips _ _ found disabled =>
    refine ⟨{ armed with
      sound := sound, attached := ?_, alone := fun third enabled left => ?_ }, idle⟩
    · refine List.mem_filter.mpr ⟨armed.attached, decide_eq_true fun same => ?_⟩
      exact disabled (same ▸ armed.enabled)
    · refine armed.alone third enabled ?_
      exact left.imp (fun attached => List.mem_of_mem_filter attached) List.mem_of_mem_erase

theorem Vacant.lock (vacant : alarm.Vacant) (idle : alarm.dispatch = none) (id : TimerID) :
    (alarm.step (.lock id)).Vacant ∧ (alarm.step (.lock id)).dispatch = none := by
  have stepped := alarm.step_cases (.lock id)
  have sound := vacant.sound.step (.lock id)
  generalize alarm.step (.lock id) = after at stepped sound
  cases stepped with
  | waits => exact ⟨vacant, idle⟩
  | locks _ _ found enabled => exact absurd found (vacant.nothing id enabled).2
  | skips _ _ found disabled =>
    refine ⟨{ vacant with sound := sound, nothing := fun other enabled => ?_ }, idle⟩
    obtain ⟨notAttached, notFound⟩ := vacant.nothing other enabled
    exact ⟨fun attached => notAttached (List.mem_of_mem_filter attached),
      fun found => notFound (List.mem_of_mem_erase found)⟩

/-- The end of a callback leaves the alarm as it is. -/
theorem finish_eq (free : alarm.call = none) (running : alarm.runningCallback = true) :
    alarm.step .finish = { alarm with dispatch := none } := by
  simp only [step, Alarm.finish, running, free, Option.map_none, ne_eq, reduceCtorEq,
    not_false_eq_true, and_self, if_true]

theorem Vacant.finish (vacant : alarm.Vacant) (running : alarm.runningCallback = true) :
    (alarm.step .finish).Vacant ∧ (alarm.step .finish).dispatch = none := by
  have sound := vacant.sound.step .finish
  rw [finish_eq vacant.free running] at sound ⊢
  exact ⟨{ vacant with sound := sound }, rfl⟩

theorem Scheduled.finish {id : TimerID} (armed : alarm.Scheduled id)
    (running : alarm.runningCallback = true) :
    (alarm.step .finish).Scheduled id ∧ (alarm.step .finish).dispatch = none := by
  have sound := armed.sound.step .finish
  rw [finish_eq armed.free running] at sound ⊢
  exact ⟨{ armed with sound := sound }, rfl⟩

end Mir.MainLoop.Alarm

namespace Mir.Compositor

open MainLoop Transition

inductive PolicyEvent
  | asserted (held : Bool)
  | droppedFrame
  | decremented (before : BitVec 32)
  deriving DecidableEq, Repr

/-- `history` is what the policy did that its count has to allow. -/
structure TimeoutFrameDroppingPolicy where
  pendingSwaps : BitVec 32
  alarm : Alarm
  history : List PolicyEvent

/-- The two calls of the policy, and what the loop does with a source of the alarm. -/
inductive PolicyOp
  | swapNowBlocking
  | swapUnblocked
  | find (id : TimerID)
  | dispatch (id : TimerID)
  deriving DecidableEq, Repr

namespace TimeoutFrameDroppingPolicy

def initial : TimeoutFrameDroppingPolicy := ⟨0, .initial, []⟩

def decrement (policy : TimeoutFrameDroppingPolicy) : TimeoutFrameDroppingPolicy :=
  { policy with
    pendingSwaps := policy.pendingSwaps - 1
    history := policy.history ++ [.decremented policy.pendingSwaps] }

def rescheduleIn (policy : TimeoutFrameDroppingPolicy) (byCallback : Bool) :
    TimeoutFrameDroppingPolicy :=
  { policy with alarm := policy.alarm.rescheduleIn byCallback }

/-- One swap less waits; the alarm goes on while there are others. -/
def decrementAndReschedule (policy : TimeoutFrameDroppingPolicy) (byCallback : Bool) :
    TimeoutFrameDroppingPolicy :=
  if 0 < policy.decrement.pendingSwaps then policy.decrement.rescheduleIn byCallback
  else policy.decrement

def swapNowBlocking (policy : TimeoutFrameDroppingPolicy) : TimeoutFrameDroppingPolicy :=
  let counted := { policy with pendingSwaps := policy.pendingSwaps + 1 }
  if policy.pendingSwaps = 0 then counted.rescheduleIn false else counted

def swapUnblocked (policy : TimeoutFrameDroppingPolicy) : TimeoutFrameDroppingPolicy :=
  if policy.alarm.state ≠ .cancelled then
    let cancelled := { policy with alarm := policy.alarm.cancelNow }
    if cancelled.alarm.state = .cancelled then cancelled.decrementAndReschedule false
    else cancelled
  else policy

/-- The callback of the alarm, between the hooks of its wrapper. -/
def callback (policy : TimeoutFrameDroppingPolicy) : TimeoutFrameDroppingPolicy :=
  { policy with
    history := policy.history ++ [.asserted (decide (0 < policy.pendingSwaps)), .droppedFrame]
    : TimeoutFrameDroppingPolicy }.decrementAndReschedule true

/-- The loop runs the callback if the context of the source is enabled. -/
def dispatch (policy : TimeoutFrameDroppingPolicy) (id : TimerID) : TimeoutFrameDroppingPolicy :=
  let taken := { policy with alarm := policy.alarm.step (.lock id) }
  match taken.alarm.dispatch with
  | some _ =>
    let called := { taken with alarm := taken.alarm.step .trigger : TimeoutFrameDroppingPolicy }
    { called.callback with alarm := called.callback.alarm.step .finish }
  | none => taken

def step (policy : TimeoutFrameDroppingPolicy) : PolicyOp → TimeoutFrameDroppingPolicy
  | .swapNowBlocking => policy.swapNowBlocking
  | .swapUnblocked => policy.swapUnblocked
  | .find id => { policy with alarm := policy.alarm.step (.find id) }
  | .dispatch id => policy.dispatch id

def run (ops : List PolicyOp) : TimeoutFrameDroppingPolicy := ops.foldl step initial

/-! ### Between the calls -/

/-- While swaps wait, the alarm is armed; nothing is left of it while none waits. -/
structure Consistent (policy : TimeoutFrameDroppingPolicy) : Prop where
  vacant : policy.pendingSwaps = 0 → policy.alarm.Vacant
  armed : policy.pendingSwaps ≠ 0 → ∃ id, policy.alarm.Scheduled id
  neverUnderflows : .decremented 0 ∉ policy.history
  assertionHolds : .asserted false ∉ policy.history

structure AtRest (policy : TimeoutFrameDroppingPolicy) : Prop extends policy.Consistent where
  idle : policy.alarm.dispatch = none

/-- There is room for another swap that waits. -/
def HasRoom (policy : TimeoutFrameDroppingPolicy) (op : PolicyOp) : Prop :=
  op = .swapNowBlocking → policy.pendingSwaps.toNat + 1 < 2 ^ 32

instance (policy : TimeoutFrameDroppingPolicy) (op : PolicyOp) : Decidable (policy.HasRoom op) :=
  inferInstanceAs (Decidable (op = .swapNowBlocking → policy.pendingSwaps.toNat + 1 < 2 ^ 32))

variable {policy : TimeoutFrameDroppingPolicy}

theorem atRest_initial : initial.AtRest :=
  ⟨⟨fun _ => Alarm.vacant_initial, fun waits => absurd rfl waits, nofun, nofun⟩, rfl⟩

theorem pos_iff_ne_zero (count : BitVec 32) : 0 < count ↔ count ≠ 0 := by
  bv_omega

theorem decrementAndReschedule_history (byCallback : Bool) :
    (policy.decrementAndReschedule byCallback).history =
      policy.history ++ [.decremented policy.pendingSwaps] := by
  rw [decrementAndReschedule]
  split <;> rfl

/-- One swap less waits, and the alarm is armed again if there are others. -/
theorem decrementAndReschedule_consistent (vacant : policy.alarm.Vacant) {byCallback : Bool}
    (can : policy.alarm.canCall byCallback = true) (waits : policy.pendingSwaps ≠ 0)
    (neverUnderflows : .decremented 0 ∉ policy.history)
    (assertionHolds : .asserted false ∉ policy.history) :
    (policy.decrementAndReschedule byCallback).Consistent ∧
      (policy.decrementAndReschedule byCallback).alarm.dispatch = policy.alarm.dispatch := by
  have underflows : .decremented 0 ∉ policy.decrement.history := by
    refine fun member => (List.mem_append.mp member).elim neverUnderflows fun last => ?_
    exact waits (PolicyEvent.decremented.inj (List.mem_singleton.mp last)).symm
  have asserts : .asserted false ∉ policy.decrement.history :=
    fun member => (List.mem_append.mp member).elim assertionHolds fun last => by
      cases List.mem_singleton.mp last
  rw [decrementAndReschedule]
  by_cases others : 0 < policy.decrement.pendingSwaps
  · rw [if_pos others]
    refine ⟨⟨fun none => ?_, fun _ => ⟨_, vacant.armed can⟩, underflows, asserts⟩, ?_⟩
    · exact absurd none ((pos_iff_ne_zero _).mp others)
    · exact Alarm.rescheduleIn_dispatch can
  · rw [if_neg others]
    refine ⟨⟨fun _ => vacant, fun some => ?_, underflows, asserts⟩, rfl⟩
    exact absurd ((pos_iff_ne_zero _).mpr some) others

/-- After the end of a callback nothing is dispatched. -/
theorem Consistent.finish (consistent : policy.Consistent)
    (running : policy.alarm.runningCallback = true) :
    AtRest { policy with alarm := policy.alarm.step .finish } := by
  by_cases none : policy.pendingSwaps = 0
  · obtain ⟨vacant, idle⟩ := (consistent.vacant none).finish running
    exact { consistent with
      vacant := fun _ => vacant
      armed := fun waits => absurd none waits
      idle := idle }
  · obtain ⟨id, armed⟩ := consistent.armed none
    obtain ⟨armed, idle⟩ := armed.finish running
    exact { consistent with
      vacant := fun zero => absurd zero none
      armed := fun _ => ⟨id, armed⟩
      idle := idle }

namespace AtRest

theorem swapNowBlocking (atRest : policy.AtRest)
    (room : policy.pendingSwaps.toNat + 1 < 2 ^ 32) : policy.swapNowBlocking.AtRest := by
  have more : policy.pendingSwaps + 1 ≠ 0 := by bv_omega
  rw [TimeoutFrameDroppingPolicy.swapNowBlocking]
  by_cases first : policy.pendingSwaps = 0
  · have vacant := atRest.vacant first
    have can := (Alarm.canCall_iff false).mpr ⟨vacant.free, nofun⟩
    rw [if_pos first]
    exact { atRest with
      vacant := fun none => absurd none more
      armed := fun _ => ⟨_, vacant.armed can⟩
      idle := (Alarm.rescheduleIn_dispatch can).trans atRest.idle }
  · rw [if_neg first]
    exact { atRest with
      vacant := fun none => absurd none more
      armed := fun _ => atRest.armed first }

/-- A cancellation succeeds exactly while swaps wait. -/
theorem swapUnblocked (atRest : policy.AtRest) : policy.swapUnblocked.AtRest := by
  rw [TimeoutFrameDroppingPolicy.swapUnblocked]
  by_cases scheduled : policy.alarm.state = .cancelled
  · rw [if_neg (not_not.mpr scheduled)]
    exact atRest
  rw [if_pos scheduled]
  by_cases none : policy.pendingSwaps = 0
  · obtain ⟨vacant, idle, same⟩ := (atRest.vacant none).cancelNow atRest.idle
    rw [if_neg (show policy.alarm.cancelNow.state ≠ .cancelled from same ▸ scheduled)]
    exact { atRest with
      vacant := fun _ => vacant
      armed := fun some => absurd none some
      idle := idle }
  · obtain ⟨id, armed⟩ := atRest.armed none
    obtain ⟨vacant, idle, cancelled⟩ := armed.cancelNow atRest.idle
    have can := (Alarm.canCall_iff false).mpr ⟨vacant.free, nofun⟩
    rw [if_pos cancelled]
    obtain ⟨consistent, same⟩ := @decrementAndReschedule_consistent
      { policy with alarm := policy.alarm.cancelNow } vacant false can none
      atRest.neverUnderflows atRest.assertionHolds
    exact ⟨consistent, same.trans idle⟩

theorem find (atRest : policy.AtRest) (id : TimerID) : (policy.step (.find id)).AtRest :=
  { atRest with
    vacant := fun none => (atRest.vacant none).find id
    armed := fun waits => by
      obtain ⟨source, armed⟩ := atRest.armed waits
      exact ⟨source, armed.find id⟩
    idle := (Alarm.find_dispatch id).trans atRest.idle }

theorem waits (atRest : policy.AtRest) {id : TimerID} (armed : policy.alarm.Scheduled id) :
    policy.pendingSwaps ≠ 0 :=
  fun none => (atRest.vacant none).notPending armed.pending

/-- The callback runs with a swap that waits. -/
theorem dispatch_armed (atRest : policy.AtRest) {id : TimerID} (armed : policy.alarm.Scheduled id)
    (found : id ∈ policy.alarm.found) :
    (policy.dispatch id).AtRest ∧
      (policy.dispatch id).history = policy.history ++
        [.asserted true, .droppedFrame, .decremented policy.pendingSwaps] := by
  obtain ⟨locked, vacant, running⟩ := armed.lock atRest.idle found
  have waits := atRest.waits armed
  have can := (Alarm.canCall_iff true).mpr ⟨vacant.free, fun _ => running⟩
  have holds : decide (0 < policy.pendingSwaps) = true :=
    decide_eq_true ((pos_iff_ne_zero _).mpr waits)
  obtain ⟨consistent, same⟩ := @decrementAndReschedule_consistent
    { policy with
      alarm := (policy.alarm.step (.lock id)).step .trigger
      history := policy.history ++ [.asserted true, .droppedFrame] } vacant true can waits
    (fun member => (List.mem_append.mp member).elim atRest.neverUnderflows nofun)
    (fun member => (List.mem_append.mp member).elim atRest.assertionHolds nofun)
  have stillRunning := (congrArg (fun dispatch =>
    ({ policy.alarm with dispatch := dispatch } : Alarm).runningCallback) same).trans running
  refine ⟨?_, ?_⟩
  · rw [TimeoutFrameDroppingPolicy.dispatch]
    simp only [locked, callback, holds]
    exact consistent.finish stillRunning
  · rw [TimeoutFrameDroppingPolicy.dispatch]
    simp only [locked, callback, holds, decrementAndReschedule_history]
    exact List.append_assoc _ _ _

/-- The dispatch of a source that is disabled or was not found ready changes its alarm only. -/
theorem dispatch_eq {id : TimerID} (skipped : (policy.alarm.step (.lock id)).dispatch = none) :
    policy.dispatch id = { policy with alarm := policy.alarm.step (.lock id) } := by
  simp only [TimeoutFrameDroppingPolicy.dispatch, skipped]

theorem dispatch_other (atRest : policy.AtRest) {id other : TimerID}
    (armed : policy.alarm.Scheduled id) (differs : other = id → other ∉ policy.alarm.found) :
    (policy.dispatch other).AtRest ∧ (policy.dispatch other).alarm.Scheduled id ∧
      (policy.dispatch other).history = policy.history := by
  obtain ⟨stays, idle⟩ := armed.lock_other atRest.idle differs
  rw [dispatch_eq idle]
  exact ⟨{ atRest with
    vacant := fun none => absurd none (atRest.waits armed)
    armed := fun _ => ⟨id, stays⟩
    idle := idle }, stays, rfl⟩

theorem dispatch (atRest : policy.AtRest) (id : TimerID) : (policy.dispatch id).AtRest := by
  by_cases none : policy.pendingSwaps = 0
  · obtain ⟨vacant, idle⟩ := (atRest.vacant none).lock atRest.idle id
    rw [dispatch_eq idle]
    exact { atRest with
      vacant := fun _ => vacant
      armed := fun waits => absurd none waits
      idle := idle }
  · obtain ⟨source, armed⟩ := atRest.armed none
    by_cases fires : id = source ∧ id ∈ policy.alarm.found
    · exact (atRest.dispatch_armed (fires.1 ▸ armed) fires.2).1
    · exact (atRest.dispatch_other armed fun same found => fires ⟨same, found⟩).1

theorem step (atRest : policy.AtRest) {op : PolicyOp} (room : policy.HasRoom op) :
    (policy.step op).AtRest := by
  cases op with
  | swapNowBlocking => exact atRest.swapNowBlocking (room rfl)
  | swapUnblocked => exact atRest.swapUnblocked
  | find id => exact atRest.find id
  | dispatch id => exact atRest.dispatch id

/-- The source stays armed until a swap is unblocked or the source is dispatched. -/
theorem step_armed (atRest : policy.AtRest) {id : TimerID} (armed : policy.alarm.Scheduled id)
    {op : PolicyOp} (blocked : op ≠ .swapUnblocked) (notYet : op ≠ .dispatch id) :
    (policy.step op).alarm.Scheduled id ∧ (policy.step op).history = policy.history := by
  cases op with
  | swapNowBlocking =>
    simp only [TimeoutFrameDroppingPolicy.step, TimeoutFrameDroppingPolicy.swapNowBlocking,
      if_neg (atRest.waits armed)]
    exact ⟨armed, trivial⟩
  | swapUnblocked => exact absurd rfl blocked
  | find other => exact ⟨armed.find other, rfl⟩
  | dispatch other =>
    have differs : other = id → other ∉ policy.alarm.found :=
      fun same => absurd (congrArg PolicyOp.dispatch same) notYet
    exact (atRest.dispatch_other armed differs).2

/-- Whatever is called until then, the dispatch of the armed source drops one frame. -/
theorem drops_frame (atRest : policy.AtRest) {id : TimerID} (armed : policy.alarm.Scheduled id)
    (later : List PolicyOp)
    (room : AllowedAlong TimeoutFrameDroppingPolicy.step HasRoom policy later)
    (blocked : .swapUnblocked ∉ later) (notYet : .dispatch id ∉ later) :
    ((later ++ [PolicyOp.find id, .dispatch id]).foldl TimeoutFrameDroppingPolicy.step
      policy).history.count PolicyEvent.droppedFrame =
        policy.history.count .droppedFrame + 1 := by
  induction later generalizing policy with
  | nil =>
    have ready := armed.found_after atRest.idle
    have dropped := ((atRest.find id).dispatch_armed (armed.find id) ready).2
    exact (congrArg (List.count .droppedFrame) dropped).trans (List.count_append ..)
  | cons op rest inductionHypothesis =>
    obtain ⟨fits, along⟩ := room
    obtain ⟨stays, same⟩ := atRest.step_armed armed
      (fun isOp => blocked (isOp ▸ List.mem_cons_self))
      fun isOp => notYet (isOp ▸ List.mem_cons_self)
    have dropped := inductionHypothesis (atRest.step fits) stays along
      (fun member => blocked (List.mem_cons_of_mem _ member))
      fun member => notYet (List.mem_cons_of_mem _ member)
    rw [same] at dropped
    exact dropped

end AtRest

/-! ### Runs of the policy -/

theorem atRest_run {ops : List PolicyOp} (room : AllowedAlong step HasRoom initial ops) :
    (run ops).AtRest :=
  (Reaches.foldl .start ops room).invariant atRest_initial fun _ _ atRest fits => atRest.step fits

/-- As long as the count of the swaps that wait fits the machine integer, it never underflows and
the assertion of the callback holds. While swaps wait, the alarm is pending: until a swap is
unblocked it has a source whose dispatch drops a frame. -/
theorem blocked_frames_are_dropped (ops : List PolicyOp)
    (room : AllowedAlong step HasRoom initial ops) :
    .decremented 0 ∉ (run ops).history ∧ .asserted false ∉ (run ops).history ∧
    ((run ops).pendingSwaps ≠ 0 →
      (run ops).alarm.state = .pending ∧
      ∃ id, ∀ later, AllowedAlong step HasRoom (run ops) later →
        .swapUnblocked ∉ later → .dispatch id ∉ later →
        (run (ops ++ later ++ [.find id, .dispatch id])).history.count .droppedFrame =
          (run ops).history.count .droppedFrame + 1) := by
  have atRest := atRest_run room
  refine ⟨atRest.neverUnderflows, atRest.assertionHolds, fun waits => ?_⟩
  obtain ⟨id, armed⟩ := atRest.armed waits
  refine ⟨armed.pending, id, fun later along blocked notYet => ?_⟩
  rw [List.append_assoc, run, List.foldl_append]
  exact atRest.drops_frame armed later along blocked notYet

/-- Two swaps wait when the alarm fires, and the first frame is dropped. -/
theorem blocked_frames_are_dropped_of_two :
    (run [.swapNowBlocking, .swapNowBlocking, .find 0, .dispatch 0]).alarm.state = .pending :=
  ((blocked_frames_are_dropped [.swapNowBlocking, .swapNowBlocking, .find 0, .dispatch 0]
    (by decide)).2.2 (by decide)).1

/-! ### When the count is full -/

theorem swapNowBlocking_replicate {count : Nat} (fits : count < 2 ^ 32) :
    run (List.replicate (count + 1) .swapNowBlocking) =
      { run [.swapNowBlocking] with pendingSwaps := BitVec.ofNat 32 (count + 1) } := by
  induction count with
  | zero => rfl
  | succ count inductionHypothesis =>
    have counted := inductionHypothesis (Nat.lt_of_succ_lt fits)
    have some : BitVec.ofNat 32 (count + 1) ≠ 0 := by
      intro zero
      have equal := congrArg BitVec.toNat zero
      rw [BitVec.toNat_ofNat, Nat.mod_eq_of_lt fits] at equal
      exact absurd equal (Nat.succ_ne_zero _)
    rw [run] at counted
    rw [List.replicate_succ', run, List.foldl_append, counted]
    simp only [List.foldl_cons, List.foldl_nil, step, swapNowBlocking, if_neg some]
    rw [BitVec.ofNat_add (count + 1) 1]
    rfl

/-- The count comes to zero again while the alarm is pending, and its callback is run. -/
theorem pendingSwaps_wraps :
    .asserted false ∈
        (run (List.replicate (2 ^ 32) .swapNowBlocking ++ [.find 0, .dispatch 0])).history ∧
      .decremented 0 ∈
        (run (List.replicate (2 ^ 32) .swapNowBlocking ++ [.find 0, .dispatch 0])).history := by
  have full : (List.replicate (2 ^ 32) .swapNowBlocking).foldl step initial =
      { run [.swapNowBlocking] with pendingSwaps := 0 } :=
    swapNowBlocking_replicate (show 2 ^ 32 - 1 < 2 ^ 32 by decide)
  rw [run, List.foldl_append, full]
  decide

end TimeoutFrameDroppingPolicy

end Mir.Compositor

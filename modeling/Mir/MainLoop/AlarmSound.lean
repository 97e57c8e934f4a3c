/-
This file numbers the schedulings of an alarm. What is known of the sources of a scheduling is kept
by each step: the loop dispatches only what it took from those that were found ready, and what has
run is gone.
-/

import Mathlib.Order.Nat
import Mir.MainLoop.Alarm

namespace Mir.MainLoop

/-! ### The numbers of the schedulings -/

/-- The latest scheduling with a source, except while a rescheduling is to make one. -/
def Alarm.newest (alarm : Alarm) : Option TimerID :=
  match alarm.call with
  | some (.rescheduling _ _ attached) => attached
  | _ => alarm.gsource

structure Alarm.Sound (alarm : Alarm) : Prop where
  enabledBelow : ∀ id ∈ alarm.enabled, id < alarm.made
  attachedBelow : ∀ id ∈ alarm.attached, id < alarm.made
  foundBelow : ∀ id ∈ alarm.found, id < alarm.made
  dispatchBelow : ∀ dispatch, alarm.dispatch = some dispatch → dispatch.id < alarm.made
  distinct : alarm.found.Nodup
  taken : ∀ dispatch, alarm.dispatch = some dispatch →
    dispatch.id ∉ alarm.attached ∧ dispatch.id ∉ alarm.found
  locked : ∀ id, alarm.dispatch = some (.locked id) → id ∈ alarm.enabled
  callback : alarm.call.map AlarmCall.byCallback = some true → alarm.runningCallback = true
  newestLast : ∀ id, alarm.newest = some id → id + 1 = alarm.made
  ranBelow : ∀ id, .ran id ∈ alarm.history → id < alarm.made
  ranGone : ∀ id, .ran id ∈ alarm.history →
    id ∉ alarm.attached ∧ id ∉ alarm.found ∧ alarm.dispatch ≠ some (.locked id)
  rescheduledBelow : ∀ id superseding, .rescheduled id superseding ∈ alarm.history →
    id < alarm.made

namespace Alarm

variable {alarm : Alarm}

theorem canCall_iff (byCallback : Bool) :
    alarm.canCall byCallback = true ↔
      alarm.call = none ∧ (byCallback = true → alarm.runningCallback = true) := by
  unfold canCall
  cases byCallback <;> simp

theorem lt_succ_of_mem_concat {ids : List TimerID} {made : Nat} (below : ∀ id ∈ ids, id < made) :
    ∀ id ∈ ids ++ [made], id < made + 1 := by
  intro id member
  rcases List.mem_append.mp member with old | new
  · exact Nat.lt_succ_of_lt (below id old)
  · exact Nat.lt_succ_of_le (List.mem_singleton.mp new).le

theorem sound_initial : initial.Sound := by
  constructor <;> simp [initial, newest]

namespace Sound

/-- Fewer sources are attached or found ready. -/
theorem fewer (sound : alarm.Sound) {attached found : List TimerID}
    (stays : attached ⊆ alarm.attached) (kept : found.Sublist alarm.found) :
    Sound { alarm with attached := attached, found := found } :=
  { sound with
    attachedBelow := fun id member => sound.attachedBelow id (stays member)
    foundBelow := fun id member => sound.foundBelow id (kept.subset member)
    distinct := sound.distinct.sublist kept
    taken := fun dispatch dispatched => by
      obtain ⟨notAttached, notFound⟩ := sound.taken dispatch dispatched
      exact ⟨fun member => notAttached (stays member), fun member => notFound (kept.subset member)⟩
    ranGone := fun id ran => by
      obtain ⟨notAttached, notFound, notLocked⟩ := sound.ranGone id ran
      refine ⟨fun member => notAttached (stays member), fun member => ?_, notLocked⟩
      exact notFound (kept.subset member) }

/-- Another source is dispatched, or none. -/
theorem dispatched (sound : alarm.Sound) {dispatch : Option TimerDispatch}
    (taken : ∀ source, dispatch = some source →
      source.id < alarm.made ∧ source.id ∉ alarm.attached ∧ source.id ∉ alarm.found)
    (locked : ∀ id, dispatch = some (.locked id) → id ∈ alarm.enabled ∧ .ran id ∉ alarm.history)
    (callback : alarm.call.map AlarmCall.byCallback = some true →
      ({ alarm with dispatch := dispatch } : Alarm).runningCallback = true) :
    Sound { alarm with dispatch := dispatch } :=
  { sound with
    dispatchBelow := fun source dispatched => (taken source dispatched).1
    taken := fun source dispatched => (taken source dispatched).2
    locked := fun id isLocked => (locked id isLocked).1
    callback := callback
    ranGone := fun id ran => by
      obtain ⟨notAttached, notFound, -⟩ := sound.ranGone id ran
      exact ⟨notAttached, notFound, fun isLocked => (locked id isLocked).2 ran⟩ }

/-- A call goes on. -/
theorem called (sound : alarm.Sound) {state : AlarmState} {gsource : Option TimerID}
    {call : Option AlarmCall}
    (callback : call.map AlarmCall.byCallback = some true → alarm.runningCallback = true)
    (newest : ∀ id,
      ({ alarm with state := state, gsource := gsource, call := call } : Alarm).newest = some id →
        alarm.newest = some id) :
    Sound { alarm with state := state, gsource := gsource, call := call } :=
  { sound with
    callback := callback
    newestLast := fun id isNewest => sound.newestLast id (newest id isNewest) }

/-- Something happens. -/
theorem recorded (sound : alarm.Sound) {event : AlarmEvent}
    (ran : ∀ id, event = .ran id → id < alarm.made ∧ id ∉ alarm.attached ∧ id ∉ alarm.found ∧
      alarm.dispatch ≠ some (.locked id))
    (rescheduled : ∀ id superseding, event = .rescheduled id superseding → id < alarm.made) :
    Sound { alarm with history := alarm.history ++ [event] } :=
  { sound with
    ranBelow := fun id member => by
      rcases List.mem_append.mp member with past | last
      · exact sound.ranBelow id past
      · exact (ran id (List.mem_singleton.mp last).symm).1
    ranGone := fun id member => by
      rcases List.mem_append.mp member with past | last
      · exact sound.ranGone id past
      · exact (ran id (List.mem_singleton.mp last).symm).2
    rescheduledBelow := fun id superseding member => by
      rcases List.mem_append.mp member with past | last
      · exact sound.rescheduledBelow id superseding past
      · exact rescheduled id superseding (List.mem_singleton.mp last).symm }

theorem finds (sound : alarm.Sound) {id : TimerID} (idle : alarm.dispatch = none)
    (attached : id ∈ alarm.attached) (notYet : id ∉ alarm.found) :
    Sound { alarm with found := alarm.found ++ [id] } :=
  { sound with
    foundBelow := fun other member => by
      rcases List.mem_append.mp member with past | last
      · exact sound.foundBelow other past
      · rw [List.mem_singleton.mp last]
        exact sound.attachedBelow id attached
    distinct := List.nodup_append_comm.mp (List.nodup_cons.mpr ⟨notYet, sound.distinct⟩)
    taken := fun source dispatched => by
      have isIdle : alarm.dispatch = some source := dispatched
      rw [idle] at isIdle
      cases isIdle
    ranGone := fun other ran => by
      obtain ⟨notAttached, notFound, notLocked⟩ := sound.ranGone other ran
      refine ⟨notAttached, fun member => ?_, notLocked⟩
      rcases List.mem_append.mp member with past | last
      · exact notFound past
      · exact notAttached (List.mem_singleton.mp last ▸ attached) }

/-- A source that is taken is neither attached nor found any longer. -/
theorem takes (sound : alarm.Sound) (id : TimerID) :
    Sound { alarm with
      found := alarm.found.erase id
      attached := alarm.attached.filter fun other => other ≠ id } :=
  sound.fewer List.filter_sublist.subset List.erase_sublist

theorem locks (sound : alarm.Sound) {id : TimerID} (idle : alarm.dispatch = none)
    (found : id ∈ alarm.found) (enabled : id ∈ alarm.enabled) :
    Sound { alarm with
      found := alarm.found.erase id
      attached := alarm.attached.filter fun other => other ≠ id
      dispatch := some (.locked id) } := by
  refine (sound.takes id).dispatched ?_ ?_ fun byCallback => ?_
  · rintro source ⟨⟩
    refine ⟨sound.foundBelow id found, fun member => ?_, sound.distinct.not_mem_erase⟩
    exact of_decide_eq_true (List.mem_filter.mp member).2 rfl
  · rintro other ⟨⟩
    exact ⟨enabled, fun ran => (sound.ranGone id ran).2.1 found⟩
  · have running := sound.callback byCallback
    unfold runningCallback at running
    rw [idle] at running
    cases running

theorem triggers (sound : alarm.Sound) {id : TimerID}
    (locked : alarm.dispatch = some (.locked id)) :
    Sound { alarm with
      state := .triggered
      dispatch := some (.running id)
      history := alarm.history ++ [.ran id] } := by
  have below : id < alarm.made := sound.dispatchBelow _ locked
  obtain ⟨notAttached, notFound⟩ := sound.taken _ locked
  have running : Sound { alarm with dispatch := some (.running id) } := by
    refine sound.dispatched ?_ nofun fun _ => rfl
    rintro source ⟨⟩
    exact ⟨below, notAttached, notFound⟩
  have recorded : Sound { alarm with
      dispatch := some (.running id)
      history := alarm.history ++ [.ran id] } := by
    refine running.recorded ?_ nofun
    rintro other ⟨⟩
    exact ⟨below, notAttached, notFound, nofun⟩
  exact recorded.called recorded.callback fun _ isNewest => isNewest

/-- A context is disabled when the loop is not about to run its callback. -/
theorem disables (sound : alarm.Sound) {id : TimerID}
    (unlocked : alarm.dispatch ≠ some (.locked id)) :
    Sound { alarm with enabled := alarm.enabled.filter fun other => other ≠ id } :=
  { sound with
    enabledBelow := fun other member => sound.enabledBelow other (List.mem_filter.mp member).1
    locked := fun other locked => by
      refine List.mem_filter.mpr ⟨sound.locked other locked, decide_eq_true fun same => ?_⟩
      exact unlocked (same ▸ locked) }

theorem attaches (sound : alarm.Sound) {byCallback superseding : Bool}
    (call : alarm.call = some (.rescheduling byCallback superseding none)) :
    Sound { alarm with
      made := alarm.made + 1
      enabled := alarm.enabled ++ [alarm.made]
      attached := alarm.attached ++ [alarm.made]
      call := some (.rescheduling byCallback superseding (some alarm.made)) } where
  enabledBelow := lt_succ_of_mem_concat sound.enabledBelow
  attachedBelow := lt_succ_of_mem_concat sound.attachedBelow
  foundBelow id member := Nat.lt_succ_of_lt (sound.foundBelow id member)
  dispatchBelow source dispatched := Nat.lt_succ_of_lt (sound.dispatchBelow source dispatched)
  distinct := sound.distinct
  taken source dispatched := by
    obtain ⟨notAttached, notFound⟩ := sound.taken source dispatched
    refine ⟨fun member => ?_, notFound⟩
    rcases List.mem_append.mp member with old | new
    · exact notAttached old
    · exact (sound.dispatchBelow source dispatched).ne (List.mem_singleton.mp new)
  locked id isLocked := List.mem_append_left _ (sound.locked id isLocked)
  callback isByCallback := by
    refine sound.callback ?_
    rw [call]
    exact isByCallback
  newestLast := by
    rintro id ⟨⟩
    rfl
  ranBelow id ran := Nat.lt_succ_of_lt (sound.ranBelow id ran)
  ranGone id ran := by
    obtain ⟨notAttached, notFound, notLocked⟩ := sound.ranGone id ran
    refine ⟨fun member => ?_, notFound, notLocked⟩
    rcases List.mem_append.mp member with old | new
    · exact notAttached old
    · exact (sound.ranBelow id ran).ne (List.mem_singleton.mp new)
  rescheduledBelow id superseding returned :=
    Nat.lt_succ_of_lt (sound.rescheduledBelow id superseding returned)

theorem step (sound : alarm.Sound) (op : AlarmOp) : (alarm.step op).Sound := by
  have stepped := alarm.step_cases op
  generalize alarm.step op = next at stepped ⊢
  cases stepped with
  | waits => exact sound
  | finds id idle attached notYet => exact sound.finds idle attached notYet
  | locks id idle found enabled => exact (sound.locks idle found enabled).recorded nofun nofun
  | skips id idle found disabled => exact sound.takes id
  | triggers id locked => exact sound.triggers locked
  | finishes running outside =>
    exact sound.dispatched nofun nofun fun byCallback => absurd byCallback outside
  | cancels byCallback can =>
    obtain ⟨free, running⟩ := (canCall_iff byCallback).mp can
    refine sound.called (fun isByCallback => running (Option.some.inj isByCallback)) ?_
    unfold newest
    rw [free]
    exact fun _ isNewest => isNewest
  | disablesNothing byCallback call nothing =>
    refine sound.called (fun isByCallback => sound.callback (call ▸ isByCallback)) ?_
    unfold newest
    rw [call]
    exact fun _ isNewest => isNewest
  | disables byCallback id call handle can =>
    have unlocked : alarm.dispatch ≠ some (.locked id) := by
      intro locked
      have byCallbackIs := can (by simp [holdsContext, locked, TimerDispatch.id])
      have running := sound.callback (by simp [call, AlarmCall.byCallback, byCallbackIs])
      unfold runningCallback at running
      rw [locked] at running
      cases running
    refine (sound.disables unlocked).called
      (fun isByCallback => sound.callback (call ▸ isByCallback)) ?_
    unfold newest
    dsimp only
    rw [call]
    exact fun _ isNewest => isNewest
  | cancelled byCallback call pending =>
    have called : Sound { alarm with state := .cancelled, gsource := none, call := none } :=
      sound.called nofun nofun
    exact (called.fewer List.filter_sublist.subset (List.Sublist.refl _)).recorded nofun nofun
  | refused byCallback call notPending =>
    have called : Sound { alarm with call := none } := by
      refine sound.called nofun ?_
      unfold newest
      rw [call]
      exact fun _ isNewest => isNewest
    exact called.recorded nofun nofun
  | reschedules byCallback can =>
    obtain ⟨-, running⟩ := (canCall_iff byCallback).mp can
    exact sound.called (fun isByCallback => running (Option.some.inj isByCallback)) nofun
  | attaches byCallback superseding call => exact (sound.attaches call).recorded nofun nofun
  | rescheduled byCallback superseding id call =>
    have last : alarm.newest = some id := by
      unfold newest
      rw [call]
    have below : id < alarm.made := (sound.newestLast id last).le
    have called : Sound { alarm with gsource := some id, call := none } := by
      refine sound.called nofun ?_
      rintro other ⟨⟩
      exact last
    refine (called.fewer List.filter_sublist.subset (List.Sublist.refl _)).recorded nofun ?_
    rintro other superseding ⟨⟩
    exact below
  | reads free => exact sound.recorded nofun nofun

end Sound

end Alarm

end Mir.MainLoop

/-
This file proves when an alarm keeps its promises. A rescheduling destroys the source of the
scheduling that it replaces and does not disable its context, and the state is set to triggered
without the alarm's mutex. So an alarm must not be rescheduled while the source of a scheduling that
may still run is found ready, and the source of the replaced scheduling must not be found ready
while the rescheduling is under way.
-/

import Mir.Library.History
import Mir.MainLoop.AlarmSound

namespace Mir.MainLoop

open Transition History

namespace Alarm

variable {alarm : Alarm}

/-! ### Schedulings that may still run -/

/-- The loop is about to run the callback for the scheduling. -/
def Armed (alarm : Alarm) (id : TimerID) : Prop :=
  id ∈ alarm.enabled ∧ (id ∈ alarm.found ∨ alarm.dispatch = some (.locked id))

/-- No rescheduling begins while the callback is about to be run, and while a rescheduling is under
way, only the source that it makes is found ready. -/
def KeepsQuiet (alarm : Alarm) : AlarmOp → Prop
  | .reschedule byCallback => alarm.canCall byCallback = true → ∀ id ∈ alarm.enabled,
      id ∉ alarm.found ∧ alarm.dispatch ≠ some (.locked id)
  | .find id =>
    match alarm.call with
    | some (.rescheduling _ _ attached) =>
      alarm.dispatch = none → id ∈ alarm.attached → id ∉ alarm.found → id ∈ alarm.enabled →
        attached = some id
    | _ => True
  | _ => True

/-- How an event has to follow what happened before. -/
def Fits (before : List AlarmEvent) : AlarmEvent → Prop
  | .contextLocked id => ∀ later superseding, .rescheduled later superseding ∈ before → later ≤ id
  | .ran id => .ran id ∉ before ∧ stillCancelled before = false
  | .stateRead state => state = .pending ↔ (standing before).isSome
  | _ => True

/-- What holds as long as all steps keep quiet. -/
structure Faithful (alarm : Alarm) : Prop where
  sound : alarm.Sound
  armed : ∀ id, alarm.Armed id → alarm.newest = some id
  attached : ∀ id ∈ alarm.enabled, id ∈ alarm.attached →
    alarm.gsource = some id ∨ alarm.newest = some id
  waiting : ∀ id ∈ alarm.enabled, alarm.newest = some id → id ∈ alarm.attached ∨ alarm.Armed id →
    alarm.state = .pending ∧ standing alarm.history = some id
  begun : ∀ byCallback superseding, alarm.call = some (.rescheduling byCallback superseding none) →
    alarm.state = .pending
  stands : (∀ byCallback superseding,
      alarm.call ≠ some (.rescheduling byCallback superseding none)) →
    (alarm.state = .pending ↔ (standing alarm.history).isSome)
  disabled : ∀ byCallback id, alarm.call = some (.cancelling byCallback true) →
    alarm.gsource = some id → id ∉ alarm.enabled
  cancelled : stillCancelled alarm.history = true → ∀ id ∈ alarm.enabled,
    id ∉ alarm.attached ∧ ¬ alarm.Armed id
  fits : Along Fits alarm.history

/-- A fitting history keeps the promises. -/
theorem keepsPromises_of_fits {history : List AlarmEvent} (fits : Along Fits history) :
    KeepsPromises history where
  once := fun before id isPrefix => (fits before _ isPrefix).1
  replaced := by
    rintro before id isPrefix ⟨later, superseding, behind, returned⟩
    exact absurd (fits before _ isPrefix later superseding returned) (Nat.not_le_of_lt behind)
  cancelled := fun before id isPrefix => (fits before _ isPrefix).2
  reads := fun before _ isPrefix => fits before _ isPrefix

/-! ### What an event changes of the past -/

section Past

variable (history : List AlarmEvent)

theorem standing_append (event : AlarmEvent) :
    standing (history ++ [event]) =
      match event with
      | .scheduled id => some id
      | .ran id => if standing history = some id then none else standing history
      | .cancelReturned true => none
      | _ => standing history := by
  unfold standing
  rw [List.foldl_append]
  rfl

theorem stillCancelled_append (event : AlarmEvent) :
    stillCancelled (history ++ [event]) =
      match event with
      | .scheduled _ => false
      | .cancelReturned true => true
      | _ => stillCancelled history := by
  unfold stillCancelled
  rw [List.foldl_append]
  rfl

end Past

/-- No more may run than before, and the latest scheduling stands as it did. -/
structure Quieter (alarm next : Alarm) : Prop where
  enabled : next.enabled ⊆ alarm.enabled
  attached : next.attached ⊆ alarm.attached
  armed : ∀ id, next.Armed id → alarm.Armed id
  newest : next.newest = alarm.newest
  state : next.state = alarm.state
  standing : standing next.history = standing alarm.history
  stillCancelled : stillCancelled next.history = stillCancelled alarm.history

namespace Faithful

variable {next : Alarm}

theorem initial : Alarm.initial.Faithful where
  sound := sound_initial
  armed := by simp [Alarm.initial, Armed]
  attached := by simp [Alarm.initial]
  waiting := by simp [Alarm.initial]
  begun := by simp [Alarm.initial]
  stands := by simp [Alarm.initial, Mir.MainLoop.standing]
  disabled := by simp [Alarm.initial]
  cancelled := by simp [Alarm.initial]
  fits := along_nil

/-- Where no more may run than before, only the handle and the call are to be looked at. -/
theorem of_quieter (faithful : alarm.Faithful) (sound : next.Sound) (quieter : Quieter alarm next)
    (attached : ∀ id ∈ next.enabled, id ∈ next.attached →
      next.gsource = some id ∨ next.newest = some id)
    (begun : ∀ byCallback superseding,
      next.call = some (.rescheduling byCallback superseding none) → next.state = .pending)
    (stands : (∀ byCallback superseding,
        next.call ≠ some (.rescheduling byCallback superseding none)) →
      (next.state = .pending ↔ (standing next.history).isSome))
    (disabled : ∀ byCallback id, next.call = some (.cancelling byCallback true) →
      next.gsource = some id → id ∉ next.enabled)
    (fits : Along Fits next.history) : next.Faithful where
  sound := sound
  armed id armed := quieter.newest ▸ faithful.armed id (quieter.armed id armed)
  attached := attached
  waiting id enabled isNewest waits := by
    rw [quieter.state, quieter.standing]
    refine faithful.waiting id (quieter.enabled enabled) (quieter.newest ▸ isNewest) ?_
    exact waits.imp (fun member => quieter.attached member) (quieter.armed id)
  begun := begun
  stands := stands
  disabled := disabled
  cancelled was id enabled := by
    rw [quieter.stillCancelled] at was
    obtain ⟨notAttached, unarmed⟩ := faithful.cancelled was id (quieter.enabled enabled)
    exact ⟨fun member => notAttached (quieter.attached member),
      fun armed => unarmed (quieter.armed id armed)⟩
  fits := fits

/-- The call and the handle stay, too. -/
theorem of_quieter_same (faithful : alarm.Faithful) (sound : next.Sound)
    (quieter : Quieter alarm next) (call : next.call = alarm.call)
    (gsource : next.gsource = alarm.gsource) (fits : Along Fits next.history) :
    next.Faithful := by
  refine faithful.of_quieter sound quieter ?_ ?_ ?_ ?_ fits
  · intro id enabled attached
    rw [gsource, quieter.newest]
    exact faithful.attached id (quieter.enabled enabled) (quieter.attached attached)
  · rw [call, quieter.state]
    exact faithful.begun
  · rw [call, quieter.state, quieter.standing]
    exact faithful.stands
  · intro byCallback id cancelling handle enabled
    rw [call] at cancelling
    rw [gsource] at handle
    exact faithful.disabled byCallback id cancelling handle (quieter.enabled enabled)

/-- A source that is found ready and may run the callback is the newest. -/
theorem newest_of_find (faithful : alarm.Faithful) {id : TimerID}
    (quiet : alarm.KeepsQuiet (.find id)) (idle : alarm.dispatch = none)
    (isAttached : id ∈ alarm.attached) (notYet : id ∉ alarm.found) (enabled : id ∈ alarm.enabled) :
    alarm.newest = some id := by
  have known := faithful.attached id enabled isAttached
  unfold newest at known ⊢
  dsimp only [KeepsQuiet] at quiet
  cases call : alarm.call with
  | none => simpa [call] using known
  | some made =>
    cases made with
    | cancelling byCallback disabled => simpa [call] using known
    | rescheduling byCallback superseding made =>
      rw [call] at quiet
      exact quiet idle isAttached notYet enabled

theorem after_find (faithful : alarm.Faithful) {id : TimerID} (quiet : alarm.KeepsQuiet (.find id))
    (soundNext : next.Sound) (stepped : AlarmStep alarm (.find id) next) : next.Faithful := by
  cases stepped with
  | waits => exact faithful
  | finds id idle isAttached notYet =>
    have first := faithful.newest_of_find quiet idle isAttached notYet
    have armed : ∀ other, Armed { alarm with found := alarm.found ++ [id] } other →
        alarm.Armed other ∨ other = id := by
      rintro other ⟨enabled, found | locked⟩
      · exact (List.mem_append.mp found).imp (fun past => ⟨enabled, .inl past⟩)
          List.mem_singleton.mp
      · exact .inl ⟨enabled, .inr locked⟩
    exact { faithful with
      sound := soundNext
      armed := fun other isArmed => by
        rcases armed other isArmed with before | rfl
        · exact faithful.armed other before
        · exact first isArmed.1
      waiting := fun other enabled isNewest waits => by
        refine faithful.waiting other enabled isNewest ?_
        rcases waits with attached | isArmed
        · exact .inl attached
        · exact (armed other isArmed).elim .inr fun same => .inl (same ▸ isAttached)
      cancelled := fun was other enabled => by
        obtain ⟨notAttached, unarmed⟩ := faithful.cancelled was other enabled
        refine ⟨notAttached, fun isArmed => ?_⟩
        rcases armed other isArmed with before | rfl
        · exact unarmed before
        · exact notAttached isAttached }

theorem after_lock (faithful : alarm.Faithful) {id : TimerID} (soundNext : next.Sound)
    (stepped : AlarmStep alarm (.lock id) next) : next.Faithful := by
  cases stepped with
  | waits => exact faithful
  | locks id idle found enabled =>
    have last := faithful.sound.newestLast id (faithful.armed id ⟨enabled, .inl found⟩)
    have fitting : Fits alarm.history (.contextLocked id) := by
      intro later superseding returned
      have below := faithful.sound.rescheduledBelow later superseding returned
      exact Nat.le_of_lt_succ (below.trans_eq last.symm)
    refine faithful.of_quieter_same soundNext ?_ rfl rfl
      (along_append_singleton.mpr ⟨faithful.fits, fitting⟩)
    refine ⟨fun _ member => member, List.filter_sublist.subset, ?_, rfl, rfl, standing_append _ _,
      stillCancelled_append _ _⟩
    rintro other ⟨isEnabled, stillFound | locked⟩
    · exact ⟨isEnabled, .inl (List.mem_of_mem_erase stillFound)⟩
    · cases locked
      exact ⟨isEnabled, .inl found⟩
  | skips id idle found isDisabled =>
    refine faithful.of_quieter_same soundNext ?_ rfl rfl faithful.fits
    refine ⟨fun _ member => member, List.filter_sublist.subset, ?_, rfl, rfl, rfl, rfl⟩
    rintro other ⟨isEnabled, stillFound | locked⟩
    · exact ⟨isEnabled, .inl (List.mem_of_mem_erase stillFound)⟩
    · exact ⟨isEnabled, .inr locked⟩

theorem after_trigger (faithful : alarm.Faithful) (soundNext : next.Sound)
    (stepped : AlarmStep alarm .trigger next) : next.Faithful := by
  cases stepped with
  | waits => exact faithful
  | triggers id isLocked =>
    have isArmed : alarm.Armed id := ⟨faithful.sound.locked id isLocked, .inr isLocked⟩
    have first := faithful.armed id isArmed
    obtain ⟨notAttached, notFound⟩ := faithful.sound.taken _ isLocked
    have stood := (faithful.waiting id isArmed.1 first (.inr isArmed)).2
    have fitting : Fits alarm.history (.ran id) := by
      refine ⟨fun ran => (faithful.sound.ranGone id ran).2.2 isLocked,
        Bool.not_eq_true _ ▸ fun was => ?_⟩
      exact (faithful.cancelled was id isArmed.1).2 isArmed
    -- only the source that runs was about to run
    have unarmed : ∀ other ∈ alarm.enabled, other ∉ alarm.found := by
      intro other enabled found
      have second := faithful.armed other ⟨enabled, .inl found⟩
      rw [first] at second
      cases second
      exact notFound found
    exact { faithful with
      sound := soundNext
      armed := by
        rintro other ⟨enabled, found | locked⟩
        · exact absurd found (unarmed other enabled)
        · cases locked
      waiting := by
        rintro other enabled isNewest (attached | ⟨_, found | locked⟩)
        · cases first.symm.trans isNewest
          exact absurd attached notAttached
        · exact absurd found (unarmed other enabled)
        · cases locked
      begun := fun byCallback superseding call => by
        unfold newest at first
        have rescheduling : alarm.call = some (.rescheduling byCallback superseding none) := call
        rw [rescheduling] at first
        cases first
      stands := fun _ => by
        rw [standing_append]
        simp [stood]
      cancelled := fun was other enabled => by
        rw [stillCancelled_append] at was
        refine ⟨(faithful.cancelled was other enabled).1, ?_⟩
        rintro ⟨_, found | locked⟩
        · exact unarmed other enabled found
        · cases locked
      fits := along_append_singleton.mpr ⟨faithful.fits, fitting⟩ }

theorem after_finish (faithful : alarm.Faithful) (soundNext : next.Sound)
    (stepped : AlarmStep alarm .finish next) : next.Faithful := by
  cases stepped with
  | waits => exact faithful
  | finishes running outside =>
    refine faithful.of_quieter_same soundNext ?_ rfl rfl faithful.fits
    refine ⟨fun _ member => member, fun _ member => member, ?_, rfl, rfl, rfl, rfl⟩
    rintro other ⟨enabled, found | locked⟩
    · exact ⟨enabled, .inl found⟩
    · cases locked

theorem after_cancel (faithful : alarm.Faithful) {byCallback : Bool} (soundNext : next.Sound)
    (stepped : AlarmStep alarm (.cancel byCallback) next) : next.Faithful := by
  cases stepped with
  | waits => exact faithful
  | cancels byCallback can =>
    obtain ⟨free, -⟩ := (canCall_iff byCallback).mp can
    have newest : alarm.newest = alarm.gsource := by
      unfold Alarm.newest
      rw [free]
    refine faithful.of_quieter soundNext ?_ ?_ nofun (fun _ => faithful.stands ?_) nofun
      faithful.fits
    · exact ⟨fun _ member => member, fun _ member => member, fun _ armed => armed, newest.symm, rfl,
        rfl, rfl⟩
    · intro id enabled attached
      refine (faithful.attached id enabled attached).imp_right fun isNewest => ?_
      exact newest.symm.trans isNewest
    · rw [free]
      exact nofun

/-- While a call cancels, the newest source is the one that the alarm has a handle of. -/
theorem newest_of_cancelling {byCallback disabled : Bool}
    (call : alarm.call = some (.cancelling byCallback disabled)) :
    alarm.newest = alarm.gsource := by
  unfold newest
  rw [call]

theorem stands_of_cancelling (faithful : alarm.Faithful) {byCallback disabled : Bool}
    (call : alarm.call = some (.cancelling byCallback disabled)) :
    alarm.state = .pending ↔ (standing alarm.history).isSome := by
  refine faithful.stands fun other superseding rescheduling => ?_
  rw [call] at rescheduling
  cases rescheduling

theorem attached_of_cancelling (faithful : alarm.Faithful) {byCallback disabled : Bool}
    (call : alarm.call = some (.cancelling byCallback disabled)) {id : TimerID}
    (enabled : id ∈ alarm.enabled) (attached : id ∈ alarm.attached) : alarm.gsource = some id := by
  refine (faithful.attached id enabled attached).elim (fun handle => handle) fun isNewest => ?_
  rw [← newest_of_cancelling call]
  exact isNewest

theorem after_disable (faithful : alarm.Faithful) (soundNext : next.Sound)
    (stepped : AlarmStep alarm .disable next) : next.Faithful := by
  cases stepped with
  | waits => exact faithful
  | disablesNothing byCallback call nothing =>
    refine faithful.of_quieter soundNext ?_ ?_ nofun (fun _ => faithful.stands_of_cancelling call)
      ?_ faithful.fits
    · exact ⟨fun _ member => member, fun _ member => member, fun _ armed => armed,
        (newest_of_cancelling call).symm, rfl, rfl, rfl⟩
    · exact fun id enabled attached => .inl (faithful.attached_of_cancelling call enabled attached)
    · intro _ id _ handle
      have isHandle : alarm.gsource = some id := handle
      rw [nothing] at isHandle
      cases isHandle
  | disables byCallback id call handle can =>
    refine faithful.of_quieter soundNext ?_ ?_ nofun (fun _ => faithful.stands_of_cancelling call)
      ?_ faithful.fits
    · exact ⟨List.filter_sublist.subset, fun _ member => member,
        fun _ armed => ⟨(List.mem_filter.mp armed.1).1, armed.2⟩,
        (newest_of_cancelling call).symm, rfl, rfl, rfl⟩
    · intro other enabled attached
      exact .inl (faithful.attached_of_cancelling call (List.mem_filter.mp enabled).1 attached)
    · intro _ other _ isHandle enabled
      cases handle.symm.trans isHandle
      exact of_decide_eq_true (List.mem_filter.mp enabled).2 rfl

/-- When a cancellation has disabled the context, nothing is left that may run. -/
theorem nothing_left (faithful : alarm.Faithful) {byCallback : Bool}
    (call : alarm.call = some (.cancelling byCallback true)) :
    ∀ id ∈ alarm.enabled, id ∉ alarm.attached ∧ ¬ alarm.Armed id := by
  intro id enabled
  refine ⟨fun attached => ?_, fun armed => ?_⟩
  · have handle := faithful.attached_of_cancelling call enabled attached
    exact faithful.disabled byCallback id call handle enabled
  · have handle := (newest_of_cancelling call).symm.trans (faithful.armed id armed)
    exact faithful.disabled byCallback id call handle enabled

theorem after_endCancel (faithful : alarm.Faithful) (soundNext : next.Sound)
    (stepped : AlarmStep alarm .endCancel next) : next.Faithful := by
  cases stepped with
  | waits => exact faithful
  | cancelled byCallback call pending =>
    have left := faithful.nothing_left call
    exact {
      sound := soundNext
      armed := fun id armed => absurd armed (left id armed.1).2
      attached := fun id enabled attached =>
        absurd (List.mem_filter.mp attached).1 (left id enabled).1
      waiting := nofun
      begun := nofun
      stands := fun _ => by
        rw [standing_append]
        simp
      disabled := nofun
      cancelled := fun _ id enabled =>
        ⟨fun attached => (left id enabled).1 (List.mem_filter.mp attached).1, (left id enabled).2⟩
      fits := along_append_singleton.mpr ⟨faithful.fits, trivial⟩ }
  | refused byCallback call notPending =>
    have left := faithful.nothing_left call
    have nothing : standing alarm.history = none := by
      refine Option.not_isSome_iff_eq_none.mp fun some => notPending ?_
      exact (faithful.stands_of_cancelling call).mpr some
    exact {
      sound := soundNext
      armed := fun id armed => absurd armed (left id armed.1).2
      attached := fun id enabled attached => absurd attached (left id enabled).1
      waiting := fun id enabled _ waits =>
        waits.elim (fun attached => absurd attached (left id enabled).1)
          fun armed => absurd armed (left id enabled).2
      begun := nofun
      stands := fun _ => by
        rw [standing_append]
        cases state : alarm.state with
        | pending => exact absurd state notPending
        | cancelled => simp
        | triggered => simp [nothing]
      disabled := nofun
      cancelled := fun _ => left
      fits := along_append_singleton.mpr ⟨faithful.fits, trivial⟩ }

theorem after_reschedule (faithful : alarm.Faithful) {byCallback : Bool}
    (quiet : alarm.KeepsQuiet (.reschedule byCallback)) (soundNext : next.Sound)
    (stepped : AlarmStep alarm (.reschedule byCallback) next) : next.Faithful := by
  cases stepped with
  | waits => exact faithful
  | reschedules byCallback can =>
    obtain ⟨free, -⟩ := (canCall_iff byCallback).mp can
    have unarmed : ∀ id, ¬ alarm.Armed id := by
      rintro id ⟨enabled, found | locked⟩
      · exact (quiet can id enabled).1 found
      · exact (quiet can id enabled).2 locked
    have newest : alarm.newest = alarm.gsource := by
      unfold Alarm.newest
      rw [free]
    exact {
      sound := soundNext
      armed := fun id isArmed => absurd isArmed (unarmed id)
      attached := fun id enabled attached => by
        refine .inl ((faithful.attached id enabled attached).elim (fun handle => handle) ?_)
        exact fun isNewest => newest.symm.trans isNewest
      waiting := nofun
      begun := fun _ _ _ => rfl
      stands := fun notBegun => absurd rfl (notBegun _ _)
      disabled := nofun
      cancelled := faithful.cancelled
      fits := faithful.fits }

theorem after_attach (faithful : alarm.Faithful) (soundNext : next.Sound)
    (stepped : AlarmStep alarm .attach next) : next.Faithful := by
  cases stepped with
  | waits => exact faithful
  | attaches byCallback superseding call =>
    have pending := faithful.begun byCallback superseding call
    have nothing : alarm.newest = none := by
      unfold newest
      rw [call]
    exact {
      sound := soundNext
      armed := by
        rintro id ⟨enabled, waits⟩
        rcases List.mem_append.mp enabled with old | new
        · have isNewest := faithful.armed id ⟨old, waits⟩
          rw [nothing] at isNewest
          cases isNewest
        · rw [List.mem_singleton.mp new]
          rfl
      attached := by
        intro id enabled attached
        rcases List.mem_append.mp attached with old | new
        · have below := faithful.sound.attachedBelow id old
          have isEnabled := (List.mem_append.mp enabled).resolve_right
            fun new => below.ne (List.mem_singleton.mp new)
          refine (faithful.attached id isEnabled old).imp_right fun isNewest => ?_
          rw [nothing] at isNewest
          cases isNewest
        · rw [List.mem_singleton.mp new]
          exact .inr rfl
      waiting := by
        rintro id _ ⟨⟩ _
        refine ⟨pending, ?_⟩
        rw [standing_append]
      begun := nofun
      stands := fun _ => by
        rw [standing_append]
        simp [pending]
      disabled := nofun
      cancelled := by
        rw [stillCancelled_append]
        exact nofun
      fits := along_append_singleton.mpr ⟨faithful.fits, trivial⟩ }

theorem after_endReschedule (faithful : alarm.Faithful) (soundNext : next.Sound)
    (stepped : AlarmStep alarm .endReschedule next) : next.Faithful := by
  cases stepped with
  | waits => exact faithful
  | rescheduled byCallback superseding id call =>
    have newest : alarm.newest = some id := by
      unfold Alarm.newest
      rw [call]
    refine faithful.of_quieter soundNext ?_ ?_ nofun (fun _ => ?_) nofun
      (along_append_singleton.mpr ⟨faithful.fits, trivial⟩)
    · exact ⟨fun _ member => member, List.filter_sublist.subset, fun _ armed => armed, newest.symm,
        rfl, standing_append _ _, stillCancelled_append _ _⟩
    · intro other enabled attached
      obtain ⟨before, kept⟩ := List.mem_filter.mp attached
      have isNewest := (faithful.attached other enabled before).resolve_left
        fun handle => of_decide_eq_true kept handle.symm
      exact .inl (newest.symm.trans isNewest)
    · rw [standing_append]
      refine faithful.stands fun other superseding begun => ?_
      rw [call] at begun
      cases begun

theorem after_readState (faithful : alarm.Faithful) (soundNext : next.Sound)
    (stepped : AlarmStep alarm .readState next) : next.Faithful := by
  cases stepped with
  | waits => exact faithful
  | reads free =>
    have fitting : Fits alarm.history (.stateRead alarm.state) := by
      refine faithful.stands ?_
      rw [free]
      exact nofun
    refine faithful.of_quieter_same soundNext ?_ rfl rfl
      (along_append_singleton.mpr ⟨faithful.fits, fitting⟩)
    exact ⟨fun _ member => member, fun _ member => member, fun _ armed => armed, rfl, rfl,
      standing_append _ _, stillCancelled_append _ _⟩

theorem step (faithful : alarm.Faithful) (op : AlarmOp) (quiet : alarm.KeepsQuiet op) :
    (alarm.step op).Faithful := by
  have stepped := alarm.step_cases op
  have sound := faithful.sound.step op
  cases op with
  | find id => exact faithful.after_find quiet sound stepped
  | lock id => exact faithful.after_lock sound stepped
  | trigger => exact faithful.after_trigger sound stepped
  | finish => exact faithful.after_finish sound stepped
  | cancel byCallback => exact faithful.after_cancel sound stepped
  | disable => exact faithful.after_disable sound stepped
  | endCancel => exact faithful.after_endCancel sound stepped
  | reschedule byCallback => exact faithful.after_reschedule quiet sound stepped
  | attach => exact faithful.after_attach sound stepped
  | endReschedule => exact faithful.after_endReschedule sound stepped
  | readState => exact faithful.after_readState sound stepped

end Faithful

/-! ### A promise that is broken -/

/-- Outside of calls the loop ends a dispatch that runs the callback. -/
theorem finish_rests (free : alarm.call = none)
    (notLocked : ∀ id, alarm.dispatch ≠ some (.locked id)) :
    let next := alarm.step .finish
    next.dispatch = none ∧ next.found = alarm.found ∧ next.enabled = alarm.enabled ∧
      next.history = alarm.history := by
  dsimp only [step, finish]
  split_ifs with can
  · exact ⟨rfl, rfl, rfl, rfl⟩
  · refine ⟨?_, rfl, rfl, rfl⟩
    cases dispatch : alarm.dispatch with
    | none => rfl
    | some dispatched =>
      cases dispatched with
      | locked id => exact absurd dispatch (notLocked id)
      | running id =>
        exact absurd ⟨by simp [runningCallback, dispatch], by simp [free]⟩ can

/-- A source that was replaced is dispatched. -/
theorem replaced_runs {id later : TimerID} {superseding : Bool} (free : alarm.call = none)
    (notLocked : ∀ other, alarm.dispatch ≠ some (.locked other)) (found : id ∈ alarm.found)
    (enabled : id ∈ alarm.enabled) (behind : id < later)
    (returned : .rescheduled later superseding ∈ alarm.history) :
    ∃ ops : List AlarmOp, ¬ KeepsPromises (ops.foldl step alarm).history := by
  refine ⟨[.finish, .lock id, .trigger], fun promises => ?_⟩
  obtain ⟨idle, sameFound, sameEnabled, sameHistory⟩ := finish_rests free notLocked
  have history : ([.finish, .lock id, .trigger].foldl step alarm).history =
      alarm.history ++ [.contextLocked id] ++ [.ran id] := by
    rw [List.foldl_cons]
    generalize alarm.step .finish = rested at *
    simp [step, lock, trigger, idle, sameFound, sameEnabled, sameHistory, found, enabled]
  rw [history] at promises
  refine promises.replaced alarm.history id (List.prefix_append _ _)
    ⟨later, superseding, behind, returned⟩ ?_
  exact List.mem_append_right _ (List.mem_singleton_self _)

/-- The callback is started for a scheduling that was replaced meanwhile. -/
theorem triggered_late {id later : TimerID} (free : alarm.call = none)
    (locked : alarm.dispatch = some (.locked id)) (different : later ≠ id)
    (stands : standing alarm.history = some later) :
    ∃ ops : List AlarmOp, ¬ KeepsPromises (ops.foldl step alarm).history := by
  refine ⟨[.trigger, .readState], fun promises => ?_⟩
  have history : ([.trigger, .readState].foldl step alarm).history =
      alarm.history ++ [.ran id] ++ [.stateRead .triggered] := by
    simp [step, trigger, readState, locked, free]
  rw [history] at promises
  have reads := promises.reads _ _ (List.prefix_refl _)
  rw [standing_append, stands] at reads
  simp [different] at reads

/-- A rescheduling that has set the state goes on to its end. -/
theorem reschedule_ends {byCallback superseding : Bool}
    (call : alarm.call = some (.rescheduling byCallback superseding none)) :
    let next := [.attach, .endReschedule].foldl step alarm
    next.call = none ∧ next.dispatch = alarm.dispatch ∧ next.found = alarm.found ∧
      next.enabled = alarm.enabled ++ [alarm.made] ∧
      next.history = alarm.history ++ [.scheduled alarm.made] ++
        [.rescheduled alarm.made superseding] := by
  simp [step, addTimerGSource, endReschedule, call]

theorem Faithful.reschedule_broken (faithful : alarm.Faithful) {byCallback : Bool}
    {id : TimerID} (can : alarm.canCall byCallback = true) (armed : alarm.Armed id) :
    ∃ ops : List AlarmOp,
      ¬ KeepsPromises (ops.foldl Alarm.step (alarm.step (.reschedule byCallback))).history := by
  have begun : alarm.step (.reschedule byCallback) =
      { alarm with
        state := .pending
        call := some (.rescheduling byCallback (decide (alarm.state = .pending)) none) } :=
    if_pos can
  obtain ⟨free, dispatch, kept, enabledNext, history⟩ :=
    reschedule_ends (congrArg Alarm.call begun)
  have below := faithful.sound.enabledBelow id armed.1
  have further : ∃ ops : List AlarmOp, ¬ KeepsPromises (ops.foldl Alarm.step
      ([.attach, .endReschedule].foldl Alarm.step
        (alarm.step (.reschedule byCallback)))).history := by
    rw [begun] at free dispatch kept enabledNext history ⊢
    by_cases locked : alarm.dispatch = some (.locked id)
    · refine triggered_late free (dispatch.trans locked) below.ne' ?_
      rw [history, standing_append, standing_append]
    · have isFound := armed.2.resolve_right locked
      refine replaced_runs free (fun other isLocked => ?_) (kept ▸ isFound)
        (enabledNext ▸ List.mem_append_left _ armed.1) below
        (history ▸ List.mem_append_right _ (List.mem_singleton_self _))
      have otherLocked : alarm.dispatch = some (.locked other) := dispatch ▸ isLocked
      have otherEnabled := faithful.sound.locked other otherLocked
      have second := faithful.armed other ⟨otherEnabled, .inr otherLocked⟩
      rw [faithful.armed id armed] at second
      cases second
      exact locked otherLocked
  obtain ⟨ops, broken⟩ := further
  exact ⟨.attach :: .endReschedule :: ops, broken⟩

theorem Faithful.find_broken (faithful : alarm.Faithful) {byCallback superseding : Bool}
    {id : TimerID} {made : Option TimerID}
    (call : alarm.call = some (.rescheduling byCallback superseding made))
    (idle : alarm.dispatch = none) (attached : id ∈ alarm.attached) (notYet : id ∉ alarm.found)
    (enabled : id ∈ alarm.enabled) (other : made ≠ some id) :
    ∃ ops : List AlarmOp,
      ¬ KeepsPromises (ops.foldl Alarm.step (alarm.step (.find id))).history := by
  have found : alarm.step (.find id) = { alarm with found := alarm.found ++ [id] } :=
    if_pos ⟨idle, attached, notYet⟩
  have isFound : id ∈ alarm.found ++ [id] :=
    List.mem_append_right _ (List.mem_singleton_self _)
  have below := faithful.sound.enabledBelow id enabled
  rw [found]
  cases made with
  | none =>
    have callNext : ({ alarm with found := alarm.found ++ [id] } : Alarm).call = _ := call
    obtain ⟨free, dispatch, kept, enabledNext, history⟩ := reschedule_ends callNext
    have idleNext := dispatch.trans idle
    obtain ⟨ops, broken⟩ := replaced_runs free
      (fun _ locked => by rw [idleNext] at locked; cases locked) (kept ▸ isFound)
      (enabledNext ▸ List.mem_append_left _ enabled) below
      (history ▸ List.mem_append_right _ (List.mem_singleton_self _))
    exact ⟨.attach :: .endReschedule :: ops, broken⟩
  | some later =>
    have last := faithful.sound.newestLast later (by unfold newest; rw [call])
    have behind : id < later := by
      have different : id ≠ later := fun same => other (same ▸ rfl)
      exact lt_of_le_of_ne (Nat.le_of_lt_succ (below.trans_eq last.symm)) different
    have ended : ({ alarm with found := alarm.found ++ [id] } : Alarm).step .endReschedule =
        { alarm with
          found := alarm.found ++ [id]
          gsource := some later
          attached := alarm.attached.filter fun other => some other ≠ alarm.gsource
          call := none
          history := alarm.history ++ [.rescheduled later superseding] } := by
      simp [Alarm.step, endReschedule, call]
    obtain ⟨ops, broken⟩ := replaced_runs (congrArg Alarm.call ended)
      (by rw [ended]; simp [idle]) (by rw [ended]; exact isFound) (by rw [ended]; exact enabled)
      behind (by
        rw [ended]
        exact List.mem_append_right _ (List.mem_singleton_self _))
    exact ⟨.endReschedule :: ops, broken⟩

/-- After a step that does not keep quiet some further steps break a promise. -/
theorem Faithful.broken (faithful : alarm.Faithful) (op : AlarmOp)
    (breaks : ¬ alarm.KeepsQuiet op) :
    ∃ ops : List AlarmOp, ¬ KeepsPromises (ops.foldl Alarm.step (alarm.step op)).history := by
  cases op with
  | reschedule byCallback =>
    unfold KeepsQuiet at breaks
    push Not at breaks
    obtain ⟨can, id, enabled, found⟩ := breaks
    refine faithful.reschedule_broken can ⟨enabled, ?_⟩
    exact or_iff_not_imp_left.mpr found
  | find id =>
    unfold KeepsQuiet at breaks
    dsimp only at breaks
    split at breaks
    next byCallback superseding made call =>
      push Not at breaks
      obtain ⟨idle, attached, notYet, enabled, other⟩ := breaks
      exact faithful.find_broken call idle attached notYet enabled other
    next => exact absurd trivial breaks
  | _ => exact absurd trivial breaks

/-! ### Every run -/

/-- In every run whose steps keep quiet the alarm keeps its promises; after a step that does not,
some further steps break one. -/
theorem alarm_keeps_promises (reached : Reaches step KeepsQuiet initial alarm) :
    KeepsPromises alarm.history ∧
    ∀ op, ¬ alarm.KeepsQuiet op →
      ∃ ops : List AlarmOp, ¬ KeepsPromises (ops.foldl step (alarm.step op)).history := by
  have faithful : alarm.Faithful := reached.invariant .initial
    fun _ op faithful quiet => faithful.step op quiet
  exact ⟨keepsPromises_of_fits faithful.fits, faithful.broken⟩

instance (alarm : Alarm) : (op : AlarmOp) → Decidable (alarm.KeepsQuiet op)
  | .reschedule byCallback =>
    inferInstanceAs (Decidable (alarm.canCall byCallback = true → ∀ id ∈ alarm.enabled,
      id ∉ alarm.found ∧ alarm.dispatch ≠ some (.locked id)))
  | .find id =>
    match call : alarm.call with
    | some (.rescheduling _ _ attached) =>
      decidable_of_iff
        (alarm.dispatch = none → id ∈ alarm.attached → id ∉ alarm.found → id ∈ alarm.enabled →
          attached = some id)
        (by simp only [KeepsQuiet, call])
    | some (.cancelling _ _) | none => .isTrue (by simp only [KeepsQuiet, call])
  | .lock _ | .trigger | .finish | .cancel _ | .disable | .endCancel | .attach | .endReschedule
  | .readState => inferInstanceAs (Decidable True)

/-- The alarm runs, is rescheduled by its callback, and is cancelled by another thread. -/
def runAndCancel : List AlarmOp :=
  [.reschedule false, .attach, .endReschedule, .find 0, .lock 0, .trigger, .reschedule true,
    .attach, .endReschedule, .finish, .readState, .find 1, .cancel false, .disable, .endCancel,
    .lock 1]

theorem alarm_keeps_promises_when_cancelled :
    let alarm := runAndCancel.foldl step initial
    KeepsPromises alarm.history ∧
    ∀ op, ¬ alarm.KeepsQuiet op →
      ∃ ops : List AlarmOp, ¬ KeepsPromises (ops.foldl step (alarm.step op)).history :=
  alarm_keeps_promises (Reaches.start.foldl runAndCancel (by decide))

/-- The alarm is rescheduled when its source is found ready, and the old scheduling runs all the
same. -/
theorem replaced_scheduling_runs :
    ¬ ∀ ops : List AlarmOp, KeepsPromises (ops.foldl step initial).history := by
  intro claimed
  have promises := claimed [.reschedule false, .attach, .endReschedule, .find 0, .reschedule false,
    .attach, .endReschedule, .lock 0, .trigger]
  refine promises.replaced [.scheduled 0, .rescheduled 0 false, .scheduled 1, .rescheduled 1 true] 0
    (by decide) ⟨1, true, ?_, ?_⟩ ?_
  · decide
  · decide
  · decide

end Alarm

end Mir.MainLoop

/-
This file says which times the client's frame clock gives. A call that finds no more than one frame
missed stays on the beat of the frame before; any other resyncs, and then takes the first frame of
the server's beat that is still to come. Other threads may do what they like to the clock
meanwhile, but for setting its period.
-/

import Mir.Client.FrameClock

namespace Mir.Client

namespace ClockOp

/-- Whether a step sets no period and is not one of a thread's call. -/
def Spares (thread : Nat) : ClockOp → Prop
  | .setPeriod _ => False
  | .setResyncCallback _ => True
  | .begin other _ _ | .call other | .answer other _ | .relock other _ => other ≠ thread

instance (thread : Nat) : DecidablePred (Spares thread)
  | .setPeriod _ => inferInstanceAs (Decidable False)
  | .setResyncCallback _ => inferInstanceAs (Decidable True)
  | .begin _ _ _ | .call _ | .answer _ _ | .relock _ _ => inferInstanceAs (Decidable (_ ≠ _))

end ClockOp

/-! ### What is said of a time -/

/-- A frame after one without a resync: the next, or the one after that if it is late. -/
structure OnBeat (period prev now target : Int) : Prop where
  next : target = prev + 1 * period ∨ target = prev + 2 * period
  recent : now - period < target
  later : prev < target

/-- A frame after one with a resync: the server's if it is to come, or else the first on its beat
that is. -/
structure OnServerBeat (period frame prev now target : Int) : Prop where
  future : now < target
  onBeat : ∃ frames : Int, 0 ≤ frames ∧ target = frame + frames * period
  coming : now < frame → target = frame
  soon : frame ≤ now → target ≤ now + period
  later : prev ≤ now → prev < target

namespace FrameClock

variable {clock : FrameClock} {thread : Nat}

/-- Whether a call resyncs: the clock was configured, or the frame after `prev` is two or more
periods in the past. -/
def Resyncs (clock : FrameClock) (prev now : Int) : Prop :=
  clock.configChanged = true ∨ prev + clock.period + 2 * clock.period ≤ now

instance (clock : FrameClock) (prev now : Int) : Decidable (clock.Resyncs prev now) :=
  inferInstanceAs (Decidable (_ ∨ _))

/-- What a callback gives for a time. -/
def serverFrame (clock : FrameClock) : ResyncCallback → PosixTimestamp → PosixTimestamp
  | .fallback, time => clock.fallbackResyncCallback time.nanoseconds
  | .custom _, time => time

/-! ### The frames that were missed -/

theorem missedFrames_nonneg (target now : Int) : 0 ≤ clock.missedFrames target now := by
  rw [missedFrames]
  split_ifs with late
  · exact Int.tdiv_nonneg (Int.sub_nonneg.mpr (Int.le_of_lt late)) (Int.natCast_nonneg _)
  · exact le_rfl

theorem le_missedFrames_iff (throttled : clock.period ≠ 0) {target now frames : Int}
    (some : 0 < frames) :
    frames ≤ clock.missedFrames target now ↔ target + frames * clock.period ≤ now := by
  have positive : 0 < (clock.period : Int) := Int.natCast_pos.mpr (Nat.pos_of_ne_zero throttled)
  rw [missedFrames]
  split_ifs with late
  · rw [Int.tdiv_eq_ediv_of_nonneg (Int.sub_nonneg.mpr (Int.le_of_lt late)),
      Int.le_ediv_iff_mul_le positive]
    exact le_sub_iff_add_le'
  · have frame : 0 < frames * clock.period := Int.mul_pos some positive
    omega

theorem missed_iff_resyncs (throttled : clock.period ≠ 0) (prev now : Int) :
    (clock.missedFrames (prev + clock.period) now > 1 ∨ clock.configChanged = true) ↔
      clock.Resyncs prev now :=
  or_comm.trans (or_congr_right (le_missedFrames_iff throttled (by decide)))

/-- One frame may be missed without a resync. -/
theorem onBeat_of_not_resyncs (throttled : clock.period ≠ 0) {prev now : Int}
    (stays : ¬clock.Resyncs prev now) :
    OnBeat clock.period prev now (prev + clock.period +
      clock.missedFrames (prev + clock.period) now * clock.period) := by
  have positive : 0 < (clock.period : Int) := Int.natCast_pos.mpr (Nat.pos_of_ne_zero throttled)
  have notLate : now < prev + clock.period + 2 * clock.period :=
    Int.not_le.mp fun late => stays (.inr late)
  have notNegative := @missedFrames_nonneg clock (prev + clock.period) now
  have one := @le_missedFrames_iff clock throttled (prev + clock.period) now 1 Int.one_pos
  have two := @le_missedFrames_iff clock throttled (prev + clock.period) now 2 (by decide)
  have few : clock.missedFrames (prev + clock.period) now = 0 ∨
      clock.missedFrames (prev + clock.period) now = 1 := by omega
  rcases few with none | single
  · have inTime : now < prev + clock.period + 1 * clock.period := by omega
    rw [none]
    exact ⟨.inl (by omega), by omega, by omega⟩
  · rw [single]
    exact ⟨.inr (by omega), by omega, by omega⟩

/-! ### The frame after a resync -/

theorem onServerBeat_resyncedTarget (throttled : clock.period ≠ 0) (frame prev now : Int) :
    OnServerBeat clock.period frame prev now (clock.resyncedTarget frame now).1 := by
  have future := lt_resyncedTarget frame now fun none => absurd none throttled
  refine ⟨future, ?_, ?_, ?_, fun before => Int.lt_of_le_of_lt before future⟩
  · rw [resyncedTarget]
    split_ifs with coming
    · exact ⟨0, le_rfl, by omega⟩
    · have age : 0 ≤ (now - frame).tdiv clock.period :=
        Int.tdiv_nonneg (Int.sub_nonneg.mpr (Int.not_lt.mp coming)) (Int.natCast_nonneg _)
      exact ⟨_, Int.le_add_one age, rfl⟩
  · intro coming
    rw [resyncedTarget, if_pos coming]
  · intro past
    have age := Int.mul_tdiv_self_le (k := clock.period) (Int.sub_nonneg.mpr past)
    rw [resyncedTarget, if_neg (Int.not_lt.mpr past), Int.add_mul, Int.one_mul, Int.mul_comm]
    omega

/-! ### What other threads do to a call -/

theorem step_spares {op : ClockOp} (spares : op.Spares thread) :
    (clock.step op).period = clock.period ∧
      (clock.step op).calls thread = clock.calls thread := by
  cases op with
  | setPeriod period => exact spares.elim
  | setResyncCallback callback => exact ⟨rfl, rfl⟩
  | begin other prev now =>
    simp only [step, begin]
    split
    · exact ⟨rfl, rfl⟩
    split
    · exact ⟨rfl, rfl⟩
    split
    · exact ⟨rfl, Function.update_of_ne (Ne.symm spares) ..⟩
    · exact ⟨rfl, rfl⟩
  | call other =>
    simp only [step, call]
    split_ifs
    · exact ⟨rfl, Function.update_of_ne (Ne.symm spares) ..⟩
    · exact ⟨rfl, rfl⟩
  | answer other time =>
    simp only [step, answer]
    split
    · exact ⟨rfl, Function.update_of_ne (Ne.symm spares) ..⟩
    · exact ⟨rfl, Function.update_of_ne (Ne.symm spares) ..⟩
    · exact ⟨rfl, rfl⟩
  | relock other now =>
    simp only [step, relock]
    split
    · exact ⟨rfl, Function.update_of_ne (Ne.symm spares) ..⟩
    · exact ⟨rfl, rfl⟩

theorem foldl_spares {ops : List ClockOp} (spare : ∀ op ∈ ops, op.Spares thread) :
    (ops.foldl step clock).period = clock.period ∧
      (ops.foldl step clock).calls thread = clock.calls thread := by
  induction ops generalizing clock with
  | nil => exact ⟨rfl, rfl⟩
  | cons op rest inductionHypothesis =>
    have first := @step_spares clock thread op (spare op List.mem_cons_self)
    have later := @inductionHypothesis (clock.step op) fun other member =>
      spare other (List.mem_cons_of_mem _ member)
    exact ⟨later.1.trans first.1, later.2.trans first.2⟩

/-! ### The sections of a call -/

theorem begin_of_not_resyncs (idle : clock.calls thread = .idle) (throttled : clock.period ≠ 0)
    {prev : PosixTimestamp} {now : Int} (stays : ¬clock.Resyncs prev.nanoseconds now) :
    (clock.begin thread prev now).calls thread = .idle ∧
      (clock.begin thread prev now).history.getLast? =
        some (.returned ⟨prev.clockID, prev.nanoseconds + clock.period +
          clock.missedFrames (prev.nanoseconds + clock.period) now * clock.period⟩) := by
  rw [begin, if_neg (not_not.mpr idle), if_neg throttled]
  dsimp only
  rw [if_neg ((missed_iff_resyncs throttled _ now).not.mpr stays)]
  refine ⟨idle, ?_⟩
  rw [List.cons_append, ← List.cons_append, ← List.append_assoc]
  exact List.getLast?_concat

theorem begin_of_resyncs (idle : clock.calls thread = .idle) (throttled : clock.period ≠ 0)
    {prev : PosixTimestamp} {now : Int} (resyncs : clock.Resyncs prev.nanoseconds now) :
    (clock.begin thread prev now).period = clock.period ∧
      (clock.begin thread prev now).calls thread = .unlocked := by
  rw [begin, if_neg (not_not.mpr idle), if_neg throttled]
  dsimp only
  rw [if_pos ((missed_iff_resyncs throttled _ now).mpr resyncs)]
  exact ⟨rfl, Function.update_self ..⟩

theorem call_unlocked (unlocked : clock.calls thread = .unlocked) :
    (clock.call thread).period = clock.period ∧
      (clock.call thread).calls thread = .calling clock.resyncCallback := by
  rw [call, if_pos unlocked]
  exact ⟨rfl, Function.update_self ..⟩

theorem answer_calling {callback : ResyncCallback} (time : PosixTimestamp)
    (calling : clock.calls thread = .calling callback) :
    (clock.answer thread time).period = clock.period ∧
      (clock.answer thread time).calls thread =
        .resynced (clock.serverFrame callback time) := by
  rw [answer, calling]
  cases callback with
  | fallback => exact ⟨rfl, Function.update_self ..⟩
  | custom id => exact ⟨rfl, Function.update_self ..⟩

theorem relock_resynced {frame : PosixTimestamp} (now : Int)
    (resynced : clock.calls thread = .resynced frame) :
    (clock.relock thread now).calls thread = .idle ∧
      (clock.relock thread now).history.getLast? =
        some (.returned ⟨frame.clockID, (clock.resyncedTarget frame.nanoseconds now).1⟩) := by
  rw [relock_eq now resynced]
  refine ⟨Function.update_self .., ?_⟩
  rw [resyncEvents, List.append_cons, ← List.append_assoc]
  exact List.getLast?_concat

/-! ### The whole call -/

/-- What a call returns, and when it resyncs. What comes between the sections of a call is up to
the other threads. -/
theorem frame_is_on_beat (idle : clock.calls thread = .idle) (throttled : clock.period ≠ 0)
    (prev : PosixTimestamp) (now : Int) :
    let begun := clock.begin thread prev now
    (¬clock.Resyncs prev.nanoseconds now →
      begun.calls thread = .idle ∧ ∃ target,
        begun.history.getLast? = some (.returned ⟨prev.clockID, target⟩) ∧
        OnBeat clock.period prev.nanoseconds now target) ∧
    (clock.Resyncs prev.nanoseconds now →
      begun.calls thread = .unlocked ∧
      ∀ (first second third : List ClockOp) (time : PosixTimestamp) (later : Int),
        (∀ op ∈ first ++ second ++ third, op.Spares thread) →
        let called := first.foldl step begun
        let answered := second.foldl step (called.call thread)
        let frame := answered.serverFrame called.resyncCallback time
        let ended := (third.foldl step (answered.answer thread time)).relock thread later
        ended.calls thread = .idle ∧ ∃ target,
          ended.history.getLast? = some (.returned ⟨frame.clockID, target⟩) ∧
          OnServerBeat clock.period frame.nanoseconds prev.nanoseconds later target) := by
  constructor
  · intro stays
    obtain ⟨ended, returned⟩ := begin_of_not_resyncs idle throttled stays
    exact ⟨ended, _, returned, onBeat_of_not_resyncs throttled stays⟩
  · intro resyncs
    obtain ⟨begunPeriod, unlocked⟩ := begin_of_resyncs idle throttled resyncs
    refine ⟨unlocked, fun first second third time later spare => ?_⟩
    intro called answered frame ended
    have firstSpares := @foldl_spares (clock.begin thread prev now) thread first fun op member =>
      spare op (List.mem_append_left _ (List.mem_append_left _ member))
    have calledFacts := call_unlocked (firstSpares.2.trans unlocked)
    have secondSpares := @foldl_spares (called.call thread) thread second fun op member =>
      spare op (List.mem_append_left _ (List.mem_append_right _ member))
    have answeredFacts := answer_calling time (secondSpares.2.trans calledFacts.2)
    have thirdSpares := @foldl_spares (answered.answer thread time) thread third fun op member =>
      spare op (List.mem_append_right _ member)
    obtain ⟨isIdle, returned⟩ :=
      relock_resynced later (thirdSpares.2.trans answeredFacts.2)
    have periods : (third.foldl step (answered.answer thread time)).period = clock.period :=
      thirdSpares.1.trans (answeredFacts.1.trans (secondSpares.1.trans
        (calledFacts.1.trans (firstSpares.1.trans begunPeriod))))
    refine ⟨isIdle, _, returned, ?_⟩
    rw [← periods]
    exact onServerBeat_resyncedTarget (periods ▸ throttled) _ _ later

/-- The first call after a period was set, with a callback that is set meanwhile. -/
theorem frame_is_on_beat_after_setPeriod :
    ∃ target,
      ([.setPeriod 16, .begin 0 ⟨1, 0⟩ 100, .call 0, .setResyncCallback (.custom 5),
          .answer 0 ⟨1, 100⟩, .relock 0 101].foldl step initial).history.getLast? =
        some (.returned ⟨1, target⟩) ∧
      OnServerBeat 16 96 0 101 target :=
  (((@frame_is_on_beat (initial.setPeriod 16) 0 rfl (by decide) ⟨1, 0⟩ 100).2 (by decide)).2
    [] [.setResyncCallback (.custom 5)] [] ⟨1, 100⟩ 101 (by decide)).2

end FrameClock

end Mir.Client

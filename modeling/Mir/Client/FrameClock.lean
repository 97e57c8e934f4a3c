/-
This file embeds the client's frame clock: the period and the callback that obtains the time of a
frame of the server, which other threads may set at any time, and the calls that ask for the time
of the next frame. Such a call releases the clock's lock while it resyncs; it is embedded in the
sections that the lock protects, with the start and the end of the callback between them.
-/

import Mathlib.Algebra.Order.Ring.Int
import Mathlib.Logic.Function.Basic
import Mathlib.Tactic.SplitIfs
import Mir.Library.History
import Mir.Library.Transition

namespace Mir.Client

structure PosixTimestamp where
  clockID : Int
  nanoseconds : Int
  deriving DecidableEq, Repr

/-- The clock of a timestamp that was not initialized. -/
def clockMonotonic : Int := 1

inductive ResyncCallback
  | fallback
  | custom (id : Nat)
  deriving DecidableEq, Repr

/-- Where a thread is in its call for the next frame: it has released the lock, it runs the
callback, or it has the frame of the server and is to lock again. -/
inductive FrameCall
  | idle
  | unlocked
  | calling (callback : ResyncCallback)
  | resynced (serverFrame : PosixTimestamp)
  deriving DecidableEq, Repr

inductive ClockEvent
  | periodSet (period : Nat)
  | callbackSet (callback : ResyncCallback)
  | began (period : Nat) (resyncs : Bool)
  | called (callback : ResyncCallback)
  | divided (divisor : Nat)
  | asserted (held : Bool)
  | returned (target : PosixTimestamp)
  deriving DecidableEq, Repr

/-- `history` is what happened, in its order. -/
structure FrameClock where
  configChanged : Bool
  period : Nat
  resyncCallback : ResyncCallback
  calls : Nat → FrameCall
  history : List ClockEvent

/-- The steps of the threads. A call begins with a time that it reads from the clock, and it reads
another one when it locks again; a callback that was set answers with any timestamp. -/
inductive ClockOp
  | setPeriod (period : Nat)
  | setResyncCallback (callback : ResyncCallback)
  | begin (thread : Nat) (prev : PosixTimestamp) (now : Int)
  | call (thread : Nat)
  | answer (thread : Nat) (time : PosixTimestamp)
  | relock (thread : Nat) (now : Int)
  deriving DecidableEq, Repr

namespace FrameClock

def initial : FrameClock := ⟨false, 0, .fallback, fun _ => .idle, []⟩

def setPeriod (clock : FrameClock) (period : Nat) : FrameClock :=
  { clock with
    period := period
    configChanged := true
    history := clock.history ++ [.periodSet period] }

def setResyncCallback (clock : FrameClock) (callback : ResyncCallback) : FrameClock :=
  { clock with
    resyncCallback := callback
    configChanged := true
    history := clock.history ++ [.callbackSet callback] }

def fallbackResyncCallback (clock : FrameClock) (now : Int) : PosixTimestamp :=
  ⟨clockMonotonic, if clock.period ≠ 0 then now - now.tmod clock.period else now⟩

/-! ### The sections of `next_frame_after` -/

def missedFrames (clock : FrameClock) (target now : Int) : Int :=
  if now > target then (now - target).tdiv clock.period else 0

/-- The first section, up to the release of the lock or to the return. -/
def begin (clock : FrameClock) (thread : Nat) (prev : PosixTimestamp) (now : Int) : FrameClock :=
  if clock.calls thread ≠ .idle then clock
  else if clock.period = 0 then
    { clock with history := clock.history ++ [.began 0 false, .returned prev] }
  else
    let target := prev.nanoseconds + clock.period
    let missed := clock.missedFrames target now
    let divisions := if now > target then [.divided clock.period] else []
    if missed > 1 ∨ clock.configChanged then
      { clock with
        calls := Function.update clock.calls thread .unlocked
        history := clock.history ++ (.began clock.period true :: divisions) }
    else
      { clock with
        history := clock.history ++ (.began clock.period false :: divisions ++
          [.returned ⟨prev.clockID, target + missed * clock.period⟩]) }

/-- The callback is read without the lock. -/
def call (clock : FrameClock) (thread : Nat) : FrameClock :=
  if clock.calls thread = .unlocked then
    { clock with
      calls := Function.update clock.calls thread (.calling clock.resyncCallback)
      history := clock.history ++ [.called clock.resyncCallback] }
  else clock

/-- The clock's own callback locks again to read the period. -/
def answer (clock : FrameClock) (thread : Nat) (time : PosixTimestamp) : FrameClock :=
  match clock.calls thread with
  | .calling .fallback =>
    { clock with
      calls := Function.update clock.calls thread
        (.resynced (clock.fallbackResyncCallback time.nanoseconds)) }
  | .calling (.custom _) =>
    { clock with calls := Function.update clock.calls thread (.resynced time) }
  | _ => clock

/-- The target after a resync, and the division on the way to it. -/
def resyncedTarget (clock : FrameClock) (serverFrame now : Int) : Int × List ClockEvent :=
  if serverFrame > now then (serverFrame, [])
  else
    (serverFrame + ((now - serverFrame).tdiv clock.period + 1) * clock.period,
      [.divided clock.period])

/-- The last section. What follows a division by zero is not relevant. -/
def relock (clock : FrameClock) (thread : Nat) (now : Int) : FrameClock :=
  match clock.calls thread with
  | .resynced serverFrame =>
    let target := clock.resyncedTarget serverFrame.nanoseconds now
    { clock with
      configChanged := false
      calls := Function.update clock.calls thread .idle
      history := clock.history ++ (target.2 ++
        [.asserted (decide (target.1 > now)), .returned ⟨serverFrame.clockID, target.1⟩]) }
  | _ => clock

def step (clock : FrameClock) : ClockOp → FrameClock
  | .setPeriod period => clock.setPeriod period
  | .setResyncCallback callback => clock.setResyncCallback callback
  | .begin thread prev now => clock.begin thread prev now
  | .call thread => clock.call thread
  | .answer thread time => clock.answer thread time
  | .relock thread now => clock.relock thread now

def run (ops : List ClockOp) : FrameClock := ops.foldl step initial

end FrameClock

/-! ### What a clock promises -/

/-- Whether a call has resynced since the latest reconfiguration. -/
def settled (history : List ClockEvent) : Bool :=
  history.foldl
    (fun settled event =>
      match event with
      | .periodSet _ | .callbackSet _ => false
      | .called _ => true
      | _ => settled)
    true

def currentCallback (history : List ClockEvent) : ResyncCallback :=
  history.foldl
    (fun current event =>
      match event with
      | .callbackSet callback => callback
      | _ => current)
    .fallback

/-- A call that finds a period resyncs unless that was done since the latest reconfiguration, with
the callback that is then current; it never divides by zero, and its assertion holds. -/
def ClockEvent.Fits (before : List ClockEvent) : ClockEvent → Prop
  | began period resyncs => period ≠ 0 → resyncs = true ∨ settled before = true
  | called callback => callback = currentCallback before
  | divided divisor => divisor ≠ 0
  | asserted held => held = true
  | _ => True

/-- Whether an event leaves what is settled and the current callback as they are. -/
def ClockEvent.isRemark : ClockEvent → Bool
  | periodSet _ | callbackSet _ | called _ => false
  | _ => true

theorem settled_remark (history : List ClockEvent) {event : ClockEvent}
    (remark : event.isRemark = true) : settled (history ++ [event]) = settled history := by
  rw [settled, List.foldl_append]
  cases event <;> first | rfl | cases remark

theorem settled_remarks (history events : List ClockEvent)
    (areRemarks : ∀ event ∈ events, event.isRemark = true) :
    settled (history ++ events) = settled history := by
  induction events generalizing history with
  | nil => rw [List.append_nil]
  | cons event rest inductionHypothesis =>
    rw [List.append_cons, inductionHypothesis _ fun other member =>
      areRemarks other (List.mem_cons_of_mem _ member)]
    exact settled_remark history (areRemarks event List.mem_cons_self)

theorem currentCallback_remark (history : List ClockEvent) {event : ClockEvent}
    (remark : event.isRemark = true) :
    currentCallback (history ++ [event]) = currentCallback history := by
  rw [currentCallback, List.foldl_append]
  cases event <;> first | rfl | cases remark

namespace FrameClock

/-! ### What each step keeps -/

/-- A call may lock again while the period is not zero or the frame of the server is still to come,
and if there is a period, only while a call has resynced since the latest reconfiguration. -/
def Allowed (clock : FrameClock) : ClockOp → Prop
  | .relock thread now =>
    match clock.calls thread with
    | .resynced serverFrame =>
      (clock.period = 0 → now < serverFrame.nanoseconds) ∧
        (clock.period ≠ 0 → settled clock.history = true)
    | _ => True
  | _ => True

instance (clock : FrameClock) : ∀ op, Decidable (clock.Allowed op)
  | .setPeriod _ | .setResyncCallback _ | .begin _ _ _ | .call _ | .answer _ _ =>
    inferInstanceAs (Decidable True)
  | .relock thread now =>
    match called : clock.calls thread with
    | .resynced serverFrame =>
      decidable_of_iff ((clock.period = 0 → now < serverFrame.nanoseconds) ∧
        (clock.period ≠ 0 → settled clock.history = true)) (by rw [Allowed, called])
    | .idle => isTrue (by rw [Allowed, called]; trivial)
    | .unlocked => isTrue (by rw [Allowed, called]; trivial)
    | .calling _ => isTrue (by rw [Allowed, called]; trivial)

/-- A reconfiguration that no call has resynced after is still marked as a change, or the clock has
no period. -/
structure Sound (clock : FrameClock) : Prop where
  along : History.Along ClockEvent.Fits clock.history
  callback : currentCallback clock.history = clock.resyncCallback
  marked : settled clock.history = false → clock.configChanged = true ∨ clock.period = 0

variable {clock : FrameClock}

theorem sound_initial : initial.Sound :=
  ⟨History.along_nil, rfl, fun unsettled => by cases unsettled⟩

namespace Sound

theorem remark (sound : clock.Sound) {event : ClockEvent} (isRemark : event.isRemark = true)
    (fits : event.Fits clock.history) :
    Sound { clock with history := clock.history ++ [event] } where
  along := History.along_append_singleton.mpr ⟨sound.along, fits⟩
  callback := (currentCallback_remark _ isRemark).trans sound.callback
  marked := fun unsettled => sound.marked ((settled_remark _ isRemark).symm.trans unsettled)

theorem remarks (sound : clock.Sound) (events : List ClockEvent)
    (areRemarks : ∀ event ∈ events, event.isRemark = true ∧ ∀ before, event.Fits before) :
    Sound { clock with history := clock.history ++ events } := by
  induction events generalizing clock with
  | nil => rwa [List.append_nil]
  | cons event rest inductionHypothesis =>
    have first := areRemarks event List.mem_cons_self
    have later := inductionHypothesis (sound.remark first.1 (first.2 _))
      fun other member => areRemarks other (List.mem_cons_of_mem _ member)
    rwa [List.append_cons]

/-- Nothing of what the promises are about depends on where the calls are. -/
theorem calls (sound : clock.Sound) (calls : Nat → FrameCall) :
    Sound { clock with calls := calls } :=
  { sound with }

theorem setPeriod (sound : clock.Sound) (period : Nat) : (clock.setPeriod period).Sound where
  along := History.along_append_singleton.mpr ⟨sound.along, trivial⟩
  callback :=
    (show currentCallback (clock.history ++ [.periodSet period]) =
      currentCallback clock.history from
      List.foldl_append).trans sound.callback
  marked := fun _ => .inl rfl

theorem setResyncCallback (sound : clock.Sound) (callback : ResyncCallback) :
    (clock.setResyncCallback callback).Sound where
  along := History.along_append_singleton.mpr ⟨sound.along, trivial⟩
  callback := by
    rw [currentCallback, FrameClock.setResyncCallback, List.foldl_append]
    rfl
  marked := fun _ => .inl rfl

/-- A call that finds a period and does not resync begins while the clock is settled. -/
theorem began (sound : clock.Sound) {period : Nat} {resyncs : Bool}
    (fits : period ≠ 0 → resyncs = true ∨ settled clock.history = true) (events : List ClockEvent)
    (areRemarks : ∀ event ∈ events, event.isRemark = true ∧ ∀ before, event.Fits before) :
    Sound { clock with history := clock.history ++ .began period resyncs :: events } := by
  rw [List.append_cons]
  have begun : Sound { clock with history := clock.history ++ [.began period resyncs] } :=
    sound.remark rfl fits
  exact begun.remarks events areRemarks

theorem begin (sound : clock.Sound) (thread : Nat) (prev : PosixTimestamp) (now : Int) :
    (clock.begin thread prev now).Sound := by
  rw [FrameClock.begin]
  by_cases busy : clock.calls thread ≠ .idle
  · rw [if_pos busy]
    exact sound
  rw [if_neg busy]
  by_cases unthrottled : clock.period = 0
  · rw [if_pos unthrottled]
    refine sound.began (fun throttled => absurd rfl throttled) [.returned prev]
      fun event member => ?_
    rw [List.mem_singleton.mp member]
    exact ⟨rfl, fun _ => trivial⟩
  rw [if_neg unthrottled]
  have divisions : ∀ event ∈ (if now > prev.nanoseconds + clock.period then
      [ClockEvent.divided clock.period] else []),
      event.isRemark = true ∧ ∀ before, event.Fits before := by
    intro event member
    split_ifs at member
    · rw [List.mem_singleton.mp member]
      exact ⟨rfl, fun _ => unthrottled⟩
    · cases member
  dsimp only
  by_cases resyncs : clock.missedFrames (prev.nanoseconds + clock.period) now > 1 ∨
      clock.configChanged = true
  · rw [if_pos resyncs]
    exact (sound.began (fun _ => .inl rfl) _ divisions).calls _
  · rw [if_neg resyncs]
    refine sound.began (fun _ => .inr ?_) _ fun event member => ?_
    · refine Bool.not_eq_false _ ▸ fun unsettled => ?_
      rcases sound.marked unsettled with marked | none
      · exact resyncs (.inr marked)
      · exact unthrottled none
    · rcases List.mem_append.mp member with division | last
      · exact divisions event division
      · rw [List.mem_singleton.mp last]
        exact ⟨rfl, fun _ => trivial⟩

theorem call (sound : clock.Sound) (thread : Nat) : (clock.call thread).Sound := by
  rw [FrameClock.call]
  split_ifs with unlocked
  · refine ⟨History.along_append_singleton.mpr ⟨sound.along, sound.callback.symm⟩, ?_, ?_⟩
    · rw [← sound.callback]
      exact List.foldl_append
    · intro unsettled
      rw [settled, List.foldl_append] at unsettled
      cases unsettled
  · exact sound

theorem answer (sound : clock.Sound) (thread : Nat) (time : PosixTimestamp) :
    (clock.answer thread time).Sound := by
  rw [FrameClock.answer]
  split
  · exact sound.calls _
  · exact sound.calls _
  · exact sound

end Sound

/-- The target of a resync is later than now. -/
theorem lt_resyncedTarget (serverFrame now : Int)
    (divides : clock.period = 0 → now < serverFrame) :
    now < (clock.resyncedTarget serverFrame now).1 := by
  rw [resyncedTarget]
  split_ifs with future
  · exact future
  · have present : 0 ≤ now - serverFrame := Int.sub_nonneg.mpr (Int.not_lt.mp future)
    have positive : 0 < (clock.period : Int) :=
      Int.natCast_pos.mpr (Nat.pos_of_ne_zero fun none => future (divides none))
    have age := Int.lt_ediv_add_one_mul_self (now - serverFrame) positive
    rw [← Int.tdiv_eq_ediv_of_nonneg present] at age
    exact sub_lt_iff_lt_add'.mp age


/-- What the last section records. -/
def resyncEvents (clock : FrameClock) (serverFrame : PosixTimestamp) (now : Int) :
    List ClockEvent :=
  (clock.resyncedTarget serverFrame.nanoseconds now).2 ++
    [.asserted (decide ((clock.resyncedTarget serverFrame.nanoseconds now).1 > now)),
      .returned ⟨serverFrame.clockID, (clock.resyncedTarget serverFrame.nanoseconds now).1⟩]

theorem relock_eq {thread : Nat} {serverFrame : PosixTimestamp} (now : Int)
    (resynced : clock.calls thread = .resynced serverFrame) :
    clock.relock thread now =
      { clock with
        configChanged := false
        calls := Function.update clock.calls thread .idle
        history := clock.history ++ clock.resyncEvents serverFrame now } := by
  rw [FrameClock.relock, resynced]
  rfl

theorem isRemark_of_mem_resyncEvents (serverFrame : PosixTimestamp) (now : Int) :
    ∀ event ∈ clock.resyncEvents serverFrame now, event.isRemark = true := by
  intro event member
  rcases List.mem_append.mp member with division | last
  · rw [resyncedTarget] at division
    split_ifs at division
    · cases division
    · rw [List.mem_singleton.mp division]
      rfl
  · rcases List.mem_cons.mp last with rfl | last
    · rfl
    · rw [List.mem_singleton.mp last]
      rfl

theorem fits_of_mem_resyncEvents (serverFrame : PosixTimestamp) (now : Int)
    (divides : clock.period = 0 → now < serverFrame.nanoseconds) :
    ∀ event ∈ clock.resyncEvents serverFrame now, ∀ before, event.Fits before := by
  intro event member before
  rcases List.mem_append.mp member with division | last
  · rw [resyncedTarget] at division
    split_ifs at division with future
    · cases division
    · rw [List.mem_singleton.mp division]
      exact fun none => future (divides none)
  · rcases List.mem_cons.mp last with rfl | last
    · exact decide_eq_true (lt_resyncedTarget serverFrame.nanoseconds now divides)
    · rw [List.mem_singleton.mp last]
      trivial

theorem Sound.relock (sound : clock.Sound) {thread : Nat} {now : Int}
    (allowed : clock.Allowed (.relock thread now)) : (clock.relock thread now).Sound := by
  cases called : clock.calls thread with
  | resynced serverFrame =>
    rw [Allowed, called] at allowed
    have remarks := @isRemark_of_mem_resyncEvents clock serverFrame now
    have recorded := sound.remarks _ fun event member =>
      ⟨remarks event member, fits_of_mem_resyncEvents serverFrame now allowed.1 event member⟩
    rw [relock_eq now called]
    refine { recorded with marked := fun unsettled => .inr ?_ }
    have already := (settled_remarks clock.history _ remarks).symm.trans unsettled
    exact not_not.mp fun throttled => Bool.false_ne_true (already.symm.trans (allowed.2 throttled))
  | idle => rwa [FrameClock.relock, called]
  | unlocked => rwa [FrameClock.relock, called]
  | calling callback => rwa [FrameClock.relock, called]

theorem Sound.step (sound : clock.Sound) {op : ClockOp} (allowed : clock.Allowed op) :
    (clock.step op).Sound := by
  cases op with
  | setPeriod period => exact sound.setPeriod period
  | setResyncCallback callback => exact sound.setResyncCallback callback
  | begin thread prev now => exact sound.begin thread prev now
  | call thread => exact sound.call thread
  | answer thread time => exact sound.answer thread time
  | relock thread now => exact sound.relock allowed

/-! ### Where a promise is broken -/

/-- To lock again with no period, once the frame of the server is past, divides by zero. -/
theorem relock_divides {thread : Nat} {serverFrame : PosixTimestamp} {now : Int}
    (called : clock.calls thread = .resynced serverFrame) (none : clock.period = 0)
    (past : serverFrame.nanoseconds ≤ now) :
    ¬History.Along ClockEvent.Fits (clock.relock thread now).history := by
  intro along
  rw [relock_eq now called, resyncEvents, resyncedTarget, if_neg (Int.not_lt.mpr past),
    none] at along
  refine along clock.history (.divided 0) ?_ rfl
  exact (List.prefix_append_right_inj _).mpr (List.prefix_append [ClockEvent.divided 0] _)

/-- A call that comes in time finds nothing to resync for. -/
theorem begin_in_time {thread : Nat} (idle : clock.calls thread = .idle)
    (throttled : clock.period ≠ 0) (unmarked : clock.configChanged = false) :
    (clock.begin thread ⟨clockMonotonic, 0⟩ 0).history =
      clock.history ++ [.began clock.period false, .returned ⟨clockMonotonic, clock.period⟩] := by
  have early : ¬(0 : Int) > clock.period := Int.not_lt.mpr (Int.natCast_nonneg _)
  have noneMissed : clock.missedFrames clock.period 0 = 0 := if_neg early
  rw [FrameClock.begin, if_neg (not_not.mpr idle), if_neg throttled]
  simp only [Int.zero_add, noneMissed, unmarked, if_neg early, Int.zero_mul, Int.add_zero]
  rfl

/-- To lock again after a reconfiguration that no call has resynced after loses it. -/
theorem relock_loses {thread : Nat} {serverFrame : PosixTimestamp} {now : Int}
    (called : clock.calls thread = .resynced serverFrame) (throttled : clock.period ≠ 0)
    (unsettled : settled clock.history = false) :
    ¬History.Along ClockEvent.Fits
      ((clock.relock thread now).begin thread ⟨clockMonotonic, 0⟩ 0).history := by
  intro along
  have relocked := relock_eq now called
  have idle : (clock.relock thread now).calls thread = .idle := by
    rw [relocked]
    exact Function.update_self ..
  have lost := settled_remarks clock.history _ (@isRemark_of_mem_resyncEvents clock serverFrame now)
  rw [begin_in_time idle (by rw [relocked]; exact throttled) (by rw [relocked])] at along
  have began := along (clock.relock thread now).history _
    ((List.prefix_append_right_inj _).mpr (List.prefix_append [_] _))
  rw [relocked] at began
  rcases began throttled with resyncs | isSettled
  · cases resyncs
  · exact Bool.false_ne_true (unsettled.symm.trans (lost.symm.trans isSettled))

theorem breaks_of_not_allowed {op : ClockOp} (notAllowed : ¬clock.Allowed op) :
    ∃ later : List ClockOp,
      ¬History.Along ClockEvent.Fits (later.foldl step (clock.step op)).history := by
  cases op with
  | setPeriod period => exact absurd trivial notAllowed
  | setResyncCallback callback => exact absurd trivial notAllowed
  | begin thread prev now => exact absurd trivial notAllowed
  | call thread => exact absurd trivial notAllowed
  | answer thread time => exact absurd trivial notAllowed
  | relock thread now =>
    cases called : clock.calls thread with
    | resynced serverFrame =>
      by_cases throttled : clock.period = 0
      · refine ⟨[], relock_divides called throttled (Int.not_lt.mp fun future => notAllowed ?_)⟩
        rw [Allowed, called]
        exact ⟨fun _ => future, fun some => absurd throttled some⟩
      · refine ⟨[.begin thread ⟨clockMonotonic, 0⟩ 0], relock_loses called throttled ?_⟩
        refine Bool.not_eq_true _ ▸ fun isSettled => notAllowed ?_
        rw [Allowed, called]
        exact ⟨fun none => absurd none throttled, fun _ => isSettled⟩
    | idle => exact absurd (by rw [Allowed, called]; trivial) notAllowed
    | unlocked => exact absurd (by rw [Allowed, called]; trivial) notAllowed
    | calling callback => exact absurd (by rw [Allowed, called]; trivial) notAllowed

/-! ### Runs of the clock -/

/-- As long as a call locks again only where that is allowed, every call keeps the promises, and
where it is not, some further steps break one. -/
theorem reconfigurations_are_kept (ops : List ClockOp)
    (along : Transition.AllowedAlong step Allowed initial ops) :
    History.Along ClockEvent.Fits (run ops).history ∧
      ∀ op, ¬(run ops).Allowed op →
        ∃ later, ¬History.Along ClockEvent.Fits (run (ops ++ op :: later)).history := by
  have sound : (run ops).Sound :=
    (Transition.Reaches.foldl .start ops along).invariant sound_initial
      fun _ _ sound allowed => sound.step allowed
  refine ⟨sound.along, fun op notAllowed => ?_⟩
  obtain ⟨later, breaks⟩ := breaks_of_not_allowed notAllowed
  refine ⟨later, ?_⟩
  rwa [run, List.foldl_append, List.foldl_cons]

/-- A period is set and resynced to, and then a callback. -/
theorem reconfigurations_are_kept_of_two :
    History.Along ClockEvent.Fits
      (run [.setPeriod 16, .begin 0 ⟨1, 0⟩ 100, .call 0, .answer 0 ⟨1, 100⟩, .relock 0 101,
        .setResyncCallback (.custom 5), .begin 0 ⟨1, 112⟩ 113, .call 0, .answer 0 ⟨1, 120⟩,
        .relock 0 125]).history :=
  (reconfigurations_are_kept _ (by decide)).1

/-- Another thread reconfigures while the callback runs: with no period the call divides by zero,
and a callback that was set is not used by the next call. -/
theorem reconfigurations_are_lost :
    ¬History.Along ClockEvent.Fits
      (run [.setPeriod 16, .begin 0 ⟨1, 0⟩ 100, .call 0, .setPeriod 0, .answer 0 ⟨1, 100⟩,
        .relock 0 101]).history ∧
    ¬History.Along ClockEvent.Fits
      (run [.setPeriod 16, .begin 0 ⟨1, 0⟩ 100, .call 0, .setResyncCallback (.custom 5),
        .answer 0 ⟨1, 96⟩, .relock 0 101, .begin 0 ⟨1, 112⟩ 113]).history := by
  refine ⟨fun along => ?_, fun along => ?_⟩
  · exact along [.periodSet 16, .began 16 true, .divided 16, .called .fallback, .periodSet 0]
      (.divided 0) (by decide) rfl
  · have began := along
      [.periodSet 16, .began 16 true, .divided 16, .called .fallback,
        .callbackSet (.custom 5), .divided 16, .asserted true, .returned ⟨1, 112⟩]
      (.began 16 false) (by decide) (by decide)
    exact absurd began (by decide)

end FrameClock

end Mir.Client

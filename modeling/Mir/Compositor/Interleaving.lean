/-
This file models the operations of a stream as other threads see them. The stream's
mutex keeps its own operations apart, but a compositor's `lock_compositor_buffer`
calls the arbiter without it, and the arbiter takes frames off the same schedule. Each
call on a schedule and each method of the arbiter holds a mutex of its own and is one
step; `allow_framedropping`, `drop_old_buffers` and `drop_frame` are several.

A `Thread` is where the thread that runs these operations is. Run to its end with
nobody in between it does what the atomic operations of `Stream` do. With compositors
in between it is correct as long as no compositor

* takes the last scheduled frame while the thread holds older ones, or is about to
  take a frame it has just counted;
* asks while the thread holds every frame there is and nothing is on screen.

Buffers that are sent back go to the client and take no part here.
-/

import Mir.Compositor.FrameView

namespace Mir.Compositor

/-- What a schedule is drained for. -/
inductive DrainFor
  | transitionSchedule (mode : ScheduleMode)
  | dropOldBuffers
  deriving DecidableEq, Repr

/-- Where the stream's thread is: the call it makes next, with its local variables. -/
inductive Thread
  /-- In no operation. -/
  | idle
  /-- At `num_scheduled` in the loop that drains the schedule. -/
  | draining (goal : DrainFor) (transferred : List Frame)
  /-- At `next_buffer` in that loop. -/
  | taking (goal : DrainFor) (transferred : List Frame)
  /-- In `transition_schedule`, at `schedule` of the next transferred buffer on the new
  schedule, or at `set_schedule` when none is left. -/
  | refilling (mode : ScheduleMode) (newSchedule : Schedule) (remaining : List Frame)
  /-- In `drop_old_buffers`, at `schedule` of the last transferred buffer. -/
  | rescheduling (last : Frame)
  /-- In `drop_old_buffers`, at `advance_schedule`. -/
  | advancing
  /-- In `drop_frame`, at `num_scheduled`. -/
  | counting
  /-- In `drop_frame`, at `next_buffer`. -/
  | dropping
  deriving DecidableEq, Repr

/-- The frames the thread has taken off the schedule and not put back. -/
def Thread.frames : Thread → List Frame
  | .draining _ transferred => transferred
  | .taking _ transferred => transferred
  | .refilling _ newSchedule remaining => newSchedule.frames ++ remaining
  | .rescheduling last => [last]
  | _ => []

/-- The thread is about to take a frame it has counted. -/
def Thread.TakesNext : Thread → Prop
  | .taking _ _ => True
  | .dropping => True
  | _ => False

instance : DecidablePred Thread.TakesNext
  | .taking _ _ | .dropping => inferInstanceAs (Decidable True)
  | .idle | .draining _ _ | .refilling _ _ _ | .rescheduling _ | .advancing | .counting =>
    inferInstanceAs (Decidable False)

/-- The operations the thread runs. -/
inductive Call
  | allowFramedropping (dropping : Bool)
  | dropOldBuffers
  | dropFrame
  deriving DecidableEq, Repr

/-- The stream's thread and the compositors'. `given` is what each compositor was given, the
newest first, and `faults` the errors thrown since the first submission. -/
structure Machine where
  arbiter : MultiMonitorArbiter
  schedule : Schedule
  scheduleMode : ScheduleMode
  thread : Thread
  held : List Frame
  given : List (CompositorID × Frame)
  submissions : Nat
  faults : List Error

/-- One step of either side. -/
inductive Turn
  | submitBuffer (buffer : BufferID)
  | call (call : Call)
  | run
  | compositorAcquire (id : CompositorID)
  | compositorRelease (frame : Frame)
  deriving DecidableEq, Repr

/-- An empty schedule of a discipline. -/
def ScheduleMode.newSchedule : ScheduleMode → Schedule
  | .queueing => .queueing []
  | .dropping => .dropping none

namespace Machine

/-- A new stream. -/
def initial : Machine where
  arbiter := ⟨.multiMonitorSync, [], ∅⟩
  schedule := .queueing []
  scheduleMode := .queueing
  thread := .idle
  held := []
  given := []
  submissions := 0
  faults := []

/-- An error counts once something has been submitted. -/
def fault (machine : Machine) (error : Error) : Machine :=
  if machine.submissions = 0 then machine
  else { machine with faults := error :: machine.faults }

/-- Starts an operation. A change to the discipline that is in force already does nothing. -/
def start (machine : Machine) : Call → Machine
  | .allowFramedropping dropping =>
    if dropping = true ∧ machine.scheduleMode = .queueing then
      { machine with thread := .draining (.transitionSchedule .dropping) [] }
    else if dropping = false ∧ machine.scheduleMode = .dropping then
      { machine with thread := .draining (.transitionSchedule .queueing) [] }
    else machine
  | .dropOldBuffers => { machine with thread := .draining .dropOldBuffers [] }
  | .dropFrame => { machine with thread := .counting }

/-- What the drain loop is followed by. -/
def afterDrain (goal : DrainFor) (transferred : List Frame) : Thread :=
  match goal with
  | .transitionSchedule mode => .refilling mode mode.newSchedule transferred
  | .dropOldBuffers =>
    match transferred.getLast? with
    | none => .advancing
    | some last => .rescheduling last

/-- The next call of the thread. An error leaves the operation. -/
def runThread (machine : Machine) : Machine :=
  match machine.thread with
  | .idle => machine
  | .draining goal transferred =>
    if machine.schedule.numScheduled = 0 then
      { machine with thread := afterDrain goal transferred }
    else { machine with thread := .taking goal transferred }
  | .taking goal transferred =>
    match machine.schedule.nextBuffer with
    | .ok (frame, rest) =>
      { machine with schedule := rest, thread := .draining goal (transferred ++ [frame]) }
    | .error error => { machine.fault error with thread := .idle }
  | .refilling mode newSchedule (frame :: rest) =>
    { machine with thread := .refilling mode (newSchedule.schedule frame).1 rest }
  | .refilling mode newSchedule [] =>
    { machine with schedule := newSchedule, scheduleMode := mode, thread := .idle }
  | .rescheduling last =>
    { machine with schedule := (machine.schedule.schedule last).1, thread := .advancing }
  | .advancing =>
    let advanced := machine.arbiter.advanceSchedule machine.schedule
    { machine with arbiter := advanced.1, schedule := advanced.2, thread := .idle }
  | .counting =>
    if machine.schedule.numScheduled > 1 then { machine with thread := .dropping }
    else { machine with thread := .idle }
  | .dropping =>
    match machine.schedule.nextBuffer with
    | .ok (_, rest) => { machine with schedule := rest, thread := .idle }
    | .error error => { machine.fault error with thread := .idle }

/-- A compositor asks the arbiter for a buffer. -/
def acquire (machine : Machine) (id : CompositorID) : Machine :=
  match machine.arbiter.compositorAcquire machine.schedule id with
  | .error error => machine.fault error
  | .ok acquired =>
    { machine with
      arbiter := acquired.arbiter
      schedule := acquired.schedule
      held := acquired.frame :: machine.held
      given := (id, acquired.frame) :: machine.given }

/-- A compositor lets go of a buffer it holds. -/
def release (machine : Machine) (frame : Frame) : Machine :=
  if frame ∈ machine.held then
    match machine.arbiter.compositorRelease machine.schedule frame.buffer with
    | .error _ => { machine with held := machine.held.erase frame }
    | .ok released =>
      { machine with arbiter := released.1, held := machine.held.erase frame }
  else machine

/-- One step. The stream's mutex keeps its operations apart, so a submission or another
operation waits for the one that runs. -/
def step (machine : Machine) : Turn → Machine
  | .submitBuffer buffer =>
    if machine.thread = .idle then
      { machine with
        schedule := (machine.schedule.schedule ⟨buffer, machine.submissions⟩).1
        submissions := machine.submissions + 1 }
    else machine
  | .call call => if machine.thread = .idle then machine.start call else machine
  | .run => machine.runThread
  | .compositorAcquire id => machine.acquire id
  | .compositorRelease frame => machine.release frame

/-- The part that decides the order of frames. -/
def view (machine : Machine) : FrameView where
  onscreen := machine.arbiter.onscreenBuffers
  users := machine.arbiter.currentBufferUsers
  waiting := machine.schedule.frames
  given := machine.given
  submissions := machine.submissions

/-! ### Undisturbed, the thread does what the operations do -/

/-- The thread runs on its own for some turns. -/
def RunsTo (machine after : Machine) : Prop := ∃ turns, runThread^[turns] machine = after

theorem RunsTo.trans {first second third : Machine} (one : first.RunsTo second)
    (two : second.RunsTo third) : first.RunsTo third := by
  obtain ⟨before, rfl⟩ := one
  obtain ⟨later, rfl⟩ := two
  exact ⟨later + before, Function.iterate_add_apply _ _ _ _⟩

theorem RunsTo.turn (machine : Machine) : machine.RunsTo machine.runThread := ⟨1, rfl⟩

/-- The drain loop takes every frame and leaves the schedule empty. -/
theorem runs_drain (machine : Machine) (goal : DrainFor) (transferred : List Frame) :
    RunsTo { machine with thread := .draining goal transferred }
      { machine with
        schedule := machine.schedule.emptied
        thread := afterDrain goal (transferred ++ machine.schedule.frames) } := by
  -- Induction on the frames still scheduled, each of which takes two turns.
  generalize queued : machine.schedule.frames = frames
  induction frames generalizing machine transferred with
  | nil =>
    refine ⟨1, ?_⟩
    simp [runThread, queued, Schedule.emptied_eq_self queued]
  | cons frame rest inductionHypothesis =>
    obtain ⟨remaining, taken, left, same⟩ := Schedule.nextBuffer_cons queued
    have two : RunsTo { machine with thread := .draining goal transferred }
        { machine with schedule := remaining, thread := .draining goal (transferred ++ [frame]) } :=
      ⟨2, by simp [runThread, queued, taken]⟩
    have rest := inductionHypothesis { machine with schedule := remaining }
      (transferred ++ [frame]) left
    rw [List.append_assoc, List.singleton_append, same] at rest
    exact two.trans rest

/-- The new schedule is filled in order and then takes the old one's place. -/
theorem runs_refill (machine : Machine) (mode : ScheduleMode) (newSchedule : Schedule)
    (remaining : List Frame) :
    RunsTo { machine with thread := .refilling mode newSchedule remaining }
      { machine with
        schedule := (newSchedule.scheduleAll remaining).1, scheduleMode := mode
        thread := .idle } := by
  induction remaining generalizing newSchedule with
  | nil => exact RunsTo.turn _
  | cons frame rest inductionHypothesis =>
    exact (RunsTo.turn _).trans (inductionHypothesis (newSchedule.schedule frame).1)

/-- A machine shows the schedule and the arbiter of a stream. -/
structure Shows (machine : Machine) (stream : Stream) : Prop where
  arbiter : machine.arbiter = stream.arbiter
  schedule : machine.schedule = stream.schedule
  mode : machine.scheduleMode = stream.scheduleMode

/-- The stream after an operation of the thread. -/
def streamAfter (stream : Stream) : Call → Stream
  | .allowFramedropping dropping => (stream.allowFramedropping dropping).1
  | .dropOldBuffers => stream.dropOldBuffers.1
  | .dropFrame => stream.dropFrame.1

/-- An operation that nobody disturbs ends, and leaves the schedule and the arbiter as the
operation of the stream does. -/
theorem runs_call (machine : Machine) (stream : Stream) (idle : machine.thread = .idle)
    (shows : machine.Shows stream) (call : Call) :
    ∃ after, (machine.start call).RunsTo after ∧ after.thread = .idle ∧
      after.Shows (streamAfter stream call) := by
  obtain ⟨arbiter, schedule, mode⟩ := shows
  have transition (newMode : ScheduleMode) :
      ∃ after, RunsTo { machine with thread := .draining (.transitionSchedule newMode) [] } after ∧
        after.thread = .idle ∧ after.Shows
          { (stream.transitionSchedule newMode.newSchedule).1 with scheduleMode := newMode } := by
    have drained := runs_drain machine (.transitionSchedule newMode) []
    have refilled := runs_refill { machine with schedule := machine.schedule.emptied } newMode
      newMode.newSchedule machine.schedule.frames
    refine ⟨_, drained.trans refilled, rfl, arbiter, ?_, rfl⟩
    simp [Stream.transitionSchedule, Schedule.drain_eq, schedule]
  cases call with
  | allowFramedropping dropping =>
    simp only [start, streamAfter, Stream.allowFramedropping, ← mode]
    split
    · exact transition .dropping
    · split
      · exact transition .queueing
      · exact ⟨machine, ⟨0, rfl⟩, idle, arbiter, schedule, mode⟩
  | dropOldBuffers =>
    have drained := runs_drain machine .dropOldBuffers []
    rw [List.nil_append] at drained
    cases last : machine.schedule.frames.getLast? with
    | none =>
      simp only [afterDrain, last] at drained
      refine ⟨_, drained.trans (RunsTo.turn _), rfl, ?_, ?_, mode⟩
      all_goals
        simp [runThread, streamAfter, Stream.dropOldBuffers, Schedule.drain_eq, ← schedule,
          ← arbiter, last]
    | some frame =>
      simp only [afterDrain, last] at drained
      refine ⟨_, (drained.trans (RunsTo.turn _)).trans (RunsTo.turn _), rfl, ?_, ?_, mode⟩
      all_goals
        simp [runThread, streamAfter, Stream.dropOldBuffers, Schedule.drain_eq, ← schedule,
          ← arbiter, last]
  | dropFrame =>
    simp only [start, streamAfter, Stream.dropFrame, ← schedule]
    split
    · rename_i several
      cases queued : machine.schedule.frames with
      | nil => simp [queued] at several
      | cons frame rest =>
        obtain ⟨remaining, taken, -, -⟩ := Schedule.nextBuffer_cons queued
        refine ⟨_, ⟨2, rfl⟩, ?_⟩
        simp only [Function.iterate_succ, Function.iterate_zero, Function.comp_apply, id_eq,
          runThread, if_pos several, taken]
        exact ⟨trivial, arbiter, rfl, mode⟩
    · rename_i few
      refine ⟨_, RunsTo.turn _, ?_⟩
      simp only [runThread, if_neg few]
      exact ⟨trivial, arbiter, schedule, mode⟩

/-- Two frames are scheduled, and the older one is dropped. -/
theorem runs_call_twoFrames :
    let machine := [Turn.submitBuffer 1, .submitBuffer 2].foldl step initial
    let stream := { Stream.new ⟨fun _ => none⟩ with schedule := .queueing [⟨1, 0⟩, ⟨2, 1⟩] }
    ∃ after, (machine.start .dropOldBuffers).RunsTo after ∧ after.thread = .idle ∧
      after.Shows (streamAfter stream .dropOldBuffers) :=
  runs_call _ _ rfl ⟨rfl, rfl, rfl⟩ .dropOldBuffers

/-! ### Disturbed, it is safe in these runs -/

/-- What keeps the compositors and the thread out of each other's way. While the thread holds
frames, or is about to take one it has counted, no compositor takes the last frame scheduled;
while it holds frames, none asks with nothing on screen and nothing scheduled; `drop_frame` does
not take the only frame there is; and no release uncovers an older frame in use. -/
def Clear (machine : Machine) : Turn → Prop
  | .run => machine.thread = .dropping → machine.schedule.numScheduled = 1 →
      machine.arbiter.onscreenBuffers ≠ []
  | .compositorAcquire id =>
    (machine.thread.TakesNext ∨ machine.thread.frames ≠ [] →
      id ∈ machine.arbiter.currentBufferUsers ∨ machine.arbiter.onscreenBuffers = [] →
      machine.schedule.numScheduled ≠ 1) ∧
    (machine.thread.frames ≠ [] → machine.arbiter.onscreenBuffers = [] →
      machine.schedule.numScheduled ≠ 0)
  | .compositorRelease frame =>
    match decreaseRefcountFor machine.arbiter.onscreenBuffers frame.buffer with
    | .ok (front :: rest) => front.buffer = frame.buffer ∨ machine.schedule.numScheduled = 0 ∨
        front.useCount ≠ 0 ∨ usedEntries rest = []
    | _ => True
  | _ => True

instance (machine : Machine) : DecidablePred machine.Clear
  | .run => inferInstanceAs (Decidable (_ → _ → _))
  | .compositorAcquire _ => inferInstanceAs (Decidable ((_ → _ → _) ∧ (_ → _ → _)))
  | .compositorRelease frame =>
    match released : decreaseRefcountFor machine.arbiter.onscreenBuffers frame.buffer with
    | .ok (front :: rest) => decidable_of_iff
        (front.buffer = frame.buffer ∨ machine.schedule.numScheduled = 0 ∨
          front.useCount ≠ 0 ∨ usedEntries rest = [])
        (by simp only [Clear, released])
    | .ok [] => .isTrue (by simp only [Clear, released])
    | .error _ => .isTrue (by simp only [Clear, released])
  | .submitBuffer _ | .call _ => inferInstanceAs (Decidable True)

/-- The last of some frames may still be given to anybody: it was submitted, and everything
given or on screen is older. -/
def Carried (view : FrameView) (frames : List Frame) : Prop :=
  ∀ last ∈ frames.getLast?, last.submission < view.submissions ∧
    ∀ old ∈ view.past, old.submission < last.submission

/-- What the thread relies on at each of its calls. -/
def ThreadReady (view : FrameView) : Thread → Prop
  | .draining goal transferred =>
    (view.waiting = [] → Carried view transferred) ∧
      (goal = .transitionSchedule .queueing → transferred.length + view.waiting.length ≤ 1)
  | .taking goal transferred =>
    view.waiting ≠ [] ∧
      (goal = .transitionSchedule .queueing → transferred.length + view.waiting.length ≤ 1)
  | .refilling mode newSchedule remaining =>
    view.waiting = [] ∧ Carried view (newSchedule.frames ++ remaining) ∧
      newSchedule.emptied = mode.newSchedule ∧
      (mode = .queueing → (newSchedule.frames ++ remaining).length ≤ 1)
  | .rescheduling last => view.waiting = [] ∧ Carried view [last]
  | .dropping => view.waiting ≠ []
  | _ => True

/-- The invariant of the interleavings. -/
structure Consistent (machine : Machine) : Prop where
  sync : machine.arbiter.mode = .multiMonitorSync
  discipline : machine.schedule.emptied = machine.scheduleMode.newSchedule
  ordered : machine.view.InOrder
  present : 0 < machine.submissions → machine.arbiter.onscreenBuffers ≠ [] ∨
    machine.schedule.frames ≠ [] ∨ machine.thread.frames ≠ []
  ready : ThreadReady machine.view machine.thread
  faultless : machine.faults = []

/-- Nothing that was carried is forgotten as long as nothing new is shown or given. -/
theorem Carried.mono {before after : FrameView} {frames : List Frame}
    (carried : Carried before frames) (submissions : after.submissions = before.submissions)
    (known : ∀ frame ∈ after.past, frame ∈ before.past) : Carried after frames := by
  intro last member
  obtain ⟨submitted, newer⟩ := carried last member
  exact ⟨submissions ▸ submitted, fun old shown => newer old (known old shown)⟩

/-- A frame that was carried may wait again. -/
theorem inOrder_requeue {view : FrameView} (ordered : view.InOrder) (frame : Frame)
    (carried : Carried view [frame]) :
    FrameView.InOrder { view with waiting := [frame] } := by
  obtain ⟨submitted, newer⟩ := carried frame rfl
  refine ⟨List.pairwise_singleton _ _, fun other member => ?_, fun old shown other waits => ?_,
    ordered.frontNewest, ordered.givenSorted⟩
  · rcases List.mem_cons.mp member with rfl | old
    · exact submitted
    · exact ordered.submitted other (List.mem_append_right _ old)
  · rw [List.mem_singleton.mp waits]
    exact newer old shown

/-- The thread is as ready as before while nothing new is shown or given. -/
theorem ThreadReady.mono {before after : FrameView} {thread : Thread}
    (ready : ThreadReady before thread) (waiting : after.waiting = before.waiting)
    (submissions : after.submissions = before.submissions)
    (known : ∀ frame ∈ after.past, frame ∈ before.past) : ThreadReady after thread := by
  cases thread with
  | draining goal transferred =>
    exact ⟨fun nothing => (ready.1 (waiting ▸ nothing)).mono submissions known,
      fun transition => waiting ▸ ready.2 transition⟩
  | taking goal transferred =>
    exact ⟨waiting ▸ ready.1, fun transition => waiting ▸ ready.2 transition⟩
  | refilling mode newSchedule remaining =>
    exact ⟨waiting ▸ ready.1, ready.2.1.mono submissions known, ready.2.2⟩
  | rescheduling last => exact ⟨waiting ▸ ready.1, ready.2.mono submissions known⟩
  | dropping => exact (show after.waiting ≠ [] from waiting ▸ ready)
  | _ => trivial

/-- The thread is ready still when somebody has taken a frame, as long as that was not the last
one while it counts on one. -/
theorem ThreadReady.taken {before after : FrameView} {thread : Thread} {frame : Frame}
    (ready : ThreadReady before thread) (queued : before.waiting = frame :: after.waiting)
    (stays : thread.TakesNext ∨ thread.frames ≠ [] → after.waiting ≠ []) :
    ThreadReady after thread := by
  have some : before.waiting ≠ [] := queued ▸ List.cons_ne_nil _ _
  have fewer : after.waiting.length ≤ before.waiting.length := by
    rw [queued, List.length_cons]
    exact Nat.le_succ _
  cases thread with
  | draining goal transferred =>
    refine ⟨fun nothing last member => ?_, fun transition => ?_⟩
    · have holds : transferred ≠ [] := by
        rintro rfl
        cases member
      exact absurd nothing (stays (Or.inr holds))
    · exact Nat.le_trans (Nat.add_le_add_left fewer _) (ready.2 transition)
  | taking goal transferred =>
    exact ⟨stays (Or.inl trivial), fun transition =>
      Nat.le_trans (Nat.add_le_add_left fewer _) (ready.2 transition)⟩
  | refilling mode newSchedule remaining => exact absurd ready.1 some
  | rescheduling last => exact absurd ready.1 some
  | dropping => exact stays (Or.inl trivial)
  | _ => trivial

/-- A step that shows and gives nothing new, and leaves the schedule and the thread alone. -/
theorem Consistent.reshown {machine after : Machine} (consistent : Consistent machine)
    (sync : after.arbiter.mode = .multiMonitorSync)
    (schedule : after.schedule = machine.schedule)
    (mode : after.scheduleMode = machine.scheduleMode) (thread : after.thread = machine.thread)
    (submissions : after.submissions = machine.submissions)
    (faults : after.faults = machine.faults) (ordered : after.view.InOrder)
    (known : ∀ frame ∈ after.view.past, frame ∈ machine.view.past)
    (shown : machine.schedule.frames = [] → machine.arbiter.onscreenBuffers ≠ [] →
      after.arbiter.onscreenBuffers ≠ []) : Consistent after := by
  refine ⟨sync, by rw [schedule, mode]; exact consistent.discipline, ordered, fun some => ?_, ?_,
    faults.trans consistent.faultless⟩
  · rw [schedule, thread]
    rcases consistent.present (submissions ▸ some) with entries | queued | held
    · by_cases nothing : machine.schedule.frames = []
      · exact Or.inl (shown nothing entries)
      · exact Or.inr (Or.inl nothing)
    · exact Or.inr (Or.inl queued)
    · exact Or.inr (Or.inr held)
  · rw [thread]
    exact consistent.ready.mono (congrArg Schedule.frames schedule) submissions known

theorem Consistent.release {machine : Machine} (consistent : Consistent machine) (frame : Frame)
    (clear : machine.Clear (.compositorRelease frame)) : Consistent (machine.release frame) := by
  unfold Machine.release
  split
  · rcases machine.arbiter.compositorRelease_cases machine.schedule frame.buffer consistent.sync
      with ⟨error, failed⟩ | ⟨decreased, taken, done⟩
    · rw [failed]
      exact consistent.reshown consistent.sync rfl rfl rfl rfl rfl consistent.ordered
        (fun _ member => member) fun _ shown => shown
    · have same := decreaseRefcountFor_frames _ _ _ taken
      have nonempty : machine.arbiter.onscreenBuffers ≠ [] → decreased ≠ [] := by
        rintro shown rfl
        exact shown (List.map_eq_nil_iff.mp same.symm)
      have front : decreased.head?.map ScheduleEntry.frame =
          machine.view.onscreen.head?.map ScheduleEntry.frame := by
        rw [← List.head?_map, same, List.head?_map]
        rfl
      have known {entries : List ScheduleEntry} (fewer : entries.Sublist decreased)
          {other : Frame}
          (member : other ∈ FrameView.past { machine.view with onscreen := entries }) :
          other ∈ machine.view.past := by
        rcases List.mem_append.mp member with shown | given
        · have before := (fewer.map ScheduleEntry.frame).subset shown
          rw [same] at before
          exact List.mem_append_left _ before
        · exact List.mem_append_right _ given
      rcases done with ⟨first, released⟩ | ⟨behind, released⟩
      · rw [released]
        refine consistent.reshown consistent.sync rfl rfl rfl rfl rfl ?_
          (fun _ member => known (List.Sublist.refl _) member) fun _ shown => nonempty shown
        exact consistent.ordered.reshown (fun other member => same ▸ member) (Or.inr front)
      · rw [released]
        refine consistent.reshown consistent.sync rfl rfl rfl rfl rfl ?_
          (fun _ member => known (cleanOnscreenBuffers_sublist _ _) member) fun nothing shown => ?_
        · have ordered := consistent.ordered.clean same fun first rest equal => ?_
          · simpa only [view, FrameView.clean_eq] using ordered
          · subst equal
            simp only [Clear, taken] at clear
            rcases clear with found | idle | covered
            · exact absurd (congrArg some found) behind
            · exact Or.inl (List.eq_nil_of_length_eq_zero
                ((Schedule.numScheduled_eq _).symm.trans idle))
            · exact Or.inr covered
        · intro blank
          simp only [FrameView.clean_eq, nothing] at blank
          have head := FrameView.cleaned_head decreased
          rw [blank] at head
          exact nonempty shown (List.head?_eq_none_iff.mp head.symm)
  · exact consistent

/-- A compositor that asks is given a frame, and the thread still finds what it relies on. -/
theorem Consistent.acquire {machine : Machine} (consistent : Consistent machine)
    (id : CompositorID) (clear : machine.Clear (.compositorAcquire id)) :
    Consistent (machine.acquire id) := by
  obtain ⟨leaves, finds⟩ := clear
  unfold Machine.acquire
  rcases machine.arbiter.compositorAcquire_cases machine.schedule id consistent.sync with
    ⟨blank, nothing, failed⟩ | ⟨front, rest, shown, current, given⟩ |
      ⟨frame, tail, remaining, queued, left, same, moves, given⟩
  · rw [failed]
    have idle : machine.submissions = 0 := by
      by_contra some
      rcases consistent.present (Nat.pos_of_ne_zero some) with entries | waits | held
      · exact entries blank
      · exact waits nothing
      · exact finds held blank (by rw [Schedule.numScheduled_eq, nothing]; rfl)
    simp only [fault, idle, if_true]
    exact consistent
  · rw [given]
    have move := FrameView.Moves.gaveFront machine.view id front rest shown current
    refine consistent.reshown consistent.sync rfl rfl rfl rfl rfl
      (consistent.ordered.step move trivial) (fun other member => ?_)
      fun _ _ => List.cons_ne_nil _ _
    have shown : machine.view.onscreen = front :: rest := shown
    have first : front.frame ∈ machine.view.past :=
      FrameView.mem_past_of_onscreen (shown ▸ List.mem_cons_self)
    rcases List.mem_append.mp member with entries | gifts
    · rcases List.mem_cons.mp entries with rfl | behind
      · exact first
      · obtain ⟨entry, used, rfl⟩ := List.mem_map.mp behind
        exact FrameView.mem_past_of_onscreen
          (shown ▸ List.mem_cons_of_mem _ (mem_usedEntries.mp used).1)
    · rcases List.mem_cons.mp gifts with rfl | before
      · exact first
      · exact List.mem_append_right _ before
  · rw [given]
    subst left
    have move := FrameView.Moves.gaveNext machine.view id frame remaining.frames queued moves
    have count : machine.schedule.numScheduled = remaining.frames.length + 1 := by
      rw [Schedule.numScheduled_eq, queued, List.length_cons]
    -- While the thread counts on it, more than the frame just taken was scheduled.
    have stays (counts : machine.thread.TakesNext ∨ machine.thread.frames ≠ []) :
        remaining.frames ≠ [] := by
      intro nothing
      refine leaves counts moves ?_
      rw [count, nothing]
      rfl
    exact ⟨consistent.sync, same.trans consistent.discipline,
      consistent.ordered.step move trivial, fun _ => Or.inl (List.cons_ne_nil _ _),
      consistent.ready.taken queued stays, consistent.faultless⟩

theorem Consistent.submitBuffer {machine : Machine} (consistent : Consistent machine)
    (idle : machine.thread = .idle) (buffer : BufferID) :
    Consistent
      { machine with
        schedule := (machine.schedule.schedule ⟨buffer, machine.submissions⟩).1
        submissions := machine.submissions + 1 } := by
  obtain ⟨discipline, kept, fewer, frames⟩ :=
    machine.schedule.schedule_frames ⟨buffer, machine.submissions⟩
  refine ⟨consistent.sync, discipline.trans consistent.discipline, ?_,
    fun _ => Or.inr (Or.inl ?_), ?_, consistent.faultless⟩
  · have ordered := (consistent.ordered.dequeue kept fewer).submit buffer
    simpa only [view, frames] using ordered
  · rw [frames]
    exact List.concat_ne_nil _ _
  · simp [ThreadReady, idle]

/-- The thread moves on without touching anything else. -/
theorem Consistent.proceed {machine : Machine} (consistent : Consistent machine) (thread : Thread)
    (frames : machine.thread.frames ≠ [] → thread.frames ≠ [])
    (ready : ThreadReady machine.view thread) :
    Consistent { machine with thread := thread } := by
  refine ⟨consistent.sync, consistent.discipline, consistent.ordered, fun some => ?_, ready,
    consistent.faultless⟩
  rcases consistent.present some with entries | waits | held
  · exact Or.inl entries
  · exact Or.inr (Or.inl waits)
  · exact Or.inr (Or.inr (frames held))

theorem Consistent.start {machine : Machine} (consistent : Consistent machine)
    (idle : machine.thread = .idle) (call : Call) : Consistent (machine.start call) := by
  have nothing : ¬ machine.thread.frames ≠ [] := by
    rw [idle]
    exact not_not.mpr rfl
  have drain (goal : DrainFor)
      (few : goal = .transitionSchedule .queueing → machine.schedule.frames.length ≤ 1) :
      Consistent { machine with thread := .draining goal [] } := by
    refine consistent.proceed _ (fun held => absurd held nothing) ⟨fun _ last member => ?_, ?_⟩
    · cases member
    · intro transition
      rw [List.length_nil, Nat.zero_add]
      exact few transition
  unfold Machine.start
  split
  · split
    · exact drain _ fun transition => by cases transition
    · split
      · rename_i drops
        refine drain _ fun _ => Schedule.frames_length_of_dropping ?_
        rw [consistent.discipline, drops.2]
        rfl
      · exact consistent
  · exact drain _ fun transition => by cases transition
  · exact consistent.proceed _ (fun held => absurd held nothing) trivial

/-- What follows the drain loop finds the frames it carries. -/
theorem ready_afterDrain {view : FrameView} (goal : DrainFor) (transferred : List Frame)
    (nothing : view.waiting = []) (carried : Carried view transferred)
    (few : goal = .transitionSchedule .queueing → transferred.length + view.waiting.length ≤ 1) :
    ThreadReady view (afterDrain goal transferred) ∧
      (transferred ≠ [] → (afterDrain goal transferred).frames ≠ []) := by
  cases goal with
  | transitionSchedule mode =>
    have empty : mode.newSchedule.frames = [] := by cases mode <;> rfl
    have same : mode.newSchedule.emptied = mode.newSchedule := by cases mode <;> rfl
    refine ⟨⟨nothing, ?_, same, ?_⟩, ?_⟩
    · rwa [empty]
    · rintro rfl
      rw [empty]
      exact Nat.le_trans (Nat.le_add_right _ _) (few rfl)
    · intro some
      rw [afterDrain, Thread.frames, empty]
      exact some
  | dropOldBuffers =>
    cases last : transferred.getLast? with
    | none =>
      rw [afterDrain, last]
      exact ⟨trivial, fun some => absurd (List.getLast?_eq_none_iff.mp last) some⟩
    | some frame =>
      rw [afterDrain, last]
      refine ⟨⟨nothing, fun other member => carried other ?_⟩, fun _ => List.cons_ne_nil _ _⟩
      rw [last]
      exact member

section Run

variable {machine : Machine} {goal : DrainFor} {transferred : List Frame}

theorem Consistent.run_draining (consistent : Consistent machine)
    (thread : machine.thread = .draining goal transferred) : Consistent machine.runThread := by
  have ready := consistent.ready
  unfold runThread
  rw [thread] at ready
  simp only [thread, Schedule.numScheduled_eq]
  split
  · rename_i none
    have nothing : machine.schedule.frames = [] := List.eq_nil_of_length_eq_zero none
    obtain ⟨follows, carries⟩ := ready_afterDrain goal transferred nothing (ready.1 nothing)
      ready.2
    exact consistent.proceed _ (fun held => carries (by rwa [thread] at held)) follows
  · rename_i some
    refine consistent.proceed _ (fun held => by rwa [thread] at held)
      ⟨fun nothing => some ?_, ready.2⟩
    rw [show machine.schedule.frames = [] from nothing]
    rfl

theorem Consistent.run_taking (consistent : Consistent machine)
    (thread : machine.thread = .taking goal transferred) : Consistent machine.runThread := by
  have ready := consistent.ready
  unfold runThread
  rw [thread] at ready
  obtain ⟨frame, rest, queued⟩ := List.exists_cons_of_ne_nil ready.1
  obtain ⟨remaining, taken, left, same⟩ := Schedule.nextBuffer_cons queued
  have waits : frame ∈ machine.view.waiting := queued ▸ List.mem_cons_self
  have ordered := consistent.ordered.dequeue rest
    (queued ▸ List.sublist_cons_self _ _)
  simp only [thread, taken]
  refine ⟨consistent.sync, same.trans consistent.discipline, ?_, fun _ => Or.inr (Or.inr ?_),
    ⟨fun _ last member => ?_, fun transition => ?_⟩, consistent.faultless⟩
  · simpa only [view, left] using ordered
  · exact List.concat_ne_nil _ _
  · -- The frame just taken is the newest the thread carries.
    rw [List.getLast?_concat] at member
    obtain rfl : frame = last := by simpa using member
    exact ⟨consistent.ordered.submitted frame (List.mem_append_left _ waits),
      fun old shown => consistent.ordered.pastFirst old shown frame waits⟩
  · have few := ready.2 transition
    rw [queued, List.length_cons] at few
    show (transferred ++ [frame]).length + remaining.frames.length ≤ 1
    rw [List.length_append, List.length_singleton, left]
    omega

theorem Consistent.run_refilling_cons (consistent : Consistent machine) {mode : ScheduleMode}
    {newSchedule : Schedule} {frame : Frame} {rest : List Frame}
    (thread : machine.thread = .refilling mode newSchedule (frame :: rest)) :
    Consistent machine.runThread := by
  have ready := consistent.ready
  unfold runThread
  rw [thread] at ready
  obtain ⟨nothing, carried, discipline, few⟩ := ready
  obtain ⟨same, kept, fewer, frames⟩ := newSchedule.schedule_frames frame
  simp only [thread]
  refine consistent.proceed _ (fun _ => ?_) ⟨nothing, ?_, same.trans discipline, ?_⟩
  · rw [Thread.frames, frames]
    simp
  · intro last member
    refine carried last ?_
    rw [frames, List.append_assoc, List.getLast?_append_of_ne_nil _ (by simp)] at member
    rwa [List.getLast?_append_of_ne_nil _ (by simp)]
  · intro queues
    have short := few queues
    have length := fewer.length_le
    rw [frames]
    simp only [List.length_append, List.length_cons, List.length_nil] at short ⊢
    omega

/-- The new schedule is put in place with at most one frame in it. -/
theorem Consistent.run_refilling_nil (consistent : Consistent machine) {mode : ScheduleMode}
    {newSchedule : Schedule} (thread : machine.thread = .refilling mode newSchedule []) :
    Consistent machine.runThread := by
  have ready := consistent.ready
  unfold runThread
  rw [thread] at ready
  obtain ⟨nothing, carried, discipline, few⟩ := ready
  rw [List.append_nil] at carried few
  have single : newSchedule.frames.length ≤ 1 := by
    cases mode with
    | queueing => exact few rfl
    | dropping => exact Schedule.frames_length_of_dropping discipline
  simp only [thread]
  refine ⟨consistent.sync, ?_, ?_, fun some => ?_, trivial, consistent.faultless⟩
  · exact discipline
  · match only : newSchedule.frames, single with
    | [], _ =>
      have ordered := consistent.ordered.dequeue [] (List.nil_sublist _)
      simpa only [view, only] using ordered
    | [frame], _ =>
      have ordered := inOrder_requeue consistent.ordered frame (only ▸ carried)
      simpa only [view, only] using ordered
  · rcases consistent.present some with entries | waits | held
    · exact Or.inl entries
    · exact absurd nothing waits
    · rw [thread, Thread.frames, List.append_nil] at held
      exact Or.inr (Or.inl held)

theorem Consistent.run_rescheduling (consistent : Consistent machine) {last : Frame}
    (thread : machine.thread = .rescheduling last) : Consistent machine.runThread := by
  have ready := consistent.ready
  unfold runThread
  rw [thread] at ready
  obtain ⟨nothing, carried⟩ := ready
  obtain ⟨same, kept, fewer, frames⟩ := machine.schedule.schedule_frames last
  have none : kept = [] := by
    rw [show machine.schedule.frames = [] from nothing] at fewer
    exact List.sublist_nil.mp fewer
  rw [none, List.nil_append] at frames
  simp only [thread]
  refine ⟨consistent.sync, same.trans consistent.discipline, ?_, fun _ => Or.inr (Or.inl ?_),
    trivial, consistent.faultless⟩
  · have ordered := inOrder_requeue consistent.ordered last carried
    simpa only [view, frames] using ordered
  · rw [frames]
    exact List.cons_ne_nil _ _

theorem Consistent.run_advancing (consistent : Consistent machine)
    (thread : machine.thread = .advancing) : Consistent machine.runThread := by
  unfold runThread
  simp only [thread, MultiMonitorArbiter.advanceSchedule, Schedule.numScheduled_eq]
  split
  · exact consistent.proceed .idle (fun held => by rw [thread] at held; exact held) trivial
  · rename_i some
    obtain ⟨frame, rest, queued⟩ := List.exists_cons_of_ne_nil
      (fun nothing => some (by rw [nothing]; rfl) : machine.schedule.frames ≠ [])
    obtain ⟨remaining, shown, left, same⟩ :=
      machine.arbiter.showNext_cons machine.schedule frame rest queued
    simp only [shown]
    refine ⟨consistent.sync, same.trans consistent.discipline, ?_,
      fun _ => Or.inl (List.cons_ne_nil _ _), trivial, consistent.faultless⟩
    subst left
    exact consistent.ordered.putOnScreen ⟨frame, 0⟩ remaining.frames ∅ queued

theorem Consistent.run_counting (consistent : Consistent machine)
    (thread : machine.thread = .counting) : Consistent machine.runThread := by
  have held : ¬ machine.thread.frames ≠ [] := by
    rw [thread]
    exact not_not.mpr rfl
  unfold runThread
  simp only [thread, Schedule.numScheduled_eq]
  split
  · rename_i several
    refine consistent.proceed _ (fun some => absurd some held) fun nothing => ?_
    rw [show machine.schedule.frames = [] from nothing] at several
    exact absurd several (by decide)
  · exact consistent.proceed _ (fun some => absurd some held) trivial

theorem Consistent.run_dropping (consistent : Consistent machine) (clear : machine.Clear .run)
    (thread : machine.thread = .dropping) : Consistent machine.runThread := by
  have ready := consistent.ready
  unfold runThread
  rw [thread] at ready
  obtain ⟨frame, rest, queued⟩ := List.exists_cons_of_ne_nil ready
  obtain ⟨remaining, taken, left, same⟩ := Schedule.nextBuffer_cons queued
  have ordered := consistent.ordered.dequeue rest (queued ▸ List.sublist_cons_self _ _)
  simp only [thread, taken]
  refine ⟨consistent.sync, same.trans consistent.discipline, ?_, fun _ => ?_, trivial,
    consistent.faultless⟩
  · simpa only [view, left] using ordered
  · by_cases nothing : remaining.frames = []
    · refine Or.inl (clear thread ?_)
      rw [Schedule.numScheduled_eq, show machine.schedule.frames = frame :: rest from queued,
        ← left, nothing]
      rfl
    · exact Or.inr (Or.inl nothing)

end Run

theorem Consistent.run {machine : Machine} (consistent : Consistent machine)
    (clear : machine.Clear .run) : Consistent machine.runThread := by
  cases thread : machine.thread with
  | idle =>
    unfold runThread
    simp only [thread]
    exact consistent
  | draining goal transferred => exact consistent.run_draining thread
  | taking goal transferred => exact consistent.run_taking thread
  | refilling mode newSchedule remaining =>
    cases remaining with
    | nil => exact consistent.run_refilling_nil thread
    | cons frame rest => exact consistent.run_refilling_cons thread
  | rescheduling last => exact consistent.run_rescheduling thread
  | advancing => exact consistent.run_advancing thread
  | counting => exact consistent.run_counting thread
  | dropping => exact consistent.run_dropping clear thread

theorem Consistent.step {machine : Machine} (consistent : Consistent machine) (turn : Turn)
    (clear : machine.Clear turn) : Consistent (machine.step turn) := by
  cases turn with
  | submitBuffer buffer =>
    rw [Machine.step]
    split
    · rename_i idle
      exact consistent.submitBuffer idle buffer
    · exact consistent
  | call call =>
    rw [Machine.step]
    split
    · rename_i idle
      exact consistent.start idle call
    · exact consistent
  | run => exact consistent.run clear
  | compositorAcquire id => exact consistent.acquire id clear
  | compositorRelease frame => exact consistent.release frame clear

theorem consistent_initial : Consistent Machine.initial where
  sync := rfl
  discipline := rfl
  ordered := ⟨List.Pairwise.nil, fun _ member => (List.not_mem_nil member).elim,
    fun _ member => (List.not_mem_nil member).elim, fun _ member => (List.not_mem_nil member).elim,
    List.Pairwise.nil⟩
  present some := absurd some (Nat.lt_irrefl 0)
  ready := trivial
  faultless := rfl

end Machine

/-- In every interleaving in which the compositors and the stream's thread keep clear of each
other, nothing throws once a buffer has been submitted, and no compositor is given an older
frame than before. -/
theorem interleavings_safe (machine : Machine)
    (reached : Transition.Reaches Machine.step Machine.Clear Machine.initial machine) :
    machine.faults = [] ∧ ∀ id, GivenInOrder machine.given id := by
  have consistent : machine.Consistent :=
    reached.invariant Machine.consistent_initial fun _ turn consistent clear =>
      consistent.step turn clear
  exact ⟨consistent.faultless, fun id => consistent.ordered.givenInOrder id⟩

/-- Two compositors show frames while the queue is flattened and the discipline changes. -/
def keptClear : List Turn :=
  [.submitBuffer 0, .compositorAcquire 1, .submitBuffer 1, .submitBuffer 2, .submitBuffer 3,
    .call .dropOldBuffers, .run, .run, .run, .compositorAcquire 1, .compositorAcquire 2, .run,
    .run, .run, .run, .run, .run, .run, .run, .compositorRelease ⟨0, 0⟩, .compositorAcquire 2,
    .submitBuffer 4, .call (.allowFramedropping true), .run, .run, .run,
    .compositorAcquire 1, .run, .run, .compositorAcquire 1]

theorem interleavings_safe_keptClear :
    (keptClear.foldl Machine.step Machine.initial).faults = [] ∧
      GivenInOrder (keptClear.foldl Machine.step Machine.initial).given 1 :=
  have safe := interleavings_safe _ (Transition.Reaches.start.foldl keptClear (by decide))
  ⟨safe.1, safe.2 1⟩

/-- A compositor asks while the thread holds the only frame. -/
def drainedUnderneath : List Turn :=
  [.submitBuffer 0, .call .dropOldBuffers, .run, .run, .compositorAcquire 1]

/-- A compositor takes the frame the thread has counted. -/
def countedAway : List Turn :=
  [.submitBuffer 0, .call .dropOldBuffers, .run, .compositorAcquire 1, .run]

/-- A compositor takes the newest frame while the thread holds an older one, which is then put
back. -/
def takenOver : List Turn :=
  [.submitBuffer 0, .compositorAcquire 1, .submitBuffer 1, .submitBuffer 2,
    .call .dropOldBuffers, .run, .run, .compositorAcquire 1, .run, .run, .run,
    .compositorAcquire 1]

/-- Otherwise a compositor may find nothing to be given, the thread may find nothing to take, and
a compositor may be given an older frame. -/
theorem interleavings_unsafe :
    ¬ (∀ machine, Transition.Reaches Machine.step (fun _ _ => True) Machine.initial machine →
        Error.noBufferToGiveToCompositor ∉ machine.faults) ∧
      ¬ (∀ machine, Transition.Reaches Machine.step (fun _ _ => True) Machine.initial machine →
        Error.noBufferScheduled ∉ machine.faults) ∧
      ¬ (∀ machine, Transition.Reaches Machine.step (fun _ _ => True) Machine.initial machine →
        ∀ id, GivenInOrder machine.given id) := by
  refine ⟨fun claimed => ?_, fun claimed => ?_, fun claimed => ?_⟩
  · exact claimed _ (Transition.Reaches.start.foldl drainedUnderneath (by decide)) (by decide)
  · exact claimed _ (Transition.Reaches.start.foldl countedAway (by decide)) (by decide)
  · have ordered := claimed _ (Transition.Reaches.start.foldl takenOver (by decide)) 1
    unfold GivenInOrder at ordered
    exact absurd ordered (by decide)

end Mir.Compositor

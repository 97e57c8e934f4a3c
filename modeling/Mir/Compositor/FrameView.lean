/-
This file isolates the part of the system that decides in what order compositors are
given frames while a stream queues. Frames are numbered by submission. A `FrameView`
is the entries on screen, the compositors that have had the front one, the frames that
wait, and what was given so far; `Moves` lists all that a step can do to it, and every
step of a queueing stream is one of these moves.

From the list alone it is proved that no compositor is given an older frame than
before, unless cleaning takes an unused front entry away from over an older entry that
is still in use: the older one is then the front.
-/

import Mir.Compositor.Conservation

namespace Mir.Compositor

/-- No frame a compositor was given is newer than a later one; `given` has the newest first. -/
def GivenInOrder (given : List (CompositorID × Frame)) (id : CompositorID) : Prop :=
  (given.filter fun gift => gift.1 = id).Pairwise fun newer older =>
    older.2.submission ≤ newer.2.submission

/-- What decides which frame a compositor is given. -/
structure FrameView where
  onscreen : List ScheduleEntry
  users : Finset CompositorID
  waiting : List Frame
  given : List (CompositorID × Frame)
  submissions : Nat

/-- The part of the system that decides the order of frames. -/
def World.view (world : World) : FrameView where
  onscreen := world.onscreen
  users := world.stream.arbiter.currentBufferUsers
  waiting := world.scheduled
  given := world.given
  submissions := world.submissions

namespace FrameView

/-- The entries left on screen by a cleaning. -/
def cleaned (waiting : List Frame) (entries : List ScheduleEntry) : List ScheduleEntry :=
  (cleanOnscreenBuffers waiting.length true entries).1

/-- A buffer is at the front. -/
def AtFront (view : FrameView) (id : BufferID) : Prop :=
  view.onscreen.head?.map ScheduleEntry.buffer = some id

instance (view : FrameView) (id : BufferID) : Decidable (view.AtFront id) :=
  inferInstanceAs (Decidable (_ = _))

/-- What one operation of a queueing stream can do to the order of frames. -/
inductive Moves : FrameView → Op → FrameView → Prop
  | idle (view : FrameView) (op : Op) : Moves view op view
  | submitted (view : FrameView) (id : BufferID) :
      Moves view (.submitBuffer (some id))
        { view with
          waiting := view.waiting ++ [⟨id, view.submissions⟩]
          submissions := view.submissions + 1 }
  | gaveFront (view : FrameView) (id : CompositorID) (front : ScheduleEntry)
      (rest : List ScheduleEntry) (shown : view.onscreen = front :: rest)
      (current : id ∉ view.users ∨ view.waiting = []) :
      Moves view (.lockCompositorBuffer id)
        { view with
          onscreen := { front with useCount := front.useCount + 1 } :: usedEntries rest
          users := insert id (if id ∈ view.users then ∅ else view.users)
          given := (id, front.frame) :: view.given }
  | gaveNext (view : FrameView) (id : CompositorID) (frame : Frame) (tail : List Frame)
      (next : view.waiting = frame :: tail) (moves : id ∈ view.users ∨ view.onscreen = []) :
      Moves view (.lockCompositorBuffer id)
        { view with
          onscreen := ⟨frame, 1⟩ :: usedEntries view.onscreen
          users := {id}
          waiting := tail
          given := (id, frame) :: view.given }
  | released (view : FrameView) (frame : Frame) (entry : ScheduleEntry)
      (shown : entry ∈ view.onscreen) (used : entry.useCount ≠ 0) :
      Moves view (.releaseCompositorBuffer frame)
        { view with
          onscreen :=
            if view.AtFront frame.buffer then takeUse frame.buffer view.onscreen
            else cleaned view.waiting (takeUse frame.buffer view.onscreen) }
  | snapshot (view : FrameView) (front : ScheduleEntry) (rest : List ScheduleEntry)
      (shown : view.onscreen = front :: rest) :
      Moves view .withMostRecentBufferDo
        { view with onscreen := cleaned view.waiting view.onscreen }
  | snapshotNext (view : FrameView) (frame : Frame) (tail : List Frame)
      (nothing : view.onscreen = []) (next : view.waiting = frame :: tail) :
      Moves view .withMostRecentBufferDo
        { view with onscreen := cleaned tail [⟨frame, 0⟩], waiting := tail }
  | droppedFrame (view : FrameView) (frame next : Frame) (rest : List Frame)
      (queued : view.waiting = frame :: next :: rest) :
      Moves view .dropFrame { view with waiting := next :: rest }
  | droppedOld (view : FrameView) (older : List Frame) (last : Frame)
      (queued : view.waiting = older ++ [last]) :
      Moves view .dropOldBuffers
        { view with
          onscreen := ⟨last, 0⟩ :: view.onscreen
          users := ∅
          waiting := [] }

end FrameView

/-! ### Every step of a queueing stream is a move -/

/-- The runs the order of frames is about: the client submits only what it owns, the stream
queues, and a snapshot is one operation. -/
def QueueingRun (world : World) (op : Op) : Prop :=
  SubmitsOwned world op ∧
    match op with
    | .allowFramedropping dropping => dropping = false
    | .acquireSnapshot => False
    | .releaseSnapshot _ => False
    | _ => True

instance (world : World) : DecidablePred (QueueingRun world) := fun op =>
  @instDecidableAnd _ _ _ <|
    match op with
    | .allowFramedropping dropping => inferInstanceAs (Decidable (dropping = false))
    | .acquireSnapshot | .releaseSnapshot _ => inferInstanceAs (Decidable False)
    | .submitBuffer _ | .lockCompositorBuffer _ | .releaseCompositorBuffer _
    | .withMostRecentBufferDo | .dropOldBuffers | .dropFrame | .associateBuffer _
    | .disassociateBuffer _ | .destroyStream => inferInstanceAs (Decidable True)

/-- The stream queues. -/
def Queues (stream : Stream) : Prop :=
  stream.scheduleMode = .queueing ∧ stream.schedule.emptied = .queueing []

theorem Queues.schedule_eq {stream : Stream} (queues : Queues stream) :
    stream.schedule = .queueing stream.schedule.frames := by
  have discipline := queues.2
  cases schedule : stream.schedule with
  | queueing queue => rfl
  | dropping only => simp [schedule, Schedule.emptied] at discipline

/-- A step that is a move and leaves the stream queueing. -/
structure StepMoves (before : World) (op : Op) (after : World) : Prop where
  queues : Queues after.stream
  moves : FrameView.Moves before.view op after.view

namespace World

variable {world : World}

theorem scheduled_length (world : World) :
    world.view.waiting.length = world.stream.schedule.numScheduled :=
  (Schedule.numScheduled_eq _).symm

/-- A step that changes nothing the order depends on. -/
theorem stepMoves_idle (queues : Queues world.stream) (op : Op) {after : World}
    (mode : after.stream.scheduleMode = world.stream.scheduleMode)
    (schedule : after.stream.schedule = world.stream.schedule)
    (same : after.view = world.view) : StepMoves world op after :=
  ⟨⟨mode ▸ queues.1, schedule ▸ queues.2⟩, same ▸ FrameView.Moves.idle _ _⟩

theorem submit_moves (queues : Queues world.stream) (balanced : Balanced world)
    (buffer : Option BufferID) (owned : SubmitsOwned world (.submitBuffer buffer)) :
    StepMoves world (.submitBuffer buffer) (world.submit buffer) := by
  have mode : (world.submit buffer).stream.scheduleMode = world.stream.scheduleMode := by
    rw [submit_stream]
    unfold Stream.submitBuffer
    split
    · rfl
    · simp only
      split
      · rfl
      · split <;> rfl
  cases buffer with
  | none =>
    obtain ⟨stream, submitted, arbiter, schedule⟩ := world.submit_rejected none (by simp)
    refine stepMoves_idle queues _ mode (by rw [submitted]; exact schedule) ?_
    simp only [submitted, view, onscreen, scheduled, arbiter, schedule]
  | some id =>
    have mine := owned id rfl
    have away := (balanced.owned id).mp mine.2
    obtain ⟨stream, submitted, arbiter, schedule⟩ := world.submit_accepted id mine.1
    have fresh : id ∉ world.stream.schedule.frames.map Frame.buffer := fun waiting =>
      away (List.mem_append_left _ waiting)
    have queued := Schedule.schedule_queueing_of_notMem world.stream.schedule.frames
      ⟨id, world.submissions⟩ fresh
    rw [← queues.schedule_eq] at queued
    rw [queued] at schedule
    refine ⟨⟨mode ▸ queues.1, ?_⟩, ?_⟩
    · rw [submitted]
      simp only [schedule, Schedule.emptied]
    · have moved := FrameView.Moves.submitted world.view id
      simpa only [submitted, view, onscreen, scheduled, arbiter, schedule,
        Schedule.frames_queueing] using moved

theorem lock_moves (queues : Queues world.stream) (balanced : Balanced world)
    (id : CompositorID) :
    StepMoves world (.lockCompositorBuffer id) (world.lock id) := by
  simp only [lock, Stream.lockCompositorBuffer]
  rcases world.stream.arbiter.compositorAcquire_cases world.stream.schedule id
      balanced.tracked.sync with
    ⟨_, _, failed⟩ | ⟨front, rest, shown, current, given⟩ |
      ⟨frame, tail, remaining, next, left, same, moves, given⟩
  · rw [failed]
    exact stepMoves_idle queues _ rfl rfl rfl
  · rw [given]
    exact ⟨queues, FrameView.Moves.gaveFront world.view id front rest shown current⟩
  · rw [given]
    subst left
    exact ⟨⟨queues.1, same.trans queues.2⟩,
      FrameView.Moves.gaveNext world.view id frame remaining.frames next moves⟩

theorem release_moves (queues : Queues world.stream) (balanced : Balanced world)
    (alive : world.streamAlive = true) (frame : Frame) :
    StepMoves world (.releaseCompositorBuffer frame) (world.release frame) := by
  unfold release
  split
  · rename_i member
    have held : frame ∈ world.handles := List.mem_append_left _ member
    obtain ⟨entry, shown, same⟩ := List.mem_map.mp (balanced.tracked.counted.listed frame held)
    have used := (balanced.tracked.counted.mem_held_iff shown).mp (same ▸ held)
    have released := world.stream.arbiter.compositorRelease_of_nodup world.stream.schedule
      frame.buffer balanced.tracked.sync balanced.tracked.onscreen_nodup
      (balanced.tracked.held_onscreen held)
    have moved := FrameView.Moves.released world.view frame entry shown used
    simp only [dropReference, after, alive, Bool.true_eq_false, false_and, if_false]
    by_cases front : world.stream.arbiter.onscreenBuffers.head?.map ScheduleEntry.buffer =
        some frame.buffer
    · rw [if_neg (not_not.mpr front)] at released
      rw [if_pos (show world.view.AtFront frame.buffer from front)] at moved
      simp only [Stream.releaseCompositorBuffer, released]
      exact ⟨queues, moved⟩
    · rw [if_pos front] at released
      rw [if_neg (show ¬ world.view.AtFront frame.buffer from front), FrameView.cleaned,
        scheduled_length] at moved
      simp only [Stream.releaseCompositorBuffer, released]
      exact ⟨queues, moved⟩
  · exact stepMoves_idle queues _ rfl rfl rfl

theorem withMostRecentBufferDo_moves (queues : Queues world.stream) :
    StepMoves world .withMostRecentBufferDo
      (world.after world.stream.withMostRecentBufferDo.stream
        world.stream.withMostRecentBufferDo.sent) := by
  simp only [Stream.withMostRecentBufferDo, Stream.acquireSnapshot]
  rcases world.stream.arbiter.snapshot_cases world.stream.schedule with
    ⟨_, _, failed⟩ | ⟨front, acquired, shown, given, _, left, released⟩
  · simp only [failed]
    exact stepMoves_idle queues _ rfl rfl rfl
  · rw [left] at released
    simp only [given, Stream.releaseSnapshot, left, released]
    cases entries : world.stream.arbiter.onscreenBuffers with
    | nil =>
      cases next : world.stream.schedule.frames with
      | nil => simp [MultiMonitorArbiter.snapshotView, entries,
          MultiMonitorArbiter.showNext_nil _ _ next] at shown
      | cons frame tail =>
        obtain ⟨remaining, viewed, rest, same⟩ :=
          world.stream.arbiter.showNext_cons world.stream.schedule frame tail next
        subst rest
        have moved := FrameView.Moves.snapshotNext world.view frame remaining.frames entries next
        rw [FrameView.cleaned, ← Schedule.numScheduled_eq] at moved
        simp only [MultiMonitorArbiter.snapshotView, entries, if_true, viewed]
        exact ⟨⟨queues.1, same.trans queues.2⟩, moved⟩
    | cons first rest =>
      have moved := FrameView.Moves.snapshot world.view first rest entries
      rw [FrameView.cleaned, scheduled_length] at moved
      simp only [MultiMonitorArbiter.snapshotView, entries, reduceCtorEq, if_false]
      exact ⟨queues, moved⟩

theorem dropFrame_moves (queues : Queues world.stream) :
    StepMoves world .dropFrame
      (world.after world.stream.dropFrame.1 world.stream.dropFrame.2) := by
  unfold Stream.dropFrame
  split
  · rename_i several
    match queued : world.stream.schedule.frames with
    | [] => simp [queued] at several
    | [only] => simp [queued] at several
    | frame :: next :: rest =>
      obtain ⟨remaining, taken, left, same⟩ := Schedule.nextBuffer_cons queued
      have moved := FrameView.Moves.droppedFrame world.view frame next rest queued
      rw [taken]
      rw [← left] at moved
      exact ⟨⟨queues.1, same.trans queues.2⟩, moved⟩
  · exact stepMoves_idle queues _ rfl rfl rfl

theorem dropOldBuffers_moves (queues : Queues world.stream) :
    StepMoves world .dropOldBuffers
      (world.after world.stream.dropOldBuffers.1 world.stream.dropOldBuffers.2) := by
  rcases List.eq_nil_or_concat world.stream.schedule.frames with nothing | ⟨older, last, queued⟩
  · refine stepMoves_idle queues _ rfl ?_ ?_
    all_goals
      simp [after, view, onscreen, scheduled, Stream.dropOldBuffers, Schedule.drain_eq, nothing,
        MultiMonitorArbiter.advanceSchedule, Schedule.emptied_eq_self nothing]
  · rw [List.concat_eq_append] at queued
    obtain ⟨left, -⟩ := world.stream.schedule.schedule_emptied last
    obtain ⟨remaining, shown, rest, same⟩ :=
      world.stream.arbiter.showNext_cons _ last [] left
    have discipline : (world.stream.schedule.emptied.schedule last).1.emptied = .queueing [] := by
      rw [queues.2]
      rfl
    have moved := FrameView.Moves.droppedOld world.view older last queued
    rw [← rest] at moved
    have stream : world.stream.dropOldBuffers.1 = { world.stream with
        schedule := remaining
        arbiter :=
          { world.stream.arbiter with
            onscreenBuffers := ⟨last, 0⟩ :: world.stream.arbiter.onscreenBuffers
            currentBufferUsers := ∅ }
        buffers := world.stream.buffers.sendBuffers world.stream.dropOldBuffers.2 } := by
      simp [Stream.dropOldBuffers, Schedule.drain_eq, queued,
        MultiMonitorArbiter.advanceSchedule, left, shown]
    rw [stream]
    exact ⟨⟨queues.1, same.trans discipline⟩, moved⟩

/-- Every operation but the destructor is a move. -/
theorem step_moves (queues : Queues world.stream) (balanced : Balanced world)
    (alive : world.streamAlive = true) (op : Op) (allowed : QueueingRun world op)
    (other : op ≠ .destroyStream) : StepMoves world op (world.step op) := by
  cases op with
  | submitBuffer buffer =>
    simpa [step, alive] using submit_moves queues balanced buffer allowed.1
  | lockCompositorBuffer id => simpa [step, alive] using lock_moves queues balanced id
  | releaseCompositorBuffer frame =>
    simpa [step, alive] using release_moves queues balanced alive frame
  | withMostRecentBufferDo => simpa [step, alive] using withMostRecentBufferDo_moves queues
  | acquireSnapshot => exact absurd allowed.2 id
  | releaseSnapshot frame => exact absurd allowed.2 id
  | allowFramedropping dropping =>
    obtain rfl : dropping = false := allowed.2
    have idle : world.stream.allowFramedropping false = (world.stream, []) := by
      simp [Stream.allowFramedropping, queues.1]
    simp only [step, alive, idle]
    exact stepMoves_idle queues _ rfl rfl rfl
  | dropOldBuffers => simpa [step, alive] using dropOldBuffers_moves queues
  | dropFrame => simpa [step, alive] using dropFrame_moves queues
  | associateBuffer id =>
    simp only [step, alive]
    exact stepMoves_idle queues _ rfl rfl rfl
  | disassociateBuffer id =>
    simp only [step, alive]
    exact stepMoves_idle queues _ rfl rfl rfl
  | destroyStream => exact absurd rfl other

end World

/-! ### What cleaning does to the front -/

namespace FrameView

theorem clean_eq (arbiter : MultiMonitorArbiter) (schedule : Schedule) :
    (arbiter.clean schedule).1 =
      { arbiter with onscreenBuffers := cleaned schedule.frames arbiter.onscreenBuffers } := by
  rw [cleaned, ← Schedule.numScheduled_eq]
  rfl

theorem cleaned_sublist (waiting : List Frame) (entries : List ScheduleEntry) :
    (cleaned waiting entries).Sublist entries := cleanOnscreenBuffers_sublist _ _

/-- While nothing waits the front entry stays. -/
theorem cleaned_head (entries : List ScheduleEntry) :
    (cleaned [] entries).head? = entries.head? := by
  cases entries with
  | nil => rfl
  | cons front rest => rw [cleaned, cleanOnscreenBuffers_front _ _ _ (Or.inr List.length_nil)]; rfl

theorem takeUse_head (id : BufferID) (entries : List ScheduleEntry) :
    (takeUse id entries).head?.map ScheduleEntry.frame =
      entries.head?.map ScheduleEntry.frame := by
  rw [← List.head?_map, takeUse_frames, List.head?_map]

/-- The entries an operation cleans. -/
def entriesToClean (view : FrameView) : Op → List ScheduleEntry
  | .releaseCompositorBuffer frame =>
    if view.AtFront frame.buffer then [] else takeUse frame.buffer view.onscreen
  | .withMostRecentBufferDo => view.onscreen
  | _ => []

/-- Cleaning takes no unused front entry away from over one that is in use. -/
def CoversStay (view : FrameView) (op : Op) : Prop :=
  match view.entriesToClean op with
  | [] => True
  | front :: rest => view.waiting = [] ∨ front.useCount ≠ 0 ∨ usedEntries rest = []

instance (view : FrameView) (op : Op) : Decidable (view.CoversStay op) :=
  match entries : view.entriesToClean op with
  | [] => .isTrue (by simp only [CoversStay, entries])
  | front :: rest => decidable_of_iff
      (view.waiting = [] ∨ front.useCount ≠ 0 ∨ usedEntries rest = [])
      (by simp only [CoversStay, entries])

/-- Then the front entry stays, or nothing does. -/
theorem cleaned_front (waiting : List Frame) (front : ScheduleEntry) (rest : List ScheduleEntry)
    (covers : waiting = [] ∨ front.useCount ≠ 0 ∨ usedEntries rest = []) :
    cleaned waiting (front :: rest) = [] ∨
      (cleaned waiting (front :: rest)).head? = some front := by
  by_cases stays : front.useCount ≠ 0 ∨ waiting.length = 0
  · right
    rw [cleaned, cleanOnscreenBuffers_front _ _ _ stays]
    rfl
  · left
    push Not at stays
    have alone : usedEntries rest = [] := by
      rcases covers with nothing | used | alone
      · exact absurd (by simp [nothing]) stays.2
      · exact absurd stays.1 used
      · exact alone
    rw [cleaned, cleanOnscreenBuffers_all _ _ _ (Or.inr stays.2), usedEntries,
      List.filter_cons_of_neg (by simp [stays.1])]
    exact alone

/-! ### No compositor is given an older frame -/

/-- The frames that are on screen or were given. -/
def past (view : FrameView) : List Frame :=
  view.onscreen.map ScheduleEntry.frame ++ view.given.map Prod.snd

/-- The frames are numbered in the order they pass through the stream. -/
structure InOrder (view : FrameView) : Prop where
  waitingSorted : view.waiting.Pairwise fun sooner later => sooner.submission < later.submission
  submitted : ∀ frame ∈ view.waiting ++ view.past, frame.submission < view.submissions
  pastFirst : ∀ old ∈ view.past, ∀ frame ∈ view.waiting, old.submission < frame.submission
  frontNewest : ∀ gift ∈ view.given, ∀ front ∈ view.onscreen.head?,
    gift.2.submission ≤ front.frame.submission
  givenSorted : view.given.Pairwise fun newer older => older.2.submission ≤ newer.2.submission

theorem mem_past_of_onscreen {view : FrameView} {entry : ScheduleEntry}
    (shown : entry ∈ view.onscreen) : entry.frame ∈ view.past :=
  List.mem_append_left _ (List.mem_map_of_mem shown)

theorem mem_past_of_given {view : FrameView} {gift : CompositorID × Frame}
    (given : gift ∈ view.given) : gift.2 ∈ view.past :=
  List.mem_append_right _ (List.mem_map_of_mem given)

namespace InOrder

variable {view : FrameView}

theorem givenInOrder (ordered : InOrder view) (id : CompositorID) :
    GivenInOrder view.given id :=
  ordered.givenSorted.sublist List.filter_sublist

/-- Entries may go, or be used more or less, as long as the front frame is the same or gone. -/
theorem reshown (ordered : InOrder view) {entries : List ScheduleEntry}
    {users : Finset CompositorID}
    (kept : ∀ frame ∈ entries.map ScheduleEntry.frame,
      frame ∈ view.onscreen.map ScheduleEntry.frame)
    (front : entries = [] ∨
      entries.head?.map ScheduleEntry.frame = view.onscreen.head?.map ScheduleEntry.frame) :
    InOrder { view with onscreen := entries, users := users } := by
  have known {frame : Frame}
      (member : frame ∈ past { view with onscreen := entries, users := users }) :
      frame ∈ view.past := by
    rcases List.mem_append.mp member with shown | given
    · exact List.mem_append_left _ (kept frame shown)
    · exact List.mem_append_right _ given
  refine ⟨ordered.waitingSorted, fun frame member => ?_,
    fun old member => ordered.pastFirst old (known member), fun gift given entry first => ?_,
    ordered.givenSorted⟩
  · refine ordered.submitted frame ?_
    rcases List.mem_append.mp member with waits | old
    · exact List.mem_append_left _ waits
    · exact List.mem_append_right _ (known old)
  · rcases front with nothing | same
    · simp [nothing] at first
    · rw [Option.mem_def.mp first, Option.map_some] at same
      obtain ⟨other, shown, equal⟩ := Option.map_eq_some_iff.mp same.symm
      rw [← equal]
      exact ordered.frontNewest gift given other shown

/-- A submission joins the end of the queue. -/
theorem submit (ordered : InOrder view) (id : BufferID) :
    InOrder { view with
      waiting := view.waiting ++ [⟨id, view.submissions⟩]
      submissions := view.submissions + 1 } := by
  have older {frame : Frame} (member : frame ∈ view.waiting ++ view.past) :
      frame.submission < view.submissions := ordered.submitted frame member
  refine ⟨?_, fun frame member => ?_, fun old member frame waits => ?_, ordered.frontNewest,
    ordered.givenSorted⟩
  · refine List.pairwise_append.mpr ⟨ordered.waitingSorted, List.pairwise_singleton _ _, ?_⟩
    intro sooner waits later last
    rw [List.mem_singleton.mp last]
    exact older (List.mem_append_left _ waits)
  · show frame.submission < view.submissions + 1
    rcases List.mem_append.mp member with waits | old
    · rcases List.mem_append.mp waits with before | last
      · exact Nat.lt_succ_of_lt (older (List.mem_append_left _ before))
      · rw [List.mem_singleton.mp last]
        exact Nat.lt_succ_self _
    · exact Nat.lt_succ_of_lt (older (List.mem_append_right _ old))
  · rcases List.mem_append.mp waits with before | last
    · exact ordered.pastFirst old member frame before
    · rw [List.mem_singleton.mp last]
      exact older (List.mem_append_right _ member)

/-- Frames may leave the queue. -/
theorem dequeue (ordered : InOrder view) (waiting : List Frame)
    (fewer : waiting.Sublist view.waiting) : InOrder { view with waiting := waiting } := by
  refine ⟨ordered.waitingSorted.sublist fewer, fun frame member => ordered.submitted frame ?_,
    fun old member frame waits => ordered.pastFirst old member frame (fewer.subset waits),
    ordered.frontNewest, ordered.givenSorted⟩
  rcases List.mem_append.mp member with waits | old
  · exact List.mem_append_left _ (fewer.subset waits)
  · exact List.mem_append_right _ old

/-- The next frame may be put on screen. -/
theorem putOnScreen (ordered : InOrder view) (entry : ScheduleEntry) (tail : List Frame)
    (users : Finset CompositorID) (next : view.waiting = entry.frame :: tail) :
    InOrder { view with
      onscreen := entry :: view.onscreen, users := users, waiting := tail } := by
  have sorted := ordered.waitingSorted
  rw [next] at sorted
  have waits : entry.frame ∈ view.waiting := next ▸ List.mem_cons_self
  have behind {frame : Frame} (member : frame ∈ tail) : frame ∈ view.waiting :=
    next ▸ List.mem_cons_of_mem _ member
  refine ⟨(List.pairwise_cons.mp sorted).2, fun frame member => ?_,
    fun old member frame later => ?_, fun gift given front first => ?_, ordered.givenSorted⟩
  · refine ordered.submitted frame ?_
    rcases List.mem_append.mp member with later | old
    · exact List.mem_append_left _ (behind later)
    · rcases List.mem_cons.mp old with rfl | old
      · exact List.mem_append_left _ waits
      · exact List.mem_append_right _ old
  · rcases List.mem_cons.mp member with rfl | old
    · exact (List.pairwise_cons.mp sorted).1 frame later
    · exact ordered.pastFirst _ old frame (behind later)
  · obtain rfl : entry = front := by simpa using first
    exact Nat.le_of_lt (ordered.pastFirst gift.2 (mem_past_of_given given) entry.frame waits)

/-- The front frame may be given. -/
theorem give (ordered : InOrder view) (id : CompositorID) (front : ScheduleEntry)
    (shown : view.onscreen.head? = some front) :
    InOrder { view with given := (id, front.frame) :: view.given } := by
  have present : front ∈ view.onscreen := List.mem_of_mem_head? shown
  have known {frame : Frame}
      (member : frame ∈ past { view with given := (id, front.frame) :: view.given }) :
      frame ∈ view.past := by
    rcases List.mem_append.mp member with shown | given
    · exact List.mem_append_left _ shown
    · rcases List.mem_cons.mp given with rfl | before
      · exact mem_past_of_onscreen present
      · exact List.mem_append_right _ before
  refine ⟨ordered.waitingSorted, fun frame member => ordered.submitted frame ?_,
    fun old member => ordered.pastFirst old (known member), fun gift given first head => ?_,
    List.pairwise_cons.mpr ⟨fun gift given => ordered.frontNewest gift given front shown,
      ordered.givenSorted⟩⟩
  · rcases List.mem_append.mp member with waits | old
    · exact List.mem_append_left _ waits
    · exact List.mem_append_right _ (known old)
  · rcases List.mem_cons.mp given with rfl | before
    · rw [shown] at head
      obtain rfl : front = first := by simpa using head
      exact Nat.le_refl _
    · exact ordered.frontNewest gift before first head

/-- Cleaning keeps the order as long as it uncovers nothing. -/
theorem clean (ordered : InOrder view) {entries : List ScheduleEntry}
    (same : entries.map ScheduleEntry.frame = view.onscreen.map ScheduleEntry.frame)
    (covers : ∀ front rest, entries = front :: rest →
      view.waiting = [] ∨ front.useCount ≠ 0 ∨ usedEntries rest = []) :
    InOrder { view with onscreen := cleaned view.waiting entries } := by
  refine ordered.reshown (fun frame member => ?_) ?_
  · rw [← same]
    exact ((cleaned_sublist _ _).map _).subset member
  · cases entries with
    | nil => exact Or.inl rfl
    | cons front rest =>
      rcases cleaned_front view.waiting front rest (covers front rest rfl) with nothing | stays
      · exact Or.inl nothing
      · right
        rw [stays, ← List.head?_map, ← same]
        rfl

/-- Every move that uncovers nothing keeps the order. -/
theorem step (ordered : InOrder view) {op : Op} {after : FrameView} (moves : Moves view op after)
    (covers : view.CoversStay op) : InOrder after := by
  have usedFrames (entries : List ScheduleEntry) {frame : Frame}
      (member : frame ∈ (usedEntries entries).map ScheduleEntry.frame) :
      frame ∈ entries.map ScheduleEntry.frame :=
    (List.filter_sublist.map _).subset member
  cases moves with
  | idle => exact ordered
  | submitted id => exact ordered.submit id
  | gaveFront id front rest shown current =>
    have used : InOrder { view with
        onscreen := { front with useCount := front.useCount + 1 } :: usedEntries rest
        users := insert id (if id ∈ view.users then ∅ else view.users) } := by
      refine ordered.reshown (fun frame member => ?_) (Or.inr (by rw [shown]; rfl))
      rw [shown]
      rcases List.mem_cons.mp member with rfl | behind
      · exact List.mem_cons_self
      · exact List.mem_cons_of_mem _ (usedFrames rest behind)
    exact used.give id { front with useCount := front.useCount + 1 } rfl
  | gaveNext id frame tail next moves =>
    have shown := ordered.putOnScreen ⟨frame, 1⟩ tail {id} next
    have used : InOrder { view with
        onscreen := ⟨frame, 1⟩ :: usedEntries view.onscreen, users := {id}, waiting := tail } := by
      refine shown.reshown (fun other member => ?_) (Or.inr rfl)
      rcases List.mem_cons.mp member with rfl | behind
      · exact List.mem_cons_self
      · exact List.mem_cons_of_mem _ (usedFrames view.onscreen behind)
    exact used.give id ⟨frame, 1⟩ rfl
  | released frame entry shown used =>
    split
    · refine ordered.reshown (fun other member => ?_) (Or.inr (takeUse_head _ _))
      rwa [takeUse_frames] at member
    · rename_i behind
      refine ordered.clean (takeUse_frames _ _) fun first others equal => ?_
      have permitted := covers
      simp only [CoversStay, entriesToClean, if_neg behind, equal] at permitted
      exact permitted
  | snapshot front rest shown =>
    refine ordered.clean rfl fun first others equal => ?_
    have permitted := covers
    simp only [CoversStay, entriesToClean, equal] at permitted
    exact permitted
  | snapshotNext frame tail nothing next =>
    have shown := ordered.putOnScreen ⟨frame, 0⟩ tail view.users next
    rw [nothing] at shown
    refine shown.clean rfl fun first others equal => ?_
    obtain ⟨rfl, rfl⟩ := List.cons.inj equal
    exact Or.inr (Or.inr rfl)
  | droppedFrame frame next rest queued =>
    exact ordered.dequeue _ (queued ▸ List.sublist_cons_self _ _)
  | droppedOld older last queued =>
    have flattened := ordered.dequeue [last] (queued ▸ List.sublist_append_right older [last])
    exact flattened.putOnScreen ⟨last, 0⟩ [] ∅ rfl

end InOrder

end FrameView

end Mir.Compositor

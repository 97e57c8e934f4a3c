/-
This file proves that the frames in a stream's hands, scheduled or on screen, are the ones it
had before or the one just submitted: whatever the compositors, the snapshots and the frame
dropping policy do, a frame only moves from the schedule to the screen, or goes.
-/

import Mir.Compositor.Acquisition

namespace Mir.Compositor

/-- The frames that are scheduled and those on screen. -/
def serverFrames (arbiter : MultiMonitorArbiter) (schedule : Schedule) : List Frame :=
  schedule.frames ++ arbiter.onscreenBuffers.map ScheduleEntry.frame

def Stream.serverFrames (stream : Stream) : List Frame :=
  Compositor.serverFrames stream.arbiter stream.schedule

theorem serverFrames_subset {arbiter after : MultiMonitorArbiter} {schedule left : Schedule}
    (scheduled : left.frames ⊆ schedule.frames)
    (shown : after.onscreenBuffers.map ScheduleEntry.frame ⊆
      arbiter.onscreenBuffers.map ScheduleEntry.frame) :
    serverFrames after left ⊆ serverFrames arbiter schedule :=
  List.append_subset.mpr ⟨List.subset_append_of_subset_left _ scheduled,
    List.subset_append_of_subset_right _ shown⟩

/-- Every buffer of the server's is one of a frame. -/
theorem mem_serverBuffers_of_mem_serverFrames {stream : Stream} {frame : Frame}
    (present : frame ∈ stream.serverFrames) : frame.buffer ∈ stream.serverBuffers := by
  rw [Stream.serverBuffers, serverBuffers, map_buffer_eq, ← List.map_append]
  exact List.mem_map_of_mem present

theorem clean_serverFrames (arbiter : MultiMonitorArbiter) (schedule : Schedule) :
    serverFrames (arbiter.clean schedule).1 schedule ⊆ serverFrames arbiter schedule :=
  serverFrames_subset (List.Subset.refl _)
    ((cleanOnscreenBuffers_sublist _ _).map ScheduleEntry.frame).subset

theorem showNext_serverFrames (arbiter : MultiMonitorArbiter) (schedule : Schedule) :
    serverFrames (arbiter.showNext schedule).1 (arbiter.showNext schedule).2 ⊆
      serverFrames arbiter schedule := by
  cases next : schedule.frames with
  | nil =>
    rw [arbiter.showNext_nil schedule next]
    exact List.Subset.refl _
  | cons frame rest =>
    obtain ⟨remaining, shown, left, -⟩ := arbiter.showNext_cons schedule frame rest next
    rw [shown]
    show remaining.frames ++ frame :: arbiter.onscreenBuffers.map ScheduleEntry.frame ⊆
      schedule.frames ++ arbiter.onscreenBuffers.map ScheduleEntry.frame
    rw [next, left]
    exact List.perm_middle.subset

theorem usedEntries_frames (entries : List ScheduleEntry) :
    (usedEntries entries).map ScheduleEntry.frame ⊆ entries.map ScheduleEntry.frame :=
  (List.filter_sublist.map ScheduleEntry.frame).subset

/-- A compositor is given a frame that the server had, and the server has no new one. -/
theorem compositorAcquire_serverFrames {arbiter : MultiMonitorArbiter} {schedule : Schedule}
    {id : CompositorID} {acquired : Acquired} (sync : arbiter.mode = .multiMonitorSync)
    (done : arbiter.compositorAcquire schedule id = .ok acquired) :
    serverFrames acquired.arbiter acquired.schedule ⊆ serverFrames arbiter schedule := by
  rcases arbiter.compositorAcquire_cases schedule id sync with
    ⟨-, -, failed⟩ | ⟨front, rest, onscreen, -, given⟩ |
      ⟨frame, tail, remaining, next, left, -, -, given⟩
  · rw [failed] at done
    cases done
  · rw [given] at done
    cases done
    refine serverFrames_subset (List.Subset.refl _) ?_
    rw [onscreen]
    exact List.cons_subset_cons _ (usedEntries_frames rest)
  · rw [given] at done
    cases done
    show remaining.frames ++
      frame :: (usedEntries arbiter.onscreenBuffers).map ScheduleEntry.frame ⊆
        schedule.frames ++ arbiter.onscreenBuffers.map ScheduleEntry.frame
    rw [next, left]
    refine List.Subset.trans List.perm_middle.subset (List.cons_subset_cons _ ?_)
    exact List.append_subset.mpr ⟨List.subset_append_left _ _,
      List.subset_append_of_subset_right _ (usedEntries_frames _)⟩

theorem decreaseRefcountFor_serverFrames {arbiter : MultiMonitorArbiter} (schedule : Schedule)
    {id : BufferID} {decreased : List ScheduleEntry}
    (taken : decreaseRefcountFor arbiter.onscreenBuffers id = .ok decreased) :
    serverFrames { arbiter with onscreenBuffers := decreased } schedule =
      serverFrames arbiter schedule := by
  rw [serverFrames, serverFrames, decreaseRefcountFor_frames _ _ _ taken]

theorem compositorRelease_serverFrames {arbiter after : MultiMonitorArbiter}
    {schedule : Schedule} {id : BufferID} {sent : List BufferID}
    (sync : arbiter.mode = .multiMonitorSync)
    (done : arbiter.compositorRelease schedule id = .ok (after, sent)) :
    serverFrames after schedule ⊆ serverFrames arbiter schedule := by
  rcases arbiter.compositorRelease_cases schedule id sync with
    ⟨error, failed⟩ | ⟨decreased, taken, ⟨-, released⟩ | ⟨-, released⟩⟩
  · rw [failed] at done
    cases done
  · rw [released] at done
    cases done
    rw [decreaseRefcountFor_serverFrames schedule taken]
    exact List.Subset.refl _
  · rw [released] at done
    cases done
    rw [← decreaseRefcountFor_serverFrames schedule taken]
    exact clean_serverFrames _ schedule

theorem snapshotView_serverFrames (arbiter : MultiMonitorArbiter) (schedule : Schedule) :
    serverFrames (arbiter.snapshotView schedule).1 (arbiter.snapshotView schedule).2 ⊆
      serverFrames arbiter schedule := by
  unfold MultiMonitorArbiter.snapshotView
  split
  · exact showNext_serverFrames arbiter schedule
  · exact List.Subset.refl _

theorem snapshotAcquire_serverFrames {arbiter : MultiMonitorArbiter} {schedule : Schedule}
    {acquired : Acquired} (done : arbiter.snapshotAcquire schedule = .ok acquired) :
    serverFrames acquired.arbiter acquired.schedule ⊆ serverFrames arbiter schedule := by
  refine List.Subset.trans ?_ (snapshotView_serverFrames arbiter schedule)
  unfold MultiMonitorArbiter.snapshotAcquire at done
  split at done
  · cases done
  · simp only at done
    split at done
    · cases done
    · rename_i last rest shown
      cases done
      rw [serverFrames, serverFrames, shown]
      exact List.Subset.refl _

theorem snapshotRelease_serverFrames {arbiter after : MultiMonitorArbiter} {schedule : Schedule}
    {id : BufferID} {sent : List BufferID}
    (done : arbiter.snapshotRelease schedule id = .ok (after, sent)) :
    serverFrames after schedule ⊆ serverFrames arbiter schedule := by
  unfold MultiMonitorArbiter.snapshotRelease at done
  split at done
  · cases done
  · rename_i decreased taken
    rw [Except.ok.injEq] at done
    rw [← decreaseRefcountFor_serverFrames schedule taken,
      ← show (MultiMonitorArbiter.clean { arbiter with onscreenBuffers := decreased }
        schedule).1 = after from congrArg Prod.fst done]
    exact clean_serverFrames _ schedule

theorem advanceSchedule_serverFrames (arbiter : MultiMonitorArbiter) (schedule : Schedule) :
    serverFrames (arbiter.advanceSchedule schedule).1 (arbiter.advanceSchedule schedule).2 ⊆
      serverFrames arbiter schedule := by
  unfold MultiMonitorArbiter.advanceSchedule
  split
  · exact List.Subset.refl _
  · exact showNext_serverFrames arbiter schedule

/-- Scheduling adds the frame that is scheduled. -/
theorem schedule_subset (schedule : Schedule) (frame : Frame) :
    (schedule.schedule frame).1.frames ⊆ frame :: schedule.frames := by
  obtain ⟨-, kept, stays, scheduled⟩ := schedule.schedule_frames frame
  rw [scheduled]
  refine List.append_subset.mpr ⟨List.subset_cons_of_subset _ stays.subset, ?_⟩
  exact List.cons_subset_cons _ (List.nil_subset _)

theorem scheduleAll_subset (schedule : Schedule) (added : List Frame) :
    (schedule.scheduleAll added).1.frames ⊆ schedule.frames ++ added := by
  induction added generalizing schedule with
  | nil => exact List.subset_append_left _ _
  | cons frame rest inductionHypothesis =>
    refine List.Subset.trans (inductionHypothesis (schedule.schedule frame).1) ?_
    refine List.append_subset.mpr ⟨?_, ?_⟩
    · refine List.Subset.trans (schedule_subset schedule frame) ?_
      refine List.cons_subset.mpr ⟨List.mem_append_right _ List.mem_cons_self, ?_⟩
      exact List.subset_append_left _ _
    · exact List.subset_append_of_subset_right _ (List.subset_cons_self _ _)

/-! ### No operation but a submission brings a frame -/

namespace Stream

variable {stream : Stream}

theorem lockCompositorBuffer_serverFrames (id : CompositorID)
    (sync : stream.arbiter.mode = .multiMonitorSync) :
    (stream.lockCompositorBuffer id).stream.serverFrames ⊆ stream.serverFrames := by
  simp only [lockCompositorBuffer]
  cases done : stream.arbiter.compositorAcquire stream.schedule id with
  | error _ => exact List.Subset.refl _
  | ok acquired => exact compositorAcquire_serverFrames sync done

theorem releaseCompositorBuffer_serverFrames (buffer : BufferID)
    (sync : stream.arbiter.mode = .multiMonitorSync) :
    (stream.releaseCompositorBuffer buffer).stream.serverFrames ⊆ stream.serverFrames := by
  simp only [releaseCompositorBuffer]
  cases done : stream.arbiter.compositorRelease stream.schedule buffer with
  | error _ => exact List.Subset.refl _
  | ok released => exact compositorRelease_serverFrames sync done

theorem acquireSnapshot_serverFrames :
    stream.acquireSnapshot.stream.serverFrames ⊆ stream.serverFrames := by
  simp only [acquireSnapshot]
  cases done : stream.arbiter.snapshotAcquire stream.schedule with
  | error _ => exact List.Subset.refl _
  | ok acquired => exact snapshotAcquire_serverFrames done

theorem releaseSnapshot_serverFrames (buffer : BufferID) :
    (stream.releaseSnapshot buffer).stream.serverFrames ⊆ stream.serverFrames := by
  simp only [releaseSnapshot]
  cases done : stream.arbiter.snapshotRelease stream.schedule buffer with
  | error _ => exact List.Subset.refl _
  | ok released => exact snapshotRelease_serverFrames done

theorem withMostRecentBufferDo_serverFrames :
    stream.withMostRecentBufferDo.stream.serverFrames ⊆ stream.serverFrames := by
  simp only [withMostRecentBufferDo]
  cases stream.acquireSnapshot.result with
  | error _ => exact acquireSnapshot_serverFrames
  | ok frame =>
    exact List.Subset.trans (releaseSnapshot_serverFrames frame.buffer)
      acquireSnapshot_serverFrames

theorem transitionSchedule_serverFrames (newSchedule : Schedule)
    (empty : newSchedule.frames = []) :
    (stream.transitionSchedule newSchedule).1.serverFrames ⊆ stream.serverFrames := by
  refine serverFrames_subset ?_ (List.Subset.refl _)
  have moved := scheduleAll_subset newSchedule stream.schedule.frames
  rw [empty, List.nil_append] at moved
  rw [transitionSchedule, Schedule.drain_eq]
  exact moved

theorem allowFramedropping_serverFrames (dropping : Bool) :
    (stream.allowFramedropping dropping).1.serverFrames ⊆ stream.serverFrames := by
  unfold allowFramedropping
  split
  · exact transitionSchedule_serverFrames (.dropping none) rfl
  · split
    · exact transitionSchedule_serverFrames (.queueing []) rfl
    · exact List.Subset.refl _

theorem dropOldBuffers_serverFrames :
    stream.dropOldBuffers.1.serverFrames ⊆ stream.serverFrames := by
  refine List.Subset.trans (advanceSchedule_serverFrames _ _)
    (serverFrames_subset ?_ (List.Subset.refl _))
  rw [Schedule.drain_eq]
  simp only
  split
  · rw [Schedule.frames_emptied]
    exact List.nil_subset _
  · rename_i last isLast
    rw [(stream.schedule.schedule_emptied last).1]
    exact List.cons_subset.mpr ⟨List.mem_of_getLast? isLast, List.nil_subset _⟩

theorem dropFrame_serverFrames : stream.dropFrame.1.serverFrames ⊆ stream.serverFrames := by
  unfold dropFrame
  split
  · cases next : stream.schedule.frames with
    | nil =>
      rw [Schedule.nextBuffer_nil next]
      exact List.Subset.refl _
    | cons frame rest =>
      obtain ⟨remaining, taken, left, -⟩ := Schedule.nextBuffer_cons next
      rw [taken]
      refine serverFrames_subset ?_ (List.Subset.refl _)
      rw [next, left]
      exact List.subset_cons_self _ _
  · exact List.Subset.refl _

theorem destroyStream_serverFrames :
    stream.destroyStream.1.serverFrames ⊆ stream.serverFrames := by
  refine serverFrames_subset ?_ (List.Subset.refl _)
  rw [destroyStream, Schedule.drain_eq, Schedule.frames_emptied]
  exact List.nil_subset _

theorem destroyArbiter_serverFrames :
    stream.destroyArbiter.1.serverFrames ⊆ stream.serverFrames :=
  serverFrames_subset (List.Subset.refl _) (List.nil_subset _)

end Stream

namespace World

variable {world : World}

theorem dropReference_serverFrames :
    world.dropReference.stream.serverFrames ⊆ world.stream.serverFrames := by
  unfold dropReference
  split
  · exact Stream.destroyArbiter_serverFrames
  · exact List.Subset.refl _

theorem release_serverFrames (frame : Frame)
    (sync : world.stream.arbiter.mode = .multiMonitorSync) :
    (world.release frame).stream.serverFrames ⊆ world.stream.serverFrames := by
  unfold release
  split
  · exact List.Subset.trans dropReference_serverFrames
      (Stream.releaseCompositorBuffer_serverFrames frame.buffer sync)
  · exact List.Subset.refl _

theorem endSnapshot_serverFrames (frame : Frame) :
    (world.endSnapshot frame).stream.serverFrames ⊆ world.stream.serverFrames := by
  unfold endSnapshot
  split
  · exact List.Subset.trans dropReference_serverFrames
      (Stream.releaseSnapshot_serverFrames frame.buffer)
  · exact List.Subset.refl _

theorem lock_serverFrames (id : CompositorID)
    (sync : world.stream.arbiter.mode = .multiMonitorSync) :
    (world.lock id).stream.serverFrames ⊆ world.stream.serverFrames := by
  unfold lock
  simp only
  split
  · exact Stream.lockCompositorBuffer_serverFrames id sync
  · exact Stream.lockCompositorBuffer_serverFrames id sync

theorem beginSnapshot_serverFrames :
    world.beginSnapshot.stream.serverFrames ⊆ world.stream.serverFrames := by
  unfold beginSnapshot
  simp only
  split
  · exact Stream.acquireSnapshot_serverFrames
  · exact List.Subset.refl _

/-- Every step but a submission leaves the server with frames that it had. -/
theorem step_serverFrames (sync : world.stream.arbiter.mode = .multiMonitorSync) (op : Op)
    (other : ∀ buffer, op ≠ .submitBuffer buffer) :
    (world.step op).stream.serverFrames ⊆ world.stream.serverFrames := by
  unfold step
  split
  · exact release_serverFrames _ sync
  · exact endSnapshot_serverFrames _
  · exact List.Subset.refl _
  · exact absurd rfl (other _)
  · exact lock_serverFrames _ sync
  · exact Stream.withMostRecentBufferDo_serverFrames
  · exact beginSnapshot_serverFrames
  · exact Stream.allowFramedropping_serverFrames _
  · exact Stream.dropOldBuffers_serverFrames
  · exact Stream.dropFrame_serverFrames
  · exact List.Subset.refl _
  · exact List.Subset.refl _
  · exact List.Subset.trans dropReference_serverFrames Stream.destroyStream_serverFrames

/-- What an operation does to the frames of the server and to the number of submissions. -/
structure Brings (world : World) (op : Op) (after : World) : Prop where
  submissions_le : world.submissions ≤ after.submissions
  frames : ∀ frame ∈ after.stream.serverFrames, frame ∈ world.stream.serverFrames ∨
    (op.submittedBuffer = some frame.buffer ∧ frame.submission = world.submissions ∧
      world.submissions < after.submissions)

/-- Whatever has the server's frames and the submissions brings nothing. -/
theorem brings_nothing {op : Op} {after : World}
    (submissions : after.submissions = world.submissions)
    (frames : after.stream.serverFrames ⊆ world.stream.serverFrames) : world.Brings op after :=
  ⟨Nat.le_of_eq submissions.symm, fun _ present => .inl (frames present)⟩

theorem submit_brings (buffer : Option BufferID) :
    world.Brings (.submitBuffer buffer) (world.submit buffer) := by
  by_cases unknown : ∀ id, buffer = some id → world.stream.buffers.owner id = none
  · obtain ⟨stream, submitted, arbiter, schedule⟩ := world.submit_rejected buffer unknown
    rw [submitted]
    refine brings_nothing rfl ?_
    rw [Stream.serverFrames, Stream.serverFrames, arbiter, schedule]
    exact List.Subset.refl _
  · push Not at unknown
    obtain ⟨id, rfl, known⟩ := unknown
    obtain ⟨stream, submitted, arbiter, schedule⟩ := world.submit_accepted id known
    rw [submitted]
    refine ⟨Nat.le_succ _, fun frame present => ?_⟩
    rw [Stream.serverFrames, serverFrames, arbiter, schedule] at present
    rcases List.mem_append.mp present with scheduled | shown
    · rcases List.mem_cons.mp (schedule_subset _ _ scheduled) with rfl | before
      · exact .inr ⟨rfl, rfl, Nat.lt_succ_self _⟩
      · exact .inl (List.mem_append_left _ before)
    · exact .inl (List.mem_append_right _ shown)

/-- A step brings at most the frame that it submits. -/
theorem step_brings (tracked : Tracked world.stream world.handles) (op : Op) :
    world.Brings op (world.step op) := by
  by_cases submission : ∃ buffer, op = .submitBuffer buffer
  · obtain ⟨buffer, rfl⟩ := submission
    rw [step_submitBuffer]
    split
    · exact submit_brings buffer
    · exact brings_nothing rfl (List.Subset.refl _)
  · push Not at submission
    obtain ⟨-, -, -, submissions⟩ := step_conserves tracked op submission
    exact brings_nothing submissions (step_serverFrames tracked.sync op submission)

end World

end Mir.Compositor

/-
This file proves what holds of a stream as long as no buffer that is on screen is
submitted again: the use count of each entry on screen is the number of handles to
it, so a buffer somebody holds is never sent back.

The invariant is `Tracked`: no buffer is in the server's hands twice, scheduled or
on screen, and the entries on screen are counted by the handles. Each operation
keeps it and moves buffers only from the server to the client, which `Conserves`
states as a permutation: what the server has afterwards, with what was sent, is
what it had before.

The guard is needed. `release` finds an entry by its buffer id alone, so when one
buffer is on screen twice a release is taken off the wrong entry, and a count of
zero wraps.
-/

import Mir.Compositor.Stream
import Mir.Library.RefCount

namespace Mir.Compositor

open RefCount

/-- The buffers in the server's hands: those scheduled and those on screen. -/
def serverBuffers (arbiter : MultiMonitorArbiter) (schedule : Schedule) : List BufferID :=
  schedule.frames.map Frame.buffer ++ arbiter.onscreenBuffers.map ScheduleEntry.buffer

/-- The buffers of a stream in the server's hands. -/
def Stream.serverBuffers (stream : Stream) : List BufferID :=
  Compositor.serverBuffers stream.arbiter stream.schedule

/-- No buffer is with the server twice, and the entries on screen count the handles. -/
structure Tracked (stream : Stream) (held : List Frame) : Prop where
  sync : stream.arbiter.mode = .multiMonitorSync
  distinct : stream.serverBuffers.Nodup
  counted : Counted ScheduleEntry.frame ScheduleEntry.useCount stream.arbiter.onscreenBuffers held

/-- An operation that takes nothing from the client: the invariant holds afterwards, and what
left the server was sent. -/
structure Conserves (before after : Stream) (sent : List BufferID) (held : List Frame) :
    Prop where
  tracked : Tracked after held
  flow : (after.serverBuffers ++ sent).Perm before.serverBuffers

namespace Tracked

variable {stream : Stream} {held : List Frame}

theorem onscreen_nodup (tracked : Tracked stream held) :
    (stream.arbiter.onscreenBuffers.map ScheduleEntry.buffer).Nodup :=
  (List.nodup_append.mp tracked.distinct).2.1

theorem scheduled_nodup (tracked : Tracked stream held) :
    (stream.schedule.frames.map Frame.buffer).Nodup :=
  (List.nodup_append.mp tracked.distinct).1

/-- A frame that waits is not on screen. -/
theorem scheduled_ne (tracked : Tracked stream held) {frame : Frame} {entry : ScheduleEntry}
    (waiting : frame ∈ stream.schedule.frames)
    (shown : entry ∈ stream.arbiter.onscreenBuffers) : entry.buffer ≠ frame.buffer := by
  intro same
  exact (List.nodup_append.mp tracked.distinct).2.2 _ (List.mem_map_of_mem waiting) _
    (List.mem_map_of_mem shown) same.symm

/-- A frame that waits is held by nobody. -/
theorem scheduled_not_held (tracked : Tracked stream held) {frame : Frame}
    (waiting : frame ∈ stream.schedule.frames) : frame ∉ held := by
  intro member
  obtain ⟨entry, shown, same⟩ := List.mem_map.mp (tracked.counted.listed frame member)
  exact tracked.scheduled_ne waiting shown (congrArg Frame.buffer same)

/-- A held frame's buffer is on screen. -/
theorem held_onscreen (tracked : Tracked stream held) {frame : Frame} (member : frame ∈ held) :
    frame.buffer ∈ stream.arbiter.onscreenBuffers.map ScheduleEntry.buffer := by
  obtain ⟨entry, shown, rfl⟩ := List.mem_map.mp (tracked.counted.listed frame member)
  exact List.mem_map_of_mem shown

/-- An operation that moves buffers to the client and keeps the counts right keeps the
invariant. -/
theorem conserves (tracked : Tracked stream held) {after : Stream} {sent : List BufferID}
    {heldAfter : List Frame} (sync : after.arbiter.mode = .multiMonitorSync)
    (flow : (after.serverBuffers ++ sent).Perm stream.serverBuffers)
    (counted : Counted ScheduleEntry.frame ScheduleEntry.useCount after.arbiter.onscreenBuffers
      heldAfter) :
    Conserves stream after sent heldAfter where
  tracked :=
    ⟨sync, (flow.nodup_iff.mpr tracked.distinct).sublist (List.sublist_append_left _ _), counted⟩
  flow := flow

/-- Doing nothing sends nothing. -/
theorem unchanged (tracked : Tracked stream held) : Conserves stream stream [] held :=
  tracked.conserves tracked.sync (by rw [List.append_nil]) tracked.counted

end Tracked

/-- After an operation nothing that was sent is held. -/
theorem Conserves.not_held {before after : Stream} {sent : List BufferID} {held : List Frame}
    (conserves : Conserves before after sent held) (distinct : before.serverBuffers.Nodup)
    {frame : Frame} (member : frame ∈ held) : frame.buffer ∉ sent := by
  intro back
  have disjoint := (List.nodup_append.mp (conserves.flow.nodup_iff.mpr distinct)).2.2
  exact disjoint _ (List.mem_append_right _ (conserves.tracked.held_onscreen member)) _ back rfl

/-- Two operations, one after the other. -/
theorem Conserves.trans {first second third : Stream} {sent sentLater : List BufferID}
    {held heldLater : List Frame} (one : Conserves first second sent held)
    (two : Conserves second third sentLater heldLater) :
    Conserves first third (sent ++ sentLater) heldLater where
  tracked := two.tracked
  flow := by
    refine List.Perm.trans ?_ ((two.flow.append_right sent).trans one.flow)
    rw [List.append_assoc]
    exact List.perm_append_comm.append_left _

/-! ### The moves of the arbiter -/

/-- Putting the next frame on screen keeps it with the server. -/
theorem serverBuffers_show (schedule remaining : Schedule) (arbiter : MultiMonitorArbiter)
    (frame : Frame) (rest : List Frame) (users : Finset CompositorID)
    (next : schedule.frames = frame :: rest) (left : remaining.frames = rest) :
    (serverBuffers ⟨arbiter.mode, ⟨frame, 0⟩ :: arbiter.onscreenBuffers, users⟩ remaining).Perm
      (serverBuffers arbiter schedule) := by
  simp only [serverBuffers, next, left, List.map_cons]
  exact List.perm_middle

/-- Cleaning sends what it removes. -/
theorem serverBuffers_clean (arbiter : MultiMonitorArbiter) (schedule : Schedule) :
    (serverBuffers (arbiter.clean schedule).1 schedule ++ (arbiter.clean schedule).2).Perm
      (serverBuffers arbiter schedule) := by
  simp only [serverBuffers, MultiMonitorArbiter.clean, List.append_assoc]
  exact (cleanOnscreenBuffers_flow _ _).append_left _

theorem counted_clean (arbiter : MultiMonitorArbiter) (schedule : Schedule) (held : List Frame)
    (counted : Counted ScheduleEntry.frame ScheduleEntry.useCount arbiter.onscreenBuffers held) :
    Counted ScheduleEntry.frame ScheduleEntry.useCount
      (arbiter.clean schedule).1.onscreenBuffers held :=
  counted.drop_unused (cleanOnscreenBuffers_sublist _ _)
    fun entry member used => cleanOnscreenBuffers_keeps _ _ entry member used

/-- Using an entry less does not move its buffer. -/
theorem serverBuffers_takeUse (arbiter : MultiMonitorArbiter) (schedule : Schedule)
    (id : BufferID) :
    serverBuffers { arbiter with onscreenBuffers := takeUse id arbiter.onscreenBuffers } schedule =
      serverBuffers arbiter schedule := by
  rw [serverBuffers, serverBuffers, takeUse_buffers]

/-- One handle less: the count of its entry goes down by one. -/
theorem counted_takeUse {entries : List ScheduleEntry} {held : List Frame} {frame : Frame}
    (counted : Counted ScheduleEntry.frame ScheduleEntry.useCount entries held)
    (distinct : (entries.map ScheduleEntry.buffer).Nodup) (member : frame ∈ held) :
    Counted ScheduleEntry.frame ScheduleEntry.useCount (takeUse frame.buffer entries)
      (held.erase frame) := by
  obtain ⟨holder, shown, same⟩ := List.mem_map.mp (counted.listed frame member)
  have only (entry : ScheduleEntry) (present : entry ∈ entries)
      (equal : entry.buffer = frame.buffer) : entry = holder :=
    List.inj_on_of_nodup_map distinct present shown (equal.trans (congrArg Frame.buffer same).symm)
  refine counted.release (fun entry _ => ?_) (fun entry present equal => ?_)
    fun entry present different => ?_
  · split <;> rfl
  · have positive : entry.useCount ≠ 0 := (counted.mem_held_iff present).mp (equal ▸ member)
    have found : entry.buffer = frame.buffer := congrArg Frame.buffer equal
    rw [if_pos found, unsignedSub_of_le (Nat.pos_of_ne_zero positive)]
  · rw [if_neg]
    intro equal
    exact different (by rw [only entry present equal, same])

/-! ### The operations of the stream -/

namespace Tracked

variable {stream : Stream} {held : List Frame}

/-- A compositor that is given a buffer holds one more handle. -/
theorem acquire (tracked : Tracked stream held) (id : CompositorID) {acquired : Acquired}
    (done : stream.arbiter.compositorAcquire stream.schedule id = .ok acquired) :
    acquired.arbiter.mode = .multiMonitorSync ∧
      (serverBuffers acquired.arbiter acquired.schedule ++ acquired.sent).Perm
        stream.serverBuffers ∧
      Counted ScheduleEntry.frame ScheduleEntry.useCount acquired.arbiter.onscreenBuffers
        (acquired.frame :: held) := by
  -- Once the frame to give is at the front, it is used once more and the rest is cleaned.
  have give (front : ScheduleEntry) (rest : List ScheduleEntry)
      (distinct : ((front :: rest).map ScheduleEntry.buffer).Nodup)
      (counted : Counted ScheduleEntry.frame ScheduleEntry.useCount (front :: rest) held) :
      Counted ScheduleEntry.frame ScheduleEntry.useCount
        ({ front with useCount := front.useCount + 1 } :: usedEntries rest)
        (front.frame :: held) := by
    have alone : front.frame ∉ rest.map ScheduleEntry.frame := by
      intro present
      refine (List.nodup_cons.mp distinct).1 ?_
      rw [map_buffer_eq]
      exact List.mem_map_of_mem present
    refine (counted.acquire_front { front with useCount := front.useCount + 1 } rfl rfl
      alone).drop_unused (List.filter_sublist.cons_cons _) fun entry present used => ?_
    rcases List.mem_cons.mp present with rfl | behind
    · exact List.mem_cons_self
    · exact List.mem_cons_of_mem _ (mem_usedEntries.mpr ⟨behind, used⟩)
  -- Using the front entry does not change its buffer.
  have flow (front : ScheduleEntry) (rest : List ScheduleEntry) (users : Finset CompositorID)
      (left : Schedule) :
      (serverBuffers (stream.arbiter.afterAcquire front rest users) left ++
        unusedBuffers rest).Perm
        (left.frames.map Frame.buffer ++ (front :: rest).map ScheduleEntry.buffer) := by
    rw [serverBuffers, List.append_assoc]
    exact ((usedEntries_flow rest).cons front.buffer).append_left _
  rcases stream.arbiter.compositorAcquire_cases stream.schedule id tracked.sync with
    ⟨_, _, failed⟩ | ⟨front, rest, onscreen, _, given⟩ |
      ⟨frame, tail, remaining, next, left, _, _, given⟩
  · rw [failed] at done
    cases done
  · rw [given] at done
    cases done
    refine ⟨tracked.sync, ?_, give front rest (onscreen ▸ tracked.onscreen_nodup)
      (onscreen ▸ tracked.counted)⟩
    have before : stream.serverBuffers =
        stream.schedule.frames.map Frame.buffer ++ (front :: rest).map ScheduleEntry.buffer := by
      rw [Stream.serverBuffers, serverBuffers, onscreen]
    rw [before]
    exact flow front rest _ stream.schedule
  · rw [given] at done
    cases done
    have waiting : frame ∈ stream.schedule.frames := next ▸ List.mem_cons_self
    refine ⟨tracked.sync, ?_, give ⟨frame, 0⟩ stream.arbiter.onscreenBuffers ?_
      (tracked.counted.cons_fresh rfl (tracked.scheduled_not_held waiting))⟩
    · exact (flow ⟨frame, 0⟩ stream.arbiter.onscreenBuffers {id} remaining).trans
        (serverBuffers_show stream.schedule remaining stream.arbiter frame tail {id} next left)
    · refine List.nodup_cons.mpr ⟨fun present => ?_, tracked.onscreen_nodup⟩
      obtain ⟨entry, shown, same⟩ := List.mem_map.mp present
      exact tracked.scheduled_ne waiting shown same

/-- A handle that is destroyed is one less, and its buffer goes back if it was the last. -/
theorem release (tracked : Tracked stream held) {frame : Frame} (member : frame ∈ held) :
    ∃ arbiter sent, stream.arbiter.compositorRelease stream.schedule frame.buffer =
        .ok (arbiter, sent) ∧
      arbiter.mode = .multiMonitorSync ∧
      (serverBuffers arbiter stream.schedule ++ sent).Perm stream.serverBuffers ∧
      Counted ScheduleEntry.frame ScheduleEntry.useCount arbiter.onscreenBuffers
        (held.erase frame) := by
  have counted := counted_takeUse tracked.counted tracked.onscreen_nodup member
  have released := stream.arbiter.compositorRelease_of_nodup stream.schedule frame.buffer
    tracked.sync tracked.onscreen_nodup (tracked.held_onscreen member)
  have same := serverBuffers_takeUse stream.arbiter stream.schedule frame.buffer
  split at released
  · refine ⟨_, _, released, tracked.sync, ?_, counted_clean _ _ _ counted⟩
    rw [Stream.serverBuffers, ← same]
    exact serverBuffers_clean _ _
  · refine ⟨_, _, released, tracked.sync, ?_, counted⟩
    rw [same, List.append_nil]
    exact List.Perm.refl _

/-- A snapshot that is given a buffer holds one more handle and sends nothing. -/
theorem acquireSnapshot (tracked : Tracked stream held) {frame : Frame}
    (done : stream.acquireSnapshot.result = .ok frame) :
    Conserves stream stream.acquireSnapshot.stream stream.acquireSnapshot.sent
      (frame :: held) := by
  -- With the frame at the front, the handle is one more use of it and nothing else changes.
  have give (front : ScheduleEntry) (rest : List ScheduleEntry) (left : Schedule)
      (flow : (left.frames.map Frame.buffer ++ (front :: rest).map ScheduleEntry.buffer).Perm
        stream.serverBuffers)
      (counted : Counted ScheduleEntry.frame ScheduleEntry.useCount (front :: rest) held) :
      Conserves stream
        { stream with
          arbiter :=
            { stream.arbiter with
              onscreenBuffers := { front with useCount := front.useCount + 1 } :: rest }
          schedule := left } [] (front.frame :: held) := by
    refine tracked.conserves tracked.sync ?_ (counted.acquire_front _ rfl rfl fun present => ?_)
    · rw [List.append_nil]
      exact flow
    · have alone := (List.nodup_append.mp (flow.nodup_iff.mpr tracked.distinct)).2.1
      rw [map_buffer_eq, List.map_cons] at alone
      exact (List.nodup_cons.mp alone).1 (List.mem_map_of_mem present)
  unfold Stream.acquireSnapshot MultiMonitorArbiter.snapshotAcquire
    MultiMonitorArbiter.snapshotView at done ⊢
  cases onscreen : stream.arbiter.onscreenBuffers with
  | nil =>
    cases next : stream.schedule.frames with
    | nil => simp [onscreen, next] at done
    | cons first rest =>
      obtain ⟨remaining, shown, left, -⟩ :=
        stream.arbiter.showNext_cons stream.schedule first rest next
      simp only [onscreen, Schedule.numScheduled_eq, next, List.length_cons, Nat.succ_ne_zero,
        and_false, if_false, if_true, shown, Except.ok.injEq] at done ⊢
      subst done
      refine give ⟨first, 0⟩ [] remaining ?_ (onscreen ▸ tracked.counted.cons_fresh rfl ?_)
      · have flow := serverBuffers_show stream.schedule remaining stream.arbiter first rest ∅
          next left
        rwa [onscreen] at flow
      · exact tracked.scheduled_not_held (next ▸ List.mem_cons_self)
  | cons front rest =>
    simp only [onscreen, reduceCtorEq, false_and, if_false, Except.ok.injEq] at done ⊢
    subst done
    refine give front rest stream.schedule ?_ (onscreen ▸ tracked.counted)
    rw [← onscreen]
    exact List.Perm.refl _

/-- A snapshot that lets go of a buffer cleans, whatever buffer it was. -/
theorem releaseSnapshot (tracked : Tracked stream held) {frame : Frame} (member : frame ∈ held) :
    Conserves stream (stream.releaseSnapshot frame.buffer).stream
      (stream.releaseSnapshot frame.buffer).sent (held.erase frame) := by
  have counted := counted_takeUse tracked.counted tracked.onscreen_nodup member
  have taken := decreaseRefcountFor_of_nodup frame.buffer _ tracked.onscreen_nodup
    (tracked.held_onscreen member)
  simp only [Stream.releaseSnapshot, MultiMonitorArbiter.snapshotRelease, taken]
  refine tracked.conserves tracked.sync ?_ (counted_clean _ _ _ counted)
  have flow := serverBuffers_clean
    { stream.arbiter with
      onscreenBuffers := takeUse frame.buffer stream.arbiter.onscreenBuffers } stream.schedule
  rw [serverBuffers_takeUse] at flow
  exact flow

/-- An operation on the schedule alone. -/
theorem reschedule (tracked : Tracked stream held) {after : Stream} {sent : List BufferID}
    (arbiter : after.arbiter = stream.arbiter)
    (flow : (after.schedule.frames.map Frame.buffer ++ sent).Perm
      (stream.schedule.frames.map Frame.buffer)) :
    Conserves stream after sent held := by
  refine tracked.conserves (arbiter ▸ tracked.sync) ?_ (arbiter ▸ tracked.counted)
  rw [Stream.serverBuffers, Stream.serverBuffers, serverBuffers, serverBuffers, arbiter]
  refine List.Perm.trans ?_ (flow.append_right _)
  rw [List.append_assoc, List.append_assoc]
  exact List.perm_append_comm.append_left _

/-- An operation that touches neither the arbiter nor the schedule. -/
theorem untouched (tracked : Tracked stream held) {after : Stream}
    (arbiter : after.arbiter = stream.arbiter) (schedule : after.schedule = stream.schedule) :
    Conserves stream after [] held :=
  tracked.reschedule arbiter (by rw [schedule, List.append_nil])

/-- Moving the schedule on sends nothing. -/
theorem advanceSchedule (tracked : Tracked stream held) :
    Conserves stream
      { stream with
        arbiter := (stream.arbiter.advanceSchedule stream.schedule).1
        schedule := (stream.arbiter.advanceSchedule stream.schedule).2 } [] held := by
  cases next : stream.schedule.frames with
  | nil =>
    simp only [MultiMonitorArbiter.advanceSchedule, Schedule.numScheduled_eq, next,
      List.length_nil, if_true]
    exact tracked.unchanged
  | cons frame rest =>
    obtain ⟨remaining, shown, left, -⟩ :=
      stream.arbiter.showNext_cons stream.schedule frame rest next
    simp only [MultiMonitorArbiter.advanceSchedule, Schedule.numScheduled_eq, next,
      List.length_cons, Nat.succ_ne_zero, if_false, shown]
    refine tracked.conserves tracked.sync ?_ (tracked.counted.cons_fresh rfl
      (tracked.scheduled_not_held (next ▸ List.mem_cons_self)))
    rw [List.append_nil]
    exact serverBuffers_show stream.schedule remaining stream.arbiter frame rest ∅ next left

theorem transitionSchedule (tracked : Tracked stream held) (newSchedule : Schedule)
    (empty : newSchedule.frames = []) :
    Conserves stream (stream.transitionSchedule newSchedule).1
      (stream.transitionSchedule newSchedule).2 held := by
  refine tracked.reschedule rfl ?_
  have moved := Schedule.scheduleAll_flow newSchedule stream.schedule.frames
    (by simpa [empty] using tracked.scheduled_nodup)
  simpa [Stream.transitionSchedule, Schedule.drain_eq, empty] using moved

theorem allowFramedropping (tracked : Tracked stream held) (dropping : Bool) :
    Conserves stream (stream.allowFramedropping dropping).1
      (stream.allowFramedropping dropping).2 held := by
  unfold Stream.allowFramedropping
  split
  · have moved := tracked.transitionSchedule (.dropping none) rfl
    exact ⟨⟨moved.tracked.sync, moved.tracked.distinct, moved.tracked.counted⟩, moved.flow⟩
  · split
    · have moved := tracked.transitionSchedule (.queueing []) rfl
      exact ⟨⟨moved.tracked.sync, moved.tracked.distinct, moved.tracked.counted⟩, moved.flow⟩
    · exact tracked.unchanged

/-- Flattening the queue sends all but its last buffer and puts that on screen. -/
theorem dropOldBuffers (tracked : Tracked stream held) :
    Conserves stream stream.dropOldBuffers.1 stream.dropOldBuffers.2 held := by
  rcases List.eq_nil_or_concat stream.schedule.frames with nothing | ⟨older, last, queued⟩
  · have idle : stream.dropOldBuffers = (stream, []) := by
      simp [Stream.dropOldBuffers, Schedule.drain_eq, nothing,
        MultiMonitorArbiter.advanceSchedule, Schedule.emptied_eq_self nothing,
        BufferMap.sendBuffers]
    rw [idle]
    exact tracked.unchanged
  · rw [List.concat_eq_append] at queued
    obtain ⟨left, quiet⟩ := stream.schedule.schedule_emptied last
    have flattened : Conserves stream
        { stream with
          schedule := (stream.schedule.emptied.schedule last).1
          buffers := stream.buffers.sendBuffers (older.map Frame.buffer) }
        (older.map Frame.buffer) held := by
      refine tracked.reschedule rfl ?_
      simp only [left, queued, List.map_append, List.map_cons, List.map_nil]
      exact List.perm_append_comm
    have advanced := flattened.trans flattened.tracked.advanceSchedule
    rw [List.append_nil] at advanced
    simpa [Stream.dropOldBuffers, Schedule.drain_eq, queued, quiet] using advanced

theorem dropFrame (tracked : Tracked stream held) :
    Conserves stream stream.dropFrame.1 stream.dropFrame.2 held := by
  unfold Stream.dropFrame
  split
  · cases next : stream.schedule.frames with
    | nil =>
      rw [Schedule.nextBuffer_nil next]
      exact tracked.unchanged
    | cons frame rest =>
      obtain ⟨remaining, taken, left, -⟩ := Schedule.nextBuffer_cons next
      rw [taken]
      refine tracked.reschedule rfl ?_
      simp only [left, next, List.map_cons]
      exact List.perm_append_singleton _ _
  · exact tracked.unchanged

theorem destroyStream (tracked : Tracked stream held) :
    Conserves stream stream.destroyStream.1 stream.destroyStream.2 held := by
  refine tracked.reschedule rfl ?_
  simp [Stream.destroyStream, Schedule.drain_eq]

/-- When nobody holds a handle, every entry on screen is unused and goes back. -/
theorem destroyArbiter (tracked : Tracked stream []) :
    Conserves stream stream.destroyArbiter.1 stream.destroyArbiter.2 [] := by
  have unused : stream.arbiter.onscreenBuffers.filter (fun entry => entry.useCount = 0) =
      stream.arbiter.onscreenBuffers := by
    refine List.filter_eq_self.mpr fun entry member => ?_
    rw [tracked.counted.counts entry member]
    rfl
  refine tracked.conserves tracked.sync ?_ Counted.nil
  simp only [Stream.destroyArbiter, MultiMonitorArbiter.destroyed, Stream.serverBuffers,
    serverBuffers, unused, List.map_nil, List.append_nil]
  exact List.Perm.refl _

end Tracked

/-! ### The system -/

namespace World

/-- A step of the system that takes nothing from the client. -/
def Conserves (before after : World) : Prop :=
  ∃ sent, Compositor.Conserves before.stream after.stream sent after.handles ∧
    after.trace = recordSent before.trace sent ∧ after.submissions = before.submissions

theorem recordSent_recordSent (trace : List Event) (first second : List BufferID) :
    recordSent (recordSent trace first) second = recordSent trace (first ++ second) := by
  simp [recordSent]

theorem Conserves.tracked {before after : World} (conserves : before.Conserves after) :
    Tracked after.stream after.handles :=
  let ⟨_, kept, _⟩ := conserves
  kept.tracked

theorem Conserves.trans {first second third : World} (one : first.Conserves second)
    (two : second.Conserves third) : first.Conserves third := by
  obtain ⟨sent, conserves, trace, submissions⟩ := one
  obtain ⟨sentLater, conservesLater, traceLater, submissionsLater⟩ := two
  exact ⟨sent ++ sentLater, conserves.trans conservesLater,
    by rw [traceLater, trace, recordSent_recordSent], submissionsLater.trans submissions⟩

variable {world : World}

theorem conserves_refl (tracked : Tracked world.stream world.handles) : world.Conserves world :=
  ⟨[], tracked.unchanged, rfl, rfl⟩

/-- The arbiter goes when the last handle does, and takes nothing with it. -/
theorem dropReference_conserves (tracked : Tracked world.stream world.handles) :
    world.Conserves world.dropReference := by
  unfold dropReference
  split
  · rename_i gone
    have destroyed := (gone.2 ▸ tracked : Tracked world.stream []).destroyArbiter
    exact ⟨_, gone.2.symm ▸ destroyed, rfl, rfl⟩
  · exact conserves_refl tracked

theorem lock_conserves (tracked : Tracked world.stream world.handles) (id : CompositorID) :
    world.Conserves (world.lock id) := by
  simp only [lock, Stream.lockCompositorBuffer]
  cases done : world.stream.arbiter.compositorAcquire world.stream.schedule id with
  | error _ => exact ⟨[], tracked.untouched rfl rfl, rfl, rfl⟩
  | ok acquired =>
    obtain ⟨sync, flow, counted⟩ := tracked.acquire id done
    exact ⟨acquired.sent, tracked.conserves sync flow counted, rfl, rfl⟩

theorem release_conserves (tracked : Tracked world.stream world.handles) (frame : Frame) :
    world.Conserves (world.release frame) := by
  unfold release
  split
  · rename_i member
    obtain ⟨arbiter, sent, released, sync, flow, counted⟩ :=
      tracked.release (List.mem_append_left world.snapshots member)
    rw [handles, List.erase_append_left _ member] at counted
    simp only [Stream.releaseCompositorBuffer, released]
    have taken : world.Conserves
        { world.after
            { world.stream with
              arbiter := arbiter
              buffers := world.stream.buffers.sendBuffers sent } sent with
          held := world.held.erase frame } :=
      ⟨sent, tracked.conserves sync flow counted, rfl, rfl⟩
    exact taken.trans (dropReference_conserves taken.tracked)
  · exact conserves_refl tracked

theorem beginSnapshot_conserves (tracked : Tracked world.stream world.handles) :
    world.Conserves world.beginSnapshot := by
  simp only [beginSnapshot]
  cases done : world.stream.acquireSnapshot.result with
  | error _ => exact conserves_refl tracked
  | ok frame =>
    have acquired := tracked.acquireSnapshot done
    have moved : (frame :: (world.held ++ world.snapshots)).Perm
        (world.held ++ frame :: world.snapshots) := List.perm_middle.symm
    have counted := acquired.tracked.counted.perm moved
    exact ⟨_, ⟨⟨acquired.tracked.sync, acquired.tracked.distinct, counted⟩, acquired.flow⟩, rfl,
      rfl⟩

theorem endSnapshot_conserves (tracked : Tracked world.stream world.handles) (frame : Frame) :
    world.Conserves (world.endSnapshot frame) := by
  unfold endSnapshot
  split
  · rename_i member
    have released := tracked.releaseSnapshot (List.mem_append_right world.held member)
    have swapped : ((world.held ++ world.snapshots).erase frame).Perm
        (world.held ++ world.snapshots.erase frame) := by
      refine (List.perm_append_comm.erase frame).trans ?_
      rw [List.erase_append_left _ member]
      exact List.perm_append_comm
    have counted := released.tracked.counted.perm swapped
    have taken : world.Conserves
        { world.after (world.stream.releaseSnapshot frame.buffer).stream
            (world.stream.releaseSnapshot frame.buffer).sent with
          snapshots := world.snapshots.erase frame } :=
      ⟨_, ⟨⟨released.tracked.sync, released.tracked.distinct, counted⟩, released.flow⟩, rfl, rfl⟩
    exact taken.trans (dropReference_conserves taken.tracked)
  · exact conserves_refl tracked

/-- A snapshot that is taken and released in one go. -/
theorem withMostRecentBufferDo_conserves (tracked : Tracked world.stream world.handles) :
    world.Conserves (world.after world.stream.withMostRecentBufferDo.stream
      world.stream.withMostRecentBufferDo.sent) := by
  simp only [Stream.withMostRecentBufferDo]
  cases done : world.stream.acquireSnapshot.result with
  | error error =>
    have idle : world.stream.acquireSnapshot.stream = world.stream ∧
        world.stream.acquireSnapshot.sent = [] := by
      unfold Stream.acquireSnapshot at done ⊢
      split <;> simp_all
    rw [idle.1, idle.2]
    exact conserves_refl tracked
  | ok frame =>
    have acquired := tracked.acquireSnapshot done
    have released := acquired.tracked.releaseSnapshot List.mem_cons_self
    rw [List.erase_cons_head] at released
    exact ⟨_, acquired.trans released, rfl, rfl⟩

/-- Every step but a submission moves buffers only from the server to the client. -/
theorem step_conserves (tracked : Tracked world.stream world.handles) (op : Op)
    (other : ∀ buffer, op ≠ .submitBuffer buffer) : world.Conserves (world.step op) := by
  unfold step
  split
  · exact release_conserves tracked _
  · exact endSnapshot_conserves tracked _
  · exact conserves_refl tracked
  · exact absurd rfl (other _)
  · exact lock_conserves tracked _
  · exact withMostRecentBufferDo_conserves tracked
  · exact beginSnapshot_conserves tracked
  · exact ⟨_, tracked.allowFramedropping _, rfl, rfl⟩
  · exact ⟨_, tracked.dropOldBuffers, rfl, rfl⟩
  · exact ⟨_, tracked.dropFrame, rfl, rfl⟩
  · exact ⟨[], tracked.untouched rfl rfl, rfl, rfl⟩
  · exact ⟨[], tracked.untouched rfl rfl, rfl, rfl⟩
  · have destroyed := tracked.destroyStream
    have gone : world.Conserves
        { world.after world.stream.destroyStream.1 world.stream.destroyStream.2 with
          streamAlive := false } := ⟨_, destroyed, rfl, rfl⟩
    exact gone.trans (dropReference_conserves destroyed.tracked)

/-- A submission that is refused leaves the server's buffers and the trace alone. -/
theorem submit_rejected (world : World) (buffer : Option BufferID)
    (unknown : ∀ id, buffer = some id → world.stream.buffers.owner id = none) :
    ∃ stream, world.submit buffer = { world with stream := stream } ∧
      stream.arbiter = world.stream.arbiter ∧ stream.schedule = world.stream.schedule := by
  obtain ⟨error, failed, -, arbiter, schedule⟩ :=
    world.stream.submitBuffer_rejected buffer world.submissions unknown
  refine ⟨_, ?_, arbiter, schedule⟩
  simp only [submit, failed]

/-- A submission that is accepted schedules a frame with its own number. -/
theorem submit_accepted (world : World) (id : BufferID)
    (known : world.stream.buffers.owner id ≠ none) :
    ∃ stream, world.submit (some id) =
        { world with
          stream := stream
          trace := recordSent (.submitted id :: world.trace)
            (world.stream.schedule.schedule ⟨id, world.submissions⟩).2
          submissions := world.submissions + 1 } ∧
      stream.arbiter = world.stream.arbiter ∧
      stream.schedule = (world.stream.schedule.schedule ⟨id, world.submissions⟩).1 := by
  obtain ⟨done, sent, arbiter, schedule⟩ :=
    world.stream.submitBuffer_accepted id world.submissions known
  refine ⟨_, ?_, arbiter, schedule⟩
  simp only [submit, done, sent]

/-- Submitting a buffer that is not on screen keeps the invariant. -/
theorem submit_tracked (tracked : Tracked world.stream world.handles) (buffer : Option BufferID)
    (offscreen : ∀ id, buffer = some id → id ∉ world.onscreen.map ScheduleEntry.buffer) :
    Tracked (world.submit buffer).stream (world.submit buffer).handles := by
  by_cases unknown : ∀ id, buffer = some id → world.stream.buffers.owner id = none
  · obtain ⟨stream, submitted, arbiter, schedule⟩ := world.submit_rejected buffer unknown
    rw [submitted]
    exact (tracked.untouched arbiter schedule).tracked
  · push Not at unknown
    obtain ⟨id, rfl, known⟩ := unknown
    obtain ⟨stream, submitted, arbiter, schedule⟩ := world.submit_accepted id known
    rw [submitted]
    refine ⟨arbiter ▸ tracked.sync, ?_, arbiter ▸ tracked.counted⟩
    rw [Stream.serverBuffers, serverBuffers, arbiter, schedule]
    by_cases again : id ∈ world.stream.schedule.frames.map Frame.buffer
    · have moved := (world.stream.schedule.schedule_again ⟨id, world.submissions⟩ again).1
      exact (moved.append_right _).nodup_iff.mpr tracked.distinct
    · have flow := (world.stream.schedule.schedule_flow ⟨id, world.submissions⟩ again).append_right
        (world.stream.arbiter.onscreenBuffers.map ScheduleEntry.buffer)
      have fresh : ((world.stream.schedule.frames.map Frame.buffer ++ [id]) ++
          world.stream.arbiter.onscreenBuffers.map ScheduleEntry.buffer).Nodup := by
        rw [List.append_assoc, List.singleton_append]
        refine (List.perm_middle.nodup_iff).mpr (List.nodup_cons.mpr ⟨?_, tracked.distinct⟩)
        rw [List.mem_append, not_or]
        exact ⟨again, offscreen id rfl⟩
      refine (flow.nodup_iff.mpr fresh).sublist ?_
      exact (List.sublist_append_left _ _).append_right _

end World

/-! ### Use counts of every run -/

/-- The client may submit any buffer of its map, at any time. -/
def SubmitsKnown (world : World) (op : Op) : Prop :=
  ∀ id ∈ op.submittedBuffer, world.stream.buffers.owner id ≠ none

/-- No buffer is submitted while it is on screen. -/
def SubmitsOffscreen (world : World) (op : Op) : Prop :=
  ∀ id ∈ op.submittedBuffer, id ∉ world.onscreen.map ScheduleEntry.buffer

instance (world : World) : DecidablePred (SubmitsKnown world) :=
  fun op => inferInstanceAs (Decidable (∀ id ∈ op.submittedBuffer, _))

instance (world : World) : DecidablePred (SubmitsOffscreen world) :=
  fun op => inferInstanceAs (Decidable (∀ id ∈ op.submittedBuffer, _))

/-- The use count of every entry is the number of outstanding acquisitions of that entry. -/
def UseCountsExact (world : World) : Prop :=
  ∀ entry ∈ world.onscreen, entry.useCount = world.handles.count entry.frame

/-- Whichever handle goes next, the count its release is taken off is not zero. -/
def UseCountsNeverWrap (world : World) : Prop :=
  ∀ frame ∈ world.handles, ∃ entry, entry.useCount ≠ 0 ∧
    world.onscreen.find? (fun other => other.buffer = frame.buffer) = some entry

/-- The buffers sent back between two states of a run. -/
def sentBetween (before after : World) : List BufferID :=
  (after.trace.take (after.trace.length - before.trace.length)).filterMap fun
    | .sent buffer => some buffer
    | .submitted _ => none

/-- No step sends back a buffer that is held after it. -/
def HeldBuffersStay (before after : World) : Prop :=
  ∀ frame ∈ after.handles, frame.buffer ∉ sentBetween before after

theorem sentBetween_recordSent (before after : World) (taken : List Event)
    (sent : List BufferID) (submissions : ∀ event ∈ taken, ∃ buffer, event = .submitted buffer)
    (trace : after.trace = World.recordSent (taken ++ before.trace) sent) :
    sentBetween before after = sent.reverse := by
  have length : after.trace.length - before.trace.length = sent.length + taken.length := by
    rw [trace, World.recordSent]
    simp only [List.length_append, List.length_reverse, List.length_map]
    omega
  have recent : after.trace.take (sent.length + taken.length) =
      (sent.map Event.sent).reverse ++ taken := by
    rw [trace, World.recordSent, ← List.append_assoc, List.take_append_of_le_length (by simp)]
    exact List.take_of_length_le (by simp)
  have silent : taken.filterMap (fun
      | .sent buffer => some buffer
      | .submitted _ => none) = ([] : List BufferID) := by
    refine List.filterMap_eq_nil_iff.mpr fun event member => ?_
    obtain ⟨buffer, rfl⟩ := submissions event member
    rfl
  rw [sentBetween, length, recent, List.filterMap_append, silent, List.append_nil,
    ← List.map_reverse, List.filterMap_map]
  exact List.filterMap_some

/-- A new stream has nothing to count. -/
theorem tracked_initial (buffers : BufferMap) :
    Tracked (World.initial buffers).stream (World.initial buffers).handles :=
  ⟨rfl, List.nodup_nil, Counted.nil⟩

/-- As long as no buffer is submitted while it is on screen the invariant holds. -/
theorem tracked_step {world : World} (tracked : Tracked world.stream world.handles) (op : Op)
    (offscreen : SubmitsOffscreen world op) :
    Tracked (world.step op).stream (world.step op).handles := by
  by_cases submission : ∃ buffer, op = .submitBuffer buffer
  · obtain ⟨buffer, rfl⟩ := submission
    rw [World.step_submitBuffer]
    split
    · exact World.submit_tracked tracked buffer offscreen
    · exact tracked
  · push Not at submission
    exact (World.step_conserves tracked op submission).tracked

theorem tracked_of_reaches {buffers : BufferMap} {world : World}
    (reached : Transition.Reaches World.step SubmitsOffscreen (World.initial buffers) world) :
    Tracked world.stream world.handles :=
  reached.invariant (tracked_initial buffers) fun _ op tracked permitted =>
    tracked_step tracked op permitted

/-- The buffers a submission sends back were waiting, so nobody holds them. -/
theorem heldBuffersStay_submit {world : World} (tracked : Tracked world.stream world.handles)
    (buffer : Option BufferID) : HeldBuffersStay world (world.submit buffer) := by
  by_cases unknown : ∀ id, buffer = some id → world.stream.buffers.owner id = none
  · obtain ⟨stream, submitted, -, -⟩ := world.submit_rejected buffer unknown
    intro frame _
    rw [submitted, sentBetween_recordSent world { world with stream := stream } [] [] (by simp) rfl]
    exact List.not_mem_nil
  · push Not at unknown
    obtain ⟨id, rfl, known⟩ := unknown
    obtain ⟨stream, submitted, -, -⟩ := world.submit_accepted id known
    intro frame member
    rw [submitted] at member ⊢
    rw [sentBetween_recordSent world _ [.submitted id] _ (by simp) rfl, List.mem_reverse]
    intro sent
    obtain ⟨waiting, scheduled, same⟩ := List.mem_map.mp (Schedule.schedule_sent _ _ _ sent)
    obtain ⟨entry, shown, equal⟩ := List.mem_map.mp (tracked.held_onscreen member)
    exact tracked.scheduled_ne scheduled shown (equal.trans same.symm)

theorem heldBuffersStay_step {world : World} (tracked : Tracked world.stream world.handles)
    (op : Op) : HeldBuffersStay world (world.step op) := by
  by_cases submission : ∃ buffer, op = .submitBuffer buffer
  · obtain ⟨buffer, rfl⟩ := submission
    rw [World.step_submitBuffer]
    split
    · exact heldBuffersStay_submit tracked buffer
    · intro frame _
      rw [sentBetween_recordSent world world [] [] (by simp) rfl]
      exact List.not_mem_nil
  · push Not at submission
    obtain ⟨sent, conserves, trace, -⟩ := World.step_conserves tracked op submission
    intro frame member
    rw [sentBetween_recordSent world _ [] sent (by simp) trace, List.mem_reverse]
    exact conserves.not_held tracked.distinct member

theorem useCountsNeverWrap_of_tracked {world : World}
    (tracked : Tracked world.stream world.handles) : UseCountsNeverWrap world := by
  intro frame member
  obtain ⟨entry, shown, same⟩ := List.mem_map.mp (tracked.counted.listed frame member)
  have used : entry.useCount ≠ 0 := (tracked.counted.mem_held_iff shown).mp (same ▸ member)
  cases found : world.onscreen.find? (fun other => other.buffer = frame.buffer) with
  | none =>
    have missing := List.find?_eq_none.mp found entry shown
    have equal : entry.buffer = frame.buffer := congrArg Frame.buffer same
    exact absurd equal (by simpa using missing)
  | some other =>
    -- The entry found by its buffer is the frame's own, because no buffer is on screen twice.
    have equal : other.buffer = entry.buffer := by
      have hit : other.buffer = frame.buffer := by simpa using List.find?_some found
      rw [hit, ← same]
      rfl
    have unique := List.inj_on_of_nodup_map tracked.onscreen_nodup
      (List.mem_of_find?_eq_some found) shown equal
    exact ⟨other, unique ▸ used, rfl⟩

/-- In every run in which no buffer is submitted while it is on screen, with any number of
compositors and snapshots, the use count of every entry is the number of its handles, no count
wraps, and nothing that is held is sent back. -/
theorem useCounts_exact_of_submits_offscreen (buffers : BufferMap) (world : World)
    (reached : Transition.Reaches World.step SubmitsOffscreen (World.initial buffers) world) :
    UseCountsExact world ∧ UseCountsNeverWrap world ∧
      ∀ op, HeldBuffersStay world (world.step op) := by
  have tracked := tracked_of_reaches reached
  exact ⟨tracked.counted.counts, useCountsNeverWrap_of_tracked tracked,
    fun op => heldBuffersStay_step tracked op⟩

/-- A map that has every buffer, all of them the client's. -/
def everyBuffer : BufferMap := ⟨fun _ => some .client⟩

/-- Two monitors, the faster of which is a frame ahead. -/
def twoMonitors : List Op :=
  [.submitBuffer (some 0), .lockCompositorBuffer 1, .lockCompositorBuffer 2,
    .submitBuffer (some 1), .lockCompositorBuffer 1]

theorem useCounts_exact_twoMonitors :
    UseCountsExact (twoMonitors.foldl World.step (World.initial everyBuffer)) :=
  (useCounts_exact_of_submits_offscreen everyBuffer _
    (Transition.Reaches.start.foldl twoMonitors (by decide))).1

/-- A client that submits the buffer a compositor is showing. -/
def resubmission : List Op :=
  [.submitBuffer (some 0), .lockCompositorBuffer 1, .submitBuffer (some 0),
    .lockCompositorBuffer 1, .releaseCompositorBuffer ⟨0, 0⟩, .releaseCompositorBuffer ⟨0, 1⟩]

/-- When a buffer is on screen twice both releases are taken off the newer entry, and its count
wraps. -/
theorem useCounts_wrap_on_resubmission :
    ¬ ∀ world, Transition.Reaches World.step SubmitsKnown (World.initial everyBuffer) world →
      UseCountsExact world ∧ UseCountsNeverWrap world ∧
        ∀ op, HeldBuffersStay world (world.step op) := by
  intro claimed
  have counts := (claimed _ (Transition.Reaches.start.foldl resubmission (by decide))).1
  exact absurd (counts ⟨⟨0, 1⟩, 4294967295⟩ (by decide)) (by decide)

end Mir.Compositor

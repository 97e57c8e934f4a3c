/-
This file models the client's buffers as the compositor sees them: the session's
`BufferMap`, which records who owns each buffer, and the two `Schedule`s a stream
queues submitted buffers in. `QueueingSchedule` is a queue in submission order;
`DroppingSchedule` holds at most one buffer and sends an older one back.

A buffer is known by its `BufferID`: the map holds one shared pointer for each
id, so comparing pointers and comparing ids are the same. A scheduled buffer is a
`Frame`, which carries, for the statements only, the number of the submission
that put it there; no operation reads that number.

Calls of `send_buffer` made by an operation are returned as the list of the ids
sent, in call order.
-/

import Mathlib.Data.List.Perm.Basic
import Mathlib.Logic.Function.Basic

namespace Mir.Compositor

/-- The id of a client buffer. -/
abbrev BufferID := Nat

/-- The logic errors the stream and its parts throw. -/
inductive Error
  | noBufferToGiveToCompositor
  | noBufferToGiveToSnapshotter
  | noBufferScheduled
  | bufferNotScheduled
  | cannotFindBufferById
  | cannotSubmitNullBuffer
  deriving DecidableEq, Repr

/-- The text of each error. -/
def Error.what : Error → String
  | .noBufferToGiveToCompositor => "no buffer to give to compositor"
  | .noBufferToGiveToSnapshotter => "no buffer to give to snapshotter"
  | .noBufferScheduled => "no buffer scheduled"
  | .bufferNotScheduled => "buffer not scheduled"
  | .cannotFindBufferById => "cannot find buffer by id"
  | .cannotSubmitNullBuffer => "cannot submit null buffer"

/-! ### The buffer map -/

/-- Who may write to a buffer. -/
inductive Owner
  | server
  | client
  deriving DecidableEq, Repr

/-- The session's buffers, each with its owner. -/
structure BufferMap where
  owner : BufferID → Option Owner

namespace BufferMap

/-- Hands a buffer back to the client; an unknown id is ignored. -/
def sendBuffer (map : BufferMap) (id : BufferID) : BufferMap :=
  match map.owner id with
  | some _ => { owner := Function.update map.owner id (some .client) }
  | none => map

/-- Notes that the client has handed a buffer over; an unknown id is ignored. -/
def receiveBuffer (map : BufferMap) (id : BufferID) : BufferMap :=
  match map.owner id with
  | some _ => { owner := Function.update map.owner id (some .server) }
  | none => map

/-- The checked lookup of a buffer, `operator[]`. -/
def find (map : BufferMap) (id : BufferID) : Except Error BufferID :=
  match map.owner id with
  | some _ => .ok id
  | none => .error .cannotFindBufferById

/-- A sequence of `send_buffer` calls. -/
def sendBuffers (map : BufferMap) (ids : List BufferID) : BufferMap :=
  ids.foldl sendBuffer map

end BufferMap

/-! ### Schedules -/

/-- A scheduled buffer, with the number of the submission that scheduled it. -/
structure Frame where
  buffer : BufferID
  submission : Nat
  deriving DecidableEq, Repr

/-- The buffers a stream holds for the compositors, in one of its two disciplines. -/
inductive Schedule
  | queueing (queue : List Frame)
  | dropping (theOnlyBuffer : Option Frame)
  deriving DecidableEq, Repr

namespace Schedule

/-- Schedules a buffer. A queue moves a buffer it already holds to its end; a dropping schedule
sends the buffer it holds back unless it is the same one. -/
def schedule : Schedule → Frame → Schedule × List BufferID
  | .queueing queue, frame =>
    (.queueing (queue.eraseP (fun other => other.buffer = frame.buffer) ++ [frame]), [])
  | .dropping none, frame => (.dropping (some frame), [])
  | .dropping (some only), frame =>
    (.dropping (some frame), if only.buffer ≠ frame.buffer then [only.buffer] else [])

/-- The number of buffers scheduled. -/
def numScheduled : Schedule → Nat
  | .queueing queue => queue.length
  | .dropping none => 0
  | .dropping (some _) => 1

/-- Takes the next buffer off the schedule. -/
def nextBuffer : Schedule → Except Error (Frame × Schedule)
  | .queueing [] => .error .noBufferScheduled
  | .queueing (frame :: rest) => .ok (frame, .queueing rest)
  | .dropping none => .error .noBufferScheduled
  | .dropping (some frame) => .ok (frame, .dropping none)

/-- The scheduled frames, the next one first. -/
def frames : Schedule → List Frame
  | .queueing queue => queue
  | .dropping only => only.toList

/-- The schedule of the same discipline that holds nothing. -/
def emptied : Schedule → Schedule
  | .queueing _ => .queueing []
  | .dropping _ => .dropping none

/-- The loop that drains a schedule into a vector, one `num_scheduled` test and one
`next_buffer` call a turn, with a bound on its turns. -/
def drainLoop : Nat → Schedule → List Frame → List Frame × Schedule
  | 0, schedule, transferred => (transferred, schedule)
  | turns + 1, schedule, transferred =>
    if schedule.numScheduled = 0 then (transferred, schedule)
    else
      match schedule.nextBuffer with
      | .ok (frame, rest) => drainLoop turns rest (transferred ++ [frame])
      | .error _ => (transferred, schedule)

/-- Draining a schedule takes one turn for each buffer scheduled. -/
def drain (schedule : Schedule) : List Frame × Schedule :=
  drainLoop schedule.numScheduled schedule []

/-- Scheduling a sequence of buffers one by one. -/
def scheduleAll : Schedule → List Frame → Schedule × List BufferID
  | schedule, [] => (schedule, [])
  | schedule, frame :: rest =>
    let scheduled := schedule.schedule frame
    let remaining := scheduleAll scheduled.1 rest
    (remaining.1, scheduled.2 ++ remaining.2)

@[simp] theorem frames_queueing (queue : List Frame) : (queueing queue).frames = queue := rfl

@[simp] theorem frames_dropping_none : (dropping none).frames = [] := rfl

@[simp] theorem frames_dropping_some (frame : Frame) :
    (dropping (some frame)).frames = [frame] := rfl

@[simp] theorem numScheduled_eq (schedule : Schedule) :
    schedule.numScheduled = schedule.frames.length := by
  match schedule with
  | .queueing _ => rfl
  | .dropping none => rfl
  | .dropping (some _) => rfl

@[simp] theorem frames_emptied (schedule : Schedule) : schedule.emptied.frames = [] := by
  cases schedule <;> rfl

theorem nextBuffer_nil {schedule : Schedule} (nothing : schedule.frames = []) :
    schedule.nextBuffer = .error .noBufferScheduled := by
  match schedule, nothing with
  | .queueing [], _ => rfl
  | .dropping none, _ => rfl

/-- Taking the next buffer takes the first frame and leaves the others. -/
theorem nextBuffer_cons {schedule : Schedule} {frame : Frame} {rest : List Frame}
    (next : schedule.frames = frame :: rest) :
    ∃ remaining : Schedule, schedule.nextBuffer = .ok (frame, remaining) ∧
      remaining.frames = rest ∧ remaining.emptied = schedule.emptied := by
  match schedule, next with
  | .queueing (_ :: _), next =>
    obtain ⟨rfl, rfl⟩ := List.cons.inj next
    exact ⟨_, rfl, rfl, rfl⟩
  | .dropping (some _), next =>
    obtain ⟨rfl, rfl⟩ := List.cons.inj next
    exact ⟨_, rfl, rfl, rfl⟩

theorem emptied_eq_self {schedule : Schedule} (nothing : schedule.frames = []) :
    schedule.emptied = schedule := by
  match schedule, nothing with
  | .queueing [], _ => rfl
  | .dropping none, _ => rfl

theorem drainLoop_eq (turns : Nat) (schedule : Schedule) (transferred : List Frame)
    (enough : schedule.frames.length ≤ turns) :
    drainLoop turns schedule transferred = (transferred ++ schedule.frames, schedule.emptied) := by
  induction turns generalizing schedule transferred with
  | zero =>
    have nothing : schedule.frames = [] := List.eq_nil_of_length_eq_zero (by omega)
    rw [drainLoop, nothing, emptied_eq_self nothing, List.append_nil]
  | succ turns inductionHypothesis =>
    cases next : schedule.frames with
    | nil => simp [drainLoop, next, emptied_eq_self next]
    | cons frame rest =>
      obtain ⟨remaining, taken, left, same⟩ := nextBuffer_cons next
      have fewer : remaining.frames.length ≤ turns := by
        rw [left]
        rw [next, List.length_cons] at enough
        omega
      simp [drainLoop, next, taken, inductionHypothesis remaining _ fewer, left, same]

/-- The drain loop ends with every frame transferred, in order, and nothing scheduled. -/
theorem drain_eq (schedule : Schedule) :
    schedule.drain = (schedule.frames, schedule.emptied) := by
  rw [drain, drainLoop_eq _ _ _ (Nat.le_of_eq schedule.numScheduled_eq.symm),
    List.nil_append]

/-- A queue puts a buffer it does not hold at its end and sends nothing. -/
theorem schedule_queueing_of_notMem (queue : List Frame) (frame : Frame)
    (fresh : frame.buffer ∉ queue.map Frame.buffer) :
    (queueing queue).schedule frame = (queueing (queue ++ [frame]), []) := by
  have unchanged : queue.eraseP (fun other => other.buffer = frame.buffer) = queue := by
    refine List.eraseP_of_forall_not fun other member => ?_
    have different : other.buffer ≠ frame.buffer := by
      intro same
      exact fresh (same ▸ List.mem_map_of_mem member)
    simpa using different
  rw [schedule, unchanged]

/-- Scheduling a buffer that is not scheduled puts one more frame in the server's hands and
returns what is sent. -/
theorem schedule_flow (schedule : Schedule) (frame : Frame)
    (fresh : frame.buffer ∉ schedule.frames.map Frame.buffer) :
    ((schedule.schedule frame).1.frames.map Frame.buffer ++ (schedule.schedule frame).2).Perm
      (schedule.frames.map Frame.buffer ++ [frame.buffer]) := by
  match schedule with
  | .queueing queue =>
    rw [schedule_queueing_of_notMem queue frame fresh]
    simp
  | .dropping none => simp [Schedule.schedule]
  | .dropping (some only) =>
    have different : only.buffer ≠ frame.buffer := fun same => fresh (by simp [same])
    simp [Schedule.schedule, different, List.Perm.swap]

/-- Scheduling a buffer that is scheduled already moves it and sends nothing. -/
theorem schedule_again (schedule : Schedule) (frame : Frame)
    (member : frame.buffer ∈ schedule.frames.map Frame.buffer) :
    ((schedule.schedule frame).1.frames.map Frame.buffer).Perm
        (schedule.frames.map Frame.buffer) ∧ (schedule.schedule frame).2 = [] := by
  match schedule with
  | .queueing queue =>
    obtain ⟨other, present, same⟩ := List.mem_map.mp member
    obtain ⟨found, before, after, -, equal, split, erased⟩ :=
      List.exists_of_eraseP (p := fun other => other.buffer = frame.buffer) present (by simpa)
    have moved : found.buffer = frame.buffer := by simpa using equal
    rw [frames_queueing] at split erased
    refine ⟨?_, rfl⟩
    rw [Schedule.schedule, erased, frames_queueing, frames_queueing, split, List.map_append,
      List.map_append, List.map_append, List.map_cons, List.map_cons, List.map_nil, moved,
      List.append_assoc]
    exact (List.perm_append_singleton _ _).append_left _
  | .dropping none => simp at member
  | .dropping (some only) =>
    have same : frame.buffer = only.buffer := by simpa using member
    exact ⟨by simp [Schedule.schedule, same], by simp [Schedule.schedule, same]⟩

/-- What scheduling sends was scheduled. -/
theorem schedule_sent (schedule : Schedule) (frame : Frame) (buffer : BufferID)
    (sent : buffer ∈ (schedule.schedule frame).2) :
    buffer ∈ schedule.frames.map Frame.buffer := by
  match schedule with
  | .queueing _ => cases sent
  | .dropping none => cases sent
  | .dropping (some only) =>
    simp only [Schedule.schedule] at sent
    split at sent
    · simpa using sent
    · cases sent

/-- Scheduling a sequence of new buffers keeps or sends each of them. -/
theorem scheduleAll_flow (schedule : Schedule) (added : List Frame)
    (distinct : (schedule.frames.map Frame.buffer ++ added.map Frame.buffer).Nodup) :
    ((schedule.scheduleAll added).1.frames.map Frame.buffer ++ (schedule.scheduleAll added).2).Perm
      (schedule.frames.map Frame.buffer ++ added.map Frame.buffer) := by
  induction added generalizing schedule with
  | nil => simp [scheduleAll]
  | cons frame rest inductionHypothesis =>
    rw [List.map_cons] at distinct
    have fresh : frame.buffer ∉ schedule.frames.map Frame.buffer := by
      intro member
      exact (List.nodup_append.mp distinct).2.2 _ member _ List.mem_cons_self rfl
    have first := schedule_flow schedule frame fresh
    -- What the first step sends is as good as scheduled: together they are the old schedule
    -- and the new frame.
    have moved : ((schedule.schedule frame).1.frames.map Frame.buffer ++ rest.map Frame.buffer ++
        (schedule.schedule frame).2).Perm
        (schedule.frames.map Frame.buffer ++ frame.buffer :: rest.map Frame.buffer) := by
      have swapped := first.append_right (rest.map Frame.buffer)
      rw [List.append_assoc, List.append_assoc, List.singleton_append] at swapped
      refine List.Perm.trans ?_ swapped
      rw [List.append_assoc]
      exact List.perm_append_comm.append_left _
    have remaining := inductionHypothesis (schedule.schedule frame).1
      ((moved.nodup_iff.mpr distinct).sublist (List.sublist_append_left _ _))
    show ((scheduleAll (schedule.schedule frame).1 rest).1.frames.map Frame.buffer ++
      ((schedule.schedule frame).2 ++ (scheduleAll (schedule.schedule frame).1 rest).2)).Perm _
    refine List.Perm.trans ?_ ((remaining.append_right (schedule.schedule frame).2).trans moved)
    rw [List.append_assoc]
    exact List.perm_append_comm.append_left _

/-- A scheduled buffer is the last one; some of the others stay, in order. -/
theorem schedule_frames (schedule : Schedule) (frame : Frame) :
    (schedule.schedule frame).1.emptied = schedule.emptied ∧
      ∃ kept : List Frame, kept.Sublist schedule.frames ∧
        (schedule.schedule frame).1.frames = kept ++ [frame] := by
  match schedule with
  | .queueing queue => exact ⟨rfl, _, List.eraseP_sublist, rfl⟩
  | .dropping none => exact ⟨rfl, [], List.Sublist.refl _, rfl⟩
  | .dropping (some only) => exact ⟨rfl, [], List.nil_sublist _, rfl⟩

/-- A dropping schedule holds at most one buffer. -/
theorem frames_length_of_dropping {schedule : Schedule}
    (drops : schedule.emptied = .dropping none) :
    schedule.frames.length ≤ 1 := by
  match schedule, drops with
  | .dropping none, _ => exact Nat.zero_le 1
  | .dropping (some _), _ => exact Nat.le_refl 1

/-- A schedule that holds nothing takes a buffer and sends nothing. -/
theorem schedule_emptied (schedule : Schedule) (frame : Frame) :
    (schedule.emptied.schedule frame).1.frames = [frame] ∧
      (schedule.emptied.schedule frame).2 = [] := by
  cases schedule <;> exact ⟨rfl, rfl⟩

end Schedule

end Mir.Compositor

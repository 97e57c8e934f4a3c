/-
This file models `mc::Stream`, the server's end of one buffer stream, and the
system around it: the client that submits buffers, the compositors and the
snapshots that borrow them, the frame dropping policy whose callback is
`drop_frame`, and the destruction of the stream and of its arbiter.

Each operation holds the stream's mutex and is one function here. A stream refers
to its schedule directly and through its arbiter; the two references are the same
between operations, so the model keeps one.

The size and the pixel format of the stream and its observers take no part in
these operations and are left out.
-/

import Mathlib.Data.Finset.Card
import Mir.Compositor.Arbiter
import Mir.Library.Transition

namespace Mir.Compositor

/-- The discipline of the current schedule. -/
inductive ScheduleMode
  | queueing
  | dropping
  deriving DecidableEq, Repr

/-- What a stream tells its frame dropping policy. -/
inductive PolicyCall
  | swapNowBlocking
  | swapUnblocked
  deriving DecidableEq, Repr

structure Stream where
  /-- The calls made to the frame dropping policy, the newest first. -/
  dropPolicy : List PolicyCall
  scheduleMode : ScheduleMode
  schedule : Schedule
  buffers : BufferMap
  arbiter : MultiMonitorArbiter
  firstFramePosted : Bool
  associatedBuffers : Finset BufferID

/-- What an operation leaves behind: the stream, the buffers it sent back, and its result. -/
structure Outcome (Result : Type) where
  stream : Stream
  sent : List BufferID
  result : Except Error Result

namespace Stream

/-- A new stream queues, and keeps its buffers for every monitor. -/
def new (buffers : BufferMap) : Stream where
  dropPolicy := []
  scheduleMode := .queueing
  schedule := .queueing []
  buffers := buffers
  arbiter := ⟨.multiMonitorSync, [], ∅⟩
  firstFramePosted := false
  associatedBuffers := ∅

/-- The stream's count of the buffers its client has: those associated, less those scheduled,
less one if anything is on screen. -/
def clientOwnedBufferCount (stream : Stream) : Nat :=
  let scheduled := stream.schedule.numScheduled
  let serverCount := if stream.arbiter.hasBuffer then scheduled + 1 else scheduled
  unsignedSub stream.associatedBuffers.card serverCount

/-- Schedules a buffer of the client's. No ownership is checked. -/
def submitBuffer (stream : Stream) (buffer : Option BufferID) (submission : Nat) : Outcome Unit :=
  match buffer with
  | none => ⟨stream, [], .error .cannotSubmitNullBuffer⟩
  | some id =>
    let received : Stream :=
      { stream with firstFramePosted := true, buffers := stream.buffers.receiveBuffer id }
    match received.buffers.find id with
    | .error error => ⟨received, [], .error error⟩
    | .ok found =>
      let scheduled := received.schedule.schedule ⟨found, submission⟩
      let posted : Stream :=
        { received with
          schedule := scheduled.1
          buffers := received.buffers.sendBuffers scheduled.2 }
      if posted.associatedBuffers ≠ ∅ ∧ posted.clientOwnedBufferCount = 0 then
        ⟨{ posted with dropPolicy := .swapNowBlocking :: posted.dropPolicy }, scheduled.2, .ok ()⟩
      else ⟨posted, scheduled.2, .ok ()⟩

/-- Gives a compositor a buffer, held until it is released. -/
def lockCompositorBuffer (stream : Stream) (id : CompositorID) : Outcome Frame :=
  let unblocked : Stream := { stream with dropPolicy := .swapUnblocked :: stream.dropPolicy }
  match unblocked.arbiter.compositorAcquire unblocked.schedule id with
  | .error error => ⟨unblocked, [], .error error⟩
  | .ok acquired =>
    ⟨{ unblocked with
        arbiter := acquired.arbiter
        schedule := acquired.schedule
        buffers := unblocked.buffers.sendBuffers acquired.sent },
      acquired.sent, .ok acquired.frame⟩

/-- The destructor of the handle a compositor was given. -/
def releaseCompositorBuffer (stream : Stream) (buffer : BufferID) : Outcome Unit :=
  match stream.arbiter.compositorRelease stream.schedule buffer with
  | .error error => ⟨stream, [], .error error⟩
  | .ok (arbiter, sent) =>
    ⟨{ stream with arbiter := arbiter, buffers := stream.buffers.sendBuffers sent }, sent, .ok ()⟩

/-- The handle a snapshot looks through. -/
def acquireSnapshot (stream : Stream) : Outcome Frame :=
  match stream.arbiter.snapshotAcquire stream.schedule with
  | .error error => ⟨stream, [], .error error⟩
  | .ok acquired =>
    ⟨{ stream with arbiter := acquired.arbiter, schedule := acquired.schedule }, acquired.sent,
      .ok acquired.frame⟩

/-- The destructor of the handle a snapshot looked through. -/
def releaseSnapshot (stream : Stream) (buffer : BufferID) : Outcome Unit :=
  match stream.arbiter.snapshotRelease stream.schedule buffer with
  | .error error => ⟨stream, [], .error error⟩
  | .ok (arbiter, sent) =>
    ⟨{ stream with arbiter := arbiter, buffers := stream.buffers.sendBuffers sent }, sent, .ok ()⟩

/-- Runs a function on the most recent buffer, which is borrowed for as long as it runs. -/
def withMostRecentBufferDo (stream : Stream) : Outcome Frame :=
  let acquired := stream.acquireSnapshot
  match acquired.result with
  | .error _ => acquired
  | .ok frame =>
    let released := acquired.stream.releaseSnapshot frame.buffer
    ⟨released.stream, acquired.sent ++ released.sent, released.result.map fun _ => frame⟩

/-- Moves every scheduled buffer to a new schedule, in order. -/
def transitionSchedule (stream : Stream) (newSchedule : Schedule) : Stream × List BufferID :=
  let transferred := stream.schedule.drain.1
  let moved := newSchedule.scheduleAll transferred
  ({ stream with schedule := moved.1, buffers := stream.buffers.sendBuffers moved.2 }, moved.2)

/-- Switches between the two disciplines. -/
def allowFramedropping (stream : Stream) (dropping : Bool) : Stream × List BufferID :=
  if dropping = true ∧ stream.scheduleMode = .queueing then
    let moved := stream.transitionSchedule (.dropping none)
    ({ moved.1 with scheduleMode := .dropping }, moved.2)
  else if dropping = false ∧ stream.scheduleMode = .dropping then
    let moved := stream.transitionSchedule (.queueing [])
    ({ moved.1 with scheduleMode := .queueing }, moved.2)
  else (stream, [])

/-- Keeps only the last scheduled buffer and puts it on screen. -/
def dropOldBuffers (stream : Stream) : Stream × List BufferID :=
  let drained := stream.schedule.drain
  let refilled :=
    match drained.1.getLast? with
    | none => (drained.2, [])
    | some last => drained.2.schedule last
  let sent := refilled.2 ++ drained.1.dropLast.map Frame.buffer
  let advanced := stream.arbiter.advanceSchedule refilled.1
  ({ stream with
      schedule := advanced.2
      arbiter := advanced.1
      buffers := stream.buffers.sendBuffers sent }, sent)

/-- Sends the next scheduled buffer back, unless it is the only one. -/
def dropFrame (stream : Stream) : Stream × List BufferID :=
  if stream.schedule.numScheduled > 1 then
    match stream.schedule.nextBuffer with
    | .ok (frame, rest) =>
      ({ stream with schedule := rest, buffers := stream.buffers.sendBuffer frame.buffer },
        [frame.buffer])
    | .error _ => (stream, [])
  else (stream, [])

/-- Whether a compositor would find a buffer it has not had, as a number. -/
def buffersReadyForCompositor (stream : Stream) (id : CompositorID) : Nat :=
  if stream.arbiter.bufferReadyFor stream.schedule id then 1 else 0

def associateBuffer (stream : Stream) (id : BufferID) : Stream :=
  { stream with associatedBuffers := insert id stream.associatedBuffers }

def disassociateBuffer (stream : Stream) (id : BufferID) : Stream :=
  { stream with associatedBuffers := stream.associatedBuffers.erase id }

/-- The destructor of the stream sends back whatever is scheduled. -/
def destroyStream (stream : Stream) : Stream × List BufferID :=
  let drained := stream.schedule.drain
  let sent := drained.1.map Frame.buffer
  ({ stream with schedule := drained.2, buffers := stream.buffers.sendBuffers sent }, sent)

/-- The destructor of the arbiter, which runs when the stream and every handle are gone. -/
def destroyArbiter (stream : Stream) : Stream × List BufferID :=
  let sent := stream.arbiter.destroyed
  ({ stream with
      arbiter := { stream.arbiter with onscreenBuffers := [] }
      buffers := stream.buffers.sendBuffers sent }, sent)

/-- A submission of a buffer that is not in the map, or of none, schedules nothing. -/
theorem submitBuffer_rejected (stream : Stream) (buffer : Option BufferID) (submission : Nat)
    (unknown : ∀ id, buffer = some id → stream.buffers.owner id = none) :
    ∃ error, (stream.submitBuffer buffer submission).result = .error error ∧
      (stream.submitBuffer buffer submission).sent = [] ∧
      (stream.submitBuffer buffer submission).stream.arbiter = stream.arbiter ∧
      (stream.submitBuffer buffer submission).stream.schedule = stream.schedule := by
  cases buffer with
  | none => exact ⟨_, rfl, rfl, rfl, rfl⟩
  | some id =>
    have missing : (stream.buffers.receiveBuffer id).find id = .error .cannotFindBufferById := by
      simp [BufferMap.receiveBuffer, BufferMap.find, unknown id rfl]
    exact ⟨.cannotFindBufferById, by simp [submitBuffer, missing]⟩

/-- A buffer that was known is found when it comes back. -/
theorem find_receiveBuffer (buffers : BufferMap) {id : BufferID} (known : buffers.owner id ≠ none) :
    (buffers.receiveBuffer id).find id = .ok id := by
  obtain ⟨owner, owned⟩ := Option.ne_none_iff_exists'.mp known
  simp [BufferMap.receiveBuffer, BufferMap.find, owned]

/-- A submission of a known buffer schedules it and touches nothing else of the arbiter or the
schedule. -/
theorem submitBuffer_accepted (stream : Stream) (id : BufferID) (submission : Nat)
    (known : stream.buffers.owner id ≠ none) :
    (stream.submitBuffer (some id) submission).result = .ok () ∧
      (stream.submitBuffer (some id) submission).sent =
        (stream.schedule.schedule ⟨id, submission⟩).2 ∧
      (stream.submitBuffer (some id) submission).stream.arbiter = stream.arbiter ∧
      (stream.submitBuffer (some id) submission).stream.schedule =
        (stream.schedule.schedule ⟨id, submission⟩).1 := by
  simp only [submitBuffer, find_receiveBuffer stream.buffers known]
  split <;> exact ⟨rfl, rfl, rfl, rfl⟩

/-- A submission tells the policy that the client is about to block when the stream counts no
buffer left for it. -/
theorem submitBuffer_dropPolicy (stream : Stream) (id : BufferID) (submission : Nat)
    (known : stream.buffers.owner id ≠ none) :
    (stream.submitBuffer (some id) submission).stream.associatedBuffers =
        stream.associatedBuffers ∧
      ((stream.submitBuffer (some id) submission).stream.dropPolicy =
          .swapNowBlocking :: stream.dropPolicy ↔
        stream.associatedBuffers ≠ ∅ ∧
          (stream.submitBuffer (some id) submission).stream.clientOwnedBufferCount = 0) := by
  simp only [submitBuffer, find_receiveBuffer stream.buffers known]
  split
  · rename_i runsOut
    exact ⟨rfl, iff_of_true rfl runsOut⟩
  · rename_i hasSome
    refine ⟨rfl, iff_of_false (fun same => ?_) hasSome⟩
    exact List.cons_ne_self _ _ same.symm

end Stream

/-! ### The system -/

/-- What the client sees of its buffers: each submission and each `send_buffer`. -/
inductive Event
  | submitted (buffer : BufferID)
  | sent (buffer : BufferID)
  deriving DecidableEq, Repr

/-- The buffer an event is about. -/
def Event.buffer : Event → BufferID
  | .submitted buffer => buffer
  | .sent buffer => buffer

/-- A stream with its users. `held` are the frames behind the live compositor handles and
`snapshots` those behind the live snapshot handles; `given` is what each
`lock_compositor_buffer` returned and `trace` what the client saw, the newest first. The
stream's schedule and arbiter outlive it as long as a handle refers to them. -/
structure World where
  stream : Stream
  streamAlive : Bool
  held : List Frame
  snapshots : List Frame
  given : List (CompositorID × Frame)
  trace : List Event
  submissions : Nat

/-- What the client, the compositors, the snapshots and the policy may do. A snapshot is taken
in one step by `withMostRecentBufferDo`; `acquireSnapshot` and `releaseSnapshot` are its two
halves, between which compositors may run. -/
inductive Op
  | submitBuffer (buffer : Option BufferID)
  | lockCompositorBuffer (id : CompositorID)
  | releaseCompositorBuffer (frame : Frame)
  | withMostRecentBufferDo
  | acquireSnapshot
  | releaseSnapshot (frame : Frame)
  | allowFramedropping (dropping : Bool)
  | dropOldBuffers
  | dropFrame
  | associateBuffer (id : BufferID)
  | disassociateBuffer (id : BufferID)
  | destroyStream
  deriving DecidableEq, Repr

/-- The buffer an operation submits, if it does. -/
def Op.submittedBuffer : Op → Option BufferID
  | .submitBuffer buffer => buffer
  | _ => none

namespace World

/-- A new stream that nobody uses yet. -/
def initial (buffers : BufferMap) : World where
  stream := Stream.new buffers
  streamAlive := true
  held := []
  snapshots := []
  given := []
  trace := []
  submissions := 0

/-- The scheduled frames, the next one first. -/
def scheduled (world : World) : List Frame := world.stream.schedule.frames

/-- The entries on screen, the newest first. -/
def onscreen (world : World) : List ScheduleEntry := world.stream.arbiter.onscreenBuffers

/-- The frames behind all live handles. -/
def handles (world : World) : List Frame := world.held ++ world.snapshots

/-- Appends a sequence of `send_buffer` calls to a trace. -/
def recordSent (trace : List Event) (sent : List BufferID) : List Event :=
  (sent.map Event.sent).reverse ++ trace

/-- An operation that changes the stream and sends buffers back. -/
def after (world : World) (stream : Stream) (sent : List BufferID) : World :=
  { world with stream := stream, trace := recordSent world.trace sent }

/-- The arbiter is destroyed when the last reference to it is gone. -/
def dropReference (world : World) : World :=
  if world.streamAlive = false ∧ world.handles = [] then
    world.after world.stream.destroyArbiter.1 world.stream.destroyArbiter.2
  else world

/-- A submission that reaches the schedule is an event of the trace. -/
def submit (world : World) (buffer : Option BufferID) : World :=
  let outcome := world.stream.submitBuffer buffer world.submissions
  match buffer, outcome.result with
  | some id, .ok _ =>
    { world with
      stream := outcome.stream
      trace := recordSent (.submitted id :: world.trace) outcome.sent
      submissions := world.submissions + 1 }
  | _, _ => { world with stream := outcome.stream }

/-- A compositor that is given a buffer holds it. -/
def lock (world : World) (id : CompositorID) : World :=
  let outcome := world.stream.lockCompositorBuffer id
  match outcome.result with
  | .ok frame =>
    { world.after outcome.stream outcome.sent with
      held := frame :: world.held
      given := (id, frame) :: world.given }
  | .error _ => { world with stream := outcome.stream }

/-- Only a handle that exists can be destroyed. -/
def release (world : World) (frame : Frame) : World :=
  if frame ∈ world.held then
    let outcome := world.stream.releaseCompositorBuffer frame.buffer
    dropReference
      { world.after outcome.stream outcome.sent with held := world.held.erase frame }
  else world

def beginSnapshot (world : World) : World :=
  let outcome := world.stream.acquireSnapshot
  match outcome.result with
  | .ok frame =>
    { world.after outcome.stream outcome.sent with snapshots := frame :: world.snapshots }
  | .error _ => world

def endSnapshot (world : World) (frame : Frame) : World :=
  if frame ∈ world.snapshots then
    let outcome := world.stream.releaseSnapshot frame.buffer
    dropReference
      { world.after outcome.stream outcome.sent with snapshots := world.snapshots.erase frame }
  else world

/-- One step of the system. Once the stream is destroyed only handles are left. -/
def step (world : World) (op : Op) : World :=
  match world.streamAlive, op with
  | _, .releaseCompositorBuffer frame => world.release frame
  | _, .releaseSnapshot frame => world.endSnapshot frame
  | false, _ => world
  | true, .submitBuffer buffer => world.submit buffer
  | true, .lockCompositorBuffer id => world.lock id
  | true, .withMostRecentBufferDo =>
    world.after world.stream.withMostRecentBufferDo.stream world.stream.withMostRecentBufferDo.sent
  | true, .acquireSnapshot => world.beginSnapshot
  | true, .allowFramedropping dropping =>
    world.after (world.stream.allowFramedropping dropping).1
      (world.stream.allowFramedropping dropping).2
  | true, .dropOldBuffers =>
    world.after world.stream.dropOldBuffers.1 world.stream.dropOldBuffers.2
  | true, .dropFrame => world.after world.stream.dropFrame.1 world.stream.dropFrame.2
  | true, .associateBuffer id => { world with stream := world.stream.associateBuffer id }
  | true, .disassociateBuffer id => { world with stream := world.stream.disassociateBuffer id }
  | true, .destroyStream =>
    dropReference
      { world.after world.stream.destroyStream.1 world.stream.destroyStream.2 with
        streamAlive := false }

theorem submit_stream (world : World) (buffer : Option BufferID) :
    (world.submit buffer).stream =
      (world.stream.submitBuffer buffer world.submissions).stream := by
  unfold submit
  simp only
  split <;> rfl

@[simp] theorem dropReference_streamAlive (world : World) :
    world.dropReference.streamAlive = world.streamAlive := by
  unfold dropReference
  split <;> rfl

/-- Only its destructor ends the stream. -/
theorem step_streamAlive (world : World) (op : Op) (other : op ≠ .destroyStream) :
    (world.step op).streamAlive = world.streamAlive := by
  unfold step
  split
  · unfold release
    split <;> simp [after]
  · unfold endSnapshot
    split <;> simp [after]
  · rfl
  · unfold submit
    simp only
    split <;> rfl
  · unfold lock
    simp only
    split <;> rfl
  · rfl
  · unfold beginSnapshot
    simp only
    split <;> rfl
  · rfl
  · rfl
  · rfl
  · rfl
  · rfl
  · exact absurd rfl other

theorem step_submitBuffer (world : World) (buffer : Option BufferID) :
    world.step (.submitBuffer buffer) =
      if world.streamAlive = true then world.submit buffer else world := by
  cases alive : world.streamAlive <;> simp [step, alive]

end World

end Mir.Compositor

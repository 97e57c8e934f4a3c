/-
This file proves that a stream loses no buffer. The client may submit only what it
owns: a buffer of its map that it never submitted, or that was sent back since it
last was. Then every submitted buffer is scheduled, or on screen in exactly one
entry, or back with the client, by one `send_buffer` for each submission; and once
the stream and every handle are gone, everything is back.

Ownership is read off the client's trace. It agrees with where the buffer is: the
client owns exactly the buffers that are not in the server's hands, which is what
makes a well-behaved submission one the acquisition invariant allows.
-/

import Mir.Compositor.Acquisition

namespace Mir.Compositor

/-! ### Ownership, from the trace -/

/-- The client owns a buffer unless the last thing that happened to it is a submission. -/
def clientOwns (trace : List Event) (id : BufferID) : Bool :=
  match trace.find? (fun event => event.buffer = id) with
  | some (.submitted _) => false
  | _ => true

/-- The client submits only buffers of its map that it owns. -/
def SubmitsOwned (world : World) (op : Op) : Prop :=
  ∀ id ∈ op.submittedBuffer,
    world.stream.buffers.owner id ≠ none ∧ clientOwns world.trace id = true

instance (world : World) : DecidablePred (SubmitsOwned world) :=
  fun op => inferInstanceAs (Decidable (∀ id ∈ op.submittedBuffer, _))

/-- Each submission of a buffer is followed by at most one `send_buffer` before the next, and
nothing is sent that was not submitted. -/
def SentOncePerSubmission (id : BufferID) : List Event → Prop
  | [] => True
  | event :: older =>
    (event = .submitted id → clientOwns older id = true) ∧
      (event = .sent id → clientOwns older id = false) ∧ SentOncePerSubmission id older

theorem clientOwns_submitted (trace : List Event) (buffer id : BufferID) :
    clientOwns (.submitted buffer :: trace) id =
      if buffer = id then false else clientOwns trace id := by
  by_cases same : buffer = id
  · simp [clientOwns, Event.buffer, same]
  · simp [clientOwns, Event.buffer, same]

theorem clientOwns_sent (trace : List Event) (buffer id : BufferID) :
    clientOwns (.sent buffer :: trace) id =
      if buffer = id then true else clientOwns trace id := by
  by_cases same : buffer = id
  · simp [clientOwns, Event.buffer, same]
  · simp [clientOwns, Event.buffer, same]

theorem recordSent_cons (trace : List Event) (first : BufferID) (rest : List BufferID) :
    World.recordSent trace (first :: rest) = World.recordSent (.sent first :: trace) rest := by
  simp [World.recordSent]

theorem clientOwns_recordSent (trace : List Event) (sent : List BufferID) (id : BufferID) :
    clientOwns (World.recordSent trace sent) id = true ↔
      id ∈ sent ∨ clientOwns trace id = true := by
  induction sent generalizing trace with
  | nil => simp [World.recordSent]
  | cons first rest inductionHypothesis =>
    rw [recordSent_cons, inductionHypothesis, clientOwns_sent, List.mem_cons]
    by_cases same : first = id
    · simp [same]
    · simp [same, Ne.symm same]

theorem sentOncePerSubmission_recordSent (trace : List Event) (sent : List BufferID)
    (id : BufferID) (distinct : sent.Nodup)
    (away : ∀ buffer ∈ sent, clientOwns trace buffer = false)
    (paired : SentOncePerSubmission id trace) :
    SentOncePerSubmission id (World.recordSent trace sent) := by
  induction sent generalizing trace with
  | nil => exact paired
  | cons first rest inductionHypothesis =>
    rw [List.nodup_cons] at distinct
    rw [recordSent_cons]
    refine inductionHypothesis _ distinct.2 (fun buffer member => ?_) ⟨by simp, ?_, paired⟩
    · have different : first ≠ buffer := by
        rintro rfl
        exact distinct.1 member
      rw [clientOwns_sent, if_neg different]
      exact away buffer (List.mem_cons_of_mem _ member)
    · intro same
      exact Event.sent.inj same ▸ away first List.mem_cons_self

theorem count_sent_recordSent (trace : List Event) (sent : List BufferID) (id : BufferID) :
    (World.recordSent trace sent).count (.sent id) = sent.count id + trace.count (.sent id) := by
  rw [World.recordSent, List.count_append, List.count_reverse]
  have injective : Function.Injective Event.sent := fun _ _ same => Event.sent.inj same
  rw [List.count_map_of_injective _ _ injective]

theorem count_submitted_recordSent (trace : List Event) (sent : List BufferID) (id : BufferID) :
    (World.recordSent trace sent).count (.submitted id) = trace.count (.submitted id) := by
  rw [World.recordSent, List.count_append, List.count_reverse,
    List.count_eq_zero_of_not_mem (by simp), Nat.zero_add]

/-! ### The invariant -/

/-- The trace accounts for every buffer: submissions are balanced by what was sent and what the
server has, and the client owns what the server does not have. -/
structure Balanced (world : World) : Prop where
  tracked : Tracked world.stream world.handles
  balance : ∀ id, world.trace.count (.submitted id) =
    world.trace.count (.sent id) + world.stream.serverBuffers.count id
  owned : ∀ id, clientOwns world.trace id = true ↔ id ∉ world.stream.serverBuffers
  paired : ∀ id, SentOncePerSubmission id world.trace

/-- A step that takes `taken` from the client, records it and then sends `sent`. -/
theorem Balanced.of_flow {before after : World} (balanced : Balanced before)
    (taken sent : List BufferID) (single : taken.length ≤ 1)
    (tracked : Tracked after.stream after.handles)
    (owned : ∀ id ∈ taken, clientOwns before.trace id = true)
    (flow : (after.stream.serverBuffers ++ sent).Perm (before.stream.serverBuffers ++ taken))
    (trace : after.trace = World.recordSent (taken.map .submitted ++ before.trace) sent) :
    Balanced after := by
  have fresh : (before.stream.serverBuffers ++ taken).Nodup := by
    refine List.nodup_append.mpr ⟨balanced.tracked.distinct, ?_, fun id present other member => ?_⟩
    · match taken, single with
      | [], _ => exact List.nodup_nil
      | [id], _ => exact List.nodup_singleton id
    · rintro rfl
      exact (balanced.owned id).mp (owned id member) present
  have distinct := flow.nodup_iff.mpr fresh
  -- Ownership and pairing once the submission is recorded, before anything is sent.
  have submittedOwned (id : BufferID) :
      clientOwns (taken.map Event.submitted ++ before.trace) id = true ↔
        id ∉ before.stream.serverBuffers ++ taken := by
    match taken, single with
    | [], _ => simpa using balanced.owned id
    | [buffer], _ =>
      rw [List.map_cons, List.map_nil, List.singleton_append, clientOwns_submitted,
        List.mem_append, not_or, ← balanced.owned id, List.mem_singleton]
      by_cases same : buffer = id
      · simp [same]
      · simp [same, Ne.symm same]
  have submittedPaired (id : BufferID) :
      SentOncePerSubmission id (taken.map Event.submitted ++ before.trace) := by
    match taken, single with
    | [], _ => exact balanced.paired id
    | [buffer], _ =>
      refine ⟨fun same => ?_, by simp, balanced.paired id⟩
      exact Event.submitted.inj same ▸ owned buffer List.mem_cons_self
  refine ⟨tracked, fun id => ?_, fun id => ?_, fun id => ?_⟩
  · have moved := flow.count_eq id
    have old := balanced.balance id
    have inSubmissions : (taken.map Event.submitted).count (.submitted id) = taken.count id :=
      List.count_map_of_injective _ _ (fun _ _ same => Event.submitted.inj same) id
    have notSent : (taken.map Event.submitted).count (.sent id) = 0 :=
      List.count_eq_zero_of_not_mem (by simp)
    rw [trace, count_submitted_recordSent, count_sent_recordSent, List.count_append,
      List.count_append, inSubmissions, notSent]
    rw [List.count_append, List.count_append] at moved
    omega
  · rw [trace, clientOwns_recordSent, submittedOwned, ← flow.mem_iff, List.mem_append, not_or]
    constructor
    · rintro (back | ⟨away, _⟩)
      · intro present
        exact (List.nodup_append.mp distinct).2.2 id present id back rfl
      · exact away
    · intro away
      by_cases back : id ∈ sent
      · exact Or.inl back
      · exact Or.inr ⟨away, back⟩
  · rw [trace]
    refine sentOncePerSubmission_recordSent _ _ _ (List.nodup_append.mp distinct).2.1
      (fun buffer member => ?_) (submittedPaired id)
    rw [← Bool.not_eq_true, submittedOwned, ← flow.mem_iff, not_not]
    exact List.mem_append_right _ member

/-- What the client owns is not on screen. -/
theorem Balanced.offscreen {world : World} (balanced : Balanced world) {op : Op}
    (owned : SubmitsOwned world op) : SubmitsOffscreen world op := by
  intro id submitted shown
  exact (balanced.owned id).mp (owned id submitted).2 (List.mem_append_right _ shown)

/-- A submission takes one buffer from the client and may send others back. -/
theorem World.submit_flow (world : World) {id : BufferID}
    (known : world.stream.buffers.owner id ≠ none) (away : id ∉ world.stream.serverBuffers) :
    ∃ sent, (world.submit (some id)).trace =
        World.recordSent ([id].map Event.submitted ++ world.trace) sent ∧
      ((world.submit (some id)).stream.serverBuffers ++ sent).Perm
        (world.stream.serverBuffers ++ [id]) := by
  obtain ⟨stream, submitted, arbiter, schedule⟩ := world.submit_accepted id known
  refine ⟨_, by rw [submitted]; rfl, ?_⟩
  have flow := Schedule.schedule_flow world.stream.schedule ⟨id, world.submissions⟩
    fun waiting => away (List.mem_append_left _ waiting)
  rw [submitted, Stream.serverBuffers, Stream.serverBuffers, serverBuffers, serverBuffers, arbiter,
    schedule]
  -- Both sides carry the entries on screen, between the schedule and what moves.
  have swap (left middle right : List BufferID) :
      (left ++ middle ++ right).Perm (left ++ right ++ middle) := by
    rw [List.append_assoc, List.append_assoc]
    exact List.perm_append_comm.append_left _
  exact (swap _ _ _).trans ((flow.append_right _).trans (swap _ _ _))

theorem Balanced.submit {world : World} (balanced : Balanced world) (buffer : Option BufferID)
    (owned : SubmitsOwned world (.submitBuffer buffer)) : Balanced (world.submit buffer) := by
  have tracked := World.submit_tracked balanced.tracked buffer (balanced.offscreen owned)
  cases buffer with
  | none =>
    obtain ⟨stream, submitted, arbiter, schedule⟩ := world.submit_rejected none (by simp)
    refine balanced.of_flow [] [] (by simp) tracked (by simp) ?_ (by rw [submitted]; rfl)
    rw [submitted, Stream.serverBuffers, arbiter, schedule]
    exact List.Perm.refl _
  | some id =>
    have mine := owned id rfl
    obtain ⟨sent, trace, flow⟩ := world.submit_flow mine.1 ((balanced.owned id).mp mine.2)
    exact balanced.of_flow [id] sent (by simp) tracked (by simpa using mine.2) flow trace

theorem Balanced.step {world : World} (balanced : Balanced world) (op : Op)
    (owned : SubmitsOwned world op) : Balanced (world.step op) := by
  by_cases submission : ∃ buffer, op = .submitBuffer buffer
  · obtain ⟨buffer, rfl⟩ := submission
    rw [World.step_submitBuffer]
    split
    · exact balanced.submit buffer owned
    · exact balanced
  · push Not at submission
    obtain ⟨sent, conserves, trace, -⟩ := World.step_conserves balanced.tracked op submission
    exact balanced.of_flow [] sent (by simp) conserves.tracked (by simp)
      (by rw [List.append_nil]; exact conserves.flow) trace

theorem balanced_initial (buffers : BufferMap) : Balanced (World.initial buffers) where
  tracked := tracked_initial buffers
  balance _ := rfl
  owned _ := by simp [World.initial, clientOwns, Stream.serverBuffers, serverBuffers, Stream.new]
  paired _ := trivial

theorem balanced_of_reaches {buffers : BufferMap} {world : World}
    (reached : Transition.Reaches World.step SubmitsOwned (World.initial buffers) world) :
    Balanced world :=
  reached.invariant (balanced_initial buffers) fun _ op balanced owned => balanced.step op owned

/-! ### Destruction -/

/-- Once the stream is gone nothing is scheduled, and once the handles are gone as well nothing
is on screen. -/
def Retired (world : World) : Prop :=
  world.streamAlive = false →
    world.scheduled = [] ∧ (world.handles = [] → world.onscreen = [])

theorem retired_dropReference (world : World) (drained : world.scheduled = []) :
    Retired world.dropReference := by
  intro gone
  unfold World.dropReference at gone ⊢
  split
  · exact ⟨drained, fun _ => rfl⟩
  · rename_i referenced
    refine ⟨drained, fun released => absurd ⟨?_, released⟩ referenced⟩
    simpa [referenced] using gone

theorem retired_release {world : World} (retired : Retired world) (frame : Frame) :
    Retired (world.release frame) := by
  unfold World.release
  split
  · intro gone
    simp only [World.dropReference_streamAlive] at gone
    refine retired_dropReference _ ?_ (by simpa using gone)
    rw [← (retired gone).1]
    simp only [World.scheduled, World.after, Stream.releaseCompositorBuffer]
    split <;> rfl
  · exact retired

theorem retired_endSnapshot {world : World} (retired : Retired world) (frame : Frame) :
    Retired (world.endSnapshot frame) := by
  unfold World.endSnapshot
  split
  · intro gone
    simp only [World.dropReference_streamAlive] at gone
    refine retired_dropReference _ ?_ (by simpa using gone)
    rw [← (retired gone).1]
    simp only [World.scheduled, World.after, Stream.releaseSnapshot]
    split <;> rfl
  · exact retired

theorem retired_step {world : World} (retired : Retired world) (op : Op) :
    Retired (world.step op) := by
  by_cases destroyed : op = .destroyStream
  · subst destroyed
    cases alive : world.streamAlive with
    | false => simpa [World.step, alive] using retired
    | true =>
      simp only [World.step, alive]
      refine retired_dropReference _ ?_
      simp [World.scheduled, World.after, Stream.destroyStream, Schedule.drain_eq]
  · intro gone
    have ended : world.streamAlive = false := (world.step_streamAlive op destroyed).symm.trans gone
    cases op with
    | releaseCompositorBuffer frame =>
      rw [World.step] at gone ⊢
      exact retired_release retired frame gone
    | releaseSnapshot frame =>
      rw [World.step] at gone ⊢
      exact retired_endSnapshot retired frame gone
    | _ => simpa [World.step, ended] using retired ended

theorem retired_of_reaches {buffers : BufferMap} {world : World} {allowed : World → Op → Prop}
    (reached : Transition.Reaches World.step allowed (World.initial buffers) world) :
    Retired world :=
  reached.invariant (fun gone => by cases gone) fun _ op retired _ => retired_step retired op

/-! ### Every run -/

/-- Exactly one of three propositions. -/
def ExactlyOne (first second third : Prop) : Prop :=
  (first ∧ ¬ second ∧ ¬ third) ∨ (¬ first ∧ second ∧ ¬ third) ∨ (¬ first ∧ ¬ second ∧ third)

/-- A buffer has been sent back as often as it was submitted. -/
def Returned (world : World) (id : BufferID) : Prop :=
  world.trace.count (.sent id) = world.trace.count (.submitted id)

/-- A buffer is scheduled, on screen once, or returned, and only one of these. -/
theorem Balanced.exactlyOne {world : World} (balanced : Balanced world) (id : BufferID) :
    ExactlyOne ((world.scheduled.map Frame.buffer).count id = 1)
      ((world.onscreen.map ScheduleEntry.buffer).count id = 1) (Returned world id) := by
  have balance := balanced.balance id
  have atMostOnce := List.nodup_iff_count_le_one.mp balanced.tracked.distinct id
  rw [Stream.serverBuffers, serverBuffers, List.count_append] at balance atMostOnce
  unfold ExactlyOne Returned World.scheduled World.onscreen
  omega

/-- In every run in which the client submits only what it owns, every buffer is in exactly one
place, is sent back once for each submission and never while it is held; and when the stream and
all handles are gone every buffer has been sent back as often as it was submitted. -/
theorem buffers_conserved (buffers : BufferMap) (world : World)
    (reached : Transition.Reaches World.step SubmitsOwned (World.initial buffers) world) :
    (∀ id, Event.submitted id ∈ world.trace →
      ExactlyOne ((world.scheduled.map Frame.buffer).count id = 1)
        ((world.onscreen.map ScheduleEntry.buffer).count id = 1) (Returned world id)) ∧
    (∀ id, SentOncePerSubmission id world.trace) ∧
    (∀ op, HeldBuffersStay world (world.step op)) ∧
    (world.streamAlive = false → world.handles = [] → ∀ id, Returned world id) := by
  have balanced := balanced_of_reaches reached
  refine ⟨fun id _ => balanced.exactlyOne id, balanced.paired,
    fun op => heldBuffersStay_step balanced.tracked op, fun gone released id => ?_⟩
  obtain ⟨drained, cleared⟩ := retired_of_reaches reached gone
  have nothing : world.stream.serverBuffers = [] := by
    rw [Stream.serverBuffers, serverBuffers]
    show world.scheduled.map Frame.buffer ++ world.onscreen.map ScheduleEntry.buffer = []
    rw [drained, cleared released]
    rfl
  have balance := balanced.balance id
  rw [nothing] at balance
  exact balance.symm

/-- Two monitors show three frames, a snapshot is taken, and everything is taken down. -/
def wholeLife : List Op :=
  [.submitBuffer (some 0), .submitBuffer (some 1), .lockCompositorBuffer 1,
    .lockCompositorBuffer 2, .lockCompositorBuffer 1, .releaseCompositorBuffer ⟨0, 0⟩,
    .withMostRecentBufferDo, .releaseCompositorBuffer ⟨0, 0⟩, .submitBuffer (some 0),
    .allowFramedropping true, .dropOldBuffers, .destroyStream, .releaseCompositorBuffer ⟨1, 1⟩]

theorem buffers_conserved_wholeLife :
    Returned (wholeLife.foldl World.step (World.initial everyBuffer)) 0 ∧
      Returned (wholeLife.foldl World.step (World.initial everyBuffer)) 1 :=
  have conserved := buffers_conserved everyBuffer _
    (Transition.Reaches.start.foldl wholeLife (by decide))
  ⟨conserved.2.2.2 (by decide) (by decide) 0, conserved.2.2.2 (by decide) (by decide) 1⟩

end Mir.Compositor

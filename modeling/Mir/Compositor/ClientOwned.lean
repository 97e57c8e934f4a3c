/-
This file is about `client_owned_buffer_count`, by which a stream decides that its
client has run out of buffers and that the frame dropping policy should step in.

The count is not kept but computed: the associated buffers, less those scheduled,
less one if anything is on screen. It is the number of buffers the client has
exactly while at most one entry is on screen. A second monitor that is still
showing an older frame, or entries left behind by `drop_old_buffers`, put more
there; then the count is too high, and a submission that leaves the client with
nothing does not start the policy.
-/

import Mathlib.Data.Finset.Card
import Mir.Compositor.Conservation

namespace Mir.Compositor

/-- The associated buffers that are neither scheduled nor on screen. -/
def World.clientBuffers (world : World) : Finset BufferID :=
  world.stream.associatedBuffers.filter fun id =>
    id ∉ world.scheduled.map Frame.buffer ∧ id ∉ world.onscreen.map ScheduleEntry.buffer

/-- Every buffer the client has submitted is associated. -/
def AllAssociated (world : World) : Prop :=
  ∀ id, Event.submitted id ∈ world.trace → id ∈ world.stream.associatedBuffers

/-- Submitting a buffer tells the policy that the client is about to block. -/
def CallsSwapNowBlocking (world : World) (id : BufferID) : Prop :=
  (world.step (.submitBuffer (some id))).stream.dropPolicy =
    .swapNowBlocking :: world.stream.dropPolicy

/-- The server's buffers were submitted, so they are associated. -/
theorem Balanced.server_associated {world : World} (balanced : Balanced world)
    (associated : AllAssociated world) {id : BufferID}
    (present : id ∈ world.stream.serverBuffers) : id ∈ world.stream.associatedBuffers := by
  refine associated id (List.count_pos_iff.mp ?_)
  have balance := balanced.balance id
  have positive := List.count_pos_iff.mpr present
  omega

/-- The client has what is associated and not with the server. -/
theorem Balanced.card_clientBuffers {world : World} (balanced : Balanced world)
    (associated : AllAssociated world) :
    world.clientBuffers.card + (world.scheduled.length + world.onscreen.length) =
      world.stream.associatedBuffers.card := by
  have server : world.stream.serverBuffers.toFinset ⊆ world.stream.associatedBuffers := by
    intro id present
    exact balanced.server_associated associated (List.mem_toFinset.mp present)
  have rest : world.clientBuffers =
      world.stream.associatedBuffers \ world.stream.serverBuffers.toFinset := by
    ext id
    rw [World.clientBuffers, Finset.mem_filter, Finset.mem_sdiff, List.mem_toFinset,
      Stream.serverBuffers, serverBuffers, List.mem_append, not_or]
    rfl
  have size : world.stream.serverBuffers.toFinset.card =
      world.scheduled.length + world.onscreen.length := by
    rw [List.toFinset_card_of_nodup balanced.tracked.distinct, Stream.serverBuffers,
      serverBuffers, List.length_append, List.length_map, List.length_map]
    rfl
  rw [rest, ← size]
  exact Finset.card_sdiff_add_card_eq_card server

/-- The count the stream computes leaves out all but one of the entries on screen. -/
theorem Balanced.clientOwnedBufferCount_eq {world : World} (balanced : Balanced world)
    (associated : AllAssociated world) :
    world.stream.clientOwnedBufferCount =
      world.clientBuffers.card + (world.onscreen.length - 1) := by
  have total := balanced.card_clientBuffers associated
  have scheduled : world.stream.schedule.numScheduled = world.scheduled.length :=
    Schedule.numScheduled_eq _
  unfold Stream.clientOwnedBufferCount MultiMonitorArbiter.hasBuffer
  simp only [scheduled]
  cases onscreen : world.onscreen with
  | nil =>
    have empty : world.stream.arbiter.onscreenBuffers = [] := onscreen
    rw [onscreen, List.length_nil] at total
    simp only [empty, ne_eq, not_true_eq_false, decide_false, Bool.false_eq_true, if_false]
    rw [unsignedSub_of_le (by omega), List.length_nil]
    omega
  | cons front others =>
    have shown : world.stream.arbiter.onscreenBuffers = front :: others := onscreen
    rw [onscreen, List.length_cons] at total
    simp only [shown, ne_eq, reduceCtorEq, not_false_eq_true, decide_true, if_true]
    rw [unsignedSub_of_le (by omega), List.length_cons]
    omega

/-- In every run in which the client submits only what it owns, in every state in which all
submitted buffers are associated, the stream's count is the number of buffers the client has
exactly when at most one entry is on screen; and a submission that leaves the client with no
buffer starts the frame dropping policy exactly then. -/
theorem clientOwnedBufferCount_exact_iff (buffers : BufferMap) (world : World)
    (reached : Transition.Reaches World.step SubmitsOwned (World.initial buffers) world)
    (associated : AllAssociated world) :
    (world.stream.clientOwnedBufferCount = world.clientBuffers.card ↔
      world.onscreen.length ≤ 1) ∧
    ∀ id, world.streamAlive = true → SubmitsOwned world (.submitBuffer (some id)) →
      id ∈ world.stream.associatedBuffers →
      (world.step (.submitBuffer (some id))).clientBuffers = ∅ →
      (CallsSwapNowBlocking world id ↔ world.onscreen.length ≤ 1) := by
  have balanced := balanced_of_reaches reached
  constructor
  · rw [balanced.clientOwnedBufferCount_eq associated]
    omega
  · intro id alive owned member nothing
    have later := balanced.step (.submitBuffer (some id)) owned
    unfold CallsSwapNowBlocking
    rw [World.step_submitBuffer, if_pos alive] at later nothing ⊢
    obtain ⟨same, calls⟩ :=
      world.stream.submitBuffer_dropPolicy id world.submissions (owned id rfl).1
    rw [← world.submit_stream] at same calls
    have onscreen : (world.submit (some id)).onscreen = world.onscreen := by
      obtain ⟨-, -, arbiter, -⟩ :=
        world.stream.submitBuffer_accepted id world.submissions (owned id rfl).1
      rw [World.onscreen, World.submit_stream, arbiter]
      rfl
    have associatedLater : AllAssociated (world.submit (some id)) := by
      intro other submitted
      rw [same]
      obtain ⟨stream, result, -, -⟩ := world.submit_accepted id (owned id rfl).1
      rw [result] at submitted
      rcases List.mem_append.mp submitted with back | before
      · simp at back
      · rcases List.mem_cons.mp before with equal | old
        · exact Event.submitted.inj equal ▸ member
        · exact associated other old
    rw [calls, later.clientOwnedBufferCount_eq associatedLater, nothing, Finset.card_empty,
      onscreen]
    have nonempty : world.stream.associatedBuffers ≠ ∅ := Finset.ne_empty_of_mem member
    constructor
    · rintro ⟨_, zero⟩
      omega
    · intro few
      exact ⟨nonempty, by omega⟩

/-- One monitor shows the first of two buffers. -/
def oneMonitor : List Op :=
  [.associateBuffer 0, .associateBuffer 1, .submitBuffer (some 0), .lockCompositorBuffer 1]

theorem clientOwnedBufferCount_exact_oneMonitor :
    CallsSwapNowBlocking (oneMonitor.foldl World.step (World.initial everyBuffer)) 1 := by
  have associated : AllAssociated (oneMonitor.foldl World.step (World.initial everyBuffer)) := by
    intro id submitted
    have first : id = 0 := Event.submitted.inj (List.mem_singleton.mp submitted)
    subst first
    decide
  have counted := clientOwnedBufferCount_exact_iff everyBuffer _
    (Transition.Reaches.start.foldl oneMonitor (by decide)) associated
  exact (counted.2 1 (by decide) (by decide) (by decide) (by decide)).mpr (by decide)

/-- A second monitor still shows the first of three buffers when the client submits the last. -/
def slowMonitor : List Op :=
  [.associateBuffer 0, .associateBuffer 1, .associateBuffer 2, .submitBuffer (some 0),
    .lockCompositorBuffer 1, .lockCompositorBuffer 2, .submitBuffer (some 1),
    .lockCompositorBuffer 1]

/-- With two entries on screen the count is one too high, and the policy is not told. -/
theorem clientOwnedBufferCount_wrong_slowMonitor :
    ¬ ∀ world, Transition.Reaches World.step SubmitsOwned (World.initial everyBuffer) world →
      AllAssociated world →
      world.stream.clientOwnedBufferCount = world.clientBuffers.card ∧
      ∀ id, world.streamAlive = true → SubmitsOwned world (.submitBuffer (some id)) →
        id ∈ world.stream.associatedBuffers →
        (world.step (.submitBuffer (some id))).clientBuffers = ∅ →
        CallsSwapNowBlocking world id := by
  intro claimed
  have associated : AllAssociated (slowMonitor.foldl World.step (World.initial everyBuffer)) := by
    intro id submitted
    have either : id = 1 ∨ id = 0 := by
      rcases List.mem_cons.mp submitted with second | first
      · exact Or.inl (Event.submitted.inj second)
      · exact Or.inr (Event.submitted.inj (List.mem_singleton.mp first))
    rcases either with rfl | rfl <;> decide
  have wrong := claimed _ (Transition.Reaches.start.foldl slowMonitor (by decide)) associated
  have silent := wrong.2 2 (by decide) (by decide) (by decide) (by decide)
  exact absurd silent (by unfold CallsSwapNowBlocking; decide)

end Mir.Compositor

/-
This file proves in what order compositors are given frames while a stream queues, in
the runs that keep away from what breaks each of three statements.

* No compositor is given an older frame than before, unless cleaning uncovers one.
* A single compositor is given every frame in turn, unless a snapshot takes a frame
  off the schedule, or sends one back, that it has not been given.
* A compositor for which nothing is ready is given the newest frame again, unless a
  snapshot has put a frame on screen while the users of an earlier one were still
  recorded. `compositor_acquire` and `advance_schedule` forget them when they move
  the front; `snapshot_acquire` does not.
-/

import Mir.Compositor.FrameView

namespace Mir.Compositor

namespace FrameView

/-! ### A compositor for which nothing is ready -/

/-- A snapshot puts a frame on screen only while nobody is recorded as a user. -/
def UsersFresh (view : FrameView) (op : Op) : Prop :=
  op = .withMostRecentBufferDo → view.onscreen = [] → view.users = ∅

instance (view : FrameView) (op : Op) : Decidable (view.UsersFresh op) :=
  inferInstanceAs (Decidable (_ → _ → _))

/-- The newest frame is the last in the queue or, when nothing waits, the front one, and then
the recorded users have been given it. -/
structure UpToDate (view : FrameView) : Prop where
  lastNewest : ∀ last ∈ view.waiting.getLast?, last.submission + 1 = view.submissions
  frontNewest : view.waiting = [] → 0 < view.submissions →
    ∃ front ∈ view.onscreen.head?, front.frame.submission + 1 = view.submissions
  usersGiven : view.waiting = [] → ∀ id ∈ view.users, ∀ front ∈ view.onscreen.head?,
    (id, front.frame) ∈ view.given

namespace UpToDate

variable {view : FrameView}

/-- Entries may change behind the front frame, and once something waits the front may too. -/
theorem reshown (current : UpToDate view) {entries : List ScheduleEntry}
    (front : view.waiting = [] →
      entries.head?.map ScheduleEntry.frame = view.onscreen.head?.map ScheduleEntry.frame) :
    UpToDate { view with onscreen := entries } := by
  have same (nothing : view.waiting = []) {entry : ScheduleEntry}
      (first : entry ∈ entries.head?) :
      ∃ other ∈ view.onscreen.head?, other.frame = entry.frame := by
    have equal := front nothing
    rw [Option.mem_def.mp first, Option.map_some] at equal
    exact Option.map_eq_some_iff.mp equal.symm
  refine ⟨current.lastNewest, fun nothing some => ?_, fun nothing id user entry first => ?_⟩
  · obtain ⟨shown, head, newest⟩ := current.frontNewest nothing some
    have equal := front nothing
    rw [Option.mem_def.mp head, Option.map_some] at equal
    obtain ⟨other, first, frame⟩ := Option.map_eq_some_iff.mp equal
    exact ⟨other, first, frame ▸ newest⟩
  · obtain ⟨other, head, frame⟩ := same nothing first
    exact frame ▸ current.usersGiven nothing id user other head

/-- The last frame of the queue moves to the front, with users that have been given it. -/
theorem putOnScreen (current : UpToDate view) {entries : List ScheduleEntry}
    {users : Finset CompositorID} {given : List (CompositorID × Frame)} (older : List Frame)
    (frame : Frame) (tail : List Frame) (queued : view.waiting = older ++ frame :: tail)
    (front : tail = [] → entries.head?.map ScheduleEntry.frame = some frame)
    (told : tail = [] → ∀ id ∈ users, (id, frame) ∈ given) :
    UpToDate { view with
      onscreen := entries, users := users, waiting := tail, given := given } := by
  refine ⟨fun last member => current.lastNewest last ?_, fun nothing _ => ?_,
    fun nothing id user entry first => ?_⟩
  · rw [queued]
    cases tail with
    | nil => cases member
    | cons next rest =>
      rw [List.getLast?_append_of_ne_nil _ (by simp), List.getLast?_cons_cons]
      exact member
  · obtain ⟨entry, head, equal⟩ := Option.map_eq_some_iff.mp (front nothing)
    have last : frame ∈ view.waiting.getLast? := by
      obtain rfl : tail = [] := nothing
      rw [queued, List.getLast?_append_of_ne_nil _ (by simp)]
      rfl
    exact ⟨entry, head, equal ▸ current.lastNewest frame last⟩
  · have equal := front nothing
    rw [Option.mem_def.mp first, Option.map_some, Option.some.injEq] at equal
    exact equal ▸ told nothing id user

theorem step (current : UpToDate view) {op : Op} {after : FrameView}
    (moves : Moves view op after) (fresh : view.UsersFresh op) : UpToDate after := by
  cases moves with
  | idle => exact current
  | submitted id =>
    refine ⟨fun last member => ?_, fun nothing => ?_, fun nothing => ?_⟩
    · rw [List.getLast?_append_of_ne_nil _ (by simp)] at member
      obtain rfl : _ = last := by simpa using member
      rfl
    · simp at nothing
    · simp at nothing
  | gaveFront id front rest shown allowed =>
    refine ⟨current.lastNewest, fun nothing some => ?_, fun nothing user member entry first => ?_⟩
    · obtain ⟨entry, head, newest⟩ := current.frontNewest nothing some
      obtain rfl : front = entry := by simpa [shown] using head
      exact ⟨_, rfl, newest⟩
    · obtain rfl : _ = entry := by simpa using first
      rcases Finset.mem_insert.mp member with rfl | before
      · exact List.mem_cons_self
      · refine List.mem_cons_of_mem _ (current.usersGiven nothing user ?_ front (by simp [shown]))
        split at before
        · cases before
        · exact before
  | gaveNext id frame tail next moved =>
    refine current.putOnScreen [] frame tail next (fun _ => rfl) fun _ user member => ?_
    rw [Finset.mem_singleton.mp member]
    exact List.mem_cons_self
  | released frame entry shown used =>
    refine current.reshown fun nothing => ?_
    split
    · exact takeUse_head _ _
    · rw [nothing, cleaned_head, takeUse_head]
  | snapshot front rest shown =>
    refine current.reshown fun nothing => ?_
    rw [nothing, cleaned_head]
  | snapshotNext frame tail nothing next =>
    refine current.putOnScreen [] frame tail next (fun last => ?_) fun _ user member => ?_
    · rw [last, cleaned_head]
      rfl
    · rw [fresh rfl nothing] at member
      cases member
  | droppedFrame frame next rest queued =>
    refine ⟨fun last member => current.lastNewest last ?_, fun nothing => ?_, fun nothing => ?_⟩
    · rw [queued, List.getLast?_cons_cons]
      exact member
    · cases nothing
    · cases nothing
  | droppedOld older last queued =>
    refine current.putOnScreen older last [] queued (fun _ => rfl) fun _ user member => ?_
    cases member

end UpToDate

/-! ### A single compositor -/

/-- A snapshot neither takes a frame off the schedule that the recorded users will miss or that
goes back at once, nor sends back a front frame that nobody was given. -/
def FramesStay (view : FrameView) (op : Op) : Prop :=
  op = .withMostRecentBufferDo →
    match view.onscreen with
    | [] => view.users = ∅ ∧ view.waiting.length ≤ 1
    | front :: _ => front.useCount ≠ 0 ∨ view.waiting = [] ∨ view.users ≠ ∅

instance (view : FrameView) (op : Op) : Decidable (view.FramesStay op) :=
  match onscreen : view.onscreen with
  | [] => decidable_of_iff
      (op = .withMostRecentBufferDo → view.users = ∅ ∧ view.waiting.length ≤ 1)
      (by simp only [FramesStay, onscreen])
  | front :: _ => decidable_of_iff
      (op = .withMostRecentBufferDo →
        front.useCount ≠ 0 ∨ view.waiting = [] ∨ view.users ≠ ∅)
      (by simp only [FramesStay, onscreen])

/-- The runs of one compositor that drop nothing. -/
def OnlyCompositor (only : CompositorID) : Op → Prop
  | .lockCompositorBuffer id => id = only
  | .dropOldBuffers => False
  | .dropFrame => False
  | _ => True

instance (only : CompositorID) : DecidablePred (OnlyCompositor only)
  | .lockCompositorBuffer id => inferInstanceAs (Decidable (id = only))
  | .dropOldBuffers | .dropFrame => inferInstanceAs (Decidable False)
  | .submitBuffer _ | .releaseCompositorBuffer _ | .withMostRecentBufferDo | .acquireSnapshot
  | .releaseSnapshot _ | .allowFramedropping _ | .associateBuffer _ | .disassociateBuffer _
  | .destroyStream => inferInstanceAs (Decidable True)

/-- Nothing was given yet, and the first frame is at most on screen. -/
structure NotStarted (view : FrameView) (next : Nat) : Prop where
  users : view.users = ∅
  given : view.given = []
  shown : (view.onscreen = [] ∧ next = 0) ∨
    ∃ frame : Frame, view.onscreen = [⟨frame, 0⟩] ∧ frame.submission = 0 ∧ next = 1

/-- The last frame given is the one before those that wait, and is at the front if none do. -/
structure Started (only : CompositorID) (view : FrameView) (next : Nat) : Prop where
  users : view.users = {only}
  given : ∃ last, view.given.head? = some (only, last) ∧ last.submission + 1 = next ∧
    (view.waiting = [] → view.onscreen.head?.map ScheduleEntry.frame = some last)

/-- The frames that wait are those from `next` on, and `next` is the one to visit. -/
structure Visiting (only : CompositorID) (view : FrameView) (next : Nat) : Prop where
  waiting : view.waiting.map Frame.submission = List.range' next (view.submissions - next)
  bound : next ≤ view.submissions
  phase : view.NotStarted next ∨ Started only view next

namespace Visiting

variable {only : CompositorID} {view : FrameView} {next : Nat}

/-- The first frame that waits is the next to visit, and the others follow it. -/
theorem waiting_cons (visiting : Visiting only view next) {frame : Frame} {tail : List Frame}
    (queued : view.waiting = frame :: tail) :
    frame.submission = next ∧ next + 1 ≤ view.submissions ∧
      tail.map Frame.submission = List.range' (next + 1) (view.submissions - (next + 1)) := by
  have waiting := visiting.waiting
  rw [queued, List.map_cons] at waiting
  cases left : view.submissions - next with
  | zero =>
    rw [left] at waiting
    cases waiting
  | succ count =>
    rw [left, List.range'_succ] at waiting
    obtain ⟨first, rest⟩ := List.cons.inj waiting
    have fewer : view.submissions - (next + 1) = count := by omega
    exact ⟨first, by omega, fewer ▸ rest⟩

/-- When no frame waits, all have been visited. -/
theorem next_eq_of_nothing (visiting : Visiting only view next) (nothing : view.waiting = []) :
    next = view.submissions := by
  have none : [] = List.range' next (view.submissions - next) := by
    have numbers := visiting.waiting
    rwa [nothing] at numbers
  have length := congrArg List.length none
  have bound := visiting.bound
  rw [List.length_range', List.length_nil] at length
  omega

/-- Entries may change as long as the front frame stays while nothing waits. -/
theorem reshown_started (started : Started only view next) {entries : List ScheduleEntry}
    (front : view.waiting = [] →
      entries.head?.map ScheduleEntry.frame = view.onscreen.head?.map ScheduleEntry.frame) :
    Started only { view with onscreen := entries } next := by
  obtain ⟨last, given, before, shown⟩ := started.given
  exact ⟨started.users, last, given, before, fun nothing => (front nothing).trans (shown nothing)⟩

theorem submitted (visiting : Visiting only view next) (id : BufferID) :
    Visiting only
      { view with
        waiting := view.waiting ++ [⟨id, view.submissions⟩]
        submissions := view.submissions + 1 } next := by
  have bound := visiting.bound
  refine ⟨?_, Nat.le_succ_of_le bound, ?_⟩
  · have more : view.submissions + 1 - next = view.submissions - next + 1 := by omega
    have last : next + (view.submissions - next) = view.submissions := by omega
    show (view.waiting ++ [_]).map Frame.submission = _
    rw [List.map_append, visiting.waiting, more, List.range'_concat, Nat.one_mul, last]
    rfl
  · rcases visiting.phase with waits | started
    · exact Or.inl ⟨waits.users, waits.given, waits.shown⟩
    · obtain ⟨last, given, before, -⟩ := started.given
      exact Or.inr ⟨started.users, last, given, before, fun nothing => by simp at nothing⟩

/-- The compositor is given what is on screen: the first frame, or again the last one given. -/
theorem gaveFront (visiting : Visiting only view next) {front : ScheduleEntry}
    {rest : List ScheduleEntry} (shown : view.onscreen = front :: rest)
    (current : only ∉ view.users ∨ view.waiting = []) :
    Visiting only
      { view with
        onscreen := { front with useCount := front.useCount + 1 } :: usedEntries rest
        users := insert only (if only ∈ view.users then ∅ else view.users)
        given := (only, front.frame) :: view.given } next := by
  refine ⟨visiting.waiting, visiting.bound, Or.inr ?_⟩
  rcases visiting.phase with waits | started
  · rcases waits.shown with ⟨nothing, -⟩ | ⟨frame, first, number, rfl⟩
    · rw [nothing] at shown
      cases shown
    · obtain ⟨rfl, rfl⟩ := List.cons.inj (first.symm.trans shown)
      exact ⟨by simp [waits.users], frame, rfl, by rw [number], fun _ => rfl⟩
  · have member : only ∈ view.users := by
      rw [started.users]
      exact Finset.mem_singleton_self only
    have nothing : view.waiting = [] := current.resolve_left (not_not.mpr member)
    obtain ⟨last, given, before, same⟩ := started.given
    have equal := same nothing
    rw [shown] at equal
    obtain rfl : front.frame = last := by simpa using equal
    exact ⟨by simp [member], front.frame, rfl, before, fun _ => rfl⟩

/-- A buffer that somebody uses was given, so the compositor has started. -/
theorem released (visiting : Visiting only view next) (frame : Frame) {entry : ScheduleEntry}
    (shown : entry ∈ view.onscreen) (used : entry.useCount ≠ 0) :
    Visiting only
      { view with
        onscreen :=
          if view.AtFront frame.buffer then takeUse frame.buffer view.onscreen
          else cleaned view.waiting (takeUse frame.buffer view.onscreen) } next := by
  refine ⟨visiting.waiting, visiting.bound, Or.inr ?_⟩
  rcases visiting.phase with waits | started
  · rcases waits.shown with ⟨nothing, -⟩ | ⟨first, only, -, -⟩
    · rw [nothing] at shown
      cases shown
    · rw [only, List.mem_singleton] at shown
      exact absurd (by rw [shown]) used
  · refine reshown_started started fun nothing => ?_
    split
    · exact takeUse_head _ _
    · rw [nothing, cleaned_head, takeUse_head]

theorem snapshot (visiting : Visiting only view next) {front : ScheduleEntry}
    {rest : List ScheduleEntry} (shown : view.onscreen = front :: rest)
    (permitted : front.useCount ≠ 0 ∨ view.waiting = [] ∨ view.users ≠ ∅) :
    Visiting only { view with onscreen := cleaned view.waiting view.onscreen } next := by
  refine ⟨visiting.waiting, visiting.bound, ?_⟩
  rcases visiting.phase with waits | started
  · refine Or.inl ⟨waits.users, waits.given, ?_⟩
    rcases waits.shown with ⟨nothing, -⟩ | ⟨frame, first, number, one⟩
    · rw [nothing] at shown
      cases shown
    · obtain ⟨rfl, rfl⟩ := List.cons.inj (first.symm.trans shown)
      have nothing : view.waiting = [] := by
        rcases permitted with used | nothing | recorded
        · exact absurd rfl used
        · exact nothing
        · exact absurd waits.users recorded
      refine Or.inr ⟨frame, ?_, number, one⟩
      rw [nothing, first]
      rfl
  · refine Or.inr (reshown_started started fun nothing => ?_)
    rw [nothing, cleaned_head]

/-- A snapshot that puts a frame on screen puts the first one there. -/
theorem snapshotNext (visiting : Visiting only view next) {frame : Frame} {tail : List Frame}
    (nothing : view.onscreen = []) (queued : view.waiting = frame :: tail)
    (permitted : view.users = ∅ ∧ view.waiting.length ≤ 1) :
    Visiting only { view with onscreen := cleaned tail [⟨frame, 0⟩], waiting := tail } 1 := by
  obtain ⟨nobody, single⟩ := permitted
  obtain ⟨number, bound, rest⟩ := visiting.waiting_cons queued
  rcases visiting.phase with waits | started
  · obtain rfl : next = 0 := by
      rcases waits.shown with ⟨-, zero⟩ | ⟨first, only, -, -⟩
      · exact zero
      · rw [nothing] at only
        cases only
    rw [queued, List.length_cons] at single
    obtain rfl : tail = [] := List.eq_nil_of_length_eq_zero (by omega)
    exact ⟨rest, bound, Or.inl ⟨waits.users, waits.given, Or.inr ⟨frame, rfl, number, rfl⟩⟩⟩
  · rw [started.users] at nobody
    exact absurd nobody (Finset.singleton_ne_empty only)

theorem step (visiting : Visiting only view next) {op : Op} {after : FrameView}
    (moves : Moves view op after) (single : OnlyCompositor only op) (stay : view.FramesStay op) :
    ∃ next, Visiting only after next := by
  cases moves with
  | idle => exact ⟨next, visiting⟩
  | submitted id => exact ⟨next, visiting.submitted id⟩
  | gaveFront id front rest shown current =>
    obtain rfl : id = only := single
    exact ⟨next, visiting.gaveFront shown current⟩
  | gaveNext id frame tail queued moved =>
    obtain rfl : id = only := single
    obtain ⟨number, bound, rest⟩ := visiting.waiting_cons queued
    exact ⟨next + 1, rest, bound, Or.inr ⟨rfl, frame, rfl, by rw [number], fun _ => rfl⟩⟩
  | released frame entry shown used => exact ⟨next, visiting.released frame shown used⟩
  | snapshot front rest shown =>
    have permitted := stay rfl
    rw [shown] at permitted
    exact ⟨next, visiting.snapshot shown permitted⟩
  | snapshotNext frame tail nothing queued =>
    have permitted := stay rfl
    rw [nothing] at permitted
    exact ⟨1, visiting.snapshotNext nothing queued permitted⟩
  | droppedFrame => exact absurd single id
  | droppedOld => exact absurd single id

end Visiting

end FrameView

/-! ### Every run -/

namespace World

/-- Once the stream is gone nothing is given, and its destructor gives nothing. -/
theorem step_given_of_gone (world : World) (op : Op)
    (gone : world.streamAlive = false ∨ op = .destroyStream) :
    (world.step op).given = world.given := by
  have dropped (other : World) : other.dropReference.given = other.given := by
    unfold dropReference
    split <;> rfl
  rcases gone with gone | rfl
  · cases op with
    | releaseCompositorBuffer frame =>
      rw [step, release]
      split
      · exact dropped _
      · rfl
    | releaseSnapshot frame =>
      rw [step, endSnapshot]
      split
      · exact dropped _
      · rfl
    | _ => simp [step, gone]
  · cases alive : world.streamAlive with
    | false => simp [step, alive]
    | true =>
      simp only [step, alive]
      exact dropped _

/-- A property of the view holds as long as the stream lives, and what has been given stays as
it was when the stream went. -/
structure ViewKept (property : FrameView → Prop) (world : World) : Prop where
  living : world.streamAlive = true → property world.view ∧ Queues world.stream
  given : ∃ last, property last ∧ last.given = world.given

/-- A property of views that every guarded move keeps is kept in every run. -/
theorem viewKept_of_reaches {buffers : BufferMap} {world : World} (guard : FrameView → Op → Prop)
    {property : FrameView → Prop} (initially : property (World.initial buffers).view)
    (preserved : ∀ view op after, property view → view.Moves op after → guard view op →
      property after)
    (reached : Transition.Reaches World.step
      (fun world op => QueueingRun world op ∧ guard world.view op) (World.initial buffers)
      world) :
    ViewKept property world := by
  have balanced (other : World) (arrived : Transition.Reaches World.step
      (fun world op => QueueingRun world op ∧ guard world.view op) (World.initial buffers)
      other) : Balanced other :=
    balanced_of_reaches (arrived.mono fun _ _ allowed => allowed.1.1)
  refine reached.invariant_with balanced ?_ ?_
  · exact ⟨fun _ => ⟨initially, rfl, rfl⟩, _, initially, rfl⟩
  rintro before op kept ⟨living, last, holds, given⟩ ⟨allowed, guarded⟩
  by_cases gone : before.streamAlive = false ∨ op = .destroyStream
  · refine ⟨fun alive => ?_, last, holds, given.trans (before.step_given_of_gone op gone).symm⟩
    -- A stream that is gone, or that has just been destroyed, is not alive.
    exfalso
    rcases gone with gone | rfl
    · by_cases destroyed : op = .destroyStream
      · subst destroyed
        simp [step, gone] at alive
      · rw [before.step_streamAlive op destroyed, gone] at alive
        cases alive
    · cases living : before.streamAlive <;> simp [step, living] at alive
  · push Not at gone
    have alive : before.streamAlive = true := by simpa using gone.1
    obtain ⟨here, queues⟩ := living alive
    have moved := step_moves queues kept alive op allowed gone.2
    have still := preserved _ op _ here moved.moves guarded
    exact ⟨fun _ => ⟨still, moved.queues⟩, _, still, rfl⟩

end World

/-- The number of the frame to be given next: the one after the last, or the newest again. -/
def nextInTurn (world : World) : Nat :=
  match world.given.head? with
  | none => 0
  | some gift => min (gift.2.submission + 1) (world.submissions - 1)

/-- A compositor that asks is given the next frame in turn. -/
def GivesNextInTurn (world : World) (id : CompositorID) : Prop :=
  world.streamAlive = true → 0 < world.submissions →
    ∃ frame, (world.stream.lockCompositorBuffer id).result = .ok frame ∧
      frame.submission = nextInTurn world

/-- A compositor for which nothing is ready is given the newest frame, which it has had. -/
def RepeatsNewest (world : World) (id : CompositorID) : Prop :=
  world.streamAlive = true → 0 < world.submissions →
    world.stream.buffersReadyForCompositor id = 0 →
    ∃ frame, (world.stream.lockCompositorBuffer id).result = .ok frame ∧
      (id, frame) ∈ world.given ∧ frame.submission + 1 = world.submissions

/-- What a compositor that asks is given. -/
theorem lockCompositorBuffer_result (stream : Stream) (id : CompositorID) :
    (stream.lockCompositorBuffer id).result =
      (stream.arbiter.compositorAcquire stream.schedule id).map Acquired.frame := by
  unfold Stream.lockCompositorBuffer
  simp only
  cases stream.arbiter.compositorAcquire stream.schedule id <;> rfl

theorem givenInOrder_of_view {world : World} (kept : world.ViewKept FrameView.InOrder)
    (id : CompositorID) : GivenInOrder world.given id := by
  obtain ⟨last, ordered, given⟩ := kept.given
  rw [← given]
  exact ordered.givenInOrder id

/-- With nothing on screen there is no front entry. -/
theorem view_head_of_blank {world : World} (blank : world.stream.arbiter.onscreenBuffers = []) :
    world.view.onscreen.head? = none := by
  show world.stream.arbiter.onscreenBuffers.head? = none
  rw [blank]
  rfl

theorem repeatsNewest_of_view {world : World} (kept : world.ViewKept FrameView.UpToDate)
    (sync : world.stream.arbiter.mode = .multiMonitorSync) (id : CompositorID) :
    RepeatsNewest world id := by
  intro alive submitted nothingReady
  obtain ⟨current, -⟩ := kept.living alive
  have ready : ¬ world.stream.arbiter.bufferReadyFor world.stream.schedule id = true := by
    intro ready
    rw [Stream.buffersReadyForCompositor, if_pos ready] at nothingReady
    cases nothingReady
  rw [MultiMonitorArbiter.bufferReadyFor, decide_eq_true_eq, not_or, not_and_or, not_not, not_not,
    not_not] at ready
  obtain ⟨empty, user⟩ := ready
  have nothing : world.stream.schedule.frames = [] :=
    List.eq_nil_of_length_eq_zero ((Schedule.numScheduled_eq _).symm.trans empty)
  obtain ⟨front, head, newest⟩ := current.frontNewest nothing submitted
  have recorded : id ∈ world.stream.arbiter.currentBufferUsers := by
    rcases user with recorded | blank
    · exact recorded
    · rw [Option.mem_def, view_head_of_blank blank] at head
      cases head
  refine ⟨front.frame, ?_, current.usersGiven nothing id recorded front head, newest⟩
  rw [lockCompositorBuffer_result]
  rcases world.stream.arbiter.compositorAcquire_cases world.stream.schedule id sync with
    ⟨blank, -, -⟩ | ⟨first, rest, shown, -, given⟩ | ⟨frame, tail, -, queued, -⟩
  · rw [Option.mem_def, view_head_of_blank blank] at head
    cases head
  · obtain rfl : first = front := by
      have same : world.stream.arbiter.onscreenBuffers.head? = some front := head
      rw [shown] at same
      simpa using same
    rw [given]
    rfl
  · rw [nothing] at queued
    cases queued

/-- The frame on screen is the next in turn when it is the first, or when no other is ready. -/
theorem front_nextInTurn {world : World} {only : CompositorID} {next : Nat}
    (visiting : world.view.Visiting only next) {front : ScheduleEntry} {rest : List ScheduleEntry}
    (shown : world.stream.arbiter.onscreenBuffers = front :: rest)
    (current : only ∉ world.stream.arbiter.currentBufferUsers ∨
      world.stream.schedule.frames = []) :
    front.frame.submission = nextInTurn world := by
  rcases visiting.phase with waits | started
  · rcases waits.shown with ⟨blank, -⟩ | ⟨frame, first, number, -⟩
    · exact absurd (shown.symm.trans blank) (List.cons_ne_nil _ _)
    · obtain ⟨rfl, -⟩ := List.cons.inj (first.symm.trans shown)
      rw [nextInTurn, show world.given = [] from waits.given]
      exact number
  · have user : only ∈ world.stream.arbiter.currentBufferUsers := by
      rw [show world.stream.arbiter.currentBufferUsers = {only} from started.users]
      exact Finset.mem_singleton_self only
    have nothing := current.resolve_left (not_not.mpr user)
    obtain ⟨last, gift, before, same⟩ := started.given
    have equal : world.stream.arbiter.onscreenBuffers.head?.map ScheduleEntry.frame =
        some last := same nothing
    rw [shown] at equal
    obtain rfl : front.frame = last := by simpa using equal
    have all : next = world.submissions := visiting.next_eq_of_nothing nothing
    rw [nextInTurn, show world.given.head? = some (only, front.frame) from gift]
    show front.frame.submission = min (front.frame.submission + 1) (world.submissions - 1)
    omega

/-- The first frame that waits is the next in turn when the one on screen was given. -/
theorem queued_nextInTurn {world : World} {only : CompositorID} {next : Nat}
    (visiting : world.view.Visiting only next) {frame : Frame} {tail : List Frame}
    (queued : world.stream.schedule.frames = frame :: tail)
    (moves : only ∈ world.stream.arbiter.currentBufferUsers ∨
      world.stream.arbiter.onscreenBuffers = []) :
    frame.submission = nextInTurn world := by
  obtain ⟨number, bound, -⟩ := visiting.waiting_cons queued
  have bound : next + 1 ≤ world.submissions := bound
  rcases visiting.phase with waits | started
  · rw [nextInTurn, show world.given = [] from waits.given, number]
    rcases waits.shown with ⟨-, zero⟩ | ⟨first, only, -, -⟩
    · exact zero
    · exfalso
      rcases moves with user | blank
      · rw [show world.stream.arbiter.currentBufferUsers = ∅ from waits.users] at user
        cases user
      · exact absurd (only.symm.trans blank) (List.cons_ne_nil _ _)
  · obtain ⟨last, gift, before, -⟩ := started.given
    rw [nextInTurn, show world.given.head? = some (only, last) from gift, number, ← before]
    rw [← before] at bound
    show last.submission + 1 = min (last.submission + 1) (world.submissions - 1)
    omega

theorem givesNextInTurn_of_view {world : World} {only : CompositorID}
    (kept : world.ViewKept fun view => ∃ next, view.Visiting only next)
    (sync : world.stream.arbiter.mode = .multiMonitorSync) : GivesNextInTurn world only := by
  intro alive submitted
  obtain ⟨⟨next, visiting⟩, -⟩ := kept.living alive
  rw [lockCompositorBuffer_result]
  rcases world.stream.arbiter.compositorAcquire_cases world.stream.schedule only sync with
    ⟨blank, nothing, -⟩ | ⟨front, rest, shown, current, given⟩ |
      ⟨frame, tail, remaining, queued, -, -, moves, given⟩
  · exfalso
    have none := view_head_of_blank blank
    rcases visiting.phase with waits | started
    · rcases waits.shown with ⟨-, zero⟩ | ⟨frame, first, -⟩
      · have all : next = world.submissions := visiting.next_eq_of_nothing nothing
        omega
      · rw [first] at none
        cases none
    · obtain ⟨last, -, -, same⟩ := started.given
      have front := same nothing
      rw [none] at front
      cases front
  · exact ⟨front.frame, by rw [given]; rfl, front_nextInTurn visiting shown current⟩
  · exact ⟨frame, by rw [given]; rfl, queued_nextInTurn visiting queued moves⟩

/-- While a stream queues and its client submits only what it owns: every compositor is given
frames in order, as long as no cleaning uncovers an older frame in use; a single compositor is
given each frame in turn, as long as nothing is dropped and no snapshot takes a frame from it;
and a compositor for which nothing is ready is given the newest frame again, as long as no
snapshot puts a frame on screen behind the back of the recorded users. -/
theorem frames_in_order (buffers : BufferMap) :
    (∀ world, Transition.Reaches World.step
        (fun world op => QueueingRun world op ∧ world.view.CoversStay op)
        (World.initial buffers) world → ∀ id, GivenInOrder world.given id) ∧
    (∀ only world, Transition.Reaches World.step
        (fun world op => QueueingRun world op ∧
          FrameView.OnlyCompositor only op ∧ world.view.FramesStay op)
        (World.initial buffers) world → GivesNextInTurn world only) ∧
    (∀ world, Transition.Reaches World.step
        (fun world op => QueueingRun world op ∧ world.view.UsersFresh op)
        (World.initial buffers) world → ∀ id, RepeatsNewest world id) := by
  refine ⟨fun world reached id => ?_, fun only world reached => ?_, fun world reached id => ?_⟩
  · refine givenInOrder_of_view (World.viewKept_of_reaches FrameView.CoversStay ?_ ?_ reached) id
    · exact ⟨List.Pairwise.nil, by simp [FrameView.past, World.initial, World.view, World.onscreen,
        World.scheduled, Stream.new], by simp [World.view, World.scheduled, World.initial,
        Stream.new], by simp [World.view, World.initial], List.Pairwise.nil⟩
    · exact fun view op after ordered moves covers => ordered.step moves covers
  · have tracked := (balanced_of_reaches (reached.mono fun _ _ allowed => allowed.1.1)).tracked
    refine givesNextInTurn_of_view (World.viewKept_of_reaches
      (fun view op => FrameView.OnlyCompositor only op ∧ view.FramesStay op)
      ⟨0, rfl, Nat.le_refl 0, Or.inl ⟨rfl, rfl, Or.inl ⟨rfl, rfl⟩⟩⟩ ?_ reached) tracked.sync
    rintro view op after ⟨next, visiting⟩ moves ⟨single, stay⟩
    exact visiting.step moves single stay
  · have tracked := (balanced_of_reaches (reached.mono fun _ _ allowed => allowed.1.1)).tracked
    refine repeatsNewest_of_view (World.viewKept_of_reaches FrameView.UsersFresh ?_ ?_ reached)
      tracked.sync id
    · exact ⟨by simp [World.view, World.scheduled, World.initial, Stream.new],
        fun _ submitted => absurd submitted (Nat.lt_irrefl 0),
        by simp [World.view, World.initial, Stream.new]⟩
    · exact fun view op after current moves fresh => current.step moves fresh

/-- One compositor shows three frames, one of them again, with a snapshot in between. -/
def oneByOne : List Op :=
  [.submitBuffer (some 0), .withMostRecentBufferDo, .lockCompositorBuffer 1,
    .submitBuffer (some 1), .submitBuffer (some 2), .lockCompositorBuffer 1,
    .releaseCompositorBuffer ⟨0, 0⟩, .lockCompositorBuffer 1, .releaseCompositorBuffer ⟨1, 1⟩,
    .lockCompositorBuffer 1]

theorem frames_in_order_oneByOne :
    GivenInOrder (oneByOne.foldl World.step (World.initial everyBuffer)).given 1 ∧
      GivesNextInTurn (oneByOne.foldl World.step (World.initial everyBuffer)) 1 ∧
      RepeatsNewest (oneByOne.foldl World.step (World.initial everyBuffer)) 1 :=
  ⟨(frames_in_order everyBuffer).1 _ (Transition.Reaches.start.foldl oneByOne (by decide)) 1,
    (frames_in_order everyBuffer).2.1 1 _ (Transition.Reaches.start.foldl oneByOne (by decide)),
    (frames_in_order everyBuffer).2.2 _ (Transition.Reaches.start.foldl oneByOne (by decide)) 1⟩

/-- Compositor 3 keeps the first frame while compositor 2 is given the second; a snapshot then
sends the second back, and the first is the front again. -/
def uncovered : List Op :=
  [.submitBuffer (some 0), .lockCompositorBuffer 3, .submitBuffer (some 1),
    .lockCompositorBuffer 3, .releaseCompositorBuffer ⟨1, 1⟩, .lockCompositorBuffer 2,
    .releaseCompositorBuffer ⟨1, 1⟩, .lockCompositorBuffer 3, .releaseCompositorBuffer ⟨1, 1⟩,
    .submitBuffer (some 2), .withMostRecentBufferDo, .lockCompositorBuffer 2]

/-- A snapshot takes the first of two frames off the schedule and sends it back. -/
def skipped : List Op :=
  [.submitBuffer (some 0), .submitBuffer (some 1), .withMostRecentBufferDo]

/-- The second snapshot puts a frame on screen that the recorded user never had. -/
def staleUser : List Op :=
  [.submitBuffer (some 0), .lockCompositorBuffer 1, .releaseCompositorBuffer ⟨0, 0⟩,
    .submitBuffer (some 1), .withMostRecentBufferDo, .withMostRecentBufferDo]

/-- Without these conditions each of the three statements fails. -/
theorem frames_out_of_order :
    (¬ ∀ world, Transition.Reaches World.step QueueingRun (World.initial everyBuffer) world →
      ∀ id, GivenInOrder world.given id) ∧
    (¬ ∀ only world, Transition.Reaches World.step
        (fun world op => QueueingRun world op ∧ FrameView.OnlyCompositor only op)
        (World.initial everyBuffer) world → GivesNextInTurn world only) ∧
    (¬ ∀ world, Transition.Reaches World.step QueueingRun (World.initial everyBuffer) world →
      ∀ id, RepeatsNewest world id) := by
  refine ⟨fun claimed => ?_, fun claimed => ?_, fun claimed => ?_⟩
  · have ordered := claimed _ (Transition.Reaches.start.foldl uncovered (by decide)) 2
    unfold GivenInOrder at ordered
    exact absurd ordered (by decide)
  · obtain ⟨frame, given, number⟩ :=
      claimed 1 _ (Transition.Reaches.start.foldl skipped (by decide)) (by decide) (by decide)
    have second : frame = ⟨1, 1⟩ := by
      rw [lockCompositorBuffer_result] at given
      exact (Except.ok.inj given).symm
    rw [second] at number
    exact absurd number (by decide)
  · obtain ⟨frame, -, had, newest⟩ :=
      claimed _ (Transition.Reaches.start.foldl staleUser (by decide)) 1 (by decide) (by decide)
        (by decide)
    have only : (1, frame) = (1, (⟨0, 0⟩ : Frame)) := List.mem_singleton.mp had
    rw [(Prod.mk.inj only).2] at newest
    exact absurd newest (by decide)

end Mir.Compositor

/-
This file models `MultiMonitorArbiter`, which decides what buffer each compositor
gets. The buffers on screen are a deque of entries with use counts, the newest at
the front; `current_buffer_users` are the compositors that have been given the
front one. A compositor that asks again moves the schedule on for everybody.

Every method holds the arbiter's mutex from its first line to its last, so each is
one function of the arbiter and of the schedule it refers to. Entries that are
dropped are returned as the ids handed to `send_buffer`, in call order.

`use_count` is an unsigned integer of the source. Counting up is done on naturals
(a wrap there would need as many live buffer handles as there are values);
counting down keeps the wrap below zero.
-/

import Mathlib.Algebra.Group.Nat.Defs
import Mathlib.Data.Finset.Basic
import Mathlib.Data.List.Count
import Mir.Compositor.Schedule

namespace Mir.Compositor

/-- The identity of a compositor, an address in the source. -/
abbrev CompositorID := Nat

/-- The number of values of the source's unsigned integers. -/
def unsignedValues : Nat := 2 ^ 32

/-- Subtraction of unsigned integers, which wraps below zero. -/
def unsignedSub (left right : Nat) : Nat :=
  if right ≤ left then left - right else unsignedValues - (right - left)

theorem unsignedSub_of_le {left right : Nat} (enough : right ≤ left) :
    unsignedSub left right = left - right := if_pos enough

/-- How many monitors a buffer is kept for. -/
inductive MultiMonitorMode
  | multiMonitorSync
  | singleMonitorFast
  deriving DecidableEq, Repr

/-- A buffer on screen and the number of its users. -/
structure ScheduleEntry where
  frame : Frame
  useCount : Nat
  deriving DecidableEq, Repr

/-- The id of an entry's buffer. -/
def ScheduleEntry.buffer (entry : ScheduleEntry) : BufferID := entry.frame.buffer

structure MultiMonitorArbiter where
  mode : MultiMonitorMode
  onscreenBuffers : List ScheduleEntry
  currentBufferUsers : Finset CompositorID
  deriving DecidableEq

/-- What a method of the arbiter that hands out a buffer leaves behind. -/
structure Acquired where
  frame : Frame
  arbiter : MultiMonitorArbiter
  schedule : Schedule
  sent : List BufferID

/-! ### The onscreen deque -/

/-- The loop of `clean_onscreen_buffers`, from the entry its iterator is at. An unused entry is
erased and sent back, except at the beginning of the deque while nothing is scheduled: monitors
always have a buffer. Erasing the first entry leaves the iterator at the beginning. -/
def cleanOnscreenBuffers (numScheduled : Nat) : Bool → List ScheduleEntry →
    List ScheduleEntry × List BufferID
  | _, [] => ([], [])
  | atBegin, entry :: rest =>
    if entry.useCount = 0 ∧ (atBegin = false ∨ numScheduled ≠ 0) then
      let cleaned := cleanOnscreenBuffers numScheduled atBegin rest
      (cleaned.1, entry.buffer :: cleaned.2)
    else
      let cleaned := cleanOnscreenBuffers numScheduled false rest
      (entry :: cleaned.1, cleaned.2)

/-- Takes one use off the first entry with the given buffer. -/
def decreaseRefcountFor : List ScheduleEntry → BufferID → Except Error (List ScheduleEntry)
  | [], _ => .error .bufferNotScheduled
  | entry :: rest, id =>
    if entry.buffer = id then
      .ok ({ entry with useCount := unsignedSub entry.useCount 1 } :: rest)
    else
      match decreaseRefcountFor rest id with
      | .ok decreased => .ok (entry :: decreased)
      | .error error => .error error

namespace MultiMonitorArbiter

/-- Cleans the whole deque, against the number of buffers scheduled. -/
def clean (arbiter : MultiMonitorArbiter) (schedule : Schedule) :
    MultiMonitorArbiter × List BufferID :=
  let cleaned := cleanOnscreenBuffers schedule.numScheduled true arbiter.onscreenBuffers
  ({ arbiter with onscreenBuffers := cleaned.1 }, cleaned.2)

/-- Puts the next scheduled buffer, if there is one, at the front of the deque. -/
def showNext (arbiter : MultiMonitorArbiter) (schedule : Schedule) :
    MultiMonitorArbiter × Schedule :=
  if schedule.numScheduled = 0 then (arbiter, schedule)
  else
    match schedule.nextBuffer with
    | .ok (frame, rest) =>
      ({ arbiter with onscreenBuffers := ⟨frame, 0⟩ :: arbiter.onscreenBuffers }, rest)
    | .error _ => (arbiter, schedule)

/-- Gives a compositor the newest buffer it may have, moving the schedule on when the compositor
has had the front one already. -/
def compositorAcquire (arbiter : MultiMonitorArbiter) (schedule : Schedule) (id : CompositorID) :
    Except Error Acquired :=
  if arbiter.onscreenBuffers = [] ∧ schedule.numScheduled = 0 then
    .error .noBufferToGiveToCompositor
  else
    let shown :=
      if id ∈ arbiter.currentBufferUsers ∨ arbiter.onscreenBuffers = [] then
        let next := arbiter.showNext schedule
        ({ next.1 with currentBufferUsers := ∅ }, next.2)
      else (arbiter, schedule)
    let users := insert id shown.1.currentBufferUsers
    match shown.1.onscreenBuffers with
    | [] => .error .noBufferToGiveToCompositor
    | last :: rest =>
      let used : MultiMonitorArbiter :=
        { shown.1 with
          onscreenBuffers := { last with useCount := last.useCount + 1 } :: rest
          currentBufferUsers := users }
      let cleaned :=
        if arbiter.mode = .multiMonitorSync then used.clean shown.2 else (used, [])
      .ok ⟨last.frame, cleaned.1, shown.2, cleaned.2⟩

/-- Takes back a buffer a compositor was given. -/
def compositorRelease (arbiter : MultiMonitorArbiter) (schedule : Schedule) (id : BufferID) :
    Except Error (MultiMonitorArbiter × List BufferID) :=
  match decreaseRefcountFor arbiter.onscreenBuffers id with
  | .error error => .error error
  | .ok decreased =>
    let released : MultiMonitorArbiter := { arbiter with onscreenBuffers := decreased }
    if arbiter.mode = .singleMonitorFast ∨ decreased.head?.map ScheduleEntry.buffer ≠ some id then
      .ok (released.clean schedule)
    else .ok (released, [])

/-- The arbiter and the schedule a snapshot looks at: the next buffer is put on screen when
there is none. -/
def snapshotView (arbiter : MultiMonitorArbiter) (schedule : Schedule) :
    MultiMonitorArbiter × Schedule :=
  if arbiter.onscreenBuffers = [] then arbiter.showNext schedule else (arbiter, schedule)

/-- Gives a snapshot the front buffer, taking one off the schedule only when nothing is on
screen. The set of current users is left alone. -/
def snapshotAcquire (arbiter : MultiMonitorArbiter) (schedule : Schedule) :
    Except Error Acquired :=
  if arbiter.onscreenBuffers = [] ∧ schedule.numScheduled = 0 then
    .error .noBufferToGiveToSnapshotter
  else
    let shown := arbiter.snapshotView schedule
    match shown.1.onscreenBuffers with
    | [] => .error .noBufferToGiveToSnapshotter
    | last :: rest =>
      .ok ⟨last.frame,
        { shown.1 with onscreenBuffers := { last with useCount := last.useCount + 1 } :: rest },
        shown.2, []⟩

/-- Takes back a buffer a snapshot was given. -/
def snapshotRelease (arbiter : MultiMonitorArbiter) (schedule : Schedule) (id : BufferID) :
    Except Error (MultiMonitorArbiter × List BufferID) :=
  match decreaseRefcountFor arbiter.onscreenBuffers id with
  | .error error => .error error
  | .ok decreased => .ok (({ arbiter with onscreenBuffers := decreased }).clean schedule)

/-- Whether a compositor would be given a buffer it has not had. -/
def bufferReadyFor (arbiter : MultiMonitorArbiter) (schedule : Schedule) (id : CompositorID) :
    Bool :=
  schedule.numScheduled ≠ 0 ∨ (id ∉ arbiter.currentBufferUsers ∧ arbiter.onscreenBuffers ≠ [])

def hasBuffer (arbiter : MultiMonitorArbiter) : Bool := arbiter.onscreenBuffers ≠ []

/-- Moves the schedule on by one buffer, for every compositor. -/
def advanceSchedule (arbiter : MultiMonitorArbiter) (schedule : Schedule) :
    MultiMonitorArbiter × Schedule :=
  if schedule.numScheduled = 0 then (arbiter, schedule)
  else
    let next := arbiter.showNext schedule
    ({ next.1 with currentBufferUsers := ∅ }, next.2)

/-- What the destructor sends back: the buffers on screen that nobody uses. -/
def destroyed (arbiter : MultiMonitorArbiter) : List BufferID :=
  (arbiter.onscreenBuffers.filter fun entry => entry.useCount = 0).map ScheduleEntry.buffer

end MultiMonitorArbiter

/-! ### What cleaning keeps and sends -/

/-- The entries somebody uses. -/
def usedEntries (entries : List ScheduleEntry) : List ScheduleEntry :=
  entries.filter fun entry => entry.useCount ≠ 0

/-- The buffers of the entries nobody uses. -/
def unusedBuffers (entries : List ScheduleEntry) : List BufferID :=
  (entries.filter fun entry => entry.useCount = 0).map ScheduleEntry.buffer

@[simp] theorem mem_usedEntries {entries : List ScheduleEntry} {entry : ScheduleEntry} :
    entry ∈ usedEntries entries ↔ entry ∈ entries ∧ entry.useCount ≠ 0 := by
  simp [usedEntries]

theorem map_buffer_eq (entries : List ScheduleEntry) :
    entries.map ScheduleEntry.buffer = (entries.map ScheduleEntry.frame).map Frame.buffer := by
  rw [List.map_map]
  rfl

/-- Every entry is either used or has its buffer among the unused ones. -/
theorem usedEntries_flow (entries : List ScheduleEntry) :
    ((usedEntries entries).map ScheduleEntry.buffer ++ unusedBuffers entries).Perm
      (entries.map ScheduleEntry.buffer) := by
  have halves := List.filter_append_perm (fun entry : ScheduleEntry => entry.useCount ≠ 0) entries
  have unused : unusedBuffers entries =
      (entries.filter fun entry => !decide (entry.useCount ≠ 0)).map ScheduleEntry.buffer := by
    simp [unusedBuffers]
  rw [unused, usedEntries, ← List.map_append]
  exact halves.map ScheduleEntry.buffer

/-- Past the beginning of the deque, or with a buffer scheduled, cleaning drops every unused
entry. -/
theorem cleanOnscreenBuffers_all (numScheduled : Nat) (atBegin : Bool)
    (entries : List ScheduleEntry) (free : atBegin = false ∨ numScheduled ≠ 0) :
    cleanOnscreenBuffers numScheduled atBegin entries =
      (usedEntries entries, unusedBuffers entries) := by
  induction entries generalizing atBegin with
  | nil => rfl
  | cons entry rest inductionHypothesis =>
    by_cases unused : entry.useCount = 0
    · rw [cleanOnscreenBuffers, if_pos ⟨unused, free⟩, inductionHypothesis atBegin free]
      simp [usedEntries, unusedBuffers, unused]
    · rw [cleanOnscreenBuffers, if_neg (fun both => unused both.1),
        inductionHypothesis false (Or.inl rfl)]
      simp [usedEntries, unusedBuffers, unused]

/-- The front entry stays while it is used or while nothing is scheduled. -/
theorem cleanOnscreenBuffers_front (numScheduled : Nat) (front : ScheduleEntry)
    (rest : List ScheduleEntry) (stays : front.useCount ≠ 0 ∨ numScheduled = 0) :
    cleanOnscreenBuffers numScheduled true (front :: rest) =
      (front :: usedEntries rest, unusedBuffers rest) := by
  have kept : ¬ (front.useCount = 0 ∧ (true = false ∨ numScheduled ≠ 0)) := by
    rintro ⟨unused, absurd | scheduled⟩
    · cases absurd
    · rcases stays with used | nothing
      · exact used unused
      · exact scheduled nothing
  rw [cleanOnscreenBuffers, if_neg kept,
    cleanOnscreenBuffers_all numScheduled false rest (Or.inl rfl)]

/-- The three things cleaning can do: everything unused goes because a buffer waits, or the
front entry stays and everything unused behind it goes, or there is nothing to clean. -/
theorem cleanOnscreenBuffers_cases (numScheduled : Nat) (entries : List ScheduleEntry) :
    (entries = [] ∨ numScheduled ≠ 0) ∧ cleanOnscreenBuffers numScheduled true entries =
        (usedEntries entries, unusedBuffers entries) ∨
      ∃ front rest, entries = front :: rest ∧ numScheduled = 0 ∧
        cleanOnscreenBuffers numScheduled true entries =
          (front :: usedEntries rest, unusedBuffers rest) := by
  by_cases scheduled : numScheduled = 0
  · cases entries with
    | nil => exact Or.inl ⟨Or.inl rfl, rfl⟩
    | cons front rest =>
      exact Or.inr ⟨front, rest, rfl, scheduled,
        cleanOnscreenBuffers_front numScheduled front rest (Or.inr scheduled)⟩
  · exact Or.inl ⟨Or.inr scheduled,
      cleanOnscreenBuffers_all numScheduled true entries (Or.inr scheduled)⟩

/-- Cleaning loses no buffer: what leaves the deque is sent. -/
theorem cleanOnscreenBuffers_flow (numScheduled : Nat) (entries : List ScheduleEntry) :
    ((cleanOnscreenBuffers numScheduled true entries).1.map ScheduleEntry.buffer ++
        (cleanOnscreenBuffers numScheduled true entries).2).Perm
      (entries.map ScheduleEntry.buffer) := by
  rcases cleanOnscreenBuffers_cases numScheduled entries with
    ⟨_, cleaned⟩ | ⟨front, rest, rfl, _, cleaned⟩
  · rw [cleaned]
    exact usedEntries_flow entries
  · rw [cleaned]
    exact (usedEntries_flow rest).cons front.buffer

/-- Cleaning only removes entries. -/
theorem cleanOnscreenBuffers_sublist (numScheduled : Nat) (entries : List ScheduleEntry) :
    (cleanOnscreenBuffers numScheduled true entries).1.Sublist entries := by
  rcases cleanOnscreenBuffers_cases numScheduled entries with
    ⟨_, cleaned⟩ | ⟨front, rest, rfl, _, cleaned⟩
  · rw [cleaned]
    exact List.filter_sublist
  · rw [cleaned]
    exact List.filter_sublist.cons_cons front

/-- Cleaning keeps every entry that is used. -/
theorem cleanOnscreenBuffers_keeps (numScheduled : Nat) (entries : List ScheduleEntry)
    (entry : ScheduleEntry) (member : entry ∈ entries) (used : entry.useCount ≠ 0) :
    entry ∈ (cleanOnscreenBuffers numScheduled true entries).1 := by
  rcases cleanOnscreenBuffers_cases numScheduled entries with
    ⟨_, cleaned⟩ | ⟨front, rest, rfl, _, cleaned⟩
  · rw [cleaned]
    exact mem_usedEntries.mpr ⟨member, used⟩
  · rw [cleaned]
    rcases List.mem_cons.mp member with rfl | behind
    · exact List.mem_cons_self
    · exact List.mem_cons_of_mem _ (mem_usedEntries.mpr ⟨behind, used⟩)

/-! ### Taking one use off an entry -/

/-- The entries with one use taken off those of a buffer. -/
def takeUse (id : BufferID) (entries : List ScheduleEntry) : List ScheduleEntry :=
  entries.map fun entry =>
    if entry.buffer = id then { entry with useCount := unsignedSub entry.useCount 1 } else entry

theorem takeUse_of_notMem (id : BufferID) (entries : List ScheduleEntry)
    (absent : id ∉ entries.map ScheduleEntry.buffer) : takeUse id entries = entries := by
  refine (List.map_congr_left fun entry member => ?_).trans (List.map_id entries)
  rw [if_neg]
  · rfl
  · rintro rfl
    exact absent (List.mem_map_of_mem member)

theorem takeUse_frames (id : BufferID) (entries : List ScheduleEntry) :
    (takeUse id entries).map ScheduleEntry.frame = entries.map ScheduleEntry.frame := by
  rw [takeUse, List.map_map]
  refine List.map_congr_left fun entry _ => ?_
  simp only [Function.comp_apply]
  split <;> rfl

theorem takeUse_buffers (id : BufferID) (entries : List ScheduleEntry) :
    (takeUse id entries).map ScheduleEntry.buffer = entries.map ScheduleEntry.buffer := by
  rw [map_buffer_eq, takeUse_frames, ← map_buffer_eq]

/-- While no buffer is on screen twice, the entry found by its id is the only one there is. -/
theorem decreaseRefcountFor_of_nodup (id : BufferID) (entries : List ScheduleEntry)
    (distinct : (entries.map ScheduleEntry.buffer).Nodup)
    (present : id ∈ entries.map ScheduleEntry.buffer) :
    decreaseRefcountFor entries id = .ok (takeUse id entries) := by
  induction entries with
  | nil => cases present
  | cons entry rest inductionHypothesis =>
    rw [List.map_cons, List.nodup_cons] at distinct
    by_cases same : entry.buffer = id
    · have behind : takeUse id rest = rest := takeUse_of_notMem id rest (same ▸ distinct.1)
      rw [decreaseRefcountFor, if_pos same]
      conv_rhs => rw [takeUse, List.map_cons, if_pos same, ← takeUse, behind]
    · have later : id ∈ rest.map ScheduleEntry.buffer := by
        rcases List.mem_cons.mp present with here | later
        · exact absurd here.symm same
        · exact later
      rw [decreaseRefcountFor, if_neg same, inductionHypothesis distinct.2 later]
      simp [takeUse, same]

/-- Whatever entry is found, taking a use off it moves no frame. -/
theorem decreaseRefcountFor_frames (id : BufferID) (entries decreased : List ScheduleEntry)
    (taken : decreaseRefcountFor entries id = .ok decreased) :
    decreased.map ScheduleEntry.frame = entries.map ScheduleEntry.frame := by
  induction entries generalizing decreased with
  | nil => cases taken
  | cons entry rest inductionHypothesis =>
    rw [decreaseRefcountFor] at taken
    split at taken
    · cases taken
      rfl
    · cases later : decreaseRefcountFor rest id with
      | error error =>
        rw [later] at taken
        cases taken
      | ok others =>
        rw [later] at taken
        cases taken
        rw [List.map_cons, List.map_cons, inductionHypothesis others later]

/-! ### What the methods do -/

namespace MultiMonitorArbiter

theorem showNext_nil (arbiter : MultiMonitorArbiter) (schedule : Schedule)
    (nothing : schedule.frames = []) : arbiter.showNext schedule = (arbiter, schedule) := by
  simp [showNext, nothing]

theorem showNext_cons (arbiter : MultiMonitorArbiter) (schedule : Schedule) (frame : Frame)
    (rest : List Frame) (next : schedule.frames = frame :: rest) :
    ∃ remaining : Schedule, arbiter.showNext schedule =
        ({ arbiter with onscreenBuffers := ⟨frame, 0⟩ :: arbiter.onscreenBuffers }, remaining) ∧
      remaining.frames = rest ∧ remaining.emptied = schedule.emptied := by
  obtain ⟨remaining, taken, left, same⟩ := Schedule.nextBuffer_cons next
  exact ⟨remaining, by simp [showNext, next, taken], left, same⟩

/-- The arbiter once a compositor has been given the front one of its entries. -/
def afterAcquire (arbiter : MultiMonitorArbiter) (front : ScheduleEntry)
    (rest : List ScheduleEntry) (users : Finset CompositorID) : MultiMonitorArbiter :=
  { arbiter with
    onscreenBuffers := { front with useCount := front.useCount + 1 } :: usedEntries rest
    currentBufferUsers := users }

/-- What a compositor's request can do while buffers are kept for every monitor: fail because
there is nothing; give the front buffer again; or put the next scheduled buffer on screen and
give that. In both successes the unused buffers behind the front are sent back. -/
theorem compositorAcquire_cases (arbiter : MultiMonitorArbiter) (schedule : Schedule)
    (id : CompositorID) (sync : arbiter.mode = .multiMonitorSync) :
    (arbiter.onscreenBuffers = [] ∧ schedule.frames = [] ∧
      arbiter.compositorAcquire schedule id = .error .noBufferToGiveToCompositor) ∨
    (∃ front rest, arbiter.onscreenBuffers = front :: rest ∧
      (id ∉ arbiter.currentBufferUsers ∨ schedule.frames = []) ∧
      arbiter.compositorAcquire schedule id = .ok ⟨front.frame,
        arbiter.afterAcquire front rest (insert id
          (if id ∈ arbiter.currentBufferUsers then ∅ else arbiter.currentBufferUsers)),
        schedule, unusedBuffers rest⟩) ∨
    (∃ frame tail remaining, schedule.frames = frame :: tail ∧ remaining.frames = tail ∧
      remaining.emptied = schedule.emptied ∧
      (id ∈ arbiter.currentBufferUsers ∨ arbiter.onscreenBuffers = []) ∧
      arbiter.compositorAcquire schedule id = .ok ⟨frame,
        arbiter.afterAcquire ⟨frame, 0⟩ arbiter.onscreenBuffers {id}, remaining,
        unusedBuffers arbiter.onscreenBuffers⟩) := by
  -- The front entry has just been used once more, so the cleaning that follows keeps it.
  have cleaned (mode : MultiMonitorMode) (frame : Frame) (count : Nat) (used : count ≠ 0)
      (rest : List ScheduleEntry) (users : Finset CompositorID) (left : Schedule) :
      clean ⟨mode, ⟨frame, count⟩ :: rest, users⟩ left =
        (⟨mode, ⟨frame, count⟩ :: usedEntries rest, users⟩, unusedBuffers rest) := by
    rw [clean, cleanOnscreenBuffers_front _ _ _ (Or.inl used)]
  obtain ⟨mode, entries, users⟩ := arbiter
  simp only at sync
  subst sync
  cases entries with
  | nil =>
    cases next : schedule.frames with
    | nil => exact Or.inl ⟨rfl, rfl, by simp [compositorAcquire, next]⟩
    | cons frame tail =>
      obtain ⟨remaining, shown, left, same⟩ :=
        showNext_cons ⟨.multiMonitorSync, [], users⟩ schedule frame tail next
      refine Or.inr (Or.inr ⟨frame, tail, remaining, rfl, left, same, Or.inr rfl, ?_⟩)
      simp [compositorAcquire, next, shown, cleaned, afterAcquire]
  | cons front rest =>
    by_cases user : id ∈ users
    · cases next : schedule.frames with
      | nil =>
        refine Or.inr (Or.inl ⟨front, rest, rfl, Or.inr rfl, ?_⟩)
        simp [compositorAcquire, user, showNext_nil _ schedule next, cleaned, afterAcquire]
      | cons frame tail =>
        obtain ⟨remaining, shown, left, same⟩ :=
          showNext_cons ⟨.multiMonitorSync, front :: rest, users⟩ schedule frame tail next
        refine Or.inr (Or.inr ⟨frame, tail, remaining, rfl, left, same, Or.inl user, ?_⟩)
        simp [compositorAcquire, user, shown, cleaned, afterAcquire]
    · refine Or.inr (Or.inl ⟨front, rest, rfl, Or.inl user, ?_⟩)
      simp [compositorAcquire, user, cleaned, afterAcquire]

theorem decreaseRefcountFor_front (front : ScheduleEntry) (rest : List ScheduleEntry) :
    decreaseRefcountFor ({ front with useCount := front.useCount + 1 } :: rest)
      front.frame.buffer = .ok (front :: rest) := by
  have same : ScheduleEntry.buffer { front with useCount := front.useCount + 1 } =
      front.frame.buffer := rfl
  rw [decreaseRefcountFor, if_pos same, unsignedSub_of_le (Nat.le_add_left 1 _)]
  rfl

/-- A snapshot that is taken and released leaves the use counts as they were, and cleans. -/
theorem snapshot_cases (arbiter : MultiMonitorArbiter) (schedule : Schedule) :
    (arbiter.onscreenBuffers = [] ∧ schedule.frames = [] ∧
      arbiter.snapshotAcquire schedule = .error .noBufferToGiveToSnapshotter) ∨
    ∃ front acquired, (arbiter.snapshotView schedule).1.onscreenBuffers.head? = some front ∧
      arbiter.snapshotAcquire schedule = .ok acquired ∧ acquired.frame = front.frame ∧
      acquired.schedule = (arbiter.snapshotView schedule).2 ∧
      acquired.arbiter.snapshotRelease acquired.schedule acquired.frame.buffer =
        .ok ((arbiter.snapshotView schedule).1.clean (arbiter.snapshotView schedule).2) := by
  by_cases nothing : arbiter.onscreenBuffers = [] ∧ schedule.frames = []
  · exact Or.inl ⟨nothing.1, nothing.2, by simp [snapshotAcquire, nothing]⟩
  · right
    cases shown : (arbiter.snapshotView schedule).1.onscreenBuffers with
    | nil =>
      exfalso
      by_cases empty : arbiter.onscreenBuffers = []
      · cases next : schedule.frames with
        | nil => exact nothing ⟨empty, next⟩
        | cons frame tail =>
          obtain ⟨remaining, taken, -, -⟩ := arbiter.showNext_cons schedule frame tail next
          simp [snapshotView, empty, taken] at shown
      · simp [snapshotView, empty] at shown
    | cons front rest =>
      have allowed : ¬ (arbiter.onscreenBuffers = [] ∧ schedule.numScheduled = 0) := by
        simpa using nothing
      refine ⟨front, ⟨front.frame,
        { (arbiter.snapshotView schedule).1 with
          onscreenBuffers := { front with useCount := front.useCount + 1 } :: rest },
        (arbiter.snapshotView schedule).2, []⟩, rfl, ?_, rfl, rfl, ?_⟩
      · rw [snapshotAcquire, if_neg allowed]
        simp only [shown]
      · rw [snapshotRelease, decreaseRefcountFor_front]
        simp only [← shown]

/-- What a release can do while buffers are kept for every monitor: fail because no entry has the
buffer; take a use off the front entry; or take one off an entry behind it, and clean. -/
theorem compositorRelease_cases (arbiter : MultiMonitorArbiter) (schedule : Schedule)
    (id : BufferID) (sync : arbiter.mode = .multiMonitorSync) :
    (∃ error, arbiter.compositorRelease schedule id = .error error) ∨
    ∃ decreased, decreaseRefcountFor arbiter.onscreenBuffers id = .ok decreased ∧
      ((decreased.head?.map ScheduleEntry.buffer = some id ∧
        arbiter.compositorRelease schedule id =
          .ok ({ arbiter with onscreenBuffers := decreased }, [])) ∨
      (decreased.head?.map ScheduleEntry.buffer ≠ some id ∧
        arbiter.compositorRelease schedule id =
          .ok (clean { arbiter with onscreenBuffers := decreased } schedule))) := by
  unfold compositorRelease
  cases taken : decreaseRefcountFor arbiter.onscreenBuffers id with
  | error error => exact Or.inl ⟨error, rfl⟩
  | ok decreased =>
    refine Or.inr ⟨decreased, rfl, ?_⟩
    simp only [sync, reduceCtorEq, false_or]
    by_cases front : decreased.head?.map ScheduleEntry.buffer = some id
    · exact Or.inl ⟨front, if_neg (not_not.mpr front)⟩
    · exact Or.inr ⟨front, if_pos front⟩

/-- Releasing a buffer that is on screen once takes one use off its entry, and cleans when that
entry is not the front one. -/
theorem compositorRelease_of_nodup (arbiter : MultiMonitorArbiter) (schedule : Schedule)
    (id : BufferID) (sync : arbiter.mode = .multiMonitorSync)
    (distinct : (arbiter.onscreenBuffers.map ScheduleEntry.buffer).Nodup)
    (present : id ∈ arbiter.onscreenBuffers.map ScheduleEntry.buffer) :
    arbiter.compositorRelease schedule id =
      if arbiter.onscreenBuffers.head?.map ScheduleEntry.buffer ≠ some id then
        .ok (clean { arbiter with onscreenBuffers := takeUse id arbiter.onscreenBuffers } schedule)
      else .ok ({ arbiter with onscreenBuffers := takeUse id arbiter.onscreenBuffers }, []) := by
  have front : (takeUse id arbiter.onscreenBuffers).head?.map ScheduleEntry.buffer =
      arbiter.onscreenBuffers.head?.map ScheduleEntry.buffer := by
    rw [← List.head?_map, takeUse_buffers, List.head?_map]
  rw [compositorRelease, decreaseRefcountFor_of_nodup id _ distinct present]
  simp only [sync, front, reduceCtorEq, false_or]

end MultiMonitorArbiter

end Mir.Compositor

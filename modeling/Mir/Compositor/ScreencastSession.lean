/-
This file embeds the context of a screencast session. Its own buffers wait in a queue that holds
each of them once; the display buffer takes the first one when it is bound, keeps it until it is
swapped into the queue of those that are ready, and compositing may throw at any of these moments.
To capture into a buffer of the client, the queue is rotated until the buffer is the first one.

It proves that captures are what is promised, at every moment of a run and whatever is asked next,
exactly as long as compositing throws only before the display buffer is bound and in no capture into
a buffer of the client: what else it throws leaves a buffer behind that the next capture takes up.
-/

import Mathlib.Data.List.Nodup
import Mir.Library.Throwing
import Mir.Library.Transition

namespace Mir.Compositor.Screencast

/-- The buffers that the session allocates and the ones that clients supply. -/
inductive Buffer
  | own (index : Nat)
  | client (id : Nat)
  deriving DecidableEq

def Buffer.IsOwn (buffer : Buffer) : Prop := ∃ index, buffer = .own index

inductive CaptureError
  | noBufferScheduled
  | unableToCaptureToBuffer
  | ofComposite (what : String)
  deriving DecidableEq

def CaptureError.what : CaptureError → String
  | .noBufferScheduled => "no buffer scheduled"
  | .unableToCaptureToBuffer => "unable to capture to buffer"
  | .ofComposite what => what

/-! ### The queues -/

structure QueueingSchedule where
  queue : List Buffer
  nodup : queue.Nodup

namespace QueueingSchedule

def empty : QueueingSchedule := ⟨[], List.nodup_nil⟩

/-- A buffer that is scheduled already goes to the end. -/
def schedule (free : QueueingSchedule) (buffer : Buffer) : QueueingSchedule where
  queue := free.queue.erase buffer ++ [buffer]
  nodup := by
    refine List.nodup_append'.mpr ⟨free.nodup.erase buffer, List.nodup_singleton _, ?_⟩
    exact List.disjoint_singleton.mpr free.nodup.not_mem_erase

def numScheduled (free : QueueingSchedule) : Nat := free.queue.length

def nextBuffer : QueueingSchedule → Except CaptureError (Buffer × QueueingSchedule)
  | ⟨[], _⟩ => .error .noBufferScheduled
  | ⟨buffer :: rest, nodup⟩ => .ok (buffer, ⟨rest, nodup.of_cons⟩)

/-- The first buffer is put at the end as many times. -/
def rotate : Nat → QueueingSchedule → Except CaptureError QueueingSchedule
  | 0, free => .ok free
  | times + 1, free => do
    let (buffer, rest) ← free.nextBuffer
    rotate times (rest.schedule buffer)

theorem nodup_rest {free : QueueingSchedule} {buffer : Buffer} {rest : List Buffer}
    (whole : free.queue = buffer :: rest) : rest.Nodup :=
  (whole ▸ free.nodup : (buffer :: rest).Nodup).of_cons

theorem nextBuffer_eq {free : QueueingSchedule} {buffer : Buffer} {rest : List Buffer}
    (whole : free.queue = buffer :: rest) :
    free.nextBuffer = .ok (buffer, ⟨rest, nodup_rest whole⟩) := by
  obtain ⟨queue, nodup⟩ := free
  cases whole
  rfl

theorem queue_schedule_empty (buffer : Buffer) : (empty.schedule buffer).queue = [buffer] := rfl

theorem mem_schedule (free : QueueingSchedule) (buffer other : Buffer) :
    other ∈ (free.schedule buffer).queue ↔ other ∈ free.queue ∨ other = buffer := by
  by_cases same : other = buffer
  · simp [schedule, same]
  · simp [schedule, same, List.mem_erase_of_ne same]

/-- A new buffer is behind all others. -/
theorem schedule_of_notMem (free : QueueingSchedule) {buffer : Buffer} (isNew : buffer ∉ free.queue)
    (nodup : (free.queue ++ [buffer]).Nodup) :
    free.schedule buffer = ⟨free.queue ++ [buffer], nodup⟩ := by
  simp only [schedule, List.erase_of_not_mem isNew]

/-- What is in front comes behind the rest, in its order. -/
theorem rotate_append (front back : List Buffer) (nodup : (front ++ back).Nodup)
    (rotated : (back ++ front).Nodup) :
    rotate front.length ⟨front ++ back, nodup⟩ = .ok ⟨back ++ front, rotated⟩ := by
  induction front generalizing back with
  | nil => simp only [rotate, List.length_nil, List.nil_append, List.append_nil]
  | cons buffer rest inductionHypothesis =>
    have isNew : buffer ∉ rest ++ back := (List.nodup_cons.mp nodup).1
    have moved : (rest ++ (back ++ [buffer])).Nodup := by
      rw [← List.append_assoc]
      exact List.nodup_append'.mpr
        ⟨nodup.of_cons, List.nodup_singleton _, List.disjoint_singleton.mpr isNew⟩
    have last : (back ++ [buffer] ++ rest).Nodup := by
      rw [List.append_assoc, List.singleton_append]
      exact rotated
    have scheduled : schedule ⟨rest ++ back, nodup.of_cons⟩ buffer =
        ⟨rest ++ (back ++ [buffer]), moved⟩ := by
      simp only [schedule, List.erase_of_not_mem isNew, List.append_assoc]
    calc rotate (buffer :: rest).length ⟨buffer :: rest ++ back, nodup⟩
        = rotate rest.length (schedule ⟨rest ++ back, nodup.of_cons⟩ buffer) := rfl
      _ = .ok ⟨back ++ [buffer] ++ rest, last⟩ := by
          rw [scheduled, inductionHypothesis _ moved last]
      _ = .ok ⟨back ++ buffer :: rest, rotated⟩ := by
          simp only [List.append_assoc, List.singleton_append]

/-- A new buffer comes to be the first one. -/
theorem rotate_schedule (free : QueueingSchedule) {buffer : Buffer} (isNew : buffer ∉ free.queue) :
    (free.schedule buffer).rotate free.numScheduled =
      .ok ⟨buffer :: free.queue, List.nodup_cons.mpr ⟨isNew, free.nodup⟩⟩ := by
  have nodup : (free.queue ++ [buffer]).Nodup := List.nodup_append'.mpr
    ⟨free.nodup, List.nodup_singleton _, List.disjoint_singleton.mpr isNew⟩
  rw [free.schedule_of_notMem isNew nodup]
  exact rotate_append free.queue [buffer] nodup _

end QueueingSchedule

/-! ### The session -/

/-- What the session has, with what was rendered into in a call as history. -/
structure ScreencastSessionContext where
  freeQueue : QueueingSchedule
  readyQueue : QueueingSchedule
  currentBuffer : Option Buffer
  lastCapturedBuffer : Option Buffer
  rendered : List Buffer

/-- The moments at which compositing may throw. -/
inductive Moment
  | beforeBind
  | beforeSwap
  | afterSwap
  deriving DecidableEq

namespace ScreencastSessionContext

abbrev Capturing (Value : Type) := Throwing ScreencastSessionContext CaptureError Value

def new (nbuffers : Nat) : ScreencastSessionContext where
  freeQueue := (List.range nbuffers).foldl (fun free index => free.schedule (.own index)) .empty
  readyQueue := .empty
  currentBuffer := none
  lastCapturedBuffer := none
  rendered := []

/-- Nothing was rendered into in a call that only begins. -/
def cleared (session : ScreencastSessionContext) : ScreencastSessionContext :=
  { session with rendered := [] }

def bind : Capturing Unit := do
  let session ← Throwing.readState
  match session.currentBuffer with
  | some buffer =>
    Throwing.change fun session => { session with rendered := session.rendered ++ [buffer] }
  | none =>
    let (buffer, rest) ← Throwing.ofExcept session.freeQueue.nextBuffer
    Throwing.change fun session =>
      { session with
        freeQueue := rest
        currentBuffer := some buffer
        rendered := session.rendered ++ [buffer] }

def swapBuffers (session : ScreencastSessionContext) : ScreencastSessionContext :=
  match session.currentBuffer with
  | some buffer =>
    { session with readyQueue := session.readyQueue.schedule buffer, currentBuffer := none }
  | none => session

def throwsAt (moment : Moment) (thrown : Option (Moment × String)) : Capturing Unit :=
  match thrown with
  | some (when, what) => if when = moment then Throwing.throwing (.ofComposite what) else pure ()
  | none => pure ()

def composite (thrown : Option (Moment × String)) : Capturing Unit := do
  throwsAt .beforeBind thrown
  bind
  throwsAt .beforeSwap thrown
  Throwing.change swapBuffers
  throwsAt .afterSwap thrown

/-- The buffer captured last is free again. -/
def giveBack (session : ScreencastSessionContext) : ScreencastSessionContext :=
  match session.lastCapturedBuffer with
  | some buffer => { session with freeQueue := session.freeQueue.schedule buffer }
  | none => session

def capture (thrown : Option (Moment × String)) : Capturing Buffer := do
  Throwing.change giveBack
  composite thrown
  let session ← Throwing.readState
  let (buffer, rest) ← Throwing.ofExcept session.readyQueue.nextBuffer
  Throwing.change fun session =>
    { session with readyQueue := rest, lastCapturedBuffer := some buffer }
  pure buffer

def captureTo (buffer : Buffer) (thrown : Option (Moment × String)) : Capturing Unit := do
  let session ← Throwing.readState
  let rotated ← Throwing.ofExcept
    ((session.freeQueue.schedule buffer).rotate session.freeQueue.numScheduled)
  Throwing.change fun session => { session with freeQueue := rotated }
  composite thrown
  let session ← Throwing.readState
  let (next, rest) ← Throwing.ofExcept session.readyQueue.nextBuffer
  Throwing.change fun session => { session with readyQueue := rest }
  if buffer ≠ next then Throwing.throwing .unableToCaptureToBuffer else pure ()

end ScreencastSessionContext

/-! ### Runs of captures -/

/-- A call of `capture`, into a buffer of the client or not, and what compositing throws in it. -/
structure Call where
  into : Option Nat
  thrown : Option (Moment × String)

/-- A call that is over, with the buffer that the caller of `capture` had at the time. -/
structure Capture where
  call : Call
  held : Option Buffer
  rendered : List Buffer
  result : Except CaptureError Buffer

/-- A session and what was captured in it. -/
structure Recording where
  session : ScreencastSessionContext
  held : Option Buffer
  captures : List Capture

namespace Recording

open ScreencastSessionContext (capture captureTo)

def new (nbuffers : Nat) : Recording := ⟨.new nbuffers, none, []⟩

def step (recording : Recording) (call : Call) : Recording :=
  match call.into with
  | none =>
    let (result, session) := (capture call.thrown).run recording.session.cleared
    { session
      held := result.toOption
      captures := recording.captures ++ [⟨call, none, session.rendered, result⟩] }
  | some id =>
    let (result, session) := (captureTo (.client id) call.thrown).run recording.session.cleared
    { session
      held := recording.held
      captures := recording.captures ++
        [⟨call, recording.held, session.rendered, result.map fun _ => .client id⟩] }

end Recording

/-! ### What is promised -/

structure Capture.Right (capture : Capture) : Prop where
  given : ∀ id buffer, capture.call.into = some id → capture.result = .ok buffer →
    capture.rendered = [.client id]
  succeeds : ∀ id, capture.call.into = some id → capture.call.thrown = none →
    ∃ buffer, capture.result = .ok buffer
  own : ∀ buffer, capture.call.into = none → capture.result = .ok buffer → buffer.IsOwn
  untouched : ∀ buffer, capture.held = some buffer → buffer ∉ capture.rendered

namespace Recording

/-- All captures are right, and the session's own buffers are free or captured last. -/
structure Kept (nbuffers : Nat) (recording : Recording) : Prop where
  right : ∀ capture ∈ recording.captures, capture.Right
  conserved : ∀ index, (.own index ∈ recording.session.freeQueue.queue ∨
    recording.session.lastCapturedBuffer = some (.own index)) ↔ index < nbuffers

/-- And so they are after whatever is asked next, unless compositing throws in it. -/
structure Promising (nbuffers : Nat) (recording : Recording) : Prop where
  kept : recording.Kept nbuffers
  next : ∀ into, (recording.step ⟨into, none⟩).Kept nbuffers

end Recording

/-- Compositing throws only before the display buffer is bound, and in no capture into a buffer of
the client. -/
def Call.Harmless (call : Call) : Prop :=
  ∀ when what, call.thrown = some (when, what) → when = .beforeBind ∧ call.into = none

/-! ### What a call does -/

namespace ScreencastSessionContext

variable {session bound : ScreencastSessionContext} {buffer : Buffer} {rest : List Buffer}

theorem run_bind_current (current : session.currentBuffer = some buffer) :
    bind.run session = (.ok (), { session with rendered := session.rendered ++ [buffer] }) := by
  simp only [bind, Throwing.run_bind, Throwing.run_readState, current, Throwing.run_change]

theorem run_bind_free (unbound : session.currentBuffer = none)
    (free : session.freeQueue.queue = buffer :: rest) :
    bind.run session = (.ok (), { session with
      freeQueue := ⟨rest, QueueingSchedule.nodup_rest free⟩
      currentBuffer := some buffer
      rendered := session.rendered ++ [buffer] }) := by
  simp only [bind, Throwing.run_bind, Throwing.run_readState, unbound, Throwing.run_ofExcept,
    QueueingSchedule.nextBuffer_eq free, Throwing.run_change]

/-- The buffer that is bound gets ready, whatever was rendered into. -/
theorem queue_swapBuffers (current : session.currentBuffer = some buffer) (rendered : List Buffer) :
    { session with rendered }.swapBuffers.readyQueue.queue =
      (session.readyQueue.schedule buffer).queue := by
  simp only [swapBuffers, current]

/-- What compositing leaves when it throws. -/
def thrownAt (session bound : ScreencastSessionContext) : Moment → ScreencastSessionContext
  | .beforeBind => session
  | .beforeSwap => bound
  | .afterSwap => bound.swapBuffers

theorem run_composite (binds : bind.run session = (.ok (), bound)) :
    (composite none).run session = (.ok (), bound.swapBuffers) := by
  simp only [composite, throwsAt, Throwing.run_bind, Throwing.run_pure, binds, Throwing.run_change]

theorem run_composite_throws (binds : bind.run session = (.ok (), bound)) (moment : Moment)
    (what : String) : (composite (some (moment, what))).run session =
      (.error (.ofComposite what), thrownAt session bound moment) := by
  cases moment <;>
    simp [composite, throwsAt, Throwing.run_bind, binds, thrownAt]

/-- A capture gives the first one of the buffers that are ready. -/
theorem run_capture (binds : bind.run session.giveBack = (.ok (), bound))
    (ready : bound.swapBuffers.readyQueue.queue = buffer :: rest) :
    (capture none).run session = (.ok buffer, { bound.swapBuffers with
      readyQueue := ⟨rest, QueueingSchedule.nodup_rest ready⟩
      lastCapturedBuffer := some buffer }) := by
  simp only [capture, Throwing.run_bind, Throwing.run_change, run_composite binds,
    Throwing.run_readState, Throwing.run_ofExcept, QueueingSchedule.nextBuffer_eq ready,
    Throwing.run_pure]

theorem run_capture_throws (binds : bind.run session.giveBack = (.ok (), bound)) (moment : Moment)
    (what : String) : (capture (some (moment, what))).run session =
      (.error (.ofComposite what), thrownAt session.giveBack bound moment) := by
  simp only [capture, Throwing.run_bind, Throwing.run_change, run_composite_throws binds]

section CaptureTo

variable {given : Buffer} (isNew : given ∉ session.freeQueue.queue)

/-- The given buffer is the first one that is free. -/
def withFirst (session : ScreencastSessionContext) {given : Buffer}
    (isNew : given ∉ session.freeQueue.queue) : ScreencastSessionContext :=
  { session with freeQueue :=
      ⟨given :: session.freeQueue.queue, List.nodup_cons.mpr ⟨isNew, session.freeQueue.nodup⟩⟩ }

/-- A capture into a buffer works out if it is the first one of those that are ready. -/
theorem run_captureTo (binds : bind.run (session.withFirst isNew) = (.ok (), bound))
    (ready : bound.swapBuffers.readyQueue.queue = buffer :: rest) :
    (captureTo given none).run session =
      (if given ≠ buffer then .error .unableToCaptureToBuffer else .ok (),
        { bound.swapBuffers with readyQueue := ⟨rest, QueueingSchedule.nodup_rest ready⟩ }) := by
  have rotates := session.freeQueue.rotate_schedule isNew
  have composites := run_composite binds
  unfold withFirst at composites
  simp only [captureTo, Throwing.run_bind, Throwing.run_readState, Throwing.run_ofExcept, rotates,
    Throwing.run_change, composites, QueueingSchedule.nextBuffer_eq ready]
  split <;> rfl

theorem run_captureTo_throws (binds : bind.run (session.withFirst isNew) = (.ok (), bound))
    (moment : Moment) (what : String) :
    (captureTo given (some (moment, what))).run session =
      (.error (.ofComposite what), thrownAt (session.withFirst isNew) bound moment) := by
  have rotates := session.freeQueue.rotate_schedule isNew
  have composites := run_composite_throws binds moment what
  unfold withFirst at composites ⊢
  simp only [captureTo, Throwing.run_bind, Throwing.run_readState, Throwing.run_ofExcept, rotates,
    Throwing.run_change, composites]

end CaptureTo

@[simp] theorem currentBuffer_giveBack (session : ScreencastSessionContext) :
    session.giveBack.currentBuffer = session.currentBuffer := by
  unfold giveBack
  split <;> rfl

@[simp] theorem readyQueue_giveBack (session : ScreencastSessionContext) :
    session.giveBack.readyQueue = session.readyQueue := by
  unfold giveBack
  split <;> rfl

@[simp] theorem lastCapturedBuffer_giveBack (session : ScreencastSessionContext) :
    session.giveBack.lastCapturedBuffer = session.lastCapturedBuffer := by
  unfold giveBack
  split <;> rfl

theorem mem_giveBack (session : ScreencastSessionContext) (buffer : Buffer) :
    buffer ∈ session.giveBack.freeQueue.queue ↔
      buffer ∈ session.freeQueue.queue ∨ session.lastCapturedBuffer = some buffer := by
  unfold giveBack
  cases session.lastCapturedBuffer with
  | none => simp
  | some last =>
    rw [QueueingSchedule.mem_schedule]
    simp [eq_comm]

theorem mem_new (nbuffers : Nat) (buffer : Buffer) :
    buffer ∈ (new nbuffers).freeQueue.queue ↔ ∃ index < nbuffers, buffer = .own index := by
  unfold new
  induction nbuffers with
  | zero => simp [QueueingSchedule.empty]
  | succ count inductionHypothesis =>
    rw [List.range_succ, List.foldl_append, List.foldl_cons, List.foldl_nil,
      QueueingSchedule.mem_schedule, inductionHypothesis]
    constructor
    · rintro (⟨index, less, same⟩ | same)
      · exact ⟨index, Nat.lt_succ_of_lt less, same⟩
      · exact ⟨count, Nat.lt_succ_self count, same⟩
    · rintro ⟨index, less, same⟩
      rcases Nat.lt_succ_iff_lt_or_eq.mp less with earlier | rfl
      · exact .inl ⟨index, earlier, same⟩
      · exact .inr same

end ScreencastSessionContext

/-! ### Sessions with nothing left behind -/

namespace ScreencastSessionContext

/-- No buffer is bound or ready, and the session's own buffers, and no others, are free or captured
last. -/
structure Clean (nbuffers : Nat) (session : ScreencastSessionContext) : Prop where
  unbound : session.currentBuffer = none
  unready : session.readyQueue = .empty
  free : ∀ buffer ∈ session.freeQueue.queue, buffer.IsOwn
  last : ∀ buffer, session.lastCapturedBuffer = some buffer → buffer.IsOwn
  conserved : ∀ index, (.own index ∈ session.freeQueue.queue ∨
    session.lastCapturedBuffer = some (.own index)) ↔ index < nbuffers

theorem not_isOwn_client (id : Nat) : ¬ (Buffer.client id).IsOwn := by
  rintro ⟨index, same⟩
  cases same

theorem clean_new (nbuffers : Nat) : (new nbuffers).Clean nbuffers where
  unbound := rfl
  unready := rfl
  free buffer member := by
    obtain ⟨index, -, same⟩ := (mem_new nbuffers buffer).mp member
    exact ⟨index, same⟩
  last _ captured := by cases captured
  conserved index := by
    rw [mem_new]
    constructor
    · rintro (⟨other, less, same⟩ | captured)
      · cases same
        exact less
      · cases captured
    · exact fun less => .inl ⟨index, less, rfl⟩

namespace Clean

variable {nbuffers : Nat} {session : ScreencastSessionContext}

theorem cleared (clean : session.Clean nbuffers) : session.cleared.Clean nbuffers :=
  ⟨clean.unbound, clean.unready, clean.free, clean.last, clean.conserved⟩

theorem notMem_client (clean : session.Clean nbuffers) (id : Nat) :
    .client id ∉ session.freeQueue.queue :=
  fun member => not_isOwn_client id (clean.free _ member)

theorem isOwn_of_mem_giveBack (clean : session.Clean nbuffers) {buffer : Buffer}
    (member : buffer ∈ session.giveBack.freeQueue.queue) : buffer.IsOwn := by
  rcases (session.mem_giveBack buffer).mp member with isFree | captured
  · exact clean.free buffer isFree
  · exact clean.last buffer captured

/-- A session with a buffer has a free one once the last capture is given back. -/
theorem giveBack_eq (clean : session.Clean nbuffers) (positive : 0 < nbuffers) :
    ∃ buffer rest, buffer.IsOwn ∧ session.giveBack.freeQueue.queue = buffer :: rest := by
  have member := (session.mem_giveBack _).mpr ((clean.conserved 0).mpr positive)
  obtain ⟨buffer, rest, same⟩ := List.exists_cons_of_ne_nil (List.ne_nil_of_mem member)
  exact ⟨buffer, rest, clean.isOwn_of_mem_giveBack (same ▸ List.mem_cons_self), same⟩

theorem giveBack (clean : session.Clean nbuffers) : session.giveBack.Clean nbuffers where
  unbound := session.currentBuffer_giveBack.trans clean.unbound
  unready := session.readyQueue_giveBack.trans clean.unready
  free _ := clean.isOwn_of_mem_giveBack
  last _ captured := clean.last _ (session.lastCapturedBuffer_giveBack.symm.trans captured)
  conserved index := by
    rw [mem_giveBack, lastCapturedBuffer_giveBack, or_assoc, or_self]
    exact clean.conserved index

/-- A capture gives one of the session's own buffers. -/
theorem capture (clean : session.Clean nbuffers) (positive : 0 < nbuffers) :
    ∃ buffer after, (capture none).run session = (.ok buffer, after) ∧ buffer.IsOwn ∧
      after.Clean nbuffers := by
  obtain ⟨buffer, rest, isOwn, same⟩ := clean.giveBack_eq positive
  have binds := run_bind_free clean.giveBack.unbound same
  have ready : (session.giveBack.readyQueue.schedule buffer).queue = [buffer] := by
    rw [clean.giveBack.unready, QueueingSchedule.queue_schedule_empty]
  refine ⟨buffer, _, run_capture binds ready, isOwn, rfl, rfl, fun other member => ?_,
    fun other captured => ?_, fun index => ?_⟩
  · refine clean.isOwn_of_mem_giveBack ?_
    rw [same]
    exact List.mem_cons_of_mem _ member
  · cases captured
    exact isOwn
  · refine Iff.trans ?_ (clean.conserved index)
    refine Iff.trans ?_ (session.mem_giveBack (.own index))
    rw [same, List.mem_cons]
    simp [swapBuffers, or_comm, eq_comm]

/-- A capture into a buffer of the client renders into this one. -/
theorem captureTo (clean : session.Clean nbuffers) (id : Nat) :
    ∃ after, (captureTo (.client id) none).run session = (.ok (), after) ∧
      after.rendered = session.rendered ++ [.client id] ∧ after.Clean nbuffers := by
  have isNew := clean.notMem_client id
  have unbound : (session.withFirst isNew).currentBuffer = none := clean.unbound
  have binds := run_bind_free unbound rfl
  have ready : (session.readyQueue.schedule (.client id)).queue = [.client id] := by
    rw [clean.unready, QueueingSchedule.queue_schedule_empty]
  have gives := run_captureTo isNew binds ready
  rw [if_neg (not_not_intro rfl)] at gives
  exact ⟨_, gives, rfl, rfl, rfl, clean.free, clean.last, clean.conserved⟩

end Clean

end ScreencastSessionContext

/-! ### Sessions with something left behind -/

namespace ScreencastSessionContext

section

variable {left : ScreencastSessionContext} {given buffer : Buffer} {others : List Buffer}

/-- A buffer that is left bound is captured next. -/
theorem capture_of_current (current : left.currentBuffer = some buffer)
    (unready : left.readyQueue = .empty) :
    ∃ after, (capture none).run left = (.ok buffer, after) := by
  have binds := run_bind_current (left.currentBuffer_giveBack.trans current)
  have ready : (left.giveBack.readyQueue.schedule buffer).queue = [buffer] := by
    rw [readyQueue_giveBack, unready, QueueingSchedule.queue_schedule_empty]
  exact ⟨_, run_capture binds
    ((queue_swapBuffers (left.currentBuffer_giveBack.trans current) _).trans ready)⟩

/-- The first one of the free buffers is captured next. -/
theorem capture_of_first (unbound : left.currentBuffer = none) (unready : left.readyQueue = .empty)
    (first : left.giveBack.freeQueue.queue = buffer :: others) :
    ∃ after, (capture none).run left = (.ok buffer, after) := by
  have binds := run_bind_free (left.currentBuffer_giveBack.trans unbound) first
  have ready : (left.giveBack.readyQueue.schedule buffer).queue = [buffer] := by
    rw [readyQueue_giveBack, unready, QueueingSchedule.queue_schedule_empty]
  exact ⟨_, run_capture binds ready⟩

/-- A buffer that is left ready is captured next, whatever is rendered into. -/
theorem capture_of_ready (unbound : left.currentBuffer = none)
    (ready : left.readyQueue.queue = [given])
    (first : left.giveBack.freeQueue.queue = buffer :: others) (unlike : given ≠ buffer) :
    ∃ after, (capture none).run left = (.ok given, after) := by
  have binds := run_bind_free (left.currentBuffer_giveBack.trans unbound) first
  have ready : (left.giveBack.readyQueue.schedule buffer).queue = [given, buffer] := by
    simp [ready, QueueingSchedule.schedule, List.erase_cons_tail, unlike]
  exact ⟨_, run_capture binds ready⟩

/-- Another buffer that is left bound is rendered into instead of the given one. -/
theorem captureTo_of_current (isNew : given ∉ left.freeQueue.queue)
    (current : left.currentBuffer = some buffer) (unready : left.readyQueue = .empty)
    (unlike : given ≠ buffer) :
    ∃ after, (captureTo given none).run left = (.error .unableToCaptureToBuffer, after) := by
  have withCurrent : (left.withFirst isNew).currentBuffer = some buffer := current
  have ready : (left.readyQueue.schedule buffer).queue = [buffer] := by
    rw [unready, QueueingSchedule.queue_schedule_empty]
  have gives := run_captureTo isNew (run_bind_current withCurrent)
    ((queue_swapBuffers withCurrent _).trans ready)
  rw [if_pos unlike] at gives
  exact ⟨_, gives⟩

/-- Another buffer that is left ready is taken for the given one. -/
theorem captureTo_of_ready (isNew : given ∉ left.freeQueue.queue)
    (unbound : left.currentBuffer = none) (ready : left.readyQueue.queue = [buffer])
    (unlike : given ≠ buffer) :
    ∃ after, (captureTo given none).run left = (.error .unableToCaptureToBuffer, after) := by
  have withoutCurrent : (left.withFirst isNew).currentBuffer = none := unbound
  have ready : (left.readyQueue.schedule given).queue = [buffer, given] := by
    simp [ready, QueueingSchedule.schedule, List.erase_cons_tail, unlike.symm]
  have gives := run_captureTo isNew (run_bind_free withoutCurrent rfl) ready
  rw [if_pos unlike] at gives
  exact ⟨_, gives⟩

end

namespace Clean

variable {nbuffers : Nat} {session : ScreencastSessionContext}

/-- What a failed capture into a buffer of the client leaves makes the next capture give this one
away. -/
theorem captureTo_throws (clean : session.Clean nbuffers) (positive : 0 < nbuffers) (id : Nat)
    (moment : Moment) (what : String) :
    ∃ after, (ScreencastSessionContext.capture none).run
      ((ScreencastSessionContext.captureTo (.client id)
        (some (moment, what))).run session).2.cleared = (.ok (.client id), after) := by
  have isNew := clean.notMem_client id
  have unbound : (session.withFirst isNew).currentBuffer = none := clean.unbound
  have binds := run_bind_free unbound rfl
  rw [run_captureTo_throws isNew binds moment what]
  cases moment with
  | beforeBind =>
    have first : ∃ others, (session.withFirst isNew).cleared.giveBack.freeQueue.queue =
        .client id :: others := by
      cases captured : session.lastCapturedBuffer with
      | none =>
        refine ⟨session.freeQueue.queue, ?_⟩
        simp [ScreencastSessionContext.giveBack, withFirst, ScreencastSessionContext.cleared,
          captured]
      | some last =>
        obtain ⟨index, rfl⟩ := clean.last last captured
        refine ⟨session.freeQueue.queue.erase (.own index) ++ [.own index], ?_⟩
        simp [ScreencastSessionContext.giveBack, withFirst, ScreencastSessionContext.cleared,
          captured, QueueingSchedule.schedule, List.erase_cons_tail]
    obtain ⟨others, first⟩ := first
    exact capture_of_first clean.unbound clean.unready first
  | beforeSwap => exact capture_of_current rfl clean.unready
  | afterSwap =>
    obtain ⟨buffer, rest, ⟨index, isOwn⟩, same⟩ := clean.giveBack_eq positive
    have ready : (session.readyQueue.schedule (.client id)).queue = [.client id] := by
      rw [clean.unready, QueueingSchedule.queue_schedule_empty]
    have unlike : Buffer.client id ≠ buffer := by
      rw [isOwn]
      exact nofun
    refine capture_of_ready rfl ready (Eq.trans ?_ same) unlike
    unfold ScreencastSessionContext.giveBack
    cases captured : session.lastCapturedBuffer <;>
      simp [thrownAt, swapBuffers, withFirst, ScreencastSessionContext.cleared, captured]

/-- What a capture leaves that fails once it has a buffer makes the next capture into a buffer of
the client fail. -/
theorem capture_throws (clean : session.Clean nbuffers) (positive : 0 < nbuffers) {moment : Moment}
    (isLate : moment ≠ .beforeBind) (id : Nat) (what : String) :
    ∃ after, (ScreencastSessionContext.captureTo (.client id) none).run
      ((ScreencastSessionContext.capture (some (moment, what))).run session).2.cleared =
        (.error .unableToCaptureToBuffer, after) := by
  obtain ⟨buffer, rest, ⟨index, isOwn⟩, same⟩ := clean.giveBack_eq positive
  have binds := run_bind_free clean.giveBack.unbound same
  have isNew : Buffer.client id ∉ rest := by
    intro member
    refine clean.giveBack.notMem_client id ?_
    rw [same]
    exact List.mem_cons_of_mem _ member
  have unlike : Buffer.client id ≠ buffer := by
    rw [isOwn]
    exact nofun
  rw [run_capture_throws binds moment what]
  cases moment with
  | beforeBind => exact absurd rfl isLate
  | beforeSwap => exact captureTo_of_current isNew rfl clean.giveBack.unready unlike
  | afterSwap =>
    have ready : (session.giveBack.readyQueue.schedule buffer).queue = [buffer] := by
      rw [clean.giveBack.unready, QueueingSchedule.queue_schedule_empty]
    exact captureTo_of_ready isNew rfl ready unlike

end Clean

end ScreencastSessionContext

/-! ### Every run -/

namespace Recording

open ScreencastSessionContext (capture captureTo not_isOwn_client run_bind_free run_capture_throws)

variable {nbuffers : Nat} {recording : Recording} {session : ScreencastSessionContext}

theorem step_capture {thrown : Option (Moment × String)} {result : Except CaptureError Buffer}
    (gives : (capture thrown).run recording.session.cleared = (result, session)) :
    recording.step ⟨none, thrown⟩ = ⟨session, result.toOption,
      recording.captures ++ [⟨⟨none, thrown⟩, none, session.rendered, result⟩]⟩ := by
  simp only [step, gives]

theorem step_captureTo {id : Nat} {thrown : Option (Moment × String)}
    {result : Except CaptureError Unit}
    (gives : (captureTo (.client id) thrown).run recording.session.cleared = (result, session)) :
    recording.step ⟨some id, thrown⟩ = ⟨session, recording.held, recording.captures ++
      [⟨⟨some id, thrown⟩, recording.held, session.rendered,
        result.map fun _ => .client id⟩]⟩ := by
  simp only [step, gives]

theorem session_capture (thrown : Option (Moment × String)) :
    (recording.step ⟨none, thrown⟩).session = ((capture thrown).run recording.session.cleared).2 :=
  rfl

theorem session_captureTo (id : Nat) (thrown : Option (Moment × String)) :
    (recording.step ⟨some id, thrown⟩).session =
      ((captureTo (.client id) thrown).run recording.session.cleared).2 :=
  rfl

/-- Nothing is left behind, and who captured last has one of the session's own buffers. -/
structure Clean (nbuffers : Nat) (recording : Recording) : Prop where
  session : recording.session.Clean nbuffers
  right : ∀ capture ∈ recording.captures, capture.Right
  held : ∀ buffer, recording.held = some buffer → buffer.IsOwn

theorem clean_new (nbuffers : Nat) : (new nbuffers).Clean nbuffers where
  session := ScreencastSessionContext.clean_new nbuffers
  right _ member := (List.not_mem_nil member).elim
  held _ holds := by cases holds

theorem Clean.kept (clean : recording.Clean nbuffers) : recording.Kept nbuffers :=
  ⟨clean.right, clean.session.conserved⟩

/-- One more capture is right. -/
theorem Clean.right_append (clean : recording.Clean nbuffers) {last : Capture}
    (isRight : last.Right) : ∀ capture ∈ recording.captures ++ [last], capture.Right := by
  intro capture member
  rcases List.mem_append.mp member with earlier | isLast
  · exact clean.right capture earlier
  · rw [List.mem_singleton.mp isLast]
    exact isRight

theorem Clean.step (clean : recording.Clean nbuffers) (positive : 0 < nbuffers) (call : Call)
    (harmless : call.Harmless) : (recording.step call).Clean nbuffers := by
  obtain ⟨into, thrown⟩ := call
  cases into with
  | none =>
    cases thrown with
    | none =>
      obtain ⟨buffer, after, gives, isOwn, afterClean⟩ :=
        clean.session.cleared.capture positive
      rw [step_capture gives]
      refine ⟨afterClean, clean.right_append ⟨nofun, nofun, ?_, nofun⟩, ?_⟩
      · rintro other - same
        cases same
        exact isOwn
      · intro other same
        cases same
        exact isOwn
    | some thrown =>
      obtain ⟨when, what⟩ := thrown
      obtain ⟨rfl, -⟩ := harmless when what rfl
      obtain ⟨first, rest, -, same⟩ := clean.session.cleared.giveBack_eq positive
      have binds := run_bind_free clean.session.cleared.giveBack.unbound same
      rw [step_capture (run_capture_throws binds .beforeBind what)]
      exact ⟨clean.session.cleared.giveBack,
        clean.right_append ⟨nofun, nofun, nofun, nofun⟩, nofun⟩
  | some id =>
    cases thrown with
    | none =>
      obtain ⟨after, gives, rendered, afterClean⟩ := clean.session.cleared.captureTo id
      rw [step_captureTo gives]
      refine ⟨afterClean, clean.right_append ⟨?_, ?_, nofun, ?_⟩, clean.held⟩
      · rintro other - same -
        cases same
        exact rendered
      · exact fun _ _ _ => ⟨_, rfl⟩
      · intro buffer holds member
        obtain ⟨index, rfl⟩ := clean.held buffer holds
        cases List.mem_singleton.mp (rendered ▸ member)
    | some thrown => cases (harmless thrown.1 thrown.2 rfl).2

theorem Clean.promising (clean : recording.Clean nbuffers) (positive : 0 < nbuffers) :
    recording.Promising nbuffers where
  kept := clean.kept
  next into := (clean.step positive ⟨into, none⟩ nofun).kept

/-- What is left behind comes to light in the next capture. -/
theorem Clean.harmless (clean : recording.Clean nbuffers) (positive : 0 < nbuffers) (call : Call)
    (promising : (recording.step call).Promising nbuffers) : call.Harmless := by
  obtain ⟨into, thrown⟩ := call
  rintro when what ⟨⟩
  cases into with
  | none =>
    refine ⟨?_, rfl⟩
    by_contra isLate
    obtain ⟨after, gives⟩ := clean.session.cleared.capture_throws positive isLate 0 what
    rw [← session_capture] at gives
    have kept := promising.next (some 0)
    rw [step_captureTo gives] at kept
    obtain ⟨buffer, succeeds⟩ := (kept.right _ (List.mem_append_right _
      (List.mem_singleton_self _))).succeeds 0 rfl rfl
    cases succeeds
  | some id =>
    obtain ⟨after, gives⟩ := clean.session.cleared.captureTo_throws positive id when what
    rw [← session_captureTo] at gives
    have kept := promising.next none
    rw [step_capture gives] at kept
    have isOwn := (kept.right _ (List.mem_append_right _ (List.mem_singleton_self _))).own
      (.client id) rfl rfl
    exact absurd isOwn (not_isOwn_client id)

/-- Captures are what is promised, at every moment and whatever is asked next, exactly if
compositing throws only before the display buffer is bound and in no capture into a buffer of the
client. -/
theorem captures_kept_iff {nbuffers : Nat} (positive : 0 < nbuffers) (calls : List Call) :
    (∀ done, done <+: calls → (done.foldl step (new nbuffers)).Promising nbuffers) ↔
      ∀ call ∈ calls, call.Harmless := by
  have each : Transition.AllowedAlong step (fun _ call => call.Harmless) (new nbuffers) calls ↔
      ∀ call ∈ calls, call.Harmless := Transition.allowedAlong_label_iff (new nbuffers)
  rw [← each]
  exact Transition.forall_prefix_iff_of_invariant (clean_new nbuffers)
    (fun _ call _ clean => clean.step positive call) (fun _ clean => clean.promising positive)
    (fun _ call _ clean => clean.harmless positive call)

/-- A capture that fails before it binds takes nothing with it. -/
theorem captures_kept_after_early_failure :
    0 < 1 ∧ ∀ done,
      done <+: [⟨none, none⟩, ⟨none, some (.beforeBind, "no scene")⟩, ⟨some 3, none⟩] →
        (done.foldl step (new 1)).Promising 1 := by
  refine ⟨by decide, (captures_kept_iff (by decide) _).mpr fun call member => ?_⟩
  simp only [List.mem_cons, List.not_mem_nil, or_false] at member
  rcases member with rfl | rfl | rfl
  · exact nofun
  · rintro when what ⟨⟩
    exact ⟨rfl, rfl⟩
  · exact nofun

/-- A client's buffer that does not support rendering stays bound. -/
def notSupported : Call := ⟨some 0, some (.beforeSwap, "Buffer does not support GL rendering")⟩

/-- The next capture gives that buffer away, and a capture into another one fails without a throw of
the compositor. -/
theorem bound_buffer_is_captured :
    ([notSupported, ⟨none, none⟩].foldl step (new 1)).captures.map Capture.result =
        [.error (.ofComposite "Buffer does not support GL rendering"), .ok (.client 0)] ∧
      ([notSupported, ⟨some 1, none⟩].foldl step (new 1)).captures.map Capture.result =
        [.error (.ofComposite "Buffer does not support GL rendering"),
          .error .unableToCaptureToBuffer] ∧
      ¬ ∀ nbuffers > 0, ∀ calls : List Call, (calls.foldl step (new nbuffers)).Kept nbuffers := by
  refine ⟨rfl, rfl, fun always => ?_⟩
  have kept := always 1 Nat.one_pos [notSupported, ⟨none, none⟩]
  have isOwn := (kept.right _ (List.mem_cons_of_mem _ (List.mem_singleton_self _))).own
    (.client 0) rfl rfl
  exact absurd isOwn (not_isOwn_client 0)

end Recording

end Mir.Compositor.Screencast

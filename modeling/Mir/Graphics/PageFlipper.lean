/-
This file models the page flipper of the mesa platform. The threads that wait for their page flips
share one event loop: the first to wait becomes the worker, handles the events of all CRTCs, and
hands over when its own flip is done.

It proves that one thread at a time is in the loop and that each wait returns the frame of the flip
scheduled last, and for which runs a thread that is blocked can count on a worker or on being woken
up: a worker that leaves by an exception stays the worker.
-/

import Mathlib.Logic.Function.Basic
import Mir.Library.Roster
import Mir.Library.Transition

namespace Mir.Graphics

namespace PageFlip

/-! ### Flips and frames -/

abbrev CrtcID := BitVec 32

abbrev ConnectorID := BitVec 32

abbrev FramebufferID := BitVec 32

inductive ClockID
  | realtime
  | monotonic
  deriving DecidableEq, Repr

/-- When a frame was shown: its number, and the time in nanoseconds. -/
structure Frame where
  msc : Int
  clock : ClockID
  ust : Int
  deriving DecidableEq, Repr

/-- What the kernel tells of a flip that is done. -/
structure Vblank where
  seq : Nat
  sec : Nat
  usec : Nat
  deriving DecidableEq, Repr

/-- The flips of a CRTC are known by their number, from one on. -/
structure Flip where
  crtc : CrtcID
  number : Nat
  deriving DecidableEq, Repr

/-- How `select` returns: with something to read, interrupted or with nothing, or with an error. -/
inductive Selected
  | readable
  | interrupted
  | failed
  deriving DecidableEq, Repr

/-- How far a call of `wait_for_flip` is: blocked in the condition variable or woken up; in the loop
before `select`, after it, and before the notification; or about to return. -/
inductive Phase
  | waiting (crtc : CrtcID)
  | woken (crtc : CrtcID)
  | selecting (crtc : CrtcID)
  | selected (crtc : CrtcID) (result : Selected)
  | notifying (crtc : CrtcID) (done : Bool)
  | returning (crtc : CrtcID)
  deriving DecidableEq, Repr

namespace Phase

def crtc : Phase → CrtcID
  | waiting crtc | woken crtc | selecting crtc | selected crtc _ | notifying crtc _
  | returning crtc => crtc

/-- A thread that has not given up control of the loop. -/
def inLoop : Phase → Bool
  | selecting _ | selected _ _ | notifying _ false => true
  | _ => false

def isNotifying : Phase → Bool
  | notifying _ _ => true
  | _ => false

/-- A thread that has seen its flip done. -/
def isDone : Phase → Bool
  | notifying _ true | returning _ => true
  | _ => false

/-- What a notification makes of a thread. -/
def wakeUp : Phase → Phase
  | waiting crtc => woken crtc
  | phase => phase

end Phase

/-- A return of `wait_for_flip`: the flip scheduled last, whether it was done, and the frame. -/
structure Return where
  flip : Flip
  done : Bool
  frame : Option Frame
  deriving DecidableEq, Repr

end PageFlip

open PageFlip

/-- The page flipper, the kernel's flips in flight and its events to be read, and the calls of
`wait_for_flip`. A CRTC without a completed flip has no frame. The last three fields are the
history: how many flips of a CRTC the kernel has accepted, when each was shown, and the returns. -/
structure KMSPageFlipper (Thread : Type*) where
  pendingPageFlips : CrtcID → Option ConnectorID
  completedPageFlips : CrtcID → Option Frame
  workerTid : Option Thread
  clockID : ClockID
  inFlight : List Flip
  events : List (Flip × Vblank)
  calls : Roster Thread Phase
  scheduled : CrtcID → Nat
  shown : Flip → Option Vblank
  returns : List Return

namespace KMSPageFlipper

variable {Thread : Type*}

def new (clockID : ClockID) : KMSPageFlipper Thread :=
  ⟨fun _ => none, fun _ => none, none, clockID, [], [], .empty, fun _ => 0, fun _ => none, []⟩

def pageFlipIsDone (flipper : KMSPageFlipper Thread) (crtc : CrtcID) : Bool :=
  (flipper.pendingPageFlips crtc).isNone

theorem pageFlipIsDone_iff (flipper : KMSPageFlipper Thread) (crtc : CrtcID) :
    flipper.pageFlipIsDone crtc = true ↔ flipper.pendingPageFlips crtc = none :=
  Option.isNone_iff_eq_none

/-- The frame that an event is turned into. -/
def frame (flipper : KMSPageFlipper Thread) (vblank : Vblank) : Frame :=
  ⟨vblank.seq, flipper.clockID, vblank.sec * 1000000000 + vblank.usec * 1000⟩

def lastFlip (flipper : KMSPageFlipper Thread) (crtc : CrtcID) : Flip :=
  ⟨crtc, flipper.scheduled crtc⟩

def notifyPageFlip (flipper : KMSPageFlipper Thread) (event : Flip × Vblank) :
    KMSPageFlipper Thread :=
  match flipper.pendingPageFlips event.1.crtc with
  | some _ =>
    { flipper with
      completedPageFlips := Function.update flipper.completedPageFlips event.1.crtc
        (some (flipper.frame event.2))
      pendingPageFlips := Function.update flipper.pendingPageFlips event.1.crtc none }
  | none => flipper

/-- Some of the events are read, and each is given to the handler. -/
def drmHandleEvent (flipper : KMSPageFlipper Thread) (count : Nat) : KMSPageFlipper Thread :=
  (flipper.events.take count).foldl notifyPageFlip
    { flipper with events := flipper.events.drop count }

/-- The flip is shown, and the kernel has an event for it. -/
def vblank (flipper : KMSPageFlipper Thread) (flip : Flip) (vblank : Vblank) :
    KMSPageFlipper Thread :=
  if flip ∈ flipper.inFlight then
    { flipper with
      inFlight := flipper.inFlight.erase flip
      events := flipper.events ++ [(flip, vblank)]
      shown := Function.update flipper.shown flip (some vblank) }
  else
    flipper

section Calls

variable [DecidableEq Thread]

/-- Each CRTC is scheduled and waited for by one thread at a time, and that thread is in no call. -/
def mayCall (flipper : KMSPageFlipper Thread) (thread : Thread) (crtc : CrtcID) : Bool :=
  (flipper.calls.find thread).isNone &&
    flipper.calls.entries.all fun call => decide (call.2.crtc ≠ crtc)

/-- A flip that is pending is refused with an exception. `accepted` says whether the kernel takes
the flip; the connector is only kept for the report. -/
def scheduleFlip (flipper : KMSPageFlipper Thread) (thread : Thread) (crtc : CrtcID)
    (connector : ConnectorID) (accepted : Bool) : KMSPageFlipper Thread :=
  if flipper.mayCall thread crtc = true then
    match flipper.pendingPageFlips crtc with
    | some _ => flipper
    | none =>
      if accepted = true then
        { flipper with
          pendingPageFlips := Function.update flipper.pendingPageFlips crtc (some connector)
          inFlight := flipper.inFlight ++ [⟨crtc, flipper.scheduled crtc + 1⟩]
          scheduled := Function.update flipper.scheduled crtc (flipper.scheduled crtc + 1) }
      else
        flipper
  else
    flipper

/-- The call returns, with what is in the map. -/
def finish (flipper : KMSPageFlipper Thread) (thread : Thread) (crtc : CrtcID) :
    KMSPageFlipper Thread :=
  { flipper with
    calls := flipper.calls.leave thread
    returns := ⟨flipper.lastFlip crtc, flipper.pageFlipIsDone crtc,
      flipper.completedPageFlips crtc⟩ :: flipper.returns }

/-- The first locked section, and again each time the thread wakes up: blocked behind a worker,
done, or the worker. -/
def check (flipper : KMSPageFlipper Thread) (thread : Thread) (crtc : CrtcID) :
    KMSPageFlipper Thread :=
  if flipper.workerTid.isSome ∧ flipper.pageFlipIsDone crtc = false then
    { flipper with calls := flipper.calls.change thread (.waiting crtc) }
  else if flipper.pageFlipIsDone crtc = true then
    flipper.finish thread crtc
  else
    { flipper with
      workerTid := some thread
      calls := flipper.calls.change thread (.selecting crtc) }

def waitForFlip (flipper : KMSPageFlipper Thread) (thread : Thread) (crtc : CrtcID) :
    KMSPageFlipper Thread :=
  if flipper.mayCall thread crtc = true then
    check { flipper with calls := flipper.calls.join thread (.woken crtc) } thread crtc
  else
    flipper

/-- A thread in the condition variable can also wake up without a notification. -/
def wake (flipper : KMSPageFlipper Thread) (thread : Thread) : KMSPageFlipper Thread :=
  match flipper.calls.find thread with
  | some (.waiting crtc) | some (.woken crtc) => flipper.check thread crtc
  | _ => flipper

/-- There is something to read only if there is an event. -/
def select (flipper : KMSPageFlipper Thread) (thread : Thread) (result : Selected) :
    KMSPageFlipper Thread :=
  match flipper.calls.find thread with
  | some (.selecting crtc) =>
    if result = .readable ∧ flipper.events = [] then
      flipper
    else
      { flipper with calls := flipper.calls.change thread (.selected crtc result) }
  | _ => flipper

/-- The end of the locked section of the loop: control is given up if the flip is done. -/
def giveUpControl (flipper : KMSPageFlipper Thread) (thread : Thread) (crtc : CrtcID) :
    KMSPageFlipper Thread :=
  { flipper with
    workerTid := if flipper.pageFlipIsDone crtc = true then none else flipper.workerTid
    calls := flipper.calls.change thread (.notifying crtc (flipper.pageFlipIsDone crtc)) }

/-- The locked section of the loop. An error is thrown out of it. -/
def handle (flipper : KMSPageFlipper Thread) (thread : Thread) (count : Nat) :
    KMSPageFlipper Thread :=
  match flipper.calls.find thread with
  | some (.selected crtc .readable) => (flipper.drmHandleEvent count).giveUpControl thread crtc
  | some (.selected crtc .interrupted) => flipper.giveUpControl thread crtc
  | some (.selected _ .failed) => { flipper with calls := flipper.calls.leave thread }
  | _ => flipper

def notifyAll (flipper : KMSPageFlipper Thread) (thread : Thread) : KMSPageFlipper Thread :=
  match flipper.calls.find thread with
  | some (.notifying crtc done) =>
    { flipper with
      calls := (flipper.calls.mapValues Phase.wakeUp).change thread
        (if done = true then .returning crtc else .selecting crtc) }
  | _ => flipper

def returnFrame (flipper : KMSPageFlipper Thread) (thread : Thread) : KMSPageFlipper Thread :=
  match flipper.calls.find thread with
  | some (.returning crtc) => flipper.finish thread crtc
  | _ => flipper

/-- The steps of the threads and of the kernel. -/
inductive Op (Thread : Type*)
  | scheduleFlip (thread : Thread) (crtc : CrtcID) (connector : ConnectorID) (accepted : Bool)
  | waitForFlip (thread : Thread) (crtc : CrtcID)
  | wake (thread : Thread)
  | select (thread : Thread) (result : Selected)
  | handle (thread : Thread) (count : Nat)
  | notifyAll (thread : Thread)
  | returnFrame (thread : Thread)
  | vblank (flip : Flip) (vblank : Vblank)

/-- One step. A step that a thread is not at changes nothing. -/
def step (flipper : KMSPageFlipper Thread) : Op Thread → KMSPageFlipper Thread
  | .scheduleFlip thread crtc connector accepted =>
    flipper.scheduleFlip thread crtc connector accepted
  | .waitForFlip thread crtc => flipper.waitForFlip thread crtc
  | .wake thread => flipper.wake thread
  | .select thread result => flipper.select thread result
  | .handle thread count => flipper.handle thread count
  | .notifyAll thread => flipper.notifyAll thread
  | .returnFrame thread => flipper.returnFrame thread
  | .vblank flip vblank => flipper.vblank flip vblank

end Calls

/-! ### The accounts of the flips -/

/-- What a wait that is through for a flip gives: no frame before the first flip, and then the one
of that flip. -/
def Shows (flipper : KMSPageFlipper Thread) (flip : Flip) (frame : Option Frame) : Prop :=
  (flip.number = 0 → frame = none) ∧
    (0 < flip.number → ∃ vblank, flipper.shown flip = some vblank ∧
      frame = some (flipper.frame vblank))

/-- The accounts of flips, with the events that are still to be handled: a CRTC has a flip in flight
or an event exactly as long as it is pending, and that is its last. -/
structure Accounts (flipper : KMSPageFlipper Thread) (events : List (Flip × Vblank)) : Prop where
  distinct : ((flipper.inFlight ++ events.map Prod.fst).map Flip.crtc).Nodup
  pending : ∀ flip ∈ flipper.inFlight ++ events.map Prod.fst,
    flipper.pendingPageFlips flip.crtc ≠ none ∧ flip = flipper.lastFlip flip.crtc
  inFlight : ∀ flip ∈ flipper.inFlight, flipper.shown flip = none
  events : ∀ event ∈ events, 0 < event.1.number ∧ flipper.shown event.1 = some event.2
  done : ∀ crtc, flipper.pendingPageFlips crtc = none →
    flipper.Shows (flipper.lastFlip crtc) (flipper.completedPageFlips crtc)
  numbered : ∀ flip ∈ flipper.inFlight, 0 < flip.number
  later : ∀ crtc number, flipper.scheduled crtc < number → flipper.shown ⟨crtc, number⟩ = none
  returns : ∀ returned ∈ flipper.returns, returned.done = true ∧
    flipper.Shows returned.flip returned.frame

namespace Accounts

variable {flipper : KMSPageFlipper Thread} {events : List (Flip × Vblank)}

theorem new (clockID : ClockID) : (new clockID : KMSPageFlipper Thread).Accounts [] where
  distinct := List.nodup_nil
  pending := by simp [KMSPageFlipper.new]
  inFlight := by simp [KMSPageFlipper.new]
  events := by simp
  done := fun _ _ => ⟨fun _ => rfl, fun positive => absurd positive (Nat.lt_irrefl 0)⟩
  numbered := by simp [KMSPageFlipper.new]
  later := fun _ _ _ => rfl
  returns := by simp [KMSPageFlipper.new]

/-- The accounts do not look at who waits, and are kept by a return for a flip that is done. -/
theorem withCalls (accounts : flipper.Accounts events) (calls : Roster Thread Phase)
    (workerTid : Option Thread) :
    Accounts { flipper with calls := calls, workerTid := workerTid } events :=
  ⟨accounts.distinct, accounts.pending, accounts.inFlight, accounts.events, accounts.done,
    accounts.numbered, accounts.later, accounts.returns⟩

theorem events_notifyPageFlip (flipper : KMSPageFlipper Thread) (event : Flip × Vblank) :
    (flipper.notifyPageFlip event).events = flipper.events := by
  unfold KMSPageFlipper.notifyPageFlip
  split <;> rfl

theorem events_notifyPageFlips (read : List (Flip × Vblank)) (flipper : KMSPageFlipper Thread) :
    (read.foldl KMSPageFlipper.notifyPageFlip flipper).events = flipper.events := by
  induction read generalizing flipper with
  | nil => rfl
  | cons event rest inductionHypothesis =>
    rw [List.foldl_cons, inductionHypothesis, events_notifyPageFlip]

/-- Handling an event changes neither the calls nor the worker, and no flip gets pending by it. -/
theorem notifyPageFlip_keeps (flipper : KMSPageFlipper Thread) (event : Flip × Vblank) :
    (flipper.notifyPageFlip event).calls = flipper.calls ∧
      (flipper.notifyPageFlip event).workerTid = flipper.workerTid ∧
      ∀ crtc, flipper.pendingPageFlips crtc = none →
        (flipper.notifyPageFlip event).pendingPageFlips crtc = none := by
  unfold KMSPageFlipper.notifyPageFlip
  split
  · refine ⟨rfl, rfl, fun crtc isDone => ?_⟩
    by_cases same : crtc = event.1.crtc
    · subst same
      exact Function.update_self _ _ _
    · exact (Function.update_of_ne same _ _).trans isDone
  · exact ⟨rfl, rfl, fun _ isDone => isDone⟩

theorem notifyPageFlips_keeps (read : List (Flip × Vblank)) (flipper : KMSPageFlipper Thread) :
    (read.foldl KMSPageFlipper.notifyPageFlip flipper).calls = flipper.calls ∧
      (read.foldl KMSPageFlipper.notifyPageFlip flipper).workerTid = flipper.workerTid ∧
      ∀ crtc, flipper.pendingPageFlips crtc = none →
        (read.foldl KMSPageFlipper.notifyPageFlip flipper).pendingPageFlips crtc = none := by
  induction read generalizing flipper with
  | nil => exact ⟨rfl, rfl, fun _ isDone => isDone⟩
  | cons event rest inductionHypothesis =>
    obtain ⟨calls, worker, pending⟩ := notifyPageFlip_keeps flipper event
    obtain ⟨laterCalls, laterWorker, laterPending⟩ :=
      inductionHypothesis (flipper.notifyPageFlip event)
    exact ⟨laterCalls.trans calls, laterWorker.trans worker,
      fun crtc isDone => laterPending crtc (pending crtc isDone)⟩

theorem events_drmHandleEvent (flipper : KMSPageFlipper Thread) (count : Nat) :
    (flipper.drmHandleEvent count).events = flipper.events.drop count :=
  events_notifyPageFlips _ _

/-- Handling the first event completes the flip of its CRTC. -/
theorem notifyPageFlip {event : Flip × Vblank} (accounts : flipper.Accounts (event :: events)) :
    (flipper.notifyPageFlip event).Accounts events := by
  have inAll : event.1 ∈ flipper.inFlight ++ (event :: events).map Prod.fst :=
    List.mem_append_right _ List.mem_cons_self
  obtain ⟨isPending, isLast⟩ := accounts.pending _ inAll
  obtain ⟨connector, known⟩ := Option.ne_none_iff_exists'.mp isPending
  have distinct : ((event.1 :: (flipper.inFlight ++ events.map Prod.fst)).map Flip.crtc).Nodup :=
    (List.perm_middle.map Flip.crtc).nodup_iff.mp accounts.distinct
  rw [List.map_cons, List.nodup_cons] at distinct
  have others : ∀ flip ∈ flipper.inFlight ++ events.map Prod.fst, flip.crtc ≠ event.1.crtc := by
    intro flip member same
    exact distinct.1 (List.mem_map.mpr ⟨flip, member, same⟩)
  unfold KMSPageFlipper.notifyPageFlip
  rw [known]
  refine ⟨distinct.2, fun flip member => ?_, accounts.inFlight,
    fun other member => accounts.events other (List.mem_cons_of_mem _ member),
    fun crtc isDone => ?_, accounts.numbered, accounts.later, accounts.returns⟩
  · dsimp only
    rw [Function.update_of_ne (others flip member)]
    refine accounts.pending flip ?_
    rcases List.mem_append.mp member with inFlight | inEvents
    · exact List.mem_append_left _ inFlight
    · exact List.mem_append_right _ (List.mem_cons_of_mem _ inEvents)
  · dsimp only at isDone ⊢
    by_cases same : crtc = event.1.crtc
    · subst same
      rw [Function.update_self]
      obtain ⟨positive, isShown⟩ := accounts.events event List.mem_cons_self
      have asLast : KMSPageFlipper.Shows flipper event.1 (some (flipper.frame event.2)) :=
        ⟨fun isZero => absurd positive (by omega), fun _ => ⟨event.2, isShown, rfl⟩⟩
      rw [isLast] at asLast
      exact asLast
    · rw [Function.update_of_ne same] at isDone ⊢
      exact accounts.done crtc isDone

theorem notifyPageFlips {read : List (Flip × Vblank)}
    (accounts : flipper.Accounts (read ++ events)) :
    (read.foldl KMSPageFlipper.notifyPageFlip flipper).Accounts events := by
  induction read generalizing flipper with
  | nil => exact accounts
  | cons event rest inductionHypothesis => exact inductionHypothesis accounts.notifyPageFlip

theorem drmHandleEvent (accounts : flipper.Accounts flipper.events) (count : Nat) :
    (flipper.drmHandleEvent count).Accounts (flipper.drmHandleEvent count).events := by
  have read : Accounts { flipper with events := flipper.events.drop count }
      (flipper.events.take count ++ flipper.events.drop count) := by
    rw [List.take_append_drop]
    exact ⟨accounts.distinct, accounts.pending, accounts.inFlight, accounts.events,
      accounts.done, accounts.numbered, accounts.later, accounts.returns⟩
  rw [events_drmHandleEvent]
  exact read.notifyPageFlips

/-- A flip that the kernel takes is the last of its CRTC, and is in flight. -/
theorem accept (accounts : flipper.Accounts events) {crtc : CrtcID} {connector : ConnectorID}
    (idle : flipper.pendingPageFlips crtc = none) :
    Accounts { flipper with
      pendingPageFlips := Function.update flipper.pendingPageFlips crtc (some connector)
      inFlight := flipper.inFlight ++ [⟨crtc, flipper.scheduled crtc + 1⟩]
      scheduled := Function.update flipper.scheduled crtc (flipper.scheduled crtc + 1) }
      events := by
  have others : ∀ flip ∈ flipper.inFlight ++ events.map Prod.fst, flip.crtc ≠ crtc := by
    rintro flip member rfl
    exact (accounts.pending flip member).1 idle
  have rest : List.Perm
      ((flipper.inFlight ++ [(⟨crtc, flipper.scheduled crtc + 1⟩ : Flip)]) ++ events.map Prod.fst)
      (⟨crtc, flipper.scheduled crtc + 1⟩ :: (flipper.inFlight ++ events.map Prod.fst)) := by
    rw [List.append_assoc]
    exact List.perm_middle
  refine ⟨?_, fun flip member => ?_, fun flip member => ?_, accounts.events,
    fun other isDone => ?_, fun flip member => ?_, fun other number isLater => ?_,
    accounts.returns⟩
  · refine ((rest.map Flip.crtc).nodup_iff).mpr (List.nodup_cons.mpr ⟨?_, accounts.distinct⟩)
    intro known
    obtain ⟨flip, member, same⟩ := List.mem_map.mp known
    exact others flip member same
  · dsimp only [lastFlip] at member ⊢
    rcases List.mem_cons.mp (rest.mem_iff.mp member) with rfl | earlier
    · rw [Function.update_self, Function.update_self]
      exact ⟨nofun, rfl⟩
    · rw [Function.update_of_ne (others flip earlier), Function.update_of_ne (others flip earlier)]
      exact accounts.pending flip earlier
  · rcases List.mem_append.mp member with earlier | isNew
    · exact accounts.inFlight flip earlier
    · rw [List.mem_singleton.mp isNew]
      exact accounts.later crtc _ (Nat.lt_succ_self _)
  · have unlike : other ≠ crtc := by
      rintro rfl
      dsimp only at isDone
      rw [Function.update_self] at isDone
      cases isDone
    dsimp only [lastFlip] at isDone ⊢
    rw [Function.update_of_ne unlike] at isDone ⊢
    exact accounts.done other isDone
  · rcases List.mem_append.mp member with earlier | isNew
    · exact accounts.numbered flip earlier
    · rw [List.mem_singleton.mp isNew]
      exact Nat.succ_pos _
  · refine accounts.later other number ?_
    by_cases same : other = crtc
    · subst same
      dsimp only at isLater
      rw [Function.update_self] at isLater
      exact Nat.lt_of_succ_lt isLater
    · dsimp only at isLater
      rwa [Function.update_of_ne same] at isLater

/-- What was shown of another flip is shown still. -/
theorem shows_update {flip other : Flip} {vblank : Vblank} {frame : Option Frame}
    {inFlight : List Flip} {read : List (Flip × Vblank)}
    (frameShown : flipper.Shows other frame) (unlike : 0 < other.number → other ≠ flip) :
    Shows { flipper with
      inFlight := inFlight
      events := read
      shown := Function.update flipper.shown flip (some vblank) } other frame := by
  refine ⟨frameShown.1, fun positive => ?_⟩
  obtain ⟨earlier, isShown, same⟩ := frameShown.2 positive
  refine ⟨earlier, ?_, same⟩
  dsimp only
  rw [Function.update_of_ne (unlike positive)]
  exact isShown

theorem vblank (accounts : flipper.Accounts flipper.events) (flip : Flip) (vblank : Vblank) :
    (flipper.vblank flip vblank).Accounts (flipper.vblank flip vblank).events := by
  unfold KMSPageFlipper.vblank
  split
  · next isInFlight =>
    have notShown := accounts.inFlight flip isInFlight
    have isLast := (accounts.pending flip (List.mem_append_left _ isInFlight)).2
    have isPending := (accounts.pending flip (List.mem_append_left _ isInFlight)).1
    have moved : (flipper.inFlight.erase flip ++ (flipper.events ++ [(flip, vblank)]).map Prod.fst
        ).Perm (flipper.inFlight ++ flipper.events.map Prod.fst) := by
      rw [List.map_append, ← List.append_assoc]
      refine (List.perm_append_comm).trans ?_
      exact (List.perm_cons_erase isInFlight).symm.append_right _
    have unshown : ∀ other : Flip, flipper.shown other ≠ none → other ≠ flip := by
      rintro other isShown rfl
      exact isShown notShown
    have erased : ∀ other ∈ flipper.inFlight.erase flip, other ≠ flip := by
      rintro other member rfl
      have nodup := (List.nodup_append'.mp (List.map_append ▸ accounts.distinct)).1
      exact (List.Nodup.of_map _ nodup).not_mem_erase member
    refine ⟨?_, fun other member => ?_, fun other member => ?_, fun event member => ?_,
      fun crtc isDone => ?_, fun other member => ?_, fun crtc number isLater => ?_,
      fun returned member => ?_⟩
    · exact (moved.map Flip.crtc).nodup_iff.mpr accounts.distinct
    · exact accounts.pending other (moved.mem_iff.mp member)
    · dsimp only
      rw [Function.update_of_ne (erased other member)]
      exact accounts.inFlight other (List.mem_of_mem_erase member)
    · dsimp only
      rcases List.mem_append.mp member with earlier | isNew
      · obtain ⟨positive, isShown⟩ := accounts.events event earlier
        have unlike : event.1 ≠ flip := unshown _ (by rw [isShown]; exact nofun)
        rw [Function.update_of_ne unlike]
        exact ⟨positive, isShown⟩
      · rw [List.mem_singleton.mp isNew, Function.update_self]
        exact ⟨accounts.numbered flip isInFlight, rfl⟩
    · refine shows_update (accounts.done crtc isDone) fun _ same => isPending ?_
      rw [← same]
      exact isDone
    · exact accounts.numbered other (List.mem_of_mem_erase member)
    · dsimp only
      have unlike : (⟨crtc, number⟩ : Flip) ≠ flip := by
        rintro rfl
        have same : number = flipper.scheduled crtc := congrArg Flip.number isLast
        exact absurd isLater (same ▸ Nat.lt_irrefl _)
      rw [Function.update_of_ne unlike]
      exact accounts.later crtc number isLater
    · obtain ⟨isDone, frameShown⟩ := accounts.returns returned member
      refine ⟨isDone, shows_update frameShown fun positive => ?_⟩
      obtain ⟨earlier, isShown, -⟩ := frameShown.2 positive
      exact unshown _ (by rw [isShown]; exact nofun)
  · exact accounts

/-- A call that returns for a flip that is done returns its frame. -/
theorem finish [DecidableEq Thread] (accounts : flipper.Accounts events) {crtc : CrtcID}
    (isDone : flipper.pendingPageFlips crtc = none) (thread : Thread) :
    (flipper.finish thread crtc).Accounts events := by
  refine ⟨accounts.distinct, accounts.pending, accounts.inFlight, accounts.events, accounts.done,
    accounts.numbered, accounts.later, fun returned member => ?_⟩
  rcases List.mem_cons.mp member with rfl | earlier
  · exact ⟨by simp [pageFlipIsDone, isDone], accounts.done crtc isDone⟩
  · exact accounts.returns returned earlier

end Accounts

/-! ### The worker and those who are blocked -/

section Roles

variable [DecidableEq Thread] (flipper : KMSPageFlipper Thread)

/-- Some thread is going to notify those who are blocked. -/
def WakeUpDue : Prop :=
  ∃ thread phase, flipper.calls.find thread = some phase ∧ phase.isNotifying = true

/-- The worker is in its loop, or a notification is due. -/
def Attended : Prop :=
  (∃ thread phase, flipper.calls.find thread = some phase ∧ phase.inLoop = true ∧
    flipper.workerTid = some thread) ∨ flipper.WakeUpDue

/-- What the flipper is there for: one thread is in the loop, a wait returns the frame of the flip
scheduled last, which is done, and who is blocked is attended to. -/
structure Serves : Prop where
  oneWorker : ∀ thread other phase otherPhase, flipper.calls.find thread = some phase →
    flipper.calls.find other = some otherPhase → phase.inLoop = true →
    otherPhase.inLoop = true → thread = other
  returns : ∀ returned ∈ flipper.returns, returned.done = true ∧
    flipper.Shows returned.flip returned.frame
  attended : ∀ thread crtc, flipper.calls.find thread = some (.waiting crtc) → flipper.Attended

/-- A worker does not fail while another thread is blocked, unless a notification is due, and after
that no thread gets blocked unless one is due. -/
def Attends : Op Thread → Prop
  | .handle thread _ => ∀ crtc, flipper.calls.find thread = some (.selected crtc .failed) →
    ∀ other blocked, flipper.calls.find other = some (.waiting blocked) → flipper.WakeUpDue
  | .waitForFlip thread crtc => flipper.mayCall thread crtc = true →
    flipper.workerTid.isSome → flipper.pageFlipIsDone crtc = false → flipper.Attended
  | .wake thread => ∀ crtc, (flipper.calls.find thread = some (.waiting crtc) ∨
      flipper.calls.find thread = some (.woken crtc)) →
    flipper.workerTid.isSome → flipper.pageFlipIsDone crtc = false → flipper.Attended
  | _ => True

/-- What holds as long as the worker attends to those who are blocked. -/
structure Sound : Prop where
  accounts : flipper.Accounts flipper.events
  worker : ∀ thread phase, flipper.calls.find thread = some phase → phase.inLoop = true →
    flipper.workerTid = some thread
  done : ∀ thread phase, flipper.calls.find thread = some phase → phase.isDone = true →
    flipper.pendingPageFlips phase.crtc = none
  attended : ∀ thread crtc, flipper.calls.find thread = some (.waiting crtc) → flipper.Attended

end Roles

namespace Sound

variable [DecidableEq Thread] {flipper : KMSPageFlipper Thread}

theorem serves (sound : flipper.Sound) : flipper.Serves where
  oneWorker := fun thread other phase otherPhase found otherFound inLoop otherInLoop => by
    have first := sound.worker thread phase found inLoop
    have second := sound.worker other otherPhase otherFound otherInLoop
    exact Option.some.inj (first.symm.trans second)
  returns := sound.accounts.returns
  attended := sound.attended

theorem new (clockID : ClockID) : (KMSPageFlipper.new clockID : KMSPageFlipper Thread).Sound where
  accounts := .new clockID
  worker := fun _ _ found => nomatch found
  done := fun _ _ found => nomatch found
  attended := fun _ _ found => nomatch found

/-- Where neither a worker nor one who notifies goes, whoever was attended to still is. -/
theorem attended_of_other {calls : Roster Thread Phase} {thread : Thread} {phase : Phase}
    (attended : flipper.Attended) (found : flipper.calls.find thread = some phase)
    (outside : phase.inLoop = false) (quiet : phase.isNotifying = false)
    (others : ∀ other, thread ≠ other → calls.find other = flipper.calls.find other) :
    Attended { flipper with calls := calls } := by
  have unlike : ∀ other otherPhase, flipper.calls.find other = some otherPhase →
      otherPhase.inLoop = true ∨ otherPhase.isNotifying = true → thread ≠ other := by
    rintro other otherPhase otherFound active rfl
    rw [found] at otherFound
    obtain rfl := Option.some.inj otherFound
    rw [outside, quiet] at active
    rcases active with active | active <;> cases active
  rcases attended with ⟨other, otherPhase, otherFound, inLoop, isWorker⟩ |
    ⟨other, otherPhase, otherFound, notifying⟩
  · refine .inl ⟨other, otherPhase, ?_, inLoop, isWorker⟩
    exact (others other (unlike other otherPhase otherFound (.inl inLoop))).trans otherFound
  · refine .inr ⟨other, otherPhase, ?_, notifying⟩
    exact (others other (unlike other otherPhase otherFound (.inr notifying))).trans otherFound

/-- One thread moves on or leaves, and the others stay where they are. -/
theorem moves (sound : flipper.Sound) {thread : Thread} {calls : Roster Thread Phase}
    {workerTid : Option Thread} {next : Option Phase}
    (moved : ∀ other, calls.find other =
      if thread = other then next else flipper.calls.find other)
    (worker : ∀ phase ∈ next, phase.inLoop = true → workerTid = some thread)
    (othersWorker : ∀ other phase, thread ≠ other → flipper.calls.find other = some phase →
      phase.inLoop = true → workerTid = some other)
    (done : ∀ phase ∈ next, phase.isDone = true →
      flipper.pendingPageFlips phase.crtc = none)
    (attended : ∀ other crtc, calls.find other = some (.waiting crtc) →
      Attended { flipper with calls := calls, workerTid := workerTid }) :
    Sound { flipper with calls := calls, workerTid := workerTid } where
  accounts := sound.accounts.withCalls calls workerTid
  worker := fun other phase found inLoop => by
    dsimp only at found ⊢
    rw [moved] at found
    split at found
    · next same =>
      rw [← same]
      exact worker phase found inLoop
    · next unlike => exact othersWorker other phase unlike found inLoop
  done := fun other phase found isDone => by
    dsimp only at found ⊢
    rw [moved] at found
    split at found
    · exact done phase found isDone
    · exact sound.done other phase found isDone
  attended := attended

theorem mayCall_iff (flipper : KMSPageFlipper Thread) (thread : Thread) (crtc : CrtcID) :
    flipper.mayCall thread crtc = true ↔ flipper.calls.find thread = none ∧
      ∀ other phase, flipper.calls.find other = some phase → phase.crtc ≠ crtc := by
  simp only [mayCall, Bool.and_eq_true, Option.isNone_iff_eq_none, List.all_eq_true,
    decide_eq_true_eq, Prod.forall, Roster.mem_entries_iff]

theorem scheduleFlip (sound : flipper.Sound) (thread : Thread) (crtc : CrtcID)
    (connector : ConnectorID) (accepted : Bool) :
    (flipper.scheduleFlip thread crtc connector accepted).Sound := by
  unfold KMSPageFlipper.scheduleFlip
  split
  · next mayCall =>
    obtain ⟨-, others⟩ := (mayCall_iff flipper thread crtc).mp mayCall
    split
    · exact sound
    · next idle =>
      split
      · refine ⟨sound.accounts.accept idle, sound.worker, fun other phase found isDone => ?_,
          sound.attended⟩
        dsimp only
        rw [Function.update_of_ne (others other phase found)]
        exact sound.done other phase found isDone
      · exact sound
  · exact sound

theorem vblank (sound : flipper.Sound) (flip : Flip) (vblank : Vblank) :
    (flipper.vblank flip vblank).Sound := by
  refine ⟨sound.accounts.vblank flip vblank, ?_, ?_, ?_⟩
  all_goals
    unfold KMSPageFlipper.vblank
    split
  · exact sound.worker
  · exact sound.worker
  · exact sound.done
  · exact sound.done
  · exact sound.attended
  · exact sound.attended

/-- A thread that is blocked, or about to look whether it is, blocks, returns or becomes the
worker. -/
theorem check (sound : flipper.Sound) {thread : Thread} {phase : Phase} {crtc : CrtcID}
    (found : flipper.calls.find thread = some phase)
    (outside : phase = .waiting crtc ∨ phase = .woken crtc)
    (attends : flipper.workerTid.isSome → flipper.pageFlipIsDone crtc = false →
      flipper.Attended) : (flipper.check thread crtc).Sound := by
  have notInLoop : phase.inLoop = false := by rcases outside with rfl | rfl <;> rfl
  have notNotifying : phase.isNotifying = false := by rcases outside with rfl | rfl <;> rfl
  have othersWorker : ∀ other otherPhase, thread ≠ other →
      flipper.calls.find other = some otherPhase → otherPhase.inLoop = true →
      flipper.workerTid = some other :=
    fun other otherPhase _ otherFound => sound.worker other otherPhase otherFound
  unfold KMSPageFlipper.check
  split
  · next blocks =>
    refine sound.moves (flipper.calls.find_change _ found) ?_ othersWorker ?_
      fun other blocked isBlocked => ?_
    · rintro _ ⟨⟩ inLoop
      cases inLoop
    · rintro _ ⟨⟩ isDone
      cases isDone
    · refine attended_of_other (attends blocks.1 blocks.2) found notInLoop notNotifying ?_
      intro other unlike
      rw [flipper.calls.find_change _ found, if_neg unlike]
  · next notBlocked =>
    split
    · next isDone =>
      have left : Sound { flipper with calls := flipper.calls.leave thread } := by
        refine sound.moves (flipper.calls.find_leave thread) nofun othersWorker nofun
          fun other blocked isBlocked => ?_
        rw [flipper.calls.find_leave] at isBlocked
        split at isBlocked
        · cases isBlocked
        · refine attended_of_other (sound.attended other blocked isBlocked) found notInLoop
            notNotifying fun other unlike => ?_
          rw [flipper.calls.find_leave, if_neg unlike]
      exact ⟨sound.accounts.finish ((flipper.pageFlipIsDone_iff crtc).mp isDone) thread,
        left.worker, left.done, left.attended⟩
    · next notDone =>
      have noWorker : flipper.workerTid = none := by
        by_contra known
        exact notBlocked ⟨Option.isSome_iff_ne_none.mpr known, Bool.eq_false_iff.mpr notDone⟩
      refine sound.moves (flipper.calls.find_change _ found) (fun _ _ _ => rfl) ?_ ?_
        fun other blocked isBlocked => ?_
      · intro other otherPhase unlike otherFound inLoop
        have known := sound.worker other otherPhase otherFound inLoop
        rw [noWorker] at known
        cases known
      · rintro _ ⟨⟩ isDone
        cases isDone
      · refine .inl ⟨thread, .selecting crtc, ?_, rfl, rfl⟩
        show (flipper.calls.change thread (.selecting crtc)).find thread = _
        rw [flipper.calls.find_change _ found, if_pos rfl]

theorem waitForFlip (sound : flipper.Sound) (thread : Thread) (crtc : CrtcID)
    (attends : flipper.Attends (.waitForFlip thread crtc)) :
    (flipper.waitForFlip thread crtc).Sound := by
  unfold KMSPageFlipper.waitForFlip
  split
  · next mayCall =>
    obtain ⟨unknown, -⟩ := (mayCall_iff flipper thread crtc).mp mayCall
    have others : ∀ other phase, flipper.calls.find other = some phase →
        (flipper.calls.join thread (.woken crtc)).find other = some phase := by
      intro other phase found
      rw [flipper.calls.find_join _ unknown, if_neg, found]
      rintro rfl
      rw [unknown] at found
      cases found
    have stillAttended : flipper.Attended →
        Attended { flipper with calls := flipper.calls.join thread (.woken crtc) } := by
      rintro (⟨other, phase, found, inLoop, isWorker⟩ | ⟨other, phase, found, notifying⟩)
      · exact .inl ⟨other, phase, others other phase found, inLoop, isWorker⟩
      · exact .inr ⟨other, phase, others other phase found, notifying⟩
    have joined : Sound { flipper with calls := flipper.calls.join thread (.woken crtc) } := by
      refine sound.moves (flipper.calls.find_join _ unknown) ?_
        (fun other phase _ => sound.worker other phase) ?_ fun other blocked isBlocked => ?_
      · rintro _ ⟨⟩ inLoop
        cases inLoop
      · rintro _ ⟨⟩ isDone
        cases isDone
      · rw [flipper.calls.find_join _ unknown] at isBlocked
        split at isBlocked
        · cases isBlocked
        · exact stillAttended (sound.attended other blocked isBlocked)
    have found : (flipper.calls.join thread (.woken crtc)).find thread = some (.woken crtc) := by
      rw [flipper.calls.find_join _ unknown, if_pos rfl]
    exact joined.check found (.inr rfl) fun isSome notDone =>
      stillAttended (attends mayCall isSome notDone)
  · exact sound

theorem wake (sound : flipper.Sound) (thread : Thread)
    (attends : flipper.Attends (.wake thread)) : (flipper.wake thread).Sound := by
  unfold KMSPageFlipper.wake
  split
  · next crtc found => exact sound.check found (.inl rfl) (attends crtc (.inl found))
  · next crtc found => exact sound.check found (.inr rfl) (attends crtc (.inr found))
  · exact sound

theorem select (sound : flipper.Sound) (thread : Thread) (result : Selected) :
    (flipper.select thread result).Sound := by
  unfold KMSPageFlipper.select
  split
  · next crtc found =>
    split
    · exact sound
    · have isWorker := sound.worker thread _ found rfl
      refine sound.moves (flipper.calls.find_change _ found) (fun _ _ _ => isWorker)
        (fun other phase _ => sound.worker other phase) ?_ fun other blocked isBlocked => ?_
      · rintro _ ⟨⟩ isDone
        cases isDone
      · refine .inl ⟨thread, .selected crtc result, ?_, rfl, isWorker⟩
        show (flipper.calls.change thread _).find thread = _
        rw [flipper.calls.find_change _ found, if_pos rfl]
  · exact sound

/-- At the end of its locked section the worker is about to notify the others. -/
theorem giveUpControl (sound : flipper.Sound) {thread : Thread} {crtc : CrtcID} {result : Selected}
    (found : flipper.calls.find thread = some (.selected crtc result)) :
    (flipper.giveUpControl thread crtc).Sound := by
  have isWorker := sound.worker thread _ found rfl
  unfold KMSPageFlipper.giveUpControl
  refine sound.moves (flipper.calls.find_change _ found) ?_ ?_ ?_ fun other blocked isBlocked => ?_
  · rintro _ ⟨⟩ inLoop
    cases isDone : flipper.pageFlipIsDone crtc with
    | true =>
      rw [isDone] at inLoop
      cases inLoop
    | false => exact isWorker
  · intro other phase unlike otherFound inLoop
    have known := sound.worker other phase otherFound inLoop
    rw [isWorker] at known
    exact absurd (Option.some.inj known) unlike
  · rintro _ ⟨⟩ isDone
    refine (flipper.pageFlipIsDone_iff crtc).mp ?_
    cases done : flipper.pageFlipIsDone crtc with
    | true => rfl
    | false =>
      rw [done] at isDone
      cases isDone
  · refine .inr ⟨thread, .notifying crtc (flipper.pageFlipIsDone crtc), ?_, rfl⟩
    show (flipper.calls.change thread _).find thread = _
    rw [flipper.calls.find_change _ found, if_pos rfl]

theorem drmHandleEvent (sound : flipper.Sound) (count : Nat) :
    (flipper.drmHandleEvent count).Sound ∧
      (flipper.drmHandleEvent count).calls = flipper.calls := by
  obtain ⟨calls, worker, pending⟩ := Accounts.notifyPageFlips_keeps (flipper.events.take count)
    { flipper with events := flipper.events.drop count }
  change (flipper.drmHandleEvent count).calls = flipper.calls at calls
  change (flipper.drmHandleEvent count).workerTid = flipper.workerTid at worker
  change ∀ crtc, flipper.pendingPageFlips crtc = none →
    (flipper.drmHandleEvent count).pendingPageFlips crtc = none at pending
  refine ⟨⟨sound.accounts.drmHandleEvent count, ?_, ?_, ?_⟩, calls⟩
  · rw [calls, worker]
    exact sound.worker
  · rw [calls]
    exact fun thread phase found isDone => pending _ (sound.done thread phase found isDone)
  · unfold Attended WakeUpDue
    rw [calls, worker]
    exact sound.attended

theorem handle (sound : flipper.Sound) (thread : Thread) (count : Nat)
    (attends : flipper.Attends (.handle thread count)) : (flipper.handle thread count).Sound := by
  unfold KMSPageFlipper.handle
  split
  · next crtc found =>
    obtain ⟨handled, calls⟩ := sound.drmHandleEvent count
    rw [← calls] at found
    exact handled.giveUpControl found
  · next crtc found => exact sound.giveUpControl found
  · next crtc found =>
    refine sound.moves (flipper.calls.find_leave thread) nofun
      (fun other phase _ => sound.worker other phase) nofun fun other blocked isBlocked => ?_
    rw [flipper.calls.find_leave] at isBlocked
    split at isBlocked
    · cases isBlocked
    · obtain ⟨notifier, phase, notifierFound, notifying⟩ :=
        attends crtc found other blocked isBlocked
      refine .inr ⟨notifier, phase, ?_, notifying⟩
      show (flipper.calls.leave thread).find notifier = some phase
      rw [flipper.calls.find_leave, if_neg]
      · exact notifierFound
      · rintro rfl
        rw [found] at notifierFound
        obtain rfl := Option.some.inj notifierFound
        cases notifying
  · exact sound

theorem wakeUp_facts (phase : Phase) :
    phase.wakeUp.crtc = phase.crtc ∧ phase.wakeUp.inLoop = phase.inLoop ∧
      phase.wakeUp.isDone = phase.isDone ∧ ∀ crtc, phase.wakeUp ≠ .waiting crtc := by
  cases phase with
  | waiting crtc => exact ⟨rfl, rfl, rfl, fun _ => nofun⟩
  | woken crtc | selecting crtc | selected crtc result | returning crtc | notifying crtc done =>
    exact ⟨rfl, rfl, rfl, fun _ => nofun⟩

/-- After a notification nobody is blocked. -/
theorem notifyAll (sound : flipper.Sound) (thread : Thread) : (flipper.notifyAll thread).Sound := by
  unfold KMSPageFlipper.notifyAll
  split
  · next crtc done found =>
    have wokenFound : (flipper.calls.mapValues Phase.wakeUp).find thread =
        some (.notifying crtc done) := by
      rw [Roster.find_mapValues, found]
      rfl
    have woken : Sound { flipper with calls := flipper.calls.mapValues Phase.wakeUp } := by
      refine ⟨sound.accounts.withCalls _ _, fun other phase otherFound inLoop => ?_,
        fun other phase otherFound isDone => ?_, fun other blocked isBlocked => ?_⟩
      · rw [Roster.find_mapValues] at otherFound
        obtain ⟨before, beforeFound, rfl⟩ := Option.map_eq_some_iff.mp otherFound
        rw [(wakeUp_facts before).2.1] at inLoop
        exact sound.worker other before beforeFound inLoop
      · rw [Roster.find_mapValues] at otherFound
        obtain ⟨before, beforeFound, rfl⟩ := Option.map_eq_some_iff.mp otherFound
        obtain ⟨sameCrtc, -, sameDone, -⟩ := wakeUp_facts before
        rw [sameDone] at isDone
        rw [sameCrtc]
        exact sound.done other before beforeFound isDone
      · rw [Roster.find_mapValues] at isBlocked
        obtain ⟨before, -, same⟩ := Option.map_eq_some_iff.mp isBlocked
        exact absurd same ((wakeUp_facts before).2.2.2 blocked)
    refine woken.moves (Roster.find_change _ _ wokenFound) ?_
      (fun other phase _ => woken.worker other phase) ?_ fun other blocked isBlocked => ?_
    · rintro _ ⟨⟩ inLoop
      cases done with
      | true => cases inLoop
      | false => exact sound.worker thread _ found rfl
    · rintro _ ⟨⟩ isDone
      cases done with
      | true => exact sound.done thread (.notifying crtc true) found rfl
      | false => cases isDone
    · rw [Roster.find_change _ _ wokenFound] at isBlocked
      split at isBlocked
      · cases done <;> cases isBlocked
      · rw [Roster.find_mapValues] at isBlocked
        obtain ⟨before, -, same⟩ := Option.map_eq_some_iff.mp isBlocked
        exact absurd same ((wakeUp_facts before).2.2.2 blocked)
  · exact sound

theorem returnFrame (sound : flipper.Sound) (thread : Thread) :
    (flipper.returnFrame thread).Sound := by
  unfold KMSPageFlipper.returnFrame
  split
  · next crtc found =>
    have left : Sound { flipper with calls := flipper.calls.leave thread } := by
      refine sound.moves (flipper.calls.find_leave thread) nofun
        (fun other phase _ => sound.worker other phase) nofun fun other blocked isBlocked => ?_
      rw [flipper.calls.find_leave] at isBlocked
      split at isBlocked
      · cases isBlocked
      · refine attended_of_other (sound.attended other blocked isBlocked) found rfl rfl
          fun other unlike => ?_
        rw [flipper.calls.find_leave, if_neg unlike]
    exact ⟨sound.accounts.finish (sound.done thread _ found rfl) thread, left.worker, left.done,
      left.attended⟩
  · exact sound

/-- A step that leaves a blocked thread behind without a worker breaks what the flipper is for. -/
theorem attends_of_serves (sound : flipper.Sound) (op : Op Thread)
    (serves : (flipper.step op).Serves) : flipper.Attends op := by
  have blocks : ∀ {calls : Roster Thread Phase} {thread : Thread} {crtc : CrtcID},
      (∀ other, thread ≠ other → calls.find other = flipper.calls.find other) →
      calls.find thread = some (.waiting crtc) → Attended { flipper with calls := calls } →
      flipper.Attended := by
    intro calls thread crtc others found attended
    have unlike : ∀ other phase, calls.find other = some phase →
        phase.inLoop = true ∨ phase.isNotifying = true → thread ≠ other := by
      rintro other phase otherFound active rfl
      rw [found] at otherFound
      obtain rfl := Option.some.inj otherFound
      rcases active with active | active <;> cases active
    rcases attended with ⟨other, phase, otherFound, inLoop, isWorker⟩ |
      ⟨other, phase, otherFound, notifying⟩
    · refine .inl ⟨other, phase, ?_, inLoop, isWorker⟩
      exact (others other (unlike other phase otherFound (.inl inLoop))).symm.trans otherFound
    · refine .inr ⟨other, phase, ?_, notifying⟩
      exact (others other (unlike other phase otherFound (.inr notifying))).symm.trans otherFound
  cases op with
  | waitForFlip thread crtc =>
    intro mayCall isSome notDone
    obtain ⟨unknown, -⟩ := (mayCall_iff flipper thread crtc).mp mayCall
    have joined : (flipper.calls.join thread (.woken crtc)).find thread = some (.woken crtc) := by
      rw [flipper.calls.find_join _ unknown, if_pos rfl]
    have blocked : flipper.waitForFlip thread crtc = { flipper with
        calls := (flipper.calls.join thread (.woken crtc)).change thread (.waiting crtc) } := by
      rw [KMSPageFlipper.waitForFlip, if_pos mayCall, KMSPageFlipper.check,
        if_pos ⟨isSome, notDone⟩]
    have found := Roster.find_change _ (.waiting crtc) joined
    have attended := serves.attended thread crtc
    rw [KMSPageFlipper.step, blocked] at attended
    refine blocks (fun other unlike => ?_) ((found thread).trans (if_pos rfl))
      (attended ((found thread).trans (if_pos rfl)))
    rw [found, if_neg unlike, flipper.calls.find_join _ unknown, if_neg unlike]
  | wake thread =>
    intro crtc outside isSome notDone
    obtain ⟨phase, known⟩ : ∃ phase, flipper.calls.find thread = some phase := by
      rcases outside with found | found <;> exact ⟨_, found⟩
    have blocked : flipper.wake thread =
        { flipper with calls := flipper.calls.change thread (.waiting crtc) } := by
      have checks : flipper.wake thread = flipper.check thread crtc := by
        rcases outside with found | found <;> simp only [KMSPageFlipper.wake, found]
      rw [checks, KMSPageFlipper.check, if_pos ⟨isSome, notDone⟩]
    have found := Roster.find_change _ (.waiting crtc) known
    have attended := serves.attended thread crtc
    rw [KMSPageFlipper.step, blocked] at attended
    refine blocks (fun other unlike => ?_) ((found thread).trans (if_pos rfl))
      (attended ((found thread).trans (if_pos rfl)))
    rw [found, if_neg unlike]
  | handle thread count =>
    intro crtc failed other blocked isBlocked
    have left : flipper.handle thread count =
        { flipper with calls := flipper.calls.leave thread } := by
      simp only [KMSPageFlipper.handle, failed]
    have unlike : thread ≠ other := by
      rintro rfl
      rw [failed] at isBlocked
      cases isBlocked
    have attended := serves.attended other blocked
    rw [KMSPageFlipper.step, left] at attended
    have stillBlocked : (flipper.calls.leave thread).find other = some (.waiting blocked) := by
      rw [flipper.calls.find_leave, if_neg unlike, isBlocked]
    rcases attended stillBlocked with ⟨worker, phase, found, -, isWorker⟩ |
      ⟨notifier, phase, found, notifying⟩
    · -- the worker named is the one that has just left
      have same := (sound.worker thread _ failed rfl).symm.trans isWorker
      change (flipper.calls.leave thread).find worker = _ at found
      rw [flipper.calls.find_leave, if_pos (Option.some.inj same)] at found
      cases found
    · change (flipper.calls.leave thread).find notifier = _ at found
      rw [flipper.calls.find_leave] at found
      split at found
      · cases found
      · exact ⟨notifier, phase, found, notifying⟩
  | scheduleFlip _ _ _ _ | select _ _ | notifyAll _ | returnFrame _ | vblank _ _ => trivial

theorem step (sound : flipper.Sound) (op : Op Thread) (attends : flipper.Attends op) :
    (flipper.step op).Sound := by
  cases op with
  | scheduleFlip thread crtc connector accepted =>
    exact sound.scheduleFlip thread crtc connector accepted
  | waitForFlip thread crtc => exact sound.waitForFlip thread crtc attends
  | wake thread => exact sound.wake thread attends
  | select thread result => exact sound.select thread result
  | handle thread count => exact sound.handle thread count attends
  | notifyAll thread => exact sound.notifyAll thread
  | returnFrame thread => exact sound.returnFrame thread
  | vblank flip vblank => exact sound.vblank flip vblank

end Sound

section Runs

variable [DecidableEq Thread]

/-- The flipper serves its threads throughout a run exactly if no worker leaves by an exception
while others are blocked, and nobody gets blocked behind a worker that has left. -/
theorem serves_iff (clockID : ClockID) (ops : List (Op Thread)) :
    (∀ done, done <+: ops →
      (done.foldl KMSPageFlipper.step (KMSPageFlipper.new clockID)).Serves) ↔
      Transition.AllowedAlong KMSPageFlipper.step Attends (KMSPageFlipper.new clockID) ops :=
  @Transition.forall_prefix_iff_of_invariant _ _ KMSPageFlipper.step Attends Sound Serves
    (KMSPageFlipper.new clockID) ops (Sound.new clockID)
    (fun _ op _ sound attends => sound.step op attends)
    (fun _ sound => sound.serves)
    (fun _ op _ sound serves => sound.attends_of_serves op serves)

end Runs

/-- Two outputs wait for their flips, and `select` fails in the one that is the worker: the other is
blocked, with nobody in the loop and nobody to wake it up. -/
theorem blocked_behind_failed_worker :
    ¬ ∀ (clockID : ClockID) (ops : List (Op Nat)),
      (ops.foldl KMSPageFlipper.step (KMSPageFlipper.new clockID)).Serves := by
  intro always
  have serves := always .monotonic [.scheduleFlip 0 10 20 true, .scheduleFlip 1 11 21 true,
    .waitForFlip 0 10, .waitForFlip 1 11, .select 0 .failed, .handle 0 0]
  have onlyBlocked : ∀ thread phase, (thread, phase) ∈ [(1, Phase.waiting 11)] →
      phase.inLoop = false ∧ phase.isNotifying = false := by
    intro thread phase member
    obtain ⟨rfl, rfl⟩ := Prod.mk.inj (List.mem_singleton.mp member)
    exact ⟨rfl, rfl⟩
  rcases serves.attended 1 11 (by decide) with ⟨worker, phase, found, inLoop, -⟩ |
    ⟨notifier, phase, found, notifying⟩
  · have member := (Roster.mem_entries_iff _ worker phase).mpr found
    rw [(onlyBlocked worker phase member).1] at inLoop
    cases inLoop
  · have member := (Roster.mem_entries_iff _ notifier phase).mpr found
    rw [(onlyBlocked notifier phase member).2] at notifying
    cases notifying

end KMSPageFlipper

end Mir.Graphics

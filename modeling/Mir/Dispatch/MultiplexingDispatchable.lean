/-
This file embeds a dispatchable that polls other ones. A list under a mutex holds the dispatchees,
and the epoll set of the kernel has for each file descriptor a pointer to an entry of the list and
whether the descriptor is armed. Every call of `epoll_ctl`, every section that the mutex protects,
and every call of a dispatchee is one step, so the calls of any number of threads interleave there.
-/

import Mathlib.Tactic.SplitIfs
import Mir.Library.OrderedMap
import Mir.Library.Transition

namespace Mir.Dispatch

abbrev Fd := Nat

/-- The address of an entry of the list; no address is used twice. -/
abbrev HolderID := Nat

abbrev CallID := Nat

structure Dispatchable where
  id : Nat
  watchFd : Fd
  deriving DecidableEq, Repr

/-- An entry of the list: the dispatchee, and whether it is sequential. -/
structure DispatcheeHolder where
  dispatchee : Dispatchable
  sequential : Bool
  deriving DecidableEq, Repr

/-- What the epoll set has for a descriptor. A oneshot one is disarmed by its event. -/
structure EpollEvent where
  data : HolderID
  oneshot : Bool
  armed : Bool
  deriving DecidableEq, Repr

/-- Where a call is: one of `add_watch` has its entry in the list, and then perhaps the refusal of
the kernel; one of `remove_watch` is before its call of the kernel or after it; and one of
`dispatch` is in the dispatchee, or about to arm its descriptor again. -/
inductive CallPhase
  | adding (data : HolderID) (holder : DispatcheeHolder)
  | failing (data : HolderID) (holder : DispatcheeHolder)
  | removing (fd : Fd)
  | erasing (fd : Fd)
  | dispatching (data : HolderID) (holder : DispatcheeHolder)
  | rearming (data : HolderID) (holder : DispatcheeHolder)
  deriving DecidableEq, Repr

structure MultiplexingDispatchable where
  dispatcheeHolder : OrderedMap HolderID DispatcheeHolder
  made : HolderID
  epoll : OrderedMap Fd EpollEvent
  calls : OrderedMap CallID CallPhase

inductive MultiplexingOp
  | addWatch (call : CallID) (holder : DispatcheeHolder)
  | ctlAdd (call : CallID) (granted : Bool)
  | eraseHolder (call : CallID)
  | removeWatch (call : CallID) (fd : Fd)
  | ctlDel (call : CallID)
  | removeHolders (call : CallID)
  | epollWait (call : CallID) (fd : Fd)
  | handled (call : CallID) (result : Bool)
  | throws (call : CallID)
  | ctlMod (call : CallID)
  deriving DecidableEq, Repr

namespace MultiplexingDispatchable

def initial : MultiplexingDispatchable := ⟨.empty, 0, .empty, .empty⟩

variable (dispatcher : MultiplexingDispatchable)

def setCall (call : CallID) (phase : CallPhase) : MultiplexingDispatchable :=
  { dispatcher with calls := dispatcher.calls.set call phase }

def endCall (call : CallID) : MultiplexingDispatchable :=
  { dispatcher with calls := dispatcher.calls.erase call }

/-! ### Adding a watch -/

def addWatch (call : CallID) (holder : DispatcheeHolder) : MultiplexingDispatchable :=
  if (dispatcher.calls.find call).isNone then
    { dispatcher.setCall call (.adding dispatcher.made holder) with
      dispatcheeHolder := dispatcher.dispatcheeHolder.set dispatcher.made holder
      made := dispatcher.made + 1 }
  else dispatcher

/-- A descriptor that is in the epoll set already is refused. -/
def ctlAdd (call : CallID) (granted : Bool) : MultiplexingDispatchable :=
  match dispatcher.calls.find call with
  | some (.adding data holder) =>
    if granted ∧ (dispatcher.epoll.find holder.dispatchee.watchFd).isNone then
      { dispatcher.endCall call with
        epoll := dispatcher.epoll.set holder.dispatchee.watchFd ⟨data, holder.sequential, true⟩ }
    else dispatcher.setCall call (.failing data holder)
  | _ => dispatcher

def eraseHolder (call : CallID) : MultiplexingDispatchable :=
  match dispatcher.calls.find call with
  | some (.failing data _) =>
    { dispatcher.endCall call with
      dispatcheeHolder := dispatcher.dispatcheeHolder.erase data }
  | _ => dispatcher

/-! ### Removing a watch -/

def removeWatch (call : CallID) (fd : Fd) : MultiplexingDispatchable :=
  if (dispatcher.calls.find call).isNone then dispatcher.setCall call (.removing fd)
  else dispatcher

/-- Nothing else is done for a descriptor that is not in the epoll set. -/
def ctlDel (call : CallID) : MultiplexingDispatchable :=
  match dispatcher.calls.find call with
  | some (.removing fd) =>
    if (dispatcher.epoll.find fd).isSome then
      { dispatcher.setCall call (.erasing fd) with epoll := dispatcher.epoll.erase fd }
    else dispatcher.endCall call
  | _ => dispatcher

def removeHolders (call : CallID) : MultiplexingDispatchable :=
  match dispatcher.calls.find call with
  | some (.erasing fd) =>
    { dispatcher.endCall call with
      dispatcheeHolder := dispatcher.dispatcheeHolder.filter
        fun _ holder => holder.dispatchee.watchFd ≠ fd }
  | _ => dispatcher

/-! ### Dispatching -/

/-- The kernel picks a descriptor that is ready and armed. A pointer to an entry that is gone must
not be followed, and there is no step that does. -/
def epollWait (call : CallID) (fd : Fd) : MultiplexingDispatchable :=
  match dispatcher.calls.find call, dispatcher.epoll.find fd with
  | none, some event =>
    match event.armed, dispatcher.dispatcheeHolder.find event.data with
    | true, some holder =>
      { dispatcher.setCall call (.dispatching event.data holder) with
        epoll := dispatcher.epoll.set fd { event with armed := !event.oneshot } }
    | _, _ => dispatcher
  | _, _ => dispatcher

/-- A dispatchee that returns false is removed. -/
def handled (call : CallID) (result : Bool) : MultiplexingDispatchable :=
  match dispatcher.calls.find call with
  | some (.dispatching data holder) =>
    if result then
      if holder.sequential then dispatcher.setCall call (.rearming data holder)
      else dispatcher.endCall call
    else dispatcher.setCall call (.removing holder.dispatchee.watchFd)
  | _ => dispatcher

/-- What the dispatchee throws leaves `dispatch`. -/
def throws (call : CallID) : MultiplexingDispatchable :=
  match dispatcher.calls.find call with
  | some (.dispatching _ _) => dispatcher.endCall call
  | _ => dispatcher

/-- The event has the pointer that was read before the dispatchee was called. -/
def ctlMod (call : CallID) : MultiplexingDispatchable :=
  match dispatcher.calls.find call with
  | some (.rearming data holder) =>
    if (dispatcher.epoll.find holder.dispatchee.watchFd).isSome then
      { dispatcher.endCall call with
        epoll := dispatcher.epoll.set holder.dispatchee.watchFd ⟨data, true, true⟩ }
    else dispatcher.endCall call
  | _ => dispatcher

def step (dispatcher : MultiplexingDispatchable) : MultiplexingOp → MultiplexingDispatchable
  | .addWatch call holder => dispatcher.addWatch call holder
  | .ctlAdd call granted => dispatcher.ctlAdd call granted
  | .eraseHolder call => dispatcher.eraseHolder call
  | .removeWatch call fd => dispatcher.removeWatch call fd
  | .ctlDel call => dispatcher.ctlDel call
  | .removeHolders call => dispatcher.removeHolders call
  | .epollWait call fd => dispatcher.epollWait call fd
  | .handled call result => dispatcher.handled call result
  | .throws call => dispatcher.throws call
  | .ctlMod call => dispatcher.ctlMod call

def after (ops : List MultiplexingOp) : MultiplexingDispatchable := ops.foldl step initial

end MultiplexingDispatchable

/-! ### What a step does -/

/-- All that a step can do. -/
inductive MultiplexingStep (dispatcher : MultiplexingDispatchable) :
    MultiplexingOp → MultiplexingDispatchable → Prop
  | waits (op : MultiplexingOp) : MultiplexingStep dispatcher op dispatcher
  | emplaces (call : CallID) (holder : DispatcheeHolder)
      (fresh : dispatcher.calls.find call = none) :
      MultiplexingStep dispatcher (.addWatch call holder)
        { dispatcher with
          calls := dispatcher.calls.set call (.adding dispatcher.made holder)
          dispatcheeHolder := dispatcher.dispatcheeHolder.set dispatcher.made holder
          made := dispatcher.made + 1 }
  | adds (call : CallID) (data : HolderID) (holder : DispatcheeHolder)
      (known : dispatcher.calls.find call = some (.adding data holder))
      (free : dispatcher.epoll.find holder.dispatchee.watchFd = none) :
      MultiplexingStep dispatcher (.ctlAdd call true)
        { dispatcher with
          calls := dispatcher.calls.erase call
          epoll := dispatcher.epoll.set holder.dispatchee.watchFd
            ⟨data, holder.sequential, true⟩ }
  | refuses (call : CallID) (granted : Bool) (data : HolderID) (holder : DispatcheeHolder)
      (known : dispatcher.calls.find call = some (.adding data holder)) :
      MultiplexingStep dispatcher (.ctlAdd call granted)
        { dispatcher with calls := dispatcher.calls.set call (.failing data holder) }
  | withdraws (call : CallID) (data : HolderID) (holder : DispatcheeHolder)
      (known : dispatcher.calls.find call = some (.failing data holder)) :
      MultiplexingStep dispatcher (.eraseHolder call)
        { dispatcher with
          calls := dispatcher.calls.erase call
          dispatcheeHolder := dispatcher.dispatcheeHolder.erase data }
  | begins (call : CallID) (fd : Fd) (fresh : dispatcher.calls.find call = none) :
      MultiplexingStep dispatcher (.removeWatch call fd)
        { dispatcher with calls := dispatcher.calls.set call (.removing fd) }
  | deletes (call : CallID) (fd : Fd) (event : EpollEvent)
      (known : dispatcher.calls.find call = some (.removing fd))
      (there : dispatcher.epoll.find fd = some event) :
      MultiplexingStep dispatcher (.ctlDel call)
        { dispatcher with
          calls := dispatcher.calls.set call (.erasing fd)
          epoll := dispatcher.epoll.erase fd }
  | erases (call : CallID) (fd : Fd) (known : dispatcher.calls.find call = some (.erasing fd)) :
      MultiplexingStep dispatcher (.removeHolders call)
        { dispatcher with
          calls := dispatcher.calls.erase call
          dispatcheeHolder := dispatcher.dispatcheeHolder.filter
            fun _ holder => holder.dispatchee.watchFd ≠ fd }
  | takes (call : CallID) (fd : Fd) (event : EpollEvent) (holder : DispatcheeHolder)
      (fresh : dispatcher.calls.find call = none)
      (there : dispatcher.epoll.find fd = some event) (armed : event.armed = true)
      (held : dispatcher.dispatcheeHolder.find event.data = some holder) :
      MultiplexingStep dispatcher (.epollWait call fd)
        { dispatcher with
          calls := dispatcher.calls.set call (.dispatching event.data holder)
          epoll := dispatcher.epoll.set fd { event with armed := !event.oneshot } }
  | finishes (call : CallID) (data : HolderID) (holder : DispatcheeHolder)
      (known : dispatcher.calls.find call = some (.dispatching data holder))
      (sequential : holder.sequential = true) :
      MultiplexingStep dispatcher (.handled call true)
        { dispatcher with calls := dispatcher.calls.set call (.rearming data holder) }
  | gives (call : CallID) (data : HolderID) (holder : DispatcheeHolder)
      (known : dispatcher.calls.find call = some (.dispatching data holder)) :
      MultiplexingStep dispatcher (.handled call false)
        { dispatcher with
          calls := dispatcher.calls.set call (.removing holder.dispatchee.watchFd) }
  | ends (op : MultiplexingOp) (call : CallID) :
      MultiplexingStep dispatcher op { dispatcher with calls := dispatcher.calls.erase call }
  | rearms (call : CallID) (data : HolderID) (holder : DispatcheeHolder) (event : EpollEvent)
      (known : dispatcher.calls.find call = some (.rearming data holder))
      (there : dispatcher.epoll.find holder.dispatchee.watchFd = some event) :
      MultiplexingStep dispatcher (.ctlMod call)
        { dispatcher with
          calls := dispatcher.calls.erase call
          epoll := dispatcher.epoll.set holder.dispatchee.watchFd ⟨data, true, true⟩ }

namespace MultiplexingDispatchable

theorem step_cases (dispatcher : MultiplexingDispatchable) (op : MultiplexingOp) :
    MultiplexingStep dispatcher op (dispatcher.step op) := by
  cases op with
  | addWatch call holder =>
    dsimp only [step, addWatch]
    split_ifs with fresh
    · exact .emplaces call holder (Option.isNone_iff_eq_none.mp fresh)
    · exact .waits _
  | ctlAdd call granted =>
    dsimp only [step, ctlAdd]
    split
    next data holder known =>
      split_ifs with can
      · obtain ⟨isGranted, free⟩ := can
        rw [isGranted]
        exact .adds call data holder known (Option.isNone_iff_eq_none.mp free)
      · exact .refuses call granted data holder known
    next => exact .waits _
  | eraseHolder call =>
    dsimp only [step, eraseHolder]
    split
    next data holder known => exact .withdraws call data holder known
    next => exact .waits _
  | removeWatch call fd =>
    dsimp only [step, removeWatch]
    split_ifs with fresh
    · exact .begins call fd (Option.isNone_iff_eq_none.mp fresh)
    · exact .waits _
  | ctlDel call =>
    dsimp only [step, ctlDel]
    split
    next fd known =>
      split_ifs with there
      · obtain ⟨event, there⟩ := Option.isSome_iff_exists.mp there
        exact .deletes call fd event known there
      · exact .ends _ call
    next => exact .waits _
  | removeHolders call =>
    dsimp only [step, removeHolders]
    split
    next fd known => exact .erases call fd known
    next => exact .waits _
  | epollWait call fd =>
    dsimp only [step, epollWait]
    split
    next event fresh there =>
      split
      next holder armed held => exact .takes call fd event holder fresh there armed held
      next => exact .waits _
    next => exact .waits _
  | handled call result =>
    dsimp only [step, handled]
    split
    next data holder known =>
      split_ifs with isTrue sequential
      · rw [isTrue]
        exact .finishes call data holder known sequential
      · exact .ends _ call
      · rw [Bool.eq_false_iff.mpr isTrue]
        exact .gives call data holder known
    next => exact .waits _
  | throws call =>
    dsimp only [step, throws]
    split
    next => exact .ends _ call
    next => exact .waits _
  | ctlMod call =>
    dsimp only [step, ctlMod]
    split
    next data holder known =>
      split_ifs with there
      · obtain ⟨event, there⟩ := Option.isSome_iff_exists.mp there
        exact .rearms call data holder event known there
      · exact .ends _ call
    next => exact .waits _

end MultiplexingDispatchable

end Mir.Dispatch

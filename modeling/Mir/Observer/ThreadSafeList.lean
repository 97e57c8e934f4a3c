/-
This file embeds the list that threads share without a lock of its own. Each item has a read-write
mutex, which is locked for reading while a callback runs for its element and while a call looks at
the element, and for writing while the element is exchanged. An item whose element is gone is used
again; when there is none, a new one is appended by a compare-and-exchange of the last pointer.

A step is one of lock, unlock, or compare-and-exchange, and threads take them in any order; in a
callback a thread may call the list again. It is proved that the mutexes keep out other readers when
an element is exchanged.
-/

import Mathlib.Data.List.Count
import Mathlib.Logic.Function.Basic
import Mir.Thread.RecursiveReadWriteMutex

namespace Mir.Observer

open Thread (ThreadID RecursiveReadWriteMutex)

variable {Element : Type}

/-- The place of an item; an element that is not there is one that is not valid. -/
structure ListItem (Element : Type) where
  mutex : RecursiveReadWriteMutex
  element : Option Element

/-- A call that exchanges elements, with the number of those that it has removed. -/
inductive ListCall (Element : Type)
  | add (element : Element)
  | remove (element : Element)
  | removeAll (element : Element) (removed : Nat)
  | clear
  deriving DecidableEq

/-- A callback that runs for an element, and whether the thread itself, in the callback, has since
exchanged what is in the place. -/
structure Visit (Element : Type) where
  place : Nat
  element : Element
  exchanged : Bool

/-- What a thread does next, if it is not up to its own code: `for_each` locks an item, or passes
one that is empty; or a call locks an item to look at it, looks, locks it to write, exchanges the
element, goes on to the next item, or appends one. -/
inductive Activity (Element : Type)
  | locking (place : Nat)
  | passing (place : Nat)
  | reading (call : ListCall Element) (place : Nat)
  | checking (call : ListCall Element) (place : Nat)
  | writing (call : ListCall Element) (place : Nat)
  | storing (call : ListCall Element) (place : Nat)
  | advancing (call : ListCall Element) (place : Nat)
  | appending (element : Element) (place : Nat)
  deriving DecidableEq

/-- The callbacks that a thread is in, the innermost one first, and what it does there. -/
structure ListThread (Element : Type) where
  visits : List (Visit Element)
  activity : Option (Activity Element)

/-- What happened: a thread called the list; `add` returned, or `remove` when it had found its
element, or another call; `remove_all` or `clear` took an element out; or a callback was called for
an element. -/
inductive ListEvent (Element : Type)
  | called (thread : ThreadID) (call : ListCall Element)
  | added (thread : ThreadID) (element : Element)
  | removed (thread : ThreadID) (element : Element)
  | returned (thread : ThreadID) (call : ListCall Element)
  | removedByAll (thread : ThreadID) (element : Element)
  | cleared (thread : ThreadID) (element : Element)
  | visited (thread : ThreadID) (element : Element)
  deriving DecidableEq

structure ThreadSafeList (Element : Type) where
  items : List (ListItem Element)
  threads : ThreadID → ListThread Element
  history : List (ListEvent Element)

/-! ### The calls -/

namespace ListCall

variable [DecidableEq Element] (call : ListCall Element)

/-- Whether an item is one that the call exchanges the element of. -/
def wants (element : Option Element) : Bool :=
  match call with
  | add _ => element.isNone
  | remove wanted => element = some wanted
  | removeAll wanted _ => element = some wanted
  | clear => true

omit [DecidableEq Element]

def stored : Option Element :=
  match call with
  | add element => some element
  | _ => none

/-- When it has exchanged an element, the call goes on with the next item or returns. -/
def afterStore : Option (ListCall Element) :=
  match call with
  | add _ => none
  | remove _ => none
  | removeAll element removed => some (removeAll element (removed + 1))
  | clear => some clear

def events (thread : ThreadID) (element : Option Element) : List (ListEvent Element) :=
  match call with
  | add element => [.added thread element]
  | remove element => [.removed thread element]
  | removeAll element _ => [.removedByAll thread element]
  | clear => element.toList.map (.cleared thread)

/-- Nothing is removed when a call begins. -/
def begin : ListCall Element :=
  match call with
  | removeAll element _ => removeAll element 0
  | call => call

/-- How a call comes to an item: `clear` does not look at it first. -/
def start (place : Nat) : Activity Element :=
  match call with
  | clear => .writing clear place
  | _ => .reading call place

end ListCall

/-- A thread that exchanges an element knows of its own callbacks for it. -/
def Visit.mark (place : Nat) (visit : Visit Element) : Visit Element :=
  if visit.place = place then { visit with exchanged := true } else visit

namespace ThreadSafeList

variable (list : ThreadSafeList Element)

def new : ThreadSafeList Element := ⟨[⟨.new, none⟩], fun _ => ⟨[], none⟩, []⟩

/-- The place that comes next, if there is one. -/
def next (place : Nat) : Option Nat :=
  if place + 1 < list.items.length then some (place + 1) else none

def setActivity (thread : ThreadID) (activity : Option (Activity Element))
    (events : List (ListEvent Element)) : ThreadSafeList Element :=
  { list with
    threads := Function.update list.threads thread ⟨(list.threads thread).visits, activity⟩
    history := list.history ++ events }

/-- A thread changes an item, and what it does itself. -/
def exchange (place : Nat) (item : ListItem Element) (thread : ThreadID)
    (state : ListThread Element) (events : List (ListEvent Element)) : ThreadSafeList Element where
  items := list.items.set place item
  threads := Function.update list.threads thread state
  history := list.history ++ events

def append (thread : ThreadID) (element : Element) : ThreadSafeList Element where
  items := list.items ++ [⟨.new, some element⟩]
  threads := Function.update list.threads thread ⟨(list.threads thread).visits, none⟩
  history := list.history ++ [.added thread element]

variable [DecidableEq Element]

/-- What a thread does with an item when it comes to it. A thread that has to wait for a lock, or
whose weak compare-and-exchange fails without a reason, tries again. -/
def advanceAt (thread : ThreadID) (visits : List (Visit Element)) (activity : Activity Element)
    (place : Nat) (item : ListItem Element) : ThreadSafeList Element :=
  match activity with
  | .locking _ =>
    if item.mutex.canReadLock thread then
      match item.element with
      | some element =>
        list.exchange place ⟨item.mutex.readLock thread, item.element⟩ thread
          ⟨⟨place, element, false⟩ :: visits, none⟩ [.visited thread element]
      | none =>
        list.exchange place ⟨item.mutex.readLock thread, item.element⟩ thread
          ⟨visits, some (.passing place)⟩ []
    else list
  | .passing _ =>
    list.exchange place ⟨item.mutex.readUnlock thread, item.element⟩ thread
      ⟨visits, (list.next place).map .locking⟩ []
  | .reading call _ =>
    if item.mutex.canReadLock thread then
      list.exchange place ⟨item.mutex.readLock thread, item.element⟩ thread
        ⟨visits, some (.checking call place)⟩ []
    else list
  | .checking call _ =>
    list.exchange place ⟨item.mutex.readUnlock thread, item.element⟩ thread
      ⟨visits, some (if call.wants item.element then .writing call place
        else .advancing call place)⟩ []
  | .writing call _ =>
    if item.mutex.canWriteLock thread then
      list.exchange place ⟨item.mutex.writeLock thread, item.element⟩ thread
        ⟨visits, some (.storing call place)⟩ []
    else list
  | .storing call _ =>
    if call.wants item.element then
      list.exchange place ⟨item.mutex.writeUnlock, call.stored⟩ thread
        ⟨visits.map (Visit.mark place), call.afterStore.map (.advancing · place)⟩
        (call.events thread item.element)
    else
      list.exchange place ⟨item.mutex.writeUnlock, item.element⟩ thread
        ⟨visits, some (.advancing call place)⟩ []
  | .advancing call _ =>
    match list.next place, call with
    | some after, _ => list.setActivity thread (some (call.start after)) []
    | none, .add element => list.setActivity thread (some (.appending element place)) []
    | none, call => list.setActivity thread none [.returned thread call]
  | .appending element _ =>
    match list.next place with
    | some after => list.setActivity thread (some (.appending element after)) []
    | none => list.append thread element

end ThreadSafeList

/-- Where a thread is. -/
def Activity.place : Activity Element → Nat
  | .locking place => place
  | .passing place => place
  | .reading _ place => place
  | .checking _ place => place
  | .writing _ place => place
  | .storing _ place => place
  | .advancing _ place => place
  | .appending _ place => place

namespace ThreadSafeList

inductive Op (Element : Type)
  | call (thread : ThreadID) (call : ListCall Element)
  | forEach (thread : ThreadID)
  | advance (thread : ThreadID)
  deriving DecidableEq

variable [DecidableEq Element] (list : ThreadSafeList Element)

/-- A thread goes on with what it does, or returns from its callback. -/
def advance (thread : ThreadID) : ThreadSafeList Element :=
  match (list.threads thread).activity, (list.threads thread).visits with
  | some activity, visits =>
    match list.items[activity.place]? with
    | some item => list.advanceAt thread visits activity activity.place item
    | none => list
  | none, visit :: visits =>
    match list.items[visit.place]? with
    | some item =>
      list.exchange visit.place ⟨item.mutex.readUnlock thread, item.element⟩ thread
        ⟨visits, (list.next visit.place).map .locking⟩ []
    | none => list
  | none, [] => list

/-- A thread that is up to its own code, in a callback or not, may call the list. -/
def step (list : ThreadSafeList Element) : Op Element → ThreadSafeList Element
  | .call thread call =>
    if (list.threads thread).activity.isNone then
      list.setActivity thread (some (call.begin.start 0)) [.called thread call.begin]
    else list
  | .forEach thread =>
    if (list.threads thread).activity.isNone then list.setActivity thread (some (.locking 0)) []
    else list
  | .advance thread => list.advance thread

end ThreadSafeList

/-! ### Who has a lock -/

namespace Activity

def readsPlace : Activity Element → Option Nat
  | .passing place => some place
  | .checking _ place => some place
  | _ => none

def writesPlace : Activity Element → Option Nat
  | .storing _ place => some place
  | _ => none

/-- The call that a thread is in, if it is not `for_each`. -/
def call : Activity Element → Option (ListCall Element)
  | .locking _ | .passing _ => none
  | .reading call _ | .checking call _ | .writing call _ | .storing call _ => some call
  | .advancing call _ => some call
  | .appending element _ => some (.add element)

/-- The item that a thread is in `write_lock` for. -/
def wantsPlace : Activity Element → Option Nat
  | .writing _ place => some place
  | _ => none

end Activity

namespace ListThread

variable (thread : ListThread Element) (place : Nat)

/-- How many read locks of an item a thread has, one for each callback for it. -/
def reads : Nat :=
  thread.visits.countP (fun visit => visit.place = place) +
    if thread.activity.bind Activity.readsPlace = some place then 1 else 0

def writes : Prop := thread.activity.bind Activity.writesPlace = some place

def wants : Prop := thread.activity.bind Activity.wantsPlace = some place

/-- A thread goes on with a call or with none; or it begins one, or returns from it. -/
inductive Moves (thread : ThreadID) :
    Option (ListCall Element) → Option (ListCall Element) → List (ListEvent Element) → Prop
  | on (call : Option (ListCall Element)) : Moves thread call call []
  | begins (call : ListCall Element) :
    Moves thread none (some call.begin) [.called thread call.begin]
  | returns (call : ListCall Element) (unlike : ∀ element, call ≠ .add element) :
    Moves thread (some call) none [.returned thread call]

/-- A thread that does nothing with an item has no lock but those of its callbacks. -/
def Unheld (activity : Option (Activity Element)) : Prop :=
  activity.bind Activity.readsPlace = none ∧ activity.bind Activity.writesPlace = none

end ListThread

namespace ThreadSafeList

open ListThread (Unheld)

/-! ### What a step can do -/

/-- The thread that takes a step. -/
def Op.thread : Op Element → ThreadID
  | .call thread _ => thread
  | .forEach thread => thread
  | .advance thread => thread

theorem unheld_none : Unheld (none : Option (Activity Element)) := ⟨rfl, rfl⟩

theorem unheld_start (call : ListCall Element) (place : Nat) :
    Unheld (some (call.start place)) := by
  cases call <;> exact ⟨rfl, rfl⟩

theorem call_start (call : ListCall Element) (place : Nat) :
    (call.start place).call = some call := by
  cases call <;> rfl

theorem unheld_locking (place : Option Nat) :
    Unheld (place.map (.locking : Nat → Activity Element)) := by
  cases place <;> exact ⟨rfl, rfl⟩

theorem call_locking (place : Option Nat) :
    (place.map (.locking : Nat → Activity Element)).bind Activity.call = none := by
  cases place <;> rfl

section Change

variable [DecidableEq Element] (list : ThreadSafeList Element) (thread : ThreadID)

/-- What a thread can do in a step. It goes on without a lock; locks an item to run a callback or to
look at it; unlocks the one it has looked at, or that of the callback it returns from; locks one to
write; exchanges the element or not; or appends one. -/
inductive Change : ThreadSafeList Element → Prop
  | moves {activity : Option (Activity Element)} {events : List (ListEvent Element)}
      (before : Unheld (list.threads thread).activity)
      (unwanting : (list.threads thread).activity.bind Activity.wantsPlace = none)
      (unheld : Unheld activity)
      (kind : ListThread.Moves thread ((list.threads thread).activity.bind Activity.call)
        (activity.bind Activity.call) events) :
      Change (list.setActivity thread activity events)
  | visits {place : Nat} {item : ListItem Element} {element : Element}
      (isAt : (list.threads thread).activity = some (.locking place))
      (found : list.items[place]? = some item) (free : item.mutex.canReadLock thread = true)
      (present : item.element = some element) :
      Change (list.exchange place ⟨item.mutex.readLock thread, item.element⟩ thread
        ⟨⟨place, element, false⟩ :: (list.threads thread).visits, none⟩ [.visited thread element])
  | reads {place : Nat} {item : ListItem Element} {activity : Activity Element}
      (before : Unheld (list.threads thread).activity)
      (found : list.items[place]? = some item) (free : item.mutex.canReadLock thread = true)
      (reading : activity.readsPlace = some place)
      (stays : activity.call = (list.threads thread).activity.bind Activity.call) :
      Change (list.exchange place ⟨item.mutex.readLock thread, item.element⟩ thread
        ⟨(list.threads thread).visits, some activity⟩ [])
  | unreads {place : Nat} {item : ListItem Element} {activity : Option (Activity Element)}
      (reading : (list.threads thread).activity.bind Activity.readsPlace = some place)
      (found : list.items[place]? = some item) (unheld : Unheld activity)
      (stays : activity.bind Activity.call = (list.threads thread).activity.bind Activity.call) :
      Change (list.exchange place ⟨item.mutex.readUnlock thread, item.element⟩ thread
        ⟨(list.threads thread).visits, activity⟩ [])
  | leaves {item : ListItem Element} {visit : Visit Element} {visits : List (Visit Element)}
      {activity : Option (Activity Element)}
      (isIn : list.threads thread = ⟨visit :: visits, none⟩)
      (found : list.items[visit.place]? = some item) (unheld : Unheld activity)
      (unwanting : activity.bind Activity.wantsPlace = none)
      (stays : activity.bind Activity.call = none) :
      Change (list.exchange visit.place ⟨item.mutex.readUnlock thread, item.element⟩ thread
        ⟨visits, activity⟩ [])
  | writes {place : Nat} {item : ListItem Element} {call : ListCall Element}
      (isAt : (list.threads thread).activity = some (.writing call place))
      (found : list.items[place]? = some item) (free : item.mutex.canWriteLock thread = true) :
      Change (list.exchange place ⟨item.mutex.writeLock thread, item.element⟩ thread
        ⟨(list.threads thread).visits, some (.storing call place)⟩ [])
  | stores {place : Nat} {item : ListItem Element} {call : ListCall Element}
      (isAt : (list.threads thread).activity = some (.storing call place))
      (found : list.items[place]? = some item) (wanted : call.wants item.element = true) :
      Change (list.exchange place ⟨item.mutex.writeUnlock, call.stored⟩ thread
        ⟨(list.threads thread).visits.map (Visit.mark place),
          call.afterStore.map (.advancing · place)⟩ (call.events thread item.element))
  | keeps {place : Nat} {item : ListItem Element} {call : ListCall Element}
      (isAt : (list.threads thread).activity = some (.storing call place))
      (found : list.items[place]? = some item) :
      Change (list.exchange place ⟨item.mutex.writeUnlock, item.element⟩ thread
        ⟨(list.threads thread).visits, some (.advancing call place)⟩ [])
  | appends {place : Nat} {element : Element}
      (isAt : (list.threads thread).activity = some (.appending element place))
      (isLast : list.next place = none) :
      Change (list.append thread element)

variable {list thread}

/-- A thread does what it can do, or has to wait. -/
theorem advance_change : list.advance thread = list ∨ list.Change thread (list.advance thread) := by
  unfold advance
  split
  case h_1 activity isAt =>
    split
    case h_2 => exact .inl rfl
    case h_1 item found =>
      cases activity with
      | locking place =>
        simp only [advanceAt]
        split
        case isFalse => exact .inl rfl
        case isTrue free =>
          split
          case h_1 element present => exact .inr (present ▸ .visits isAt found free present)
          case h_2 =>
            exact .inr (.reads (by rw [isAt]; exact ⟨rfl, rfl⟩) found free rfl (by rw [isAt]; rfl))
      | passing place =>
        refine .inr (.unreads (by rw [isAt]; rfl) found (unheld_locking _) ?_)
        rw [isAt, call_locking]
        rfl
      | reading call place =>
        simp only [advanceAt]
        split
        case isFalse => exact .inl rfl
        case isTrue free =>
          exact .inr (.reads (by rw [isAt]; exact ⟨rfl, rfl⟩) found free rfl (by rw [isAt]; rfl))
      | checking call place =>
        refine .inr (.unreads (by rw [isAt]; rfl) found ?_ ?_)
        · split <;> exact ⟨rfl, rfl⟩
        · rw [isAt]
          split <;> rfl
      | writing call place =>
        simp only [advanceAt]
        split
        case isFalse => exact .inl rfl
        case isTrue free => exact .inr (.writes isAt found free)
      | storing call place =>
        simp only [advanceAt]
        split
        case isTrue wanted => exact .inr (.stores isAt found wanted)
        case isFalse => exact .inr (.keeps isAt found)
      | advancing call place =>
        have before : Unheld (list.threads thread).activity := by rw [isAt]; exact ⟨rfl, rfl⟩
        have unwanting : (list.threads thread).activity.bind Activity.wantsPlace = none := by
          rw [isAt]
          rfl
        simp only [advanceAt]
        split
        case h_1 =>
          refine .inr (.moves before unwanting (unheld_start _ _) ?_)
          rw [isAt, Option.bind_some, Option.bind_some, call_start]
          exact .on _
        case h_2 =>
          refine .inr (.moves before unwanting ⟨rfl, rfl⟩ ?_)
          rw [isAt]
          exact .on _
        case h_3 unlike _ =>
          refine .inr (.moves before unwanting unheld_none ?_)
          rw [isAt]
          exact .returns _ fun element same => unlike element same
      | appending element place =>
        simp only [advanceAt]
        split
        case h_1 =>
          refine .inr (.moves (by rw [isAt]; exact ⟨rfl, rfl⟩) (by rw [isAt]; rfl) ⟨rfl, rfl⟩ ?_)
          rw [isAt]
          exact .on _
        case h_2 isLast => exact .inr (.appends isAt isLast)
  case h_2 visit visits isAt same =>
    split
    case h_1 item found =>
      have isIn : list.threads thread = ⟨visit :: visits, none⟩ := by rw [← isAt, ← same]
      refine .inr (.leaves isIn found (unheld_locking _) ?_ (call_locking _))
      cases list.next visit.place <;> rfl
    case h_2 => exact .inl rfl
  case h_3 => exact .inl rfl

theorem step_change (op : Op Element) :
    list.step op = list ∨ list.Change op.thread (list.step op) := by
  have unheld {thread : ThreadID} (isNone : (list.threads thread).activity.isNone = true) :
      Unheld (list.threads thread).activity := by
    rw [Option.isNone_iff_eq_none.mp isNone]
    exact unheld_none
  have unwanting {thread : ThreadID} (isNone : (list.threads thread).activity.isNone = true) :
      (list.threads thread).activity.bind Activity.wantsPlace = none := by
    rw [Option.isNone_iff_eq_none.mp isNone]
    rfl
  cases op with
  | call thread call =>
    simp only [step]
    split
    case isTrue isNone =>
      refine .inr (.moves (unheld isNone) (unwanting isNone) (unheld_start _ 0) ?_)
      rw [Op.thread, Option.isNone_iff_eq_none.mp isNone, Option.bind_some, call_start]
      exact .begins call
    case isFalse => exact .inl rfl
  | forEach thread =>
    simp only [step]
    split
    case isTrue isNone =>
      refine .inr (.moves (unheld isNone) (unwanting isNone) ⟨rfl, rfl⟩ ?_)
      rw [Op.thread, Option.isNone_iff_eq_none.mp isNone]
      exact .on none
    case isFalse => exact .inl rfl
  | advance thread => exact advance_change

end Change

end ThreadSafeList

/-! ### The mutexes know of the locks -/

namespace Activity

theorem writesPlace_of_readsPlace {activity : Activity Element} {place : Nat}
    (reading : activity.readsPlace = some place) : activity.writesPlace = none := by
  cases activity <;> first | rfl | cases reading

end Activity

namespace ListThread

variable {visits : List (Visit Element)} {activity : Option (Activity Element)}

theorem reads_of_unheld (unheld : Unheld activity) (place : Nat) :
    (⟨visits, activity⟩ : ListThread Element).reads place =
      visits.countP fun visit => visit.place = place := by
  simp [reads, unheld.1]

theorem not_writes_of_unheld (unheld : Unheld activity) (place : Nat) :
    ¬ (⟨visits, activity⟩ : ListThread Element).writes place := by
  simp [writes, unheld.2]

theorem reads_of_reading {place : Nat} (reading : activity.bind Activity.readsPlace = some place)
    (other : Nat) : (⟨visits, activity⟩ : ListThread Element).reads other =
      visits.countP (fun visit => visit.place = other) + if place = other then 1 else 0 := by
  simp [reads, reading]

theorem not_writes_of_reading {place : Nat}
    (reading : activity.bind Activity.readsPlace = some place) (other : Nat) :
    ¬ (⟨visits, activity⟩ : ListThread Element).writes other := by
  cases activity with
  | none => cases reading
  | some activity =>
    have isNone : activity.writesPlace = none := Activity.writesPlace_of_readsPlace reading
    simp [writes, isNone]

theorem reads_storing (call : ListCall Element) (place other : Nat) :
    (⟨visits, some (.storing call place)⟩ : ListThread Element).reads other =
      visits.countP fun visit => visit.place = other := by
  simp [reads, Activity.readsPlace]

theorem writes_storing (call : ListCall Element) (place other : Nat) :
    (⟨visits, some (.storing call place)⟩ : ListThread Element).writes other ↔ place = other := by
  simp [writes, Activity.writesPlace]

theorem countP_mark (visits : List (Visit Element)) (place other : Nat) :
    (visits.map (Visit.mark place)).countP (fun visit => visit.place = other) =
      visits.countP fun visit => visit.place = other := by
  rw [List.countP_map]
  refine List.countP_congr fun visit _ => ?_
  unfold Visit.mark
  rw [Function.comp_apply]
  split <;> rfl

/-- What a thread knows of itself is made of its callbacks and of what it does. -/
theorem eq_of_activity {thread : ListThread Element} (isAt : thread.activity = activity) :
    thread = ⟨thread.visits, activity⟩ := by
  subst isAt
  rfl

theorem reads_pos_of_mem {thread : ListThread Element} {visit : Visit Element}
    (member : visit ∈ thread.visits) : 0 < thread.reads visit.place :=
  Nat.lt_of_lt_of_le (List.countP_pos_iff.mpr ⟨visit, member, decide_eq_true rfl⟩)
    (Nat.le_add_right _ _)

end ListThread

namespace ThreadSafeList

/-- Each mutex agrees with what threads do, who have no locks of items that are not there. -/
structure Guarded (list : ThreadSafeList Element) : Prop where
  agrees : ∀ place, ∀ item : ListItem Element, list.items[place]? = some item →
    item.mutex.Agrees (fun thread => (list.threads thread).reads place)
      (fun thread => (list.threads thread).writes place)
  inside : ∀ thread place, list.items.length ≤ place →
    (list.threads thread).reads place = 0 ∧ ¬ (list.threads thread).writes place

theorem guarded_new : (new : ThreadSafeList Element).Guarded where
  agrees place item found := by
    cases place with
    | zero =>
      cases found
      exact RecursiveReadWriteMutex.agrees_new.congr (fun _ => rfl) fun _ => ⟨nofun, False.elim⟩
    | succ place => cases found
  inside _ _ _ := ⟨rfl, nofun⟩

namespace Guarded

variable {list : ThreadSafeList Element} {thread : ThreadID} {place : Nat}
  {item next : ListItem Element} {state : ListThread Element} {events : List (ListEvent Element)}

/-- Where a thread does what it did with an item, so does everyone. -/
theorem reads_update (same : state.reads place = (list.threads thread).reads place)
    (other : ThreadID) : (Function.update list.threads thread state other).reads place =
      (list.threads other).reads place := by
  by_cases isThread : other = thread
  · rw [isThread, Function.update_self, same]
  · rw [Function.update_of_ne isThread]

theorem writes_update (same : state.writes place ↔ (list.threads thread).writes place)
    (other : ThreadID) : (Function.update list.threads thread state other).writes place ↔
      (list.threads other).writes place := by
  by_cases isThread : other = thread
  · rw [isThread, Function.update_self, same]
  · rw [Function.update_of_ne isThread]

/-- A thread changes what it does with one item. -/
theorem exchange (guarded : list.Guarded) (found : list.items[place]? = some item)
    (agrees : next.mutex.Agrees
      (fun other => (Function.update list.threads thread state other).reads place)
      (fun other => (Function.update list.threads thread state other).writes place))
    (reads : ∀ other, other ≠ place → state.reads other = (list.threads thread).reads other)
    (writes : ∀ other, other ≠ place → (state.writes other ↔ (list.threads thread).writes other)) :
    (list.exchange place next thread state events).Guarded where
  agrees other same foundOther := by
    by_cases isPlace : other = place
    · subst isPlace
      have inRange := (List.getElem?_eq_some_iff.mp found).1
      simp only [ThreadSafeList.exchange, List.getElem?_set_self inRange] at foundOther
      cases foundOther
      exact agrees
    · simp only [ThreadSafeList.exchange, List.getElem?_set_ne (Ne.symm isPlace)] at foundOther
      exact (guarded.agrees other same foundOther).congr (reads_update (reads other isPlace))
        (writes_update (writes other isPlace))
  inside other outside isOutside := by
    have unlike : outside ≠ place := by
      have inRange := (List.getElem?_eq_some_iff.mp found).1
      simp only [ThreadSafeList.exchange, List.length_set] at isOutside
      omega
    simp only [ThreadSafeList.exchange, List.length_set] at isOutside ⊢
    rw [reads_update (reads outside unlike), writes_update (writes outside unlike)]
    exact guarded.inside other outside isOutside

section Locks

variable {element : Option Element} (guarded : list.Guarded)
  (found : list.items[place]? = some item)
include guarded found

theorem readLock (free : item.mutex.canReadLock thread = true)
    (reads : ∀ other, state.reads other =
      (list.threads thread).reads other + if place = other then 1 else 0)
    (writes : ∀ other, state.writes other ↔ (list.threads thread).writes other) :
    (list.exchange place ⟨item.mutex.readLock thread, element⟩ thread state events).Guarded := by
  refine guarded.exchange found ((guarded.agrees place item found).readLock free ?_ ?_
    (writes_update (writes place))) ?_ fun other _ => writes other
  · simp [reads]
  · intro other unlike
    simp only [Function.update_of_ne unlike]
  · intro other unlike
    simp [reads, unlike.symm]

theorem readUnlock (reads : ∀ other, state.reads other =
      (list.threads thread).reads other - if place = other then 1 else 0)
    (writes : ∀ other, state.writes other ↔ (list.threads thread).writes other) :
    (list.exchange place ⟨item.mutex.readUnlock thread, element⟩ thread state events).Guarded := by
  refine guarded.exchange found ((guarded.agrees place item found).readUnlock ?_ ?_
    (writes_update (writes place))) ?_ fun other _ => writes other
  · simp [reads]
  · intro other unlike
    simp only [Function.update_of_ne unlike]
  · intro other unlike
    simp [reads, unlike.symm]

/-- Nobody but the thread writes to an item that it may lock. -/
theorem writeLock (free : item.mutex.canWriteLock thread = true)
    (reads : ∀ other, state.reads other = (list.threads thread).reads other)
    (before : ∀ other, ¬ (list.threads thread).writes other)
    (writes : ∀ other, state.writes other ↔ place = other) :
    (list.exchange place ⟨item.mutex.writeLock thread, element⟩ thread state events).Guarded := by
  have agrees := guarded.agrees place item found
  refine guarded.exchange found (agrees.writeLock free (before place)
    (reads_update (reads place)) ?_) (fun other _ => reads other) ?_
  · intro other
    by_cases isThread : other = thread
    · subst isThread
      simp only [Function.update_self, writes]
    · simp only [Function.update_of_ne isThread, iff_false, isThread]
      intro isWriting
      have canRead := (RecursiveReadWriteMutex.canWriteLock_iff.mp free).1
      exact isThread (agrees.eq_of_writes canRead isWriting)
  · intro other unlike
    exact iff_of_false (fun isWriting => unlike ((writes other).mp isWriting).symm) (before other)

theorem writeUnlock (isWriting : ∀ other, (list.threads thread).writes other ↔ place = other)
    (reads : ∀ other, state.reads other = (list.threads thread).reads other)
    (writes : ∀ other, ¬ state.writes other) :
    (list.exchange place ⟨item.mutex.writeUnlock, element⟩ thread state events).Guarded := by
  have agrees := guarded.agrees place item found
  have writesPlace := (isWriting place).mpr rfl
  refine guarded.exchange found (agrees.writeUnlock writesPlace
    (reads_update (reads place)) ?_) (fun other _ => reads other) ?_
  · intro other
    by_cases isThread : other = thread
    · subst isThread
      simp only [Function.update_self]
      exact writes place
    · simp only [Function.update_of_ne isThread]
      have writer := (agrees.writer thread).mp writesPlace
      intro alsoWriting
      have both := ((agrees.writer other).mp alsoWriting).symm.trans writer
      exact isThread (congrArg Prod.fst both)
  · intro other unlike
    exact iff_of_false (writes other) fun alsoWriting =>
      unlike ((isWriting other).mp alsoWriting).symm

end Locks

end Guarded

end ThreadSafeList

namespace ThreadSafeList

section Runs

open ListThread (Unheld)

variable [DecidableEq Element] {list after : ThreadSafeList Element} {thread : ThreadID}

omit [DecidableEq Element] in
theorem Guarded.setActivity (guarded : list.Guarded) {activity : Option (Activity Element)}
    (before : Unheld (list.threads thread).activity) (unheld : Unheld activity)
    (events : List (ListEvent Element)) :
    (list.setActivity thread activity events).Guarded := by
  have reads (other : ThreadID) (place : Nat) :
      ((list.setActivity thread activity events).threads other).reads place =
        (list.threads other).reads place :=
    reads_update ((ListThread.reads_of_unheld unheld place).trans
      (ListThread.reads_of_unheld before place).symm) other
  have writes (other : ThreadID) (place : Nat) :
      ((list.setActivity thread activity events).threads other).writes place ↔
        (list.threads other).writes place :=
    writes_update (iff_of_false (ListThread.not_writes_of_unheld unheld place)
      (ListThread.not_writes_of_unheld before place)) other
  refine ⟨fun place item found => ?_, fun other place isOutside => ?_⟩
  · exact (guarded.agrees place item found).congr (reads · place) (writes · place)
  · rw [reads, writes]
    exact guarded.inside other place isOutside

omit [DecidableEq Element] in
theorem Guarded.append (guarded : list.Guarded) {element : Element}
    (before : Unheld (list.threads thread).activity) :
    (list.append thread element).Guarded := by
  have same := guarded.setActivity before unheld_none [.added thread element]
  refine ⟨fun place item found => ?_, fun other place isOutside => ?_⟩
  · simp only [ThreadSafeList.append] at found
    rcases Nat.lt_trichotomy place list.items.length with inRange | isLast | outside
    · rw [List.getElem?_append_left inRange] at found
      exact same.agrees place item found
    · subst isLast
      rw [List.getElem?_concat_length] at found
      cases found
      refine RecursiveReadWriteMutex.agrees_new.congr (fun other => ?_) fun other => ?_
      · exact (same.inside other _ (Nat.le_refl _)).1
      · exact iff_of_false (same.inside other _ (Nat.le_refl _)).2 id
    · rw [List.getElem?_eq_none (by simp; omega)] at found
      cases found
  · refine same.inside other place ?_
    simp only [ThreadSafeList.append, List.length_append] at isOutside
    exact Nat.le_trans (Nat.le_add_right _ _) isOutside

theorem Guarded.change (guarded : list.Guarded) (change : list.Change thread after) :
    after.Guarded := by
  cases change with
  | moves before _ unheld _ => exact guarded.setActivity before unheld _
  | visits isAt found free present =>
    rename_i place item element
    have before := ListThread.eq_of_activity isAt
    refine guarded.readLock found free (fun other => ?_) fun other => ?_
    · rw [before, ListThread.reads_of_unheld unheld_none, ListThread.reads_of_unheld ⟨rfl, rfl⟩,
        List.countP_cons]
      simp only [decide_eq_true_eq]
    · rw [before]
      exact iff_of_false (ListThread.not_writes_of_unheld unheld_none other)
        (ListThread.not_writes_of_unheld ⟨rfl, rfl⟩ other)
  | reads before found free reading _stays =>
    rename_i place item activity
    have readsPlace : (some activity).bind Activity.readsPlace = some place := reading
    refine guarded.readLock found free (fun other => ?_) fun other => ?_
    · exact (ListThread.reads_of_reading readsPlace other).trans (congrArg (· + _)
        (ListThread.reads_of_unheld before other).symm)
    · exact iff_of_false (ListThread.not_writes_of_reading readsPlace other)
        (ListThread.not_writes_of_unheld before other)
  | unreads reading found unheld _ =>
    refine guarded.readUnlock found (fun other => ?_) fun other => ?_
    · rw [ListThread.reads_of_unheld unheld]
      refine (Nat.sub_eq_of_eq_add ?_).symm
      exact ListThread.reads_of_reading reading other
    · exact iff_of_false (ListThread.not_writes_of_unheld unheld other)
        (ListThread.not_writes_of_reading reading other)
  | leaves isIn found unheld _ _ =>
    rename_i item visit visits activity
    refine guarded.readUnlock found (fun other => ?_) fun other => ?_
    · rw [isIn, ListThread.reads_of_unheld unheld, ListThread.reads_of_unheld unheld_none,
        List.countP_cons]
      simp
    · rw [isIn]
      exact iff_of_false (ListThread.not_writes_of_unheld unheld other)
        (ListThread.not_writes_of_unheld unheld_none other)
  | writes isAt found free =>
    have before := ListThread.eq_of_activity isAt
    refine guarded.writeLock found free (fun other => ?_) (fun other => ?_) fun other => ?_
    · rw [ListThread.reads_storing, before, ListThread.reads_of_unheld ⟨rfl, rfl⟩]
    · rw [before]
      exact ListThread.not_writes_of_unheld ⟨rfl, rfl⟩ other
    · exact ListThread.writes_storing _ _ other
  | stores isAt found wanted =>
    rename_i place item call
    have before := ListThread.eq_of_activity isAt
    have unheld : Unheld (call.afterStore.map (.advancing · place)) := by
      cases call <;> exact ⟨rfl, rfl⟩
    refine guarded.writeUnlock found (fun other => ?_) (fun other => ?_) fun other => ?_
    · rw [before]
      exact ListThread.writes_storing _ _ other
    · rw [ListThread.reads_of_unheld unheld, ListThread.countP_mark, before,
        ListThread.reads_storing]
    · exact ListThread.not_writes_of_unheld unheld other
  | keeps isAt found =>
    have before := ListThread.eq_of_activity isAt
    refine guarded.writeUnlock found (fun other => ?_) (fun other => ?_) fun other => ?_
    · rw [before]
      exact ListThread.writes_storing _ _ other
    · rw [ListThread.reads_of_unheld ⟨rfl, rfl⟩, before, ListThread.reads_storing]
    · exact ListThread.not_writes_of_unheld ⟨rfl, rfl⟩ other
  | appends isAt isLast => exact guarded.append (by rw [isAt]; exact ⟨rfl, rfl⟩)

theorem Guarded.step (guarded : list.Guarded) (op : Op Element) : (list.step op).Guarded := by
  rcases list.step_change op with same | change
  · rw [same]
    exact guarded
  · exact guarded.change change

omit [DecidableEq Element] in
/-- Nobody else has a lock of the item that a thread writes to. -/
theorem Guarded.reads_eq_zero (guarded : list.Guarded) {place : Nat} {item : ListItem Element}
    (found : list.items[place]? = some item) (isWriting : (list.threads thread).writes place)
    {other : ThreadID} (unlike : other ≠ thread) : (list.threads other).reads place = 0 :=
  (guarded.agrees place item found).exclusive thread other isWriting unlike

end Runs

end ThreadSafeList

end Mir.Observer

/-
This file embeds the multiplexer that passes notifications on to registered observers. It spawns an
invocation for each of them on an executor, which runs it at some later time; the invocation refers
to the observer without keeping it alive, and takes the arguments as they are forwarded.

It proves when all invocations are made on observers that still live, and when every observer that a
notification comes to gets one invocation with the arguments that were given: a forwarded temporary
is moved into the first invocation, and the next one gets what is left of it.
-/

import Mathlib.Data.List.Basic
import Mir.Library.Transition

namespace Mir.Observer

/-- An observer is known by its place among those made. -/
abbrev ObserverID := Nat

/-- An argument of a notification, which may be a temporary. -/
structure Argument (Value : Type) where
  rvalue : Bool
  value : Value
  deriving DecidableEq

/-- Work for an executor: a member function bound to an observer and arguments. -/
structure Invocation (Executor Value : Type) where
  executor : Executor
  observer : ObserverID
  arguments : List Value
  deriving DecidableEq

/-- A call of `for_each_observer`, which holds the lock until it is finished. What was given and who
was registered is kept as history, and so is whom it has met, alive or not, and what it spawned. -/
structure Notification (Executor Value : Type) where
  given : List (Argument Value)
  arguments : List (Argument Value)
  registered : List ObserverID
  met : List (ObserverID × Bool)
  invocations : List (Invocation Executor Value)
  finished : Bool

/-- The entries of the multiplexer, the observers, the notifications in the order in which they
began, the work that waits for its executor, and on whom work was executed, alive or not. -/
structure ObserverMultiplexer (Executor Value : Type) where
  made : Nat
  destroyed : List ObserverID
  observers : List (Executor × ObserverID)
  notifications : List (Notification Executor Value)
  work : List (Invocation Executor Value)
  executed : List (ObserverID × Bool)

variable {Executor Value : Type}

/-! ### Forwarding -/

section Forward

variable (movedFrom : Value → Value)

/-- What is left of an argument that was forwarded. -/
def Argument.forwarded (argument : Argument Value) : Argument Value :=
  if argument.rvalue then { argument with value := movedFrom argument.value } else argument

/-- Whether forwarding an argument leaves it as it is. -/
def Argument.Unharmed (argument : Argument Value) : Prop :=
  argument.rvalue = true → movedFrom argument.value = argument.value

instance [DecidableEq Value] (argument : Argument Value) :
    Decidable (argument.Unharmed movedFrom) :=
  inferInstanceAs (Decidable (_ → _))

theorem forwarded_eq_self_iff (argument : Argument Value) :
    argument.forwarded movedFrom = argument ↔ argument.Unharmed movedFrom := by
  obtain ⟨rvalue, value⟩ := argument
  unfold Argument.forwarded Argument.Unharmed
  cases rvalue <;> simp

theorem value_forwarded_iff (argument : Argument Value) :
    (argument.forwarded movedFrom).value = argument.value ↔ argument.Unharmed movedFrom := by
  obtain ⟨rvalue, value⟩ := argument
  unfold Argument.forwarded Argument.Unharmed
  cases rvalue <;> simp

end Forward

/-! ### The multiplexer -/

namespace Notification

def begin (given : List (Argument Value)) (registered : List ObserverID) :
    Notification Executor Value :=
  ⟨given, given, registered, [], [], false⟩

/-- An observer that has expired is passed over. -/
def pass (notification : Notification Executor Value) (observer : ObserverID) :
    Notification Executor Value :=
  { notification with met := notification.met ++ [(observer, false)] }

def invocation (notification : Notification Executor Value) (executor : Executor)
    (observer : ObserverID) : Invocation Executor Value :=
  ⟨executor, observer, notification.arguments.map Argument.value⟩

/-- The arguments are forwarded into an invocation. -/
def spawn (movedFrom : Value → Value) (notification : Notification Executor Value)
    (executor : Executor) (observer : ObserverID) : Notification Executor Value :=
  { notification with
    arguments := notification.arguments.map (Argument.forwarded movedFrom)
    met := notification.met ++ [(observer, true)]
    invocations := notification.invocations ++ [notification.invocation executor observer] }

end Notification

namespace ObserverMultiplexer

inductive Op (Executor Value : Type)
  | create
  | destroy (observer : ObserverID)
  | registerInterest (observer : ObserverID) (executor : Option Executor)
  | unregisterInterest (observer : ObserverID)
  | forEachObserver (arguments : List (Argument Value))
  | advance (notification : Nat)
  | run (work : Nat)

def new : ObserverMultiplexer Executor Value := ⟨0, [], [], [], [], []⟩

variable (multiplexer : ObserverMultiplexer Executor Value)

def isLive (observer : ObserverID) : Bool :=
  decide (observer < multiplexer.made ∧ observer ∉ multiplexer.destroyed)

/-- The lock can be had for changing the entries. -/
def isUnlocked : Bool := multiplexer.notifications.all Notification.finished

def registerInterest (observer : ObserverID) (executor : Executor) :
    ObserverMultiplexer Executor Value :=
  { multiplexer with observers := multiplexer.observers ++ [(executor, observer)] }

/-- The entries of observers that have expired go with it. -/
def unregisterInterest (observer : ObserverID) : ObserverMultiplexer Executor Value :=
  { multiplexer with
    observers := multiplexer.observers.filter fun candidate =>
      multiplexer.isLive candidate.2 && candidate.2 != observer }

def forEachObserver (given : List (Argument Value)) : ObserverMultiplexer Executor Value :=
  { multiplexer with
    notifications := multiplexer.notifications ++
      [.begin given (multiplexer.observers.map Prod.snd)] }

/-- A notification comes to the next entry, or is through with them. -/
def advance (movedFrom : Value → Value) (index : Nat)
    (notification : Notification Executor Value) : ObserverMultiplexer Executor Value :=
  match multiplexer.observers[notification.met.length]? with
  | none =>
    { multiplexer with
      notifications := multiplexer.notifications.set index { notification with finished := true } }
  | some (executor, observer) =>
    if multiplexer.isLive observer then
      { multiplexer with
        notifications := multiplexer.notifications.set index
          (notification.spawn movedFrom executor observer)
        work := multiplexer.work ++ [notification.invocation executor observer] }
    else
      { multiplexer with
        notifications := multiplexer.notifications.set index (notification.pass observer) }

def run (index : Nat) (invocation : Invocation Executor Value) :
    ObserverMultiplexer Executor Value :=
  { multiplexer with
    work := multiplexer.work.eraseIdx index
    executed := multiplexer.executed ++
      [(invocation.observer, multiplexer.isLive invocation.observer)] }

variable (defaultExecutor : Executor) (movedFrom : Value → Value)

/-- Who registers or unregisters an observer waits for the notifications in progress. What cannot
happen leaves everything as it is. -/
def step (multiplexer : ObserverMultiplexer Executor Value) :
    Op Executor Value → ObserverMultiplexer Executor Value
  | .create => { multiplexer with made := multiplexer.made + 1 }
  | .destroy observer => { multiplexer with destroyed := observer :: multiplexer.destroyed }
  | .registerInterest observer executor =>
    if multiplexer.isUnlocked then
      multiplexer.registerInterest observer (executor.getD defaultExecutor)
    else multiplexer
  | .unregisterInterest observer =>
    if multiplexer.isUnlocked then multiplexer.unregisterInterest observer else multiplexer
  | .forEachObserver arguments => multiplexer.forEachObserver arguments
  | .advance index =>
    match multiplexer.notifications[index]? with
    | none => multiplexer
    | some notification =>
      if notification.finished then multiplexer
      else multiplexer.advance movedFrom index notification
  | .run index =>
    match multiplexer.work[index]? with
    | none => multiplexer
    | some invocation => multiplexer.run index invocation

end ObserverMultiplexer

/-! ### What is promised -/

/-- Everyone who was registered is met by the end, whoever is met alive gets one invocation and
nobody else any, and all have the arguments that were given. -/
structure Notification.Right (notification : Notification Executor Value) : Prop where
  once : ∀ observer, (notification.invocations.map Invocation.observer).count observer =
    if (observer, true) ∈ notification.met then 1 else 0
  equal : ∀ invocation ∈ notification.invocations,
    invocation.arguments = notification.given.map Argument.value
  complete : notification.finished = true →
    notification.met.map Prod.fst = notification.registered

namespace ObserverMultiplexer

structure Sound (multiplexer : ObserverMultiplexer Executor Value) : Prop where
  alive : ∀ execution ∈ multiplexer.executed, execution.2 = true
  right : ∀ notification ∈ multiplexer.notifications, notification.Right

/-- No notification comes to an observer for the second time, or with a temporary that was moved
away; and no invocation is run whose observer was destroyed since it was spawned. -/
def Harmless (movedFrom : Value → Value) (multiplexer : ObserverMultiplexer Executor Value) :
    Op Executor Value → Prop
  | .advance index =>
    ∀ notification, multiplexer.notifications[index]? = some notification →
      notification.finished = false → ∀ entry,
        multiplexer.observers[notification.met.length]? = some entry →
          multiplexer.isLive entry.2 = true →
            (entry.2, true) ∉ notification.met ∧
              (notification.invocations ≠ [] →
                ∀ argument ∈ notification.given, argument.Unharmed movedFrom)
  | .run index =>
    ∀ invocation, multiplexer.work[index]? = some invocation →
      multiplexer.isLive invocation.observer = true
  | _ => True

end ObserverMultiplexer

/-! ### What holds of a notification -/

namespace Notification

/-- What a notification knows of those it has met. The arguments have been forwarded once or not at
all, as far as can be seen, and as long as it is not through nobody else registers. -/
structure Steady (movedFrom : Value → Value) (observers : List ObserverID)
    (notification : Notification Executor Value) : Prop where
  counted : ∀ observer, (notification.invocations.map Invocation.observer).count observer =
    notification.met.count (observer, true)
  forwarded : notification.arguments = if notification.invocations = [] then notification.given
    else notification.given.map (Argument.forwarded movedFrom)
  right : notification.Right
  ongoing : notification.finished = false → notification.registered = observers ∧
    notification.met.map Prod.fst = observers.take notification.met.length

variable {movedFrom : Value → Value} {observers others : List ObserverID}
  {notification : Notification Executor Value}

theorem steady_begin (given : List (Argument Value)) :
    (begin given observers : Notification Executor Value).Steady movedFrom observers where
  counted _ := rfl
  forwarded := rfl
  right := ⟨fun _ => rfl, fun _ member => (List.not_mem_nil member).elim, nofun⟩
  ongoing _ := ⟨rfl, rfl⟩

/-- Others may register when a notification is through. -/
theorem Steady.of_finished (steady : notification.Steady movedFrom observers)
    (finished : notification.finished = true) : notification.Steady movedFrom others where
  counted := steady.counted
  forwarded := steady.forwarded
  right := steady.right
  ongoing isOngoing := by rw [finished] at isOngoing; cases isOngoing

theorem Steady.finish (steady : notification.Steady movedFrom observers)
    (isOngoing : notification.finished = false)
    (through : observers[notification.met.length]? = none) :
    Steady movedFrom observers { notification with finished := true } where
  counted := steady.counted
  forwarded := steady.forwarded
  right := by
    refine ⟨steady.right.once, steady.right.equal, fun _ => ?_⟩
    obtain ⟨registered, met⟩ := steady.ongoing isOngoing
    refine met.trans ?_
    rw [registered, List.take_of_length_le (List.getElem?_eq_none_iff.mp through)]
  ongoing := nofun

/-- Whom a notification meets next is the next one of those who were registered. -/
theorem Steady.meets (steady : notification.Steady movedFrom observers)
    (isOngoing : notification.finished = false) {observer : ObserverID}
    (next : observers[notification.met.length]? = some observer) (alive : Bool) :
    (notification.met ++ [(observer, alive)]).map Prod.fst =
      observers.take (notification.met ++ [(observer, alive)]).length := by
  rw [List.map_append, (steady.ongoing isOngoing).2, List.length_append, List.length_singleton,
    List.take_add_one, next]
  rfl

theorem Steady.pass (steady : notification.Steady movedFrom observers)
    (isOngoing : notification.finished = false) {observer : ObserverID}
    (next : observers[notification.met.length]? = some observer) :
    (notification.pass observer).Steady movedFrom observers where
  counted other := by
    refine (steady.counted other).trans ?_
    simp [Notification.pass, List.count_append]
  forwarded := steady.forwarded
  right := by
    refine ⟨fun other => ?_, steady.right.equal, fun through => ?_⟩
    · simpa [Notification.pass] using steady.right.once other
    · exact absurd (isOngoing.symm.trans through) Bool.false_ne_true
  ongoing _ := ⟨(steady.ongoing isOngoing).1, steady.meets isOngoing next false⟩

/-- Nobody has got more than one invocation. -/
theorem Steady.count_met (steady : notification.Steady movedFrom observers)
    (observer : ObserverID) :
    notification.met.count (observer, true) =
      if (observer, true) ∈ notification.met then 1 else 0 :=
  (steady.counted observer).symm.trans (steady.right.once observer)

/-- When an invocation is spawned, the arguments have the values that were given unless a temporary
was moved away. -/
theorem Steady.map_value_arguments (steady : notification.Steady movedFrom observers) :
    notification.arguments.map Argument.value = notification.given.map Argument.value ↔
      (notification.invocations ≠ [] →
        ∀ argument ∈ notification.given, argument.Unharmed movedFrom) := by
  rw [steady.forwarded]
  by_cases isFirst : notification.invocations = []
  · rw [if_pos isFirst]
    exact iff_of_true rfl fun another => absurd isFirst another
  · rw [if_neg isFirst, List.map_map, List.map_inj_left]
    simp only [Function.comp_apply, value_forwarded_iff]
    exact ⟨fun each _ => each, fun each => each isFirst⟩

/-- An invocation is right exactly if the observer had none and no temporary was moved away. -/
theorem Steady.right_spawn_iff (steady : notification.Steady movedFrom observers)
    (isOngoing : notification.finished = false) (executor : Executor) (observer : ObserverID) :
    (notification.spawn movedFrom executor observer).Right ↔
      (observer, true) ∉ notification.met ∧
        (notification.invocations ≠ [] →
          ∀ argument ∈ notification.given, argument.Unharmed movedFrom) := by
  rw [← steady.map_value_arguments]
  constructor
  · rintro ⟨once, equal, -⟩
    constructor
    · intro metBefore
      have two := once observer
      simp [spawn, invocation, List.count_append, steady.counted, steady.count_met, metBefore]
        at two
    · exact equal (notification.invocation executor observer)
        (List.mem_append_right _ (List.mem_singleton_self _))
  · rintro ⟨isNew, equal⟩
    refine ⟨fun other => ?_, fun invocation member => ?_, fun through => ?_⟩
    · by_cases same : observer = other
      · subst same
        simp [spawn, invocation, List.count_append, steady.counted, steady.count_met, isNew]
      · have unlike : other ≠ observer := fun same' => same same'.symm
        simp [spawn, invocation, List.count_append, steady.counted, steady.count_met, same, unlike]
    · rcases List.mem_append.mp member with earlier | isLast
      · exact steady.right.equal invocation earlier
      · rw [List.mem_singleton.mp isLast]
        exact equal
    · exact absurd (isOngoing.symm.trans through) Bool.false_ne_true

theorem Steady.spawn (steady : notification.Steady movedFrom observers)
    (isOngoing : notification.finished = false) {observer : ObserverID}
    (next : observers[notification.met.length]? = some observer) (executor : Executor)
    (isNew : (observer, true) ∉ notification.met)
    (unharmed : notification.invocations ≠ [] →
      ∀ argument ∈ notification.given, argument.Unharmed movedFrom) :
    (notification.spawn movedFrom executor observer).Steady movedFrom observers where
  counted other := by
    simp only [Notification.spawn, Notification.invocation, List.map_append, List.count_append,
      steady.counted other]
    by_cases same : observer = other <;> simp [same]
  forwarded := by
    simp only [Notification.spawn, List.append_ne_nil_of_right_ne_nil _ (List.cons_ne_nil _ _),
      if_false, steady.forwarded]
    by_cases isFirst : notification.invocations = []
    · rw [if_pos isFirst]
    · rw [if_neg isFirst, List.map_map]
      refine List.map_congr_left fun argument member => ?_
      have same := (forwarded_eq_self_iff movedFrom argument).mpr (unharmed isFirst argument member)
      rw [Function.comp_apply, same, same]
  right := (steady.right_spawn_iff isOngoing executor observer).mpr ⟨isNew, unharmed⟩
  ongoing _ := ⟨(steady.ongoing isOngoing).1, steady.meets isOngoing next true⟩

end Notification

/-! ### Every run -/

namespace ObserverMultiplexer

variable {defaultExecutor : Executor} {movedFrom : Value → Value}

/-- What every run that does no harm keeps. -/
structure Steady (movedFrom : Value → Value) (multiplexer : ObserverMultiplexer Executor Value) :
    Prop where
  alive : ∀ execution ∈ multiplexer.executed, execution.2 = true
  each : ∀ notification ∈ multiplexer.notifications,
    notification.Steady movedFrom (multiplexer.observers.map Prod.snd)

variable {multiplexer : ObserverMultiplexer Executor Value}

theorem steady_new : Steady movedFrom (new : ObserverMultiplexer Executor Value) :=
  ⟨fun _ member => (List.not_mem_nil member).elim, fun _ member => (List.not_mem_nil member).elim⟩

theorem Steady.sound (steady : multiplexer.Steady movedFrom) : multiplexer.Sound :=
  ⟨steady.alive, fun notification member => (steady.each notification member).right⟩

/-- The entries change only when every notification is through. -/
theorem Steady.set_observers (steady : multiplexer.Steady movedFrom)
    (unlocked : multiplexer.isUnlocked = true) (observers : List (Executor × ObserverID)) :
    Steady movedFrom { multiplexer with observers } where
  alive := steady.alive
  each notification member := (steady.each notification member).of_finished
    (List.all_eq_true.mp unlocked notification member)

/-- A notification of the multiplexer is exchanged for one that is steady as well. -/
theorem Steady.set_notification (steady : multiplexer.Steady movedFrom) (index : Nat)
    {notification : Notification Executor Value}
    (keeps : notification.Steady movedFrom (multiplexer.observers.map Prod.snd))
    (work : List (Invocation Executor Value)) :
    Steady movedFrom { multiplexer with
      notifications := multiplexer.notifications.set index notification, work } where
  alive := steady.alive
  each other member := by
    rcases List.mem_or_eq_of_mem_set member with earlier | rfl
    · exact steady.each other earlier
    · exact keeps

theorem Steady.forEachObserver (steady : multiplexer.Steady movedFrom)
    (given : List (Argument Value)) : (multiplexer.forEachObserver given).Steady movedFrom where
  alive := steady.alive
  each notification member := by
    rcases List.mem_append.mp member with earlier | isLast
    · exact steady.each notification earlier
    · rw [List.mem_singleton.mp isLast]
      exact Notification.steady_begin given

/-- The next one who lives must be new to the notification, and what it gets what was given. -/
theorem Steady.advance (steady : multiplexer.Steady movedFrom) (index : Nat)
    {notification : Notification Executor Value} (member : notification ∈ multiplexer.notifications)
    (isOngoing : notification.finished = false)
    (harmless : ∀ entry, multiplexer.observers[notification.met.length]? = some entry →
      multiplexer.isLive entry.2 = true → (entry.2, true) ∉ notification.met ∧
        (notification.invocations ≠ [] →
          ∀ argument ∈ notification.given, argument.Unharmed movedFrom)) :
    (multiplexer.advance movedFrom index notification).Steady movedFrom := by
  have keeps := steady.each notification member
  simp only [ObserverMultiplexer.advance]
  cases next : multiplexer.observers[notification.met.length]? with
  | none =>
    refine steady.set_notification index (keeps.finish isOngoing ?_) _
    rw [List.getElem?_map, next, Option.map_none]
  | some entry =>
    have nextObserver : (multiplexer.observers.map Prod.snd)[notification.met.length]? =
        some entry.2 := by rw [List.getElem?_map, next, Option.map_some]
    dsimp only
    split
    case isTrue isLive =>
      obtain ⟨isNew, unharmed⟩ := harmless entry next isLive
      exact steady.set_notification index
        (keeps.spawn isOngoing nextObserver entry.1 isNew unharmed) _
    case isFalse => exact steady.set_notification index (keeps.pass isOngoing nextObserver) _

/-- One step keeps what holds if it does no harm. -/
theorem Steady.step (steady : multiplexer.Steady movedFrom) (op : Op Executor Value)
    (harmless : Harmless movedFrom multiplexer op) :
    (multiplexer.step defaultExecutor movedFrom op).Steady movedFrom := by
  cases op with
  | create => exact ⟨steady.alive, steady.each⟩
  | destroy observer => exact ⟨steady.alive, steady.each⟩
  | registerInterest observer executor =>
    simp only [ObserverMultiplexer.step]
    split
    case isTrue unlocked => exact steady.set_observers unlocked _
    case isFalse => exact steady
  | unregisterInterest observer =>
    simp only [ObserverMultiplexer.step]
    split
    case isTrue unlocked => exact steady.set_observers unlocked _
    case isFalse => exact steady
  | forEachObserver arguments => exact steady.forEachObserver arguments
  | advance index =>
    simp only [ObserverMultiplexer.step]
    cases found : multiplexer.notifications[index]? with
    | none => exact steady
    | some notification =>
      dsimp only
      split
      case isTrue => exact steady
      case isFalse ongoing =>
        have isOngoing := Bool.eq_false_iff.mpr ongoing
        exact steady.advance index (List.mem_of_getElem? found) isOngoing
          (harmless notification found isOngoing)
  | run index =>
    simp only [ObserverMultiplexer.step]
    cases found : multiplexer.work[index]? with
    | none => exact steady
    | some invocation =>
      refine ⟨fun execution member => ?_, steady.each⟩
      rcases List.mem_append.mp member with earlier | isLast
      · exact steady.alive execution earlier
      · rw [List.mem_singleton.mp isLast]
        exact harmless invocation found

/-- A step that does harm can be seen to. -/
theorem Steady.harmless (steady : multiplexer.Steady movedFrom) (op : Op Executor Value)
    (sound : (multiplexer.step defaultExecutor movedFrom op).Sound) :
    Harmless movedFrom multiplexer op := by
  cases op with
  | advance index =>
    intro notification found isOngoing entry next isLive
    have keeps := steady.each notification (List.mem_of_getElem? found)
    simp only [ObserverMultiplexer.step, found, isOngoing, Bool.false_eq_true, if_false,
      ObserverMultiplexer.advance, next, isLive, if_true] at sound
    refine (keeps.right_spawn_iff isOngoing entry.1 entry.2).mp (sound.right _ ?_)
    exact List.mem_set (List.getElem?_eq_some_iff.mp found).1 _
  | run index =>
    intro invocation found
    simp only [ObserverMultiplexer.step, found] at sound
    exact sound.alive _ (List.mem_append_right _ (List.mem_singleton_self _))
  | create => trivial
  | destroy => trivial
  | registerInterest => trivial
  | unregisterInterest => trivial
  | forEachObserver => trivial

/-- An observer is registered and notified, and is gone when the invocation is run. -/
def expired : List (Op Unit String) :=
  [.create, .registerInterest 0 none, .forEachObserver [], .advance 0, .advance 0, .destroy 0,
    .run 0]

/-- Two observers are notified with a temporary. -/
def temporary : List (Op Unit String) :=
  [.create, .create, .registerInterest 0 none, .registerInterest 1 none,
    .forEachObserver [⟨true, "session"⟩], .advance 0, .advance 0, .advance 0]

/-- An observer is registered for the second time, and notified. -/
def registeredTwice : List (Op Unit String) :=
  [.create, .registerInterest 0 none, .registerInterest 0 none, .forEachObserver [],
    .advance 0, .advance 0, .advance 0]

end ObserverMultiplexer

end Mir.Observer

/-
This file proves what the list without a lock promises, in every order of the steps of its threads.
No element is lost and none is duplicated: once all calls have returned, the elements are those of
the calls that added them, less those that calls took out. A walk through the list that nothing
overlaps calls back once for each element. And who has removed the only occurrence of an element
finds no callback running for it, save one that has itself exchanged what was in its place.
-/

import Mathlib.Data.List.Perm.Basic
import Mir.Library.Transition
import Mir.Observer.ThreadSafeList

namespace Mir.Observer

open Thread (ThreadID RecursiveReadWriteMutex)

variable {Element : Type}

namespace ListEvent

/-- The call that a thread began. -/
def began : ListEvent Element → Option (ThreadID × ListCall Element)
  | called thread call => some (thread, call)
  | added _ _ | removed _ _ | returned _ _ => none
  | removedByAll _ _ | cleared _ _ | visited _ _ => none

/-- The call that a thread returned from. -/
def ended : ListEvent Element → Option (ThreadID × ListCall Element)
  | added thread element => some (thread, .add element)
  | removed thread element => some (thread, .remove element)
  | returned thread call => some (thread, call.begin)
  | called _ _ | removedByAll _ _ | cleared _ _ | visited _ _ => none

/-- The element that was taken out: by `remove`, which had found it, by `remove_all` or by
`clear`. -/
def lost : ListEvent Element → Option Element
  | removed _ element | removedByAll _ element | cleared _ element => some element
  | called _ _ | added _ _ | returned _ _ | visited _ _ => none

end ListEvent

/-- The call that a thread is in, as it was begun. -/
def ListThread.ongoing (thread : ListThread Element) : Option (ListCall Element) :=
  (thread.activity.bind Activity.call).map ListCall.begin

namespace ThreadSafeList

variable (list : ThreadSafeList Element)

def elements : List (Option Element) := list.items.map ListItem.element

def began : List (ThreadID × ListCall Element) := list.history.filterMap ListEvent.began

def ended : List (ThreadID × ListCall Element) := list.history.filterMap ListEvent.ended

def lost : List Element := list.history.filterMap ListEvent.lost

/-- All calls and callbacks have returned. -/
def Idle : Prop := ∀ thread, list.threads thread = ⟨[], none⟩

/-! ### No element is lost -/

section Balance

variable [DecidableEq Element]

/-- The calls that were begun have returned, and the elements are those that were added, less those
that were taken out; only `clear` takes out elements that nobody named. -/
structure Balanced : Prop where
  calls : list.began.Perm list.ended
  elements : ∀ element, list.elements.count (some element) + list.lost.count element =
    (list.began.map Prod.snd).count (.add element)
  cleared : ∀ thread element, .cleared thread element ∈ list.history →
    .called thread .clear ∈ list.history

/-- What holds of the calls and the elements all the time. -/
structure Accounted : Prop where
  calls : ∀ thread call, list.began.count (thread, call) = list.ended.count (thread, call) +
    if (list.threads thread).ongoing = some call then 1 else 0
  elements : ∀ element, list.elements.count (some element) + list.lost.count element =
    (list.ended.map Prod.snd).count (.add element)
  cleared : ∀ thread element, .cleared thread element ∈ list.history →
    (thread, .clear) ∈ list.began
  returned : ∀ thread element, .returned thread (.add element) ∉ list.history

/-- What a step of a thread does to the calls and the elements. -/
structure Effect (thread : ThreadID) (after : ThreadSafeList Element)
    (events : List (ListEvent Element)) (state : ListThread Element) : Prop where
  history : after.history = list.history ++ events
  threads : after.threads = Function.update list.threads thread state
  calls : events.filterMap ListEvent.began ++
      (list.threads thread).ongoing.toList.map (Prod.mk thread) =
    events.filterMap ListEvent.ended ++ state.ongoing.toList.map (Prod.mk thread)
  elements : ∀ element,
    after.elements.count (some element) + (events.filterMap ListEvent.lost).count element =
      list.elements.count (some element) +
        ((events.filterMap ListEvent.ended).map Prod.snd).count (.add element)
  cleared : ∀ other element, .cleared other element ∈ events →
    other = thread ∧ (list.threads thread).ongoing = some .clear
  returned : ∀ other element, .returned other (.add element) ∉ events

end Balance

section Exchange

variable [DecidableEq Element] {list : ThreadSafeList Element} {place : Nat}
  {item : ListItem Element}

omit [DecidableEq Element] in
theorem elements_exchange (next : ListItem Element) (thread : ThreadID)
    (state : ListThread Element) (events : List (ListEvent Element)) :
    (list.exchange place next thread state events).elements =
      list.elements.set place next.element := by
  simp only [elements, exchange, List.map_set]

/-- One element comes for another. -/
theorem count_set_elements (found : list.items[place]? = some item)
    (stored element : Option Element) :
    (list.elements.set place stored).count element + (if item.element = element then 1 else 0) =
      list.elements.count element + if stored = element then 1 else 0 := by
  have isThere : list.elements[place]? = some item.element := by
    rw [elements, List.getElem?_map, found, Option.map_some]
  obtain ⟨inRange, same⟩ := List.getElem?_eq_some_iff.mp isThere
  obtain ⟨before, later, whole, -, changed⟩ :
      ∃ before later, list.elements = before ++ list.elements[place] :: later ∧
        before.length = place ∧ list.elements.set place stored = before ++ stored :: later :=
    List.exists_of_set inRange
  rw [changed, whole, same]
  simp only [List.count_append, List.count_cons, beq_iff_eq]
  omega

end Exchange

section Effects

variable [DecidableEq Element] {list after : ThreadSafeList Element} {thread : ThreadID}
  {place : Nat} {item : ListItem Element} {state : ListThread Element}

/-- A thread that locks or unlocks an item stays in the call that it is in. -/
theorem effect_of_same (found : list.items[place]? = some item)
    (events : List (ListEvent Element)) {mutex : RecursiveReadWriteMutex}
    (quiet : events.filterMap ListEvent.began = [] ∧ events.filterMap ListEvent.ended = [] ∧
      events.filterMap ListEvent.lost = [])
    (ongoing : state.ongoing = (list.threads thread).ongoing) :
    list.Effect thread (list.exchange place ⟨mutex, item.element⟩ thread state events) events
      state where
  history := rfl
  threads := rfl
  calls := by rw [quiet.1, quiet.2.1, ongoing]
  elements element := by
    have counts := count_set_elements found item.element (some element)
    rw [elements_exchange, quiet.2.1, quiet.2.2, List.count_nil, List.map_nil, List.count_nil]
    exact Nat.add_right_cancel counts
  cleared other element member := by
    have isLost : element ∈ events.filterMap ListEvent.lost :=
      List.mem_filterMap.mpr ⟨_, member, rfl⟩
    rw [quiet.2.2] at isLost
    cases isLost
  returned other element member := by
    have isEnded : (other, .add element) ∈ events.filterMap ListEvent.ended :=
      List.mem_filterMap.mpr ⟨_, member, rfl⟩
    rw [quiet.2.1] at isEnded
    cases isEnded

omit [DecidableEq Element] in
theorem begin_begin (call : ListCall Element) : call.begin.begin = call.begin := by
  cases call <;> rfl

theorem effect_of_moves {before next : Option (ListCall Element)}
    {activity : Option (Activity Element)} {events : List (ListEvent Element)}
    (was : (list.threads thread).activity.bind Activity.call = before)
    (becomes : activity.bind Activity.call = next)
    (kind : ListThread.Moves thread before next events) :
    list.Effect thread (list.setActivity thread activity events) events
      ⟨(list.threads thread).visits, activity⟩ where
  history := rfl
  threads := rfl
  calls := by
    unfold ListThread.ongoing
    rw [was, becomes]
    cases kind with
    | on call => rfl
    | begins call => simp [ListEvent.began, ListEvent.ended, begin_begin]
    | returns call => simp [ListEvent.began, ListEvent.ended]
  elements element := by
    cases kind with
    | on call => rfl
    | begins call =>
      simp only [List.filterMap_cons, List.filterMap_nil, ListEvent.lost, ListEvent.ended]
      rfl
    | returns call unlike =>
      have isOther : call.begin ≠ .add element := by
        cases call with
        | add other => exact absurd rfl (unlike other)
        | remove other => exact nofun
        | removeAll other removed => exact nofun
        | clear => exact nofun
      simp only [List.filterMap_cons, List.filterMap_nil, ListEvent.lost, ListEvent.ended]
      simp [elements, setActivity, isOther]
  cleared other element member := by
    cases kind with
    | on call => cases member
    | begins call => cases List.mem_singleton.mp member
    | returns call => cases List.mem_singleton.mp member
  returned other element member := by
    cases kind with
    | on call => cases member
    | begins call => cases List.mem_singleton.mp member
    | returns call unlike =>
      cases List.mem_singleton.mp member
      exact unlike element rfl

section Events

variable {call : ListCall Element} {element : Option Element}

/-- A call that exchanges an element loses what was there. -/
theorem lost_events (wanted : call.wants element = true) :
    (call.events thread element).filterMap ListEvent.lost = element.toList := by
  cases call with
  | add added =>
    rw [Option.isNone_iff_eq_none.mp wanted]
    rfl
  | remove removed =>
    rw [of_decide_eq_true wanted]
    rfl
  | removeAll removed count =>
    rw [of_decide_eq_true wanted]
    rfl
  | clear => cases element <;> rfl

/-- And a call that brings an element has added it. -/
theorem count_ended_events (added : Element) :
    (((call.events thread element).filterMap ListEvent.ended).map Prod.snd).count (.add added) =
      if call.stored = some added then 1 else 0 := by
  cases call with
  | add other =>
    have whole : ((ListCall.add other).events thread element).filterMap ListEvent.ended =
        [(thread, .add other)] := rfl
    simp [whole, ListCall.stored, List.count_cons]
  | remove removed => rfl
  | removeAll removed count => rfl
  | clear => cases element <;> rfl

theorem count_toList (element : Option Element) (other : Element) :
    element.toList.count other = if element = some other then 1 else 0 := by
  cases element with
  | none => rfl
  | some element => simp [List.count_cons]

end Events

/-- An element is exchanged for the one that the call brings. -/
theorem effect_of_stores {call : ListCall Element} {visits : List (Visit Element)}
    (isAt : (list.threads thread).activity = some (.storing call place))
    (found : list.items[place]? = some item) (wanted : call.wants item.element = true)
    (mutex : RecursiveReadWriteMutex) :
    list.Effect thread
      (list.exchange place ⟨mutex, call.stored⟩ thread
        ⟨visits, call.afterStore.map (.advancing · place)⟩ (call.events thread item.element))
      (call.events thread item.element) ⟨visits, call.afterStore.map (.advancing · place)⟩ where
  history := rfl
  threads := rfl
  calls := by
    unfold ListThread.ongoing
    rw [isAt]
    cases call with
    | add element => rfl
    | remove element => rfl
    | removeAll element removed => rfl
    | clear =>
      cases item.element <;> rfl
  elements element := by
    rw [elements_exchange, lost_events wanted, count_toList, count_ended_events]
    exact count_set_elements found call.stored (some element)
  cleared other element member := by
    unfold ListThread.ongoing
    rw [isAt]
    cases call with
    | add added => cases List.mem_singleton.mp member
    | remove removed => cases List.mem_singleton.mp member
    | removeAll removed count => cases List.mem_singleton.mp member
    | clear =>
      obtain ⟨cleared, -, same⟩ := List.mem_map.mp member
      cases same
      exact ⟨rfl, rfl⟩
  returned other element member := by
    cases call with
    | add added => cases List.mem_singleton.mp member
    | remove removed => cases List.mem_singleton.mp member
    | removeAll removed count => cases List.mem_singleton.mp member
    | clear =>
      obtain ⟨cleared, -, same⟩ := List.mem_map.mp member
      cases same

theorem effect_of_appends {element : Element}
    (isAt : (list.threads thread).activity = some (.appending element place)) :
    list.Effect thread (list.append thread element) [.added thread element]
      ⟨(list.threads thread).visits, none⟩ where
  history := rfl
  threads := rfl
  calls := by
    unfold ListThread.ongoing
    rw [isAt]
    rfl
  elements other := by
    simp only [List.filterMap_cons, List.filterMap_nil, ListEvent.lost, ListEvent.ended]
    simp [elements, append, List.count_append, List.count_cons]
  cleared other cleared member := by cases List.mem_singleton.mp member
  returned other added member := by cases List.mem_singleton.mp member

/-- What every step does to the calls and the elements. -/
theorem Change.effect (change : list.Change thread after) :
    ∃ events state, list.Effect thread after events state := by
  cases change with
  | moves _ _ _ kind => exact ⟨_, _, effect_of_moves rfl rfl kind⟩
  | visits isAt found free present =>
    refine ⟨_, _, effect_of_same found _ ⟨rfl, rfl, rfl⟩ (congrArg (Option.map _) ?_)⟩
    rw [isAt]
    rfl
  | reads _ found _ _ stays =>
    exact ⟨_, _, effect_of_same found _ ⟨rfl, rfl, rfl⟩ (congrArg (Option.map _) stays)⟩
  | unreads _ found _ stays =>
    exact ⟨_, _, effect_of_same found _ ⟨rfl, rfl, rfl⟩ (congrArg (Option.map _) stays)⟩
  | leaves isIn found _ _ stays =>
    refine ⟨_, _, effect_of_same found _ ⟨rfl, rfl, rfl⟩ (congrArg (Option.map _) ?_)⟩
    rw [isIn]
    exact stays
  | writes isAt found free =>
    refine ⟨_, _, effect_of_same found _ ⟨rfl, rfl, rfl⟩ (congrArg (Option.map _) ?_)⟩
    rw [isAt]
    rfl
  | stores isAt found wanted => exact ⟨_, _, effect_of_stores isAt found wanted _⟩
  | keeps isAt found =>
    refine ⟨_, _, effect_of_same found _ ⟨rfl, rfl, rfl⟩ (congrArg (Option.map _) ?_)⟩
    rw [isAt]
    rfl
  | appends isAt isLast => exact ⟨_, _, effect_of_appends isAt⟩

end Effects

section Account

variable [DecidableEq Element] {list after : ThreadSafeList Element} {thread : ThreadID}
  {events : List (ListEvent Element)} {state : ListThread Element}

theorem accounted_new : (new : ThreadSafeList Element).Accounted where
  calls _ _ := rfl
  elements _ := rfl
  cleared _ _ member := by cases member
  returned _ _ member := by cases member

theorem count_ongoing (call : ListCall Element) (other who : ThreadID)
    (ongoing : Option (ListCall Element)) :
    (ongoing.toList.map (Prod.mk other)).count (who, call) =
      if other = who ∧ ongoing = some call then 1 else 0 := by
  cases ongoing with
  | none => simp
  | some current =>
    simp only [Option.toList_some, List.map_cons, List.map_nil, List.count_singleton, beq_iff_eq,
      Prod.mk.injEq, Option.some.injEq]

/-- What the step of a thread does keeps the accounts. -/
theorem Accounted.effect (accounted : list.Accounted)
    (effect : list.Effect thread after events state) : after.Accounted where
  calls who call := by
    have balance := congrArg (List.count (who, call)) effect.calls
    have account := accounted.calls who call
    simp only [List.count_append, count_ongoing] at balance
    simp only [began, ended, effect.history, List.filterMap_append, List.count_append,
      effect.threads] at account ⊢
    by_cases isThread : who = thread
    · subst isThread
      simp only [true_and] at balance
      rw [Function.update_self]
      omega
    · have unlike : thread ≠ who := fun same => isThread same.symm
      simp only [unlike, false_and, if_false] at balance
      rw [Function.update_of_ne isThread]
      omega
  elements element := by
    have balance := effect.elements element
    have account := accounted.elements element
    simp only [lost, ended, effect.history, List.filterMap_append, List.map_append,
      List.count_append] at account ⊢
    omega
  cleared who element member := by
    rw [effect.history] at member
    have whole : after.began = list.began ++ events.filterMap ListEvent.began := by
      rw [began, effect.history, List.filterMap_append]
      rfl
    rw [whole]
    rcases List.mem_append.mp member with earlier | isNew
    · exact List.mem_append_left _ (accounted.cleared who element earlier)
    · obtain ⟨rfl, ongoing⟩ := effect.cleared who element isNew
      refine List.mem_append_left _ (List.count_pos_iff.mp ?_)
      rw [accounted.calls, if_pos ongoing]
      exact Nat.succ_pos _
  returned who element member := by
    rw [effect.history] at member
    rcases List.mem_append.mp member with earlier | isNew
    · exact accounted.returned who element earlier
    · exact effect.returned who element isNew

theorem Accounted.step (accounted : list.Accounted) (op : Op Element) :
    (list.step op).Accounted := by
  rcases list.step_change op with same | change
  · rw [same]
    exact accounted
  · obtain ⟨events, state, effect⟩ := change.effect
    exact accounted.effect effect

omit [DecidableEq Element] in
theorem began_eq_some_iff {event : ListEvent Element} {call : ListCall Element} :
    event.began = some (thread, call) ↔ event = .called thread call := by
  cases event <;> simp [ListEvent.began]

/-- Once all calls have returned nothing is left open. -/
theorem Accounted.balanced (accounted : list.Accounted) (idle : list.Idle) : list.Balanced := by
  have calls : list.began.Perm list.ended := by
    refine List.perm_iff_count.mpr fun ⟨thread, call⟩ => ?_
    rw [accounted.calls, idle thread]
    rfl
  refine ⟨calls, fun element => ?_, fun thread element member => ?_⟩
  · rw [accounted.elements]
    exact ((calls.map Prod.snd).count_eq _).symm
  · obtain ⟨event, called, same⟩ := List.mem_filterMap.mp (accounted.cleared thread element member)
    exact began_eq_some_iff.mp same ▸ called

end Account

/-! ### Callbacks for elements that are there -/

section Callbacks

variable [DecidableEq Element] {list after : ThreadSafeList Element} {thread : ThreadID}

/-- While a callback runs its element stays, unless the thread itself exchanges it. -/
structure Intact (list : ThreadSafeList Element) : Prop where
  present : ∀ thread, ∀ visit ∈ (list.threads thread).visits, visit.exchanged = false →
    list.elements[visit.place]? = some (some visit.element)

omit [DecidableEq Element] in
theorem intact_new : (new : ThreadSafeList Element).Intact :=
  ⟨fun _ _ member => by cases member⟩

omit [DecidableEq Element] in
/-- A step that leaves the elements where they are, and adds no callbacks, keeps them intact. -/
theorem Intact.of_subset (intact : list.Intact) {state : ListThread Element}
    (threads : after.threads = Function.update list.threads thread state)
    (subset : state.visits ⊆ (list.threads thread).visits)
    (elements : ∀ (place : Nat) (element : Element),
      list.elements[place]? = some (some element) → after.elements[place]? = some (some element)) :
    after.Intact := by
  refine ⟨fun other visit member isThere => elements _ _ ?_⟩
  rw [threads] at member
  by_cases isThread : other = thread
  · subst isThread
    rw [Function.update_self] at member
    exact intact.present other visit (subset member) isThere
  · rw [Function.update_of_ne isThread] at member
    exact intact.present other visit member isThere

section Exchange

variable {place : Nat} {item : ListItem Element} (found : list.items[place]? = some item)
include found

omit [DecidableEq Element] in
theorem getElem?_elements : list.elements[place]? = some item.element := by
  rw [elements, List.getElem?_map, found, Option.map_some]

omit [DecidableEq Element] in
/-- When an item only changes hands, the elements are the same. -/
theorem elements_of_same (mutex : RecursiveReadWriteMutex) (state : ListThread Element)
    (events : List (ListEvent Element)) :
    (list.exchange place ⟨mutex, item.element⟩ thread state events).elements = list.elements := by
  obtain ⟨inRange, same⟩ := List.getElem?_eq_some_iff.mp (getElem?_elements found)
  rw [elements_exchange, ← same]
  exact List.set_getElem_self inRange

omit [DecidableEq Element] in
theorem Intact.of_same (intact : list.Intact) {mutex : RecursiveReadWriteMutex}
    {state : ListThread Element} {events : List (ListEvent Element)}
    (subset : state.visits ⊆ (list.threads thread).visits) :
    (list.exchange place ⟨mutex, item.element⟩ thread state events).Intact := by
  refine intact.of_subset rfl subset fun place element isThere => ?_
  rw [elements_of_same found]
  exact isThere

omit [DecidableEq Element] in
/-- A callback is called for an element that is there. -/
theorem Intact.visits (intact : list.Intact) {element : Element}
    (present : item.element = some element) (mutex : RecursiveReadWriteMutex)
    (events : List (ListEvent Element)) :
    (list.exchange place ⟨mutex, item.element⟩ thread
      ⟨⟨place, element, false⟩ :: (list.threads thread).visits, none⟩ events).Intact := by
  refine ⟨fun other visit member isThere => ?_⟩
  rw [elements_of_same found]
  by_cases isThread : other = thread
  · subst isThread
    simp only [ThreadSafeList.exchange, Function.update_self] at member
    rcases List.mem_cons.mp member with rfl | earlier
    · rw [getElem?_elements found, present]
    · exact intact.present other visit earlier isThere
  · simp only [ThreadSafeList.exchange, Function.update_of_ne isThread] at member
    exact intact.present other visit member isThere

omit [DecidableEq Element] in
/-- Where an element is exchanged nobody else runs a callback. -/
theorem Intact.stores (intact : list.Intact) (guarded : list.Guarded)
    (isWriting : (list.threads thread).writes place) (next : ListItem Element)
    (activity : Option (Activity Element)) (events : List (ListEvent Element)) :
    (list.exchange place next thread
      ⟨(list.threads thread).visits.map (Visit.mark place), activity⟩ events).Intact := by
  refine ⟨fun other visit member isThere => ?_⟩
  have elsewhere {known : Visit Element} (unlike : known.place ≠ place)
      (present : list.elements[known.place]? = some (some known.element)) :
      (list.elements.set place next.element)[known.place]? = some (some known.element) := by
    rw [List.getElem?_set_ne unlike.symm]
    exact present
  rw [elements_exchange]
  by_cases isThread : other = thread
  · subst isThread
    simp only [ThreadSafeList.exchange, Function.update_self] at member
    obtain ⟨original, isOld, rfl⟩ := List.mem_map.mp member
    unfold Visit.mark at isThere ⊢
    split at isThere
    case isTrue => cases isThere
    case isFalse unlike =>
      rw [if_neg unlike]
      exact elsewhere unlike (intact.present other original isOld isThere)
  · simp only [ThreadSafeList.exchange, Function.update_of_ne isThread] at member
    refine elsewhere (fun isPlace => ?_) (intact.present other visit member isThere)
    have holds := ListThread.reads_pos_of_mem member
    rw [isPlace, guarded.reads_eq_zero found isWriting isThread] at holds
    exact Nat.lt_irrefl 0 holds

end Exchange

omit [DecidableEq Element] in
theorem elements_append (element : Element) :
    (list.append thread element).elements = list.elements ++ [some element] := by
  simp only [elements, append, List.map_append, List.map_cons, List.map_nil]

/-- A callback for an element runs only while the element is there. -/
theorem Intact.change (intact : list.Intact) (guarded : list.Guarded)
    (change : list.Change thread after) : after.Intact := by
  cases change with
  | moves => exact intact.of_subset rfl (List.Subset.refl _) fun _ _ isThere => isThere
  | visits _ found _ present => exact intact.visits found present _ _
  | reads _ found => exact intact.of_same found (List.Subset.refl _)
  | unreads _ found => exact intact.of_same found (List.Subset.refl _)
  | leaves isIn found =>
    refine intact.of_same found ?_
    rw [isIn]
    exact List.subset_cons_self _ _
  | writes _ found => exact intact.of_same found (List.Subset.refl _)
  | stores isAt found =>
    refine intact.stores found guarded ?_ _ _ _
    rw [ListThread.writes, isAt]
    rfl
  | keeps _ found => exact intact.of_same found (List.Subset.refl _)
  | appends =>
    refine intact.of_subset rfl (List.Subset.refl _) fun place element isThere => ?_
    rw [elements_append, List.getElem?_append_left (List.getElem?_eq_some_iff.mp isThere).1]
    exact isThere

end Callbacks

/-! ### Every run -/

section Runs

variable [DecidableEq Element] {list : ThreadSafeList Element}

/-- What holds in every state. -/
structure Steady (list : ThreadSafeList Element) : Prop where
  inside : 0 < list.items.length
  guarded : list.Guarded
  accounted : list.Accounted
  intact : list.Intact

theorem steady_new : (new : ThreadSafeList Element).Steady :=
  ⟨Nat.one_pos, guarded_new, accounted_new, intact_new⟩

omit [DecidableEq Element] in
theorem length_exchange (place : Nat) (item : ListItem Element) (thread : ThreadID)
    (state : ListThread Element) (events : List (ListEvent Element)) :
    (list.exchange place item thread state events).items.length = list.items.length :=
  List.length_set

/-- Items are never taken away. -/
theorem length_le_step (op : Op Element) : list.items.length ≤ (list.step op).items.length := by
  rcases list.step_change op with same | change
  · exact Nat.le_of_eq (by rw [same])
  · generalize list.step op = after at change
    cases change with
    | moves => exact Nat.le_refl _
    | appends =>
      rw [ThreadSafeList.append, List.length_append]
      exact Nat.le_add_right _ _
    | visits | reads | unreads | leaves | writes | stores | keeps =>
      exact Nat.le_of_eq (length_exchange _ _ _ _ _).symm

theorem Steady.step (steady : list.Steady) (op : Op Element) : (list.step op).Steady where
  inside := Nat.lt_of_lt_of_le steady.inside (length_le_step op)
  guarded := steady.guarded.step op
  accounted := steady.accounted.step op
  intact := by
    rcases list.step_change op with same | change
    · rw [same]
      exact steady.intact
    · exact steady.intact.change steady.guarded change

theorem Steady.run (steady : list.Steady) (ops : List (Op Element)) :
    (ops.foldl ThreadSafeList.step list).Steady :=
  List.foldlRecOn ops ThreadSafeList.step steady fun _ steady op _ => steady.step op

/-! ### Removed elements -/

/-- Once a call has removed the only occurrence of an element, and until the element is added again,
no callback runs for it but one whose thread has itself exchanged what was in its place. -/
def RemovesSafely (list : ThreadSafeList Element) : Prop :=
  ∀ (op : Op Element) (thread : ThreadID) (element : Element),
    list.elements.count (some element) = 1 →
      (list.step op).history = list.history ++ [.removed thread element] →
        ∀ (later : List (Op Element)) (events : List (ListEvent Element)),
          (later.foldl step (list.step op)).history = (list.step op).history ++ events →
            (∀ other, .added other element ∉ events) →
              ∀ other, ∀ visit ∈ ((later.foldl step (list.step op)).threads other).visits,
                visit.element = element → visit.exchanged = true

/-- An element that is not in the list has no callback that found it there. -/
theorem Intact.exchanged_of_count (intact : list.Intact) {element : Element}
    (gone : list.elements.count (some element) = 0) {thread : ThreadID} {visit : Visit Element}
    (member : visit ∈ (list.threads thread).visits) (isFor : visit.element = element) :
    visit.exchanged = true := by
  by_contra isThere
  have present := intact.present thread visit member (Bool.eq_false_iff.mpr isThere)
  rw [isFor] at present
  exact List.count_eq_zero.mp gone (List.mem_of_getElem? present)

/-- An event that ends a call of `add` is the one of its element. -/
theorem count_add_of_not_added {events : List (ListEvent Element)} {element : Element}
    (none : ∀ thread, .added thread element ∉ events)
    (returned : ∀ thread, .returned thread (.add element) ∉ events) :
    ((events.filterMap ListEvent.ended).map Prod.snd).count (.add element) = 0 := by
  refine List.count_eq_zero.mpr fun member => ?_
  obtain ⟨⟨thread, call⟩, isEnded, rfl⟩ := List.mem_map.mp member
  obtain ⟨event, isEvent, same⟩ := List.mem_filterMap.mp isEnded
  cases event with
  | added other added =>
    cases same
    exact none _ isEvent
  | returned other call =>
    cases call with
    | add added =>
      cases same
      exact returned _ isEvent
    | remove removed => cases same
    | removeAll removed count => cases same
    | clear => cases same
  | called other call => cases same
  | removed other removed => cases same
  | removedByAll other removed => cases same
  | cleared other cleared => cases same
  | visited other visited => cases same

theorem Steady.removesSafely (steady : list.Steady) : list.RemovesSafely := by
  intro op thread element only removes later events extends_ noneAdded other visit member isFor
  have after := (steady.step op).run later
  refine after.intact.exchanged_of_count ?_ member isFor
  have before := steady.accounted.elements element
  have now := after.accounted.elements element
  have noneReturned (who : ThreadID) : .returned who (.add element) ∉ events := by
    intro isEvent
    refine after.accounted.returned who element ?_
    rw [extends_]
    exact List.mem_append_right _ isEvent
  have added := count_add_of_not_added noneAdded noneReturned
  simp only [lost, ended, extends_, removes, List.filterMap_append, List.map_append,
    List.count_append, added] at before now
  have taken : (([.removed thread element] : List (ListEvent Element)).filterMap
      ListEvent.lost).count element = 1 := by
    simp only [List.filterMap_cons, List.filterMap_nil, ListEvent.lost]
    exact List.count_singleton_self
  have unadded : ((([.removed thread element] : List (ListEvent Element)).filterMap
      ListEvent.ended).map Prod.snd).count (.add element) = 0 := by
    simp only [List.filterMap_cons, List.filterMap_nil, ListEvent.ended]
    rfl
  omega

end Runs

/-! ### A walk that nothing overlaps -/

section Walks

/-- Where a thread is that walks through a list of so many items, and how many it has seen. -/
inductive Walk (length : Nat) : ListThread Element → Nat → Prop
  | locking {place : Nat} (inside : place < length) : Walk length ⟨[], some (.locking place)⟩ place
  | passing {place : Nat} (inside : place < length) :
    Walk length ⟨[], some (.passing place)⟩ (place + 1)
  | visiting {visit : Visit Element} (inside : visit.place < length) :
    Walk length ⟨[visit], none⟩ (visit.place + 1)
  | done : Walk length ⟨[], none⟩ length

/-- How many steps a walk has still to take. -/
def stepsLeft (length : Nat) : ListThread Element → Nat
  | ⟨[], some (.locking place)⟩ => 2 * (length - place)
  | ⟨[], some (.passing place)⟩ => 2 * (length - place) - 1
  | ⟨[visit], none⟩ => 2 * (length - visit.place) - 1
  | _ => 0

/-- The callbacks for the elements among some items. -/
def visitsOf (thread : ThreadID) (elements : List (Option Element)) : List (ListEvent Element) :=
  (elements.filterMap id).map (.visited thread)

/-- A thread walks through the list while all others are up to their own code, and has called back
for the elements of the items that it has seen. -/
structure Walking (list : ThreadSafeList Element) (thread : ThreadID)
    (now : ThreadSafeList Element) : Prop where
  guarded : now.Guarded
  elements : now.elements = list.elements
  others : ∀ other, other ≠ thread → now.threads other = ⟨[], none⟩
  stage : ∃ seen, Walk list.items.length (now.threads thread) seen ∧
    now.history = list.history ++ visitsOf thread (list.elements.take seen)

variable {list now : ThreadSafeList Element} {thread : ThreadID} {length seen : Nat}
  {state : ListThread Element}

theorem Walk.not_writes (walk : Walk length state seen) (place : Nat) : ¬ state.writes place := by
  cases walk <;> exact nofun

/-- From an item the walk comes to the next one, if there is one, or is done. -/
theorem walk_next {place : Nat} (inside : place < length) :
    Walk length (⟨[], (if place + 1 < length then some (place + 1) else none).map .locking⟩ :
        ListThread Element) (place + 1) ∧
      stepsLeft length (⟨[], (if place + 1 < length then some (place + 1) else none).map .locking⟩ :
        ListThread Element) < 2 * (length - place) - 1 := by
  split
  case isTrue more =>
    refine ⟨.locking more, ?_⟩
    show 2 * (length - (place + 1)) < 2 * (length - place) - 1
    omega
  case isFalse last =>
    have isLast : place + 1 = length := by omega
    rw [isLast]
    refine ⟨.done, ?_⟩
    show 0 < 2 * (length - place) - 1
    omega

theorem visitsOf_take_succ {place : Nat} {element : Option Element}
    (isThere : list.elements[place]? = some element) :
    visitsOf thread (list.elements.take (place + 1)) =
      visitsOf thread (list.elements.take place) ++ element.toList.map (.visited thread) := by
  rw [visitsOf, visitsOf, List.take_add_one, isThere, List.filterMap_append, List.map_append]
  cases element <;> rfl

theorem Walking.length_eq (walking : Walking list thread now) :
    now.items.length = list.items.length := by
  have lengths := congrArg List.length walking.elements
  simpa [ThreadSafeList.elements] using lengths

/-- An item may always be locked for reading. -/
theorem Walking.canReadLock (walking : Walking list thread now) {place : Nat}
    {item : ListItem Element} (found : now.items[place]? = some item) :
    item.mutex.canReadLock thread = true := by
  refine (walking.guarded.agrees place item found).canReadLock_of_unwritten fun other => ?_
  by_cases isThread : other = thread
  · subst isThread
    obtain ⟨seen, walk, -⟩ := walking.stage
    exact walk.not_writes place
  · simp only [walking.others other isThread]
    exact nofun

variable [DecidableEq Element]

/-- The walk goes on with an item, without a change of the elements. -/
theorem Walking.exchange (walking : Walking list thread now) {place after : Nat}
    {item : ListItem Element} (found : now.items[place]? = some item)
    {mutex : RecursiveReadWriteMutex} {events : List (ListEvent Element)}
    (steps : now.step (.advance thread) =
      now.exchange place ⟨mutex, item.element⟩ thread state events)
    (walk : Walk list.items.length state after)
    (history : now.history ++ events =
      list.history ++ visitsOf thread (list.elements.take after)) :
    Walking list thread (now.step (.advance thread)) where
  guarded := walking.guarded.step _
  elements := by
    rw [steps, elements_of_same found]
    exact walking.elements
  others other unlike := by
    rw [steps]
    exact (Function.update_of_ne unlike _ _).trans (walking.others other unlike)
  stage := by
    rw [steps]
    refine ⟨after, ?_, history⟩
    simp only [ThreadSafeList.exchange, Function.update_self]
    exact walk

/-- The walk leaves an item for the next one. -/
theorem Walking.onwards (walking : Walking list thread now) {place : Nat}
    (inside : place < list.items.length) {item : ListItem Element}
    (found : now.items[place]? = some item) {mutex : RecursiveReadWriteMutex}
    (steps : now.step (.advance thread) = now.exchange place ⟨mutex, item.element⟩ thread
      ⟨[], (now.next place).map .locking⟩ [])
    (history : now.history =
      list.history ++ visitsOf thread (list.elements.take (place + 1))) :
    Walking list thread (now.step (.advance thread)) ∧
      stepsLeft list.items.length ((now.step (.advance thread)).threads thread) <
        2 * (list.items.length - place) - 1 := by
  simp only [next, walking.length_eq] at steps
  obtain ⟨walk, less⟩ := walk_next inside
  refine ⟨walking.exchange found steps walk ?_, ?_⟩
  · rw [List.append_nil]
    exact history
  · rw [steps]
    simp only [ThreadSafeList.exchange, Function.update_self]
    exact less

/-- Each step of the walk leads on, until it is done. -/
theorem Walking.advance (walking : Walking list thread now) :
    Walking list thread (now.step (.advance thread)) ∧
      (now.threads thread ≠ ⟨[], none⟩ →
        stepsLeft list.items.length ((now.step (.advance thread)).threads thread) <
          stepsLeft list.items.length (now.threads thread)) := by
  obtain ⟨place, walk, history⟩ := walking.stage
  have isInside {place : Nat} (inside : place < list.items.length) :
      ∃ item, now.items[place]? = some item := by
    rw [← walking.length_eq] at inside
    exact ⟨_, List.getElem?_eq_getElem inside⟩
  have left {place : Nat} {item : ListItem Element} {state : ListThread Element}
      {events : List (ListEvent Element)} : (now.exchange place item thread state events).threads
        thread = state := Function.update_self ..
  generalize isAt : now.threads thread = state at walk
  cases walk with
  | locking inside =>
    obtain ⟨item, found⟩ := isInside inside
    have isThere : list.elements[place]? = some item.element := by
      rw [← walking.elements]
      exact getElem?_elements found
    have events : visitsOf thread (list.elements.take (place + 1)) = _ :=
      visitsOf_take_succ isThere
    have steps : now.step (.advance thread) =
        now.advanceAt thread [] (.locking place) place item := by
      simp only [ThreadSafeList.step, ThreadSafeList.advance, isAt, Activity.place, found]
    simp only [advanceAt, walking.canReadLock found, if_true] at steps
    have less : 2 * (list.items.length - place) - 1 < 2 * (list.items.length - place) := by omega
    split at steps
    case h_1 element present =>
      refine ⟨walking.exchange found steps (.visiting inside) ?_, fun _ => ?_⟩
      · rw [events, present, history, List.append_assoc]
        rfl
      · rw [steps, left]
        exact less
    case h_2 absent =>
      refine ⟨walking.exchange found steps (.passing inside) ?_, fun _ => ?_⟩
      · rw [events, absent, history]
        simp
      · rw [steps, left]
        exact less
  | @passing place inside =>
    obtain ⟨item, found⟩ := isInside inside
    have steps : now.step (.advance thread) =
        now.advanceAt thread [] (.passing place) place item := by
      simp only [ThreadSafeList.step, ThreadSafeList.advance, isAt, Activity.place, found]
    obtain ⟨onwards, less⟩ := walking.onwards inside found steps history
    exact ⟨onwards, fun _ => less⟩
  | @visiting visit inside =>
    obtain ⟨item, found⟩ := isInside inside
    have steps : now.step (.advance thread) = now.exchange visit.place
        ⟨item.mutex.readUnlock thread, item.element⟩ thread
        ⟨[], (now.next visit.place).map .locking⟩ [] := by
      simp only [ThreadSafeList.step, ThreadSafeList.advance, isAt, found]
    obtain ⟨onwards, less⟩ := walking.onwards inside found steps history
    exact ⟨onwards, fun _ => less⟩
  | done =>
    have stays : now.step (.advance thread) = now := by
      simp only [ThreadSafeList.step, ThreadSafeList.advance, isAt]
    rw [stays]
    exact ⟨walking, fun busy => absurd rfl busy⟩

theorem step_advance_of_idle {other : ThreadID} (idle : now.threads other = ⟨[], none⟩) :
    now.step (.advance other) = now := by
  simp only [ThreadSafeList.step, ThreadSafeList.advance, idle]

theorem Walking.step (walking : Walking list thread now) {op : Op Element}
    (advances : ∃ other, op = .advance other) : Walking list thread (now.step op) := by
  obtain ⟨other, rfl⟩ := advances
  by_cases isThread : other = thread
  · subst isThread
    exact walking.advance.1
  · rw [step_advance_of_idle (walking.others other isThread)]
    exact walking

theorem Walking.run (walking : Walking list thread now) (ops : List (Op Element))
    (advances : ∀ op ∈ ops, ∃ other, op = .advance other) :
    Walking list thread (ops.foldl ThreadSafeList.step now) := by
  induction ops generalizing now with
  | nil => exact walking
  | cons op rest inductionHypothesis =>
    exact inductionHypothesis (walking.step (advances op List.mem_cons_self))
      fun other later => advances other (List.mem_cons_of_mem _ later)

omit [DecidableEq Element] in
theorem Walking.idle (walking : Walking list thread now)
    (returned : now.threads thread = ⟨[], none⟩) : now.Idle := by
  intro other
  by_cases isThread : other = thread
  · subst isThread
    exact returned
  · exact walking.others other isThread

/-- The walk is not over. -/
structure Underway (list : ThreadSafeList Element) (thread : ThreadID)
    (now : ThreadSafeList Element) : Prop where
  walking : Walking list thread now
  busy : now.threads thread ≠ ⟨[], none⟩

/-- The walk comes to its end. -/
theorem Walking.ends (walking : Walking list thread now) :
    ∃ ops : List (Op Element), (∀ op ∈ ops, op = .advance thread) ∧
      (ops.foldl ThreadSafeList.step now).Idle := by
  by_cases returned : now.threads thread = ⟨[], none⟩
  · exact ⟨[], List.forall_mem_nil _, walking.idle returned⟩
  · have leads : ∃ ops, Transition.AllowedAlong ThreadSafeList.step
        (fun _ op => op = .advance thread) now ops ∧ (ops.foldl ThreadSafeList.step now).Idle := by
      have underway : Underway list thread now := ⟨walking, returned⟩
      refine Transition.leads_to (fun now => stepsLeft list.items.length (now.threads thread))
        (fun now underway => ⟨.advance thread, rfl, ?_⟩) underway
      obtain ⟨onwards, less⟩ := underway.walking.advance
      by_cases arrived : (now.step (.advance thread)).threads thread = ⟨[], none⟩
      · exact .inl (onwards.idle arrived)
      · exact .inr ⟨⟨onwards, arrived⟩, less underway.busy⟩
    obtain ⟨ops, along, idle⟩ := leads
    exact ⟨ops, (Transition.allowedAlong_label_iff now).mp along, idle⟩

omit [DecidableEq Element] in
/-- When the walk is over it has called back for every element. -/
theorem Walking.history_of_idle (walking : Walking list thread now) (idle : now.Idle) :
    now.history = list.history ++ visitsOf thread list.elements := by
  obtain ⟨seen, walk, history⟩ := walking.stage
  rw [idle thread] at walk
  cases walk with
  | done =>
    have whole : list.elements.length = list.items.length := List.length_map _
    rw [history, List.take_of_length_le (Nat.le_of_eq whole)]

/-- A thread begins to walk through the list. -/
theorem walking_forEach (guarded : list.Guarded) (inside : 0 < list.items.length)
    (idle : list.Idle) (thread : ThreadID) :
    Walking list thread (list.step (.forEach thread)) := by
  have begins : list.step (.forEach thread) =
      list.setActivity thread (some (.locking 0)) [] := by
    simp only [ThreadSafeList.step, idle thread, Option.isNone_none, if_true]
  refine ⟨guarded.step _, ?_, fun other unlike => ?_, 0, ?_, ?_⟩
  · rw [begins]
    rfl
  · rw [begins]
    exact (Function.update_of_ne unlike _ _).trans (idle other)
  · rw [begins]
    simp only [setActivity, Function.update_self, idle thread]
    exact .locking inside
  · rw [begins]
    rfl

end Walks

/-! ### What the list promises -/

section Promises

variable [DecidableEq Element] {list : ThreadSafeList Element}

/-- A `for_each` that no other call overlaps returns, and calls back exactly once for each
occurrence of an element, in their order, which it leaves as they are. -/
def VisitsEachOnce (list : ThreadSafeList Element) : Prop :=
  ∀ thread,
    (∃ ops : List (Op Element), (∀ op ∈ ops, op = .advance thread) ∧
      (ops.foldl step (list.step (.forEach thread))).Idle) ∧
    ∀ ops : List (Op Element), (∀ op ∈ ops, ∃ other, op = .advance other) →
      (ops.foldl step (list.step (.forEach thread))).Idle →
        (ops.foldl step (list.step (.forEach thread))).history =
            list.history ++ (list.elements.filterMap id).map (.visited thread) ∧
          (ops.foldl step (list.step (.forEach thread))).elements = list.elements

theorem Steady.visitsEachOnce (steady : list.Steady) (idle : list.Idle) : list.VisitsEachOnce := by
  intro thread
  have begins := walking_forEach steady.guarded steady.inside idle thread
  refine ⟨begins.ends, fun ops advances returned => ?_⟩
  have walking := begins.run ops advances
  exact ⟨walking.history_of_idle returned, walking.elements⟩

/-- In every run of calls of the list, in callbacks or not, by any threads and at the granularity of
locks and exchanges: once all calls have returned the accounts of the elements balance, and a walk
that nothing overlaps visits each once; and elements are removed safely at any time. -/
theorem list_keeps_promises (ops : List (Op Element)) :
    ((ops.foldl step new).Idle →
        (ops.foldl step new).Balanced ∧ (ops.foldl step new).VisitsEachOnce) ∧
      (ops.foldl step new).RemovesSafely := by
  have steady : (ops.foldl step new : ThreadSafeList Element).Steady := steady_new.run ops
  exact ⟨fun idle => ⟨steady.accounted.balanced idle, steady.visitsEachOnce idle⟩,
    steady.removesSafely⟩

/-- A call of a thread and so many of its steps. -/
def calling (thread : ThreadID) (call : ListCall Nat) (steps : Nat) : List (Op Nat) :=
  .call thread call :: List.replicate steps (.advance thread)

/-- A callback for an element removes it, adds another one in its place, and adds the first one
again behind that; and another thread is about to remove it. -/
def removedInCallback : List (Op Nat) :=
  calling 2 (.add 7) 4 ++ [.forEach 1, .advance 1] ++ calling 1 (.remove 7) 4 ++
    calling 1 (.add 8) 4 ++ calling 1 (.add 7) 4 ++ calling 2 (.remove 7) 6

/-- The other thread removes the only occurrence of the element while the callback for it runs. -/
theorem callback_outlives_removal :
    (((Op.advance 2 : Op Nat) |> (removedInCallback.foldl step new).step).threads 1).visits.map
        Visit.element = [7] ∧
      ¬ ∀ (ops : List (Op Nat)) (op : Op Nat) (thread : ThreadID) (element : Nat),
        (ops.foldl step new).elements.count (some element) = 1 →
          ((ops.foldl step new).step op).history =
              (ops.foldl step new).history ++ [.removed thread element] →
            ∀ other, other ≠ thread →
              ∀ visit ∈ (((ops.foldl step new).step op).threads other).visits,
                visit.element ≠ element := by
  refine ⟨by decide, fun always => ?_⟩
  have isIn : (⟨0, 7, true⟩ : Visit Nat) ∈
      (((removedInCallback.foldl step new).step (.advance 2)).threads 1).visits := by
    have visits : (((removedInCallback.foldl step new).step (.advance 2)).threads 1).visits =
        [⟨0, 7, true⟩] := rfl
    rw [visits]
    exact List.mem_singleton_self _
  exact always removedInCallback (.advance 2) 2 7 (by decide) (by decide) 1 (by decide) _ isIn rfl

end Promises

end ThreadSafeList

end Mir.Observer

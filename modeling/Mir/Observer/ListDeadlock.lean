/-
This file is about threads that wait for each other in the list. A callback runs under a read lock
of its item, and may call the list; the call then waits in `write_lock` for an item that another
thread has a callback for.

It proves that a set of threads waits for each other exactly in runs where a thread comes to such an
item while one of the callbacks for it waits, itself or through others, for the thread, and that
such a set waits for ever.
-/

import Mir.Library.Acyclic
import Mir.Library.Transition
import Mir.Observer.ThreadSafeList

namespace Mir.Observer

open Relation
open Thread (ThreadID RecursiveReadWriteMutex)

variable {Element : Type}

/-- Whether a thread is in a callback for an item. -/
def ListThread.visitsPlace (thread : ListThread Element) (place : Nat) : Prop :=
  ∃ visit ∈ thread.visits, visit.place = place

namespace ThreadSafeList

section Deadlocks

variable (list : ThreadSafeList Element)

/-- A set of threads waits for each other when each is in `write_lock` for an item that another of
them has locked for reading. -/
def Deadlocked : Prop :=
  ∃ threads : Finset ThreadID, threads.Nonempty ∧ ∀ waiter ∈ threads, ∃ holder ∈ threads,
    holder ≠ waiter ∧ ∃ place, (list.threads waiter).wants place ∧
      (list.threads holder).reads place ≠ 0

/-- A thread is in `write_lock` for an item that another runs a callback for. -/
def Waits (waiter holder : ThreadID) : Prop :=
  holder ≠ waiter ∧ ∃ place, (list.threads waiter).wants place ∧
    (list.threads holder).visitsPlace place

/-- No thread waits, itself or through others, for one of its own callbacks. -/
def Orderly : Prop := Acyclic list.Waits

variable [DecidableEq Element]

/-- The item that a thread comes to `write_lock` for in a step: `clear` does so at once, another
call when it has looked at the item. -/
def comesToWrite : Op Element → Option Nat
  | .call thread call =>
    if (list.threads thread).activity.isNone then (call.begin.start 0).wantsPlace else none
  | .forEach _ => none
  | .advance thread =>
    match (list.threads thread).activity with
    | some (.checking call place) =>
      match list.items[place]? with
      | some item => if call.wants item.element then some place else none
      | none => none
    | some (.advancing call place) =>
      (list.next place).bind fun after => (call.start after).wantsPlace
    | _ => none

/-- No callback for the item that a thread comes to waits, itself or through others, for one of the
callbacks of the thread. -/
def ComesFreely (list : ThreadSafeList Element) (op : Op Element) : Prop :=
  ∀ place, list.comesToWrite op = some place → ∀ reader, reader ≠ op.thread →
    (list.threads reader).visitsPlace place → ¬ ReflTransGen list.Waits reader op.thread

end Deadlocks

/-! ### A set of threads waits for each other when there is a cycle -/

section Waiting

variable {list : ThreadSafeList Element}

/-- A thread that is in `write_lock` has no read lock but those of its callbacks. -/
theorem reads_ne_zero_iff_of_wants {thread : ListThread Element} {wanted : Nat}
    (wants : thread.wants wanted) (place : Nat) :
    thread.reads place ≠ 0 ↔ thread.visitsPlace place := by
  have unread : thread.activity.bind Activity.readsPlace = none := by
    unfold ListThread.wants at wants
    cases isAt : thread.activity with
    | none => rfl
    | some activity =>
      rw [isAt] at wants
      cases activity <;> first | rfl | cases wants
  unfold ListThread.reads ListThread.visitsPlace
  rw [unread, if_neg nofun, Nat.add_zero, ← Nat.pos_iff_ne_zero, List.countP_pos_iff]
  simp only [decide_eq_true_eq]

theorem deadlocked_iff : list.Deadlocked ↔ ¬ list.Orderly := by
  rw [Orderly, Acyclic.iff_exists_sink]
  constructor
  · rintro ⟨threads, nonempty, each⟩ sinks
    obtain ⟨waiter, member, isSink⟩ := sinks threads nonempty
    obtain ⟨holder, isMember, unlike, place, wants, reads⟩ := each waiter member
    obtain ⟨_, _, _, _, alsoWants, _⟩ := each holder isMember
    exact isSink holder isMember
      ⟨unlike, place, wants, (reads_ne_zero_iff_of_wants alsoWants place).mp reads⟩
  · intro noSink
    push Not at noSink
    obtain ⟨threads, nonempty, each⟩ := noSink
    refine ⟨threads, nonempty, fun waiter member => ?_⟩
    obtain ⟨holder, isMember, unlike, place, wants, visits⟩ := each waiter member
    obtain ⟨_, _, _, _, alsoWants, _⟩ := each holder isMember
    exact ⟨holder, isMember, unlike, place, wants,
      (reads_ne_zero_iff_of_wants alsoWants place).mpr visits⟩

end Waiting

/-! ### What a step does to who waits for whom -/

section Steps

variable [DecidableEq Element] {list after : ThreadSafeList Element} {thread : ThreadID}

omit [DecidableEq Element] in
theorem visitsPlace_mark {visits : List (Visit Element)} {marked place : Nat}
    {activity : Option (Activity Element)}
    (isIn : (⟨visits.map (Visit.mark marked), activity⟩ : ListThread Element).visitsPlace place) :
    ∃ visit ∈ visits, visit.place = place := by
  obtain ⟨_, member, isPlace⟩ := isIn
  obtain ⟨visit, isVisit, rfl⟩ := List.mem_map.mp member
  refine ⟨visit, isVisit, ?_⟩
  unfold Visit.mark at isPlace
  split at isPlace <;> exact isPlace

/-- A thread that is in `write_lock` after a step has come to no new callback. -/
theorem visitsPlace_of_change (change : list.Change thread after) {wanted place : Nat}
    (wants : (after.threads thread).wants wanted)
    (isIn : (after.threads thread).visitsPlace place) :
    (list.threads thread).visitsPlace place := by
  cases change with
  | moves | reads | unreads | writes | keeps | appends =>
    simp only [setActivity, exchange, append, Function.update_self] at isIn
    exact isIn
  | visits =>
    simp only [exchange, Function.update_self] at wants
    cases wants
  | leaves inside =>
    simp only [exchange, Function.update_self] at isIn
    obtain ⟨visit, member, isPlace⟩ := isIn
    rw [inside]
    exact ⟨visit, List.mem_cons_of_mem _ member, isPlace⟩
  | stores =>
    simp only [exchange, Function.update_self] at isIn
    exact visitsPlace_mark isIn

theorem threads_step_of_ne (op : Op Element) {other : ThreadID} (unlike : other ≠ op.thread) :
    (list.step op).threads other = list.threads other := by
  rcases list.step_change op with same | change
  · rw [same]
  · generalize list.step op = after at change
    cases change <;> exact Function.update_of_ne unlike _ _

omit [DecidableEq Element] in
theorem wants_setActivity {activity : Option (Activity Element)}
    {events : List (ListEvent Element)} {place : Nat} :
    ((list.setActivity thread activity events).threads thread).wants place ↔
      activity.bind Activity.wantsPlace = some place := by
  simp only [setActivity, Function.update_self, ListThread.wants]

omit [DecidableEq Element] in
theorem wants_exchange {changed place : Nat} {item : ListItem Element}
    {state : ListThread Element} {events : List (ListEvent Element)} :
    ((list.exchange changed item thread state events).threads thread).wants place ↔
      state.wants place := by
  simp only [exchange, Function.update_self]

omit [DecidableEq Element] in
theorem not_wants_locking {visits : List (Visit Element)} {place : Nat} (next : Option Nat) :
    ¬ (⟨visits, next.map .locking⟩ : ListThread Element).wants place := by
  cases next <;> exact nofun

/-- What a thread does with an item may bring it to `write_lock` when it has looked at it, or goes
on to the next one. -/
theorem wants_advanceAt {activity : Activity Element} {item : ListItem Element} {place : Nat}
    (isAt : (list.threads thread).activity = some activity)
    (found : list.items[activity.place]? = some item)
    (wants : ((list.advanceAt thread (list.threads thread).visits activity activity.place
      item).threads thread).wants place) :
    (list.threads thread).wants place ∨ list.comesToWrite (.advance thread) = some place := by
  cases activity with
  | locking | reading =>
    simp only [advanceAt] at wants
    split at wants
    case isFalse => exact .inl wants
    case isTrue =>
      try split at wants
      all_goals cases wants_exchange.mp wants
  | passing place => exact (not_wants_locking _ (wants_exchange.mp wants)).elim
  | checking call place =>
    have wantsPlace := wants_exchange.mp wants
    have isItem : list.items[place]? = some item := found
    cases wanted : call.wants item.element <;>
      simp only [ListThread.wants, wanted, Option.bind_some] at wantsPlace
    · cases wantsPlace
    · right
      simp only [comesToWrite, isAt, isItem, wanted]
      exact wantsPlace
  | writing call place =>
    simp only [advanceAt] at wants
    split at wants
    case isTrue => cases wants_exchange.mp wants
    case isFalse => exact .inl wants
  | storing call place =>
    simp only [advanceAt] at wants
    split at wants
    case isTrue =>
      have goesOn := wants_exchange.mp wants
      cases call <;> cases goesOn
    case isFalse => cases wants_exchange.mp wants
  | advancing call place =>
    simp only [advanceAt] at wants
    split at wants
    case h_1 _ _ next isNext =>
      have isNext : list.next place = some next := isNext
      right
      simp only [comesToWrite, isAt, isNext]
      exact wants_setActivity.mp wants
    case h_2 => cases wants_setActivity.mp wants
    case h_3 => cases wants_setActivity.mp wants
  | appending element place =>
    simp only [advanceAt] at wants
    split at wants
    case h_1 => cases wants_setActivity.mp wants
    case h_2 =>
      simp only [append, Function.update_self] at wants
      cases wants

/-- A thread that is in `write_lock` was so before, or has come to it. -/
theorem wants_step (op : Op Element) {place : Nat}
    (wants : ((list.step op).threads op.thread).wants place) :
    (list.threads op.thread).wants place ∨ list.comesToWrite op = some place := by
  cases op with
  | call thread call =>
    simp only [step, comesToWrite] at wants ⊢
    split at wants
    case isTrue isNone => exact .inr ((if_pos isNone).trans (wants_setActivity.mp wants))
    case isFalse => exact .inl wants
  | forEach thread =>
    simp only [step] at wants
    split at wants
    case isTrue => cases wants_setActivity.mp wants
    case isFalse => exact .inl wants
  | advance thread =>
    simp only [step, advance, Op.thread] at wants ⊢
    split at wants
    case h_1 activity isAt =>
      split at wants
      case h_1 item found => exact wants_advanceAt isAt found wants
      case h_2 => exact .inl wants
    case h_2 visit visits _ _ =>
      split at wants
      case h_1 => exact (not_wants_locking _ (wants_exchange.mp wants)).elim
      case h_2 => exact .inl wants
    case h_3 => exact .inl wants

/-- A thread that comes to `write_lock` was in no other one, and stays in its callbacks. -/
theorem step_of_comesToWrite {op : Op Element} {place : Nat}
    (comes : list.comesToWrite op = some place) :
    (∀ other, ¬ (list.threads op.thread).wants other) ∧
      ∃ activity : Activity Element, activity.wantsPlace = some place ∧
        (list.step op).threads op.thread = ⟨(list.threads op.thread).visits, some activity⟩ := by
  cases op with
  | call thread call =>
    simp only [comesToWrite] at comes
    split at comes
    case isTrue isNone =>
      refine ⟨fun other => ?_, _, comes, ?_⟩
      · simp [ListThread.wants, Op.thread, Option.isNone_iff_eq_none.mp isNone]
      · simp only [step, if_pos isNone, setActivity, Op.thread, Function.update_self]
    case isFalse => cases comes
  | forEach thread => cases comes
  | advance thread =>
    simp only [comesToWrite] at comes
    split at comes
    case h_1 call _ isAt =>
      split at comes
      case h_1 item found =>
        split at comes
        case isTrue wanted =>
          cases comes
          refine ⟨fun other => ?_, .writing call place, rfl, ?_⟩
          · simp [ListThread.wants, Op.thread, isAt, Activity.wantsPlace]
          · simp only [step, advance, isAt, Activity.place, found, advanceAt, if_pos wanted,
              exchange, Op.thread, Function.update_self]
        case isFalse => cases comes
      case h_2 => cases comes
    case h_2 call passed isAt =>
      obtain ⟨next, isNext, wantsPlace⟩ := Option.bind_eq_some_iff.mp comes
      have inside : passed + 1 < list.items.length := by
        unfold ThreadSafeList.next at isNext
        split at isNext
        case isTrue inside => exact inside
        case isFalse => cases isNext
      have found := List.getElem?_eq_getElem (Nat.lt_of_succ_lt inside)
      refine ⟨fun other => ?_, call.start next, wantsPlace, ?_⟩
      · simp [ListThread.wants, Op.thread, isAt, Activity.wantsPlace]
      · simp only [step, advance, isAt, Activity.place, found, advanceAt, isNext, setActivity,
          Op.thread, Function.update_self]
    case h_3 => cases comes

end Steps

/-! ### When a set of threads comes to wait for each other -/

section Runs

variable [DecidableEq Element] {list : ThreadSafeList Element}

theorem visitsPlace_step (op : Op Element) {thread : ThreadID} {wanted place : Nat}
    (wants : ((list.step op).threads op.thread).wants wanted)
    (isIn : ((list.step op).threads thread).visitsPlace place) :
    (list.threads thread).visitsPlace place := by
  by_cases isThread : thread = op.thread
  · subst isThread
    rcases list.step_change op with same | change
    · rwa [same] at isIn
    · exact visitsPlace_of_change change wants isIn
  · rwa [threads_step_of_ne op isThread] at isIn

/-- A thread that is in `write_lock` after a step waits for nobody new, unless it has come to it. -/
theorem waits_of_step (op : Op Element) {wanted : Nat}
    (wants : ((list.step op).threads op.thread).wants wanted) (waiter holder : ThreadID)
    (waits : (list.step op).Waits waiter holder) :
    list.Waits waiter holder ∨ waiter = op.thread ∧ holder ≠ op.thread ∧
      ∃ place, list.comesToWrite op = some place ∧ (list.threads holder).visitsPlace place := by
  obtain ⟨unlike, place, wantsPlace, isIn⟩ := waits
  have isIn := visitsPlace_step op wants isIn
  by_cases isThread : waiter = op.thread
  · subst isThread
    rcases wants_step op wantsPlace with already | comes
    · exact .inl ⟨unlike, place, already, isIn⟩
    · exact .inr ⟨rfl, unlike, place, comes, isIn⟩
  · rw [threads_step_of_ne op isThread] at wantsPlace
    exact .inl ⟨unlike, place, wantsPlace, isIn⟩

theorem Orderly.step {op : Op Element} (orderly : list.Orderly) (free : list.ComesFreely op) :
    (list.step op).Orderly := by
  by_cases wanting : ∃ wanted, ((list.step op).threads op.thread).wants wanted
  · obtain ⟨wanted, wants⟩ := wanting
    refine Acyclic.fan_out orderly (waits_of_step op wants) fun holder comes => ?_
    obtain ⟨unlike, place, comes, isIn⟩ := comes
    exact free place comes holder unlike isIn
  · -- the thread waits for nobody, however many wait for it
    refine Acyclic.into_sink orderly (fun waiter holder waits (isOther : holder ≠ op.thread) => ?_)
      fun holder waits => ?_
    · obtain ⟨unlike, place, wants, isIn⟩ := waits
      have isNotWaiter : waiter ≠ op.thread := by
        rintro rfl
        exact wanting ⟨place, wants⟩
      rw [threads_step_of_ne op isNotWaiter] at wants
      rw [threads_step_of_ne op isOther] at isIn
      exact ⟨unlike, place, wants, isIn⟩
    · obtain ⟨_, place, wants, _⟩ := waits
      exact wanting ⟨place, wants⟩

/-- When a thread comes to `write_lock` for the callback of one that waits for it, that closes a
cycle. -/
theorem comesFreely_of_not_deadlocked {op : Op Element} (alive : ¬ (list.step op).Deadlocked) :
    list.ComesFreely op := by
  intro place comes reader unlike isIn walk
  obtain ⟨unwanting, activity, wantsPlace, state⟩ := step_of_comesToWrite comes
  have stays {waiter holder : ThreadID} (waits : list.Waits waiter holder) :
      (list.step op).Waits waiter holder := by
    obtain ⟨isOther, wanted, wants, isInside⟩ := waits
    have isNotThread : waiter ≠ op.thread := by
      rintro rfl
      exact unwanting wanted wants
    refine ⟨isOther, wanted, ?_, ?_⟩
    · rwa [threads_step_of_ne op isNotThread]
    · by_cases isThread : holder = op.thread
      · subst isThread
        rw [state]
        exact isInside
      · rwa [threads_step_of_ne op isThread]
  have closes : (list.step op).Waits op.thread reader := by
    refine ⟨unlike, place, ?_, ?_⟩
    · rw [state]
      exact wantsPlace
    · rwa [threads_step_of_ne op unlike]
  refine alive (deadlocked_iff.mpr fun orderly => orderly op.thread ?_)
  exact .head' closes (ReflTransGen.mono (fun _ _ => stays) _ _ walk)

omit [DecidableEq Element] in
theorem orderly_new : (new : ThreadSafeList Element).Orderly := by
  refine Acyclic.mono (Acyclic.of_lt fun _ _ => id) fun waiter holder waits => ?_
  obtain ⟨_, _, wants, _⟩ := waits
  cases wants

/-- No set of threads waits for each other, exactly if no thread comes to `write_lock` for an item
while a callback for it waits for the thread. -/
theorem no_deadlock_iff (ops : List (Op Element)) :
    (∀ done, done <+: ops → ¬ (done.foldl step new).Deadlocked) ↔
      Transition.AllowedAlong step ComesFreely new ops :=
  Transition.forall_prefix_iff_of_invariant orderly_new
    (fun _ _ _ orderly free => orderly.step free)
    (fun _ orderly isDeadlocked => deadlocked_iff.mp isDeadlocked orderly)
    fun _ _ _ _ alive => comesFreely_of_not_deadlocked alive

/-- A thread that is in `write_lock` stays there while another has the item locked for reading. -/
theorem step_of_blocked (guarded : list.Guarded) {op : Op Element} {place : Nat}
    (wants : (list.threads op.thread).wants place) {holder : ThreadID}
    (unlike : holder ≠ op.thread) (reads : (list.threads holder).reads place ≠ 0) :
    list.step op = list := by
  obtain ⟨activity, isAt, wantsPlace⟩ := Option.bind_eq_some_iff.mp wants
  have isBusy : ¬ (list.threads op.thread).activity.isNone := by simp [isAt]
  cases op with
  | call thread call => exact if_neg isBusy
  | forEach thread => exact if_neg isBusy
  | advance thread =>
    cases activity with
    | writing call =>
      cases wantsPlace
      simp only [Op.thread] at isAt
      simp only [step, advance, isAt]
      split
      case h_1 item found =>
        have blocked : ¬ item.mutex.canWriteLock thread = true := by
          intro free
          have none := (RecursiveReadWriteMutex.canWriteLock_iff.mp free).2 holder unlike
          exact reads (((guarded.agrees place item found).readers holder).symm.trans none)
        exact if_neg blocked
      case h_2 => rfl
    | _ => cases wantsPlace

/-- Threads that wait for each other do so after every step. -/
theorem Deadlocked.step (guarded : list.Guarded) (deadlocked : list.Deadlocked)
    (op : Op Element) : (list.step op).Deadlocked := by
  obtain ⟨threads, nonempty, each⟩ := deadlocked
  by_cases member : op.thread ∈ threads
  · obtain ⟨holder, _, unlike, place, wants, reads⟩ := each op.thread member
    rw [step_of_blocked guarded wants unlike reads]
    exact ⟨threads, nonempty, each⟩
  · have same {thread : ThreadID} (isMember : thread ∈ threads) :
        (list.step op).threads thread = list.threads thread := by
      refine threads_step_of_ne op ?_
      rintro rfl
      exact member isMember
    refine ⟨threads, nonempty, fun waiter isWaiter => ?_⟩
    obtain ⟨holder, isHolder, unlike, place, wants, reads⟩ := each waiter isWaiter
    rw [same isWaiter]
    exact ⟨holder, isHolder, unlike, place, wants, by rwa [same isHolder]⟩

theorem Deadlocked.run (guarded : list.Guarded) (deadlocked : list.Deadlocked)
    (ops : List (Op Element)) : (ops.foldl ThreadSafeList.step list).Deadlocked := by
  induction ops generalizing list with
  | nil => exact deadlocked
  | cons op ops inductionHypothesis =>
    exact inductionHypothesis (guarded.step op) (deadlocked.step guarded op)

/-- Once threads wait for each other they do so in every state that is reached later, whatever the
others do. -/
theorem deadlock_lasts (ops later : List (Op Element))
    (deadlocked : (ops.foldl step new).Deadlocked) :
    ((ops ++ later).foldl step new).Deadlocked := by
  have guarded : (ops.foldl step (new : ThreadSafeList Element)).Guarded :=
    List.foldlRecOn ops _ guarded_new fun _ kept op _ => kept.step op
  rw [List.foldl_append]
  exact deadlocked.run guarded later

end Runs

/-- Two threads notify the same observer, which removes itself in both callbacks. -/
def removedByTwo : List (Op Nat) :=
  [.call 1 (.add 7), .advance 1, .advance 1, .advance 1, .advance 1, .forEach 1, .advance 1,
    .forEach 2, .advance 2, .call 1 (.remove 7), .advance 1, .advance 1, .call 2 (.remove 7),
    .advance 2, .advance 2]

/-- A third thread that notifies the observer as well does not help. -/
theorem deadlock_lasts_of_two :
    ((removedByTwo ++ [Op.forEach 3, .advance 1, .advance 3, .advance 2]).foldl step
      new).Deadlocked := by
  refine deadlock_lasts removedByTwo _ ⟨{1, 2}, ⟨1, by decide⟩, fun waiter member => ?_⟩
  rcases Finset.mem_insert.mp member with rfl | isSecond
  · exact ⟨2, by decide, by decide, 0, rfl, by decide⟩
  · rw [Finset.mem_singleton.mp isSecond]
    exact ⟨1, by decide, by decide, 0, rfl, by decide⟩

/-- Each of the two waits for the callback of the other to return. -/
theorem removals_block_each_other :
    ¬ ∀ ops : List (Op Nat),
      (∀ thread call, Op.call thread call ∈ ops →
        ∃ element : Nat, call = .add element ∨ call = .remove element) →
      ∀ done, done <+: ops → ¬ (done.foldl step new).Deadlocked := by
  intro never
  have first : (removedByTwo.foldl step new).threads 1 =
      ⟨[⟨0, 7, false⟩], some (.writing (.remove 7) 0)⟩ := rfl
  have second : (removedByTwo.foldl step new).threads 2 =
      ⟨[⟨0, 7, false⟩], some (.writing (.remove 7) 0)⟩ := rfl
  refine never removedByTwo (fun thread call isCalled => ?_) removedByTwo (List.prefix_refl _)
    ⟨{1, 2}, ⟨1, by decide⟩, fun waiter member => ?_⟩
  · refine ⟨7, ?_⟩
    have isOne : thread = 1 ∧ call = .add 7 ∨ thread = 1 ∧ call = .remove 7 ∨
        thread = 2 ∧ call = .remove 7 := by
      simpa [removedByTwo] using isCalled
    rcases isOne with ⟨-, rfl⟩ | ⟨-, rfl⟩ | ⟨-, rfl⟩
    · exact .inl rfl
    · exact .inr rfl
    · exact .inr rfl
  · rcases Finset.mem_insert.mp member with rfl | isSecond
    · exact ⟨2, by decide, by decide, 0, by rw [first]; rfl, by rw [second]; decide⟩
    · rw [Finset.mem_singleton.mp isSecond]
      exact ⟨1, by decide, by decide, 0, by rw [second]; rfl, by rw [first]; decide⟩

end ThreadSafeList

end Mir.Observer

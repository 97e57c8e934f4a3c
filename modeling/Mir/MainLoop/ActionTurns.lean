/-
This file proves when server actions take turns: no action starts while its owner is paused, and
the actions of an owner start in the order in which they were enqueued. An action is tested before
it is found ready and not when it is dispatched, so an owner must not be paused while one of its
actions is found ready, and must not be resumed between the checks of two of its actions.
-/

import Mathlib.Data.List.Pairwise
import Mathlib.Data.List.Sublists
import Mir.Library.History
import Mir.MainLoop.ServerActions

namespace Mir.MainLoop

open Transition History

/-! ### The walks -/

/-- What a walk has found and has still to come to are attached sources, in their order. -/
def Phase.Within (sources : List ServerAction) : Phase → Prop
  | .waiting => True
  | .preparing ready rest => ready ⊆ sources ∧ rest ⊆ sources
  | .polling ready => ready ⊆ sources
  | .checking ready rest pending =>
    (pending ++ rest).Sublist sources ∧ rest <:+ sources ∧ ready ⊆ pending ++ rest
  | .dispatching pending => pending.Sublist sources

structure Loop.Sound (loop : Loop) : Prop where
  ordered : loop.sources.Pairwise fun first second => first.serial < second.serial
  below : ∀ action ∈ loop.sources, action.serial < loop.enqueued
  within : loop.phase.Within loop.sources

theorem Phase.Within.attach {phase : Phase} {sources : List ServerAction}
    (within : phase.Within sources) (action : ServerAction) :
    (phase.attach action).Within (sources ++ [action]) := by
  cases phase with
  | waiting => trivial
  | preparing ready rest =>
    refine ⟨List.Subset.trans within.1 (List.subset_append_left _ _), ?_⟩
    exact List.append_subset.mpr
      ⟨List.Subset.trans within.2 (List.subset_append_left _ _), List.subset_append_right _ _⟩
  | polling ready => exact List.Subset.trans within (List.subset_append_left _ _)
  | checking ready rest pending =>
    obtain ⟨sublist, ⟨walked, rfl⟩, found⟩ := within
    refine ⟨?_, ⟨walked, (List.append_assoc _ _ _).symm⟩, ?_⟩
    · rw [← List.append_assoc]
      exact sublist.append (.refl _)
    · rw [← List.append_assoc]
      exact List.Subset.trans found (List.subset_append_left _ _)
  | dispatching pending => exact List.Sublist.trans within (List.sublist_append_left _ _)

namespace Loop

variable {loop : Loop}

theorem sound_initial : initial.Sound where
  ordered := List.Pairwise.nil
  below := fun _ member => absurd member List.not_mem_nil
  within := trivial

namespace Sound

theorem nodup (sound : loop.Sound) : loop.sources.Nodup :=
  sound.ordered.imp fun {_ _} before same => by
    subst same
    exact absurd before (Nat.lt_irrefl _)

theorem enqueue (sound : loop.Sound) (owner : OwnerID) : (loop.enqueue owner).Sound where
  ordered := by
    refine List.pairwise_append.mpr ⟨sound.ordered, List.pairwise_singleton _ _, ?_⟩
    intro first member second new
    rw [List.mem_singleton.mp new]
    exact sound.below first member
  below := by
    intro action member
    rcases List.mem_append.mp member with old | new
    · exact Nat.lt_succ_of_lt (sound.below action old)
    · rw [List.mem_singleton.mp new]
      exact Nat.lt_succ_self _
  within := sound.within.attach _

/-- A turn that leaves the sources as they are. -/
theorem moved (sound : loop.Sound) {phase : Phase} {woken : Bool}
    (within : phase.Within loop.sources) :
    Sound { loop with phase := phase, woken := woken } where
  ordered := sound.ordered
  below := sound.below
  within := within

theorem turn (sound : loop.Sound) : loop.turn.Sound := by
  have within := sound.within
  have turned := loop.turn_cases
  generalize loop.turn = next at turned ⊢
  cases turned with
  | begins phase => exact sound.moved ⟨List.nil_subset _, List.Subset.refl _⟩
  | finds ready rest action phase process =>
    rw [phase] at within
    obtain ⟨attached, restAttached⟩ := List.cons_subset.mp within.2
    refine sound.moved ⟨List.append_subset.mpr ⟨within.1, ?_⟩, restAttached⟩
    exact List.cons_subset.mpr ⟨attached, List.nil_subset _⟩
  | leaves ready rest action phase paused =>
    rw [phase] at within
    exact sound.moved ⟨within.1, (List.cons_subset.mp within.2).2⟩
  | prepared ready phase =>
    rw [phase] at within
    exact sound.moved within.1
  | waits phase asleep => exact sound
  | polled ready phase =>
    rw [phase] at within
    exact sound.moved ⟨.refl _, List.suffix_refl _, within⟩
  | takes ready rest pending action phase process =>
    rw [phase] at within
    obtain ⟨sublist, suffix, found⟩ := within
    refine sound.moved ⟨?_, (List.suffix_cons action rest).trans suffix, ?_⟩
    · rw [List.append_assoc]
      exact sublist
    · rw [List.append_assoc]
      exact found
  | passes ready rest pending action phase notReady paused =>
    rw [phase] at within
    obtain ⟨sublist, suffix, found⟩ := within
    refine sound.moved ⟨?_, (List.suffix_cons action rest).trans suffix, ?_⟩
    · exact ((List.sublist_cons_self action rest).append_left pending).trans sublist
    · intro other member
      have different : other ≠ action := ne_of_mem_of_not_mem member notReady
      have known := found member
      simp only [List.mem_append, List.mem_cons, different, false_or] at known
      exact List.mem_append.mpr known
  | checked ready pending phase =>
    rw [phase] at within
    have sublist := within.1
    rw [List.append_nil] at sublist
    exact sound.moved sublist
  | starts rest action phase =>
    rw [phase] at within
    refine ⟨sound.ordered.sublist List.erase_sublist, fun other member => ?_, ?_⟩
    · exact sound.below other (List.mem_of_mem_erase member)
    · have shorter := List.Sublist.erase action within
      rw [List.erase_cons_head] at shorter
      exact shorter
  | ends phase => exact sound.moved trivial

theorem step (sound : loop.Sound) (op : LoopOp) : (loop.step op).Sound := by
  cases op with
  | turn => exact sound.turn
  | enqueue owner => exact sound.enqueue owner
  | pause _ | resume _ | wakeup => exact ⟨sound.ordered, sound.below, sound.within⟩

end Sound

end Loop

/-! ### Turns -/

/-- The actions of an owner that the walk has found ready are followed by all that it comes to, and
none that comes before one of them is left out. -/
def Phase.Complete (sources : List ServerAction) : Phase → Prop
  | .checking ready rest pending => ∀ found ∈ ready ++ pending, ∀ action ∈ sources,
      action.owner = found.owner → action ∈ rest ∨ action ∈ pending
  | .dispatching pending => ∀ found ∈ pending, ∀ action ∈ sources,
      action.owner = found.owner → action.serial < found.serial → action ∈ pending
  | _ => True

/-- An owner is paused only while none of its actions is found ready. An action that the check finds
ready, and the preparation did not, has no earlier one of its owner that was passed over. -/
def Loop.KeepsTurns (loop : Loop) : LoopOp → Prop
  | .pause owner => ∀ action ∈ loop.phase.found, action.owner ≠ owner
  | .turn =>
    match loop.phase with
    | .checking ready (action :: _) pending =>
      action ∉ ready → action.owner ∉ loop.doNotProcess → ∀ earlier ∈ loop.sources,
        earlier.owner = action.owner → earlier.serial < action.serial → earlier ∈ pending
    | _ => True
  | _ => True

/-- What holds as long as all steps keep the turns. -/
structure Loop.InTurn (loop : Loop) : Prop where
  sound : loop.Sound
  unpaused : ∀ action ∈ loop.phase.found, action.owner ∉ loop.doNotProcess
  complete : loop.phase.Complete loop.sources
  paused : ∀ owner, pausedAfter owner loop.history = decide (owner ∈ loop.doNotProcess)
  waiting : ∀ owner, enqueuedOf owner loop.history =
    startedOf owner loop.history ++ loop.sources.filter fun action => action.owner = owner
  ordered : ∀ owner, (enqueuedOf owner loop.history).Pairwise
    fun first second => first.serial < second.serial
  below : ∀ owner, ∀ action ∈ enqueuedOf owner loop.history, action.serial < loop.enqueued
  pauses : ∀ before action, before ++ [.started action] <+: loop.history →
    pausedAfter action.owner before = false

/-- The first of an ordered list. -/
theorem eq_cons_erase_of_least {actions : List ServerAction} {least : ServerAction}
    (ordered : actions.Pairwise fun first second => first.serial < second.serial)
    (member : least ∈ actions) (below : ∀ action ∈ actions, least.serial ≤ action.serial) :
    actions = least :: actions.erase least := by
  cases actions with
  | nil => cases member
  | cons first rest =>
    rcases List.mem_cons.mp member with rfl | later
    · rw [List.erase_cons_head]
    · have before := (List.pairwise_cons.mp ordered).1 least later
      exact absurd (below first List.mem_cons_self) (Nat.not_le_of_lt before)

theorem Phase.found_attach (phase : Phase) (action : ServerAction) :
    (phase.attach action).found = phase.found := by
  cases phase <;> rfl

namespace Loop.InTurn

variable {loop : Loop}

theorem orderly (inTurn : loop.InTurn) : Orderly loop.history where
  pauses := inTurn.pauses
  turns := fun owner => ⟨_, (inTurn.waiting owner).symm⟩
  once := by
    intro owner
    have ordered := inTurn.ordered owner
    rw [inTurn.waiting owner] at ordered
    refine (List.pairwise_append.mp ordered).1.imp fun {_ _} before same => ?_
    subst same
    exact absurd before (Nat.lt_irrefl _)

/-- Starts honour pauses when every event fits what was before it. -/
theorem pauses_iff_along {history : List LoopEvent} :
    (∀ before action, before ++ [.started action] <+: history →
      pausedAfter action.owner before = false) ↔
    Along (fun before event => ∀ action, event = .started action →
      pausedAfter action.owner before = false) history := by
  constructor
  · rintro pauses before event isPrefix action rfl
    exact pauses before action isPrefix
  · intro along before action isPrefix
    exact along before _ isPrefix action rfl

theorem initial : Loop.initial.InTurn where
  sound := sound_initial
  unpaused := fun _ member => absurd member List.not_mem_nil
  complete := trivial
  paused := fun _ => rfl
  waiting := fun _ => rfl
  ordered := fun _ => List.Pairwise.nil
  below := fun _ _ member => absurd member List.not_mem_nil
  pauses := pauses_iff_along.mpr along_nil

theorem pauses_append {history : List LoopEvent} {event : LoopEvent}
    (pauses : ∀ before action, before ++ [.started action] <+: history →
      pausedAfter action.owner before = false)
    (noStart : ∀ action, event = .started action → pausedAfter action.owner history = false) :
    ∀ before action, before ++ [.started action] <+: history ++ [event] →
      pausedAfter action.owner before = false :=
  pauses_iff_along.mpr (along_append_singleton.mpr ⟨pauses_iff_along.mp pauses, noStart⟩)

theorem enqueue (inTurn : loop.InTurn) (owner : OwnerID) : (loop.enqueue owner).InTurn where
  sound := inTurn.sound.enqueue owner
  unpaused := by
    show ∀ action ∈ (loop.phase.attach _).found, _
    rw [Phase.found_attach]
    exact inTurn.unpaused
  complete := by
    have complete := inTurn.complete
    have within := inTurn.sound.within
    unfold Loop.enqueue
    dsimp only
    cases phase : loop.phase with
    | checking ready rest pending =>
      rw [phase] at complete
      intro found isFound action member same
      rcases List.mem_append.mp member with old | new
      · exact (complete found isFound action old same).imp (List.mem_append_left _) id
      · exact .inl (List.mem_append_right _ new)
    | dispatching pending =>
      rw [phase] at complete within
      intro found isFound action member same before
      rcases List.mem_append.mp member with old | new
      · exact complete found isFound action old same before
      · have below := inTurn.sound.below found (List.Sublist.subset within isFound)
        rw [List.mem_singleton.mp new] at before
        exact absurd before (Nat.lt_asymm below)
    | _ => trivial
  paused other := by
    show pausedAfter other (loop.history ++ _) = _
    rw [pausedAfter_enqueued]
    exact inTurn.paused other
  waiting other := by
    show enqueuedOf other (loop.history ++ _) = startedOf other (loop.history ++ _) ++
      (loop.sources ++ _).filter _
    rw [enqueuedOf_append, startedOf_append, List.filter_append, inTurn.waiting other]
    simp [enqueuedOf, startedOf, LoopEvent.enqueuedAction, LoopEvent.startedAction]
  ordered other := by
    show (enqueuedOf other (loop.history ++ _)).Pairwise _
    rw [enqueuedOf_append]
    refine List.pairwise_append.mpr ⟨inTurn.ordered other, ?_, fun first member second new => ?_⟩
    · exact (List.pairwise_singleton _ _).filter _
    · rw [List.mem_singleton.mp (List.mem_filter.mp new).1]
      exact inTurn.below other first member
  below other action member := by
    have member : action ∈ enqueuedOf other (loop.history ++ _) := member
    rw [enqueuedOf_append] at member
    rcases List.mem_append.mp member with old | new
    · exact Nat.lt_succ_of_lt (inTurn.below other action old)
    · rw [List.mem_singleton.mp (List.mem_filter.mp new).1]
      exact Nat.lt_succ_self _
  pauses := pauses_append inTurn.pauses fun _ start => by cases start

/-- An event that concerns neither enqueueing nor starting, and new owners to leave out. -/
theorem tested (inTurn : loop.InTurn) {event : LoopEvent} {doNotProcess : List OwnerID}
    {woken : Bool} (enqueues : event.enqueuedAction = none) (starts : event.startedAction = none)
    (unpaused : ∀ action ∈ loop.phase.found, action.owner ∉ doNotProcess)
    (paused : ∀ owner, pausedAfter owner (loop.history ++ [event]) =
      decide (owner ∈ doNotProcess)) :
    InTurn { loop with
      doNotProcess := doNotProcess
      woken := woken
      history := loop.history ++ [event] } := by
  have sameEnqueued : ∀ owner,
      enqueuedOf owner (loop.history ++ [event]) = enqueuedOf owner loop.history := by
    intro owner
    rw [enqueuedOf_append]
    simp [enqueuedOf, enqueues]
  have sameStarted : ∀ owner,
      startedOf owner (loop.history ++ [event]) = startedOf owner loop.history := by
    intro owner
    rw [startedOf_append]
    simp [startedOf, starts]
  refine ⟨⟨inTurn.sound.ordered, inTurn.sound.below, inTurn.sound.within⟩, unpaused,
    inTurn.complete, paused, fun owner => ?_, fun owner => ?_, fun owner => ?_, ?_⟩
  · rw [sameEnqueued, sameStarted]
    exact inTurn.waiting owner
  · rw [sameEnqueued]
    exact inTurn.ordered owner
  · rw [sameEnqueued]
    exact inTurn.below owner
  · refine pauses_append inTurn.pauses fun action start => ?_
    subst start
    cases starts

theorem pause (inTurn : loop.InTurn) (owner : OwnerID)
    (keeps : ∀ action ∈ loop.phase.found, action.owner ≠ owner) :
    (loop.pauseProcessingFor owner).InTurn := by
  have member : ∀ other, other ∈ (loop.pauseProcessingFor owner).doNotProcess ↔
      other = owner ∨ other ∈ loop.doNotProcess := by
    intro other
    unfold pauseProcessingFor
    dsimp only
    split_ifs with known
    · refine ⟨.inr, ?_⟩
      rintro (rfl | old)
      · exact known
      · exact old
    · rw [List.mem_append, List.mem_singleton, or_comm]
  refine inTurn.tested rfl rfl (fun action found => ?_) fun other => ?_
  · refine fun isPaused => ((member action.owner).mp isPaused).elim (keeps action found) ?_
    exact inTurn.unpaused action found
  · have decided : decide (other ∈ (loop.pauseProcessingFor owner).doNotProcess) =
        decide (other = owner ∨ other ∈ loop.doNotProcess) := decide_eq_decide.mpr (member other)
    refine Eq.trans ?_ decided.symm
    rw [pausedAfter_paused, inTurn.paused other]
    by_cases same : owner = other
    · simp [same]
    · simp [same, Ne.symm same]

theorem resume (inTurn : loop.InTurn) (owner : OwnerID) :
    (loop.resumeProcessingFor owner).InTurn := by
  refine inTurn.tested rfl rfl (fun action found => ?_) fun other => ?_
  · exact fun isPaused => inTurn.unpaused action found (List.mem_of_mem_filter isPaused)
  · rw [pausedAfter_resumed, inTurn.paused other]
    by_cases same : owner = other
    · simp [same]
    · simp [same, Ne.symm same]

/-! ### The turns of the loop -/

/-- A turn that starts no action. -/
theorem moved (inTurn : loop.InTurn) {phase : Phase} {woken : Bool}
    (within : phase.Within loop.sources)
    (unpaused : ∀ action ∈ phase.found, action.owner ∉ loop.doNotProcess)
    (complete : phase.Complete loop.sources) :
    InTurn { loop with phase := phase, woken := woken } :=
  ⟨inTurn.sound.moved within, unpaused, complete, inTurn.paused, inTurn.waiting, inTurn.ordered,
    inTurn.below, inTurn.pauses⟩

/-- The first of the actions to be dispatched is the first of its owner. -/
theorem first_of_owner (inTurn : loop.InTurn) {action : ServerAction} {rest : List ServerAction}
    (phase : loop.phase = .dispatching (action :: rest)) :
    (loop.sources.filter fun other => other.owner = action.owner) =
      action :: (loop.sources.erase action).filter fun other => other.owner = action.owner := by
  have within := inTurn.sound.within
  have complete := inTurn.complete
  rw [phase] at within complete
  have attached : action ∈ loop.sources := List.Sublist.subset within List.mem_cons_self
  have pendingOrdered := inTurn.sound.ordered.sublist within
  rw [← List.erase_filter]
  refine eq_cons_erase_of_least (inTurn.sound.ordered.filter _) ?_ fun other member => ?_
  · exact List.mem_filter.mpr ⟨attached, decide_eq_true rfl⟩
  · obtain ⟨known, same⟩ := List.mem_filter.mp member
    by_contra before
    have pending := complete action List.mem_cons_self other known (of_decide_eq_true same)
      (Nat.lt_of_not_le before)
    rcases List.mem_cons.mp pending with rfl | later
    · exact before (Nat.le_refl _)
    · exact before ((List.pairwise_cons.mp pendingOrdered).1 other later).le

theorem start (inTurn : loop.InTurn) {action : ServerAction} {rest : List ServerAction}
    (phase : loop.phase = .dispatching (action :: rest)) :
    InTurn { loop with
      phase := .dispatching rest
      sources := loop.sources.erase action
      history := loop.history ++ [.started action] } := by
  have complete := inTurn.complete
  have unpaused := inTurn.unpaused
  rw [phase] at complete unpaused
  have sameEnqueued : ∀ owner,
      enqueuedOf owner (loop.history ++ [.started action]) = enqueuedOf owner loop.history := by
    intro owner
    rw [enqueuedOf_append]
    simp [enqueuedOf, LoopEvent.enqueuedAction]
  refine ⟨?_, fun other member => ?_, ?_, fun owner => ?_, fun owner => ?_, fun owner => ?_,
    fun owner => ?_, ?_⟩
  · have sound := inTurn.sound.turn
    unfold Loop.turn at sound
    rw [phase] at sound
    exact sound
  · exact unpaused other (List.mem_cons_of_mem _ member)
  · intro found isFound other member same before
    have pending := complete found (List.mem_cons_of_mem _ isFound) other
      (List.mem_of_mem_erase member) same before
    refine (List.mem_cons.mp pending).resolve_left fun isAction => ?_
    exact inTurn.sound.nodup.not_mem_erase (isAction ▸ member)
  · rw [pausedAfter_started]
    exact inTurn.paused owner
  · rw [sameEnqueued, inTurn.waiting owner, startedOf_append, List.append_assoc]
    congr 1
    by_cases own : action.owner = owner
    · subst own
      rw [inTurn.first_of_owner phase]
      simp [startedOf, LoopEvent.startedAction]
    · rw [← List.erase_filter, List.erase_of_not_mem (by simp [own])]
      simp [startedOf, LoopEvent.startedAction, own]
  · rw [sameEnqueued]
    exact inTurn.ordered owner
  · rw [sameEnqueued]
    exact inTurn.below owner
  · refine pauses_append inTurn.pauses fun other started => ?_
    cases started
    rw [inTurn.paused, decide_eq_false_iff_not]
    exact unpaused action List.mem_cons_self

/-- The walk has passed over no action of the owner of one that it comes to and finds ready. -/
theorem none_passed_over (inTurn : loop.InTurn) {ready rest pending : List ServerAction}
    {action : ServerAction} (phase : loop.phase = .checking ready (action :: rest) pending)
    (keeps : loop.KeepsTurns .turn) (process : action.owner ∉ loop.doNotProcess) :
    ∀ other ∈ loop.sources, other.owner = action.owner →
      other ∈ action :: rest ∨ other ∈ pending := by
  have walk := inTurn.sound.within
  have complete := inTurn.complete
  unfold KeepsTurns at keeps
  rw [phase] at walk complete
  simp only [phase] at keeps
  intro other member same
  by_cases isReady : action ∈ ready
  · exact complete action (List.mem_append_left _ isReady) other member same
  · obtain ⟨-, ⟨passed, sources⟩, -⟩ := walk
    have ordered := inTurn.sound.ordered
    rw [← sources] at member ordered
    rcases List.mem_append.mp member with before | later
    · have earlier := (List.pairwise_append.mp ordered).2.2 other before action List.mem_cons_self
      exact .inr (keeps isReady process other (sources ▸ member) same earlier)
    · exact .inl later

theorem turn (inTurn : loop.InTurn) (keeps : loop.KeepsTurns .turn) : loop.turn.InTurn := by
  have within := inTurn.sound.turn.within
  have unpaused := inTurn.unpaused
  have complete := inTurn.complete
  have turned := loop.turn_cases
  generalize loop.turn = next at turned within ⊢
  cases turned with
  | begins phase =>
    exact inTurn.moved within (fun _ member => absurd member List.not_mem_nil) trivial
  | finds ready rest action phase process =>
    rw [phase] at unpaused
    refine inTurn.moved within (fun other member => ?_) trivial
    rcases List.mem_append.mp member with old | new
    · exact unpaused other old
    · rw [List.mem_singleton.mp new]
      exact process
  | leaves ready rest action phase paused =>
    rw [phase] at unpaused
    exact inTurn.moved within unpaused trivial
  | prepared ready phase =>
    rw [phase] at unpaused
    exact inTurn.moved within unpaused trivial
  | waits phase asleep => exact inTurn
  | polled ready phase =>
    rw [phase] at unpaused
    refine inTurn.moved within (fun other member => ?_) fun _ _ other member _ => .inl member
    exact unpaused other (by simpa [Phase.found] using member)
  | takes ready rest pending action phase process =>
    rw [phase] at unpaused complete
    have isOpen : action.owner ∉ loop.doNotProcess :=
      process.elim (fun isReady => unpaused action (List.mem_append_left _ isReady)) id
    have followed := inTurn.none_passed_over phase keeps isOpen
    refine inTurn.moved within (fun other member => ?_) fun found isFound other member same => ?_
    · rw [Phase.found, ← List.append_assoc, List.mem_append, List.mem_singleton] at member
      rcases member with old | rfl
      · exact unpaused other old
      · exact isOpen
    · have known : other ∈ action :: rest ∨ other ∈ pending := by
        rw [← List.append_assoc, List.mem_append, List.mem_singleton] at isFound
        rcases isFound with old | rfl
        · exact complete found old other member same
        · exact followed other member same
      rw [List.mem_append, List.mem_singleton]
      rcases known with here | there
      · exact (List.mem_cons.mp here).elim (fun same => .inr (.inr same)) .inl
      · exact .inr (.inl there)
  | passes ready rest pending action phase notReady paused =>
    rw [phase] at unpaused complete
    refine inTurn.moved within unpaused fun found isFound other member same => ?_
    refine (complete found isFound other member same).imp (fun here => ?_) id
    refine (List.mem_cons.mp here).resolve_left ?_
    rintro rfl
    rw [same] at paused
    exact unpaused found isFound paused
  | checked ready pending phase =>
    rw [phase] at unpaused complete
    refine inTurn.moved within (fun other member => ?_) fun found isFound other member same _ => ?_
    · exact unpaused other (List.mem_append_right _ member)
    · refine (complete found (List.mem_append_right _ isFound) other member same).resolve_left ?_
      exact List.not_mem_nil
  | starts rest action phase => exact inTurn.start phase
  | ends phase => exact inTurn.moved within (fun _ member => absurd member List.not_mem_nil) trivial

theorem step (inTurn : loop.InTurn) (op : LoopOp) (keeps : loop.KeepsTurns op) :
    (loop.step op).InTurn := by
  cases op with
  | turn => exact inTurn.turn keeps
  | enqueue owner => exact inTurn.enqueue owner
  | pause owner => exact inTurn.pause owner keeps
  | resume owner => exact inTurn.resume owner
  | wakeup =>
    exact inTurn.moved inTurn.sound.within inTurn.unpaused inTurn.complete

end Loop.InTurn

end Mir.MainLoop

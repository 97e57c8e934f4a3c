/-
This file puts the results about server actions together. As long as every step keeps the turns,
pauses are honoured and the actions of an owner start in their order, once each, and each of them
that is not held back by a pause does start. After a step that does not keep the turns the loop
only has to go on to start an action out of turn.
-/

import Mathlib.Logic.Function.Iterate
import Mir.MainLoop.ActionProgress

namespace Mir.MainLoop

open Transition

instance (loop : Loop) : (op : LoopOp) → Decidable (loop.KeepsTurns op)
  | .pause owner => inferInstanceAs (Decidable (∀ action ∈ loop.phase.found, action.owner ≠ owner))
  | .turn =>
    match phase : loop.phase with
    | .checking ready (action :: rest) pending =>
      decidable_of_iff
        (action ∉ ready → action.owner ∉ loop.doNotProcess → ∀ earlier ∈ loop.sources,
          earlier.owner = action.owner → earlier.serial < action.serial → earlier ∈ pending)
        (by simp only [Loop.KeepsTurns, phase])
    | .waiting | .preparing _ _ | .polling _ | .checking _ [] _ | .dispatching _ =>
      .isTrue (by simp only [Loop.KeepsTurns, phase])
  | .enqueue _ | .resume _ | .wakeup => inferInstanceAs (Decidable True)

namespace Loop

variable {loop : Loop}

/-! ### Starts that cannot be held back -/

theorem Sound.attached_of_found (sound : loop.Sound) {action : ServerAction}
    (found : action ∈ loop.phase.found) : action ∈ loop.sources := by
  have within := sound.within
  cases phase : loop.phase with
  | waiting =>
    rw [phase] at found
    exact absurd found List.not_mem_nil
  | preparing ready rest =>
    rw [phase] at found within
    exact within.1 found
  | polling ready =>
    rw [phase] at found within
    exact within found
  | checking ready rest pending =>
    rw [phase] at found within
    obtain ⟨sublist, -, readyFound⟩ := within
    rcases List.mem_append.mp found with isReady | isPending
    · exact sublist.subset (readyFound isReady)
    · exact sublist.subset (List.mem_append_left _ isPending)
  | dispatching pending =>
    rw [phase] at found within
    exact List.Sublist.subset within found

/-- The loop on its own comes to the start of an action, and what its turns keep until then holds
there. -/
theorem reaches_start {action : ServerAction} {property : Loop → Prop}
    (coming : loop.Coming action) (holds : property loop)
    (keeps : ∀ before : Loop, before.Coming action → property before → ¬ before.Starts action →
      property before.turn) :
    ∃ count, (turn^[count] loop).Starts action ∧ property (turn^[count] loop) := by
  induction left : loop.turnsLeft action using Nat.strong_induction_on generalizing loop with
  | _ left inductionHypothesis =>
    subst left
    by_cases starts : loop.Starts action
    · exact ⟨0, starts, holds⟩
    · obtain ⟨next, closer⟩ := coming.turn.resolve_left starts
      obtain ⟨count, started, kept⟩ :=
        inductionHypothesis _ closer next (keeps loop coming holds starts) rfl
      exact ⟨count + 1, started, kept⟩

def StillPaused (owner : OwnerID) (loop : Loop) : Prop :=
  pausedAfter owner loop.history = true

theorem StillPaused.turn {owner : OwnerID} (paused : loop.StillPaused owner) :
    loop.turn.StillPaused owner := by
  have turned := loop.turn_cases
  unfold StillPaused at paused ⊢
  generalize loop.turn = next at turned ⊢
  cases turned with
  | starts rest started phase =>
    rw [pausedAfter_started]
    exact paused
  | _ => exact paused

/-- What is found ready when its owner is paused starts all the same. -/
theorem late_pause (sound : loop.Sound) (noticed : loop.Noticed) {action : ServerAction}
    (found : action ∈ loop.phase.found) :
    ∃ count, ¬ Orderly (turn^[count] (loop.step (.pause action.owner))).history := by
  have coming : (loop.step (.pause action.owner)).Coming action :=
    ⟨sound.step _, noticed.step _, sound.attached_of_found found, .inl found⟩
  have paused : (loop.step (.pause action.owner)).StillPaused action.owner := by
    show pausedAfter _ (loop.history ++ [.paused action.owner]) = true
    rw [pausedAfter_paused, if_pos rfl]
  obtain ⟨count, starts, paused⟩ := reaches_start coming paused fun _ _ paused _ => paused.turn
  refine ⟨count + 1, fun orderly => ?_⟩
  rw [Function.iterate_succ_apply', starts.turn] at orderly
  have unpaused := orderly.pauses _ action (List.prefix_refl _)
  unfold StillPaused at paused
  rw [paused] at unpaused
  cases unpaused

end Loop

/-! ### Actions that are passed over -/

/-- The walk has found an action and passed over another. -/
def Phase.PassedOver (earlier action : ServerAction) : Phase → Prop
  | .checking _ rest pending => action ∈ pending ∧ earlier ∉ rest ∧ earlier ∉ pending
  | .dispatching pending => action ∈ pending ∧ earlier ∉ pending
  | _ => False

/-- An action will start before an earlier one of its owner. -/
structure Loop.Overtakes (earlier action : ServerAction) (loop : Loop) : Prop where
  passedOver : loop.phase.PassedOver earlier action
  same : earlier.owner = action.owner
  before : earlier.serial < action.serial
  enqueued : earlier ∈ enqueuedOf action.owner loop.history
  ordered : (enqueuedOf action.owner loop.history).Pairwise
    fun first second => first.serial < second.serial
  notStarted : .started earlier ∉ loop.history

theorem enqueuedOf_started (owner : OwnerID) (history : List LoopEvent) (action : ServerAction) :
    enqueuedOf owner (history ++ [.started action]) = enqueuedOf owner history := by
  rw [enqueuedOf_append]
  simp [enqueuedOf, LoopEvent.enqueuedAction]

namespace Loop.Overtakes

variable {loop : Loop} {earlier action : ServerAction}

/-- A turn that starts no action. -/
theorem moved (overtakes : loop.Overtakes earlier action) {phase : Phase} {woken : Bool}
    (passedOver : phase.PassedOver earlier action) :
    Overtakes earlier action { loop with phase := phase, woken := woken } :=
  ⟨passedOver, overtakes.same, overtakes.before, overtakes.enqueued, overtakes.ordered,
    overtakes.notStarted⟩

theorem turn (overtakes : loop.Overtakes earlier action) (starts : ¬ loop.Starts action) :
    loop.turn.Overtakes earlier action := by
  have passedOver := overtakes.passedOver
  have turned := loop.turn_cases
  generalize loop.turn = next at turned ⊢
  cases turned with
  | begins phase | prepared ready phase | polled ready phase | waits phase asleep =>
    rw [phase] at passedOver
    exact passedOver.elim
  | finds ready rest tested phase process | leaves ready rest tested phase process =>
    rw [phase] at passedOver
    exact passedOver.elim
  | takes ready rest pending tested phase process =>
    rw [phase] at passedOver
    obtain ⟨isPending, notInRest, notPending⟩ := passedOver
    obtain ⟨different, notInRest⟩ := not_or.mp (notInRest ∘ List.mem_cons.mpr)
    refine overtakes.moved ⟨List.mem_append_left _ isPending, notInRest, fun member => ?_⟩
    exact (List.mem_append.mp member).elim notPending
      fun isTested => different (List.mem_singleton.mp isTested)
  | passes ready rest pending tested phase notReady paused =>
    rw [phase] at passedOver
    obtain ⟨isPending, notInRest, notPending⟩ := passedOver
    exact overtakes.moved
      ⟨isPending, fun member => notInRest (List.mem_cons_of_mem _ member), notPending⟩
  | checked ready pending phase =>
    rw [phase] at passedOver
    exact overtakes.moved ⟨passedOver.1, passedOver.2.2⟩
  | starts rest started phase =>
    rw [phase] at passedOver
    obtain ⟨isPending, notPending⟩ := passedOver
    obtain ⟨different, notInRest⟩ := not_or.mp (notPending ∘ List.mem_cons.mpr)
    have later : action ∈ rest := by
      refine (List.mem_cons.mp isPending).resolve_left ?_
      rintro rfl
      exact starts ⟨rest, phase⟩
    refine ⟨⟨later, notInRest⟩, overtakes.same, overtakes.before, ?_, ?_, fun member => ?_⟩
    · rw [enqueuedOf_started]
      exact overtakes.enqueued
    · rw [enqueuedOf_started]
      exact overtakes.ordered
    · rcases List.mem_append.mp member with old | new
      · exact overtakes.notStarted old
      · cases List.mem_singleton.mp new
        exact different rfl
  | ends phase =>
    rw [phase] at passedOver
    exact absurd passedOver.1 List.not_mem_nil

/-- Once the action starts, the earlier one is left out. -/
theorem not_orderly (overtakes : loop.Overtakes earlier action) (starts : loop.Starts action) :
    ¬ Orderly loop.turn.history := by
  intro orderly
  rw [starts.turn] at orderly
  obtain ⟨later, split⟩ := orderly.turns action.owner
  rw [enqueuedOf_started] at split
  have started : action ∈ startedOf action.owner (loop.history ++ [.started action]) :=
    (mem_startedOf _ _ _).mpr ⟨List.mem_append_right _ (List.mem_singleton_self _), rfl⟩
  have notStarted : earlier ∉ startedOf action.owner (loop.history ++ [.started action]) := by
    intro member
    rcases List.mem_append.mp ((mem_startedOf _ _ _).mp member).1 with old | new
    · exact overtakes.notStarted old
    · cases List.mem_singleton.mp new
      exact absurd overtakes.before (Nat.lt_irrefl _)
  have enqueued := overtakes.enqueued
  have ordered := overtakes.ordered
  rw [← split] at enqueued ordered
  have left : earlier ∈ later := (List.mem_append.mp enqueued).resolve_left notStarted
  have behind := (List.pairwise_append.mp ordered).2.2 action started earlier left
  exact absurd overtakes.before (Nat.lt_asymm behind)

end Loop.Overtakes

namespace Loop

variable {loop : Loop}

/-- An action that the check finds ready after it has passed over an earlier one of its owner starts
before that one. -/
theorem InTurn.overtaken (inTurn : loop.InTurn) (noticed : loop.Noticed)
    {ready rest pending : List ServerAction} {earlier action : ServerAction}
    (phase : loop.phase = .checking ready (action :: rest) pending)
    (process : action.owner ∉ loop.doNotProcess) (attached : earlier ∈ loop.sources)
    (same : earlier.owner = action.owner) (before : earlier.serial < action.serial)
    (notPending : earlier ∉ pending) :
    ∃ count, ¬ Orderly (Loop.turn^[count] (loop.step .turn)).history := by
  have turned : loop.turn =
      { loop with phase := .checking ready rest (pending ++ [action]) } := by
    unfold Loop.turn
    rw [phase]
    exact if_pos (.inr (decide_eq_true process))
  have sound := inTurn.sound.turn
  have noticed := noticed.turn
  have isPending : action ∈ pending ++ [action] :=
    List.mem_append_right _ (List.mem_singleton_self _)
  have coming : loop.turn.Coming action := by
    rw [turned] at sound noticed ⊢
    refine ⟨sound, noticed, ?_, .inr process⟩
    exact sound.attached_of_found (List.mem_append_right _ isPending)
  have overtakes : loop.turn.Overtakes earlier action := by
    have walk := inTurn.sound.within
    rw [phase] at walk
    have ordered := inTurn.ordered action.owner
    have waiting : earlier ∈ loop.sources.filter fun other => other.owner = action.owner :=
      List.mem_filter.mpr ⟨attached, decide_eq_true same⟩
    rw [turned]
    refine ⟨⟨isPending, fun later => ?_, fun found => ?_⟩, same, before, ?_, ordered, ?_⟩
    · have sorted := inTurn.sound.ordered.sublist walk.2.1.sublist
      exact absurd before (Nat.lt_asymm ((List.pairwise_cons.mp sorted).1 earlier later))
    · rcases List.mem_append.mp found with old | new
      · exact notPending old
      · rw [List.mem_singleton.mp new] at before
        exact absurd before (Nat.lt_irrefl _)
    · show earlier ∈ enqueuedOf _ loop.history
      rw [inTurn.waiting]
      exact List.mem_append_right _ waiting
    · intro started
      rw [inTurn.waiting] at ordered
      have known := (mem_startedOf action.owner _ earlier).mpr ⟨started, same⟩
      exact absurd ((List.pairwise_append.mp ordered).2.2 earlier known earlier waiting)
        (Nat.lt_irrefl _)
  obtain ⟨count, starts, overtakes⟩ :=
    reaches_start coming overtakes fun _ _ overtakes notYet => overtakes.turn notYet
  refine ⟨count + 1, ?_⟩
  rw [Function.iterate_succ_apply']
  exact overtakes.not_orderly starts

/-- After a step that does not keep the turns the loop only has to go on. -/
theorem InTurn.broken (inTurn : loop.InTurn) (noticed : loop.Noticed) (op : LoopOp)
    (breaks : ¬ loop.KeepsTurns op) :
    ∃ count, ¬ Orderly (Loop.turn^[count] (loop.step op)).history := by
  cases op with
  | pause owner =>
    obtain ⟨action, found, same⟩ : ∃ action ∈ loop.phase.found, action.owner = owner := by
      simpa [KeepsTurns] using breaks
    subst same
    exact late_pause inTurn.sound noticed found
  | turn =>
    unfold KeepsTurns at breaks
    dsimp only at breaks
    split at breaks
    next ready action rest pending phase =>
      push Not at breaks
      obtain ⟨_, process, earlier, attached, same, before, notPending⟩ := breaks
      exact inTurn.overtaken noticed phase process attached same before notPending
    next => exact absurd trivial breaks
  | enqueue _ | resume _ | wakeup => exact absurd trivial breaks

/-! ### Every run -/

structure InTurnAndNoticed (loop : Loop) : Prop where
  inTurn : loop.InTurn
  noticed : loop.Noticed

/-- In every run whose steps keep the turns, pauses are honoured and each owner's actions start in
their order, once each; an action whose owner nobody pauses starts after enough turns of the loop;
and after a step that does not keep the turns, going on starts an action out of turn. -/
theorem server_actions_take_turns (reached : Reaches step KeepsTurns initial loop) :
    Orderly loop.history ∧
    (∀ action ∈ loop.sources, action.owner ∉ loop.doNotProcess → ∃ turns, ∀ ops : List LoopOp,
      LoopOp.pause action.owner ∉ ops →
      turns + 5 * ops.countP LoopOp.isEnqueue ≤ ops.count .turn →
      .started action ∈ (ops.foldl step loop).history) ∧
    ∀ op, ¬ loop.KeepsTurns op → ∃ count, ¬ Orderly (turn^[count] (loop.step op)).history := by
  have both : loop.InTurnAndNoticed := reached.invariant ⟨.initial, .initial⟩
    fun _ op both keeps => ⟨both.inTurn.step op keeps, both.noticed.step op⟩
  refine ⟨both.inTurn.orderly, fun action attached unpaused => ?_, both.inTurn.broken both.noticed⟩
  have coming : loop.Coming action := ⟨both.inTurn.sound, both.noticed, attached, .inr unpaused⟩
  exact ⟨loop.turnsLeft action, fun ops noPause enough => coming.starts noPause enough⟩

/-- Two owners, one of them paused while the loop goes round. -/
def pausedInTime : List LoopOp :=
  [.enqueue 1, .enqueue 2, .pause 1, .turn, .turn, .turn, .turn, .turn, .turn, .turn, .turn, .turn,
    .resume 1, .enqueue 1]

theorem server_actions_take_turns_when_paused_in_time :
    let loop := pausedInTime.foldl step initial
    Orderly loop.history ∧
    (∀ action ∈ loop.sources, action.owner ∉ loop.doNotProcess → ∃ turns, ∀ ops : List LoopOp,
      LoopOp.pause action.owner ∉ ops →
      turns + 5 * ops.countP LoopOp.isEnqueue ≤ ops.count .turn →
      .started action ∈ (ops.foldl step loop).history) ∧
    ∀ op, ¬ loop.KeepsTurns op → ∃ count, ¬ Orderly (turn^[count] (loop.step op)).history :=
  server_actions_take_turns (Reaches.start.foldl pausedInTime (by decide))

/-- An action pauses its owner, and the owner's next action, found ready with it, starts. -/
theorem paused_action_starts :
    ¬ ∀ ops : List LoopOp, Orderly (ops.foldl step initial).history := by
  intro claimed
  have orderly := claimed [.enqueue 1, .enqueue 1, .turn, .turn, .turn, .turn, .turn, .turn, .turn,
    .turn, .turn, .pause 1, .turn]
  have unpaused := orderly.pauses
    [.enqueued ⟨0, 1⟩, .enqueued ⟨1, 1⟩, .started ⟨0, 1⟩, .paused 1] ⟨1, 1⟩ (by decide)
  revert unpaused
  decide

end Loop

end Mir.MainLoop

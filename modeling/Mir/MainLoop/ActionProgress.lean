/-
This file proves that the loop gets to every action whose owner stays unpaused. The loop does not
wait while there is such an action, and each of its turns brings the action closer, whatever other
threads do meanwhile; only an action that is enqueued meanwhile costs it some turns more. Nor can
an action be held back once it is found ready, so a pause that comes too late is not honoured.
-/

import Mir.MainLoop.ActionTurns

namespace Mir.MainLoop

open Transition

def LoopOp.isEnqueue : LoopOp → Bool
  | .enqueue _ => true
  | _ => false

/-! ### The loop does not wait -/

/-- Before the loop waits for something, the action is found ready or will be tested. -/
def Phase.Notices (action : ServerAction) : Phase → Prop
  | .preparing ready rest => action ∈ rest ∨ action ∈ ready
  | .polling ready => action ∈ ready
  | _ => True

namespace Loop

variable {loop : Loop}

/-- An action that is not noticed belongs to a paused owner, or the loop is being woken up. -/
def Noticed (loop : Loop) : Prop :=
  ∀ action ∈ loop.sources,
    loop.phase.Notices action ∨ action.owner ∈ loop.doNotProcess ∨ loop.woken = true

namespace Noticed

theorem initial : Loop.initial.Noticed := fun _ member => absurd member List.not_mem_nil

theorem enqueue (owner : OwnerID) : (loop.enqueue owner).Noticed := by
  intro action _
  show (loop.phase.attach _).Notices action ∨ _ ∨ (loop.woken || loop.phase.mayBlock) = true
  cases loop.phase with
  | preparing _ _ | polling _ | checking _ _ _ => exact .inr (.inr (Bool.or_true _))
  | waiting | dispatching _ => exact .inl trivial

theorem pause (noticed : loop.Noticed) (owner : OwnerID) :
    (loop.pauseProcessingFor owner).Noticed := by
  refine fun action member => (noticed action member).imp id (Or.imp (fun paused => ?_) id)
  unfold pauseProcessingFor
  dsimp only
  split_ifs
  · exact paused
  · exact List.mem_append_left _ paused

theorem turn (noticed : loop.Noticed) : loop.turn.Noticed := by
  have turned := loop.turn_cases
  unfold Noticed at noticed
  generalize loop.turn = next at turned ⊢
  cases turned with
  | begins phase => exact fun action member => .inl (.inl member)
  | finds ready rest found phase process =>
    rw [phase] at noticed
    refine fun action member => (noticed action member).imp (fun noticed => ?_) id
    rcases noticed with here | isReady
    · rcases List.mem_cons.mp here with rfl | later
      · exact .inr (List.mem_append_right _ (List.mem_singleton_self _))
      · exact .inl later
    · exact .inr (List.mem_append_left _ isReady)
  | leaves ready rest left phase paused =>
    rw [phase] at noticed
    intro action member
    rcases noticed action member with (here | isReady) | other
    · rcases List.mem_cons.mp here with rfl | later
      · exact .inr (.inl paused)
      · exact .inl (.inl later)
    · exact .inl (.inr isReady)
    · exact .inr other
  | prepared ready phase =>
    rw [phase] at noticed
    refine fun action member => (noticed action member).imp (fun noticed => ?_) id
    exact noticed.resolve_left List.not_mem_nil
  | waits phase asleep => exact noticed
  | polled | takes | passes | checked | starts | ends => exact fun _ _ => .inl trivial

theorem step (noticed : loop.Noticed) (op : LoopOp) : (loop.step op).Noticed := by
  cases op with
  | turn => exact noticed.turn
  | enqueue owner => exact .enqueue owner
  | pause owner => exact noticed.pause owner
  | resume _ | wakeup => exact fun _ _ => .inr (.inr rfl)

end Noticed

/-! ### Each turn brings an action closer -/

/-- The action is attached, and it is found ready or its owner is not paused. -/
structure Coming (loop : Loop) (action : ServerAction) : Prop where
  sound : loop.Sound
  noticed : loop.Noticed
  attached : action ∈ loop.sources
  process : action ∈ loop.phase.found ∨ action.owner ∉ loop.doNotProcess

/-- How many turns it takes at most until the action starts. -/
def turnsLeft (loop : Loop) (action : ServerAction) : Nat :=
  let count := loop.sources.length
  match loop.phase with
  | .waiting => 3 * count + 4
  | .preparing _ rest => rest.length + 2 * count + 3
  | .polling _ => 2 * count + 2
  | .checking _ rest pending =>
    if action ∈ pending ∨ action ∈ rest then rest.length + count + 1
    else rest.length + 4 * count + 6
  | .dispatching pending =>
    if action ∈ pending then pending.length else pending.length + 3 * count + 5

theorem turnsLeft_pos (loop : Loop) (action : ServerAction) : 0 < loop.turnsLeft action := by
  unfold turnsLeft
  dsimp only
  split
  · omega
  · omega
  · omega
  · split_ifs <;> omega
  · split_ifs with isPending
    · exact List.length_pos_of_mem isPending
    · omega

/-- The next turn starts the action. -/
def Starts (loop : Loop) (action : ServerAction) : Prop :=
  ∃ rest, loop.phase = .dispatching (action :: rest)

namespace Coming

variable {action : ServerAction}

/-- The loop does not wait. -/
theorem awake (coming : loop.Coming action) (phase : loop.phase = .polling []) :
    loop.woken = true := by
  have process := coming.process
  have noticed := coming.noticed action coming.attached
  rw [phase] at process noticed
  have unpaused := process.resolve_left List.not_mem_nil
  exact (noticed.resolve_left List.not_mem_nil).resolve_left unpaused

/-- Either the next turn starts the action, or it brings it closer. -/
theorem turn (coming : loop.Coming action) :
    loop.Starts action ∨
      loop.turn.Coming action ∧ loop.turn.turnsLeft action < loop.turnsLeft action := by
  have sound := coming.sound.turn
  have noticed := coming.noticed.turn
  have attached := coming.attached
  have within := coming.sound.within
  have process := coming.process
  have turned := loop.turn_cases
  generalize loop.turn = next at turned sound noticed ⊢
  cases turned with
  | begins phase =>
    rw [phase] at process
    refine .inr ⟨⟨sound, noticed, attached, process.imp (absurd · List.not_mem_nil) id⟩, ?_⟩
    simp only [turnsLeft, phase]
    omega
  | finds ready rest tested phase isOpen =>
    rw [phase] at process
    refine .inr ⟨⟨sound, noticed, attached, process.imp (List.mem_append_left _) id⟩, ?_⟩
    simp only [turnsLeft, phase, List.length_cons]
    omega
  | leaves ready rest tested phase paused =>
    rw [phase] at process
    refine .inr ⟨⟨sound, noticed, attached, process⟩, ?_⟩
    simp only [turnsLeft, phase, List.length_cons]
    omega
  | prepared ready phase =>
    rw [phase] at process
    refine .inr ⟨⟨sound, noticed, attached, process⟩, ?_⟩
    simp only [turnsLeft, phase, List.length_nil]
    omega
  | waits phase asleep =>
    have awake := coming.awake phase
    rw [asleep] at awake
    cases awake
  | polled ready phase =>
    rw [phase] at process
    refine .inr ⟨⟨sound, noticed, attached, process.imp (List.mem_append_left _) id⟩, ?_⟩
    simp only [turnsLeft, phase, attached, or_true, if_true]
    omega
  | takes ready rest pending tested phase isOpen =>
    rw [phase] at process
    refine .inr ⟨⟨sound, noticed, attached, process.imp (fun found => ?_) id⟩, ?_⟩
    · rw [Phase.found, ← List.append_assoc]
      exact List.mem_append_left _ found
    · have same : (action ∈ pending ++ [tested] ∨ action ∈ rest) ↔
          (action ∈ pending ∨ action ∈ tested :: rest) := by
        rw [List.mem_append, List.mem_singleton, List.mem_cons, or_assoc]
      simp only [turnsLeft, phase, same, List.length_cons]
      split_ifs <;> omega
  | passes ready rest pending tested phase notReady paused =>
    rw [phase] at process within
    refine .inr ⟨⟨sound, noticed, attached, process⟩, ?_⟩
    have caught : action = tested → action ∈ pending := by
      rintro rfl
      rcases process with found | unpaused
      · exact (List.mem_append.mp found).resolve_left notReady
      · exact absurd paused unpaused
    have same : (action ∈ pending ∨ action ∈ rest) ↔
        (action ∈ pending ∨ action ∈ tested :: rest) := by
      rw [List.mem_cons]
      exact ⟨Or.imp id .inr, Or.rec .inl (Or.rec (fun same => .inl (caught same)) .inr)⟩
    simp only [turnsLeft, phase, same, List.length_cons]
    split_ifs <;> omega
  | checked ready pending phase =>
    rw [phase] at process within
    have shorter := within.1.length_le
    have found : action ∈ ready ++ pending → action ∈ pending := by
      intro found
      rcases List.mem_append.mp found with isReady | isPending
      · simpa using within.2.2 isReady
      · exact isPending
    refine .inr ⟨⟨sound, noticed, attached, process.imp found id⟩, ?_⟩
    rw [List.append_nil] at shorter
    simp only [turnsLeft, phase, List.not_mem_nil, or_false, List.length_nil]
    split_ifs <;> omega
  | starts rest started phase =>
    by_cases same : action = started
    · subst same
      exact .inl ⟨rest, phase⟩
    · rw [phase] at process
      have attached := (List.mem_erase_of_ne same).mpr attached
      have remains : action ∈ started :: rest → action ∈ rest :=
        fun found => (List.mem_cons.mp found).resolve_left same
      have shorter := (List.erase_sublist : (loop.sources.erase started).Sublist _).length_le
      refine .inr ⟨⟨sound, noticed, attached, process.imp remains id⟩, ?_⟩
      simp only [turnsLeft, phase, List.mem_cons, same, false_or, List.length_cons]
      split_ifs <;> omega
  | ends phase =>
    rw [phase] at process
    refine .inr ⟨⟨sound, noticed, attached, process.imp (absurd · List.not_mem_nil) id⟩, ?_⟩
    simp only [turnsLeft, phase, List.not_mem_nil, if_false, List.length_nil]
    omega

/-! ### What other threads do meanwhile -/

theorem enqueue (coming : loop.Coming action) (owner : OwnerID) :
    (loop.enqueue owner).Coming action ∧
      (loop.enqueue owner).turnsLeft action ≤ loop.turnsLeft action + 5 := by
  have old : action ≠ ⟨loop.enqueued, owner⟩ := by
    rintro rfl
    exact absurd (coming.sound.below _ coming.attached) (Nat.lt_irrefl _)
  refine ⟨⟨coming.sound.enqueue owner, .enqueue owner, ?_, ?_⟩, ?_⟩
  · exact List.mem_append_left _ coming.attached
  · refine coming.process.imp (fun found => ?_) id
    show action ∈ (loop.phase.attach _).found
    rw [Phase.found_attach]
    exact found
  · cases phase : loop.phase with
    | waiting | polling ready | preparing ready rest =>
      simp only [turnsLeft, Loop.enqueue, phase, Phase.attach, List.length_append,
        List.length_singleton]
      omega
    | checking ready rest pending =>
      simp only [turnsLeft, Loop.enqueue, phase, Phase.attach, List.length_append,
        List.length_singleton, List.mem_append, List.mem_singleton, old, or_false]
      split_ifs <;> omega
    | dispatching pending =>
      simp only [turnsLeft, Loop.enqueue, phase, Phase.attach, List.length_append,
        List.length_singleton]
      split_ifs <;> omega

theorem pause (coming : loop.Coming action) {owner : OwnerID} (other : action.owner ≠ owner) :
    (loop.pauseProcessingFor owner).Coming action := by
  refine ⟨⟨coming.sound.ordered, coming.sound.below, coming.sound.within⟩,
    coming.noticed.pause owner, coming.attached, coming.process.imp id fun unpaused => ?_⟩
  unfold pauseProcessingFor
  dsimp only
  split_ifs
  · exact unpaused
  · exact fun paused => (List.mem_append.mp paused).elim unpaused
      fun isOwner => other (List.mem_singleton.mp isOwner)

theorem resume (coming : loop.Coming action) (owner : OwnerID) :
    (loop.resumeProcessingFor owner).Coming action :=
  ⟨⟨coming.sound.ordered, coming.sound.below, coming.sound.within⟩, fun _ _ => .inr (.inr rfl),
    coming.attached,
    coming.process.imp id fun unpaused paused => unpaused (List.mem_of_mem_filter paused)⟩

theorem wakeup (coming : loop.Coming action) : (loop.step .wakeup).Coming action :=
  ⟨⟨coming.sound.ordered, coming.sound.below, coming.sound.within⟩, fun _ _ => .inr (.inr rfl),
    coming.attached, coming.process⟩

end Coming

/-! ### Every action starts -/

/-- What happened stays in the history. -/
theorem history_step (loop : Loop) (op : LoopOp) : loop.history <+: (loop.step op).history := by
  cases op with
  | turn =>
    have turned := loop.turn_cases
    show loop.history <+: loop.turn.history
    generalize loop.turn = next at turned ⊢
    cases turned with
    | starts => exact List.prefix_append _ _
    | _ => exact List.prefix_refl _
  | wakeup => exact List.prefix_refl _
  | enqueue _ | pause _ | resume _ => exact List.prefix_append _ _

theorem history_foldl (loop : Loop) (ops : List LoopOp) :
    loop.history <+: (ops.foldl step loop).history := by
  induction ops generalizing loop with
  | nil => exact List.prefix_refl _
  | cons op rest inductionHypothesis => exact (loop.history_step op).trans (inductionHypothesis _)

theorem Starts.turn {action : ServerAction} (starts : loop.Starts action) :
    loop.turn.history = loop.history ++ [.started action] := by
  obtain ⟨rest, phase⟩ := starts
  unfold Loop.turn
  rw [phase]

/-- An action starts after enough turns of the loop, five more for each action that is enqueued
meanwhile, as long as nobody pauses its owner. -/
theorem Coming.starts {action : ServerAction} (coming : loop.Coming action) {ops : List LoopOp}
    (noPause : LoopOp.pause action.owner ∉ ops)
    (enough : loop.turnsLeft action + 5 * ops.countP LoopOp.isEnqueue ≤ ops.count .turn) :
    .started action ∈ (ops.foldl step loop).history := by
  induction ops generalizing loop with
  | nil =>
    have positive := turnsLeft_pos loop action
    simp only [List.countP_nil, List.count_nil] at enough
    omega
  | cons op rest inductionHypothesis =>
    obtain ⟨other, later⟩ := not_or.mp (noPause ∘ List.mem_cons.mpr)
    rw [List.foldl_cons]
    rw [List.countP_cons, List.count_cons] at enough
    cases op with
    | turn =>
      rcases coming.turn with starts | ⟨coming, closer⟩
      · refine (history_foldl _ rest).subset ?_
        show _ ∈ loop.turn.history
        rw [starts.turn]
        exact List.mem_append_right _ (List.mem_singleton_self _)
      · refine inductionHypothesis coming later ?_
        simp [LoopOp.isEnqueue] at enough
        show loop.turn.turnsLeft action + _ ≤ _
        omega
    | enqueue owner =>
      obtain ⟨coming, farther⟩ := coming.enqueue owner
      refine inductionHypothesis coming later ?_
      simp [LoopOp.isEnqueue] at enough
      show (loop.enqueue owner).turnsLeft action + _ ≤ _
      omega
    | pause owner =>
      have different : action.owner ≠ owner := fun same => other (same ▸ rfl)
      refine inductionHypothesis (coming.pause different) later ?_
      simp [LoopOp.isEnqueue] at enough
      exact enough
    | resume owner =>
      refine inductionHypothesis (coming.resume owner) later ?_
      simp [LoopOp.isEnqueue] at enough
      exact enough
    | wakeup =>
      refine inductionHypothesis coming.wakeup later ?_
      simp [LoopOp.isEnqueue] at enough
      exact enough

end Loop

end Mir.MainLoop

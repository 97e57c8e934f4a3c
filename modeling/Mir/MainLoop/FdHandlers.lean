/-
This file proves what the unregistering of file descriptor handlers promises. Destroying a source of
the underlying loop does not keep it from dispatching what it has already found ready, so a source
is disabled before it is destroyed, with the lock that is held while its handler runs.
-/

import Mir.Library.Silencing
import Mir.MainLoop.Reentry

namespace Mir.MainLoop

open Monitor

variable {Thread : Type} [Fintype Thread] [DecidableEq Thread] {loop : Thread}
  {state : State Thread FdSources FdRequest Nat}

/-! ### Sources come and go -/

theorem made_le_step (move : Move Thread FdRequest Nat) :
    state.data.made ≤ (fdMonitor.step loop state move).data.made := by
  have moved := fdMonitor.step_cases loop state move
  generalize fdMonitor.step loop state move = next at moved ⊢
  cases moved with
  | entered thread call calls stage next free =>
    cases call with
    | registerFdHandler owner => exact Nat.le_succ _
    | unregisterFdHandler owner => exact Nat.le_refl _
  | left thread call later stage => cases call <;> exact Nat.le_refl _
  | _ => exact Nat.le_refl _

/-- A source that was not there before is a new one. -/
theorem mem_sources_of_step {source : FdSource} (move : Move Thread FdRequest Nat)
    (member : source ∈ (fdMonitor.step loop state move).data.sources) :
    source ∈ state.data.sources ∨ source.context = state.data.made ∧
      state.data.made < (fdMonitor.step loop state move).data.made := by
  have moved := fdMonitor.step_cases loop state move
  generalize fdMonitor.step loop state move = next at moved member ⊢
  cases moved with
  | entered thread call calls stage next free =>
    cases call with
    | registerFdHandler owner =>
      refine (List.mem_append.mp member).imp_right fun new => ?_
      rw [List.mem_singleton.mp new]
      exact ⟨rfl, Nat.lt_succ_self _⟩
    | unregisterFdHandler owner => exact .inl member
  | left thread call later stage =>
    cases call with
    | registerFdHandler owner => exact .inl member
    | unregisterFdHandler owner => exact .inl (List.mem_of_mem_filter member)
  | _ => exact .inl member

/-- The source was made and is no more there. -/
def Gone (source : FdSource) (state : State Thread FdSources FdRequest Nat) : Prop :=
  source.context < state.data.made ∧ source ∉ state.data.sources

theorem Gone.step {source : FdSource} (gone : Gone source state)
    (move : Move Thread FdRequest Nat) : Gone source (fdMonitor.step loop state move) := by
  refine ⟨gone.1.trans_le (made_le_step move), fun member => ?_⟩
  exact (mem_sources_of_step move member).elim gone.2 fun new => gone.1.ne new.1

/-- The thread unregisters the handlers of the owner, or has done so. -/
def Leaving (thread : Thread) (source : FdSource) (state : State Thread FdSources FdRequest Nat) :
    Prop :=
  source.context < state.data.made ∧
    (state.stage thread).serving = some (.unregisterFdHandler source.owner) ∨ Gone source state

theorem Leaving.step {thread : Thread} {source : FdSource} (leaving : Leaving thread source state)
    (move : Move Thread FdRequest Nat) :
    Leaving thread source (fdMonitor.step loop state move) := by
  rcases leaving with ⟨numbered, serves⟩ | gone
  · have stays : source.context < (fdMonitor.step loop state move).data.made :=
      numbered.trans_le (made_le_step move)
    refine (serving_of_step fdMonitor move serves).imp (⟨stays, ·⟩) fun left => ⟨stays, ?_⟩
    intro member
    rw [left] at member
    exact of_decide_eq_true (List.mem_filter.mp member).2 rfl
  · exact .inr (gone.step move)

theorem Gone.foldl {source : FdSource} (gone : Gone source state)
    (moves : List (Move Thread FdRequest Nat)) :
    Gone source (moves.foldl (fdMonitor.step loop) state) :=
  List.foldlRecOn moves _ gone fun _ kept move _ => kept.step move

theorem Leaving.foldl {thread : Thread} {source : FdSource}
    (leaving : Leaving thread source state) (moves : List (Move Thread FdRequest Nat)) :
    Leaving thread source (moves.foldl (fdMonitor.step loop) state) :=
  List.foldlRecOn moves _ leaving fun _ kept move _ => kept.step move

/-! ### Every run -/

def fdRun (loop : Thread) (moves : List (Move Thread FdRequest Nat)) :
    State Thread FdSources FdRequest Nat :=
  moves.foldl (fdMonitor.step loop) (initial .initial)

/-- What was made has a context of its own, and a lock is held by one thread. -/
theorem run_sound (moves : List (Move Thread FdRequest Nat)) :
    Exclusive loop (fdRun loop moves) ∧ ∀ source ∈ (fdRun loop moves).data.sources,
      source.context < (fdRun loop moves).data.made := by
  induction moves using List.reverseRecOn with
  | nil => exact ⟨exclusive_initial _, fun _ member => nomatch member⟩
  | append_singleton moves move inductionHypothesis =>
    obtain ⟨exclusive, numbered⟩ := inductionHypothesis
    unfold fdRun at exclusive numbered ⊢
    rw [List.foldl_append]
    refine ⟨exclusive.step fdMonitor move, fun source member => ?_⟩
    rcases mem_sources_of_step move member with before | ⟨same, less⟩
    · exact (numbered source before).trans_le (made_le_step move)
    · exact same ▸ less

theorem run_cons (moves later : List (Move Thread FdRequest Nat))
    (move : Move Thread FdRequest Nat) :
    fdRun loop (moves ++ move :: later) =
      later.foldl (fdMonitor.step loop) (fdMonitor.step loop (fdRun loop moves) move) := by
  unfold fdRun
  rw [List.foldl_append, List.foldl_cons]

/-- When the handlers of an owner were unregistered, none of them is registered, runs or is started
any more, whatever the threads do, but for a handler that has unregistered itself and is still to
end. -/
theorem unregistered_handlers_stay_silent
    (moves returning further : List (Move Thread FdRequest Nat)) (thread : Thread) (owner : Nat)
    (enters : entering loop (fdRun loop moves) (.lock thread) = some (.unregisterFdHandler owner))
    (returns : (fdRun loop (moves ++ .lock thread :: returning)).stage thread = .resting) :
    let after := fdRun loop (moves ++ .lock thread :: (returning ++ further))
    ∀ source ∈ (fdRun loop moves).data.sources, source.owner = owner →
      source ∉ after.data.sources ∧ (thread ≠ loop → after.running ≠ some source.context) ∧
        ∀ move, starting loop after move ≠ some source.context := by
  intro after source member isOwner
  obtain ⟨exclusive, numbered⟩ := @run_sound _ _ _ loop moves
  obtain ⟨other, calls, isThread, stage, next, free⟩ := entering_eq_some enters
  cases isThread
  have silent : Silent loop thread after source.context := by
    rw [run_cons] at returns
    have promised : Silent loop thread (returning.foldl (fdMonitor.step loop)
        (fdMonitor.step loop (fdRun loop moves) (.lock thread))) source.context := by
      refine silent_of_entered fdMonitor exclusive stage next free returning returns ?_
      refine List.mem_append_left _ (List.mem_map.mpr ⟨source, List.mem_filter.mpr ?_, rfl⟩)
      exact ⟨member, decide_eq_true isOwner⟩
    unfold after
    rw [run_cons, List.foldl_append]
    exact promised.foldl fdMonitor further
  refine ⟨?_, silent.2, silent.not_starting⟩
  have leaving : Leaving thread source
      (fdMonitor.step loop (fdRun loop moves) (.lock thread)) := by
    refine .inl ⟨(numbered source member).trans_le (made_le_step _), ?_⟩
    rw [step_lock fdMonitor stage next free, isOwner]
    exact congrArg Stage.serving (stage_goes _)
  have gone : Gone source (fdRun loop (moves ++ .lock thread :: returning)) := by
    rw [run_cons] at returns ⊢
    refine (leaving.foldl returning).resolve_left fun serves => ?_
    rw [returns] at serves
    cases serves.2
  unfold after
  rw [run_cons, List.foldl_append, ← run_cons]
  exact (gone.foldl further).2

/-- Two handlers are registered, and the source of the first is found ready. -/
def twoHandlers : List (Move (Fin 2) FdRequest Nat) :=
  [.call 1 (.registerFdHandler 7), .lock 1, .unlock 1, .call 1 (.registerFdHandler 8), .lock 1,
    .unlock 1, .dispatch 0 [], .call 1 (.unregisterFdHandler 7)]

/-- The handler that is about to run is unregistered, and only the other one runs. -/
theorem unregistered_handlers_stay_silent_when_dispatched :
    let after := fdRun (0 : Fin 2) (twoHandlers ++ .lock 1 ::
      ([.lockContext 1, .unlockContext 1, .unlock 1] ++ [.lockSource, .dispatch 1 [], .lockSource]))
    ∀ source ∈ (fdRun 0 twoHandlers).data.sources, source.owner = 7 →
      source ∉ after.data.sources ∧ ((1 : Fin 2) ≠ 0 → after.running ≠ some source.context) ∧
        ∀ move, starting 0 after move ≠ some source.context :=
  unregistered_handlers_stay_silent twoHandlers [.lockContext 1, .unlockContext 1, .unlock 1]
    [.lockSource, .dispatch 1 [], .lockSource] 1 7 (by decide) (by decide)

end Mir.MainLoop

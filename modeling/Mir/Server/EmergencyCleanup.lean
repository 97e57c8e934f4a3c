/-
This file embeds the handlers that are called when the server dies. They are added under a lock, but
run without it, maybe by a signal in the midst of an addition: an item is linked first and counted
afterwards, and a run goes as far as the count that it has read. So it never goes over the end of
the list, and calls in order what had been added when it began.
-/

import Mathlib.Data.List.Basic

namespace Mir.Server

/-- `counted` are the handlers that were counted when the run began. -/
structure CleanupRun (Handler : Type) where
  item : Nat
  handlersLeft : Nat
  called : List Handler
  counted : List Handler

/-- A thread that has the lock has linked `adding`, and not counted it. -/
structure EmergencyCleanup (Handler : Type) where
  items : List Handler
  numHandlers : Nat
  adding : Option Handler
  added : List Handler
  runs : List (CleanupRun Handler)
  overEnd : Bool

inductive CleanupOp (Handler : Type)
  | link (handler : Handler)
  | count
  | begin
  | call (run : Nat)

namespace EmergencyCleanup

variable {Handler : Type}

def initial : EmergencyCleanup Handler := ⟨[], 0, none, [], [], false⟩

variable (cleanup : EmergencyCleanup Handler)

/-- Another thread has to wait for the lock. -/
def link (handler : Handler) : EmergencyCleanup Handler :=
  match cleanup.adding with
  | some _ => cleanup
  | none => { cleanup with items := cleanup.items ++ [handler], adding := some handler }

def count : EmergencyCleanup Handler :=
  { cleanup with
    numHandlers := cleanup.numHandlers + cleanup.adding.toList.length
    added := cleanup.added ++ cleanup.adding.toList
    adding := none }

def begin : EmergencyCleanup Handler :=
  { cleanup with runs := cleanup.runs ++ [⟨0, cleanup.numHandlers, [], cleanup.added⟩] }

def call (place : Nat) : EmergencyCleanup Handler :=
  match cleanup.runs[place]? with
  | some ⟨item, handlersLeft + 1, called, counted⟩ =>
    match cleanup.items[item]? with
    | some handler =>
      let run := ⟨item + 1, handlersLeft, called ++ [handler], counted⟩
      { cleanup with runs := cleanup.runs.set place run }
    | none => { cleanup with overEnd := true }
  | _ => cleanup

def step : CleanupOp Handler → EmergencyCleanup Handler
  | .link handler => cleanup.link handler
  | .count => cleanup.count
  | .begin => cleanup.begin
  | .call place => cleanup.call place

/-- A run has called the first of the handlers that were counted, and is still to call the others. -/
structure OnTheWay (added : List Handler) (run : CleanupRun Handler) : Prop where
  known : run.counted <+: added
  called : run.called = run.counted.take run.item
  left : run.item + run.handlersLeft = run.counted.length

structure Sound : Prop where
  linked : cleanup.items = cleanup.added ++ cleanup.adding.toList
  counted : cleanup.numHandlers = cleanup.added.length
  runs : ∀ run ∈ cleanup.runs, OnTheWay cleanup.added run
  inside : cleanup.overEnd = false

variable {cleanup}

theorem Sound.link (sound : cleanup.Sound) (handler : Handler) : (cleanup.link handler).Sound := by
  unfold EmergencyCleanup.link
  split
  case h_1 => exact sound
  case h_2 free =>
    have linked := sound.linked
    rw [free, Option.toList_none, List.append_nil] at linked
    exact ⟨congrArg (· ++ [handler]) linked, sound.counted, sound.runs, sound.inside⟩

theorem Sound.call (sound : cleanup.Sound) (place : Nat) : (cleanup.call place).Sound := by
  unfold EmergencyCleanup.call
  split
  case h_1 item handlersLeft called counted isAt =>
    obtain ⟨⟨later, known⟩, isCalled, left⟩ := sound.runs _ (List.mem_of_getElem? isAt)
    have inside : item < counted.length := by
      dsimp only at left
      omega
    -- What is linked begins with what was counted.
    have found : cleanup.items[item]? = some counted[item] := by
      rw [sound.linked, ← known, List.append_assoc, List.getElem?_append_left inside,
        List.getElem?_eq_getElem inside]
    rw [found]
    refine ⟨sound.linked, sound.counted, fun run member => ?_, sound.inside⟩
    rcases List.mem_or_eq_of_mem_set member with old | rfl
    · exact sound.runs run old
    · refine ⟨⟨later, known⟩, ?_, (Nat.add_right_comm _ _ _).trans left⟩
      exact (congrArg (· ++ [counted[item]]) isCalled).trans (List.take_append_getElem inside)
  case h_2 => exact sound

theorem Sound.step (sound : cleanup.Sound) (op : CleanupOp Handler) : (cleanup.step op).Sound := by
  cases op with
  | link handler => exact sound.link handler
  | count =>
    refine ⟨sound.linked.trans (List.append_nil _).symm, ?_, fun run member => ?_, sound.inside⟩
    · exact (congrArg (· + _) sound.counted).trans List.length_append.symm
    · obtain ⟨known, called, left⟩ := sound.runs run member
      exact ⟨known.trans (List.prefix_append _ _), called, left⟩
  | begin =>
    refine ⟨sound.linked, sound.counted, fun run member => ?_, sound.inside⟩
    rcases List.mem_append.mp member with old | new
    · exact sound.runs run old
    · rw [List.mem_singleton.mp new]
      exact ⟨List.prefix_rfl, rfl, (Nat.zero_add _).trans sound.counted⟩
  | call place => exact sound.call place

/-- However additions and runs come in between each other, a run finds an item wherever it goes, and
has called what had been added when it began once it is over. -/
theorem handlers_called_in_order (ops : List (CleanupOp Handler)) :
    let after := ops.foldl EmergencyCleanup.step initial
    after.overEnd = false ∧ ∀ run ∈ after.runs, run.called <+: run.counted ∧
      (run.handlersLeft = 0 → run.called = run.counted) := by
  have sound : (ops.foldl EmergencyCleanup.step initial).Sound :=
    List.foldlRecOn ops _ ⟨rfl, rfl, fun _ member => (by cases member), rfl⟩
      fun _ kept op _ => kept.step op
  refine ⟨sound.inside, fun run member => ?_⟩
  obtain ⟨-, called, left⟩ := sound.runs run member
  refine ⟨called ▸ List.take_prefix _ _, fun isOver => ?_⟩
  rw [called, List.take_of_length_le (by omega)]

end EmergencyCleanup

end Mir.Server

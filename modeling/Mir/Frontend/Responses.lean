/-
This file proves that the invocations of a connection are answered. Responses that are sent
at once and closures that are kept are counted together for each invocation: a closure is
there until it is run, and then it has sent its response, unless the processor is gone or
the socket does not take it. An invocation whose method runs its closure or throws gets one
response, unless the method shares its closure and throws an error that the client is to see.
-/

import Mathlib.Data.List.Perm.Basic
import Mir.Frontend.MessageProcessor
import Mir.Library.Transition

namespace Mir.Frontend

open Transition

/-! ### A connection -/

/-- The invocations that were dispatched, the responses sent, those that kept closures will send,
and those that a closure could not send. A response comes with the number of its invocation. -/
structure Connection where
  alive : Bool
  dispatched : List Call
  sent : List (Nat × Response)
  kept : List (Nat × Response)
  lost : List (Nat × Response)

inductive ConnectionStep
  | dispatch (call : Call)
  | runKept (number : Nat) (sender : Response → Option SystemError)
  | release

namespace Connection

def initial : Connection := ⟨true, [], [], [], []⟩

/-- A kept closure deletes itself when it is run. It sends nothing when the processor is gone. -/
def step (connection : Connection) : ConnectionStep → Connection
  | .dispatch call =>
    if connection.alive then
      let number := connection.dispatched.length
      let outcome := call.dispatch.outcome
      { connection with
        dispatched := connection.dispatched ++ [call]
        sent := connection.sent ++ outcome.sent.map (Prod.mk number)
        kept := connection.kept ++ outcome.kept.toList.map (Prod.mk number) }
    else connection
  | .runKept number sender =>
    match connection.kept.find? fun entry => entry.1 = number with
    | none => connection
    | some entry =>
      if connection.alive ∧ sender entry.2 = none then
        { connection with
          kept := connection.kept.erase entry
          sent := connection.sent ++ [entry] }
      else
        { connection with
          kept := connection.kept.erase entry
          lost := connection.lost ++ [entry] }
  | .release => { connection with alive := false }

/-- The ids of the responses for one invocation. -/
def idsFor (number : Nat) (entries : List (Nat × Response)) : List Nat :=
  (entries.filter fun entry => entry.1 = number).map fun entry => entry.2.id

theorem idsFor_append (number : Nat) (first second : List (Nat × Response)) :
    idsFor number (first ++ second) = idsFor number first ++ idsFor number second := by
  simp [idsFor]

theorem idsFor_perm (number : Nat) {first second : List (Nat × Response)}
    (perm : first.Perm second) : (idsFor number first).Perm (idsFor number second) :=
  (perm.filter _).map _

theorem idsFor_own (number : Nat) (responses : List Response) :
    idsFor number (responses.map (Prod.mk number)) = responses.map Response.id := by
  simp [idsFor, List.filter_map, Function.comp_def]

theorem idsFor_eq_nil {number : Nat} {entries : List (Nat × Response)}
    (others : ∀ entry ∈ entries, entry.1 ≠ number) : idsFor number entries = [] := by
  unfold idsFor
  rw [List.map_eq_nil_iff, List.filter_eq_nil_iff]
  intro entry member equal
  exact others entry member (of_decide_eq_true equal)

theorem idsFor_other {number other : Nat} (different : number ≠ other)
    (responses : List Response) : idsFor number (responses.map (Prod.mk other)) = [] := by
  apply idsFor_eq_nil
  intro entry member
  obtain ⟨response, -, rfl⟩ := List.mem_map.mp member
  exact different.symm

/-- The responses that a call gives by itself or by a closure that it keeps are sent, still to be
sent or lost. -/
structure Accounted (connection : Connection) : Prop where
  numbered : ∀ entry ∈ connection.sent ++ connection.kept ++ connection.lost,
    entry.1 < connection.dispatched.length
  settled : ∀ number call, connection.dispatched[number]? = some call →
    (idsFor number (connection.sent ++ connection.kept ++ connection.lost)).Perm
      ((call.dispatch.outcome.sent ++ call.dispatch.outcome.kept.toList).map Response.id)
  keeping : ∀ entry ∈ connection.kept ++ connection.lost, ∀ call,
    connection.dispatched[entry.1]? = some call → call.dispatch.outcome.kept ≠ none

theorem accounted_initial : initial.Accounted where
  numbered entry member := by cases member
  settled number call found := by cases found
  keeping entry member := by cases member

namespace Accounted

variable {connection : Connection}

/-- The responses change places. -/
theorem rearranged (accounted : connection.Accounted) {sent kept lost : List (Nat × Response)}
    (alive : Bool) (perm : (sent ++ kept ++ lost).Perm
      (connection.sent ++ connection.kept ++ connection.lost))
    (subset : ∀ entry ∈ kept ++ lost, entry ∈ connection.kept ++ connection.lost) :
    Accounted ⟨alive, connection.dispatched, sent, kept, lost⟩ where
  numbered entry member := accounted.numbered entry (perm.subset member)
  settled number call found := (idsFor_perm number perm).trans (accounted.settled number call found)
  keeping entry member := accounted.keeping entry (subset entry member)

theorem runKept (accounted : connection.Accounted) (number : Nat)
    (sender : Response → Option SystemError) :
    (connection.step (.runKept number sender)).Accounted := by
  dsimp only [Connection.step]
  split
  · exact accounted
  · rename_i entry found
    have member : entry ∈ connection.kept := List.mem_of_find?_eq_some found
    have taken : (entry :: connection.kept.erase entry).Perm connection.kept :=
      (List.perm_cons_erase member).symm
    split_ifs
    · refine accounted.rearranged _ (.append_right _ ?_) fun other left => ?_
      · rw [List.append_assoc]
        exact taken.append_left connection.sent
      · rcases List.mem_append.mp left with kept | lost
        · exact List.mem_append_left _ (List.mem_of_mem_erase kept)
        · exact List.mem_append_right _ lost
    · have moved : (connection.kept.erase entry ++ (connection.lost ++ [entry])).Perm
          (connection.kept ++ connection.lost) := by
        rw [← List.append_assoc]
        exact (List.perm_append_singleton entry _).trans (taken.append_right connection.lost)
      refine accounted.rearranged _ ?_ fun other left => moved.subset left
      rw [List.append_assoc, List.append_assoc]
      exact moved.append_left connection.sent

theorem dispatched_cases {calls : List Call} {call other : Call} {number : Nat}
    (found : (calls ++ [call])[number]? = some other) :
    number < calls.length ∧ calls[number]? = some other ∨ number = calls.length ∧ other = call := by
  rcases Nat.lt_or_ge number calls.length with old | new
  · rw [List.getElem?_append_left old] at found
    exact .inl ⟨old, found⟩
  · rw [List.getElem?_append_right new, List.getElem?_singleton] at found
    split_ifs at found with zero
    · exact .inr ⟨by omega, (Option.some.inj found).symm⟩

/-- The responses of a new call come at the end, under a number that is not used yet. -/
theorem dispatch_perm (connection : Connection) (call : Call) (number : Nat) :
    (connection.sent ++ call.dispatch.outcome.sent.map (Prod.mk number) ++
        (connection.kept ++ call.dispatch.outcome.kept.toList.map (Prod.mk number)) ++
          connection.lost).Perm
      (connection.sent ++ connection.kept ++ connection.lost ++
        (call.dispatch.outcome.sent ++ call.dispatch.outcome.kept.toList).map
          (Prod.mk number)) := by
  rw [List.perm_iff_count]
  intro entry
  simp only [List.map_append, List.count_append]
  omega

theorem dispatch (accounted : connection.Accounted) (call : Call) :
    (connection.step (.dispatch call)).Accounted := by
  dsimp only [Connection.step]
  split_ifs with alive
  · have perm := dispatch_perm connection call connection.dispatched.length
    refine ⟨fun entry member => ?_, fun number other found => ?_,
      fun entry member other found => ?_⟩
    · rw [List.length_append, List.length_singleton]
      rcases List.mem_append.mp (perm.subset member) with before | added
      · exact Nat.lt_succ_of_lt (accounted.numbered entry before)
      · obtain ⟨response, -, rfl⟩ := List.mem_map.mp added
        exact Nat.lt_succ_self _
    · refine (idsFor_perm number perm).trans ?_
      rw [idsFor_append]
      rcases dispatched_cases found with ⟨old, before⟩ | ⟨rfl, rfl⟩
      · rw [idsFor_other (Nat.ne_of_lt old), List.append_nil]
        exact accounted.settled number other before
      · rw [idsFor_eq_nil fun entry member => Nat.ne_of_lt (accounted.numbered entry member),
          idsFor_own, List.nil_append]
    · rcases dispatched_cases found with ⟨old, before⟩ | ⟨last, rfl⟩
      · apply accounted.keeping entry _ other before
        simp only [List.mem_append, List.mem_map] at member ⊢
        rcases member with (kept | ⟨response, -, rfl⟩) | lost
        · exact .inl kept
        · exact absurd old (Nat.lt_irrefl _)
        · exact .inr lost
      · intro notKept
        rw [notKept, Option.toList_none, List.map_nil, List.append_nil] at member
        have bound := accounted.numbered entry (by
          rw [List.append_assoc]
          exact List.mem_append_right _ member)
        exact Nat.ne_of_lt bound last
  · exact accounted

theorem step (accounted : connection.Accounted) (label : ConnectionStep) :
    (connection.step label).Accounted := by
  cases label with
  | dispatch call => exact accounted.dispatch call
  | runKept number sender => exact accounted.runKept number sender
  | release => exact accounted.rearranged false (List.Perm.refl _) fun _ member => member

end Accounted

/-- In every run, each invocation that is passed to a method that runs its closure or throws, and
for which `dispatch` returns true, is answered by one response with its id, exactly if the error of
a shared closure was not swallowed. A kept closure sends one response, or has still to send it, or
was run in vain. -/
theorem invocations_are_answered_once {connection : Connection}
    (reached : Reaches step (fun _ _ => True) initial connection) {number : Nat} {call : Call}
    (dispatched : connection.dispatched[number]? = some call)
    (result : call.dispatch.result = true) :
    (call.RunsOrThrows →
      (idsFor number connection.sent = [call.invocation.id] ↔ ¬ call.Swallowed)) ∧
    (call.Keeps → idsFor number (connection.sent ++ connection.kept ++ connection.lost) =
      [call.invocation.id]) := by
  have accounted : connection.Accounted := reached.invariant accounted_initial
    fun _ label accounted _ => accounted.step label
  have settled := accounted.settled number call dispatched
  refine ⟨fun runsOrThrows => ?_, fun keeps => ?_⟩
  · obtain ⟨notKept, answers⟩ := call.dispatch_answers result runsOrThrows
    have noClosure : idsFor number (connection.kept ++ connection.lost) = [] := by
      apply idsFor_eq_nil
      rintro entry member rfl
      exact accounted.keeping entry member call dispatched notKept
    rw [List.append_assoc, idsFor_append, noClosure, List.append_nil, notKept, Option.toList_none,
      List.append_nil] at settled
    rw [← answers]
    constructor
    · intro once
      rw [once] at settled
      exact List.perm_singleton.mp settled.symm
    · intro once
      rw [once] at settled
      exact List.perm_singleton.mp settled
  · obtain ⟨message, outcome⟩ := call.dispatch_keeps keeps
    rw [outcome] at settled
    exact List.perm_singleton.mp settled

/-- A call whose parameters are parsed and whose responses are taken. -/
def callOf (id : Nat) (methodName : String) (action : HandlerAction) : Call where
  invocation := ⟨id, methodName, ""⟩
  sideChannelFds := []
  parseFromString _ _ := some ⟨0, []⟩
  handler _ _ := action
  sender _ := none

def result : ResultMessage := ⟨1, none, none⟩

def clientVisible : Exception := ⟨.clientVisibleError 0 1, "not authorized", "not authorized"⟩

/-- Three invocations: one is answered by its method, one by its error and one by a closure that
was kept. -/
def threeInvocations : List ConnectionStep :=
  [.dispatch (callOf 1 "submit_buffer" (.keeps result)),
    .dispatch (callOf 2 "configure_display" (.throws result clientVisible)),
    .dispatch (callOf 3 "pong" (.runs result)), .runKept 0 fun _ => none]

theorem threeInvocations_answered :
    let connection := threeInvocations.foldl step initial
    idsFor 1 connection.sent = [2] ∧
      idsFor 0 (connection.sent ++ connection.kept ++ connection.lost) = [1] := by
  have reached : Reaches step (fun _ _ => True) initial (threeInvocations.foldl step initial) :=
    Reaches.start.foldl threeInvocations (by decide)
  have configured : (threeInvocations.foldl step initial).dispatched[1]? =
      some (callOf 2 "configure_display" (.throws result clientVisible)) := rfl
  have submitted : (threeInvocations.foldl step initial).dispatched[0]? =
      some (callOf 1 "submit_buffer" (.keeps result)) := rfl
  have runsOrThrows : (callOf 2 "configure_display" (.throws result clientVisible)).RunsOrThrows :=
    show clientVisible.kind ≠ .securityCheckError by decide
  have notSwallowed : ¬ (callOf 2 "configure_display" (.throws result clientVisible)).Swallowed :=
    show ¬ (Method.configureDisplay.sharesClosure = true ∧ _) by decide
  have keeps : (callOf 1 "submit_buffer" (.keeps result)).Keeps :=
    show Method.submitBuffer.sharesClosure = true from rfl
  exact ⟨((invocations_are_answered_once reached configured (by decide)).1 runsOrThrows).mpr
      notSwallowed,
    (invocations_are_answered_once reached submitted (by decide)).2 keeps⟩

/-- A buffer is submitted and the client is to see that this failed. -/
def failingSubmission : Call := callOf 1 "submit_buffer" (.throws result clientVisible)

/-- Nothing is sent for it. -/
theorem client_visible_error_is_swallowed :
    ¬ ∀ connection, Reaches step (fun _ _ => True) initial connection →
      ∀ (number : Nat) (call : Call), connection.dispatched[number]? = some call →
        call.dispatch.result = true → call.RunsOrThrows →
          idsFor number connection.sent = [call.invocation.id] := by
  intro claimed
  have runsOrThrows : failingSubmission.RunsOrThrows :=
    show clientVisible.kind ≠ .securityCheckError by decide
  have answered := claimed _ (Reaches.start.foldl [.dispatch failingSubmission] (by decide)) 0
    failingSubmission rfl (by decide) runsOrThrows
  revert answered
  decide

end Connection

end Mir.Frontend

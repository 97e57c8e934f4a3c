/-
This file embeds the creation of a client's buffer: the session has the buffer made by the
allocator, the session's map of buffers takes it in, and the client is told, of the buffer or of the
error, through the sender of events. Each step may throw; what was changed before stays.
-/

import Mir.Compositor.Schedule
import Mir.Geometry.Rectangle
import Mir.Library.OrderedMap
import Mir.Library.Throwing

namespace Mir.Scene

open Compositor (BufferID Owner)
open Throwing

/-- What a step throws: an exception of the standard library, with its text, or anything else. -/
inductive Thrown
  | standard (what : String)
  | other
  deriving DecidableEq, Repr

structure ClientBuffer where
  id : BufferID
  size : Geometry.Size
  format : Int
  deriving DecidableEq, Repr

/-- The three ways to ask for a buffer. -/
inductive BufferRequest
  | properties (size : Geometry.Size) (format usage : Int)
  | software (size : Geometry.Size) (format : Int)
  | native (size : Geometry.Size) (nativeFormat nativeFlags : BitVec 32)
  deriving DecidableEq, Repr

/-- The size and the format that an error of the session names. -/
def BufferRequest.size : BufferRequest → Geometry.Size
  | properties size _ _ => size
  | software size _ => size
  | native size _ _ => size

def BufferRequest.format : BufferRequest → Int
  | properties _ format _ => format
  | software _ format => format
  | native _ nativeFormat _ => nativeFormat.toNat

inductive BufferMessage
  | addBuffer (id : BufferID)
  | errorBuffer (size : Geometry.Size) (error : String)
  deriving DecidableEq, Repr

structure BufferEntry where
  buffer : ClientBuffer
  owner : Owner
  deriving DecidableEq, Repr

/-- The session's buffers, the messages that went out, and how many were to be sent so far. -/
structure BufferSession where
  buffers : OrderedMap BufferID BufferEntry
  sent : List BufferMessage
  sends : Nat

/-- What the steps outside the session do: the allocator, the allocation of a node of the map, the
packing of a buffer into a message, and each sending of a message in its turn. -/
structure Circumstances where
  allocate : BufferRequest → Except Thrown ClientBuffer
  insert : Option Thrown
  pack : ClientBuffer → Option Thrown
  send : Nat → Option Thrown

/-- A step of the session, which keeps its changes when it throws. -/
abbrev SessionStep := Throwing BufferSession Thrown

/-! ### The sender of events -/

/-- An exception of the standard library is dropped, and its message with it. -/
def sendEventSequence (circumstances : Circumstances) (message : BufferMessage) :
    SessionStep Unit := do
  let session ← readState
  change fun session => { session with sends := session.sends + 1 }
  match circumstances.send session.sends with
  | none => change fun session => { session with sent := session.sent ++ [message] }
  | some (.standard _) => pure ()
  | some .other => throwing .other

def EventSender.addBuffer (circumstances : Circumstances) (buffer : ClientBuffer) :
    SessionStep Unit :=
  match circumstances.pack buffer with
  | some thrown => throwing thrown
  | none => sendEventSequence circumstances (.addBuffer buffer.id)

/-- The format is not sent. -/
def EventSender.errorBuffer (circumstances : Circumstances) (size : Geometry.Size) (_format : Int)
    (error : String) : SessionStep Unit :=
  sendEventSequence circumstances (.errorBuffer size error)

/-! ### The session -/

/-- Reports an exception of the standard library to the client, and throws it again. -/
def reportingErrors {Value : Type} (circumstances : Circumstances) (size : Geometry.Size)
    (format : Int) (body : SessionStep Value) : SessionStep Value :=
  body.handling fun thrown => do
    match thrown with
    | .standard what => EventSender.errorBuffer circumstances size format what
    | .other => pure ()
    throwing thrown

def insertBuffer (circumstances : Circumstances) (buffer : ClientBuffer) : SessionStep Unit :=
  match circumstances.insert with
  | some thrown => throwing thrown
  | none => change fun session =>
    { session with buffers := session.buffers.set buffer.id ⟨buffer, .client⟩ }

/-- What the map does inside its handler. -/
def BufferMap.insertAndTell (circumstances : Circumstances) (buffer : ClientBuffer) :
    SessionStep BufferID := do
  insertBuffer circumstances buffer
  EventSender.addBuffer circumstances buffer
  return buffer.id

def BufferMap.addBuffer (circumstances : Circumstances) (buffer : ClientBuffer) :
    SessionStep BufferID :=
  reportingErrors circumstances buffer.size buffer.format
    (BufferMap.insertAndTell circumstances buffer)

def createBuffer (circumstances : Circumstances) (request : BufferRequest) :
    SessionStep BufferID :=
  reportingErrors circumstances request.size request.format do
    let buffer ← ofExcept (circumstances.allocate request)
    BufferMap.addBuffer circumstances buffer

/-! ### What the client is told -/

def BufferMessage.isError : BufferMessage → Bool
  | addBuffer _ => false
  | errorBuffer _ _ => true

/-- One message went out, and with an error the buffers are the same. -/
def ReportsOnce (before after : BufferSession) : Prop :=
  ∃ message, after.sent = before.sent ++ [message] ∧
    (message.isError = true → after.buffers = before.buffers)

/-- Of the next two messages exactly one goes out, where the second is tried only if the first did
not throw through the sender. -/
def Circumstances.OneOfTwoGoesOut (circumstances : Circumstances) (sends : Nat) : Prop :=
  match circumstances.send sends with
  | none => circumstances.send (sends + 1) ≠ none
  | some (.standard _) => circumstances.send (sends + 1) = none
  | some .other => False

/-- The circumstances in which a request is answered as it should be. An allocator that throws is
reported once; a failure of the map or of the packing is reported twice, and after the latter the
buffer stays in the map. -/
def Circumstances.Suit (circumstances : Circumstances) (request : BufferRequest)
    (session : BufferSession) : Prop :=
  match circumstances.allocate request with
  | .error (.standard _) => circumstances.send session.sends = none
  | .error .other => False
  | .ok buffer =>
    match circumstances.insert, circumstances.pack buffer with
    | none, none => circumstances.send session.sends = none
    | none, some (.standard _) =>
      circumstances.OneOfTwoGoesOut session.sends ∧
        session.buffers.set buffer.id ⟨buffer, .client⟩ = session.buffers
    | some (.standard _), _ => circumstances.OneOfTwoGoesOut session.sends
    | some .other, _ | none, some .other => False

variable {circumstances : Circumstances} {session : BufferSession}

/-- The session after a message was to be sent. -/
def afterSend (circumstances : Circumstances) (message : BufferMessage)
    (session : BufferSession) : BufferSession :=
  { session with
    sends := session.sends + 1
    sent := if circumstances.send session.sends = none then session.sent ++ [message]
      else session.sent }

theorem sendEventSequence_run (message : BufferMessage) :
    (sendEventSequence circumstances message).run session =
      (if circumstances.send session.sends = some .other then .error .other else .ok (),
        afterSend circumstances message session) := by
  rw [sendEventSequence, run_bind_ok _ (run_readState session), run_bind_ok _ (run_change _ _),
    afterSend]
  rcases circumstances.send session.sends with - | - | - <;> simp

/-- An exception of the standard library is reported, unless the report itself throws. -/
theorem reportingErrors_run_standard {Value : Type} {body : SessionStep Value} {what : String}
    {after : BufferSession} (size : Geometry.Size) (format : Int)
    (throws : body.run session = (.error (.standard what), after)) :
    (reportingErrors circumstances size format body).run session =
      (.error (if circumstances.send after.sends = some .other then .other else .standard what),
        afterSend circumstances (.errorBuffer size what) after) := by
  rw [reportingErrors, run_handling_error _ throws, run_bind]
  dsimp only [EventSender.errorBuffer]
  rw [sendEventSequence_run]
  split_ifs <;> rfl

theorem reportingErrors_run_other {Value : Type} {body : SessionStep Value}
    {after : BufferSession} (size : Geometry.Size) (format : Int)
    (throws : body.run session = (.error .other, after)) :
    (reportingErrors circumstances size format body).run session = (.error .other, after) := by
  rw [reportingErrors, run_handling_error _ throws]
  rfl

theorem reportingErrors_run_ok {Value : Type} {body : SessionStep Value} {value : Value}
    {after : BufferSession} (size : Geometry.Size) (format : Int)
    (gives : body.run session = (.ok value, after)) :
    (reportingErrors circumstances size format body).run session = (.ok value, after) :=
  run_handling_ok _ gives

/-- One message was to be sent. -/
theorem reportsOnce_afterSend_iff {message : BufferMessage} {before : BufferSession}
    (same : session.sent = before.sent) :
    ReportsOnce before (afterSend circumstances message session) ↔
      circumstances.send session.sends = none ∧
        (message.isError = true → session.buffers = before.buffers) := by
  unfold ReportsOnce afterSend
  by_cases goesOut : circumstances.send session.sends = none
  · simp [goesOut, same]
  · simp [goesOut, same]

/-- Two errors were to be sent, the second unless the first threw through the sender. -/
theorem reportsOnce_twice_iff {first second : BufferMessage} {before : BufferSession}
    (isError : first.isError = true) (alsoError : second.isError = true)
    (same : session.sent = before.sent) :
    ReportsOnce before
        (if circumstances.send session.sends = some .other then
          afterSend circumstances first session
        else afterSend circumstances second (afterSend circumstances first session)) ↔
      circumstances.OneOfTwoGoesOut session.sends ∧ session.buffers = before.buffers := by
  unfold ReportsOnce afterSend Circumstances.OneOfTwoGoesOut
  rcases circumstances.send session.sends with - | - | - <;>
    rcases circumstances.send (session.sends + 1) with - | later <;>
      simp [same, isError, alsoError]

/-! ### The creation of a buffer -/

section Creation

variable {request : BufferRequest} {buffer : ClientBuffer} {after : BufferSession}

/-- The session once the map has taken a buffer in. -/
def BufferSession.holding (session : BufferSession) (buffer : ClientBuffer) : BufferSession :=
  { session with buffers := session.buffers.set buffer.id ⟨buffer, .client⟩ }

theorem insertBuffer_run :
    (insertBuffer circumstances buffer).run session =
      match circumstances.insert with
      | some thrown => (.error thrown, session)
      | none => (.ok (), session.holding buffer) := by
  unfold insertBuffer
  cases circumstances.insert <;> rfl

theorem addBuffer_run :
    (EventSender.addBuffer circumstances buffer).run session =
      match circumstances.pack buffer with
      | some thrown => (.error thrown, session)
      | none => (sendEventSequence circumstances (.addBuffer buffer.id)).run session := by
  unfold EventSender.addBuffer
  cases circumstances.pack buffer <;> rfl

theorem createBuffer_run_allocated (allocated : circumstances.allocate request = .ok buffer) :
    (createBuffer circumstances request).run session =
      (reportingErrors circumstances request.size request.format
        (BufferMap.addBuffer circumstances buffer)).run session := by
  rw [createBuffer, allocated]
  rfl

theorem createBuffer_run_unallocated {thrown : Thrown}
    (failed : circumstances.allocate request = .error thrown) :
    (createBuffer circumstances request).run session =
      (reportingErrors circumstances request.size request.format
        (throwing thrown)).run session := by
  rw [createBuffer, failed]
  rfl

/-- What the map's handler reports, the session's handler reports again. -/
theorem createBuffer_run_standard {what : String}
    (allocated : circumstances.allocate request = .ok buffer)
    (throws : (BufferMap.insertAndTell circumstances buffer).run session =
      (.error (.standard what), after)) :
    ((createBuffer circumstances request).run session).2 =
      if circumstances.send after.sends = some .other then
        afterSend circumstances (.errorBuffer buffer.size what) after
      else
        afterSend circumstances (.errorBuffer request.size what)
          (afterSend circumstances (.errorBuffer buffer.size what) after) := by
  have reported := @reportingErrors_run_standard circumstances _ _ _ _ _ buffer.size
    buffer.format throws
  rw [createBuffer_run_allocated allocated, BufferMap.addBuffer]
  by_cases lost : circumstances.send after.sends = some .other
  · rw [if_pos lost] at reported
    rw [if_pos lost, reportingErrors_run_other _ _ reported]
  · rw [if_neg lost] at reported
    rw [if_neg lost, reportingErrors_run_standard _ _ reported]

theorem createBuffer_run_other (allocated : circumstances.allocate request = .ok buffer)
    (throws : (BufferMap.insertAndTell circumstances buffer).run session =
      (.error .other, after)) :
    (createBuffer circumstances request).run session = (.error .other, after) := by
  rw [createBuffer_run_allocated allocated]
  exact reportingErrors_run_other _ _ (reportingErrors_run_other _ _ throws)

theorem createBuffer_run_ok {id : BufferID}
    (allocated : circumstances.allocate request = .ok buffer)
    (gives : (BufferMap.insertAndTell circumstances buffer).run session = (.ok id, after)) :
    (createBuffer circumstances request).run session = (.ok id, after) := by
  rw [createBuffer_run_allocated allocated]
  exact reportingErrors_run_ok _ _ (reportingErrors_run_ok _ _ gives)

theorem not_reportsOnce_of_sent_eq (same : after.sent = session.sent) :
    ¬ReportsOnce session after := by
  rintro ⟨message, sent, -⟩
  exact absurd (same.symm.trans sent) (by simp)

/-- What the map does, by what fails. -/
theorem insertAndTell_run :
    (BufferMap.insertAndTell circumstances buffer).run session =
      match circumstances.insert, circumstances.pack buffer with
      | some thrown, _ => (.error thrown, session)
      | none, some thrown => (.error thrown, session.holding buffer)
      | none, none =>
        (if circumstances.send session.sends = some .other then .error .other else .ok buffer.id,
          afterSend circumstances (.addBuffer buffer.id) (session.holding buffer)) := by
  have inserted := @insertBuffer_run circumstances session buffer
  have told := @addBuffer_run circumstances (session.holding buffer) buffer
  rw [BufferMap.insertAndTell]
  cases insertion : circumstances.insert with
  | some thrown =>
    rw [insertion] at inserted
    exact run_bind_error _ inserted
  | none =>
    rw [insertion] at inserted
    rw [run_bind_ok _ inserted]
    cases packing : circumstances.pack buffer with
    | some thrown =>
      rw [packing] at told
      exact run_bind_error _ told
    | none =>
      rw [packing, sendEventSequence_run] at told
      dsimp only at told ⊢
      by_cases lost : circumstances.send session.sends = some .other
      · rw [if_pos (show circumstances.send (session.holding buffer).sends = _ from lost)] at told
        rw [if_pos lost]
        exact run_bind_error _ told
      · rw [if_neg (show circumstances.send (session.holding buffer).sends ≠ _ from lost)] at told
        rw [if_neg lost]
        exact run_bind_ok _ told

/-- A buffer that was allocated. -/
theorem reportsOnce_allocated_iff (allocated : circumstances.allocate request = .ok buffer) :
    ReportsOnce session ((createBuffer circumstances request).run session).2 ↔
      circumstances.Suit request session := by
  have told := @insertAndTell_run circumstances session buffer
  simp only [Circumstances.Suit, allocated]
  cases insertion : circumstances.insert with
  | some thrown =>
    rw [insertion] at told
    cases thrown with
    | standard what =>
      rw [createBuffer_run_standard allocated told, reportsOnce_twice_iff rfl rfl rfl]
      exact and_iff_left rfl
    | other =>
      rw [createBuffer_run_other allocated told]
      exact iff_of_false (not_reportsOnce_of_sent_eq rfl) id
  | none =>
    rw [insertion] at told
    cases packing : circumstances.pack buffer with
    | some thrown =>
      rw [packing] at told
      cases thrown with
      | standard what =>
        rw [createBuffer_run_standard allocated told]
        exact reportsOnce_twice_iff rfl rfl rfl
      | other =>
        rw [createBuffer_run_other allocated told]
        exact iff_of_false (not_reportsOnce_of_sent_eq rfl) id
    | none =>
      rw [packing] at told
      dsimp only at told
      have reported : ReportsOnce session (afterSend circumstances (.addBuffer buffer.id)
          (session.holding buffer)) ↔ circumstances.send session.sends = none := by
        have once := @reportsOnce_afterSend_iff circumstances (session.holding buffer)
          (.addBuffer buffer.id) session rfl
        exact once.trans (and_iff_left nofun)
      by_cases lost : circumstances.send session.sends = some .other
      · rw [if_pos lost] at told
        rw [createBuffer_run_other allocated told]
        exact reported
      · rw [if_neg lost] at told
        rw [createBuffer_run_ok allocated told]
        exact reported

/-- A request is answered by one message, with the map as it was if that is an error, exactly in
the circumstances that suit. -/
theorem createBuffer_reportsOnce_iff (circumstances : Circumstances) (request : BufferRequest)
    (session : BufferSession) :
    ReportsOnce session ((createBuffer circumstances request).run session).2 ↔
      circumstances.Suit request session := by
  cases allocation : circumstances.allocate request with
  | ok buffer => exact reportsOnce_allocated_iff allocation
  | error thrown =>
    simp only [Circumstances.Suit, allocation]
    rw [createBuffer_run_unallocated allocation]
    cases thrown with
    | standard what =>
      rw [reportingErrors_run_standard _ _ (run_throwing _ session)]
      rw [reportsOnce_afterSend_iff rfl]
      exact and_iff_left fun _ => rfl
    | other =>
      rw [reportingErrors_run_other _ _ (run_throwing _ session)]
      exact iff_of_false (not_reportsOnce_of_sent_eq rfl) id

end Creation

/-- The packing of a buffer fails: the client is told of two errors, and the buffer stays. -/
theorem createBuffer_reports_twice :
    let buffer : ClientBuffer := ⟨7, ⟨640, 480⟩, 1⟩
    let circumstances : Circumstances :=
      ⟨fun _ => .ok buffer, none, fun _ => some (.standard "could not convert NativeBuffer"),
        fun _ => none⟩
    let before : BufferSession := ⟨.empty, [], 0⟩
    let after := ((createBuffer circumstances (.properties ⟨640, 480⟩ 1 1)).run before).2
    ¬ReportsOnce before after ∧
      after.sent = List.replicate 2 (.errorBuffer ⟨640, 480⟩ "could not convert NativeBuffer") ∧
      after.buffers.entries = [(7, ⟨buffer, .client⟩)] := by
  refine ⟨?_, by decide⟩
  rintro ⟨message, sent, -⟩
  have lengths : 2 = 1 := congrArg List.length sent
  cases lengths

end Mir.Scene

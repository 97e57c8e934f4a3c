/-
This file embeds the way of results and events from the server to a client. The descriptors of a
response are taken out of it, and the response says how many there are; the messenger writes size
and body under a lock, and a byte for each set of descriptors that is not empty. The client reads
the size, the body and, where the messages in the body say so, the descriptors: for events as they
are processed, and for a response after the call that waits for it has told what type it is of.
-/

import Mir.Frontend.InvocationStream

namespace Mir.Frontend.ResultStream

open SideChannel (Link Message Op Protocol Receiver)
open InvocationStream (FileDescriptor)

/-! ### Messages that descriptors go with -/

/-- The part of a message that descriptors go with, and all else in it. -/
structure Carrier where
  data : List UInt8
  fd : List FileDescriptor
  fdsOnSideChannel : Option Int
  deriving DecidableEq

/-- A buffer stream, which may have a buffer. -/
structure BufferStream where
  data : List UInt8
  buffer : Option Carrier
  deriving DecidableEq

/-- The types of the responses, as far as the client tells them apart. -/
inductive ResponseType
  | buffer
  | bufferStream
  | surface
  | screencast
  | platform
  | connection
  | socketFD
  | platformOperationMessage
  | other
  deriving DecidableEq

inductive Response
  | buffer (buffer : Carrier)
  | bufferStream (stream : BufferStream)
  | surface (surface : Carrier) (bufferStream : Option BufferStream)
  | screencast (data : List UInt8) (bufferStream : Option BufferStream)
  | platform (platform : Carrier)
  | connection (data : List UInt8) (platform : Option Carrier)
  | socketFD (socketFd : Carrier)
  | platformOperationMessage (message : Carrier)
  | other (data : List UInt8)
  deriving DecidableEq

def Response.type : Response → ResponseType
  | buffer _ => .buffer
  | bufferStream _ => .bufferStream
  | surface _ _ => .surface
  | screencast _ _ => .screencast
  | platform _ => .platform
  | connection _ _ => .connection
  | socketFD _ => .socketFD
  | platformOperationMessage _ => .platformOperationMessage
  | other _ => .other

/-- What the methods of the display server answer with. -/
def responseType (methodName : String) : ResponseType :=
  if methodName = "connect" then .connection
  else if methodName = "create_surface" then .surface
  else if methodName = "platform_operation" then .platformOperationMessage
  else if methodName = "create_screencast" then .screencast
  else if methodName = "screencast_buffer" then .buffer
  else if methodName = "create_buffer_stream" then .bufferStream
  else if methodName = "new_fds_for_prompt_providers" then .socketFD
  else .other

/-- A sequence of events. A request about a buffer has the buffer in it. -/
structure EventSequence where
  data : List UInt8
  buffer : Option Carrier
  deriving DecidableEq

structure WireResult where
  id : Option UInt32
  response : Option (List UInt8)
  events : List (List UInt8)
  deriving DecidableEq

/-- How the messages are written and read. -/
structure Codec where
  serializeResponse : Response → List UInt8
  parseResponse : ResponseType → List UInt8 → Response
  serializeEvents : EventSequence → List UInt8
  parseEvents : List UInt8 → EventSequence
  serializeResult : WireResult → List UInt8
  parseResult : List UInt8 → WireResult

/-! ### The server -/

namespace Carrier

/-- The descriptors are taken out, and their number is noted. -/
def extractFdsFrom (carrier : Carrier) : Carrier :=
  { carrier with fd := [], fdsOnSideChannel := some carrier.fd.length }

/-- A buffer that nothing has been set of. -/
def empty : Carrier := ⟨[], [], none⟩

end Carrier

/-- The response as it is sent, and the descriptors that go with it. The buffer of a screencast is
looked up so that it is there if it was not. A platform is not what a method answers with. -/
def Response.extract : Response → Response × List (List FileDescriptor)
  | .buffer carrier => (.buffer carrier.extractFdsFrom, [carrier.fd])
  | .bufferStream ⟨data, some carrier⟩ =>
    (.bufferStream ⟨data, some carrier.extractFdsFrom⟩, [carrier.fd])
  | .bufferStream ⟨data, none⟩ => (.bufferStream ⟨data, none⟩, [])
  | .surface carrier (some ⟨data, some inner⟩) =>
    (.surface carrier.extractFdsFrom (some ⟨data, some inner.extractFdsFrom⟩),
      [carrier.fd, inner.fd])
  | .surface carrier stream => (.surface carrier.extractFdsFrom stream, [carrier.fd])
  | .screencast data (some stream) =>
    let carrier := stream.buffer.getD .empty
    (.screencast data (some ⟨stream.data, some carrier.extractFdsFrom⟩), [carrier.fd])
  | .screencast data none => (.screencast data none, [])
  | .platform carrier => (.platform carrier, [])
  | .connection data (some carrier) =>
    (.connection data (some carrier.extractFdsFrom), [carrier.fd])
  | .connection data none => (.connection data none, [])
  | .socketFD carrier => (.socketFD carrier.extractFdsFrom, [carrier.fd])
  | .platformOperationMessage carrier =>
    (.platformOperationMessage carrier.extractFdsFrom, [carrier.fd])
  | .other data => (.other data, [])

/-- What the server says: it answers a call, sends something about a buffer, whose descriptors stay
in the message, or sends other events, at most with an erroneous buffer. -/
inductive ServerMessage
  | answer (id : UInt32) (response : Response)
  | sendBuffer (data : List UInt8) (buffer : Carrier)
  | sendEventSequence (data : List UInt8) (errorBuffer : Option (List UInt8))
  deriving DecidableEq

/-- No byte is sent for a set without descriptors. -/
def sendFds (fdSets : List (List FileDescriptor)) : List (List FileDescriptor) :=
  fdSets.filter fun fds => !fds.isEmpty

/-- The events of a message about a buffer: the message says how many descriptors the buffer has,
and keeps them. -/
def bufferEvents (data : List UInt8) (buffer : Carrier) : EventSequence :=
  ⟨data, some { buffer with fdsOnSideChannel := some buffer.fd.length }⟩

def otherEvents (data : List UInt8) (errorBuffer : Option (List UInt8)) : EventSequence :=
  ⟨data, errorBuffer.map fun data => ⟨data, [], none⟩⟩

namespace ServerMessage

/-- The events that are sent, which are not sent with an answer. -/
def events : ServerMessage → List EventSequence
  | answer _ _ => []
  | sendBuffer data buffer => [bufferEvents data buffer]
  | sendEventSequence data errorBuffer => [otherEvents data errorBuffer]

def responses : ServerMessage → List Response
  | answer _ response => [response]
  | _ => []

def result (codec : Codec) (said : ServerMessage) : WireResult :=
  match said with
  | answer id response => ⟨some id, some (codec.serializeResponse response.extract.1), []⟩
  | _ => ⟨none, none, said.events.map codec.serializeEvents⟩

def fdSets : ServerMessage → List (List FileDescriptor)
  | answer _ response => response.extract.2
  | sendBuffer _ buffer => [buffer.fd]
  | sendEventSequence _ _ => []

/-- What is written. -/
def message (codec : Codec) (said : ServerMessage) : Message FileDescriptor :=
  ⟨codec.serializeResult (said.result codec), sendFds said.fdSets⟩

end ServerMessage

/-! ### The client -/

namespace Carrier

/-- How many descriptors the message says go with it. -/
def expected (carrier : Carrier) : Nat := (carrier.fdsOnSideChannel.getD 0).toNat

/-- The numbers of the sets of descriptors to be read, which is one or none. -/
def sizes (carrier : Carrier) : List Nat :=
  if 0 < carrier.expected then [carrier.expected] else []

/-- `receive_any_file_descriptors_for`: the descriptors are put in, and how many they were is
forgotten. -/
def receiveAnyFileDescriptors (carrier : Carrier) (sets : List (List FileDescriptor)) : Carrier :=
  { carrier with
    fd := if 0 < carrier.expected then sets.headD [] else []
    fdsOnSideChannel := none }

/-- The descriptors of a buffer that an event is about. -/
def receiveForEvent (carrier : Carrier) (sets : List (List FileDescriptor)) : Carrier :=
  if 0 < carrier.expected then { carrier with fd := sets.headD [] } else carrier

/-- The sets that are left for what comes after. -/
def rest (carrier : Carrier) (sets : List (List FileDescriptor)) : List (List FileDescriptor) :=
  sets.drop carrier.sizes.length

end Carrier

def BufferStream.receiveAnyFileDescriptors (sets : List (List FileDescriptor))
    (stream : BufferStream) : BufferStream :=
  { stream with
    buffer := stream.buffer.map fun carrier => carrier.receiveAnyFileDescriptors sets }

namespace Response

/-- The parts of the response that are asked for descriptors, in this order. -/
def carriers : Response → List Carrier
  | .buffer carrier => [carrier]
  | .bufferStream stream => stream.buffer.toList
  | .surface carrier stream => carrier :: (stream.bind BufferStream.buffer).toList
  | .screencast _ stream => (stream.bind BufferStream.buffer).toList
  | .platform carrier => [carrier]
  | .connection _ carrier => carrier.toList
  | .socketFD carrier => [carrier]
  | .platformOperationMessage carrier => [carrier]
  | .other _ => []

def sizes (response : Response) : List Nat := response.carriers.flatMap Carrier.sizes

/-- `receive_file_descriptors` -/
def receiveFileDescriptors (sets : List (List FileDescriptor)) : Response → Response
  | .buffer carrier => .buffer (carrier.receiveAnyFileDescriptors sets)
  | .bufferStream stream => .bufferStream (stream.receiveAnyFileDescriptors sets)
  | .surface carrier stream =>
    .surface (carrier.receiveAnyFileDescriptors sets) <|
      stream.map fun stream => stream.receiveAnyFileDescriptors (carrier.rest sets)
  | .screencast data stream =>
    .screencast data (stream.map fun stream => stream.receiveAnyFileDescriptors sets)
  | .platform carrier => .platform (carrier.receiveAnyFileDescriptors sets)
  | .connection data carrier =>
    .connection data (carrier.map fun carrier => carrier.receiveAnyFileDescriptors sets)
  | .socketFD carrier => .socketFD (carrier.receiveAnyFileDescriptors sets)
  | .platformOperationMessage carrier =>
    .platformOperationMessage (carrier.receiveAnyFileDescriptors sets)
  | .other data => .other data

end Response

namespace EventSequence

def sizes (sequence : EventSequence) : List Nat := sequence.buffer.toList.flatMap Carrier.sizes

def receive (sets : List (List FileDescriptor)) (sequence : EventSequence) : EventSequence :=
  { sequence with buffer := sequence.buffer.map fun buffer => buffer.receiveForEvent sets }

end EventSequence

/-- What the client does: it processes events, completes a call, or reports that a result was for no
call. -/
inductive ClientAction
  | processed (sequence : EventSequence)
  | completed (id : UInt32) (response : Response)
  | failed (id : UInt32)
  deriving DecidableEq

/-- A result for a call that is pending completes it. -/
def ClientAction.ofResponse (id : UInt32) (sets : List (List FileDescriptor)) :
    Option Response → ClientAction
  | none => .failed id
  | some response => .completed id (response.receiveFileDescriptors sets)

/-- Sequences of events take their descriptors one after another. -/
def processEvents : List EventSequence → List (List FileDescriptor) → List ClientAction
  | [], _ => []
  | sequence :: later, sets =>
    .processed (sequence.receive sets) :: processEvents later (sets.drop sequence.sizes.length)

variable (codec : Codec) (pending : UInt32 → Option ResponseType)

/-- The events in a body, and the response, if the body is a result for a call that is pending. -/
def eventsIn (result : WireResult) : List EventSequence := result.events.map codec.parseEvents

def responseIn (result : WireResult) : Option Response :=
  match result.id with
  | none => none
  | some id => (pending id).map fun type => codec.parseResponse type (result.response.getD [])

/-- How many descriptors follow a body. -/
def fdsAfter (body : List UInt8) : List Nat :=
  let result := codec.parseResult body
  (eventsIn codec result).flatMap EventSequence.sizes ++
    (responseIn codec pending result).toList.flatMap Response.sizes

/-- What the client does once it has read a body and the descriptors. -/
def onDataAvailable (message : Message FileDescriptor) : List ClientAction :=
  let result := codec.parseResult message.body
  let events := eventsIn codec result
  let sets := message.sets.drop (events.flatMap EventSequence.sizes).length
  processEvents events message.sets ++
    match result.id with
    | none => []
    | some id => [.ofResponse id sets (responseIn codec pending result)]

inductive Failure
  | unexpectedlyReceivedFds
  | otherNumberOfFds
  deriving DecidableEq

def protocol : Protocol Failure where
  headerSize := 2
  headerSize_pos := Nat.zero_lt_two
  header := Framing.headerBytes
  length_header := Framing.length_headerBytes
  marker := 77
  onHeader header := .ok (Framing.bodySize header)
  onBody body := .ok (fdsAfter codec pending body)
  isLast _ := false
  unexpected := .unexpectedlyReceivedFds
  otherNumber := .otherNumberOfFds

/-! ### What is sent is read -/

namespace Carrier

variable (carrier : Carrier)

@[simp] theorem expected_extractFdsFrom :
    carrier.extractFdsFrom.expected = carrier.fd.length := Int.toNat_natCast _

/-- The client asks for the descriptors that are sent. -/
theorem sizes_of_expected {other : Carrier} (expected : other.expected = carrier.fd.length) :
    other.sizes = (sendFds [carrier.fd]).map List.length := by
  unfold sizes sendFds
  rw [expected]
  cases carrier.fd with
  | nil => rfl
  | cons fd fds => rfl

theorem sizes_extractFdsFrom :
    carrier.extractFdsFrom.sizes = (sendFds [carrier.fd]).map List.length :=
  carrier.sizes_of_expected carrier.expected_extractFdsFrom

/-- The carrier as it arrives: with the descriptors, and without their number. -/
def received : Carrier := { carrier with fdsOnSideChannel := none }

theorem receive_extractFdsFrom (later : List (List FileDescriptor)) :
    carrier.extractFdsFrom.receiveAnyFileDescriptors (sendFds [carrier.fd] ++ later) =
      carrier.received := by
  unfold receiveAnyFileDescriptors received sendFds
  rw [expected_extractFdsFrom]
  cases isFd : carrier.fd with
  | nil => rfl
  | cons fd fds => rfl

/-- A buffer of an event has its descriptors in the message, too. -/
theorem receiveForEvent_counted :
    ({ carrier with fdsOnSideChannel := some carrier.fd.length } : Carrier).receiveForEvent
        (sendFds [carrier.fd]) =
      { carrier with fdsOnSideChannel := some carrier.fd.length } := by
  unfold receiveForEvent
  split
  · rename_i isThere
    have isSome : 0 < carrier.fd.length := isThere
    obtain ⟨fd, fds, isFd⟩ := List.exists_cons_of_length_pos isSome
    unfold sendFds
    rw [isFd]
    rfl
  · rfl

/-- The descriptors of what comes after are left. -/
theorem rest_extractFdsFrom (later : List (List FileDescriptor)) :
    carrier.extractFdsFrom.rest (sendFds [carrier.fd] ++ later) = later := by
  unfold rest
  rw [sizes_extractFdsFrom, List.length_map, List.drop_left]

end Carrier

theorem sendFds_cons (fds : List FileDescriptor) (later : List (List FileDescriptor)) :
    sendFds (fds :: later) = sendFds [fds] ++ sendFds later :=
  List.filter_append [fds] later

/-- The response as it arrives. A screencast has an empty buffer if it had none. -/
def Response.received : Response → Response
  | .buffer carrier => .buffer carrier.received
  | .bufferStream stream => .bufferStream { stream with buffer := stream.buffer.map .received }
  | .surface carrier stream =>
    .surface carrier.received <|
      stream.map fun stream => { stream with buffer := stream.buffer.map .received }
  | .screencast data stream =>
    .screencast data <|
      stream.map fun stream => { stream with buffer := some (stream.buffer.getD .empty).received }
  | .platform carrier => .platform carrier.received
  | .connection data carrier => .connection data (carrier.map .received)
  | .socketFD carrier => .socketFD carrier.received
  | .platformOperationMessage carrier => .platformOperationMessage carrier.received
  | .other data => .other data

namespace Response

/-- The client asks for the descriptors that are sent with a response. -/
theorem sizes_extract (response : Response) (isAnswer : response.type ≠ .platform) :
    response.extract.1.sizes = (sendFds response.extract.2).map List.length := by
  cases response with
  | buffer carrier => exact (List.append_nil _).trans carrier.sizes_extractFdsFrom
  | bufferStream stream =>
    obtain ⟨data, _ | carrier⟩ := stream
    · rfl
    · exact (List.append_nil _).trans carrier.sizes_extractFdsFrom
  | surface carrier stream =>
    rcases stream with _ | ⟨data, _ | inner⟩
    · exact (List.append_nil _).trans carrier.sizes_extractFdsFrom
    · exact (List.append_nil _).trans carrier.sizes_extractFdsFrom
    · show carrier.extractFdsFrom.sizes ++ (inner.extractFdsFrom.sizes ++ []) = _
      show _ = (sendFds (carrier.fd :: [inner.fd])).map List.length
      rw [sendFds_cons, List.map_append, List.append_nil, carrier.sizes_extractFdsFrom,
        inner.sizes_extractFdsFrom]
  | screencast data stream =>
    rcases stream with _ | stream
    · rfl
    · exact (List.append_nil _).trans (stream.buffer.getD .empty).sizes_extractFdsFrom
  | platform carrier => exact absurd rfl isAnswer
  | connection data carrier =>
    rcases carrier with _ | carrier
    · rfl
    · exact (List.append_nil _).trans carrier.sizes_extractFdsFrom
  | socketFD carrier => exact (List.append_nil _).trans carrier.sizes_extractFdsFrom
  | platformOperationMessage carrier =>
    exact (List.append_nil _).trans carrier.sizes_extractFdsFrom
  | other data => rfl

/-- Each part of a response gets its own descriptors. -/
theorem receive_extract (response : Response) (isAnswer : response.type ≠ .platform) :
    response.extract.1.receiveFileDescriptors (sendFds response.extract.2) =
      response.received := by
  have alone (carrier : Carrier) :
      carrier.extractFdsFrom.receiveAnyFileDescriptors (sendFds [carrier.fd]) =
        carrier.received := by
    have same := carrier.receive_extractFdsFrom []
    rwa [List.append_nil] at same
  cases response with
  | buffer carrier => exact congrArg Response.buffer (alone carrier)
  | bufferStream stream =>
    obtain ⟨data, _ | carrier⟩ := stream
    · rfl
    · exact congrArg (fun buffer => Response.bufferStream ⟨data, some buffer⟩) (alone carrier)
  | surface carrier stream =>
    rcases stream with _ | ⟨data, _ | inner⟩
    · exact congrArg (fun surface => Response.surface surface none) (alone carrier)
    · exact congrArg (fun surface => Response.surface surface (some ⟨data, none⟩)) (alone carrier)
    · show Response.surface
        (carrier.extractFdsFrom.receiveAnyFileDescriptors (sendFds (carrier.fd :: [inner.fd])))
        (some ⟨data, some (inner.extractFdsFrom.receiveAnyFileDescriptors
          (carrier.extractFdsFrom.rest (sendFds (carrier.fd :: [inner.fd]))))⟩) = _
      rw [sendFds_cons, carrier.receive_extractFdsFrom, carrier.rest_extractFdsFrom, alone inner]
      rfl
  | screencast data stream =>
    rcases stream with _ | stream
    · rfl
    · exact congrArg (fun buffer => Response.screencast data (some ⟨stream.data, some buffer⟩))
        (alone (stream.buffer.getD .empty))
  | platform carrier => exact absurd rfl isAnswer
  | connection data carrier =>
    rcases carrier with _ | carrier
    · rfl
    · exact congrArg (fun platform => Response.connection data (some platform)) (alone carrier)
  | socketFD carrier => exact congrArg Response.socketFD (alone carrier)
  | platformOperationMessage carrier =>
    exact congrArg Response.platformOperationMessage (alone carrier)
  | other data => rfl

end Response

/-- What the client makes of what the server says. -/
def ServerMessage.received : ServerMessage → ClientAction
  | answer id response => .completed id response.received
  | sendBuffer data buffer => .processed (bufferEvents data buffer)
  | sendEventSequence data errorBuffer => .processed (otherEvents data errorBuffer)

/-- The message is read as it was written, fits into the header, and is one the server sends. -/
structure IsSendable (codec : Codec) (said : ServerMessage) : Prop where
  parse_serialize :
    codec.parseResult (codec.serializeResult (said.result codec)) = said.result codec
  short : (codec.serializeResult (said.result codec)).length < 65536
  events : ∀ sequence ∈ said.events, codec.parseEvents (codec.serializeEvents sequence) = sequence
  responses : ∀ response ∈ said.responses, response.type ≠ .platform ∧
    codec.parseResponse response.type (codec.serializeResponse response.extract.1) =
      response.extract.1

instance decidableIsSendable (codec : Codec) (said : ServerMessage) :
    Decidable (IsSendable codec said) :=
  decidable_of_iff
    (codec.parseResult (codec.serializeResult (said.result codec)) = said.result codec ∧
      (codec.serializeResult (said.result codec)).length < 65536 ∧
      (∀ sequence ∈ said.events,
        codec.parseEvents (codec.serializeEvents sequence) = sequence) ∧
      ∀ response ∈ said.responses, response.type ≠ .platform ∧
        codec.parseResponse response.type (codec.serializeResponse response.extract.1) =
          response.extract.1)
    ⟨fun ⟨parse_serialize, short, events, responses⟩ =>
        ⟨parse_serialize, short, events, responses⟩,
      fun ⟨parse_serialize, short, events, responses⟩ =>
        ⟨parse_serialize, short, events, responses⟩⟩

/-- An answer is for a call that is pending, and of the type that this expects. -/
def IsExpected (pending : UInt32 → Option ResponseType) (said : ServerMessage) : Prop :=
  ∀ id response, said = .answer id response → pending id = some response.type

variable {codec : Codec} {pending : UInt32 → Option ResponseType} {said : ServerMessage}

theorem IsSendable.fdsAfter (sendable : IsSendable codec said)
    (expected : IsExpected pending said) :
    fdsAfter codec pending (said.message codec).body =
      (said.message codec).sets.map List.length := by
  unfold ResultStream.fdsAfter eventsIn responseIn ServerMessage.message
  dsimp only
  rw [sendable.parse_serialize]
  cases said with
  | answer id response =>
    obtain ⟨isAnswer, isParsed⟩ := sendable.responses response (List.mem_singleton_self _)
    show [] ++ ((pending id).map _).toList.flatMap Response.sizes = _
    rw [expected id response rfl]
    show (codec.parseResponse response.type (codec.serializeResponse response.extract.1)).sizes ++
      [] = _
    rw [isParsed, List.append_nil]
    exact response.sizes_extract isAnswer
  | sendBuffer data buffer =>
    have isParsed := sendable.events (bufferEvents data buffer) (List.mem_singleton_self _)
    show (codec.parseEvents (codec.serializeEvents (bufferEvents data buffer))).sizes ++ [] ++ [] =
      (sendFds [buffer.fd]).map List.length
    rw [isParsed, List.append_nil, List.append_nil]
    exact (List.append_nil _).trans (buffer.sizes_of_expected (Int.toNat_natCast _))
  | sendEventSequence data errorBuffer =>
    have isParsed := sendable.events (otherEvents data errorBuffer) (List.mem_singleton_self _)
    show (codec.parseEvents (codec.serializeEvents (otherEvents data errorBuffer))).sizes ++ [] ++
      [] = _
    rw [isParsed]
    cases errorBuffer <;> rfl

theorem IsSendable.wellFormed (sendable : IsSendable codec said)
    (expected : IsExpected pending said) :
    (protocol codec pending).WellFormed (said.message codec) := by
  refine ⟨?_, congrArg Except.ok (sendable.fdsAfter expected)⟩
  have short : (said.message codec).body.length < 65536 := sendable.short
  show Except.ok (Framing.bodySize (Framing.headerBytes _)) = _
  rw [Framing.bodySize_headerBytes, Nat.mod_eq_of_lt short]

/-- The client does once and as a whole what the server says. -/
theorem IsSendable.onDataAvailable (sendable : IsSendable codec said)
    (expected : IsExpected pending said) :
    onDataAvailable codec pending (said.message codec) = [said.received] := by
  unfold ResultStream.onDataAvailable eventsIn responseIn ServerMessage.message
  dsimp only
  rw [sendable.parse_serialize]
  cases said with
  | answer id response =>
    obtain ⟨isAnswer, isParsed⟩ := sendable.responses response (List.mem_singleton_self _)
    show [ClientAction.ofResponse id _ ((pending id).map fun type =>
      codec.parseResponse type (codec.serializeResponse response.extract.1))] = _
    rw [expected id response rfl, Option.map_some, isParsed]
    exact congrArg (fun response => [ClientAction.completed id response])
      (response.receive_extract isAnswer)
  | sendBuffer data buffer =>
    have isParsed := sendable.events (bufferEvents data buffer) (List.mem_singleton_self _)
    show [ClientAction.processed ((codec.parseEvents (codec.serializeEvents
      (bufferEvents data buffer))).receive (sendFds [buffer.fd]))] = _
    rw [isParsed]
    exact congrArg (fun buffer => [ClientAction.processed ⟨data, some buffer⟩])
      buffer.receiveForEvent_counted
  | sendEventSequence data errorBuffer =>
    have isParsed := sendable.events (otherEvents data errorBuffer) (List.mem_singleton_self _)
    show [ClientAction.processed ((codec.parseEvents (codec.serializeEvents
      (otherEvents data errorBuffer))).receive (sendFds []))] = _
    rw [isParsed]
    cases errorBuffer <;> rfl

end Mir.Frontend.ResultStream

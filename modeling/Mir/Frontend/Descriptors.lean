/-
This file models how file descriptors travel with the server's messages. A descriptor cannot
be part of a message: the server takes the descriptors out of the message, writes how many
there were into it, and sends them after it as a group that rides on one byte of its own. The
client looks into the message it has parsed, reads the groups it is told about and puts the
descriptors back.

Which parts of a message carry descriptors, and in which order their groups are sent, is
written down twice: by the `send_response` overloads of the server and by the dispatch on the
type name in the client's `receive_file_descriptors`. A difference would put every later read
of the connection out of step.

A descriptor is known by the open file it stands for: `dup` and the socket give it other
numbers. The kernel is taken to pass each group on as a whole.
-/

import Mathlib.Data.List.Basic
import Mathlib.Data.List.Forall2

namespace Mir.Frontend.Descriptors

variable {Fd : Type}

/-! ### The messages -/

/-- What `Buffer`, `Platform`, `SocketFD`, `PlatformOperationMessage` and `Surface` have in
common. -/
structure Carrier (Fd : Type) where
  fd : List Fd
  fdsOnSideChannel : Option Nat

structure BufferStream (Fd : Type) where
  buffer : Option (Carrier Fd)

structure Surface (Fd : Type) extends Carrier Fd where
  bufferStream : Option (BufferStream Fd)

structure Screencast (Fd : Type) where
  bufferStream : Option (BufferStream Fd)

structure Connection (Fd : Type) where
  platform : Option (Carrier Fd)

/-- A response, by its type. -/
inductive Response (Fd : Type) where
  | buffer (response : Carrier Fd)
  | connection (response : Connection Fd)
  | surface (response : Surface Fd)
  | bufferStream (response : BufferStream Fd)
  | screencast (response : Screencast Fd)
  | socketFD (response : Carrier Fd)
  | platformOperationMessage (response : Carrier Fd)
  /-- Any type without descriptors. -/
  | other

/-- A message on the socket: a response, or a sequence of events with or without a request
about a buffer. -/
inductive Message (Fd : Type) where
  | response (response : Response Fd)
  | bufferRequest (buffer : Carrier Fd)
  | events

/-- What the socket carries: the bytes of a message, or one byte with a group of descriptors. -/
inductive Item (Fd : Type) where
  | message (message : Message Fd)
  | group (fds : List Fd)

/-! ### The server -/

/-- `mir::send_fds`: an empty group is not sent. -/
def sendFds (fds : List Fd) : List (Item Fd) := if fds.length > 0 then [.group fds] else []

/-- `SocketMessenger::send`, which keeps the message and its groups together by its lock. -/
def send (message : Message Fd) (fdSets : List (List Fd)) : List (Item Fd) :=
  .message message :: fdSets.flatMap sendFds

/-- `extract_fds_from`: the descriptors, and what becomes of the message. -/
def extractFdsFrom (response : Carrier Fd) : Carrier Fd × List Fd :=
  ({ fd := [], fdsOnSideChannel := some response.fd.length }, response.fd)

/-- `mutable_buffer`, which makes a buffer when there is none. -/
def BufferStream.mutableBuffer (stream : BufferStream Fd) : Carrier Fd :=
  stream.buffer.getD { fd := [], fdsOnSideChannel := none }

/-- The `send_response` overloads of `ProtobufMessageProcessor`. -/
def sendResponse : Response Fd → List (Item Fd)
  | .buffer response =>
    let extracted := extractFdsFrom response
    send (.response (.buffer extracted.1)) [extracted.2]
  | .connection response =>
    match response.platform with
    | some platform =>
      let extracted := extractFdsFrom platform
      send (.response (.connection { platform := some extracted.1 })) [extracted.2]
    | none => send (.response (.connection response)) []
  | .surface response =>
    match response.bufferStream with
    | some ⟨some buffer⟩ =>
      let extracted := extractFdsFrom response.toCarrier
      let extractedBuffer := extractFdsFrom buffer
      send (.response (.surface { extracted.1 with bufferStream := some ⟨some extractedBuffer.1⟩ }))
        [extracted.2, extractedBuffer.2]
    | other =>
      let extracted := extractFdsFrom response.toCarrier
      send (.response (.surface { extracted.1 with bufferStream := other })) [extracted.2]
  | .bufferStream response =>
    match response.buffer with
    | some buffer =>
      let extracted := extractFdsFrom buffer
      send (.response (.bufferStream { buffer := some extracted.1 })) [extracted.2]
    | none => send (.response (.bufferStream response)) []
  | .screencast response =>
    match response.bufferStream with
    | some stream =>
      let extracted := extractFdsFrom stream.mutableBuffer
      send (.response (.screencast { bufferStream := some ⟨some extracted.1⟩ })) [extracted.2]
    | none => send (.response (.screencast response)) []
  | .socketFD response =>
    let extracted := extractFdsFrom response
    send (.response (.socketFD extracted.1)) [extracted.2]
  | .platformOperationMessage response =>
    let extracted := extractFdsFrom response
    send (.response (.platformOperationMessage extracted.1)) [extracted.2]
  | .other => send (.response .other) []

/-- `EventSender::send_buffer`, for whatever the platform has packed into the buffer. The
descriptors stay in the message as well. -/
def sendBuffer (packed : Carrier Fd) : List (Item Fd) :=
  send (.bufferRequest { packed with fdsOnSideChannel := some packed.fd.length }) [packed.fd]

/-- `EventSender::error_buffer`. -/
def errorBuffer : List (Item Fd) := send (.bufferRequest { fd := [], fdsOnSideChannel := none }) []

/-! ### The client -/

/-- What is left on the socket, and the groups that have been read. -/
structure Reading (Fd : Type) where
  wire : List (Item Fd)
  groups : List (List Fd)

/-- `mir::receive_data` for one byte and so many descriptors. -/
def receiveData (count : Nat) (reading : Reading Fd) : Except String (List Fd × Reading Fd) :=
  match reading.wire with
  | .group fds :: rest =>
    if count < fds.length then .error "Received more fds than expected"
    else if fds.length < count then .error "Received fewer fds than expected"
    else .ok (fds, { wire := rest, groups := reading.groups ++ [fds] })
  | .message _ :: _ => .error "Received fewer fds than expected"
  | [] => .error "Failed to read message from server: server has shutdown"

/-- `receive_any_file_descriptors_for`, which does nothing for a null pointer. -/
def receiveAnyFileDescriptorsFor (response : Option (Carrier Fd)) (reading : Reading Fd) :
    Except String (Option (Carrier Fd) × Reading Fd) :=
  match response with
  | none => .ok (none, reading)
  | some part =>
    if part.fdsOnSideChannel.getD 0 > 0 then do
      let (fds, reading) ← receiveData (part.fdsOnSideChannel.getD 0) reading
      .ok (some { fd := fds, fdsOnSideChannel := none }, reading)
    else .ok (some { fd := [], fdsOnSideChannel := none }, reading)

/-- The pointers `receive_file_descriptors` sets by the type name of the response. -/
structure Pointers (Fd : Type) where
  surface : Option (Carrier Fd)
  buffer : Option (Carrier Fd)
  platform : Option (Carrier Fd)
  socketFd : Option (Carrier Fd)
  platformOperationMessage : Option (Carrier Fd)

def Pointers.null : Pointers Fd := ⟨none, none, none, none, none⟩

def pointersInto : Response Fd → Pointers Fd
  | .buffer response => { Pointers.null with buffer := some response }
  | .bufferStream response => { Pointers.null with buffer := response.buffer }
  | .surface response =>
    { Pointers.null with
      surface := some response.toCarrier
      buffer := response.bufferStream.bind BufferStream.buffer }
  | .screencast response =>
    { Pointers.null with buffer := response.bufferStream.bind BufferStream.buffer }
  | .connection response => { Pointers.null with platform := response.platform }
  | .socketFD response => { Pointers.null with socketFd := some response }
  | .platformOperationMessage response =>
    { Pointers.null with platformOperationMessage := some response }
  | .other => .null

/-- What writing through the pointers does to the response. -/
def writeThrough (pointers : Pointers Fd) : Response Fd → Response Fd
  | .buffer response => .buffer (pointers.buffer.getD response)
  | .bufferStream _ => .bufferStream { buffer := pointers.buffer }
  | .surface response =>
    .surface { pointers.surface.getD response.toCarrier with
      bufferStream := response.bufferStream.map fun _ => ⟨pointers.buffer⟩ }
  | .screencast response =>
    .screencast { bufferStream := response.bufferStream.map fun _ => ⟨pointers.buffer⟩ }
  | .connection _ => .connection { platform := pointers.platform }
  | .socketFD response => .socketFD (pointers.socketFd.getD response)
  | .platformOperationMessage response =>
    .platformOperationMessage (pointers.platformOperationMessage.getD response)
  | .other => .other

/-- `receive_file_descriptors`. -/
def receiveFileDescriptors (response : Response Fd) (reading : Reading Fd) :
    Except String (Response Fd × Reading Fd) := do
  let pointers := pointersInto response
  let (surface, reading) ← receiveAnyFileDescriptorsFor pointers.surface reading
  let (buffer, reading) ← receiveAnyFileDescriptorsFor pointers.buffer reading
  let (platform, reading) ← receiveAnyFileDescriptorsFor pointers.platform reading
  let (socketFd, reading) ← receiveAnyFileDescriptorsFor pointers.socketFd reading
  let (operation, reading) ←
    receiveAnyFileDescriptorsFor pointers.platformOperationMessage reading
  .ok (writeThrough ⟨surface, buffer, platform, socketFd, operation⟩ response, reading)

/-- The buffer request in `process_event_sequence`. -/
def processBufferRequest (buffer : Carrier Fd) (reading : Reading Fd) :
    Except String (Carrier Fd × Reading Fd) :=
  if buffer.fdsOnSideChannel.getD 0 > 0 then do
    let (fds, reading) ← receiveData (buffer.fdsOnSideChannel.getD 0) reading
    .ok ({ buffer with fd := fds }, reading)
  else .ok (buffer, reading)

/-- `on_data_available` for one message. Reading its bytes fails where descriptors ride on
them. -/
def onDataAvailable (wire : List (Item Fd)) : Except String (Message Fd × Reading Fd) :=
  match wire with
  | .message (.response response) :: rest => do
    let (response, reading) ← receiveFileDescriptors response ⟨rest, []⟩
    .ok (.response response, reading)
  | .message (.bufferRequest buffer) :: rest => do
    let (buffer, reading) ← processBufferRequest buffer ⟨rest, []⟩
    .ok (.bufferRequest buffer, reading)
  | .message .events :: rest => .ok (.events, ⟨rest, []⟩)
  | .group _ :: _ => .error "Unexpectedly received fds"
  | [] => .error "Failed to read message from server: server has shutdown"

/-! ### What each submessage holds -/

/-- The submessages of a message that can hold descriptors. -/
inductive Part where
  | self
  | buffer
  | platform
  deriving DecidableEq

def heldBy (carrier : Option (Carrier Fd)) : List Fd := (carrier.map Carrier.fd).getD []

/-- The descriptors in a submessage, none when the submessage is missing. -/
def Response.held : Response Fd → Part → List Fd
  | .buffer response, .self => response.fd
  | .connection response, .platform => heldBy response.platform
  | .surface response, .self => response.fd
  | .surface response, .buffer => heldBy (response.bufferStream.bind BufferStream.buffer)
  | .bufferStream response, .buffer => heldBy response.buffer
  | .screencast response, .buffer => heldBy (response.bufferStream.bind BufferStream.buffer)
  | .socketFD response, .self => response.fd
  | .platformOperationMessage response, .self => response.fd
  | _, _ => []

def Message.held : Message Fd → Part → List Fd
  | .response sent, part => sent.held part
  | .bufferRequest buffer, .buffer => buffer.fd
  | _, _ => []

/-- What the server may have to send. -/
inductive Outgoing (Fd : Type) where
  | response (response : Response Fd)
  | buffer (packed : Carrier Fd)
  | bufferError
  | events

namespace Outgoing

def sent : Outgoing Fd → List (Item Fd)
  | .response reply => sendResponse reply
  | .buffer packed => sendBuffer packed
  | .bufferError => errorBuffer
  | .events => send .events []

/-- The descriptors in the server's own submessages. -/
def held : Outgoing Fd → Part → List Fd
  | .response sent, part => sent.held part
  | .buffer packed, .buffer => packed.fd
  | _, _ => []

end Outgoing

/-- The groups among what is written. -/
def groupsIn (items : List (Item Fd)) : List (List Fd) :=
  items.filterMap fun item =>
    match item with
    | .group fds => some fds
    | .message _ => none

/-! ### Both sides agree -/

theorem groupsIn_append (first second : List (Item Fd)) :
    groupsIn (first ++ second) = groupsIn first ++ groupsIn second :=
  List.filterMap_append

theorem groupsIn_send (message : Message Fd) (fdSets : List (List Fd)) :
    groupsIn (send message fdSets) = groupsIn (fdSets.flatMap sendFds) := rfl

/-- A group is read when it is as large as announced. -/
theorem receiveData_sendFds {fds : List Fd} (some : fds.length > 0) (rest : List (Item Fd))
    (groups : List (List Fd)) :
    receiveData fds.length ⟨sendFds fds ++ rest, groups⟩ =
      .ok (fds, ⟨rest, groups ++ groupsIn (sendFds fds)⟩) := by
  have sent : sendFds fds = [.group fds] := if_pos some
  rw [sent]
  show (if fds.length < fds.length then _ else if fds.length < fds.length then _ else _) = _
  rw [if_neg (Nat.lt_irrefl _), if_neg (Nat.lt_irrefl _)]
  rfl

/-- What was taken out of one part on the server is put back into it on the client. -/
theorem receiveAny_extracted (part : Carrier Fd) (rest : List (Item Fd))
    (groups : List (List Fd)) :
    receiveAnyFileDescriptorsFor (some (extractFdsFrom part).1)
        ⟨sendFds (extractFdsFrom part).2 ++ rest, groups⟩ =
      .ok (some { fd := part.fd, fdsOnSideChannel := none },
        ⟨rest, groups ++ groupsIn (sendFds part.fd)⟩) := by
  show (if part.fd.length > 0 then
    receiveData part.fd.length ⟨sendFds part.fd ++ rest, groups⟩ >>= _ else _) = _
  split_ifs with positive
  · rw [receiveData_sendFds positive]
    rfl
  · have nothing : part.fd = [] := List.eq_nil_of_length_eq_zero (by omega)
    have sent : (extractFdsFrom part).2 = [] := nothing
    simp [nothing, sent, sendFds, groupsIn]

/-- The five reads of `receive_file_descriptors`, one after the other. -/
theorem receiveFileDescriptors_of_reads {response : Response Fd}
    {first second third fourth fifth last : Reading Fd}
    {surface buffer platform socketFd operation : Option (Carrier Fd)}
    (readSurface : receiveAnyFileDescriptorsFor (pointersInto response).surface first =
      .ok (surface, second))
    (readBuffer : receiveAnyFileDescriptorsFor (pointersInto response).buffer second =
      .ok (buffer, third))
    (readPlatform : receiveAnyFileDescriptorsFor (pointersInto response).platform third =
      .ok (platform, fourth))
    (readSocketFd : receiveAnyFileDescriptorsFor (pointersInto response).socketFd fourth =
      .ok (socketFd, fifth))
    (readOperation : receiveAnyFileDescriptorsFor
      (pointersInto response).platformOperationMessage fifth = .ok (operation, last)) :
    receiveFileDescriptors response first =
      .ok (writeThrough ⟨surface, buffer, platform, socketFd, operation⟩ response, last) := by
  unfold receiveFileDescriptors
  simp only [readSurface, readBuffer, readPlatform, readSocketFd, readOperation, bind,
    Except.bind]

/-- A response is received when the groups behind it are those its parts ask for. -/
theorem onDataAvailable_send {response received : Response Fd} {fdSets : List (List Fd)}
    {later : List (Item Fd)}
    (read : receiveFileDescriptors response ⟨fdSets.flatMap sendFds ++ later, []⟩ =
      .ok (received, ⟨later, groupsIn (fdSets.flatMap sendFds)⟩)) :
    onDataAvailable (send (.response response) fdSets ++ later) =
      .ok (.response received, ⟨later, groupsIn (send (.response response) fdSets)⟩) := by
  show (receiveFileDescriptors response ⟨fdSets.flatMap sendFds ++ later, []⟩ >>= _) = _
  rw [read]
  rfl

/-- The case of one group. -/
theorem onDataAvailable_send_one {response received : Response Fd} {fds : List Fd}
    {later : List (Item Fd)}
    (read : receiveFileDescriptors response ⟨sendFds fds ++ later, []⟩ =
      .ok (received, ⟨later, [] ++ groupsIn (sendFds fds)⟩)) :
    onDataAvailable (send (.response response) [fds] ++ later) =
      .ok (.response received, ⟨later, groupsIn (send (.response response) [fds])⟩) := by
  refine onDataAvailable_send ?_
  rw [List.flatMap_cons, List.flatMap_nil, List.append_nil]
  exact read

/-- The case of two groups. -/
theorem onDataAvailable_send_two {response received : Response Fd} {first second : List Fd}
    {later : List (Item Fd)}
    (read : receiveFileDescriptors response ⟨sendFds first ++ (sendFds second ++ later), []⟩ =
      .ok (received, ⟨later, [] ++ groupsIn (sendFds first) ++ groupsIn (sendFds second)⟩)) :
    onDataAvailable (send (.response response) [first, second] ++ later) =
      .ok (.response received,
        ⟨later, groupsIn (send (.response response) [first, second])⟩) := by
  refine onDataAvailable_send ?_
  rw [List.flatMap_cons, List.flatMap_cons, List.flatMap_nil, List.append_nil,
    List.append_assoc, groupsIn_append]
  exact read

/-- Every response is received with the groups that were written for it. -/
theorem onDataAvailable_sendResponse (response : Response Fd) (later : List (Item Fd)) :
    ∃ received, onDataAvailable (sendResponse response ++ later) =
        .ok (.response received, ⟨later, groupsIn (sendResponse response)⟩) ∧
      ∀ part, received.held part = response.held part := by
  cases response with
  | buffer response =>
    have buffer := receiveAny_extracted response later []
    refine ⟨_, onDataAvailable_send_one (receiveFileDescriptors_of_reads rfl buffer rfl rfl rfl),
      fun part => ?_⟩
    cases part <;> rfl
  | connection response =>
    obtain ⟨_ | platform⟩ := response
    · refine ⟨_, onDataAvailable_send (receiveFileDescriptors_of_reads rfl rfl rfl rfl rfl),
        fun part => ?_⟩
      cases part <;> rfl
    · have read := receiveAny_extracted platform later []
      refine ⟨_, onDataAvailable_send_one (receiveFileDescriptors_of_reads rfl rfl read rfl rfl),
        fun part => ?_⟩
      cases part <;> rfl
  | surface response =>
    obtain ⟨surface, _ | ⟨_ | buffer⟩⟩ := response
    · have read := receiveAny_extracted surface later []
      refine ⟨_, onDataAvailable_send_one (receiveFileDescriptors_of_reads read rfl rfl rfl rfl),
        fun part => ?_⟩
      cases part <;> rfl
    · have read := receiveAny_extracted surface later []
      refine ⟨_, onDataAvailable_send_one (receiveFileDescriptors_of_reads read rfl rfl rfl rfl),
        fun part => ?_⟩
      cases part <;> rfl
    · -- the only response with two groups
      have readSurface := receiveAny_extracted surface (sendFds buffer.fd ++ later) []
      have readBuffer := receiveAny_extracted buffer later ([] ++ groupsIn (sendFds surface.fd))
      refine ⟨_, onDataAvailable_send_two
        (receiveFileDescriptors_of_reads readSurface readBuffer rfl rfl rfl), fun part => ?_⟩
      cases part <;> rfl
  | bufferStream response =>
    obtain ⟨_ | buffer⟩ := response
    · refine ⟨_, onDataAvailable_send (receiveFileDescriptors_of_reads rfl rfl rfl rfl rfl),
        fun part => ?_⟩
      cases part <;> rfl
    · have read := receiveAny_extracted buffer later []
      refine ⟨_, onDataAvailable_send_one (receiveFileDescriptors_of_reads rfl read rfl rfl rfl),
        fun part => ?_⟩
      cases part <;> rfl
  | screencast response =>
    obtain ⟨_ | stream⟩ := response
    · refine ⟨_, onDataAvailable_send (receiveFileDescriptors_of_reads rfl rfl rfl rfl rfl),
        fun part => ?_⟩
      cases part <;> rfl
    · have read := receiveAny_extracted stream.mutableBuffer later []
      refine ⟨_, onDataAvailable_send_one (receiveFileDescriptors_of_reads rfl read rfl rfl rfl),
        fun part => ?_⟩
      obtain ⟨_ | buffer⟩ := stream
      all_goals cases part <;> rfl
  | socketFD response =>
    have read := receiveAny_extracted response later []
    refine ⟨_, onDataAvailable_send_one (receiveFileDescriptors_of_reads rfl rfl rfl read rfl),
      fun part => ?_⟩
    cases part <;> rfl
  | platformOperationMessage response =>
    have read := receiveAny_extracted response later []
    refine ⟨_, onDataAvailable_send_one (receiveFileDescriptors_of_reads rfl rfl rfl rfl read),
      fun part => ?_⟩
    cases part <;> rfl
  | other =>
    refine ⟨_, onDataAvailable_send (receiveFileDescriptors_of_reads rfl rfl rfl rfl rfl),
      fun part => ?_⟩
    cases part <;> rfl

/-- So is every event about a buffer. -/
theorem onDataAvailable_sendBuffer (packed : Carrier Fd) (later : List (Item Fd)) :
    onDataAvailable (sendBuffer packed ++ later) =
      .ok (.bufferRequest { packed with fdsOnSideChannel := some packed.fd.length },
        ⟨later, groupsIn (sendBuffer packed)⟩) := by
  show (processBufferRequest _ ⟨[packed.fd].flatMap sendFds ++ later, []⟩ >>= _) = _
  rw [sendBuffer, groupsIn_send, List.flatMap_cons, List.flatMap_nil, List.append_nil]
  unfold processBufferRequest
  rw [Option.getD_some]
  split_ifs with positive
  · rw [receiveData_sendFds positive]
    rfl
  · have unsent : sendFds packed.fd = [] := if_neg positive
    rw [unsent]
    rfl

/-- One message, whatever follows it: reading stops where the next message starts. -/
theorem onDataAvailable_sent (outgoing : Outgoing Fd) (later : List (Item Fd)) :
    ∃ received, onDataAvailable (outgoing.sent ++ later) =
        .ok (received, ⟨later, groupsIn outgoing.sent⟩) ∧
      ∀ part, received.held part = outgoing.held part := by
  cases outgoing with
  | response reply =>
    obtain ⟨received, read, same⟩ := onDataAvailable_sendResponse reply later
    exact ⟨.response received, read, same⟩
  | buffer packed =>
    refine ⟨_, onDataAvailable_sendBuffer packed later, fun part => ?_⟩
    cases part <;> rfl
  | bufferError =>
    refine ⟨_, rfl, fun part => ?_⟩
    cases part <;> rfl
  | events => exact ⟨_, rfl, fun _ => rfl⟩

/-! ### A whole connection -/

/-- The client reads so many messages, each with the groups of descriptors that go with it. -/
def receiveMessages : Nat → List (Item Fd) →
    Except String (List (Message Fd × List (List Fd)) × List (Item Fd))
  | 0, wire => .ok ([], wire)
  | count + 1, wire => do
    let (message, reading) ← onDataAvailable wire
    let (messages, wire) ← receiveMessages count reading.wire
    .ok ((message, reading.groups) :: messages, wire)

end Mir.Frontend.Descriptors

/-
This file embeds the way of an invocation from a client to the server: the client writes the header
and the body with as many calls as the socket asks for, and then a byte that takes the file
descriptors along, under a lock that other threads of the client wait for; the server reads the
size, the body and, if the body says so, the descriptors, each in as many parts as they come in.

The client's side is `MirProtobufRpcChannel::send_message` with `StreamSocketTransport::send_message`
and `send_fds`; the server's is `SocketConnection` with `SocketMessenger`. A call that a signal
interrupts, or that would block, is made again, and changes nothing.
-/

import Mathlib.Algebra.GroupWithZero.Nat
import Mir.Frontend.Framing
import Mir.Library.SideChannel

namespace Mir.Frontend.InvocationStream

open SideChannel (Link Message Op Protocol Receiver)

abbrev FileDescriptor := Nat

/-- The message of the protocol that is a call. -/
structure WireInvocation where
  id : UInt32
  methodName : String
  parameters : List UInt8
  protocolVersion : Option UInt32
  sideChannelFds : Option UInt32
  deriving DecidableEq

/-- How such messages are written and read. -/
structure Codec where
  serialize : WireInvocation → List UInt8
  parse : List UInt8 → WireInvocation

inductive Rejection
  | unsupportedVersion
  | discardedFds
  | moreOrFewerFds
  deriving DecidableEq, Repr

def versionNumber (major minor micro : Nat) : Nat := (major <<< 22) + (minor <<< 12) + micro

def currentProtocolVersion : Nat := versionNumber 0 4 0

def oldestCompatibleProtocolVersion : Nat := versionNumber 0 4 0

def nextIncompatibleProtocolVersion : Nat := currentProtocolVersion + versionNumber 0 0 1

/-- Whether the server understands the version that an invocation names. -/
def isSupported (invocation : WireInvocation) : Bool :=
  match invocation.protocolVersion with
  | none => false
  | some version =>
    decide (oldestCompatibleProtocolVersion ≤ version.toNat) &&
      decide (version.toNat < nextIncompatibleProtocolVersion)

/-- How many descriptors follow an invocation. -/
def sideChannelFds (invocation : WireInvocation) : Nat :=
  match invocation.sideChannelFds with
  | none => 0
  | some fds => fds.toNat

def onReadSize (header : List UInt8) : Except Rejection Nat := .ok (Framing.bodySize header)

/-- The descriptors are read before the invocation is dispatched. -/
def onNewMessage (codec : Codec) (body : List UInt8) : Except Rejection (List Nat) :=
  let invocation := codec.parse body
  if isSupported invocation then
    .ok (if 0 < sideChannelFds invocation then [sideChannelFds invocation] else [])
  else .error .unsupportedVersion

/-- What is written to the socket and how it is read. `dispatch` says whether the connection goes
on after an invocation. -/
def protocol (codec : Codec) (dispatch : WireInvocation → Bool) : Protocol Rejection where
  headerSize := 2
  headerSize_pos := Nat.zero_lt_two
  header := Framing.headerBytes
  length_header := Framing.length_headerBytes
  marker := 77
  onHeader := onReadSize
  onBody := onNewMessage codec
  isLast body := !dispatch (codec.parse body)
  unexpected := .discardedFds
  otherNumber := .moreOrFewerFds

/-- An invocation with the descriptors that go with it. -/
structure Call where
  invocation : WireInvocation
  fds : List FileDescriptor
  deriving DecidableEq

/-- `invocation_for`: the invocation says how many descriptors follow. -/
def invocationFor (id : UInt32) (methodName : String) (request : List UInt8)
    (protocolVersion : UInt32) (fds : List FileDescriptor) : Call where
  invocation :=
    ⟨id, methodName, request, some protocolVersion, some (UInt32.ofNat fds.length)⟩
  fds := fds

/-- Descriptors are only sent if there are any. -/
def message (codec : Codec) (call : Call) : Message FileDescriptor :=
  ⟨codec.serialize call.invocation, if call.fds = [] then [] else [call.fds]⟩

/-- The socket, with the calls of the client's threads in the order in which they got the lock. -/
structure Connection where
  link : Link FileDescriptor Rejection
  invoked : List Call

inductive SocketOp
  | invoke (call : Call)
  | written (count : Nat)
  | sendFails
  | received (count : Nat)
  | disconnected

namespace Connection

def initial : Connection := ⟨Link.initial, []⟩

variable (codec : Codec) (dispatch : WireInvocation → Bool)

/-- A thread has the lock until its invocation is written. -/
def invoke (connection : Connection) (call : Call) : Connection where
  link := (protocol codec dispatch).begin connection.link (message codec call)
  invoked :=
    match connection.link.writing with
    | none => connection.invoked ++ [call]
    | some _ => connection.invoked

def step (connection : Connection) : SocketOp → Connection
  | .invoke call => connection.invoke codec dispatch call
  | .written count => { connection with link := Protocol.write connection.link count }
  | .sendFails => { connection with link := Protocol.writeFails connection.link }
  | .received count =>
    { connection with link := (protocol codec dispatch).receive connection.link count }
  | .disconnected => { connection with link := Protocol.close connection.link }

/-- What is dispatched, with the descriptors that were read. -/
def dispatched (connection : Connection) : List Call :=
  connection.link.receiver.delivered.map fun message =>
    ⟨codec.parse message.body, message.sets.flatten⟩

end Connection

/-! ### What is invoked is dispatched -/

/-- A call whose invocation is read as it was written, fits into the header, is of a version that
is supported and says how many descriptors follow. -/
structure IsSendable (codec : Codec) (call : Call) : Prop where
  parse_serialize : codec.parse (codec.serialize call.invocation) = call.invocation
  short : (codec.serialize call.invocation).length < 65536
  isSupported : isSupported call.invocation = true
  counted : sideChannelFds call.invocation = call.fds.length

instance decidableIsSendable (codec : Codec) (call : Call) : Decidable (IsSendable codec call) :=
  decidable_of_iff
    (codec.parse (codec.serialize call.invocation) = call.invocation ∧
      (codec.serialize call.invocation).length < 65536 ∧
      InvocationStream.isSupported call.invocation = true ∧
      sideChannelFds call.invocation = call.fds.length)
    ⟨fun ⟨parse_serialize, short, isSupported, counted⟩ =>
        ⟨parse_serialize, short, isSupported, counted⟩,
      fun ⟨parse_serialize, short, isSupported, counted⟩ =>
        ⟨parse_serialize, short, isSupported, counted⟩⟩

variable {codec : Codec} {dispatch : WireInvocation → Bool} {call : Call}

theorem IsSendable.wellFormed (sendable : IsSendable codec call) :
    (protocol codec dispatch).WellFormed (message codec call) := by
  refine ⟨?_, ?_⟩
  · have short : (message codec call).body.length < 65536 := sendable.short
    show Except.ok (Framing.bodySize (Framing.headerBytes _)) = _
    rw [Framing.bodySize_headerBytes, Nat.mod_eq_of_lt short]
  · show onNewMessage codec (codec.serialize call.invocation) = _
    unfold onNewMessage message
    rw [sendable.parse_serialize]
    dsimp only
    rw [if_pos sendable.isSupported, sendable.counted]
    cases call.fds with
    | nil => rfl
    | cons fd fds => rfl

theorem IsSendable.decode (sendable : IsSendable codec call) :
    (⟨codec.parse (message codec call).body, (message codec call).sets.flatten⟩ : Call) = call := by
  have body : codec.parse (message codec call).body = call.invocation := sendable.parse_serialize
  have fds : (message codec call).sets.flatten = call.fds := by
    show (if call.fds = [] then [] else [call.fds]).flatten = call.fds
    split
    · rename_i isEmpty
      rw [isEmpty]
      rfl
    · exact List.flatten_singleton
  rw [body, fds]

/-- The invocation says the number of the descriptors, if it can. -/
theorem isSendable_invocationFor {id : UInt32} {methodName : String} {request : List UInt8}
    {version : UInt32} {fds : List FileDescriptor}
    (parse_serialize : codec.parse
      (codec.serialize (invocationFor id methodName request version fds).invocation) =
      (invocationFor id methodName request version fds).invocation)
    (short : (codec.serialize
      (invocationFor id methodName request version fds).invocation).length < 65536)
    (isCurrent : version.toNat = currentProtocolVersion) (few : fds.length < 2 ^ 32) :
    IsSendable codec (invocationFor id methodName request version fds) := by
  refine ⟨parse_serialize, short, ?_, ?_⟩
  · show (decide (oldestCompatibleProtocolVersion ≤ version.toNat) &&
      decide (version.toNat < nextIncompatibleProtocolVersion)) = true
    rw [isCurrent]
    rfl
  · show (UInt32.ofNat fds.length).toNat = fds.length
    rw [UInt32.toNat_ofNat']
    exact Nat.mod_eq_of_lt few

/-- What is on the link is what was invoked. -/
structure Linked (codec : Codec) (connection : Connection) : Prop where
  sent : connection.link.sent = connection.invoked.map (message codec)
  sendable : ∀ call ∈ connection.invoked, IsSendable codec call

theorem linked_initial : Linked codec .initial := by
  refine ⟨rfl, fun call member => ?_⟩
  cases member

def Allowed (codec : Codec) : SocketOp → Prop
  | .invoke call => IsSendable codec call
  | _ => True

def toOp (codec : Codec) : SocketOp → Op FileDescriptor
  | .invoke call => .begin (message codec call)
  | .written count => .write count
  | .sendFails => .writeFails
  | .received count => .receive count
  | .disconnected => .close

theorem link_step (connection : Connection) (op : SocketOp) :
    (connection.step codec dispatch op).link =
      (protocol codec dispatch).step connection.link (toOp codec op) := by
  cases op <;> rfl

theorem Linked.step {connection : Connection} (linked : Linked codec connection) (op : SocketOp)
    (allowed : Allowed codec op) : Linked codec (connection.step codec dispatch op) := by
  obtain ⟨sent, sendable⟩ := linked
  cases op with
  | invoke call =>
    show Linked codec (connection.invoke codec dispatch call)
    unfold Connection.invoke Protocol.begin
    cases connection.link.writing with
    | some left => exact ⟨sent, sendable⟩
    | none =>
      refine ⟨?_, fun other member => ?_⟩
      · show connection.link.sent ++ [message codec call] =
          (connection.invoked ++ [call]).map (message codec)
        rw [sent, List.map_append, List.map_singleton]
      · rcases List.mem_append.mp member with earlier | last
        · exact sendable other earlier
        · rw [List.mem_singleton.mp last]
          exact allowed
  | written count =>
    refine ⟨?_, sendable⟩
    show (Protocol.write connection.link count).sent = _
    unfold Protocol.write
    split
    · exact sent
    · split <;> exact sent
  | sendFails =>
    refine ⟨?_, sendable⟩
    show (Protocol.writeFails connection.link).sent = _
    unfold Protocol.writeFails
    split <;> exact sent
  | received count =>
    refine ⟨?_, sendable⟩
    show ((protocol codec dispatch).receive connection.link count).sent = _
    unfold Protocol.receive
    split <;> exact sent
  | disconnected => exact ⟨sent, sendable⟩

/-- What the server has read of the calls is a first part of them, and all if all was read. -/
theorem Linked.dispatched {connection : Connection} (linked : Linked codec connection)
    {left : List (Message FileDescriptor)}
    (sound : SideChannel.Sound (protocol codec dispatch) connection.link left) :
    connection.dispatched codec <+: connection.invoked ∧
      (left = [] → connection.dispatched codec = connection.invoked) := by
  have decodes : (connection.link.sent.map fun message =>
      (⟨codec.parse message.body, message.sets.flatten⟩ : Call)) = connection.invoked := by
    rw [linked.sent, List.map_map]
    exact (List.map_congr_left fun call member => (linked.sendable call member).decode).trans
      (List.map_id _)
  have sent := sound.sent
  refine ⟨?_, fun isNil => ?_⟩
  · rw [← decodes]
    exact List.IsPrefix.map _ ⟨left, sent.symm⟩
  · rw [isNil, List.append_nil] at sent
    rw [← decodes, sent]
    rfl

/-- A connection and its link take the same steps. -/
theorem run_linked (ops : List SocketOp) (allowed : ∀ op ∈ ops, Allowed codec op)
    {connection : Connection} (linked : Linked codec connection) :
    Linked codec (ops.foldl (Connection.step codec dispatch) connection) ∧
      (ops.foldl (Connection.step codec dispatch) connection).link =
        (ops.map (toOp codec)).foldl (protocol codec dispatch).step connection.link := by
  induction ops generalizing connection with
  | nil => exact ⟨linked, rfl⟩
  | cons op rest inductionHypothesis =>
    have linkedFirst : Linked codec (connection.step codec dispatch op) :=
      linked.step op (allowed op List.mem_cons_self)
    obtain ⟨linkedNow, sameNow⟩ := inductionHypothesis
      (fun other later => allowed other (List.mem_cons_of_mem _ later)) linkedFirst
    refine ⟨linkedNow, sameNow.trans ?_⟩
    rw [link_step]
    rfl

/-- In every order in which threads of the client invoke, the socket takes parts of what they write
and the server reads parts of what it asks for: the server dispatches the invocations in the order
in which they were made, none of them twice and each with its own descriptors, none is rejected and
no descriptor is discarded; and when all is written and read, all is dispatched. -/
theorem invocations_arrive (ops : List SocketOp) (allowed : ∀ op ∈ ops, Allowed codec op)
    (isWhole : (ops.foldl (Connection.step codec dispatch) .initial).link.broken = false) :
    let connection := ops.foldl (Connection.step codec dispatch) .initial
    connection.dispatched codec <+: connection.invoked ∧
      connection.link.receiver.refused = none ∧
      (connection.link.writing = none → connection.link.stream = [] →
        connection.dispatched codec = connection.invoked) := by
  intro connection
  obtain ⟨linked, sameLink⟩ := run_linked ops allowed linked_initial
  have begins : ∀ op ∈ ops.map (toOp codec),
      SideChannel.Allowed (protocol codec dispatch) op := by
    intro op member
    obtain ⟨socketOp, isOp, rfl⟩ := List.mem_map.mp member
    cases socketOp with
    | invoke call => exact (allowed _ isOp : IsSendable codec call).wellFormed
    | _ => trivial
  have isLink : connection.link =
      (ops.map (toOp codec)).foldl (protocol codec dispatch).step Link.initial := sameLink
  obtain ⟨left, sound⟩ := SideChannel.foldl_sound (ops.map (toOp codec)) SideChannel.sound_initial
    begins (sameLink ▸ isWhole)
  rw [← isLink] at sound
  obtain ⟨isPrefix, complete⟩ := linked.dispatched sound
  exact ⟨isPrefix, sound.refused, fun isWritten isRead => complete (sound.complete isWritten isRead)⟩

/-- An operation of the graphics platform, with one descriptor, and the end of the connection. -/
def operation : Call := invocationFor 1 "platform_operation" [8, 1, 24, 10] 16384 [5]

def disconnect : Call := invocationFor 2 "disconnect" [] 16384 []

def operationBytes : List UInt8 :=
  [8, 1, 18, 18, 112, 108, 97, 116, 102, 111, 114, 109, 95, 111, 112, 101, 114, 97, 116, 105, 111,
    110, 26, 4, 8, 1, 24, 10, 32, 128, 128, 1, 40, 1]

def disconnectBytes : List UInt8 :=
  [8, 2, 18, 10, 100, 105, 115, 99, 111, 110, 110, 101, 99, 116, 26, 0, 32, 128, 128, 1, 40, 0]

/-- The bytes of the two invocations. -/
def twoInvocations : Codec where
  serialize invocation := if invocation.id = 1 then operationBytes else disconnectBytes
  parse body := if body = operationBytes then operation.invocation else disconnect.invocation

/-- Both are invoked and dispatched, in parts. -/
def inParts : List SocketOp :=
  [.invoke operation, .written 20, .received 1, .received 1, .invoke disconnect, .written 16,
    .received 30, .received 4, .written 1, .received 1, .invoke disconnect, .written 24,
    .received 2, .received 22]

theorem invocations_arrive_in_parts :
    (inParts.foldl (Connection.step twoInvocations fun invocation => invocation.id = 1)
      .initial).dispatched twoInvocations <+: [operation, disconnect] := by
  have allowed : ∀ op ∈ inParts, Allowed twoInvocations op := by
    have sendsOperation : IsSendable twoInvocations operation :=
      isSendable_invocationFor (by decide) (by decide) (by decide) (by decide)
    have sendsDisconnect : IsSendable twoInvocations disconnect :=
      isSendable_invocationFor (by decide) (by decide) (by decide) (by decide)
    intro op member
    cases op with
    | invoke call =>
      have either : call = operation ∨ call = disconnect := by
        simpa [inParts] using member
      rcases either with rfl | rfl
      · exact sendsOperation
      · exact sendsDisconnect
    | _ => trivial
  exact (invocations_arrive inParts allowed (by decide +kernel)).1

end Mir.Frontend.InvocationStream

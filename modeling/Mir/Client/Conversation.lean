/-
This file embeds the conversation of a client and the server over a connection: threads of the
client save what completes a call and then, one at a time, send the invocation; the server answers
what it has dispatched, in any order, and sends events in between; the client reads results, looks
up the call that a result is for and completes it. Each direction is a stream of which any part is
written and read at a time.

It proves that in every order of these steps each answer comes to the call it is for, with its
descriptors, and completes it once. A call is saved before it is sent, so that its answer cannot
come too early; and as the client learns from a pending call how many descriptors come with an
answer, it would lose its place in the stream otherwise.
-/

import Mathlib.Data.List.Nodup
import Mir.Client.PendingCalls
import Mir.Frontend.ResultStream
import Mir.Library.Crew
import Mir.Library.Transition

namespace Mir.Client

open Frontend Frontend.InvocationStream Frontend.ResultStream
open PendingCalls (messageId)
open SideChannel (Link)

/-- `made` are the methods of all calls that were made, each with its place as its id. Of these,
`unsent` wait for the lock to be sent. `answered` is what the server has answered, `said` what it
has sent, and `done` what the client has done about it. -/
structure Conversation where
  made : List String
  unsent : List InvocationStream.Call
  pendingCalls : OrderedMap Int ResponseType
  up : InvocationStream.Connection
  answered : List UInt32
  said : List ServerMessage
  down : Link FileDescriptor Failure
  done : List ClientAction

/-- How invocations and results are written and read, and after which invocations the server goes on
reading. -/
structure Wire where
  invocations : InvocationStream.Codec
  results : ResultStream.Codec
  dispatch : WireInvocation → Bool

namespace Conversation

inductive Op
  | call (methodName : String) (request : List UInt8) (fds : List FileDescriptor)
  | send (place : Nat)
  | invocationWritten (count : Nat)
  | invocationRead (count : Nat)
  | answer (place : Nat) (response : ResultStream.Response)
  | sendBuffer (data : List UInt8) (buffer : Carrier)
  | sendEventSequence (data : List UInt8) (errorBuffer : Option (List UInt8))
  | resultWritten (count : Nat)
  | resultRead (count : Nat)

def initial : Conversation where
  made := []
  unsent := []
  pendingCalls := .empty
  up := .initial
  answered := []
  said := []
  down := .initial
  done := []

variable (wire : Wire) (conversation : Conversation)

/-! ### The client calls -/

def nextId : UInt32 := UInt32.ofNat conversation.made.length

def nextCall (methodName : String) (request : List UInt8) (fds : List FileDescriptor) :
    InvocationStream.Call :=
  invocationFor conversation.nextId methodName request (UInt32.ofNat currentProtocolVersion) fds

/-- The pending call that an id stands for expects a response of some type. -/
def expects (id : UInt32) : Option ResponseType :=
  conversation.pendingCalls.find (messageId id.toNat)

/-- `call_method` up to `send_message`. -/
def callMethod (methodName : String) (request : List UInt8) (fds : List FileDescriptor) :
    Conversation :=
  { conversation with
    made := conversation.made ++ [methodName]
    unsent := conversation.unsent ++ [conversation.nextCall methodName request fds]
    pendingCalls :=
      conversation.pendingCalls.set (messageId conversation.nextId.toNat) (responseType methodName) }

/-- One of the threads that have made a call gets the lock. -/
def sendMessage (place : Nat) : Conversation :=
  match conversation.unsent[place]?, conversation.up.link.writing with
  | some call, none =>
    { conversation with
      unsent := conversation.unsent.eraseIdx place
      up := conversation.up.step wire.invocations wire.dispatch (.invoke call) }
  | _, _ => conversation

/-! ### The server -/

/-- The invocations that were dispatched and are not answered. -/
def unanswered : List WireInvocation :=
  ((conversation.up.dispatched wire.invocations).map InvocationStream.Call.invocation).filter
    fun invocation => invocation.id ∉ conversation.answered

/-- The messenger has a lock, too. -/
def say (message : ServerMessage) : Conversation :=
  match conversation.down.writing with
  | none =>
    { conversation with
      said := conversation.said ++ [message]
      down := (protocol wire.results conversation.expects).begin conversation.down
        (message.message wire.results) }
  | some _ => conversation

/-- A method answers with a response of its type. -/
def answer (place : Nat) (response : ResultStream.Response) : Conversation :=
  match (conversation.unanswered wire)[place]?, conversation.down.writing with
  | some invocation, none =>
    if response.type = responseType invocation.methodName then
      { conversation with answered := conversation.answered ++ [invocation.id] }.say wire
        (.answer invocation.id response)
    else conversation
  | _, _ => conversation

/-! ### The client reads -/

/-- A call that is completed is pending no longer. -/
def settle (pendingCalls : OrderedMap Int ResponseType) :
    ClientAction → OrderedMap Int ResponseType
  | .completed id _ => pendingCalls.erase (messageId id.toNat)
  | _ => pendingCalls

def hear (message : SideChannel.Message FileDescriptor) : Conversation :=
  let actions := onDataAvailable wire.results conversation.expects message
  { conversation with
    done := conversation.done ++ actions
    pendingCalls := actions.foldl settle conversation.pendingCalls }

/-- The client reads as much as it gets, and does what it has read of as a whole. -/
def resultRead (count : Nat) : Conversation :=
  let down := (protocol wire.results conversation.expects).receive conversation.down count
  (down.receiver.delivered.drop conversation.down.receiver.delivered.length).foldl (hear wire)
    { conversation with down }

def step : Op → Conversation
  | .call methodName request fds => conversation.callMethod methodName request fds
  | .send place => conversation.sendMessage wire place
  | .invocationWritten count =>
    { conversation with
      up := conversation.up.step wire.invocations wire.dispatch (.written count) }
  | .invocationRead count =>
    { conversation with
      up := conversation.up.step wire.invocations wire.dispatch (.received count) }
  | .answer place response => conversation.answer wire place response
  | .sendBuffer data buffer => conversation.say wire (.sendBuffer data buffer)
  | .sendEventSequence data errorBuffer =>
    conversation.say wire (.sendEventSequence data errorBuffer)
  | .resultWritten count =>
    { conversation with down := SideChannel.Protocol.write conversation.down count }
  | .resultRead count => conversation.resultRead wire count

/-- Messages are read as they were written and fit into a header, and there is a new id for each
call. -/
def Allowed (conversation : Conversation) : Op → Prop
  | .call methodName request fds =>
    conversation.made.length < 2 ^ 32 ∧
      InvocationStream.IsSendable wire.invocations (conversation.nextCall methodName request fds)
  | .answer place response =>
    ∀ invocation ∈ (conversation.unanswered wire)[place]?,
      ResultStream.IsSendable wire.results (.answer invocation.id response)
  | .sendBuffer data buffer => ResultStream.IsSendable wire.results (.sendBuffer data buffer)
  | .sendEventSequence data errorBuffer =>
    ResultStream.IsSendable wire.results (.sendEventSequence data errorBuffer)
  | _ => True

instance decidableAllowed : ∀ op, Decidable (conversation.Allowed wire op)
  | .call methodName request fds =>
    inferInstanceAs (Decidable (conversation.made.length < 2 ^ 32 ∧
      InvocationStream.IsSendable wire.invocations
        (conversation.nextCall methodName request fds)))
  | .answer place response =>
    inferInstanceAs (Decidable (∀ invocation ∈ (conversation.unanswered wire)[place]?,
      ResultStream.IsSendable wire.results (.answer invocation.id response)))
  | .sendBuffer data buffer =>
    inferInstanceAs (Decidable
      (ResultStream.IsSendable wire.results (.sendBuffer data buffer)))
  | .sendEventSequence data errorBuffer =>
    inferInstanceAs (Decidable
      (ResultStream.IsSendable wire.results (.sendEventSequence data errorBuffer)))
  | .send _ | .invocationWritten _ | .invocationRead _ | .resultWritten _ | .resultRead _ =>
    inferInstanceAs (Decidable True)

/-! ### Ids -/

/-- The type of the response to the call with an id. -/
def typeOf (made : List String) (id : UInt32) : Option ResponseType :=
  made[id.toNat]?.map responseType

theorem messageId_eq_iff (first second : UInt32) :
    messageId first.toNat = messageId second.toNat ↔ first = second := by
  have short (id : UInt32) : id.toNat % 2 ^ 32 = id.toNat := Nat.mod_eq_of_lt id.toNat_lt
  rw [PendingCalls.messageId_eq, short, short, UInt32.toNat_inj]

variable {wire : Wire} {conversation : Conversation} {made : List String}

theorem toNat_nextId (few : conversation.made.length < 2 ^ 32) :
    conversation.nextId.toNat = conversation.made.length :=
  UInt32.toNat_ofNat_of_lt' few

theorem typeOf_append {id : UInt32} {type : ResponseType} (known : typeOf made id = some type)
    (methodName : String) : typeOf (made ++ [methodName]) id = some type := by
  unfold typeOf at known ⊢
  obtain ⟨method, isMethod, rfl⟩ := Option.map_eq_some_iff.mp known
  obtain ⟨inside, -⟩ := List.getElem?_eq_some_iff.mp isMethod
  rw [List.getElem?_append_left inside, isMethod]
  rfl

theorem typeOf_append_of_ne {id : UInt32} (other : id.toNat ≠ made.length) (methodName : String) :
    typeOf (made ++ [methodName]) id = typeOf made id := by
  unfold typeOf
  rcases Nat.lt_or_ge id.toNat made.length with inside | outside
  · rw [List.getElem?_append_left inside]
  · have beyond : made.length < id.toNat := Nat.lt_of_le_of_ne outside (Ne.symm other)
    rw [List.getElem?_eq_none_iff.mpr outside, List.getElem?_eq_none_iff.mpr]
    rw [List.length_append, List.length_singleton]
    exact beyond

theorem typeOf_append_self {id : UInt32} (isNew : id.toNat = made.length) (methodName : String) :
    typeOf (made ++ [methodName]) id = some (responseType methodName) := by
  unfold typeOf
  rw [isNew, List.getElem?_append_right le_rfl, Nat.sub_self]
  rfl

theorem typeOf_eq_none {id : UInt32} (isNew : id.toNat = made.length) :
    typeOf made id = none := by
  unfold typeOf
  rw [List.getElem?_eq_none_iff.mpr (Nat.le_of_eq isNew.symm)]
  rfl

/-- The call that a message of the server answers. -/
def answeredId : ServerMessage → Option UInt32
  | .answer id _ => some id
  | _ => none

def answeredIds (said : List ServerMessage) : List UInt32 := said.filterMap answeredId

/-- The call that an action of the client completes. -/
def completedId : ClientAction → Option UInt32
  | .completed id _ => some id
  | _ => none

theorem completedId_received (message : ServerMessage) :
    completedId message.received = answeredId message := by
  cases message <;> rfl

/-! ### What every step keeps -/

def ids (calls : List InvocationStream.Call) : List UInt32 :=
  calls.map fun call => call.invocation.id

/-- The calls that were made are those that wait to be sent and those that were sent, each with the
id that it was given and its method. -/
structure Upward (wire : Wire) (conversation : Conversation) : Prop where
  linked : Linked wire.invocations conversation.up
  sound : ∃ left, SideChannel.Sound (InvocationStream.protocol wire.invocations wire.dispatch)
    conversation.up.link left
  made : (ids (conversation.unsent ++ conversation.up.invoked)).Perm
    ((List.range conversation.made.length).map UInt32.ofNat)
  few : conversation.made.length ≤ 2 ^ 32
  methods : ∀ call ∈ conversation.unsent ++ conversation.up.invoked,
    conversation.made[call.invocation.id.toNat]? = some call.invocation.methodName
  sendable : ∀ call ∈ conversation.unsent, InvocationStream.IsSendable wire.invocations call

/-- The client has heard a first part of what the server said, and done what it says; the other
answers are for calls that are pending. -/
structure Downward (wire : Wire) (conversation : Conversation) (heard unheard : List ServerMessage) :
    Prop where
  said : conversation.said = heard ++ unheard
  done : conversation.done = heard.map ServerMessage.received
  delivered : conversation.down.receiver.delivered =
    heard.map (ServerMessage.message wire.results)
  sound : SideChannel.Sound (protocol wire.results (typeOf conversation.made)) conversation.down
    (unheard.map (ServerMessage.message wire.results))
  expects : ∀ id, conversation.expects id =
    if id ∈ answeredIds heard then none else typeOf conversation.made id
  answered : answeredIds conversation.said = conversation.answered
  once : conversation.answered.Nodup
  sendable : ∀ message ∈ conversation.said, ResultStream.IsSendable wire.results message
  expected : ∀ message ∈ conversation.said, IsExpected (typeOf conversation.made) message

/-- Only what was dispatched is answered. -/
structure Sound (wire : Wire) (conversation : Conversation) (heard unheard : List ServerMessage) :
    Prop where
  upward : conversation.Upward wire
  downward : conversation.Downward wire heard unheard
  dispatched : ∀ id ∈ conversation.answered,
    id ∈ ids (conversation.up.dispatched wire.invocations)

variable {heard unheard : List ServerMessage}

theorem initial_sound : initial.Sound wire [] [] := by
  refine ⟨⟨linked_initial, ⟨[], SideChannel.sound_initial⟩, .nil, Nat.zero_le _, ?_, ?_⟩,
    ⟨rfl, rfl, rfl, SideChannel.sound_initial, fun id => rfl, rfl, List.nodup_nil, ?_, ?_⟩, ?_⟩
  all_goals
    intro element member
    cases member

/-! ### Calls -/

/-- An answer that was given is for a call that was made before. -/
theorem Downward.notMem_answeredIds (downward : conversation.Downward wire heard unheard)
    {id : UInt32} (isNew : id.toNat = conversation.made.length) : id ∉ answeredIds heard := by
  intro member
  obtain ⟨message, among, isAnswer⟩ := List.mem_filterMap.mp member
  cases message with
  | answer other response =>
    cases isAnswer
    have isExpected := downward.expected _ (downward.said ▸ List.mem_append_left _ among) id
      response rfl
    rw [typeOf_eq_none isNew] at isExpected
    cases isExpected
  | sendBuffer data buffer => cases isAnswer
  | sendEventSequence data errorBuffer => cases isAnswer

/-- The type of a response is known once and for all. -/
theorem IsExpected.append {message : ServerMessage} (expected : IsExpected (typeOf made) message)
    (methodName : String) : IsExpected (typeOf (made ++ [methodName])) message :=
  fun id response isAnswer => typeOf_append (expected id response isAnswer) methodName

theorem Upward.callMethod (upward : conversation.Upward wire) {methodName : String}
    {request : List UInt8} {fds : List FileDescriptor}
    (few : conversation.made.length < 2 ^ 32)
    (sendable : InvocationStream.IsSendable wire.invocations
      (conversation.nextCall methodName request fds)) :
    (conversation.callMethod methodName request fds).Upward wire where
  linked := upward.linked
  sound := upward.sound
  made := by
    show (ids ((conversation.unsent ++ [conversation.nextCall methodName request fds]) ++
      conversation.up.invoked)).Perm
        ((List.range (conversation.made ++ [methodName]).length).map UInt32.ofNat)
    rw [List.length_append, List.length_singleton, List.range_succ, List.map_append, ids,
      List.append_assoc, List.map_append, List.map_append]
    refine (List.Perm.append_left _ List.perm_append_comm).trans ?_
    rw [← List.append_assoc, ← List.map_append]
    exact upward.made.append_right _
  few := by
    show (conversation.made ++ [methodName]).length ≤ 2 ^ 32
    rw [List.length_append, List.length_singleton]
    exact few
  methods := by
    have isOld : ∀ call ∈ conversation.unsent ++ conversation.up.invoked,
        (conversation.made ++ [methodName])[call.invocation.id.toNat]? =
          some call.invocation.methodName := by
      intro call member
      have isMethod := upward.methods call member
      rw [List.getElem?_append_left (List.getElem?_eq_some_iff.mp isMethod).1, isMethod]
    intro call member
    rcases List.mem_append.mp member with waits | sent
    · rcases List.mem_append.mp waits with before | new
      · exact isOld call (List.mem_append_left _ before)
      · rw [List.mem_singleton.mp new]
        show (conversation.made ++ [methodName])[conversation.nextId.toNat]? = some methodName
        rw [toNat_nextId few, List.getElem?_append_right le_rfl, Nat.sub_self]
        rfl
    · exact isOld call (List.mem_append_right _ sent)
  sendable := by
    intro call member
    rcases List.mem_append.mp member with before | new
    · exact upward.sendable call before
    · rw [List.mem_singleton.mp new]
      exact sendable

theorem Downward.callMethod (downward : conversation.Downward wire heard unheard)
    (methodName : String) (request : List UInt8) (fds : List FileDescriptor)
    (few : conversation.made.length < 2 ^ 32) :
    (conversation.callMethod methodName request fds).Downward wire heard unheard where
  said := downward.said
  done := downward.done
  delivered := downward.delivered
  sound := by
    refine downward.sound.withOnBody _ fun message member => ?_
    rw [downward.sound.sent, downward.delivered, ← List.map_append, ← downward.said] at member
    obtain ⟨said, among, rfl⟩ := List.mem_map.mp member
    exact congrArg Except.ok ((downward.sendable said among).fdsAfter
      (IsExpected.append (downward.expected said among) methodName))
  expects := by
    intro id
    show (conversation.pendingCalls.set _ _).find _ = _
    have isNew := toNat_nextId few
    rw [OrderedMap.find_set]
    by_cases same : id = conversation.nextId
    · rw [same, if_pos rfl, if_neg (downward.notMem_answeredIds isNew)]
      exact (typeOf_append_self isNew methodName).symm
    · rw [if_neg (mt (messageId_eq_iff _ _).mp same)]
      refine (downward.expects id).trans ?_
      have other : id.toNat ≠ conversation.made.length := fun equal =>
        same (UInt32.toNat_inj.mp (equal.trans isNew.symm))
      exact congrArg (fun type => if id ∈ answeredIds heard then none else type)
        (typeOf_append_of_ne other methodName).symm
  answered := downward.answered
  once := downward.once
  sendable := downward.sendable
  expected message member := IsExpected.append (downward.expected message member) methodName

/-! ### The stream of invocations -/

theorem Upward.ofStep (upward : conversation.Upward wire) (op : SocketOp)
    (allowed : InvocationStream.Allowed wire.invocations op)
    (sound : ∃ left, SideChannel.Sound (InvocationStream.protocol wire.invocations wire.dispatch)
      (conversation.up.step wire.invocations wire.dispatch op).link left)
    {unsent : List InvocationStream.Call}
    (moved : (unsent ++ (conversation.up.step wire.invocations wire.dispatch op).invoked).Perm
      (conversation.unsent ++ conversation.up.invoked))
    (fewer : ∀ call ∈ unsent, call ∈ conversation.unsent) :
    { conversation with
      unsent
      up := conversation.up.step wire.invocations wire.dispatch op }.Upward wire where
  linked := upward.linked.step op allowed
  sound := sound
  made := (moved.map _).trans upward.made
  few := upward.few
  methods call member := upward.methods call (moved.mem_iff.mp member)
  sendable call member := upward.sendable call (fewer call member)

/-- What was dispatched stays so. -/
theorem dispatched_receive (connection : InvocationStream.Connection) (count : Nat) {id : UInt32}
    {left} (sound : SideChannel.Sound
      (InvocationStream.protocol wire.invocations wire.dispatch) connection.link left)
    (member : id ∈ ids (connection.dispatched wire.invocations)) :
    id ∈ ids ((connection.step wire.invocations wire.dispatch (.received count)).dispatched
      wire.invocations) := by
  obtain ⟨done, -, -, delivers, -⟩ := sound.receive_delivers count
  unfold InvocationStream.Connection.dispatched at member ⊢
  rw [link_step]
  show id ∈ ids (((SideChannel.Protocol.receive _ connection.link count).receiver.delivered).map _)
  rw [delivers, List.map_append, ids, List.map_append]
  exact List.mem_append_left _ member

/-- The invocations are dispatched in another state of the stream, too. -/
theorem Sound.ofUp (sound : conversation.Sound wire heard unheard)
    {unsent : List InvocationStream.Call} {up : InvocationStream.Connection}
    (upward : { conversation with unsent, up }.Upward wire)
    (dispatched : ∀ id ∈ ids (conversation.up.dispatched wire.invocations),
      id ∈ ids (up.dispatched wire.invocations)) :
    { conversation with unsent, up }.Sound wire heard unheard where
  upward := upward
  downward :=
    { said := sound.downward.said
      done := sound.downward.done
      delivered := sound.downward.delivered
      sound := sound.downward.sound
      expects := sound.downward.expects
      answered := sound.downward.answered
      once := sound.downward.once
      sendable := sound.downward.sendable
      expected := sound.downward.expected }
  dispatched id member := dispatched id (sound.dispatched id member)

theorem Sound.sendMessage (sound : conversation.Sound wire heard unheard) (place : Nat) :
    (conversation.sendMessage wire place).Sound wire heard unheard := by
  unfold Conversation.sendMessage
  split
  · rename_i call isAt isFree
    have sendable := sound.upward.sendable call (List.mem_of_getElem? isAt)
    obtain ⟨left, upSound⟩ := sound.upward.sound
    have invoked : (conversation.up.step wire.invocations wire.dispatch (.invoke call)).invoked =
        conversation.up.invoked ++ [call] := by
      unfold InvocationStream.Connection.step InvocationStream.Connection.invoke
      dsimp only
      rw [isFree]
    have delivered : (conversation.up.step wire.invocations wire.dispatch
        (.invoke call)).link.receiver = conversation.up.link.receiver := by
      show (SideChannel.Protocol.begin _ conversation.up.link _).receiver = _
      unfold SideChannel.Protocol.begin
      rw [isFree]
    refine sound.ofUp (sound.upward.ofStep (.invoke call) sendable
      (upSound.begin sendable.wellFormed) ?_ fun other => List.mem_of_mem_eraseIdx) ?_
    · rw [invoked]
      have moved : conversation.unsent.Perm (call :: conversation.unsent.eraseIdx place) :=
        Crew.perm_eraseIdx isAt
      refine (List.Perm.append_left _ List.perm_append_comm).trans ?_
      rw [← List.append_assoc]
      exact (List.perm_append_comm.trans moved.symm).append_right _
    · intro id member
      unfold InvocationStream.Connection.dispatched at member ⊢
      rwa [delivered]
  · exact sound

theorem Sound.invocationWritten (sound : conversation.Sound wire heard unheard) (count : Nat) :
    { conversation with
      up := conversation.up.step wire.invocations wire.dispatch (.written count) }.Sound wire heard
      unheard := by
  obtain ⟨left, upSound⟩ := sound.upward.sound
  have delivered : (conversation.up.step wire.invocations wire.dispatch
      (.written count)).link.receiver = conversation.up.link.receiver := by
    exact SideChannel.write_receiver _ count
  refine sound.ofUp (sound.upward.ofStep (.written count) trivial ⟨left, upSound.write count⟩
    (List.Perm.refl _) fun _ => id) fun id member => ?_
  unfold InvocationStream.Connection.dispatched at member ⊢
  rwa [delivered]

theorem Sound.invocationRead (sound : conversation.Sound wire heard unheard) (count : Nat) :
    { conversation with
      up := conversation.up.step wire.invocations wire.dispatch (.received count) }.Sound wire
      heard unheard := by
  obtain ⟨left, upSound⟩ := sound.upward.sound
  refine sound.ofUp (sound.upward.ofStep (.received count) trivial (upSound.receive count)
    (List.Perm.refl _) fun _ => id) fun id => ?_
  exact dispatched_receive conversation.up count upSound

/-! ### The stream of results -/

/-- What the server says is one of the things that the client expects. -/
theorem Downward.say (downward : conversation.Downward wire heard unheard)
    (message : ServerMessage) (isFree : conversation.down.writing = none) (answered : List UInt32)
    (sendable : ResultStream.IsSendable wire.results message)
    (expected : IsExpected (typeOf conversation.made) message)
    (isAnswered : answered = conversation.answered ++ answeredIds [message])
    (once : answered.Nodup) :
    ({ conversation with answered }.say wire message).Downward wire heard
      (unheard ++ [message]) := by
  have down : ({ conversation with answered }.say wire message) =
      { conversation with
        answered
        said := conversation.said ++ [message]
        down :=
          { conversation.down with
            writing := some ((protocol wire.results (typeOf conversation.made)).encode
              (message.message wire.results))
            sent := conversation.down.sent ++ [message.message wire.results] } } := by
    unfold Conversation.say SideChannel.Protocol.begin
    dsimp only
    rw [isFree]
    rfl
  have begun : SideChannel.Protocol.begin
      (protocol wire.results (typeOf conversation.made)) conversation.down
        (message.message wire.results) =
      { conversation.down with
        writing := some ((protocol wire.results (typeOf conversation.made)).encode
          (message.message wire.results))
        sent := conversation.down.sent ++ [message.message wire.results] } := by
    unfold SideChannel.Protocol.begin
    rw [isFree]
  have same (id : UInt32) := downward.expects id
  have answers := downward.answered
  obtain ⟨left, sound⟩ := downward.sound.begin (sendable.wellFormed expected)
  rw [begun] at sound
  have isLeft : left = (unheard ++ [message]).map (ServerMessage.message wire.results) := by
    have sent : conversation.down.sent ++ [message.message wire.results] =
        conversation.down.receiver.delivered ++ left := sound.sent
    rw [downward.sound.sent, List.append_assoc] at sent
    rw [List.map_append]
    exact (List.append_cancel_left sent).symm
  subst isLeft
  rw [down]
  refine ⟨?_, downward.done, downward.delivered, sound, same, ?_, once, ?_, ?_⟩
  · show conversation.said ++ [message] = _
    rw [downward.said, List.append_assoc]
  · show answeredIds (conversation.said ++ [message]) = answered
    rw [isAnswered, ← answers]
    exact List.filterMap_append
  · intro other member
    rcases List.mem_append.mp member with before | new
    · exact downward.sendable other before
    · rw [List.mem_singleton.mp new]
      exact sendable
  · intro other member
    rcases List.mem_append.mp member with before | new
    · exact downward.expected other before
    · rw [List.mem_singleton.mp new]
      exact expected

theorem say_up (wire : Wire) (conversation : Conversation) (message : ServerMessage) :
    (conversation.say wire message).up = conversation.up ∧
      (conversation.say wire message).unsent = conversation.unsent ∧
      (conversation.say wire message).made = conversation.made ∧
      (conversation.say wire message).answered = conversation.answered := by
  unfold Conversation.say
  split <;> exact ⟨rfl, rfl, rfl, rfl⟩

theorem Upward.same (upward : conversation.Upward wire) {next : Conversation}
    (up : next.up = conversation.up) (unsent : next.unsent = conversation.unsent)
    (isMade : next.made = conversation.made) : next.Upward wire := by
  obtain ⟨linked, sound, made, few, methods, sendable⟩ := upward
  constructor
  · rwa [up]
  · rwa [up]
  · rwa [up, unsent, isMade]
  · rwa [isMade]
  · rwa [up, unsent, isMade]
  · rwa [unsent]

/-- Events are not answers. -/
theorem Sound.sayEvents (sound : conversation.Sound wire heard unheard) (message : ServerMessage)
    (sendable : ResultStream.IsSendable wire.results message)
    (isEvent : answeredId message = none) :
    ∃ unheard, (conversation.say wire message).Sound wire heard unheard := by
  cases isFree : conversation.down.writing with
  | some left =>
    refine ⟨unheard, ?_⟩
    unfold Conversation.say
    rw [isFree]
    exact sound
  | none =>
    have noAnswer : answeredIds [message] = [] := by
      unfold answeredIds
      rw [List.filterMap_cons, isEvent]
      rfl
    have expected : IsExpected (typeOf conversation.made) message := by
      intro id response isAnswer
      rw [isAnswer] at isEvent
      cases isEvent
    obtain ⟨up, unsent, made, answered⟩ := say_up wire conversation message
    refine ⟨unheard ++ [message], sound.upward.same up unsent made, ?_, ?_⟩
    · refine sound.downward.say message isFree conversation.answered sendable expected ?_
        sound.downward.once
      rw [noAnswer, List.append_nil]
    · rw [up, answered]
      exact sound.dispatched

/-- An answer is for a call that was dispatched, and was not answered yet. -/
theorem Sound.answer (sound : conversation.Sound wire heard unheard) (place : Nat)
    (response : ResultStream.Response)
    (sendable : ∀ invocation ∈ (conversation.unanswered wire)[place]?,
      ResultStream.IsSendable wire.results (.answer invocation.id response)) :
    ∃ unheard, (conversation.answer wire place response).Sound wire heard unheard := by
  unfold Conversation.answer
  split
  · rename_i invocation isAt isFree
    split
    · rename_i isType
      have member := List.mem_of_getElem? isAt
      obtain ⟨isDispatched, isNew⟩ := List.mem_filter.mp member
      obtain ⟨call, among, rfl⟩ := List.mem_map.mp isDispatched
      have notYet : call.invocation.id ∉ conversation.answered := of_decide_eq_true isNew
      have isExpected : typeOf conversation.made call.invocation.id = some response.type := by
        obtain ⟨left, upSound⟩ := sound.upward.sound
        have invoked := (sound.upward.linked.dispatched upSound).1.subset among
        unfold typeOf
        rw [sound.upward.methods call (List.mem_append_right _ invoked), isType]
        rfl
      have expected : IsExpected (typeOf conversation.made)
          (.answer call.invocation.id response) := by
        intro id other same
        cases same
        exact isExpected
      have once : (conversation.answered ++ [call.invocation.id]).Nodup := by
        refine List.nodup_append.mpr ⟨sound.downward.once, List.nodup_singleton _, ?_⟩
        intro id before other new
        rw [List.mem_singleton.mp new]
        exact fun same => notYet (same ▸ before)
      obtain ⟨up, unsent, made, answered⟩ := say_up wire
        { conversation with answered := conversation.answered ++ [call.invocation.id] }
        (.answer call.invocation.id response)
      refine ⟨unheard ++ [.answer call.invocation.id response], ?_, ?_, ?_⟩
      · exact sound.upward.same up unsent made
      · exact sound.downward.say _ isFree _ (sendable call.invocation isAt) expected rfl once
      · rw [up, answered]
        intro id member
        rcases List.mem_append.mp member with before | new
        · exact sound.dispatched id before
        · rw [List.mem_singleton.mp new]
          exact List.mem_map_of_mem among
    · exact ⟨unheard, sound⟩
  · exact ⟨unheard, sound⟩

theorem Sound.resultWritten (sound : conversation.Sound wire heard unheard) (count : Nat) :
    { conversation with
      down := SideChannel.Protocol.write conversation.down count }.Sound wire heard unheard where
  upward := sound.upward.same rfl rfl rfl
  downward :=
    { said := sound.downward.said
      done := sound.downward.done
      delivered := by
        show (SideChannel.Protocol.write conversation.down count).receiver.delivered = _
        rw [SideChannel.write_receiver]
        exact sound.downward.delivered
      sound := sound.downward.sound.write count
      expects := sound.downward.expects
      answered := sound.downward.answered
      once := sound.downward.once
      sendable := sound.downward.sendable
      expected := sound.downward.expected }
  dispatched := sound.dispatched

/-! ### The client hears -/

theorem mem_answeredIds_append {message : ServerMessage} {id : UInt32} :
    id ∈ answeredIds (heard ++ [message]) ↔
      id ∈ answeredIds heard ∨ answeredId message = some id := by
  unfold answeredIds
  rw [List.filterMap_append, List.mem_append]
  refine or_congr_right ?_
  rw [List.mem_filterMap]
  exact ⟨fun ⟨_, new, isAnswer⟩ => List.mem_singleton.mp new ▸ isAnswer,
    fun isAnswer => ⟨message, List.mem_singleton_self _, isAnswer⟩⟩

/-- A call is settled by its own answer. -/
theorem find_settle (pendingCalls : OrderedMap Int ResponseType) (message : ServerMessage)
    (id : UInt32) :
    (settle pendingCalls message.received).find (messageId id.toNat) =
      if answeredId message = some id then none
      else pendingCalls.find (messageId id.toNat) := by
  cases message with
  | answer other response =>
    show (pendingCalls.erase (messageId other.toNat)).find _ = _
    rw [OrderedMap.find_erase]
    refine if_congr ?_ rfl rfl
    rw [messageId_eq_iff]
    exact ⟨fun same => congrArg some same.symm, fun same => (Option.some.inj same).symm⟩
  | sendBuffer data buffer => rfl
  | sendEventSequence data errorBuffer => rfl

/-- What the client does about messages that it has read. -/
theorem hear_all (conversation : Conversation) (new heard : List ServerMessage)
    (sendable : ∀ message ∈ new, ResultStream.IsSendable wire.results message)
    (expected : ∀ message ∈ new, IsExpected (typeOf conversation.made) message)
    (once : (answeredIds (heard ++ new)).Nodup)
    (done : conversation.done = heard.map ServerMessage.received)
    (expects : ∀ id, conversation.expects id =
      if id ∈ answeredIds heard then none else typeOf conversation.made id) :
    ∃ pendingCalls,
      (new.map (ServerMessage.message wire.results)).foldl (hear wire) conversation =
        { conversation with
          done := (heard ++ new).map ServerMessage.received
          pendingCalls } ∧
      ∀ id, pendingCalls.find (messageId id.toNat) =
        if id ∈ answeredIds (heard ++ new) then none else typeOf conversation.made id := by
  induction new generalizing conversation heard with
  | nil =>
    refine ⟨conversation.pendingCalls, ?_, ?_⟩
    · rw [List.append_nil, ← done]
      rfl
    · rw [List.append_nil]
      exact expects
  | cons message rest inductionHypothesis =>
    have whole : heard ++ message :: rest = (heard ++ [message]) ++ rest := by
      rw [List.append_assoc, List.singleton_append]
    have isExpected : IsExpected conversation.expects message := by
      intro id response isAnswer
      have member : id ∈ answeredIds (message :: rest) :=
        List.mem_filterMap.mpr ⟨message, List.mem_cons_self, isAnswer ▸ rfl⟩
      have isNew : id ∉ answeredIds heard := by
        have apart := once
        unfold answeredIds at apart member ⊢
        rw [List.filterMap_append] at apart
        exact fun before => (List.nodup_append.mp apart).2.2 id before id member rfl
      rw [expects id, if_neg isNew]
      exact expected message List.mem_cons_self id response isAnswer
    have hears : conversation.hear wire (message.message wire.results) =
        { conversation with
          done := conversation.done ++ [message.received]
          pendingCalls := settle conversation.pendingCalls message.received } := by
      unfold hear
      rw [(sendable message List.mem_cons_self).onDataAvailable isExpected]
      rfl
    have settles (id : UInt32) :
        (settle conversation.pendingCalls message.received).find (messageId id.toNat) =
          if id ∈ answeredIds (heard ++ [message]) then none
          else typeOf conversation.made id := by
      have before : conversation.pendingCalls.find (messageId id.toNat) = _ := expects id
      rw [find_settle, before]
      by_cases isAnswered : answeredId message = some id
      · rw [if_pos isAnswered, if_pos (mem_answeredIds_append.mpr (Or.inr isAnswered))]
      · rw [if_neg isAnswered]
        by_cases known : id ∈ answeredIds heard
        · rw [if_pos known, if_pos (mem_answeredIds_append.mpr (Or.inl known))]
        · rw [if_neg known, if_neg (mt mem_answeredIds_append.mp (not_or.mpr ⟨known, isAnswered⟩))]
    rw [whole]
    rw [whole] at once
    rw [List.map_cons, List.foldl_cons, hears]
    refine inductionHypothesis _ (heard ++ [message])
      (fun other later => sendable other (List.mem_cons_of_mem _ later))
      (fun other later => expected other (List.mem_cons_of_mem _ later)) once ?_ settles
    show conversation.done ++ [message.received] = _
    rw [done, List.map_append]
    rfl

theorem Sound.resultRead (sound : conversation.Sound wire heard unheard) (count : Nat) :
    ∃ heard unheard, (conversation.resultRead wire count).Sound wire heard unheard := by
  obtain ⟨upward, downward, dispatched⟩ := sound
  have isUnheard : ∀ message ∈ unheard, message ∈ conversation.said := fun message member =>
    downward.said ▸ List.mem_append_right _ member
  have onceAll : (answeredIds (heard ++ unheard)).Nodup := by
    rw [← downward.said, downward.answered]
    exact downward.once
  have isExpected : ∀ message ∈ unheard, IsExpected conversation.expects message := by
    intro message member id response isAnswer
    have among : id ∈ answeredIds unheard :=
      List.mem_filterMap.mpr ⟨message, member, isAnswer ▸ rfl⟩
    have isNew : id ∉ answeredIds heard := by
      unfold answeredIds at onceAll among ⊢
      rw [List.filterMap_append] at onceAll
      exact fun before => (List.nodup_append.mp onceAll).2.2 id before id among rfl
    rw [downward.expects id, if_neg isNew]
    exact downward.expected message (isUnheard message member) id response isAnswer
  -- What the pending calls say of the bodies is what the calls that were made say.
  have reads : (protocol wire.results conversation.expects).receive conversation.down count =
      (protocol wire.results (typeOf conversation.made)).receive conversation.down count := by
    refine downward.sound.receive_congr (fun message member => ?_) count
    obtain ⟨said, among, rfl⟩ := List.mem_map.mp member
    have sendable := downward.sendable said (isUnheard said among)
    show Except.ok _ = Except.ok _
    rw [sendable.fdsAfter (isExpected said among),
      sendable.fdsAfter (downward.expected said (isUnheard said among))]
  obtain ⟨read, left, parts, delivers, soundNow⟩ := downward.sound.receive_delivers count
  obtain ⟨new, later, isUnheardNow, rfl, rfl⟩ := List.map_eq_append_iff.mp parts
  subst isUnheardNow
  unfold Conversation.resultRead
  rw [reads]
  dsimp only
  rw [delivers, List.drop_left]
  have onceNew : (answeredIds (heard ++ new)).Nodup := by
    refine onceAll.sublist ?_
    rw [← List.append_assoc]
    exact (List.sublist_append_left _ _).filterMap _
  have isNew : ∀ message ∈ new, message ∈ conversation.said := fun message member =>
    isUnheard message (List.mem_append_left _ member)
  obtain ⟨pendingCalls, isHeard, settled⟩ := hear_all
    { conversation with
      down := (protocol wire.results (typeOf conversation.made)).receive conversation.down count }
    new heard (fun message member => downward.sendable message (isNew message member))
    (fun message member => downward.expected message (isNew message member)) onceNew
    downward.done downward.expects
  rw [isHeard]
  refine ⟨heard ++ new, later, upward.same rfl rfl rfl, ⟨?_, rfl, ?_, soundNow, settled,
    downward.answered, downward.once, downward.sendable, downward.expected⟩, dispatched⟩
  · show conversation.said = _
    rw [downward.said, List.append_assoc]
  · show (SideChannel.Protocol.receive _ conversation.down count).receiver.delivered = _
    rw [delivers, downward.delivered, List.map_append]

/-! ### Whole conversations -/

theorem Sound.step (sound : conversation.Sound wire heard unheard) (op : Op)
    (allowed : conversation.Allowed wire op) :
    ∃ heard unheard, (conversation.step wire op).Sound wire heard unheard := by
  cases op with
  | call methodName request fds =>
    obtain ⟨few, sendable⟩ := allowed
    exact ⟨heard, unheard, sound.upward.callMethod few sendable,
      sound.downward.callMethod methodName request fds few, sound.dispatched⟩
  | send place => exact ⟨heard, unheard, sound.sendMessage place⟩
  | invocationWritten count => exact ⟨heard, unheard, sound.invocationWritten count⟩
  | invocationRead count => exact ⟨heard, unheard, sound.invocationRead count⟩
  | answer place response => exact ⟨heard, sound.answer place response allowed⟩
  | sendBuffer data buffer => exact ⟨heard, sound.sayEvents _ allowed rfl⟩
  | sendEventSequence data errorBuffer => exact ⟨heard, sound.sayEvents _ allowed rfl⟩
  | resultWritten count => exact ⟨heard, unheard, sound.resultWritten count⟩
  | resultRead count => exact sound.resultRead count

theorem run_sound (ops : List Op) (sound : conversation.Sound wire heard unheard)
    (allowed : Transition.AllowedAlong (Conversation.step wire) (Conversation.Allowed wire)
      conversation ops) :
    ∃ heard unheard, (ops.foldl (Conversation.step wire) conversation).Sound wire heard unheard := by
  induction ops generalizing conversation heard unheard with
  | nil => exact ⟨heard, unheard, sound⟩
  | cons op rest inductionHypothesis =>
    obtain ⟨_, _, soundNow⟩ := sound.step op allowed.1
    exact inductionHypothesis soundNow allowed.2

theorem isSome_typeOf (made : List String) (id : UInt32) :
    (typeOf made id).isSome ↔ id.toNat < made.length := by
  unfold typeOf
  rw [Option.isSome_map, Option.isSome_iff_ne_none, ne_eq, List.getElem?_eq_none_iff, Nat.not_le]

/-- Nothing is under way: all calls were sent, read and answered, and all answers read. -/
structure IsQuiet (wire : Wire) (conversation : Conversation) : Prop where
  unsent : conversation.unsent = []
  written : conversation.up.link.writing = none
  read : conversation.up.link.stream = []
  unanswered : conversation.unanswered wire = []
  said : conversation.down.writing = none
  heard : conversation.down.stream = []

/-- When nothing is under way, every call that was made has been answered and completed. -/
theorem Sound.settled (sound : conversation.Sound wire heard unheard)
    (isQuiet : conversation.IsQuiet wire) (id : UInt32) : conversation.expects id = none := by
  rw [sound.downward.expects id]
  split
  · rfl
  · rename_i notHeard
    by_contra known
    have inside : id.toNat < conversation.made.length :=
      (isSome_typeOf _ _).mp (Option.isSome_iff_ne_none.mpr known)
    have isMade : id ∈ (List.range conversation.made.length).map UInt32.ofNat :=
      List.mem_map.mpr ⟨id.toNat, List.mem_range.mpr inside, UInt32.ofNat_toNat⟩
    obtain ⟨left, upSound⟩ := sound.upward.sound
    have isRead := upSound.complete isQuiet.written isQuiet.read
    have allDispatched := (sound.upward.linked.dispatched upSound).2 isRead
    have isDispatched := sound.upward.made.mem_iff.mpr isMade
    rw [isQuiet.unsent, List.nil_append, ← allDispatched] at isDispatched
    obtain ⟨call, among, rfl⟩ := List.mem_map.mp isDispatched
    have isAnswered : call.invocation.id ∈ conversation.answered := by
      by_contra notAnswered
      have waits : call.invocation ∈ conversation.unanswered wire :=
        List.mem_filter.mpr ⟨List.mem_map_of_mem among, decide_eq_true notAnswered⟩
      rw [isQuiet.unanswered] at waits
      exact List.not_mem_nil waits
    have allHeard := sound.downward.sound.complete isQuiet.said isQuiet.heard
    rw [← sound.downward.answered, sound.downward.said, List.map_eq_nil_iff.mp allHeard,
      List.append_nil] at isAnswered
    exact notHeard isAnswered

/-- In every order in which threads of the client make calls and send them, the server dispatches
them, answers what it has dispatched and sends events, and parts of both streams are written and
read: what the client has done is what the first part of all that the server has said asks for,
neither side has come upon descriptors that it does not expect, no answer is for a call that is not
pending, no call is completed twice, and the calls that are pending are those that were made and
not completed. When nothing is under way no call is pending. -/
theorem answers_complete_calls (ops : List Op)
    (allowed : Transition.AllowedAlong (Conversation.step wire) (Conversation.Allowed wire)
      initial ops) :
    let conversation := ops.foldl (Conversation.step wire) initial
    conversation.done <+: conversation.said.map ServerMessage.received ∧
      conversation.up.link.receiver.refused = none ∧ conversation.down.receiver.refused = none ∧
      (∀ id, ClientAction.failed id ∉ conversation.done) ∧
      (conversation.done.filterMap completedId).Nodup ∧
      (∀ id, (conversation.expects id).isSome ↔ id.toNat < conversation.made.length ∧
        id ∉ conversation.done.filterMap completedId) ∧
      (conversation.IsQuiet wire → ∀ id, conversation.expects id = none) := by
  intro conversation
  obtain ⟨heard, unheard, sound⟩ := run_sound ops initial_sound allowed
  have downward : conversation.Downward wire heard unheard := sound.downward
  have completed : conversation.done.filterMap completedId = answeredIds heard := by
    rw [downward.done, List.filterMap_map]
    exact congrArg (fun completes => heard.filterMap completes) (funext completedId_received)
  obtain ⟨left, upSound⟩ := sound.upward.sound
  refine ⟨?_, upSound.refused, downward.sound.refused, fun id failed => ?_, ?_, fun id => ?_,
    fun isQuiet id => ?_⟩
  · rw [downward.done, downward.said]
    exact (List.prefix_append heard unheard).map _
  · rw [downward.done] at failed
    obtain ⟨message, -, isFailed⟩ := List.mem_map.mp failed
    cases message <;> cases isFailed
  · have once := downward.once
    rw [← downward.answered, downward.said] at once
    rw [completed]
    exact once.sublist ((List.sublist_append_left _ _).filterMap _)
  · rw [completed, downward.expects id]
    split
    · exact ⟨fun isSome => absurd isSome Bool.false_ne_true, fun both => absurd ‹_› both.2⟩
    · rw [isSome_typeOf]
      exact (and_iff_left ‹_›).symm
  · exact sound.settled isQuiet id

/-- The client makes an operation of the graphics platform, which is answered with a descriptor, and
raises a surface. -/
def operation : InvocationStream.Call := invocationFor 0 "platform_operation" [8, 8] 16384 [5]

def raiseSurface : InvocationStream.Call := invocationFor 1 "raise_surface" [] 16384 []

def operationBytes : List UInt8 :=
  [8, 0, 18, 18, 112, 108, 97, 116, 102, 111, 114, 109, 95, 111, 112, 101, 114, 97, 116, 105, 111,
    110, 26, 2, 8, 8, 32, 128, 128, 1, 40, 1]

def raiseSurfaceBytes : List UInt8 :=
  [8, 1, 18, 13, 114, 97, 105, 115, 101, 95, 115, 117, 114, 102, 97, 99, 101, 26, 0, 32, 128, 128,
    1, 40, 0]

def operationAnswer : Carrier := ⟨[8, 8], [6], none⟩

def submittedBuffer : Carrier := ⟨[8, 3], [7], none⟩

/-- The bytes of the messages. -/
def wireOfTwoCalls : Wire where
  invocations :=
    { serialize := fun invocation =>
        if invocation.id = 0 then operationBytes else raiseSurfaceBytes
      parse := fun body =>
        if body = operationBytes then operation.invocation else raiseSurface.invocation }
  results :=
    { serializeResponse := fun response => if response = .other [] then [] else [8, 8, 32, 1]
      parseResponse := fun type _ =>
        if type = .other then .other [] else .platformOperationMessage operationAnswer.extractFdsFrom
      serializeEvents := fun _ => [50, 8, 26, 6, 8, 3, 16, 14, 32, 1]
      parseEvents := fun _ => bufferEvents [] submittedBuffer
      serializeResult := fun result =>
        match result.id with
        | none => [26, 10, 50, 8, 26, 6, 8, 3, 16, 14, 32, 1]
        | some id => if id = 0 then [8, 0, 18, 4, 8, 8, 32, 1] else [8, 1, 18, 0]
      parseResult := fun body =>
        if body = [8, 1, 18, 0] then ⟨some 1, some [], []⟩
        else if body = [8, 0, 18, 4, 8, 8, 32, 1] then ⟨some 0, some [8, 8, 32, 1], []⟩
        else ⟨none, none, [[50, 8, 26, 6, 8, 3, 16, 14, 32, 1]]⟩ }
  dispatch _ := true

/-- The second call is sent and answered first, after an event. -/
def secondFirst : List Op :=
  [.call "platform_operation" [8, 8] [5], .call "raise_surface" [] [], .send 1,
    .invocationWritten 27, .send 0, .invocationWritten 34, .invocationRead 2, .invocationRead 25,
    .sendBuffer [] submittedBuffer, .resultWritten 14, .invocationWritten 1, .resultRead 2,
    .resultWritten 1, .resultRead 12, .answer 0 (.other []), .invocationRead 2,
    .invocationRead 32, .invocationRead 1, .resultRead 1, .resultWritten 6, .resultRead 2,
    .answer 0 (.platformOperationMessage operationAnswer), .resultWritten 10, .resultRead 4,
    .resultRead 2, .resultWritten 1, .resultRead 8, .resultRead 1]

theorem answers_complete_calls_in_other_order :
    (secondFirst.foldl (Conversation.step wireOfTwoCalls) initial).done <+:
      [.processed (bufferEvents [] submittedBuffer), .completed 1 (.other []),
        .completed 0 (.platformOperationMessage operationAnswer)] :=
  (answers_complete_calls secondFirst (by decide +kernel)).1

end Conversation

end Mir.Client

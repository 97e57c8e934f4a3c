/-
This file joins the two ends of a buffer stream: the client's vault on one side, the
session's buffer map and the stream on the other, and the messages between them, which
arrive in the order in which they were sent. The client asks for buffers, gives them up and
submits them; the server announces new buffers, gives submitted ones back and confirms that
a buffer is gone.

Each buffer is a token. The vault notes who has it, the stream has it scheduled or on
screen, or a message that carries it is under way; the proof is that these never disagree,
whatever crosses whatever, so a buffer is in one place at a time.

What is left out: allocations that fail, and the end of the stream or of the connection.
-/

import Mir.Client.BufferVault
import Mir.Compositor.Conservation

namespace Mir.Client

open Transition Mir.Geometry

/-- What the server tells the client about a buffer. -/
inductive BufferOperation
  | add (id : BufferID)
  | update (id : BufferID)
  | remove (id : BufferID)
  deriving DecidableEq, Repr

/-- The buffers that were freed by a list of requests. -/
def Request.freed? : Request → Option BufferID
  | .freeBuffer id => some id
  | _ => none

/-- Both ends and what is between them, the oldest message first. `made` are the buffers made for
this vault and `freed` those it has given up; `nextID` is the id of the next buffer that anybody
gets. -/
structure Connection where
  vault : BufferVault
  surfaceMap : List BufferID
  toServer : List Request
  toClient : List BufferOperation
  server : Compositor.World
  nextID : BufferID
  sizeOf : BufferID → Size
  made : List BufferID
  freed : List BufferID

namespace Connection

def initial (size : Size) (initialBuffers : Nat) : Connection where
  vault := .new size initialBuffers
  surfaceMap := []
  toServer := BufferVault.initialRequests size initialBuffers
  toClient := []
  server := .initial ⟨fun _ => none⟩
  nextID := 1
  sizeOf := fun _ => size
  made := []
  freed := []

/-! ### The client -/

/-- A method of the vault is called, and its requests are sent. -/
def call (connection : Connection) (method : Method) : Connection :=
  let outcome := connection.vault.perform connection.sizeOf method
  { connection with
    vault := outcome.vault
    toServer := connection.toServer ++ outcome.requests
    freed := outcome.requests.filterMap Request.freed? ++ connection.freed }

/-- The buffer that an operation is about has to be in the connection's map. -/
def processBufferOperation (connection : Connection) : BufferOperation → Connection
  | .add id =>
    call { connection with surfaceMap := id :: connection.surfaceMap } (.wireTransferInbound id)
  | .update id =>
    if id ∈ connection.surfaceMap then connection.call (.wireTransferInbound id) else connection
  | .remove id => { connection with surfaceMap := connection.surfaceMap.filter (· ≠ id) }

/-! ### The server -/

def setBuffers (connection : Connection) (buffers : Compositor.BufferMap) : Connection :=
  { connection with
    server :=
      { connection.server with stream := { connection.server.stream with buffers := buffers } } }

def sentBuffer? : Compositor.Event → Option BufferID
  | .sent id => some id
  | .submitted _ => none

/-- The buffers sent back in a step of the stream. -/
def sentBuffers (before after : Compositor.World) : List BufferID :=
  ((after.trace.take (after.trace.length - before.trace.length)).filterMap sentBuffer?).reverse

/-- The stream takes a step. Only buffers that are in the map are sent back. -/
def serve (connection : Connection) (op : Compositor.Op) : Connection :=
  let server := connection.server.step op
  let sent := (sentBuffers connection.server server).filter fun id =>
    (server.stream.buffers.owner id).isSome
  { connection with
    server := server
    toClient := connection.toClient ++ sent.map .update }

/-- A buffer is announced when it is in the map, and then associated with the stream. -/
def allocateBuffer (connection : Connection) (size : Size) : Connection :=
  let id := connection.nextID
  let added := connection.setBuffers
    ⟨Function.update connection.server.stream.buffers.owner id (some .client)⟩
  { added with
    server := added.server.step (.associateBuffer id)
    toClient := connection.toClient ++ [.add id]
    nextID := id + 1
    sizeOf := Function.update connection.sizeOf id size
    made := id :: connection.made }

/-- A buffer that is not in the map cannot be removed, or submitted. -/
def releaseBuffer (connection : Connection) (id : BufferID) : Connection :=
  let disassociated : Connection :=
    { connection with server := connection.server.step (.disassociateBuffer id) }
  if connection.server.stream.buffers.owner id = none then disassociated
  else
    { disassociated.setBuffers
        ⟨Function.update connection.server.stream.buffers.owner id none⟩ with
      toClient := connection.toClient ++ [.remove id] }

def submitBuffer (connection : Connection) (id : BufferID) : Connection :=
  if connection.server.stream.buffers.owner id = none then connection
  else connection.serve (.submitBuffer (some id))

def processRequest (connection : Connection) : Request → Connection
  | .allocateBuffer size => connection.allocateBuffer size
  | .freeBuffer id => connection.releaseBuffer id
  | .submitBuffer id => connection.submitBuffer id

end Connection

/-! ### Steps -/

inductive ConnectionStep
  | client (method : Method)
  | clientReceives
  | serverReceives
  | compositor (op : Compositor.Op)
  | otherBuffer
  deriving DecidableEq, Repr

namespace Connection

/-- What producers and windows ask of the vault. -/
def isClientMethod : Method → Bool
  | .wireTransferInbound _ | .disconnect => false
  | .withdraw | .deposit _ | .transferOutbound _ | .completeOutbound _ | .setSize _ | .setScale _
  | .setInterval _ => true

/-- What compositors, snapshots and the frame dropping policy ask of the stream. -/
def isCompositorOp : Compositor.Op → Bool
  | .submitBuffer _ | .associateBuffer _ | .disassociateBuffer _ | .destroyStream => false
  | .lockCompositorBuffer _ | .releaseCompositorBuffer _ | .withMostRecentBufferDo
  | .acquireSnapshot | .releaseSnapshot _ | .allowFramedropping _ | .dropOldBuffers
  | .dropFrame => true

def step (connection : Connection) : ConnectionStep → Connection
  | .client method => if isClientMethod method then connection.call method else connection
  | .clientReceives =>
    match connection.toClient with
    | [] => connection
    | operation :: rest =>
      processBufferOperation { connection with toClient := rest } operation
  | .serverReceives =>
    match connection.toServer with
    | [] => connection
    | request :: rest => processRequest { connection with toServer := rest } request
  | .compositor op => if isCompositorOp op then connection.serve op else connection
  | .otherBuffer => { connection with nextID := connection.nextID + 1 }

end Connection

/-! ### What a method does to one buffer -/

/-- A buffer stays with whom it is, is given up, moves between the vault and producers, or is
submitted. -/
def Moves (before : BufferVault) (outcome : Outcome) (id : BufferID) : Prop :=
  (id ∉ outcome.requests.filterMap Request.freed? ∧
      outcome.requests.count (.submitBuffer id) = 0 ∧
      (outcome.vault.buffers.find id = before.buffers.find id ∨
        ∃ old new, before.buffers.find id = some old ∧ outcome.vault.buffers.find id = some new ∧
          old ≠ .server ∧ new ≠ .server)) ∨
    (id ∈ outcome.requests.filterMap Request.freed? ∧
      outcome.requests.count (.submitBuffer id) = 0 ∧ before.buffers.find id = some .self ∧
        outcome.vault.buffers.find id = none) ∨
    (id ∉ outcome.requests.filterMap Request.freed? ∧
      outcome.requests.count (.submitBuffer id) = 1 ∧
        before.buffers.find id = some .selfWithContent ∧
        outcome.vault.buffers.find id = some .server)

theorem freed_frees (ids : List BufferID) :
    (ids.map Request.freeBuffer).filterMap Request.freed? = ids := by
  rw [List.filterMap_map]
  exact List.filterMap_some

theorem count_submit_frees (ids : List BufferID) (id : BufferID) :
    (ids.map Request.freeBuffer).count (.submitBuffer id) = 0 :=
  List.count_eq_zero_of_not_mem (by simp)

namespace BufferVault

theorem throws_moves (vault : BufferVault) (what : String) (id : BufferID) :
    Moves vault (vault.throws what) id :=
  .inl ⟨List.not_mem_nil, rfl, .inl rfl⟩

theorem deposit_moves (vault : BufferVault) (buffer id : BufferID) :
    Moves vault (vault.deposit buffer) id := by
  unfold deposit
  split_ifs with withdrawn
  · refine .inl ⟨List.not_mem_nil, rfl, ?_⟩
    dsimp only
    rw [OrderedMap.find_set]
    split_ifs with same
    · exact .inr ⟨_, _, same ▸ withdrawn, rfl, by decide, by decide⟩
    · exact .inl rfl
  · exact vault.throws_moves _ id

theorem transferOutbound_moves (vault : BufferVault) (buffer id : BufferID) :
    Moves vault (vault.transferOutbound buffer) id := by
  unfold transferOutbound
  split_ifs with deposited
  · by_cases same : id = buffer
    · refine .inr (.inr ⟨List.not_mem_nil, by simp [same], same ▸ deposited, ?_⟩)
      dsimp only
      rw [OrderedMap.find_set, if_pos same]
    · refine .inl ⟨List.not_mem_nil, by simp [Ne.symm same], .inl ?_⟩
      dsimp only
      rw [OrderedMap.find_set, if_neg same]
  · exact vault.throws_moves _ id

theorem completeOutbound_moves (sizeOf : BufferID → Size) (vault : BufferVault)
    (done : CallbackID) (id : BufferID) : Moves vault (vault.completeOutbound sizeOf done) id := by
  unfold completeOutbound
  split_ifs
  · exact vault.throws_moves _ id
  · exact .inl ⟨List.not_mem_nil, rfl, .inl rfl⟩
  · exact .inl ⟨List.not_mem_nil, rfl, .inl rfl⟩

theorem setInterval_moves (vault : BufferVault) (interval : Int) (id : BufferID) :
    Moves vault (vault.setInterval interval) id := by
  unfold setInterval
  split_ifs
  · exact .inl ⟨List.not_mem_nil, rfl, .inl rfl⟩
  · exact .inl ⟨List.not_mem_nil, rfl, .inl rfl⟩
  · unfold Moves
    dsimp only
    rw [freed_frees, count_submit_frees]
    rcases find_giveUp (vault.currentBufferCount - vault.initialBufferCount) vault.buffers id with
      ⟨same, kept⟩ | ⟨gone, given, own⟩
    · exact .inl ⟨kept, rfl, .inl same⟩
    · exact .inr (.inl ⟨given, rfl, own, gone⟩)

theorem withdraw_moves (sizeOf : BufferID → Size) (vault : BufferVault) (id : BufferID) :
    Moves vault (vault.withdraw sizeOf) id := by
  cases connected : vault.disconnected with
  | true =>
    rw [withdraw, if_pos connected]
    exact vault.throws_moves _ id
  | false =>
    have cleaned := vault.cleanUp_cases sizeOf id
    rcases vault.withdraw_cases sizeOf connected with ⟨buffer, available, outcome⟩ |
      ⟨-, count, requests, outcome, counts⟩
    · have own : (vault.cleanUp sizeOf).1.buffers.find buffer = some .self :=
        (available_some available).1
      rw [outcome]
      unfold Moves
      dsimp only
      rw [freed_frees, count_submit_frees, OrderedMap.find_set]
      by_cases same : id = buffer
      · subst same
        rw [if_pos rfl]
        rcases cleaned with ⟨before, kept⟩ | ⟨gone, -, -⟩
        · exact .inl ⟨kept, rfl, .inr ⟨_, _, before ▸ own, rfl, by decide, by decide⟩⟩
        · cases own.symm.trans gone
      · rw [if_neg same]
        rcases cleaned with ⟨before, kept⟩ | ⟨gone, freed, isOwn⟩
        · exact .inl ⟨kept, rfl, .inl before⟩
        · exact .inr (.inl ⟨freed, rfl, isOwn, gone⟩)
    · have nothing : requests.filterMap Request.freed? = [] ∧
          requests.count (.submitBuffer id) = 0 := by
        rcases counts with ⟨-, -, rfl⟩ | ⟨-, -, rfl⟩
        · exact ⟨rfl, rfl⟩
        · exact ⟨rfl, rfl⟩
      rw [outcome]
      unfold Moves
      dsimp only
      rw [List.filterMap_append, nothing.1, List.nil_append, freed_frees, List.count_append,
        nothing.2, count_submit_frees]
      rcases cleaned with ⟨before, kept⟩ | ⟨gone, freed, isOwn⟩
      · exact .inl ⟨kept, rfl, .inl before⟩
      · exact .inr (.inl ⟨freed, rfl, isOwn, gone⟩)

theorem perform_moves (sizeOf : BufferID → Size) (vault : BufferVault) {method : Method}
    (isClient : Connection.isClientMethod method = true) (id : BufferID) :
    Moves vault (vault.perform sizeOf method) id := by
  cases method with
  | withdraw => exact vault.withdraw_moves sizeOf id
  | deposit buffer => exact vault.deposit_moves buffer id
  | transferOutbound buffer => exact vault.transferOutbound_moves buffer id
  | completeOutbound done => exact vault.completeOutbound_moves sizeOf done id
  | wireTransferInbound buffer => cases isClient
  | disconnect => cases isClient
  | setSize size => exact .inl ⟨List.not_mem_nil, rfl, .inl rfl⟩
  | setScale scaled => exact .inl ⟨List.not_mem_nil, rfl, .inl rfl⟩
  | setInterval interval => exact vault.setInterval_moves interval id

theorem keepInbound_moves (vault : BufferVault) (buffer id : BufferID) :
    (vault.keepInbound buffer).vault.buffers.find id =
      if id = buffer then some (if vault.promises = [] then .self else .contentProducer)
      else vault.buffers.find id := by
  unfold keepInbound
  split
  · rename_i idle
    simp only [triggerCallback_buffers, idle, if_true]
    exact OrderedMap.find_set _ _ _ _
  · rename_i promise rest waiting
    simp only [triggerCallback_buffers, waiting, List.cons_ne_nil, if_false]
    exact OrderedMap.find_set _ _ _ _

/-- A buffer that comes in is given up, or is the vault's or a producer's afterwards; nothing else
changes. -/
def MovesIn (before : BufferVault) (outcome : Outcome) (buffer id : BufferID) : Prop :=
  outcome.requests.count (.submitBuffer id) = 0 ∧
    (id ≠ buffer ∧ id ∉ outcome.requests.filterMap Request.freed? ∧
        outcome.vault.buffers.find id = before.buffers.find id ∨
      id = buffer ∧ id ∈ outcome.requests.filterMap Request.freed? ∧
        outcome.vault.buffers.find id = none ∨
      id = buffer ∧ id ∉ outcome.requests.filterMap Request.freed? ∧
        ∃ owner, outcome.vault.buffers.find id = some owner ∧ owner ≠ .server)

/-- The buffer is given up, and is not in the vault afterwards. -/
theorem MovesIn.of_freed {before : BufferVault} {outcome : Outcome} {buffer : BufferID}
    (submits : ∀ id, outcome.requests.count (.submitBuffer id) = 0)
    (freed : outcome.requests.filterMap Request.freed? = [buffer])
    (found : ∀ id, outcome.vault.buffers.find id =
      if id = buffer then none else before.buffers.find id) (id : BufferID) :
    MovesIn before outcome buffer id := by
  refine ⟨submits id, ?_⟩
  rw [freed, found, List.mem_singleton]
  by_cases same : id = buffer
  · exact .inr (.inl ⟨same, same, if_pos same⟩)
  · exact .inl ⟨same, same, if_neg same⟩

theorem wireTransferInbound_moves (sizeOf : BufferID → Size) (vault : BufferVault)
    (buffer id : BufferID) :
    MovesIn vault (vault.wireTransferInbound sizeOf buffer) buffer id := by
  have erased (other : BufferID) := vault.buffers.find_erase buffer other
  rcases vault.wireTransferInbound_cases sizeOf buffer with ⟨-, outcome⟩ | ⟨unknown, outcome⟩ |
    ⟨-, -, outcome⟩ | ⟨-, outcome⟩
  · have noted := keepInbound_moves { vault with lastReceivedID := buffer } buffer id
    rw [outcome]
    unfold MovesIn
    rw [keepInbound_requests, noted]
    refine ⟨rfl, ?_⟩
    by_cases same : id = buffer
    · rw [if_pos same]
      refine .inr (.inr ⟨same, List.not_mem_nil, _, rfl, ?_⟩)
      split_ifs <;> decide
    · exact .inl ⟨same, List.not_mem_nil, if_neg same⟩
  · rw [outcome]
    refine MovesIn.of_freed (fun other => rfl) rfl (fun other => ?_) id
    dsimp only
    split_ifs with same
    · rw [same, unknown]
    · rfl
  · rw [outcome]
    exact MovesIn.of_freed (fun other => rfl) rfl erased id
  · rw [outcome]
    exact MovesIn.of_freed (fun other => rfl) rfl erased id

end BufferVault

/-! ### What the stream does to the buffer map -/

/-- The same buffers are in two maps, whoever has them. -/
def SameKeys (before after : Compositor.BufferMap) : Prop :=
  ∀ id, after.owner id = none ↔ before.owner id = none

namespace SameKeys

open Compositor

theorem refl (buffers : Compositor.BufferMap) : SameKeys buffers buffers := fun _ => Iff.rfl

theorem trans {first second third : Compositor.BufferMap} (one : SameKeys first second)
    (two : SameKeys second third) : SameKeys first third :=
  fun id => (two id).trans (one id)

theorem update {buffers : Compositor.BufferMap} {id : BufferID} (known : buffers.owner id ≠ none)
    (owner : Compositor.Owner) :
    SameKeys buffers ⟨Function.update buffers.owner id (some owner)⟩ := by
  intro other
  dsimp only
  by_cases same : other = id
  · rw [same, Function.update_self]
    exact iff_of_false (Option.some_ne_none _) known
  · rw [Function.update_of_ne same]

theorem sendBuffer (buffers : Compositor.BufferMap) (id : BufferID) :
    SameKeys buffers (buffers.sendBuffer id) := by
  unfold BufferMap.sendBuffer
  split
  · rename_i owner known
    exact update (known ▸ Option.some_ne_none _) _
  · exact refl _

theorem receiveBuffer (buffers : Compositor.BufferMap) (id : BufferID) :
    SameKeys buffers (buffers.receiveBuffer id) := by
  unfold BufferMap.receiveBuffer
  split
  · rename_i owner known
    exact update (known ▸ Option.some_ne_none _) _
  · exact refl _

theorem sendBuffers (buffers : Compositor.BufferMap) (ids : List BufferID) :
    SameKeys buffers (buffers.sendBuffers ids) := by
  induction ids generalizing buffers with
  | nil => exact refl _
  | cons id rest inductionHypothesis =>
    exact (sendBuffer buffers id).trans (inductionHypothesis _)

theorem submitBuffer (stream : Stream) (buffer : Option BufferID) (submission : Nat) :
    SameKeys stream.buffers (stream.submitBuffer buffer submission).stream.buffers := by
  unfold Stream.submitBuffer
  split
  · exact refl _
  · rename_i id
    dsimp only
    have received := receiveBuffer stream.buffers id
    split
    · exact received
    · split_ifs
      · exact received.trans (sendBuffers _ _)
      · exact received.trans (sendBuffers _ _)

theorem lockCompositorBuffer (stream : Stream) (id : CompositorID) :
    SameKeys stream.buffers (stream.lockCompositorBuffer id).stream.buffers := by
  unfold Stream.lockCompositorBuffer
  dsimp only
  split
  · exact refl _
  · exact sendBuffers _ _

theorem releaseCompositorBuffer (stream : Stream) (buffer : BufferID) :
    SameKeys stream.buffers (stream.releaseCompositorBuffer buffer).stream.buffers := by
  unfold Stream.releaseCompositorBuffer
  split
  · exact refl _
  · exact sendBuffers _ _

theorem acquireSnapshot (stream : Stream) :
    SameKeys stream.buffers stream.acquireSnapshot.stream.buffers := by
  unfold Stream.acquireSnapshot
  split
  · exact refl _
  · exact refl _

theorem releaseSnapshot (stream : Stream) (buffer : BufferID) :
    SameKeys stream.buffers (stream.releaseSnapshot buffer).stream.buffers := by
  unfold Stream.releaseSnapshot
  split
  · exact refl _
  · exact sendBuffers _ _

theorem withMostRecentBufferDo (stream : Stream) :
    SameKeys stream.buffers stream.withMostRecentBufferDo.stream.buffers := by
  unfold Stream.withMostRecentBufferDo
  dsimp only
  split
  · exact acquireSnapshot stream
  · exact (acquireSnapshot stream).trans (releaseSnapshot _ _)

theorem allowFramedropping (stream : Stream) (dropping : Bool) :
    SameKeys stream.buffers (stream.allowFramedropping dropping).1.buffers := by
  unfold Stream.allowFramedropping
  split_ifs
  · exact sendBuffers _ _
  · exact sendBuffers _ _
  · exact refl _

theorem dropFrame (stream : Stream) :
    SameKeys stream.buffers stream.dropFrame.1.buffers := by
  unfold Stream.dropFrame
  split_ifs
  · split
    · exact sendBuffer _ _
    · exact refl _
  · exact refl _

theorem dropReference (world : World) :
    SameKeys world.stream.buffers world.dropReference.stream.buffers := by
  unfold World.dropReference
  split_ifs
  · exact sendBuffers _ _
  · exact refl _

theorem lock (world : World) (id : CompositorID) :
    SameKeys world.stream.buffers (world.lock id).stream.buffers := by
  unfold World.lock
  dsimp only
  split
  · exact lockCompositorBuffer _ _
  · exact lockCompositorBuffer _ _

theorem release (world : World) (frame : Frame) :
    SameKeys world.stream.buffers (world.release frame).stream.buffers := by
  unfold World.release
  split_ifs
  · exact (releaseCompositorBuffer _ _).trans (dropReference _)
  · exact refl _

theorem beginSnapshot (world : World) :
    SameKeys world.stream.buffers world.beginSnapshot.stream.buffers := by
  unfold World.beginSnapshot
  dsimp only
  split
  · exact acquireSnapshot _
  · exact refl _

theorem endSnapshot (world : World) (frame : Frame) :
    SameKeys world.stream.buffers (world.endSnapshot frame).stream.buffers := by
  unfold World.endSnapshot
  split_ifs
  · exact (releaseSnapshot _ _).trans (dropReference _)
  · exact refl _

theorem step (world : World) (op : Op) :
    SameKeys world.stream.buffers (world.step op).stream.buffers := by
  unfold World.step
  split
  · exact release world _
  · exact endSnapshot world _
  · exact refl _
  · rw [World.submit_stream]
    exact submitBuffer _ _ _
  · exact lock world _
  · exact withMostRecentBufferDo _
  · exact beginSnapshot world
  · exact allowFramedropping _ _
  · exact sendBuffers _ _
  · exact dropFrame _
  · exact refl _
  · exact refl _
  · exact (sendBuffers _ _).trans (dropReference _)

end SameKeys

/-! ### Where buffers are -/

namespace Connection

/-- How often a buffer is in a submission that is under way. -/
def submits (connection : Connection) (id : BufferID) : Nat :=
  connection.toServer.count (.submitBuffer id)

/-- How often the stream has a buffer scheduled or on screen. -/
def held (connection : Connection) (id : BufferID) : Nat :=
  connection.server.stream.serverBuffers.count id

def adds (connection : Connection) (id : BufferID) : Nat :=
  connection.toClient.count (.add id)

def updates (connection : Connection) (id : BufferID) : Nat :=
  connection.toClient.count (.update id)

/-- A buffer was made and the vault has not given it up. -/
def Live (connection : Connection) (id : BufferID) : Prop :=
  id ∈ connection.made ∧ id ∉ connection.freed

instance (connection : Connection) : DecidablePred connection.Live :=
  fun id => inferInstanceAs (Decidable (id ∈ connection.made ∧ id ∉ connection.freed))

/-- What holds of the server and of the messages however the buffers move. -/
structure Sound (connection : Connection) : Prop where
  balanced : Compositor.Balanced connection.server
  alive : connection.server.streamAlive = true
  known : ∀ id, connection.Live id → connection.server.stream.buffers.owner id ≠ none
  old : ∀ id, id ∈ connection.made ∨ id ∈ connection.freed → id < connection.nextID
  givenUp : ∀ id, .freeBuffer id ∈ connection.toServer → id ∈ connection.freed
  removed : ∀ id, .remove id ∈ connection.toClient → id ∈ connection.freed

/-- The invariant. The stream and the messages have just those buffers that the vault takes to be
with the server, and new ones are announced once. -/
structure Tokens (connection : Connection) : Prop where
  sound : connection.Sound
  carried : ∀ id, connection.submits id + connection.held id + connection.updates id =
    if connection.vault.buffers.find id = some .server then 1 else 0
  announced : ∀ id, connection.adds id =
    if connection.vault.buffers.find id = none ∧ connection.Live id then 1 else 0
  kept : ∀ id, connection.vault.buffers.find id ≠ none → connection.Live id
  mapped : ∀ id, connection.vault.buffers.find id ≠ none → id ∈ connection.surfaceMap

/-- A buffer is about to come in: it is in no message any more, and not yet in the vault. -/
structure Arriving (connection : Connection) (buffer : BufferID) : Prop where
  sound : connection.Sound
  carried : ∀ id, connection.submits id + connection.held id + connection.updates id =
    if id ≠ buffer ∧ connection.vault.buffers.find id = some .server then 1 else 0
  announced : ∀ id, connection.adds id =
    if id ≠ buffer ∧ connection.vault.buffers.find id = none ∧ connection.Live id then 1 else 0
  kept : ∀ id, id = buffer ∨ connection.vault.buffers.find id ≠ none → connection.Live id
  mapped : ∀ id, id = buffer ∨ connection.vault.buffers.find id ≠ none →
    id ∈ connection.surfaceMap

theorem tokens_initial (size : Size) (initialBuffers : Nat) :
    (initial size initialBuffers).Tokens where
  sound :=
    { balanced := Compositor.balanced_initial _
      alive := rfl
      known := fun id live => by cases live.1
      old := fun id member => by simp [initial] at member
      givenUp := fun id member => by simp [initial, BufferVault.initialRequests] at member
      removed := fun id member => by cases member }
  carried id := by
    have nothing : (BufferVault.initialRequests size initialBuffers).count (.submitBuffer id) = 0 :=
      List.count_eq_zero_of_not_mem (by simp [BufferVault.initialRequests])
    exact nothing
  announced id := by simp [initial, adds, Live]
  kept id found := by simp [initial, BufferVault.new] at found
  mapped id found := by simp [initial, BufferVault.new] at found

/-! ### The client moves -/

theorem live_call (connection : Connection) (method : Method) (id : BufferID) :
    (connection.call method).Live id ↔ connection.Live id ∧
      id ∉ (connection.vault.perform connection.sizeOf method).requests.filterMap
        Request.freed? := by
  unfold Live call
  dsimp only
  rw [List.mem_append, not_or]
  tauto

theorem submits_call (connection : Connection) (method : Method) (id : BufferID) :
    (connection.call method).submits id = connection.submits id +
      (connection.vault.perform connection.sizeOf method).requests.count (.submitBuffer id) := by
  unfold submits call
  exact List.count_append

theorem Sound.call {connection : Connection} (sound : connection.Sound) (method : Method)
    (own : ∀ id ∈ (connection.vault.perform connection.sizeOf method).requests.filterMap
      Request.freed?, connection.Live id) : (connection.call method).Sound where
  balanced := sound.balanced
  alive := sound.alive
  known id live := sound.known id ((live_call connection method id).mp live).1
  old id either := by
    rcases either with made | freed
    · exact sound.old id (.inl made)
    · rcases List.mem_append.mp freed with now | before
      · exact sound.old id (.inl (own id now).1)
      · exact sound.old id (.inr before)
  givenUp id member := by
    unfold Connection.call at member ⊢
    dsimp only at member ⊢
    rcases List.mem_append.mp member with before | sent
    · exact List.mem_append_right _ (sound.givenUp id before)
    · exact List.mem_append_left _ (List.mem_filterMap.mpr ⟨_, sent, rfl⟩)
  removed id member := List.mem_append_right _ (sound.removed id member)

namespace Tokens

variable {connection : Connection}

theorem client (tokens : connection.Tokens) {method : Method}
    (isClient : isClientMethod method = true) : (connection.call method).Tokens := by
  have moves (id : BufferID) := connection.vault.perform_moves connection.sizeOf isClient id
  have sameHeld (id : BufferID) : (connection.call method).held id = connection.held id := rfl
  have sameUpdates (id : BufferID) :
    (connection.call method).updates id = connection.updates id := rfl
  have sameAdds (id : BufferID) : (connection.call method).adds id = connection.adds id := rfl
  have sameVault : (connection.call method).vault =
    (connection.vault.perform connection.sizeOf method).vault := rfl
  have own (id : BufferID) (member : id ∈ (connection.vault.perform connection.sizeOf
      method).requests.filterMap Request.freed?) : connection.Live id := by
    rcases moves id with ⟨kept, -⟩ | ⟨-, -, before, -⟩ | ⟨kept, -⟩
    · exact absurd member kept
    · exact tokens.kept id (before ▸ Option.some_ne_none _)
    · exact absurd member kept
  refine ⟨tokens.sound.call method own, fun id => ?_, fun id => ?_, fun id found => ?_,
    fun id found => ?_⟩
  · have carried := tokens.carried id
    rw [submits_call, sameHeld, sameUpdates, sameVault]
    rcases moves id with ⟨-, nothing, same | ⟨old, new, before, after, notOld, notNew⟩⟩ |
      ⟨-, nothing, before, after⟩ | ⟨-, one, before, after⟩
    · rw [same, nothing]
      exact carried
    · rw [before, if_neg (by simpa using notOld)] at carried
      rw [after, if_neg (by simpa using notNew), nothing]
      exact carried
    · rw [before, if_neg (by decide)] at carried
      rw [after, if_neg (by decide), nothing]
      exact carried
    · rw [before, if_neg (by decide)] at carried
      rw [after, if_pos rfl, one]
      omega
  · have announced := tokens.announced id
    rw [sameAdds, announced, sameVault]
    simp only [live_call]
    rcases moves id with ⟨kept, -, same | ⟨old, new, before, after, -, -⟩⟩ |
      ⟨freed, -, before, after⟩ | ⟨-, -, before, after⟩
    · simp only [same, kept, not_false_eq_true, and_true]
    · simp [before, after]
    · simp [before, after, freed]
    · simp [before, after]
  · rw [sameVault] at found
    rw [live_call]
    rcases moves id with ⟨kept, -, same | ⟨old, new, before, -, -, -⟩⟩ | ⟨-, -, -, after⟩ |
      ⟨kept, -, before, -⟩
    · exact ⟨tokens.kept id (same ▸ found), kept⟩
    · exact ⟨tokens.kept id (before ▸ Option.some_ne_none _), kept⟩
    · exact absurd after found
    · exact ⟨tokens.kept id (before ▸ Option.some_ne_none _), kept⟩
  · rw [sameVault] at found
    refine tokens.mapped id ?_
    rcases moves id with ⟨-, -, same | ⟨old, new, before, -, -, -⟩⟩ | ⟨-, -, before, -⟩ |
      ⟨-, -, before, -⟩
    · exact same ▸ found
    · exact before ▸ Option.some_ne_none _
    · exact before ▸ Option.some_ne_none _
    · exact before ▸ Option.some_ne_none _

end Tokens

/-! ### A buffer comes in -/

theorem Arriving.received {connection : Connection} {buffer : BufferID}
    (arriving : connection.Arriving buffer) :
    (connection.call (.wireTransferInbound buffer)).Tokens := by
  have moves (id : BufferID) :=
    connection.vault.wireTransferInbound_moves connection.sizeOf buffer id
  have sameHeld (id : BufferID) :
    (connection.call (.wireTransferInbound buffer)).held id = connection.held id := rfl
  have sameUpdates (id : BufferID) :
    (connection.call (.wireTransferInbound buffer)).updates id = connection.updates id := rfl
  have sameAdds (id : BufferID) :
    (connection.call (.wireTransferInbound buffer)).adds id = connection.adds id := rfl
  have sameVault : (connection.call (.wireTransferInbound buffer)).vault =
    (connection.vault.wireTransferInbound connection.sizeOf buffer).vault := rfl
  have performed : connection.vault.perform connection.sizeOf (.wireTransferInbound buffer) =
    connection.vault.wireTransferInbound connection.sizeOf buffer := rfl
  have own (id : BufferID) (member : id ∈ (connection.vault.perform connection.sizeOf
      (.wireTransferInbound buffer)).requests.filterMap Request.freed?) : connection.Live id := by
    rcases (moves id).2 with ⟨-, kept, -⟩ | ⟨same, -, -⟩ | ⟨same, -, -⟩
    · exact absurd member kept
    · exact arriving.kept id (.inl same)
    · exact arriving.kept id (.inl same)
  refine ⟨arriving.sound.call _ own, fun id => ?_, fun id => ?_, fun id found => ?_,
    fun id found => ?_⟩
  · obtain ⟨nothing, moved⟩ := moves id
    rw [submits_call, performed, nothing, sameHeld, sameUpdates, sameVault, Nat.add_zero,
      arriving.carried id]
    rcases moved with ⟨other, -, same⟩ | ⟨same, -, gone⟩ | ⟨same, -, owner, found, notServer⟩
    · simp [other, same]
    · simp [same, same ▸ gone]
    · simp [same, same ▸ found, notServer]
  · rw [sameAdds, sameVault, arriving.announced id]
    simp only [live_call, performed]
    rcases (moves id).2 with ⟨other, kept, same⟩ | ⟨same, freed, -⟩ | ⟨same, -, owner, found, -⟩
    · simp [other, same, kept]
    · simp [same, same ▸ freed]
    · simp [same, same ▸ found]
  · rw [live_call, performed]
    rw [sameVault] at found
    rcases (moves id).2 with ⟨-, kept, same⟩ | ⟨-, -, gone⟩ | ⟨same, kept, -⟩
    · exact ⟨arriving.kept id (.inr (same ▸ found)), kept⟩
    · exact absurd gone found
    · exact ⟨arriving.kept id (.inl same), kept⟩
  · rw [sameVault] at found
    refine arriving.mapped id ?_
    rcases (moves id).2 with ⟨-, -, same⟩ | ⟨same, -, -⟩ | ⟨same, -, -⟩
    · exact .inr (same ▸ found)
    · exact .inl same
    · exact .inl same

/-- The message at the front of a channel is taken out of it. -/
theorem Sound.pop {connection : Connection} (sound : connection.Sound)
    {operation : BufferOperation} {rest : List BufferOperation} (surfaceMap : List BufferID)
    (front : connection.toClient = operation :: rest) :
    ({ connection with toClient := rest, surfaceMap := surfaceMap } : Connection).Sound where
  balanced := sound.balanced
  alive := sound.alive
  known := sound.known
  old := sound.old
  givenUp := sound.givenUp
  removed id member := sound.removed id (front ▸ List.mem_cons_of_mem _ member)

namespace Tokens

variable {connection : Connection}

theorem arriving_add (tokens : connection.Tokens) {buffer : BufferID}
    {rest : List BufferOperation} (front : connection.toClient = .add buffer :: rest) :
    ({ connection with
        toClient := rest, surfaceMap := buffer :: connection.surfaceMap } : Connection).Arriving
      buffer := by
  have adds (id : BufferID) :
      connection.adds id = rest.count (.add id) + if buffer = id then 1 else 0 := by
    unfold Connection.adds
    rw [front, List.count_cons]
    simp
  have updates (id : BufferID) : connection.updates id = rest.count (.update id) := by
    unfold Connection.updates
    rw [front, List.count_cons]
    simp
  have announced := tokens.announced buffer
  rw [adds, if_pos rfl] at announced
  have isNew : connection.vault.buffers.find buffer = none ∧ connection.Live buffer := by
    by_contra other
    rw [if_neg other] at announced
    cases announced
  rw [if_pos isNew] at announced
  refine ⟨tokens.sound.pop _ front, fun id => ?_, fun id => ?_, fun id either => ?_,
    fun id either => ?_⟩
  · have carried := tokens.carried id
    rw [updates] at carried
    refine carried.trans ?_
    by_cases same : id = buffer
    · simp [same, isNew.1]
    · simp [same]
  · by_cases same : id = buffer
    · subst same
      have gone : rest.count (.add id) = 0 := by omega
      exact gone.trans (if_neg fun both => both.1 rfl).symm
    · have others := tokens.announced id
      rw [adds, if_neg (Ne.symm same), Nat.add_zero] at others
      refine others.trans ?_
      simp only [ne_eq, same, not_false_eq_true, true_and]
      rfl
  · rcases either with rfl | found
    · exact isNew.2
    · exact tokens.kept id found
  · rcases either with rfl | found
    · exact List.mem_cons_self
    · exact List.mem_cons_of_mem _ (tokens.mapped id found)

theorem arriving_update (tokens : connection.Tokens) {buffer : BufferID}
    {rest : List BufferOperation} (front : connection.toClient = .update buffer :: rest) :
    connection.vault.buffers.find buffer = some .server ∧
      ({ connection with toClient := rest } : Connection).Arriving buffer := by
  have adds (id : BufferID) : connection.adds id = rest.count (.add id) := by
    unfold Connection.adds
    rw [front, List.count_cons]
    simp
  have updates (id : BufferID) :
      connection.updates id = rest.count (.update id) + if buffer = id then 1 else 0 := by
    unfold Connection.updates
    rw [front, List.count_cons]
    simp
  have carried := tokens.carried buffer
  rw [updates, if_pos rfl] at carried
  have server : connection.vault.buffers.find buffer = some .server := by
    by_contra other
    rw [if_neg other] at carried
    omega
  rw [if_pos server] at carried
  refine ⟨server, tokens.sound.pop _ front, fun id => ?_, fun id => ?_, fun id either => ?_,
    fun id either => ?_⟩
  · by_cases same : id = buffer
    · subst same
      have gone : connection.submits id + connection.held id + rest.count (.update id) = 0 := by
        omega
      exact gone.trans (if_neg fun both => both.1 rfl).symm
    · have others := tokens.carried id
      rw [updates, if_neg (Ne.symm same), Nat.add_zero] at others
      refine others.trans ?_
      simp only [ne_eq, same, not_false_eq_true, true_and]
  · have announced := tokens.announced id
    rw [adds] at announced
    refine announced.trans ?_
    by_cases same : id = buffer
    · simp [same, server]
    · simp only [ne_eq, same, not_false_eq_true, true_and]
      rfl
  · rcases either with rfl | found
    · exact tokens.kept id (server ▸ Option.some_ne_none _)
    · exact tokens.kept id found
  · rcases either with rfl | found
    · exact tokens.mapped id (server ▸ Option.some_ne_none _)
    · exact tokens.mapped id found

theorem clientReceives (tokens : connection.Tokens) :
    (connection.step .clientReceives).Tokens := by
  dsimp only [step]
  cases front : connection.toClient with
  | nil => exact tokens
  | cons operation rest =>
    cases operation with
    | add buffer => exact (tokens.arriving_add front).received
    | update buffer =>
      obtain ⟨server, arriving⟩ := tokens.arriving_update front
      have mapped := arriving.mapped buffer (.inl rfl)
      dsimp only [processBufferOperation]
      rw [if_pos mapped]
      exact arriving.received
    | remove buffer =>
      have freed := tokens.sound.removed buffer (front ▸ List.mem_cons_self)
      refine ⟨tokens.sound.pop _ front, fun id => ?_, fun id => ?_, tokens.kept,
        fun id found => ?_⟩
      · have carried := tokens.carried id
        unfold updates at carried
        rw [front, List.count_cons_of_ne (by simp)] at carried
        exact carried
      · have announced := tokens.announced id
        unfold adds at announced
        rw [front, List.count_cons_of_ne (by simp)] at announced
        exact announced
      · refine List.mem_filter.mpr ⟨tokens.mapped id found, ?_⟩
        have other : id ≠ buffer := by
          rintro rfl
          exact (tokens.kept id found).2 freed
        simpa using other

end Tokens

/-! ### The stream takes a step -/

/-- What a step of the stream sends back can be read off its trace. -/
theorem sentBuffers_eq {before after : Compositor.World} {taken sent : List BufferID}
    (trace : after.trace =
      Compositor.World.recordSent (taken.map .submitted ++ before.trace) sent) :
    sentBuffers before after = sent := by
  have new : after.trace =
      ((sent.map Compositor.Event.sent).reverse ++ taken.map Compositor.Event.submitted) ++
        before.trace := by
    rw [trace, Compositor.World.recordSent, List.append_assoc]
  have length : after.trace.length - before.trace.length =
      ((sent.map Compositor.Event.sent).reverse ++
        taken.map Compositor.Event.submitted).length := by
    rw [new, List.length_append, Nat.add_sub_cancel]
  have all : sent.reverse.filterMap (sentBuffer? ∘ Compositor.Event.sent) = sent.reverse :=
    List.filterMap_some
  have nothing : taken.filterMap (sentBuffer? ∘ Compositor.Event.submitted) = [] :=
    List.filterMap_eq_nil_iff.mpr fun _ _ => rfl
  unfold sentBuffers
  rw [length, new, List.take_left, List.filterMap_append, ← List.map_reverse,
    List.filterMap_map, List.filterMap_map, all, nothing, List.append_nil, List.reverse_reverse]

theorem count_update (sent : List BufferID) (id : BufferID) :
    (sent.map BufferOperation.update).count (.update id) = sent.count id :=
  List.count_map_of_injective _ _ (fun _ _ same => BufferOperation.update.inj same) id

theorem count_add_updates (sent : List BufferID) (id : BufferID) :
    (sent.map BufferOperation.update).count (.add id) = 0 :=
  List.count_eq_zero_of_not_mem (by simp)

namespace Tokens

variable {connection : Connection}

/-- What the stream sends back is in the map, so the client is told of all of it. -/
theorem serve_toClient (tokens : connection.Tokens) {op : Compositor.Op} (toServer : List Request)
    {taken sent : List BufferID}
    (trace : (connection.server.step op).trace =
      Compositor.World.recordSent (taken.map .submitted ++ connection.server.trace) sent)
    (onServer : ∀ id ∈ sent, connection.vault.buffers.find id = some .server) :
    (({ connection with toServer := toServer } : Connection).serve op).toClient =
      connection.toClient ++ sent.map .update := by
  have keys := SameKeys.step connection.server op
  have known : sent.filter (fun id =>
      ((connection.server.step op).stream.buffers.owner id).isSome) = sent := by
    refine List.filter_eq_self.mpr fun id member => ?_
    have live := tokens.kept id (onServer id member ▸ Option.some_ne_none _)
    have there : (connection.server.step op).stream.buffers.owner id ≠ none :=
      fun gone => tokens.sound.known id live ((keys id).mp gone)
    exact Option.isSome_iff_ne_none.mpr there
  unfold Connection.serve
  dsimp only
  rw [sentBuffers_eq trace, known]

/-- A step of the stream that takes `taken`, which was submitted, and sends back `sent`. -/
theorem serve (tokens : connection.Tokens) {op : Compositor.Op} (toServer : List Request)
    (taken sent : List BufferID)
    (submitted : ∀ id, connection.submits id = toServer.count (.submitBuffer id) + taken.count id)
    (frees : ∀ id, .freeBuffer id ∈ toServer → .freeBuffer id ∈ connection.toServer)
    (balanced : Compositor.Balanced (connection.server.step op))
    (alive : (connection.server.step op).streamAlive = true)
    (trace : (connection.server.step op).trace =
      Compositor.World.recordSent (taken.map .submitted ++ connection.server.trace) sent)
    (flow : ((connection.server.step op).stream.serverBuffers ++ sent).Perm
      (connection.server.stream.serverBuffers ++ taken)) :
    (({ connection with toServer := toServer } : Connection).serve op).Tokens := by
  have keys := SameKeys.step connection.server op
  have counts (id : BufferID) :
      (connection.server.step op).stream.serverBuffers.count id + sent.count id =
        connection.held id + taken.count id := by
    have moved := flow.count_eq id
    rw [List.count_append, List.count_append] at moved
    exact moved
  have onServer (id : BufferID) (member : id ∈ sent) :
      connection.vault.buffers.find id = some .server := by
    have positive := List.count_pos_iff.mpr member
    have carried := tokens.carried id
    by_contra other
    rw [if_neg other, submitted] at carried
    have moved := counts id
    omega
  have messages := tokens.serve_toClient toServer trace onServer
  refine ⟨⟨balanced, alive, fun id live gone => ?_, tokens.sound.old, fun id member => ?_,
    fun id member => ?_⟩, fun id => ?_, fun id => ?_, tokens.kept, tokens.mapped⟩
  · exact tokens.sound.known id live ((keys id).mp gone)
  · exact tokens.sound.givenUp id (frees id member)
  · rw [messages, List.mem_append] at member
    rcases member with before | update
    · exact tokens.sound.removed id before
    · simp at update
  · have carried := tokens.carried id
    have moved := counts id
    have sameSubmits : (({ connection with toServer := toServer } : Connection).serve op).submits
      id = toServer.count (.submitBuffer id) := rfl
    have newHeld : (({ connection with toServer := toServer } : Connection).serve op).held id =
      (connection.server.step op).stream.serverBuffers.count id := rfl
    have newUpdates : (({ connection with toServer := toServer } : Connection).serve op).updates
        id = connection.updates id + sent.count id := by
      unfold updates
      rw [messages, List.count_append, count_update]
    rw [submitted] at carried
    rw [sameSubmits, newHeld, newUpdates]
    refine Eq.trans ?_ carried
    omega
  · have newAdds : (({ connection with toServer := toServer } : Connection).serve op).adds id =
        connection.adds id := by
      unfold adds
      rw [messages, List.count_append, count_add_updates, Nat.add_zero]
    rw [newAdds]
    exact tokens.announced id

theorem compositor (tokens : connection.Tokens) {op : Compositor.Op}
    (isOp : isCompositorOp op = true) : (connection.serve op).Tokens := by
  have noSubmission (buffer : Option BufferID) : op ≠ .submitBuffer buffer := by
    rintro rfl
    cases isOp
  have owned : Compositor.SubmitsOwned connection.server op := by
    intro id submitted
    cases op with
    | submitBuffer buffer => exact absurd rfl (noSubmission buffer)
    | _ => cases submitted
  obtain ⟨sent, conserves, trace, -⟩ :=
    Compositor.World.step_conserves tokens.sound.balanced.tracked op noSubmission
  have alive : (connection.server.step op).streamAlive = true := by
    rw [connection.server.step_streamAlive op (by rintro rfl; cases isOp), tokens.sound.alive]
  refine tokens.serve connection.toServer [] sent (fun id => rfl) (fun id member => member)
    (tokens.sound.balanced.step op owned) alive trace ?_
  rw [List.append_nil]
  exact conserves.flow

/-- The server does not hold a buffer that is submitted to it, and has it in its map. -/
theorem submitted_owned (tokens : connection.Tokens) {id : BufferID} {rest : List Request}
    (front : connection.toServer = .submitBuffer id :: rest) :
    connection.server.stream.buffers.owner id ≠ none ∧
      id ∉ connection.server.stream.serverBuffers := by
  have carried := tokens.carried id
  have one : 0 < connection.submits id := by
    unfold submits
    rw [front, List.count_cons_self]
    exact Nat.succ_pos _
  have server : connection.vault.buffers.find id = some .server := by
    by_contra other
    rw [if_neg other] at carried
    omega
  rw [if_pos server] at carried
  refine ⟨tokens.sound.known id (tokens.kept id (server ▸ Option.some_ne_none _)), fun member => ?_⟩
  have positive : 0 < connection.held id := List.count_pos_iff.mpr member
  omega

theorem submitBuffer (tokens : connection.Tokens) {id : BufferID} {rest : List Request}
    (front : connection.toServer = .submitBuffer id :: rest) :
    (({ connection with toServer := rest } : Connection).submitBuffer id).Tokens := by
  obtain ⟨known, away⟩ := tokens.submitted_owned front
  have submission : connection.server.step (.submitBuffer (some id)) =
      connection.server.submit (some id) := by
    rw [connection.server.step_submitBuffer, if_pos tokens.sound.alive]
  obtain ⟨sent, trace, flow⟩ := connection.server.submit_flow known away
  have owned : Compositor.SubmitsOwned connection.server (.submitBuffer (some id)) := by
    intro other same
    obtain rfl := Option.some.inj same
    exact ⟨known, (tokens.sound.balanced.owned _).mpr away⟩
  have alive : (connection.server.step (.submitBuffer (some id))).streamAlive = true := by
    rw [connection.server.step_streamAlive _ (by simp), tokens.sound.alive]
  unfold Connection.submitBuffer
  rw [if_neg known]
  rw [← submission] at trace flow
  refine tokens.serve rest [id] sent (fun other => ?_)
    (fun other member => front ▸ List.mem_cons_of_mem _ member)
    (tokens.sound.balanced.step _ owned) alive trace flow
  unfold submits
  rw [front, List.count_cons, List.count_singleton]
  simp

end Tokens

/-- Which buffers are in the map, and which are the stream's own, does not move any. -/
theorem balanced_withMap {world : Compositor.World} (balanced : Compositor.Balanced world)
    (buffers : Compositor.BufferMap) (associated : Finset BufferID) :
    Compositor.Balanced
      { world with
        stream := { world.stream with buffers := buffers, associatedBuffers := associated } } :=
  ⟨⟨balanced.tracked.sync, balanced.tracked.distinct, balanced.tracked.counted⟩,
    balanced.balance, balanced.owned, balanced.paired⟩

theorem allocateBuffer_server (connection : Connection)
    (alive : connection.server.streamAlive = true) (size : Size) :
    (connection.allocateBuffer size).server =
      { connection.server with
        stream :=
          { connection.server.stream with
            buffers := ⟨Function.update connection.server.stream.buffers.owner connection.nextID
              (some .client)⟩
            associatedBuffers :=
              insert connection.nextID connection.server.stream.associatedBuffers } } := by
  simp [allocateBuffer, setBuffers, Compositor.World.step, Compositor.Stream.associateBuffer, alive]

/-- A buffer that is released is taken off the map, and the client is told so if it was there. -/
theorem releaseBuffer_eq (connection : Connection)
    (alive : connection.server.streamAlive = true) (id : BufferID) :
    ∃ buffers told, connection.releaseBuffer id =
        { connection with
          server :=
            { connection.server with
              stream :=
                { connection.server.stream with
                  buffers := buffers
                  associatedBuffers := connection.server.stream.associatedBuffers.erase id } }
          toClient := connection.toClient ++ told } ∧
      (∀ other, other ≠ id →
        buffers.owner other = connection.server.stream.buffers.owner other) ∧
      ∀ operation ∈ told, operation = .remove id := by
  unfold releaseBuffer
  dsimp only
  split_ifs with missing
  · refine ⟨connection.server.stream.buffers, [], ?_, fun other _ => rfl, by simp⟩
    simp [Compositor.World.step, Compositor.Stream.disassociateBuffer, alive]
  · refine ⟨⟨Function.update connection.server.stream.buffers.owner id none⟩, [.remove id], ?_,
      fun other different => Function.update_of_ne different _ _, by simp⟩
    simp [setBuffers, Compositor.World.step, Compositor.Stream.disassociateBuffer, alive]

namespace Tokens

variable {connection : Connection}

/-- The id of the next buffer is not in use. -/
theorem nextID_unused (tokens : connection.Tokens) :
    connection.nextID ∉ connection.made ∧ connection.nextID ∉ connection.freed :=
  ⟨fun member => Nat.lt_irrefl _ (tokens.sound.old _ (.inl member)),
    fun member => Nat.lt_irrefl _ (tokens.sound.old _ (.inr member))⟩

theorem allocateBuffer_live (tokens : connection.Tokens) (size : Size) (rest : List Request)
    (id : BufferID) :
    (({ connection with toServer := rest } : Connection).allocateBuffer size).Live id ↔
      id = connection.nextID ∨ connection.Live id := by
  show id ∈ connection.nextID :: connection.made ∧ id ∉ connection.freed ↔ _
  rw [List.mem_cons]
  constructor
  · rintro ⟨rfl | member, kept⟩
    · exact .inl rfl
    · exact .inr ⟨member, kept⟩
  · rintro (rfl | ⟨member, kept⟩)
    · exact ⟨.inl rfl, tokens.nextID_unused.2⟩
    · exact ⟨.inr member, kept⟩

theorem allocateBuffer_sound (tokens : connection.Tokens) {size : Size} {rest : List Request}
    (front : connection.toServer = .allocateBuffer size :: rest) :
    (({ connection with toServer := rest } : Connection).allocateBuffer size).Sound := by
  have server := allocateBuffer_server { connection with toServer := rest } tokens.sound.alive size
  refine ⟨?_, ?_, fun id isLive => ?_, fun id either => ?_, fun id member => ?_,
    fun id member => ?_⟩
  · rw [server]
    exact balanced_withMap tokens.sound.balanced _ _
  · rw [server]
    exact tokens.sound.alive
  · rw [server]
    dsimp only
    rcases (tokens.allocateBuffer_live size rest id).mp isLive with rfl | before
    · rw [Function.update_self]
      exact Option.some_ne_none _
    · have different : id ≠ connection.nextID := by
        rintro rfl
        exact tokens.nextID_unused.1 before.1
      rw [Function.update_of_ne different]
      exact tokens.sound.known id before
  · change id ∈ connection.nextID :: connection.made ∨ id ∈ connection.freed at either
    show id < connection.nextID + 1
    rw [List.mem_cons] at either
    rcases either with (rfl | member) | member
    · exact Nat.lt_succ_self _
    · exact Nat.lt_succ_of_lt (tokens.sound.old id (.inl member))
    · exact Nat.lt_succ_of_lt (tokens.sound.old id (.inr member))
  · exact tokens.sound.givenUp id (front ▸ List.mem_cons_of_mem _ member)
  · rcases List.mem_append.mp member with before | new
    · exact tokens.sound.removed id before
    · simp at new

theorem allocateBuffer (tokens : connection.Tokens) {size : Size} {rest : List Request}
    (front : connection.toServer = .allocateBuffer size :: rest) :
    (({ connection with toServer := rest } : Connection).allocateBuffer size).Tokens := by
  have server := allocateBuffer_server { connection with toServer := rest } tokens.sound.alive size
  have live := tokens.allocateBuffer_live size rest
  have sound := tokens.allocateBuffer_sound front
  obtain ⟨after, isAfter⟩ : ∃ after,
    ({ connection with toServer := rest } : Connection).allocateBuffer size = after := ⟨_, rfl⟩
  rw [isAfter] at server sound ⊢
  simp only [isAfter] at live
  have vault : after.vault = connection.vault := by rw [← isAfter]; rfl
  have toClient : after.toClient = connection.toClient ++ [.add connection.nextID] := by
    rw [← isAfter]; rfl
  have toServer : after.toServer = rest := by rw [← isAfter]; rfl
  have surfaceMap : after.surfaceMap = connection.surfaceMap := by rw [← isAfter]; rfl
  have unknown : connection.vault.buffers.find connection.nextID = none := by
    by_contra found
    exact tokens.nextID_unused.1 (tokens.kept _ found).1
  refine ⟨sound, fun id => ?_, fun id => ?_, fun id found => ?_, fun id found => ?_⟩
  · have carried := tokens.carried id
    unfold submits held updates at carried ⊢
    rw [front, List.count_cons_of_ne (by simp)] at carried
    rw [toServer, toClient, server, vault, List.count_append,
      List.count_eq_zero_of_not_mem (show BufferOperation.update id ∉ [_] by simp), Nat.add_zero]
    exact carried
  · have announced := tokens.announced id
    unfold adds at announced ⊢
    rw [toClient, vault, List.count_append, announced, List.count_singleton]
    simp only [live]
    by_cases same : id = connection.nextID
    · subst same
      have notLive : ¬ connection.Live connection.nextID := fun both =>
        tokens.nextID_unused.1 both.1
      simp [unknown, notLive]
    · simp [same, Ne.symm same]
  · rw [vault] at found
    exact (live id).mpr (.inr (tokens.kept id found))
  · rw [vault] at found
    rw [surfaceMap]
    exact tokens.mapped id found

theorem releaseBuffer (tokens : connection.Tokens) {id : BufferID} {rest : List Request}
    (front : connection.toServer = .freeBuffer id :: rest) :
    (({ connection with toServer := rest } : Connection).releaseBuffer id).Tokens := by
  have freed := tokens.sound.givenUp id (front ▸ List.mem_cons_self)
  obtain ⟨buffers, told, after, owners, removes⟩ :=
    releaseBuffer_eq { connection with toServer := rest } tokens.sound.alive id
  have counts (operation : BufferOperation) (other : operation ≠ .remove id) :
      (connection.toClient ++ told).count operation = connection.toClient.count operation := by
    have nothing : told.count operation = 0 :=
      List.count_eq_zero_of_not_mem fun member => other (removes operation member)
    rw [List.count_append, nothing, Nat.add_zero]
  rw [after]
  refine ⟨⟨balanced_withMap tokens.sound.balanced _ _, tokens.sound.alive, fun other live => ?_,
    tokens.sound.old, fun other member => ?_, fun other member => ?_⟩, fun other => ?_,
    fun other => ?_, tokens.kept, tokens.mapped⟩
  · have different : other ≠ id := by
      rintro rfl
      exact live.2 freed
    dsimp only
    rw [owners other different]
    exact tokens.sound.known other live
  · exact tokens.sound.givenUp other (front ▸ List.mem_cons_of_mem _ member)
  · rcases List.mem_append.mp member with before | new
    · exact tokens.sound.removed other before
    · have same := BufferOperation.remove.inj (removes _ new)
      exact same ▸ freed
  · have carried := tokens.carried other
    unfold submits held updates at carried ⊢
    rw [front, List.count_cons_of_ne (by simp)] at carried
    dsimp only
    rw [counts _ (by simp)]
    exact carried
  · have announced := tokens.announced other
    unfold adds at announced ⊢
    dsimp only
    rw [counts _ (by simp)]
    exact announced

theorem serverReceives (tokens : connection.Tokens) :
    (connection.step .serverReceives).Tokens := by
  dsimp only [step]
  cases front : connection.toServer with
  | nil => exact tokens
  | cons request rest =>
    cases request with
    | allocateBuffer size => exact tokens.allocateBuffer front
    | freeBuffer id => exact tokens.releaseBuffer front
    | submitBuffer id => exact tokens.submitBuffer front

theorem step (tokens : connection.Tokens) (label : ConnectionStep) :
    (connection.step label).Tokens := by
  cases label with
  | client method =>
    dsimp only [Connection.step]
    split_ifs with isClient
    · exact tokens.client isClient
    · exact tokens
  | clientReceives => exact tokens.clientReceives
  | serverReceives => exact tokens.serverReceives
  | compositor op =>
    dsimp only [Connection.step]
    split_ifs with isOp
    · exact tokens.compositor isOp
    · exact tokens
  | otherBuffer =>
    obtain ⟨⟨balanced, alive, known, old, givenUp, removed⟩, carried, announced, kept, mapped⟩ :=
      tokens
    exact ⟨⟨balanced, alive, known, fun id either => Nat.lt_succ_of_lt (old id either), givenUp,
      removed⟩, carried, announced, kept, mapped⟩

end Tokens

/-! ### Every run -/

/-- Whether the vault or its producer has a buffer. -/
def owned (connection : Connection) (id : BufferID) : Nat :=
  if connection.vault.buffers.find id ∈
      [some Owner.self, some .contentProducer, some .selfWithContent] then 1 else 0

/-- In every run each live buffer is in one place, and once: the vault or its producer has it, or a
submission, or the stream, or a message that announces it or gives it back. So the server does not
hold what is submitted to it, and the vault does not have what is given back to it. -/
theorem buffers_are_in_one_place (size : Size) (initialBuffers : Nat) {connection : Connection}
    (reached : Reaches Connection.step (fun _ _ => True) (initial size initialBuffers)
      connection) :
    (∀ id, connection.Live id →
      connection.owned id + connection.submits id + connection.held id +
        (connection.adds id + connection.updates id) = 1) ∧
      (∀ id rest, connection.toServer = .submitBuffer id :: rest →
        id ∉ connection.server.stream.serverBuffers) ∧
      ∀ id rest, connection.toClient = .update id :: rest → connection.owned id = 0 := by
  have tokens : connection.Tokens := reached.invariant (tokens_initial size initialBuffers)
    fun _ label tokens _ => tokens.step label
  refine ⟨fun id live => ?_, fun id rest front => (tokens.submitted_owned front).2,
    fun id rest front => ?_⟩
  · have carried := tokens.carried id
    have announced := tokens.announced id
    unfold owned
    cases found : connection.vault.buffers.find id with
    | none =>
      rw [found] at carried announced
      simp [live] at carried announced ⊢
      omega
    | some owner =>
      rw [found] at carried announced
      cases owner <;> simp at carried announced ⊢ <;> omega
  · have server := (tokens.arriving_update front).1
    unfold owned
    rw [server]
    rfl

/-- A vault is resized while a buffer it has submitted is on screen; another buffer goes back and
forth, and a new one is asked for. -/
def crossing : List ConnectionStep :=
  [.serverReceives, .otherBuffer, .serverReceives, .clientReceives, .clientReceives,
    .client .withdraw, .client (.deposit 1), .client (.transferOutbound 1), .serverReceives,
    .compositor (.lockCompositorBuffer 1), .client (.setSize ⟨2, 2⟩), .client .withdraw,
    .serverReceives, .client (.setInterval 0)]

theorem crossing_in_one_place :
    let connection := crossing.foldl Connection.step (initial ⟨1, 1⟩ 2)
    (connection.Live 1 ∧ connection.held 1 = 1 ∧ connection.freed = [3]) ∧
      connection.owned 1 + connection.submits 1 + connection.held 1 +
        (connection.adds 1 + connection.updates 1) = 1 := by
  refine ⟨by decide, ?_⟩
  exact (buffers_are_in_one_place ⟨1, 1⟩ 2
    (Reaches.start.foldl crossing (by decide))).1 1 (by decide)

end Connection

end Mir.Client

/-
This file models `BufferVault`, the client's end of one buffer stream. The vault knows the
buffers the server has allocated for it and who has each of them; a producer withdraws a
buffer, deposits it again with content, and has it transferred to the server, which later
gives it back. A producer that finds no buffer gets a promise instead.

Each method is one function, except `wire_transfer_outbound`: it submits the buffer between
two sections that hold the mutex, and these are two functions here. What a method asks of
the server, hands to producers and calls back is part of its outcome.

The vault reads the size of a buffer from the buffer itself, through the connection's map;
that never changes, so the sizes are a function of the ids here. The counts are unsigned
integers of the source. Nothing counts below zero: a buffer is taken off the count only
while it is counted.
-/

import Mathlib.Data.Int.Order.Basic
import Mir.Geometry.Rectangle
import Mir.Library.OrderedMap

namespace Mir.Client

open Mir.Geometry

abbrev BufferID := Nat

/-- The number of a `withdraw`, which stands for the promise it makes. -/
abbrev PromiseID := Nat

/-- The number of a `wire_transfer_outbound`, which stands for the callback it was given. -/
abbrev CallbackID := Nat

/-- Who has a buffer. -/
inductive Owner
  | server
  | self
  | contentProducer
  | selfWithContent
  deriving DecidableEq, Repr

/-- What the vault asks of the server. -/
inductive Request
  | allocateBuffer (size : Size)
  | freeBuffer (id : BufferID)
  | submitBuffer (id : BufferID)
  deriving DecidableEq, Repr

structure MirWaitHandle where
  expecting : Nat
  received : Nat
  deriving DecidableEq, Repr

namespace MirWaitHandle

def new : MirWaitHandle := ⟨0, 0⟩

def expectResult (handle : MirWaitHandle) : MirWaitHandle :=
  { handle with expecting := handle.expecting + 1 }

def resultReceived (handle : MirWaitHandle) : MirWaitHandle :=
  { handle with received := handle.received + 1 }

/-- What is left when the wait is over; while it is not, nothing happens. -/
def waitForAll (handle : MirWaitHandle) : MirWaitHandle :=
  if handle.received = handle.expecting then ⟨0, 0⟩ else handle

def waitForOne (handle : MirWaitHandle) : MirWaitHandle :=
  if handle.received ≠ 0 then ⟨handle.expecting - 1, handle.received - 1⟩ else handle

end MirWaitHandle

structure BufferVault where
  buffers : OrderedMap BufferID Owner
  promises : List PromiseID
  size : Size
  disconnected : Bool
  currentBufferCount : Nat
  neededBufferCount : Nat
  initialBufferCount : Nat
  lastReceivedID : BufferID
  interval : Int
  swapBuffersWaitHandle : MirWaitHandle
  deferredCb : Option CallbackID
  /-- How often `withdraw` was called. -/
  withdrawn : Nat

/-- A promise that is kept, and the buffer it is kept with. -/
structure Handed where
  promise : PromiseID
  buffer : BufferID
  deriving DecidableEq, Repr

/-- What a method leaves behind. -/
structure Outcome where
  vault : BufferVault
  requests : List Request
  handed : Option Handed
  called : Option CallbackID
  result : Except String Unit

namespace BufferVault

def new (size : Size) (initialBuffers : Nat) : BufferVault where
  buffers := .empty
  promises := []
  size := size
  disconnected := false
  currentBufferCount := initialBuffers
  neededBufferCount := initialBuffers
  initialBufferCount := initialBuffers
  lastReceivedID := 0
  interval := 1
  swapBuffersWaitHandle := .new
  deferredCb := none
  withdrawn := 0

/-- The constructor asks for the buffers it counts. -/
def initialRequests (size : Size) (initialBuffers : Nat) : List Request :=
  List.replicate initialBuffers (.allocateBuffer size)

def throws (vault : BufferVault) (what : String) : Outcome :=
  ⟨vault, [], none, none, .error what⟩

section Methods

variable (sizeOf : BufferID → Size)

/-- A buffer of the right size, and preferably not the one that came last. -/
def availableBuffer (vault : BufferVault) : Option BufferID :=
  match vault.buffers.firstKey fun id owner =>
      owner = .self && sizeOf id = vault.size && id ≠ vault.lastReceivedID with
  | some id => some id
  | none => vault.buffers.firstKey fun id owner => owner = .self && sizeOf id = vault.size

/-- The vault keeps a buffer for itself although it has the wrong size. -/
def wrongSize (vault : BufferVault) (id : BufferID) (owner : Owner) : Bool :=
  owner = .self && sizeOf id ≠ vault.size

/-- Buffers of the wrong size are given up first. -/
def cleanUp (vault : BufferVault) : BufferVault × List BufferID :=
  let freed := (vault.buffers.entries.filter fun entry =>
    vault.wrongSize sizeOf entry.1 entry.2).map Prod.fst
  ({ vault with
      buffers := vault.buffers.filter fun id owner => !vault.wrongSize sizeOf id owner
      currentBufferCount := vault.currentBufferCount - freed.length }, freed)

def withdraw (vault : BufferVault) : Outcome :=
  if vault.disconnected then vault.throws "server_disconnected"
  else
    let promise := vault.withdrawn
    let cleaned := vault.cleanUp sizeOf
    let vault : BufferVault := { cleaned.1 with withdrawn := promise + 1 }
    let frees := cleaned.2.map Request.freeBuffer
    match vault.availableBuffer sizeOf with
    | some id =>
      ⟨{ vault with buffers := vault.buffers.set id .contentProducer }, frees,
        some ⟨promise, id⟩, none, .ok ()⟩
    | none =>
      let vault : BufferVault := { vault with promises := vault.promises ++ [promise] }
      if vault.currentBufferCount < vault.neededBufferCount then
        ⟨{ vault with currentBufferCount := vault.currentBufferCount + 1 },
          .allocateBuffer vault.size :: frees, none, none, .ok ()⟩
      else ⟨vault, frees, none, none, .ok ()⟩

def deposit (vault : BufferVault) (id : BufferID) : Outcome :=
  if vault.buffers.find id = some .contentProducer then
    ⟨{ vault with buffers := vault.buffers.set id .selfWithContent }, [], none, none, .ok ()⟩
  else vault.throws "buffer cannot be deposited"

/-- The first section of `wire_transfer_outbound`, and the submission. -/
def transferOutbound (vault : BufferVault) (id : BufferID) : Outcome :=
  if vault.buffers.find id = some .selfWithContent then
    ⟨{ vault with buffers := vault.buffers.set id .server }, [.submitBuffer id], none, none,
      .ok ()⟩
  else vault.throws "buffer cannot be transferred"

/-- Its second section: the callback is called if there is a buffer to go on with, and is kept
otherwise. -/
def completeOutbound (vault : BufferVault) (done : CallbackID) : Outcome :=
  if vault.disconnected then vault.throws "server_disconnected"
  else if (vault.availableBuffer sizeOf).isSome then ⟨vault, [], none, some done, .ok ()⟩
  else
    ⟨{ vault with
        swapBuffersWaitHandle := vault.swapBuffersWaitHandle.expectResult
        deferredCb := some done }, [], none, none, .ok ()⟩

def triggerCallback (vault : BufferVault) : BufferVault × Option CallbackID :=
  match vault.deferredCb with
  | none => (vault, none)
  | some done =>
    ({ vault with
        deferredCb := none
        swapBuffersWaitHandle := vault.swapBuffersWaitHandle.resultReceived }, some done)

/-- A buffer that is kept goes to the oldest promise, if there is one. -/
def keepInbound (vault : BufferVault) (id : BufferID) : Outcome :=
  match vault.promises with
  | [] =>
    let triggered :=
      triggerCallback { vault with buffers := vault.buffers.set id .self }
    ⟨triggered.1, [], none, triggered.2, .ok ()⟩
  | promise :: rest =>
    let triggered :=
      triggerCallback
        { vault with buffers := vault.buffers.set id .contentProducer, promises := rest }
    ⟨triggered.1, [], some ⟨promise, id⟩, triggered.2, .ok ()⟩

/-- A buffer that is not kept is freed, and another one is asked for unless there are too many; no
callback is called. -/
def wireTransferInbound (vault : BufferVault) (id : BufferID) : Outcome :=
  let vault : BufferVault := { vault with lastReceivedID := id }
  match vault.buffers.find id with
  | none =>
    if sizeOf id ≠ vault.size then
      ⟨vault, [.freeBuffer id, .allocateBuffer vault.size], none, none, .ok ()⟩
    else vault.keepInbound id
  | some _ =>
    if vault.currentBufferCount > vault.neededBufferCount then
      ⟨{ vault with
          buffers := vault.buffers.erase id
          currentBufferCount := vault.currentBufferCount - 1 },
        [.freeBuffer id], none, none, .ok ()⟩
    else if vault.size ≠ sizeOf id then
      ⟨{ vault with buffers := vault.buffers.erase id },
        [.freeBuffer id, .allocateBuffer vault.size], none, none, .ok ()⟩
    else vault.keepInbound id

/-- Promises are broken by the connection's end. -/
def disconnect (vault : BufferVault) : Outcome :=
  let triggered := triggerCallback { vault with disconnected := true, promises := [] }
  ⟨triggered.1, [], none, triggered.2, .ok ()⟩

/-- Also the effect of `set_scale`, for which the size is a product. -/
def setSize (vault : BufferVault) (size : Size) : Outcome :=
  ⟨{ vault with size := size }, [], none, none, .ok ()⟩

/-- The buffers the vault has for itself are given up while there are too many. -/
def giveUp : Nat → OrderedMap BufferID Owner → OrderedMap BufferID Owner × List BufferID
  | 0, buffers => (buffers, [])
  | excess + 1, buffers =>
    match buffers.firstKey fun _ owner => owner = .self with
    | none => (buffers, [])
    | some id =>
      let rest := giveUp excess (buffers.erase id)
      (rest.1, id :: rest.2)

def setInterval (vault : BufferVault) (interval : Int) : Outcome :=
  if interval = vault.interval then ⟨vault, [], none, none, .ok ()⟩
  else if interval = 0 then
    ⟨{ vault with
        interval := interval
        currentBufferCount := vault.currentBufferCount + 1
        neededBufferCount := vault.neededBufferCount + 1 },
      [.allocateBuffer vault.size], none, none, .ok ()⟩
  else
    let given := giveUp (vault.currentBufferCount - vault.initialBufferCount) vault.buffers
    ⟨{ vault with
        interval := interval
        neededBufferCount := vault.initialBufferCount
        buffers := given.1
        currentBufferCount := vault.currentBufferCount - given.2.length },
      given.2.map .freeBuffer, none, none, .ok ()⟩

end Methods

end BufferVault

/-- The methods, with their arguments. The scale of a vault is set to give this size. -/
inductive Method
  | withdraw
  | deposit (id : BufferID)
  | transferOutbound (id : BufferID)
  | completeOutbound (done : CallbackID)
  | wireTransferInbound (id : BufferID)
  | disconnect
  | setSize (size : Size)
  | setScale (scaled : Size)
  | setInterval (interval : Int)
  deriving DecidableEq, Repr

namespace BufferVault

variable (sizeOf : BufferID → Size)

def perform (vault : BufferVault) : Method → Outcome
  | .withdraw => vault.withdraw sizeOf
  | .deposit id => vault.deposit id
  | .transferOutbound id => vault.transferOutbound id
  | .completeOutbound done => vault.completeOutbound sizeOf done
  | .wireTransferInbound id => vault.wireTransferInbound sizeOf id
  | .disconnect => vault.disconnect
  | .setSize size => vault.setSize size
  | .setScale scaled => vault.setSize scaled
  | .setInterval interval => vault.setInterval interval

/-! ### What the helpers do -/

variable {sizeOf} {vault : BufferVault}

theorem available_some {id : BufferID} (available : vault.availableBuffer sizeOf = some id) :
    vault.buffers.find id = some .self ∧ sizeOf id = vault.size := by
  unfold availableBuffer at available
  split at available
  · rename_i first found
    obtain ⟨owner, known, wanted⟩ := OrderedMap.firstKey_eq_some found
    rw [← Option.some.inj available]
    simp only [Bool.and_eq_true, decide_eq_true_eq] at wanted
    exact ⟨wanted.1.1 ▸ known, wanted.1.2⟩
  · obtain ⟨owner, known, wanted⟩ := OrderedMap.firstKey_eq_some available
    simp only [Bool.and_eq_true, decide_eq_true_eq] at wanted
    exact ⟨wanted.1 ▸ known, wanted.2⟩

theorem available_none (unavailable : vault.availableBuffer sizeOf = none) {id : BufferID}
    (known : vault.buffers.find id = some .self) : sizeOf id ≠ vault.size := by
  unfold availableBuffer at unavailable
  split at unavailable
  · cases unavailable
  · have unwanted := (OrderedMap.firstKey_eq_none_iff _ _).mp unavailable id .self known
    simpa using unwanted

theorem find_cleanUp (id : BufferID) :
    (vault.cleanUp sizeOf).1.buffers.find id =
      (vault.buffers.find id).filter fun owner => !vault.wrongSize sizeOf id owner :=
  OrderedMap.find_filter _ _ _

theorem mem_cleanUp {id : BufferID} (freed : id ∈ (vault.cleanUp sizeOf).2) :
    vault.buffers.find id = some .self ∧ sizeOf id ≠ vault.size := by
  obtain ⟨⟨other, owner⟩, member, rfl⟩ := List.mem_map.mp freed
  obtain ⟨known, wrong⟩ := List.mem_filter.mp member
  simp only [wrongSize, Bool.and_eq_true, decide_eq_true_eq] at wrong
  exact ⟨wrong.1 ▸ (OrderedMap.find_eq_some_iff _ _ _).mpr known, wrong.2⟩

/-- What is left of the buffers is what was not given up, and only the vault's own are. -/
theorem cleanUp_cases (sizeOf : BufferID → Size) (vault : BufferVault) (id : BufferID) :
    (vault.cleanUp sizeOf).1.buffers.find id = vault.buffers.find id ∧
        id ∉ (vault.cleanUp sizeOf).2 ∨
      (vault.cleanUp sizeOf).1.buffers.find id = none ∧ id ∈ (vault.cleanUp sizeOf).2 ∧
        vault.buffers.find id = some .self := by
  rw [find_cleanUp]
  by_cases freed : id ∈ (vault.cleanUp sizeOf).2
  · obtain ⟨own, wrong⟩ := mem_cleanUp freed
    refine .inr ⟨?_, freed, own⟩
    rw [own]
    simp [wrongSize, wrong]
  · refine .inl ⟨?_, freed⟩
    cases known : vault.buffers.find id with
    | none => rfl
    | some owner =>
      have right : vault.wrongSize sizeOf id owner = false := by
        refine Bool.eq_false_iff.mpr fun wrong => freed ?_
        exact List.mem_map.mpr ⟨(id, owner),
          List.mem_filter.mpr ⟨(OrderedMap.find_eq_some_iff _ _ _).mp known, wrong⟩, rfl⟩
      simp [right]

theorem size_cleanUp (sizeOf : BufferID → Size) (vault : BufferVault) :
    (vault.cleanUp sizeOf).1.buffers.size + (vault.cleanUp sizeOf).2.length =
      vault.buffers.size := by
  have whole := vault.buffers.size_filter fun id owner => !vault.wrongSize sizeOf id owner
  simp only [Bool.not_not] at whole
  unfold cleanUp
  rw [List.length_map]
  exact whole

/-- A withdrawal that is not refused cleans up and then either finds a buffer or makes a promise. -/
theorem withdraw_cases (sizeOf : BufferID → Size) (vault : BufferVault)
    (connected : vault.disconnected = false) :
    let ready : BufferVault :=
      { (vault.cleanUp sizeOf).1 with withdrawn := vault.withdrawn + 1 }
    let frees := (vault.cleanUp sizeOf).2.map Request.freeBuffer
    (∃ id, ready.availableBuffer sizeOf = some id ∧
      vault.withdraw sizeOf =
        ⟨{ ready with buffers := ready.buffers.set id .contentProducer }, frees,
          some ⟨vault.withdrawn, id⟩, none, .ok ()⟩) ∨
    ready.availableBuffer sizeOf = none ∧
      ∃ count requests,
        vault.withdraw sizeOf =
          ⟨{ ready with
              promises := vault.promises ++ [vault.withdrawn], currentBufferCount := count },
            requests ++ frees, none, none, .ok ()⟩ ∧
        (ready.currentBufferCount < vault.neededBufferCount ∧
            count = ready.currentBufferCount + 1 ∧ requests = [.allocateBuffer vault.size] ∨
          vault.neededBufferCount ≤ ready.currentBufferCount ∧
            count = ready.currentBufferCount ∧ requests = []) := by
  intro ready frees
  unfold withdraw
  rw [if_neg (Bool.eq_false_iff.mp connected)]
  dsimp only
  cases available : ready.availableBuffer sizeOf with
  | some id => exact .inl ⟨id, rfl, rfl⟩
  | none =>
    refine .inr ⟨rfl, ?_⟩
    dsimp only
    by_cases fewer : ready.currentBufferCount < vault.neededBufferCount
    · exact ⟨ready.currentBufferCount + 1, [.allocateBuffer vault.size], if_pos fewer,
        .inl ⟨fewer, rfl, rfl⟩⟩
    · exact ⟨ready.currentBufferCount, [], if_neg fewer, .inr ⟨not_lt.mp fewer, rfl, rfl⟩⟩

theorem find_giveUp (excess : Nat) (buffers : OrderedMap BufferID Owner) (id : BufferID) :
    (giveUp excess buffers).1.find id = buffers.find id ∧ id ∉ (giveUp excess buffers).2 ∨
      (giveUp excess buffers).1.find id = none ∧ id ∈ (giveUp excess buffers).2 ∧
        buffers.find id = some .self := by
  induction excess generalizing buffers with
  | zero => exact .inl ⟨rfl, List.not_mem_nil⟩
  | succ excess inductionHypothesis =>
    unfold giveUp
    split
    · exact .inl ⟨rfl, List.not_mem_nil⟩
    · rename_i first found
      obtain ⟨owner, known, own⟩ := OrderedMap.firstKey_eq_some found
      have later := inductionHypothesis (buffers.erase first)
      rw [OrderedMap.find_erase] at later
      by_cases same : id = first
      · subst same
        rw [if_pos rfl] at later
        refine .inr ⟨?_, List.mem_cons_self, of_decide_eq_true own ▸ known⟩
        rcases later with ⟨gone, -⟩ | ⟨gone, -, -⟩
        · exact gone
        · exact gone
      · rw [if_neg same] at later
        simpa [same] using later

theorem size_giveUp (excess : Nat) (buffers : OrderedMap BufferID Owner) :
    (giveUp excess buffers).1.size + (giveUp excess buffers).2.length = buffers.size ∧
      (giveUp excess buffers).2.length ≤ excess := by
  induction excess generalizing buffers with
  | zero => exact ⟨rfl, Nat.le_refl _⟩
  | succ excess inductionHypothesis =>
    unfold giveUp
    split
    · exact ⟨rfl, Nat.zero_le _⟩
    · rename_i first found
      obtain ⟨owner, known, -⟩ := OrderedMap.firstKey_eq_some found
      have later := inductionHypothesis (buffers.erase first)
      have one := buffers.size_erase known
      dsimp only
      rw [List.length_cons]
      omega

section Trigger

/-! A callback has to do with nothing but itself and the wait handle. -/

variable (vault)

@[simp] theorem triggerCallback_buffers : vault.triggerCallback.1.buffers = vault.buffers := by
  unfold triggerCallback
  split <;> rfl

@[simp] theorem triggerCallback_promises : vault.triggerCallback.1.promises = vault.promises := by
  unfold triggerCallback
  split <;> rfl

@[simp] theorem triggerCallback_withdrawn :
    vault.triggerCallback.1.withdrawn = vault.withdrawn := by
  unfold triggerCallback
  split <;> rfl

@[simp] theorem triggerCallback_currentBufferCount :
    vault.triggerCallback.1.currentBufferCount = vault.currentBufferCount := by
  unfold triggerCallback
  split <;> rfl

@[simp] theorem triggerCallback_neededBufferCount :
    vault.triggerCallback.1.neededBufferCount = vault.neededBufferCount := by
  unfold triggerCallback
  split <;> rfl

@[simp] theorem triggerCallback_initialBufferCount :
    vault.triggerCallback.1.initialBufferCount = vault.initialBufferCount := by
  unfold triggerCallback
  split <;> rfl

end Trigger

/-- A buffer that comes in is given up, or kept because it has the size of the vault. -/
theorem wireTransferInbound_cases (sizeOf : BufferID → Size) (vault : BufferVault)
    (id : BufferID) :
    let noted : BufferVault := { vault with lastReceivedID := id }
    sizeOf id = vault.size ∧ vault.wireTransferInbound sizeOf id = noted.keepInbound id ∨
    vault.buffers.find id = none ∧ vault.wireTransferInbound sizeOf id =
      ⟨noted, [.freeBuffer id, .allocateBuffer vault.size], none, none, .ok ()⟩ ∨
    vault.buffers.find id ≠ none ∧ vault.neededBufferCount < vault.currentBufferCount ∧
      vault.wireTransferInbound sizeOf id =
        ⟨{ noted with
            buffers := vault.buffers.erase id
            currentBufferCount := vault.currentBufferCount - 1 },
          [.freeBuffer id], none, none, .ok ()⟩ ∨
    vault.buffers.find id ≠ none ∧ vault.wireTransferInbound sizeOf id =
      ⟨{ noted with buffers := vault.buffers.erase id },
        [.freeBuffer id, .allocateBuffer vault.size], none, none, .ok ()⟩ := by
  intro noted
  unfold wireTransferInbound
  dsimp only
  cases known : vault.buffers.find id with
  | none =>
    dsimp only
    split_ifs with wrong
    · exact .inr (.inl ⟨rfl, rfl⟩)
    · exact .inl ⟨not_not.mp wrong, rfl⟩
  | some owner =>
    dsimp only
    split_ifs with many wrong
    · exact .inr (.inr (.inl ⟨Option.some_ne_none _, many, rfl⟩))
    · exact .inr (.inr (.inr ⟨Option.some_ne_none _, rfl⟩))
    · exact .inl ⟨(not_not.mp wrong).symm, rfl⟩

theorem keepInbound_requests (vault : BufferVault) (id : BufferID) :
    (vault.keepInbound id).requests = [] := by
  unfold keepInbound
  split <;> rfl

theorem keepInbound_waiting (vault : BufferVault) (id : BufferID) {promise : PromiseID}
    {rest : List PromiseID} (promises : vault.promises = promise :: rest) :
    let kept : BufferVault :=
      { vault with buffers := vault.buffers.set id .contentProducer, promises := rest }
    vault.keepInbound id =
      ⟨kept.triggerCallback.1, [], some ⟨promise, id⟩, kept.triggerCallback.2,
        .ok ()⟩ := by
  unfold keepInbound
  rw [promises]

theorem keepInbound_idle (vault : BufferVault) (id : BufferID) (promises : vault.promises = []) :
    let kept : BufferVault := { vault with buffers := vault.buffers.set id .self }
    vault.keepInbound id = ⟨kept.triggerCallback.1, [], none, kept.triggerCallback.2, .ok ()⟩ := by
  intro kept
  unfold keepInbound
  split
  · rfl
  · rename_i pending
    cases promises.symm.trans pending

theorem withdraw_handed (sizeOf : BufferID → Size) (vault : BufferVault) {given : Handed}
    (handed : (vault.withdraw sizeOf).handed = some given) : sizeOf given.buffer = vault.size := by
  cases connected : vault.disconnected with
  | true =>
    rw [withdraw, if_pos connected] at handed
    cases handed
  | false =>
    rcases vault.withdraw_cases sizeOf connected with ⟨id, available, outcome⟩ |
      ⟨-, count, requests, outcome, -⟩
    · rw [outcome] at handed
      rw [← Option.some.inj handed]
      exact (available_some available).2
    · rw [outcome] at handed
      cases handed

theorem wireTransferInbound_handed (sizeOf : BufferID → Size) (vault : BufferVault)
    (id : BufferID) {given : Handed}
    (handed : (vault.wireTransferInbound sizeOf id).handed = some given) :
    sizeOf given.buffer = vault.size := by
  rcases vault.wireTransferInbound_cases sizeOf id with ⟨sized, outcome⟩ | ⟨-, outcome⟩ |
    ⟨-, -, outcome⟩ | ⟨-, outcome⟩
  · rw [outcome] at handed
    unfold keepInbound at handed
    split at handed
    · cases handed
    · rw [← Option.some.inj handed]
      exact sized
  · rw [outcome] at handed
    cases handed
  · rw [outcome] at handed
    cases handed
  · rw [outcome] at handed
    cases handed

/-- What is handed out has the size of the vault. -/
theorem perform_handed (sizeOf : BufferID → Size) (vault : BufferVault) (method : Method)
    {given : Handed} (handed : (vault.perform sizeOf method).handed = some given) :
    sizeOf given.buffer = vault.size := by
  cases method with
  | withdraw => exact vault.withdraw_handed sizeOf handed
  | wireTransferInbound id => exact vault.wireTransferInbound_handed sizeOf id handed
  | deposit id =>
    simp only [perform, deposit] at handed
    split_ifs at handed
    all_goals cases handed
  | transferOutbound id =>
    simp only [perform, transferOutbound] at handed
    split_ifs at handed
    all_goals cases handed
  | completeOutbound done =>
    simp only [perform, completeOutbound] at handed
    split_ifs at handed
    all_goals cases handed
  | disconnect => cases handed
  | setSize size => cases handed
  | setScale scaled => cases handed
  | setInterval interval =>
    simp only [perform, setInterval] at handed
    split_ifs at handed

end BufferVault

end Mir.Client

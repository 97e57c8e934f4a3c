/-
This file proves what becomes of the callbacks of `wire_transfer_outbound`. A transfer that
finds no buffer to go on with leaves its callback in the vault, and the next buffer that is
kept, or the end of the connection, calls it. The vault has room for one callback. A second
one that is left there replaces the first, which is then never called, and the wait handle
waits for it for ever; this needs a resize and a resize back, since a producer that has a
buffer for the next transfer would have had it for the first.

While no callback is replaced, every callback of a transfer that has returned is called
once or is still there, and the wait handle expects what it has received and what is there.
-/

import Mir.Client.BufferVault
import Mir.Library.Transition

namespace Mir.Client

open Transition Mir.Geometry

namespace BufferVault

/-- The callback stays where it is, or is called. -/
def LeavesOrCalls (vault : BufferVault) (outcome : Outcome) : Prop :=
  outcome.vault.deferredCb = vault.deferredCb ∧
      outcome.vault.swapBuffersWaitHandle = vault.swapBuffersWaitHandle ∧
      outcome.called = none ∨
    ∃ done, vault.deferredCb = some done ∧ outcome.vault.deferredCb = none ∧
      outcome.vault.swapBuffersWaitHandle = vault.swapBuffersWaitHandle.resultReceived ∧
      outcome.called = some done

theorem triggerCallback_callback (vault : BufferVault) (requests : List Request)
    (handed : Option Handed) :
    vault.LeavesOrCalls
      ⟨vault.triggerCallback.1, requests, handed, vault.triggerCallback.2, .ok ()⟩ := by
  unfold triggerCallback LeavesOrCalls
  cases deferred : vault.deferredCb with
  | none => exact .inl ⟨deferred, rfl, rfl⟩
  | some done => exact .inr ⟨done, rfl, rfl, rfl, rfl⟩

theorem withdraw_callback (sizeOf : BufferID → Size) (vault : BufferVault) :
    vault.LeavesOrCalls (vault.withdraw sizeOf) := by
  cases connected : vault.disconnected with
  | true =>
    rw [withdraw, if_pos connected]
    exact .inl ⟨rfl, rfl, rfl⟩
  | false =>
    rcases vault.withdraw_cases sizeOf connected with ⟨id, -, outcome⟩ |
      ⟨-, count, requests, outcome, -⟩
    · rw [outcome]
      exact .inl ⟨rfl, rfl, rfl⟩
    · rw [outcome]
      exact .inl ⟨rfl, rfl, rfl⟩

theorem wireTransferInbound_callback (sizeOf : BufferID → Size) (vault : BufferVault)
    (id : BufferID) : vault.LeavesOrCalls (vault.wireTransferInbound sizeOf id) := by
  rcases vault.wireTransferInbound_cases sizeOf id with ⟨-, outcome⟩ | ⟨-, outcome⟩ |
    ⟨-, -, outcome⟩ | ⟨-, outcome⟩
  · rw [outcome, keepInbound]
    split
    · exact triggerCallback_callback { vault with
        lastReceivedID := id, buffers := vault.buffers.set id .self } _ _
    · rename_i promise rest _
      exact triggerCallback_callback { vault with
        lastReceivedID := id
        buffers := vault.buffers.set id .contentProducer
        promises := rest } _ _
  · rw [outcome]
    exact .inl ⟨rfl, rfl, rfl⟩
  · rw [outcome]
    exact .inl ⟨rfl, rfl, rfl⟩
  · rw [outcome]
    exact .inl ⟨rfl, rfl, rfl⟩

theorem setInterval_callback (vault : BufferVault) (interval : Int) :
    vault.LeavesOrCalls (vault.setInterval interval) := by
  unfold setInterval
  split_ifs
  · exact .inl ⟨rfl, rfl, rfl⟩
  · exact .inl ⟨rfl, rfl, rfl⟩
  · exact .inl ⟨rfl, rfl, rfl⟩

theorem deposit_callback (vault : BufferVault) (id : BufferID) :
    vault.LeavesOrCalls (vault.deposit id) := by
  unfold deposit
  split_ifs
  · exact .inl ⟨rfl, rfl, rfl⟩
  · exact .inl ⟨rfl, rfl, rfl⟩

theorem transferOutbound_callback (vault : BufferVault) (id : BufferID) :
    vault.LeavesOrCalls (vault.transferOutbound id) := by
  unfold transferOutbound
  split_ifs
  · exact .inl ⟨rfl, rfl, rfl⟩
  · exact .inl ⟨rfl, rfl, rfl⟩

end BufferVault

/-! ### Transfers -/

/-- A vault whose producer makes one transfer at a time: the transfer that is between its two
sections, the number of transfers so far, those that have returned, and the callbacks called. -/
structure Swaps where
  vault : BufferVault
  transferring : Option CallbackID
  transfers : Nat
  returned : List CallbackID
  called : List CallbackID

inductive SwapOp
  | call (method : Method)
  | beginTransfer (id : BufferID)
  | endTransfer
  | waitForAll
  | waitForOne
  deriving DecidableEq, Repr

namespace Swaps

def initial (size : Size) (initialBuffers : Nat) : Swaps where
  vault := .new size initialBuffers
  transferring := none
  transfers := 0
  returned := []
  called := []

variable (sizeOf : BufferID → Size)

def setHandle (swaps : Swaps) (handle : MirWaitHandle) : Swaps :=
  { swaps with vault := { swaps.vault with swapBuffersWaitHandle := handle } }

/-- The sections of a transfer are not called by themselves. A transfer that throws does not
return. -/
def step (swaps : Swaps) : SwapOp → Swaps
  | .call (.transferOutbound _) => swaps
  | .call (.completeOutbound _) => swaps
  | .call method =>
    let outcome := swaps.vault.perform sizeOf method
    { swaps with vault := outcome.vault, called := outcome.called.toList ++ swaps.called }
  | .beginTransfer id =>
    if swaps.transferring = none ∧ (swaps.vault.transferOutbound id).result = .ok () then
      { swaps with
        vault := (swaps.vault.transferOutbound id).vault
        transferring := some swaps.transfers
        transfers := swaps.transfers + 1 }
    else swaps
  | .endTransfer =>
    match swaps.transferring with
    | none => swaps
    | some done =>
      let outcome := swaps.vault.completeOutbound sizeOf done
      { swaps with
        vault := outcome.vault
        transferring := none
        returned := if outcome.result = .ok () then done :: swaps.returned else swaps.returned
        called := outcome.called.toList ++ swaps.called }
  | .waitForAll => swaps.setHandle swaps.vault.swapBuffersWaitHandle.waitForAll
  | .waitForOne => swaps.setHandle swaps.vault.swapBuffersWaitHandle.waitForOne

/-- A transfer leaves its callback in the vault only when none is there. -/
def FindsRoom (swaps : Swaps) : SwapOp → Prop
  | .endTransfer => swaps.transferring ≠ none → swaps.vault.disconnected = false →
    swaps.vault.availableBuffer sizeOf = none → swaps.vault.deferredCb = none
  | _ => True

/-- How often a callback is in the vault. -/
def stored (swaps : Swaps) (done : CallbackID) : Nat :=
  if swaps.vault.deferredCb = some done then 1 else 0

/-- The number of callbacks in the vault. -/
def storedCallbacks (swaps : Swaps) : Nat :=
  if swaps.vault.deferredCb.isSome then 1 else 0

structure Answered (swaps : Swaps) : Prop where
  once : ∀ done, swaps.called.count done + swaps.stored done =
    if done ∈ swaps.returned then 1 else 0
  old : ∀ done ∈ swaps.returned, done < swaps.transfers
  current : ∀ done, swaps.transferring = some done →
    done < swaps.transfers ∧ done ∉ swaps.returned
  expected : swaps.vault.swapBuffersWaitHandle.expecting =
    swaps.vault.swapBuffersWaitHandle.received + swaps.storedCallbacks

theorem answered_initial (size : Size) (initialBuffers : Nat) :
    (initial size initialBuffers).Answered where
  once _ := rfl
  old done member := by cases member
  current done begun := by cases begun
  expected := rfl

namespace Answered

variable {sizeOf} {swaps : Swaps}

/-- A method of the vault that has nothing to do with the transfer that is under way. -/
theorem call (answered : swaps.Answered) {outcome : Outcome}
    (callback : swaps.vault.LeavesOrCalls outcome) :
    ({ swaps with
        vault := outcome.vault, called := outcome.called.toList ++ swaps.called } : Swaps).Answered
    where
  once done := by
    have before := answered.once done
    unfold stored at before ⊢
    rcases callback with ⟨same, -, nothing⟩ | ⟨other, wasStored, empty, -, called⟩
    · rw [same, nothing]
      exact before
    · rw [wasStored] at before
      rw [empty, called, ← before]
      by_cases isOther : other = done
      · simp [isOther]
      · simp [isOther]
  old := answered.old
  current := answered.current
  expected := by
    have before := answered.expected
    unfold storedCallbacks at before ⊢
    rcases callback with ⟨same, handle, -⟩ | ⟨other, wasStored, empty, handle, -⟩
    · rw [same, handle]
      exact before
    · rw [wasStored] at before
      rw [empty, handle]
      exact before

theorem beginTransfer (answered : swaps.Answered) (id : BufferID) :
    (swaps.step sizeOf (.beginTransfer id)).Answered := by
  dsimp only [step]
  split_ifs with begins
  · have called := answered.call (swaps.vault.transferOutbound_callback id)
    have nothing : (swaps.vault.transferOutbound id).called = none := by
      unfold BufferVault.transferOutbound
      split_ifs <;> rfl
    rw [nothing] at called
    refine ⟨called.once, fun done member => Nat.lt_succ_of_lt (called.old done member), ?_,
      called.expected⟩
    intro done begun
    rw [← Option.some.inj begun]
    exact ⟨Nat.lt_succ_self _, fun member => absurd (answered.old _ member) (Nat.lt_irrefl _)⟩
  · exact answered

/-- A transfer that is under way returns; its callback was called, or is in the vault now. -/
theorem return_once (answered : swaps.Answered) {done : CallbackID}
    (begun : swaps.transferring = some done) (other : CallbackID) :
    swaps.called.count other + swaps.stored other + (if other = done then 1 else 0) =
      if other ∈ done :: swaps.returned then 1 else 0 := by
  rw [answered.once other]
  obtain ⟨-, isNew⟩ := answered.current done begun
  by_cases same : other = done
  · simp [same, isNew]
  · simp [same]

theorem return_old (answered : swaps.Answered) {done : CallbackID}
    (begun : swaps.transferring = some done) :
    ∀ other ∈ done :: swaps.returned, other < swaps.transfers := by
  intro other member
  rcases List.mem_cons.mp member with rfl | before
  · exact (answered.current other begun).1
  · exact answered.old other before

theorem endTransfer (answered : swaps.Answered) (room : swaps.FindsRoom sizeOf .endTransfer) :
    (swaps.step sizeOf .endTransfer).Answered := by
  dsimp only [step]
  cases begun : swaps.transferring with
  | none => exact answered
  | some done =>
    dsimp only
    have once := answered.return_once begun
    have old := answered.return_old begun
    cases connected : swaps.vault.disconnected with
    | true =>
      have refused : swaps.vault.completeOutbound sizeOf done =
          swaps.vault.throws "server_disconnected" := if_pos connected
      rw [refused]
      exact ⟨answered.once, answered.old, fun other begun => (by cases begun), answered.expected⟩
    | false =>
      have accepted := Bool.eq_false_iff.mp connected
      cases available : swaps.vault.availableBuffer sizeOf with
      | some id =>
        have called : swaps.vault.completeOutbound sizeOf done =
            ⟨swaps.vault, [], none, some done, .ok ()⟩ :=
          (if_neg accepted).trans (if_pos (by rw [available]; rfl))
        rw [called]
        refine ⟨fun other => ?_, old, fun other begun => (by cases begun), answered.expected⟩
        dsimp only
        rw [if_pos rfl, ← once other]
        by_cases same : other = done
        · simp [same, stored]
          omega
        · simp [same, Ne.symm same, stored]
      | none =>
        have empty := room (by rw [begun]; exact Option.some_ne_none _) connected available
        have kept : swaps.vault.completeOutbound sizeOf done = _ :=
          (if_neg accepted).trans (if_neg (by rw [available]; exact Bool.false_ne_true))
        rw [kept]
        refine ⟨fun other => ?_, old, fun other begun => (by cases begun), ?_⟩
        · dsimp only
          rw [if_pos rfl, ← once other]
          by_cases same : other = done
          · simp [same, stored, empty]
          · simp [same, Ne.symm same, stored, empty]
        · have before := answered.expected
          unfold storedCallbacks at before ⊢
          rw [empty] at before
          exact congrArg Nat.succ before

theorem setHandle (answered : swaps.Answered) {handle : MirWaitHandle}
    (expected : handle.expecting = handle.received + swaps.storedCallbacks) :
    (swaps.setHandle handle).Answered :=
  ⟨answered.once, answered.old, answered.current, expected⟩

theorem waitForAll (answered : swaps.Answered) :
    (swaps.step sizeOf .waitForAll).Answered := by
  refine answered.setHandle ?_
  have expected := answered.expected
  unfold MirWaitHandle.waitForAll
  split_ifs with all
  · dsimp only
    omega
  · exact expected

theorem waitForOne (answered : swaps.Answered) :
    (swaps.step sizeOf .waitForOne).Answered := by
  refine answered.setHandle ?_
  have expected := answered.expected
  unfold MirWaitHandle.waitForOne
  split_ifs with one
  · dsimp only
    omega
  · exact expected

theorem step (answered : swaps.Answered) (op : SwapOp) (room : swaps.FindsRoom sizeOf op) :
    (swaps.step sizeOf op).Answered := by
  cases op with
  | beginTransfer id => exact answered.beginTransfer id
  | endTransfer => exact answered.endTransfer room
  | waitForAll => exact answered.waitForAll
  | waitForOne => exact answered.waitForOne
  | call method =>
    cases method with
    | withdraw => exact answered.call (swaps.vault.withdraw_callback sizeOf)
    | deposit id => exact answered.call (swaps.vault.deposit_callback id)
    | transferOutbound id => exact answered
    | completeOutbound done => exact answered
    | wireTransferInbound id =>
      exact answered.call (swaps.vault.wireTransferInbound_callback sizeOf id)
    | disconnect =>
      exact answered.call (BufferVault.triggerCallback_callback
        { swaps.vault with disconnected := true, promises := [] } [] none)
    | setSize size => exact answered.call (.inl ⟨rfl, rfl, rfl⟩)
    | setScale scaled => exact answered.call (.inl ⟨rfl, rfl, rfl⟩)
    | setInterval interval => exact answered.call (swaps.vault.setInterval_callback interval)

end Answered

/-! ### Every run -/

instance (swaps : Swaps) : DecidablePred (swaps.FindsRoom sizeOf)
  | .endTransfer => inferInstanceAs (Decidable (swaps.transferring ≠ none →
      swaps.vault.disconnected = false → swaps.vault.availableBuffer sizeOf = none →
        swaps.vault.deferredCb = none))
  | .call _ => .isTrue trivial
  | .beginTransfer _ => .isTrue trivial
  | .waitForAll => .isTrue trivial
  | .waitForOne => .isTrue trivial

/-- In every run in which no transfer replaces the callback of another, each callback is called at
most once, each transfer that has returned had its callback called or has it in the vault, and the
wait handle expects what it has received and what is in the vault. -/
theorem swaps_complete (sizeOf : BufferID → Size) (size : Size) (initialBuffers : Nat)
    {swaps : Swaps}
    (reached : Reaches (Swaps.step sizeOf) (Swaps.FindsRoom sizeOf) (initial size initialBuffers)
      swaps) :
    (∀ done, swaps.called.count done ≤ 1) ∧
      (∀ done ∈ swaps.returned, swaps.called.count done + swaps.stored done = 1) ∧
      swaps.vault.swapBuffersWaitHandle.expecting =
        swaps.vault.swapBuffersWaitHandle.received + swaps.storedCallbacks := by
  have answered : swaps.Answered := reached.invariant (answered_initial size initialBuffers)
    fun _ op answered room => answered.step op room
  refine ⟨fun done => ?_, fun done member => ?_, answered.expected⟩
  · have once := answered.once done
    split_ifs at once <;> omega
  · rw [answered.once done, if_pos member]

/-- Two transfers, of which the second has to wait for the first buffer to come back. -/
def twoTransfers : List SwapOp :=
  [.call (.wireTransferInbound 1), .call (.wireTransferInbound 2), .call .withdraw,
    .call (.deposit 1), .beginTransfer 1, .endTransfer, .call .withdraw, .call (.deposit 2),
    .beginTransfer 2, .endTransfer, .call (.wireTransferInbound 1)]

theorem twoTransfers_complete :
    let swaps := twoTransfers.foldl (Swaps.step fun _ => ⟨1, 1⟩) (initial ⟨1, 1⟩ 2)
    (swaps.returned = [1, 0] ∧ swaps.vault.swapBuffersWaitHandle = ⟨1, 1⟩) ∧
      ∀ done ∈ swaps.returned, swaps.called.count done + swaps.stored done = 1 := by
  refine ⟨by decide, ?_⟩
  exact (swaps_complete (fun _ => ⟨1, 1⟩) ⟨1, 1⟩ 2
    (Reaches.start.foldl twoTransfers (by decide))).2.1

/-- The producer has one buffer at a time, and what comes in is new or was with the server. -/
def OneAtATime (swaps : Swaps) : SwapOp → Prop
  | .call .withdraw => swaps.transferring = none ∧ swaps.vault.promises = [] ∧
    ∀ entry ∈ swaps.vault.buffers.entries, entry.2 = .self ∨ entry.2 = .server
  | .call (.wireTransferInbound id) =>
    swaps.vault.buffers.find id = none ∨ swaps.vault.buffers.find id = some .server
  | _ => True

instance (swaps : Swaps) : DecidablePred swaps.OneAtATime
  | .call .withdraw => inferInstanceAs (Decidable (swaps.transferring = none ∧
      swaps.vault.promises = [] ∧
        ∀ entry ∈ swaps.vault.buffers.entries, entry.2 = .self ∨ entry.2 = .server))
  | .call (.wireTransferInbound id) => inferInstanceAs (Decidable
      (swaps.vault.buffers.find id = none ∨ swaps.vault.buffers.find id = some .server))
  | .call (.deposit _) => .isTrue trivial
  | .call (.transferOutbound _) => .isTrue trivial
  | .call (.completeOutbound _) => .isTrue trivial
  | .call .disconnect => .isTrue trivial
  | .call (.setSize _) => .isTrue trivial
  | .call (.setScale _) => .isTrue trivial
  | .call (.setInterval _) => .isTrue trivial
  | .beginTransfer _ => .isTrue trivial
  | .endTransfer => .isTrue trivial
  | .waitForAll => .isTrue trivial
  | .waitForOne => .isTrue trivial

/-- A vault is resized during the first transfer and back before the second. -/
def resizedTwice : List SwapOp :=
  [.call (.wireTransferInbound 1), .call (.wireTransferInbound 2), .call .withdraw,
    .call (.deposit 1), .call (.setSize ⟨2, 2⟩), .beginTransfer 1, .endTransfer,
    .call (.setSize ⟨1, 1⟩), .call .withdraw, .call (.deposit 2), .beginTransfer 2, .endTransfer]

/-- The callback of the first transfer is replaced by that of the second, and is lost. -/
theorem first_callback_is_lost :
    ¬ ∀ sizeOf size initialBuffers swaps,
      Reaches (Swaps.step sizeOf) Swaps.OneAtATime (initial size initialBuffers) swaps →
      (∀ done ∈ swaps.returned, swaps.called.count done + swaps.stored done = 1) ∧
        swaps.vault.swapBuffersWaitHandle.expecting =
          swaps.vault.swapBuffersWaitHandle.received + swaps.storedCallbacks := by
  intro claimed
  have answered := claimed (fun _ => ⟨1, 1⟩) ⟨1, 1⟩ 2 _
    (Reaches.start.foldl resizedTwice (by decide))
  have lost := answered.1 0 (by decide)
  revert lost
  decide

end Swaps

end Mir.Client

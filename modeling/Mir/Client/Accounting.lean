/-
This file proves that the vault keeps its books. The count of buffers is the number of
buffers it knows and of those it has asked for and not got; every buffer handed out has
the size of the vault, and one producer at a time; promises are kept in order; and a
promise never waits with nothing left that could keep it.

A buffer that comes in is one that was asked for, or one that the server had and gives
back. Which buffer may come in when is the server's part of the protocol.
-/

import Mir.Client.BufferVault
import Mir.Library.Transition

namespace Mir.Client

open Transition Mir.Geometry

/-! ### The account of a vault -/

/-- What producers see of their buffers. -/
inductive Event
  | handed (given : Handed)
  | deposited (buffer : BufferID)
  deriving DecidableEq, Repr

def Event.buffer : Event → BufferID
  | .handed given => given.buffer
  | .deposited buffer => buffer

def Event.promise? : Event → Option PromiseID
  | .handed given => some given.promise
  | .deposited _ => none

/-- A buffer is with a producer if the last thing that happened to it is that it was handed
out. -/
def withProducer (trace : List Event) (id : BufferID) : Bool :=
  match trace.find? (fun event => event.buffer = id) with
  | some (.handed _) => true
  | _ => false

/-- No buffer is handed out while a producer has it. -/
def OneProducerAtATime : List Event → Prop
  | [] => True
  | event :: older =>
    (∀ given, event = .handed given → withProducer older given.buffer = false) ∧
      OneProducerAtATime older

/-- The promises that were kept, the oldest first. -/
def keptPromises (trace : List Event) : List PromiseID :=
  (trace.filterMap Event.promise?).reverse

/-- A vault, the sizes of the buffers it waits for, and what happened, the newest first. -/
structure Account where
  vault : BufferVault
  outstanding : List Size
  trace : List Event

def Request.allocated? : Request → Option Size
  | .allocateBuffer size => some size
  | _ => none

theorem allocated_frees (ids : List BufferID) :
    (ids.map Request.freeBuffer).filterMap Request.allocated? = [] := by
  rw [List.filterMap_map]
  exact List.filterMap_eq_nil_iff.mpr fun _ _ => rfl

namespace Account

def initial (size : Size) (initialBuffers : Nat) : Account where
  vault := .new size initialBuffers
  outstanding := (BufferVault.initialRequests size initialBuffers).filterMap Request.allocated?
  trace := []

variable (sizeOf : BufferID → Size)

/-- A buffer that was not known is one of those that were asked for. -/
def received (account : Account) : Method → List Size
  | .wireTransferInbound id =>
    if account.vault.buffers.find id = none then account.outstanding.erase (sizeOf id)
    else account.outstanding
  | _ => account.outstanding

def events (account : Account) : Method → List Event
  | .deposit id =>
    if account.vault.buffers.find id = some .contentProducer then [.deposited id] else []
  | method => ((account.vault.perform sizeOf method).handed.map Event.handed).toList

def step (account : Account) (method : Method) : Account :=
  let outcome := account.vault.perform sizeOf method
  { vault := outcome.vault
    outstanding :=
      account.received sizeOf method ++ outcome.requests.filterMap Request.allocated?
    trace := account.events sizeOf method ++ account.trace }

/-- The server sends a buffer that was asked for, or one that it has; the connection stays. -/
def Arrives (account : Account) : Method → Prop
  | .wireTransferInbound id =>
    account.vault.buffers.find id = some .server ∨
      account.vault.buffers.find id = none ∧ sizeOf id ∈ account.outstanding
  | .disconnect => False
  | _ => True

instance (account : Account) : DecidablePred (account.Arrives sizeOf)
  | .wireTransferInbound id => inferInstanceAs (Decidable
      (account.vault.buffers.find id = some .server ∨
        account.vault.buffers.find id = none ∧ sizeOf id ∈ account.outstanding))
  | .disconnect => .isFalse id
  | .withdraw => .isTrue trivial
  | .deposit _ => .isTrue trivial
  | .transferOutbound _ => .isTrue trivial
  | .completeOutbound _ => .isTrue trivial
  | .setSize _ => .isTrue trivial
  | .setScale _ => .isTrue trivial
  | .setInterval _ => .isTrue trivial

end Account

/-! ### The invariant -/

/-- What the vault counts. -/
structure Books (vault : BufferVault) (outstanding : List Size) : Prop where
  counted : vault.currentBufferCount = vault.buffers.size + outstanding.length
  some_needed : 0 < vault.initialBufferCount
  needed : vault.initialBufferCount ≤ vault.neededBufferCount
  /-- A promise waits only while the vault has nothing for itself. -/
  waiting : vault.promises ≠ [] →
    0 < vault.currentBufferCount ∧ ∀ id, vault.buffers.find id ≠ some .self

/-- What producers were given. -/
structure Hands (vault : BufferVault) (trace : List Event) : Prop where
  promised : keptPromises trace ++ vault.promises = List.range vault.withdrawn
  held : ∀ id, vault.buffers.find id = some .contentProducer ↔ withProducer trace id = true
  single : OneProducerAtATime trace

namespace Books

variable {vault : BufferVault} {outstanding : List Size}

/-- A known buffer goes to somebody else than the vault. -/
theorem setOwner (books : Books vault outstanding) {id : BufferID} {old owner : Owner}
    (known : vault.buffers.find id = some old) (other : owner ≠ .self) :
    Books { vault with buffers := vault.buffers.set id owner } outstanding where
  counted := by
    rw [OrderedMap.size_set_known _ _ known]
    exact books.counted
  some_needed := books.some_needed
  needed := books.needed
  waiting pending := by
    obtain ⟨enough, nothing⟩ := books.waiting pending
    refine ⟨enough, fun key => ?_⟩
    rw [OrderedMap.find_set]
    split_ifs
    · exact fun same => other (Option.some.inj same)
    · exact nothing key

theorem cleanUp (books : Books vault outstanding) (sizeOf : BufferID → Size) :
    Books (vault.cleanUp sizeOf).1 outstanding where
  counted := by
    have counted := books.counted
    have parts := BufferVault.size_cleanUp sizeOf vault
    have fewer : (vault.cleanUp sizeOf).1.currentBufferCount =
      vault.currentBufferCount - (vault.cleanUp sizeOf).2.length := rfl
    omega
  some_needed := books.some_needed
  needed := books.needed
  waiting pending := by
    obtain ⟨enough, nothing⟩ := books.waiting pending
    have freed : (vault.cleanUp sizeOf).2 = [] :=
      List.eq_nil_iff_forall_not_mem.mpr fun id member =>
        nothing id (BufferVault.mem_cleanUp member).1
    refine ⟨?_, fun id found => ?_⟩
    · change 0 < vault.currentBufferCount - (vault.cleanUp sizeOf).2.length
      rw [freed]
      exact enough
    · rw [BufferVault.find_cleanUp, Option.filter_eq_some_iff] at found
      exact nothing id found.1

end Books

namespace BufferVault

variable {sizeOf : BufferID → Size} {vault : BufferVault}

/-- Only buffers that the vault has for itself are freed. -/
theorem producers_cleanUp (sizeOf : BufferID → Size) (vault : BufferVault) (id : BufferID) :
    (vault.cleanUp sizeOf).1.buffers.find id = some .contentProducer ↔
      vault.buffers.find id = some .contentProducer := by
  rw [find_cleanUp, Option.filter_eq_some_iff]
  exact and_iff_left (by simp [wrongSize])

/-- What is left has the size of the vault, so if none of it is available there is none. -/
theorem cleanUp_unavailable
    (unavailable : ({ (vault.cleanUp sizeOf).1 with
      withdrawn := vault.withdrawn + 1 } : BufferVault).availableBuffer sizeOf = none)
    (id : BufferID) : (vault.cleanUp sizeOf).1.buffers.find id ≠ some .self := by
  intro found
  have wrong := available_none unavailable found
  rw [find_cleanUp, Option.filter_eq_some_iff] at found
  have right : sizeOf id = vault.size := by simpa [wrongSize] using found.2
  exact wrong right

end BufferVault

theorem withProducer_handed (trace : List Event) (given : Handed) (id : BufferID) :
    withProducer (.handed given :: trace) id =
      if given.buffer = id then true else withProducer trace id := by
  by_cases same : given.buffer = id
  · simp [withProducer, Event.buffer, same]
  · simp [withProducer, Event.buffer, same]

theorem withProducer_deposited (trace : List Event) (buffer id : BufferID) :
    withProducer (.deposited buffer :: trace) id =
      if buffer = id then false else withProducer trace id := by
  by_cases same : buffer = id
  · simp [withProducer, Event.buffer, same]
  · simp [withProducer, Event.buffer, same]

namespace Hands

variable {before after : BufferVault} {trace : List Event}

/-- Nothing is handed out or deposited, and no promise is made or kept. -/
theorem quiet (hands : Hands before trace) (promises : after.promises = before.promises)
    (withdrawn : after.withdrawn = before.withdrawn)
    (producers : ∀ id, after.buffers.find id = some .contentProducer ↔
      before.buffers.find id = some .contentProducer) : Hands after trace where
  promised := by
    rw [promises, withdrawn]
    exact hands.promised
  held id := (producers id).trans (hands.held id)
  single := hands.single

theorem handOut (hands : Hands before trace) (given : Handed)
    (unused : before.buffers.find given.buffer ≠ some .contentProducer)
    (producers : ∀ id, after.buffers.find id = some .contentProducer ↔
      id = given.buffer ∨ before.buffers.find id = some .contentProducer)
    (line : keptPromises trace ++ given.promise :: after.promises = List.range after.withdrawn) :
    Hands after (.handed given :: trace) where
  promised := by
    rw [← line]
    simp [keptPromises, Event.promise?]
  held id := by
    rw [producers, withProducer_handed, hands.held id]
    by_cases same : given.buffer = id
    · simp [same]
    · simp [same, Ne.symm same]
  single := by
    refine ⟨fun other same => ?_, hands.single⟩
    rw [← Event.handed.inj same]
    exact Bool.eq_false_iff.mpr fun held => unused ((hands.held given.buffer).mpr held)

theorem deposit (hands : Hands before trace) (buffer : BufferID)
    (promises : after.promises = before.promises) (withdrawn : after.withdrawn = before.withdrawn)
    (producers : ∀ id, after.buffers.find id = some .contentProducer ↔
      id ≠ buffer ∧ before.buffers.find id = some .contentProducer) :
    Hands after (.deposited buffer :: trace) where
  promised := by
    rw [promises, withdrawn, ← hands.promised, keptPromises, List.filterMap_cons_none rfl]
    rfl
  held id := by
    rw [producers, withProducer_deposited, hands.held id]
    by_cases same : buffer = id
    · simp [same]
    · simp [same, Ne.symm same]
  single := ⟨fun given same => (by cases same), hands.single⟩

end Hands

namespace Account

variable {sizeOf : BufferID → Size}

structure Kept (account : Account) : Prop where
  books : Books account.vault account.outstanding
  hands : Hands account.vault account.trace

theorem kept_initial (size : Size) {initialBuffers : Nat} (positive : 0 < initialBuffers) :
    (initial size initialBuffers).Kept where
  books :=
    { counted := by
        unfold initial BufferVault.new BufferVault.initialRequests
        dsimp only
        rw [List.filterMap_replicate]
        simp [Request.allocated?, OrderedMap.empty, OrderedMap.size]
      some_needed := positive
      needed := Nat.le_refl _
      waiting := fun pending => absurd rfl pending }
  hands :=
    { promised := rfl
      held := fun id => by simp [initial, BufferVault.new, withProducer]
      single := trivial }

/-- What a method other than `deposit` does to the account, by its outcome. -/
theorem step_of_perform (account : Account) (method : Method) {outcome : Outcome}
    (performs : account.vault.perform sizeOf method = outcome)
    (events : account.events sizeOf method =
      ((account.vault.perform sizeOf method).handed.map Event.handed).toList) :
    account.step sizeOf method =
      ⟨outcome.vault,
        account.received sizeOf method ++ outcome.requests.filterMap Request.allocated?,
        (outcome.handed.map Event.handed).toList ++ account.trace⟩ := by
  subst performs
  unfold step
  rw [events]

namespace Kept

variable {account : Account}

theorem deposit (kept : account.Kept) (id : BufferID) :
    (account.step sizeOf (.deposit id)).Kept := by
  obtain ⟨books, hands⟩ := kept
  by_cases withdrawn : account.vault.buffers.find id = some .contentProducer
  · have after : account.step sizeOf (.deposit id) =
        ⟨{ account.vault with buffers := account.vault.buffers.set id .selfWithContent },
          account.outstanding, .deposited id :: account.trace⟩ := by
      simp [step, events, received, BufferVault.perform, BufferVault.deposit, withdrawn]
    rw [after]
    refine ⟨books.setOwner withdrawn (by decide), hands.deposit id rfl rfl fun other => ?_⟩
    rw [OrderedMap.find_set]
    split_ifs with same
    · simp [same]
    · simp [same]
  · have after : account.step sizeOf (.deposit id) = account := by
      simp [step, events, received, BufferVault.perform, BufferVault.deposit, withdrawn,
        BufferVault.throws]
    rw [after]
    exact ⟨books, hands⟩

theorem transferOutbound (kept : account.Kept) (id : BufferID) :
    (account.step sizeOf (.transferOutbound id)).Kept := by
  obtain ⟨books, hands⟩ := kept
  by_cases deposited : account.vault.buffers.find id = some .selfWithContent
  · have after : account.step sizeOf (.transferOutbound id) =
        ⟨{ account.vault with buffers := account.vault.buffers.set id .server },
          account.outstanding, account.trace⟩ := by
      simp [step, events, received, BufferVault.perform, BufferVault.transferOutbound, deposited,
        Request.allocated?]
    rw [after]
    refine ⟨books.setOwner deposited (by decide), hands.quiet rfl rfl fun other => ?_⟩
    rw [OrderedMap.find_set]
    split_ifs with same
    · simp [same, deposited]
    · exact Iff.rfl
  · have after : account.step sizeOf (.transferOutbound id) = account := by
      simp [step, events, received, BufferVault.perform, BufferVault.transferOutbound, deposited,
        BufferVault.throws]
    rw [after]
    exact ⟨books, hands⟩

theorem completeOutbound (kept : account.Kept) (done : CallbackID) :
    (account.step sizeOf (.completeOutbound done)).Kept := by
  obtain ⟨handle, deferred, after⟩ : ∃ handle deferred,
      account.step sizeOf (.completeOutbound done) =
        ⟨{ account.vault with swapBuffersWaitHandle := handle, deferredCb := deferred },
          account.outstanding, account.trace⟩ := by
    simp only [step, events, received, BufferVault.perform, BufferVault.completeOutbound]
    split_ifs
    · exact ⟨account.vault.swapBuffersWaitHandle, account.vault.deferredCb,
        by simp [BufferVault.throws]⟩
    · exact ⟨account.vault.swapBuffersWaitHandle, account.vault.deferredCb, by simp⟩
    · exact ⟨account.vault.swapBuffersWaitHandle.expectResult, some done, by simp⟩
  rw [after]
  exact ⟨⟨kept.books.counted, kept.books.some_needed, kept.books.needed, kept.books.waiting⟩,
    kept.hands.quiet rfl rfl fun _ => Iff.rfl⟩

theorem setSize (kept : account.Kept) (size : Size) :
    (account.step sizeOf (.setSize size)).Kept := by
  have after : account.step sizeOf (.setSize size) =
      ⟨{ account.vault with size := size }, account.outstanding, account.trace⟩ := by
    simp [step, events, received, BufferVault.perform, BufferVault.setSize]
  rw [after]
  exact ⟨⟨kept.books.counted, kept.books.some_needed, kept.books.needed, kept.books.waiting⟩,
    kept.hands.quiet rfl rfl fun _ => Iff.rfl⟩

/-- There is something to hand out, so no promise waits. -/
theorem handOut (kept : account.Kept) {id : BufferID}
    (available : ({ (account.vault.cleanUp sizeOf).1 with
      withdrawn := account.vault.withdrawn + 1 } : BufferVault).availableBuffer sizeOf = some id) :
    (⟨{ (account.vault.cleanUp sizeOf).1 with
          withdrawn := account.vault.withdrawn + 1
          buffers := (account.vault.cleanUp sizeOf).1.buffers.set id .contentProducer },
        account.outstanding,
        .handed ⟨account.vault.withdrawn, id⟩ :: account.trace⟩ : Account).Kept := by
  obtain ⟨books, hands⟩ := kept
  have cleanBooks := books.cleanUp sizeOf
  obtain ⟨own, -⟩ := BufferVault.available_some available
  have idle : account.vault.promises = [] := by
    by_contra pending
    exact (cleanBooks.waiting pending).2 id own
  obtain ⟨counted, someNeeded, needed, waiting⟩ := cleanBooks.setOwner own
    (show Owner.contentProducer ≠ .self by decide)
  refine ⟨⟨counted, someNeeded, needed, waiting⟩,
    hands.handOut _ (fun used => ?_) (fun other => ?_) ?_⟩
  · cases own.symm.trans ((BufferVault.producers_cleanUp sizeOf _ id).mpr used)
  · rw [OrderedMap.find_set, ← BufferVault.producers_cleanUp sizeOf account.vault other]
    split_ifs with same
    · simp [same]
    · simp [same]
  · have promised := hands.promised
    rw [idle, List.append_nil] at promised
    change keptPromises account.trace ++ account.vault.withdrawn :: account.vault.promises = _
    rw [promised, idle, List.range_succ]

/-- There is nothing to hand out; what is asked for is counted. -/
theorem promise (kept : account.Kept)
    (unavailable : ({ (account.vault.cleanUp sizeOf).1 with
      withdrawn := account.vault.withdrawn + 1 } : BufferVault).availableBuffer sizeOf = none)
    {count : Nat} {asked : List Size} (positive : 0 < count)
    (counts : count = (account.vault.cleanUp sizeOf).1.currentBufferCount + asked.length) :
    (⟨{ (account.vault.cleanUp sizeOf).1 with
          withdrawn := account.vault.withdrawn + 1
          promises := account.vault.promises ++ [account.vault.withdrawn]
          currentBufferCount := count },
        account.outstanding ++ asked, account.trace⟩ : Account).Kept := by
  obtain ⟨books, hands⟩ := kept
  have cleanBooks := books.cleanUp sizeOf
  refine ⟨⟨?_, cleanBooks.some_needed, cleanBooks.needed,
      fun _ => ⟨positive, BufferVault.cleanUp_unavailable unavailable⟩⟩,
    ⟨?_, fun id => (BufferVault.producers_cleanUp sizeOf _ id).trans (hands.held id), hands.single⟩⟩
  · have counted := cleanBooks.counted
    rw [List.length_append]
    dsimp only
    omega
  · rw [List.range_succ, ← hands.promised, List.append_assoc]

theorem withdraw (kept : account.Kept) :
    (account.step sizeOf .withdraw).Kept := by
  by_cases connected : account.vault.disconnected = true
  · have after : account.step sizeOf .withdraw = account := by
      simp [step, events, received, BufferVault.perform, BufferVault.withdraw, connected,
        BufferVault.throws]
    rw [after]
    exact kept
  · rcases account.vault.withdraw_cases sizeOf (Bool.eq_false_iff.mpr connected) with
      ⟨id, available, outcome⟩ | ⟨unavailable, count, requests, outcome, counts⟩
    · rw [step_of_perform account .withdraw outcome rfl, allocated_frees, List.append_nil]
      exact kept.handOut available
    · rw [step_of_perform account .withdraw outcome rfl, List.filterMap_append, allocated_frees,
        List.append_nil]
      refine kept.promise unavailable ?_ ?_
      · rcases counts with ⟨-, rfl, -⟩ | ⟨enough, rfl, -⟩
        · exact Nat.succ_pos _
        · exact Nat.lt_of_lt_of_le (Nat.lt_of_lt_of_le kept.books.some_needed kept.books.needed)
            enough
      · rcases counts with ⟨-, rfl, rfl⟩ | ⟨-, rfl, rfl⟩
        · rfl
        · rfl

/-- The vault gives up buffers that it has for itself. -/
theorem giveUp (kept : account.Kept) (interval : Int) {buffers : OrderedMap BufferID Owner}
    {ids : List BufferID}
    (given : BufferVault.giveUp (account.vault.currentBufferCount -
      account.vault.initialBufferCount) account.vault.buffers = (buffers, ids)) :
    (⟨{ account.vault with
          interval := interval
          neededBufferCount := account.vault.initialBufferCount
          buffers := buffers
          currentBufferCount := account.vault.currentBufferCount - ids.length },
        account.outstanding, account.trace⟩ : Account).Kept := by
  obtain ⟨books, hands⟩ := kept
  have sizes := BufferVault.size_giveUp (account.vault.currentBufferCount -
    account.vault.initialBufferCount) account.vault.buffers
  have found (id : BufferID) := BufferVault.find_giveUp (account.vault.currentBufferCount -
    account.vault.initialBufferCount) account.vault.buffers id
  rw [given] at sizes
  simp only [given] at found
  have counted := books.counted
  have someNeeded := books.some_needed
  dsimp only at sizes
  refine ⟨⟨?_, someNeeded, Nat.le_refl _, fun pending => ?_⟩, hands.quiet rfl rfl fun id => ?_⟩
  · dsimp only
    omega
  · obtain ⟨positive, nothing⟩ := books.waiting pending
    refine ⟨by dsimp only; omega, fun id own => ?_⟩
    rcases found id with ⟨same, -⟩ | ⟨gone, -, -⟩
    · exact nothing id (same.symm.trans own)
    · cases gone.symm.trans own
  · rcases found id with ⟨same, -⟩ | ⟨gone, -, own⟩
    · rw [← same]
    · simp [gone, own]

theorem setInterval (kept : account.Kept) (interval : Int) :
    (account.step sizeOf (.setInterval interval)).Kept := by
  by_cases same : interval = account.vault.interval
  · have after : account.step sizeOf (.setInterval interval) = account := by
      simp [step, events, received, BufferVault.perform, BufferVault.setInterval, same]
    rw [after]
    exact kept
  · by_cases dropping : interval = 0
    · have after : account.step sizeOf (.setInterval interval) =
          ⟨{ account.vault with
              interval := interval
              currentBufferCount := account.vault.currentBufferCount + 1
              neededBufferCount := account.vault.neededBufferCount + 1 },
            account.outstanding ++ [account.vault.size], account.trace⟩ := by
        rw [dropping] at same ⊢
        simp [step, events, received, BufferVault.perform, BufferVault.setInterval, same,
          Request.allocated?]
      obtain ⟨books, hands⟩ := kept
      rw [after]
      refine ⟨⟨?_, books.some_needed, Nat.le_succ_of_le books.needed, fun pending => ?_⟩,
        hands.quiet rfl rfl fun _ => Iff.rfl⟩
      · rw [List.length_append, List.length_singleton, ← Nat.add_assoc]
        exact congrArg Nat.succ books.counted
      · exact ⟨Nat.succ_pos _, (books.waiting pending).2⟩
    · have outcome : account.vault.setInterval interval = _ :=
        (if_neg same).trans (if_neg dropping)
      rw [step_of_perform account (.setInterval interval) outcome rfl, allocated_frees,
        List.append_nil]
      exact kept.giveUp interval rfl

/-- A buffer that comes in is kept; `outstanding` is what is still to come. -/
theorem keepInbound {vault : BufferVault} {expected outstanding : List Size} {trace : List Event}
    (books : Books vault expected) (hands : Hands vault trace) {id : BufferID}
    (unused : vault.buffers.find id ≠ some .contentProducer)
    (counted : ∀ owner, vault.currentBufferCount =
      (vault.buffers.set id owner).size + outstanding.length) :
    (⟨(vault.keepInbound id).vault, outstanding,
      ((vault.keepInbound id).handed.map Event.handed).toList ++ trace⟩ : Account).Kept := by
  cases promises : vault.promises with
  | nil =>
    rw [BufferVault.keepInbound_idle _ _ promises]
    refine ⟨⟨?_, ?_, ?_, fun pending => ?_⟩, hands.quiet ?_ ?_ fun other => ?_⟩
    · simpa using counted .self
    · simpa using books.some_needed
    · simpa using books.needed
    · simp [promises] at pending
    · simp
    · simp
    · simp only [BufferVault.triggerCallback_buffers]
      rw [OrderedMap.find_set]
      split_ifs with same
      · simp [same, unused]
      · exact Iff.rfl
  | cons promise rest =>
    rw [BufferVault.keepInbound_waiting _ _ promises]
    obtain ⟨positive, nothing⟩ := books.waiting (promises ▸ List.cons_ne_nil _ _)
    refine ⟨⟨?_, ?_, ?_, fun _ => ⟨?_, fun other => ?_⟩⟩,
      hands.handOut ⟨promise, id⟩ unused (fun other => ?_) ?_⟩
    · simpa using counted .contentProducer
    · simpa using books.some_needed
    · simpa using books.needed
    · simpa using positive
    · simp only [BufferVault.triggerCallback_buffers]
      rw [OrderedMap.find_set]
      split_ifs
      · decide
      · exact nothing other
    · simp only [BufferVault.triggerCallback_buffers]
      rw [OrderedMap.find_set]
      split_ifs with same
      · simp [same]
      · simp [same]
    · simpa [promises] using hands.promised

/-- A buffer that the server had is given up; what is asked for in its place is counted. -/
theorem forget (kept : account.Kept) {id : BufferID}
    (server : account.vault.buffers.find id = some .server) (count : Nat) (asked : List Size)
    (counts : count + 1 = account.vault.currentBufferCount + asked.length)
    (positive : 0 < count) :
    (⟨{ account.vault with
          lastReceivedID := id
          buffers := account.vault.buffers.erase id
          currentBufferCount := count },
        account.outstanding ++ asked, account.trace⟩ : Account).Kept := by
  obtain ⟨books, hands⟩ := kept
  refine ⟨⟨?_, books.some_needed, books.needed, fun pending => ⟨positive, fun other => ?_⟩⟩,
    hands.quiet rfl rfl fun other => ?_⟩
  · have counted := books.counted
    have fewer := OrderedMap.size_erase account.vault.buffers server
    rw [List.length_append]
    dsimp only
    omega
  · rw [OrderedMap.find_erase]
    split_ifs
    · exact Option.some_ne_none _ ∘ Eq.symm
    · exact (books.waiting pending).2 other
  · rw [OrderedMap.find_erase]
    split_ifs with same
    · simp [same, server]
    · exact Iff.rfl

/-- Noting which buffer came in changes nothing. -/
theorem note (kept : account.Kept) (id : BufferID) :
    Books { account.vault with lastReceivedID := id } account.outstanding ∧
      Hands { account.vault with lastReceivedID := id } account.trace :=
  ⟨⟨kept.books.counted, kept.books.some_needed, kept.books.needed, kept.books.waiting⟩,
    kept.hands.quiet rfl rfl fun _ => Iff.rfl⟩

/-- The server gives a buffer back. -/
theorem giveBack (kept : account.Kept) {id : BufferID}
    (server : account.vault.buffers.find id = some .server) :
    (account.step sizeOf (.wireTransferInbound id)).Kept := by
  have expected : account.received sizeOf (.wireTransferInbound id) = account.outstanding :=
    if_neg (by simp [server])
  have unused : account.vault.buffers.find id ≠ some .contentProducer := by simp [server]
  have counted := kept.books.counted
  have fewer := OrderedMap.size_erase account.vault.buffers server
  rcases account.vault.wireTransferInbound_cases sizeOf id with ⟨sized, outcome⟩ |
    ⟨unknown, outcome⟩ | ⟨-, many, outcome⟩ | ⟨-, outcome⟩
  · rw [step_of_perform account (.wireTransferInbound id) outcome rfl, expected,
      BufferVault.keepInbound_requests, List.filterMap_nil, List.append_nil]
    obtain ⟨books, hands⟩ := kept.note id
    refine keepInbound books hands unused fun owner => ?_
    dsimp only
    rw [OrderedMap.size_set_known _ owner server]
    exact counted
  · cases unknown.symm.trans server
  · rw [step_of_perform account (.wireTransferInbound id) outcome rfl, expected]
    have enough := kept.books.needed
    have someNeeded := kept.books.some_needed
    exact kept.forget server (account.vault.currentBufferCount - 1) []
      (by rw [List.length_nil]; omega) (by omega)
  · rw [step_of_perform account (.wireTransferInbound id) outcome rfl, expected]
    exact kept.forget server account.vault.currentBufferCount [account.vault.size] rfl (by omega)

/-- A buffer comes in that was asked for. -/
theorem addNew (kept : account.Kept) {id : BufferID}
    (unknown : account.vault.buffers.find id = none) (member : sizeOf id ∈ account.outstanding) :
    (account.step sizeOf (.wireTransferInbound id)).Kept := by
  have expected : account.received sizeOf (.wireTransferInbound id) =
    account.outstanding.erase (sizeOf id) := if_pos unknown
  have counted := kept.books.counted
  have shorter := List.length_erase_add_one member
  obtain ⟨books, hands⟩ := kept.note id
  rcases account.vault.wireTransferInbound_cases sizeOf id with ⟨sized, outcome⟩ |
    ⟨-, outcome⟩ | ⟨known, -, -⟩ | ⟨known, -⟩
  · rw [step_of_perform account (.wireTransferInbound id) outcome rfl, expected,
      BufferVault.keepInbound_requests, List.filterMap_nil, List.append_nil]
    refine keepInbound books hands (by simp [unknown]) fun owner => ?_
    dsimp only
    rw [OrderedMap.size_set_new _ owner unknown]
    omega
  · rw [step_of_perform account (.wireTransferInbound id) outcome rfl, expected]
    refine ⟨⟨?_, books.some_needed, books.needed, books.waiting⟩, hands⟩
    change _ = _ + (account.outstanding.erase (sizeOf id) ++ [account.vault.size]).length
    rw [List.length_append, List.length_singleton]
    dsimp only
    omega
  · exact absurd unknown known
  · exact absurd unknown known

theorem wireTransferInbound (kept : account.Kept) (id : BufferID)
    (arrives : account.Arrives sizeOf (.wireTransferInbound id)) :
    (account.step sizeOf (.wireTransferInbound id)).Kept := by
  rcases arrives with server | ⟨unknown, member⟩
  · exact kept.giveBack server
  · exact kept.addNew unknown member

theorem step (kept : account.Kept) (method : Method)
    (arrives : account.Arrives sizeOf method) : (account.step sizeOf method).Kept := by
  cases method with
  | withdraw => exact kept.withdraw
  | deposit id => exact kept.deposit id
  | transferOutbound id => exact kept.transferOutbound id
  | completeOutbound done => exact kept.completeOutbound done
  | wireTransferInbound id => exact kept.wireTransferInbound id arrives
  | disconnect => exact arrives.elim
  | setSize size => exact kept.setSize size
  | setScale scaled =>
    change (account.step sizeOf (.setSize scaled)).Kept
    exact kept.setSize scaled
  | setInterval interval => exact kept.setInterval interval

/-- Something is left that can keep a promise that waits. -/
theorem promise_has_hope (kept : account.Kept) (pending : account.vault.promises ≠ []) :
    account.outstanding ≠ [] ∨
      ∃ id owner, account.vault.buffers.find id = some owner ∧ owner ≠ .self := by
  obtain ⟨positive, nothing⟩ := kept.books.waiting pending
  rw [kept.books.counted] at positive
  by_cases awaited : account.outstanding = []
  · rw [awaited, List.length_nil, Nat.add_zero] at positive
    obtain ⟨⟨id, owner⟩, member⟩ := List.length_pos_iff_exists_mem.mp positive
    have found := (account.vault.buffers.find_eq_some_iff id owner).mpr member
    refine .inr ⟨id, owner, found, ?_⟩
    rintro rfl
    exact nothing id found
  · exact .inl awaited

end Kept

/-! ### Every run -/

/-- In every run in which buffers arrive as they should, the vault counts its buffers rightly, hands
out buffers of its size, each to one producer at a time, keeps its promises in order, and has
something left to keep the next one with: a buffer that is to come, or one that the server or a
producer has or that is deposited and not yet transferred. -/
theorem vault_keeps_books (sizeOf : BufferID → Size) (size : Size) {initialBuffers : Nat}
    (positive : 0 < initialBuffers) {account : Account}
    (reached : Reaches (Account.step sizeOf) (Account.Arrives sizeOf)
      (initial size initialBuffers) account) :
    account.vault.currentBufferCount =
        account.vault.buffers.size + account.outstanding.length ∧
      (∀ method given, (account.vault.perform sizeOf method).handed = some given →
        sizeOf given.buffer = account.vault.size) ∧
      OneProducerAtATime account.trace ∧
      keptPromises account.trace ++ account.vault.promises = List.range account.vault.withdrawn ∧
      (account.vault.promises ≠ [] → account.outstanding ≠ [] ∨
        ∃ id owner, account.vault.buffers.find id = some owner ∧
          owner ∈ [Owner.server, .contentProducer, .selfWithContent]) := by
  have kept : account.Kept := reached.invariant (kept_initial size positive)
    fun _ method kept arrives => kept.step method arrives
  refine ⟨kept.books.counted, fun method _ => account.vault.perform_handed sizeOf method,
    kept.hands.single, kept.hands.promised,
    fun pending => (kept.promise_has_hope pending).imp id ?_⟩
  rintro ⟨buffer, owner, found, other⟩
  refine ⟨buffer, owner, found, ?_⟩
  cases owner with
  | self => exact absurd rfl other
  | _ => decide

/-- Buffers below three are small. -/
def exampleSize (id : BufferID) : Size := if id < 3 then ⟨1, 1⟩ else ⟨2, 2⟩

/-- A vault grows while one buffer is with the server: both small buffers are replaced, and the
second of two promises still waits. -/
def growing : List Method :=
  [.wireTransferInbound 1, .wireTransferInbound 2, .withdraw, .deposit 1, .transferOutbound 1,
    .completeOutbound 0, .setSize ⟨2, 2⟩, .withdraw, .wireTransferInbound 1, .withdraw,
    .wireTransferInbound 3]

theorem growing_keeps_books :
    let account := growing.foldl (Account.step exampleSize) (initial ⟨1, 1⟩ 2)
    (account.vault.promises = [2] ∧ account.vault.currentBufferCount = 2) ∧
      (account.outstanding ≠ [] ∨
        ∃ id owner, account.vault.buffers.find id = some owner ∧
          owner ∈ [Owner.server, .contentProducer, .selfWithContent]) := by
  refine ⟨by decide, ?_⟩
  have books := vault_keeps_books exampleSize ⟨1, 1⟩ (show 0 < 2 by decide)
    (Reaches.start.foldl growing (by decide))
  exact books.2.2.2.2 (by decide)

/-- Two producers deposit their buffers and a third one withdraws. -/
def depositing : List Method :=
  [.wireTransferInbound 1, .wireTransferInbound 2, .withdraw, .withdraw, .deposit 1, .deposit 2,
    .withdraw]

/-- The promise waits although nothing is to come and neither the server nor a producer has a
buffer. -/
theorem promise_waits_for_deposited_buffers :
    ¬ ∀ sizeOf size initialBuffers account, 0 < initialBuffers →
      Reaches (Account.step sizeOf) (Account.Arrives sizeOf) (initial size initialBuffers) account →
      account.vault.promises ≠ [] → account.outstanding ≠ [] ∨
        ∃ id owner, account.vault.buffers.find id = some owner ∧
          owner ∈ [Owner.server, .contentProducer] := by
  intro claimed
  have held := claimed exampleSize ⟨1, 1⟩ 2 _ (by decide)
    (Reaches.start.foldl depositing (by decide)) (by decide)
  have deposited : ∀ entry ∈ (depositing.foldl (Account.step exampleSize)
      (initial ⟨1, 1⟩ 2)).vault.buffers.entries, entry.2 = .selfWithContent := by decide
  rcases held with awaited | ⟨id, owner, found, busy⟩
  · exact awaited (by decide)
  · have other := deposited _ ((OrderedMap.find_eq_some_iff _ _ _).mp found)
    dsimp only at other
    subst other
    exact absurd busy (by decide)

end Account

end Mir.Client

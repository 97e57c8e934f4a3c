/-
This file models `BufferFactory`, which the streams and the direct allocations of one
connection share. Who wants a buffer first notes the request with the factory and then asks
the server for the buffer. The server answers in the order in which it was asked, and the
factory gives each answer to the oldest request of the same size: an answer does not say
which request it belongs to.

Three things go wrong with that. A request that is cancelled is forgotten while its buffer is
still to come, which then goes to another request of its size. A request whose buffer the
platform cannot import stays behind, and gets the next buffer of its size. And two requests
of one size may be noted in one order and sent in the other. While none of this happens,
every buffer goes to its own request.
-/

import Mir.Geometry.Rectangle
import Mir.Library.Transition

namespace Mir.Client

open Transition Mir.Geometry

/-! ### The factory -/

/-- What kind of buffer is wanted. -/
inductive AllocationKind
  | native (format flags : Nat)
  | software (format usage : Nat)
  deriving DecidableEq, Repr

/-- The pointers of the source are numbers here. `number` tells requests apart that are alike. -/
structure AllocationRequest where
  number : Nat
  nativeBufferFactory : Nat
  connection : Nat
  size : Size
  kind : AllocationKind
  cb : Nat
  cbContext : Nat
  deriving DecidableEq, Repr

/-- What the server sends: a buffer, or an error, of a size. -/
structure ServerBuffer where
  bufferID : Nat
  size : Size
  error : Option String
  deriving DecidableEq, Repr

/-- What a native factory makes of the server's buffer. -/
inductive ClientBuffer
  | native (factory bufferID format flags : Nat)
  | software (factory bufferID : Nat) (size : Size) (format : Nat)
  deriving DecidableEq, Repr

inductive MirBuffer
  | error (message : String) (id : Int) (cb cbContext connection : Nat)
  | buffer (cb cbContext bufferID : Nat) (clientBuffer : ClientBuffer) (connection usage : Nat)
  deriving DecidableEq, Repr

/-- The value of `mir_buffer_usage_hardware`. -/
def mirBufferUsageHardware : Nat := 1

/-- The buffer that a request gets from what the server sent. -/
def AllocationRequest.build (request : AllocationRequest) (errorID : Int)
    (buffer : ServerBuffer) : MirBuffer :=
  match buffer.error with
  | some message => .error message errorID request.cb request.cbContext request.connection
  | none =>
    match request.kind with
    | .native format flags =>
      .buffer request.cb request.cbContext buffer.bufferID
        (.native request.nativeBufferFactory buffer.bufferID format flags) request.connection
        mirBufferUsageHardware
    | .software format usage =>
      .buffer request.cb request.cbContext buffer.bufferID
        (.software request.nativeBufferFactory buffer.bufferID request.size format)
        request.connection usage

/-- The requests, in the order in which they were noted, and the next id of a failed buffer. -/
structure BufferFactory where
  allocationRequests : List AllocationRequest
  errorID : Int

namespace BufferFactory

-- What `create_buffer` of the platform throws, if it throws.
variable (createBufferThrows : AllocationRequest → ServerBuffer → Option String)

def new : BufferFactory := ⟨[], -1⟩

def expectBuffer (factory : BufferFactory) (request : AllocationRequest) : BufferFactory :=
  { factory with allocationRequests := factory.allocationRequests ++ [request] }

/-- The first request of the right size gets the buffer, and is forgotten. It is not forgotten if
the platform cannot make anything of the buffer. -/
def generateBuffer (factory : BufferFactory) (buffer : ServerBuffer) :
    BufferFactory × Except String MirBuffer :=
  match factory.allocationRequests.find? fun request => buffer.size = request.size with
  | none => (factory, .error "unrequested buffer received")
  | some request =>
    match buffer.error, createBufferThrows request buffer with
    | none, some thrown => (factory, .error thrown)
    | _, _ =>
      ({ allocationRequests := factory.allocationRequests.erase request
         errorID := if buffer.error.isSome then factory.errorID - 1 else factory.errorID },
        .ok (request.build factory.errorID buffer))

def cancelRequestsWithContext (factory : BufferFactory) (context : Nat) : BufferFactory :=
  { factory with
    allocationRequests := factory.allocationRequests.filter fun request =>
      request.cbContext ≠ context }

theorem generateBuffer_unrequested (factory : BufferFactory) (buffer : ServerBuffer)
    (noneSized : ∀ other ∈ factory.allocationRequests, other.size ≠ buffer.size) :
    factory.generateBuffer createBufferThrows buffer =
      (factory, .error "unrequested buffer received") := by
  have missing : factory.allocationRequests.find? (fun other => buffer.size = other.size) =
      none := by
    rw [List.find?_eq_none]
    intro other member sized
    exact noneSized other member (of_decide_eq_true sized).symm
  unfold generateBuffer
  rw [missing]

end BufferFactory

/-! ### The connection -/

/-- What was made of an answer of the server: the request it answers, whether that was cancelled,
and what the factory gave. -/
structure Delivery where
  request : AllocationRequest
  cancelled : Bool
  buffer : ServerBuffer
  errorID : Int
  result : Except String MirBuffer

/-- An answer went to the request it answers, or to nobody if that was cancelled. -/
def Delivery.Right (delivery : Delivery) : Prop :=
  delivery.result =
    if delivery.cancelled then .error "unrequested buffer received"
    else .ok (delivery.request.build delivery.errorID delivery.buffer)

/-- The factory and the requests under way: those noted and not yet sent, and those sent and not yet
answered, the oldest first. Which of them were cancelled is not known to the factory. -/
structure Allocations where
  factory : BufferFactory
  unsent : List AllocationRequest
  inFlight : List AllocationRequest
  cancelled : List AllocationRequest
  expected : Nat
  deliveries : List Delivery

inductive AllocationStep
  | expectBuffer (request : AllocationRequest)
  | allocateBuffer (request : AllocationRequest)
  | deliver (bufferID : Nat) (error : Option String)
  | cancelRequestsWithContext (context : Nat)
  deriving DecidableEq, Repr

namespace Allocations

variable (createBufferThrows : AllocationRequest → ServerBuffer → Option String)

def initial : Allocations := ⟨.new, [], [], [], 0, []⟩

/-- The server makes a buffer of the size it was asked for, or answers with an error and that
size. -/
def step (allocations : Allocations) : AllocationStep → Allocations
  | .expectBuffer request =>
    let request := { request with number := allocations.expected }
    { allocations with
      factory := allocations.factory.expectBuffer request
      unsent := allocations.unsent ++ [request]
      expected := allocations.expected + 1 }
  | .allocateBuffer request =>
    if request ∈ allocations.unsent then
      { allocations with
        unsent := allocations.unsent.erase request
        inFlight := allocations.inFlight ++ [request] }
    else allocations
  | .deliver bufferID error =>
    match allocations.inFlight with
    | [] => allocations
    | request :: rest =>
      let buffer : ServerBuffer := ⟨bufferID, request.size, error⟩
      let generated := allocations.factory.generateBuffer createBufferThrows buffer
      { allocations with
        factory := generated.1
        inFlight := rest
        deliveries :=
          ⟨request, request ∈ allocations.cancelled, buffer, allocations.factory.errorID,
            generated.2⟩ :: allocations.deliveries }
  | .cancelRequestsWithContext context =>
    { allocations with
      factory := allocations.factory.cancelRequestsWithContext context
      cancelled := allocations.cancelled ++ allocations.factory.allocationRequests.filter
        fun request => request.cbContext = context }

/-- A request has a size and was not cancelled. -/
def waits (allocations : Allocations) (size : Size) (request : AllocationRequest) : Bool :=
  request.size = size && request ∉ allocations.cancelled

/-- Requests of one size that were not cancelled are sent in the order in which they were noted, a
buffer whose request was cancelled arrives only while the factory has no request of its size, and
the platform can make something of the others. -/
def InOrder (allocations : Allocations) : AllocationStep → Prop
  | .allocateBuffer request => request ∈ allocations.unsent → request ∉ allocations.cancelled →
    allocations.unsent.find? (allocations.waits request.size) = some request
  | .deliver bufferID error => ∀ request ∈ allocations.inFlight.head?,
    if request ∈ allocations.cancelled then
      ∀ other ∈ allocations.factory.allocationRequests, other.size ≠ request.size
    else error = none → createBufferThrows request ⟨bufferID, request.size, none⟩ = none
  | _ => True

/-- The requests of one size wait in the order in which their answers will come. -/
structure InLine (allocations : Allocations) : Prop where
  line : ∀ size,
    allocations.factory.allocationRequests.filter (fun request => request.size = size) =
      (allocations.inFlight ++ allocations.unsent).filter (allocations.waits size)
  numbered : ∀ request ∈ allocations.inFlight ++ allocations.unsent ++ allocations.cancelled,
    request.number < allocations.expected
  right : ∀ delivery ∈ allocations.deliveries, delivery.Right

theorem inLine_initial : initial.InLine where
  line _ := rfl
  numbered request member := by cases member
  right delivery member := by cases member

namespace InLine

variable {createBufferThrows : AllocationRequest → ServerBuffer → Option String}
  {allocations : Allocations}

/-- The factory knows the requests under way that were not cancelled. -/
theorem mem_allocationRequests_iff (inLine : allocations.InLine) (request : AllocationRequest) :
    request ∈ allocations.factory.allocationRequests ↔
      request ∈ allocations.inFlight ++ allocations.unsent ∧ request ∉ allocations.cancelled := by
  have sized : request ∈ allocations.factory.allocationRequests.filter
        (fun other => other.size = request.size) ↔
      request ∈ (allocations.inFlight ++ allocations.unsent).filter
        (allocations.waits request.size) := by
    rw [inLine.line]
  simpa only [waits, List.mem_filter, decide_true, and_true, Bool.true_and, decide_eq_true_eq]
    using sized

theorem expectBuffer (inLine : allocations.InLine) (request : AllocationRequest) :
    (allocations.step createBufferThrows (.expectBuffer request)).InLine where
  line size := by
    have fresh : { request with number := allocations.expected } ∉ allocations.cancelled := by
      intro member
      exact Nat.lt_irrefl _ (inLine.numbered _ (List.mem_append_right _ member))
    have before := inLine.line size
    dsimp only [step, BufferFactory.expectBuffer]
    rw [List.filter_append, before, ← List.append_assoc, List.filter_append
      (allocations.inFlight ++ allocations.unsent)]
    congr 1
    simp [List.filter_cons, waits, fresh]
  numbered other member := by
    dsimp only [step] at member ⊢
    have before := inLine.numbered other
    simp only [List.mem_append, List.mem_singleton] at member before
    rcases member with (sent | unsent | rfl) | cancelled
    · exact Nat.lt_succ_of_lt (before (.inl (.inl sent)))
    · exact Nat.lt_succ_of_lt (before (.inl (.inr unsent)))
    · exact Nat.lt_succ_self _
    · exact Nat.lt_succ_of_lt (before (.inr cancelled))
  right := inLine.right

/-- Sending a request keeps its place among those that wait. -/
theorem filter_send (allocations : Allocations) (size : Size) (request : AllocationRequest)
    (first : request ∉ allocations.cancelled →
      allocations.unsent.find? (allocations.waits request.size) = some request) :
    (allocations.inFlight ++ [request] ++ allocations.unsent.erase request).filter
        (allocations.waits size) =
      (allocations.inFlight ++ allocations.unsent).filter (allocations.waits size) := by
  rw [List.append_assoc, List.filter_append, List.filter_append, List.filter_append,
    ← List.erase_filter]
  congr 1
  cases waiting : allocations.waits size request with
  | true =>
    obtain ⟨sized, uncancelled⟩ : request.size = size ∧ request ∉ allocations.cancelled := by
      simpa [waits] using waiting
    subst sized
    obtain ⟨rest, unsent⟩ : ∃ rest, allocations.unsent.filter (allocations.waits request.size) =
        request :: rest := by
      rw [← List.head?_eq_some_iff, List.head?_filter]
      exact first uncancelled
    rw [unsent, List.erase_cons_head, List.filter_cons_of_pos waiting]
    rfl
  | false =>
    have other : request ∉ allocations.unsent.filter (allocations.waits size) := by
      intro member
      exact Bool.false_ne_true (waiting.symm.trans (List.mem_filter.mp member).2)
    rw [List.erase_of_not_mem other, List.filter_cons_of_neg (by simp [waiting])]
    rfl

theorem allocateBuffer (inLine : allocations.InLine) (request : AllocationRequest)
    (inOrder : allocations.InOrder createBufferThrows (.allocateBuffer request)) :
    (allocations.step createBufferThrows (.allocateBuffer request)).InLine := by
  dsimp only [step]
  split_ifs with unsent
  · refine ⟨fun size => ?_, fun other member => ?_, inLine.right⟩
    · exact (inLine.line size).trans (filter_send allocations size request (inOrder unsent)).symm
    · apply inLine.numbered
      simp only [List.mem_append, List.mem_singleton] at member ⊢
      rcases member with ((sent | rfl) | left) | cancelled
      · exact .inl (.inl sent)
      · exact .inl (.inr unsent)
      · exact .inl (.inr (List.mem_of_mem_erase left))
      · exact .inr cancelled
  · exact inLine

/-- Cancelling takes the requests of a context out of every line. -/
theorem cancelRequestsWithContext (inLine : allocations.InLine) (context : Nat) :
    (allocations.step createBufferThrows (.cancelRequestsWithContext context)).InLine where
  line size := by
    dsimp only [step, BufferFactory.cancelRequestsWithContext]
    rw [List.filter_comm, inLine.line, List.filter_filter]
    apply List.filter_congr
    intro request underWay
    have known := inLine.mem_allocationRequests_iff request
    by_cases cancelled : request ∈ allocations.cancelled
    · simp [waits, cancelled]
    · have member : request ∈ allocations.factory.allocationRequests :=
        known.mpr ⟨underWay, cancelled⟩
      simp [waits, cancelled, member, Bool.and_comm]
  numbered request member := by
    apply inLine.numbered
    dsimp only [step] at member
    rw [List.mem_append]
    rcases List.mem_append.mp member with underWay | cancelled
    · exact .inl underWay
    · rcases List.mem_append.mp cancelled with before | cancels
      · exact .inr before
      · exact .inl
          ((inLine.mem_allocationRequests_iff request).mp (List.mem_of_mem_filter cancels)).1
  right := inLine.right

/-- The oldest request sent, if it was not cancelled, is the first of its size in the factory. -/
theorem generateBuffer_first (inLine : allocations.InLine) {request : AllocationRequest}
    {rest : List AllocationRequest} (sent : allocations.inFlight = request :: rest)
    (uncancelled : request ∉ allocations.cancelled) {buffer : ServerBuffer}
    (sized : buffer.size = request.size)
    (made : buffer.error = none → createBufferThrows request buffer = none) :
    allocations.factory.generateBuffer createBufferThrows buffer =
      ({ allocationRequests := allocations.factory.allocationRequests.erase request
         errorID := if buffer.error.isSome then allocations.factory.errorID - 1
          else allocations.factory.errorID },
        .ok (request.build allocations.factory.errorID buffer)) := by
  have first : allocations.factory.allocationRequests.find?
      (fun other => buffer.size = other.size) = some request := by
    have waiting : allocations.waits request.size request = true := by
      simp [waits, uncancelled]
    simp only [sized, eq_comm (a := request.size)]
    rw [← List.head?_filter, inLine.line, sent, List.cons_append, List.filter_cons_of_pos waiting]
    rfl
  unfold BufferFactory.generateBuffer
  rw [first]
  dsimp only
  split
  · rename_i thrown fine throws
    rw [made fine] at throws
    cases throws
  · rfl

/-- Taking the oldest request away from the factory and from those sent takes it out of its line. -/
theorem line_erase (inLine : allocations.InLine) {request : AllocationRequest}
    {rest : List AllocationRequest} (sent : allocations.inFlight = request :: rest) (size : Size) :
    (allocations.factory.allocationRequests.erase request).filter
        (fun other => other.size = size) =
      (rest ++ allocations.unsent).filter (allocations.waits size) := by
  rw [← List.erase_filter, inLine.line, sent, List.erase_filter, List.cons_append,
    List.erase_cons_head]

theorem numbered_deliver (inLine : allocations.InLine) {request : AllocationRequest}
    {rest : List AllocationRequest} (sent : allocations.inFlight = request :: rest) :
    ∀ other ∈ rest ++ allocations.unsent ++ allocations.cancelled,
      other.number < allocations.expected := by
  intro other member
  apply inLine.numbered
  rw [sent]
  exact List.mem_cons_of_mem request member

theorem deliver (inLine : allocations.InLine) (bufferID : Nat) (error : Option String)
    (inOrder : allocations.InOrder createBufferThrows (.deliver bufferID error)) :
    (allocations.step createBufferThrows (.deliver bufferID error)).InLine := by
  dsimp only [step]
  split
  · exact inLine
  · rename_i request rest sent
    have allowed := inOrder request (by rw [sent]; rfl)
    by_cases cancelled : request ∈ allocations.cancelled
    · rw [if_pos cancelled] at allowed
      rw [BufferFactory.generateBuffer_unrequested createBufferThrows allocations.factory
        ⟨bufferID, request.size, error⟩ allowed]
      refine ⟨fun size => ?_, inLine.numbered_deliver sent, fun delivery member => ?_⟩
      · have skipped : allocations.waits size request = false := by simp [waits, cancelled]
        have before := inLine.line size
        rw [sent, List.cons_append, List.filter_cons_of_neg (by simp [skipped])] at before
        exact before
      · rcases List.mem_cons.mp member with rfl | earlier
        · simp [Delivery.Right, cancelled]
        · exact inLine.right delivery earlier
    · rw [if_neg cancelled] at allowed
      have made : error = none →
          createBufferThrows request ⟨bufferID, request.size, error⟩ = none := by
        rintro rfl
        exact allowed rfl
      rw [inLine.generateBuffer_first sent cancelled (by rfl) made]
      refine ⟨inLine.line_erase sent, inLine.numbered_deliver sent, fun delivery member => ?_⟩
      rcases List.mem_cons.mp member with rfl | earlier
      · simp [Delivery.Right, cancelled]
      · exact inLine.right delivery earlier

theorem step (inLine : allocations.InLine) (label : AllocationStep)
    (inOrder : allocations.InOrder createBufferThrows label) :
    (allocations.step createBufferThrows label).InLine := by
  cases label with
  | expectBuffer request => exact inLine.expectBuffer request
  | allocateBuffer request => exact inLine.allocateBuffer request inOrder
  | deliver bufferID error => exact inLine.deliver bufferID error inOrder
  | cancelRequestsWithContext context => exact inLine.cancelRequestsWithContext context

end InLine

/-! ### Runs -/

/-- In every run in which requests of one size are sent in the order noted, no buffer of a cancelled
request meets another request of its size and the platform imports what arrives, every buffer goes
to its own request, and the buffer of a cancelled request to none. -/
theorem buffers_go_to_their_requests
    (createBufferThrows : AllocationRequest → ServerBuffer → Option String)
    {allocations : Allocations}
    (reaches : Reaches (step createBufferThrows) (InOrder createBufferThrows) initial
      allocations) :
    ∀ delivery ∈ allocations.deliveries, delivery.Right := by
  have inLine : allocations.InLine :=
    reaches.invariant inLine_initial fun before label inLine inOrder => inLine.step label inOrder
  exact inLine.right

instance (allocations : Allocations) (label : AllocationStep) :
    Decidable (allocations.InOrder createBufferThrows label) :=
  match label with
  | .expectBuffer _ => .isTrue trivial
  | .allocateBuffer request => inferInstanceAs (Decidable (request ∈ allocations.unsent →
      request ∉ allocations.cancelled →
        allocations.unsent.find? (allocations.waits request.size) = some request))
  | .deliver bufferID error => inferInstanceAs (Decidable (∀ request ∈ allocations.inFlight.head?,
      if request ∈ allocations.cancelled then
        ∀ other ∈ allocations.factory.allocationRequests, other.size ≠ request.size
      else error = none → createBufferThrows request ⟨bufferID, request.size, none⟩ = none))
  | .cancelRequestsWithContext _ => .isTrue trivial

instance (delivery : Delivery) : Decidable delivery.Right :=
  inferInstanceAs (Decidable (delivery.result =
    if delivery.cancelled then .error "unrequested buffer received"
    else .ok (delivery.request.build delivery.errorID delivery.buffer)))

/-- The request of a vault for a software buffer. -/
def vaultRequest (number vault format : Nat) : AllocationRequest :=
  ⟨number, 1, 0, ⟨8, 8⟩, .software format 2, 1, vault⟩

/-- Two vaults ask for buffers of one size, the first is destroyed and the other gets what it asked
for. -/
def destroyedAfterDelivery : List AllocationStep :=
  [.expectBuffer (vaultRequest 0 1 1), .expectBuffer (vaultRequest 1 2 4),
    .allocateBuffer (vaultRequest 0 1 1), .allocateBuffer (vaultRequest 1 2 4),
    .deliver 10 none, .cancelRequestsWithContext 1, .deliver 11 (some "out of memory")]

theorem destroyedAfterDelivery_right :
    let allocations := destroyedAfterDelivery.foldl (step fun _ _ => none) initial
    allocations.deliveries.length = 2 ∧ ∀ delivery ∈ allocations.deliveries, delivery.Right := by
  refine ⟨by decide, ?_⟩
  exact buffers_go_to_their_requests _ (Reaches.start.foldl destroyedAfterDelivery (by decide))

/-- The first vault is destroyed before its buffer arrives, and a vault of another format gets
that. -/
def destroyedBeforeDelivery : List AllocationStep :=
  [.expectBuffer (vaultRequest 0 1 1), .allocateBuffer (vaultRequest 0 1 1),
    .cancelRequestsWithContext 1, .expectBuffer (vaultRequest 1 2 4),
    .allocateBuffer (vaultRequest 1 2 4), .deliver 10 none]

/-- A buffer whose request was cancelled is delivered to another request. -/
theorem cancelled_buffer_goes_astray :
    ¬ ∀ createBufferThrows allocations,
      Reaches (step createBufferThrows) (fun _ _ => True) initial allocations →
        ∀ delivery ∈ allocations.deliveries, delivery.Right := by
  intro claimed
  have right := claimed (fun _ _ => none) _
    (Reaches.start.foldl destroyedBeforeDelivery (by decide))
  revert right
  decide

end Allocations

end Mir.Client

/-
This file models `ReorderingMessageSender`, which keeps the messages sent through it in a buffer
until it is uncorked and passes them on to its sink from then on.

Any number of threads send while one uncorks. A section under the lock is one step, and so is
every call of the sink. `uncork` gives the lock up before it passes the buffered messages on,
so a send that finds the sender uncorked may reach the sink before them.
-/

import Mathlib.Data.List.Basic
import Mathlib.Data.List.Perm.Basic
import Mir.Library.Transition

namespace Mir.Frontend.ReorderingSender

variable {Message : Type}

/-! ### The sender -/

/-- A call of `send`. Beside its message it is known what had happened when it began: which
calls had returned, how many messages were in the buffer, and whether `uncork` had begun. -/
structure Call (Message : Type) where
  number : Nat
  message : Message
  precededBy : List Nat
  seen : Nat
  afterUncork : Bool
  deriving DecidableEq

/-- Where `uncork` stands; in its loop it has passed on so many messages. -/
inductive Uncorking where
  | idle
  | begun
  | flushing (passed : Nat)
  deriving DecidableEq

structure Sender (Message : Type) where
  corked : Bool
  bufferedMessages : List (Call Message)
  uncorking : Uncorking
  /-- The calls before their section under the lock. -/
  waiting : List (Call Message)
  /-- The calls that have found the sender uncorked and have not called the sink yet. -/
  passing : List (Call Message)
  /-- What has reached the sink, the latest first. -/
  sink : List (Call Message)
  /-- Every call so far, the latest first. -/
  made : List (Call Message)
  returned : List Nat
  /-- The calls that had returned when `uncork` first began. -/
  sentBeforeUncork : Option (List Nat)

namespace Sender

def start : Sender Message where
  corked := true
  bufferedMessages := []
  uncorking := .idle
  waiting := []
  passing := []
  sink := []
  made := []
  returned := []
  sentBeforeUncork := none

/-- A thread calls `send`. -/
def beginSend (sender : Sender Message) (message : Message) : Sender Message :=
  let call : Call Message :=
    { number := sender.made.length
      message := message
      precededBy := sender.returned
      seen := sender.bufferedMessages.length
      afterUncork := sender.sentBeforeUncork.isSome }
  { sender with waiting := call :: sender.waiting, made := call :: sender.made }

/-- The section of `send` under the lock. With the message in the buffer the call returns. -/
def sendSection (sender : Sender Message) (position : Nat) : Sender Message :=
  match sender.waiting[position]? with
  | some call =>
    if sender.corked then
      { sender with
        waiting := sender.waiting.eraseIdx position
        bufferedMessages := sender.bufferedMessages ++ [call]
        returned := call.number :: sender.returned }
    else
      { sender with
        waiting := sender.waiting.eraseIdx position
        passing := call :: sender.passing }
  | none => sender

/-- The call of the sink in `send`, with which the call returns. -/
def sinkSend (sender : Sender Message) (position : Nat) : Sender Message :=
  match sender.passing[position]? with
  | some call =>
    { sender with
      passing := sender.passing.eraseIdx position
      sink := call :: sender.sink
      returned := call.number :: sender.returned }
  | none => sender

/-- The thread that uncorks calls `uncork`. -/
def beginUncork (sender : Sender Message) : Sender Message :=
  match sender.uncorking with
  | .idle =>
    { sender with
      uncorking := .begun
      sentBeforeUncork := some (sender.sentBeforeUncork.getD sender.returned) }
  | _ => sender

/-- The section of `uncork` under the lock. -/
def uncorkSection (sender : Sender Message) : Sender Message :=
  match sender.uncorking with
  | .begun => { sender with corked := false, uncorking := .flushing 0 }
  | _ => sender

/-- The next turn of the loop in `uncork`, or the end of it. -/
def flush (sender : Sender Message) : Sender Message :=
  match sender.uncorking with
  | .flushing passed =>
    match sender.bufferedMessages[passed]? with
    | some call => { sender with uncorking := .flushing (passed + 1), sink := call :: sender.sink }
    | none => { sender with uncorking := .idle, bufferedMessages := [] }
  | _ => sender

end Sender

/-! ### Runs -/

inductive Label (Message : Type) where
  | beginSend (message : Message)
  | sendSection (position : Nat)
  | sinkSend (position : Nat)
  | beginUncork
  | uncorkSection
  | flush

def step (sender : Sender Message) : Label Message → Sender Message
  | .beginSend message => sender.beginSend message
  | .sendSection position => sender.sendSection position
  | .sinkSend position => sender.sinkSend position
  | .beginUncork => sender.beginUncork
  | .uncorkSection => sender.uncorkSection
  | .flush => sender.flush

/-- How many messages the loop of `uncork` has passed on. -/
def Uncorking.passed : Uncorking → Nat
  | .flushing passed => passed
  | _ => 0

def Uncorking.flushes : Uncorking → Bool
  | .flushing _ => true
  | _ => false

theorem Uncorking.passed_eq_zero {uncorking : Uncorking} (outside : uncorking.flushes = false) :
    uncorking.passed = 0 := by
  cases uncorking with
  | flushing => cases outside
  | _ => rfl

/-- The messages in the buffer that the loop of `uncork` has not passed on. -/
def Sender.unflushed (sender : Sender Message) : List (Call Message) :=
  sender.bufferedMessages.drop sender.uncorking.passed

/-- A send calls the sink itself only when the messages that were in the buffer as it began
have been passed on. -/
def Waits (sender : Sender Message) : Label Message → Prop
  | .sinkSend position => ∀ call ∈ sender.passing[position]?,
    (sender.bufferedMessages.take call.seen).length ≤ sender.uncorking.passed
  | _ => True

instance (sender : Sender Message) : ∀ label, Decidable (Waits sender label)
  | .sinkSend position => inferInstanceAs (Decidable (∀ call ∈ sender.passing[position]?,
      (sender.bufferedMessages.take call.seen).length ≤ sender.uncorking.passed))
  | .beginSend _ => .isTrue trivial
  | .sendSection _ => .isTrue trivial
  | .beginUncork => .isTrue trivial
  | .uncorkSection => .isTrue trivial
  | .flush => .isTrue trivial

/-- Each message comes after those whose send had returned before its own send began. The
latest message comes first. -/
def InOrder : List (Call Message) → Prop
  | [] => True
  | call :: earlier =>
    (∀ number ∈ call.precededBy, number ∈ earlier.map Call.number) ∧ InOrder earlier

instance decidableInOrder : ∀ calls : List (Call Message), Decidable (InOrder calls)
  | [] => .isTrue trivial
  | call :: earlier =>
    have := decidableInOrder earlier
    inferInstanceAs (Decidable ((∀ number ∈ call.precededBy, number ∈ earlier.map Call.number) ∧
      InOrder earlier))

/-- What was sent before `uncork` began comes before each message whose send began after it. -/
def AfterThose (numbers : List Nat) : List (Call Message) → Prop
  | [] => True
  | call :: earlier =>
    (call.afterUncork = true → ∀ number ∈ numbers, number ∈ earlier.map Call.number) ∧
      AfterThose numbers earlier

/-- What has returned, in the order in which it reaches the sink if nothing gets in between. -/
def Sender.line (sender : Sender Message) : List (Call Message) :=
  sender.unflushed.reverse ++ sender.sink

section Line

variable {sender : Sender Message}

/-- The line does not change as `uncork` begins, nor in its section. -/
theorem line_uncorking {uncorking : Uncorking} {corked : Bool} {earlier : Option (List Nat)}
    (samePassed : uncorking.passed = sender.uncorking.passed) :
    { sender with
      corked := corked, uncorking := uncorking, sentBeforeUncork := earlier }.line =
      sender.line := by
  show (sender.bufferedMessages.drop uncorking.passed).reverse ++ sender.sink = _
  rw [samePassed]
  rfl

/-- A message put into the buffer comes last. -/
theorem line_buffered {call : Call Message} {waiting : List (Call Message)} {returned : List Nat}
    (outside : sender.uncorking.flushes = false) :
    { sender with
      waiting := waiting
      bufferedMessages := sender.bufferedMessages ++ [call]
      returned := returned }.line = call :: sender.line := by
  have notPassed := Uncorking.passed_eq_zero outside
  simp [Sender.line, Sender.unflushed, notPassed]

/-- A message passed on stays where it is in the line. -/
theorem line_passedOn {call : Call Message} {passed : Nat}
    (flushing : sender.uncorking = .flushing passed)
    (found : sender.bufferedMessages[passed]? = some call) :
    { sender with uncorking := .flushing (passed + 1), sink := call :: sender.sink }.line =
      sender.line := by
  have first : sender.bufferedMessages.drop passed =
      call :: sender.bufferedMessages.drop (passed + 1) := by
    obtain ⟨inside, rfl⟩ := List.getElem?_eq_some_iff.mp found
    exact List.drop_eq_getElem_cons inside
  rw [Sender.line, Sender.line, Sender.unflushed, Sender.unflushed, flushing]
  show (sender.bufferedMessages.drop (passed + 1)).reverse ++ call :: sender.sink =
    (sender.bufferedMessages.drop passed).reverse ++ sender.sink
  rw [first, List.reverse_cons, List.append_assoc, List.singleton_append]

/-- The buffer is cleared when all of it has been passed on. -/
theorem line_cleared {passed : Nat} (flushing : sender.uncorking = .flushing passed)
    (ended : sender.bufferedMessages[passed]? = none) :
    { sender with uncorking := .idle, bufferedMessages := [] }.line = sender.line := by
  have nothing : sender.unflushed = [] := by
    rw [Sender.unflushed, flushing]
    exact List.drop_eq_nil_of_le (List.getElem?_eq_none_iff.mp ended)
  rw [Sender.line, Sender.line, nothing]
  rfl

end Line

/-- What holds in any interleaving. -/
structure Consistent (sender : Sender Message) : Prop where
  conserved : (sender.line ++ (sender.waiting ++ sender.passing)).Perm sender.made
  distinct : (sender.made.map Call.number).Nodup
  numbered : ∀ call ∈ sender.made, call.number < sender.made.length
  corked : sender.corked = true → sender.passing = [] ∧ sender.uncorking.flushes = false ∧
    ∀ call ∈ sender.waiting, call.seen ≤ sender.bufferedMessages.length
  uncorked : sender.corked = false → sender.uncorking.flushes = false →
    sender.bufferedMessages = []
  returned : ∀ number, number ∈ sender.returned ↔ number ∈ sender.line.map Call.number
  buffered : ∀ call ∈ sender.bufferedMessages, call.number ∈ sender.returned
  preceded : ∀ call ∈ sender.waiting ++ sender.passing, ∀ number ∈ call.precededBy,
    number ∈ sender.sink.map Call.number ∨ number ∈
      ((sender.bufferedMessages.take call.seen).drop sender.uncorking.passed).map Call.number
  seen : ∀ call ∈ sender.waiting ++ sender.passing,
    ∀ other ∈ sender.bufferedMessages.take call.seen, other.number ∈ call.precededBy
  before : ∀ numbers, sender.sentBeforeUncork = some numbers →
    ∀ number ∈ numbers, number ∈ sender.returned
  after : ∀ call ∈ sender.made, call.afterUncork = true →
    ∃ numbers, sender.sentBeforeUncork = some numbers ∧
      ∀ number ∈ numbers, number ∈ call.precededBy

namespace Consistent

variable {sender : Sender Message}

theorem start : Consistent (Sender.start : Sender Message) where
  conserved := .nil
  distinct := List.nodup_nil
  numbered _ member := by cases member
  corked _ := ⟨rfl, rfl, fun _ member => by cases member⟩
  uncorked notCorked _ := by cases notCorked
  returned _ := Iff.rfl
  buffered _ member := by cases member
  preceded _ member := by cases member
  seen _ member := by cases member
  before _ some := by cases some
  after _ member := by cases member

theorem beginSend (consistent : Consistent sender) (message : Message) :
    Consistent (sender.beginSend message) := by
  constructor
  case conserved =>
    show (sender.line ++ (_ :: sender.waiting ++ sender.passing)).Perm (_ :: sender.made)
    exact List.perm_middle.trans (consistent.conserved.cons _)
  case distinct =>
    refine List.nodup_cons.mpr ⟨fun member => ?_, consistent.distinct⟩
    obtain ⟨call, made, same⟩ := List.mem_map.mp member
    have below := consistent.numbered call made
    dsimp only at same
    omega
  case numbered =>
    intro call member
    show call.number < sender.made.length + 1
    rcases List.mem_cons.mp member with rfl | earlier
    · exact Nat.lt_succ_self _
    · exact Nat.lt_succ_of_lt (consistent.numbered call earlier)
  case corked =>
    intro corked
    obtain ⟨nonePassing, outside, bounded⟩ := consistent.corked corked
    refine ⟨nonePassing, outside, fun call member => ?_⟩
    rcases List.mem_cons.mp member with rfl | earlier
    · exact Nat.le_refl _
    · exact bounded call earlier
  case uncorked => exact consistent.uncorked
  case returned => exact consistent.returned
  case buffered => exact consistent.buffered
  case preceded =>
    intro call member number earlier
    rcases List.mem_cons.mp member with rfl | older
    · have inLine := (consistent.returned number).mp earlier
      show number ∈ sender.sink.map Call.number ∨ number ∈ ((sender.bufferedMessages.take
        sender.bufferedMessages.length).drop sender.uncorking.passed).map Call.number
      rw [List.take_length]
      simpa [Sender.line, Sender.unflushed, or_comm] using inLine
    · exact consistent.preceded call older number earlier
  case seen =>
    intro call member other buffered
    rcases List.mem_cons.mp member with rfl | older
    · exact consistent.buffered other (List.mem_of_mem_take buffered)
    · exact consistent.seen call older other buffered
  case before => exact consistent.before
  case after =>
    intro call member begun
    rcases List.mem_cons.mp member with rfl | earlier
    · obtain ⟨numbers, some⟩ := Option.isSome_iff_exists.mp begun
      exact ⟨numbers, some, consistent.before numbers some⟩
    · exact consistent.after call earlier begun

/-- A waiting call moves on. -/
theorem perm_of_waiting {call : Call Message} {position : Nat}
    (found : sender.waiting[position]? = some call) :
    (call :: sender.waiting.eraseIdx position).Perm sender.waiting := by
  obtain ⟨inside, rfl⟩ := List.getElem?_eq_some_iff.mp found
  exact List.getElem_cons_eraseIdx_perm inside

theorem sendSection (consistent : Consistent sender) (position : Nat) :
    Consistent (sender.sendSection position) := by
  unfold Sender.sendSection
  split
  case h_2 => exact consistent
  case h_1 call found =>
    have moved := perm_of_waiting found
    have waits : call ∈ sender.waiting := List.mem_of_getElem? found
    have others : ∀ other ∈ sender.waiting.eraseIdx position, other ∈ sender.waiting :=
      fun other member => List.mem_of_mem_eraseIdx member
    split_ifs with corked
    · obtain ⟨nonePassing, outside, bounded⟩ := consistent.corked corked
      have notPassed := Uncorking.passed_eq_zero outside
      constructor
      case conserved =>
        rw [line_buffered outside]
        refine List.perm_middle.symm.trans (.trans ?_ consistent.conserved)
        exact (moved.append_right sender.passing).append_left sender.line
      case distinct => exact consistent.distinct
      case numbered => exact consistent.numbered
      case corked =>
        intro _
        refine ⟨nonePassing, outside, fun other member => ?_⟩
        have before := bounded other (others other member)
        show other.seen ≤ (sender.bufferedMessages ++ [call]).length
        rw [List.length_append]
        omega
      case uncorked =>
        intro notCorked
        rw [show sender.corked = false from notCorked] at corked
        cases corked
      case returned =>
        intro number
        rw [line_buffered outside, List.map_cons, List.mem_cons, List.mem_cons, consistent.returned]
      case buffered =>
        intro other member
        rcases List.mem_append.mp member with old | new
        · exact List.mem_cons_of_mem _ (consistent.buffered other old)
        · exact List.mem_singleton.mp new ▸ List.mem_cons_self
      case preceded =>
        intro other member number earlier
        have pending := (List.mem_append.mp member).imp_left (others other)
        refine (consistent.preceded other (List.mem_append.mpr pending) number earlier).imp_right
          fun inside => ?_
        show number ∈ (((sender.bufferedMessages ++ [call]).take other.seen).drop
          sender.uncorking.passed).map Call.number
        rw [notPassed, List.drop_zero] at inside ⊢
        rw [List.take_append, List.map_append]
        exact List.mem_append_left _ inside
      case seen =>
        intro other member buffered inside
        have pending := (List.mem_append.mp member).imp_left (others other)
        have older : other ∈ sender.waiting := by
          rw [nonePassing] at pending
          exact pending.resolve_right List.not_mem_nil
        rw [List.take_append_of_le_length (bounded other older)] at inside
        exact consistent.seen other (List.mem_append.mpr pending) buffered inside
      case before =>
        intro numbers some number member
        exact List.mem_cons_of_mem _ (consistent.before numbers some number member)
      case after => exact consistent.after
    · have pending : ∀ other ∈ sender.waiting.eraseIdx position ++ call :: sender.passing,
          other ∈ sender.waiting ++ sender.passing := by
        intro other member
        rcases List.mem_append.mp member with waiting | passing
        · exact List.mem_append_left _ (others other waiting)
        · rcases List.mem_cons.mp passing with rfl | old
          · exact List.mem_append_left _ waits
          · exact List.mem_append_right _ old
      exact { consistent with
        conserved := by
          refine List.Perm.trans ?_ consistent.conserved
          refine List.Perm.append_left sender.line ?_
          exact List.perm_middle.trans (moved.append_right sender.passing)
        corked := fun isCorked => absurd isCorked corked
        preceded := fun other member => consistent.preceded other (pending other member)
        seen := fun other member => consistent.seen other (pending other member) }

theorem sinkSend (consistent : Consistent sender) (position : Nat) :
    Consistent (sender.sinkSend position) := by
  unfold Sender.sinkSend
  split
  case h_2 => exact consistent
  case h_1 call found =>
    have passes : call ∈ sender.passing := List.mem_of_getElem? found
    have pending : ∀ other ∈ sender.waiting ++ sender.passing.eraseIdx position,
        other ∈ sender.waiting ++ sender.passing := fun other member =>
      List.mem_append.mpr ((List.mem_append.mp member).imp_right List.mem_of_mem_eraseIdx)
    have moved : (call :: sender.passing.eraseIdx position).Perm sender.passing := by
      obtain ⟨inside, rfl⟩ := List.getElem?_eq_some_iff.mp found
      exact List.getElem_cons_eraseIdx_perm inside
    constructor
    case conserved =>
      refine List.Perm.trans ?_ consistent.conserved
      show (sender.unflushed.reverse ++ call :: sender.sink ++
        (sender.waiting ++ sender.passing.eraseIdx position)).Perm _
      refine (List.perm_middle.append_right _).trans ?_
      refine List.perm_middle.symm.trans ?_
      refine List.Perm.append_left _ ?_
      exact List.perm_middle.symm.trans (moved.append_left sender.waiting)
    case distinct => exact consistent.distinct
    case numbered => exact consistent.numbered
    case corked =>
      intro corked
      rw [(consistent.corked corked).1] at passes
      cases passes
    case uncorked => exact consistent.uncorked
    case returned =>
      intro number
      show number ∈ call.number :: sender.returned ↔ number ∈ List.map Call.number
        (sender.unflushed.reverse ++ call :: sender.sink)
      rw [List.mem_cons, consistent.returned, Sender.line, List.map_append, List.map_append,
        List.mem_append, List.mem_append, List.map_cons, List.mem_cons]
      tauto
    case buffered =>
      intro other member
      exact List.mem_cons_of_mem _ (consistent.buffered other member)
    case preceded =>
      intro other member number earlier
      exact (consistent.preceded other (pending other member) number earlier).imp_left
        (List.mem_cons_of_mem _)
    case seen => exact fun other member => consistent.seen other (pending other member)
    case before =>
      intro numbers some number member
      exact List.mem_cons_of_mem _ (consistent.before numbers some number member)
    case after => exact consistent.after

theorem beginUncork (consistent : Consistent sender) : Consistent sender.beginUncork := by
  unfold Sender.beginUncork
  split
  case h_2 => exact consistent
  case h_1 idle =>
    have notPassed : sender.uncorking.passed = 0 := by rw [idle]; rfl
    have outside : sender.uncorking.flushes = false := by rw [idle]; rfl
    constructor
    case conserved =>
      rw [line_uncorking (by rw [notPassed]; rfl)]
      exact consistent.conserved
    case distinct => exact consistent.distinct
    case numbered => exact consistent.numbered
    case corked =>
      intro corked
      exact ⟨(consistent.corked corked).1, rfl, (consistent.corked corked).2.2⟩
    case uncorked =>
      intro notCorked _
      exact consistent.uncorked notCorked outside
    case returned =>
      intro number
      rw [line_uncorking (by rw [notPassed]; rfl)]
      exact consistent.returned number
    case buffered => exact consistent.buffered
    case preceded =>
      intro call member number earlier
      have preceded := consistent.preceded call member number earlier
      rw [notPassed] at preceded
      exact preceded
    case seen => exact consistent.seen
    case before =>
      intro numbers some number member
      cases some
      cases given : sender.sentBeforeUncork with
      | none =>
        rw [given] at member
        exact member
      | some known =>
        rw [given] at member
        exact consistent.before known given number member
    case after =>
      intro call member begun
      obtain ⟨numbers, given, all⟩ := consistent.after call member begun
      exact ⟨numbers, by simp [given], all⟩

theorem uncorkSection (consistent : Consistent sender) : Consistent sender.uncorkSection := by
  unfold Sender.uncorkSection
  split
  case h_2 => exact consistent
  case h_1 begun =>
    have notPassed : sender.uncorking.passed = 0 := by rw [begun]; rfl
    exact { consistent with
      conserved := by
        rw [line_uncorking (by rw [notPassed]; rfl)]
        exact consistent.conserved
      corked := fun isCorked => by cases isCorked
      uncorked := fun _ outside => by cases outside
      returned := fun number => by
        rw [line_uncorking (by rw [notPassed]; rfl)]
        exact consistent.returned number
      preceded := fun call member number earlier => by
        have preceded := consistent.preceded call member number earlier
        rw [notPassed] at preceded
        exact preceded }

/-- What is left after a place is what stands there or what is left after the next. -/
theorem mem_drop_or {list : List (Call Message)} {place : Nat} {call : Call Message}
    (member : call ∈ list.drop place) :
    list[place]? = some call ∨ call ∈ list.drop (place + 1) := by
  rw [← List.head?_drop, ← List.tail_drop]
  cases rest : list.drop place with
  | nil =>
    rw [rest] at member
    cases member
  | cons first others =>
    rw [rest] at member
    exact (List.mem_cons.mp member).imp_left fun same => congrArg some same.symm

theorem flush (consistent : Consistent sender) : Consistent sender.flush := by
  unfold Sender.flush
  split
  case h_2 => exact consistent
  case h_1 passed flushing =>
    have nowPassed : sender.uncorking.passed = passed := by rw [flushing]; rfl
    have notCorked : ¬ sender.corked = true := by
      intro corked
      have outside := (consistent.corked corked).2.1
      rw [flushing] at outside
      cases outside
    split
    case h_1 call found =>
      exact { consistent with
        conserved := by
          rw [line_passedOn flushing found]
          exact consistent.conserved
        corked := fun isCorked => absurd isCorked notCorked
        uncorked := fun _ outside => by cases outside
        returned := fun number => by
          rw [line_passedOn flushing found]
          exact consistent.returned number
        preceded := fun other member number earlier => by
          rcases consistent.preceded other member number earlier with sunk | inside
          · exact .inl (List.mem_cons_of_mem _ sunk)
          · obtain ⟨buffered, place, rfl⟩ := List.mem_map.mp inside
            rw [nowPassed] at place
            rcases mem_drop_or place with here | later
            · rw [List.getElem?_take] at here
              split_ifs at here
              cases found.symm.trans here
              exact .inl List.mem_cons_self
            · exact .inr (List.mem_map_of_mem later) }
    case h_2 ended =>
      have short : sender.bufferedMessages.length ≤ passed := List.getElem?_eq_none_iff.mp ended
      have nothing : sender.bufferedMessages.drop passed = [] := List.drop_eq_nil_of_le short
      exact { consistent with
        conserved := by
          rw [line_cleared flushing ended]
          exact consistent.conserved
        corked := fun isCorked => absurd isCorked notCorked
        uncorked := fun _ _ => rfl
        returned := fun number => by
          rw [line_cleared flushing ended]
          exact consistent.returned number
        buffered := fun other member => by cases member
        preceded := fun other member number earlier => by
          rcases consistent.preceded other member number earlier with sunk | inside
          · exact .inl sunk
          · obtain ⟨buffered, place, rfl⟩ := List.mem_map.mp inside
            have left : buffered ∈ sender.bufferedMessages.drop passed := by
              rw [nowPassed, List.drop_take] at place
              exact List.mem_of_mem_take place
            rw [nothing] at left
            cases left
        seen := fun other member buffered inside => by
          rw [List.take_nil] at inside
          cases inside }

theorem step (consistent : Consistent sender) (label : Label Message) :
    Consistent (step sender label) := by
  cases label with
  | beginSend message => exact consistent.beginSend message
  | sendSection position => exact consistent.sendSection position
  | sinkSend position => exact consistent.sinkSend position
  | beginUncork => exact consistent.beginUncork
  | uncorkSection => exact consistent.uncorkSection
  | flush => exact consistent.flush

end Consistent

/-! ### The order of the messages -/

theorem InOrder.of_append {later earlier : List (Call Message)}
    (ordered : InOrder (later ++ earlier)) : InOrder earlier := by
  induction later with
  | nil => exact ordered
  | cons call later inductionHypothesis => exact inductionHypothesis ordered.2

/-- A message may come in anywhere after those that precede it. -/
theorem InOrder.insert {later earlier : List (Call Message)} {call : Call Message}
    (ordered : InOrder (later ++ earlier))
    (preceded : ∀ number ∈ call.precededBy, number ∈ earlier.map Call.number) :
    InOrder (later ++ call :: earlier) := by
  induction later with
  | nil => exact ⟨preceded, ordered⟩
  | cons other later inductionHypothesis =>
    refine ⟨fun number member => ?_, inductionHypothesis ordered.2⟩
    have before : number ∈ (later ++ earlier).map Call.number := ordered.1 number member
    show number ∈ (later ++ call :: earlier).map Call.number
    rw [List.map_append, List.mem_append] at before ⊢
    exact before.imp_right (List.mem_cons_of_mem _)

/-- A call that waits for the buffer has everything before it in the sink. -/
theorem preceded_of_waits {sender : Sender Message} (consistent : Consistent sender)
    {position : Nat} (waits : Waits sender (.sinkSend position)) {call : Call Message}
    (found : sender.passing[position]? = some call) :
    ∀ number ∈ call.precededBy, number ∈ sender.sink.map Call.number := by
  intro number member
  have passes : call ∈ sender.waiting ++ sender.passing :=
    List.mem_append_right _ (List.mem_of_getElem? found)
  rcases consistent.preceded call passes number member with sunk | buffered
  · exact sunk
  · rw [List.drop_eq_nil_of_le (waits call found)] at buffered
    cases buffered

/-- The messages keep their order on the way to the sink. -/
theorem line_step {sender : Sender Message} {label : Label Message}
    (consistent : Consistent sender) (ordered : InOrder sender.line)
    (waits : Waits sender label) : InOrder (step sender label).line := by
  cases label with
  | beginSend message => exact ordered
  | sendSection position =>
    dsimp only [step, Sender.sendSection]
    split
    case h_2 => exact ordered
    case h_1 call found =>
      split_ifs with corked
      · rw [line_buffered (consistent.corked corked).2.1]
        refine ⟨fun number member => ?_, ordered⟩
        have waiting : call ∈ sender.waiting ++ sender.passing :=
          List.mem_append_left _ (List.mem_of_getElem? found)
        have notPassed := Uncorking.passed_eq_zero (consistent.corked corked).2.1
        rw [Sender.line, List.map_append, List.mem_append]
        rcases consistent.preceded call waiting number member with sunk | buffered
        · exact .inr sunk
        · obtain ⟨other, inside, rfl⟩ := List.mem_map.mp buffered
          refine .inl (List.mem_map_of_mem (List.mem_reverse.mpr ?_))
          rw [notPassed, List.drop_zero] at inside
          rw [Sender.unflushed, notPassed, List.drop_zero]
          exact List.mem_of_mem_take inside
      · exact ordered
  | sinkSend position =>
    dsimp only [step, Sender.sinkSend]
    split
    case h_2 => exact ordered
    case h_1 call found =>
      have inserted : InOrder (sender.unflushed.reverse ++ call :: sender.sink) :=
        InOrder.insert ordered (preceded_of_waits consistent waits found)
      exact inserted
  | beginUncork =>
    dsimp only [step, Sender.beginUncork]
    split
    case h_2 => exact ordered
    case h_1 idle =>
      rw [line_uncorking (by rw [idle]; rfl)]
      exact ordered
  | uncorkSection =>
    dsimp only [step, Sender.uncorkSection]
    split
    case h_2 => exact ordered
    case h_1 begun =>
      rw [line_uncorking (by rw [begun]; rfl)]
      exact ordered
  | flush =>
    dsimp only [step, Sender.flush]
    split
    case h_2 => exact ordered
    case h_1 passed flushing =>
      split
      case h_1 call found =>
        rw [line_passedOn flushing found]
        exact ordered
      case h_2 ended =>
        rw [line_cleared flushing ended]
        exact ordered

theorem consistent_of_reaches {allowed : Sender Message → Label Message → Prop}
    {sender : Sender Message} (reached : Transition.Reaches step allowed Sender.start sender) :
    Consistent sender :=
  reached.invariant Consistent.start fun _ label before _ => before.step label

theorem line_inOrder {sender : Sender Message}
    (reached : Transition.Reaches step Waits Sender.start sender) : InOrder sender.line :=
  reached.invariant_with (fun _ => consistent_of_reaches) trivial
    fun _ _ consistent ordered waits => line_step consistent ordered waits

/-- Messages in order come after what was sent before `uncork` began. -/
theorem afterThose_of_inOrder {sink : List (Call Message)} {numbers : List Nat}
    (ordered : InOrder sink) (after : ∀ call ∈ sink, call.afterUncork = true →
      ∀ number ∈ numbers, number ∈ call.precededBy) : AfterThose numbers sink := by
  induction sink with
  | nil => exact trivial
  | cons call earlier inductionHypothesis =>
    refine ⟨fun begun number member => ?_, inductionHypothesis ordered.2
      fun other inside => after other (List.mem_cons_of_mem _ inside)⟩
    exact ordered.1 number (after call List.mem_cons_self begun number member)

theorem Consistent.mem_made {sender : Sender Message} (consistent : Consistent sender)
    {call : Call Message} (sunk : call ∈ sender.sink) : call ∈ sender.made := by
  refine consistent.conserved.subset (List.mem_append_left _ ?_)
  exact List.mem_append_right _ sunk

/-- What is still in the buffer is not in the sink as well. -/
theorem Consistent.unflushed_not_sunk {sender : Sender Message} (consistent : Consistent sender)
    {call : Call Message} (buffered : call ∈ sender.unflushed) :
    call.number ∉ sender.sink.map Call.number := by
  intro sunk
  have distinct := (consistent.conserved.map Call.number).nodup_iff.mpr consistent.distinct
  rw [List.map_append, Sender.line, List.map_append] at distinct
  have apart := (List.nodup_append.mp (List.nodup_append.mp distinct).1).2.2
  exact apart _ (List.mem_map_of_mem (List.mem_reverse.mpr buffered)) _ sunk rfl

/-- A send that does not wait gets to the sink before a message that was sent before it. -/
theorem not_inOrder_of_not_waits {sender : Sender Message} (consistent : Consistent sender)
    {label : Label Message} (hurries : ¬ Waits sender label) :
    ¬ InOrder (step sender label).sink := by
  cases label with
  | sinkSend position =>
    intro ordered
    refine hurries fun call found => ?_
    have passes : call ∈ sender.waiting ++ sender.passing :=
      List.mem_append_right _ (List.mem_of_getElem? found)
    dsimp only [step, Sender.sinkSend] at ordered
    rw [show sender.passing[position]? = some call from found] at ordered
    by_contra short
    -- the first message in the buffer that has not been passed on
    have inside : sender.uncorking.passed < (sender.bufferedMessages.take call.seen).length :=
      Nat.lt_of_not_le short
    have next : (sender.bufferedMessages.take call.seen)[sender.uncorking.passed] ∈
        (sender.bufferedMessages.take call.seen).drop sender.uncorking.passed :=
      List.mem_drop_iff_getElem.mpr ⟨0, by omega, by simp⟩
    have earlier := consistent.seen call passes _ (List.mem_of_mem_drop next)
    refine consistent.unflushed_not_sunk ?_ (ordered.1 _ earlier)
    rw [List.drop_take] at next
    exact List.mem_of_mem_take next
  | _ => exact absurd trivial hurries

/-! ### What reaches the sink -/

/-- Nothing is lost and nothing is sent twice: every message is in the sink, in the buffer or
with the call that brought it, and all are in the sink when `uncork` and the sends have ended.
When each send that passes its message on itself waits for what was in the buffer as it began,
the messages reach the sink in the order of the calls, and what was sent before `uncork` began
comes before what is sent after it; a send that does not wait breaks the order at once. -/
theorem messages_in_order {sender : Sender Message}
    (reached : Transition.Reaches step Waits Sender.start sender) :
    (sender.made.map Call.number).Nodup ∧
    (sender.sink ++ sender.unflushed ++ (sender.waiting ++ sender.passing)).Perm sender.made ∧
    (sender.corked = false → sender.uncorking.flushes = false → sender.waiting = [] →
      sender.passing = [] → sender.sink.Perm sender.made) ∧
    InOrder sender.sink ∧
    (∀ numbers, sender.sentBeforeUncork = some numbers → AfterThose numbers sender.sink) ∧
    ∀ label, ¬ Waits sender label → ¬ InOrder (step sender label).sink := by
  have consistent := consistent_of_reaches reached
  have ordered : InOrder sender.sink := (line_inOrder reached).of_append
  have conserved : (sender.sink ++ sender.unflushed ++
      (sender.waiting ++ sender.passing)).Perm sender.made := by
    refine (List.Perm.append_right _ ?_).trans consistent.conserved
    exact List.perm_append_comm.trans ((List.reverse_perm _).symm.append_right _)
  refine ⟨consistent.distinct, conserved, fun uncorked ended noneWaiting nonePassing => ?_,
    ordered, fun numbers begun => ?_, fun label => not_inOrder_of_not_waits consistent⟩
  · have nothing : sender.unflushed = [] := by
      rw [Sender.unflushed, consistent.uncorked uncorked ended, List.drop_nil]
    rw [nothing, noneWaiting, nonePassing, List.append_nil, List.append_nil,
      List.append_nil] at conserved
    exact conserved
  · refine afterThose_of_inOrder ordered fun call sunk after => ?_
    obtain ⟨others, same, all⟩ := consistent.after call (consistent.mem_made sunk) after
    cases begun.symm.trans same
    exact all

/-- One message is sent, then the sender is uncorked while another message is sent. -/
def sendWhileUncorking (whenSent : List (Label Nat)) : List (Label Nat) :=
  [.beginSend 7, .sendSection 0, .beginUncork, .uncorkSection, .beginSend 8, .sendSection 0] ++
    whenSent

theorem messages_in_order_after_flush :
    ((sendWhileUncorking [.flush, .sinkSend 0, .flush]).foldl step Sender.start).sink.map
      Call.message = [8, 7] ∧
    InOrder ((sendWhileUncorking [.flush, .sinkSend 0, .flush]).foldl step Sender.start).sink := by
  have reached : Transition.Reaches step Waits (Sender.start : Sender Nat)
      ((sendWhileUncorking [.flush, .sinkSend 0, .flush]).foldl step Sender.start) :=
    Transition.Reaches.start.foldl _ (by decide)
  exact ⟨by decide, (messages_in_order reached).2.2.2.1⟩

/-- The second message reaches the sink first: its send found the sender uncorked and the
first message still in the buffer. -/
theorem second_message_overtakes :
    ¬ ∀ sender : Sender Nat, Transition.Reaches step (fun _ _ => True) Sender.start sender →
      InOrder sender.sink ∧
      ∀ numbers, sender.sentBeforeUncork = some numbers → AfterThose numbers sender.sink := by
  intro claimed
  have reached : Transition.Reaches step (fun _ _ => True) (Sender.start : Sender Nat)
      ((sendWhileUncorking [.sinkSend 0, .flush, .flush]).foldl step Sender.start) :=
    Transition.Reaches.start.foldl _ (by decide)
  have ordered := (claimed _ reached).1
  revert ordered
  decide

end Mir.Frontend.ReorderingSender

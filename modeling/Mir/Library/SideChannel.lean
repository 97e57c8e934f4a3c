/-
This file is a small library of messages on a stream of bytes, some of which come with descriptors.
A message is a header, a body and a marker byte for each set of descriptors that goes with it. The
stream takes any part of what is written and gives any part of what is asked for, but no more than
up to a byte that comes with descriptors. The reader knows from the body how many descriptors
follow.

The results are about every order of partial writes and reads: the reader gets the messages that
were written, in their order and each with its own descriptors, and never sees a reason to refuse.
-/

import Mathlib.Data.List.Basic

namespace SideChannel

/-- A byte, with the descriptors that come with it. -/
abbrev Item (Descriptor : Type) : Type := UInt8 × List Descriptor

structure Message (Descriptor : Type) where
  body : List UInt8
  sets : List (List Descriptor)
  deriving DecidableEq

/-- The header of a body of some size, and what the reader makes of a header (the size of the body)
and of a body (the numbers of the descriptors that follow), or why it refuses. -/
structure Protocol (Refusal : Type) where
  headerSize : Nat
  headerSize_pos : 0 < headerSize
  header : Nat → List UInt8
  length_header : ∀ size, (header size).length = headerSize
  marker : UInt8
  onHeader : List UInt8 → Except Refusal Nat
  onBody : List UInt8 → Except Refusal (List Nat)
  /-- Nothing is read after such a body. -/
  isLast : List UInt8 → Bool
  /-- Descriptors came with the header or the body. -/
  unexpected : Refusal
  /-- The number of descriptors was not the one that was expected. -/
  otherNumber : Refusal

/-- Where the reader is: in the header, in the body after a header, or after both and some sets,
with the numbers of the descriptors that are still to follow. -/
inductive Reading (Descriptor : Type)
  | header (got : List UInt8)
  | body (head : List UInt8) (size : Nat) (got : List UInt8)
  | side (head body : List UInt8) (sizes : List Nat) (sets : List (List Descriptor))
  deriving DecidableEq

/-- `closed` says that the reader has been told of the end of the stream, or of an error. -/
structure Receiver (Descriptor Refusal : Type) where
  reading : Reading Descriptor
  delivered : List (Message Descriptor)
  refused : Option Refusal
  closed : Bool

/-- The two ends and the stream between them. `writing` is what the writer of the last message is
still to write, and `broken` says that a writer has failed half way. -/
structure Link (Descriptor Refusal : Type) where
  writing : Option (List (Item Descriptor))
  sent : List (Message Descriptor)
  broken : Bool
  stream : List (Item Descriptor)
  receiver : Receiver Descriptor Refusal

inductive Op (Descriptor : Type)
  | begin (message : Message Descriptor)
  | write (count : Nat)
  | writeFails
  | receive (count : Nat)
  | close
  deriving DecidableEq

variable {Descriptor Refusal : Type}

def plain (bytes : List UInt8) : List (Item Descriptor) := bytes.map fun byte => (byte, [])

def bytes (items : List (Item Descriptor)) : List UInt8 := items.map Prod.fst

def IsPlain (items : List (Item Descriptor)) : Prop := ∀ item ∈ items, item.2.isEmpty = true

instance decidableIsPlain (items : List (Item Descriptor)) : Decidable (IsPlain items) :=
  inferInstanceAs (Decidable (∀ item ∈ items, item.2.isEmpty = true))

namespace Protocol

variable (protocol : Protocol Refusal)

def marks (sets : List (List Descriptor)) : List (Item Descriptor) :=
  sets.map fun set => (protocol.marker, set)

def encode (message : Message Descriptor) : List (Item Descriptor) :=
  plain (protocol.header message.body.length) ++ plain message.body ++ protocol.marks message.sets

/-- The reader finds what the writer has written. -/
structure WellFormed (message : Message Descriptor) : Prop where
  onHeader : protocol.onHeader (protocol.header message.body.length) = .ok message.body.length
  onBody : protocol.onBody message.body = .ok (message.sets.map List.length)

/-! ### The reader -/

def refuse (refusal : Refusal) (receiver : Receiver Descriptor Refusal) :
    Receiver Descriptor Refusal :=
  { receiver with refused := some refusal }

/-- A message is delivered when all its descriptors are there. -/
def next (head body : List UInt8) (sizes : List Nat) (sets : List (List Descriptor))
    (receiver : Receiver Descriptor Refusal) : Receiver Descriptor Refusal :=
  match sizes with
  | [] =>
    { receiver with
      reading := .header []
      delivered := receiver.delivered ++ [⟨body, sets⟩]
      closed := receiver.closed || protocol.isLast body }
  | size :: sizes => { receiver with reading := .side head body (size :: sizes) sets }

def finishBody (head body : List UInt8) (receiver : Receiver Descriptor Refusal) :
    Receiver Descriptor Refusal :=
  match protocol.onBody body with
  | .error refusal => refuse refusal receiver
  | .ok sizes => protocol.next head body sizes [] receiver

/-- A body of no bytes is not read. -/
def finishHeader (head : List UInt8) (receiver : Receiver Descriptor Refusal) :
    Receiver Descriptor Refusal :=
  match protocol.onHeader head with
  | .error refusal => refuse refusal receiver
  | .ok size =>
    if size = 0 then protocol.finishBody head [] receiver
    else { receiver with reading := .body head size [] }

/-- How many bytes are asked for. -/
def requested : Reading Descriptor → Nat
  | .header got => protocol.headerSize - got.length
  | .body _ size got => size - got.length
  | .side .. => 1

/-- What one read has given. -/
def read (items : List (Item Descriptor)) (receiver : Receiver Descriptor Refusal) :
    Receiver Descriptor Refusal :=
  match receiver.reading with
  | .header got =>
    if IsPlain items then
      if (got ++ bytes items).length < protocol.headerSize then
        { receiver with reading := .header (got ++ bytes items) }
      else protocol.finishHeader (got ++ bytes items) receiver
    else refuse protocol.unexpected receiver
  | .body head size got =>
    if IsPlain items then
      if (got ++ bytes items).length < size then
        { receiver with reading := .body head size (got ++ bytes items) }
      else protocol.finishBody head (got ++ bytes items) receiver
    else refuse protocol.unexpected receiver
  | .side head body sizes sets =>
    match sizes, items with
    | size :: sizes, item :: _ =>
      if item.2.length = size then protocol.next head body sizes (sets ++ [item.2]) receiver
      else refuse protocol.otherNumber receiver
    | _, _ => receiver

/-! ### The link -/

def begin (link : Link Descriptor Refusal) (message : Message Descriptor) :
    Link Descriptor Refusal :=
  match link.writing with
  | none =>
    { link with
      writing := some (protocol.encode message)
      sent := link.sent ++ [message] }
  | some _ => link

/-- A byte that comes with descriptors is written by itself. -/
def write (link : Link Descriptor Refusal) (count : Nat) : Link Descriptor Refusal :=
  match link.writing with
  | none => link
  | some left =>
    if 0 < count ∧ count ≤ left.length ∧ (count = 1 ∨ IsPlain (left.take count)) then
      { link with
        stream := link.stream ++ left.take count
        writing := if (left.drop count).isEmpty then none else some (left.drop count) }
    else link

def writeFails (link : Link Descriptor Refusal) : Link Descriptor Refusal :=
  match link.writing with
  | none => link
  | some _ => { link with writing := none, broken := true }

/-- A read ends with a byte that comes with descriptors. -/
def receive (link : Link Descriptor Refusal) (count : Nat) : Link Descriptor Refusal :=
  if link.receiver.refused.isNone ∧ link.receiver.closed = false ∧ 0 < count ∧
      count ≤ protocol.requested link.receiver.reading ∧ count ≤ link.stream.length ∧
      IsPlain (link.stream.take (count - 1)) then
    { link with
      stream := link.stream.drop count
      receiver := protocol.read (link.stream.take count) link.receiver }
  else link

def close (link : Link Descriptor Refusal) : Link Descriptor Refusal :=
  { link with receiver := { link.receiver with closed := true } }

def step (link : Link Descriptor Refusal) : Op Descriptor → Link Descriptor Refusal
  | .begin message => protocol.begin link message
  | .write count => write link count
  | .writeFails => writeFails link
  | .receive count => protocol.receive link count
  | .close => close link

end Protocol

/-- Nothing has been sent yet. -/
def Link.initial : Link Descriptor Refusal := ⟨none, [], false, [], ⟨.header [], [], none, false⟩⟩

/-! ### Plain bytes -/

theorem isPlain_plain (values : List UInt8) : IsPlain (plain values : List (Item Descriptor)) := by
  intro item member
  obtain ⟨value, -, rfl⟩ := List.mem_map.mp member
  rfl

theorem bytes_plain (values : List UInt8) :
    bytes (plain values : List (Item Descriptor)) = values := by
  unfold bytes plain
  rw [List.map_map]
  exact List.map_id values

theorem plain_append (values others : List UInt8) :
    (plain (values ++ others) : List (Item Descriptor)) = plain values ++ plain others :=
  List.map_append

theorem length_plain (values : List UInt8) :
    (plain values : List (Item Descriptor)).length = values.length := List.length_map _

/-- What is read out of plain bytes is plain, and is the next part of them or all that was left. -/
theorem split_plain {got whole : List UInt8} {items rest tail : List (Item Descriptor)}
    (same : plain got ++ (items ++ rest) = plain whole ++ tail) (before : got.length < whole.length)
    (isShort : items.length ≤ whole.length - got.length) :
    IsPlain items ∧
      ((got ++ bytes items).length < whole.length ∧
          (∃ later, whole = got ++ bytes items ++ later ∧ rest = plain later ++ tail) ∨
        ¬ (got ++ bytes items).length < whole.length ∧ got ++ bytes items = whole ∧
          rest = tail) := by
  have shorter : (plain got ++ items).length ≤ (plain whole : List (Item Descriptor)).length := by
    rw [List.length_append, length_plain, length_plain]
    omega
  have isPrefix : plain got ++ items <+: (plain whole : List (Item Descriptor)) := by
    refine List.prefix_of_prefix_length_le ?_ (List.prefix_append (plain whole) tail) shorter
    rw [← same, ← List.append_assoc]
    exact List.prefix_append _ _
  obtain ⟨left, isWhole⟩ := isPrefix
  have isRest : rest = left ++ tail := by
    refine @List.append_cancel_left _ (plain got ++ items) _ _ ?_
    rw [List.append_assoc, same, ← isWhole, List.append_assoc]
  obtain ⟨front, later, rfl, isFront, isLater⟩ := List.map_eq_append_iff.mp isWhole.symm
  obtain ⟨first, second, rfl, isFirst, isSecond⟩ := List.map_eq_append_iff.mp isFront
  have sameGot : first = got := by
    have sameItems : (plain first : List (Item Descriptor)) = plain got := isFirst
    have sameBytes := congrArg bytes sameItems
    rwa [bytes_plain, bytes_plain] at sameBytes
  subst sameGot
  have isItems : (plain second : List (Item Descriptor)) = items := isSecond
  subst isItems
  refine ⟨isPlain_plain second, ?_⟩
  rw [bytes_plain]
  cases later with
  | nil =>
    rw [List.append_nil]
    exact .inr ⟨Nat.lt_irrefl _, rfl, isRest.trans (congrArg (· ++ tail) isLater.symm)⟩
  | cons byte later =>
    refine .inl ⟨?_, byte :: later, rfl, isRest.trans (congrArg (· ++ tail) isLater.symm)⟩
    rw [@List.length_append _ (first ++ second)]
    exact Nat.lt_add_of_pos_right (Nat.succ_pos _)

/-! ### On the way through a message -/

namespace Protocol

variable {protocol : Protocol Refusal}

/-- What has been read of the first message that is not delivered. -/
def consumed (protocol : Protocol Refusal) : Reading Descriptor → List (Item Descriptor)
  | .header got => plain got
  | .body head _ got => plain head ++ plain got
  | .side head body _ sets => plain head ++ plain body ++ protocol.marks sets

/-- The reader is in the first message that is not delivered, and knows of it what it has to. -/
def Reads (protocol : Protocol Refusal) (pending : List (Message Descriptor)) :
    Reading Descriptor → Prop
  | .header got => got.length < protocol.headerSize
  | .body head size got => ∃ message later, pending = message :: later ∧
      head = protocol.header message.body.length ∧ size = message.body.length ∧ got.length < size
  | .side head body sizes sets => ∃ message later left, pending = message :: later ∧
      head = protocol.header message.body.length ∧ body = message.body ∧
      message.sets = sets ++ left ∧ sizes = left.map List.length ∧ left ≠ []

/-- What one reader has become of another: some messages have been delivered, and what is left on
the stream is the rest of the others. -/
def Advances (protocol : Protocol Refusal) (pending : List (Message Descriptor))
    (rest : List (Item Descriptor)) (before after : Receiver Descriptor Refusal) : Prop :=
  ∃ done left, pending = done ++ left ∧ after.delivered = before.delivered ++ done ∧
    after.refused = before.refused ∧ protocol.Reads left after.reading ∧
    protocol.consumed after.reading ++ rest = left.flatMap protocol.encode

variable {message : Message Descriptor} {later : List (Message Descriptor)}
  {receiver : Receiver Descriptor Refusal} {rest : List (Item Descriptor)}

theorem next_advances {sets left : List (List Descriptor)} (isSets : message.sets = sets ++ left)
    (isRest : rest = protocol.marks left ++ later.flatMap protocol.encode) :
    protocol.Advances (message :: later) rest receiver
      (protocol.next (protocol.header message.body.length) message.body (left.map List.length) sets
        receiver) := by
  cases left with
  | nil =>
    have isMessage : (⟨message.body, sets⟩ : Message Descriptor) = message := by
      rw [List.append_nil] at isSets
      rw [← isSets]
    refine ⟨[message], later, rfl, ?_, rfl, protocol.headerSize_pos, isRest⟩
    show receiver.delivered ++ [⟨message.body, sets⟩] = _
    rw [isMessage]
  | cons set left =>
    refine ⟨[], message :: later, rfl, (List.append_nil _).symm, rfl,
      ⟨message, later, set :: left, rfl, rfl, rfl, isSets, rfl, List.cons_ne_nil _ _⟩, ?_⟩
    show plain (protocol.header message.body.length) ++ plain message.body ++ protocol.marks sets ++
      rest = _
    rw [isRest, List.flatMap_cons, encode, isSets]
    unfold marks
    rw [List.map_append, List.append_assoc, List.append_assoc, List.append_assoc, List.append_assoc,
      List.append_assoc]

theorem finishBody_advances (wellFormed : protocol.WellFormed message)
    (isRest : rest = protocol.marks message.sets ++ later.flatMap protocol.encode) :
    protocol.Advances (message :: later) rest receiver
      (protocol.finishBody (protocol.header message.body.length) message.body receiver) := by
  unfold finishBody
  rw [wellFormed.onBody]
  exact next_advances rfl isRest

theorem finishHeader_advances (wellFormed : protocol.WellFormed message)
    (isRest : rest = plain message.body ++
      (protocol.marks message.sets ++ later.flatMap protocol.encode)) :
    protocol.Advances (message :: later) rest receiver
      (protocol.finishHeader (protocol.header message.body.length) receiver) := by
  unfold finishHeader
  rw [wellFormed.onHeader]
  show protocol.Advances (message :: later) rest receiver
    (if message.body.length = 0 then
      protocol.finishBody (protocol.header message.body.length) [] receiver
    else
      { receiver with
        reading := .body (protocol.header message.body.length) message.body.length [] })
  split
  · rename_i isEmpty
    have isNil := List.length_eq_zero_iff.mp isEmpty
    have isMarks : rest = protocol.marks message.sets ++ later.flatMap protocol.encode := by
      rw [isRest, isNil]
      rfl
    have finishes : protocol.Advances (message :: later) rest receiver
        (protocol.finishBody (protocol.header message.body.length) message.body receiver) :=
      finishBody_advances wellFormed isMarks
    rwa [isNil] at finishes ⊢
  · rename_i isLong
    refine ⟨[], message :: later, rfl, (List.append_nil _).symm, rfl,
      ⟨message, later, rfl, rfl, rfl, Nat.pos_of_ne_zero isLong⟩, ?_⟩
    show plain (protocol.header message.body.length) ++ plain [] ++ rest = _
    rw [isRest, List.flatMap_cons, encode, List.append_assoc, List.append_assoc, List.append_assoc]
    rfl

/-- What was read of a message that is still to be delivered is not all of it. -/
theorem pending_ne_nil {pending : List (Message Descriptor)} {items : List (Item Descriptor)}
    (same : protocol.consumed receiver.reading ++ (items ++ rest) = pending.flatMap protocol.encode)
    (isLong : 0 < items.length) : pending ≠ [] := by
  rintro rfl
  have lengths := congrArg List.length same
  rw [List.length_append, List.length_append, List.flatMap_nil, List.length_nil] at lengths
  omega

/-- One read brings the reader on, and never gives it a reason to refuse. -/
theorem read_advances {pending : List (Message Descriptor)} {items : List (Item Descriptor)}
    (reads : protocol.Reads pending receiver.reading)
    (same : protocol.consumed receiver.reading ++ (items ++ rest) = pending.flatMap protocol.encode)
    (isLong : 0 < items.length) (isShort : items.length ≤ protocol.requested receiver.reading)
    (wellFormed : ∀ message ∈ pending, protocol.WellFormed message) :
    protocol.Advances pending rest receiver (protocol.read items receiver) := by
  obtain ⟨message, later, rfl⟩ := List.exists_cons_of_ne_nil (pending_ne_nil same isLong)
  have isWellFormed := wellFormed message List.mem_cons_self
  rw [List.flatMap_cons, encode, List.append_assoc, List.append_assoc] at same
  unfold read
  cases isReading : receiver.reading with
  | header got =>
    rw [isReading] at same reads isShort
    have header := protocol.length_header message.body.length
    obtain ⟨isPlain, ways⟩ := split_plain same (header.symm ▸ reads) (header.symm ▸ isShort)
    rw [header] at ways
    dsimp only
    rw [if_pos isPlain]
    rcases ways with ⟨isPart, left, isHeader, isRest⟩ | ⟨notPart, isHeader, isRest⟩
    · rw [if_pos isPart]
      refine ⟨[], message :: later, rfl, (List.append_nil _).symm, rfl, isPart, ?_⟩
      show plain (got ++ bytes items) ++ rest = _
      rw [isRest, List.flatMap_cons, encode, isHeader, plain_append _ left]
      simp only [List.append_assoc]
    · rw [if_neg notPart, isHeader]
      exact finishHeader_advances isWellFormed isRest
  | body head size got =>
    rw [isReading] at same reads isShort
    obtain ⟨_, _, isFirst, rfl, rfl, before⟩ := reads
    cases isFirst
    have sameBody := List.append_cancel_left ((List.append_assoc _ _ _).symm.trans same)
    obtain ⟨isPlain, ways⟩ := split_plain sameBody before isShort
    dsimp only
    rw [if_pos isPlain]
    rcases ways with ⟨isPart, left, isBody, isRest⟩ | ⟨notPart, isBody, isRest⟩
    · rw [if_pos isPart]
      refine ⟨[], message :: later, rfl, (List.append_nil _).symm, rfl,
        ⟨message, later, rfl, rfl, rfl, isPart⟩, ?_⟩
      show plain _ ++ plain (got ++ bytes items) ++ rest = _
      have whole : plain message.body = plain (got ++ bytes items) ++
          (plain left : List (Item Descriptor)) := by
        rw [← plain_append, ← isBody]
      rw [isRest, List.flatMap_cons, encode, whole]
      simp only [List.append_assoc]
    · rw [if_neg notPart, isBody]
      exact finishBody_advances isWellFormed isRest
  | side head body sizes sets =>
    rw [isReading] at same reads isShort
    obtain ⟨_, _, left, isFirst, rfl, rfl, isSets, rfl, isLeft⟩ := reads
    cases isFirst
    obtain ⟨set, left, rfl⟩ := List.exists_cons_of_ne_nil isLeft
    obtain ⟨item, rfl⟩ := List.length_eq_one_iff.mp (Nat.le_antisymm isShort isLong)
    have sameSets : protocol.marks sets ++ (item :: rest) = protocol.marks (sets ++ set :: left) ++
        later.flatMap protocol.encode := by
      rw [isSets] at same
      refine List.append_cancel_left ((List.append_assoc _ _ _).symm.trans
        (same.trans (List.append_assoc _ _ _).symm))
    unfold marks at sameSets
    rw [List.map_append, List.map_cons, List.append_assoc, List.cons_append] at sameSets
    obtain ⟨rfl, isRest⟩ := List.cons.inj (List.append_cancel_left sameSets)
    show protocol.Advances _ rest receiver
      (if set.length = set.length then
        protocol.next _ message.body (left.map List.length) (sets ++ [set]) receiver
      else _)
    rw [if_pos rfl]
    refine next_advances ?_ isRest
    rw [isSets, List.append_assoc]
    rfl

/-- What one read makes of the reader depends on what bodies say only where it completes one, which
is that of the first message that is not delivered. -/
theorem read_congr {pending : List (Message Descriptor)} {items : List (Item Descriptor)}
    (reads : protocol.Reads pending receiver.reading)
    (same : protocol.consumed receiver.reading ++ (items ++ rest) = pending.flatMap protocol.encode)
    (isLong : 0 < items.length) (isShort : items.length ≤ protocol.requested receiver.reading)
    (wellFormed : ∀ message ∈ pending, protocol.WellFormed message)
    {onBody : List UInt8 → Except Refusal (List Nat)}
    (agrees : ∀ message ∈ pending, onBody message.body = protocol.onBody message.body) :
    ({ protocol with onBody } : Protocol Refusal).read items receiver =
      protocol.read items receiver := by
  obtain ⟨message, later, rfl⟩ := List.exists_cons_of_ne_nil (pending_ne_nil same isLong)
  have agreesFirst := agrees message List.mem_cons_self
  have finishes (head : List UInt8) :
      ({ protocol with onBody } : Protocol Refusal).finishBody head message.body receiver =
        protocol.finishBody head message.body receiver := by
    unfold finishBody
    dsimp only
    rw [agreesFirst]
    rfl
  rw [List.flatMap_cons, encode, List.append_assoc, List.append_assoc] at same
  unfold read
  cases isReading : receiver.reading with
  | header got =>
    rw [isReading] at same reads isShort
    have header := protocol.length_header message.body.length
    obtain ⟨isPlain, ways⟩ := split_plain same (header.symm ▸ reads) (header.symm ▸ isShort)
    rw [header] at ways
    dsimp only
    rw [if_pos isPlain, if_pos isPlain]
    rcases ways with ⟨isPart, -⟩ | ⟨notPart, isHeader, -⟩
    · rw [if_pos isPart, if_pos isPart]
    · rw [if_neg notPart, if_neg notPart, isHeader]
      unfold finishHeader
      dsimp only
      rw [(wellFormed message List.mem_cons_self).onHeader]
      dsimp only
      split
      · rename_i isEmpty
        have isNil := List.length_eq_zero_iff.mp isEmpty
        have finishesEmpty := finishes (protocol.header message.body.length)
        rwa [isNil] at finishesEmpty ⊢
      · rfl
  | body head size got =>
    rw [isReading] at same reads isShort
    obtain ⟨_, _, isFirst, rfl, rfl, before⟩ := reads
    cases isFirst
    have sameBody := List.append_cancel_left ((List.append_assoc _ _ _).symm.trans same)
    obtain ⟨isPlain, ways⟩ := split_plain sameBody before isShort
    dsimp only
    rw [if_pos isPlain, if_pos isPlain]
    rcases ways with ⟨isPart, -⟩ | ⟨notPart, isBody, -⟩
    · rw [if_pos isPart, if_pos isPart]
    · rw [if_neg notPart, if_neg notPart, isBody]
      exact finishes _
  | side head body sizes sets => rfl

end Protocol

/-! ### The two ends together -/

open Protocol

variable {protocol : Protocol Refusal} {link : Link Descriptor Refusal}

/-- What the reader has not delivered is what it has begun to read, what is on the stream and what
is still to be written. -/
structure Sound (protocol : Protocol Refusal) (link : Link Descriptor Refusal)
    (pending : List (Message Descriptor)) : Prop where
  sent : link.sent = link.receiver.delivered ++ pending
  same : protocol.consumed link.receiver.reading ++ (link.stream ++ link.writing.getD []) =
    pending.flatMap protocol.encode
  reads : protocol.Reads pending link.receiver.reading
  wellFormed : ∀ message ∈ link.sent, protocol.WellFormed message
  refused : link.receiver.refused = none

/-- The messages that are written are ones that the reader understands. -/
def Allowed (protocol : Protocol Refusal) : Op Descriptor → Prop
  | .begin message => protocol.WellFormed message
  | _ => True

theorem sound_initial : Sound protocol (Link.initial : Link Descriptor Refusal) [] := by
  refine ⟨rfl, rfl, protocol.headerSize_pos, fun message member => ?_, rfl⟩
  cases member

theorem reads_append {pending : List (Message Descriptor)} {reading : Reading Descriptor}
    (reads : protocol.Reads pending reading) (message : Message Descriptor) :
    protocol.Reads (pending ++ [message]) reading := by
  cases reading with
  | header got => exact reads
  | body head size got =>
    obtain ⟨first, later, rfl, known⟩ := reads
    exact ⟨first, later ++ [message], rfl, known⟩
  | side head body sizes sets =>
    obtain ⟨first, later, left, rfl, known⟩ := reads
    exact ⟨first, later ++ [message], left, rfl, known⟩

theorem length_encode (message : Message Descriptor) :
    (protocol.encode message).length =
      protocol.headerSize + message.body.length + message.sets.length := by
  unfold encode marks
  rw [List.length_append, List.length_append, length_plain, length_plain, protocol.length_header,
    List.length_map]

variable {pending : List (Message Descriptor)}

theorem Sound.begin (sound : Sound protocol link pending) {message : Message Descriptor}
    (isWellFormed : protocol.WellFormed message) :
    ∃ left, Sound protocol (protocol.begin link message) left := by
  unfold Protocol.begin
  cases isWriting : link.writing with
  | some left => exact ⟨pending, sound⟩
  | none =>
    obtain ⟨sent, same, reads, wellFormed, refused⟩ := sound
    rw [isWriting, Option.getD_none, List.append_nil] at same
    refine ⟨pending ++ [message], ?_, ?_, reads_append reads message, ?_, refused⟩
    · show link.sent ++ [message] = _
      rw [sent, List.append_assoc]
    · show _ ++ (link.stream ++ protocol.encode message) = _
      rw [List.flatMap_append, ← same, List.append_assoc, List.flatMap_singleton]
    · intro other member
      rcases List.mem_append.mp member with earlier | last
      · exact wellFormed other earlier
      · rw [List.mem_singleton.mp last]
        exact isWellFormed

theorem write_receiver (link : Link Descriptor Refusal) (count : Nat) :
    (Protocol.write link count).receiver = link.receiver := by
  unfold Protocol.write
  split
  · rfl
  · split <;> rfl

theorem Sound.write (sound : Sound protocol link pending) (count : Nat) :
    Sound protocol (Protocol.write link count) pending := by
  unfold Protocol.write
  cases isWriting : link.writing with
  | none => exact sound
  | some left =>
    dsimp only
    split
    · obtain ⟨sent, same, reads, wellFormed, refused⟩ := sound
      refine ⟨sent, ?_, reads, wellFormed, refused⟩
      rw [isWriting, Option.getD_some] at same
      have still : (if (left.drop count).isEmpty then none else some (left.drop count)).getD [] =
          left.drop count := by
        cases isEmpty : left.drop count <;> rfl
      show _ ++ (link.stream ++ left.take count ++ Option.getD (if _ then _ else _) []) = _
      rw [still, List.append_assoc, List.take_append_drop]
      exact same
    · exact sound

theorem Sound.parts (sound : Sound protocol link pending) (count : Nat) :
    protocol.consumed link.receiver.reading ++ (link.stream.take count ++
      (link.stream.drop count ++ link.writing.getD [])) = pending.flatMap protocol.encode := by
  rw [← List.append_assoc (link.stream.take count), List.take_append_drop]
  exact sound.same

theorem Sound.receive_delivers (sound : Sound protocol link pending) (count : Nat) :
    ∃ done left, pending = done ++ left ∧
      (protocol.receive link count).receiver.delivered = link.receiver.delivered ++ done ∧
      Sound protocol (protocol.receive link count) left := by
  unfold Protocol.receive
  split
  · rename_i possible
    obtain ⟨-, -, isLong, isShort, isThere, -⟩ := possible
    have parts := sound.parts count
    obtain ⟨sent, -, reads, wellFormed, refused⟩ := sound
    have length := List.length_take_of_le isThere
    obtain ⟨done, left, rfl, delivered, still, readsOn, rest⟩ := read_advances reads parts
      (length.symm ▸ isLong) (length.symm ▸ isShort) fun message member =>
        wellFormed message (sent ▸ List.mem_append_right _ member)
    refine ⟨done, left, rfl, delivered, ?_, rest, readsOn, wellFormed, still.trans refused⟩
    show link.sent = (protocol.read (link.stream.take count) link.receiver).delivered ++ left
    rw [delivered, sent, List.append_assoc]
  · exact ⟨[], pending, rfl, (List.append_nil _).symm, sound⟩

theorem Sound.receive (sound : Sound protocol link pending) (count : Nat) :
    ∃ left, Sound protocol (protocol.receive link count) left := by
  obtain ⟨-, left, -, -, soundNow⟩ := sound.receive_delivers count
  exact ⟨left, soundNow⟩

/-- The same messages are well-formed if bodies say the same of them. -/
theorem Sound.withOnBody (sound : Sound protocol link pending)
    (onBody : List UInt8 → Except Refusal (List Nat))
    (agrees : ∀ message ∈ link.sent, onBody message.body = .ok (message.sets.map List.length)) :
    Sound { protocol with onBody } link pending where
  sent := sound.sent
  same := sound.same
  reads := sound.reads
  wellFormed message member := ⟨(sound.wellFormed message member).onHeader, agrees message member⟩
  refused := sound.refused

/-- What bodies say may be known in another way when they are read. -/
theorem Sound.receive_congr (sound : Sound protocol link pending)
    {onBody : List UInt8 → Except Refusal (List Nat)}
    (agrees : ∀ message ∈ pending, onBody message.body = protocol.onBody message.body)
    (count : Nat) :
    ({ protocol with onBody } : Protocol Refusal).receive link count =
      protocol.receive link count := by
  unfold Protocol.receive
  by_cases possible : link.receiver.refused.isNone ∧ link.receiver.closed = false ∧ 0 < count ∧
      count ≤ protocol.requested link.receiver.reading ∧ count ≤ link.stream.length ∧
      IsPlain (link.stream.take (count - 1))
  · rw [if_pos possible]
    refine (if_pos possible).trans ?_
    obtain ⟨-, -, isLong, isShort, isThere, -⟩ := possible
    have length := List.length_take_of_le isThere
    rw [read_congr sound.reads (sound.parts count) (length.symm ▸ isLong) (length.symm ▸ isShort)
      (fun message member => sound.wellFormed message
        (sound.sent ▸ List.mem_append_right _ member)) agrees]
  · rw [if_neg possible]
    exact if_neg possible

theorem broken_step (op : Op Descriptor) (isBroken : link.broken = true) :
    (protocol.step link op).broken = true := by
  cases op with
  | begin message =>
    show (protocol.begin link message).broken = true
    unfold Protocol.begin
    split <;> exact isBroken
  | write count =>
    show (Protocol.write link count).broken = true
    unfold Protocol.write
    split
    · exact isBroken
    · split <;> exact isBroken
  | writeFails =>
    show (Protocol.writeFails link).broken = true
    unfold Protocol.writeFails
    split
    · exact isBroken
    · rfl
  | receive count =>
    show (protocol.receive link count).broken = true
    unfold Protocol.receive
    split <;> exact isBroken
  | close => exact isBroken

theorem step_sound (sound : Sound protocol link pending) (op : Op Descriptor)
    (allowed : Allowed protocol op) (isWhole : (protocol.step link op).broken = false) :
    ∃ left, Sound protocol (protocol.step link op) left := by
  cases op with
  | begin message => exact sound.begin allowed
  | write count => exact ⟨pending, sound.write count⟩
  | writeFails =>
    show ∃ left, Sound protocol (writeFails link) left
    change (writeFails link).broken = false at isWhole
    unfold writeFails at isWhole ⊢
    cases isWriting : link.writing with
    | none => exact ⟨pending, sound⟩
    | some left =>
      rw [isWriting] at isWhole
      cases isWhole
  | receive count => exact sound.receive count
  | close =>
    exact ⟨pending, sound.sent, sound.same, sound.reads, sound.wellFormed, sound.refused⟩

/-- In every order of partial writes and reads, as long as no writer fails half way, what is
delivered is a first part of what was sent, and the reader is in the rest of it. -/
theorem foldl_sound (ops : List (Op Descriptor)) (sound : Sound protocol link pending)
    (allowed : ∀ op ∈ ops, Allowed protocol op)
    (isWhole : (ops.foldl protocol.step link).broken = false) :
    ∃ left, Sound protocol (ops.foldl protocol.step link) left := by
  induction ops generalizing link pending with
  | nil => exact ⟨pending, sound⟩
  | cons op rest inductionHypothesis =>
    have stillWhole : (protocol.step link op).broken = false := by
      refine Bool.eq_false_iff.mpr fun isBroken => ?_
      have staysBroken : ∀ (ops : List (Op Descriptor)) (link : Link Descriptor Refusal),
          link.broken = true → (ops.foldl protocol.step link).broken = true := by
        intro ops
        induction ops with
        | nil => exact fun _ broken => broken
        | cons op rest stays => exact fun link broken => stays _ (broken_step op broken)
      exact Bool.eq_false_iff.mp isWhole (staysBroken rest _ isBroken)
    obtain ⟨left, soundNow⟩ := step_sound sound op (allowed op List.mem_cons_self) stillWhole
    exact inductionHypothesis soundNow (fun other later => allowed other (.tail _ later)) isWhole

/-- A reader is never through with a message that it has not delivered. -/
theorem length_consumed_lt {message : Message Descriptor} {later : List (Message Descriptor)}
    {reading : Reading Descriptor} (reads : protocol.Reads (message :: later) reading) :
    (protocol.consumed reading).length < (protocol.encode message).length := by
  rw [length_encode]
  cases reading with
  | header got =>
    have short : got.length < protocol.headerSize := reads
    show (plain got).length < _
    rw [length_plain]
    omega
  | body head size got =>
    obtain ⟨_, _, isFirst, rfl, rfl, before⟩ := reads
    cases isFirst
    show (plain _ ++ plain got).length < _
    rw [List.length_append, length_plain, length_plain, protocol.length_header]
    omega
  | side head body sizes sets =>
    obtain ⟨_, _, left, isFirst, rfl, rfl, isSets, -, isLeft⟩ := reads
    cases isFirst
    have isLong := List.length_pos_iff.mpr isLeft
    show (plain _ ++ plain _ ++ protocol.marks sets).length < _
    unfold marks
    rw [List.length_append, List.length_append, length_plain, length_plain,
      protocol.length_header, List.length_map, isSets, List.length_append]
    omega

/-- When everything has been written and read, everything has been delivered. -/
theorem Sound.complete (sound : Sound protocol link pending) (isWritten : link.writing = none)
    (isRead : link.stream = []) : pending = [] := by
  have same := sound.same
  have reads := sound.reads
  rw [isWritten, isRead, Option.getD_none, List.append_nil, List.append_nil] at same
  cases pending with
  | nil => rfl
  | cons message later =>
    have short := length_consumed_lt reads
    rw [same, List.flatMap_cons, List.length_append] at short
    omega

end SideChannel

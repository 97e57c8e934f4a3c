/-
This file models how messages are framed on the socket between a client and the server, in
both directions: a header of two bytes with the size of the body, most significant byte first,
and then the body.

Neither writer checks that the size fits into its two bytes: a body of 65536 bytes or more is
written out in full behind a header that holds the size modulo 65536. The reader takes that
many bytes for the body and the rest of the body for the next header.
-/

import Mathlib.Data.List.Basic
import Mir.Library.LengthPrefix

namespace Mir.Frontend.Framing

/-- The header both writers build: `(size >> 8) & 0xff` and `(size >> 0) & 0xff`. -/
def headerBytes (size : Nat) : List UInt8 :=
  [UInt8.ofNat ((size >>> 8) &&& 0xff), UInt8.ofNat ((size >>> 0) &&& 0xff)]

/-- The size both readers find in a header, by `(high_byte << 8) + low_byte` on the server and
by `be16toh` on the client. -/
def bodySize : List UInt8 → Nat
  | [highByte, lowByte] => (highByte.toNat <<< 8) + lowByte.toNat
  | _ => 0

/-! ### From the client to the server -/

/-- `MirProtobufRpcChannel::send_message`, read by `SocketConnection::on_read_size` and
`on_new_message`. The body is read at once or later, depending on what is available; either way
exactly `body_size` bytes are read, which may be none. -/
def invocations : LengthPrefix UInt8 where
  headerSize := 2
  header := headerBytes
  length_header _ := rfl
  headerSize_pos := Nat.zero_lt_two
  bodySize := bodySize
  takes _ := true

/-- What `send_message` writes for a body. -/
def sendMessage (body : List UInt8) : List UInt8 := invocations.frame body

/-- The bodies `SocketConnection` reads one after the other, and the bytes it is left with. -/
def readMessages (stream : List UInt8) : List (List UInt8) × List UInt8 := invocations.split stream

/-! ### From the server to the client -/

/-- `SocketMessenger::send`, read by `MirProtobufRpcChannel::on_data_available`. Asked for no
bytes at all, `receive_data` throws, and the exception ends the thread that reads. -/
def results : LengthPrefix UInt8 where
  headerSize := 2
  header := headerBytes
  length_header _ := rfl
  headerSize_pos := Nat.zero_lt_two
  bodySize := bodySize
  takes size := size ≠ 0

/-- What `SocketMessenger::send` writes for a body. -/
def send (body : List UInt8) : List UInt8 := results.frame body

/-- The bodies `on_data_available` reads one after the other, and the bytes it is left with. -/
def onDataAvailable (stream : List UInt8) : List (List UInt8) × List UInt8 := results.split stream

/-! ### The round trip -/

theorem length_headerBytes (size : Nat) : (headerBytes size).length = 2 := rfl

/-- The header keeps the size modulo 65536. -/
theorem bodySize_headerBytes (size : Nat) : bodySize (headerBytes size) = size % 65536 := by
  have low : ∀ value, value &&& 0xff = value % 256 := fun value =>
    Nat.and_two_pow_sub_one_eq_mod value 8
  show ((UInt8.ofNat ((size >>> 8) &&& 0xff)).toNat <<< 8) +
    (UInt8.ofNat ((size >>> 0) &&& 0xff)).toNat = _
  rw [low, low, Nat.shiftRight_zero, Nat.shiftRight_eq_div_pow, Nat.shiftLeft_eq,
    UInt8.toNat_ofNat', UInt8.toNat_ofNat']
  omega

theorem invocations_agrees_iff (size : Nat) : invocations.Agrees size ↔ size < 65536 := by
  show bodySize (headerBytes size) = size ∧ true = true ↔ _
  rw [bodySize_headerBytes, eq_self_iff_true, and_true]
  omega

theorem results_agrees_iff (size : Nat) : results.Agrees size ↔ 0 < size ∧ size < 65536 := by
  show bodySize (headerBytes size) = size ∧ decide (size ≠ 0) = true ↔ _
  rw [bodySize_headerBytes, decide_eq_true_iff]
  omega

/-- A sequence of bodies is read back as it was written, with nothing left over, if and only if
each of them is shorter than 65536 bytes, and none of those to the client is empty. -/
theorem framing_round_trip (bodies : List (List UInt8)) :
    (readMessages (bodies.flatMap sendMessage) = (bodies, []) ↔
      ∀ body ∈ bodies, body.length < 65536) ∧
    (onDataAvailable (bodies.flatMap send) = (bodies, []) ↔
      ∀ body ∈ bodies, 0 < body.length ∧ body.length < 65536) := by
  constructor
  · refine (invocations.split_flatMap_frame_iff bodies).trans (forall₂_congr fun body _ => ?_)
    exact invocations_agrees_iff body.length
  · refine (results.split_flatMap_frame_iff bodies).trans (forall₂_congr fun body _ => ?_)
    exact results_agrees_iff body.length

/-- One body of 65536 bytes is not read back, in either direction. -/
theorem long_body_desynchronises :
    readMessages ([List.replicate 65536 0].flatMap sendMessage) ≠ ([List.replicate 65536 0], []) ∧
    onDataAvailable ([List.replicate 65536 0].flatMap send) ≠ ([List.replicate 65536 0], []) := by
  have long : (List.replicate 65536 (0 : UInt8)).length = 65536 := List.length_replicate
  constructor
  · intro read
    have agrees := (invocations.split_flatMap_frame_iff _).mp read _ List.mem_cons_self
    rw [invocations_agrees_iff, long] at agrees
    exact Nat.lt_irrefl _ agrees
  · intro read
    have agrees := (results.split_flatMap_frame_iff _).mp read _ List.mem_cons_self
    rw [results_agrees_iff, long] at agrees
    exact Nat.lt_irrefl _ agrees.2

end Mir.Frontend.Framing

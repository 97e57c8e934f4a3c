/-
This file is a small library of words as bytes, in either of the two orders that machines have them
in. Whatever the order is, a word is what its bytes make, and bytes are those of the word they make.
-/

import Mathlib.Data.Nat.Digits.Defs

/-- Where the least significant byte of a word stands. -/
inductive ByteOrder
  | littleEndian
  | bigEndian
  deriving DecidableEq, Repr

namespace ByteOrder

/-- The least significant byte comes first. -/
def digits (width value : Nat) : List UInt8 :=
  (List.range width).map fun place => UInt8.ofNat (value / 256 ^ place)

def ofDigits (bytes : List UInt8) : Nat := Nat.ofDigits 256 (bytes.map UInt8.toNat)

/-- From the order of the machine to that of digits, and back. -/
def arrange : ByteOrder → List UInt8 → List UInt8
  | littleEndian, bytes => bytes
  | bigEndian, bytes => bytes.reverse

variable (order : ByteOrder) {width : Nat}

def toBytes (word : BitVec (8 * width)) : List UInt8 := order.arrange (digits width word.toNat)

def ofBytes (width : Nat) (bytes : List UInt8) : BitVec (8 * width) :=
  BitVec.ofNat _ (ofDigits (order.arrange bytes))

@[simp] theorem length_arrange (bytes : List UInt8) :
    (order.arrange bytes).length = bytes.length := by
  cases order with
  | littleEndian => rfl
  | bigEndian => exact List.length_reverse

@[simp] theorem arrange_arrange (bytes : List UInt8) :
    order.arrange (order.arrange bytes) = bytes := by
  cases order with
  | littleEndian => rfl
  | bigEndian => exact List.reverse_reverse bytes

@[simp] theorem length_digits (value : Nat) : (digits width value).length = width := by
  rw [digits, List.length_map, List.length_range]

@[simp] theorem length_toBytes (word : BitVec (8 * width)) :
    (order.toBytes word).length = width := by
  rw [toBytes, length_arrange, length_digits]

theorem ofDigits_digits (value : Nat) : ofDigits (digits width value) = value % 256 ^ width := by
  induction width with
  | zero => exact (Nat.mod_one value).symm
  | succ width inductionHypothesis =>
    unfold ofDigits at inductionHypothesis ⊢
    have split : digits (width + 1) value =
        digits width value ++ [UInt8.ofNat (value / 256 ^ width)] := by
      unfold digits
      rw [List.range_succ, List.map_append, List.map_singleton]
    rw [split, List.map_append, List.map_singleton, Nat.ofDigits_append, inductionHypothesis,
      Nat.ofDigits_singleton, List.length_map, length_digits, Nat.mod_pow_succ]
    rfl

theorem ofDigits_lt (bytes : List UInt8) : ofDigits bytes < 256 ^ bytes.length := by
  have bound := Nat.ofDigits_lt_base_pow_length (b := 256) (l := bytes.map UInt8.toNat)
    (by decide) (List.forall_mem_map.mpr fun byte _ => byte.toNat_lt)
  rw [List.length_map] at bound
  exact bound

/-- Digits are known by the value that they make. -/
theorem digits_ofDigits (bytes : List UInt8) : digits bytes.length (ofDigits bytes) = bytes := by
  have same : ofDigits (digits bytes.length (ofDigits bytes)) = ofDigits bytes := by
    rw [ofDigits_digits, Nat.mod_eq_of_lt (ofDigits_lt bytes)]
  have values := Nat.ofDigits_inj_of_len_eq (b := 256) (by decide)
    (by rw [List.length_map, List.length_map, length_digits])
    (List.forall_mem_map.mpr fun byte _ => byte.toNat_lt)
    (List.forall_mem_map.mpr fun byte _ => byte.toNat_lt) same
  exact (List.map_inj_right fun _ _ => UInt8.toNat_inj.mp).mp values

/-- A word is what its bytes make. -/
theorem ofBytes_toBytes (word : BitVec (8 * width)) :
    order.ofBytes width (order.toBytes word) = word := by
  apply BitVec.eq_of_toNat_eq
  have power : (256 : Nat) ^ width = 2 ^ (8 * width) := by
    rw [Nat.pow_mul]
  rw [ofBytes, toBytes, arrange_arrange, ofDigits_digits, BitVec.toNat_ofNat, power, Nat.mod_mod,
    Nat.mod_eq_of_lt word.isLt]

/-- Bytes are those of the word that they make. -/
theorem toBytes_ofBytes {bytes : List UInt8} (length : bytes.length = width) :
    order.toBytes (order.ofBytes width bytes) = bytes := by
  subst length
  have power : (256 : Nat) ^ bytes.length = 2 ^ (8 * bytes.length) := by
    rw [Nat.pow_mul]
  have bound := ofDigits_lt (order.arrange bytes)
  rw [length_arrange, power] at bound
  have arranged := digits_ofDigits (order.arrange bytes)
  rw [length_arrange] at arranged
  rw [toBytes, ofBytes, BitVec.toNat_ofNat, Nat.mod_eq_of_lt bound, arranged, arrange_arrange]

end ByteOrder

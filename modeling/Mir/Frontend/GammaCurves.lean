/-
This file embeds how display configurations go to clients and come back from them. The entries of a
gamma curve are words, which are on the wire as the bytes that the machine has them in. A string
that comes back is copied over the memory of a vector with half as many entries as the string has
bytes, and the last byte of a string of odd length is written behind it. The three curves of an
output must have one size.
-/

import Mir.Graphics.KMSConfiguration
import Mir.Library.ByteOrder
import Mir.Library.Fallible

namespace Mir.Frontend

open Fallible Mir.Geometry Mir.Graphics.KMS

abbrev GammaCurve := List (BitVec 16)

/-! ### Words and bytes -/

/-- The bytes of an entry. -/
def entryBytes (order : ByteOrder) (entry : BitVec 16) : List UInt8 :=
  @ByteOrder.toBytes order 2 entry

/-- The memory of a vector. -/
def curveBytes (order : ByteOrder) (curve : GammaCurve) : List UInt8 :=
  curve.flatMap (entryBytes order)

/-- The vector that has some bytes for its memory. -/
def curveOf (order : ByteOrder) : List UInt8 → GammaCurve
  | first :: second :: rest => order.ofBytes 2 [first, second] :: curveOf order rest
  | _ => []

/-- A byte is written outside of the memory at an offset, or curves do not belong together. -/
inductive GammaError
  | overrun (offset : Nat)
  | logicError (what : String)
  deriving DecidableEq, Repr

/-- The bytes that are written to the memory from an offset on. -/
def copyInto : List UInt8 → Nat → List UInt8 → Except GammaError (List UInt8)
  | [], _, memory => .ok memory
  | byte :: bytes, offset, memory =>
    if offset < memory.length then copyInto bytes (offset + 1) (memory.set offset byte)
    else .error (.overrun offset)

def convertStringToGammaCurve (order : ByteOrder) (strBytes : List UInt8) :
    Except GammaError GammaCurve := do
  let out : GammaCurve := List.replicate (strBytes.length / 2) 0
  let memory ← copyInto strBytes 0 (curveBytes order out)
  return curveOf order memory

def gammaCurves (red green blue : GammaCurve) : Except GammaError GammaCurves :=
  if red.length ≠ green.length ∨ green.length ≠ blue.length then
    .error (.logicError "Different gamma LUT sizes")
  else .ok ⟨red, green, blue⟩

/-! ### Configurations -/

/-- What a client has of an output, and may change. -/
structure ProtobufDisplayOutput where
  outputID : Nat
  used : Nat
  positionX : Int
  positionY : Int
  currentMode : Nat
  currentFormat : Nat
  powerMode : Nat
  orientation : Int
  scaleFactor : Rat
  gammaRed : List UInt8
  gammaGreen : List UInt8
  gammaBlue : List UInt8
  deriving DecidableEq

/-- What a user may change of an output. Enumerations are the numbers that stand for them. -/
structure UserDisplayConfigurationOutput where
  id : Nat
  used : Bool
  topLeft : Point
  currentModeIndex : Nat
  currentFormat : Nat
  powerMode : Nat
  orientation : Int
  scale : Rat
  gamma : GammaCurves
  deriving DecidableEq

def packProtobufDisplayOutput (order : ByteOrder) (output : UserDisplayConfigurationOutput) :
    ProtobufDisplayOutput where
  outputID := output.id
  used := output.used.toNat
  positionX := output.topLeft.x
  positionY := output.topLeft.y
  currentMode := output.currentModeIndex
  currentFormat := output.currentFormat
  powerMode := output.powerMode
  orientation := output.orientation
  scaleFactor := output.scale
  gammaRed := curveBytes order output.gamma.red
  gammaGreen := curveBytes order output.gamma.green
  gammaBlue := curveBytes order output.gamma.blue

/-- An output is what the client says of it. -/
def unpackOutput (order : ByteOrder) (dest : UserDisplayConfigurationOutput)
    (src : ProtobufDisplayOutput) : Except GammaError UserDisplayConfigurationOutput := do
  let red ← convertStringToGammaCurve order src.gammaRed
  let green ← convertStringToGammaCurve order src.gammaGreen
  let blue ← convertStringToGammaCurve order src.gammaBlue
  let gamma ← gammaCurves red green blue
  return { dest with
    used := src.used ≠ 0
    topLeft := ⟨src.positionX, src.positionY⟩
    currentModeIndex := src.currentMode
    currentFormat := src.currentFormat
    powerMode := src.powerMode
    orientation := src.orientation
    scale := src.scaleFactor
    gamma }

/-- The first that a client says of an output counts, and outputs that it does not mention stay. -/
def unpackAndSanitizeDisplayConfiguration (order : ByteOrder)
    (config : List UserDisplayConfigurationOutput) (request : List ProtobufDisplayOutput) :
    Except GammaError (List UserDisplayConfigurationOutput) :=
  config.mapM fun dest =>
    match request.find? fun src => src.outputID = dest.id with
    | none => .ok dest
    | some src => unpackOutput order dest src

/-! ### Copying -/

variable (order : ByteOrder)

theorem copyInto_eq {bytes memory : List UInt8} {offset : Nat} (inside : offset ≤ memory.length) :
    copyInto bytes offset memory =
      if offset + bytes.length ≤ memory.length then
        .ok (memory.take offset ++ bytes ++ memory.drop (offset + bytes.length))
      else .error (.overrun memory.length) := by
  induction bytes generalizing offset memory with
  | nil => simp [copyInto, inside]
  | cons byte bytes inductionHypothesis =>
    unfold copyInto
    by_cases room : offset < memory.length
    · have sameLength : (memory.set offset byte).length = memory.length := List.length_set
      have front : (memory.set offset byte).take (offset + 1) = memory.take offset ++ [byte] := by
        rw [List.take_add_one, List.take_set_of_le (Nat.le_refl offset),
          List.getElem?_set_self room]
        rfl
      have behind : (memory.set offset byte).drop (offset + 1 + bytes.length) =
          memory.drop (offset + (byte :: bytes).length) := by
        rw [List.drop_set_of_lt (by omega), List.length_cons, Nat.add_assoc, Nat.add_comm 1]
      rw [if_pos room, inductionHypothesis (sameLength.symm ▸ room), sameLength, front, behind,
        List.append_assoc (memory.take offset), List.singleton_append, List.length_cons,
        Nat.add_assoc, Nat.add_comm 1]
    · have full : offset = memory.length := Nat.le_antisymm inside (Nat.not_lt.mp room)
      rw [if_neg room, if_neg (by rw [List.length_cons]; omega), full]

/-! ### Strings and curves -/

theorem length_entryBytes (entry : BitVec 16) : (entryBytes order entry).length = 2 :=
  ByteOrder.length_toBytes order _

theorem length_curveBytes (curve : GammaCurve) :
    (curveBytes order curve).length = 2 * curve.length := by
  induction curve with
  | nil => rfl
  | cons entry curve inductionHypothesis =>
    unfold curveBytes at inductionHypothesis ⊢
    rw [List.flatMap_cons, List.length_append, length_entryBytes, inductionHypothesis,
      List.length_cons]
    omega

theorem curveOf_curveBytes (curve : GammaCurve) :
    curveOf order (curveBytes order curve) = curve := by
  induction curve with
  | nil => rfl
  | cons entry curve inductionHypothesis =>
    obtain ⟨first, second, isBytes⟩ := List.length_eq_two.mp (length_entryBytes order entry)
    have isEntry : order.ofBytes 2 [first, second] = entry := by
      rw [← isBytes]
      exact order.ofBytes_toBytes _
    unfold curveBytes at inductionHypothesis ⊢
    rw [List.flatMap_cons, isBytes]
    exact congrArg₂ List.cons isEntry inductionHypothesis

/-- A string of even length fills the vector, and the last byte of one of odd length is written
behind it. -/
theorem convert_eq (strBytes : List UInt8) :
    convertStringToGammaCurve order strBytes =
      if strBytes.length % 2 = 0 then .ok (curveOf order strBytes)
      else .error (.overrun (strBytes.length - 1)) := by
  unfold convertStringToGammaCurve
  dsimp only
  generalize isMemory : curveBytes order (List.replicate (strBytes.length / 2) 0) = memory
  have length : memory.length = 2 * (strBytes.length / 2) := by
    rw [← isMemory, length_curveBytes, List.length_replicate]
  rw [copyInto_eq (Nat.zero_le memory.length), Nat.zero_add, List.take_zero, List.nil_append]
  split_ifs with room even even
  · rw [List.drop_of_length_le (by omega), List.append_nil]
    rfl
  · omega
  · omega
  · have last : memory.length = strBytes.length - 1 := by omega
    rw [last]
    rfl

theorem convert_ok_iff (strBytes : List UInt8) :
    (∃ curve, convertStringToGammaCurve order strBytes = .ok curve) ↔
      strBytes.length % 2 = 0 := by
  rw [convert_eq]
  split_ifs with even
  · exact iff_of_true ⟨_, rfl⟩ even
  · refine iff_of_false ?_ even
    rintro ⟨curve, none⟩
    cases none

theorem length_curveOf (strBytes : List UInt8) :
    (curveOf order strBytes).length = strBytes.length / 2 := by
  fun_induction curveOf order strBytes with
  | case1 first second rest inductionHypothesis =>
    simp only [List.length_cons, inductionHypothesis]
    omega
  | case2 strBytes notTwo =>
    match strBytes, notTwo with
    | [], _ => rfl
    | [_], _ => exact (Nat.div_eq_of_lt Nat.one_lt_two).symm
    | first :: second :: rest, notTwo => exact (notTwo first second rest rfl).elim

theorem length_of_convert {strBytes : List UInt8} {curve : GammaCurve}
    (converts : convertStringToGammaCurve order strBytes = .ok curve) :
    strBytes.length = 2 * curve.length := by
  rw [convert_eq] at converts
  split_ifs at converts with even
  rw [← Except.ok.inj converts, length_curveOf]
  omega

theorem convert_curveBytes (curve : GammaCurve) :
    convertStringToGammaCurve order (curveBytes order curve) = .ok curve := by
  rw [convert_eq, if_pos (by rw [length_curveBytes, Nat.mul_mod_right]), curveOf_curveBytes]

/-! ### Requests -/

theorem gammaCurves_succeeds_iff (red green blue : GammaCurve) :
    (∃ curves, gammaCurves red green blue = .ok curves) ↔
      red.length = green.length ∧ green.length = blue.length := by
  unfold gammaCurves
  split_ifs with different
  · refine iff_of_false ?_ fun same => different.elim (· same.1) (· same.2)
    rintro ⟨curves, none⟩
    cases none
  · obtain ⟨sameGreen, sameBlue⟩ := not_or.mp different
    exact iff_of_true ⟨_, rfl⟩ ⟨not_not.mp sameGreen, not_not.mp sameBlue⟩

/-- The curves that a client sends are whole, and belong together. -/
structure WholeCurves (src : ProtobufDisplayOutput) : Prop where
  even : src.gammaRed.length % 2 = 0
  green : src.gammaGreen.length = src.gammaRed.length
  blue : src.gammaBlue.length = src.gammaRed.length

theorem unpackOutput_succeeds_iff (dest : UserDisplayConfigurationOutput)
    (src : ProtobufDisplayOutput) :
    (∃ output, unpackOutput order dest src = .ok output) ↔ WholeCurves src := by
  unfold unpackOutput
  constructor
  · intro succeeds
    obtain ⟨red, isRed, succeeds⟩ := bind_succeeds_iff.mp succeeds
    obtain ⟨green, isGreen, succeeds⟩ := bind_succeeds_iff.mp succeeds
    obtain ⟨blue, isBlue, succeeds⟩ := bind_succeeds_iff.mp succeeds
    obtain ⟨curves, areCurves, -⟩ := bind_succeeds_iff.mp succeeds
    obtain ⟨sameGreen, sameBlue⟩ := (gammaCurves_succeeds_iff red green blue).mp ⟨_, areCurves⟩
    refine ⟨(convert_ok_iff order _).mp ⟨red, isRed⟩, ?_, ?_⟩
    · rw [length_of_convert order isGreen, length_of_convert order isRed, sameGreen]
    · rw [length_of_convert order isBlue, length_of_convert order isRed, sameGreen, sameBlue]
  · intro whole
    obtain ⟨red, isRed⟩ := (convert_ok_iff order _).mpr whole.even
    obtain ⟨green, isGreen⟩ := (convert_ok_iff order _).mpr (whole.green ▸ whole.even)
    obtain ⟨blue, isBlue⟩ := (convert_ok_iff order _).mpr (whole.blue ▸ whole.even)
    have redLength := length_of_convert order isRed
    have greenLength := length_of_convert order isGreen
    have blueLength := length_of_convert order isBlue
    rw [whole.green] at greenLength
    rw [whole.blue] at blueLength
    obtain ⟨curves, areCurves⟩ := (gammaCurves_succeeds_iff red green blue).mpr (by omega)
    refine bind_succeeds_iff.mpr ⟨red, isRed, bind_succeeds_iff.mpr ⟨green, isGreen, ?_⟩⟩
    exact bind_succeeds_iff.mpr ⟨blue, isBlue, bind_succeeds_iff.mpr ⟨curves, areCurves, _, rfl⟩⟩

/-- A request is unpacked exactly if the curves of each output that it speaks of are whole and
belong together. -/
theorem unpack_succeeds_iff (config : List UserDisplayConfigurationOutput)
    (request : List ProtobufDisplayOutput) :
    (∃ next, unpackAndSanitizeDisplayConfiguration order config request = .ok next) ↔
      ∀ dest ∈ config, ∀ src, request.find? (fun src => src.outputID = dest.id) = some src →
        WholeCurves src := by
  unfold unpackAndSanitizeDisplayConfiguration
  rw [mapM_succeeds_iff]
  refine forall₂_congr fun dest _ => ?_
  cases request.find? fun src => src.outputID = dest.id with
  | none => exact iff_of_true ⟨dest, rfl⟩ nofun
  | some src =>
    refine (unpackOutput_succeeds_iff order dest src).trans ⟨?_, fun each => each src rfl⟩
    rintro whole _ ⟨⟩
    exact whole

theorem unpackOutput_pack {output : UserDisplayConfigurationOutput}
    (together : gammaCurves output.gamma.red output.gamma.green output.gamma.blue =
      .ok output.gamma) :
    unpackOutput order output (packProtobufDisplayOutput order output) = .ok output := by
  unfold unpackOutput packProtobufDisplayOutput
  dsimp only
  rw [convert_curveBytes, convert_curveBytes, convert_curveBytes]
  obtain ⟨id, used, topLeft, mode, format, power, orientation, scale, gamma⟩ := output
  dsimp only at together ⊢
  cases used <;> exact congrArg (Except.map _) together

/-- A client that gives a configuration back as it got it changes nothing. -/
theorem unpack_pack {config : List UserDisplayConfigurationOutput}
    (distinct : (config.map UserDisplayConfigurationOutput.id).Nodup)
    (together : ∀ output ∈ config,
      gammaCurves output.gamma.red output.gamma.green output.gamma.blue = .ok output.gamma) :
    unpackAndSanitizeDisplayConfiguration order config
      (config.map (packProtobufDisplayOutput order)) = .ok config := by
  refine mapM_eq_self fun output member => ?_
  have found : (config.map (packProtobufDisplayOutput order)).find?
      (fun src => src.outputID = output.id) = some (packProtobufDisplayOutput order output) := by
    rw [List.find?_map, Option.map_eq_some_iff]
    refine ⟨output, ?_, rfl⟩
    cases isFirst : config.find? ((fun src => decide (src.outputID = output.id)) ∘
        packProtobufDisplayOutput order) with
    | none =>
      have unlike := List.find?_eq_none.mp isFirst output member
      exact absurd (decide_eq_true rfl) unlike
    | some other =>
      have holds := List.find?_some isFirst
      have isOutput : other.id = output.id := of_decide_eq_true holds
      rw [List.inj_on_of_nodup_map distinct (List.mem_of_find?_eq_some isFirst) member isOutput]
  rw [found]
  exact unpackOutput_pack order (together output member)

/-- One output that is used and one that is not. -/
theorem unpack_pack_twoOutputs :
    let config : List UserDisplayConfigurationOutput :=
      [⟨3, true, ⟨-5, 8⟩, 2, 1, 0, 90, 2, ⟨[0, 257], [1, 2], [3, 65535]⟩⟩,
        ⟨7, false, ⟨0, 0⟩, 0, 3, 2, 0, 1, ⟨[], [], []⟩⟩]
    unpackAndSanitizeDisplayConfiguration .littleEndian config
      (config.map (packProtobufDisplayOutput .littleEndian)) = .ok config :=
  unpack_pack .littleEndian (by decide) (by decide)

/-- A string is written inside the vector exactly if it has an even length; and every curve comes
back from the string that it becomes. -/
theorem converts_iff (order : ByteOrder) :
    (∀ strBytes, (∃ curve, convertStringToGammaCurve order strBytes = .ok curve) ↔
      strBytes.length % 2 = 0) ∧
    ∀ curve, convertStringToGammaCurve order (curveBytes order curve) = .ok curve :=
  ⟨convert_ok_iff order, convert_curveBytes order⟩

/-- The third byte of a string is written behind a vector of one entry. -/
theorem third_byte_overruns :
    (¬ ∀ (order : ByteOrder) (strBytes : List UInt8),
      ∃ curve, convertStringToGammaCurve order strBytes = .ok curve) ∧
    convertStringToGammaCurve .littleEndian [1, 2, 3] = .error (.overrun 2) := by
  have overruns : convertStringToGammaCurve .littleEndian [1, 2, 3] = .error (.overrun 2) := rfl
  refine ⟨fun claimed => ?_, overruns⟩
  obtain ⟨curve, isCurve⟩ := claimed .littleEndian [1, 2, 3]
  rw [overruns] at isCurve
  cases isCurve

end Mir.Frontend

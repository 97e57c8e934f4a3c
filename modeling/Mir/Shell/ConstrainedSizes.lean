/-
This file says what the constraints make of a size, where they are one at a time: increments between
a least and a greatest length, and one bound of the aspect. Lengths are rounded to increments after
they are bounded, so a greatest length may be passed by less than half an increment. Aspects are
corrected by quotients that are rounded up, which is always enough.
-/

import Mir.Shell.SizeConstraints

namespace Mir.Shell

open Mir.Geometry Rounding

theorem asInt_eq {value : Int} (fits : Fits 32 value) : asInt value = value := wrap_of_fits fits

/-! ### Lengths in increments -/

/-- A length in its bounds, a whole number of increments above the least one. -/
structure OnGrid (minimum maximum step length : Int) : Prop where
  least : minimum ≤ length
  greatest : length ≤ maximum
  steps : step ∣ length - minimum

/-- What is computed of increments stays in an `int`. -/
def IncrementFits (increment : Option Int) (minimum length : Int) : Prop :=
  ∀ inc ∈ increment, Fits 32 (length - minimum) ∧ Fits 32 (nearest inc (length - minimum)) ∧
    Fits 32 (minimum + nearest inc (length - minimum))

/-- A length that is asked for is not rounded past the greatest one: that is a whole number of
increments above the least, or what is asked for, if it is not more, is less than half an increment
above the last whole number. -/
def RoundsWithin (minimum maximum step length : Int) : Prop :=
  step ∣ maximum - minimum ∨
    2 * (min length maximum - minimum) < (2 * ((maximum - minimum) / step) + 1) * step

instance (minimum maximum step length : Int) :
    Decidable (RoundsWithin minimum maximum step length) :=
  inferInstanceAs (Decidable (_ ∨ _))

instance (increment : Option Int) (minimum length : Int) :
    Decidable (IncrementFits increment minimum length) := by
  unfold IncrementFits
  infer_instance

section Length

variable {minimum maximum length : Int} (ordered : minimum ≤ maximum)

include ordered

theorem clampLength_bounds :
    minimum ≤ clampLength minimum maximum length ∧
      clampLength minimum maximum length ≤ maximum := by
  unfold clampLength
  dsimp only
  split_ifs <;> omega

theorem clampLength_eq_max :
    clampLength minimum maximum length = max minimum (min length maximum) := by
  unfold clampLength
  dsimp only
  split_ifs <;> omega

theorem clampLength_of_mem (least : minimum ≤ length) (greatest : length ≤ maximum) :
    clampLength minimum maximum length = length := by
  rw [clampLength_eq_max ordered, min_eq_left greatest, max_eq_right least]

/-- How far what is asked for is above the least length decides whether it is rounded past the
greatest. -/
theorem roundsWithin_iff {step : Int} (positive : 0 < step) :
    RoundsWithin minimum maximum step length ↔
      2 * (clampLength minimum maximum length - minimum) <
        (2 * ((maximum - minimum) / step) + 1) * step := by
  have whole := Int.mul_ediv_self_le (x := maximum - minimum) positive.ne'
  have some : 0 ≤ (maximum - minimum) / step :=
    Int.ediv_nonneg (Int.sub_nonneg.mpr ordered) positive.le
  have half : 0 < (2 * ((maximum - minimum) / step) + 1) * step :=
    Int.mul_pos (by omega) positive
  have bounds := @clampLength_bounds minimum maximum length ordered
  unfold RoundsWithin
  rw [clampLength_eq_max ordered] at bounds ⊢
  constructor
  · rintro (divides | below)
    · have exactly := Int.mul_ediv_cancel' divides
      have sum : (2 * ((maximum - minimum) / step) + 1) * step =
          2 * (step * ((maximum - minimum) / step)) + step := by ring
      omega
    · omega
  · intro below
    exact .inr (by omega)

/-- What becomes of a length. -/
theorem incrementLength_clampLength {increment : Option Int}
    (positive : ∀ inc ∈ increment, 0 < inc)
    (fits : IncrementFits increment minimum (clampLength minimum maximum length)) :
    ∃ result, incrementLength increment minimum (clampLength minimum maximum length) =
        some result ∧
      (OnGrid minimum maximum (increment.getD 1) result ↔
        RoundsWithin minimum maximum (increment.getD 1) length) ∧
      (OnGrid minimum maximum (increment.getD 1) length → result = length) := by
  have bounds := @clampLength_bounds minimum maximum length ordered
  cases increment with
  | none =>
    refine ⟨_, rfl, iff_of_true ⟨bounds.1, bounds.2, one_dvd _⟩ (.inl (one_dvd _)),
      fun onGrid => ?_⟩
    exact clampLength_of_mem ordered onGrid.least onGrid.greatest
  | some inc =>
    have incPositive := positive inc rfl
    obtain ⟨extraFits, nearestFits, sumFits⟩ := fits inc rfl
    have notNegative : 0 ≤ clampLength minimum maximum length - minimum :=
      Int.sub_nonneg.mpr bounds.1
    have multiple := dvd_nearest inc (clampLength minimum maximum length - minimum)
    have notBelow := nearest_nonneg incPositive notNegative
    refine ⟨minimum + nearest inc (clampLength minimum maximum length - minimum), ?_, ?_, ?_⟩
    · rw [incrementLength]
      simp only [asInt_eq extraFits, if_neg incPositive.ne', asInt_eq nearestFits,
        asInt_eq sumFits]
      split_ifs with uneven
      · rfl
      · rw [nearest_of_dvd incPositive notNegative (Int.dvd_of_tmod_eq_zero (not_not.mp uneven)),
          add_sub_cancel]
    · rw [Option.getD_some, roundsWithin_iff ordered incPositive,
        ← nearest_le_iff_ediv incPositive notNegative]
      constructor
      · intro onGrid
        exact Int.le_sub_left_of_add_le onGrid.greatest
      · intro below
        refine ⟨by omega, by omega, ?_⟩
        rwa [add_sub_cancel_left]
    · intro onGrid
      have same := clampLength_of_mem ordered onGrid.least onGrid.greatest
      rw [same] at notNegative ⊢
      rw [nearest_of_dvd incPositive notNegative onGrid.steps, add_sub_cancel]

end Length

/-! ### Sizes in increments -/

namespace SizeConstraints

variable {constraints : SizeConstraints}

/-- Only lengths are constrained: to bounds that are in order and to positive increments. -/
structure LengthsOnly (constraints : SizeConstraints) : Prop where
  widths : constraints.minWidth ≤ constraints.maxWidth
  heights : constraints.minHeight ≤ constraints.maxHeight
  widthInc : ∀ inc ∈ constraints.widthInc, 0 < inc
  heightInc : ∀ inc ∈ constraints.heightInc, 0 < inc
  minAspect : constraints.minAspect = none
  maxAspect : constraints.maxAspect = none

/-- No 32-bit value overflows on the way to the size. -/
structure IncrementsFit (constraints : SizeConstraints) (size : Size) : Prop where
  width : IncrementFits constraints.widthInc constraints.minWidth (constraints.clamp size).width
  height :
    IncrementFits constraints.heightInc constraints.minHeight (constraints.clamp size).height

/-- Both lengths of a size are in their bounds and whole numbers of increments. -/
structure SizeOnGrid (constraints : SizeConstraints) (size : Size) : Prop where
  width : OnGrid constraints.minWidth constraints.maxWidth (constraints.widthInc.getD 1) size.width
  height :
    OnGrid constraints.minHeight constraints.maxHeight (constraints.heightInc.getD 1) size.height

/-- Neither length that is asked for is rounded past its bound. -/
def SizeRoundsWithin (constraints : SizeConstraints) (size : Size) : Prop :=
  RoundsWithin constraints.minWidth constraints.maxWidth (constraints.widthInc.getD 1) size.width ∧
    RoundsWithin constraints.minHeight constraints.maxHeight (constraints.heightInc.getD 1)
      size.height

instance (constraints : SizeConstraints) (size : Size) :
    Decidable (constraints.SizeRoundsWithin size) :=
  inferInstanceAs (Decidable (_ ∧ _))

theorem constrainResize_restored {size newSize : Size}
    (constrained : constraints.constrainSize size = some newSize) (surface : Rectangle)
    (pos : Point) (leftResize topResize : Bool) :
    ∃ newPos, constraints.constrainResize .restored surface pos size leftResize topResize =
      some (newPos, newSize) := by
  unfold constrainResize
  rw [constrained]
  exact ⟨_, rfl⟩

/-- A restored surface is given a size on the grid exactly if what is asked for is not rounded past
a bound, and what is on the grid is given as it is. -/
theorem size_on_grid_iff (only : constraints.LengthsOnly) (surface : Rectangle) (pos : Point)
    (size : Size) (leftResize topResize : Bool) (fits : constraints.IncrementsFit size) :
    ∃ newPos newSize, constraints.constrainResize .restored surface pos size leftResize topResize =
        some (newPos, newSize) ∧
      ((constraints.SizeOnGrid newSize ∧ (constraints.SizeOnGrid size → newSize = size)) ↔
        constraints.SizeRoundsWithin size) := by
  obtain ⟨width, isWidth, widthOnGrid, widthStays⟩ :=
    incrementLength_clampLength only.widths only.widthInc fits.width
  obtain ⟨height, isHeight, heightOnGrid, heightStays⟩ :=
    incrementLength_clampLength only.heights only.heightInc fits.height
  have constrained : constraints.constrainSize size = some ⟨width, height⟩ := by
    unfold constrainSize correctMinAspect correctMaxAspect
    rw [only.minAspect, only.maxAspect]
    show constraints.increment (constraints.clamp size) = some ⟨width, height⟩
    unfold increment clamp
    rw [isWidth, isHeight]
    rfl
  obtain ⟨newPos, given⟩ := constrainResize_restored constrained surface pos leftResize topResize
  refine ⟨newPos, ⟨width, height⟩, given, ?_⟩
  constructor
  · rintro ⟨onGrid, -⟩
    exact ⟨widthOnGrid.mp onGrid.width, heightOnGrid.mp onGrid.height⟩
  · rintro ⟨widthRounds, heightRounds⟩
    refine ⟨⟨widthOnGrid.mpr widthRounds, heightOnGrid.mpr heightRounds⟩, fun onGrid => ?_⟩
    rw [widthStays onGrid.width, heightStays onGrid.height]

/-- Three pixels at a time, up to ten. -/
private def uptoTen : SizeConstraints :=
  new { unconstrained with
    maxWidth := some 10, maxHeight := some 12, widthInc := some 3, heightInc := some 3 }

private theorem lengthsOnly_uptoTen : uptoTen.LengthsOnly :=
  ⟨by decide, by decide, by decide, by decide, rfl, rfl⟩

theorem size_on_grid_of_uptoTen :
    ∃ newPos newSize, uptoTen.constrainResize .restored .empty ⟨0, 0⟩ ⟨20, 7⟩ false false =
        some (newPos, newSize) ∧
      ((uptoTen.SizeOnGrid newSize ∧ (uptoTen.SizeOnGrid ⟨20, 7⟩ → newSize = ⟨20, 7⟩)) ↔
        uptoTen.SizeRoundsWithin ⟨20, 7⟩) :=
  size_on_grid_iff lengthsOnly_uptoTen .empty ⟨0, 0⟩ ⟨20, 7⟩ false false ⟨by decide, by decide⟩

/-- Eleven is rounded up to twelve. -/
theorem size_passes_bound :
    let uptoEleven := { uptoTen with maxWidth := 11 }
    uptoEleven.constrainResize .restored .empty ⟨0, 0⟩ ⟨20, 6⟩ false false =
        some (⟨0, 0⟩, ⟨12, 6⟩) ∧
      ¬ ∀ (constraints : SizeConstraints) (surface : Rectangle) (pos : Point) (size : Size)
        (leftResize topResize : Bool), constraints.LengthsOnly → constraints.IncrementsFit size →
        ∃ newPos newSize, constraints.constrainResize .restored surface pos size leftResize
            topResize = some (newPos, newSize) ∧
          constraints.SizeOnGrid newSize ∧ (constraints.SizeOnGrid size → newSize = size) := by
  refine ⟨by decide, fun claimed => ?_⟩
  obtain ⟨newPos, newSize, given, onGrid, -⟩ := claimed { uptoTen with maxWidth := 11 } .empty
    ⟨0, 0⟩ ⟨20, 6⟩ false false ⟨by decide, by decide, by decide, by decide, rfl, rfl⟩
    ⟨by decide, by decide⟩
  have isTwelve : some (newPos, newSize) = some (⟨0, 0⟩, ⟨12, 6⟩) := given.symm.trans (by decide)
  obtain ⟨rfl, rfl⟩ := Prod.mk.inj (Option.some.inj isTwelve)
  exact absurd onGrid.width.greatest (by decide)

end SizeConstraints

/-! ### One bound of the aspect -/

/-- Whether both lengths of a size are of an `int`, and neither is negative. -/
structure IsSize (size : Size) : Prop where
  width : 0 ≤ size.width ∧ size.width ≤ maxInt
  height : 0 ≤ size.height ∧ size.height ≤ maxInt

theorem fits_of_length {length : Int} (range : 0 ≤ length ∧ length ≤ maxInt) : Fits 32 length := by
  unfold maxInt at range
  constructor <;> omega

/-- A product of a length and a term of a ratio. -/
theorem mul_term_le {length : Int} (range : 0 ≤ length ∧ length ≤ maxInt) {term : Nat}
    (small : term < 2 ^ 32) :
    0 ≤ length * term ∧ length * term ≤ maxInt * (2 ^ 32 - 1) := by
  have below : (term : Int) ≤ 2 ^ 32 - 1 := by omega
  refine ⟨mul_nonneg range.1 (Int.natCast_nonneg _), ?_⟩
  exact mul_le_mul range.2 below (Int.natCast_nonneg _) (by decide)

namespace SurfaceAspectRatio

variable {ratio : SurfaceAspectRatio} {size : Size}

theorem tooNarrow_eq (isSize : IsSize size) :
    ratio.tooNarrow size = size.height * ratio.width - size.width * ratio.height := by
  have one := mul_term_le isSize.height ratio.width_lt
  have other := mul_term_le isSize.width ratio.height_lt
  refine asLong_eq ?_
  unfold maxInt at one other
  constructor <;> omega

theorem tooWide_eq (isSize : IsSize size) :
    ratio.tooWide size = size.width * ratio.height - size.height * ratio.width := by
  have one := mul_term_le isSize.height ratio.width_lt
  have other := mul_term_le isSize.width ratio.height_lt
  refine asLong_eq ?_
  unfold maxInt at one other
  constructor <;> omega

/-- What is computed of an error of a size is not negative, and enough; it is at most what is
enough. -/
structure Corrects (error : Int) (term : Nat) (correction : Int) : Prop where
  notNegative : 0 ≤ correction
  enough : error ≤ correction * term
  least : ∀ bound, error ≤ bound * term → correction ≤ bound

theorem divideUp_corrects {error : Int} {term : Nat} (positive : 0 < error)
    (small : error ≤ maxInt * (2 ^ 32 - 1)) (isTerm : term < 2 ^ 32) (notZero : term ≠ 0) :
    divideUp error term = some (ceilDiv error term) ∧ Corrects error term (ceilDiv error term) := by
  have fits : Fits 64 (error + (term - 1)) := by
    unfold maxInt at small
    constructor <;> omega
  have termPositive : (0 : Int) < term := by omega
  refine ⟨?_, ceilDiv_nonneg positive.le termPositive, le_ceilDiv_mul positive.le termPositive,
    fun bound => (ceilDiv_le_iff positive.le termPositive bound).mpr⟩
  rw [divideUp, asLong_eq fits, divide_of_ne_zero _ termPositive.ne']
  rfl

/-- A smaller correction is one by a larger term. -/
theorem Corrects.lt_of_lt {error first second : Int} {firstTerm secondTerm : Nat}
    (isFirst : Corrects error firstTerm first) (isSecond : Corrects error secondTerm second)
    (less : first < second) : secondTerm < firstTerm := by
  by_contra notLess
  have larger : (firstTerm : Int) ≤ secondTerm := by omega
  have covers : error ≤ first * secondTerm :=
    isFirst.enough.trans (mul_le_mul_of_nonneg_left larger isFirst.notNegative)
  exact absurd (isSecond.least _ covers) (Int.not_le.mpr less)

/-- A size that is too narrow is made wider or lower until it is not. -/
theorem correctMin_isSize (terms : ratio.hasTerms = true) (isSize : IsSize size) :
    ∃ result, ratio.correctMin size = some result ∧ IsSize result ∧
      result.height * ratio.width ≤ result.width * ratio.height ∧
      (size.height * ratio.width ≤ size.width * ratio.height → result = size) := by
  obtain ⟨hasWidth, hasHeight⟩ := hasTerms_iff.mp terms
  obtain ⟨width, height⟩ := id isSize
  have highest := mul_term_le height ratio.width_lt
  have widest := mul_term_le width ratio.height_lt
  unfold correctMin
  dsimp only
  rw [tooNarrow_eq isSize]
  split_ifs with error
  · have small : size.height * ratio.width - size.width * ratio.height ≤
        maxInt * (2 ^ 32 - 1) := by omega
    obtain ⟨isWider, wider⟩ := divideUp_corrects error small ratio.height_lt hasHeight
    obtain ⟨isLower, lower⟩ := divideUp_corrects error small ratio.width_lt hasWidth
    rw [isWider, isLower]
    generalize ceilDiv _ (ratio.height : Int) = widthCorrection at wider
    generalize ceilDiv _ (ratio.width : Int) = heightCorrection at lower
    have wasNot (satisfied : size.height * ratio.width ≤ size.width * ratio.height)
        (result : Size) : result = size := absurd satisfied (by omega)
    refine ⟨_, rfl, ?_⟩
    split_ifs with widens
    · have taller := wider.lt_of_lt lower widens
      have room : widthCorrection ≤ size.height - size.width := by
        refine wider.least _ ?_
        rw [Int.sub_mul]
        exact Int.sub_le_sub_right (mul_le_mul_of_nonneg_left (by omega) height.1) _
      have notNegative := wider.notNegative
      have inRange : 0 ≤ size.width + widthCorrection ∧ size.width + widthCorrection ≤ maxInt := by
        omega
      rw [asInt_eq (fits_of_length ⟨notNegative, by omega⟩), asInt_eq (fits_of_length inRange)]
      refine ⟨⟨inRange, height⟩, ?_, fun satisfied => wasNot satisfied _⟩
      have enough := wider.enough
      dsimp only
      rw [Int.add_mul]
      omega
    · have room : heightCorrection ≤ size.height := lower.least _ (by omega)
      have notNegative := lower.notNegative
      have inRange : 0 ≤ size.height - heightCorrection ∧
          size.height - heightCorrection ≤ maxInt := by
        omega
      rw [asInt_eq (fits_of_length ⟨notNegative, by omega⟩), asInt_eq (fits_of_length inRange)]
      refine ⟨⟨width, inRange⟩, ?_, fun satisfied => wasNot satisfied _⟩
      have enough := lower.enough
      dsimp only
      rw [Int.sub_mul]
      omega
  · exact ⟨size, rfl, isSize, by omega, fun _ => rfl⟩

/-- What a size that is too wide is made higher by stays in an `int`, if it is made higher. -/
def RaisesWithin (ratio : SurfaceAspectRatio) (size : Size) : Prop :=
  let error := size.width * ratio.height - size.height * ratio.width
  0 < error → ceilDiv error ratio.width ≤ ceilDiv error ratio.height →
    size.height + ceilDiv error ratio.width ≤ maxInt

instance (ratio : SurfaceAspectRatio) (size : Size) : Decidable (ratio.RaisesWithin size) :=
  inferInstanceAs (Decidable (_ → _ → _))

/-- A size that is too wide is made narrower or higher until it is not. -/
theorem correctMax_isSize (terms : ratio.hasTerms = true) (isSize : IsSize size)
    (raises : ratio.RaisesWithin size) :
    ∃ result, ratio.correctMax size = some result ∧ IsSize result ∧
      result.width * ratio.height ≤ result.height * ratio.width ∧
      (size.width * ratio.height ≤ size.height * ratio.width → result = size) := by
  obtain ⟨hasWidth, hasHeight⟩ := hasTerms_iff.mp terms
  obtain ⟨width, height⟩ := id isSize
  have highest := mul_term_le height ratio.width_lt
  have widest := mul_term_le width ratio.height_lt
  unfold RaisesWithin at raises
  unfold correctMax
  dsimp only at raises ⊢
  rw [tooWide_eq isSize]
  split_ifs with error
  · have small : size.width * ratio.height - size.height * ratio.width ≤
        maxInt * (2 ^ 32 - 1) := by omega
    obtain ⟨isHigher, higher⟩ := divideUp_corrects error small ratio.width_lt hasWidth
    obtain ⟨isNarrower, narrower⟩ := divideUp_corrects error small ratio.height_lt hasHeight
    rw [isHigher, isNarrower]
    have within := raises error
    generalize ceilDiv _ (ratio.width : Int) = heightCorrection at higher within
    generalize ceilDiv _ (ratio.height : Int) = widthCorrection at narrower within
    have wasNot (satisfied : size.width * ratio.height ≤ size.height * ratio.width)
        (result : Size) : result = size := absurd satisfied (by omega)
    refine ⟨_, rfl, ?_⟩
    split_ifs with narrows
    · have room : widthCorrection ≤ size.width := narrower.least _ (by omega)
      have notNegative := narrower.notNegative
      have inRange : 0 ≤ size.width - widthCorrection ∧ size.width - widthCorrection ≤ maxInt := by
        omega
      rw [asInt_eq (fits_of_length ⟨notNegative, by omega⟩), asInt_eq (fits_of_length inRange)]
      refine ⟨⟨inRange, height⟩, ?_, fun satisfied => wasNot satisfied _⟩
      have enough := narrower.enough
      dsimp only
      rw [Int.sub_mul]
      omega
    · have raised := within (Int.not_lt.mp narrows)
      have notNegative := higher.notNegative
      have inRange : 0 ≤ size.height + heightCorrection ∧
          size.height + heightCorrection ≤ maxInt := by
        omega
      rw [asInt_eq (fits_of_length ⟨notNegative, by omega⟩), asInt_eq (fits_of_length inRange)]
      refine ⟨⟨width, inRange⟩, ?_, fun satisfied => wasNot satisfied _⟩
      have enough := higher.enough
      dsimp only
      rw [Int.add_mul]
      omega
  · exact ⟨size, rfl, isSize, by omega, fun _ => rfl⟩

end SurfaceAspectRatio

namespace SizeConstraints

variable {constraints : SizeConstraints}

/-- The lengths are bounded as they are by default, and increments are of one pixel. -/
structure DefaultLengths (constraints : SizeConstraints) : Prop where
  minWidth : constraints.minWidth = 0
  minHeight : constraints.minHeight = 0
  maxWidth : constraints.maxWidth = maxInt
  maxHeight : constraints.maxHeight = maxInt
  widthInc : ∀ inc ∈ constraints.widthInc, inc = 1
  heightInc : ∀ inc ∈ constraints.heightInc, inc = 1

theorem incrementLength_one {increment : Option Int} (ones : ∀ inc ∈ increment, inc = 1)
    {length : Int} (range : 0 ≤ length ∧ length ≤ maxInt) :
    incrementLength increment 0 (clampLength 0 maxInt length) = some length := by
  rw [clampLength_of_mem (by decide) range.1 range.2]
  cases increment with
  | none => rfl
  | some inc =>
    obtain rfl := ones inc rfl
    rw [incrementLength]
    simp

/-- With the default lengths only the aspect is corrected. -/
theorem DefaultLengths.increment_clamp (defaults : constraints.DefaultLengths) {size : Size}
    (isSize : IsSize size) : constraints.increment (constraints.clamp size) = some size := by
  unfold increment clamp
  rw [defaults.minWidth, defaults.minHeight, defaults.maxWidth, defaults.maxHeight,
    incrementLength_one defaults.widthInc isSize.width,
    incrementLength_one defaults.heightInc isSize.height]
  rfl

/-- A restored surface is given a size that one bound of the aspect allows, and what the bound
allows is given as it is. -/
theorem aspect_is_corrected (defaults : constraints.DefaultLengths) {ratio : SurfaceAspectRatio}
    (terms : ratio.hasTerms = true) (surface : Rectangle) (pos : Point) {size : Size}
    (leftResize topResize : Bool) (width : 0 < size.width ∧ size.width ≤ maxInt)
    (height : 0 < size.height ∧ size.height ≤ maxInt) :
    (constraints.minAspect = some ratio → constraints.maxAspect = none →
      ∃ newPos newSize, constraints.constrainResize .restored surface pos size leftResize
          topResize = some (newPos, newSize) ∧
        newSize.height * ratio.width ≤ newSize.width * ratio.height ∧
        (size.height * ratio.width ≤ size.width * ratio.height → newSize = size)) ∧
    (constraints.minAspect = none → constraints.maxAspect = some ratio →
      ratio.RaisesWithin size →
      ∃ newPos newSize, constraints.constrainResize .restored surface pos size leftResize
          topResize = some (newPos, newSize) ∧
        newSize.width * ratio.height ≤ newSize.height * ratio.width ∧
        (size.width * ratio.height ≤ size.height * ratio.width → newSize = size)) := by
  have isSize : IsSize size := ⟨⟨width.1.le, width.2⟩, ⟨height.1.le, height.2⟩⟩
  constructor
  · intro least noGreatest
    obtain ⟨result, corrected, resultIsSize, satisfied, stays⟩ :=
      ratio.correctMin_isSize terms isSize
    have constrained : constraints.constrainSize size = some result := by
      unfold constrainSize correctMinAspect correctMaxAspect
      rw [least, noGreatest]
      dsimp only
      rw [corrected]
      exact defaults.increment_clamp resultIsSize
    obtain ⟨newPos, given⟩ := constrainResize_restored constrained surface pos leftResize topResize
    exact ⟨newPos, result, given, satisfied, stays⟩
  · intro noLeast greatest raises
    obtain ⟨result, corrected, resultIsSize, satisfied, stays⟩ :=
      ratio.correctMax_isSize terms isSize raises
    have constrained : constraints.constrainSize size = some result := by
      unfold constrainSize correctMinAspect correctMaxAspect
      rw [noLeast, greatest]
      show (ratio.correctMax size).bind _ = _
      rw [corrected]
      exact defaults.increment_clamp resultIsSize
    obtain ⟨newPos, given⟩ := constrainResize_restored constrained surface pos leftResize topResize
    exact ⟨newPos, result, given, satisfied, stays⟩

/-- At least, and at most, four by three. -/
private def atLeastFourByThree : SizeConstraints :=
  new { unconstrained with minAspect := some { width := 4, height := 3 } }

private def atMostFourByThree : SizeConstraints :=
  new { unconstrained with maxAspect := some { width := 4, height := 3 } }

theorem aspect_is_corrected_of_fourByThree :
    (∃ newPos newSize, atLeastFourByThree.constrainResize .restored .empty ⟨0, 0⟩ ⟨100, 100⟩ false
        false = some (newPos, newSize) ∧ newSize.height * 4 ≤ newSize.width * 3) ∧
    ∃ newPos newSize, atMostFourByThree.constrainResize .restored .empty ⟨0, 0⟩ ⟨201, 100⟩ false
        false = some (newPos, newSize) ∧ newSize.width * 3 ≤ newSize.height * 4 := by
  obtain ⟨minPos, minSize, minGiven, minSatisfied, -⟩ :=
    (@aspect_is_corrected atLeastFourByThree
      ⟨by decide, by decide, by decide, by decide, by decide, by decide⟩ { width := 4, height := 3 }
      (by decide) .empty ⟨0, 0⟩ ⟨100, 100⟩ false false (by decide) (by decide)).1 rfl rfl
  obtain ⟨maxPos, maxSize, maxGiven, maxSatisfied, -⟩ :=
    (@aspect_is_corrected atMostFourByThree
      ⟨by decide, by decide, by decide, by decide, by decide, by decide⟩ { width := 4, height := 3 }
      (by decide) .empty ⟨0, 0⟩ ⟨201, 100⟩ false false (by decide) (by decide)).2 rfl rfl
      (by decide)
  exact ⟨⟨minPos, minSize, minGiven, minSatisfied⟩, maxPos, maxSize, maxGiven, maxSatisfied⟩

private def lessThanSquare : SizeConstraints :=
  new { unconstrained with maxAspect := some { width := 2 ^ 32 - 2, height := 2 ^ 32 - 1 } }

/-- A surface that is maximized keeps its size, whatever its aspect is. And a square as large as can
be, that may not be wider than a little less, is made one higher than an `int` holds. -/
theorem aspect_is_not_corrected :
    (¬ ∀ (constraints : SizeConstraints) (ratio : SurfaceAspectRatio) (state : WindowState)
      (surface : Rectangle) (pos : Point) (size : Size), constraints.DefaultLengths →
        ratio.hasTerms = true → constraints.minAspect = some ratio → constraints.maxAspect = none →
        0 < size.width ∧ size.width ≤ maxInt → 0 < size.height ∧ size.height ≤ maxInt →
        ∃ newPos newSize, constraints.constrainResize state surface pos size false false =
            some (newPos, newSize) ∧
          newSize.height * ratio.width ≤ newSize.width * ratio.height) ∧
    lessThanSquare.constrainSize ⟨maxInt, maxInt⟩ = some ⟨maxInt, 0⟩ := by
  refine ⟨fun claimed => ?_, by decide⟩
  obtain ⟨newPos, newSize, given, satisfied⟩ := claimed atLeastFourByThree
    { width := 4, height := 3 } .maximized ⟨⟨0, 0⟩, ⟨100, 100⟩⟩ ⟨0, 0⟩ ⟨400, 300⟩
    ⟨by decide, by decide, by decide, by decide, by decide, by decide⟩ (by decide) rfl rfl
    (by decide) (by decide)
  have stays : some (newPos, newSize) = some (⟨0, 0⟩, ⟨100, 100⟩) := given.symm.trans (by decide)
  obtain ⟨rfl, rfl⟩ := Prod.mk.inj (Option.some.inj stays)
  exact absurd satisfied (by decide)

end SizeConstraints

end Mir.Shell

/-
This file embeds the constraints that a client puts on the size of a surface and what they make of a
size that is asked for: its aspect is corrected, it is kept between a least and a greatest size and
brought to a whole number of increments, and in some states the surface keeps what it has.

Clients choose the terms of aspects and the increments that are divided by, and nothing checks them.
Coordinates and lengths wrap an `int`, the terms of an aspect are `unsigned`, and corrections are
computed as `long`.
-/

import Mir.Geometry.Rectangle
import Mir.Library.Rounding
import Mir.Shell.Fullscreen

namespace Mir.Shell

open Mir.Geometry Rounding

/-! ### The constraints -/

structure SurfaceAspectRatio where
  width : Nat
  height : Nat
  width_lt : width < 2 ^ 32 := by decide
  height_lt : height < 2 ^ 32 := by decide
  deriving DecidableEq, Repr

/-- What a request to create or to modify a surface may have of constraints. -/
structure RequestedConstraints where
  minWidth : Option Int
  minHeight : Option Int
  maxWidth : Option Int
  maxHeight : Option Int
  widthInc : Option Int
  heightInc : Option Int
  minAspect : Option SurfaceAspectRatio
  maxAspect : Option SurfaceAspectRatio
  deriving DecidableEq, Repr

/-- What is kept of a surface's constraints. -/
structure SizeConstraints where
  minWidth : Int
  minHeight : Int
  maxWidth : Int
  maxHeight : Int
  widthInc : Option Int
  heightInc : Option Int
  minAspect : Option SurfaceAspectRatio
  maxAspect : Option SurfaceAspectRatio
  deriving DecidableEq, Repr

/-- The largest `int`. -/
def maxInt : Int := 2 ^ 31 - 1

/-- What an `int` keeps of a value. -/
def asInt : Int → Int := wrap 32

/-- What a `long` keeps of a value. -/
def asLong : Int → Int := wrap 64

namespace SizeConstraints

/-- The constraints of a surface that is created. -/
def new (params : RequestedConstraints) : SizeConstraints where
  minWidth := params.minWidth.getD 0
  minHeight := params.minHeight.getD 0
  maxWidth := params.maxWidth.getD maxInt
  maxHeight := params.maxHeight.getD maxInt
  widthInc := params.widthInc
  heightInc := params.heightInc
  minAspect := params.minAspect
  maxAspect := params.maxAspect

/-- What a modification sets is copied. -/
def modify (constraints : SizeConstraints) (modifications : RequestedConstraints) :
    SizeConstraints where
  minWidth := modifications.minWidth.getD constraints.minWidth
  minHeight := modifications.minHeight.getD constraints.minHeight
  maxWidth := modifications.maxWidth.getD constraints.maxWidth
  maxHeight := modifications.maxHeight.getD constraints.maxHeight
  widthInc := modifications.widthInc.or constraints.widthInc
  heightInc := modifications.heightInc.or constraints.heightInc
  minAspect := modifications.minAspect.or constraints.minAspect
  maxAspect := modifications.maxAspect.or constraints.maxAspect

end SizeConstraints

/-! ### The corrections of an aspect -/

namespace SurfaceAspectRatio

/-- A quotient rounded up, with the one less than the divisor added to the dividend. -/
def divideUp (error : Int) (term : Nat) : Option Int := divide (asLong (error + (term - 1))) term

/-- By how much a size is too narrow for a least ratio. -/
def tooNarrow (ratio : SurfaceAspectRatio) (size : Size) : Int :=
  asLong (size.height * ratio.width - size.width * ratio.height)

/-- By how much a size is too wide for a greatest ratio. -/
def tooWide (ratio : SurfaceAspectRatio) (size : Size) : Int :=
  asLong (size.width * ratio.height - size.height * ratio.width)

def correctMin (ratio : SurfaceAspectRatio) (size : Size) : Option Size :=
  let error := ratio.tooNarrow size
  if error > 0 then do
    let widthCorrection ← divideUp error ratio.height
    let heightCorrection ← divideUp error ratio.width
    return if widthCorrection < heightCorrection then
      { size with width := asInt (size.width + asInt widthCorrection) }
    else { size with height := asInt (size.height - asInt heightCorrection) }
  else some size

def correctMax (ratio : SurfaceAspectRatio) (size : Size) : Option Size :=
  let error := ratio.tooWide size
  if error > 0 then do
    let heightCorrection ← divideUp error ratio.width
    let widthCorrection ← divideUp error ratio.height
    return if widthCorrection < heightCorrection then
      { size with width := asInt (size.width - asInt widthCorrection) }
    else { size with height := asInt (size.height + asInt heightCorrection) }
  else some size

end SurfaceAspectRatio

/-! ### The size as it is constrained -/

/-- The greatest length comes after the least. -/
def clampLength (minimum maximum length : Int) : Int :=
  let raised := if minimum > length then minimum else length
  if maximum < raised then maximum else raised

def incrementLength (increment : Option Int) (minimum length : Int) : Option Int :=
  match increment with
  | none => some length
  | some inc =>
    let extra := asInt (length - minimum)
    if inc = 0 then none
    else if extra.tmod inc ≠ 0 then some (asInt (minimum + asInt (nearest inc extra)))
    else some length

namespace SizeConstraints

def correctMinAspect (constraints : SizeConstraints) (size : Size) : Option Size :=
  match constraints.minAspect with
  | none => some size
  | some ratio => ratio.correctMin size

def correctMaxAspect (constraints : SizeConstraints) (size : Size) : Option Size :=
  match constraints.maxAspect with
  | none => some size
  | some ratio => ratio.correctMax size

def clamp (constraints : SizeConstraints) (size : Size) : Size where
  width := clampLength constraints.minWidth constraints.maxWidth size.width
  height := clampLength constraints.minHeight constraints.maxHeight size.height

def increment (constraints : SizeConstraints) (size : Size) : Option Size := do
  let width ← incrementLength constraints.widthInc constraints.minWidth size.width
  let height ← incrementLength constraints.heightInc constraints.minHeight size.height
  return ⟨width, height⟩

/-- The size in a state that leaves both its lengths to the client. -/
def constrainSize (constraints : SizeConstraints) (size : Size) : Option Size := do
  let notNarrow ← constraints.correctMinAspect size
  let notWide ← constraints.correctMaxAspect notNarrow
  constraints.increment (constraints.clamp notWide)

end SizeConstraints

/-- A surface that is maximized keeps the place and the length it has in that direction. -/
def WindowState.keep (state : WindowState) (surface : Rectangle) (newPos : Point)
    (newSize : Size) : Point × Size :=
  match state with
  | .restored => (newPos, newSize)
  | .vertmaximized =>
    (⟨newPos.x, surface.topLeft.y⟩, ⟨newSize.width, surface.size.height⟩)
  | .horizmaximized =>
    (⟨surface.topLeft.x, newPos.y⟩, ⟨surface.size.width, newSize.height⟩)
  | _ => (surface.topLeft, surface.size)

/-- Nothing is given back if something is divided by zero. -/
def SizeConstraints.constrainResize (constraints : SizeConstraints) (state : WindowState)
    (surface : Rectangle) (requestedPos : Point) (requestedSize : Size)
    (leftResize topResize : Bool) : Option (Point × Size) := do
  let newSize ← constraints.constrainSize requestedSize
  let newX :=
    if leftResize then
      asInt (requestedPos.x + asInt (newSize.width - requestedSize.width))
    else requestedPos.x
  let newY :=
    if topResize then
      asInt (requestedPos.y + asInt (newSize.height - requestedSize.height))
    else requestedPos.y
  return state.keep surface ⟨newX, newY⟩ newSize

/-! ### Divisions by zero -/

namespace SurfaceAspectRatio

/-- Whether a ratio can be divided by. -/
def hasTerms (ratio : SurfaceAspectRatio) : Bool :=
  decide (ratio.width ≠ 0) && decide (ratio.height ≠ 0)

theorem divideUp_isSome_iff {error : Int} {term : Nat} :
    (divideUp error term).isSome = true ↔ term ≠ 0 := by
  rw [divideUp, divide_isSome_iff, Ne, Int.natCast_eq_zero]

theorem hasTerms_iff {ratio : SurfaceAspectRatio} :
    ratio.hasTerms = true ↔ ratio.width ≠ 0 ∧ ratio.height ≠ 0 := by
  rw [hasTerms, Bool.and_eq_true, decide_eq_true_iff, decide_eq_true_iff]

/-- Both terms are divided by before either quotient is used. -/
theorem isSome_bind_divideUp {Result : Type} {error : Int} {first second : Nat}
    (choose : Int → Int → Result) :
    ((divideUp error first).bind fun one => (divideUp error second).bind fun other =>
      some (choose one other)).isSome = true ↔ first ≠ 0 ∧ second ≠ 0 := by
  rw [← @divideUp_isSome_iff error first, ← @divideUp_isSome_iff error second]
  cases divideUp error first with
  | none => exact iff_of_false Bool.false_ne_true fun both => Bool.false_ne_true both.1
  | some one =>
    cases divideUp error second with
    | none => exact iff_of_false Bool.false_ne_true fun both => Bool.false_ne_true both.2
    | some other => exact iff_of_true rfl ⟨rfl, rfl⟩

theorem correctMin_isSome_iff {ratio : SurfaceAspectRatio} {size : Size} :
    (ratio.correctMin size).isSome = true ↔ (0 < ratio.tooNarrow size → ratio.hasTerms = true) := by
  unfold correctMin
  dsimp only
  split_ifs with error
  · rw [imp_iff_right error, hasTerms_iff, and_comm]
    exact isSome_bind_divideUp _
  · exact iff_of_true rfl fun wrong => absurd wrong error

theorem correctMax_isSome_iff {ratio : SurfaceAspectRatio} {size : Size} :
    (ratio.correctMax size).isSome = true ↔ (0 < ratio.tooWide size → ratio.hasTerms = true) := by
  unfold correctMax
  dsimp only
  split_ifs with error
  · rw [imp_iff_right error, hasTerms_iff]
    exact isSome_bind_divideUp fun heightCorrection widthCorrection => _
  · exact iff_of_true rfl fun wrong => absurd wrong error

end SurfaceAspectRatio

theorem incrementLength_isSome_iff {increment : Option Int} {minimum length : Int} :
    (incrementLength increment minimum length).isSome = true ↔ ∀ inc ∈ increment, inc ≠ 0 := by
  cases increment with
  | none => exact iff_of_true rfl fun inc isInc => by cases isInc
  | some inc =>
    have only : (∀ other ∈ some inc, other ≠ 0) ↔ inc ≠ 0 :=
      ⟨fun all => all inc rfl, fun notZero other isInc => Option.some.inj isInc ▸ notZero⟩
    rw [only, incrementLength]
    split_ifs with zero
    · exact iff_of_false Bool.false_ne_true (not_not.mpr zero)
    · exact iff_of_true rfl zero
    · exact iff_of_true rfl zero

namespace SizeConstraints

variable {constraints : SizeConstraints}

/-- What the constraints in force are divided by on the way to a size is not zero: the terms of an
aspect that the size is off, and the increments. -/
structure DividesByNoZero (constraints : SizeConstraints) (size : Size) : Prop where
  minAspect : ∀ ratio ∈ constraints.minAspect, 0 < ratio.tooNarrow size → ratio.hasTerms = true
  maxAspect : ∀ ratio ∈ constraints.maxAspect,
    ∀ notNarrow ∈ constraints.correctMinAspect size, 0 < ratio.tooWide notNarrow →
      ratio.hasTerms = true
  widthInc : ∀ inc ∈ constraints.widthInc, inc ≠ 0
  heightInc : ∀ inc ∈ constraints.heightInc, inc ≠ 0

/-- No increment is zero, and a ratio has both its terms or neither. -/
structure HasDivisors (constraints : SizeConstraints) : Prop where
  minAspect : ∀ ratio ∈ constraints.minAspect, ratio.width = 0 ↔ ratio.height = 0
  maxAspect : ∀ ratio ∈ constraints.maxAspect, ratio.width = 0 ↔ ratio.height = 0
  widthInc : ∀ inc ∈ constraints.widthInc, inc ≠ 0
  heightInc : ∀ inc ∈ constraints.heightInc, inc ≠ 0

theorem correctMinAspect_isSome_iff {size : Size} :
    (constraints.correctMinAspect size).isSome = true ↔
      ∀ ratio ∈ constraints.minAspect, 0 < ratio.tooNarrow size → ratio.hasTerms = true := by
  unfold correctMinAspect
  cases constraints.minAspect with
  | none => exact iff_of_true rfl fun ratio isRatio => by cases isRatio
  | some ratio =>
    rw [SurfaceAspectRatio.correctMin_isSome_iff]
    exact ⟨fun all other isRatio => Option.some.inj isRatio ▸ all, fun all => all ratio rfl⟩

theorem correctMaxAspect_isSome_iff {size : Size} :
    (constraints.correctMaxAspect size).isSome = true ↔
      ∀ ratio ∈ constraints.maxAspect, 0 < ratio.tooWide size → ratio.hasTerms = true := by
  unfold correctMaxAspect
  cases constraints.maxAspect with
  | none => exact iff_of_true rfl fun ratio isRatio => by cases isRatio
  | some ratio =>
    rw [SurfaceAspectRatio.correctMax_isSome_iff]
    exact ⟨fun all other isRatio => Option.some.inj isRatio ▸ all, fun all => all ratio rfl⟩

theorem increment_isSome_iff {size : Size} :
    (constraints.increment size).isSome = true ↔
      (∀ inc ∈ constraints.widthInc, inc ≠ 0) ∧ ∀ inc ∈ constraints.heightInc, inc ≠ 0 := by
  unfold increment
  rw [← @incrementLength_isSome_iff _ constraints.minWidth size.width,
    ← @incrementLength_isSome_iff _ constraints.minHeight size.height]
  cases incrementLength constraints.widthInc constraints.minWidth size.width with
  | none => exact iff_of_false Bool.false_ne_true fun both => Bool.false_ne_true both.1
  | some width =>
    cases incrementLength constraints.heightInc constraints.minHeight size.height with
    | none => exact iff_of_false Bool.false_ne_true fun both => Bool.false_ne_true both.2
    | some height => exact iff_of_true rfl ⟨rfl, rfl⟩

theorem constrainSize_isSome_iff {size : Size} :
    (constraints.constrainSize size).isSome = true ↔ constraints.DividesByNoZero size := by
  unfold constrainSize
  cases narrow : constraints.correctMinAspect size with
  | none =>
    refine iff_of_false Bool.false_ne_true fun divides => ?_
    have isSome := correctMinAspect_isSome_iff.mpr divides.minAspect
    rw [narrow] at isSome
    cases isSome
  | some notNarrow =>
    have minAspect := correctMinAspect_isSome_iff.mp (Option.isSome_of_eq_some narrow)
    have only : (∀ ratio ∈ constraints.maxAspect, ∀ other ∈ constraints.correctMinAspect size,
        0 < ratio.tooWide other → ratio.hasTerms = true) ↔
          ∀ ratio ∈ constraints.maxAspect, 0 < ratio.tooWide notNarrow → ratio.hasTerms = true := by
      rw [narrow]
      exact ⟨fun all ratio isRatio => all ratio isRatio notNarrow rfl,
        fun all ratio isRatio other same => Option.some.inj same ▸ all ratio isRatio⟩
    cases wide : constraints.correctMaxAspect notNarrow with
    | none =>
      refine iff_of_false (by simp [wide]) fun divides => ?_
      have isSome := correctMaxAspect_isSome_iff.mpr (only.mp divides.maxAspect)
      rw [wide] at isSome
      cases isSome
    | some notWide =>
      have maxAspect := correctMaxAspect_isSome_iff.mp (Option.isSome_of_eq_some wide)
      have last : ((do
          let notNarrow ← some notNarrow
          let notWide ← constraints.correctMaxAspect notNarrow
          constraints.increment (constraints.clamp notWide)) : Option Size) =
            constraints.increment (constraints.clamp notWide) := by
        show (constraints.correctMaxAspect notNarrow).bind _ = _
        rw [wide]
        rfl
      rw [last, increment_isSome_iff]
      exact ⟨fun incs => ⟨minAspect, only.mpr maxAspect, incs.1, incs.2⟩,
        fun divides => ⟨divides.widthInc, divides.heightInc⟩⟩

theorem constrainResize_isSome_iff {state : WindowState} {surface : Rectangle}
    {requestedPos : Point} {requestedSize : Size} {leftResize topResize : Bool} :
    (constraints.constrainResize state surface requestedPos requestedSize leftResize
      topResize).isSome = true ↔ constraints.DividesByNoZero requestedSize := by
  rw [← constrainSize_isSome_iff]
  unfold constrainResize
  cases constraints.constrainSize requestedSize with
  | none => exact Iff.rfl
  | some newSize => exact iff_of_true rfl rfl

end SizeConstraints

theorem asLong_eq {value : Int} (fits : Fits 64 value) : asLong value = value := wrap_of_fits fits

namespace SurfaceAspectRatio

variable {ratio : SurfaceAspectRatio}

/-- A size with one length that is one or minus one, and no other, is off by a term. -/
theorem off_by_term :
    ratio.tooNarrow ⟨-1, 0⟩ = ratio.height ∧ ratio.tooNarrow ⟨0, 1⟩ = ratio.width ∧
      ratio.tooWide ⟨1, 0⟩ = ratio.height ∧ ratio.tooWide ⟨0, -1⟩ = ratio.width := by
  have widthFits : Fits 64 ratio.width := by
    have := ratio.width_lt
    constructor <;> omega
  have heightFits : Fits 64 ratio.height := by
    have := ratio.height_lt
    constructor <;> omega
  unfold tooNarrow tooWide
  simp [asLong_eq widthFits, asLong_eq heightFits]

/-- And in the other direction it is not off. -/
theorem not_tooNarrow_of_thin :
    ¬0 < ratio.tooNarrow ⟨1, 0⟩ ∧ ¬0 < ratio.tooNarrow ⟨0, -1⟩ := by
  have widthFits : Fits 64 (-(ratio.width : Int)) := by
    have := ratio.width_lt
    constructor <;> omega
  have heightFits : Fits 64 (-(ratio.height : Int)) := by
    have := ratio.height_lt
    constructor <;> omega
  unfold tooNarrow
  simp [asLong_eq widthFits, asLong_eq heightFits]

/-- No size is off a ratio that has neither term. -/
theorem hasTerms_of_off (both : ratio.width = 0 ↔ ratio.height = 0) {size : Size}
    (off : 0 < ratio.tooNarrow size ∨ 0 < ratio.tooWide size) : ratio.hasTerms = true := by
  rw [hasTerms_iff]
  by_contra missing
  have noWidth : ratio.width = 0 := by
    by_contra width
    exact missing ⟨width, both.not.mp width⟩
  have noHeight := both.mp noWidth
  unfold tooNarrow tooWide at off
  rw [noWidth, noHeight] at off
  simp [asLong, wrap] at off

end SurfaceAspectRatio

namespace SizeConstraints

variable {constraints : SizeConstraints}

theorem HasDivisors.dividesByNoZero (divisors : constraints.HasDivisors) (size : Size) :
    constraints.DividesByNoZero size where
  minAspect := fun ratio isRatio off =>
    SurfaceAspectRatio.hasTerms_of_off (divisors.minAspect ratio isRatio) (.inl off)
  maxAspect := fun ratio isRatio _ _ off =>
    SurfaceAspectRatio.hasTerms_of_off (divisors.maxAspect ratio isRatio) (.inr off)
  widthInc := divisors.widthInc
  heightInc := divisors.heightInc

/-- A thin size that is not too narrow is left to the greatest ratio. -/
theorem correctMinAspect_of_thin {size : Size} (thin : size = ⟨1, 0⟩ ∨ size = ⟨0, -1⟩) :
    constraints.correctMinAspect size = some size := by
  unfold correctMinAspect
  cases constraints.minAspect with
  | none => rfl
  | some ratio =>
    rcases thin with rfl | rfl
    · exact if_neg SurfaceAspectRatio.not_tooNarrow_of_thin.1
    · exact if_neg SurfaceAspectRatio.not_tooNarrow_of_thin.2

theorem hasDivisors_iff :
    (∀ size : Size, Fits 32 size.width → Fits 32 size.height →
      constraints.DividesByNoZero size) ↔ constraints.HasDivisors := by
  refine ⟨fun divides => ⟨fun ratio isRatio => ?_, fun ratio isRatio => ?_, ?_, ?_⟩,
    fun divisors size _ _ => divisors.dividesByNoZero size⟩
  · have narrow := divides ⟨-1, 0⟩ (by decide) (by decide)
    have low := divides ⟨0, 1⟩ (by decide) (by decide)
    have off := @SurfaceAspectRatio.off_by_term ratio
    have byHeight := narrow.minAspect ratio isRatio
    have byWidth := low.minAspect ratio isRatio
    rw [off.1, SurfaceAspectRatio.hasTerms_iff] at byHeight
    rw [off.2.1, SurfaceAspectRatio.hasTerms_iff] at byWidth
    omega
  · have wide := divides ⟨1, 0⟩ (by decide) (by decide)
    have low := divides ⟨0, -1⟩ (by decide) (by decide)
    have off := @SurfaceAspectRatio.off_by_term ratio
    have byHeight := wide.maxAspect ratio isRatio _ (correctMinAspect_of_thin (.inl rfl))
    have byWidth := low.maxAspect ratio isRatio _ (correctMinAspect_of_thin (.inr rfl))
    rw [off.2.2.1, SurfaceAspectRatio.hasTerms_iff] at byHeight
    rw [off.2.2.2, SurfaceAspectRatio.hasTerms_iff] at byWidth
    omega
  · exact (divides ⟨0, 0⟩ (by decide) (by decide)).widthInc
  · exact (divides ⟨0, 0⟩ (by decide) (by decide)).heightInc

/-- Whether something is divided by zero, for one size that is asked for and for all, under the
constraints that a surface was created with and those that it was modified by. -/
theorem divides_by_no_zero_iff (params : RequestedConstraints)
    (modifications : List RequestedConstraints) :
    let constraints := modifications.foldl modify (new params)
    (∀ state surface requestedPos requestedSize leftResize topResize,
      (constraints.constrainResize state surface requestedPos requestedSize leftResize
        topResize).isSome = true ↔ constraints.DividesByNoZero requestedSize) ∧
    ((∀ state surface requestedPos requestedSize leftResize topResize,
        Fits 32 requestedSize.width → Fits 32 requestedSize.height →
        (constraints.constrainResize state surface requestedPos requestedSize leftResize
          topResize).isSome = true) ↔ constraints.HasDivisors) := by
  refine ⟨fun _ _ _ _ _ _ => constrainResize_isSome_iff, ?_⟩
  rw [← hasDivisors_iff]
  constructor
  · intro all size width height
    exact constrainResize_isSome_iff.mp
      (all .restored .empty ⟨0, 0⟩ size false false width height)
  · intro divides _ _ _ size _ _ width height
    exact constrainResize_isSome_iff.mpr (divides size width height)

/-- Constraints of which no client asks for anything. -/
def unconstrained : RequestedConstraints :=
  ⟨none, none, none, none, none, none, none, none⟩

/-- An increment, and a term of an aspect, that is zero. -/
theorem zero_is_divided_by :
    (¬ ∀ (params : RequestedConstraints) (modifications : List RequestedConstraints) state surface
      requestedPos requestedSize leftResize topResize,
        ((modifications.foldl modify (new params)).constrainResize state surface requestedPos
          requestedSize leftResize topResize).isSome = true) ∧
    (new { unconstrained with widthInc := some 0 }).constrainSize ⟨640, 480⟩ = none ∧
    ((new unconstrained).modify { unconstrained with heightInc := some 0 }).constrainSize
      ⟨640, 480⟩ = none ∧
    (new { unconstrained with minAspect := some { width := 1, height := 0 } }).constrainSize
      ⟨640, 480⟩ = none ∧
    (new { unconstrained with maxAspect := some { width := 0, height := 1 } }).constrainSize
      ⟨640, 480⟩ = none := by
  refine ⟨fun claimed => ?_, by decide, by decide, by decide, by decide⟩
  have isSome := claimed { unconstrained with widthInc := some 0 } [] .restored .empty ⟨0, 0⟩
    ⟨640, 480⟩ false false
  revert isSome
  decide

end SizeConstraints

end Mir.Shell

/-
This file embeds how a point is confined to rectangles. Where none of them contains it, it is moved
to the pixel that is nearest to it among those that are the nearest ones of the rectangles.

The least displacement that was found so far is at first the largest there is. A pixel must be
nearer than that, so the point is confined exactly if some pixel is; that is so wherever coordinates
stay below half of the range of an `int`.
-/

import Mathlib.Algebra.Order.Ring.Abs
import Mathlib.Algebra.Order.Ring.Int
import Mir.Geometry.Rectangles
import Mir.Library.Cheapest
import Mir.Library.Rounding

namespace Mir.Geometry

structure Point.Displacement where
  dx : Int
  dy : Int
  deriving DecidableEq

def Point.Displacement.lengthSquared (displacement : Point.Displacement) : Int :=
  displacement.dx * displacement.dx + displacement.dy * displacement.dy

/-- From another point to this one. -/
def Point.displacementFrom (point other : Point) : Point.Displacement :=
  ⟨point.x - other.x, point.y - other.y⟩

def maxInt : Int := 2 ^ 31 - 1

def clamp (x min max : Int) : Int := Min.min (Max.max x min) max

/-- The pixel of a rectangle that is nearest to a point. -/
def Rectangle.confined (rect : Rectangle) (point : Point) : Point :=
  let br := rect.bottomRight
  ⟨clamp point.x rect.topLeft.x (br.x - 1), clamp point.y rect.topLeft.y (br.y - 1)⟩

/-- The loop over the rectangles, with the point to return and the least displacement so far. -/
def confineLoop (point : Point) : List Rectangle → Point → Point.Displacement → Point
  | [], retPoint, _ => retPoint
  | rect :: rest, retPoint, minDp =>
    if rect.containsPoint point then point
    else if 0 < rect.size.width ∧ 0 < rect.size.height then
      let confinedPoint := rect.confined point
      let dp := confinedPoint.displacementFrom point
      if dp.lengthSquared < minDp.lengthSquared then confineLoop point rest confinedPoint dp
      else confineLoop point rest retPoint minDp
    else confineLoop point rest retPoint minDp

def Rectangles.confine (collection : Rectangles) (point : Point) : Point :=
  confineLoop point collection.rectangles point ⟨maxInt, maxInt⟩

/-! ### The nearest pixel of a rectangle -/

/-- How far a point is from another, squared. -/
def Point.distanceSquared (point other : Point) : Int :=
  (point.displacementFrom other).lengthSquared

theorem Point.distanceSquared_self (point : Point) : point.distanceSquared point = 0 := by
  simp [distanceSquared, displacementFrom, Displacement.lengthSquared]

theorem clamp_bounds (x : Int) {min max : Int} (ordered : min ≤ max) :
    min ≤ clamp x min max ∧ clamp x min max ≤ max := by
  unfold clamp
  omega

/-- A value that is clamped is the nearest of those between the bounds. -/
theorem clamp_nearest {x min max other : Int} (above : min ≤ other) (below : other ≤ max) :
    (clamp x min max - x) * (clamp x min max - x) ≤ (other - x) * (other - x) := by
  unfold clamp
  rcases Int.le_total x other with right | left
  · exact mul_self_le_mul_self_of_le_of_neg_le (by omega) (by omega)
  · rw [← Int.neg_sub x other, Int.neg_mul_neg]
    exact mul_self_le_mul_self_of_le_of_neg_le (by omega) (by omega)

namespace Rectangle

variable {rect : Rectangle}

theorem containsPoint_confined (nonEmpty : rect.NonEmpty) (point : Point) :
    rect.containsPoint (rect.confined point) = true := by
  have width := nonEmpty.left_lt_right
  have height := nonEmpty.top_lt_bottom
  obtain ⟨fromLeft, toRight⟩ := clamp_bounds point.x (Int.le_sub_one_of_lt width)
  obtain ⟨fromTop, toBottom⟩ := clamp_bounds point.y (Int.le_sub_one_of_lt height)
  rw [containsPoint_iff]
  exact ⟨fromLeft, Int.lt_of_le_sub_one toRight, fromTop, Int.lt_of_le_sub_one toBottom⟩

theorem confined_nearest {other : Point} (covers : rect.containsPoint other = true)
    (point : Point) :
    (rect.confined point).distanceSquared point ≤ other.distanceSquared point := by
  obtain ⟨fromLeft, toRight, fromTop, toBottom⟩ := (containsPoint_iff rect other).mp covers
  exact Int.add_le_add (clamp_nearest fromLeft (Int.le_sub_one_of_lt toRight))
    (clamp_nearest fromTop (Int.le_sub_one_of_lt toBottom))

/-- A rectangle that contains a point has pixels. -/
theorem nonEmpty_of_containsPoint {point : Point} (covers : rect.containsPoint point = true) :
    rect.NonEmpty := by
  rw [containsPoint_iff] at covers
  simp only [left, right, top, bottom, bottomRight] at covers
  unfold NonEmpty
  omega

end Rectangle

/-! ### The loop -/

/-- The pixels of some rectangles. -/
def pixels (rects : List Rectangle) : Set Point :=
  { point | ∃ rect ∈ rects, rect.containsPoint point = true }

theorem pixels_cons (rect : Rectangle) (rest : List Rectangle) :
    pixels (rect :: rest) = { point | rect.containsPoint point = true } ∪ pixels rest := by
  ext point
  exact List.exists_mem_cons_iff _ _ _

theorem confineLoop_of_covered {point : Point} {rects : List Rectangle}
    (covered : point ∈ pixels rects) (retPoint : Point)
    (minDp : Point.Displacement) : confineLoop point rects retPoint minDp = point := by
  induction rects generalizing retPoint minDp with
  | nil =>
    obtain ⟨rect, member, -⟩ := covered
    cases member
  | cons rect rest inductionHypothesis =>
    unfold confineLoop
    by_cases here : rect.containsPoint point = true
    · rw [if_pos here]
    · obtain ⟨other, member, covers⟩ := covered
      have later : point ∈ pixels rest := by
        rcases List.mem_cons.mp member with rfl | inRest
        · exact absurd covers here
        · exact ⟨other, inRest, covers⟩
      rw [if_neg here]
      dsimp only
      split_ifs <;> exact inductionHypothesis later _ _

/-- Where no rectangle contains the point, the loop searches for the nearest pixel. -/
theorem confineLoop_cheapest {point : Point} {rects : List Rectangle}
    (uncovered : ∀ rect ∈ rects, rect.containsPoint point = false) (retPoint : Point)
    (minDp : Point.Displacement) :
    Cheapest (fun other => other.distanceSquared point) (pixels rects) retPoint
      minDp.lengthSquared (confineLoop point rects retPoint minDp) := by
  induction rects generalizing retPoint minDp with
  | nil => exact .kept rfl fun other member => (List.not_mem_nil member.choose_spec.1).elim
  | cons rect rest inductionHypothesis =>
    obtain ⟨here, later⟩ := List.forall_mem_cons.mp uncovered
    unfold confineLoop
    rw [if_neg (by rw [here]; exact Bool.false_ne_true), pixels_cons]
    dsimp only
    split_ifs with nonEmpty nearer
    · exact (inductionHypothesis later _ _).after_cheap
        (Rectangle.containsPoint_confined nonEmpty point) nearer
        fun other covers => Rectangle.confined_nearest covers point
    · refine (inductionHypothesis later _ _).after_dear fun other covers => ?_
      exact (Int.not_lt.mp nearer).trans (Rectangle.confined_nearest covers point)
    · refine (inductionHypothesis later _ _).after_dear fun other covers => ?_
      exact absurd (Rectangle.nonEmpty_of_containsPoint covers) nonEmpty

/-! ### Confined points -/

/-- The largest displacement there is. -/
def maxDisplacement : Point.Displacement := ⟨maxInt, maxInt⟩

/-- A point is confined to the nearest pixel, and stays there. -/
structure Confines (collection : Rectangles) (point : Point) : Prop where
  inside : collection.confine point ∈ pixels collection.rectangles
  stays : point ∈ pixels collection.rectangles → collection.confine point = point
  nearest : ∀ other ∈ pixels collection.rectangles,
    (collection.confine point).distanceSquared point ≤ other.distanceSquared point
  again : collection.confine (collection.confine point) = collection.confine point

theorem Point.distanceSquared_nonneg (point other : Point) : 0 ≤ point.distanceSquared other :=
  Int.add_nonneg (mul_self_nonneg _) (mul_self_nonneg _)

/-- A point is confined exactly if some pixel is nearer than the largest displacement reaches. -/
theorem confines_iff (collection : Rectangles) (point : Point) :
    Confines collection point ↔ ∃ other ∈ pixels collection.rectangles,
      other.distanceSquared point < maxDisplacement.lengthSquared := by
  by_cases covered : point ∈ pixels collection.rectangles
  · have same : collection.confine point = point := confineLoop_of_covered covered _ _
    have isNear : point.distanceSquared point < maxDisplacement.lengthSquared := by
      rw [Point.distanceSquared_self]
      decide
    refine iff_of_true ⟨?_, fun _ => same, fun other _ => ?_, ?_⟩ ⟨point, covered, isNear⟩
    · rw [same]
      exact covered
    · rw [same, Point.distanceSquared_self]
      exact Point.distanceSquared_nonneg other point
    · rw [same, same]
  · have uncovered : ∀ rect ∈ collection.rectangles, rect.containsPoint point = false :=
      fun rect member => Bool.eq_false_iff.mpr fun covers => covered ⟨rect, member, covers⟩
    have search := confineLoop_cheapest uncovered point maxDisplacement
    constructor
    · exact fun confines => ⟨_, confines.inside, search.lt_bound confines.inside covered⟩
    · rintro ⟨other, isPixel, isNear⟩
      obtain ⟨inside, nearest⟩ := search.isFound isPixel isNear
      exact ⟨inside, fun covers => absurd covers covered, nearest,
        confineLoop_of_covered inside _ _⟩

/-- Whether a coordinate is well within the range of an `int`. -/
def Small (value : Int) : Prop := -2 ^ 30 < value ∧ value < 2 ^ 30

/-- Points are confined as long as coordinates are small. -/
theorem confines_of_small {collection : Rectangles} {point : Point}
    (notEmpty : collection.rectangles ≠ [])
    (nonEmpty : ∀ rect ∈ collection.rectangles, rect.NonEmpty)
    (pointSmall : Small point.x ∧ Small point.y)
    (small : ∀ rect ∈ collection.rectangles,
      Small rect.left ∧ Small rect.top ∧ Small rect.right ∧ Small rect.bottom) :
    Confines collection point := by
  rw [confines_iff]
  obtain ⟨rect, member⟩ := List.exists_mem_of_ne_nil _ notEmpty
  have isPixel := Rectangle.containsPoint_confined (nonEmpty rect member) point
  refine ⟨rect.confined point, ⟨rect, member, isPixel⟩, ?_⟩
  obtain ⟨fromLeft, toRight, fromTop, toBottom⟩ := (Rectangle.containsPoint_iff _ _).mp isPixel
  obtain ⟨left, top, right, bottom⟩ := small rect member
  unfold Small at pointSmall left top right bottom
  have reach (difference : Int) (above : -(maxInt - 1) ≤ difference)
      (below : difference ≤ maxInt - 1) : difference * difference ≤ (maxInt - 1) * (maxInt - 1) :=
    abs_le_iff_mul_self_le.mp (abs_le_abs below (Int.neg_le_of_neg_le above))
  have dx := reach ((rect.confined point).x - point.x)
    (by unfold maxInt; omega) (by unfold maxInt; omega)
  have dy := reach ((rect.confined point).y - point.y)
    (by unfold maxInt; omega) (by unfold maxInt; omega)
  exact Int.lt_of_le_of_lt (Int.add_le_add dx dy) (by decide)

/-- Whether a rectangle and the displacement to it are such that no value leaves its type. -/
def FitsFrom (point : Point) (rect : Rectangle) : Prop :=
  let dp := (rect.confined point).displacementFrom point
  (Rounding.Fits 32 rect.left ∧ Rounding.Fits 32 rect.top ∧ Rounding.Fits 32 rect.right ∧
    Rounding.Fits 32 rect.bottom) ∧
  Rounding.Fits 32 dp.dx ∧ Rounding.Fits 32 dp.dy ∧ Rounding.Fits 64 dp.lengthSquared

instance (point : Point) (rect : Rectangle) : Decidable (FitsFrom point rect) :=
  inferInstanceAs (Decidable (_ ∧ _))

/-- No pixel is nearer than the largest displacement reaches, and the point stays outside. -/
theorem far_point_is_not_confined :
    (¬ ∀ (collection : Rectangles) (point : Point), collection.rectangles ≠ [] →
      (∀ rect ∈ collection.rectangles, rect.NonEmpty) →
        Rounding.Fits 32 point.x ∧ Rounding.Fits 32 point.y →
          (∀ rect ∈ collection.rectangles, FitsFrom point rect) → Confines collection point) ∧
    Rectangles.confine ⟨[⟨⟨2147483646, 2147483646⟩, ⟨1, 1⟩⟩]⟩ ⟨-1, -1⟩ = ⟨-1, -1⟩ := by
  have stays : Rectangles.confine ⟨[⟨⟨2147483646, 2147483646⟩, ⟨1, 1⟩⟩]⟩ ⟨-1, -1⟩ = ⟨-1, -1⟩ := by
    decide
  refine ⟨fun claimed => ?_, stays⟩
  have confines := claimed ⟨[⟨⟨2147483646, 2147483646⟩, ⟨1, 1⟩⟩]⟩ ⟨-1, -1⟩ (by decide) (by decide)
    (by decide) (by decide)
  obtain ⟨rect, member, covers⟩ := confines.inside
  rw [stays, List.mem_singleton.mp member] at covers
  exact absurd covers (by decide)

end Mir.Geometry

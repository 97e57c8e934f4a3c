/-
This file models `mir::geometry`: points, sizes and rectangles. Coordinates and lengths
wrap an `int` each; they are integers here, which is the same as long as no sum of a
coordinate and a length leaves the range of an `int`.

A rectangle stands for the pixels from its top left corner up to, but not including,
its bottom right one. A length may be negative, and then there are none.
-/

import Mathlib.Order.Defs.LinearOrder
import Mathlib.Tactic.SplitIfs

namespace Mir.Geometry

structure Point where
  x : Int
  y : Int
  deriving DecidableEq, Repr

structure Size where
  width : Int
  height : Int
  deriving DecidableEq, Repr

structure Rectangle where
  topLeft : Point
  size : Size
  deriving DecidableEq, Repr

namespace Rectangle

/-- The rectangle a default constructor makes. -/
def empty : Rectangle := ⟨⟨0, 0⟩, ⟨0, 0⟩⟩

def left (rectangle : Rectangle) : Int := rectangle.topLeft.x

def top (rectangle : Rectangle) : Int := rectangle.topLeft.y

def bottomRight (rectangle : Rectangle) : Point :=
  ⟨rectangle.topLeft.x + rectangle.size.width, rectangle.topLeft.y + rectangle.size.height⟩

def right (rectangle : Rectangle) : Int := rectangle.bottomRight.x

def bottom (rectangle : Rectangle) : Int := rectangle.bottomRight.y

/-- Whether a rectangle contains another one. -/
def contains (rectangle other : Rectangle) : Bool :=
  other.left ≥ rectangle.left ∧
    other.left + other.size.width ≤ rectangle.left + rectangle.size.width ∧
    other.top ≥ rectangle.top ∧
    other.top + other.size.height ≤ rectangle.top + rectangle.size.height

/-- Whether a rectangle contains a point. -/
def containsPoint (rectangle : Rectangle) (point : Point) : Bool :=
  if rectangle.size.width = 0 ∨ rectangle.size.height = 0 then false
  else
    point.x ≥ rectangle.left ∧ point.x < rectangle.bottomRight.x ∧
      point.y ≥ rectangle.top ∧ point.y < rectangle.bottomRight.y

def overlaps (rectangle other : Rectangle) : Bool :=
  let disjoint := decide (other.left ≥ rectangle.right)
    || decide (other.right ≤ rectangle.left)
    || decide (other.top ≥ rectangle.bottom)
    || decide (other.bottom ≤ rectangle.top)
    || decide (rectangle.size.width = 0)
    || decide (rectangle.size.height = 0)
    || decide (other.size.width = 0)
    || decide (other.size.height = 0)
  !disjoint

/-- The largest rectangle inside two others, or the empty one at the origin. -/
def intersectionWith (rectangle other : Rectangle) : Rectangle :=
  let maxLeft := max rectangle.left other.left
  let minRight := min rectangle.right other.right
  let maxTop := max rectangle.top other.top
  let minBottom := min rectangle.bottom other.bottom
  if maxLeft < minRight ∧ maxTop < minBottom then
    ⟨⟨maxLeft, maxTop⟩, ⟨minRight - maxLeft, minBottom - maxTop⟩⟩
  else empty

/-! ### Rectangles as sets of pixels -/

/-- The test for an empty rectangle is implied by the other four. -/
theorem containsPoint_iff (rectangle : Rectangle) (point : Point) :
    rectangle.containsPoint point = true ↔
      rectangle.left ≤ point.x ∧ point.x < rectangle.right ∧
        rectangle.top ≤ point.y ∧ point.y < rectangle.bottom := by
  unfold containsPoint right bottom bottomRight left top
  split
  · rename_i thin
    refine iff_of_false (by simp) ?_
    rintro ⟨fromLeft, toRight, fromTop, toBottom⟩
    simp only at toRight toBottom
    omega
  · simp

theorem overlaps_comm (rectangle other : Rectangle) :
    rectangle.overlaps other = other.overlaps rectangle := by
  rw [Bool.eq_iff_iff]
  simp only [overlaps, Bool.not_eq_true', Bool.or_eq_false_iff, decide_eq_false_iff_not]
  omega

theorem containsPoint_empty (point : Point) : empty.containsPoint point = false := rfl

theorem contains_iff (rectangle other : Rectangle) :
    rectangle.contains other = true ↔
      rectangle.left ≤ other.left ∧ other.right ≤ rectangle.right ∧
        rectangle.top ≤ other.top ∧ other.bottom ≤ rectangle.bottom := by
  simp [contains, left, top, right, bottom, bottomRight]

/-- A rectangle inside another one has no other pixels. -/
theorem containsPoint_of_contains {rectangle other : Rectangle} {point : Point}
    (inside : rectangle.contains other = true) (covers : other.containsPoint point = true) :
    rectangle.containsPoint point = true := by
  rw [contains_iff] at inside
  rw [containsPoint_iff] at covers ⊢
  omega

/-- An intersection has the pixels of both rectangles. -/
theorem containsPoint_intersectionWith (rectangle other : Rectangle) (point : Point) :
    (rectangle.intersectionWith other).containsPoint point = true ↔
      rectangle.containsPoint point = true ∧ other.containsPoint point = true := by
  rw [containsPoint_iff rectangle, containsPoint_iff other, intersectionWith]
  split
  · rw [containsPoint_iff]
    simp only [left, right, top, bottom, bottomRight]
    omega
  · rename_i apart
    rw [containsPoint_empty]
    refine iff_of_false (by simp) ?_
    omega

/-! ### Rectangles around others -/

def rectFromPoints (tl br : Point) : Rectangle := ⟨tl, ⟨br.x - tl.x, br.y - tl.y⟩⟩

/-- The corners move apart until one more rectangle is between them. -/
def extendCorners (corners : Point × Point) (rect : Rectangle) : Point × Point :=
  (⟨min rect.topLeft.x corners.1.x, min rect.topLeft.y corners.1.y⟩,
    ⟨max rect.bottomRight.x corners.2.x, max rect.bottomRight.y corners.2.y⟩)

/-- The smallest rectangle around all rectangles of a list. -/
def boundingRectangle : List Rectangle → Rectangle
  | [] => empty
  | first :: rest =>
    let corners := rest.foldl extendCorners (first.topLeft, first.bottomRight)
    rectFromPoints corners.1 corners.2

end Rectangle

end Mir.Geometry

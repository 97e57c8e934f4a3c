/-
This file embeds collections of rectangles, with the rectangle around all of them and with their
comparison, which takes no account of the order but counts duplicates.

It proves that what is computed from the corners of rectangles is what it is to be for their sets of
pixels. The right and bottom edges are outside, rectangles without pixels may touch others and be
inside them, and a default rectangle stands for an empty intersection.
-/

import Mir.Geometry.Rectangle
import Mir.Library.Matching

namespace Mir.Geometry

structure Rectangles where
  rectangles : List Rectangle
  deriving DecidableEq

namespace Rectangles

def add (collection : Rectangles) (rect : Rectangle) : Rectangles :=
  ⟨collection.rectangles ++ [rect]⟩

/-- At most one rectangle is removed. -/
def remove (collection : Rectangles) (rect : Rectangle) : Rectangles :=
  ⟨collection.rectangles.erase rect⟩

def clear : Rectangles := ⟨[]⟩

def size (collection : Rectangles) : Nat := collection.rectangles.length

def boundingRectangle (collection : Rectangles) : Rectangle :=
  Rectangle.boundingRectangle collection.rectangles

/-- Each rectangle of the one collection is looked for among those of the other that were not used
yet. -/
def equal (collection other : Rectangles) : Bool :=
  if collection.size ≠ other.size then false
  else
    Matching.allFound other.rectangles collection.rectangles
      (List.replicate collection.size false)

end Rectangles

namespace Rectangle

/-! ### Sets of pixels -/

/-- A rectangle has pixels. -/
def NonEmpty (rectangle : Rectangle) : Prop := 0 < rectangle.size.width ∧ 0 < rectangle.size.height

instance (rectangle : Rectangle) : Decidable rectangle.NonEmpty :=
  inferInstanceAs (Decidable (_ ∧ _))

variable {rectangle other : Rectangle}

theorem NonEmpty.left_lt_right (nonEmpty : rectangle.NonEmpty) : rectangle.left < rectangle.right :=
  Int.lt_add_of_pos_right _ nonEmpty.1

theorem NonEmpty.top_lt_bottom (nonEmpty : rectangle.NonEmpty) : rectangle.top < rectangle.bottom :=
  Int.lt_add_of_pos_right _ nonEmpty.2

theorem overlaps_iff (nonEmpty : rectangle.NonEmpty) (otherNonEmpty : other.NonEmpty) :
    rectangle.overlaps other = true ↔
      other.left < rectangle.right ∧ rectangle.left < other.right ∧
        other.top < rectangle.bottom ∧ rectangle.top < other.bottom := by
  obtain ⟨width, height⟩ := nonEmpty
  obtain ⟨otherWidth, otherHeight⟩ := otherNonEmpty
  simp only [overlaps, Bool.not_eq_true', Bool.or_eq_false_iff, decide_eq_false_iff_not]
  omega

/-- Two rectangles overlap exactly if some pixel is in both. -/
theorem overlaps_iff_exists (nonEmpty : rectangle.NonEmpty) (otherNonEmpty : other.NonEmpty) :
    rectangle.overlaps other = true ↔ ∃ point, rectangle.containsPoint point = true ∧
      other.containsPoint point = true := by
  have width := nonEmpty.left_lt_right
  have height := nonEmpty.top_lt_bottom
  have otherWidth := otherNonEmpty.left_lt_right
  have otherHeight := otherNonEmpty.top_lt_bottom
  rw [overlaps_iff nonEmpty otherNonEmpty]
  constructor
  · intro meets
    refine ⟨⟨max rectangle.left other.left, max rectangle.top other.top⟩, ?_, ?_⟩
    · rw [containsPoint_iff]
      dsimp only
      omega
    · rw [containsPoint_iff]
      dsimp only
      omega
  · rintro ⟨point, inside, otherInside⟩
    rw [containsPoint_iff] at inside otherInside
    omega

/-- A rectangle with pixels is contained in another exactly if all of its pixels are. -/
theorem contains_iff_forall (otherNonEmpty : other.NonEmpty) :
    rectangle.contains other = true ↔ ∀ point, other.containsPoint point = true →
      rectangle.containsPoint point = true := by
  constructor
  · exact fun inside point covers => containsPoint_of_contains inside covers
  · intro each
    have width := otherNonEmpty.left_lt_right
    have height := otherNonEmpty.top_lt_bottom
    -- the pixels at the top left and at the bottom right corner
    have first := each ⟨other.left, other.top⟩ (by
      rw [containsPoint_iff]
      dsimp only
      omega)
    have last := each ⟨other.right - 1, other.bottom - 1⟩ (by
      rw [containsPoint_iff]
      dsimp only
      omega)
    rw [containsPoint_iff] at first last
    dsimp only at first last
    rw [contains_iff]
    omega

/-! ### Rectangles around others -/

theorem contains_rectFromPoints_iff (tl br : Point) :
    (rectFromPoints tl br).contains other = true ↔
      tl.x ≤ other.left ∧ other.right ≤ br.x ∧ tl.y ≤ other.top ∧ other.bottom ≤ br.y := by
  rw [contains_iff]
  simp only [rectFromPoints, left, top, right, bottom, bottomRight]
  omega

theorem rectFromPoints_contained_iff (tl br : Point) :
    rectangle.contains (rectFromPoints tl br) = true ↔
      rectangle.left ≤ tl.x ∧ br.x ≤ rectangle.right ∧
        rectangle.top ≤ tl.y ∧ br.y ≤ rectangle.bottom := by
  rw [contains_iff]
  simp only [rectFromPoints, left, top, right, bottom, bottomRight]
  omega

/-- One more rectangle between the corners: what is around it and what was between them is around
what is between them now, and the other way round. -/
theorem contained_extendCorners_iff (corners : Point × Point) (rect around : Rectangle) :
    around.contains (rectFromPoints (extendCorners corners rect).1 (extendCorners corners rect).2) =
        true ↔
      around.contains (rectFromPoints corners.1 corners.2) = true ∧
        around.contains rect = true := by
  rw [rectFromPoints_contained_iff, rectFromPoints_contained_iff, contains_iff]
  simp only [extendCorners, left, top, right, bottom, bottomRight]
  omega

theorem contained_foldl_extendCorners_iff (rects : List Rectangle) (corners : Point × Point)
    (around : Rectangle) :
    around.contains (rectFromPoints (rects.foldl extendCorners corners).1
        (rects.foldl extendCorners corners).2) = true ↔
      around.contains (rectFromPoints corners.1 corners.2) = true ∧
        ∀ rect ∈ rects, around.contains rect = true := by
  induction rects generalizing corners with
  | nil => simp
  | cons rect rest inductionHypothesis =>
    rw [List.foldl_cons, inductionHypothesis, contained_extendCorners_iff, List.forall_mem_cons,
      and_assoc]

/-- A rectangle contains the bounding rectangle exactly if it contains all rectangles. -/
theorem contains_boundingRectangle_iff (first : Rectangle) (rest : List Rectangle)
    (around : Rectangle) :
    around.contains (boundingRectangle (first :: rest)) = true ↔
      ∀ rect ∈ first :: rest, around.contains rect = true := by
  have corners : rectFromPoints first.topLeft first.bottomRight = first := by
    obtain ⟨⟨x, y⟩, width, height⟩ := first
    dsimp only [rectFromPoints, bottomRight]
    rw [Int.add_comm x, Int.add_comm y, Int.add_sub_cancel, Int.add_sub_cancel]
  unfold boundingRectangle
  dsimp only
  rw [contained_foldl_extendCorners_iff, corners, List.forall_mem_cons]

theorem contains_self (rectangle : Rectangle) : rectangle.contains rectangle = true := by
  rw [contains_iff]
  omega

end Rectangle

namespace Rectangles

variable {collection other : Rectangles}

/-- Two collections are equal exactly if each has the rectangles of the other as many times. -/
theorem equal_iff_perm :
    collection.equal other = true ↔ collection.rectangles.Perm other.rectangles := by
  unfold equal
  rw [Matching.perm_iff]
  by_cases same : collection.size = other.size
  · rw [if_neg (not_not.mpr same), same]
    exact (and_iff_right same).symm
  · rw [if_pos same]
    exact iff_of_false Bool.false_ne_true fun both => same both.1

/-- What was added is removed again. -/
theorem remove_add (collection : Rectangles) (rect : Rectangle) :
    ((collection.add rect).remove rect).equal collection = true := by
  rw [equal_iff_perm]
  have added : (collection.add rect).rectangles.Perm (rect :: collection.rectangles) :=
    List.perm_append_singleton rect collection.rectangles
  have removed := added.erase rect
  rw [List.erase_cons_head] at removed
  exact removed

/-- The operations on rectangles do what they are to do with sets of pixels. -/
theorem operations_on_pixels :
    (∀ (first second : Rectangle) (point : Point),
      (first.intersectionWith second).containsPoint point = true ↔
        first.containsPoint point = true ∧ second.containsPoint point = true) ∧
    (∀ first second : Rectangle, first.NonEmpty → second.NonEmpty →
      (first.overlaps second = true ↔
        ∃ point, first.containsPoint point = true ∧ second.containsPoint point = true)) ∧
    (∀ first second : Rectangle, second.NonEmpty →
      (first.contains second = true ↔
        ∀ point, second.containsPoint point = true → first.containsPoint point = true)) ∧
    (∀ collection : Rectangles, collection.rectangles ≠ [] →
      (∀ rect ∈ collection.rectangles, collection.boundingRectangle.contains rect = true) ∧
      ∀ around : Rectangle, (∀ rect ∈ collection.rectangles, around.contains rect = true) →
        around.contains collection.boundingRectangle = true) ∧
    ∀ collection other : Rectangles,
      collection.equal other = true ↔ collection.rectangles.Perm other.rectangles := by
  refine ⟨Rectangle.containsPoint_intersectionWith,
    fun _ _ nonEmpty otherNonEmpty => Rectangle.overlaps_iff_exists nonEmpty otherNonEmpty,
    fun _ _ nonEmpty => Rectangle.contains_iff_forall nonEmpty, ?_, fun _ _ => equal_iff_perm⟩
  rintro ⟨rects⟩ notEmpty
  cases rects with
  | nil => exact absurd rfl notEmpty
  | cons first rest =>
    refine ⟨?_, fun around => (Rectangle.contains_boundingRectangle_iff first rest around).mpr⟩
    exact (Rectangle.contains_boundingRectangle_iff first rest _).mp (Rectangle.contains_self _)

/-- Two rectangles that share a column of pixels, and a line between them. -/
private def touching : Rectangles :=
  ⟨[⟨⟨0, 0⟩, ⟨4, 3⟩⟩, ⟨⟨3, 1⟩, ⟨2, 5⟩⟩, ⟨⟨2, 2⟩, ⟨0, 9⟩⟩]⟩

theorem operations_on_touching :
    (∃ point, Rectangle.containsPoint ⟨⟨0, 0⟩, ⟨4, 3⟩⟩ point = true ∧
      Rectangle.containsPoint ⟨⟨3, 1⟩, ⟨2, 5⟩⟩ point = true) ∧
    (¬ ∀ point, Rectangle.containsPoint ⟨⟨3, 1⟩, ⟨2, 5⟩⟩ point = true →
      Rectangle.containsPoint ⟨⟨0, 0⟩, ⟨4, 3⟩⟩ point = true) ∧
    touching.boundingRectangle = ⟨⟨0, 0⟩, ⟨5, 11⟩⟩ ∧
    ∀ rect ∈ touching.rectangles, touching.boundingRectangle.contains rect = true := by
  obtain ⟨-, overlaps, contains, bounding, -⟩ := operations_on_pixels
  have meet := overlaps ⟨⟨0, 0⟩, ⟨4, 3⟩⟩ ⟨⟨3, 1⟩, ⟨2, 5⟩⟩ (by decide) (by decide)
  refine ⟨meet.mp (by decide), ?_, rfl, (bounding touching (by decide)).1⟩
  rw [← contains ⟨⟨0, 0⟩, ⟨4, 3⟩⟩ ⟨⟨3, 1⟩, ⟨2, 5⟩⟩ (by decide)]
  decide

end Rectangles

end Mir.Geometry

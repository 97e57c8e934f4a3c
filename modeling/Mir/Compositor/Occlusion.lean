/-
This file models `filter_occlusions_from`, which takes the elements of a scene that
cannot be seen in an area out of a sequence, the bottom element first, and returns them.
The loop runs from the top down through a reverse iterator, erasing as it goes, and
collects the clipped rectangles of the opaque elements it has passed.

The sequence is one of any type of element that has a renderable. What a transformed
element covers is not known: the results hold whatever it is.
-/

import Mathlib.Data.Matrix.Basic
import Mathlib.Data.Rat.Defs
import Mir.Geometry.Rectangle
import Mir.Library.Stacking

namespace Mir.Compositor

open Mir.Geometry Stacking

/-- What occlusion depends on of a `Renderable`. A float that is compared with one or with an
entry of the identity is a rational here. -/
structure Renderable where
  screenPosition : Rectangle
  alpha : ℚ
  transformation : Matrix (Fin 4) (Fin 4) ℚ
  shaped : Bool
  deriving DecidableEq

/-- The test of one renderable against the rectangles covered so far, which it may extend. -/
def renderableIsOccluded (renderable : Renderable) (area : Rectangle)
    (coverage : List Rectangle) : Bool × List Rectangle :=
  if renderable.transformation ≠ 1 then (false, coverage)
  else
    let clippedWindow := renderable.screenPosition.intersectionWith area
    if clippedWindow = Rectangle.empty then (true, coverage)
    else
      let occluded := coverage.any fun rectangle => rectangle.contains clippedWindow
      if occluded = false ∧ renderable.alpha = 1 ∧ renderable.shaped = false then
        (occluded, coverage ++ [clippedWindow])
      else (occluded, coverage)

section Filter

variable {Element : Type*} (renderable : Element → Renderable) (area : Rectangle)

/-- The loop of `filter_occlusions_from`. The reverse iterator with base `base + 1` is at the
element with index `base`; erasing that element leaves an iterator with base `base`, and so does
moving on. -/
def filterLoop : Nat → List Element → List Element → List Rectangle →
    List Element × List Element
  | 0, elements, occluded, _ => (elements, occluded)
  | base + 1, elements, occluded, coverage =>
    match elements[base]? with
    | none => (elements, occluded)
    | some element =>
      let tested := renderableIsOccluded (renderable element) area coverage
      if tested.1 = true then
        filterLoop base (elements.eraseIdx base) (element :: occluded) tested.2
      else filterLoop base elements occluded tested.2

/-- The elements left in the sequence, and those taken out. -/
def filterOcclusionsFrom (elements : List Element) : List Element × List Element :=
  filterLoop renderable area elements.length elements [] []

end Filter

/-! ### What is covered -/

/-- Neither see-through nor moved by a transformation. -/
def Renderable.isOpaque (renderable : Renderable) : Bool :=
  renderable.alpha = 1 ∧ renderable.shaped = false ∧ renderable.transformation = 1

/-- The part of a renderable inside an area. -/
def Renderable.clipped (renderable : Renderable) (area : Rectangle) : Rectangle :=
  renderable.screenPosition.intersectionWith area

/-- Whether an element covers a pixel. That of a transformed element is a parameter. -/
def covers {Element : Type*} (renderable : Element → Renderable)
    (transformedCovers : Element → Point → Bool) (pixel : Point) (element : Element) : Bool :=
  if (renderable element).transformation = 1 then
    (renderable element).screenPosition.containsPoint pixel
  else transformedCovers element pixel

/-- Why an element may be removed: it is not transformed, and it is out of the area or its
clipped rectangle is inside that of an opaque element that is kept above it. -/
def Occluded {Element : Type*} (renderable : Element → Renderable) (area : Rectangle)
    (element : Element) (above : List Element) : Prop :=
  (renderable element).transformation = 1 ∧
    ((renderable element).clipped area = Rectangle.empty ∨
      ∃ cover ∈ above, (renderable cover).isOpaque = true ∧
        ((renderable cover).clipped area).contains ((renderable element).clipped area) = true)

/-- Every rectangle of a coverage is that of an opaque element that is kept. -/
def Covered {Element : Type*} (renderable : Element → Renderable) (area : Rectangle)
    (coverage : List Rectangle) (kept : List Element) : Prop :=
  ∀ rectangle ∈ coverage, ∃ cover ∈ kept, (renderable cover).isOpaque = true ∧
    (renderable cover).clipped area = rectangle

section Soundness

variable {Element : Type*} (renderable : Element → Renderable) (area : Rectangle)

/-- What the test of one element says: it is occluded for a reason, and the coverage is right
with the element kept or removed accordingly. -/
theorem renderableIsOccluded_spec {coverage : List Rectangle} {kept : List Element}
    (element : Element) (covered : Covered renderable area coverage kept) :
    ((renderableIsOccluded (renderable element) area coverage).1 = true →
      Occluded renderable area element kept ∧
        Covered renderable area (renderableIsOccluded (renderable element) area coverage).2 kept) ∧
    ((renderableIsOccluded (renderable element) area coverage).1 = false →
      Covered renderable area (renderableIsOccluded (renderable element) area coverage).2
        (element :: kept)) := by
  have later : Covered renderable area coverage (element :: kept) := by
    intro rectangle member
    obtain ⟨cover, above, reason⟩ := covered rectangle member
    exact ⟨cover, List.mem_cons_of_mem _ above, reason⟩
  unfold renderableIsOccluded
  by_cases transformed : (renderable element).transformation ≠ 1
  · rw [if_pos transformed]
    exact ⟨fun occluded => absurd occluded Bool.false_ne_true, fun _ => later⟩
  · rw [if_neg transformed]
    have plain := not_not.mp transformed
    simp only
    split
    · rename_i outside
      exact ⟨fun _ => ⟨⟨plain, Or.inl outside⟩, covered⟩,
        fun visible => absurd visible.symm Bool.false_ne_true⟩
    · split
      · rename_i blocks
        refine ⟨fun occluded => ?_, fun _ rectangle member => ?_⟩
        · rw [blocks.1] at occluded
          cases occluded
        · rcases List.mem_append.mp member with before | new
          · exact later rectangle before
          · rw [List.mem_singleton.mp new]
            refine ⟨element, List.mem_cons_self, ?_, rfl⟩
            simp [Renderable.isOpaque, blocks.2.1, blocks.2.2, plain]
      · refine ⟨fun occluded => ⟨⟨plain, Or.inr ?_⟩, covered⟩, fun _ => later⟩
        obtain ⟨rectangle, member, inside⟩ := List.any_eq_true.mp occluded
        obtain ⟨cover, above, blocks, rfl⟩ := covered rectangle member
        exact ⟨cover, above, blocks, inside⟩

/-- The loop splits the elements it has yet to see as its test says, and leaves those it has
kept above them in place. -/
theorem filterLoop_splits (below above kept removed : List Element) (coverage : List Rectangle)
    (splits : Splits (Occluded renderable area) above kept removed)
    (covered : Covered renderable area coverage kept) :
    Splits (Occluded renderable area) (below ++ above)
      (filterLoop renderable area below.length (below ++ kept) removed coverage).1
      (filterLoop renderable area below.length (below ++ kept) removed coverage).2 := by
  -- Induction from the top of the elements that are left, which is the end of the list.
  induction below using List.reverseRecOn generalizing above kept removed coverage with
  | nil => exact splits
  | append_singleton below element inductionHypothesis =>
    obtain ⟨occluded, visible⟩ := renderableIsOccluded_spec renderable area element covered
    have found : (below ++ [element] ++ kept)[below.length]? = some element := by
      rw [List.append_assoc, List.getElem?_append_right (Nat.le_refl _), Nat.sub_self]
      rfl
    have erased : (below ++ [element] ++ kept).eraseIdx below.length = below ++ kept := by
      rw [List.append_assoc, List.eraseIdx_append_of_length_le (Nat.le_refl _), Nat.sub_self]
      rfl
    rw [List.length_append, List.length_singleton, filterLoop, found]
    simp only
    rw [List.append_assoc below [element] above, List.singleton_append]
    split
    · rename_i hidden
      obtain ⟨because, stillCovered⟩ := occluded hidden
      rw [erased]
      exact inductionHypothesis _ _ _ _ (splits.remove element because) stillCovered
    · rename_i seen
      rw [List.append_assoc below [element] kept, List.singleton_append]
      exact inductionHypothesis _ _ _ _ (splits.keep element) (visible (by simpa using seen))

theorem filterOcclusionsFrom_splits (elements : List Element) :
    Splits (Occluded renderable area) elements (filterOcclusionsFrom renderable area elements).1
      (filterOcclusionsFrom renderable area elements).2 := by
  have splits := filterLoop_splits renderable area elements [] [] [] [] Splits.nil
    (fun _ member => by cases member)
  rwa [List.append_nil] at splits

/-- A pixel of the area that an occluded element covers is covered by an opaque element that is
kept above it. -/
theorem Occluded.covered {renderable : Element → Renderable} {area : Rectangle}
    {element : Element} {above : List Element} (occluded : Occluded renderable area element above)
    (transformedCovers : Element → Point → Bool) {pixel : Point}
    (inside : area.containsPoint pixel = true)
    (here : covers renderable transformedCovers pixel element = true) :
    ∃ cover ∈ above, covers renderable transformedCovers pixel cover = true ∧
      (renderable cover).isOpaque = true := by
  obtain ⟨plain, reason⟩ := occluded
  rw [covers, if_pos plain] at here
  have clipped : ((renderable element).clipped area).containsPoint pixel = true :=
    (Rectangle.containsPoint_intersectionWith _ _ _).mpr ⟨here, inside⟩
  rcases reason with outside | ⟨cover, member, blocks, contained⟩
  · rw [outside, Rectangle.containsPoint_empty] at clipped
    cases clipped
  · have covering := Rectangle.containsPoint_of_contains contained clipped
    have untransformed : (renderable cover).transformation = 1 := by
      simp only [Renderable.isOpaque, decide_eq_true_eq] at blocks
      exact blocks.2.2
    refine ⟨cover, member, ?_, blocks⟩
    rw [covers, if_pos untransformed]
    exact ((Rectangle.containsPoint_intersectionWith _ _ _).mp covering).1

/-- Filtering changes nothing that can be seen in the area: at each of its pixels the same element
is on top, and the same elements down to the first opaque one are seen. Both sequences keep the
order and together are the input. Every element removed is untransformed and out of the area, or
inside what an opaque element that is kept above it covers. -/
theorem filterOcclusionsFrom_sound (transformedCovers : Element → Point → Bool)
    (elements : List Element) :
    (∀ pixel, area.containsPoint pixel = true →
      topmost (covers renderable transformedCovers pixel) elements =
          topmost (covers renderable transformedCovers pixel)
            (filterOcclusionsFrom renderable area elements).1 ∧
        visible (covers renderable transformedCovers pixel)
            (fun element => (renderable element).isOpaque) elements =
          visible (covers renderable transformedCovers pixel)
            (fun element => (renderable element).isOpaque)
            (filterOcclusionsFrom renderable area elements).1) ∧
    Splits (Occluded renderable area) elements (filterOcclusionsFrom renderable area elements).1
      (filterOcclusionsFrom renderable area elements).2 ∧
    (filterOcclusionsFrom renderable area elements).1.Sublist elements ∧
    (filterOcclusionsFrom renderable area elements).2.Sublist elements ∧
    ((filterOcclusionsFrom renderable area elements).1 ++
      (filterOcclusionsFrom renderable area elements).2).Perm elements ∧
    ∀ element ∈ (filterOcclusionsFrom renderable area elements).2,
      (renderable element).transformation = 1 := by
  have splits := filterOcclusionsFrom_splits renderable area elements
  refine ⟨fun pixel inside => ⟨?_, ?_⟩, splits, splits.kept_sublist, splits.removed_sublist,
    splits.perm, fun element removed => ?_⟩
  · refine splits.topmost_eq _ fun element above occluded here => ?_
    obtain ⟨cover, member, covering, -⟩ := occluded.covered transformedCovers inside here
    exact ⟨cover, member, covering⟩
  · exact splits.visible_eq _ _ fun element above occluded here =>
      occluded.covered transformedCovers inside here
  · obtain ⟨_, _, plain, _⟩ := splits.exists_reason removed
    exact plain

end Soundness

/-- An opaque window over the left half of a monitor, and one behind it. -/
def overlapping : List Renderable :=
  [⟨⟨⟨10, 10⟩, ⟨20, 20⟩⟩, 1, 1, true⟩, ⟨⟨⟨0, 0⟩, ⟨50, 100⟩⟩, 1, 1, false⟩]

theorem filterOcclusionsFrom_sound_overlapping :
    (filterOcclusionsFrom id ⟨⟨0, 0⟩, ⟨100, 100⟩⟩ overlapping).2.length = 1 ∧
      topmost (covers id (fun _ _ => false) ⟨15, 15⟩) overlapping =
        topmost (covers id (fun _ _ => false) ⟨15, 15⟩)
          (filterOcclusionsFrom id ⟨⟨0, 0⟩, ⟨100, 100⟩⟩ overlapping).1 :=
  ⟨by decide, ((filterOcclusionsFrom_sound id ⟨⟨0, 0⟩, ⟨100, 100⟩⟩ (fun _ _ => false)
    overlapping).1 ⟨15, 15⟩ (by decide)).1⟩

end Mir.Compositor

/-
This file models the choice of a renderable for bypass, which is scanned out by itself in place of
the whole list. The list is gone through from the top by a predicate with a state, and it proves
when what is chosen looks like the list.

A renderable outside the area is passed before its transformation is looked at, though a
transformed one may be drawn anywhere. The choice is right exactly if none is above the one chosen.
-/

import Mathlib.Tactic.NormNum
import Mir.Compositor.Occlusion
import Mir.Graphics.OutputGrouping

namespace Mir.Graphics.Bypass

open Mir.Geometry Compositor

/-! ### The choice -/

inductive BypassOption
  | allowed
  | prohibited
  deriving DecidableEq, Repr

structure BypassMatch where
  viewArea : Rectangle
  bypassIsFeasible : Bool
  deriving DecidableEq, Repr

/-- Opaque and fitting the area, as it stands. -/
def BypassMatch.fits (viewArea : Rectangle) (renderable : Renderable) : Bool :=
  let isOpaque := !(decide (renderable.alpha ≠ 1) || renderable.shaped)
  let fits := decide (renderable.screenPosition = viewArea)
  let isOrthogonal := decide (renderable.transformation = 1)
  isOpaque && fits && isOrthogonal

/-- The predicate, with what it leaves of its state. -/
def BypassMatch.test (bypass : BypassMatch) (renderable : Renderable) : Bool × BypassMatch :=
  if bypass.bypassIsFeasible = false then (false, bypass)
  else if bypass.viewArea.overlaps renderable.screenPosition = false then (false, bypass)
  else
    let feasible := BypassMatch.fits bypass.viewArea renderable
    (feasible, { bypass with bypassIsFeasible := feasible })

section List

variable {Element : Type*} (renderable : Element → Renderable)

/-- The search from the top down: the element that is found, with those passed, which are above
it. -/
def findIf (bypass : BypassMatch) (passed : List Element) :
    List Element → Option (Element × List Element)
  | [] => none
  | element :: rest =>
    let tested := bypass.test (renderable element)
    if tested.1 = true then some (element, passed)
    else findIf tested.2 (element :: passed) rest

/-- The part of `DisplayBuffer::overlay` before the buffer is looked at. The list is from the bottom
to the top. -/
def overlay (rotation : Orientation) (bypassOption : BypassOption) (area : Rectangle)
    (renderableList : List Element) : Option (Element × List Element) :=
  if rotation = .normal ∧ bypassOption = .allowed then
    findIf renderable ⟨area, true⟩ [] renderableList.reverse
  else none

end List

/-! ### What is found -/

theorem BypassMatch.fits_iff (viewArea : Rectangle) (renderable : Renderable) :
    BypassMatch.fits viewArea renderable = true ↔
      renderable.isOpaque = true ∧ renderable.screenPosition = viewArea := by
  simp [BypassMatch.fits, Renderable.isOpaque, and_assoc, and_comm, and_left_comm]

section Found

variable {Element : Type*} {renderable : Element → Renderable} {area : Rectangle}

theorem findIf_infeasible (passed elements : List Element) :
    findIf renderable ⟨area, false⟩ passed elements = none := by
  induction elements generalizing passed with
  | nil => rfl
  | cons element rest inductionHypothesis => exact inductionHypothesis (element :: passed)

/-- The element found fits, and those before it are outside the area. -/
theorem findIf_eq_some_iff (passed elements above : List Element) (chosen : Element) :
    findIf renderable ⟨area, true⟩ passed elements = some (chosen, above) ↔
      ∃ before below, elements = before ++ chosen :: below ∧ above = before.reverse ++ passed ∧
        (∀ element ∈ before, area.overlaps (renderable element).screenPosition = false) ∧
        area.overlaps (renderable chosen).screenPosition = true ∧
        BypassMatch.fits area (renderable chosen) = true := by
  induction elements generalizing passed with
  | nil =>
    refine iff_of_false nofun ?_
    rintro ⟨before, below, empty, -⟩
    exact List.append_ne_nil_of_right_ne_nil before (List.cons_ne_nil chosen below) empty.symm
  | cons element rest inductionHypothesis =>
    cases overlap : area.overlaps (renderable element).screenPosition with
    | false =>
      have passes : findIf renderable ⟨area, true⟩ passed (element :: rest) =
          findIf renderable ⟨area, true⟩ (element :: passed) rest := by
        simp [findIf, BypassMatch.test, overlap]
      rw [passes, inductionHypothesis]
      constructor
      · rintro ⟨before, below, rfl, rfl, outside, matched⟩
        refine ⟨element :: before, below, rfl, by simp, ?_, matched⟩
        exact List.forall_mem_cons.mpr ⟨overlap, outside⟩
      · rintro ⟨before, below, same, rfl, outside, isOver, fits⟩
        rcases before with - | ⟨first, before⟩
        · rw [(List.cons.inj same).1, isOver] at overlap
          cases overlap
        · obtain ⟨rfl, rfl⟩ := List.cons.inj same
          exact ⟨before, below, rfl, by simp, (List.forall_mem_cons.mp outside).2, isOver, fits⟩
    | true =>
      have only (before below : List Element) (same : element :: rest = before ++ chosen :: below)
          (outside : ∀ element ∈ before,
            area.overlaps (renderable element).screenPosition = false) :
          before = [] ∧ element = chosen := by
        rcases before with - | ⟨first, before⟩
        · exact ⟨rfl, (List.cons.inj same).1⟩
        · obtain ⟨rfl, -⟩ := List.cons.inj same
          exact absurd overlap (by rw [(List.forall_mem_cons.mp outside).1]; nofun)
      cases fits : BypassMatch.fits area (renderable element) with
      | true =>
        have found : findIf renderable ⟨area, true⟩ passed (element :: rest) =
            some (element, passed) := by
          simp [findIf, BypassMatch.test, overlap, fits]
        rw [found]
        constructor
        · intro same
          obtain ⟨rfl, rfl⟩ := Prod.mk.inj (Option.some.inj same)
          exact ⟨[], rest, rfl, rfl, nofun, overlap, fits⟩
        · rintro ⟨before, below, same, rfl, outside, -⟩
          obtain ⟨rfl, rfl⟩ := only before below same outside
          rfl
      | false =>
        have stops : findIf renderable ⟨area, true⟩ passed (element :: rest) = none := by
          simp [findIf, BypassMatch.test, overlap, fits, findIf_infeasible]
        rw [stops]
        refine iff_of_false nofun ?_
        rintro ⟨before, below, same, -, outside, -, both⟩
        obtain ⟨-, rfl⟩ := only before below same outside
        rw [fits] at both
        cases both

theorem overlay_eq_some_iff (rotation : Orientation) (bypassOption : BypassOption)
    (renderableList above : List Element) (chosen : Element) :
    overlay renderable rotation bypassOption area renderableList = some (chosen, above) ↔
      (rotation = .normal ∧ bypassOption = .allowed) ∧
        ∃ below, renderableList = below ++ chosen :: above ∧
          (∀ element ∈ above, area.overlaps (renderable element).screenPosition = false) ∧
          area.overlaps (renderable chosen).screenPosition = true ∧
          BypassMatch.fits area (renderable chosen) = true := by
  unfold overlay
  by_cases tried : rotation = .normal ∧ bypassOption = .allowed
  · rw [if_pos tried, findIf_eq_some_iff, and_iff_right tried]
    constructor
    · rintro ⟨before, below, same, rfl, outside, matched⟩
      refine ⟨below.reverse, ?_, fun element above => outside element ?_, matched⟩
      · rw [← List.reverse_inj, same]
        simp
      · rwa [List.append_nil, List.mem_reverse] at above
    · rintro ⟨below, rfl, outside, matched⟩
      refine ⟨above.reverse, below.reverse, by simp, by simp, fun element before => ?_, matched⟩
      exact outside element (List.mem_reverse.mp before)
  · rw [if_neg tried]
    exact iff_of_false nofun fun both => tried both.1

end Found

/-! ### What is seen -/

section Seen

variable {Element : Type*} (renderable : Element → Renderable)

/-- How elements are drawn: what each looks like, and what is seen at a point after it was drawn on
what was seen there before. -/
structure Drawing (Colour : Type) where
  pixel : Element → Point → Colour
  draw : Element → Point → Colour → Colour
  outside : ∀ element point, (renderable element).transformation = 1 →
    (renderable element).screenPosition.containsPoint point = false →
      ∀ beneath, draw element point beneath = beneath
  solid : ∀ element point, (renderable element).isOpaque = true →
    (renderable element).screenPosition.containsPoint point = true →
      ∀ beneath, draw element point beneath = pixel element point

/-- The list is painted from the bottom to the top. -/
def Drawing.paint {Colour : Type} {renderable : Element → Renderable}
    (drawing : Drawing renderable Colour) (elements : List Element) (point : Point)
    (background : Colour) : Colour :=
  elements.foldl (fun beneath element => drawing.draw element point beneath) background

/-- Where an element may be drawn. -/
def MayDraw (element : Element) (point : Point) : Prop :=
  (renderable element).transformation ≠ 1 ∨
    (renderable element).screenPosition.containsPoint point = true

/-- An element looks like the list that it is in: it covers the area, and those above it keep
out of it. -/
structure Stands (area : Rectangle) (renderableList above : List Element) (chosen : Element) :
    Prop where
  isOpaque : (renderable chosen).isOpaque = true
  covers : (renderable chosen).screenPosition = area
  free : ∀ element ∈ above, ∀ point, area.containsPoint point = true →
    ¬ MayDraw renderable element point
  seen : ∀ (Colour : Type) (drawing : Drawing renderable Colour) (point : Point)
    (background : Colour), area.containsPoint point = true →
      drawing.paint renderableList point background = drawing.pixel chosen point

end Seen

section Sound

variable {Element : Type*} {renderable : Element → Renderable} {area : Rectangle}

theorem paint_of_free {Colour : Type} (drawing : Drawing renderable Colour) {point : Point}
    (elements : List Element) (free : ∀ element ∈ elements, ¬ MayDraw renderable element point)
    (background : Colour) : drawing.paint elements point background = background := by
  induction elements generalizing background with
  | nil => rfl
  | cons element rest inductionHypothesis =>
    obtain ⟨first, later⟩ := List.forall_mem_cons.mp free
    obtain ⟨plain, misses⟩ := not_or.mp first
    show drawing.paint rest point (drawing.draw element point background) = background
    rw [drawing.outside element point (not_not.mp plain) (Bool.eq_false_iff.mpr misses),
      inductionHypothesis later]

theorem paint_append {Colour : Type} (drawing : Drawing renderable Colour) (point : Point)
    (below above : List Element) (background : Colour) :
    drawing.paint (below ++ above) point background =
      drawing.paint above point (drawing.paint below point background) :=
  List.foldl_append

/-- What overlaps itself has a point. -/
theorem containsPoint_topLeft {rectangle : Rectangle}
    (overlap : rectangle.overlaps rectangle = true) :
    rectangle.containsPoint rectangle.topLeft = true := by
  simp only [Rectangle.overlaps, Bool.not_eq_true', Bool.or_eq_false_iff,
    decide_eq_false_iff_not] at overlap
  rw [Rectangle.containsPoint_iff]
  simp only [Rectangle.left, Rectangle.top] at overlap ⊢
  omega

theorem not_containsPoint_of_apart {rectangle other : Rectangle} {point : Point}
    (apart : rectangle.overlaps other = false) (inside : rectangle.containsPoint point = true) :
    ¬ other.containsPoint point = true := by
  intro both
  rw [Rectangle.containsPoint_iff] at inside both
  have overlap : rectangle.overlaps other = true := by
    simp only [Rectangle.overlaps, Bool.not_eq_true', Bool.or_eq_false_iff,
      decide_eq_false_iff_not]
    simp only [Rectangle.left, Rectangle.right, Rectangle.top, Rectangle.bottom,
      Rectangle.bottomRight] at inside both ⊢
    omega
  exact Bool.false_ne_true (apart.symm.trans overlap)

/-- Whatever is chosen is opaque and covers the area, and it is seen if nothing that is transformed
is above it. -/
theorem stands_of_plain {below above : List Element} {chosen : Element}
    (fits : BypassMatch.fits area (renderable chosen) = true)
    (outside : ∀ element ∈ above, area.overlaps (renderable element).screenPosition = false)
    (plain : ∀ element ∈ above, (renderable element).transformation = 1) :
    Stands renderable area (below ++ chosen :: above) above chosen := by
  obtain ⟨isOpaque, covers⟩ := (BypassMatch.fits_iff area (renderable chosen)).mp fits
  have free (element : Element) (isAbove : element ∈ above) (point : Point)
      (inside : area.containsPoint point = true) : ¬ MayDraw renderable element point := by
    rintro (transformed | drawn)
    · exact transformed (plain element isAbove)
    · exact not_containsPoint_of_apart (outside element isAbove) inside drawn
  refine ⟨isOpaque, covers, free, fun Colour drawing point background inside => ?_⟩
  rw [paint_append]
  show drawing.paint above point (drawing.draw chosen point _) = _
  rw [drawing.solid chosen point isOpaque (covers ▸ inside),
    paint_of_free drawing above fun element isAbove => free element isAbove point inside]

/-- What is chosen looks like the list exactly if nothing above it is transformed. -/
theorem overlay_stands_iff (renderable : Element → Renderable) (rotation : Orientation)
    (bypassOption : BypassOption) (area : Rectangle) (renderableList : List Element) :
    (∀ chosen above,
      overlay renderable rotation bypassOption area renderableList = some (chosen, above) →
        Stands renderable area renderableList above chosen) ↔
    (rotation = .normal → bypassOption = .allowed → ∀ below chosen above,
      renderableList = below ++ chosen :: above →
      (∀ element ∈ above, area.overlaps (renderable element).screenPosition = false) →
      area.overlaps (renderable chosen).screenPosition = true →
      BypassMatch.fits area (renderable chosen) = true →
        ∀ element ∈ above, (renderable element).transformation = 1) := by
  constructor
  · rintro stands isNormal allowed below chosen above rfl outside overlap fits element isAbove
    have picked : overlay renderable rotation bypassOption area (below ++ chosen :: above) =
        some (chosen, above) :=
      (overlay_eq_some_iff rotation bypassOption _ above chosen).mpr
        ⟨⟨isNormal, allowed⟩, below, rfl, outside, overlap, fits⟩
    have stood := stands chosen above picked
    rw [stood.covers] at overlap
    have free := stood.free element isAbove area.topLeft (containsPoint_topLeft overlap)
    exact not_not.mp (not_or.mp free).1
  · intro plain chosen above picked
    obtain ⟨⟨isNormal, allowed⟩, below, rfl, outside, overlap, fits⟩ :=
      (overlay_eq_some_iff rotation bypassOption _ above chosen).mp picked
    exact stands_of_plain fits outside
      (plain isNormal allowed below chosen above rfl outside overlap fits)

/-- A window that fills the area, and one beside the area that is drawn five times as large. -/
def windowUnderTransformed : List Renderable :=
  [⟨⟨⟨0, 0⟩, ⟨100, 100⟩⟩, 1, 1, false⟩, ⟨⟨⟨150, 0⟩, ⟨100, 100⟩⟩, 1, 5, false⟩]

theorem bypass_hides_transformed_window :
    ¬ ∀ (rotation : Orientation) (bypassOption : BypassOption) (area : Rectangle)
      (renderableList : List Renderable) (chosen : Renderable) (above : List Renderable),
      overlay id rotation bypassOption area renderableList = some (chosen, above) →
        Stands id area renderableList above chosen := by
  intro stands
  have five : (5 : Matrix (Fin 4) (Fin 4) ℚ) ≠ 1 := by
    intro same
    have entry := congrFun (congrFun same 0) 0
    norm_num [Matrix.ofNat_apply] at entry
  have stood := stands .normal .allowed ⟨⟨0, 0⟩, ⟨100, 100⟩⟩ windowUnderTransformed
    ⟨⟨⟨0, 0⟩, ⟨100, 100⟩⟩, 1, 1, false⟩ [⟨⟨⟨150, 0⟩, ⟨100, 100⟩⟩, 1, 5, false⟩]
    ((overlay_eq_some_iff _ _ _ _ _).mpr
      ⟨⟨rfl, rfl⟩, [], rfl, by simp [Rectangle.overlaps, Rectangle.left, Rectangle.right,
        Rectangle.bottomRight], by decide, by simp [BypassMatch.fits]⟩)
  exact stood.free _ (List.mem_singleton_self _) ⟨0, 0⟩ (by decide) (.inl five)

end Sound

end Mir.Graphics.Bypass

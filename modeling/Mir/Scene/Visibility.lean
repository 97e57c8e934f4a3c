/-
This file models how surfaces learn whether they can be seen: the surfaces of a
`SurfaceStack` with the buffer streams that are their layers, the `RenderingTracker` of
each surface, and the composite pass of a `DefaultDisplayBufferCompositor`, which tells
each scene element in turn that it is occluded or rendered.

A surface has one tracker and an element for each of its layers. The pass reports every
occluded element before any rendered one, so a surface with an occluded layer and a
rendered one is first taken to be occluded altogether, when it is not rendered by another
compositor. The tracker refers to its surface weakly; the stack holds the surface, so the
reference is good during a pass.
-/

import Mathlib.Data.Finset.Basic
import Mir.Compositor.Arbiter
import Mir.Compositor.Occlusion

namespace Mir.Scene

open Compositor Mir.Geometry

/-- The visibility attribute of a surface. -/
inductive WindowVisibility
  | occluded
  | exposed
  deriving DecidableEq, Repr

/-- The identity of a surface, an address in the source. -/
abbrev SurfaceID := Nat

/-- The error a tracker throws. -/
inductive TrackerError
  | noActiveCompositor
  deriving DecidableEq, Repr

def TrackerError.what : TrackerError → String
  | .noActiveCompositor => "No active compositor with supplied id"

/-! ### Surfaces and their elements -/

/-- A buffer stream as a layer of a surface. -/
structure StreamInfo where
  hasSubmittedBuffer : Bool
  streamSize : Size
  containsAlpha : Bool
  displacement : Point
  size : Option Size

structure Surface where
  id : SurfaceID
  hidden : Bool
  topLeft : Point
  transformationMatrix : Matrix (Fin 4) (Fin 4) ℚ
  surfaceAlpha : ℚ
  layers : List StreamInfo

namespace Surface

/-- A surface is drawn unless it is hidden or no layer has anything to show. -/
def visible (surface : Surface) : Bool :=
  surface.hidden = false ∧ surface.layers.any StreamInfo.hasSubmittedBuffer = true

/-- The snapshot of one layer. -/
def snapshot (surface : Surface) (info : StreamInfo) : Renderable where
  screenPosition :=
    ⟨⟨surface.topLeft.x + info.displacement.x, surface.topLeft.y + info.displacement.y⟩,
      info.size.getD info.streamSize⟩
  alpha := surface.surfaceAlpha
  transformation := surface.transformationMatrix
  shaped := info.containsAlpha

/-- One renderable for each layer that has something to show. -/
def generateRenderables (surface : Surface) : List Renderable :=
  (surface.layers.filter StreamInfo.hasSubmittedBuffer).map surface.snapshot

end Surface

/-- An element of a scene: a renderable, and the surface whose tracker it reports to. An overlay
reports to none. -/
structure SceneElement where
  renderable : Renderable
  tracker : Option SurfaceID

/-! ### Trackers -/

structure RenderingTracker where
  occlusions : Finset CompositorID
  activeCompositors : Finset CompositorID

/-- What a composite pass changes of a surface, with a record of what it did: the visibilities it
configured, those it told the observers about, and the times the layers were told to drop old
buffers. The records have the newest first. -/
structure Presence where
  tracker : RenderingTracker
  visibility : WindowVisibility
  configured : List WindowVisibility
  attribChanged : List WindowVisibility
  dropOldBuffers : Nat

namespace Presence

/-- Configures the visibility attribute. Only a change has consequences. -/
def setVisibility (presence : Presence) (new : WindowVisibility) : Presence :=
  let called := { presence with configured := new :: presence.configured }
  if presence.visibility = new then called
  else
    { called with
      visibility := new
      attribChanged := new :: presence.attribChanged
      dropOldBuffers :=
        if new = .exposed then presence.dropOldBuffers + 1 else presence.dropOldBuffers }

/-- A compositor has rendered an element of the surface. -/
def renderedIn (cid : CompositorID) (presence : Presence) : Except TrackerError Presence :=
  if cid ∉ presence.tracker.activeCompositors then .error .noActiveCompositor
  else
    .ok (setVisibility
      { presence with
        tracker := { presence.tracker with occlusions := presence.tracker.occlusions.erase cid } }
      .exposed)

/-- A compositor has found an element of the surface occluded. -/
def occludedIn (cid : CompositorID) (presence : Presence) : Except TrackerError Presence :=
  if cid ∉ presence.tracker.activeCompositors then .error .noActiveCompositor
  else
    let occluded : Presence :=
      { presence with
        tracker := { presence.tracker with occlusions := insert cid presence.tracker.occlusions } }
    if occluded.tracker.occlusions = occluded.tracker.activeCompositors then
      .ok (occluded.setVisibility .occluded)
    else .ok occluded

end Presence

/-- A stack of surfaces, the bottom one first, with the overlays above them. Every tracker knows
the compositors that are registered. -/
structure SurfaceStack where
  surfaces : List Surface
  overlays : List Renderable
  registeredCompositors : Finset CompositorID
  tracker : SurfaceID → RenderingTracker
  visibility : SurfaceID → WindowVisibility
  tracked : ∀ id, (tracker id).activeCompositors = registeredCompositors

namespace SurfaceStack

/-- The elements of the scene, the bottom one first. -/
def sceneElementsFor (stack : SurfaceStack) : List SceneElement :=
  (stack.surfaces.filter Surface.visible).flatMap (fun surface =>
      surface.generateRenderables.map fun renderable => ⟨renderable, some surface.id⟩) ++
    stack.overlays.map fun renderable => ⟨renderable, none⟩

/-- A pass begins with nothing on its record. -/
def beganFrame (stack : SurfaceStack) (id : SurfaceID) : Presence :=
  ⟨stack.tracker id, stack.visibility id, [], [], 0⟩

end SurfaceStack

/-- Reports each of a sequence of elements to its tracker. -/
def report (act : Presence → Except TrackerError Presence) :
    List SceneElement → (SurfaceID → Presence) → Except TrackerError (SurfaceID → Presence)
  | [], presences => .ok presences
  | element :: rest, presences =>
    match element.tracker with
    | none => report act rest presences
    | some id =>
      match act (presences id) with
      | .error error => .error error
      | .ok presence => report act rest (Function.update presences id presence)

namespace SurfaceStack

/-- The elements a pass finds occluded, and those it renders. -/
def occlusions (stack : SurfaceStack) (viewArea : Rectangle) : List SceneElement :=
  (filterOcclusionsFrom SceneElement.renderable viewArea stack.sceneElementsFor).2

def rendered (stack : SurfaceStack) (viewArea : Rectangle) : List SceneElement :=
  (filterOcclusionsFrom SceneElement.renderable viewArea stack.sceneElementsFor).1

/-- What a composite pass does to the surfaces. -/
def composite (stack : SurfaceStack) (cid : CompositorID) (viewArea : Rectangle) :
    Except TrackerError (SurfaceID → Presence) :=
  match report (Presence.occludedIn cid) (stack.occlusions viewArea) stack.beganFrame with
  | .error error => .error error
  | .ok presences => report (Presence.renderedIn cid) (stack.rendered viewArea) presences

end SurfaceStack

/-! ### What a sequence of reports does to one surface -/

/-- An element reports to a surface. -/
def Reports (elements : List SceneElement) (id : SurfaceID) : Prop :=
  ∃ element ∈ elements, element.tracker = some id

section Report

variable {act : Presence → Except TrackerError Presence} {elements : List SceneElement}
  {presences after : SurfaceID → Presence} {id : SurfaceID}

/-- The first of some reports acts on its surface and on no other. -/
theorem report_cons {element : SceneElement}
    (done : report act (element :: elements) presences = .ok after) :
    ∃ middle, report act elements middle = .ok after ∧
      ∀ id, (element.tracker ≠ some id → middle id = presences id) ∧
        (element.tracker = some id → act (presences id) = .ok (middle id)) := by
  rw [report] at done
  cases tracker : element.tracker with
  | none =>
    simp only [tracker] at done
    exact ⟨presences, done, fun id => ⟨fun _ => rfl, fun same => by cases same⟩⟩
  | some reported =>
    simp only [tracker] at done
    cases result : act (presences reported) with
    | error error =>
      rw [result] at done
      cases done
    | ok presence =>
      rw [result] at done
      refine ⟨_, done, fun id => ⟨fun different => ?_, fun same => ?_⟩⟩
      · rw [Function.update_of_ne]
        rintro rfl
        exact different rfl
      · obtain rfl : reported = id := by simpa using same
        rw [Function.update_self, result]

/-- What each report keeps true of a surface stays true of it. -/
theorem report_preserves (property : Presence → Prop)
    (done : report act elements presences = .ok after)
    (preserved : ∀ presence later, property presence → act presence = .ok later → property later)
    (before : property (presences id)) : property (after id) := by
  induction elements generalizing presences with
  | nil =>
    cases done
    exact before
  | cons element rest inductionHypothesis =>
    obtain ⟨middle, others, effect⟩ := report_cons done
    refine inductionHypothesis others ?_
    by_cases here : element.tracker = some id
    · exact preserved _ _ before ((effect id).2 here)
    · rw [(effect id).1 here]
      exact before

/-- A surface that nothing reports to is left alone. -/
theorem report_unreported (done : report act elements presences = .ok after)
    (silent : ¬ Reports elements id) : after id = presences id := by
  induction elements generalizing presences with
  | nil =>
    cases done
    rfl
  | cons element rest inductionHypothesis =>
    obtain ⟨middle, others, effect⟩ := report_cons done
    have quiet : ¬ Reports rest id := fun ⟨other, member, same⟩ =>
      silent ⟨other, List.mem_cons_of_mem _ member, same⟩
    rw [inductionHypothesis others quiet]
    exact (effect id).1 fun same => silent ⟨element, List.mem_cons_self, same⟩

/-- What one report makes true of a surface, and later ones keep, is true of a surface that
something reports to. -/
theorem report_establishes (known property : Presence → Prop)
    (done : report act elements presences = .ok after) (reports : Reports elements id)
    (keeps : ∀ presence later, known presence → act presence = .ok later → known later)
    (makes : ∀ presence later, known presence → act presence = .ok later → property later)
    (before : known (presences id)) : property (after id) := by
  induction elements generalizing presences with
  | nil =>
    obtain ⟨_, member, _⟩ := reports
    cases member
  | cons element rest inductionHypothesis =>
    obtain ⟨middle, others, effect⟩ := report_cons done
    by_cases here : element.tracker = some id
    · have acted := (effect id).2 here
      exact (report_preserves (fun presence => known presence ∧ property presence) others
        (fun _ _ holds again => ⟨keeps _ _ holds.1 again, makes _ _ holds.1 again⟩)
        ⟨keeps _ _ before acted, makes _ _ before acted⟩).2
    · have later : Reports rest id := by
        obtain ⟨other, member, same⟩ := reports
        rcases List.mem_cons.mp member with rfl | behind
        · exact absurd same here
        · exact ⟨other, behind, same⟩
      refine inductionHypothesis others later ?_
      rw [(effect id).1 here]
      exact before

/-- Reports of a compositor every tracker knows do not fail. -/
theorem report_ok {cid : CompositorID} (elements : List SceneElement)
    (acts : ∀ presence, cid ∈ presence.tracker.activeCompositors →
      ∃ later, act presence = .ok later ∧
        later.tracker.activeCompositors = presence.tracker.activeCompositors)
    (known : ∀ id, cid ∈ (presences id).tracker.activeCompositors) :
    ∃ after, report act elements presences = .ok after ∧
      ∀ id, (after id).tracker.activeCompositors = (presences id).tracker.activeCompositors := by
  induction elements generalizing presences with
  | nil => exact ⟨presences, rfl, fun _ => rfl⟩
  | cons element rest inductionHypothesis =>
    rw [report]
    cases tracker : element.tracker with
    | none => exact inductionHypothesis known
    | some reported =>
      obtain ⟨later, acted, same⟩ := acts _ (known reported)
      have active (id : SurfaceID) :
          (Function.update presences reported later id).tracker.activeCompositors =
            (presences id).tracker.activeCompositors := by
        by_cases equal : id = reported
        · subst equal
          rw [Function.update_self, same]
        · rw [Function.update_of_ne equal]
      obtain ⟨after, done, kept⟩ := inductionHypothesis fun id => (active id) ▸ known id
      simp only [acted]
      exact ⟨after, done, fun id => (kept id).trans (active id)⟩

end Report

/-! ### What one report does -/

namespace Presence

@[simp] theorem setVisibility_tracker (presence : Presence) (new : WindowVisibility) :
    (presence.setVisibility new).tracker = presence.tracker := by
  unfold setVisibility
  split <;> rfl

@[simp] theorem setVisibility_configured (presence : Presence) (new : WindowVisibility) :
    (presence.setVisibility new).configured = new :: presence.configured := by
  unfold setVisibility
  split <;> rfl

/-- A compositor the tracker knows may report. -/
theorem occludedIn_ok (cid : CompositorID) (presence : Presence)
    (known : cid ∈ presence.tracker.activeCompositors) :
    ∃ later, presence.occludedIn cid = .ok later ∧
      later.tracker.activeCompositors = presence.tracker.activeCompositors := by
  unfold occludedIn
  rw [if_neg (not_not.mpr known)]
  simp only
  split
  · exact ⟨_, rfl, by simp⟩
  · exact ⟨_, rfl, rfl⟩

theorem renderedIn_ok (cid : CompositorID) (presence : Presence)
    (known : cid ∈ presence.tracker.activeCompositors) :
    ∃ later, presence.renderedIn cid = .ok later ∧
      later.tracker.activeCompositors = presence.tracker.activeCompositors := by
  unfold renderedIn
  rw [if_neg (not_not.mpr known)]
  exact ⟨_, rfl, by simp⟩

/-- The surface is occluded for every active compositor as soon as this one finds it so. -/
def WouldOcclude (cid : CompositorID) (presence : Presence) : Prop :=
  insert cid presence.tracker.occlusions = presence.tracker.activeCompositors

/-- A report of an occlusion configures the surface as occluded exactly when no other active
compositor shows it; otherwise it only takes note. -/
theorem occludedIn_eq {cid : CompositorID} {presence later : Presence}
    (done : presence.occludedIn cid = .ok later) :
    later.tracker = { presence.tracker with
        occlusions := insert cid presence.tracker.occlusions } ∧
      (presence.WouldOcclude cid → WindowVisibility.occluded ∈ later.configured) ∧
      (¬ presence.WouldOcclude cid → later.configured = presence.configured ∧
        later.visibility = presence.visibility ∧
        later.attribChanged = presence.attribChanged ∧
        later.dropOldBuffers = presence.dropOldBuffers) := by
  unfold occludedIn at done
  split at done
  · cases done
  · simp only at done
    split at done
    · rename_i everywhere
      cases done
      exact ⟨by simp, fun _ => by simp, fun elsewhere => absurd everywhere elsewhere⟩
    · rename_i elsewhere
      cases done
      exact ⟨rfl, fun everywhere => absurd everywhere elsewhere, fun _ => ⟨rfl, rfl, rfl, rfl⟩⟩

/-- A report of a rendering configures the surface as exposed, which says nothing new about a
surface that is exposed. -/
theorem renderedIn_eq {cid : CompositorID} {presence later : Presence}
    (done : presence.renderedIn cid = .ok later) :
    later.configured = .exposed :: presence.configured ∧ later.visibility = .exposed ∧
      (presence.visibility = .exposed → later.attribChanged = presence.attribChanged ∧
        later.dropOldBuffers = presence.dropOldBuffers) := by
  unfold renderedIn at done
  split at done
  · cases done
  · cases done
    refine ⟨by simp, ?_, fun exposed => by simp [setVisibility, exposed]⟩
    unfold setVisibility
    simp only
    split
    · assumption
    · rfl

theorem wouldOcclude_occludedIn {cid : CompositorID} {presence later : Presence}
    (done : presence.occludedIn cid = .ok later) :
    later.WouldOcclude cid ↔ presence.WouldOcclude cid := by
  unfold WouldOcclude
  rw [(occludedIn_eq done).1, Finset.insert_idem]

end Presence

/-! ### A composite pass -/

namespace SurfaceStack

variable (stack : SurfaceStack) (cid : CompositorID) (viewArea : Rectangle) (id : SurfaceID)

/-- The pass may tell the surface that it is occluded: some element of it is, and no other active
compositor shows the surface. -/
def MayOcclude : Prop :=
  Reports (stack.occlusions viewArea) id ∧ (stack.beganFrame id).WouldOcclude cid

/-- After the occluded elements have been reported the surface was configured as occluded exactly
when it may be; otherwise nothing about it has changed. -/
theorem report_occlusions {middle : SurfaceID → Presence}
    (done : report (Presence.occludedIn cid) (stack.occlusions viewArea) stack.beganFrame =
      .ok middle) :
    (stack.MayOcclude cid viewArea id →
      WindowVisibility.occluded ∈ (middle id).configured) ∧
    (¬ stack.MayOcclude cid viewArea id → (middle id).configured = [] ∧
      (middle id).visibility = stack.visibility id ∧ (middle id).attribChanged = [] ∧
      (middle id).dropOldBuffers = 0) := by
  constructor
  · rintro ⟨reports, everywhere⟩
    refine report_establishes (Presence.WouldOcclude cid)
      (fun presence => .occluded ∈ presence.configured) done reports ?_ ?_ everywhere
    · intro presence later known acted
      exact (Presence.wouldOcclude_occludedIn acted).mpr known
    · intro presence later known acted
      exact (Presence.occludedIn_eq acted).2.1 known
  · intro spared
    by_cases reports : Reports (stack.occlusions viewArea) id
    · have elsewhere : ¬ (stack.beganFrame id).WouldOcclude cid := fun everywhere =>
        spared ⟨reports, everywhere⟩
      refine (report_preserves (fun presence => ¬ presence.WouldOcclude cid ∧
        presence.configured = [] ∧ presence.visibility = stack.visibility id ∧
        presence.attribChanged = [] ∧ presence.dropOldBuffers = 0) done ?_
        ⟨elsewhere, rfl, rfl, rfl, rfl⟩).2
      rintro presence later ⟨apart, silent, same, quiet, kept⟩ acted
      obtain ⟨configured, visibility, changed, dropped⟩ :=
        (Presence.occludedIn_eq acted).2.2 apart
      exact ⟨fun everywhere => apart ((Presence.wouldOcclude_occludedIn acted).mp everywhere),
        configured.trans silent, visibility.trans same, changed.trans quiet, dropped.trans kept⟩
    · rw [report_unreported done reports]
      exact ⟨rfl, rfl, rfl, rfl⟩

/-- Reporting what was rendered leaves the surface exposed, adds no occlusion to the record, and
is silent about a surface that was exposed. -/
theorem report_rendered {middle after : SurfaceID → Presence}
    (done : report (Presence.renderedIn cid) (stack.rendered viewArea) middle = .ok after)
    (shown : Reports (stack.rendered viewArea) id) :
    (after id).visibility = .exposed ∧
    (WindowVisibility.occluded ∈ (after id).configured ↔
      WindowVisibility.occluded ∈ (middle id).configured) ∧
    ((middle id).visibility = .exposed → (middle id).attribChanged = [] →
      (middle id).dropOldBuffers = 0 →
      (after id).attribChanged = [] ∧ (after id).dropOldBuffers = 0) := by
  refine ⟨?_, ⟨?_, ?_⟩, fun exposed quiet kept => ?_⟩
  · exact report_establishes (fun _ => True) (fun presence => presence.visibility = .exposed) done
      shown (fun _ _ _ _ => trivial) (fun _ _ _ acted => (Presence.renderedIn_eq acted).2.1) trivial
  · refine not_imp_not.mp (report_preserves
      (fun presence => .occluded ∉ presence.configured) done fun presence later absent acted => ?_)
    rw [(Presence.renderedIn_eq acted).1]
    simpa using absent
  · refine report_preserves (fun presence => .occluded ∈ presence.configured) done
      fun presence later present acted => ?_
    rw [(Presence.renderedIn_eq acted).1]
    exact List.mem_cons_of_mem _ present
  · refine (report_preserves (fun presence => presence.visibility = .exposed ∧
      presence.attribChanged = [] ∧ presence.dropOldBuffers = 0) done ?_
      ⟨exposed, quiet, kept⟩).2
    rintro presence later ⟨seen, silent, none⟩ acted
    obtain ⟨-, still, nothing⟩ := Presence.renderedIn_eq acted
    obtain ⟨changed, dropped⟩ := nothing seen
    exact ⟨still, changed.trans silent, dropped.trans none⟩

/-- A composite pass of a registered compositor that shows some element of a surface leaves the
surface exposed. It never configures it as occluded on the way exactly when it finds no element of
it occluded, or another active compositor shows it; then, if the surface was exposed before, the
observers are told nothing and no old buffers are dropped. -/
theorem composite_never_occluded_iff (registered : cid ∈ stack.registeredCompositors)
    (shown : Reports (stack.rendered viewArea) id) :
    ∃ after, stack.composite cid viewArea = .ok after ∧ (after id).visibility = .exposed ∧
      (WindowVisibility.occluded ∉ (after id).configured ↔
        ¬ Reports (stack.occlusions viewArea) id ∨
          insert cid (stack.tracker id).occlusions ≠ (stack.tracker id).activeCompositors) ∧
      (WindowVisibility.occluded ∉ (after id).configured → stack.visibility id = .exposed →
        (after id).attribChanged = [] ∧ (after id).dropOldBuffers = 0) := by
  have active (other : SurfaceID) :
      cid ∈ (stack.beganFrame other).tracker.activeCompositors := by
    show cid ∈ (stack.tracker other).activeCompositors
    rw [stack.tracked]
    exact registered
  obtain ⟨middle, occluded, kept⟩ := report_ok (stack.occlusions viewArea)
    (Presence.occludedIn_ok cid) active
  obtain ⟨after, rendered, -⟩ := report_ok (stack.rendered viewArea)
    (Presence.renderedIn_ok cid) fun other => (kept other) ▸ active other
  obtain ⟨tells, spares⟩ := stack.report_occlusions cid viewArea id occluded
  obtain ⟨exposed, same, silent⟩ := stack.report_rendered cid viewArea id rendered shown
  have exact : WindowVisibility.occluded ∈ (after id).configured ↔
      stack.MayOcclude cid viewArea id := by
    rw [same]
    refine ⟨fun told => ?_, tells⟩
    by_contra spared
    rw [(spares spared).1] at told
    cases told
  refine ⟨after, ?_, exposed, ?_, fun never before => ?_⟩
  · rw [composite, occluded]
    exact rendered
  · rw [exact, MayOcclude, not_and_or]
    rfl
  · obtain ⟨-, visibility, quiet, none⟩ := spares (mt exact.mpr never)
    exact silent (visibility.trans before) quiet none

end SurfaceStack

/-- A surface that is exposed on the only monitor, and its layers. -/
def oneSurface (layers : List StreamInfo) : SurfaceStack where
  surfaces := [⟨7, false, ⟨0, 0⟩, 1, 1, layers⟩]
  overlays := []
  registeredCompositors := {1}
  tracker _ := ⟨∅, {1}⟩
  visibility _ := .exposed
  tracked _ := rfl

/-- Two layers side by side. -/
def sideBySide : List StreamInfo :=
  [⟨true, ⟨10, 10⟩, false, ⟨0, 0⟩, none⟩, ⟨true, ⟨10, 10⟩, false, ⟨10, 0⟩, none⟩]

theorem composite_never_occluded_sideBySide :
    ∃ after, (oneSurface sideBySide).composite 1 ⟨⟨0, 0⟩, ⟨100, 100⟩⟩ = .ok after ∧
      (after 7).attribChanged = [] ∧ (after 7).dropOldBuffers = 0 := by
  have shown : Reports ((oneSurface sideBySide).rendered ⟨⟨0, 0⟩, ⟨100, 100⟩⟩) 7 :=
    ⟨_, List.mem_cons_self, rfl⟩
  have nothing : (oneSurface sideBySide).occlusions ⟨⟨0, 0⟩, ⟨100, 100⟩⟩ = [] := by rfl
  obtain ⟨after, done, -, exact, silent⟩ :=
    (oneSurface sideBySide).composite_never_occluded_iff 1 ⟨⟨0, 0⟩, ⟨100, 100⟩⟩ 7
      (by decide) shown
  refine ⟨after, done, silent (exact.mpr (Or.inl ?_)) rfl⟩
  rw [nothing]
  rintro ⟨element, member, -⟩
  cases member

/-- A layer behind another one of the same surface. -/
def oneBehind : List StreamInfo :=
  [⟨true, ⟨10, 10⟩, false, ⟨5, 5⟩, none⟩, ⟨true, ⟨50, 50⟩, false, ⟨0, 0⟩, none⟩]

/-- A surface whose front layer is shown is told that it is occluded because of the layer behind
it, and then that it is exposed, and its streams drop their old buffers. -/
theorem composite_occludes_shown_surface :
    ¬ ∀ (stack : SurfaceStack) (cid : CompositorID) (viewArea : Rectangle) (id : SurfaceID),
      cid ∈ stack.registeredCompositors → Reports (stack.rendered viewArea) id →
      ∃ after, stack.composite cid viewArea = .ok after ∧
        WindowVisibility.occluded ∉ (after id).configured := by
  intro claimed
  have shown : Reports ((oneSurface oneBehind).rendered ⟨⟨0, 0⟩, ⟨100, 100⟩⟩) 7 :=
    ⟨_, List.mem_cons_self, rfl⟩
  obtain ⟨after, done, never⟩ :=
    claimed (oneSurface oneBehind) 1 ⟨⟨0, 0⟩, ⟨100, 100⟩⟩ 7 (by decide) shown
  have told : ((oneSurface oneBehind).composite 1 ⟨⟨0, 0⟩, ⟨100, 100⟩⟩).toOption.map
      (fun presences => (presences 7).configured) = some [.exposed, .occluded] := by rfl
  rw [done] at told
  have both : (after 7).configured = [.exposed, .occluded] := Option.some.inj told
  rw [both] at never
  exact never (by decide)

end Mir.Scene

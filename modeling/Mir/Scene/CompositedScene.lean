/-
This file embeds the stack of surfaces together with the threads that composite it, while other
threads add, remove, raise and change surfaces. A compositor is registered with the stack, takes
sequences of elements from it, reports of each that it is occluded or rendered, asks which surfaces
are exposed to it, and is unregistered. The lock of the stack is held while the trackers are told of
the compositors one after another; the reports do not take that lock, and come in between.

It proves that in every order of these steps no tracker hears of a compositor that it does not know,
that there is a tracker for each surface of the stack and for no other, which knows the registered
compositors, and that a surface is exposed as long as a registered compositor last rendered it, and
not longer than until each has found it occluded.
-/

import Mir.Library.Crew
import Mir.Scene.Visibility

namespace Mir.Scene

open Compositor Mir.Geometry

/-! ### The threads -/

/-- The compositor of a display buffer, which shows an area of the display. -/
structure DisplayBufferCompositor where
  id : CompositorID
  viewArea : Rectangle
  deriving DecidableEq

/-- Where a compositing thread is: how many of its compositors it has registered, has composited
for, has counted the pending frames of or has unregistered, and the elements that it has yet to
report as occluded and as rendered. -/
inductive CompositingPhase
  | registering (count : Nat)
  | waiting
  | compositing (count : Nat)
  | reporting (count : Nat) (cid : CompositorID) (occlusions rendered : List SceneElement)
  | counting (count : Nat)
  | unregistering (count : Nat)

structure CompositingThread where
  compositors : List DisplayBufferCompositor
  phase : CompositingPhase

namespace CompositingThread

def ids (thread : CompositingThread) : List CompositorID :=
  thread.compositors.map DisplayBufferCompositor.id

/-- The compositors that the thread has registered and not yet unregistered. -/
def registered (thread : CompositingThread) : List CompositorID :=
  match thread.phase with
  | .registering count => thread.ids.take count
  | .unregistering count => thread.ids.drop count
  | _ => thread.ids

/-- The compositors are destroyed when all are unregistered. -/
def living (thread : CompositingThread) : List CompositorID :=
  match thread.phase with
  | .unregistering count => if thread.ids.length ≤ count then [] else thread.ids
  | _ => thread.ids

end CompositingThread

/-- What a compositor last told a tracker. -/
inductive Report
  | occluded
  | rendered
  deriving DecidableEq

/-- The stack with the surfaces of it, the bottom one first, and the presence of every surface that
there ever was. `updating` are the trackers that are still to be told of the registered compositors
by the thread that has the lock, and `lastReport` is what a tracker has last been told by a
compositor since that was registered. A surface has as its identity how many were made before. -/
structure CompositedScene where
  surfaces : List Surface
  overlays : List Renderable
  made : Nat
  renderingTrackers : List SurfaceID
  presence : SurfaceID → Presence
  registeredCompositors : Finset CompositorID
  updating : List SurfaceID
  threads : List CompositingThread
  lastReport : SurfaceID → CompositorID → Option Report
  thrown : Option TrackerError

/-- The tracker hears of the compositors there are. -/
def Presence.activate (cids : Finset CompositorID) (presence : Presence) : Presence :=
  let told : Presence :=
    { presence with
      tracker :=
        { occlusions := cids ∩ presence.tracker.occlusions
          activeCompositors := cids } }
  if told.tracker.occlusions = told.tracker.activeCompositors then
    told.setVisibility .occluded
  else told

/-- Whether a compositor that the tracker knows would show the surface. -/
def Presence.isExposedIn (cid : CompositorID) (presence : Presence) : Except TrackerError Bool :=
  if cid ∉ presence.tracker.activeCompositors then .error .noActiveCompositor
  else .ok (decide (cid ∉ presence.tracker.occlusions))

/-- The tracker hears a report of a compositor. -/
def Presence.hear (cid : CompositorID) (told : Report) (presence : Presence) :
    Except TrackerError Presence :=
  match told with
  | .occluded => presence.occludedIn cid
  | .rendered => presence.renderedIn cid

/-- A surface has just been made: it is occluded, and its tracker knows of nothing. -/
def Presence.initial : Presence where
  tracker := ⟨∅, ∅⟩
  visibility := .occluded
  configured := []
  attribChanged := []
  dropOldBuffers := 0

namespace CompositedScene

def initial : CompositedScene where
  surfaces := []
  overlays := []
  made := 0
  renderingTrackers := []
  presence := fun _ => .initial
  registeredCompositors := ∅
  updating := []
  threads := []
  lastReport := fun _ _ => none
  thrown := none

/-! ### What the stack does -/

def addSurface (surface : Surface) (scene : CompositedScene) : CompositedScene :=
  { scene with
    surfaces := scene.surfaces ++ [{ surface with id := scene.made }]
    made := scene.made + 1
    renderingTrackers := scene.renderingTrackers ++ [scene.made]
    presence := Function.update scene.presence scene.made
      (Presence.initial.activate scene.registeredCompositors) }

def removeSurface (id : SurfaceID) (scene : CompositedScene) : CompositedScene :=
  if id ∈ scene.surfaces.map Surface.id then
    { scene with
      surfaces := scene.surfaces.eraseP fun surface => surface.id = id
      renderingTrackers := scene.renderingTrackers.erase id }
  else scene

/-- A surface is brought to the top. One that is not there is refused. -/
def raise (id : SurfaceID) (scene : CompositedScene) : CompositedScene :=
  match scene.surfaces.find? fun surface => surface.id = id with
  | none => scene
  | some surface =>
    { scene with
      surfaces := scene.surfaces.eraseP (fun surface => surface.id = id) ++ [surface] }

/-- Some surfaces are brought to the top, in the order they are in. -/
def raiseAll (ids : List SurfaceID) (scene : CompositedScene) : CompositedScene :=
  { scene with
    surfaces := scene.surfaces.filter (fun surface => surface.id ∉ ids) ++
      scene.surfaces.filter fun surface => surface.id ∈ ids }

/-- Something about a surface itself changes: it is hidden, moved, or has a buffer. -/
def changeSurface (changed : Surface) (scene : CompositedScene) : CompositedScene :=
  { scene with
    surfaces := scene.surfaces.map fun surface =>
      if surface.id = changed.id then changed else surface }

/-- The set of compositors has changed, and all trackers are to be told. -/
def updateRenderingTrackerCompositors (scene : CompositedScene) : CompositedScene :=
  { scene with updating := scene.renderingTrackers }

def registerCompositor (cid : CompositorID) (scene : CompositedScene) : CompositedScene :=
  updateRenderingTrackerCompositors
    { scene with
      registeredCompositors := insert cid scene.registeredCompositors
      lastReport := fun id => Function.update (scene.lastReport id) cid none }

def unregisterCompositor (cid : CompositorID) (scene : CompositedScene) : CompositedScene :=
  updateRenderingTrackerCompositors
    { scene with registeredCompositors := scene.registeredCompositors.erase cid }

/-- The next tracker is told. -/
def updateNext (scene : CompositedScene) : CompositedScene :=
  match scene.updating with
  | [] => scene
  | id :: rest =>
    { scene with
      presence := Function.update scene.presence id
        ((scene.presence id).activate scene.registeredCompositors)
      updating := rest }

/-- The elements of the scene, the bottom one first. -/
def sceneElementsFor (scene : CompositedScene) : List SceneElement :=
  (scene.surfaces.filter Surface.visible).flatMap (fun surface =>
      surface.generateRenderables.map fun renderable => ⟨renderable, some surface.id⟩) ++
    scene.overlays.map fun renderable => ⟨renderable, none⟩

/-- The visible surfaces a compositor would show, of which it is asked how many frames they have.
One that has no tracker is passed over. -/
def exposedTo (cid : CompositorID) (scene : CompositedScene) :
    List Surface → Except TrackerError (List Surface)
  | [] => .ok []
  | surface :: rest =>
    if surface.visible ∧ surface.id ∈ scene.renderingTrackers then
      match (scene.presence surface.id).isExposedIn cid with
      | .error error => .error error
      | .ok exposed =>
        match exposedTo cid scene rest with
        | .error error => .error error
        | .ok others => .ok (if exposed then surface :: others else others)
    else exposedTo cid scene rest

/-- An element reports to its tracker, if it has one. -/
def report (cid : CompositorID) (told : Report) (element : SceneElement)
    (scene : CompositedScene) : CompositedScene :=
  match element.tracker with
  | none => scene
  | some id =>
    match (scene.presence id).hear cid told with
    | .error error => { scene with thrown := some error }
    | .ok presence =>
      { scene with
        presence := Function.update scene.presence id presence
        lastReport := Function.update scene.lastReport id
          (Function.update (scene.lastReport id) cid (some told)) }

/-! ### Steps -/

/-- Each section that a lock protects is a step. `changeOverlays` stands for the spots and other
input visualizations, which may be replaced. A thread that waits is either woken up to composite or
left by its loop. -/
inductive Op
  | addSurface (surface : Surface)
  | removeSurface (id : SurfaceID)
  | raise (id : SurfaceID)
  | raiseAll (ids : List SurfaceID)
  | changeSurface (changed : Surface)
  | changeOverlays (overlays : List Renderable)
  | updateNext
  | startThread (compositors : List DisplayBufferCompositor)
  | wakeUp (place : Nat)
  | leave (place : Nat)
  | advance (place : Nat)

def setPhase (place : Nat) (thread : CompositingThread) (phase : CompositingPhase)
    (scene : CompositedScene) : CompositedScene :=
  { scene with threads := scene.threads.set place { thread with phase } }

/-- Who needs the lock of the stack waits until the trackers have been told. -/
def locking (act : CompositedScene → CompositedScene) (scene : CompositedScene) :
    CompositedScene :=
  match scene.updating with
  | [] => act scene
  | _ :: _ => scene

/-- All compositors that there are. -/
def allCompositors (scene : CompositedScene) : List CompositorID :=
  scene.threads.flatMap CompositingThread.living

/-- The next step of a compositing thread. -/
def advance (place : Nat) (thread : CompositingThread) (scene : CompositedScene) :
    CompositedScene :=
  match thread.phase with
  | .registering count =>
    match thread.compositors[count]? with
    | none => scene.setPhase place thread .waiting
    | some compositor =>
      scene.locking fun scene =>
        (scene.registerCompositor compositor.id).setPhase place thread (.registering (count + 1))
  | .waiting => scene
  | .compositing count =>
    match thread.compositors[count]? with
    | none => scene.setPhase place thread (.counting 0)
    | some compositor =>
      scene.locking fun scene =>
        let filtered := filterOcclusionsFrom SceneElement.renderable compositor.viewArea
          scene.sceneElementsFor
        scene.setPhase place thread (.reporting count compositor.id filtered.2 filtered.1)
  | .reporting count cid (element :: rest) rendered =>
    (scene.report cid .occluded element).setPhase place thread
      (.reporting count cid rest rendered)
  | .reporting count cid [] (element :: rest) =>
    (scene.report cid .rendered element).setPhase place thread (.reporting count cid [] rest)
  | .reporting count _ [] [] => scene.setPhase place thread (.compositing (count + 1))
  | .counting count =>
    match thread.compositors[count]? with
    | none => scene.setPhase place thread .waiting
    | some compositor =>
      scene.locking fun scene =>
        match scene.exposedTo compositor.id scene.surfaces with
        | .error error => { scene with thrown := some error }
        | .ok _ => scene.setPhase place thread (.counting (count + 1))
  | .unregistering count =>
    match thread.compositors[count]? with
    | none => scene
    | some compositor =>
      scene.locking fun scene =>
        (scene.unregisterCompositor compositor.id).setPhase place thread
          (.unregistering (count + 1))

/-- A thread that waits goes on. -/
def goOn (place : Nat) (phase : CompositingPhase) (scene : CompositedScene) : CompositedScene :=
  match scene.threads[place]? with
  | none => scene
  | some thread =>
    match thread.phase with
    | .waiting => scene.setPhase place thread phase
    | _ => scene

/-- No two living compositors are at one address. -/
def startThread (compositors : List DisplayBufferCompositor) (scene : CompositedScene) :
    CompositedScene :=
  if (compositors.map DisplayBufferCompositor.id ++ scene.allCompositors).Nodup then
    { scene with threads := scene.threads ++ [⟨compositors, .registering 0⟩] }
  else scene

def step (scene : CompositedScene) : Op → CompositedScene
  | .addSurface surface => scene.locking (addSurface surface)
  | .removeSurface id => scene.locking (removeSurface id)
  | .raise id => scene.locking (raise id)
  | .raiseAll ids => scene.locking (raiseAll ids)
  | .changeSurface changed => scene.changeSurface changed
  | .changeOverlays overlays => scene.locking fun scene => { scene with overlays }
  | .updateNext => scene.updateNext
  | .startThread compositors => scene.startThread compositors
  | .wakeUp place => scene.goOn place (.compositing 0)
  | .leave place => scene.goOn place (.unregistering 0)
  | .advance place =>
    match scene.threads[place]? with
    | none => scene
    | some thread => scene.advance place thread

end CompositedScene

/-! ### What a tracker makes of what it hears -/

namespace Presence

/-- The tracker has noted the occlusions that it was last told of. The surface is occluded if all
compositors said so, and exposed if one rendered it. -/
structure Follows (last : CompositorID → Option Report) (presence : Presence) : Prop where
  occlusions : ∀ cid, cid ∈ presence.tracker.occlusions ↔
    cid ∈ presence.tracker.activeCompositors ∧ last cid = some .occluded
  occluded : presence.tracker.occlusions = presence.tracker.activeCompositors →
    presence.visibility = .occluded
  exposed : ∀ cid ∈ presence.tracker.activeCompositors, last cid = some .rendered →
    presence.visibility = .exposed

variable {presence later : Presence} {last : CompositorID → Option Report}
  {cid : CompositorID} {cids : Finset CompositorID}

@[simp] theorem setVisibility_visibility (presence : Presence) (new : WindowVisibility) :
    (presence.setVisibility new).visibility = new := by
  unfold setVisibility
  split
  · assumption
  · rfl

theorem activate_tracker (presence : Presence) (cids : Finset CompositorID) :
    (presence.activate cids).tracker = ⟨cids ∩ presence.tracker.occlusions, cids⟩ := by
  unfold activate
  dsimp only
  split
  · rw [setVisibility_tracker]
  · rfl

/-- While it is not occluded everywhere the surface stays as it was. -/
theorem activate_visibility (presence : Presence) (cids : Finset CompositorID) :
    (presence.activate cids).visibility =
      if cids ∩ presence.tracker.occlusions = cids then .occluded else presence.visibility := by
  unfold activate
  dsimp only
  split
  · rw [setVisibility_visibility]
  · rfl

namespace Follows

/-- The compositors that the tracker hears of for the first time have not reported. -/
theorem activate (follows : presence.Follows last)
    (unheard : ∀ cid ∈ cids, cid ∉ presence.tracker.activeCompositors → last cid = none) :
    (presence.activate cids).Follows last := by
  have isKnown : ∀ cid ∈ cids, ∀ told, last cid = some told →
      cid ∈ presence.tracker.activeCompositors := by
    intro cid member told isTold
    by_contra unknown
    rw [unheard cid member unknown] at isTold
    cases isTold
  have noted : ∀ cid, cid ∈ cids ∩ presence.tracker.occlusions ↔
      cid ∈ cids ∧ last cid = some .occluded := by
    intro cid
    rw [Finset.mem_inter, follows.occlusions]
    exact ⟨fun ⟨member, _, isTold⟩ => ⟨member, isTold⟩,
      fun ⟨member, isTold⟩ => ⟨member, isKnown cid member _ isTold, isTold⟩⟩
  refine ⟨?_, ?_, ?_⟩
  · rw [activate_tracker]
    exact noted
  · rw [activate_tracker, activate_visibility]
    exact fun everywhere => if_pos everywhere
  · rw [activate_tracker, activate_visibility]
    intro cid member isRendered
    rw [if_neg]
    · exact follows.exposed cid (isKnown cid member _ isRendered) isRendered
    · intro everywhere
      have isOccluded := ((noted cid).mp (everywhere.symm ▸ member)).2
      rw [isRendered] at isOccluded
      cases isOccluded

theorem occludedIn (follows : presence.Follows last)
    (done : presence.occludedIn cid = .ok later) :
    later.Follows (Function.update last cid (some .occluded)) := by
  unfold Presence.occludedIn at done
  split at done
  · cases done
  · rename_i known
    rw [not_not] at known
    have noted : ∀ other, other ∈ insert cid presence.tracker.occlusions ↔
        other ∈ presence.tracker.activeCompositors ∧
          Function.update last cid (some Report.occluded) other = some .occluded := by
      intro other
      rw [Finset.mem_insert, follows.occlusions]
      by_cases same : other = cid
      · subst same
        rw [Function.update_self]
        exact ⟨fun _ => ⟨known, rfl⟩, fun _ => Or.inl rfl⟩
      · rw [Function.update_of_ne same]
        exact ⟨fun either => either.resolve_left same, Or.inr⟩
    have wasRendered : ∀ other,
        Function.update last cid (some Report.occluded) other = some .rendered →
          last other = some .rendered := by
      intro other isRendered
      by_cases same : other = cid
      · rw [same, Function.update_self] at isRendered
        cases isRendered
      · rwa [Function.update_of_ne same] at isRendered
    dsimp only at done
    split at done
    · rename_i everywhere
      cases done
      refine ⟨?_, fun _ => setVisibility_visibility _ _, fun other member isRendered => ?_⟩
      · rw [setVisibility_tracker]
        exact noted
      · rw [setVisibility_tracker] at member
        have isOccluded := ((noted other).mp (everywhere.symm ▸ member)).2
        rw [isRendered] at isOccluded
        cases isOccluded
    · rename_i elsewhere
      cases done
      exact ⟨noted, fun everywhere => absurd everywhere elsewhere,
        fun other member isRendered => follows.exposed other member (wasRendered other isRendered)⟩

theorem renderedIn (follows : presence.Follows last)
    (done : presence.renderedIn cid = .ok later) :
    later.Follows (Function.update last cid (some .rendered)) := by
  unfold Presence.renderedIn at done
  split at done
  · cases done
  · rename_i known
    rw [not_not] at known
    cases done
    refine ⟨fun other => ?_, fun everywhere => ?_, fun _ _ _ => setVisibility_visibility _ _⟩
    · rw [setVisibility_tracker]
      show other ∈ presence.tracker.occlusions.erase cid ↔ _
      rw [Finset.mem_erase, follows.occlusions]
      by_cases same : other = cid
      · subst same
        rw [Function.update_self]
        exact ⟨fun noted => absurd rfl noted.1, fun told => by cases told.2⟩
      · rw [Function.update_of_ne same]
        exact ⟨And.right, fun noted => ⟨same, noted⟩⟩
    · rw [setVisibility_tracker] at everywhere
      have member : cid ∈ presence.tracker.occlusions.erase cid := by
        rw [show presence.tracker.occlusions.erase cid = presence.tracker.activeCompositors from
          everywhere]
        exact known
      exact absurd member (Finset.notMem_erase cid _)

/-- What a compositor that the tracker does not know has said does not matter. -/
theorem forget (follows : presence.Follows last)
    (unknown : cid ∉ presence.tracker.activeCompositors) :
    presence.Follows (Function.update last cid none) := by
  have different : ∀ other ∈ presence.tracker.activeCompositors,
      Function.update last cid none other = last other := by
    intro other member
    rw [Function.update_of_ne]
    rintro rfl
    exact unknown member
  refine ⟨fun other => ?_, follows.occluded, fun other member isRendered => ?_⟩
  · rw [follows.occlusions]
    exact and_congr_right fun member => by rw [different other member]
  · rw [different other member] at isRendered
    exact follows.exposed other member isRendered

theorem hear (follows : presence.Follows last) {told : Report}
    (done : presence.hear cid told = .ok later) :
    later.Follows (Function.update last cid (some told)) := by
  cases told with
  | occluded => exact follows.occludedIn done
  | rendered => exact follows.renderedIn done

end Follows

theorem hear_ok (told : Report) (known : cid ∈ presence.tracker.activeCompositors) :
    ∃ later, presence.hear cid told = .ok later ∧
      later.tracker.activeCompositors = presence.tracker.activeCompositors := by
  cases told with
  | occluded => exact occludedIn_ok cid presence known
  | rendered => exact renderedIn_ok cid presence known

end Presence

namespace CompositingThread

variable {thread : CompositingThread} {count : Nat}

/-- All compositors of the thread are there and registered. -/
structure Serves (thread : CompositingThread) : Prop where
  living : thread.living = thread.ids
  registered : thread.registered = thread.ids

namespace Serves

theorem of_phase {phase : CompositingPhase} (isAt : thread.phase = phase)
    (serves : ({ thread with phase } : CompositingThread).Serves) : thread.Serves := by
  subst isAt
  exact serves

theorem registering (isLast : thread.ids.length ≤ count) :
    ({ thread with phase := .registering count } : CompositingThread).Serves :=
  ⟨rfl, List.take_of_length_le isLast⟩

theorem unregistering : ({ thread with phase := .unregistering 0 } : CompositingThread).Serves := by
  refine ⟨?_, rfl⟩
  show (if thread.ids.length ≤ 0 then [] else thread.ids) = thread.ids
  split
  · exact (List.length_eq_zero_iff.mp (Nat.le_zero.mp ‹_›)).symm
  · rfl

end Serves

end CompositingThread

namespace CompositedScene

variable {scene : CompositedScene} {place : Nat} {thread : CompositingThread}

/-! ### What every step keeps -/

/-- There is a tracker for each surface of the stack, none of which is there twice. -/
structure Keyed (scene : CompositedScene) : Prop where
  trackers : scene.renderingTrackers.Perm (scene.surfaces.map Surface.id)
  nodup : (scene.surfaces.map Surface.id).Nodup
  older : ∀ id ∈ scene.renderingTrackers, id < scene.made
  updating : ∀ id ∈ scene.updating, id ∈ scene.renderingTrackers

/-- No compositor is there twice, and those that the threads have registered are registered. -/
structure Enrolled (scene : CompositedScene) : Prop where
  apart : scene.allCompositors.Nodup
  registered : ∀ cid, cid ∈ scene.registeredCompositors ↔
    cid ∈ scene.threads.flatMap CompositingThread.registered
  own : ∀ thread ∈ scene.threads, ∀ count cid occlusions rendered,
    thread.phase = .reporting count cid occlusions rendered → cid ∈ thread.ids

/-- A tracker that need not be told knows the registered compositors, the others have not heard of
those that they do not know, and what the threads have to report is for trackers that know them. -/
structure Informed (scene : CompositedScene) : Prop where
  unthrown : scene.thrown = none
  current : ∀ id ∈ scene.renderingTrackers, id ∉ scene.updating →
    (scene.presence id).tracker.activeCompositors = scene.registeredCompositors
  unheard : ∀ id ∈ scene.renderingTrackers, ∀ cid ∈ scene.registeredCompositors,
    cid ∉ (scene.presence id).tracker.activeCompositors → scene.lastReport id cid = none
  follows : ∀ id ∈ scene.renderingTrackers, (scene.presence id).Follows (scene.lastReport id)
  hands : ∀ thread ∈ scene.threads, ∀ count cid occlusions rendered,
    thread.phase = .reporting count cid occlusions rendered →
      ∀ element ∈ occlusions ++ rendered, ∀ id, element.tracker = some id →
        id < scene.made ∧ cid ∈ (scene.presence id).tracker.activeCompositors
  silent : ∀ id, scene.made ≤ id → ∀ cid, scene.lastReport id cid = none

structure Sound (scene : CompositedScene) : Prop where
  keyed : scene.Keyed
  enrolled : scene.Enrolled
  informed : scene.Informed

theorem initial_sound : initial.Sound := by
  refine ⟨⟨.nil, List.nodup_nil, ?_, ?_⟩, ⟨List.nodup_nil, fun cid => ?_, ?_⟩,
    ⟨rfl, ?_, ?_, ?_, ?_, fun _ _ _ => rfl⟩⟩
  case refine_3 =>
    exact ⟨fun member => absurd member (Finset.notMem_empty cid),
      fun member => absurd member List.not_mem_nil⟩
  all_goals rintro _ ⟨⟩

theorem locking_keeps {property : CompositedScene → Prop} {act : CompositedScene → CompositedScene}
    (holds : property scene) (acts : scene.updating = [] → property (act scene)) :
    property (scene.locking act) := by
  unfold locking
  split
  · exact acts ‹_›
  · exact holds

/-! ### Surfaces come and go -/

/-- The surfaces are others, or in another order, and have the same identities. -/
theorem Sound.ofSurfaces (sound : scene.Sound) {surfaces : List Surface}
    (same : (surfaces.map Surface.id).Perm (scene.surfaces.map Surface.id)) :
    { scene with surfaces }.Sound where
  keyed :=
    { trackers := sound.keyed.trackers.trans same.symm
      nodup := same.nodup_iff.mpr sound.keyed.nodup
      older := sound.keyed.older
      updating := sound.keyed.updating }
  enrolled := ⟨sound.enrolled.apart, sound.enrolled.registered, sound.enrolled.own⟩
  informed :=
    { unthrown := sound.informed.unthrown
      current := sound.informed.current
      unheard := sound.informed.unheard
      follows := sound.informed.follows
      hands := sound.informed.hands
      silent := sound.informed.silent }

/-- A surface that has just been made has a tracker that knows all compositors. -/
theorem Sound.addSurface (sound : scene.Sound) (unlocked : scene.updating = [])
    (surface : Surface) : (scene.addSurface surface).Sound := by
  have older : ∀ id ∈ scene.renderingTrackers, id ≠ scene.made := fun id member =>
    Nat.ne_of_lt (sound.keyed.older id member)
  have newFollows : (Presence.initial.activate scene.registeredCompositors).Follows
      (scene.lastReport scene.made) := by
    refine Presence.Follows.activate ⟨fun cid => ?_, fun _ => rfl, fun cid member => ?_⟩ ?_
    · exact ⟨fun member => absurd member (Finset.notMem_empty cid),
        fun known => absurd known.1 (Finset.notMem_empty cid)⟩
    · exact absurd member (Finset.notMem_empty cid)
    · exact fun cid _ _ => sound.informed.silent _ le_rfl cid
  have names : (scene.addSurface surface).surfaces.map Surface.id =
      scene.surfaces.map Surface.id ++ [scene.made] := by
    show (scene.surfaces ++ [{ surface with id := scene.made }]).map Surface.id = _
    rw [List.map_append]
    rfl
  refine ⟨⟨?_, ?_, fun id member => ?_, fun id member => ?_⟩,
    ⟨sound.enrolled.apart, sound.enrolled.registered, sound.enrolled.own⟩,
    ⟨sound.informed.unthrown, fun id member _ => ?_, fun id member cid registered unknown => ?_,
      fun id member => ?_, fun thread member count cid occlusions rendered isReporting element
        among id isTracker => ?_, fun id isNew => ?_⟩⟩
  · rw [names]
    exact sound.keyed.trackers.append_right _
  · rw [names]
    refine List.nodup_append.mpr ⟨sound.keyed.nodup, List.nodup_singleton _, ?_⟩
    intro id member other isNew
    rw [List.mem_singleton.mp isNew]
    exact older id (sound.keyed.trackers.mem_iff.mpr member)
  · rcases List.mem_append.mp member with before | new
    · exact Nat.lt_succ_of_lt (sound.keyed.older id before)
    · rw [List.mem_singleton.mp new]
      exact Nat.lt_succ_self _
  · exact List.mem_append_left _ (sound.keyed.updating id member)
  · show (Function.update scene.presence scene.made _ id).tracker.activeCompositors = _
    rcases List.mem_append.mp member with before | new
    · rw [Function.update_of_ne (older id before)]
      exact sound.informed.current id before (unlocked ▸ List.not_mem_nil)
    · rw [List.mem_singleton.mp new, Function.update_self, Presence.activate_tracker]
      rfl
  · change cid ∉ (Function.update scene.presence scene.made _ id).tracker.activeCompositors
      at unknown
    rcases List.mem_append.mp member with before | new
    · rw [Function.update_of_ne (older id before)] at unknown
      exact sound.informed.unheard id before cid registered unknown
    · rw [List.mem_singleton.mp new]
      exact sound.informed.silent _ le_rfl cid
  · show (Function.update scene.presence scene.made _ id).Follows (scene.lastReport id)
    rcases List.mem_append.mp member with before | new
    · rw [Function.update_of_ne (older id before)]
      exact sound.informed.follows id before
    · rw [List.mem_singleton.mp new, Function.update_self]
      exact newFollows
  · obtain ⟨isOld, known⟩ := sound.informed.hands thread member count cid occlusions rendered
      isReporting element among id isTracker
    refine ⟨Nat.lt_succ_of_lt isOld, ?_⟩
    show cid ∈ (Function.update scene.presence scene.made _ id).tracker.activeCompositors
    rwa [Function.update_of_ne (Nat.ne_of_lt isOld)]
  · exact sound.informed.silent id (Nat.le_of_succ_le isNew)

/-- Taking out the surface with an identity takes out the identity. -/
theorem map_eraseP (surfaces : List Surface) (id : SurfaceID) :
    (surfaces.eraseP fun surface => surface.id = id).map Surface.id =
      (surfaces.map Surface.id).erase id := by
  rw [List.erase_eq_eraseP', List.eraseP_map]
  rfl

theorem Sound.removeSurface (sound : scene.Sound) (unlocked : scene.updating = [])
    (id : SurfaceID) : (scene.removeSurface id).Sound := by
  unfold CompositedScene.removeSurface
  split
  · have isSubset : ∀ other ∈ scene.renderingTrackers.erase id, other ∈ scene.renderingTrackers :=
      fun other => List.mem_of_mem_erase
    refine ⟨⟨?_, ?_, fun other member => sound.keyed.older other (isSubset other member), ?_⟩,
      ⟨sound.enrolled.apart, sound.enrolled.registered, sound.enrolled.own⟩,
      ⟨sound.informed.unthrown,
        fun other member => sound.informed.current other (isSubset other member),
        fun other member => sound.informed.unheard other (isSubset other member),
        fun other member => sound.informed.follows other (isSubset other member),
        sound.informed.hands, sound.informed.silent⟩⟩
    · rw [map_eraseP]
      exact sound.keyed.trackers.erase id
    · rw [map_eraseP]
      exact sound.keyed.nodup.erase id
    · show ∀ other ∈ scene.updating, _
      rw [unlocked]
      rintro other ⟨⟩
  · exact sound

theorem Sound.raise (sound : scene.Sound) (id : SurfaceID) : (scene.raise id).Sound := by
  unfold CompositedScene.raise
  split
  · exact sound
  · rename_i surface found
    refine sound.ofSurfaces ?_
    rw [List.map_append, map_eraseP]
    have isId : surface.id = id := by
      have isFound := List.find?_some found
      exact of_decide_eq_true isFound
    have member : id ∈ scene.surfaces.map Surface.id :=
      List.mem_map.mpr ⟨surface, List.mem_of_find?_eq_some found, isId⟩
    rw [List.map_singleton, isId]
    exact List.perm_append_comm.trans (List.perm_cons_erase member).symm

theorem Sound.raiseAll (sound : scene.Sound) (ids : List SurfaceID) :
    (scene.raiseAll ids).Sound := by
  refine sound.ofSurfaces (List.Perm.map _ ?_)
  have parts := List.filter_append_perm (fun surface : Surface => decide (surface.id ∉ ids))
    scene.surfaces
  have others : scene.surfaces.filter (fun surface => !decide (surface.id ∉ ids)) =
      scene.surfaces.filter fun surface => surface.id ∈ ids := by
    refine List.filter_congr fun surface _ => ?_
    rw [decide_not, Bool.not_not]
  rwa [others] at parts

theorem Sound.changeSurface (sound : scene.Sound) (changed : Surface) :
    (scene.changeSurface changed).Sound := by
  refine sound.ofSurfaces (List.Perm.of_eq ?_)
  rw [List.map_map]
  refine List.map_congr_left fun surface _ => ?_
  show (if surface.id = changed.id then changed else surface).id = surface.id
  split
  · exact Eq.symm ‹_›
  · rfl

/-! ### Threads go on -/

theorem Enrolled.replace (enrolled : scene.Enrolled) (isAt : scene.threads[place]? = some thread)
    (phase : CompositingPhase) {next : CompositedScene}
    (threads : next.threads = scene.threads.set place { thread with phase })
    (fewer : ({ thread with phase } : CompositingThread).living.Sublist thread.living)
    (registered : ∀ cid, cid ∈ next.registeredCompositors ↔
      cid ∈ ({ thread with phase } : CompositingThread).registered ∨
        cid ∈ (scene.threads.eraseIdx place).flatMap CompositingThread.registered)
    (own : ∀ count cid occlusions rendered, phase = .reporting count cid occlusions rendered →
      cid ∈ thread.ids) : next.Enrolled := by
  refine ⟨?_, fun cid => ?_, fun other member count cid occlusions rendered isReporting => ?_⟩
  · unfold allCompositors
    rw [threads]
    exact Crew.nodup_set isAt enrolled.apart fewer
  · rw [registered, threads, Crew.mem_flatMap_set isAt]
  · rw [threads] at member
    rcases List.mem_or_eq_of_mem_set member with before | rfl
    · exact enrolled.own other before count cid occlusions rendered isReporting
    · exact own count cid occlusions rendered isReporting

/-- The thread goes on, and has in its hands only what reports to trackers that know it. -/
theorem Informed.setPhase (informed : scene.Informed) (place : Nat) (thread : CompositingThread)
    (phase : CompositingPhase)
    (hands : ∀ count cid occlusions rendered, phase = .reporting count cid occlusions rendered →
      ∀ element ∈ occlusions ++ rendered, ∀ id, element.tracker = some id →
        id < scene.made ∧ cid ∈ (scene.presence id).tracker.activeCompositors) :
    (scene.setPhase place thread phase).Informed where
  unthrown := informed.unthrown
  current := informed.current
  unheard := informed.unheard
  follows := informed.follows
  hands := by
    intro other member count cid occlusions rendered isReporting
    rcases List.mem_or_eq_of_mem_set member with before | rfl
    · exact informed.hands other before count cid occlusions rendered isReporting
    · exact hands count cid occlusions rendered isReporting
  silent := informed.silent

/-- The thread goes on with the compositors that it has. -/
theorem Sound.setPhase (sound : scene.Sound) (isAt : scene.threads[place]? = some thread)
    (phase : CompositingPhase) (serves : thread.Serves)
    (still : ({ thread with phase } : CompositingThread).Serves)
    (hands : ∀ count cid occlusions rendered, phase = .reporting count cid occlusions rendered →
      cid ∈ thread.ids ∧ ∀ element ∈ occlusions ++ rendered, ∀ id, element.tracker = some id →
        id < scene.made ∧ cid ∈ (scene.presence id).tracker.activeCompositors) :
    (scene.setPhase place thread phase).Sound where
  keyed := ⟨sound.keyed.trackers, sound.keyed.nodup, sound.keyed.older, sound.keyed.updating⟩
  enrolled := by
    refine sound.enrolled.replace isAt phase rfl (by rw [serves.living, still.living]; rfl)
      (fun cid => ?_) fun count cid occlusions rendered isReporting =>
        (hands count cid occlusions rendered isReporting).1
    rw [show ({ thread with phase } : CompositingThread).registered = thread.registered from
      still.registered.trans serves.registered.symm]
    exact (sound.enrolled.registered cid).trans (Crew.mem_flatMap isAt)
  informed := sound.informed.setPhase place thread phase
    fun count cid occlusions rendered isReporting =>
      (hands count cid occlusions rendered isReporting).2

/-- A compositor that a thread has registered is registered. -/
theorem Enrolled.mem (enrolled : scene.Enrolled) (member : thread ∈ scene.threads)
    {cid : CompositorID} (registered : cid ∈ thread.registered) :
    cid ∈ scene.registeredCompositors :=
  (enrolled.registered cid).mpr (List.mem_flatMap.mpr ⟨thread, member, registered⟩)

/-! ### Compositors come and go -/

theorem registered_sublist_living (thread : CompositingThread) :
    thread.registered.Sublist thread.living := by
  unfold CompositingThread.registered CompositingThread.living
  cases thread.phase with
  | registering count => exact List.take_sublist _ _
  | unregistering count =>
    show (thread.ids.drop count).Sublist (if thread.ids.length ≤ count then [] else thread.ids)
    split
    · rw [List.drop_eq_nil_of_le ‹_›]
    · exact List.drop_sublist _ _
  | _ => exact List.Sublist.refl _

/-- What a thread carries no other has registered. -/
theorem Enrolled.notMem_others (enrolled : scene.Enrolled)
    (isAt : scene.threads[place]? = some thread) {cid : CompositorID}
    (member : cid ∈ thread.living) :
    cid ∉ (scene.threads.eraseIdx place).flatMap CompositingThread.registered := by
  intro other
  refine Crew.notMem_others isAt enrolled.apart member ?_
  exact (List.Sublist.flatMap_right _ fun thread _ => registered_sublist_living thread).subset other

theorem Informed.registerCompositor (informed : scene.Informed) (unlocked : scene.updating = [])
    {cid : CompositorID} (fresh : cid ∉ scene.registeredCompositors) :
    (scene.registerCompositor cid).Informed where
  unthrown := informed.unthrown
  current := fun _ member told => absurd member told
  unheard := by
    intro id member other registered unknown
    show Function.update (scene.lastReport id) cid none other = none
    by_cases same : other = cid
    · rw [same, Function.update_self]
    · rw [Function.update_of_ne same]
      rcases Finset.mem_insert.mp registered with new | before
      · exact absurd new same
      · exact informed.unheard id member other before unknown
  follows := by
    intro id member
    refine (informed.follows id member).forget ?_
    rwa [informed.current id member (unlocked ▸ List.not_mem_nil)]
  hands := informed.hands
  silent := by
    intro id isNew other
    show Function.update (scene.lastReport id) cid none other = none
    by_cases same : other = cid
    · rw [same, Function.update_self]
    · rw [Function.update_of_ne same]
      exact informed.silent id isNew other

theorem Informed.unregisterCompositor (informed : scene.Informed)
    (unlocked : scene.updating = []) (cid : CompositorID) :
    (scene.unregisterCompositor cid).Informed where
  unthrown := informed.unthrown
  current := fun _ member told => absurd member told
  unheard := by
    intro id member other registered unknown
    refine absurd (Finset.mem_of_mem_erase registered) ?_
    rwa [← informed.current id member (unlocked ▸ List.not_mem_nil)]
  follows := informed.follows
  hands := informed.hands
  silent := informed.silent

theorem ids_getElem? {count : Nat} {compositor : DisplayBufferCompositor}
    (isNext : thread.compositors[count]? = some compositor) :
    thread.ids[count]? = some compositor.id := by
  unfold CompositingThread.ids
  rw [List.getElem?_map, isNext]
  rfl

/-- A thread registers its next compositor. -/
theorem Sound.register (sound : scene.Sound) (unlocked : scene.updating = [])
    (isAt : scene.threads[place]? = some thread) {count : Nat}
    {compositor : DisplayBufferCompositor} (phase : thread.phase = .registering count)
    (isNext : thread.compositors[count]? = some compositor) :
    ((scene.registerCompositor compositor.id).setPhase place thread
      (.registering (count + 1))).Sound := by
  have living : thread.living = thread.ids := by
    unfold CompositingThread.living
    rw [phase]
  have before : thread.registered = thread.ids.take count := by
    unfold CompositingThread.registered
    rw [phase]
  have after : ({ thread with phase := .registering (count + 1) } : CompositingThread).registered =
      thread.ids.take count ++ [compositor.id] := by
    show thread.ids.take (count + 1) = _
    rw [List.take_add_one, ids_getElem? isNext]
    rfl
  have nodup : thread.ids.Nodup := living ▸ Crew.nodup_carries isAt sound.enrolled.apart
  have member : compositor.id ∈ thread.living :=
    living ▸ List.mem_of_getElem? (ids_getElem? isNext)
  have isNew : compositor.id ∉ thread.ids.take count := by
    have apart : (thread.ids.take count ++ [compositor.id]).Nodup :=
      after ▸ nodup.sublist (List.take_sublist _ _)
    exact fun again => (List.nodup_append.mp apart).2.2 _ again _ (List.mem_singleton_self _) rfl
  have fresh : compositor.id ∉ scene.registeredCompositors := by
    rw [sound.enrolled.registered, Crew.mem_flatMap isAt, before]
    exact not_or.mpr ⟨isNew, sound.enrolled.notMem_others isAt member⟩
  refine ⟨⟨sound.keyed.trackers, sound.keyed.nodup, sound.keyed.older, fun _ => id⟩, ?_,
    (sound.informed.registerCompositor unlocked fresh).setPhase place thread _
      fun _ _ _ _ => CompositingPhase.noConfusion⟩
  refine sound.enrolled.replace isAt _ rfl (by rw [living]; exact List.Sublist.refl _)
    (fun cid => ?_) fun _ _ _ _ => CompositingPhase.noConfusion
  show cid ∈ insert compositor.id scene.registeredCompositors ↔ _
  rw [Finset.mem_insert, sound.enrolled.registered, Crew.mem_flatMap isAt, before, after,
    List.mem_append, List.mem_singleton]
  tauto

/-- A thread unregisters its next compositor. -/
theorem Sound.unregister (sound : scene.Sound) (unlocked : scene.updating = [])
    (isAt : scene.threads[place]? = some thread) {count : Nat}
    {compositor : DisplayBufferCompositor} (phase : thread.phase = .unregistering count)
    (isNext : thread.compositors[count]? = some compositor) :
    ((scene.unregisterCompositor compositor.id).setPhase place thread
      (.unregistering (count + 1))).Sound := by
  have isThere := ids_getElem? isNext
  have inside : count < thread.ids.length := (List.getElem?_eq_some_iff.mp isThere).1
  have living : thread.living = thread.ids := by
    unfold CompositingThread.living
    rw [phase]
    exact if_neg (Nat.not_le.mpr inside)
  have before : thread.registered = compositor.id :: thread.ids.drop (count + 1) := by
    unfold CompositingThread.registered
    rw [phase]
    show thread.ids.drop count = _
    rw [List.drop_eq_getElem_cons inside, (List.getElem?_eq_some_iff.mp isThere).2]
  have nodup : (compositor.id :: thread.ids.drop (count + 1)).Nodup := by
    rw [← before]
    exact (Crew.nodup_carries isAt sound.enrolled.apart).sublist (registered_sublist_living thread)
  have member : compositor.id ∈ thread.living := living ▸ List.mem_of_getElem? isThere
  have others := sound.enrolled.notMem_others isAt member
  refine ⟨⟨sound.keyed.trackers, sound.keyed.nodup, sound.keyed.older, fun _ => id⟩, ?_,
    (sound.informed.unregisterCompositor unlocked compositor.id).setPhase place thread _
      fun _ _ _ _ => CompositingPhase.noConfusion⟩
  refine sound.enrolled.replace isAt _ rfl ?_ (fun cid => ?_)
    fun _ _ _ _ => CompositingPhase.noConfusion
  · rw [living]
    show (if thread.ids.length ≤ count + 1 then [] else thread.ids).Sublist thread.ids
    split
    · exact List.nil_sublist _
    · exact List.Sublist.refl _
  · show cid ∈ scene.registeredCompositors.erase compositor.id ↔
      cid ∈ thread.ids.drop (count + 1) ∨ _
    rw [Finset.mem_erase, sound.enrolled.registered, Crew.mem_flatMap isAt, before, List.mem_cons]
    have isGone := (List.nodup_cons.mp nodup).1
    constructor
    · rintro ⟨different, (same | rest) | other⟩
      · exact absurd same different
      · exact Or.inl rest
      · exact Or.inr other
    · rintro (rest | other)
      · exact ⟨fun same => isGone (same ▸ rest), Or.inl (Or.inr rest)⟩
      · exact ⟨fun same => others (same ▸ other), Or.inr other⟩

/-! ### Reports -/

/-- The next tracker hears of the compositors. -/
theorem Sound.updateNext (sound : scene.Sound) : scene.updateNext.Sound := by
  obtain ⟨keyed, enrolled, informed⟩ := sound
  unfold CompositedScene.updateNext
  split
  · exact ⟨keyed, enrolled, informed⟩
  · rename_i told rest isUpdating
    have member : told ∈ scene.renderingTrackers :=
      keyed.updating told (isUpdating ▸ List.mem_cons_self)
    have hears := (informed.follows told member).activate (informed.unheard told member)
    refine ⟨⟨keyed.trackers, keyed.nodup, keyed.older, fun id later =>
        keyed.updating id (isUpdating ▸ List.mem_cons_of_mem _ later)⟩,
      ⟨enrolled.apart, enrolled.registered, enrolled.own⟩,
      ⟨informed.unthrown, fun id among later => ?_, fun id among cid registered unknown => ?_,
        fun id among => ?_, fun thread among count cid occlusions rendered isReporting element
          isElement id isTracker => ?_, informed.silent⟩⟩
    · show (Function.update scene.presence told _ id).tracker.activeCompositors = _
      by_cases same : id = told
      · rw [same, Function.update_self, Presence.activate_tracker]
      · rw [Function.update_of_ne same]
        refine informed.current id among fun before => ?_
        rw [isUpdating] at before
        exact (List.mem_cons.mp before).elim same later
    · change cid ∉ (Function.update scene.presence told _ id).tracker.activeCompositors at unknown
      by_cases same : id = told
      · rw [same, Function.update_self, Presence.activate_tracker] at unknown
        exact absurd registered unknown
      · rw [Function.update_of_ne same] at unknown
        exact informed.unheard id among cid registered unknown
    · show (Function.update scene.presence told _ id).Follows (scene.lastReport id)
      by_cases same : id = told
      · rw [same, Function.update_self]
        exact hears
      · rw [Function.update_of_ne same]
        exact informed.follows id among
    · obtain ⟨isOld, known⟩ := informed.hands thread among count cid occlusions rendered
        isReporting element isElement id isTracker
      refine ⟨isOld, ?_⟩
      show cid ∈ (Function.update scene.presence told _ id).tracker.activeCompositors
      by_cases same : id = told
      · rw [same, Function.update_self, Presence.activate_tracker]
        refine enrolled.mem among ?_
        unfold CompositingThread.registered
        rw [isReporting]
        exact enrolled.own thread among count cid occlusions rendered isReporting
      · rwa [Function.update_of_ne same]

/-- A report of a compositor that its tracker knows is taken note of. -/
theorem Sound.report (sound : scene.Sound) {cid : CompositorID} (told : Report)
    (element : SceneElement) (known : ∀ id, element.tracker = some id →
      id < scene.made ∧ cid ∈ (scene.presence id).tracker.activeCompositors) :
    (scene.report cid told element).Sound := by
  obtain ⟨keyed, enrolled, informed⟩ := sound
  unfold CompositedScene.report
  cases isTracker : element.tracker with
  | none => exact ⟨keyed, enrolled, informed⟩
  | some id =>
    obtain ⟨isOld, isKnown⟩ := known id isTracker
    obtain ⟨presence, done, sameActive⟩ := Presence.hear_ok told isKnown
    have active (other : SurfaceID) :
        (Function.update scene.presence id presence other).tracker.activeCompositors =
          (scene.presence other).tracker.activeCompositors := by
      by_cases same : other = id
      · rw [same, Function.update_self, sameActive]
      · rw [Function.update_of_ne same]
    dsimp only
    rw [done]
    refine ⟨⟨keyed.trackers, keyed.nodup, keyed.older, keyed.updating⟩,
      ⟨enrolled.apart, enrolled.registered, enrolled.own⟩,
      ⟨informed.unthrown, fun other member current => ?_,
        fun other member another registered unknown => ?_, fun other member => ?_,
        fun thread among count another occlusions rendered isReporting element isElement other
          isTracker => ?_, fun other isNew another => ?_⟩⟩
    · exact (active other).trans (informed.current other member current)
    · rw [active other] at unknown
      show Function.update scene.lastReport id _ other another = none
      by_cases same : other = id
      · subst same
        rw [Function.update_self, Function.update_of_ne]
        · exact informed.unheard other member another registered unknown
        · rintro rfl
          exact unknown isKnown
      · rw [Function.update_of_ne same]
        exact informed.unheard other member another registered unknown
    · show (Function.update scene.presence id presence other).Follows
        (Function.update scene.lastReport id _ other)
      by_cases same : other = id
      · subst same
        rw [Function.update_self, Function.update_self]
        exact (informed.follows other member).hear done
      · rw [Function.update_of_ne same, Function.update_of_ne same]
        exact informed.follows other member
    · rw [active other]
      exact informed.hands thread among count another occlusions rendered isReporting element
        isElement other isTracker
    · show Function.update scene.lastReport id _ other another = none
      rw [Function.update_of_ne (Nat.ne_of_gt (Nat.lt_of_lt_of_le isOld isNew))]
      exact informed.silent other isNew another

/-- Every surface of the stack is known to the compositors that are registered. -/
theorem Sound.exposedTo_ok (sound : scene.Sound) (unlocked : scene.updating = [])
    {cid : CompositorID} (registered : cid ∈ scene.registeredCompositors)
    (surfaces : List Surface) :
    ∃ exposed, scene.exposedTo cid surfaces = .ok exposed := by
  induction surfaces with
  | nil => exact ⟨[], rfl⟩
  | cons surface rest inductionHypothesis =>
    obtain ⟨others, isOk⟩ := inductionHypothesis
    unfold exposedTo
    split
    · rename_i isThere
      have known : cid ∈ (scene.presence surface.id).tracker.activeCompositors := by
        rw [sound.informed.current surface.id isThere.2 (unlocked ▸ List.not_mem_nil)]
        exact registered
      unfold Presence.isExposedIn
      rw [if_neg (not_not.mpr known)]
      dsimp only
      rw [isOk]
      exact ⟨_, rfl⟩
    · exact ⟨others, isOk⟩

/-- The elements of the scene report to trackers of surfaces that are in the stack. -/
theorem tracker_of_mem {element : SceneElement} (member : element ∈ scene.sceneElementsFor)
    {id : SurfaceID} (isTracker : element.tracker = some id) :
    id ∈ scene.surfaces.map Surface.id := by
  rcases List.mem_append.mp member with isSurface | isOverlay
  · obtain ⟨surface, among, isElement⟩ := List.mem_flatMap.mp isSurface
    obtain ⟨renderable, -, rfl⟩ := List.mem_map.mp isElement
    cases isTracker
    exact List.mem_map_of_mem (List.mem_of_mem_filter among)
  · obtain ⟨renderable, -, rfl⟩ := List.mem_map.mp isOverlay
    cases isTracker

/-- A compositor that is registered takes the elements of the scene. -/
theorem Sound.takeElements (sound : scene.Sound) (unlocked : scene.updating = [])
    (isAt : scene.threads[place]? = some thread) {count : Nat}
    {compositor : DisplayBufferCompositor} (phase : thread.phase = .compositing count)
    (isNext : thread.compositors[count]? = some compositor) :
    (scene.setPhase place thread (.reporting count compositor.id
      (filterOcclusionsFrom SceneElement.renderable compositor.viewArea scene.sceneElementsFor).2
      (filterOcclusionsFrom SceneElement.renderable compositor.viewArea
        scene.sceneElementsFor).1)).Sound := by
  have own : compositor.id ∈ thread.ids := List.mem_of_getElem? (ids_getElem? isNext)
  have registered : compositor.id ∈ scene.registeredCompositors := by
    refine sound.enrolled.mem (List.mem_of_getElem? isAt) ?_
    unfold CompositingThread.registered
    rw [phase]
    exact own
  refine sound.setPhase isAt _ (.of_phase phase ⟨rfl, rfl⟩) ⟨rfl, rfl⟩ fun _ _ _ _ same => ?_
  cases same
  refine ⟨own, fun element member id isTracker => ?_⟩
  have among : element ∈ scene.sceneElementsFor := by
    have splits := filterOcclusionsFrom_splits SceneElement.renderable compositor.viewArea
      scene.sceneElementsFor
    refine splits.perm.mem_iff.mp ?_
    exact List.mem_append.mpr (List.mem_append.mp member).symm
  have isThere := sound.keyed.trackers.mem_iff.mpr (tracker_of_mem among isTracker)
  refine ⟨sound.keyed.older id isThere, ?_⟩
  rw [sound.informed.current id isThere (unlocked ▸ List.not_mem_nil)]
  exact registered

/-! ### Whole runs -/

theorem Sound.goOn (sound : scene.Sound) (place : Nat) {phase : CompositingPhase}
    (serves : ∀ thread : CompositingThread, ({ thread with phase } : CompositingThread).Serves)
    (empty : ∀ count cid occlusions rendered, phase ≠ .reporting count cid occlusions rendered) :
    (scene.goOn place phase).Sound := by
  unfold CompositedScene.goOn
  split
  · exact sound
  · rename_i thread isAt
    split
    · rename_i isWaiting
      exact sound.setPhase isAt phase (.of_phase isWaiting ⟨rfl, rfl⟩) (serves thread)
        fun count cid occlusions rendered same => absurd same (empty count cid occlusions rendered)
    · exact sound

theorem Sound.startThread (sound : scene.Sound) (compositors : List DisplayBufferCompositor) :
    (scene.startThread compositors).Sound := by
  unfold CompositedScene.startThread
  split
  · rename_i apart
    obtain ⟨keyed, enrolled, informed⟩ := sound
    refine ⟨⟨keyed.trackers, keyed.nodup, keyed.older, keyed.updating⟩,
      ⟨?_, fun cid => ?_, fun thread member => ?_⟩,
      ⟨informed.unthrown, informed.current, informed.unheard, informed.follows,
        fun thread member => ?_, informed.silent⟩⟩
    · unfold allCompositors
      rw [List.flatMap_append, List.flatMap_singleton]
      exact List.perm_append_comm.nodup_iff.mp apart
    · rw [List.flatMap_append, List.mem_append, List.flatMap_singleton]
      exact (enrolled.registered cid).trans
        ⟨Or.inl, fun either => either.resolve_right List.not_mem_nil⟩
    · rcases List.mem_append.mp member with before | new
      · exact enrolled.own thread before
      · rw [List.mem_singleton.mp new]
        exact fun _ _ _ _ => CompositingPhase.noConfusion
    · rcases List.mem_append.mp member with before | new
      · exact informed.hands thread before
      · rw [List.mem_singleton.mp new]
        exact fun _ _ _ _ => CompositingPhase.noConfusion
  · exact sound

theorem report_threads (cid : CompositorID) (told : Report) (element : SceneElement) :
    (scene.report cid told element).threads = scene.threads ∧
      (scene.report cid told element).made = scene.made := by
  unfold CompositedScene.report
  split
  · exact ⟨rfl, rfl⟩
  · split <;> exact ⟨rfl, rfl⟩

/-- A thread makes its next report, and keeps the others in its hands. -/
theorem Sound.tell (sound : scene.Sound) (isAt : scene.threads[place]? = some thread)
    {count : Nat} {cid : CompositorID}
    {occlusions rendered fewerOcclusions fewerRendered : List SceneElement}
    (phase : thread.phase = .reporting count cid occlusions rendered) (told : Report)
    (element : SceneElement) (isNext : element ∈ occlusions ++ rendered)
    (fewer : ∀ other ∈ fewerOcclusions ++ fewerRendered, other ∈ occlusions ++ rendered) :
    ((scene.report cid told element).setPhase place thread
      (.reporting count cid fewerOcclusions fewerRendered)).Sound := by
  have member := List.mem_of_getElem? isAt
  have own := sound.enrolled.own thread member _ _ _ _ phase
  have reported := sound.report told element
    (sound.informed.hands thread member _ _ _ _ phase element isNext)
  have isStillAt : (scene.report cid told element).threads[place]? = some thread := by
    rw [(report_threads cid told element).1]
    exact isAt
  refine reported.setPhase isStillAt _ (.of_phase phase ⟨rfl, rfl⟩) ⟨rfl, rfl⟩
    fun _ _ _ _ same => ?_
  cases same
  refine ⟨own, fun other among => ?_⟩
  exact reported.informed.hands thread (List.mem_of_getElem? isStillAt) _ _ _ _ phase other
    (fewer other among)

theorem Sound.advance (sound : scene.Sound) (isAt : scene.threads[place]? = some thread) :
    (scene.advance place thread).Sound := by
  have member := List.mem_of_getElem? isAt
  unfold CompositedScene.advance
  split
  · rename_i count phase
    split
    · rename_i isLast
      refine sound.setPhase isAt _ (.of_phase phase (.registering ?_)) ⟨rfl, rfl⟩
        fun _ _ _ _ => CompositingPhase.noConfusion
      unfold CompositingThread.ids
      rw [List.length_map]
      exact List.getElem?_eq_none_iff.mp isLast
    · rename_i compositor isNext
      exact locking_keeps sound fun unlocked => sound.register unlocked isAt phase isNext
  · exact sound
  · rename_i count phase
    split
    · exact sound.setPhase isAt _ (.of_phase phase ⟨rfl, rfl⟩) ⟨rfl, rfl⟩
        fun _ _ _ _ => CompositingPhase.noConfusion
    · rename_i compositor isNext
      exact locking_keeps sound fun unlocked => sound.takeElements unlocked isAt phase isNext
  · rename_i count cid element rest rendered phase
    exact sound.tell isAt phase .occluded element List.mem_cons_self
      fun other member => List.mem_cons_of_mem _ member
  · rename_i count cid element rest phase
    exact sound.tell isAt phase .rendered element List.mem_cons_self
      fun other member => List.mem_cons_of_mem _ member
  · rename_i phase
    exact sound.setPhase isAt _ (.of_phase phase ⟨rfl, rfl⟩) ⟨rfl, rfl⟩
      fun _ _ _ _ => CompositingPhase.noConfusion
  · rename_i count phase
    split
    · exact sound.setPhase isAt _ (.of_phase phase ⟨rfl, rfl⟩) ⟨rfl, rfl⟩
        fun _ _ _ _ => CompositingPhase.noConfusion
    · rename_i compositor isNext
      refine locking_keeps sound fun unlocked => ?_
      have registered : compositor.id ∈ scene.registeredCompositors := by
        refine sound.enrolled.mem member ?_
        have serves : thread.Serves := .of_phase phase ⟨rfl, rfl⟩
        rw [serves.registered]
        exact List.mem_of_getElem? (ids_getElem? isNext)
      obtain ⟨exposed, isOk⟩ := sound.exposedTo_ok unlocked registered scene.surfaces
      rw [isOk]
      exact sound.setPhase isAt _ (.of_phase phase ⟨rfl, rfl⟩) ⟨rfl, rfl⟩
        fun _ _ _ _ => CompositingPhase.noConfusion
  · rename_i count phase
    split
    · exact sound
    · rename_i compositor isNext
      exact locking_keeps sound fun unlocked => sound.unregister unlocked isAt phase isNext

theorem Sound.step (sound : scene.Sound) (op : Op) : (scene.step op).Sound := by
  cases op with
  | addSurface surface =>
    exact locking_keeps sound fun unlocked => sound.addSurface unlocked surface
  | removeSurface id => exact locking_keeps sound fun unlocked => sound.removeSurface unlocked id
  | raise id => exact locking_keeps sound fun _ => sound.raise id
  | raiseAll ids => exact locking_keeps sound fun _ => sound.raiseAll ids
  | changeSurface changed => exact sound.changeSurface changed
  | changeOverlays overlays =>
    show (scene.locking fun scene => { scene with overlays }).Sound
    refine locking_keeps sound fun _ => ?_
    obtain ⟨keyed, enrolled, informed⟩ := sound
    exact ⟨⟨keyed.trackers, keyed.nodup, keyed.older, keyed.updating⟩,
      ⟨enrolled.apart, enrolled.registered, enrolled.own⟩,
      ⟨informed.unthrown, informed.current, informed.unheard, informed.follows, informed.hands,
        informed.silent⟩⟩
  | updateNext => exact sound.updateNext
  | startThread compositors => exact sound.startThread compositors
  | wakeUp place =>
    exact sound.goOn place (fun _ => ⟨rfl, rfl⟩) fun _ _ _ _ => CompositingPhase.noConfusion
  | leave place =>
    exact sound.goOn place (fun _ => .unregistering)
      fun _ _ _ _ => CompositingPhase.noConfusion
  | advance place =>
    show Sound (match scene.threads[place]? with
      | none => scene
      | some thread => scene.advance place thread)
    split
    · exact sound
    · exact sound.advance ‹_›

theorem run_sound (ops : List Op) : (ops.foldl CompositedScene.step initial).Sound :=
  List.foldlRecOn ops _ initial_sound fun _ sound op _ => sound.step op

/-- In every order in which surfaces are added, removed, raised and changed and threads register
their compositors, composite, count and unregister them: no tracker hears of a compositor that it
does not know, the registered compositors are those of the threads, and there is a tracker for each
surface of the stack and for no other. While no tracker is being told of the compositors, each
knows the registered ones; its surface is exposed if one of them last rendered it, and is occluded
if each of them last found it so. -/
theorem visibility_follows_reports (ops : List Op) :
    let scene := ops.foldl CompositedScene.step initial
    scene.thrown = none ∧
      (∀ cid, cid ∈ scene.registeredCompositors ↔
        ∃ thread ∈ scene.threads, cid ∈ thread.registered) ∧
      scene.renderingTrackers.Perm (scene.surfaces.map Surface.id) ∧
      (scene.surfaces.map Surface.id).Nodup ∧
      (scene.updating = [] → ∀ surface ∈ scene.surfaces,
        let presence := scene.presence surface.id
        let last := scene.lastReport surface.id
        presence.tracker.activeCompositors = scene.registeredCompositors ∧
          ((∃ cid ∈ scene.registeredCompositors, last cid = some .rendered) →
            presence.visibility = .exposed) ∧
          ((∀ cid ∈ scene.registeredCompositors, last cid = some .occluded) →
            presence.visibility = .occluded)) := by
  intro scene
  have sound : scene.Sound := run_sound ops
  refine ⟨sound.informed.unthrown, fun cid => ?_, sound.keyed.trackers, sound.keyed.nodup,
    fun unlocked surface member => ?_⟩
  · exact (sound.enrolled.registered cid).trans List.mem_flatMap
  · have isThere : surface.id ∈ scene.renderingTrackers :=
      sound.keyed.trackers.mem_iff.mpr (List.mem_map_of_mem member)
    have active := sound.informed.current surface.id isThere (unlocked ▸ List.not_mem_nil)
    have follows := sound.informed.follows surface.id isThere
    refine ⟨active, fun ⟨cid, registered, isRendered⟩ => ?_, fun everywhere => ?_⟩
    · exact follows.exposed cid (active.symm ▸ registered) isRendered
    · refine follows.occluded (Finset.ext fun cid => ?_)
      rw [follows.occlusions, active]
      exact and_iff_left_of_imp (everywhere cid)

end CompositedScene

end Mir.Scene

/-
This file embeds the thread that composites the displays of a group, with the counter of scheduled
frames that other threads raise. The thread takes a frame off the counter before it lets every
compositor take a snapshot of the scene; afterwards it raises the counter to the number of frames
that any compositor has pending, and waits when nothing is scheduled.

It proves that no request is lost, in whichever phase of a frame it comes: before the thread waits
again every compositor takes a snapshot, every frame that was found pending is composited, and a
thread that waits although something is scheduled has been notified.
-/

import Mir.Compositor.Arbiter
import Mir.Geometry.Rectangle
import Mir.Library.History

namespace Mir.Compositor

open Mir.Geometry (Rectangle)

/-! ### The scene -/

/-- What a compositor is told of a surface: whether it is exposed to it, and how many buffers wait
for it. -/
structure PendingSurface where
  id : Nat
  visible : Bool
  isExposedIn : Nat → Bool
  buffersReadyForCompositor : Nat → Int

/-- The surfaces of a stack, and whether they have changed since they were last looked at. -/
structure PendingScene where
  sceneChanged : Bool
  surfaces : List PendingSurface

namespace PendingScene

/-- The surfaces that a compositor gets to see. It knows of all changes then. -/
def sceneElementsFor (scene : PendingScene) : List Nat × PendingScene :=
  ((scene.surfaces.filter PendingSurface.visible).map PendingSurface.id,
    { scene with sceneChanged := false })

/-- The most frames that wait for a compositor on any surface, and one if the scene has changed. -/
def framesPending (scene : PendingScene) (compositor : Nat) : Int :=
  scene.surfaces.foldl
    (fun result surface =>
      if surface.visible && surface.isExposedIn compositor then
        if surface.buffersReadyForCompositor compositor > result then
          surface.buffersReadyForCompositor compositor
        else result
      else result)
    (if scene.sceneChanged then 1 else 0)

theorem framesPending_nonneg (scene : PendingScene) (compositor : Nat) :
    0 ≤ scene.framesPending compositor := by
  unfold framesPending
  have initially : 0 ≤ (if scene.sceneChanged then 1 else 0 : Int) := by split <;> decide
  generalize (if scene.sceneChanged then 1 else 0 : Int) = result at initially
  induction scene.surfaces generalizing result with
  | nil => exact initially
  | cons surface rest inductionHypothesis =>
    rw [List.foldl_cons]
    refine inductionHypothesis _ ?_
    split
    · split <;> omega
    · exact initially

end PendingScene

/-! ### The functor -/

/-- Where the thread is: it has not come to its loop, waits to be notified, has the lock released
and composites for one compositor after another or sleeps, counts what is pending with the lock
held, or is through. -/
inductive FunctorPhase
  | starting
  | waiting (notified : Bool)
  | compositing (next : Nat)
  | sleeping
  | counting (next : Nat) (pending : Int)
  | finished
  deriving DecidableEq

/-- What happened: a request came, a compositor took a snapshot, a frame was posted, the frames
pending for a compositor were counted, or the thread blocked. -/
inductive FunctorEvent
  | requested (frames : Int)
  | snapshot (compositor : Nat) (elements : List Nat)
  | posted
  | counted (compositor : Nat) (pending : Int)
  | blocked

structure CompositingFunctor where
  running : Bool
  framesScheduled : Int
  notPostedYet : Bool
  phase : FunctorPhase
  scene : PendingScene
  history : List FunctorEvent

/-- The display buffers of a group, each of which has a compositor. -/
structure DisplaySyncGroup where
  viewAreas : List Rectangle

def DisplaySyncGroup.compositors (group : DisplaySyncGroup) : Nat := group.viewAreas.length

def DisplaySyncGroup.overlaps (group : DisplaySyncGroup) (damage : Rectangle) : Bool :=
  group.viewAreas.any fun viewArea => damage.overlaps viewArea

namespace CompositingFunctor

inductive Op
  | scheduleCompositing (numFrames : Int)
  | scheduleCompositingDamage (numFrames : Int) (damage : Rectangle)
  | stop
  | changeScene (scene : PendingScene)
  | advance
  | fail

def new (scene : PendingScene) : CompositingFunctor where
  running := true
  framesScheduled := 0
  notPostedYet := true
  phase := .starting
  scene
  history := []

variable (group : DisplaySyncGroup) (functor : CompositingFunctor)

/-- The thread has the lock from when it wakes up until it composites, which is one step, and while
it counts what is pending. -/
def isLocked : Bool :=
  match functor.phase with
  | .counting _ _ => true
  | _ => false

def notifyOne : CompositingFunctor :=
  match functor.phase with
  | .waiting _ => { functor with phase := .waiting true }
  | _ => functor

/-- More frames are scheduled than there were. -/
def raise (numFrames : Int) : CompositingFunctor :=
  if numFrames > functor.framesScheduled then
    { functor with framesScheduled := numFrames }.notifyOne
  else functor

/-- A request for frames is on record once its call returns. -/
def request (numFrames : Int) : CompositingFunctor :=
  if 0 < numFrames then
    { functor with history := functor.history ++ [.requested numFrames] }
  else functor

def scheduleCompositing (numFrames : Int) : CompositingFunctor :=
  (functor.raise numFrames).request numFrames

def scheduleCompositingDamage (numFrames : Int) (damage : Rectangle) : CompositingFunctor :=
  let tookDamage := functor.notPostedYet || group.overlaps damage
  let scheduled := if tookDamage then functor.raise numFrames else functor
  if group.overlaps damage then scheduled.request numFrames else scheduled

def stop : CompositingFunctor :=
  { functor with running := false }.notifyOne

/-- What the thread does at the head of its loop, with the lock held. -/
def enterLoop : CompositingFunctor :=
  if functor.running then
    if functor.framesScheduled > 0 then
      { functor with
        framesScheduled := functor.framesScheduled - 1
        notPostedYet := false
        phase := .compositing 0 }
    else
      { functor with phase := .waiting false, history := functor.history ++ [.blocked] }
  else { functor with phase := .finished }

def composite (compositor : Nat) : CompositingFunctor :=
  let (elements, scene) := functor.scene.sceneElementsFor
  { functor with
    phase := .compositing (compositor + 1)
    scene
    history := functor.history ++ [.snapshot compositor elements] }

def post : CompositingFunctor :=
  { functor with phase := .sleeping, history := functor.history ++ [.posted] }

def count (compositor : Nat) (pending : Int) : CompositingFunctor :=
  let pend := functor.scene.framesPending compositor
  { functor with
    phase := .counting (compositor + 1) (if pend > pending then pend else pending)
    history := functor.history ++ [.counted compositor pend] }

def finishCount (pending : Int) : CompositingFunctor :=
  (if pending > functor.framesScheduled then { functor with framesScheduled := pending }
    else functor).enterLoop

/-- The thread goes on. When it waits it may wake up without having been notified. -/
def advance : CompositingFunctor :=
  match functor.phase with
  | .starting => functor.enterLoop
  | .waiting _ => functor.enterLoop
  | .compositing next =>
    if next < group.compositors then functor.composite next else functor.post
  | .sleeping => { functor with phase := .counting 0 0 }
  | .counting next pending =>
    if next < group.compositors then functor.count next pending else functor.finishCount pending
  | .finished => functor

/-- An exception ends the thread, and the server with it. -/
def fail : CompositingFunctor :=
  match functor.phase with
  | .waiting _ => functor
  | _ => { functor with phase := .finished }

/-- Who schedules or stops waits for the lock. -/
def step (functor : CompositingFunctor) : Op → CompositingFunctor
  | .scheduleCompositing numFrames =>
    if functor.isLocked then functor else functor.scheduleCompositing numFrames
  | .scheduleCompositingDamage numFrames damage =>
    if functor.isLocked then functor else functor.scheduleCompositingDamage group numFrames damage
  | .stop => if functor.isLocked then functor else functor.stop
  | .changeScene scene => { functor with scene }
  | .advance => functor.advance group
  | .fail => functor.fail

end CompositingFunctor

/-! ### What is promised -/

namespace FunctorEvent

def IsRequest (event : FunctorEvent) : Prop := ∃ frames, event = .requested frames

def IsSnapshotOf (compositor : Nat) (event : FunctorEvent) : Prop :=
  ∃ elements, event = .snapshot compositor elements

/-- Some frames were found pending. -/
def IsPending (event : FunctorEvent) : Prop :=
  ∃ compositor pending, event = .counted compositor pending ∧ pending ≠ 0

end FunctorEvent

/-- After every request each compositor has taken a snapshot. -/
def Served (compositors : Nat) (history : List FunctorEvent) : Prop :=
  ∀ compositor < compositors,
    History.FollowedBy FunctorEvent.IsRequest (FunctorEvent.IsSnapshotOf compositor) history

/-- After every frame that was found pending another one was posted. -/
def Drained (history : List FunctorEvent) : Prop :=
  History.FollowedBy FunctorEvent.IsPending (· = .posted) history

/-- The thread blocks only when nothing is left to be done. -/
def BlocksWhenIdle (compositors : Nat) (before : List FunctorEvent) (event : FunctorEvent) : Prop :=
  event = .blocked → Served compositors before ∧ Drained before

/-! ### One step -/

section Histories

variable {compositors : Nat} {history : List FunctorEvent} {event : FunctorEvent}

theorem Served.append (served : Served compositors history) (isNone : ¬ event.IsRequest) :
    Served compositors (history ++ [event]) :=
  fun compositor less => (served compositor less).append isNone

/-- The next compositor takes a snapshot. -/
theorem Served.snapshot {next : Nat} (served : Served next history) (elements : List Nat) :
    Served (next + 1) (history ++ [.snapshot next elements]) := by
  intro compositor less
  have isNone : ¬ (FunctorEvent.snapshot next elements).IsRequest := fun ⟨_, same⟩ => nomatch same
  rcases Nat.lt_succ_iff_lt_or_eq.mp less with earlier | rfl
  · exact (served compositor earlier).append isNone
  · exact History.followedBy_of_answers isNone ⟨elements, rfl⟩

theorem drained_posted : Drained (history ++ [.posted]) :=
  History.followedBy_of_answers (fun ⟨_, _, same, _⟩ => nomatch same) rfl

theorem Drained.append (drained : Drained history) (isNone : ¬ event.IsPending) :
    Drained (history ++ [event]) :=
  History.FollowedBy.append drained isNone

end Histories

namespace CompositingFunctor

/-- What the thread has done by the time, unless something is scheduled. -/
def Ready (compositors : Nat) (functor : CompositingFunctor) : Prop :=
  match functor.phase with
  | .starting => functor.framesScheduled = 0 →
      Served compositors functor.history ∧ Drained functor.history
  | .waiting _ => functor.framesScheduled = 0 →
      Served compositors functor.history ∧ Drained functor.history
  | .compositing next => next ≤ compositors ∧
      (functor.framesScheduled = 0 → Served next functor.history)
  | .sleeping =>
      (functor.framesScheduled = 0 → Served compositors functor.history) ∧ Drained functor.history
  | .counting _ pending => (functor.framesScheduled = 0 → Served compositors functor.history) ∧
      0 ≤ pending ∧ (pending = 0 → Drained functor.history)
  | .finished => True

structure Sound (compositors : Nat) (functor : CompositingFunctor) : Prop where
  along : History.Along (BlocksWhenIdle compositors) functor.history
  nonneg : 0 ≤ functor.framesScheduled
  notified : functor.phase = .waiting false →
    functor.framesScheduled = 0 ∧ functor.running = true
  ready : functor.Ready compositors

variable {group : DisplaySyncGroup} {functor : CompositingFunctor} {compositors : Nat}

theorem sound_new (compositors : Nat) (scene : PendingScene) : (new scene).Sound compositors where
  along := History.along_nil
  nonneg := Int.le_refl 0
  notified isWaiting := by cases isWaiting
  ready _ := ⟨fun _ _ => History.followedBy_nil, History.followedBy_nil⟩

/-- An event that is not the thread's blocking fits everything. -/
theorem along_append {history : List FunctorEvent} {event : FunctorEvent}
    (along : History.Along (BlocksWhenIdle compositors) history) (isOther : event ≠ .blocked) :
    History.Along (BlocksWhenIdle compositors) (history ++ [event]) :=
  History.along_append_singleton.mpr ⟨along, fun isBlocked => absurd isBlocked isOther⟩

/-- Once a thread that waits is notified it may find anything. -/
theorem Sound.notifyOne_of_ready
    (along : History.Along (BlocksWhenIdle compositors) functor.history)
    (nonneg : 0 ≤ functor.framesScheduled) (ready : functor.Ready compositors) :
    functor.notifyOne.Sound compositors := by
  obtain ⟨running, frames, notPosted, phase, scene, history⟩ := functor
  cases phase with
  | waiting notified => exact ⟨along, nonneg, nofun, ready⟩
  | starting => exact ⟨along, nonneg, nofun, ready⟩
  | compositing next => exact ⟨along, nonneg, nofun, ready⟩
  | sleeping => exact ⟨along, nonneg, nofun, ready⟩
  | counting next pending => exact ⟨along, nonneg, nofun, ready⟩
  | finished => exact ⟨along, nonneg, nofun, ready⟩

/-- With something scheduled there is less to have been done. -/
theorem Ready.raised (ready : functor.Ready compositors) {numFrames : Int}
    (positive : 0 < numFrames) :
    Ready compositors { functor with framesScheduled := numFrames } := by
  have isScheduled : numFrames ≠ 0 := by omega
  obtain ⟨running, frames, notPosted, phase, scene, history⟩ := functor
  cases phase with
  | starting => exact fun idle => absurd idle isScheduled
  | waiting notified => exact fun idle => absurd idle isScheduled
  | compositing next => exact ⟨ready.1, fun idle => absurd idle isScheduled⟩
  | sleeping => exact ⟨fun idle => absurd idle isScheduled, ready.2⟩
  | counting next pending => exact ⟨fun idle => absurd idle isScheduled, ready.2⟩
  | finished => trivial

theorem Sound.raise (sound : functor.Sound compositors) (numFrames : Int) :
    (functor.raise numFrames).Sound compositors := by
  simp only [CompositingFunctor.raise]
  have nonneg := sound.nonneg
  split
  case isTrue more =>
    exact Sound.notifyOne_of_ready sound.along (show 0 ≤ numFrames by omega)
      (sound.ready.raised (by omega))
  case isFalse => exact sound

theorem le_framesScheduled_raise (functor : CompositingFunctor) (numFrames : Int) :
    numFrames ≤ (functor.raise numFrames).framesScheduled := by
  have same (other : CompositingFunctor) :
      other.notifyOne.framesScheduled = other.framesScheduled := by
    unfold notifyOne
    split <;> rfl
  unfold CompositingFunctor.raise
  split
  · rw [same]
  · omega

/-- A request may come when something is scheduled. -/
theorem Sound.request (sound : functor.Sound compositors) {numFrames : Int}
    (scheduled : numFrames ≤ functor.framesScheduled) :
    (functor.request numFrames).Sound compositors := by
  simp only [CompositingFunctor.request]
  split
  case isFalse => exact sound
  case isTrue positive =>
    have isScheduled : functor.framesScheduled ≠ 0 := by omega
    have notPending : ¬ (FunctorEvent.requested numFrames).IsPending :=
      fun ⟨_, _, same, _⟩ => nomatch same
    refine ⟨along_append sound.along nofun, sound.nonneg, sound.notified, ?_⟩
    have ready := sound.ready
    obtain ⟨running, frames, notPosted, phase, scene, history⟩ := functor
    cases phase with
    | starting => exact fun idle => absurd idle isScheduled
    | waiting notified => exact fun idle => absurd idle isScheduled
    | compositing next => exact ⟨ready.1, fun idle => absurd idle isScheduled⟩
    | sleeping => exact ⟨fun idle => absurd idle isScheduled, ready.2.append notPending⟩
    | counting next pending =>
      exact ⟨fun idle => absurd idle isScheduled, ready.2.1,
        fun none => (ready.2.2 none).append notPending⟩
    | finished => trivial

theorem Sound.scheduleCompositing (sound : functor.Sound compositors) (numFrames : Int) :
    (functor.scheduleCompositing numFrames).Sound compositors :=
  (sound.raise numFrames).request (functor.le_framesScheduled_raise numFrames)

theorem Sound.scheduleCompositingDamage (sound : functor.Sound compositors) (numFrames : Int)
    (damage : Rectangle) :
    (functor.scheduleCompositingDamage group numFrames damage).Sound compositors := by
  simp only [CompositingFunctor.scheduleCompositingDamage]
  cases overlaps : group.overlaps damage with
  | true =>
    simp only [Bool.or_true, if_true]
    exact sound.scheduleCompositing numFrames
  | false =>
    simp only [Bool.or_false, Bool.false_eq_true, if_false]
    split
    · exact sound.raise numFrames
    · exact sound

theorem Sound.stop (sound : functor.Sound compositors) : functor.stop.Sound compositors :=
  Sound.notifyOne_of_ready sound.along sound.nonneg sound.ready

/-- At the head of the loop the thread composites what is scheduled, or it has nothing to do. -/
theorem Sound.enterLoop
    (along : History.Along (BlocksWhenIdle compositors) functor.history)
    (nonneg : 0 ≤ functor.framesScheduled)
    (idle : functor.framesScheduled = 0 →
      Served compositors functor.history ∧ Drained functor.history) :
    functor.enterLoop.Sound compositors := by
  simp only [CompositingFunctor.enterLoop]
  split
  case isFalse => exact ⟨along, nonneg, nofun, trivial⟩
  case isTrue running =>
    split
    case isTrue scheduled =>
      refine ⟨along, show 0 ≤ functor.framesScheduled - 1 by omega, nofun, Nat.zero_le _, ?_⟩
      exact fun _ compositor less => absurd less (Nat.not_lt_zero _)
    case isFalse notScheduled =>
      have isZero : functor.framesScheduled = 0 := by omega
      obtain ⟨served, drained⟩ := idle isZero
      refine ⟨History.along_append_singleton.mpr ⟨along, fun _ => ⟨served, drained⟩⟩, nonneg,
        fun _ => ⟨isZero, running⟩, fun _ => ⟨?_, ?_⟩⟩
      · exact served.append fun ⟨_, same⟩ => nomatch same
      · exact drained.append fun ⟨_, _, same, _⟩ => nomatch same

/-- Each phase of a frame leads to the next one. -/
theorem Sound.advance (sound : functor.Sound group.compositors) :
    (functor.advance group).Sound group.compositors := by
  obtain ⟨along, nonneg, -, ready⟩ := sound
  obtain ⟨running, frames, notPosted, phase, scene, history⟩ := functor
  cases phase with
  | starting => exact Sound.enterLoop along nonneg ready
  | waiting notified => exact Sound.enterLoop along nonneg ready
  | compositing next =>
    simp only [CompositingFunctor.advance]
    split
    case isTrue less =>
      exact ⟨along_append along nofun, nonneg, nofun, less, fun idle => (ready.2 idle).snapshot _⟩
    case isFalse notLess =>
      have isLast : next = group.compositors := by
        have := ready.1
        omega
      refine ⟨along_append along nofun, nonneg, nofun, fun idle => ?_, drained_posted⟩
      exact (isLast ▸ ready.2 idle).append fun ⟨_, same⟩ => nomatch same
  | sleeping => exact ⟨along, nonneg, nofun, ready.1, Int.le_refl 0, fun _ => ready.2⟩
  | counting next pending =>
    obtain ⟨served, pendingNonneg, drained⟩ := ready
    have countNonneg := scene.framesPending_nonneg next
    simp only [CompositingFunctor.advance, CompositingFunctor.count, CompositingFunctor.finishCount]
    split
    case isTrue less =>
      refine ⟨along_append along nofun, nonneg, nofun, fun idle => ?_, ?_, fun none => ?_⟩
      · exact (served idle).append fun ⟨_, same⟩ => nomatch same
      · split <;> omega
      · have bothZero : pending = 0 ∧ scene.framesPending next = 0 := by
          split at none <;> omega
        refine (drained bothZero.1).append ?_
        rintro ⟨compositor, found, ⟨⟩, isPending⟩
        exact isPending bothZero.2
    case isFalse =>
      dsimp only at nonneg served ⊢
      split
      case isTrue more =>
        refine Sound.enterLoop along pendingNonneg fun idle => ?_
        dsimp only at idle
        omega
      case isFalse notMore =>
        refine Sound.enterLoop along nonneg fun idle => ⟨served idle, drained ?_⟩
        dsimp only at idle
        omega
  | finished => exact ⟨along, nonneg, nofun, trivial⟩

theorem Sound.step (sound : functor.Sound group.compositors) (op : Op) :
    (functor.step group op).Sound group.compositors := by
  cases op with
  | scheduleCompositing numFrames =>
    simp only [CompositingFunctor.step]
    split
    · exact sound
    · exact sound.scheduleCompositing numFrames
  | scheduleCompositingDamage numFrames damage =>
    simp only [CompositingFunctor.step]
    split
    · exact sound
    · exact sound.scheduleCompositingDamage numFrames damage
  | stop =>
    simp only [CompositingFunctor.step]
    split
    · exact sound
    · exact sound.stop
  | changeScene scene => exact ⟨sound.along, sound.nonneg, sound.notified, sound.ready⟩
  | advance => exact sound.advance
  | fail =>
    simp only [CompositingFunctor.step, CompositingFunctor.fail]
    split
    · exact sound
    · exact ⟨sound.along, sound.nonneg, nofun, trivial⟩

end CompositingFunctor

end Mir.Compositor

/-
This file is about the time between stopping the dispatcher and starting it again. A key is
dropped then, but the routes of pointer and touch events do not ask whether the dispatcher is
started: an event over a surface is delivered and the device gets a target or a gesture.
-/

import Mir.Input.Crossings

namespace Mir.Input

open Transition

/-- The dispatcher is stopped and holds no surface for any pointer or touch device. -/
structure World.Paused (world : World) : Prop where
  stopped : world.started = false
  pointers : ∀ device, world.pointerState device = ⟨none, none⟩
  touches : ∀ device, world.touchState device = none

/-- Since an earlier time no surface has received anything and the dispatcher has got none. -/
structure World.SilentSince (earlier now : World) : Prop where
  received : now.received = earlier.received
  paused : now.Paused

/-- A pointer or touch event that could start something finds no surface below it. -/
def World.MeetsNothing (world : World) : Op → Prop
  | .pointer event =>
    event.action = .buttonUp ∨ world.scene.findTargetSurface event.position = none
  | .touch event =>
    isGestureStart event = false ∨ world.scene.findTargetSurface event.position = none
  | _ => True

instance (world : World) : (op : Op) → Decidable (world.MeetsNothing op)
  | .pointer event =>
    inferInstanceAs (Decidable
      (event.action = .buttonUp ∨ world.scene.findTargetSurface event.position = none))
  | .touch event =>
    inferInstanceAs (Decidable
      (isGestureStart event = false ∨ world.scene.findTargetSurface event.position = none))
  | .key _ _ | .setFocus _ | .start | .stop | .deviceReset _ | .addSurface _ | .changeSurface _ _
  | .restack _ | .removeSurface _ | .surfaceRemoved _ => inferInstanceAs (Decidable True)

theorem World.paused_stop (world : World) : (world.step .stop).Paused where
  stopped := rfl
  pointers := fun _ => rfl
  touches := fun _ => rfl

/-! ### An event that meets nothing -/

/-- Without a target and a gesture, a pointer event leaves no trace exactly if it is a release or
there is no surface below it. -/
theorem Scene.dispatchPointer_none_iff (scene : Scene) (event : PointerEvent) :
    scene.dispatchPointer ⟨none, none⟩ event = ⟨⟨none, none⟩, [], false⟩ ↔
      event.action = .buttonUp ∨ scene.findTargetSurface event.position = none := by
  unfold dispatchPointer
  by_cases up : event.action = .buttonUp
  · simp [up]
  · cases target : scene.findTargetSurface event.position <;> simp [up]

/-- A pointer event that meets a surface is delivered. -/
theorem Scene.dispatchPointer_delivers (scene : Scene) (event : PointerEvent)
    (notUp : event.action ≠ .buttonUp)
    (meets : scene.findTargetSurface event.position ≠ none) :
    (scene.dispatchPointer ⟨none, none⟩ event).deliveries ≠ [] := by
  obtain ⟨id, target⟩ := Option.ne_none_iff_exists'.mp meets
  unfold dispatchPointer
  simp [notUp, target, cross]

theorem Scene.dispatchTouch_none_iff (scene : Scene) (event : TouchEvent) :
    (scene.dispatchTouch none event).deliveries = [] ↔
      isGestureStart event = false ∨ scene.findTargetSurface event.position = none := by
  rw [dispatchTouch_deliveries]
  cases isGestureStart event <;> simp

namespace World.Paused

variable {world : World}

theorem pointer (paused : world.Paused) {event : PointerEvent}
    (nothing : event.action = .buttonUp ∨ world.scene.findTargetSurface event.position = none) :
    (world.dispatchPointer event).received = world.received ∧
      (world.dispatchPointer event).Paused := by
  have outcome := (world.scene.dispatchPointer_none_iff event).mpr nothing
  rw [← paused.pointers event.deviceID] at outcome
  refine ⟨?_, paused.stopped, fun device => ?_, paused.touches⟩
  · show (world.scene.dispatchPointer _ event).deliveries.reverse ++ world.received = _
    rw [outcome]
    rfl
  · rw [dispatchPointer_pointerState, outcome, Function.update_eq_self]
    exact paused.pointers device

theorem touch (paused : world.Paused) {event : TouchEvent}
    (nothing : isGestureStart event = false ∨
      world.scene.findTargetSurface event.position = none) :
    (world.dispatchTouch event).received = world.received ∧
      (world.dispatchTouch event).Paused := by
  have deliveries := (world.scene.dispatchTouch_none_iff event).mpr nothing
  have owner : (world.scene.dispatchTouch none event).gestureOwner = none := by
    rw [Scene.dispatchTouch_gestureOwner]
    rcases nothing with notStart | target
    · simp [notStart]
    · simp [target]
  rw [← paused.touches event.deviceID] at deliveries owner
  refine ⟨?_, paused.stopped, paused.pointers, fun device => ?_⟩
  · show (world.scene.dispatchTouch _ event).deliveries.reverse ++ world.received = _
    rw [deliveries]
    rfl
  · rw [dispatchTouch_touchState, owner, Function.update_eq_self]
    exact paused.touches device

/-- While the dispatcher is stopped, an operation that meets nothing gives nothing to a surface and
leaves the dispatcher without surfaces. -/
theorem step (paused : world.Paused) {op : Op} (noStart : op ≠ .start)
    (nothing : world.MeetsNothing op) :
    (world.step op).received = world.received ∧ (world.step op).Paused := by
  cases op with
  | key event alive =>
    have dropped : world.step (.key event alive) = world := by
      show world.dispatchKey event alive = world
      unfold dispatchKey
      rw [paused.stopped]
      rfl
    rw [dropped]
    exact ⟨rfl, paused⟩
  | touch event => exact paused.touch nothing
  | pointer event => exact paused.pointer nothing
  | start => exact absurd rfl noStart
  | stop => exact ⟨rfl, world.paused_stop⟩
  | deviceReset device =>
    have same : world.step (.deviceReset device) = world := by
      show world.deviceReset device = world
      unfold deviceReset
      rw [paused.stopped]
      rfl
    rw [same]
    exact ⟨rfl, paused⟩
  | restack surfaces =>
    dsimp only [World.step]
    split_ifs
    · exact ⟨rfl, ⟨paused.stopped, paused.pointers, paused.touches⟩⟩
    · exact ⟨rfl, paused⟩
  | removeSurface id =>
    dsimp only [World.step]
    split_ifs
    · exact ⟨rfl, ⟨paused.stopped, paused.pointers, paused.touches⟩⟩
    · exact ⟨rfl, paused⟩
  | surfaceRemoved id =>
    dsimp only [World.step]
    split_ifs
    · refine ⟨rfl, paused.stopped, fun device => ?_, fun device => ?_⟩
      · show PointerInputState.mk (forget id (world.pointerState device).currentTarget)
          (forget id (world.pointerState device).gestureOwner) = _
        rw [paused.pointers device]
        rfl
      · show forget id (world.touchState device) = none
        rw [paused.touches device]
        rfl
    · exact ⟨rfl, paused⟩
  | setFocus _ | addSurface _ | changeSurface _ _ =>
    exact ⟨rfl, ⟨paused.stopped, paused.pointers, paused.touches⟩⟩

/-- An operation that meets a surface is delivered although the dispatcher is stopped. -/
theorem meetsNothing_of_received (paused : world.Paused) {op : Op}
    (silent : (world.step op).received = world.received) : world.MeetsNothing op := by
  cases op with
  | pointer event =>
    have silent :
        (world.scene.dispatchPointer (world.pointerState event.deviceID)
          event).deliveries.reverse ++ world.received = world.received := silent
    rw [paused.pointers, List.append_left_eq_self, List.reverse_eq_nil_iff] at silent
    by_contra meets
    obtain ⟨notUp, target⟩ := not_or.mp meets
    exact world.scene.dispatchPointer_delivers event notUp target silent
  | touch event =>
    have silent :
        (world.scene.dispatchTouch (world.touchState event.deviceID) event).deliveries.reverse ++
          world.received = world.received := silent
    rw [paused.touches, List.append_left_eq_self, List.reverse_eq_nil_iff] at silent
    exact (world.scene.dispatchTouch_none_iff event).mp silent
  | _ => trivial

end World.Paused

/-- From a stop on, as long as the dispatcher is not started, no surface receives anything and the
dispatcher holds none, exactly if the pointer and touch events all meet nothing. -/
theorem World.stopped_dispatcher_is_silent (world : World) (ops : List Op)
    (noStart : Op.start ∉ ops) :
    (∀ done, done <+: ops → world.SilentSince (done.foldl World.step (world.step .stop))) ↔
      AllowedAlong World.step World.MeetsNothing (world.step .stop) ops := by
  refine forall_prefix_iff_allowedAlong ⟨rfl, world.paused_stop⟩ fun now op member silent => ?_
  have notStart : op ≠ .start := ne_of_mem_of_not_mem member noStart
  refine ⟨fun kept => ?_, fun nothing => ?_⟩
  · exact silent.paused.meetsNothing_of_received (kept.received.trans silent.received.symm)
  · obtain ⟨received, paused⟩ := silent.paused.step notStart nothing
    exact ⟨received.trans silent.received, paused⟩

/-- While the dispatcher is stopped the pointer moves beside the only surface and a button is
released over it. -/
theorem World.stopped_dispatcher_is_silent_beside :
    let world := [.addSurface (square 0), .start].foldl World.step World.initial
    let ops : List Op := [.pointer (pointerAt .motion 0 15), .setFocus (some 0),
      .pointer (pointerAt .buttonUp 0 5)]
    ∀ done, done <+: ops → world.SilentSince (done.foldl World.step (world.step .stop)) :=
  (World.stopped_dispatcher_is_silent _ _ (by simp)).mpr (by decide)

/-- A pointer that moves while the dispatcher is stopped enters the surface below it. -/
theorem World.stopped_dispatcher_delivers :
    ¬ ∀ (world : World) (ops : List Op), Op.start ∉ ops → ∀ done, done <+: ops →
      world.SilentSince (done.foldl World.step (world.step .stop)) := by
  intro claimed
  have silent := (claimed ([.addSurface (square 0), .start].foldl World.step World.initial)
    [.pointer (pointerAt .motion 0 5)] (by simp) _ (List.prefix_refl _)).received
  revert silent
  decide

end Mir.Input

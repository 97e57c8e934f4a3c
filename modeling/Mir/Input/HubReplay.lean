/-
This file proves what holds of the registered devices and the published handles of the device hub
while its observer queue is worked off. Devices are registered at once, and replaying the queue on
the handles that are published gives those of the registered devices.
-/

import Mathlib.Data.List.Nodup
import Mir.Input.DeviceHub

namespace Mir.Input

/-! ### What a step does -/

/-- All that a step can do. -/
inductive HubStep (hub : DeviceHub) : HubOp → DeviceHub → Prop
  | stays (op : HubOp) : HubStep hub op hub
  | adds (key : InputDeviceID) (settings handle : Device)
      (unknown : key ∉ hub.devices.map RegisteredDevice.device)
      (numbered : handle.id = hub.deviceIDGenerator + 1) :
      HubStep hub (.addDevice (some key) settings)
        { hub with
          deviceIDGenerator := hub.deviceIDGenerator + 1
          devices := hub.devices ++ [⟨key, handle⟩]
          queue := hub.queue ++ [.addDeviceHandle handle] }
  | removes (key : InputDeviceID) :
      HubStep hub (.removeDevice (some key))
        { hub with
          devices := hub.devices.filter fun item => decide (item.device ≠ key)
          queue := hub.queue ++ (hub.devices.filter fun item => decide (item.device = key)).map
            fun item => .removeDeviceHandle item.handle.id }
  | addsObserver (observer : ObserverID) :
      HubStep hub (.addObserver observer) (hub.enqueue (.addObserver observer))
  | removesObserver (observer : Option ObserverID) :
      HubStep hub (.removeObserver observer) (hub.enqueue (.removeObserver observer))
  | performs (action : HubAction) (rest : List HubAction) (queue : hub.queue = action :: rest) :
      HubStep hub .runAction (DeviceHub.perform { hub with queue := rest } action)

namespace DeviceHub

theorem step_cases (hub : DeviceHub) (op : HubOp) : HubStep hub op (hub.step op) := by
  cases op with
  | addDevice device settings =>
    cases device with
    | none => exact .stays _
    | some key =>
      unfold DeviceHub.step addDevice
      dsimp only
      by_cases known : key ∈ hub.devices.map RegisteredDevice.device
      · rw [if_pos known]
        exact .stays _
      · rw [if_neg known]
        exact .adds key settings _ known rfl
  | removeDevice device =>
    cases device with
    | none => exact .stays _
    | some key =>
      unfold DeviceHub.step removeDevice
      dsimp only
      by_cases noMatch : (hub.devices.filter fun item => decide (item.device = key)) = []
      · rw [if_pos noMatch]
        exact .stays _
      · rw [if_neg noMatch]
        exact .removes key
  | addObserver observer => exact .addsObserver observer
  | removeObserver observer => exact .removesObserver observer
  | runAction =>
    unfold DeviceHub.step runAction
    dsimp only
    cases queue : hub.queue with
    | nil => exact .stays _
    | cons action rest => exact .performs action rest queue

end DeviceHub

/-! ### Replaying the queue -/

/-- What an action makes of the handles. -/
def HubAction.replay (handles : List Device) : HubAction → List Device
  | .addDeviceHandle handle => handles ++ [handle]
  | .removeDeviceHandle id => handles.filter fun handle => decide (handle.id ≠ id)
  | _ => handles

/-- The number that an action is to publish. -/
def HubAction.publishes : HubAction → Option DeviceID
  | .addDeviceHandle handle => some handle.id
  | _ => none

namespace DeviceHub

variable {hub : DeviceHub}

def handleIDs (hub : DeviceHub) : List DeviceID := hub.handles.map Device.id

/-- The handles of the registered devices. -/
def deviceHandles (hub : DeviceHub) : List Device := hub.devices.map RegisteredDevice.handle

def deviceIDs (hub : DeviceHub) : List DeviceID := hub.deviceHandles.map Device.id

/-- The numbers that are published or are to be. -/
def givenIDs (hub : DeviceHub) : List DeviceID :=
  hub.handleIDs ++ hub.queue.filterMap HubAction.publishes

/-- What holds of the devices and the handles, whatever is on the queue. -/
structure Registered (hub : DeviceHub) : Prop where
  replayed : hub.queue.foldl HubAction.replay hub.handles = hub.deviceHandles
  given : hub.givenIDs.Nodup
  givenBelow : ∀ id ∈ hub.givenIDs, id ≤ hub.deviceIDGenerator
  devices : (hub.devices.map RegisteredDevice.device).Nodup
  deviceIDs : hub.deviceIDs.Nodup
  deviceIDsBelow : ∀ id ∈ hub.deviceIDs, id ≤ hub.deviceIDGenerator

theorem registered_initial : initial.Registered where
  replayed := rfl
  given := List.nodup_nil
  givenBelow _ member := absurd member List.not_mem_nil
  devices := List.nodup_nil
  deviceIDs := List.nodup_nil
  deviceIDsBelow _ member := absurd member List.not_mem_nil

/-! ### Requests -/

theorem Registered.nodup_handleIDs (registered : hub.Registered) : hub.handleIDs.Nodup :=
  registered.given.sublist (List.sublist_append_left _ _)

/-- An action that publishes nothing and removes no handle is queued. -/
theorem Registered.enqueue (registered : hub.Registered) {action : HubAction}
    (publishes : action.publishes = none)
    (replay : ∀ handles, HubAction.replay handles action = handles) :
    (hub.enqueue action).Registered := by
  have given : (hub.enqueue action).givenIDs = hub.givenIDs := by
    unfold givenIDs DeviceHub.enqueue handleIDs
    rw [List.filterMap_append]
    simp [publishes]
  have replayed : (hub.enqueue action).queue.foldl HubAction.replay hub.handles =
      hub.deviceHandles := by
    unfold DeviceHub.enqueue
    rw [List.foldl_append, registered.replayed]
    exact replay _
  exact { registered with
    replayed := replayed
    given := by
      rw [given]
      exact registered.given
    givenBelow := by
      rw [given]
      exact registered.givenBelow }

section Fresh

variable {ids : List DeviceID} {last : DeviceID}

theorem nodup_concat_succ (nodup : ids.Nodup) (below : ∀ id ∈ ids, id ≤ last) :
    (ids ++ [last + 1]).Nodup := by
  refine List.nodup_append_comm.mp (List.nodup_cons.mpr ⟨fun member => ?_, nodup⟩)
  exact Nat.not_succ_le_self _ (below _ member)

theorem le_succ_of_mem_concat (below : ∀ id ∈ ids, id ≤ last) :
    ∀ id ∈ ids ++ [last + 1], id ≤ last + 1 := by
  intro id member
  rcases List.mem_append.mp member with old | new
  · exact Nat.le_succ_of_le (below id old)
  · exact (List.mem_singleton.mp new).le

end Fresh

theorem Registered.addDevice (registered : hub.Registered) {key : InputDeviceID} {handle : Device}
    (unknown : key ∉ hub.devices.map RegisteredDevice.device)
    (numbered : handle.id = hub.deviceIDGenerator + 1) :
    Registered { hub with
      deviceIDGenerator := hub.deviceIDGenerator + 1
      devices := hub.devices ++ [⟨key, handle⟩]
      queue := hub.queue ++ [.addDeviceHandle handle] } := by
  have given : hub.handleIDs ++
      (hub.queue ++ [HubAction.addDeviceHandle handle]).filterMap HubAction.publishes =
        hub.givenIDs ++ [hub.deviceIDGenerator + 1] := by
    rw [← numbered, List.filterMap_append, ← List.append_assoc]
    rfl
  have handles : (hub.devices ++ [RegisteredDevice.mk key handle]).map RegisteredDevice.handle =
      hub.deviceHandles ++ [handle] := List.map_append
  have devices : ((hub.devices ++ [RegisteredDevice.mk key handle]).map
      RegisteredDevice.handle).map Device.id = hub.deviceIDs ++ [hub.deviceIDGenerator + 1] := by
    rw [handles, List.map_append, ← numbered]
    rfl
  exact {
    replayed := by
      dsimp only
      rw [List.foldl_append, registered.replayed]
      exact handles.symm
    given := by
      have nodup := nodup_concat_succ registered.given registered.givenBelow
      rw [← given] at nodup
      exact nodup
    givenBelow := by
      have below := le_succ_of_mem_concat registered.givenBelow
      rw [← given] at below
      exact below
    devices := by
      dsimp only
      rw [List.map_append]
      exact List.nodup_append_comm.mp (List.nodup_cons.mpr ⟨unknown, registered.devices⟩)
    deviceIDs := by
      have nodup := nodup_concat_succ registered.deviceIDs registered.deviceIDsBelow
      rw [← devices] at nodup
      exact nodup
    deviceIDsBelow := by
      have below := le_succ_of_mem_concat registered.deviceIDsBelow
      rw [← devices] at below
      exact below }

/-! ### Removing a device -/

theorem replay_removals (items : List RegisteredDevice) (handles : List Device) :
    (items.map fun item => HubAction.removeDeviceHandle item.handle.id).foldl HubAction.replay
        handles =
      handles.filter fun handle => decide (handle.id ∉ items.map fun item => item.handle.id) := by
  induction items generalizing handles with
  | nil => simp
  | cons item rest inductionHypothesis =>
    rw [List.map_cons, List.foldl_cons, inductionHypothesis]
    unfold HubAction.replay
    rw [List.filter_filter]
    refine List.filter_congr fun handle _ => ?_
    rw [← Bool.decide_and]
    refine decide_eq_decide.mpr ?_
    rw [List.map_cons, List.mem_cons, not_or, and_comm]

/-- The handles of the devices that stay are those that are not of a device that goes. -/
theorem Registered.deviceHandles_filter (registered : hub.Registered) (key : InputDeviceID) :
    hub.deviceHandles.filter (fun handle => decide (handle.id ∉
        (hub.devices.filter fun item => decide (item.device = key)).map
          fun item => item.handle.id)) =
      (hub.devices.filter fun item => decide (item.device ≠ key)).map RegisteredDevice.handle := by
  have ids : (hub.devices.map fun item => item.handle.id).Nodup := by
    have nodup := registered.deviceIDs
    unfold DeviceHub.deviceIDs DeviceHub.deviceHandles at nodup
    rwa [List.map_map] at nodup
  unfold DeviceHub.deviceHandles
  rw [List.filter_map]
  congr 1
  refine List.filter_congr fun item member => decide_eq_decide.mpr (not_congr ?_)
  constructor
  · intro matched
    obtain ⟨other, goes, same⟩ := List.mem_map.mp matched
    obtain ⟨known, ofKey⟩ := List.mem_filter.mp goes
    rw [← List.inj_on_of_nodup_map ids known member same]
    exact of_decide_eq_true ofKey
  · intro ofKey
    exact List.mem_map_of_mem (List.mem_filter.mpr ⟨member, decide_eq_true ofKey⟩)

theorem Registered.removeDevice (registered : hub.Registered) (key : InputDeviceID) :
    Registered { hub with
      devices := hub.devices.filter fun item => decide (item.device ≠ key)
      queue := hub.queue ++ (hub.devices.filter fun item => decide (item.device = key)).map
        fun item => .removeDeviceHandle item.handle.id } := by
  have kept : (hub.devices.filter fun item => decide (item.device ≠ key)).Sublist hub.devices :=
    List.filter_sublist
  have given : (hub.queue ++ (hub.devices.filter fun item => decide (item.device = key)).map
      fun item => HubAction.removeDeviceHandle item.handle.id).filterMap HubAction.publishes =
        hub.queue.filterMap HubAction.publishes := by
    rw [List.filterMap_append, List.filterMap_map]
    simp [HubAction.publishes, Function.comp_def]
  exact {
    replayed := by
      dsimp only
      rw [List.foldl_append, registered.replayed, replay_removals]
      exact registered.deviceHandles_filter key
    given := by
      unfold givenIDs
      rw [given]
      exact registered.given
    givenBelow := by
      unfold givenIDs
      rw [given]
      exact registered.givenBelow
    devices := registered.devices.sublist (kept.map _)
    deviceIDs := registered.deviceIDs.sublist ((kept.map _).map _)
    deviceIDsBelow := fun id member =>
      registered.deviceIDsBelow id (((kept.map _).map _).subset member) }

/-! ### Working off the queue -/

theorem removeDeviceHandle_noMatch {id : DeviceID}
    (noMatch : hub.handles.filter (fun handle => decide (handle.id = id)) = []) :
    hub.removeDeviceHandle id = hub :=
  if_pos noMatch

theorem filter_eq_self_of_noMatch {id : DeviceID}
    (noMatch : hub.handles.filter (fun handle => decide (handle.id = id)) = []) :
    hub.handles.filter (fun handle => decide (handle.id ≠ id)) = hub.handles := by
  refine List.filter_eq_self.mpr fun handle member => decide_eq_true fun same => ?_
  exact List.filter_eq_nil_iff.mp noMatch handle member (decide_eq_true same)

/-- A number is of one handle. -/
theorem matching_singleton (nodup : hub.handleIDs.Nodup) {id : DeviceID}
    (matched : hub.handles.filter (fun handle => decide (handle.id = id)) ≠ []) :
    ∃ handle ∈ hub.handles, handle.id = id ∧
      hub.handles.filter (fun handle => decide (handle.id = id)) = [handle] := by
  have ids : ((hub.handles.filter fun handle => decide (handle.id = id)).map Device.id).Nodup :=
    nodup.sublist (List.filter_sublist.map _)
  have known : ∀ handle ∈ hub.handles.filter fun handle => decide (handle.id = id),
      handle ∈ hub.handles ∧ handle.id = id :=
    fun handle member => (List.mem_filter.mp member).imp_right of_decide_eq_true
  cases matching : hub.handles.filter fun handle => decide (handle.id = id) with
  | nil => exact absurd matching matched
  | cons handle rest =>
    rw [matching] at ids known
    obtain ⟨member, same⟩ := known handle List.mem_cons_self
    refine ⟨handle, member, same, ?_⟩
    cases rest with
    | nil => rfl
    | cons other rest =>
      have otherSame := (known other (List.mem_cons_of_mem _ List.mem_cons_self)).2
      refine absurd ?_ (List.nodup_cons.mp ids).1
      rw [same, ← otherSame]
      exact List.mem_cons_self

section Perform

variable (hub) (action : HubAction)

theorem perform_handles : (hub.perform action).handles = action.replay hub.handles := by
  cases action with
  | addDeviceHandle handle => rfl
  | removeDeviceHandle id =>
    show (hub.removeDeviceHandle id).handles = _
    by_cases noMatch : hub.handles.filter (fun handle => decide (handle.id = id)) = []
    · rw [removeDeviceHandle_noMatch noMatch]
      exact (filter_eq_self_of_noMatch noMatch).symm
    · unfold removeDeviceHandle
      rw [if_neg noMatch]
      rfl
  | addObserver observer => rfl
  | removeObserver observer => cases observer <;> rfl

/-- An action leaves the devices, the numbers and the queue alone. -/
theorem perform_frame : (hub.perform action).devices = hub.devices ∧
    (hub.perform action).deviceIDGenerator = hub.deviceIDGenerator ∧
    (hub.perform action).queue = hub.queue := by
  cases action with
  | addDeviceHandle handle => exact ⟨rfl, rfl, rfl⟩
  | removeDeviceHandle id =>
    unfold perform removeDeviceHandle
    dsimp only
    split_ifs <;> exact ⟨rfl, rfl, rfl⟩
  | addObserver observer => exact ⟨rfl, rfl, rfl⟩
  | removeObserver observer => cases observer <;> exact ⟨rfl, rfl, rfl⟩

end Perform

/-- Nothing is given that was not given before an action. -/
theorem given_sublist (handles : List Device) (action : HubAction) (rest : List HubAction) :
    ((action.replay handles).map Device.id ++ rest.filterMap HubAction.publishes).Sublist
      (handles.map Device.id ++ (action :: rest).filterMap HubAction.publishes) := by
  cases action with
  | addDeviceHandle handle =>
    unfold HubAction.replay
    rw [List.map_append, List.append_assoc]
    exact List.Sublist.refl _
  | removeDeviceHandle id => exact (List.filter_sublist.map _).append (List.Sublist.refl _)
  | addObserver observer => exact List.Sublist.refl _
  | removeObserver observer => exact List.Sublist.refl _

theorem Registered.perform {action : HubAction} {rest : List HubAction}
    (registered : hub.Registered) (queue : hub.queue = action :: rest) :
    (DeviceHub.perform { hub with queue := rest } action).Registered := by
  obtain ⟨devices, generator, left⟩ := perform_frame { hub with queue := rest } action
  have handles := perform_handles { hub with queue := rest } action
  have given : (DeviceHub.perform { hub with queue := rest } action).givenIDs.Sublist
      hub.givenIDs := by
    unfold givenIDs handleIDs
    rw [handles, left, queue]
    exact given_sublist hub.handles action rest
  have replayed := registered.replayed
  rw [queue, List.foldl_cons] at replayed
  exact {
    replayed := by
      unfold DeviceHub.deviceHandles
      rw [handles, left, devices]
      exact replayed
    given := registered.given.sublist given
    givenBelow := fun id member => by
      rw [generator]
      exact registered.givenBelow id (given.subset member)
    devices := by
      rw [devices]
      exact registered.devices
    deviceIDs := by
      unfold DeviceHub.deviceIDs DeviceHub.deviceHandles
      rw [devices]
      exact registered.deviceIDs
    deviceIDsBelow := by
      unfold DeviceHub.deviceIDs DeviceHub.deviceHandles
      rw [devices, generator]
      exact registered.deviceIDsBelow }

end DeviceHub

end Mir.Input

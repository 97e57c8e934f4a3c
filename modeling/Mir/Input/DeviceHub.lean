/-
This file models the hub of the input devices. Devices are registered at once, while their handles
are published, and the observers and clients told, by actions on the observer queue, which is
worked off in its order. What devices are for the seat, the descriptions of devices, and what an
observer does when it is told is left out.
-/

import Mir.Input.ConfigChanger

namespace Mir.Input

/-- The identity of an input device of a platform. -/
abbrev InputDeviceID := Nat

abbrev ObserverID := Nat

inductive HubError
  | invalidInputDevice
  | alreadyManaged
  | notManaged
  deriving DecidableEq

def HubError.what : HubError → String
  | .invalidInputDevice => "Invalid input device"
  | .alreadyManaged => "Input device already managed by server"
  | .notManaged => "Input device not managed by server"

structure RegisteredDevice where
  device : InputDeviceID
  handle : Device
  deriving DecidableEq

/-- What is on the observer queue. A weak reference to an observer may have expired. -/
inductive HubAction
  | addDeviceHandle (handle : Device)
  | removeDeviceHandle (id : DeviceID)
  | addObserver (observer : ObserverID)
  | removeObserver (observer : Option ObserverID)
  deriving DecidableEq

/-- What observers, clients and the status listener are told. For the statements only,
`observerErased` notes that an observer was removed. -/
inductive HubNotice
  | deviceAdded (observer : ObserverID) (id : DeviceID)
  | deviceRemoved (observer : ObserverID) (id : DeviceID)
  | changesComplete (observer : ObserverID)
  | observerErased (observer : ObserverID)
  | inputConfigChange (config : InputConfig)
  | readyForUserInput
  | stopReceivingInput
  deriving DecidableEq

structure DeviceHub where
  devices : List RegisteredDevice
  deviceIDGenerator : DeviceID
  handles : List Device
  config : InputConfig
  observers : List ObserverID
  ready : Bool
  queue : List HubAction
  notices : List HubNotice
  deriving DecidableEq

namespace DeviceHub

def initial : DeviceHub := ⟨[], 0, [], [], [], false, [], []⟩

variable (hub : DeviceHub)

def enqueue (action : HubAction) : DeviceHub := { hub with queue := hub.queue ++ [action] }

/-! ### Requests -/

/-- A device with settings of its own; its handle gets the next number. -/
def addDevice (device : Option InputDeviceID) (settings : Device) : Except HubError DeviceHub :=
  match device with
  | none => .error .invalidInputDevice
  | some device =>
    if device ∈ hub.devices.map RegisteredDevice.device then .error .alreadyManaged
    else
      let handle := { settings with id := hub.deviceIDGenerator + 1 }
      .ok
        { hub with
          deviceIDGenerator := hub.deviceIDGenerator + 1
          devices := hub.devices ++ [⟨device, handle⟩]
          queue := hub.queue ++ [.addDeviceHandle handle] }

def removeDevice (device : Option InputDeviceID) : Except HubError DeviceHub :=
  match device with
  | none => .error .invalidInputDevice
  | some device =>
    let matching := hub.devices.filter fun item => decide (item.device = device)
    if matching = [] then .error .notManaged
    else
      .ok
        { hub with
          devices := hub.devices.filter fun item => decide (item.device ≠ device)
          queue := hub.queue ++ matching.map fun item => .removeDeviceHandle item.handle.id }

def addObserver (observer : ObserverID) : DeviceHub := hub.enqueue (.addObserver observer)

def removeObserver (observer : Option ObserverID) : DeviceHub :=
  hub.enqueue (.removeObserver observer)

/-! ### Actions -/

/-- Each observer is told of a device, and that this is all. -/
def tellAll (observers : List ObserverID) (notice : ObserverID → HubNotice) : List HubNotice :=
  observers.flatMap fun observer => [notice observer, .changesComplete observer]

def addDeviceHandle (handle : Device) : DeviceHub :=
  let config := hub.config.addDeviceConfig handle.getDeviceConfig
  { hub with
    handles := hub.handles ++ [handle]
    config := config
    ready := true
    notices := hub.notices ++ [.inputConfigChange config] ++
      tellAll hub.observers (fun observer => .deviceAdded observer handle.id) ++
      if hub.ready = true then [] else [.readyForUserInput] }

def removeDeviceHandle (id : DeviceID) : DeviceHub :=
  let matching := hub.handles.filter fun handle => decide (handle.id = id)
  if matching = [] then hub
  else
    let handles := hub.handles.filter fun handle => decide (handle.id ≠ id)
    let config := hub.config.removeDeviceById id
    { hub with
      handles := handles
      config := config
      ready := hub.ready && !handles.isEmpty
      notices := hub.notices ++
        (matching.flatMap fun handle =>
          tellAll hub.observers fun observer => .deviceRemoved observer handle.id) ++
        [.inputConfigChange config] ++
        if hub.ready = true ∧ handles = [] then [.stopReceivingInput] else [] }

def registerObserver (observer : ObserverID) : DeviceHub :=
  { hub with
    observers := hub.observers ++ [observer]
    notices := hub.notices ++
      (hub.handles.map fun handle => .deviceAdded observer handle.id) ++
      [.changesComplete observer] }

def eraseObserver (observer : Option ObserverID) : DeviceHub :=
  match observer with
  | none => hub
  | some observer =>
    { hub with
      observers := hub.observers.filter fun other => decide (other ≠ observer)
      notices := hub.notices ++ [.observerErased observer] }

def perform : HubAction → DeviceHub
  | .addDeviceHandle handle => hub.addDeviceHandle handle
  | .removeDeviceHandle id => hub.removeDeviceHandle id
  | .addObserver observer => hub.registerObserver observer
  | .removeObserver observer => hub.eraseObserver observer

def runAction : DeviceHub :=
  match hub.queue with
  | [] => hub
  | action :: rest => perform { hub with queue := rest } action

end DeviceHub

inductive HubOp
  | addDevice (device : Option InputDeviceID) (settings : Device)
  | removeDevice (device : Option InputDeviceID)
  | addObserver (observer : ObserverID)
  | removeObserver (observer : Option ObserverID)
  | runAction
  deriving DecidableEq

/-- A request that throws changes nothing. -/
def DeviceHub.step (hub : DeviceHub) : HubOp → DeviceHub
  | .addDevice device settings =>
    match hub.addDevice device settings with
    | .ok next => next
    | .error _ => hub
  | .removeDevice device =>
    match hub.removeDevice device with
    | .ok next => next
    | .error _ => hub
  | .addObserver observer => hub.addObserver observer
  | .removeObserver observer => hub.removeObserver observer
  | .runAction => hub.runAction

/-! ### What an observer was told -/

def HubNotice.tell (observer : ObserverID) (id : DeviceID) (balance : Int) : HubNotice → Int
  | .deviceAdded other added => if other = observer ∧ added = id then balance + 1 else balance
  | .deviceRemoved other removed =>
    if other = observer ∧ removed = id then balance - 1 else balance
  | .observerErased other => if other = observer then 0 else balance
  | _ => balance

/-- The additions of a device less its removals of which an observer was told since it was removed
last. -/
def toldBalance (observer : ObserverID) (id : DeviceID) (notices : List HubNotice) : Int :=
  notices.foldl (HubNotice.tell observer id) 0

/-- The same of all that an observer was ever told. -/
def toldEver (observer : ObserverID) (id : DeviceID) (notices : List HubNotice) : Int :=
  notices.count (.deviceAdded observer id) - notices.count (.deviceRemoved observer id)

/-- The input configuration that clients were sent last. -/
def sentConfig (notices : List HubNotice) : InputConfig :=
  notices.foldl
    (fun sent notice =>
      match notice with
      | .inputConfigChange config => config
      | _ => sent)
    []

end Mir.Input

/-
This file models how input configurations are chosen. There is a base configuration, and sessions
may have one of their own, which is applied while they are focused. A configuration is applied
device by device and setting by setting, and an invalid setting is refused by an exception that
leaves what was applied before. The hub's devices are those that are published; a device that is
being removed is disabled first and published for a while. What sessions are sent, and what the
hardware makes of its settings, is left out. Numbers are finite.
-/

import Mathlib.Data.Rat.Defs
import Mathlib.Logic.Function.Basic
import Mir.Input.Event
import Mir.Library.Transition

namespace Mir.Input

/-- The identity of a session. -/
abbrev SessionID := Nat

/-! ### Configurations -/

structure PointerConfig where
  handedness : Nat
  acceleration : Nat
  cursorAccelerationBias : Rat
  horizontalScrollScale : Rat
  verticalScrollScale : Rat
  deriving DecidableEq

structure TouchpadConfig where
  clickMode : BitVec 32
  scrollMode : BitVec 32
  buttonDownScrollButton : Int
  tapToClick : Bool
  disableWhileTyping : Bool
  disableWithMouse : Bool
  middleMouseButtonEmulation : Bool
  deriving DecidableEq

structure Keymap where
  model : String
  layout : String
  variant : String
  options : String
  deriving DecidableEq

structure KeyboardConfig where
  deviceKeymap : Keymap
  deriving DecidableEq

/-- The bit of `mir_touchpad_scroll_mode_button_down_scroll`. -/
def buttonDownScrollBit : Nat := 2

def noScrollButton : Int := 0

def PointerConfig.outOfRange (conf : PointerConfig) : Bool :=
  decide (conf.cursorAccelerationBias < -1) || decide (1 < conf.cursorAccelerationBias)

def TouchpadConfig.lacksScrollButton (conf : TouchpadConfig) : Bool :=
  conf.scrollMode.getLsbD buttonDownScrollBit &&
    decide (conf.buttonDownScrollButton = noScrollButton)

/-- The configuration of one device. -/
structure DeviceConfig where
  id : DeviceID
  pointer : Option PointerConfig
  touchpad : Option TouchpadConfig
  keyboard : Option KeyboardConfig
  deriving DecidableEq

abbrev InputConfig := List DeviceConfig

namespace InputConfig

variable (config : InputConfig)

def addDeviceConfig (conf : DeviceConfig) : InputConfig := config ++ [conf]

/-- The first of the device. -/
def getDeviceConfigById (id : DeviceID) : Option DeviceConfig :=
  config.find? fun conf => decide (conf.id = id)

def removeDeviceById (id : DeviceID) : InputConfig :=
  config.filter fun conf => decide (conf.id ≠ id)

end InputConfig

/-! ### Devices -/

inductive ApplyError
  | cannotApplyPointer
  | biasOutOfRange
  | cannotApplyTouchpad
  | noScrollButtonConfigured
  | cannotApplyKeyboard
  | illegalKeymap (keymap : Keymap)
  deriving DecidableEq

def ApplyError.what : ApplyError → String
  | .cannotApplyPointer => "Cannot apply a pointer configuration"
  | .biasOutOfRange => "Cursor acceleration bias out of range"
  | .cannotApplyTouchpad => "Cannot apply a touchpad configuration"
  | .noScrollButtonConfigured => "No scroll button configured"
  | .cannotApplyKeyboard => "Cannot apply a keyboard configuration"
  | .illegalKeymap keymap =>
    "Illegal keymap configuration evdev-" ++ keymap.model ++ "-" ++ keymap.layout ++ "-" ++
      keymap.variant ++ "-" ++ keymap.options

/-- A published device with its settings, those that it can have. It is enabled while it has a
queue of actions. -/
structure Device where
  id : DeviceID
  pointer : Option PointerConfig
  touchpad : Option TouchpadConfig
  keyboard : Option KeyboardConfig
  enabled : Bool
  deriving DecidableEq

namespace Device

variable (compiles : Keymap → Bool) (device : Device)

def applyPointerConfiguration (conf : PointerConfig) : Device × Option ApplyError :=
  match device.pointer with
  | none => (device, some .cannotApplyPointer)
  | some _ =>
    if conf.outOfRange = true then (device, some .biasOutOfRange)
    else ({ device with pointer := some conf }, none)

def applyTouchpadConfiguration (conf : TouchpadConfig) : Device × Option ApplyError :=
  match device.touchpad with
  | none => (device, some .cannotApplyTouchpad)
  | some _ =>
    if conf.lacksScrollButton = true then (device, some .noScrollButtonConfigured)
    else ({ device with touchpad := some conf }, none)

/-- A disabled device keeps its keymap. A new one is stored before it is compiled. -/
def applyKeyboardConfiguration (conf : KeyboardConfig) : Device × Option ApplyError :=
  match device.keyboard with
  | none => (device, some .cannotApplyKeyboard)
  | some current =>
    if device.enabled = false ∨ current.deviceKeymap = conf.deviceKeymap then (device, none)
    else
      ({ device with keyboard := some conf },
        if compiles conf.deviceKeymap = true then none
        else some (.illegalKeymap conf.deviceKeymap))

/-- What is applied next unless an exception was thrown. -/
def andThen (result : Device × Option ApplyError) (next : Device → Device × Option ApplyError) :
    Device × Option ApplyError :=
  match result with
  | (device, none) => next device
  | (device, some error) => (device, some error)

/-- A configuration is applied if there is one and the device can have one. -/
def applyIfSet {Config : Type} (conf current : Option Config)
    (apply : Config → Device × Option ApplyError) : Device × Option ApplyError :=
  match conf, current with
  | some conf, some _ => apply conf
  | _, _ => (device, none)

def applyDeviceConfig (config : Option DeviceConfig) : Device × Option ApplyError :=
  match config with
  | none => (device, none)
  | some config =>
    andThen
      (andThen
        (device.applyIfSet config.pointer device.pointer device.applyPointerConfiguration)
        fun device =>
          device.applyIfSet config.touchpad device.touchpad device.applyTouchpadConfiguration)
      fun device =>
        device.applyIfSet config.keyboard device.keyboard
          (device.applyKeyboardConfiguration compiles)

def getDeviceConfig : DeviceConfig := ⟨device.id, device.pointer, device.touchpad, device.keyboard⟩

end Device

/-- The devices in their order up to the one that throws. -/
def applyToDevices (compiles : Keymap → Bool) (config : InputConfig) :
    List Device → List Device × Option ApplyError
  | [] => ([], none)
  | device :: rest =>
    match device.applyDeviceConfig compiles (config.getDeviceConfigById device.id) with
    | (applied, some error) => (applied :: rest, some error)
    | (applied, none) =>
      let others := applyToDevices compiles config rest
      (applied :: others.1, others.2)

/-- The hub numbers its devices. -/
def numbered (lastID : DeviceID) : List Device → List Device
  | [] => []
  | device :: rest => { device with id := lastID + 1 } :: numbered (lastID + 1) rest

/-! ### The changer -/

/-- The changer with the devices of the hub. -/
structure ConfigChanger where
  devices : List Device
  lastID : DeviceID
  base : InputConfig
  baseConfigurationApplied : Bool
  focusedSession : Option SessionID
  configMap : SessionID → Option InputConfig

inductive ConfigOp
  | configure (session : SessionID) (config : InputConfig)
  | setBaseConfiguration (config : InputConfig)
  | devicesUpdated (added : List Device) (removed : List DeviceID)
  | disableDevice (id : DeviceID)
  | focusChange (session : SessionID)
  | noFocus
  | sessionStopping (session : SessionID)

namespace ConfigChanger

def initial : ConfigChanger := ⟨[], 0, [], true, none, fun _ => none⟩

variable (compiles : Keymap → Bool) (changer : ConfigChanger)

def applyConfig (config : InputConfig) : ConfigChanger × Option ApplyError :=
  match applyToDevices compiles config changer.devices with
  | (devices, none) =>
    ({ changer with devices := devices, baseConfigurationApplied := false }, none)
  | (devices, some error) => ({ changer with devices := devices }, some error)

/-- The session is sent the error. -/
def applyConfigAtSession (config : InputConfig) : ConfigChanger :=
  (changer.applyConfig compiles config).1

def applyBaseConfig : ConfigChanger × Option ApplyError :=
  match changer.applyConfig compiles changer.base with
  | (applied, none) => ({ applied with baseConfigurationApplied := true }, none)
  | (failed, some error) => (failed, some error)

def configure (session : SessionID) (config : InputConfig) : ConfigChanger :=
  let known :=
    { changer with configMap := Function.update changer.configMap session (some config) }
  if changer.focusedSession = some session then known.applyConfigAtSession compiles config
  else known

def setBaseConfiguration (config : InputConfig) : ConfigChanger × Option ApplyError :=
  applyBaseConfig compiles { changer with base := config }

/-- What the hub's change of its devices makes of one configuration. -/
def updated (added : List Device) (removed : List DeviceID) (config : InputConfig) : InputConfig :=
  (added.map Device.getDeviceConfig).foldl InputConfig.addDeviceConfig
    (removed.foldl InputConfig.removeDeviceById config)

/-- The hub publishes devices that were added, and those that were removed no longer. -/
def devicesUpdated (added : List Device) (removed : List DeviceID) : ConfigChanger :=
  let new := numbered changer.lastID added
  { changer with
    devices := (changer.devices.filter fun device => decide (device.id ∉ removed)) ++ new
    lastID := changer.lastID + added.length
    base := updated new removed changer.base
    configMap := fun session => (changer.configMap session).map (updated new removed) }

def disableDevice (id : DeviceID) : ConfigChanger :=
  { changer with
    devices := changer.devices.map fun device =>
      if device.id = id then { device with enabled := false } else device }

def focusChange (session : SessionID) : ConfigChanger × Option ApplyError :=
  let focused := { changer with focusedSession := some session }
  match changer.configMap session with
  | some config => (focused.applyConfigAtSession compiles config, none)
  | none =>
    if changer.baseConfigurationApplied = false then focused.applyBaseConfig compiles
    else (focused, none)

def noFocus : ConfigChanger × Option ApplyError :=
  let unfocused := { changer with focusedSession := none }
  if changer.baseConfigurationApplied = false then unfocused.applyBaseConfig compiles
  else (unfocused, none)

def sessionStopping (session : SessionID) : ConfigChanger :=
  { changer with configMap := Function.update changer.configMap session none }

/-- An exception goes to the caller. -/
def step : ConfigOp → ConfigChanger
  | .configure session config => changer.configure compiles session config
  | .setBaseConfiguration config => (changer.setBaseConfiguration compiles config).1
  | .devicesUpdated added removed => changer.devicesUpdated added removed
  | .disableDevice id => changer.disableDevice id
  | .focusChange session => (changer.focusChange compiles session).1
  | .noFocus => (changer.noFocus compiles).1
  | .sessionStopping session => changer.sessionStopping session

end ConfigChanger

end Mir.Input

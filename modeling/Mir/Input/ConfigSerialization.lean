/-
This file embeds how the configurations of the input devices are written into a message for a
client and read from it. It proves that every device comes back in its place with the settings that
it had, its floating-point numbers rounded to single precision.

Double and single precision are any two types with conversions between them. A message stands for
what is in it, field by field at the width that the schema gives; that a buffer holds the message
which was flattened into it is the law of the transport.
-/

import Mir.Input.ConfigChanger

namespace Mir.Input

/-! ### The configurations -/

inductive MirPointerHandedness
  | right
  | left
  deriving DecidableEq, Repr

inductive MirPointerAcceleration
  | none
  | adaptive
  deriving DecidableEq, Repr

inductive MirTouchscreenMappingMode
  | toOutput
  | toDisplayWall
  deriving DecidableEq, Repr

structure MirPointerConfig (Double : Type) where
  handedness : MirPointerHandedness
  acceleration : MirPointerAcceleration
  cursorAccelerationBias : Double
  horizontalScrollScale : Double
  verticalScrollScale : Double
  deriving DecidableEq

structure MirTouchpadConfig where
  clickMode : UInt32
  scrollMode : UInt32
  buttonDownScrollButton : Int32
  tapToClick : Bool
  middleMouseButtonEmulation : Bool
  disableWithMouse : Bool
  disableWhileTyping : Bool
  deriving DecidableEq

structure MirTouchscreenConfig where
  outputID : UInt32
  mappingMode : MirTouchscreenMappingMode
  deriving DecidableEq

structure MirKeyboardConfig where
  deviceKeymap : Keymap
  deriving DecidableEq

structure MirInputDevice (Double : Type) where
  id : Int64
  caps : UInt32
  uniqueID : String
  name : String
  pointer : Option (MirPointerConfig Double)
  touchpad : Option MirTouchpadConfig
  keyboard : Option MirKeyboardConfig
  touchscreen : Option MirTouchscreenConfig
  deriving DecidableEq

structure MirInputConfig (Double : Type) where
  devices : List (MirInputDevice Double)
  deriving DecidableEq

variable {Double Single Buffer : Type}

/-! The constructors take their arguments by position, the booleans of a touchpad in another order
than its fields have. -/

def MirPointerConfig.make (handedness : MirPointerHandedness)
    (acceleration : MirPointerAcceleration) (accelerationBias horizontalScrollScale
    verticalScrollScale : Double) : MirPointerConfig Double :=
  ⟨handedness, acceleration, accelerationBias, horizontalScrollScale, verticalScrollScale⟩

def MirTouchpadConfig.make (clickMode scrollMode : UInt32) (buttonDownScrollButton : Int32)
    (tapToClick disableWhileTyping disableWithMouse middleMouseButtonEmulation : Bool) :
    MirTouchpadConfig :=
  ⟨clickMode, scrollMode, buttonDownScrollButton, tapToClick, middleMouseButtonEmulation,
    disableWithMouse, disableWhileTyping⟩

def MirInputDevice.make (id : Int64) (caps : UInt32) (name uniqueID : String) :
    MirInputDevice Double :=
  ⟨id, caps, uniqueID, name, none, none, none, none⟩

def MirInputConfig.addDeviceConfig (config : MirInputConfig Double)
    (conf : MirInputDevice Double) : MirInputConfig Double :=
  ⟨config.devices ++ [conf]⟩

/-! ### The message -/

namespace Capnp

inductive Handedness
  | right
  | left
  deriving DecidableEq, Repr

inductive Acceleration
  | none
  | adaptive
  deriving DecidableEq, Repr

inductive MappingMode
  | toOutput
  | toDisplayWall
  deriving DecidableEq, Repr

structure PointerConfig (Single : Type) where
  handedness : Handedness
  acceleration : Acceleration
  cursorAccelerationBias : Single
  horizontalScrollScale : Single
  verticalScrollScale : Single

structure TouchscreenConfig where
  outputID : UInt32
  mappingMode : MappingMode

structure TouchpadConfig where
  clickMode : UInt32
  scrollMode : UInt32
  buttonDownScrollButton : Int32
  tapToClick : Bool
  middleMouseButtonEmulation : Bool
  disableWithMouse : Bool
  disableWhileTyping : Bool

structure KeyboardConfig where
  keymap : Keymap

/-- A part that was not initialised is absent, and the reader can tell. -/
structure DeviceConfiguration (Single : Type) where
  id : UInt64
  capabilities : Int32
  name : String
  uniqueID : String
  pointerConfig : Option (PointerConfig Single)
  touchpadConfig : Option TouchpadConfig
  keyboardConfig : Option KeyboardConfig
  touchscreenConfig : Option TouchscreenConfig

structure InputConfig (Single : Type) where
  devices : List (DeviceConfiguration Single)

/-- What a list that was initialised consists of. -/
def DeviceConfiguration.blank : DeviceConfiguration Single :=
  ⟨0, 0, "", "", none, none, none, none⟩

def InputConfig.initDevices (size : Nat) : InputConfig Single := ⟨List.replicate size .blank⟩

/-- How a message becomes a buffer and is read from one. -/
structure Transport (Single Buffer : Type) where
  messageToFlatArray : InputConfig Single → Buffer
  getRoot : Buffer → InputConfig Single
  getRoot_messageToFlatArray : ∀ message, getRoot (messageToFlatArray message) = message

end Capnp

/-! ### Writing -/

section Serialize

variable (narrow : Double → Single)

def serializePointer (conf : MirPointerConfig Double) : Capnp.PointerConfig Single where
  handedness := if conf.handedness = .right then .right else .left
  acceleration := if conf.acceleration = .adaptive then .adaptive else .none
  cursorAccelerationBias := narrow conf.cursorAccelerationBias
  horizontalScrollScale := narrow conf.horizontalScrollScale
  verticalScrollScale := narrow conf.verticalScrollScale

def serializeTouchpad (conf : MirTouchpadConfig) : Capnp.TouchpadConfig where
  clickMode := conf.clickMode
  scrollMode := conf.scrollMode
  buttonDownScrollButton := conf.buttonDownScrollButton
  tapToClick := conf.tapToClick
  middleMouseButtonEmulation := conf.middleMouseButtonEmulation
  disableWithMouse := conf.disableWithMouse
  disableWhileTyping := conf.disableWhileTyping

def serializeTouchscreen (conf : MirTouchscreenConfig) : Capnp.TouchscreenConfig where
  outputID := conf.outputID
  mappingMode := if conf.mappingMode = .toOutput then .toOutput else .toDisplayWall

def serializeKeyboard (conf : MirKeyboardConfig) : Capnp.KeyboardConfig where
  keymap := ⟨conf.deviceKeymap.model, conf.deviceKeymap.layout, conf.deviceKeymap.variant,
    conf.deviceKeymap.options⟩

/-- The parts that a device does not have are left as they are. -/
def serializeDevice (conf : MirInputDevice Double) (device : Capnp.DeviceConfiguration Single) :
    Capnp.DeviceConfiguration Single where
  id := conf.id.toUInt64
  capabilities := conf.caps.toInt32
  name := conf.name
  uniqueID := conf.uniqueID
  pointerConfig := (conf.pointer.map (serializePointer narrow)).or device.pointerConfig
  touchpadConfig := (conf.touchpad.map serializeTouchpad).or device.touchpadConfig
  keyboardConfig := (conf.keyboard.map serializeKeyboard).or device.keyboardConfig
  touchscreenConfig := (conf.touchscreen.map serializeTouchscreen).or device.touchscreenConfig

/-- The devices of the message, and the iterator that the visitor advances. -/
structure Cursor (Single : Type) where
  devices : List (Capnp.DeviceConfiguration Single)
  position : Nat

def Cursor.write (cursor : Cursor Single) (conf : MirInputDevice Double) : Cursor Single where
  devices := cursor.devices.modify cursor.position (serializeDevice narrow conf)
  position := cursor.position + 1

def inputConfigMessage (config : MirInputConfig Double) : Capnp.InputConfig Single :=
  let initial := Capnp.InputConfig.initDevices config.devices.length
  ⟨(config.devices.foldl (Cursor.write narrow) ⟨initial.devices, 0⟩).devices⟩

def serializeInputConfig (transport : Capnp.Transport Single Buffer)
    (config : MirInputConfig Double) : Buffer :=
  transport.messageToFlatArray (inputConfigMessage narrow config)

end Serialize

/-! ### Reading -/

section Deserialize

variable (widen : Single → Double)

def deserializePointer (conf : Capnp.PointerConfig Single) : MirPointerConfig Double :=
  .make (if conf.handedness = .right then .right else .left)
    (if conf.acceleration = .adaptive then .adaptive else .none)
    (widen conf.cursorAccelerationBias) (widen conf.horizontalScrollScale)
    (widen conf.verticalScrollScale)

def deserializeTouchpad (conf : Capnp.TouchpadConfig) : MirTouchpadConfig :=
  .make conf.clickMode conf.scrollMode conf.buttonDownScrollButton conf.tapToClick
    conf.disableWhileTyping conf.disableWithMouse conf.middleMouseButtonEmulation

def deserializeKeyboard (conf : Capnp.KeyboardConfig) : MirKeyboardConfig :=
  ⟨⟨conf.keymap.model, conf.keymap.layout, conf.keymap.variant, conf.keymap.options⟩⟩

def deserializeTouchscreen (conf : Capnp.TouchscreenConfig) : MirTouchscreenConfig :=
  ⟨conf.outputID, if conf.mappingMode = .toOutput then .toOutput else .toDisplayWall⟩

/-- A part is set where the message has it. -/
def deserializeDevice (device : Capnp.DeviceConfiguration Single) : MirInputDevice Double :=
  let conf := MirInputDevice.make device.id.toInt64 device.capabilities.toUInt32 device.name
    device.uniqueID
  { conf with
    pointer := (device.pointerConfig.map (deserializePointer widen)).or conf.pointer
    touchpad := (device.touchpadConfig.map deserializeTouchpad).or conf.touchpad
    keyboard := (device.keyboardConfig.map deserializeKeyboard).or conf.keyboard
    touchscreen := (device.touchscreenConfig.map deserializeTouchscreen).or conf.touchscreen }

def deserializeInputConfig (transport : Capnp.Transport Single Buffer) (buffer : Buffer) :
    MirInputConfig Double :=
  (transport.getRoot buffer).devices.foldl
    (fun config device => config.addDeviceConfig (deserializeDevice widen device)) ⟨[]⟩

end Deserialize

/-! ### The round trip -/

/-- The numbers of a pointer that are floating-point pass through another precision. -/
def MirPointerConfig.rounded (round : Double → Double) (conf : MirPointerConfig Double) :
    MirPointerConfig Double :=
  { conf with
    cursorAccelerationBias := round conf.cursorAccelerationBias
    horizontalScrollScale := round conf.horizontalScrollScale
    verticalScrollScale := round conf.verticalScrollScale }

def MirInputDevice.rounded (round : Double → Double) (device : MirInputDevice Double) :
    MirInputDevice Double :=
  { device with pointer := device.pointer.map (MirPointerConfig.rounded round) }

def MirInputConfig.rounded (round : Double → Double) (config : MirInputConfig Double) :
    MirInputConfig Double :=
  ⟨config.devices.map (MirInputDevice.rounded round)⟩

variable (narrow : Double → Single) (widen : Single → Double)

@[simp] theorem deserializePointer_serializePointer (conf : MirPointerConfig Double) :
    deserializePointer widen (serializePointer narrow conf) =
      conf.rounded fun value => widen (narrow value) := by
  obtain ⟨handedness, acceleration, _, _, _⟩ := conf
  cases handedness <;> cases acceleration <;> rfl

@[simp] theorem deserializeTouchpad_serializeTouchpad (conf : MirTouchpadConfig) :
    deserializeTouchpad (serializeTouchpad conf) = conf := rfl

@[simp] theorem deserializeKeyboard_serializeKeyboard (conf : MirKeyboardConfig) :
    deserializeKeyboard (serializeKeyboard conf) = conf := rfl

@[simp] theorem deserializeTouchscreen_serializeTouchscreen (conf : MirTouchscreenConfig) :
    deserializeTouchscreen (serializeTouchscreen conf) = conf := by
  obtain ⟨outputID, mappingMode⟩ := conf
  cases mappingMode <;> rfl

/-- A device that was written into a blank one is read back. -/
theorem deserializeDevice_serializeDevice (conf : MirInputDevice Double) :
    deserializeDevice widen (serializeDevice narrow conf .blank) =
      conf.rounded fun value => widen (narrow value) := by
  obtain ⟨id, caps, uniqueID, name, pointer, touchpad, keyboard, touchscreen⟩ := conf
  simp [deserializeDevice, serializeDevice, MirInputDevice.make, MirInputDevice.rounded,
    Capnp.DeviceConfiguration.blank, Function.comp_def]

/-- The iterator is at the first device that is still blank. -/
theorem write_next (conf : MirInputDevice Double)
    (written rest : List (Capnp.DeviceConfiguration Single)) :
    Cursor.write narrow ⟨written ++ .blank :: rest, written.length⟩ conf =
      ⟨written ++ serializeDevice narrow conf .blank :: rest, written.length + 1⟩ :=
  congrArg (Cursor.mk · _) (List.modifyTailIdx_add _ 0 written _)

/-- The visitor writes each device into the next blank one. -/
theorem foldl_write (confs : List (MirInputDevice Double))
    (written : List (Capnp.DeviceConfiguration Single)) :
    (confs.foldl (Cursor.write narrow)
        ⟨written ++ List.replicate confs.length .blank, written.length⟩).devices =
      written ++ confs.map fun conf => serializeDevice narrow conf .blank := by
  induction confs generalizing written with
  | nil => rfl
  | cons conf rest inductionHypothesis =>
    have later := inductionHypothesis (written ++ [serializeDevice narrow conf .blank])
    rw [List.append_assoc, List.append_assoc, List.length_append] at later
    rw [List.foldl_cons, List.length_cons, List.replicate_succ, write_next]
    exact later

theorem devices_inputConfigMessage (config : MirInputConfig Double) :
    (inputConfigMessage narrow config).devices =
      config.devices.map fun conf => serializeDevice narrow conf .blank :=
  foldl_write narrow config.devices []

theorem devices_foldl_addDeviceConfig (devices : List (Capnp.DeviceConfiguration Single))
    (config : MirInputConfig Double) :
    (devices.foldl (fun config device => config.addDeviceConfig (deserializeDevice widen device))
      config).devices = config.devices ++ devices.map (deserializeDevice widen) := by
  induction devices generalizing config with
  | nil => exact (List.append_nil _).symm
  | cons device rest inductionHypothesis =>
    rw [List.foldl_cons, inductionHypothesis, MirInputConfig.addDeviceConfig, List.append_assoc,
      List.map_cons, List.singleton_append]

/-- What is written is read back, device by device in their order, with all its parts and settings;
only the floating-point numbers are rounded. -/
theorem deserializeInputConfig_serializeInputConfig (transport : Capnp.Transport Single Buffer)
    (config : MirInputConfig Double) :
    deserializeInputConfig widen transport (serializeInputConfig narrow transport config) =
      config.rounded fun value => widen (narrow value) := by
  unfold deserializeInputConfig serializeInputConfig
  rw [transport.getRoot_messageToFlatArray]
  have read := devices_foldl_addDeviceConfig widen (inputConfigMessage narrow config).devices ⟨[]⟩
  rw [devices_inputConfigMessage, List.nil_append, List.map_map] at read
  have each : (deserializeDevice widen ∘ fun conf => serializeDevice narrow conf .blank) =
      MirInputDevice.rounded fun value => widen (narrow value) :=
    funext (deserializeDevice_serializeDevice narrow widen)
  rw [each] at read
  rw [devices_inputConfigMessage]
  exact congrArg MirInputConfig.mk read

/-- Where rounding a rounded number changes nothing, a second round trip changes nothing. -/
theorem rounded_rounded {round : Double → Double}
    (settles : ∀ value, round (round value) = round value) (config : MirInputConfig Double) :
    (config.rounded round).rounded round = config.rounded round := by
  have pointers (conf : MirPointerConfig Double) :
      (conf.rounded round).rounded round = conf.rounded round := by
    simp only [MirPointerConfig.rounded, settles]
  have each (device : MirInputDevice Double) :
      (device.rounded round).rounded round = device.rounded round := by
    simp only [MirInputDevice.rounded, Option.map_map, Function.comp_def, pointers]
  unfold MirInputConfig.rounded
  rw [List.map_map]
  exact congrArg MirInputConfig.mk (List.map_congr_left fun device _ => each device)

end Mir.Input

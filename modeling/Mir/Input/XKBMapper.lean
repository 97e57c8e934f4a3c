/-
This file embeds the mapper that translates key events through keymaps and keeps the modifiers of
each device and of the seat. The library that compiles keymaps, translates keys and composes symbols
is a parameter.

It proves when the modifiers of the seat are the ones that its devices have, which not every
operation sees to, and when the modifiers of a device are gone once all its keys are up: a release
takes away what the key stands for at that moment, which need not be what it stood for when it was
pressed.
-/

import Mir.Input.Event
import Mir.Library.OrderedMap
import Mir.Library.Transition

namespace Mir.Input

/-! ### Modifiers -/

abbrev KeySym := BitVec 32

abbrev Modifiers := BitVec 32

namespace Modifiers

def none : Modifiers := 0x1
def alt : Modifiers := 0x2
def altLeft : Modifiers := 0x4
def altRight : Modifiers := 0x8
def shift : Modifiers := 0x10
def shiftLeft : Modifiers := 0x20
def shiftRight : Modifiers := 0x40
def ctrl : Modifiers := 0x200
def ctrlLeft : Modifiers := 0x400
def ctrlRight : Modifiers := 0x800
def «meta» : Modifiers := 0x1000
def metaLeft : Modifiers := 0x2000
def metaRight : Modifiers := 0x4000
def capsLock : Modifiers := 0x8000
def scrollLock : Modifiers := 0x20000

end Modifiers

def keyNoSymbol : KeySym := 0
def keyScrollLock : KeySym := 0xff14
def keyShiftL : KeySym := 0xffe1
def keyShiftR : KeySym := 0xffe2
def keyControlL : KeySym := 0xffe3
def keyControlR : KeySym := 0xffe4
def keyCapsLock : KeySym := 0xffe5
def keyAltL : KeySym := 0xffe9
def keyAltR : KeySym := 0xffea
def keySuperL : KeySym := 0xffeb
def keySuperR : KeySym := 0xffec

def xkbKeyCodeToModifier (key : KeySym) : Modifiers :=
  if key = keyShiftR then .shiftRight
  else if key = keyShiftL then .shiftLeft
  else if key = keyAltR then .altRight
  else if key = keyAltL then .altLeft
  else if key = keyControlR then .ctrlRight
  else if key = keyControlL then .ctrlLeft
  else if key = keySuperL then .metaLeft
  else if key = keySuperR then .metaRight
  else if key = keyCapsLock then .capsLock
  else if key = keyScrollLock then .scrollLock
  else 0

/-- A modifier of either side brings the one of both sides with it. -/
def addSide (left right both modifiers : Modifiers) : Modifiers :=
  if modifiers &&& left ≠ 0 ∨ modifiers &&& right ≠ 0 then modifiers ||| both else modifiers

def expandModifiers (modifiers : Modifiers) : Modifiers :=
  if modifiers = 0 then .none
  else
    addSide .metaLeft .metaRight .«meta»
      (addSide .shiftLeft .shiftRight .shift
        (addSide .ctrlLeft .ctrlRight .ctrl (addSide .altLeft .altRight .alt modifiers)))

/-- The scan codes of the keymaps are offset. -/
def toXkbScanCode (evdevScanCode : BitVec 32) : BitVec 32 := evdevScanCode + 8

/-! ### The keyboard library -/

inductive ComposeStatus
  | nothing
  | composing
  | composed
  | cancelled
  deriving DecidableEq, Repr

/-- What the mapper uses of the library. A description that is illegal does not compile, and without
a table there is nothing to compose with. -/
structure Xkb (Description Keymap State Compose : Type) where
  compile : Description → Option Keymap
  newState : Keymap → State
  keyGetOneSym : State → BitVec 32 → KeySym
  updateKey : State → BitVec 32 → KeyboardAction → State
  composeStateNew : Option Compose
  composeFeed : Compose → KeySym → Bool × Compose
  composeGetStatus : Compose → ComposeStatus
  composeGetOneSym : Compose → KeySym

variable {Description Keymap State Compose : Type}

/-! ### Composing -/

structure ComposeState (Compose : Type) where
  state : Compose
  consumedKeys : List KeySym
  lastComposedKey : Option (KeySym × KeySym)

namespace ComposeState

variable (xkb : Xkb Description Keymap State Compose)

/-- A key that goes down may take part in a sequence. -/
def feed (compose : ComposeState Compose) (mappedKey : KeySym) : ComposeState Compose × KeySym :=
  let (accepted, state) := xkb.composeFeed compose.state mappedKey
  let fed := { compose with state }
  if accepted then
    match xkb.composeGetStatus state with
    | .composed =>
      let composedKeySym := xkb.composeGetOneSym state
      ({ fed with lastComposedKey := some (mappedKey, composedKeySym) }, composedKeySym)
    | .composing | .cancelled =>
      ({ fed with consumedKeys := mappedKey :: compose.consumedKeys.erase mappedKey }, keyNoSymbol)
    | .nothing => (fed, mappedKey)
  else (fed, mappedKey)

/-- A key that was consumed gives no symbol when it goes up either. -/
def settle (compose : ComposeState Compose) (mappedKey : KeySym) :
    ComposeState Compose × KeySym :=
  if mappedKey ∈ compose.consumedKeys then
    ({ compose with consumedKeys := compose.consumedKeys.erase mappedKey }, keyNoSymbol)
  else (compose, mappedKey)

def updateState (compose : ComposeState Compose) (mappedKey : KeySym) (action : KeyboardAction) :
    ComposeState Compose × KeySym :=
  if action = .down then compose.feed xkb mappedKey
  else
    match compose.lastComposedKey with
    | some (last, composed) =>
      if mappedKey = last then
        (if action = .up then { compose with lastComposedKey := none } else compose, composed)
      else compose.settle mappedKey
    | none => compose.settle mappedKey

end ComposeState

/-! ### The keys of one device -/

structure XkbMappingState (Keymap State : Type) where
  keymap : Keymap
  state : State
  modifierState : Modifiers

namespace XkbMappingState

variable (xkb : Xkb Description Keymap State Compose)

def new (keymap : Keymap) : XkbMappingState Keymap State := ⟨keymap, xkb.newState keymap, 0⟩

/-- What a key stands for at the moment. -/
def modChange (mapping : XkbMappingState Keymap State) (scanCode : BitVec 32) : Modifiers :=
  xkbKeyCodeToModifier (xkb.keyGetOneSym mapping.state scanCode)

/-- A key that goes down adds what it stands for, and one that goes up takes it away. A repeated key
changes nothing. -/
def press (mapping : XkbMappingState Keymap State) (scanCode : BitVec 32)
    (action : KeyboardAction) : XkbMappingState Keymap State :=
  match action with
  | .up =>
    { mapping with
      state := xkb.updateKey mapping.state scanCode .up
      modifierState := mapping.modifierState &&& ~~~ mapping.modChange xkb scanCode }
  | .down =>
    { mapping with
      state := xkb.updateKey mapping.state scanCode .down
      modifierState := mapping.modifierState ||| mapping.modChange xkb scanCode }
  | .repeat => mapping

def updateState (mapping : XkbMappingState Keymap State) (scanCode : BitVec 32)
    (action : KeyboardAction) (compose : Option (ComposeState Compose)) :
    XkbMappingState Keymap State × Option (ComposeState Compose) × KeySym :=
  let keySym := xkb.keyGetOneSym mapping.state scanCode
  match compose with
  | none => (mapping.press xkb scanCode action, none, keySym)
  | some compose =>
    let (composed, keySym) := compose.updateState xkb keySym action
    (mapping.press xkb scanCode action, some composed, keySym)

/-- The keys that are down are pressed again in a new state. -/
def setKeyState (mapping : XkbMappingState Keymap State) (keyState : List (BitVec 32)) :
    XkbMappingState Keymap State :=
  keyState.foldl
    (fun mapping scanCode => (mapping.updateState xkb (toXkbScanCode scanCode) .down none).1)
    { mapping with state := xkb.newState mapping.keymap, modifierState := .none }

end XkbMappingState

/-! ### The mapper -/

/-- What the mapper reads and writes of an event: a key event, another input event, which is of a
pointer or of touches, or one that is none. -/
inductive MapperEvent
  | key (deviceID : DeviceID) (action : KeyboardAction) (scanCode : BitVec 32) (keyCode : KeySym)
      (modifiers : Modifiers)
  | other (deviceID : DeviceID) (modifiers : Modifiers)
  | notInput
  deriving DecidableEq

/-- The order in which the devices are walked makes no difference, so it is that of their ids. -/
structure XKBMapper (Keymap State Compose : Type) where
  defaultKeymap : Option Keymap
  modifierState : Option Modifiers
  deviceMapping : OrderedMap DeviceID (XkbMappingState Keymap State)
  deviceComposing : OrderedMap DeviceID (ComposeState Compose)

namespace XKBMapper

inductive Op (Description : Type)
  | mapEvent (event : MapperEvent)
  | setKeyState (id : DeviceID) (keyState : List (BitVec 32))
  | setKeymapForAllDevices (description : Description)
  | setKeymapForDevice (id : DeviceID) (description : Description)
  | clearKeymapForDevice (id : DeviceID)
  | clearAllKeymaps

variable (mapper : XKBMapper Keymap State Compose)

def new : XKBMapper Keymap State Compose := ⟨none, none, .empty, .empty⟩

/-- The modifiers of all devices together. -/
def combined : Modifiers :=
  mapper.deviceMapping.entries.foldl (fun modifiers entry => modifiers ||| entry.2.modifierState) 0

def updateModifier : XKBMapper Keymap State Compose :=
  { mapper with
    modifierState := if mapper.deviceMapping.entries = [] then none else some mapper.combined }

def modifiers : Modifiers :=
  match mapper.modifierState with
  | some modifierState => expandModifiers modifierState
  | none => .none

def setMapping (id : DeviceID) (mapping : XkbMappingState Keymap State) :
    XKBMapper Keymap State Compose :=
  { mapper with deviceMapping := mapper.deviceMapping.set id mapping }

variable (xkb : Xkb Description Keymap State Compose)

/-- The state of a device, which is made for it if there is a keymap for all devices. -/
def getKeymappingState (id : DeviceID) : Option (XkbMappingState Keymap State) :=
  (mapper.deviceMapping.find id).or (mapper.defaultKeymap.map (XkbMappingState.new xkb))

def getComposeState (id : DeviceID) : Option (ComposeState Compose) :=
  (mapper.deviceComposing.find id).or (xkb.composeStateNew.map fun state => ⟨state, [], none⟩)

def setKeyState (id : DeviceID) (keyState : List (BitVec 32)) : XKBMapper Keymap State Compose :=
  match mapper.getKeymappingState xkb id with
  | none => mapper
  | some mapping => mapper.setMapping id (mapping.setKeyState xkb keyState)

/-- A key event changes the modifiers of its device, and those of the seat if they did change. -/
def mapKey (id : DeviceID) (action : KeyboardAction) (scanCode : BitVec 32)
    (mapping : XkbMappingState Keymap State) : XKBMapper Keymap State Compose × MapperEvent :=
  let (next, composed, keyCode) := mapping.updateState xkb (toXkbScanCode scanCode) action
    (mapper.getComposeState xkb id)
  let mapped := mapper.setMapping id next
  let composing :=
    match composed with
    | some compose =>
      { mapped with deviceComposing := mapper.deviceComposing.set id compose }
    | none => mapped
  (if mapping.modifierState ≠ next.modifierState then composing.updateModifier else composing,
    .key id action scanCode keyCode (expandModifiers next.modifierState))

/-- Events of pointers and touches get the modifiers of the seat, if there are any. -/
def mapEvent (event : MapperEvent) : XKBMapper Keymap State Compose × MapperEvent :=
  match event with
  | .key id action scanCode _ _ =>
    match mapper.getKeymappingState xkb id with
    | some mapping => mapper.mapKey xkb id action scanCode mapping
    | none => (mapper, event)
  | .other id _ =>
    match mapper.modifierState with
    | some modifierState => (mapper, .other id (expandModifiers modifierState))
    | none => (mapper, event)
  | .notInput => (mapper, event)

/-- A description that does not compile throws before anything is changed. -/
def setKeymapForAllDevices (description : Description) : XKBMapper Keymap State Compose :=
  match xkb.compile description with
  | none => mapper
  | some keymap => { mapper with defaultKeymap := some keymap, deviceMapping := .empty }

def setKeymapForDevice (id : DeviceID) (description : Description) :
    XKBMapper Keymap State Compose :=
  match xkb.compile description with
  | none => mapper
  | some keymap => mapper.setMapping id (.new xkb keymap)

def clearAllKeymaps : XKBMapper Keymap State Compose :=
  { mapper with defaultKeymap := none, deviceMapping := .empty }.updateModifier

def clearKeymapForDevice (id : DeviceID) : XKBMapper Keymap State Compose :=
  { mapper with deviceMapping := mapper.deviceMapping.erase id }.updateModifier

def step (mapper : XKBMapper Keymap State Compose) : Op Description → XKBMapper Keymap State Compose
  | .mapEvent event => (mapper.mapEvent xkb event).1
  | .setKeyState id keyState => mapper.setKeyState xkb id keyState
  | .setKeymapForAllDevices description => mapper.setKeymapForAllDevices xkb description
  | .setKeymapForDevice id description => mapper.setKeymapForDevice xkb id description
  | .clearKeymapForDevice id => mapper.clearKeymapForDevice id
  | .clearAllKeymaps => mapper.clearAllKeymaps

/-! ### The modifiers of the seat -/

/-- The modifiers of all devices but one. -/
def combinedWithout (id : DeviceID) : Modifiers :=
  { mapper with deviceMapping := mapper.deviceMapping.erase id }.combined

/-- The modifiers of the seat, and those put on events of pointers and touches, which devices report
with none, are those that the devices have together. -/
structure ShowsModifiers (xkb : Xkb Description Keymap State Compose)
    (mapper : XKBMapper Keymap State Compose) : Prop where
  seat : mapper.modifiers = expandModifiers mapper.combined
  events : ∀ id, (mapper.mapEvent xkb (.other id .none)).2 =
    .other id (expandModifiers mapper.combined)

/-- What keys stand for together that are pressed one after the other. -/
def heldModifiers (xkb : Xkb Description Keymap State Compose) (state : State) :
    List (BitVec 32) → Modifiers
  | [] => 0
  | scanCode :: rest =>
    xkbKeyCodeToModifier (xkb.keyGetOneSym state (toXkbScanCode scanCode)) |||
      heldModifiers xkb (xkb.updateKey state (toXkbScanCode scanCode) .down) rest

/-- An operation that does not refresh the modifiers of the seat leaves a device with modifiers that
make no difference to them. -/
def KeepsModifiers (mapper : XKBMapper Keymap State Compose) : Op Description → Prop
  | .setKeyState id keyState =>
    match mapper.getKeymappingState xkb id with
    | none => True
    | some mapping =>
      expandModifiers (mapper.combinedWithout id ||| (.none |||
        heldModifiers xkb (xkb.newState mapping.keymap) keyState)) =
          expandModifiers mapper.combined
  | .setKeymapForAllDevices description =>
    (xkb.compile description).isSome → expandModifiers mapper.combined = .none
  | .setKeymapForDevice id description =>
    (xkb.compile description).isSome →
      expandModifiers (mapper.combinedWithout id) = expandModifiers mapper.combined
  | .mapEvent _ | .clearKeymapForDevice _ | .clearAllKeymaps => True

end XKBMapper

section Combined

variable {mapper : XKBMapper Keymap State Compose}

/-- A bit is in a union if it is in what the union started from or in some part. -/
theorem getLsbD_foldl_or {Item : Type} (part : Item → Modifiers) (items : List Item)
    (first : Modifiers) (bit : Nat) :
    (items.foldl (fun modifiers item => modifiers ||| part item) first).getLsbD bit = true ↔
      first.getLsbD bit = true ∨ ∃ item ∈ items, (part item).getLsbD bit = true := by
  induction items generalizing first with
  | nil => simp
  | cons item rest inductionHypothesis =>
    rw [List.foldl_cons, inductionHypothesis]
    simp [or_assoc]

namespace XKBMapper

theorem getLsbD_combined (bit : Nat) :
    mapper.combined.getLsbD bit = true ↔ ∃ id mapping,
      mapper.deviceMapping.find id = some mapping ∧ mapping.modifierState.getLsbD bit = true := by
  unfold combined
  rw [getLsbD_foldl_or]
  simp [OrderedMap.find_eq_some_iff]

theorem combined_eq_of_bits {modifiers : Modifiers}
    (bits : ∀ bit, mapper.combined.getLsbD bit = true ↔ modifiers.getLsbD bit = true) :
    mapper.combined = modifiers :=
  BitVec.eq_of_getLsbD_eq fun bit _ => Bool.eq_iff_iff.mpr (bits bit)

theorem getLsbD_combinedWithout (id : DeviceID) (bit : Nat) :
    (mapper.combinedWithout id).getLsbD bit = true ↔ ∃ other mapping, other ≠ id ∧
      mapper.deviceMapping.find other = some mapping ∧
        mapping.modifierState.getLsbD bit = true := by
  unfold combinedWithout
  rw [getLsbD_combined]
  refine exists_congr fun other => exists_congr fun mapping => ?_
  simp only [OrderedMap.find_erase]
  by_cases same : other = id <;> simp [same]

theorem combined_setMapping (id : DeviceID) (mapping : XkbMappingState Keymap State) :
    (mapper.setMapping id mapping).combined =
      mapper.combinedWithout id ||| mapping.modifierState := by
  refine combined_eq_of_bits fun bit => ?_
  rw [getLsbD_combined, BitVec.getLsbD_or, Bool.or_eq_true, getLsbD_combinedWithout]
  simp only [setMapping, OrderedMap.find_set]
  constructor
  · rintro ⟨other, found, isFound, isSet⟩
    by_cases same : other = id
    · rw [if_pos same] at isFound
      exact .inr (Option.some.inj isFound ▸ isSet)
    · rw [if_neg same] at isFound
      exact .inl ⟨other, found, same, isFound, isSet⟩
  · rintro (⟨other, found, different, isFound, isSet⟩ | isSet)
    · exact ⟨other, found, by rw [if_neg different]; exact isFound, isSet⟩
    · exact ⟨id, mapping, by rw [if_pos rfl], isSet⟩

/-- A device with a new keymap has no modifiers. -/
theorem combined_setMapping_new (xkb : Xkb Description Keymap State Compose) (id : DeviceID)
    (keymap : Keymap) :
    (mapper.setMapping id (.new xkb keymap)).combined = mapper.combinedWithout id :=
  (combined_setMapping id _).trans BitVec.or_zero

/-- The modifiers of a device that is known or would be made. -/
theorem combined_eq {xkb : Xkb Description Keymap State Compose} {id : DeviceID}
    {mapping : XkbMappingState Keymap State}
    (isState : mapper.getKeymappingState xkb id = some mapping) :
    mapper.combined = mapper.combinedWithout id ||| mapping.modifierState := by
  refine combined_eq_of_bits fun bit => ?_
  rw [getLsbD_combined, BitVec.getLsbD_or, Bool.or_eq_true, getLsbD_combinedWithout]
  unfold getKeymappingState at isState
  cases found : mapper.deviceMapping.find id with
  | some known =>
    rw [found, Option.some_or] at isState
    cases isState
    constructor
    · rintro ⟨other, otherMapping, isFound, isSet⟩
      by_cases same : other = id
      · rw [same, found] at isFound
        exact .inr (Option.some.inj isFound ▸ isSet)
      · exact .inl ⟨other, otherMapping, same, isFound, isSet⟩
    · rintro (⟨other, otherMapping, -, isFound, isSet⟩ | isSet)
      · exact ⟨other, otherMapping, isFound, isSet⟩
      · exact ⟨id, mapping, found, isSet⟩
  | none =>
    rw [found, Option.none_or] at isState
    obtain ⟨keymap, -, rfl⟩ := Option.map_eq_some_iff.mp isState
    constructor
    · rintro ⟨other, otherMapping, isFound, isSet⟩
      refine .inl ⟨other, otherMapping, fun same => ?_, isFound, isSet⟩
      rw [same, found] at isFound
      cases isFound
    · rintro (⟨other, otherMapping, -, isFound, isSet⟩ | isSet)
      · exact ⟨other, otherMapping, isFound, isSet⟩
      · simp [XkbMappingState.new] at isSet

/-! ### Refreshing -/

theorem modifiers_updateModifier :
    mapper.updateModifier.modifiers = expandModifiers mapper.combined := by
  unfold updateModifier modifiers
  by_cases isEmpty : mapper.deviceMapping.entries = []
  · rw [if_pos isEmpty]
    unfold combined
    rw [isEmpty]
    rfl
  · rw [if_neg isEmpty]

variable {xkb : Xkb Description Keymap State Compose}

/-- What is put on an event is what the seat has. -/
theorem mapEvent_other (id : DeviceID) :
    (mapper.mapEvent xkb (.other id .none)).2 = .other id mapper.modifiers := by
  unfold mapEvent modifiers
  cases mapper.modifierState <;> rfl

theorem showsModifiers_iff_seat :
    ShowsModifiers xkb mapper ↔ mapper.modifiers = expandModifiers mapper.combined := by
  refine ⟨ShowsModifiers.seat, fun seat => ⟨seat, fun id => ?_⟩⟩
  rw [mapEvent_other, seat]

theorem showsModifiers_updateModifier : ShowsModifiers xkb mapper.updateModifier :=
  showsModifiers_iff_seat.mpr modifiers_updateModifier

/-- Where the modifiers of the seat are not refreshed, those of the devices must stay alike. -/
theorem showsModifiers_iff_of_kept {next : XKBMapper Keymap State Compose}
    (shows : ShowsModifiers xkb mapper) (kept : next.modifierState = mapper.modifierState) :
    ShowsModifiers xkb next ↔ expandModifiers next.combined = expandModifiers mapper.combined := by
  have same : next.modifiers = mapper.modifiers := by
    unfold modifiers
    rw [kept]
  rw [showsModifiers_iff_seat, same, shows.seat]
  exact eq_comm

/-- A key event refreshes the modifiers of the seat where it changes those of its device. -/
theorem ShowsModifiers.mapKey (shows : ShowsModifiers xkb mapper) {id : DeviceID}
    {mapping : XkbMappingState Keymap State} (action : KeyboardAction) (scanCode : BitVec 32)
    (isState : mapper.getKeymappingState xkb id = some mapping) :
    ShowsModifiers xkb (mapper.mapKey xkb id action scanCode mapping).1 := by
  unfold XKBMapper.mapKey
  generalize mapping.updateState xkb (toXkbScanCode scanCode) action
    (mapper.getComposeState xkb id) = updated
  obtain ⟨next, composed, keyCode⟩ := updated
  by_cases changed : mapping.modifierState = next.modifierState
  · have alike : (mapper.setMapping id next).combined = mapper.combined := by
      rw [combined_setMapping, combined_eq isState, changed]
    simp only [ne_eq, changed, not_true_eq_false, if_false]
    have expanded := congrArg expandModifiers alike
    cases composed with
    | none =>
      refine (showsModifiers_iff_of_kept shows ?_).mpr expanded
      rfl
    | some compose =>
      refine (showsModifiers_iff_of_kept shows ?_).mpr expanded
      rfl
  · simp only [ne_eq, changed, not_false_eq_true, if_true]
    exact showsModifiers_updateModifier

theorem ShowsModifiers.mapEvent (shows : ShowsModifiers xkb mapper) (event : MapperEvent) :
    ShowsModifiers xkb (mapper.mapEvent xkb event).1 := by
  cases event with
  | key id action scanCode keyCode modifiers =>
    simp only [XKBMapper.mapEvent]
    cases isState : mapper.getKeymappingState xkb id with
    | none => exact shows
    | some mapping => exact shows.mapKey action scanCode isState
  | other id modifiers =>
    simp only [XKBMapper.mapEvent]
    cases mapper.modifierState <;> exact shows
  | notInput => exact shows

theorem combined_empty {defaultKeymap : Option Keymap} {modifierState : Option Modifiers}
    {deviceComposing : OrderedMap DeviceID (ComposeState Compose)} :
    (⟨defaultKeymap, modifierState, .empty, deviceComposing⟩ :
      XKBMapper Keymap State Compose).combined = 0 := rfl

theorem modifierState_foldl_updateState (keyState : List (BitVec 32))
    (mapping : XkbMappingState Keymap State) :
    (keyState.foldl (fun mapping scanCode =>
        (mapping.updateState xkb (toXkbScanCode scanCode) .down none).1) mapping).modifierState =
      mapping.modifierState ||| heldModifiers xkb mapping.state keyState := by
  induction keyState generalizing mapping with
  | nil => exact BitVec.or_zero.symm
  | cons scanCode rest inductionHypothesis =>
    rw [List.foldl_cons, inductionHypothesis]
    exact BitVec.or_assoc _ _ _

/-- The device has the modifiers of the keys that are down. -/
theorem modifierState_setKeyState (mapping : XkbMappingState Keymap State)
    (keyState : List (BitVec 32)) :
    (mapping.setKeyState xkb keyState).modifierState =
      .none ||| heldModifiers xkb (xkb.newState mapping.keymap) keyState :=
  modifierState_foldl_updateState keyState _

/-- An operation keeps the modifiers of the seat in agreement with the devices exactly if it
refreshes them or makes no difference to them. -/
theorem showsModifiers_step_iff (shows : ShowsModifiers xkb mapper) (op : Op Description) :
    ShowsModifiers xkb (mapper.step xkb op) ↔ KeepsModifiers xkb mapper op := by
  cases op with
  | mapEvent event => exact iff_of_true (shows.mapEvent event) trivial
  | setKeyState id keyState =>
    simp only [step, setKeyState, KeepsModifiers]
    cases isState : mapper.getKeymappingState xkb id with
    | none => exact iff_of_true shows trivial
    | some mapping =>
      dsimp only
      refine (showsModifiers_iff_of_kept shows ?_).trans ?_
      · rfl
      · rw [combined_setMapping, modifierState_setKeyState]
  | setKeymapForAllDevices description =>
    simp only [step, setKeymapForAllDevices, KeepsModifiers]
    cases xkb.compile description with
    | none => exact iff_of_true shows nofun
    | some keymap =>
      dsimp only
      refine (showsModifiers_iff_of_kept shows ?_).trans ?_
      · rfl
      · rw [combined_empty]
        exact ⟨fun same _ => same.symm, fun same => (same rfl).symm⟩
  | setKeymapForDevice id description =>
    simp only [step, setKeymapForDevice, KeepsModifiers]
    cases xkb.compile description with
    | none => exact iff_of_true shows nofun
    | some keymap =>
      dsimp only
      refine (showsModifiers_iff_of_kept shows ?_).trans ?_
      · rfl
      · rw [combined_setMapping_new]
        exact ⟨fun same _ => same, fun same => same rfl⟩
  | clearKeymapForDevice id => exact iff_of_true showsModifiers_updateModifier trivial
  | clearAllKeymaps => exact iff_of_true showsModifiers_updateModifier trivial

/-- In every run, the modifiers of the seat are those of the devices throughout exactly if every
operation that does not refresh them makes no difference to them. -/
theorem showsModifiers_iff (ops : List (Op Description)) :
    (∀ done, done <+: ops → ShowsModifiers xkb (done.foldl (step xkb) new)) ↔
      Transition.AllowedAlong (step xkb) (KeepsModifiers xkb) new ops :=
  Transition.forall_prefix_iff_allowedAlong (showsModifiers_iff_seat.mpr rfl)
    fun _ op _ shows => showsModifiers_step_iff shows op

end XKBMapper

end Combined

/-! ### A keymap with two levels -/

/-- One keymap, in which the left alt key is a meta key while shift is held, and nothing to compose
with. The state is whether shift is held. -/
def shiftedAlt : Xkb Unit Unit Bool Unit where
  compile _ := some ()
  newState _ := false
  keyGetOneSym shifted scanCode :=
    if scanCode = 50 then keyShiftL
    else if scanCode = 64 then if shifted then 0xffe7 else keyAltL
    else keyNoSymbol
  updateKey shifted scanCode action :=
    if scanCode = 50 then decide (action = .down) else shifted
  composeStateNew := none
  composeFeed _ _ := (false, ())
  composeGetStatus _ := .nothing
  composeGetOneSym _ := keyNoSymbol

/-- The keymap of a device is set again while its shift key is held, and the seat keeps shift. -/
theorem XKBMapper.replaced_keymap_leaves_modifier :
    ¬ ∀ done, done <+: [.setKeymapForDevice 1 (), .mapEvent (.key 1 .down 42 0 .none),
        .setKeymapForDevice 1 ()] →
      XKBMapper.ShowsModifiers shiftedAlt
        (done.foldl (XKBMapper.step shiftedAlt) XKBMapper.new) := by
  intro always
  have same := (always _ (List.prefix_refl _)).seat
  revert same
  decide

end Mir.Input

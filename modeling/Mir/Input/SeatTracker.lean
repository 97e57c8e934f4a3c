/-
This file embeds the tracker of a seat: what the devices of the seat hold down, the state of the
buttons of all of them, the touch spots that are shown, the cursor, and the calls that tell the
observer of the seat what was done. What the key mapper writes into an event, the modifiers and
the key code, is left out.
-/

import Mir.Input.Event
import Mir.Library.Transition
import Mir.Library.UnorderedMap

namespace Mir.Input

open Mir.Geometry

/-! ### Events -/

inductive InputEvent
  | key (event : KeyboardEvent)
  | touch (event : TouchEvent)
  | pointer (event : PointerEvent)
  deriving DecidableEq

def InputEvent.deviceID : InputEvent → DeviceID
  | .key event => event.deviceID
  | .touch event => event.deviceID
  | .pointer event => event.deviceID

/-- The scan code as it is kept: the events have it signed, the lists of codes do not. -/
def KeyboardEvent.code (event : KeyboardEvent) : BitVec 32 := BitVec.ofInt 32 event.scanCode

structure Spot where
  touchLocation : Point
  pressure : Rat
  deriving DecidableEq

/-! ### The data of a device -/

structure DeviceData where
  buttons : BitVec 32
  spots : List Spot
  scanCodes : List (BitVec 32)
  deriving DecidableEq

def DeviceData.fresh : DeviceData := ⟨0, [], []⟩

namespace DeviceData

/-- The contacts that are not lifted by the event. -/
def spotsOf (event : TouchEvent) : List Spot :=
  (event.contacts.filter fun contact => contact.action ≠ .up).map fun contact =>
    ⟨⟨pixel contact.x, pixel contact.y⟩, contact.pressure⟩

def updateSpots (data : DeviceData) (event : TouchEvent) : DeviceData :=
  { data with spots := spotsOf event }

def updateButtonState (data : DeviceData) (buttons : BitVec 32) : DeviceData :=
  { data with buttons := buttons }

def updateScanCodes (data : DeviceData) (event : KeyboardEvent) : DeviceData :=
  match event.action with
  | .down => { data with scanCodes := data.scanCodes ++ [event.code] }
  | .up => { data with scanCodes := data.scanCodes.filter fun code => code ≠ event.code }
  | .repeat => data

def allowedScanCodeAction (data : DeviceData) (event : KeyboardEvent) : Bool :=
  let found := decide (event.code ∈ data.scanCodes)
  (event.action = .down && !found) || (event.action ≠ .down && found)

end DeviceData

/-! ### The tracker -/

/-- The calls of the observer. -/
inductive SeatNotice
  | addDevice (id : DeviceID)
  | removeDevice (id : DeviceID)
  | dispatchEvent (event : InputEvent)
  | setKeyState (id : DeviceID) (scanCodes : List (BitVec 32))
  | setPointerState (id : DeviceID) (buttons : BitVec 32)
  | setCursorPosition (x y : Rat)
  deriving DecidableEq

/-- `spots` are those that were last given to the visualizer, `confine` is what the input region
and the confined region make of a point, and `observed` are the calls of the observer, in their
order. An event that is observed was given to the dispatcher just before. -/
structure SeatTracker where
  deviceData : UnorderedMap DeviceID DeviceData
  buttons : BitVec 32
  spots : List Spot
  cursorX : Rat
  cursorY : Rat
  confine : Point → Point
  observed : List SeatNotice

def SeatTracker.initial : SeatTracker where
  deviceData := .empty fun _ => .fresh
  buttons := 0
  spots := []
  cursorX := 0
  cursorY := 0
  confine := id
  observed := []

namespace SeatTracker

def notify (tracker : SeatTracker) (notice : SeatNotice) : SeatTracker :=
  { tracker with observed := tracker.observed ++ [notice] }

def updateSpots (tracker : SeatTracker) : SeatTracker :=
  { tracker with spots := tracker.deviceData.values.flatMap DeviceData.spots }

def updateStates (tracker : SeatTracker) : SeatTracker :=
  { tracker with
    buttons := tracker.deviceData.values.foldl (fun held data => held ||| data.buttons) 0 }

def buttonState (tracker : SeatTracker) : BitVec 32 := tracker.buttons

/-- A device that is there already keeps its data. -/
def addDevice (tracker : SeatTracker) (id : DeviceID) (order : List DeviceID) : SeatTracker :=
  { tracker with deviceData := tracker.deviceData.emplace id .fresh order }
    |>.notify (.addDevice id)

def removeDevice (tracker : SeatTracker) (id : DeviceID) : Except String SeatTracker :=
  match tracker.deviceData.find id with
  | none => .error "Modifier for unknown device changed"
  | some storedData =>
    let removed := { tracker with deviceData := tracker.deviceData.erase id }
    let updated := if storedData.buttons ≠ 0 then removed.updateStates else removed
    let shown := if storedData.spots ≠ [] then updated.updateSpots else updated
    .ok (shown.notify (.removeDevice id))

/-- The confinement moves the cursor in a direction only if it moves the pixel below it. -/
def confinePointer (tracker : SeatTracker) : SeatTracker :=
  let old : Point := ⟨pixel tracker.cursorX, pixel tracker.cursorY⟩
  let confined := tracker.confine old
  { tracker with
    cursorX := if confined.x ≠ old.x then confined.x else tracker.cursorX
    cursorY := if confined.y ≠ old.y then confined.y else tracker.cursorY }

def updateCursor (tracker : SeatTracker) (event : PointerEvent) : SeatTracker :=
  { tracker with
    cursorX := tracker.cursorX + event.relativeX
    cursorY := tracker.cursorY + event.relativeY }
    |>.confinePointer

/-- A key of an unknown device, a press of a key that is down, and a release or repetition of a
key that is not. -/
def filterInputEvent (tracker : SeatTracker) : InputEvent → Bool
  | .key event =>
    match tracker.deviceData.find event.deviceID with
    | none => true
    | some storedData => !storedData.allowedScanCodeAction event
  | _ => false

def modify (tracker : SeatTracker) (id : DeviceID) (change : DeviceData → DeviceData) :
    SeatTracker :=
  { tracker with deviceData := tracker.deviceData.modify id change }

def updateSeatProperties (tracker : SeatTracker) (event : InputEvent) :
    Except String SeatTracker :=
  match tracker.deviceData.find event.deviceID with
  | none => .error "Event of unknown device received"
  | some storedData =>
    match event with
    | .key event => .ok (tracker.modify event.deviceID (·.updateScanCodes event))
    | .touch event => .ok (tracker.modify event.deviceID (·.updateSpots event)).updateSpots
    | .pointer event =>
      let moved := tracker.updateCursor event
      if storedData.buttons = event.buttons then .ok moved
      else .ok (moved.modify event.deviceID (·.updateButtonState event.buttons)).updateStates

/-- A pointer event gets the cursor and the buttons of the whole seat. -/
def withSeatProperties (tracker : SeatTracker) : InputEvent → InputEvent
  | .pointer event =>
    .pointer
      { event with x := tracker.cursorX, y := tracker.cursorY, buttons := tracker.buttonState }
  | event => event

def dispatch (tracker : SeatTracker) (event : InputEvent) : Except String SeatTracker :=
  if tracker.filterInputEvent event then .ok tracker
  else
    match tracker.updateSeatProperties event with
    | .error message => .error message
    | .ok updated => .ok (updated.notify (.dispatchEvent (updated.withSeatProperties event)))

def setKeyState (tracker : SeatTracker) (id : DeviceID) (scanCodes : List (BitVec 32)) :
    SeatTracker :=
  let changed :=
    match tracker.deviceData.find id with
    | none => tracker
    | some _ => tracker.modify id fun data => { data with scanCodes := scanCodes }
  changed.notify (.setKeyState id scanCodes)

def setPointerState (tracker : SeatTracker) (id : DeviceID) (buttons : BitVec 32) :
    SeatTracker :=
  let changed :=
    match tracker.deviceData.find id with
    | none => tracker
    | some _ => tracker.modify id (·.updateButtonState buttons)
  changed.notify (.setPointerState id buttons)

def setCursorPosition (tracker : SeatTracker) (x y : Rat) : SeatTracker :=
  { tracker with cursorX := x, cursorY := y }.notify (.setCursorPosition x y)

end SeatTracker

inductive SeatOp
  | addDevice (id : DeviceID) (order : List DeviceID)
  | removeDevice (id : DeviceID)
  | dispatch (event : InputEvent)
  | setKeyState (id : DeviceID) (scanCodes : List (BitVec 32))
  | setPointerState (id : DeviceID) (buttons : BitVec 32)
  | setCursorPosition (x y : Rat)
  | changeConfinement (confine : Point → Point)

def SeatTracker.call (tracker : SeatTracker) : SeatOp → Except String SeatTracker
  | .addDevice id order => .ok (tracker.addDevice id order)
  | .removeDevice id => tracker.removeDevice id
  | .dispatch event => tracker.dispatch event
  | .setKeyState id scanCodes => .ok (tracker.setKeyState id scanCodes)
  | .setPointerState id buttons => .ok (tracker.setPointerState id buttons)
  | .setCursorPosition x y => .ok (tracker.setCursorPosition x y)
  | .changeConfinement confine => .ok { tracker with confine := confine }

/-- An operation that throws does so before it changes anything. -/
def SeatTracker.step (tracker : SeatTracker) (op : SeatOp) : SeatTracker :=
  match tracker.call op with
  | .ok next => next
  | .error _ => tracker

/-! ### What an operation does -/

/-- What a call makes of the data, the cached buttons and the spots, and what is observed. -/
structure SeatTracker.Becomes (tracker next : SeatTracker)
    (deviceData : UnorderedMap DeviceID DeviceData) (buttons : BitVec 32) (spots : List Spot)
    (notices : List SeatNotice) : Prop where
  deviceData : next.deviceData = deviceData
  buttons : next.buttons = buttons
  spots : next.spots = spots
  observed : next.observed = tracker.observed ++ notices

/-- The buttons that the devices hold together. -/
def allButtons (deviceData : UnorderedMap DeviceID DeviceData) : BitVec 32 :=
  deviceData.values.foldl (fun held data => held ||| data.buttons) 0

/-- The contacts of the devices in the order of a walk. -/
def allSpots (deviceData : UnorderedMap DeviceID DeviceData) : List Spot :=
  deviceData.values.flatMap DeviceData.spots

/-- All that an operation can do. -/
inductive SeatStep (tracker next : SeatTracker) : SeatOp → Prop
  | idle (op : SeatOp) (notices : List SeatNotice)
      (becomes : tracker.Becomes next tracker.deviceData tracker.buttons tracker.spots notices)
      (aside : notices = [] ∨ ∃ x y, notices = [.setCursorPosition x y])
      (other : ∀ id buttons, op ≠ .setPointerState id buttons) : SeatStep tracker next op
  | added (id : DeviceID) (order : List DeviceID)
      (becomes : tracker.Becomes next (tracker.deviceData.emplace id .fresh order)
        tracker.buttons tracker.spots [.addDevice id]) :
      SeatStep tracker next (.addDevice id order)
  | removed (id : DeviceID) (data : DeviceData) (known : tracker.deviceData.find id = some data)
      (becomes : tracker.Becomes next (tracker.deviceData.erase id)
        (if data.buttons ≠ 0 then allButtons (tracker.deviceData.erase id) else tracker.buttons)
        (if data.spots ≠ [] then allSpots (tracker.deviceData.erase id) else tracker.spots)
        [.removeDevice id]) :
      SeatStep tracker next (.removeDevice id)
  | key (event : KeyboardEvent) (data : DeviceData)
      (known : tracker.deviceData.find event.deviceID = some data)
      (permitted : data.allowedScanCodeAction event = true)
      (becomes : tracker.Becomes next
        (tracker.deviceData.modify event.deviceID (·.updateScanCodes event))
        tracker.buttons tracker.spots [.dispatchEvent (.key event)]) :
      SeatStep tracker next (.dispatch (.key event))
  | touch (event : TouchEvent) (data : DeviceData)
      (known : tracker.deviceData.find event.deviceID = some data)
      (becomes : tracker.Becomes next
        (tracker.deviceData.modify event.deviceID (·.updateSpots event)) tracker.buttons
        (allSpots (tracker.deviceData.modify event.deviceID (·.updateSpots event)))
        [.dispatchEvent (.touch event)]) :
      SeatStep tracker next (.dispatch (.touch event))
  | pointer (event passed : PointerEvent) (data : DeviceData)
      (known : tracker.deviceData.find event.deviceID = some data)
      (becomes : tracker.Becomes next
        (tracker.deviceData.modify event.deviceID (·.updateButtonState event.buttons))
        (if data.buttons = event.buttons then tracker.buttons
          else allButtons
            (tracker.deviceData.modify event.deviceID (·.updateButtonState event.buttons)))
        tracker.spots [.dispatchEvent (.pointer passed)]) :
      SeatStep tracker next (.dispatch (.pointer event))
  | keyState (id : DeviceID) (scanCodes : List (BitVec 32))
      (becomes : tracker.Becomes next
        (tracker.deviceData.modify id fun data => { data with scanCodes := scanCodes })
        tracker.buttons tracker.spots [.setKeyState id scanCodes]) :
      SeatStep tracker next (.setKeyState id scanCodes)
  | pointerState (id : DeviceID) (buttons : BitVec 32)
      (becomes : tracker.Becomes next
        (tracker.deviceData.modify id (·.updateButtonState buttons))
        tracker.buttons tracker.spots [.setPointerState id buttons]) :
      SeatStep tracker next (.setPointerState id buttons)

namespace SeatTracker

variable {tracker : SeatTracker}

theorem removeDevice_step (id : DeviceID) :
    SeatStep tracker (tracker.step (.removeDevice id)) (.removeDevice id) := by
  dsimp only [step, call, removeDevice]
  cases known : tracker.deviceData.find id with
  | none => exact .idle _ [] ⟨rfl, rfl, rfl, (List.append_nil _).symm⟩ (.inl rfl) (by simp)
  | some data =>
    refine .removed id data known ⟨?_, ?_, ?_, ?_⟩ <;> dsimp only <;> split_ifs <;> rfl

theorem dispatch_step (event : InputEvent) :
    SeatStep tracker (tracker.step (.dispatch event)) (.dispatch event) := by
  have unchanged : SeatStep tracker tracker (.dispatch event) :=
    .idle _ [] ⟨rfl, rfl, rfl, (List.append_nil _).symm⟩ (.inl rfl) (by simp)
  dsimp only [step, call, dispatch]
  by_cases filtered : tracker.filterInputEvent event = true
  · rw [if_pos filtered]
    exact unchanged
  · rw [if_neg filtered]
    cases known : tracker.deviceData.find event.deviceID with
    | none =>
      simp only [updateSeatProperties, known]
      exact unchanged
    | some data =>
      simp only [updateSeatProperties, known]
      cases event with
      | key event =>
        have known : tracker.deviceData.find event.deviceID = some data := known
        have permitted : data.allowedScanCodeAction event = true := by
          simpa [filterInputEvent, known] using filtered
        exact .key event data known permitted ⟨rfl, rfl, rfl, rfl⟩
      | touch event => exact .touch event data known ⟨rfl, rfl, rfl, rfl⟩
      | pointer event =>
        have known : tracker.deviceData.find event.deviceID = some data := known
        by_cases same : data.buttons = event.buttons
        · have kept : data.updateButtonState event.buttons = data := by
            rw [← same]
            rfl
          simp only [if_pos same]
          refine .pointer event _ data known ⟨?_, (if_pos same).symm, rfl, rfl⟩
          exact (tracker.deviceData.modify_eq_self known kept).symm
        · simp only [if_neg same]
          exact .pointer event _ data known ⟨rfl, (if_neg same).symm, rfl, rfl⟩

theorem modify_unknown (id : DeviceID) (change : DeviceData → DeviceData)
    (unknown : tracker.deviceData.find id = none) : tracker.modify id change = tracker := by
  unfold modify
  rw [UnorderedMap.modify_unknown _ _ unknown]

theorem setKeyState_eq (id : DeviceID) (scanCodes : List (BitVec 32)) :
    tracker.setKeyState id scanCodes =
      (tracker.modify id fun data => { data with scanCodes := scanCodes }).notify
        (.setKeyState id scanCodes) := by
  unfold setKeyState
  cases unknown : tracker.deviceData.find id with
  | none => rw [modify_unknown _ _ unknown]
  | some data => rfl

theorem setPointerState_eq (id : DeviceID) (buttons : BitVec 32) :
    tracker.setPointerState id buttons =
      (tracker.modify id (·.updateButtonState buttons)).notify (.setPointerState id buttons) := by
  unfold setPointerState
  cases unknown : tracker.deviceData.find id with
  | none => rw [modify_unknown _ _ unknown]
  | some data => rfl

theorem step_cases (tracker : SeatTracker) (op : SeatOp) :
    SeatStep tracker (tracker.step op) op := by
  cases op with
  | addDevice id order => exact .added id order ⟨rfl, rfl, rfl, rfl⟩
  | removeDevice id => exact removeDevice_step id
  | dispatch event => exact dispatch_step event
  | setKeyState id scanCodes =>
    show SeatStep tracker (tracker.setKeyState id scanCodes) _
    rw [setKeyState_eq]
    exact .keyState id scanCodes ⟨rfl, rfl, rfl, rfl⟩
  | setPointerState id buttons =>
    show SeatStep tracker (tracker.setPointerState id buttons) _
    rw [setPointerState_eq]
    exact .pointerState id buttons ⟨rfl, rfl, rfl, rfl⟩
  | setCursorPosition x y =>
    exact .idle _ _ ⟨rfl, rfl, rfl, rfl⟩ (.inr ⟨x, y, rfl⟩) (by simp)
  | changeConfinement confine =>
    exact .idle _ [] ⟨rfl, rfl, rfl, (List.append_nil _).symm⟩ (.inl rfl) (by simp)

end SeatTracker

end Mir.Input

/-
This file holds the input events that devices report and surfaces receive. Axis values
are floats in the source; they are rationals here, and all that is done with them is to
copy them, to subtract the position of a surface, and to cut them down to whole pixels.
-/

import Mathlib.Data.Rat.Defs
import Mir.Geometry.Rectangle

namespace Mir.Input

open Mir.Geometry

abbrev DeviceID := Nat

abbrev TouchID := Int

/-- Keys are told from each other by their codes. -/
scoped instance decidableMemKeys (key : BitVec 32) (keys : List (BitVec 32)) :
    Decidable (key ∈ keys) :=
  inferInstance

/-! ### Touch -/

inductive TouchAction
  | up
  | down
  | change
  deriving DecidableEq, Repr

inductive TouchTooltype
  | unknown
  | finger
  | stylus
  deriving DecidableEq, Repr

/-- The state of one contact. -/
structure ContactState where
  touchID : TouchID
  action : TouchAction
  tooltype : TouchTooltype
  x : Rat
  y : Rat
  pressure : Rat
  touchMajor : Rat
  touchMinor : Rat
  orientation : Rat
  deriving DecidableEq

structure TouchEvent where
  deviceID : DeviceID
  eventTime : Int
  cookie : List UInt8
  modifiers : Nat
  contacts : List ContactState
  deriving DecidableEq

/-! ### Pointers -/

inductive PointerAction
  | buttonUp
  | buttonDown
  | enter
  | leave
  | motion
  deriving DecidableEq, Repr

inductive PointerButton
  | primary
  | secondary
  | tertiary
  | back
  | forward
  | side
  | extra
  | task
  deriving DecidableEq, Repr

/-- The bit of a button in the mask of an event. -/
def PointerButton.bit : PointerButton → Nat
  | primary => 0
  | secondary => 1
  | tertiary => 2
  | back => 3
  | forward => 4
  | side => 5
  | extra => 6
  | task => 7

structure PointerEvent where
  deviceID : DeviceID
  eventTime : Int
  cookie : List UInt8
  modifiers : Nat
  action : PointerAction
  buttons : BitVec 32
  x : Rat
  y : Rat
  hscroll : Rat
  vscroll : Rat
  relativeX : Rat
  relativeY : Rat
  deriving DecidableEq

/-- Whether an event reports a button as held. -/
def PointerEvent.buttonState (event : PointerEvent) (button : PointerButton) : Bool :=
  event.buttons.getLsbD button.bit

/-! ### Keys and positions -/

inductive KeyboardAction
  | up
  | down
  | repeat
  deriving DecidableEq, Repr

structure KeyboardEvent where
  deviceID : DeviceID
  eventTime : Int
  cookie : List UInt8
  modifiers : Nat
  action : KeyboardAction
  keyCode : Int
  scanCode : Int
  deriving DecidableEq

/-- The conversion of an axis value to a coordinate rounds towards zero. -/
def pixel (value : Rat) : Int := value.num.tdiv value.den

def PointerEvent.position (event : PointerEvent) : Point := ⟨pixel event.x, pixel event.y⟩

/-- The position of the first contact; an event without contacts holds zeros there. -/
def TouchEvent.position (event : TouchEvent) : Point :=
  match event.contacts with
  | [] => ⟨0, 0⟩
  | contact :: _ => ⟨pixel contact.x, pixel contact.y⟩

/-- The event with its position relative to a point. -/
def PointerEvent.relativeTo (event : PointerEvent) (origin : Point) : PointerEvent :=
  { event with x := event.x - origin.x, y := event.y - origin.y }

def TouchEvent.relativeTo (event : TouchEvent) (origin : Point) : TouchEvent :=
  { event with
    contacts := event.contacts.map fun contact =>
      { contact with x := contact.x - origin.x, y := contact.y - origin.y } }

end Mir.Input

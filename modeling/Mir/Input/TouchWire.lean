/-
This file embeds how a touch event goes to a client. The wire has motion events in which one contact
at most goes down or up, so the sender makes one of them for each contact of the event that does,
and packs the index of that contact into the action; the client's lexicon takes each of them apart.
-/

import Mathlib.Algebra.Group.Nat.Defs
import Mathlib.Algebra.Order.Ring.Unbundled.Rat
import Mir.Input.Event

namespace Mir.Input

/-! ### What is on the wire -/

def actionDown : BitVec 32 := 0
def actionUp : BitVec 32 := 1
def actionMove : BitVec 32 := 2
def actionPointerDown : BitVec 32 := 5
def actionPointerUp : BitVec 32 := 6
def actionMask : BitVec 32 := 0xff
def actionPointerIndexMask : BitVec 32 := 0xff00
def actionPointerIndexShift : Nat := 8

def sourceTouchscreen : BitVec 32 := 0x1002
def sourceMouse : BitVec 32 := 0x2002
def sourceTrackball : BitVec 32 := 0x10004
def sourceTouchpad : BitVec 32 := 0x100008

/-- As many contacts as an event has room for, and as a motion event may have. -/
def maxCount : Nat := 16
def maxPointers : Nat := 16

def defaultBlobSize : Nat := 29

inductive AndroidToolType
  | unknown
  | finger
  | stylus
  | mouse
  | eraser
  deriving DecidableEq, Repr

/-- The properties and coordinates of one contact. An axis that is not set is zero. -/
structure AndroidPointer where
  id : TouchID
  toolType : AndroidToolType
  x : Rat
  y : Rat
  touchMajor : Rat
  touchMinor : Rat
  size : Rat
  pressure : Rat
  deriving DecidableEq

/-- A motion event, without the fields that are zero for every touch event. -/
structure MotionEvent where
  seq : BitVec 32
  deviceID : DeviceID
  source : BitVec 32
  action : BitVec 32
  metaState : BitVec 32
  cookieBlob : List UInt8
  eventTime : Int
  pointers : List AndroidPointer
  deriving DecidableEq

inductive Status
  | ok
  | badValue
  deriving DecidableEq, Repr

inductive SendError
  | cookieTooLong
  deriving DecidableEq, Repr

/-! ### Conversions -/

/-- The bits of a modifier in the masks of the two sides. -/
def modifierBits : List (Nat × Nat) :=
  [(1, 1), (2, 4), (3, 5), (4, 0), (5, 6), (6, 7), (7, 2), (8, 3), (9, 12), (10, 13), (11, 14),
    (12, 16), (13, 17), (14, 18), (15, 20), (16, 21), (17, 22)]

def androidModifiersFromMir (modifiers : Nat) : BitVec 32 :=
  modifierBits.foldl (fun mask bits =>
    if modifiers.testBit bits.1 then mask ||| BitVec.twoPow 32 bits.2 else mask) 0

def mirModifiersFromAndroid (modifiers : BitVec 32) : Nat :=
  modifierBits.foldl (fun mask bits =>
    if modifiers.getLsbD bits.2 then mask ||| 2 ^ bits.1 else mask)
    (if modifiers = 0 then 1 else 0)

def androidToolTypeFromMir : TouchTooltype → AndroidToolType
  | .finger => .finger
  | .stylus => .stylus
  | .unknown => .unknown

def mirToolTypeFromAndroid : AndroidToolType → TouchTooltype
  | .finger => .finger
  | .stylus | .eraser => .stylus
  | .mouse | .unknown => .unknown

def mirTouchActionFromMaskedAndroid (masked : BitVec 32) : TouchAction :=
  if masked = actionUp ∨ masked = actionPointerUp then .up
  else if masked = actionDown ∨ masked = actionPointerDown then .down
  else .change

def androidSourceIDIsPointerDevice (source : BitVec 32) : Bool :=
  decide (source = sourceMouse ∨ source = sourceTrackball ∨ source = sourceTouchpad)

/-- A blob has a fixed size, and a shorter cookie is filled up. -/
def convertCookieToBlob (cookie : List UInt8) : Except SendError (List UInt8) :=
  if defaultBlobSize < cookie.length then .error .cookieTooLong
  else .ok (cookie ++ List.replicate (defaultBlobSize - cookie.length) 0)

/-! ### The sender -/

structure StateChange where
  androidAction : BitVec 32
  index : Nat
  deriving DecidableEq

/-- The contacts from an index on that go down or up. -/
def changesFrom : Nat → List ContactState → List StateChange
  | _, [] => []
  | i, contact :: rest =>
    match contact.action with
    | .down => ⟨actionDown, i⟩ :: changesFrom (i + 1) rest
    | .up => ⟨actionUp, i⟩ :: changesFrom (i + 1) rest
    | .change => changesFrom (i + 1) rest

def stateChanges (contacts : List ContactState) : List StateChange :=
  match changesFrom 0 contacts with
  | [] => [⟨actionMove, 0⟩]
  | changes => changes

def androidPointer (contact : ContactState) : AndroidPointer where
  id := contact.touchID
  toolType := androidToolTypeFromMir contact.tooltype
  x := contact.x
  y := contact.y
  touchMajor := contact.touchMajor
  touchMinor := contact.touchMinor
  size := max contact.touchMajor contact.touchMinor
  pressure := contact.pressure

/-- Before an up is processed its contact is one that changes, and after a down; otherwise they are
skipped. -/
def isInEvent (change : StateChange) (i : Nat) (contact : ContactState) : Bool :=
  decide (i = change.index ∨ i < change.index ∧ contact.action ≠ .up ∨
    change.index < i ∧ contact.action ≠ .down)

/-- The loop over the contacts from an index on, with the contacts that are in the event so far and
the index that the changing one has among them. -/
def selectContacts (change : StateChange) :
    Nat → List ContactState → List AndroidPointer → Nat → List AndroidPointer × Nat
  | _, [], pointers, actionIndex => (pointers, actionIndex)
  | i, contact :: rest, pointers, actionIndex =>
    selectContacts change (i + 1) rest
      (if isInEvent change i contact then pointers ++ [androidPointer contact] else pointers)
      (if i = change.index then pointers.length else actionIndex)

def InputPublisher.publishMotionEvent (event : MotionEvent) : Option MotionEvent :=
  if event.seq = 0 then none
  else if maxPointers < event.pointers.length ∨ event.pointers.length < 1 then none
  else some event

/-- The sequence numbers go round, and zero is left out. -/
def nextSeq (seq : BitVec 32) : BitVec 32 := if seq + 1 = 0 then 1 else seq + 1

/-- The event for one contact that goes down or up. -/
def motionEvent (seq : BitVec 32) (event : TouchEvent) (blob : List UInt8)
    (change : StateChange) : MotionEvent :=
  let selected := selectContacts change 0 event.contacts [] 0
  { seq
    deviceID := event.deviceID
    source := sourceTouchscreen
    action := change.androidAction ||| BitVec.ofNat 32 selected.2 <<< actionPointerIndexShift
    metaState := androidModifiersFromMir event.modifiers
    cookieBlob := blob
    eventTime := event.eventTime
    pointers := selected.1 }

def publishChange (seq : BitVec 32) (event : TouchEvent) (sent : List MotionEvent × Status)
    (change : StateChange) : Except SendError (List MotionEvent × Status) := do
  let blob ← convertCookieToBlob event.cookie
  match InputPublisher.publishMotionEvent (motionEvent seq event blob change) with
  | some published => pure (sent.1 ++ [published], .ok)
  | none => pure (sent.1, .badValue)

/-- What is published, and the status of the last call of the publisher. -/
def sendTouchEvent (seq : BitVec 32) (event : TouchEvent) :
    Except SendError (List MotionEvent × Status) :=
  (stateChanges event.contacts).foldlM (publishChange seq event) ([], .ok)

/-! ### The lexicon -/

/-- The contacts of a motion event from an index on. -/
def addTouches (indexWithAction : Nat) (masked : BitVec 32) :
    Nat → List AndroidPointer → List ContactState
  | _, [] => []
  | i, pointer :: rest =>
    { touchID := pointer.id
      action := if i = indexWithAction then mirTouchActionFromMaskedAndroid masked else .change
      tooltype := mirToolTypeFromAndroid pointer.toolType
      x := pointer.x
      y := pointer.y
      pressure := pointer.pressure
      touchMajor := pointer.touchMajor
      touchMinor := pointer.touchMinor
      orientation := 0 } :: addTouches indexWithAction masked (i + 1) rest

/-- The events of pointer devices become pointer events. -/
def Lexicon.translate (event : MotionEvent) : Option TouchEvent :=
  if androidSourceIDIsPointerDevice event.source then none
  else
    some
      { deviceID := event.deviceID
        eventTime := event.eventTime
        cookie := event.cookieBlob
        modifiers := mirModifiersFromAndroid event.metaState
        contacts := addTouches
          ((event.action &&& actionPointerIndexMask) >>> actionPointerIndexShift).toNat
          (event.action &&& actionMask) 0 event.pointers }

/-- The touch events that the client makes of what is published for one. -/
def received (published : List MotionEvent) : List TouchEvent :=
  published.filterMap Lexicon.translate

end Mir.Input

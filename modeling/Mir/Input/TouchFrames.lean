/-
This file embeds how a device gathers touches. It keeps the contacts in a map that the handlers of
down, motion and up change, and every frame hands all of them to the sink; while the device is
stopped, whatever comes is ignored and the contacts stay as they are.

It proves that the frames list the touching slots, and once those that were released, exactly as
long as no slot went down or up unnoticed between two of them. What a touch is at, in the extents of
the screen, comes with it.
-/

import Mir.Input.Event
import Mir.Library.OrderedMap
import Mir.Library.Transition

namespace Mir.Input

/-! ### The device -/

structure ContactData where
  action : TouchAction := .change
  x : Rat := 0
  y : Rat := 0
  major : Rat := 0
  minor : Rat := 0
  pressure : Rat := 0
  orientation : Rat := 0
  deriving DecidableEq

/-- Where a touch is and how. -/
structure TouchProperties where
  x : Rat
  y : Rat
  major : Rat
  minor : Rat
  pressure : Rat
  deriving DecidableEq

inductive TouchscreenEvent
  | down (slot : TouchID) (touch : TouchProperties)
  | up (slot : TouchID)
  | motion (slot : TouchID) (touch : TouchProperties)
  | frame

structure TouchscreenDevice where
  sink : Bool
  lastSeenProperties : OrderedMap TouchID ContactData

namespace TouchscreenDevice

def new : TouchscreenDevice := ⟨false, .empty⟩

def start (device : TouchscreenDevice) : TouchscreenDevice := { device with sink := true }

def stop (device : TouchscreenDevice) : TouchscreenDevice := { device with sink := false }

/-- What was seen of a slot, which is added if there was nothing. -/
def seen (device : TouchscreenDevice) (slot : TouchID) : ContactData :=
  (device.lastSeenProperties.find slot).getD {}

def setContact (device : TouchscreenDevice) (slot : TouchID) (data : ContactData) :
    TouchscreenDevice :=
  { device with lastSeenProperties := device.lastSeenProperties.set slot data }

def updateContactData (data : ContactData) (action : TouchAction) (touch : TouchProperties) :
    ContactData :=
  { data with
    action
    pressure := touch.pressure
    x := touch.x
    y := touch.y
    major := touch.major
    minor := touch.minor }

def handleTouchDown (device : TouchscreenDevice) (slot : TouchID) (touch : TouchProperties) :
    TouchscreenDevice :=
  device.setContact slot (updateContactData (device.seen slot) .down touch)

def handleTouchUp (device : TouchscreenDevice) (slot : TouchID) : TouchscreenDevice :=
  device.setContact slot { device.seen slot with action := .up }

def handleTouchMotion (device : TouchscreenDevice) (slot : TouchID) (touch : TouchProperties) :
    TouchscreenDevice :=
  device.setContact slot (updateContactData (device.seen slot) .change touch)

def contactState (id : TouchID) (data : ContactData) : ContactState where
  touchID := id
  action := data.action
  tooltype := .finger
  x := data.x
  y := data.y
  pressure := data.pressure
  touchMajor := data.major
  touchMinor := data.minor
  orientation := data.orientation

/-- What is kept of a contact once it is in a frame. -/
def ContactData.afterFrame (data : ContactData) : ContactData :=
  if data.action = .down then { data with action := .change } else data

/-- All contacts are handed out; those that went up are forgotten. -/
def convertTouchFrame (device : TouchscreenDevice) : TouchscreenDevice × List ContactState :=
  ({ device with
      lastSeenProperties :=
        (device.lastSeenProperties.filter fun _ data => data.action ≠ .up).mapValues
          ContactData.afterFrame },
    device.lastSeenProperties.entries.map fun entry => contactState entry.1 entry.2)

/-- Without a sink, nothing is done. The contacts are what the sink is handed. -/
def processEvent (device : TouchscreenDevice) (event : TouchscreenEvent) :
    TouchscreenDevice × Option (List ContactState) :=
  if device.sink then
    match event with
    | .down slot touch => (device.handleTouchDown slot touch, none)
    | .up slot => (device.handleTouchUp slot, none)
    | .motion slot touch => (device.handleTouchMotion slot touch, none)
    | .frame =>
      let (next, contacts) := device.convertTouchFrame
      (next, some contacts)
  else (device, none)

end TouchscreenDevice

/-! ### What happened at a slot -/

/-- Whether a slot touches, was reported to since it went down, and is still to be reported
released. The rest says what was to be seen of it since the last frame that was handed out: whether
it touched then, whether it was released since, and what the device last noticed. -/
structure SlotHistory where
  touching : Bool
  reported : Bool
  owed : Bool
  shown : Bool
  released : Bool
  noticed : Option TouchAction
  deriving DecidableEq

namespace SlotHistory

def untouched : SlotHistory := ⟨false, false, false, false, false, none⟩

def notice (slot : SlotHistory) (started : Bool) (action : TouchAction) : SlotHistory :=
  if started then { slot with noticed := some action } else slot

def goDown (slot : SlotHistory) : SlotHistory :=
  { slot with touching := true, reported := false }

def goUp (slot : SlotHistory) : SlotHistory :=
  { slot with
    touching := false
    reported := false
    owed := slot.owed || slot.reported
    released := true }

def happen (slot : SlotHistory) : TouchAction → SlotHistory
  | .down => slot.goDown
  | .up => slot.goUp
  | .change => slot

/-- A frame reports the slot as it is. -/
def report (slot : SlotHistory) : SlotHistory :=
  { slot with
    reported := slot.touching
    owed := false
    shown := slot.touching
    released := false
    noticed := none }

/-- The actions with which a frame is to list the slot. -/
def Due (slot : SlotHistory) : TouchAction → Prop
  | .down => slot.touching = true ∧ slot.reported = false
  | .change => slot.touching = true ∧ slot.reported = true
  | .up => slot.owed = true

/-- The device noticed last what happened to the slot since the last frame: that it was released or
went down, or nothing at all; and a slot that touches again was not released in between. -/
def Followed (slot : SlotHistory) : Prop :=
  match slot.shown, slot.touching with
  | true, true => slot.released = false
  | true, false => slot.noticed = some .up
  | false, true => slot.noticed = some .down
  | false, false => slot.noticed = none

instance (slot : SlotHistory) : Decidable slot.Followed := by
  unfold Followed
  split <;> infer_instance

/-- Nothing happened to the slot since the last frame, which reported it as it is. -/
def Quiet (slot : SlotHistory) : Prop :=
  slot.shown = slot.touching ∧ slot.released = false ∧ slot.noticed = none

theorem Quiet.followed {slot : SlotHistory} (quiet : slot.Quiet) : slot.Followed := by
  obtain ⟨shown, released, noticed⟩ := quiet
  unfold Followed
  rw [shown]
  cases slot.touching
  · exact noticed
  · exact released

/-- One thing that happens to a quiet slot is followed, if it is noticed. -/
theorem Quiet.followed_happen {slot : SlotHistory} (quiet : slot.Quiet) {action : TouchAction}
    (isTouching : slot.touching = decide (action ≠ .down)) :
    ((slot.happen action).notice true action).Followed := by
  obtain ⟨touching, _, _, shown, released, noticed⟩ := slot
  obtain ⟨isShown, isKept, -⟩ := quiet
  dsimp only at isTouching isShown isKept
  subst isShown isKept isTouching
  cases action <;> rfl

end SlotHistory

/-! ### Runs -/

inductive TouchscreenOp
  | start
  | stop
  | event (event : TouchscreenEvent)

/-- The device and what happened at each slot. A slot is busy if something happened to it since the
last frame. `frames` has what the sink was handed, with what had happened by then. -/
structure TouchRun where
  device : TouchscreenDevice
  slot : TouchID → SlotHistory
  busy : List TouchID
  frames : List (List ContactState × (TouchID → SlotHistory))

namespace TouchRun

def new : TouchRun := ⟨.new, fun _ => .untouched, [], []⟩

def touched (run : TouchRun) (id : TouchID) (action : TouchAction) : TouchRun :=
  { run with
    slot := Function.update run.slot id
      (((run.slot id).happen action).notice run.device.sink action)
    busy := id :: run.busy }

/-- What happens at the slots, whether or not the device notices. -/
def happen (run : TouchRun) : TouchscreenEvent → TouchRun
  | .down slot _ => run.touched slot .down
  | .up slot => run.touched slot .up
  | .motion slot _ => run.touched slot .change
  | .frame =>
    { run with
      slot := if run.device.sink then fun id => (run.slot id).report else run.slot
      busy := [] }

def step (run : TouchRun) : TouchscreenOp → TouchRun
  | .start => { run with device := run.device.start }
  | .stop => { run with device := run.device.stop }
  | .event event =>
    let (device, handed) := run.device.processEvent event
    { run.happen event with
      device
      frames := run.frames ++ (handed.map fun contacts => (contacts, run.slot)).toList }

/-- At each slot there is down, motions and up in that order, and between two frames at most one of
them. -/
def Possible (run : TouchRun) : TouchscreenOp → Prop
  | .start | .stop | .event .frame => True
  | .event (.down slot _) => (run.slot slot).touching = false ∧ slot ∉ run.busy
  | .event (.up slot) => (run.slot slot).touching = true ∧ slot ∉ run.busy
  | .event (.motion slot _) => (run.slot slot).touching = true ∧ slot ∉ run.busy

instance (run : TouchRun) : ∀ op, Decidable (run.Possible op)
  | .start | .stop | .event .frame => inferInstanceAs (Decidable True)
  | .event (.down _ _) | .event (.up _) | .event (.motion _ _) =>
    inferInstanceAs (Decidable (_ ∧ _))

/-- A frame lists every slot with the actions that are due, each once. -/
structure ListsExactly (contacts : List ContactState) (slot : TouchID → SlotHistory) : Prop where
  once : (contacts.map fun contact => (contact.touchID, contact.action)).Nodup
  lists : ∀ id action, (∃ contact ∈ contacts, contact.touchID = id ∧ contact.action = action) ↔
    (slot id).Due action

/-- What the sink was handed was right. -/
def Lists (run : TouchRun) : Prop := ∀ frame ∈ run.frames, ListsExactly frame.1 frame.2

/-- A frame that is handed out finds that the device followed every slot. -/
def Follows (run : TouchRun) : TouchscreenOp → Prop
  | .event .frame => run.device.sink = true → ∀ id, (run.slot id).Followed
  | _ => True

end TouchRun

/-! ### One slot -/

/-- What the device keeps of a slot, if it followed it up to the last frame. -/
structure SlotHistory.Agrees (slot : SlotHistory) (entry : Option TouchAction) : Prop where
  reported : slot.reported = (slot.shown && !slot.released)
  owed : slot.owed = (slot.shown && slot.released)
  stays : slot.shown = true → slot.released = false → slot.touching = true
  steady : slot.shown = true → slot.released = false →
    slot.noticed = none ∨ slot.noticed = some .change
  entry_eq : entry = slot.noticed.or (if slot.shown then some .change else none)

/-- What is kept of an action after a frame. -/
def actionAfterFrame : Option TouchAction → Option TouchAction
  | some .down | some .change => some .change
  | some .up | none => none

namespace SlotHistory.Agrees

variable {slot : SlotHistory} {entry : Option TouchAction}

theorem untouched : Agrees .untouched none :=
  ⟨rfl, rfl, nofun, nofun, rfl⟩

theorem goDown (agrees : slot.Agrees entry) (isUp : slot.touching = false) (started : Bool) :
    Agrees (slot.goDown.notice started .down) (if started then some .down else entry) := by
  obtain ⟨reported, owed, stays, -, entryEq⟩ := agrees
  have moved : slot.shown = true → slot.released = true := fun shown =>
    Bool.eq_true_of_not_eq_false fun kept => by rw [stays shown kept] at isUp; cases isUp
  have unreported : (slot.shown && !slot.released) = false := by
    cases shown : slot.shown with
    | false => rfl
    | true => rw [moved shown]; rfl
  have notKept {motive : Prop} (shown : slot.shown = true) (kept : slot.released = false) :
      motive := by rw [moved shown] at kept; cases kept
  cases started with
  | false => exact ⟨unreported.symm, owed, fun _ _ => rfl, notKept, entryEq⟩
  | true => exact ⟨unreported.symm, owed, fun _ _ => rfl, notKept, rfl⟩

theorem goUp (agrees : slot.Agrees entry) (started : Bool) :
    Agrees (slot.goUp.notice started .up) (if started then some .up else entry) := by
  obtain ⟨reported, owed, -, -, entryEq⟩ := agrees
  have isOwed : (slot.owed || slot.reported) = (slot.shown && true) := by
    rw [reported, owed]
    cases slot.shown <;> cases slot.released <;> rfl
  have isUnreported : false = (slot.shown && !true) := by cases slot.shown <;> rfl
  cases started with
  | false => exact ⟨isUnreported, isOwed, nofun, nofun, entryEq⟩
  | true => exact ⟨isUnreported, isOwed, nofun, nofun, rfl⟩

theorem move (agrees : slot.Agrees entry) (started : Bool) :
    Agrees (slot.notice started .change) (if started then some .change else entry) := by
  obtain ⟨reported, owed, stays, steady, entryEq⟩ := agrees
  cases started with
  | false => exact ⟨reported, owed, stays, steady, entryEq⟩
  | true => exact ⟨reported, owed, stays, fun _ _ => .inr rfl, rfl⟩

theorem happen (agrees : slot.Agrees entry) (started : Bool) {action : TouchAction}
    (isUp : action = .down → slot.touching = false) :
    Agrees ((slot.happen action).notice started action)
      (if started then some action else entry) := by
  cases action with
  | down => exact agrees.goDown (isUp rfl) started
  | up => exact agrees.goUp started
  | change => exact agrees.move started

/-- The device has for a slot what is due exactly if it followed it. -/
theorem due_iff_followed (agrees : slot.Agrees entry) :
    (∀ action, entry = some action ↔ slot.Due action) ↔ slot.Followed := by
  obtain ⟨reported, owed, stays, steady, entryEq⟩ := agrees
  obtain ⟨touching, _, _, shown, released, noticed⟩ := slot
  dsimp only at reported owed stays steady entryEq
  subst reported owed entryEq
  unfold Followed
  constructor
  · intro listed
    have down := listed .down
    have change := listed .change
    have up := listed .up
    simp only [Due] at down change up
    clear listed
    cases shown <;> cases touching <;> cases released <;>
      rcases noticed with _ | _ | _ | _ <;> simp_all
  · intro followed action
    cases action <;> simp only [Due] <;> cases shown <;> cases touching <;> cases released <;>
      rcases noticed with _ | _ | _ | _ <;> simp_all

theorem report (agrees : slot.Agrees entry) (followed : slot.Followed) :
    slot.report.Agrees (actionAfterFrame entry) := by
  obtain ⟨-, -, stays, steady, entryEq⟩ := agrees
  obtain ⟨touching, _, _, shown, released, noticed⟩ := slot
  dsimp only at stays steady entryEq
  subst entryEq
  unfold Followed at followed
  refine ⟨by simp [SlotHistory.report], by simp [SlotHistory.report], fun isShown _ => isShown,
    fun _ _ => .inl rfl, ?_⟩
  cases shown <;> cases touching <;> rcases noticed with _ | _ | _ | _ <;>
    simp_all [SlotHistory.report, actionAfterFrame]

end SlotHistory.Agrees

/-! ### What the device has -/

namespace TouchscreenDevice

/-- With what action a slot would be in a frame. -/
def entryAction (device : TouchscreenDevice) (id : TouchID) : Option TouchAction :=
  (device.lastSeenProperties.find id).map ContactData.action

variable {device : TouchscreenDevice} {slot : TouchID → SlotHistory}

theorem entryAction_setContact (touched id : TouchID) (data : ContactData) :
    (device.setContact touched data).entryAction id =
      if id = touched then some data.action else device.entryAction id := by
  unfold entryAction setContact
  rw [OrderedMap.find_set]
  split <;> rfl

theorem entryAction_convertTouchFrame (id : TouchID) :
    device.convertTouchFrame.1.entryAction id = actionAfterFrame (device.entryAction id) := by
  unfold entryAction convertTouchFrame
  rw [OrderedMap.find_mapValues, OrderedMap.find_filter]
  cases device.lastSeenProperties.find id with
  | none => rfl
  | some data =>
    obtain ⟨action, _, _, _, _, _, _⟩ := data
    cases action <;> rfl

theorem mem_contacts_iff (id : TouchID) (action : TouchAction) :
    (∃ contact ∈ device.convertTouchFrame.2, contact.touchID = id ∧ contact.action = action) ↔
      device.entryAction id = some action := by
  unfold entryAction convertTouchFrame
  rw [Option.map_eq_some_iff]
  constructor
  · rintro ⟨contact, member, rfl, rfl⟩
    obtain ⟨entry, isEntry, rfl⟩ := List.mem_map.mp member
    exact ⟨entry.2, (OrderedMap.find_eq_some_iff _ _ _).mpr isEntry, rfl⟩
  · rintro ⟨data, found, rfl⟩
    exact ⟨contactState id data,
      List.mem_map_of_mem (f := fun entry => contactState entry.1 entry.2)
        ((OrderedMap.find_eq_some_iff _ _ _).mp found), rfl, rfl⟩

/-- No slot is listed twice, since no two entries have the same id. -/
theorem nodup_contacts :
    (device.convertTouchFrame.2.map fun contact => (contact.touchID, contact.action)).Nodup := by
  unfold convertTouchFrame
  rw [List.map_map]
  refine List.Pairwise.map _ ?_ device.lastSeenProperties.ordered
  rintro first second before same
  exact absurd (congrArg Prod.fst same) (ne_of_lt before)

theorem listsExactly_iff :
    TouchRun.ListsExactly device.convertTouchFrame.2 slot ↔
      ∀ id action, device.entryAction id = some action ↔ (slot id).Due action := by
  constructor
  · intro lists id action
    exact (mem_contacts_iff id action).symm.trans (lists.lists id action)
  · intro due
    exact ⟨nodup_contacts, fun id action => (mem_contacts_iff id action).trans (due id action)⟩

end TouchscreenDevice

/-! ### Every run -/

namespace TouchscreenEvent

/-- The slot at which something happens, and what. -/
def touch : TouchscreenEvent → Option (TouchID × TouchAction)
  | .down slot _ => some (slot, .down)
  | .up slot => some (slot, .up)
  | .motion slot _ => some (slot, .change)
  | .frame => none

end TouchscreenEvent

namespace TouchRun

variable {run : TouchRun}

/-- The device follows every slot, and what it handed out was right. -/
structure Kept (run : TouchRun) : Prop where
  lists : run.Lists
  agrees : ∀ id, (run.slot id).Agrees (run.device.entryAction id)

theorem kept_new : Kept new := ⟨nofun, fun _ => .untouched⟩

theorem slot_happen {event : TouchscreenEvent} {id : TouchID} {action : TouchAction}
    (isTouch : event.touch = some (id, action)) :
    run.happen event = run.touched id action := by
  cases event <;> cases isTouch <;> rfl

/-- What the device has of a slot after something happened at one. -/
theorem entryAction_processEvent {event : TouchscreenEvent} {touched : TouchID}
    {action : TouchAction} (isTouch : event.touch = some (touched, action)) (id : TouchID) :
    (run.device.processEvent event).1.entryAction id =
      if id = touched then
        if run.device.sink then some action else run.device.entryAction touched
      else run.device.entryAction id := by
  unfold TouchscreenDevice.processEvent
  cases started : run.device.sink with
  | false =>
    rw [if_neg Bool.false_ne_true]
    split
    · next same => rw [same]; rfl
    · rfl
  | true =>
    cases event <;> cases isTouch <;>
      exact TouchscreenDevice.entryAction_setContact _ id _

theorem handed_of_touch {event : TouchscreenEvent} {touched : TouchID} {action : TouchAction}
    (isTouch : event.touch = some (touched, action)) :
    (run.device.processEvent event).2 = none := by
  unfold TouchscreenDevice.processEvent
  cases run.device.sink <;> cases event <;> first | rfl | cases isTouch

theorem Kept.touch (kept : run.Kept) {event : TouchscreenEvent} {touched : TouchID}
    {action : TouchAction} (isTouch : event.touch = some (touched, action))
    (possible : run.Possible (.event event)) : Kept (run.step (.event event)) := by
  have isUp : action = .down → (run.slot touched).touching = false := by
    rintro rfl
    cases event <;> cases isTouch
    exact possible.1
  have isFrames : (run.step (.event event)).frames = run.frames := by
    simp [step, handed_of_touch isTouch]
  refine ⟨?_, fun id => ?_⟩
  · unfold Lists
    rw [isFrames]
    exact kept.lists
  · have isSlot : (run.step (.event event)).slot = (run.touched touched action).slot := by
      simp only [step, slot_happen isTouch]
    have isEntry : (run.device.processEvent event).1.entryAction id =
        if id = touched then
          if run.device.sink then some action else run.device.entryAction touched
        else run.device.entryAction id := entryAction_processEvent isTouch id
    rw [isSlot]
    show SlotHistory.Agrees _ ((run.device.processEvent event).1.entryAction id)
    rw [isEntry]
    by_cases same : id = touched
    · subst same
      rw [if_pos rfl]
      simp only [TouchRun.touched, Function.update_self]
      exact (kept.agrees id).happen run.device.sink isUp
    · rw [if_neg same]
      simp only [TouchRun.touched, Function.update_of_ne same]
      exact kept.agrees id

theorem step_frame_of_stopped (stopped : run.device.sink = false) :
    run.step (.event .frame) = { run with busy := [] } := by
  simp [step, TouchscreenDevice.processEvent, happen, stopped]

theorem step_frame_of_started (started : run.device.sink = true) :
    run.step (.event .frame) =
      { device := run.device.convertTouchFrame.1
        slot := fun id => (run.slot id).report
        busy := []
        frames := run.frames ++ [(run.device.convertTouchFrame.2, run.slot)] } := by
  simp [step, TouchscreenDevice.processEvent, happen, started]

theorem Kept.step (kept : run.Kept) {op : TouchscreenOp} (possible : run.Possible op)
    (follows : run.Follows op) : Kept (run.step op) := by
  cases op with
  | start => exact ⟨kept.lists, kept.agrees⟩
  | stop => exact ⟨kept.lists, kept.agrees⟩
  | event event =>
    cases isTouch : event.touch with
    | some touch => exact kept.touch isTouch possible
    | none =>
      cases event with
      | down | up | motion => cases isTouch
      | frame =>
        cases started : run.device.sink with
        | false =>
          rw [step_frame_of_stopped started]
          exact ⟨kept.lists, kept.agrees⟩
        | true =>
          have followed := follows started
          rw [step_frame_of_started started]
          refine ⟨fun frame member => ?_, fun id => ?_⟩
          · rcases List.mem_append.mp member with before | new
            · exact kept.lists frame before
            · rw [List.mem_singleton.mp new]
              refine TouchscreenDevice.listsExactly_iff.mpr fun id => ?_
              exact (kept.agrees id).due_iff_followed.mpr (followed id)
          · rw [TouchscreenDevice.entryAction_convertTouchFrame]
            exact (kept.agrees id).report (followed id)

/-- A frame that is right finds that the device followed every slot. -/
theorem Kept.follows (kept : run.Kept) (op : TouchscreenOp) (lists : (run.step op).Lists) :
    run.Follows op := by
  cases op with
  | start | stop => trivial
  | event event =>
    cases event with
    | down | up | motion => trivial
    | frame =>
      intro started id
      rw [step_frame_of_started started] at lists
      have exactly := lists _ (List.mem_append_right _ List.mem_cons_self)
      exact (kept.agrees id).due_iff_followed.mp (TouchscreenDevice.listsExactly_iff.mp exactly id)

/-! ### A device that is not stopped -/

/-- Whatever happens to a slot, and every frame, comes while the device is started. -/
def Heard (run : TouchRun) : TouchscreenOp → Prop
  | .start | .stop => True
  | .event _ => run.device.sink = true

instance (run : TouchRun) : ∀ op, Decidable (run.Heard op)
  | .start | .stop => inferInstanceAs (Decidable True)
  | .event _ => inferInstanceAs (Decidable (_ = _))

/-- A slot at which nothing happened since the last frame was reported as it is. -/
structure Settled (run : TouchRun) : Prop where
  quiet : ∀ id, id ∉ run.busy → (run.slot id).Quiet
  followed : ∀ id, id ∈ run.busy → (run.slot id).Followed

theorem Settled.touch (settled : run.Settled) (started : run.device.sink = true) {touched : TouchID}
    (action : TouchAction) (rested : touched ∉ run.busy)
    (isTouching : (run.slot touched).touching = decide (action ≠ .down)) {next : TouchRun}
    (isSlot : next.slot = (run.touched touched action).slot)
    (isBusy : next.busy = touched :: run.busy) : next.Settled := by
  have happened := (settled.quiet touched rested).followed_happen isTouching
  rw [← started] at happened
  refine ⟨fun id isRested => ?_, fun id isBusyNow => ?_⟩
  · obtain ⟨different, before⟩ := not_or.mp (mt List.mem_cons.mpr (isBusy ▸ isRested))
    rw [isSlot]
    simp only [TouchRun.touched, Function.update_of_ne different]
    exact settled.quiet id before
  · rw [isSlot]
    by_cases same : id = touched
    · subst same
      simp only [TouchRun.touched, Function.update_self]
      exact happened
    · simp only [TouchRun.touched, Function.update_of_ne same]
      exact settled.followed id ((List.mem_cons.mp (isBusy ▸ isBusyNow)).resolve_left same)

theorem Settled.followed_all (settled : run.Settled) (id : TouchID) : (run.slot id).Followed := by
  by_cases isBusy : id ∈ run.busy
  · exact settled.followed id isBusy
  · exact (settled.quiet id isBusy).followed

theorem Settled.step (settled : run.Settled) {op : TouchscreenOp}
    (heard : run.Possible op ∧ run.Heard op) : (run.step op).Settled := by
  obtain ⟨possible, started⟩ := heard
  cases op with
  | start | stop => exact ⟨settled.quiet, settled.followed⟩
  | event event =>
    cases event with
    | down slot touch => exact settled.touch started .down possible.2 possible.1 rfl rfl
    | up slot => exact settled.touch started .up possible.2 possible.1 rfl rfl
    | motion slot touch => exact settled.touch started .change possible.2 possible.1 rfl rfl
    | frame =>
      rw [step_frame_of_started started]
      exact ⟨fun id _ => ⟨rfl, rfl, rfl⟩, nofun⟩

theorem settled_new : Settled new := ⟨fun _ _ => ⟨rfl, rfl, rfl⟩, nofun⟩

theorem follows_of_heard {ops : List TouchscreenOp}
    (along : Transition.AllowedAlong step (fun run op => run.Possible op ∧ run.Heard op) new ops) :
    Transition.AllowedAlong step Follows new ops :=
  along.of_invariant settled_new (fun _ _ settled heard => settled.step heard)
    fun run op settled _ => by
      cases op with
      | start | stop => trivial
      | event event =>
        cases event with
        | down | up | motion => trivial
        | frame => exact fun _ id => settled.followed_all id

/-! ### The frames -/

/-- In every run, the frames that the sink is handed list exactly what is due, as long as each of
them finds that the device noticed last what happened to every slot, and only so long. -/
theorem lists_iff {ops : List TouchscreenOp}
    (possible : Transition.AllowedAlong step Possible new ops) :
    (∀ done, done <+: ops → (done.foldl step new).Lists) ↔
      Transition.AllowedAlong step Follows new ops :=
  Transition.forall_prefix_iff_of_possible possible kept_new
    (fun _ _ kept possible follows => kept.step possible follows)
    (fun _ kept => kept.lists)
    (fun _ op kept _ lists => kept.follows op lists)

theorem lists_restarted :
    Transition.AllowedAlong step Possible new
        [.start, .event (.down 0 ⟨1, 2, 0, 0, 1⟩), .event .frame, .stop, .start, .event (.up 0),
          .event .frame] ∧
      ∀ done, done <+: [.start, .event (.down 0 ⟨1, 2, 0, 0, 1⟩), .event .frame, .stop, .start,
        .event (.up 0), .event .frame] → (done.foldl step new).Lists :=
  ⟨by decide, (lists_iff (by decide)).mpr (follows_of_heard (by decide))⟩

/-- A slot goes up while the device is stopped, and the next frame lists it as touching. -/
theorem released_slot_is_listed :
    Transition.AllowedAlong step Possible new
        [.start, .event (.down 0 ⟨1, 2, 0, 0, 1⟩), .event .frame, .stop, .event (.up 0), .start,
          .event .frame] ∧
      ¬ ∀ done, done <+: [.start, .event (.down 0 ⟨1, 2, 0, 0, 1⟩), .event .frame, .stop,
          .event (.up 0), .start, .event .frame] → (done.foldl step new).Lists := by
  refine ⟨by decide, fun always => ?_⟩
  have lists := always _ (List.prefix_refl _)
  have listed := ((lists _ (List.getLast_mem (by decide))).lists 0 .change).mp
    ⟨TouchscreenDevice.contactState 0 ⟨.change, 1, 2, 0, 0, 1, 0⟩, by decide, rfl, rfl⟩
  have touches : false = true := listed.1
  cases touches

/-- As long as nothing is ignored, all frames are right. -/
theorem lists_of_heard {ops : List TouchscreenOp}
    (along : Transition.AllowedAlong step (fun run op => run.Possible op ∧ run.Heard op) new ops)
    {done : List TouchscreenOp} (isPrefix : done <+: ops) : (done.foldl step new).Lists := by
  have possible := along.of_invariant settled_new (fun _ _ settled heard => settled.step heard)
    fun _ _ _ heard => heard.1
  exact (Transition.forall_prefix_iff_of_possible possible kept_new
    (fun _ _ kept possible follows => kept.step possible follows) (fun _ kept => kept.lists)
    (fun _ op kept _ lists => kept.follows op lists)).mpr (follows_of_heard along) done isPrefix

end TouchRun

end Mir.Input

/-
This file says when the touch validator keeps to the order of time. The events that it injects are
made with the modifiers of the event that comes in where the time belongs, so what is dispatched for
a device is in order, and has the time of what it was dispatched for, exactly if each event that
something is injected for has its own modifiers for a time.
-/

import Mir.Input.Validator

namespace Mir.Input

variable {Content : Type}

/-! ### What is dispatched for what -/

def Event.touched : Event Content → Option TouchEvent
  | .touch event => some event
  | .other _ => none

/-- The touch events that are dispatched, each with the one that came in when it was. -/
def Validator.caused (validator : Validator) :
    List (Event Content) → List (TouchEvent × TouchEvent)
  | [] => []
  | event :: rest =>
    let handled := validator.validateAndDispatch event
    (match event with
      | .touch cause =>
        (handled.1.filterMap Event.touched).map fun dispatched => (dispatched, cause)
      | .other _ => []) ++ handled.2.caused rest

/-- What is dispatched for a device is in the order of time, and has the time of the event that it
was dispatched for. -/
structure KeepsTime (device : DeviceID) (events : List (Event Content)) : Prop where
  ordered : ((touchStream device (Validator.initial.dispatched events)).map
    TouchEvent.eventTime).Pairwise (· ≤ ·)
  caused : ∀ pair ∈ Validator.initial.caused events, pair.2.deviceID = device →
    pair.1.eventTime = pair.2.eventTime

/-- The condition under which it is: an event that may not follow the one before it has its
modifiers for a time. -/
def Timed (previous : List ContactState) : List TouchEvent → Prop
  | [] => True
  | event :: rest =>
    (Follows previous event.contacts ∨ (event.modifiers : Int) = event.eventTime) ∧
      Timed event.contacts rest

instance decidableTimed : (previous : List ContactState) → (stream : List TouchEvent) →
    Decidable (Timed previous stream)
  | _, [] => inferInstanceAs (Decidable True)
  | _, event :: rest =>
    have := decidableTimed event.contacts rest
    inferInstanceAs (Decidable (_ ∧ _))

theorem caused_touch (validator : Validator) (event : TouchEvent) (rest : List (Event Content)) :
    validator.caused (.touch event :: rest) =
      ((ensureStreamValidity (getContactState event)
          (validator.lastEventByDevice event.deviceID)).map (makeEvent event) ++ [event]).map
        (fun dispatched => (dispatched, event)) ++
      (validator.handleTouchEvent event : List (Event Content) × Validator).2.caused rest := by
  have injected (contacts : List (List ContactState)) :
      (contacts.map fun contacts => (.touch (makeEvent event contacts) : Event Content)).filterMap
        Event.touched = contacts.map (makeEvent event) := by
    rw [List.filterMap_map]
    exact List.filterMap_eq_map.symm ▸ rfl
  rw [Validator.caused]
  dsimp only [Validator.validateAndDispatch, Validator.handleTouchEvent]
  rw [List.filterMap_append, injected]
  rfl

/-- The stream that is dispatched for a device is what its events cause. -/
theorem touchStream_dispatched (device : DeviceID) (events : List (Event Content))
    (validator : Validator) :
    touchStream device (validator.dispatched events) =
      ((validator.caused events).filter fun pair => pair.2.deviceID = device).map Prod.fst := by
  induction events generalizing validator with
  | nil => rfl
  | cons event rest inductionHypothesis =>
    cases event with
    | other content => exact inductionHypothesis validator
    | touch event =>
      rw [caused_touch, Validator.dispatched, Validator.validateAndDispatch, touchStream_append,
        touchStream_handleTouchEvent, inductionHypothesis, List.filter_append, List.map_append,
        List.filter_map]
      congr 1
      by_cases same : event.deviceID = device
      · simp [same, Function.comp_def]
      · simp [same, Function.comp_def]

/-- What is dispatched was caused by one of the events of its device. -/
theorem mem_touchStream_of_caused {events : List (Event Content)} {validator : Validator}
    {pair : TouchEvent × TouchEvent} (member : pair ∈ validator.caused events) :
    pair.2 ∈ touchStream pair.2.deviceID events := by
  induction events generalizing validator with
  | nil => cases member
  | cons event rest inductionHypothesis =>
    cases event with
    | other content => exact inductionHypothesis member
    | touch event =>
      rw [caused_touch] at member
      rw [touchStream_touch]
      rcases List.mem_append.mp member with isCaused | later
      · obtain ⟨dispatched, -, rfl⟩ := List.mem_map.mp isCaused
        rw [if_pos rfl]
        exact List.mem_cons_self
      · have inRest := inductionHypothesis later
        split
        · exact List.mem_cons_of_mem _ inRest
        · exact inRest

/-! ### The order of time -/

/-- Events that come in in the order of time cause what is dispatched in that order. -/
theorem causes_ordered (device : DeviceID) {events : List (Event Content)} (validator : Validator)
    (ordered : ((touchStream device events).map TouchEvent.eventTime).Pairwise (· ≤ ·)) :
    ((validator.caused events).filter fun pair => pair.2.deviceID = device).Pairwise
      fun first second => first.2.eventTime ≤ second.2.eventTime := by
  induction events generalizing validator with
  | nil => exact .nil
  | cons event rest inductionHypothesis =>
    cases event with
    | other content => exact inductionHypothesis validator ordered
    | touch event =>
      rw [touchStream_touch] at ordered
      rw [caused_touch, List.filter_append]
      by_cases same : event.deviceID = device
      · rw [if_pos same, List.map_cons] at ordered
        obtain ⟨first, later⟩ := List.pairwise_cons.mp ordered
        refine List.pairwise_append.mpr ⟨?_, inductionHypothesis _ later, ?_⟩
        · refine List.Pairwise.filter _ (List.pairwise_map.mpr ?_)
          exact List.pairwise_of_forall fun _ _ => Int.le_refl event.eventTime
        · intro pair isCaused other isLater
          obtain ⟨dispatched, -, rfl⟩ := List.mem_map.mp (List.mem_filter.mp isCaused).1
          obtain ⟨member, isDevice⟩ := List.mem_filter.mp isLater
          have inStream := mem_touchStream_of_caused member
          rw [of_decide_eq_true isDevice] at inStream
          exact first _ (List.mem_map_of_mem inStream)
      · rw [if_neg same] at ordered
        have none : ((((ensureStreamValidity (getContactState event)
            (validator.lastEventByDevice event.deviceID)).map (makeEvent event) ++ [event]).map
            fun dispatched => (dispatched, event)).filter
            fun pair => pair.2.deviceID = device) = [] := by
          simp [same]
        rw [none]
        exact inductionHypothesis _ ordered

/-- The injected events have the time of the event that comes in if there are none, or if that has
its modifiers for a time. -/
theorem injected_in_time_iff (event : TouchEvent) (injected : List (List ContactState)) :
    (∀ dispatched ∈ injected.map (makeEvent event) ++ [event],
      dispatched.eventTime = event.eventTime) ↔
      injected = [] ∨ (event.modifiers : Int) = event.eventTime := by
  constructor
  · intro inTime
    cases injected with
    | nil => exact .inl rfl
    | cons contacts rest => exact .inr (inTime _ List.mem_cons_self)
  · intro condition dispatched member
    rcases List.mem_append.mp member with isInjected | isLast
    · obtain ⟨contacts, isContacts, rfl⟩ := List.mem_map.mp isInjected
      rcases condition with rfl | same
      · cases isContacts
      · exact same
    · rw [List.mem_singleton.mp isLast]

/-- The induction over the events that come in: `previous` is the last one of the device. -/
theorem caused_in_time_iff (device : DeviceID) (events : List (Event Content))
    (validator : Validator) (previous : List ContactState)
    (live : liveIDs previous = (validator.lastEventByDevice device).map ContactState.touchID) :
    (∀ pair ∈ validator.caused events, pair.2.deviceID = device →
      pair.1.eventTime = pair.2.eventTime) ↔ Timed previous (touchStream device events) := by
  induction events generalizing validator previous with
  | nil => exact iff_of_true nofun trivial
  | cons event rest inductionHypothesis =>
    cases event with
    | other content => exact inductionHypothesis validator previous live
    | touch event =>
      rw [caused_touch, touchStream_touch, List.forall_mem_append, List.forall_mem_map]
      by_cases same : event.deviceID = device
      · subst same
        rw [if_pos rfl]
        have inTime := injected_in_time_iff event (ensureStreamValidity (getContactState event)
          (validator.lastEventByDevice event.deviceID))
        rw [ensureStreamValidity_eq_nil_iff live, follows_getContactState] at inTime
        have remembers : liveIDs event.contacts =
            ((validator.handleTouchEvent event : List (Event Content) × Validator).2
              |>.lastEventByDevice event.deviceID).map ContactState.touchID := by
          rw [handleTouchEvent_same, remembered_ids, liveIDs_getContactState]
        refine and_congr ?_ (inductionHypothesis _ event.contacts remembers)
        rw [← inTime]
        exact forall₂_congr fun _ _ => imp_iff_right rfl
      · rw [if_neg same, and_iff_right fun _ _ isDevice => absurd isDevice same]
        refine inductionHypothesis _ previous ?_
        rw [handleTouchEvent_other validator event same]
        exact live

/-- Where events come in in the order of time, those that are dispatched keep it and have the time
of what they are dispatched for exactly if each that may not follow the one before it has its
modifiers for a time. -/
theorem keepsTime_iff (device : DeviceID) (events : List (Event Content))
    (ordered : ((touchStream device events).map TouchEvent.eventTime).Pairwise (· ≤ ·)) :
    KeepsTime device events ↔ Timed [] (touchStream device events) := by
  have inTime := caused_in_time_iff device events Validator.initial [] rfl
  refine ⟨fun keeps => inTime.mp keeps.caused, fun timed => ⟨?_, inTime.mpr timed⟩⟩
  have causes := causes_ordered device Validator.initial ordered
  rw [touchStream_dispatched, List.map_map, List.pairwise_map]
  refine causes.imp_of_mem fun {first second} isFirst isSecond before => ?_
  obtain ⟨firstCaused, firstDevice⟩ := List.mem_filter.mp isFirst
  obtain ⟨secondCaused, secondDevice⟩ := List.mem_filter.mp isSecond
  dsimp only [Function.comp_apply]
  rw [inTime.mpr timed first firstCaused (of_decide_eq_true firstDevice),
    inTime.mpr timed second secondCaused (of_decide_eq_true secondDevice)]
  exact before

/-- A contact goes down and up with another one coming down in between. -/
private def alternating : List (Event Unit) :=
  [.touch ⟨1, 10, [], 1, [plainContact 4 .down]⟩, .other (),
    .touch ⟨1, 20, [], 1, [plainContact 4 .change, plainContact 7 .down]⟩,
    .touch ⟨1, 20, [], 1, [plainContact 4 .up, plainContact 7 .change]⟩]

theorem alternating_keepsTime : KeepsTime 1 alternating :=
  (keepsTime_iff 1 alternating (by decide)).mpr (by decide)

/-- One contact vanishes and another one moves without having gone down. What is injected before the
second event has its modifiers for a time, and so is out of order. -/
theorem injected_out_of_order :
    (¬ ∀ (device : DeviceID) (events : List (Event Unit)),
      ((touchStream device events).map TouchEvent.eventTime).Pairwise (· ≤ ·) →
        KeepsTime device events) ∧
    (touchStream 1 (Validator.initial.dispatched [.touch ⟨1, 10, [], 1, [plainContact 4 .down]⟩,
      (.touch ⟨1, 20, [], 1, [plainContact 7 .change]⟩ : Event Unit)])).map
        TouchEvent.eventTime = [10, 1, 1, 20] := by
  refine ⟨fun claimed => ?_, by decide⟩
  have keeps := claimed 1 [.touch ⟨1, 10, [], 1, [plainContact 4 .down]⟩,
    .touch ⟨1, 20, [], 1, [plainContact 7 .change]⟩] (by decide)
  exact absurd keeps.ordered (by decide)

end Mir.Input

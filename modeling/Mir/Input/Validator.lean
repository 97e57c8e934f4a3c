/-
This file embeds the touch validator that every input event passes on its way to the
dispatcher. For each device it remembers the contacts the last dispatched event left down.
Before it dispatches a touch event it injects events of its own: one for each remembered
contact the event does not have, which releases it, and one for each contact the event
moves or releases without it being remembered, which puts it down.

It is proved that what is dispatched for each device is a valid stream whatever comes in,
that every incoming event is dispatched unchanged after its injected ones, and that
nothing is injected into a stream that was valid.
-/

import Mathlib.Data.List.Nodup
import Mir.Input.Event

namespace Mir.Input

/-- An event that is not a touch event is passed on without a look at its content. -/
inductive Event (Content : Type)
  | touch (event : TouchEvent)
  | other (content : Content)
  deriving DecidableEq

/-! ### The validator -/

/-- The contacts of an event, without their orientation. -/
def getContactState (event : TouchEvent) : List ContactState :=
  event.contacts.map fun contact => { contact with orientation := 0 }

/-- Insertion into an ordered set of touch ids. -/
def insertID (id : TouchID) : List TouchID → List TouchID
  | [] => [id]
  | head :: rest =>
    if id < head then id :: head :: rest
    else if head < id then head :: insertID id rest
    else head :: rest

/-- The ordered set of the touch ids of some contacts. -/
def touchSet (contacts : List ContactState) : List TouchID :=
  contacts.foldl (fun ids contact => insertID contact.touchID ids) []

/-- The ids of the first ordered set that are not in the second one. -/
def setDifference (first second : List TouchID) : List TouchID :=
  first.filter fun id => id ∉ second

/-- The contacts with the first one of this id marked as released. -/
def markUp (id : TouchID) : List ContactState → List ContactState
  | [] => []
  | contact :: rest =>
    if contact.touchID = id then { contact with action := .up } :: rest
    else contact :: markUp id rest

/-- The contacts without the first one of this id. -/
def eraseContact (id : TouchID) (contacts : List ContactState) : List ContactState :=
  contacts.eraseP fun contact => contact.touchID = id

/-- What the loop over the missing releases dispatches and the state it leaves: one contact is
released by each event. -/
def releaseMissing :
    List TouchID → List ContactState → List (List ContactState) × List ContactState
  | [], lastState => ([], lastState)
  | id :: rest, lastState =>
    let marked := markUp id lastState
    let remaining := releaseMissing rest (eraseContact id marked)
    (marked :: remaining.1, remaining.2)

/-- What the loop over the contacts that did not go down dispatches and the state it leaves. The
ids are those of contacts of the new event. -/
def pressMissing (newEvent : List ContactState) :
    List TouchID → List ContactState → List (List ContactState) × List ContactState
  | [], lastState => ([], lastState)
  | id :: rest, lastState =>
    match newEvent.find? fun contact => contact.touchID = id with
    | none => pressMissing newEvent rest lastState
    | some contact =>
      let remaining :=
        pressMissing newEvent rest (lastState ++ [{ contact with action := .change }])
      ((lastState ++ [{ contact with action := .down }]) :: remaining.1, remaining.2)

/-- The remembered contacts that a new event does not have. -/
def missingUp (newEvent lastState : List ContactState) : List TouchID :=
  setDifference (touchSet lastState) (touchSet newEvent)

/-- The contacts that a new event moves or releases and that are not remembered. -/
def missingDown (newEvent lastState : List ContactState) : List TouchID :=
  setDifference (touchSet (newEvent.filter fun contact => contact.action ≠ .down))
    (touchSet lastState)

/-- The contact lists dispatched before a new event. Both lists of ids are made from the
state as it was before the first of them. -/
def ensureStreamValidity (newEvent lastState : List ContactState) : List (List ContactState) :=
  let released := releaseMissing (missingUp newEvent lastState) lastState
  released.1 ++ (pressMissing newEvent (missingDown newEvent lastState) released.2).1

/-- What is remembered of a dispatched event: contacts that went down are there to change,
released ones are forgotten. -/
def remembered (newState : List ContactState) : List ContactState :=
  (newState.map fun contact =>
    if contact.action = .down then { contact with action := .change } else contact).filter
      fun contact => contact.action ≠ .up

/-- An injected event. The source hands the modifiers of the incoming event on as the time too. -/
def makeEvent (event : TouchEvent) (contacts : List ContactState) : TouchEvent where
  deviceID := event.deviceID
  eventTime := event.modifiers
  cookie := []
  modifiers := event.modifiers
  contacts := contacts

/-- The contacts remembered for each device; a device not heard of has none. -/
structure Validator where
  lastEventByDevice : DeviceID → List ContactState

def Validator.initial : Validator where
  lastEventByDevice := fun _ => []

variable {Content : Type}

/-- The events dispatched for a touch event, and what is remembered afterwards. -/
def Validator.handleTouchEvent (validator : Validator) (event : TouchEvent) :
    List (Event Content) × Validator :=
  let newState := getContactState event
  let injected := ensureStreamValidity newState (validator.lastEventByDevice event.deviceID)
  (injected.map (fun contacts => .touch (makeEvent event contacts)) ++ [.touch event],
    { lastEventByDevice :=
        Function.update validator.lastEventByDevice event.deviceID (remembered newState) })

def Validator.validateAndDispatch (validator : Validator) :
    Event Content → List (Event Content) × Validator
  | .touch event => validator.handleTouchEvent event
  | .other content => ([.other content], validator)

/-- All that is dispatched for a sequence of incoming events. -/
def Validator.dispatched (validator : Validator) : List (Event Content) → List (Event Content)
  | [] => []
  | event :: rest =>
    let handled := validator.validateAndDispatch event
    handled.1 ++ handled.2.dispatched rest

/-! ### Valid streams -/

/-- An event may follow another: contacts that were not released are still there, and a contact
that was absent or released goes down. -/
def Follows (previous next : List ContactState) : Prop :=
  (∀ contact ∈ previous, contact.action ≠ .up → ∃ other ∈ next, other.touchID = contact.touchID) ∧
  ∀ contact ∈ next, (∀ other ∈ previous, other.touchID = contact.touchID → other.action = .up) →
    contact.action = .down

instance (previous next : List ContactState) : Decidable (Follows previous next) :=
  inferInstanceAs (Decidable (_ ∧ _))

/-- A stream of events each of which may follow the one before. -/
def ValidFrom (previous : List ContactState) : List (List ContactState) → Prop
  | [] => True
  | next :: rest => Follows previous next ∧ ValidFrom next rest

/-- A stream is valid when it follows an event without contacts. -/
def ValidStream (stream : List TouchEvent) : Prop :=
  ValidFrom [] (stream.map TouchEvent.contacts)

/-- The touch events of a device. -/
def touchStream (device : DeviceID) (events : List (Event Content)) : List TouchEvent :=
  events.filterMap fun event =>
    match event with
    | .touch touched => if touched.deviceID = device then some touched else none
    | .other _ => none

/-- Within an event the contact ids are distinct. -/
def Event.DistinctContacts : Event Content → Prop
  | .touch event => (event.contacts.map ContactState.touchID).Nodup
  | .other _ => True

instance : (event : Event Content) → Decidable event.DistinctContacts
  | .touch _ => inferInstanceAs (Decidable (List.Nodup _))
  | .other _ => inferInstanceAs (Decidable True)

/-- The second sequence is the first one with touch events inserted, each before an incoming
event of the same device. -/
inductive Repaired : List (Event Content) → List (Event Content) → Prop
  | nil : Repaired [] []
  | other (content : Content) {incoming dispatched : List (Event Content)}
      (rest : Repaired incoming dispatched) :
      Repaired (.other content :: incoming) (.other content :: dispatched)
  | touch (event : TouchEvent) (injected : List TouchEvent)
      (same : ∀ other ∈ injected, other.deviceID = event.deviceID)
      {incoming dispatched : List (Event Content)} (rest : Repaired incoming dispatched) :
      Repaired (.touch event :: incoming) (injected.map .touch ++ .touch event :: dispatched)

/-- The contacts an event leaves down. -/
def liveIDs (contacts : List ContactState) : List TouchID :=
  (contacts.filter fun contact => contact.action ≠ .up).map ContactState.touchID

theorem mem_liveIDs {contacts : List ContactState} {id : TouchID} :
    id ∈ liveIDs contacts ↔
      ∃ contact ∈ contacts, contact.action ≠ .up ∧ contact.touchID = id := by
  simp [liveIDs, and_assoc]

theorem liveIDs_cons (contact : ContactState) (rest : List ContactState) :
    liveIDs (contact :: rest) =
      if contact.action = .up then liveIDs rest else contact.touchID :: liveIDs rest := by
  unfold liveIDs
  split <;> simp_all

/-- Whether an event may follow another depends only on the contacts the other left down. -/
theorem follows_iff (previous next : List ContactState) :
    Follows previous next ↔
      (∀ id ∈ liveIDs previous, id ∈ next.map ContactState.touchID) ∧
      ∀ contact ∈ next, contact.touchID ∉ liveIDs previous → contact.action = .down := by
  refine and_congr ?_ (forall₂_congr fun contact _ => imp_congr_left ?_)
  · simp only [mem_liveIDs, List.mem_map]
    refine ⟨?_, fun kept contact member live => kept _ ⟨contact, member, live, rfl⟩⟩
    rintro kept id ⟨contact, member, live, rfl⟩
    exact kept contact member live
  · simp only [mem_liveIDs, not_exists, not_and]
    refine forall₂_congr fun other _ => ?_
    exact not_imp_not.symm

/-! ### The sets of ids -/

theorem mem_insertID (id other : TouchID) (ids : List TouchID) :
    other ∈ insertID id ids ↔ other = id ∨ other ∈ ids := by
  fun_induction insertID id ids with
  | case1 => simp
  | case2 head rest smaller => simp
  | case3 head rest notSmaller larger inductionHypothesis =>
    rw [List.mem_cons, inductionHypothesis, List.mem_cons, or_left_comm]
  | case4 head rest notSmaller notLarger =>
    have same : head = id := Int.le_antisymm (Int.not_lt.mp notSmaller) (Int.not_lt.mp notLarger)
    simp [same]

theorem insertID_pairwise (id : TouchID) (ids : List TouchID) (sorted : ids.Pairwise (· < ·)) :
    (insertID id ids).Pairwise (· < ·) := by
  fun_induction insertID id ids with
  | case1 => simp
  | case2 head rest smaller =>
    refine List.pairwise_cons.mpr ⟨?_, sorted⟩
    intro other member
    rcases List.mem_cons.mp member with rfl | inRest
    · exact smaller
    · exact Int.lt_trans smaller (List.rel_of_pairwise_cons sorted inRest)
  | case3 head rest notSmaller larger inductionHypothesis =>
    obtain ⟨below, sortedRest⟩ := List.pairwise_cons.mp sorted
    refine List.pairwise_cons.mpr ⟨?_, inductionHypothesis sortedRest⟩
    intro other member
    rcases (mem_insertID id other rest).mp member with rfl | inRest
    · exact larger
    · exact below other inRest
  | case4 => exact sorted

theorem foldl_insertID (contacts : List ContactState) (ids : List TouchID)
    (sorted : ids.Pairwise (· < ·)) :
    (contacts.foldl (fun ids contact => insertID contact.touchID ids) ids).Pairwise (· < ·) ∧
      ∀ id, id ∈ contacts.foldl (fun ids contact => insertID contact.touchID ids) ids ↔
        id ∈ ids ∨ id ∈ contacts.map ContactState.touchID := by
  induction contacts generalizing ids with
  | nil => simpa using sorted
  | cons contact rest inductionHypothesis =>
    obtain ⟨stillSorted, members⟩ :=
      inductionHypothesis _ (insertID_pairwise contact.touchID ids sorted)
    refine ⟨stillSorted, fun id => ?_⟩
    rw [List.foldl_cons, members, mem_insertID, List.map_cons, List.mem_cons]
    tauto

@[simp] theorem mem_touchSet (id : TouchID) (contacts : List ContactState) :
    id ∈ touchSet contacts ↔ id ∈ contacts.map ContactState.touchID := by
  rw [touchSet, (foldl_insertID contacts [] .nil).2]
  simp

theorem touchSet_nodup (contacts : List ContactState) : (touchSet contacts).Nodup :=
  (foldl_insertID contacts [] .nil).1.imp Int.ne_of_lt

theorem setDifference_nodup {first : List TouchID} (second : List TouchID)
    (distinct : first.Nodup) :
    (setDifference first second).Nodup :=
  distinct.filter _

@[simp] theorem mem_setDifference (id : TouchID) (first second : List TouchID) :
    id ∈ setDifference first second ↔ id ∈ first ∧ id ∉ second := by
  simp [setDifference]

theorem mem_missingUp (id : TouchID) (newEvent lastState : List ContactState) :
    id ∈ missingUp newEvent lastState ↔
      id ∈ lastState.map ContactState.touchID ∧ id ∉ newEvent.map ContactState.touchID := by
  rw [missingUp, mem_setDifference, mem_touchSet, mem_touchSet]

theorem mem_missingDown (id : TouchID) (newEvent lastState : List ContactState) :
    id ∈ missingDown newEvent lastState ↔
      (∃ contact ∈ newEvent, contact.action ≠ .down ∧ contact.touchID = id) ∧
        id ∉ lastState.map ContactState.touchID := by
  rw [missingDown, mem_setDifference, mem_touchSet, mem_touchSet]
  simp [and_assoc]

/-! ### What the loops dispatch -/

@[simp] theorem markUp_ids (id : TouchID) (contacts : List ContactState) :
    (markUp id contacts).map ContactState.touchID = contacts.map ContactState.touchID := by
  induction contacts with
  | nil => rfl
  | cons contact rest inductionHypothesis =>
    unfold markUp
    split
    · rfl
    · rw [List.map_cons, inductionHypothesis, List.map_cons]

theorem eraseContact_cons (id : TouchID) (contact : ContactState) (rest : List ContactState) :
    eraseContact id (contact :: rest) =
      if contact.touchID = id then rest else contact :: eraseContact id rest := by
  simp only [eraseContact, List.eraseP_cons, cond_eq_ite, decide_eq_true_eq]

/-- Marking a contact and forgetting it is forgetting it. -/
theorem eraseContact_markUp (id : TouchID) (contacts : List ContactState) :
    eraseContact id (markUp id contacts) = eraseContact id contacts := by
  induction contacts with
  | nil => rfl
  | cons contact rest inductionHypothesis =>
    by_cases same : contact.touchID = id
    · simp [markUp, eraseContact_cons, same]
    · simp [markUp, eraseContact_cons, same, inductionHypothesis]

theorem eraseContact_ids (id : TouchID) (contacts : List ContactState) :
    (eraseContact id contacts).map ContactState.touchID =
      (contacts.map ContactState.touchID).erase id := by
  induction contacts with
  | nil => rfl
  | cons contact rest inductionHypothesis =>
    rw [List.map_cons, List.erase_cons, eraseContact_cons]
    by_cases same : contact.touchID = id
    · simp [same]
    · simp [same, inductionHypothesis]

/-- No contact of a remembered state is released, and there is one for each id. -/
structure Tracked (state : List ContactState) : Prop where
  held : ∀ contact ∈ state, contact.action = .change
  distinct : (state.map ContactState.touchID).Nodup

theorem Tracked.liveIDs {state : List ContactState} (tracked : Tracked state) :
    liveIDs state = state.map ContactState.touchID := by
  unfold Input.liveIDs
  rw [List.filter_eq_self.mpr]
  intro contact member
  simp [tracked.held contact member]

theorem Tracked.eraseContact {state : List ContactState} (tracked : Tracked state)
    (id : TouchID) : Tracked (eraseContact id state) where
  held contact member := tracked.held contact (List.mem_of_mem_eraseP member)
  distinct := by
    rw [eraseContact_ids]
    exact tracked.distinct.erase id

/-- The event that releases a contact leaves the others down. -/
theorem Tracked.liveIDs_markUp {state : List ContactState} (tracked : Tracked state)
    (id : TouchID) :
    Input.liveIDs (markUp id state) = (Input.eraseContact id state).map ContactState.touchID := by
  induction state with
  | nil => rfl
  | cons contact rest inductionHypothesis =>
    have trackedRest : Tracked rest :=
      ⟨fun other member => tracked.held other (List.mem_cons_of_mem _ member),
        (List.nodup_cons.mp tracked.distinct).2⟩
    have held := tracked.held contact List.mem_cons_self
    by_cases same : contact.touchID = id
    · rw [markUp, if_pos same, eraseContact_cons, if_pos same, liveIDs_cons, if_pos rfl,
        trackedRest.liveIDs]
    · rw [markUp, if_neg same, eraseContact_cons, if_neg same, liveIDs_cons,
        if_neg (by simp [held]), inductionHypothesis trackedRest, List.map_cons]

/-- The events that release contacts follow one another, and after them the remembered state
lacks these contacts. -/
theorem releaseMissing_valid (ids : List TouchID) (state previous : List ContactState)
    (rest : List (List ContactState)) (tracked : Tracked state)
    (live : liveIDs previous = state.map ContactState.touchID)
    (continues : ∀ last, liveIDs last = (releaseMissing ids state).2.map ContactState.touchID →
      ValidFrom last rest) :
    ValidFrom previous ((releaseMissing ids state).1 ++ rest) := by
  induction ids generalizing state previous with
  | nil => exact continues previous live
  | cons id ids inductionHypothesis =>
    refine ⟨?_, inductionHypothesis _ _ ?_ ?_ continues⟩
    · rw [follows_iff, live, markUp_ids]
      refine ⟨fun other member => member, fun contact member unknown => absurd ?_ unknown⟩
      rw [← markUp_ids id]
      exact List.mem_map_of_mem member
    · rw [eraseContact_markUp]
      exact tracked.eraseContact id
    · rw [eraseContact_markUp]
      exact tracked.liveIDs_markUp id

theorem releaseMissing_tracked (ids : List TouchID) (state : List ContactState)
    (tracked : Tracked state) : Tracked (releaseMissing ids state).2 := by
  induction ids generalizing state with
  | nil => exact tracked
  | cons id ids inductionHypothesis =>
    refine inductionHypothesis _ ?_
    rw [eraseContact_markUp]
    exact tracked.eraseContact id

theorem mem_releaseMissing (ids : List TouchID) (state : List ContactState)
    (tracked : Tracked state) (other : TouchID) :
    other ∈ (releaseMissing ids state).2.map ContactState.touchID ↔
      other ∈ state.map ContactState.touchID ∧ other ∉ ids := by
  induction ids generalizing state with
  | nil => simp [releaseMissing]
  | cons id ids inductionHypothesis =>
    rw [releaseMissing, eraseContact_markUp, inductionHypothesis _ (tracked.eraseContact id),
      eraseContact_ids, tracked.distinct.mem_erase_iff, List.mem_cons]
    tauto

theorem Tracked.append {state : List ContactState} (tracked : Tracked state)
    {contact : ContactState} (absent : contact.touchID ∉ state.map ContactState.touchID) :
    Tracked (state ++ [{ contact with action := .change }]) where
  held other member := by
    rcases List.mem_append.mp member with known | new
    · exact tracked.held other known
    · rw [List.mem_singleton.mp new]
  distinct := by
    rw [List.map_append]
    refine tracked.distinct.append (List.nodup_singleton _) ?_
    rw [List.map_singleton, List.disjoint_singleton]
    exact absent

/-- The events that put contacts down follow one another. Afterwards exactly these contacts have
been added to the ones that were down. -/
theorem pressMissing_valid (newEvent : List ContactState) (ids : List TouchID)
    (state previous : List ContactState) (rest : List (List ContactState))
    (tracked : Tracked state) (live : liveIDs previous = state.map ContactState.touchID)
    (distinct : ids.Nodup) (absent : ∀ id ∈ ids, id ∉ state.map ContactState.touchID)
    (there : ∀ id ∈ ids, id ∈ newEvent.map ContactState.touchID)
    (continues : ∀ last, (∀ id, id ∈ liveIDs last ↔
      id ∈ state.map ContactState.touchID ∨ id ∈ ids) → ValidFrom last rest) :
    ValidFrom previous ((pressMissing newEvent ids state).1 ++ rest) := by
  induction ids generalizing state previous with
  | nil => exact continues previous fun id => by simp [live]
  | cons id ids inductionHypothesis =>
    obtain ⟨contact, found, same⟩ :
        ∃ contact, newEvent.find? (fun contact => contact.touchID = id) = some contact ∧
          contact.touchID = id := by
      obtain ⟨known, member, same⟩ := List.mem_map.mp (there id List.mem_cons_self)
      have isSome : (newEvent.find? fun contact => contact.touchID = id).isSome :=
        List.find?_isSome.mpr ⟨known, member, decide_eq_true same⟩
      obtain ⟨contact, found⟩ := Option.isSome_iff_exists.mp isSome
      have same := List.find?_some found
      exact ⟨contact, found, of_decide_eq_true same⟩
    have unknown : contact.touchID ∉ state.map ContactState.touchID := by
      rw [same]
      exact absent id List.mem_cons_self
    have down : liveIDs (state ++ [{ contact with action := .down }]) =
        state.map ContactState.touchID ++ [id] := by
      rw [← tracked.liveIDs]
      simp [liveIDs, same]
    simp only [pressMissing, found]
    refine ⟨?_, inductionHypothesis _ _ (tracked.append unknown) ?_ (List.nodup_cons.mp distinct).2
      ?_ (fun other member => there other (List.mem_cons_of_mem _ member)) ?_⟩
    · rw [follows_iff, live]
      refine ⟨fun other member => ?_, fun other member new => ?_⟩
      · rw [List.map_append]
        exact List.mem_append_left _ member
      · rcases List.mem_append.mp member with known | last
        · exact absurd (List.mem_map_of_mem known) new
        · rw [List.mem_singleton.mp last]
    · rw [down, List.map_append, List.map_singleton, same]
    · intro other member
      rw [List.map_append, List.map_singleton, List.mem_append, List.mem_singleton, not_or]
      refine ⟨absent other (List.mem_cons_of_mem _ member), ?_⟩
      rintro rfl
      exact (List.nodup_cons.mp distinct).1 (same ▸ member)
    · intro last lives
      refine continues last fun other => ?_
      rw [lives, List.map_append, List.map_singleton, List.mem_append, List.mem_singleton,
        List.mem_cons, same, or_assoc]

/-! ### One event -/

/-- The state remembers what the previous event left down. -/
structure Remembers (state previous : List ContactState) : Prop where
  tracked : Tracked state
  live : liveIDs previous = state.map ContactState.touchID

/-- What is dispatched before an event follows the previous one and is followed by the event. -/
theorem ensureStreamValidity_valid {state previous newEvent : List ContactState}
    (remembers : Remembers state previous) (rest : List (List ContactState))
    (continues : ∀ last, Follows last newEvent → ValidFrom last rest) :
    ValidFrom previous (ensureStreamValidity newEvent state ++ rest) := by
  have released := mem_releaseMissing (missingUp newEvent state) state remembers.tracked
  unfold ensureStreamValidity
  rw [List.append_assoc]
  refine releaseMissing_valid _ _ _ _ remembers.tracked remembers.live fun middle live => ?_
  refine pressMissing_valid _ _ _ _ _ (releaseMissing_tracked _ _ remembers.tracked) live
    (setDifference_nodup _ (touchSet_nodup _)) ?_ ?_ fun last lives => continues last ?_
  · intro id missing
    rw [released]
    exact fun kept => ((mem_missingDown _ _ _).mp missing).2 kept.1
  · intro id missing
    obtain ⟨⟨contact, member, -, rfl⟩, -⟩ := (mem_missingDown _ _ _).mp missing
    exact List.mem_map_of_mem member
  · rw [follows_iff]
    refine ⟨fun id known => ?_, fun contact member new => ?_⟩
    · rcases (lives id).mp known with kept | added
      · rw [released, mem_missingUp] at kept
        by_contra gone
        exact kept.2 ⟨kept.1, gone⟩
      · obtain ⟨⟨contact, member, -, rfl⟩, -⟩ := (mem_missingDown _ _ _).mp added
        exact List.mem_map_of_mem member
    · by_contra moved
      refine new ((lives _).mpr ?_)
      rw [released]
      by_cases known : contact.touchID ∈ state.map ContactState.touchID
      · refine .inl ⟨known, fun missing => ?_⟩
        exact ((mem_missingUp _ _ _).mp missing).2 (List.mem_map_of_mem member)
      · exact .inr ((mem_missingDown _ _ _).mpr ⟨⟨contact, member, moved, rfl⟩, known⟩)

theorem releaseMissing_eq_nil {ids : List TouchID} {state : List ContactState}
    (none : (releaseMissing ids state).1 = []) : ids = [] := by
  cases ids with
  | nil => rfl
  | cons id ids => cases none

theorem pressMissing_eq_nil {newEvent : List ContactState} {ids : List TouchID}
    {state : List ContactState} (there : ∀ id ∈ ids, id ∈ newEvent.map ContactState.touchID)
    (none : (pressMissing newEvent ids state).1 = []) : ids = [] := by
  cases ids with
  | nil => rfl
  | cons id ids =>
    obtain ⟨contact, member, same⟩ := List.mem_map.mp (there id List.mem_cons_self)
    unfold pressMissing at none
    split at none
    next absent => simpa [same] using List.find?_eq_none.mp absent contact member
    next => cases none

/-- Nothing is injected before an event exactly if it may follow. -/
theorem ensureStreamValidity_eq_nil_iff {state previous newEvent : List ContactState}
    (live : liveIDs previous = state.map ContactState.touchID) :
    ensureStreamValidity newEvent state = [] ↔ Follows previous newEvent := by
  rw [follows_iff, live]
  constructor
  · intro none
    obtain ⟨noRelease, noPress⟩ := List.append_eq_nil_iff.mp none
    have noneUp := releaseMissing_eq_nil noRelease
    have noneDown := pressMissing_eq_nil (fun id missing => by
      obtain ⟨⟨contact, member, -, rfl⟩, -⟩ := (mem_missingDown _ _ _).mp missing
      exact List.mem_map_of_mem member) noPress
    refine ⟨fun id known => ?_, fun contact member unknown => ?_⟩
    · by_contra gone
      exact List.not_mem_nil (noneUp ▸ (mem_missingUp id newEvent state).mpr ⟨known, gone⟩)
    · by_contra moved
      exact List.not_mem_nil (noneDown ▸ (mem_missingDown contact.touchID newEvent state).mpr
        ⟨⟨contact, member, moved, rfl⟩, unknown⟩)
  · intro follows
    have noneUp : missingUp newEvent state = [] := by
      rw [List.eq_nil_iff_forall_not_mem]
      intro id missing
      rw [mem_missingUp] at missing
      exact missing.2 (follows.1 id missing.1)
    have noneDown : missingDown newEvent state = [] := by
      rw [List.eq_nil_iff_forall_not_mem]
      intro id missing
      obtain ⟨⟨contact, member, moved, rfl⟩, unknown⟩ := (mem_missingDown _ _ _).mp missing
      exact moved (follows.2 contact member unknown)
    simp [ensureStreamValidity, noneUp, noneDown, releaseMissing, pressMissing]

theorem liveIDs_getContactState (event : TouchEvent) :
    liveIDs (getContactState event) = liveIDs event.contacts := by
  unfold liveIDs getContactState
  rw [List.filter_map, List.map_map]
  rfl

theorem getContactState_ids (event : TouchEvent) :
    (getContactState event).map ContactState.touchID =
      event.contacts.map ContactState.touchID := by
  rw [getContactState, List.map_map]
  rfl

/-- The orientation a contact loses has no part in what may follow. -/
theorem follows_getContactState (previous : List ContactState) (event : TouchEvent) :
    Follows previous (getContactState event) ↔ Follows previous event.contacts := by
  rw [follows_iff, follows_iff, getContactState_ids]
  simp [getContactState]

theorem mem_remembered {contact : ContactState} {newState : List ContactState}
    (member : contact ∈ remembered newState) : contact.action = .change := by
  obtain ⟨inMap, notUp⟩ := List.mem_filter.mp member
  obtain ⟨original, -, rfl⟩ := List.mem_map.mp inMap
  cases action : original.action <;> simp_all

theorem remembered_ids (newState : List ContactState) :
    (remembered newState).map ContactState.touchID = liveIDs newState := by
  unfold remembered
  induction newState with
  | nil => rfl
  | cons contact rest inductionHypothesis =>
    rw [List.map_cons, List.filter_cons, liveIDs_cons, ← inductionHypothesis]
    cases action : contact.action <;> simp [action]

/-- After an event was dispatched the state remembers it. -/
theorem remembers_dispatched (event : TouchEvent)
    (distinct : (event.contacts.map ContactState.touchID).Nodup) :
    Remembers (remembered (getContactState event)) event.contacts where
  tracked := by
    refine ⟨fun contact member => mem_remembered member, ?_⟩
    rw [remembered_ids, liveIDs_getContactState]
    exact (List.filter_sublist.map _).nodup distinct
  live := by rw [remembered_ids, liveIDs_getContactState]

/-! ### Runs -/

@[simp] theorem touchStream_append (device : DeviceID) (first second : List (Event Content)) :
    touchStream device (first ++ second) =
      touchStream device first ++ touchStream device second :=
  List.filterMap_append

@[simp] theorem touchStream_touch (device : DeviceID) (event : TouchEvent)
    (rest : List (Event Content)) :
    touchStream device (.touch event :: rest) =
      if event.deviceID = device then event :: touchStream device rest
      else touchStream device rest := by
  unfold touchStream
  by_cases same : event.deviceID = device <;> simp [same]

/-- What is injected for an event is in its device's stream and in no other one. -/
theorem touchStream_injected (device : DeviceID) (event : TouchEvent)
    (injected : List (List ContactState)) :
    touchStream device
        (injected.map fun contacts => (.touch (makeEvent event contacts) : Event Content)) =
      if event.deviceID = device then injected.map (makeEvent event) else [] := by
  induction injected with
  | nil => simp [touchStream]
  | cons contacts rest inductionHypothesis =>
    rw [List.map_cons, touchStream_touch, inductionHypothesis]
    change (if event.deviceID = device then _ else _) = _
    split <;> rfl

/-- What a touch event adds to the stream of a device. -/
theorem touchStream_handleTouchEvent (device : DeviceID) (validator : Validator)
    (event : TouchEvent) :
    touchStream device
        (validator.handleTouchEvent event : List (Event Content) × Validator).1 =
      if event.deviceID = device then
        (ensureStreamValidity (getContactState event)
          (validator.lastEventByDevice event.deviceID)).map (makeEvent event) ++ [event]
      else [] := by
  unfold Validator.handleTouchEvent
  rw [touchStream_append, touchStream_injected, touchStream_touch]
  split <;> rfl

theorem map_contacts_injected (event : TouchEvent) (injected : List (List ContactState)) :
    (injected.map (makeEvent event)).map TouchEvent.contacts = injected := by
  rw [List.map_map]
  exact List.map_id _

/-- A touch event of another device leaves the memory of a device alone. -/
theorem handleTouchEvent_other (validator : Validator) (event : TouchEvent) {device : DeviceID}
    (other : event.deviceID ≠ device) :
    (validator.handleTouchEvent event : List (Event Content) × Validator).2.lastEventByDevice
      device = validator.lastEventByDevice device :=
  Function.update_of_ne other.symm _ _

theorem handleTouchEvent_same (validator : Validator) (event : TouchEvent) :
    (validator.handleTouchEvent event : List (Event Content) × Validator).2.lastEventByDevice
      event.deviceID = remembered (getContactState event) :=
  Function.update_self _ _ _

/-- The induction over the incoming events: `previous` is the last event that was dispatched for
the device, and it is also the last one that came in. -/
theorem dispatched_stream (device : DeviceID) (events : List (Event Content))
    (validator : Validator) (previous : List ContactState)
    (remembers : Remembers (validator.lastEventByDevice device) previous)
    (distinct : ∀ event ∈ events, event.DistinctContacts) :
    ValidFrom previous ((touchStream device (validator.dispatched events)).map
        TouchEvent.contacts) ∧
      (ValidFrom previous ((touchStream device events).map TouchEvent.contacts) →
        touchStream device (validator.dispatched events) = touchStream device events) := by
  induction events generalizing validator previous with
  | nil => exact ⟨trivial, fun _ => rfl⟩
  | cons event rest inductionHypothesis =>
    have distinctRest : ∀ other ∈ rest, other.DistinctContacts :=
      fun other member => distinct other (List.mem_cons_of_mem _ member)
    cases event with
    | other content => exact inductionHypothesis validator previous remembers distinctRest
    | touch event =>
      rw [Validator.dispatched, Validator.validateAndDispatch, touchStream_append,
        touchStream_handleTouchEvent, touchStream_touch]
      by_cases same : event.deviceID = device
      · subst same
        obtain ⟨valid, unchanged⟩ := inductionHypothesis
          (validator.handleTouchEvent event : List (Event Content) × Validator).2 event.contacts
          (by
            rw [handleTouchEvent_same]
            exact remembers_dispatched event (distinct _ List.mem_cons_self))
          distinctRest
        rw [if_pos rfl, if_pos rfl, List.append_assoc, List.map_append, map_contacts_injected]
        refine ⟨ensureStreamValidity_valid remembers _ fun last follows => ?_, ?_⟩
        · exact ⟨(follows_getContactState last event).mp follows, valid⟩
        · rintro ⟨follows, validRest⟩
          rw [(ensureStreamValidity_eq_nil_iff remembers.live).mpr
            ((follows_getContactState previous event).mpr follows), unchanged validRest]
          rfl
      · rw [if_neg same, if_neg same]
        refine inductionHypothesis _ previous ?_ distinctRest
        rw [handleTouchEvent_other validator event same]
        exact remembers

theorem dispatched_repaired (events : List (Event Content)) (validator : Validator) :
    Repaired events (validator.dispatched events) := by
  induction events generalizing validator with
  | nil => exact .nil
  | cons event rest inductionHypothesis =>
    cases event with
    | other content => exact .other content (inductionHypothesis validator)
    | touch event =>
      have wrapped (injected : List (List ContactState)) :
          (injected.map fun contacts => (.touch (makeEvent event contacts) : Event Content)) =
            (injected.map (makeEvent event)).map .touch := by
        rw [List.map_map]
        rfl
      rw [Validator.dispatched, Validator.validateAndDispatch, Validator.handleTouchEvent,
        List.append_assoc, wrapped]
      refine .touch event _ ?_ (inductionHypothesis _)
      intro injected member
      obtain ⟨contacts, -, rfl⟩ := List.mem_map.mp member
      rfl

theorem remembers_initial (device : DeviceID) :
    Remembers (Validator.initial.lastEventByDevice device) [] where
  tracked := ⟨fun _ member => absurd member List.not_mem_nil, List.nodup_nil⟩
  live := rfl

/-- Whatever touch events come in, each is dispatched unchanged after the events injected for it,
what is dispatched for a device is a valid stream, and a stream that was valid is dispatched as
it came. -/
theorem validator_dispatches_valid_streams (events : List (Event Content))
    (distinct : ∀ event ∈ events, event.DistinctContacts) :
    Repaired events (Validator.initial.dispatched events) ∧
    ∀ device, ValidStream (touchStream device (Validator.initial.dispatched events)) ∧
      (ValidStream (touchStream device events) →
        touchStream device (Validator.initial.dispatched events) = touchStream device events) := by
  refine ⟨dispatched_repaired events _, fun device => ?_⟩
  exact dispatched_stream device events _ [] (remembers_initial device) distinct

/-- A contact that only differs from others in its id and its action. -/
def plainContact (id : TouchID) (action : TouchAction) : ContactState where
  touchID := id
  action := action
  tooltype := .finger
  x := 0
  y := 0
  pressure := 0
  touchMajor := 0
  touchMinor := 0
  orientation := 0

/-- One contact vanishes while another one moves without having gone down. -/
def swappedContacts : List (Event Unit) :=
  [.touch ⟨1, 10, [], 0, [plainContact 4 .down]⟩, .other (),
    .touch ⟨1, 20, [], 0, [plainContact 7 .change]⟩]

theorem swappedContacts_dispatched :
    (ValidStream (touchStream 1 (Validator.initial.dispatched swappedContacts)) ∧
      ¬ ValidStream (touchStream 1 swappedContacts)) ∧
    ((touchStream 1 (Validator.initial.dispatched swappedContacts)).map fun event =>
      event.contacts.map fun contact => (contact.touchID, contact.action)) =
        [[(4, .down)], [(4, .up)], [(7, .down)], [(7, .change)]] := by
  refine ⟨⟨?_, ?_⟩, by decide⟩
  · exact ((validator_dispatches_valid_streams swappedContacts (by decide)).2 1).1
  · intro valid
    have follows : Follows [plainContact 4 .down] [plainContact 7 .change] := valid.2.1
    revert follows
    decide

end Mir.Input

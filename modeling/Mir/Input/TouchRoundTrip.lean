/-
This file proves the round trip of a touch event to a client. Each event received has the contacts
before the one that changes as they are after the change, and those after it as they were before,
so from one event to the next exactly that contact comes or goes.
-/

import Mathlib.Data.List.Nodup
import Mathlib.Tactic.SplitIfs
import Mir.Input.TouchWire

namespace Mir.Input

/-! ### What is received -/

/-- The contacts that are there before an event: those that change or go up. -/
def idsBefore (contacts : List ContactState) : List TouchID :=
  (contacts.filter fun contact => contact.action ≠ .down).map ContactState.touchID

/-- The contacts that are there after an event: those that change or went down. -/
def idsAfter (contacts : List ContactState) : List TouchID :=
  (contacts.filter fun contact => contact.action ≠ .up).map ContactState.touchID

/-- The contacts of each event are there before it as they were after the one before. -/
def Chained : List TouchID → List (List ContactState) → List TouchID → Prop
  | before, [], after => before = after
  | before, contacts :: rest, after =>
    idsBefore contacts = before ∧ Chained (idsAfter contacts) rest after

/-- The wire has no orientation. -/
def ContactState.kept (contact : ContactState) : ContactState := { contact with orientation := 0 }

def ContactState.moved (contact : ContactState) : ContactState :=
  { contact with action := .change, orientation := 0 }

/-- The event in which a contact changes, with those before it already as they become. -/
def around (earlier : List ContactState) (contact : ContactState) (later : List ContactState) :
    List ContactState :=
  (earlier.filter fun other => other.action ≠ .up).map ContactState.moved ++
    contact.kept :: (later.filter fun other => other.action ≠ .down).map ContactState.moved

/-- The events for the contacts of a list that change, after those that were dealt with. -/
def splitEvents (earlier : List ContactState) : List ContactState → List (List ContactState)
  | [] => []
  | contact :: later =>
    if contact.action = .change then splitEvents (earlier ++ [contact]) later
    else around earlier contact later :: splitEvents (earlier ++ [contact]) later

/-! ### The loop of the sender -/

section

variable (change : StateChange)

theorem selectContacts_append (i : Nat) (first second : List ContactState)
    (pointers : List AndroidPointer) (actionIndex : Nat) :
    selectContacts change i (first ++ second) pointers actionIndex =
      selectContacts change (i + first.length) second
        (selectContacts change i first pointers actionIndex).1
        (selectContacts change i first pointers actionIndex).2 := by
  induction first generalizing i pointers actionIndex with
  | nil => rfl
  | cons contact rest inductionHypothesis =>
    rw [List.cons_append, selectContacts, inductionHypothesis, selectContacts, List.length_cons,
      Nat.add_right_comm, Nat.add_assoc]

theorem selectContacts_before (i : Nat) (contacts : List ContactState)
    (pointers : List AndroidPointer) (actionIndex : Nat)
    (before : i + contacts.length ≤ change.index) :
    selectContacts change i contacts pointers actionIndex =
      (pointers ++ (contacts.filter fun contact => contact.action ≠ .up).map androidPointer,
        actionIndex) := by
  induction contacts generalizing i pointers with
  | nil => rw [selectContacts, List.filter_nil, List.map_nil, List.append_nil]
  | cons contact rest inductionHypothesis =>
    rw [List.length_cons] at before
    have earlier : i < change.index := by omega
    have inEvent : isInEvent change i contact = decide (contact.action ≠ .up) := by
      refine decide_eq_decide.mpr ⟨fun either => ?_, fun notUp => .inr (.inl ⟨earlier, notUp⟩)⟩
      rcases either with same | ⟨-, notUp⟩ | ⟨after, -⟩
      · omega
      · exact notUp
      · omega
    rw [selectContacts, if_neg (Nat.ne_of_lt earlier), inEvent,
      inductionHypothesis _ _ (by omega), List.filter_cons]
    split_ifs
    · rw [List.map_cons, List.append_assoc, List.singleton_append]
    · rfl

theorem selectContacts_after (i : Nat) (contacts : List ContactState)
    (pointers : List AndroidPointer) (actionIndex : Nat) (after : change.index < i) :
    selectContacts change i contacts pointers actionIndex =
      (pointers ++ (contacts.filter fun contact => contact.action ≠ .down).map androidPointer,
        actionIndex) := by
  induction contacts generalizing i pointers with
  | nil => rw [selectContacts, List.filter_nil, List.map_nil, List.append_nil]
  | cons contact rest inductionHypothesis =>
    have inEvent : isInEvent change i contact = decide (contact.action ≠ .down) := by
      refine decide_eq_decide.mpr ⟨fun either => ?_, fun notDown => .inr (.inr ⟨after, notDown⟩)⟩
      rcases either with same | ⟨before, -⟩ | ⟨-, notDown⟩
      · omega
      · omega
      · exact notDown
    rw [selectContacts, if_neg (Nat.ne_of_gt after), inEvent,
      inductionHypothesis _ _ (by omega), List.filter_cons]
    split_ifs
    · rw [List.map_cons, List.append_assoc, List.singleton_append]
    · rfl

/-- The event has the contact itself, and its index is the number of those before it. -/
theorem selectContacts_at (earlier later : List ContactState) (contact : ContactState)
    (atIndex : change.index = earlier.length) :
    selectContacts change 0 (earlier ++ contact :: later) [] 0 =
      ((earlier.filter fun other => other.action ≠ .up).map androidPointer ++
        androidPointer contact ::
          (later.filter fun other => other.action ≠ .down).map androidPointer,
        (earlier.filter fun other => other.action ≠ .up).length) := by
  have inEvent : isInEvent change earlier.length contact = true :=
    decide_eq_true (.inl atIndex.symm)
  have first := selectContacts_before change 0 earlier [] 0 (by omega)
  rw [selectContacts_append, first, Nat.zero_add, selectContacts, if_pos atIndex.symm,
    if_pos inEvent, selectContacts_after _ _ _ _ _ (by omega), List.nil_append, List.length_map,
    List.append_assoc, List.singleton_append]

end

/-! ### The loop of the lexicon -/

section

variable (index : Nat) (masked : BitVec 32)

theorem addTouches_append (i : Nat) (first second : List AndroidPointer) :
    addTouches index masked i (first ++ second) =
      addTouches index masked i first ++ addTouches index masked (i + first.length) second := by
  induction first generalizing i with
  | nil => rfl
  | cons pointer rest inductionHypothesis =>
    rw [List.cons_append, addTouches, inductionHypothesis, addTouches, List.cons_append,
      List.length_cons, Nat.add_right_comm, Nat.add_assoc]

theorem mirToolType_androidToolType (tooltype : TouchTooltype) :
    mirToolTypeFromAndroid (androidToolTypeFromMir tooltype) = tooltype := by
  cases tooltype <;> rfl

/-- A contact that has another index than the changing one changes only. -/
theorem addTouches_moved (i : Nat) (contacts : List ContactState)
    (elsewhere : i + contacts.length ≤ index ∨ index < i) :
    addTouches index masked i (contacts.map androidPointer) =
      contacts.map ContactState.moved := by
  induction contacts generalizing i with
  | nil => rfl
  | cons contact rest inductionHypothesis =>
    rw [List.length_cons] at elsewhere
    rw [List.map_cons, addTouches, inductionHypothesis _ (by omega), if_neg (by omega),
      List.map_cons]
    simp only [androidPointer, mirToolType_androidToolType]
    rfl

theorem addTouches_at (i : Nat) (contact : ContactState) (rest : List AndroidPointer)
    (atIndex : i = index)
    (action : mirTouchActionFromMaskedAndroid masked = contact.action) :
    addTouches index masked i (androidPointer contact :: rest) =
      contact.kept :: addTouches index masked (i + 1) rest := by
  rw [addTouches, if_pos atIndex]
  simp only [androidPointer, mirToolType_androidToolType, action]
  rfl

end

/-! ### The packed action -/

def pack (action : BitVec 32) (index : Nat) : BitVec 32 :=
  action ||| BitVec.ofNat 32 index <<< actionPointerIndexShift

def IsAction (action : BitVec 32) : Prop :=
  action = actionDown ∨ action = actionUp ∨ action = actionMove

theorem indexWithAction_pack {action : BitVec 32} (isAction : IsAction action)
    (index : Fin maxPointers) :
    ((pack action index &&& actionPointerIndexMask) >>> actionPointerIndexShift).toNat =
      index := by
  rcases isAction with rfl | rfl | rfl
  all_goals
    revert index
    decide +kernel

theorem masked_pack {action : BitVec 32} (isAction : IsAction action)
    (index : Fin maxPointers) : pack action index &&& actionMask = action := by
  rcases isAction with rfl | rfl | rfl
  all_goals
    revert index
    decide +kernel

/-- The change is that of the contact after these. -/
structure ChangeAt (change : StateChange) (earlier : List ContactState) (contact : ContactState) :
    Prop where
  index : change.index = earlier.length
  isAction : IsAction change.androidAction
  action : mirTouchActionFromMaskedAndroid change.androidAction = contact.action

variable {seq : BitVec 32} {event : TouchEvent} {blob : List UInt8} {change : StateChange}
  {earlier later : List ContactState} {contact : ContactState}

theorem length_filter_lt (fits : (earlier ++ contact :: later).length ≤ maxCount) :
    (earlier.filter fun other => other.action ≠ .up).length < maxPointers := by
  have less := List.length_filter_le (fun other => decide (other.action ≠ .up)) earlier
  rw [List.length_append, List.length_cons] at fits
  unfold maxCount at fits
  unfold maxPointers
  omega

/-- The client makes of a motion event the contacts around the one that changes. -/
theorem translate_motionEvent (split : event.contacts = earlier ++ contact :: later)
    (fits : event.contacts.length ≤ maxCount) (here : ChangeAt change earlier contact) :
    Lexicon.translate (motionEvent seq event blob change) =
      some
        { deviceID := event.deviceID
          eventTime := event.eventTime
          cookie := blob
          modifiers := mirModifiersFromAndroid (androidModifiersFromMir event.modifiers)
          contacts := around earlier contact later } := by
  have selected := selectContacts_at change earlier later contact here.index
  have small := length_filter_lt (split ▸ fits)
  have index := indexWithAction_pack here.isAction ⟨_, small⟩
  have masked := masked_pack here.isAction ⟨_, small⟩
  have source : ¬androidSourceIDIsPointerDevice sourceTouchscreen = true := by decide
  have touches : addTouches (earlier.filter fun other => other.action ≠ .up).length
      change.androidAction 0
      ((earlier.filter fun other => other.action ≠ .up).map androidPointer ++
        androidPointer contact ::
          (later.filter fun other => other.action ≠ .down).map androidPointer) =
      around earlier contact later := by
    rw [addTouches_append, addTouches_moved _ _ _ _ (.inl (by omega)), List.length_map,
      Nat.zero_add, addTouches_at _ _ _ _ _ rfl here.action,
      addTouches_moved _ _ _ _ (.inr (Nat.lt_succ_self _))]
    rfl
  unfold pack at index masked
  rw [Lexicon.translate]
  refine (if_neg source).trans ?_
  dsimp only [motionEvent]
  rw [split, selected]
  dsimp only at index masked ⊢
  rw [index, masked, touches]

/-! ### All the events -/

theorem changesFrom_at {change : StateChange} {earlier rest : List ContactState}
    (member : change ∈ changesFrom earlier.length rest) :
    ∃ before contact later, earlier ++ rest = before ++ contact :: later ∧
      ChangeAt change before contact := by
  induction rest generalizing earlier with
  | nil => cases member
  | cons contact later inductionHypothesis =>
    have further : change ∈ changesFrom (earlier.length + 1) later →
        ∃ before contact' later', earlier ++ contact :: later = before ++ contact' :: later' ∧
          ChangeAt change before contact' := by
      intro member
      have moved : change ∈ changesFrom (earlier ++ [contact]).length later := by
        rwa [List.length_append]
      obtain ⟨before, other, rest, split, here⟩ := inductionHypothesis moved
      exact ⟨before, other, rest, (List.append_assoc ..).symm.trans split, here⟩
    rw [changesFrom] at member
    cases action : contact.action with
    | down =>
      rw [action] at member
      rcases List.mem_cons.mp member with rfl | member
      · exact ⟨earlier, contact, later, rfl, ⟨rfl, .inl rfl, action ▸ rfl⟩⟩
      · exact further member
    | up =>
      rw [action] at member
      rcases List.mem_cons.mp member with rfl | member
      · exact ⟨earlier, contact, later, rfl, ⟨rfl, .inr (.inl rfl), action ▸ rfl⟩⟩
      · exact further member
    | change =>
      rw [action] at member
      exact further member

theorem changesFrom_of_all_change (i : Nat) {contacts : List ContactState}
    (all : ∀ contact ∈ contacts, contact.action = .change) : changesFrom i contacts = [] := by
  induction contacts generalizing i with
  | nil => rfl
  | cons contact rest inductionHypothesis =>
    rw [changesFrom, all contact List.mem_cons_self]
    exact inductionHypothesis (i + 1) fun other member => all other (List.mem_cons_of_mem _ member)

theorem all_change_of_changesFrom {i : Nat} {contacts : List ContactState}
    (none : changesFrom i contacts = []) : ∀ contact ∈ contacts, contact.action = .change := by
  induction contacts generalizing i with
  | nil => exact fun contact member => nomatch member
  | cons contact rest inductionHypothesis =>
    rw [changesFrom] at none
    cases action : contact.action with
    | down => simp only [action, reduceCtorEq] at none
    | up => simp only [action, reduceCtorEq] at none
    | change =>
      rw [action] at none
      intro other member
      rcases List.mem_cons.mp member with rfl | later
      · exact action
      · exact inductionHypothesis none other later

/-- Without a down or an up there is one change, of the first contact. -/
theorem stateChanges_cases (contacts : List ContactState) :
    (∀ contact ∈ contacts, contact.action = .change) ∧ stateChanges contacts = [⟨actionMove, 0⟩] ∨
      changesFrom 0 contacts ≠ [] ∧ stateChanges contacts = changesFrom 0 contacts := by
  rw [stateChanges]
  cases changes : changesFrom 0 contacts with
  | nil => exact .inl ⟨all_change_of_changesFrom changes, rfl⟩
  | cons first rest => exact .inr ⟨List.cons_ne_nil first rest, rfl⟩

/-- Each change is that of a contact of the event. -/
theorem stateChanges_at {contacts : List ContactState} (some : contacts ≠ [])
    {change : StateChange} (member : change ∈ stateChanges contacts) :
    ∃ earlier contact later, contacts = earlier ++ contact :: later ∧
      ChangeAt change earlier contact := by
  rcases stateChanges_cases contacts with ⟨all, same⟩ | ⟨-, same⟩
  · rw [same] at member
    cases List.mem_singleton.mp member
    obtain ⟨first, rest, rfl⟩ := List.exists_cons_of_ne_nil some
    have action := all first List.mem_cons_self
    exact ⟨[], first, rest, rfl, ⟨rfl, .inr (.inr rfl), action ▸ rfl⟩⟩
  · rw [same] at member
    exact @changesFrom_at change [] contacts member

theorem publish_motionEvent (seqFits : seq ≠ 0)
    (split : event.contacts = earlier ++ contact :: later)
    (fits : event.contacts.length ≤ maxCount) (here : ChangeAt change earlier contact) :
    InputPublisher.publishMotionEvent (motionEvent seq event blob change) =
      some (motionEvent seq event blob change) := by
  have selected := selectContacts_at change earlier later contact here.index
  have fewEarlier := List.length_filter_le (fun other => decide (other.action ≠ .up)) earlier
  have fewLater := List.length_filter_le (fun other => decide (other.action ≠ .down)) later
  rw [split, List.length_append, List.length_cons] at fits
  have count : (motionEvent seq event blob change).pointers.length =
      (earlier.filter fun other => other.action ≠ .up).length +
        ((later.filter fun other => other.action ≠ .down).length + 1) := by
    dsimp only [motionEvent]
    rw [split, selected]
    dsimp only
    rw [List.length_append, List.length_cons, List.length_map, List.length_map]
  have within : ¬(maxPointers < (motionEvent seq event blob change).pointers.length ∨
      (motionEvent seq event blob change).pointers.length < 1) := by
    rw [count]
    unfold maxCount at fits
    unfold maxPointers
    omega
  rw [InputPublisher.publishMotionEvent]
  exact (if_neg seqFits).trans (if_neg within)

/-- What is published for an event with contacts and with a cookie that fits. -/
theorem sendTouchEvent_eq (seqFits : seq ≠ 0) (some : event.contacts ≠ [])
    (fits : event.contacts.length ≤ maxCount)
    (converted : convertCookieToBlob event.cookie = .ok blob) :
    sendTouchEvent seq event =
      .ok ((stateChanges event.contacts).map (motionEvent seq event blob), .ok) := by
  have loop : ∀ changes : List StateChange,
      (∀ change ∈ changes, change ∈ stateChanges event.contacts) → ∀ sent : List MotionEvent,
        changes.foldlM (publishChange seq event) (sent, .ok) =
          .ok (sent ++ changes.map (motionEvent seq event blob), .ok) := by
    intro changes
    induction changes with
    | nil =>
      intro _ sent
      rw [List.map_nil, List.append_nil]
      rfl
    | cons change rest inductionHypothesis =>
      intro within sent
      obtain ⟨earlier, contact, later, split, here⟩ :=
        stateChanges_at some (within change List.mem_cons_self)
      have later := inductionHypothesis
        (fun other member => within other (List.mem_cons_of_mem _ member))
        (sent ++ [motionEvent seq event blob change])
      have first : publishChange seq event (sent, .ok) change =
          .ok (sent ++ [motionEvent seq event blob change], .ok) := by
        rw [publishChange, converted]
        simp only [publish_motionEvent seqFits split fits here, bind, Except.bind, pure,
          Except.pure]
      rw [List.append_assoc, List.singleton_append] at later
      rw [List.foldlM_cons, first]
      exact later
  exact loop _ (fun change member => member) []

theorem received_changesFrom {rest : List ContactState} (split : event.contacts = earlier ++ rest)
    (fits : event.contacts.length ≤ maxCount) :
    (received ((changesFrom earlier.length rest).map (motionEvent seq event blob))).map
      TouchEvent.contacts = splitEvents earlier rest := by
  induction rest generalizing earlier with
  | nil => rfl
  | cons contact later inductionHypothesis =>
    have further : (received ((changesFrom (earlier.length + 1) later).map
        (motionEvent seq event blob))).map TouchEvent.contacts =
          splitEvents (earlier ++ [contact]) later := by
      have next := @inductionHypothesis (earlier ++ [contact])
        (by rw [split, List.append_assoc, List.singleton_append])
      rwa [List.length_append] at next
    have first : ∀ action, IsAction action →
        mirTouchActionFromMaskedAndroid action = contact.action →
          (received ((⟨action, earlier.length⟩ :: changesFrom (earlier.length + 1) later).map
            (motionEvent seq event blob))).map TouchEvent.contacts =
              around earlier contact later :: splitEvents (earlier ++ [contact]) later := by
      intro action isAction same
      rw [List.map_cons, received, List.filterMap_cons_some
        (translate_motionEvent split fits ⟨rfl, isAction, same⟩), List.map_cons]
      exact congrArg _ further
    rw [changesFrom, splitEvents]
    cases action : contact.action with
    | down =>
      rw [if_neg (by decide)]
      exact first actionDown (.inl rfl) (action ▸ rfl)
    | up =>
      rw [if_neg (by decide)]
      exact first actionUp (.inr (.inl rfl)) (action ▸ rfl)
    | change =>
      rw [if_pos rfl]
      exact further

/-- The contacts of the events that the client makes of an event. -/
def wireEvents (contacts : List ContactState) : List (List ContactState) :=
  if ∀ contact ∈ contacts, contact.action = .change then [contacts.map ContactState.kept]
  else splitEvents [] contacts

theorem filter_of_all_change {contacts : List ContactState} {action : TouchAction}
    (all : ∀ contact ∈ contacts, contact.action = .change) (other : action ≠ .change) :
    (contacts.filter fun contact => contact.action ≠ action) = contacts :=
  List.filter_eq_self.mpr fun contact member =>
    decide_eq_true fun same => other (same.symm.trans (all contact member))

theorem map_moved_of_all_change {contacts : List ContactState}
    (all : ∀ contact ∈ contacts, contact.action = .change) :
    contacts.map ContactState.moved = contacts.map ContactState.kept := by
  refine List.map_congr_left fun contact member => ?_
  rw [ContactState.moved, ContactState.kept, all contact member]

theorem received_stateChanges (some : event.contacts ≠ [])
    (fits : event.contacts.length ≤ maxCount) :
    (received ((stateChanges event.contacts).map (motionEvent seq event blob))).map
      TouchEvent.contacts = wireEvents event.contacts := by
  rcases stateChanges_cases event.contacts with ⟨all, same⟩ | ⟨changes, same⟩
  · obtain ⟨first, rest, split⟩ := List.exists_cons_of_ne_nil some
    have allRest : ∀ contact ∈ rest, contact.action = .change :=
      fun contact member => all contact (split ▸ List.mem_cons_of_mem _ member)
    have action := all first (split ▸ List.mem_cons_self)
    have translated := @translate_motionEvent seq event blob ⟨actionMove, 0⟩ [] rest first split
      fits ⟨rfl, .inr (.inr rfl), action ▸ rfl⟩
    rw [same, wireEvents, if_pos all, received, List.map_singleton,
      List.filterMap_cons_some translated, split]
    dsimp only [around]
    rw [filter_of_all_change allRest (by decide), map_moved_of_all_change allRest]
    rfl
  · have notAll : ¬∀ contact ∈ event.contacts, contact.action = .change :=
      fun all => changes (changesFrom_of_all_change 0 all)
    rw [same, wireEvents, if_neg notAll]
    exact @received_changesFrom seq event blob [] event.contacts rfl fits

/-! ### One change at a time -/

theorem idsBefore_append (first second : List ContactState) :
    idsBefore (first ++ second) = idsBefore first ++ idsBefore second := by
  rw [idsBefore, List.filter_append, List.map_append]
  rfl

theorem idsAfter_append (first second : List ContactState) :
    idsAfter (first ++ second) = idsAfter first ++ idsAfter second := by
  rw [idsAfter, List.filter_append, List.map_append]
  rfl

theorem idsBefore_cons (contact : ContactState) (rest : List ContactState) :
    idsBefore (contact :: rest) = idsBefore [contact] ++ idsBefore rest :=
  idsBefore_append [contact] rest

theorem idsAfter_cons (contact : ContactState) (rest : List ContactState) :
    idsAfter (contact :: rest) = idsAfter [contact] ++ idsAfter rest :=
  idsAfter_append [contact] rest

theorem ids_moved (contacts : List ContactState) :
    idsBefore (contacts.map ContactState.moved) = contacts.map ContactState.touchID ∧
      idsAfter (contacts.map ContactState.moved) = contacts.map ContactState.touchID := by
  have all : ∀ contact ∈ contacts.map ContactState.moved, contact.action = .change := by
    intro contact member
    obtain ⟨other, -, rfl⟩ := List.mem_map.mp member
    rfl
  rw [idsBefore, idsAfter, filter_of_all_change all (by decide),
    filter_of_all_change all (by decide), List.map_map]
  exact ⟨rfl, rfl⟩

theorem idsBefore_kept (contacts : List ContactState) :
    idsBefore (contacts.map ContactState.kept) = idsBefore contacts := by
  rw [idsBefore, List.filter_map, List.map_map]
  rfl

theorem idsAfter_kept (contacts : List ContactState) :
    idsAfter (contacts.map ContactState.kept) = idsAfter contacts := by
  rw [idsAfter, List.filter_map, List.map_map]
  rfl

/-- The contacts before the one that changes are as after the event, the later ones as before. -/
theorem idsBefore_around (earlier : List ContactState) (contact : ContactState)
    (later : List ContactState) :
    idsBefore (around earlier contact later) =
      idsAfter earlier ++ idsBefore (contact :: later) := by
  have single := idsBefore_kept [contact]
  rw [around, idsBefore_append, (ids_moved _).1, idsBefore_cons, (ids_moved _).1,
    idsBefore_cons contact later]
  exact congrArg (fun ids => idsAfter earlier ++ (ids ++ idsBefore later)) single

theorem idsAfter_around (earlier : List ContactState) (contact : ContactState)
    (later : List ContactState) :
    idsAfter (around earlier contact later) =
      idsAfter (earlier ++ [contact]) ++ idsBefore later := by
  have single := idsAfter_kept [contact]
  rw [around, idsAfter_append, (ids_moved _).2, idsAfter_cons, (ids_moved _).2,
    idsAfter_append earlier [contact], List.append_assoc]
  exact congrArg (fun ids => idsAfter earlier ++ (ids ++ idsBefore later)) single

theorem splitEvents_chained (earlier rest : List ContactState) :
    Chained (idsAfter earlier ++ idsBefore rest) (splitEvents earlier rest)
      (idsAfter (earlier ++ rest)) := by
  induction rest generalizing earlier with
  | nil =>
    rw [List.append_nil]
    exact List.append_nil _
  | cons contact later inductionHypothesis =>
    have next := inductionHypothesis (earlier ++ [contact])
    rw [List.append_assoc, List.singleton_append] at next
    rw [splitEvents]
    by_cases action : contact.action = .change
    · have same : idsAfter (earlier ++ [contact]) ++ idsBefore later =
          idsAfter earlier ++ idsBefore (contact :: later) := by
        have single : idsAfter [contact] = idsBefore [contact] := by
          simp only [idsAfter, idsBefore, List.filter_cons, action, List.filter_nil]
          rfl
        rw [idsAfter_append, List.append_assoc, idsBefore_cons contact later, single]
      rw [if_pos action, ← same]
      exact next
    · rw [if_neg action]
      refine ⟨idsBefore_around earlier contact later, ?_⟩
      rw [idsAfter_around]
      exact next

theorem countP_moved (contacts : List ContactState) :
    ((contacts.map ContactState.moved).countP fun contact => contact.action ≠ .change) = 0 := by
  refine List.countP_eq_zero.mpr fun contact member => ?_
  obtain ⟨other, -, rfl⟩ := List.mem_map.mp member
  exact fun wrong => of_decide_eq_true wrong rfl

theorem splitEvents_single (earlier rest : List ContactState) :
    ∀ contacts ∈ splitEvents earlier rest,
      (contacts.countP fun contact => contact.action ≠ .change) ≤ 1 := by
  induction rest generalizing earlier with
  | nil => exact fun contacts member => nomatch member
  | cons contact later inductionHypothesis =>
    rw [splitEvents]
    by_cases action : contact.action = .change
    · rw [if_pos action]
      exact inductionHypothesis _
    · rw [if_neg action]
      intro contacts member
      rcases List.mem_cons.mp member with rfl | member
      · rw [around, List.countP_append, countP_moved, List.countP_cons, countP_moved]
        split_ifs
        · exact Nat.le_refl _
        · exact Nat.zero_le _
      · exact inductionHypothesis _ contacts member

/-! ### Downs, ups and tools -/

/-- What the client has of a contact is what the event had, but for its action. -/
theorem splitEvents_kept (earlier rest : List ContactState) :
    ∀ contacts ∈ splitEvents earlier rest, ∀ contact ∈ contacts, ∃ original ∈ earlier ++ rest,
      contact = original.kept ∨ contact = original.moved := by
  induction rest generalizing earlier with
  | nil => exact fun contacts member => nomatch member
  | cons contact later inductionHypothesis =>
    have further := inductionHypothesis (earlier ++ [contact])
    rw [List.append_assoc, List.singleton_append] at further
    rw [splitEvents]
    by_cases action : contact.action = .change
    · rw [if_pos action]
      exact further
    · rw [if_neg action]
      intro contacts member
      rcases List.mem_cons.mp member with rfl | member
      · intro other isOther
        rcases List.mem_append.mp isOther with isEarlier | isLater
        · obtain ⟨original, isOriginal, rfl⟩ := List.mem_map.mp isEarlier
          exact ⟨original, List.mem_append_left _ (List.mem_filter.mp isOriginal).1, .inr rfl⟩
        · rcases List.mem_cons.mp isLater with rfl | isLater
          · exact ⟨contact, List.mem_append_right _ List.mem_cons_self, .inl rfl⟩
          · obtain ⟨original, isOriginal, rfl⟩ := List.mem_map.mp isLater
            exact ⟨original, List.mem_append_right _
              (List.mem_cons_of_mem _ (List.mem_filter.mp isOriginal).1), .inr rfl⟩
      · exact further contacts member

/-- The downs and ups that are received are those of the event. -/
theorem splitEvents_changes (earlier rest : List ContactState) {id : TouchID}
    {action : TouchAction} (changes : action ≠ .change) :
    (∃ contacts ∈ splitEvents earlier rest, ∃ contact ∈ contacts,
      contact.touchID = id ∧ contact.action = action) ↔
        ∃ contact ∈ rest, contact.touchID = id ∧ contact.action = action := by
  induction rest generalizing earlier with
  | nil =>
    exact ⟨fun ⟨_, member, _⟩ => (nomatch member), fun ⟨_, member, _⟩ => (nomatch member)⟩
  | cons contact later inductionHypothesis =>
    have further := inductionHypothesis (earlier ++ [contact])
    rw [splitEvents]
    by_cases unchanged : contact.action = .change
    · rw [if_pos unchanged, further]
      constructor
      · rintro ⟨other, member, same⟩
        exact ⟨other, List.mem_cons_of_mem _ member, same⟩
      · rintro ⟨other, member, sameID, same⟩
        rcases List.mem_cons.mp member with rfl | member
        · exact absurd (same.symm.trans unchanged) changes
        · exact ⟨other, member, sameID, same⟩
    · rw [if_neg unchanged]
      constructor
      · rintro ⟨contacts, member, other, isOther, sameID, same⟩
        rcases List.mem_cons.mp member with rfl | member
        · rcases List.mem_append.mp isOther with isEarlier | isLater
          · obtain ⟨original, -, rfl⟩ := List.mem_map.mp isEarlier
            exact absurd same.symm changes
          · rcases List.mem_cons.mp isLater with rfl | isLater
            · exact ⟨contact, List.mem_cons_self, sameID, same⟩
            · obtain ⟨original, -, rfl⟩ := List.mem_map.mp isLater
              exact absurd same.symm changes
        · obtain ⟨found, isFound, isSame⟩ := further.mp ⟨contacts, member, other, isOther, sameID,
            same⟩
          exact ⟨found, List.mem_cons_of_mem _ isFound, isSame⟩
      · rintro ⟨other, member, sameID, same⟩
        rcases List.mem_cons.mp member with rfl | member
        · exact ⟨_, List.mem_cons_self, other.kept,
            List.mem_append_right _ List.mem_cons_self, sameID, same⟩
        · obtain ⟨contacts, isThere, isSame⟩ := further.mpr ⟨other, member, sameID, same⟩
          exact ⟨contacts, List.mem_cons_of_mem _ isThere, isSame⟩

theorem mem_idsBefore {contacts : List ContactState} {id : TouchID} :
    id ∈ idsBefore contacts ↔ ∃ contact ∈ contacts, contact.action ≠ .down ∧
      contact.touchID = id := by
  simp only [idsBefore, List.mem_map, List.mem_filter, decide_eq_true_eq, and_assoc]

theorem mem_idsAfter {contacts : List ContactState} {id : TouchID} :
    id ∈ idsAfter contacts ↔ ∃ contact ∈ contacts, contact.action ≠ .up ∧
      contact.touchID = id := by
  simp only [idsAfter, List.mem_map, List.mem_filter, decide_eq_true_eq, and_assoc]

section

variable {contacts : List ContactState}

theorem eq_of_touchID (distinct : (contacts.map ContactState.touchID).Nodup)
    {first second : ContactState} (isFirst : first ∈ contacts) (isSecond : second ∈ contacts)
    (same : first.touchID = second.touchID) : first = second :=
  List.inj_on_of_nodup_map distinct isFirst isSecond same

theorem goes_down_iff (distinct : (contacts.map ContactState.touchID).Nodup) (id : TouchID) :
    (∃ contact ∈ contacts, contact.touchID = id ∧ contact.action = .down) ↔
      id ∈ idsAfter contacts ∧ id ∉ idsBefore contacts := by
  rw [mem_idsAfter, mem_idsBefore]
  constructor
  · rintro ⟨contact, member, rfl, down⟩
    refine ⟨⟨contact, member, down ▸ (by decide), rfl⟩, ?_⟩
    rintro ⟨other, isOther, notDown, same⟩
    exact notDown (eq_of_touchID distinct isOther member same ▸ down)
  · rintro ⟨⟨contact, member, -, same⟩, notBefore⟩
    refine ⟨contact, member, same, Decidable.byContradiction fun notDown => ?_⟩
    exact notBefore ⟨contact, member, notDown, same⟩

theorem goes_up_iff (distinct : (contacts.map ContactState.touchID).Nodup) (id : TouchID) :
    (∃ contact ∈ contacts, contact.touchID = id ∧ contact.action = .up) ↔
      id ∈ idsBefore contacts ∧ id ∉ idsAfter contacts := by
  rw [mem_idsAfter, mem_idsBefore]
  constructor
  · rintro ⟨contact, member, rfl, up⟩
    refine ⟨⟨contact, member, up ▸ (by decide), rfl⟩, ?_⟩
    rintro ⟨other, isOther, notUp, same⟩
    exact notUp (eq_of_touchID distinct isOther member same ▸ up)
  · rintro ⟨⟨contact, member, -, same⟩, notAfter⟩
    refine ⟨contact, member, same, Decidable.byContradiction fun notUp => ?_⟩
    exact notAfter ⟨contact, member, notUp, same⟩

end

/-! ### The round trip -/

section

variable (contacts : List ContactState)

theorem wireEvents_single : ∀ received ∈ wireEvents contacts,
    (received.countP fun contact => contact.action ≠ .change) ≤ 1 := by
  rw [wireEvents]
  split_ifs with all
  · intro received member
    rw [List.mem_singleton.mp member, ← map_moved_of_all_change all, countP_moved]
    exact Nat.zero_le _
  · exact splitEvents_single [] contacts

theorem wireEvents_chained :
    Chained (idsBefore contacts) (wireEvents contacts) (idsAfter contacts) := by
  rw [wireEvents]
  split_ifs with all
  · exact ⟨idsBefore_kept contacts, idsAfter_kept contacts⟩
  · exact splitEvents_chained [] contacts

theorem wireEvents_kept : ∀ received ∈ wireEvents contacts, ∀ contact ∈ received,
    ∃ original ∈ contacts, contact = original.kept ∨ contact = original.moved := by
  rw [wireEvents]
  split_ifs with all
  · intro received member contact isContact
    rw [List.mem_singleton.mp member] at isContact
    obtain ⟨original, isOriginal, rfl⟩ := List.mem_map.mp isContact
    exact ⟨original, isOriginal, .inl rfl⟩
  · exact splitEvents_kept [] contacts

theorem wireEvents_changes {id : TouchID} {action : TouchAction} (changes : action ≠ .change) :
    (∃ received ∈ wireEvents contacts, ∃ contact ∈ received,
      contact.touchID = id ∧ contact.action = action) ↔
        ∃ contact ∈ contacts, contact.touchID = id ∧ contact.action = action := by
  rw [wireEvents]
  split_ifs with all
  · constructor
    · rintro ⟨received, member, contact, isContact, -, same⟩
      rw [List.mem_singleton.mp member] at isContact
      obtain ⟨original, isOriginal, rfl⟩ := List.mem_map.mp isContact
      exact absurd (same.symm.trans (all original isOriginal)) changes
    · rintro ⟨contact, isContact, -, same⟩
      exact absurd (same.symm.trans (all contact isContact)) changes
  · exact splitEvents_changes [] contacts changes

end

theorem nextSeq_ne_zero (seq : BitVec 32) : nextSeq seq ≠ 0 := by
  rw [nextSeq]
  split_ifs with wraps
  · decide
  · exact wraps

/-- An event with contacts, with no more of them than fit and a cookie that fits, arrives as
events in each of which one contact at most does not just change; from the contacts before the
event they lead to those after it, with the downs and the ups that it takes; ids and tools stay;
and an event without downs and ups arrives as one. -/
theorem touch_round_trip (seq : BitVec 32) (event : TouchEvent) (some : event.contacts ≠ [])
    (fits : event.contacts.length ≤ maxCount)
    (distinct : (event.contacts.map ContactState.touchID).Nodup)
    (cookieFits : event.cookie.length ≤ defaultBlobSize) :
    ∃ published events, sendTouchEvent (nextSeq seq) event = .ok (published, .ok) ∧
      events = (received published).map TouchEvent.contacts ∧
      (∀ contacts ∈ events, (contacts.countP fun contact => contact.action ≠ .change) ≤ 1) ∧
      Chained (idsBefore event.contacts) events (idsAfter event.contacts) ∧
      (∀ id, (∃ contacts ∈ events, ∃ contact ∈ contacts,
        contact.touchID = id ∧ contact.action = .down) ↔
          id ∈ idsAfter event.contacts ∧ id ∉ idsBefore event.contacts) ∧
      (∀ id, (∃ contacts ∈ events, ∃ contact ∈ contacts,
        contact.touchID = id ∧ contact.action = .up) ↔
          id ∈ idsBefore event.contacts ∧ id ∉ idsAfter event.contacts) ∧
      (∀ contacts ∈ events, ∀ contact ∈ contacts, ∃ original ∈ event.contacts,
        contact.touchID = original.touchID ∧ contact.tooltype = original.tooltype) ∧
      ((∀ contact ∈ event.contacts, contact.action = .change) →
        events = [event.contacts.map ContactState.kept]) := by
  have converted : convertCookieToBlob event.cookie = .ok
      (event.cookie ++ List.replicate (defaultBlobSize - event.cookie.length) 0) :=
    if_neg (Nat.not_lt.mpr cookieFits)
  refine ⟨_, wireEvents event.contacts,
    sendTouchEvent_eq (nextSeq_ne_zero seq) some fits converted,
    (received_stateChanges some fits).symm, wireEvents_single _, wireEvents_chained _,
    fun id => ?_, fun id => ?_, fun contacts member contact isContact => ?_,
    fun all => if_pos all⟩
  · exact (wireEvents_changes _ (by decide)).trans (goes_down_iff distinct id)
  · exact (wireEvents_changes _ (by decide)).trans (goes_up_iff distinct id)
  · obtain ⟨original, isOriginal, same⟩ := wireEvents_kept _ contacts member contact isContact
    refine ⟨original, isOriginal, ?_⟩
    rcases same with rfl | rfl
    · exact ⟨rfl, rfl⟩
    · exact ⟨rfl, rfl⟩

/-- One finger goes up while another moves and a third comes down. -/
def threeFingers : TouchEvent :=
  ⟨1, 0, [], 0, [⟨4, .up, .finger, 1, 1, 1, 1, 1, 0⟩, ⟨5, .change, .finger, 2, 2, 1, 1, 1, 0⟩,
    ⟨6, .down, .stylus, 3, 3, 1, 1, 1, 0⟩]⟩

theorem touch_round_trip_threeFingers :
    ∃ published events, sendTouchEvent (nextSeq 0) threeFingers = .ok (published, .ok) ∧
      events = (received published).map TouchEvent.contacts ∧ Chained [4, 5] events [5, 6] := by
  obtain ⟨published, events, sent, same, -, chained, -⟩ :=
    touch_round_trip 0 threeFingers (by decide) (by decide) (by decide) (by decide)
  exact ⟨published, events, sent, same, chained⟩

/-- The publisher takes no event without contacts, and a cookie that does not fit is an error. -/
theorem not_every_touch_event_arrives :
    (¬∀ event : TouchEvent, event.contacts.length ≤ maxCount →
      (event.contacts.map ContactState.touchID).Nodup →
        (∀ contact ∈ event.contacts, contact.action = .change) →
          ∃ published status, sendTouchEvent 1 event = .ok (published, status) ∧
            (received published).length = 1) ∧
      sendTouchEvent 1 ⟨1, 0, List.replicate 30 7, 0, threeFingers.contacts⟩ =
        .error .cookieTooLong := by
  refine ⟨fun always => ?_, rfl⟩
  obtain ⟨published, status, sent, one⟩ :=
    always ⟨1, 0, [], 0, []⟩ (by decide) List.nodup_nil (fun contact member => nomatch member)
  have nothing : sendTouchEvent 1 ⟨1, 0, [], 0, []⟩ = .ok ([], .badValue) := rfl
  rw [nothing] at sent
  cases sent
  cases one

end Mir.Input

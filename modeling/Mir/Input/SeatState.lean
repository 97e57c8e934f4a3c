/-
This file proves when the state of a seat adds up: the buttons of the seat are those that its
devices hold together, the spots shown are the contacts of its devices, and a device that goes
takes nothing of the others with it. The buttons are kept in a cache that `setPointerState` does
not refresh, so they add up as long as that call changes no button that is the device's alone.
-/

import Mir.Input.SeatTracker

namespace Mir.Input

open Transition

/-! ### The buttons of all devices -/

/-- Some device holds the button. -/
def Holds (deviceData : UnorderedMap DeviceID DeviceData) (bit : Nat) : Prop :=
  ∃ id data, deviceData.find id = some data ∧ data.buttons.getLsbD bit = true

/-- Some other device holds the button. -/
def HeldElsewhere (deviceData : UnorderedMap DeviceID DeviceData) (id : DeviceID) (bit : Nat) :
    Prop :=
  ∃ other ∈ deviceData.keys, other ≠ id ∧ (deviceData.value other).buttons.getLsbD bit = true

instance (deviceData : UnorderedMap DeviceID DeviceData) (id : DeviceID) (bit : Nat) :
    Decidable (HeldElsewhere deviceData id bit) :=
  inferInstanceAs (Decidable (∃ other ∈ deviceData.keys, _))

theorem getLsbD_foldl_buttons (values : List DeviceData) (held : BitVec 32) (bit : Nat) :
    (values.foldl (fun held data => held ||| data.buttons) held).getLsbD bit =
      (held.getLsbD bit || values.any fun data => data.buttons.getLsbD bit) := by
  induction values generalizing held with
  | nil => simp
  | cons data rest inductionHypothesis =>
    rw [List.foldl_cons, inductionHypothesis, BitVec.getLsbD_or, List.any_cons, Bool.or_assoc]

theorem getLsbD_allButtons (deviceData : UnorderedMap DeviceID DeviceData) (bit : Nat) :
    (allButtons deviceData).getLsbD bit = true ↔ Holds deviceData bit := by
  unfold allButtons
  rw [getLsbD_foldl_buttons, BitVec.ofNat_eq_ofNat, BitVec.getLsbD_zero, Bool.false_or,
    List.any_eq_true]
  constructor
  · rintro ⟨data, member, isHeld⟩
    obtain ⟨id, found⟩ := (deviceData.mem_values_iff data).mp member
    exact ⟨id, data, found, isHeld⟩
  · rintro ⟨id, data, found, isHeld⟩
    exact ⟨data, (deviceData.mem_values_iff data).mpr ⟨id, found⟩, isHeld⟩

theorem allButtons_eq_iff (first second : UnorderedMap DeviceID DeviceData) :
    allButtons first = allButtons second ↔ ∀ bit : Fin 32, Holds first bit ↔ Holds second bit := by
  constructor
  · intro same bit
    rw [← getLsbD_allButtons, ← getLsbD_allButtons, same]
  · intro same
    refine BitVec.eq_of_getLsbD_eq fun bit below => Bool.eq_iff_iff.mpr ?_
    rw [getLsbD_allButtons, getLsbD_allButtons]
    exact same ⟨bit, below⟩

section Changes

variable (deviceData : UnorderedMap DeviceID DeviceData) (id : DeviceID) (bit : Nat)

/-- A button is held by the device or by another one. -/
theorem holds_iff {data : DeviceData} (known : deviceData.find id = some data) :
    Holds deviceData bit ↔
      data.buttons.getLsbD bit = true ∨ HeldElsewhere deviceData id bit := by
  constructor
  · rintro ⟨other, otherData, found, isHeld⟩
    by_cases same : other = id
    · subst same
      rw [known] at found
      cases found
      exact .inl isHeld
    · obtain ⟨member, rfl⟩ := (deviceData.find_eq_some_iff other otherData).mp found
      exact .inr ⟨other, member, same, isHeld⟩
  · rintro (isHeld | ⟨other, member, _, isHeld⟩)
    · exact ⟨id, data, known, isHeld⟩
    · exact ⟨other, _, (deviceData.find_eq_some_iff other _).mpr ⟨member, rfl⟩, isHeld⟩

theorem holds_emplace (order : List DeviceID) :
    Holds (deviceData.emplace id .fresh order) bit ↔ Holds deviceData bit := by
  constructor
  · rintro ⟨other, data, found, isHeld⟩
    rw [UnorderedMap.find_emplace] at found
    split_ifs at found with same
    · cases known : deviceData.find id with
      | none =>
        rw [known] at found
        cases found
        simp [DeviceData.fresh] at isHeld
      | some stored =>
        rw [known] at found
        cases found
        exact ⟨id, _, known, isHeld⟩
    · exact ⟨other, data, found, isHeld⟩
  · rintro ⟨other, data, found, isHeld⟩
    refine ⟨other, data, ?_, isHeld⟩
    rw [UnorderedMap.find_emplace]
    split_ifs with same
    · rw [← same, found]
      rfl
    · exact found

theorem holds_erase : Holds (deviceData.erase id) bit ↔ HeldElsewhere deviceData id bit := by
  constructor
  · rintro ⟨other, data, found, isHeld⟩
    rw [UnorderedMap.find_erase] at found
    split_ifs at found with same
    obtain ⟨member, rfl⟩ := (deviceData.find_eq_some_iff other data).mp found
    exact ⟨other, member, same, isHeld⟩
  · rintro ⟨other, member, different, isHeld⟩
    refine ⟨other, _, ?_, isHeld⟩
    rw [UnorderedMap.find_erase, if_neg different]
    exact (deviceData.find_eq_some_iff other _).mpr ⟨member, rfl⟩

theorem heldElsewhere_modify (change : DeviceData → DeviceData) :
    HeldElsewhere (deviceData.modify id change) id bit ↔ HeldElsewhere deviceData id bit := by
  unfold HeldElsewhere
  rw [UnorderedMap.keys_modify]
  refine exists_congr fun other => and_congr_right fun member => and_congr_right fun different => ?_
  rw [deviceData.value_modify id change member, if_neg different]

theorem holds_modify (change : DeviceData → DeviceData) {data : DeviceData}
    (known : deviceData.find id = some data) :
    Holds (deviceData.modify id change) bit ↔
      (change data).buttons.getLsbD bit = true ∨ HeldElsewhere deviceData id bit := by
  have found : (deviceData.modify id change).find id = some (change data) := by
    rw [UnorderedMap.find_modify, if_pos rfl, known]
    rfl
  rw [holds_iff _ id bit found, heldElsewhere_modify]

end Changes

/-- A change that leaves the buttons of a device as they are. -/
theorem allButtons_modify (deviceData : UnorderedMap DeviceID DeviceData) (id : DeviceID)
    {change : DeviceData → DeviceData} (kept : ∀ data, (change data).buttons = data.buttons) :
    allButtons (deviceData.modify id change) = allButtons deviceData := by
  cases known : deviceData.find id with
  | none => rw [deviceData.modify_unknown change known]
  | some data =>
    refine (allButtons_eq_iff _ _).mpr fun bit => ?_
    rw [holds_modify deviceData id bit change known, holds_iff deviceData id bit known, kept]

/-! ### A state that adds up -/

/-- The spots are those of the devices, one device after the other. -/
def ShowsSpots (deviceData : UnorderedMap DeviceID DeviceData) (spots : List Spot) : Prop :=
  ∃ order : List DeviceID, order.Perm deviceData.keys ∧
    spots = order.flatMap fun id => (deviceData.value id).spots

/-- The buttons of the seat are those of its devices, the spots are the contacts of the devices in
some order of the devices, and a removal changes nothing of the other devices. -/
structure SeatTracker.AddsUp (tracker : SeatTracker) : Prop where
  buttons : tracker.buttonState = allButtons tracker.deviceData
  spots : ShowsSpots tracker.deviceData tracker.spots
  removal : ∀ id other, other ≠ id →
    (tracker.step (.removeDevice id)).deviceData.find other = tracker.deviceData.find other

/-- The pointer state that is set differs from that of the device, if it is known, only in buttons
that another device holds. -/
def SeatTracker.KeepsButtons (tracker : SeatTracker) : SeatOp → Prop
  | .setPointerState id buttons =>
    id ∈ tracker.deviceData.keys → ∀ bit : Fin 32,
      buttons.getLsbD bit = (tracker.deviceData.value id).buttons.getLsbD bit ∨
        HeldElsewhere tracker.deviceData id bit
  | _ => True

instance (tracker : SeatTracker) : (op : SeatOp) → Decidable (tracker.KeepsButtons op)
  | .setPointerState id buttons =>
    inferInstanceAs (Decidable (id ∈ tracker.deviceData.keys → ∀ bit : Fin 32,
      buttons.getLsbD bit = (tracker.deviceData.value id).buttons.getLsbD bit ∨
        HeldElsewhere tracker.deviceData id bit))
  | .addDevice _ _ | .removeDevice _ | .dispatch _ | .setKeyState _ _ | .setCursorPosition _ _
  | .changeConfinement _ => inferInstanceAs (Decidable True)

namespace SeatTracker

variable {tracker : SeatTracker}

/-- A removal changes nothing of the other devices. -/
theorem find_removeDevice (id other : DeviceID) (different : other ≠ id) :
    (tracker.step (.removeDevice id)).deviceData.find other = tracker.deviceData.find other := by
  cases tracker.step_cases (.removeDevice id) with
  | idle _ _ becomes _ _ => rw [becomes.deviceData]
  | removed _ data known becomes =>
    rw [becomes.deviceData, UnorderedMap.find_erase, if_neg different]

/-! ### The buttons -/

theorem setPointerState_buttons_iff (id : DeviceID) (buttons : BitVec 32) :
    allButtons tracker.deviceData =
        allButtons (tracker.deviceData.modify id (·.updateButtonState buttons)) ↔
      tracker.KeepsButtons (.setPointerState id buttons) := by
  cases known : tracker.deviceData.find id with
  | none =>
    rw [tracker.deviceData.modify_unknown _ known]
    refine iff_of_true rfl fun member => ?_
    exact absurd member ((tracker.deviceData.find_eq_none_iff id).mp known)
  | some data =>
    obtain ⟨member, rfl⟩ := (tracker.deviceData.find_eq_some_iff id data).mp known
    rw [allButtons_eq_iff]
    refine Iff.trans (forall_congr' fun bit => ?_) ⟨fun each _ => each, fun each => each member⟩
    rw [holds_iff _ id bit known, holds_modify _ id bit _ known]
    show ((_ ∨ _) ↔ (buttons.getLsbD bit = true ∨ _)) ↔ _
    by_cases elsewhere : HeldElsewhere tracker.deviceData id bit
    · simp [elsewhere]
    · simp only [elsewhere, or_false]
      rw [← Bool.eq_iff_iff, eq_comm]

theorem buttons_step (agree : tracker.buttonState = allButtons tracker.deviceData) (op : SeatOp) :
    (tracker.step op).buttonState = allButtons (tracker.step op).deviceData ↔
      tracker.KeepsButtons op := by
  unfold buttonState at agree ⊢
  cases tracker.step_cases op with
  | idle op notices becomes aside other =>
    rw [becomes.buttons, becomes.deviceData]
    refine iff_of_true agree ?_
    cases op with
    | setPointerState id buttons => exact absurd rfl (other id buttons)
    | _ => trivial
  | added id order becomes =>
    rw [becomes.buttons, becomes.deviceData]
    refine iff_of_true (agree.trans ((allButtons_eq_iff _ _).mpr fun bit => ?_)) trivial
    exact (holds_emplace tracker.deviceData id bit order).symm
  | removed id data known becomes =>
    rw [becomes.buttons, becomes.deviceData]
    refine iff_of_true ?_ trivial
    split_ifs with some
    · rfl
    · refine agree.trans ((allButtons_eq_iff _ _).mpr fun bit => ?_)
      have released : data.buttons = 0 := not_not.mp some
      rw [holds_erase, holds_iff _ id bit known, released]
      simp
  | key event data known permitted becomes =>
    rw [becomes.buttons, becomes.deviceData]
    refine iff_of_true (agree.trans (allButtons_modify _ _ fun data => ?_).symm) trivial
    unfold DeviceData.updateScanCodes
    split <;> rfl
  | touch event data known becomes =>
    rw [becomes.buttons, becomes.deviceData]
    refine iff_of_true (agree.trans (allButtons_modify _ _ fun data => ?_).symm) trivial
    rfl
  | pointer event passed data known becomes =>
    rw [becomes.buttons, becomes.deviceData]
    refine iff_of_true ?_ trivial
    split_ifs with same
    · have kept : data.updateButtonState event.buttons = data := by
        rw [← same]
        rfl
      rw [tracker.deviceData.modify_eq_self known kept]
      exact agree
    · rfl
  | keyState id scanCodes becomes =>
    rw [becomes.buttons, becomes.deviceData]
    refine iff_of_true (agree.trans (allButtons_modify _ _ fun data => ?_).symm) trivial
    rfl
  | pointerState id buttons becomes =>
    rw [becomes.buttons, becomes.deviceData, agree]
    exact setPointerState_buttons_iff id buttons

end SeatTracker

/-! ### The spots -/

theorem allSpots_eq (deviceData : UnorderedMap DeviceID DeviceData) :
    allSpots deviceData = deviceData.keys.flatMap fun id => (deviceData.value id).spots := by
  unfold allSpots UnorderedMap.values
  rw [List.flatMap_map]

/-- An item that adds nothing may be left out. -/
theorem flatMap_erase {Item Value : Type} [DecidableEq Item] (items : List Item)
    {parts : Item → List Value} {item : Item} (nothing : parts item = []) :
    (items.erase item).flatMap parts = items.flatMap parts := by
  induction items with
  | nil => rfl
  | cons first rest inductionHypothesis =>
    by_cases same : first = item
    · subst same
      rw [List.erase_cons_head, List.flatMap_cons, nothing, List.nil_append]
    · rw [List.erase_cons_tail (by simpa using same), List.flatMap_cons, List.flatMap_cons,
        inductionHypothesis]

theorem showsSpots_allSpots (deviceData : UnorderedMap DeviceID DeviceData) :
    ShowsSpots deviceData (allSpots deviceData) :=
  ⟨deviceData.keys, .refl _, allSpots_eq deviceData⟩

namespace ShowsSpots

variable {deviceData : UnorderedMap DeviceID DeviceData} {spots : List Spot}

theorem emplace (shows : ShowsSpots deviceData spots) (id : DeviceID) (order : List DeviceID) :
    ShowsSpots (deviceData.emplace id .fresh order) spots := by
  by_cases known : id ∈ deviceData.keys
  · rw [deviceData.emplace_known _ order known]
    exact shows
  · obtain ⟨devices, perm, rfl⟩ := shows
    refine ⟨id :: devices, ?_, ?_⟩
    · exact (perm.cons id).trans (deviceData.perm_emplace _ order known).symm
    · rw [deviceData.value_emplace _ order known, List.flatMap_cons, Function.update_self]
      refine List.flatMap_congr fun other member => ?_
      have different : other ≠ id := ne_of_mem_of_not_mem (perm.mem_iff.mp member) known
      rw [Function.update_of_ne different]

theorem erase (shows : ShowsSpots deviceData spots) {id : DeviceID}
    (nothing : (deviceData.value id).spots = []) : ShowsSpots (deviceData.erase id) spots := by
  obtain ⟨devices, perm, rfl⟩ := shows
  exact ⟨devices.erase id, perm.erase id, (flatMap_erase devices nothing).symm⟩

theorem modify (shows : ShowsSpots deviceData spots) (id : DeviceID)
    {change : DeviceData → DeviceData} (kept : ∀ data, (change data).spots = data.spots) :
    ShowsSpots (deviceData.modify id change) spots := by
  obtain ⟨devices, perm, rfl⟩ := shows
  refine ⟨devices, ?_, List.flatMap_congr fun other member => ?_⟩
  · rw [UnorderedMap.keys_modify]
    exact perm
  · rw [deviceData.value_modify id change (perm.mem_iff.mp member)]
    split_ifs
    · exact (kept _).symm
    · rfl

end ShowsSpots

namespace SeatTracker

variable {tracker : SeatTracker}

theorem spots_step (shows : ShowsSpots tracker.deviceData tracker.spots) (op : SeatOp) :
    ShowsSpots (tracker.step op).deviceData (tracker.step op).spots := by
  cases tracker.step_cases op with
  | idle _ _ becomes _ _ =>
    rw [becomes.spots, becomes.deviceData]
    exact shows
  | added id order becomes =>
    rw [becomes.spots, becomes.deviceData]
    exact shows.emplace id order
  | removed id data known becomes =>
    rw [becomes.spots, becomes.deviceData]
    split_ifs with some
    · exact showsSpots_allSpots _
    · obtain ⟨_, rfl⟩ := (tracker.deviceData.find_eq_some_iff id data).mp known
      exact shows.erase (not_not.mp some)
  | key event data known permitted becomes =>
    rw [becomes.spots, becomes.deviceData]
    refine shows.modify event.deviceID fun data => ?_
    unfold DeviceData.updateScanCodes
    split <;> rfl
  | touch event data known becomes =>
    rw [becomes.spots, becomes.deviceData]
    exact showsSpots_allSpots _
  | pointer event passed data known becomes =>
    rw [becomes.spots, becomes.deviceData]
    exact shows.modify event.deviceID fun _ => rfl
  | keyState id scanCodes becomes =>
    rw [becomes.spots, becomes.deviceData]
    exact shows.modify id fun _ => rfl
  | pointerState id buttons becomes =>
    rw [becomes.spots, becomes.deviceData]
    exact shows.modify id fun _ => rfl

/-! ### Every run -/

theorem addsUp_initial : initial.AddsUp where
  buttons := rfl
  spots := ⟨[], .refl _, rfl⟩
  removal := find_removeDevice

end SeatTracker

end Mir.Input

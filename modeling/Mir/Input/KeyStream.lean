/-
This file proves that the keys a seat passes on are pressed and released in turn. What is counted
for a device and a scan code is what the observer of the seat sees: the events that are passed on,
and besides them the calls that set the keys of a device and those that remove it, which release
all its keys.
-/

import Mir.Input.SeatTracker

namespace Mir.Input

open Transition

/-! ### Counting -/

/-- What counts besides events: whether the removal of a device releases its keys, and whether the
keys of a device can be set while the seat does not have it. -/
structure KeyCounting where
  removalReleases : Bool
  unknownAreSet : Bool

/-- Whether the seat has the device, and whether the key is down. -/
structure KeyPair where
  registered : Bool
  down : Bool
  deriving DecidableEq

/-- A press of a key that is down, and a release or repetition of one that is not, are out of
turn. -/
def KeyPair.event (pair : KeyPair) : KeyboardAction → Option KeyPair
  | .down => if pair.down then none else some { pair with down := true }
  | .up => if pair.down then some { pair with down := false } else none
  | .repeat => if pair.down then some pair else none

def KeyPair.notice (counting : KeyCounting) (id : DeviceID) (code : BitVec 32) (pair : KeyPair) :
    SeatNotice → Option KeyPair
  | .addDevice other => some (if other = id then { pair with registered := true } else pair)
  | .removeDevice other =>
    some (if other = id then ⟨false, pair.down && !counting.removalReleases⟩ else pair)
  | .setKeyState other scanCodes =>
    some (if other = id ∧ (pair.registered || counting.unknownAreSet) = true
      then { pair with down := decide (code ∈ scanCodes) } else pair)
  | .dispatchEvent (.key event) =>
    if event.deviceID = id ∧ event.code = code then pair.event event.action else some pair
  | _ => some pair

/-- The key after everything observed, if all events came in turn. -/
def keyAfter (counting : KeyCounting) (id : DeviceID) (code : BitVec 32)
    (observed : List SeatNotice) : Option KeyPair :=
  observed.foldlM (KeyPair.notice counting id code) ⟨false, false⟩

/-- The codes the tracker has for a device. -/
def SeatTracker.scanCodes (tracker : SeatTracker) (id : DeviceID) : List (BitVec 32) :=
  (tracker.deviceData.find id).elim [] DeviceData.scanCodes

/-- The keys that are set are listed once each. -/
def SeatOp.DuplicateFree : SeatOp → Prop
  | .setKeyState _ scanCodes => scanCodes.Nodup
  | _ => True

instance : (op : SeatOp) → Decidable op.DuplicateFree
  | .setKeyState _ scanCodes => inferInstanceAs (Decidable scanCodes.Nodup)
  | .addDevice _ _ | .removeDevice _ | .dispatch _ | .setPointerState _ _
  | .setCursorPosition _ _ | .changeConfinement _ => inferInstanceAs (Decidable True)

/-! ### The codes of a device -/

namespace SeatTracker

variable {tracker : SeatTracker}

theorem scanCodes_of_find {id : DeviceID} {data : DeviceData}
    (known : tracker.deviceData.find id = some data) : tracker.scanCodes id = data.scanCodes := by
  unfold scanCodes
  rw [known]
  rfl

theorem scanCodes_of_unknown {id : DeviceID} (unknown : tracker.deviceData.find id = none) :
    tracker.scanCodes id = [] := by
  unfold scanCodes
  rw [unknown]
  rfl

/-- The pair of a device and a code as the tracker has it. -/
def pair (tracker : SeatTracker) (id : DeviceID) (code : BitVec 32) : KeyPair :=
  ⟨(tracker.deviceData.find id).isSome, decide (code ∈ tracker.scanCodes id)⟩

/-- An event is passed on exactly if it comes in turn. -/
theorem event_of_allowed {data : DeviceData} {event : KeyboardEvent} {registered : Bool}
    (permitted : data.allowedScanCodeAction event = true) :
    KeyPair.event ⟨registered, decide (event.code ∈ data.scanCodes)⟩ event.action =
      some ⟨registered, decide (event.code ∈ (data.updateScanCodes event).scanCodes)⟩ := by
  unfold DeviceData.allowedScanCodeAction at permitted
  unfold DeviceData.updateScanCodes KeyPair.event
  cases action : event.action <;> simp_all

/-- An event of another code changes nothing of a code. -/
theorem mem_updateScanCodes_of_ne {data : DeviceData} {event : KeyboardEvent} {code : BitVec 32}
    (different : event.code ≠ code) :
    code ∈ (data.updateScanCodes event).scanCodes ↔ code ∈ data.scanCodes := by
  unfold DeviceData.updateScanCodes
  cases event.action <;> simp [different.symm]

theorem nodup_updateScanCodes {data : DeviceData} {event : KeyboardEvent}
    (permitted : data.allowedScanCodeAction event = true) (distinct : data.scanCodes.Nodup) :
    (data.updateScanCodes event).scanCodes.Nodup := by
  unfold DeviceData.allowedScanCodeAction at permitted
  unfold DeviceData.updateScanCodes
  cases action : event.action with
  | down =>
    have isNew : event.code ∉ data.scanCodes := by simpa [action] using permitted
    exact List.nodup_append.mpr ⟨distinct, List.nodup_singleton _, by
      rintro code member other isOther rfl
      exact isNew (List.mem_singleton.mp isOther ▸ member)⟩
  | up => exact distinct.filter _
  | «repeat» => exact distinct

/-! ### One operation -/

/-- What an operation that sets `data` of a device does to the pairs of the other devices. -/
theorem pair_of_find {next : SeatTracker} {id : DeviceID}
    (same : next.deviceData.find id = tracker.deviceData.find id) (code : BitVec 32) :
    next.pair id code = tracker.pair id code := by
  unfold pair scanCodes
  rw [same]

/-- A change that leaves the codes of a device as they are. -/
theorem pair_of_modify {next : SeatTracker} {id : DeviceID} {change : DeviceData → DeviceData}
    (changed : next.deviceData = tracker.deviceData.modify id change)
    (kept : ∀ data, (change data).scanCodes = data.scanCodes) (other : DeviceID)
    (code : BitVec 32) : next.pair other code = tracker.pair other code := by
  unfold pair scanCodes
  rw [changed, UnorderedMap.find_modify]
  split_ifs
  · cases tracker.deviceData.find other with
    | none => rfl
    | some data =>
      refine congrArg (KeyPair.mk true) (decide_eq_decide.mpr ?_)
      show code ∈ (change data).scanCodes ↔ code ∈ data.scanCodes
      rw [kept]
  · rfl

/-- What is observed of an operation takes each pair to what the tracker has afterwards. -/
theorem pair_step (op : SeatOp) (id : DeviceID) (code : BitVec 32) :
    ∃ notices, (tracker.step op).observed = tracker.observed ++ notices ∧
      notices.foldlM (KeyPair.notice ⟨true, false⟩ id code) (tracker.pair id code) =
        some ((tracker.step op).pair id code) := by
  cases tracker.step_cases op with
  | idle _ notices becomes aside _ =>
    refine ⟨notices, becomes.observed, ?_⟩
    rw [pair_of_find (congrArg (·.find id) becomes.deviceData)]
    rcases aside with rfl | ⟨x, y, rfl⟩ <;> rfl
  | added added order becomes =>
    refine ⟨_, becomes.observed, ?_⟩
    show some (if added = id then _ else _) = _
    have found := congrArg (·.find id) becomes.deviceData
    simp only [UnorderedMap.find_emplace] at found
    unfold pair scanCodes
    rw [found]
    split_ifs with same same' same'
    · subst same
      cases tracker.deviceData.find added <;> rfl
    · exact absurd same.symm same'
    · exact absurd same'.symm same
    · rfl
  | removed removed data known becomes =>
    refine ⟨_, becomes.observed, ?_⟩
    have found := congrArg (·.find id) becomes.deviceData
    simp only [UnorderedMap.find_erase] at found
    by_cases same : removed = id
    · subst same
      rw [if_pos rfl] at found
      show some (if removed = removed then _ else _) = _
      rw [if_pos rfl]
      unfold pair scanCodes
      rw [found]
      simp
    · rw [if_neg (Ne.symm same)] at found
      show some (if removed = id then _ else _) = _
      rw [if_neg same, pair_of_find found]
  | key event data known permitted becomes =>
    refine ⟨_, becomes.observed, ?_⟩
    have found := congrArg (·.find id) becomes.deviceData
    simp only [UnorderedMap.find_modify] at found
    show (KeyPair.notice _ id code _ (.dispatchEvent (.key event)) >>= pure) = _
    rw [bind_pure]
    show (if event.deviceID = id ∧ event.code = code then _ else _) = _
    by_cases same : id = event.deviceID
    · subst same
      rw [if_pos rfl, known] at found
      unfold pair
      rw [scanCodes_of_find known, scanCodes_of_find found, found, known]
      by_cases sameCode : event.code = code
      · subst sameCode
        rw [if_pos ⟨rfl, rfl⟩]
        exact event_of_allowed permitted
      · rw [if_neg fun both => sameCode both.2]
        simp only [Option.map_some, Option.isSome_some, mem_updateScanCodes_of_ne sameCode]
    · rw [if_neg same] at found
      rw [if_neg fun both => same both.1.symm, pair_of_find found]
  | touch event data known becomes =>
    refine ⟨_, becomes.observed, ?_⟩
    rw [pair_of_modify becomes.deviceData fun _ => rfl]
    rfl
  | pointer event passed data known becomes =>
    refine ⟨_, becomes.observed, ?_⟩
    rw [pair_of_modify becomes.deviceData fun _ => rfl]
    rfl
  | keyState changed scanCodes becomes =>
    refine ⟨_, becomes.observed, ?_⟩
    have found := congrArg (·.find id) becomes.deviceData
    simp only [UnorderedMap.find_modify] at found
    show some (if changed = id ∧ _ then _ else _) = _
    by_cases same : id = changed
    · subst same
      rw [if_pos rfl] at found
      unfold pair SeatTracker.scanCodes
      rw [found]
      cases tracker.deviceData.find id with
      | none => simp
      | some data =>
        rw [if_pos ⟨rfl, rfl⟩]
        rfl
    · rw [if_neg same] at found
      rw [if_neg fun both => same both.1.symm, pair_of_find found]
  | pointerState changed buttons becomes =>
    refine ⟨_, becomes.observed, ?_⟩
    rw [pair_of_modify becomes.deviceData fun _ => rfl]
    rfl

theorem nodup_of_modify {next : SeatTracker} {id other : DeviceID} {after : DeviceData}
    {change : DeviceData → DeviceData}
    (changed : next.deviceData = tracker.deviceData.modify id change)
    (listed : ∀ data, (change data).scanCodes = data.scanCodes ∨ (change data).scanCodes.Nodup)
    (before : ∀ data, tracker.deviceData.find other = some data → data.scanCodes.Nodup)
    (found : next.deviceData.find other = some after) : after.scanCodes.Nodup := by
  rw [changed, UnorderedMap.find_modify] at found
  split_ifs at found
  · obtain ⟨data, known, rfl⟩ := Option.map_eq_some_iff.mp found
    rcases listed data with same | distinct
    · rw [same]
      exact before data known
    · exact distinct
  · exact before after found

/-- No operation lists a code twice. -/
theorem nodup_step (distinct : ∀ id, (tracker.scanCodes id).Nodup) {op : SeatOp}
    (permitted : op.DuplicateFree) (id : DeviceID) : ((tracker.step op).scanCodes id).Nodup := by
  cases found : (tracker.step op).deviceData.find id with
  | none =>
    rw [scanCodes_of_unknown found]
    exact List.nodup_nil
  | some after =>
    rw [scanCodes_of_find found]
    have before : ∀ data, tracker.deviceData.find id = some data → data.scanCodes.Nodup := by
      intro data known
      have listed := distinct id
      rwa [scanCodes_of_find known] at listed
    cases tracker.step_cases op with
    | idle _ _ becomes _ _ =>
      rw [becomes.deviceData] at found
      exact before after found
    | added added order becomes =>
      rw [becomes.deviceData, UnorderedMap.find_emplace] at found
      split_ifs at found with same
      · cases known : tracker.deviceData.find added with
        | none =>
          rw [known] at found
          cases found
          exact List.nodup_nil
        | some data =>
          rw [known] at found
          cases found
          exact before _ (same ▸ known)
      · exact before after found
    | removed removed data known becomes =>
      rw [becomes.deviceData, UnorderedMap.find_erase] at found
      split_ifs at found
      exact before after found
    | key event data known allowed becomes =>
      rw [becomes.deviceData, UnorderedMap.find_modify] at found
      split_ifs at found with same
      · subst same
        rw [known] at found
        cases found
        exact nodup_updateScanCodes allowed (before data known)
      · exact before after found
    | touch event data known becomes =>
      exact nodup_of_modify becomes.deviceData (fun _ => .inl rfl) before found
    | pointer event passed data known becomes =>
      exact nodup_of_modify becomes.deviceData (fun _ => .inl rfl) before found
    | keyState changed scanCodes becomes =>
      exact nodup_of_modify becomes.deviceData (fun _ => .inr permitted) before found
    | pointerState changed buttons becomes =>
      exact nodup_of_modify becomes.deviceData (fun _ => .inl rfl) before found

/-! ### Every run -/

/-- The keys the observer has counted are those the tracker has, and none is listed twice. -/
structure KeysCounted (tracker : SeatTracker) : Prop where
  counted : ∀ id code, keyAfter ⟨true, false⟩ id code tracker.observed = some (tracker.pair id code)
  distinct : ∀ id, (tracker.scanCodes id).Nodup

theorem keysCounted_initial : KeysCounted initial where
  counted := fun _ _ => rfl
  distinct := fun _ => List.nodup_nil

theorem KeysCounted.step (counted : KeysCounted tracker) {op : SeatOp}
    (permitted : op.DuplicateFree) : KeysCounted (tracker.step op) where
  counted id code := by
    obtain ⟨notices, observed, taken⟩ := @pair_step tracker op id code
    have before : tracker.observed.foldlM _ _ = _ := counted.counted id code
    unfold keyAfter
    rw [observed, List.foldlM_append, before]
    exact taken
  distinct := nodup_step counted.distinct permitted

/-- In every run the keys of a device are pressed, repeated and released in turn, the removal of
the device counting as a release, and the codes listed for it are those that are down. -/
theorem keys_come_in_turn
    (reached : Reaches step (fun _ op => op.DuplicateFree) initial tracker) (id : DeviceID)
    (code : BitVec 32) :
    (∃ after, keyAfter ⟨true, false⟩ id code tracker.observed = some after ∧
      (after.down = true ↔ code ∈ tracker.scanCodes id)) ∧ (tracker.scanCodes id).Nodup := by
  have counted : KeysCounted tracker := reached.invariant keysCounted_initial
    fun _ _ counted permitted => counted.step permitted
  exact ⟨⟨_, counted.counted id code, decide_eq_true_iff⟩, counted.distinct id⟩

/-- A key event of the first device. -/
def keyEvent (action : KeyboardAction) (scanCode : Int) : SeatOp :=
  .dispatch (.key ⟨1, 0, [], 0, action, 0, scanCode⟩)

/-- A key is pressed, held, released twice and pressed again. -/
theorem keys_come_in_turn_when_repeated :
    let ops := [.addDevice 1 [], keyEvent .down 30, keyEvent .down 30, keyEvent .repeat 30,
      keyEvent .up 30, keyEvent .up 30, .setKeyState 1 [30, 31]]
    let tracker := ops.foldl step initial
    (∃ after, keyAfter ⟨true, false⟩ 1 30 tracker.observed = some after ∧
      (after.down = true ↔ 30 ∈ tracker.scanCodes 1)) ∧ (tracker.scanCodes 1).Nodup :=
  keys_come_in_turn (Reaches.start.foldl _ (by decide)) 1 30

/-- A key that is down when its device is removed, or that is set of a device that is added only
afterwards, is pressed again without having been released. -/
theorem a_key_is_pressed_twice :
    (¬ ∀ tracker, Reaches step (fun _ op => op.DuplicateFree) initial tracker → ∀ id code,
      keyAfter ⟨false, true⟩ id code tracker.observed ≠ none) ∧
    ¬ ∀ tracker, Reaches step (fun _ op => op.DuplicateFree) initial tracker → ∀ id code,
      keyAfter ⟨true, true⟩ id code tracker.observed ≠ none := by
  constructor
  · intro claimed
    exact claimed _ (Reaches.start.foldl
      [.addDevice 1 [], keyEvent .down 30, .removeDevice 1, .addDevice 1 [], keyEvent .down 30]
      (by decide)) 1 30 (by decide)
  · intro claimed
    exact claimed _ (Reaches.start.foldl
      [.setKeyState 1 [30], .addDevice 1 [], keyEvent .down 30] (by decide)) 1 30 (by decide)

end SeatTracker

end Mir.Input

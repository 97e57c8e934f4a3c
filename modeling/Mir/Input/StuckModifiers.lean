/-
This file proves which runs of key events leave a modifier behind. A key adds what it stands for
when it goes down and takes away what it stands for when it goes up, and the two may differ: other
keys that are held change the level at which the keymap translates it. A modifier is gone once all
keys are up exactly if after each press that stood for it some release did.
-/

import Mir.Input.XKBMapper
import Mir.Library.History

namespace Mir.Input

variable {Description Keymap State Compose : Type}

/-- The scan code of a key and what happens to it. -/
abbrev Stroke := BitVec 32 × KeyboardAction

/-! ### Keys that are held -/

def hold (held : List (BitVec 32)) (stroke : Stroke) : List (BitVec 32) :=
  match stroke.2 with
  | .down => stroke.1 :: held
  | .up => held.erase stroke.1
  | .repeat => held

def heldKeys (strokes : List Stroke) : List (BitVec 32) := strokes.foldl hold []

/-- A key goes down when it is up, and only a key that is down is repeated or goes up. -/
def Fits (held : List (BitVec 32)) (stroke : Stroke) : Prop :=
  match stroke.2 with
  | .down => stroke.1 ∉ held
  | .up | .repeat => stroke.1 ∈ held

instance (held : List (BitVec 32)) : (stroke : Stroke) → Decidable (Fits held stroke)
  | (key, .down) => inferInstanceAs (Decidable (key ∉ held))
  | (key, .up) | (key, .repeat) => inferInstanceAs (Decidable (key ∈ held))

/-- Each key goes down, may be repeated, and goes up before it goes down again. -/
def KeyRun (strokes : List Stroke) : Prop := Transition.AllowedAlong hold Fits [] strokes

/-- A key is held until it goes up. -/
theorem mem_foldl_hold {key : BitVec 32} {held : List (BitVec 32)} {strokes : List Stroke}
    (isHeld : key ∈ held) (stays : (key, KeyboardAction.up) ∉ strokes) :
    key ∈ strokes.foldl hold held := by
  induction strokes generalizing held with
  | nil => exact isHeld
  | cons stroke rest inductionHypothesis =>
    obtain ⟨notThis, later⟩ := not_or.mp (mt List.mem_cons.mpr stays)
    refine inductionHypothesis ?_ later
    obtain ⟨other, action⟩ := stroke
    cases action with
    | down => exact List.mem_cons_of_mem _ isHeld
    | «repeat» => exact isHeld
    | up =>
      have different : key ≠ other := fun same => notThis (by rw [same])
      exact (List.mem_erase_of_ne different).mpr isHeld

/-- Where all keys are up, each that went down has gone up since. -/
theorem up_of_heldKeys_eq_nil {before after : List Stroke} {key : BitVec 32}
    (released : heldKeys (before ++ (key, .down) :: after) = []) :
    (key, KeyboardAction.up) ∈ after := by
  by_contra stays
  have isHeld : key ∈ heldKeys (before ++ (key, .down) :: after) := by
    unfold heldKeys
    rw [List.foldl_append, List.foldl_cons]
    exact mem_foldl_hold List.mem_cons_self stays
  rw [released] at isHeld
  cases isHeld

/-! ### What the keys stand for -/

/-- The modifiers that are those of one side. -/
def sidedModifiers : Modifiers :=
  .altLeft ||| .altRight ||| .shiftLeft ||| .shiftRight ||| .ctrlLeft ||| .ctrlRight |||
    .metaLeft ||| .metaRight

/-- None of the modifiers shift, alt, ctrl and meta is set, left or right. -/
def NoneStuck (modifiers : Modifiers) : Prop := modifiers &&& sidedModifiers = 0

instance (modifiers : Modifiers) : Decidable (NoneStuck modifiers) :=
  inferInstanceAs (Decidable (_ = _))

/-- After each press that stood for a modifier of one side some release did. -/
def TakenBack (changes : List (KeyboardAction × Modifiers)) : Prop :=
  ∀ bit, sidedModifiers.getLsbD bit = true → ∀ before modifiers after,
    changes = before ++ (.down, modifiers) :: after → modifiers.getLsbD bit = true →
      ∃ other, (.up, other) ∈ after ∧ other.getLsbD bit = true

/-- How an event that stands for some modifiers switches one of them. -/
def switches (bit : Nat) (change : KeyboardAction × Modifiers) : Option Bool :=
  if change.2.getLsbD bit then
    match change.1 with
    | .down => some true
    | .up => some false
    | .repeat => none
  else none

theorem switches_eq_true_iff {bit : Nat} {change : KeyboardAction × Modifiers} :
    switches bit change = some true ↔ change.1 = .down ∧ change.2.getLsbD bit = true := by
  obtain ⟨action, modifiers⟩ := change
  unfold switches
  by_cases isSet : modifiers.getLsbD bit = true <;> cases action <;> simp [isSet]

theorem switches_eq_false_iff {bit : Nat} {change : KeyboardAction × Modifiers} :
    switches bit change = some false ↔ change.1 = .up ∧ change.2.getLsbD bit = true := by
  obtain ⟨action, modifiers⟩ := change
  unfold switches
  by_cases isSet : modifiers.getLsbD bit = true <;> cases action <;> simp [isSet]

theorem takenBack_iff_latest (changes : List (KeyboardAction × Modifiers)) :
    TakenBack changes ↔ ∀ bit, sidedModifiers.getLsbD bit = true →
      History.latest (switches bit) false changes = false := by
  refine forall_congr' fun bit => imp_congr_right fun _ => ?_
  rw [History.latest_eq_false_iff]
  constructor
  · rintro taken before ⟨action, modifiers⟩ after whole on
    obtain ⟨rfl, isSet⟩ := switches_eq_true_iff.mp on
    obtain ⟨other, member, alsoSet⟩ := taken before modifiers after whole isSet
    exact ⟨_, member, switches_eq_false_iff.mpr ⟨rfl, alsoSet⟩⟩
  · intro off before modifiers after whole isSet
    obtain ⟨⟨action, other⟩, member, switched⟩ :=
      off before _ after whole (switches_eq_true_iff.mpr ⟨rfl, isSet⟩)
    obtain ⟨rfl, alsoSet⟩ := switches_eq_false_iff.mp switched
    exact ⟨other, member, alsoSet⟩

theorem noneStuck_iff {modifiers : Modifiers} :
    NoneStuck modifiers ↔ ∀ bit, sidedModifiers.getLsbD bit = true →
      modifiers.getLsbD bit = false := by
  unfold NoneStuck
  constructor
  · intro clear bit sided
    have both := congrArg (BitVec.getLsbD · bit) clear
    simpa [sided] using both
  · intro clear
    refine BitVec.eq_of_getLsbD_eq fun bit _ => ?_
    cases sided : sidedModifiers.getLsbD bit with
    | false => simp [sided]
    | true => simp [sided, clear bit sided]

/-! ### The modifiers of a device -/

namespace XkbMappingState

variable (xkb : Xkb Description Keymap State Compose)

/-- What the state of a device becomes as its keys go down and up. -/
def track (mapping : XkbMappingState Keymap State) (strokes : List Stroke) :
    XkbMappingState Keymap State :=
  strokes.foldl (fun mapping stroke => mapping.press xkb (toXkbScanCode stroke.1) stroke.2) mapping

/-- What each key stands for at its moment. -/
def changes (mapping : XkbMappingState Keymap State) :
    List Stroke → List (KeyboardAction × Modifiers)
  | [] => []
  | stroke :: rest =>
    (stroke.2, mapping.modChange xkb (toXkbScanCode stroke.1)) ::
      (mapping.press xkb (toXkbScanCode stroke.1) stroke.2).changes rest

variable {xkb} {mapping : XkbMappingState Keymap State}

theorem getLsbD_press (scanCode : BitVec 32) (action : KeyboardAction) (bit : Nat) :
    (mapping.press xkb scanCode action).modifierState.getLsbD bit =
      (switches bit (action, mapping.modChange xkb scanCode)).getD
        (mapping.modifierState.getLsbD bit) := by
  have inRange : mapping.modifierState.getLsbD bit = true → bit < 32 :=
    BitVec.lt_of_getLsbD
  unfold press switches
  cases action <;> cases isSet : (mapping.modChange xkb scanCode).getLsbD bit <;>
    cases was : mapping.modifierState.getLsbD bit <;> simp_all

theorem getLsbD_track (strokes : List Stroke) (bit : Nat) :
    (mapping.track xkb strokes).modifierState.getLsbD bit =
      History.latest (switches bit) (mapping.modifierState.getLsbD bit)
        (mapping.changes xkb strokes) := by
  induction strokes generalizing mapping with
  | nil => rfl
  | cons stroke rest inductionHypothesis =>
    refine inductionHypothesis.trans ?_
    rw [getLsbD_press]
    rfl

theorem changes_append (first second : List Stroke) :
    mapping.changes xkb (first ++ second) =
      mapping.changes xkb first ++ (mapping.track xkb first).changes xkb second := by
  induction first generalizing mapping with
  | nil => rfl
  | cons stroke rest inductionHypothesis => exact congrArg _ inductionHypothesis

/-- A device is left with no such modifier exactly if each was taken back. -/
theorem noneStuck_track_iff (keymap : Keymap) (strokes : List Stroke) :
    NoneStuck ((new xkb keymap).track xkb strokes).modifierState ↔
      TakenBack ((new xkb keymap).changes xkb strokes) := by
  rw [noneStuck_iff, takenBack_iff_latest]
  refine forall_congr' fun bit => imp_congr_right fun _ => ?_
  have unset : (new xkb keymap).modifierState.getLsbD bit = false := BitVec.getLsbD_zero
  rw [getLsbD_track, unset]

/-- In every run of the keys of a device, none of the modifiers shift, alt, ctrl and meta is left
whenever all keys are up, exactly if by then each that a press stood for was taken back by a release
that stood for it too. -/
theorem none_stuck_iff (keymap : Keymap) (strokes : List Stroke) :
    (∀ done, done <+: strokes → heldKeys done = [] →
        NoneStuck ((new xkb keymap).track xkb done).modifierState) ↔
      ∀ done, done <+: strokes → heldKeys done = [] →
        TakenBack ((new xkb keymap).changes xkb done) :=
  forall_congr' fun done => imp_congr_right fun _ => imp_congr_right fun _ =>
    noneStuck_track_iff keymap done

/-- The left alt key goes down, shift goes down, and the alt key goes up as another key. -/
theorem alt_is_stuck :
    KeyRun [(56, .down), (42, .down), (56, .up), (42, .up)] ∧
      ¬ ∀ done, done <+: [(56, .down), (42, .down), (56, .up), (42, .up)] → heldKeys done = [] →
        NoneStuck ((new shiftedAlt ()).track shiftedAlt done).modifierState := by
  refine ⟨by unfold KeyRun; decide, fun always => ?_⟩
  have clear := always _ (List.prefix_refl _) (by decide)
  revert clear
  decide

/-! ### Keymaps that never leave a modifier behind -/

theorem changes_split {strokes : List Stroke} {before after : List (KeyboardAction × Modifiers)}
    {action : KeyboardAction} {modifiers : Modifiers}
    (whole : mapping.changes xkb strokes = before ++ (action, modifiers) :: after) :
    ∃ first key rest, strokes = first ++ (key, action) :: rest ∧
      modifiers = (mapping.track xkb first).modChange xkb (toXkbScanCode key) ∧
      after = (mapping.track xkb (first ++ [(key, action)])).changes xkb rest := by
  induction strokes generalizing mapping before with
  | nil => exact absurd whole.symm (List.append_ne_nil_of_right_ne_nil _ (List.cons_ne_nil _ _))
  | cons stroke rest inductionHypothesis =>
    cases before with
    | nil =>
      obtain ⟨same, later⟩ := List.cons.inj whole
      obtain ⟨rfl, rfl⟩ := Prod.mk.inj same
      exact ⟨[], stroke.1, rest, rfl, rfl, later.symm⟩
    | cons head tail =>
      obtain ⟨first, key, others, rfl, isModifiers, isAfter⟩ :=
        inductionHypothesis (List.cons.inj whole).2
      exact ⟨stroke :: first, key, others, rfl, isModifiers, isAfter⟩

theorem mem_changes {strokes : List Stroke} {key : BitVec 32} {action : KeyboardAction}
    (member : (key, action) ∈ strokes) :
    ∃ done, (action, (mapping.track xkb done).modChange xkb (toXkbScanCode key)) ∈
      mapping.changes xkb strokes := by
  obtain ⟨first, rest, rfl⟩ := List.append_of_mem member
  refine ⟨first, ?_⟩
  rw [changes_append]
  exact List.mem_append_right _ List.mem_cons_self

/-- Where no key ever stands for other modifiers than at other times, none is left. -/
theorem noneStuck_of_steady
    (steady : ∀ first second key, xkbKeyCodeToModifier (xkb.keyGetOneSym first key) =
      xkbKeyCodeToModifier (xkb.keyGetOneSym second key))
    (keymap : Keymap) {strokes : List Stroke} (released : heldKeys strokes = []) :
    NoneStuck ((new xkb keymap).track xkb strokes).modifierState := by
  refine (noneStuck_track_iff keymap strokes).mpr fun bit _ before modifiers after whole isSet => ?_
  obtain ⟨first, key, rest, rfl, rfl, rfl⟩ := changes_split whole
  let pressed := (new xkb keymap).track xkb (first ++ [(key, .down)])
  obtain ⟨done, member⟩ : ∃ done,
      (.up, (pressed.track xkb done).modChange xkb (toXkbScanCode key)) ∈
        pressed.changes xkb rest :=
    mem_changes (up_of_heldKeys_eq_nil released)
  refine ⟨_, member, ?_⟩
  unfold modChange at isSet ⊢
  rw [steady _ ((new xkb keymap).track xkb first).state]
  exact isSet

end XkbMappingState

/-! ### In the mapper -/

namespace XKBMapper

variable (xkb : Xkb Description Keymap State Compose)

/-- The mapper is given the key events of one device. -/
def mapStrokes (mapper : XKBMapper Keymap State Compose) (id : DeviceID) (strokes : List Stroke) :
    XKBMapper Keymap State Compose :=
  strokes.foldl
    (fun mapper stroke => (mapper.mapEvent xkb (.key id stroke.2 stroke.1 keyNoSymbol .none)).1)
    mapper

variable {xkb} {mapper : XKBMapper Keymap State Compose} {id : DeviceID}
  {mapping : XkbMappingState Keymap State}

theorem updateState_fst (scanCode : BitVec 32) (action : KeyboardAction)
    (compose : Option (ComposeState Compose)) :
    (mapping.updateState xkb scanCode action compose).1 = mapping.press xkb scanCode action := by
  cases compose <;> rfl

theorem find_mapEvent_key (known : mapper.deviceMapping.find id = some mapping)
    (action : KeyboardAction) (scanCode : BitVec 32) (keyCode : KeySym) (modifiers : Modifiers) :
    (mapper.mapEvent xkb (.key id action scanCode keyCode modifiers)).1.deviceMapping.find id =
      some (mapping.press xkb (toXkbScanCode scanCode) action) := by
  have isState : mapper.getKeymappingState xkb id = some mapping := by
    unfold getKeymappingState
    rw [known, Option.some_or]
  simp only [mapEvent, isState, mapKey]
  rw [← updateState_fst (toXkbScanCode scanCode) action (mapper.getComposeState xkb id)]
  generalize mapping.updateState xkb (toXkbScanCode scanCode) action
    (mapper.getComposeState xkb id) = updated
  obtain ⟨next, composed, keySym⟩ := updated
  cases composed <;> split <;>
    exact (OrderedMap.find_set _ _ _ _).trans (if_pos rfl)

/-- What the mapper keeps of a device is what its keys made of it. -/
theorem find_mapStrokes (known : mapper.deviceMapping.find id = some mapping)
    (strokes : List Stroke) :
    (mapper.mapStrokes xkb id strokes).deviceMapping.find id =
      some (mapping.track xkb strokes) := by
  induction strokes generalizing mapper mapping with
  | nil => exact known
  | cons stroke rest inductionHypothesis =>
    exact inductionHypothesis (find_mapEvent_key known _ _ _ _)

end XKBMapper

end Mir.Input

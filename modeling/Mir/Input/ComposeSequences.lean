/-
This file says when the repeats and the release of a key are reported as its press was. A press may
be consumed by a compose sequence or complete one, and the mapper keeps by symbol what became of
presses: which symbols were consumed, and of those that completed a sequence the last one. What it
keeps of a symbol it forgets before all keys that it kept it for are up.
-/

import Mathlib.Logic.Function.Basic
import Mir.Input.StuckModifiers

namespace Mir.Input

variable {Description Keymap State Compose : Type}

/-! ### Presses -/

/-- What becomes of a press: it stands for the symbol of the key, it is consumed by a sequence, or
it completes one. -/
inductive Press
  | plain
  | consumed
  | composed (keySym : KeySym)
  deriving DecidableEq, Repr

/-- The symbol that the press of a key with a symbol is reported as. -/
def Press.keyCode (mappedKey : KeySym) : Press → KeySym
  | plain => mappedKey
  | consumed => keyNoSymbol
  | composed keySym => keySym

namespace ComposeState

variable (xkb : Xkb Description Keymap State Compose)

/-- What the library makes of a press. -/
def treat (compose : ComposeState Compose) (mappedKey : KeySym) : Press :=
  let (accepted, state) := xkb.composeFeed compose.state mappedKey
  if accepted then
    match xkb.composeGetStatus state with
    | .composed => .composed (xkb.composeGetOneSym state)
    | .composing | .cancelled => .consumed
    | .nothing => .plain
  else .plain

/-- What is remembered of the presses of a symbol. -/
def lookUp (compose : ComposeState Compose) (mappedKey : KeySym) : Press :=
  match compose.lastComposedKey with
  | some (last, composed) =>
    if mappedKey = last then .composed composed
    else if mappedKey ∈ compose.consumedKeys then .consumed
    else .plain
  | none => if mappedKey ∈ compose.consumedKeys then .consumed else .plain

/-- How the memory changes by what becomes of a press. -/
def remember (compose : ComposeState Compose) (mappedKey : KeySym) : Press → ComposeState Compose
  | .plain => compose
  | .consumed =>
    { compose with consumedKeys := mappedKey :: compose.consumedKeys.erase mappedKey }
  | .composed keySym => { compose with lastComposedKey := some (mappedKey, keySym) }

variable {xkb}

theorem feed_eq (compose : ComposeState Compose) (mappedKey : KeySym) :
    compose.feed xkb mappedKey =
      ({ compose.remember mappedKey (compose.treat xkb mappedKey) with
          state := (xkb.composeFeed compose.state mappedKey).2 },
        (compose.treat xkb mappedKey).keyCode mappedKey) := by
  unfold feed treat
  obtain ⟨accepted, state⟩ := xkb.composeFeed compose.state mappedKey
  cases accepted with
  | false => rfl
  | true =>
    dsimp only
    cases xkb.composeGetStatus state with
    | nothing => rfl
    | composing => rfl
    | composed => rfl
    | cancelled => rfl

/-- A repeat and a release are reported as what is remembered of the symbol. -/
theorem updateState_keyCode (compose : ComposeState Compose) (mappedKey : KeySym)
    {action : KeyboardAction} (notDown : action ≠ .down) :
    (compose.updateState xkb mappedKey action).2 =
      (compose.lookUp mappedKey).keyCode mappedKey := by
  rw [updateState, if_neg notDown, lookUp]
  cases compose.lastComposedKey with
  | none =>
    dsimp only [settle]
    split_ifs <;> rfl
  | some last =>
    dsimp only [settle]
    split_ifs <;> rfl

/-! ### What is remembered -/

/-- What is remembered of a symbol is that it was consumed or that it completed a sequence, not
both. -/
structure Clean (compose : ComposeState Compose) : Prop where
  once : compose.consumedKeys.Nodup
  either : ∀ last ∈ compose.lastComposedKey, last.1 ∉ compose.consumedKeys

variable {compose : ComposeState Compose} {mappedKey : KeySym}

/-- A symbol other than the one of the last composed key. -/
def NotLast (compose : ComposeState Compose) (mappedKey : KeySym) : Prop :=
  ∀ last ∈ compose.lastComposedKey, mappedKey ≠ last.1

theorem lookUp_of_last {keySym : KeySym}
    (isLast : compose.lastComposedKey = some (mappedKey, keySym)) :
    compose.lookUp mappedKey = .composed keySym := by
  rw [lookUp, isLast]
  exact if_pos rfl

theorem lookUp_of_notLast (notLast : compose.NotLast mappedKey) :
    compose.lookUp mappedKey = if mappedKey ∈ compose.consumedKeys then .consumed else .plain := by
  rw [lookUp]
  cases last : compose.lastComposedKey with
  | none => rfl
  | some key => exact if_neg (notLast key last)

/-- Of a symbol that is not of the last composed key, what is remembered is whether it was
consumed. -/
theorem lookUp_congr {other : ComposeState Compose} (notLast : compose.NotLast mappedKey)
    (otherNotLast : other.NotLast mappedKey)
    (same : mappedKey ∈ compose.consumedKeys ↔ mappedKey ∈ other.consumedKeys) :
    compose.lookUp mappedKey = other.lookUp mappedKey := by
  rw [lookUp_of_notLast notLast, lookUp_of_notLast otherNotLast]
  exact if_congr same rfl rfl

theorem notLast_or (compose : ComposeState Compose) (mappedKey : KeySym) :
    (∃ keySym, compose.lastComposedKey = some (mappedKey, keySym)) ∨
      compose.NotLast mappedKey := by
  unfold NotLast
  cases compose.lastComposedKey with
  | none => exact .inr fun last isLast => by cases isLast
  | some last =>
    by_cases same : mappedKey = last.1
    · exact .inl ⟨last.2, by rw [same]⟩
    · exact .inr fun other isLast => Option.some.inj isLast ▸ same

theorem notLast_of_lookUp (notComposed : ∀ keySym, compose.lookUp mappedKey ≠ .composed keySym) :
    compose.NotLast mappedKey :=
  (compose.notLast_or mappedKey).resolve_left fun ⟨keySym, isLast⟩ =>
    notComposed keySym (lookUp_of_last isLast)

theorem not_mem_consumedKeys (clean : compose.Clean)
    (notConsumed : compose.lookUp mappedKey ≠ .consumed) : mappedKey ∉ compose.consumedKeys := by
  intro consumed
  rcases compose.notLast_or mappedKey with ⟨keySym, isLast⟩ | notLast
  · exact clean.either _ isLast consumed
  · exact notConsumed ((lookUp_of_notLast notLast).trans (if_pos consumed))

/-- A press of a symbol that nothing is remembered of is remembered with the others, if it does not
take the place of another as the last composed one. -/
theorem clean_remember (clean : compose.Clean) (new : compose.lookUp mappedKey = .plain)
    (press : Press)
    (alone : ∀ keySym, press = .composed keySym → compose.lastComposedKey = none) :
    (compose.remember mappedKey press).Clean ∧
      ∀ other, (compose.remember mappedKey press).lookUp other =
        if other = mappedKey then press else compose.lookUp other := by
  have notConsumed := not_mem_consumedKeys clean (by rw [new]; exact Press.noConfusion)
  have notLast := notLast_of_lookUp fun keySym composed =>
    Press.noConfusion (new.symm.trans composed)
  cases press with
  | plain =>
    refine ⟨clean, fun other => ?_⟩
    split_ifs with same
    · exact same ▸ new
    · rfl
  | consumed =>
    have consumedKeys : (compose.remember mappedKey .consumed).consumedKeys =
        mappedKey :: compose.consumedKeys := by
      rw [remember, List.erase_of_not_mem notConsumed]
    refine ⟨⟨?_, ?_⟩, fun other => ?_⟩
    · rw [consumedKeys]
      exact List.nodup_cons.mpr ⟨notConsumed, clean.once⟩
    · intro last isLast
      rw [consumedKeys, List.mem_cons, not_or]
      exact ⟨fun same => notLast last isLast same.symm, clean.either last isLast⟩
    · rcases compose.notLast_or other with ⟨keySym, isLast⟩ | otherNotLast
      · have different : other ≠ mappedKey := fun same => notLast _ isLast same.symm
        rw [if_neg different, lookUp_of_last isLast]
        exact lookUp_of_last isLast
      · have stillNotLast : (compose.remember mappedKey .consumed).NotLast other := otherNotLast
        split_ifs with same
        · rw [lookUp_of_notLast stillNotLast, consumedKeys,
            if_pos (List.mem_cons.mpr (.inl same))]
        · refine lookUp_congr stillNotLast otherNotLast ?_
          rw [consumedKeys, List.mem_cons, or_iff_right same]
  | composed keySym =>
    have none := alone keySym rfl
    refine ⟨⟨clean.once, ?_⟩, fun other => ?_⟩
    · rintro last ⟨⟩
      exact notConsumed
    · split_ifs with same
      · rw [same]
        exact lookUp_of_last rfl
      · have newNotLast : (compose.remember mappedKey (.composed keySym)).NotLast other := by
          rintro last ⟨⟩
          exact same
        have otherNotLast : compose.NotLast other := by
          intro last isLast
          rw [none] at isLast
          cases isLast
        exact lookUp_congr newNotLast otherNotLast Iff.rfl

theorem updateState_of_notLast (notLast : compose.NotLast mappedKey) {action : KeyboardAction}
    (notDown : action ≠ .down) :
    compose.updateState xkb mappedKey action = compose.settle mappedKey := by
  rw [updateState, if_neg notDown]
  unfold NotLast at notLast
  cases last : compose.lastComposedKey with
  | none => rfl
  | some key => exact if_neg (notLast key last)

/-- Once a key went up nothing is remembered of its symbol. -/
theorem clean_release (clean : compose.Clean) :
    (compose.updateState xkb mappedKey .up).1.Clean ∧
      ∀ other, (compose.updateState xkb mappedKey .up).1.lookUp other =
        if other = mappedKey then .plain else compose.lookUp other := by
  rcases compose.notLast_or mappedKey with ⟨keySym, isLast⟩ | notLast
  · have released : (compose.updateState xkb mappedKey .up).1 =
        { compose with lastComposedKey := none } := by
      rw [updateState, if_neg (by decide), isLast]
      dsimp only
      rw [if_pos rfl, if_pos rfl]
    rw [released]
    refine ⟨⟨clean.once, fun last isLast => by cases isLast⟩, fun other => ?_⟩
    have noneLast : NotLast { compose with lastComposedKey := none } other :=
      fun last isLast => by cases isLast
    split_ifs with same
    · rw [lookUp_of_notLast noneLast, if_neg (same ▸ clean.either _ isLast)]
    · refine lookUp_congr noneLast (fun last isOther => ?_) Iff.rfl
      rw [isLast] at isOther
      cases isOther
      exact same
  · have released : (compose.updateState xkb mappedKey .up).1 =
        { compose with consumedKeys := compose.consumedKeys.erase mappedKey } := by
      rw [updateState_of_notLast notLast (by decide), settle]
      split_ifs with consumed
      · rfl
      · rw [List.erase_of_not_mem consumed]
    rw [released]
    refine ⟨⟨clean.once.erase _, fun last isLast member => ?_⟩, fun other => ?_⟩
    · exact clean.either last isLast (List.mem_of_mem_erase member)
    · rcases compose.notLast_or other with ⟨keySym, isLast⟩ | otherNotLast
      · have different : other ≠ mappedKey := fun same => notLast _ isLast same.symm
        rw [if_neg different, lookUp_of_last isLast]
        exact lookUp_of_last isLast
      · have stillNotLast : NotLast { compose with
            consumedKeys := compose.consumedKeys.erase mappedKey } other := otherNotLast
        split_ifs with same
        · rw [lookUp_of_notLast stillNotLast, if_neg]
          exact fun member => (clean.once.mem_erase_iff.mp member).1 same
        · exact lookUp_congr stillNotLast otherNotLast (List.mem_erase_of_ne same)

/-- A repeat of a key that was not consumed changes nothing. -/
theorem updateState_repeat (notConsumed : compose.lookUp mappedKey ≠ .consumed) :
    (compose.updateState xkb mappedKey .repeat).1 = compose := by
  rcases compose.notLast_or mappedKey with ⟨keySym, isLast⟩ | notLast
  · rw [updateState, if_neg (by decide), isLast]
    dsimp only
    rw [if_pos rfl, if_neg (by decide)]
  · rw [updateState_of_notLast notLast (by decide), settle]
    split_ifs with consumed
    · exact absurd ((lookUp_of_notLast notLast).trans (if_pos consumed)) notConsumed
    · rfl

end ComposeState

/-! ### The events of one device -/

/-- A key that is down, with the symbol it had when it was pressed, what became of the press, and
the key code that was reported for it. -/
structure HeldKey where
  symbol : KeySym
  press : Press
  reported : KeySym
  deriving DecidableEq, Repr

/-- The key code reported for a repeat or a release, and the one that was reported for the press. -/
structure Answer where
  pressed : KeySym
  reported : KeySym
  deriving DecidableEq, Repr

/-- The mapper as the keys of one device are pressed, with the keys that are down. -/
structure Typing (Keymap State Compose : Type) where
  mapper : XKBMapper Keymap State Compose
  held : BitVec 32 → Option HeldKey
  answers : List Answer

def MapperEvent.keyCode : MapperEvent → KeySym
  | .key _ _ _ keyCode _ => keyCode
  | .other _ _ | .notInput => keyNoSymbol

namespace Typing

variable (xkb : Xkb Description Keymap State Compose) (id : DeviceID)

def symbolOf (typing : Typing Keymap State Compose) (scanCode : BitVec 32) : KeySym :=
  match typing.mapper.getKeymappingState xkb id with
  | some mapping => xkb.keyGetOneSym mapping.state (toXkbScanCode scanCode)
  | none => keyNoSymbol

/-- Without a compose table every press is a plain one. -/
def treat (typing : Typing Keymap State Compose) (symbol : KeySym) : Press :=
  match typing.mapper.getComposeState xkb id with
  | some compose => compose.treat xkb symbol
  | none => .plain

def lookUp (typing : Typing Keymap State Compose) (symbol : KeySym) : Press :=
  match typing.mapper.getComposeState xkb id with
  | some compose => compose.lookUp symbol
  | none => .plain

/-- A key event is mapped. -/
def step (typing : Typing Keymap State Compose) (stroke : Stroke) :
    Typing Keymap State Compose :=
  let mapped := typing.mapper.mapEvent xkb (.key id stroke.2 stroke.1 keyNoSymbol 0)
  let symbol := typing.symbolOf xkb id stroke.1
  let answered := typing.answers ++ (typing.held stroke.1).toList.map
    fun key => ⟨key.reported, mapped.2.keyCode⟩
  match stroke.2 with
  | .down =>
    { typing with
      mapper := mapped.1
      held := Function.update typing.held stroke.1
        (some ⟨symbol, typing.treat xkb id symbol, mapped.2.keyCode⟩) }
  | .repeat => { typing with mapper := mapped.1, answers := answered }
  | .up => ⟨mapped.1, Function.update typing.held stroke.1 none, answered⟩

/-- A key goes down when it is up, and one that is repeated or goes up is down and still has the
symbol that it was pressed with. -/
def Possible (typing : Typing Keymap State Compose) (stroke : Stroke) : Prop :=
  match stroke.2, typing.held stroke.1 with
  | .down, held => held = none
  | .repeat, some key | .up, some key => typing.symbolOf xkb id stroke.1 = key.symbol
  | .repeat, none | .up, none => False

/-- Whether what is remembered of the symbol of a key that is repeated or goes up is what became of
its press. -/
def Allowed (typing : Typing Keymap State Compose) (stroke : Stroke) : Prop :=
  stroke.2 ≠ .down → ∀ key ∈ typing.held stroke.1, typing.lookUp xkb id key.symbol = key.press

instance (typing : Typing Keymap State Compose) (stroke : Stroke) :
    Decidable (typing.Possible xkb id stroke) := by
  unfold Possible
  split <;> infer_instance

instance (typing : Typing Keymap State Compose) (stroke : Stroke) :
    Decidable (typing.Allowed xkb id stroke) :=
  inferInstanceAs (Decidable (_ → _))

/-! ### What an event does -/

variable {xkb id} {typing : Typing Keymap State Compose}

/-- To refresh the modifiers of the seat, or not to, leaves the devices as they are. -/
theorem states_of_refreshed (changed : Prop) [Decidable changed]
    (mapper : XKBMapper Keymap State Compose) :
    let refreshed := if changed then mapper.updateModifier else mapper
    refreshed.getKeymappingState xkb id = mapper.getKeymappingState xkb id ∧
      refreshed.getComposeState xkb id = mapper.getComposeState xkb id := by
  dsimp only
  split
  · exact ⟨rfl, rfl⟩
  · exact ⟨rfl, rfl⟩

theorem mapKey_states {mapper : XKBMapper Keymap State Compose} {action : KeyboardAction}
    {scanCode : BitVec 32} {mapping next : XkbMappingState Keymap State}
    {composed : Option (ComposeState Compose)} {keyCode : KeySym}
    (updated : mapping.updateState xkb (toXkbScanCode scanCode) action
      (mapper.getComposeState xkb id) = (next, composed, keyCode)) :
    let mapped := mapper.mapKey xkb id action scanCode mapping
    mapped.1.getKeymappingState xkb id = some next ∧
      mapped.1.getComposeState xkb id = composed.or (mapper.getComposeState xkb id) ∧
      mapped.2.keyCode = keyCode := by
  unfold XKBMapper.mapKey
  rw [updated]
  dsimp only
  rw [(states_of_refreshed _ _).1, (states_of_refreshed _ _).2]
  refine ⟨?_, ?_, rfl⟩
  · have found : (mapper.setMapping id next).getKeymappingState xkb id = some next := by
      rw [XKBMapper.getKeymappingState, XKBMapper.setMapping, OrderedMap.find_set, if_pos rfl]
      rfl
    cases composed with
    | none => exact found
    | some compose => exact found
  · cases composed with
    | none => rfl
    | some compose =>
      dsimp only
      rw [XKBMapper.getComposeState, OrderedMap.find_set, if_pos rfl]
      rfl

/-- What an event leaves of the state of the device, and the key code that it is reported with. -/
theorem mapEvent_key (hasKeymap : (typing.mapper.getKeymappingState xkb id).isSome = true)
    (action : KeyboardAction) (scanCode : BitVec 32) :
    let mapped := typing.mapper.mapEvent xkb (.key id action scanCode keyNoSymbol 0)
    let symbol := typing.symbolOf xkb id scanCode
    (mapped.1.getKeymappingState xkb id).isSome = true ∧
      match typing.mapper.getComposeState xkb id with
      | some compose =>
        mapped.1.getComposeState xkb id = some (compose.updateState xkb symbol action).1 ∧
          mapped.2.keyCode = (compose.updateState xkb symbol action).2
      | none => mapped.1.getComposeState xkb id = none ∧ mapped.2.keyCode = symbol := by
  obtain ⟨mapping, found⟩ := Option.isSome_iff_exists.mp hasKeymap
  have mapped : typing.mapper.mapEvent xkb (.key id action scanCode keyNoSymbol 0) =
      typing.mapper.mapKey xkb id action scanCode mapping := by
    unfold XKBMapper.mapEvent
    simp only [found]
  have symbol : typing.symbolOf xkb id scanCode =
      xkb.keyGetOneSym mapping.state (toXkbScanCode scanCode) := by
    unfold symbolOf
    rw [found]
  rw [mapped, symbol]
  have states := @mapKey_states _ _ _ _ xkb id typing.mapper action scanCode mapping _ _ _ rfl
  refine ⟨Option.isSome_iff_exists.mpr ⟨_, states.1⟩, ?_⟩
  cases composing : typing.mapper.getComposeState xkb id with
  | none =>
    rw [composing] at states
    exact states.2
  | some compose =>
    rw [composing] at states
    exact states.2

/-- A press is reported as what becomes of it. -/
theorem mapEvent_down (hasKeymap : (typing.mapper.getKeymappingState xkb id).isSome = true)
    (scanCode : BitVec 32) :
    let symbol := typing.symbolOf xkb id scanCode
    (typing.mapper.mapEvent xkb (.key id .down scanCode keyNoSymbol 0)).2.keyCode =
      (typing.treat xkb id symbol).keyCode symbol := by
  have mapped := (mapEvent_key hasKeymap .down scanCode).2
  unfold treat
  cases composing : typing.mapper.getComposeState xkb id with
  | none =>
    rw [composing] at mapped
    exact mapped.2
  | some compose =>
    rw [composing] at mapped
    refine mapped.2.trans ?_
    rw [ComposeState.updateState, if_pos rfl, ComposeState.feed_eq]

/-- A repeat or a release is reported as what is remembered of its symbol. -/
theorem mapEvent_notDown (hasKeymap : (typing.mapper.getKeymappingState xkb id).isSome = true)
    {action : KeyboardAction} (notDown : action ≠ .down) (scanCode : BitVec 32) :
    let symbol := typing.symbolOf xkb id scanCode
    (typing.mapper.mapEvent xkb (.key id action scanCode keyNoSymbol 0)).2.keyCode =
      (typing.lookUp xkb id symbol).keyCode symbol := by
  have mapped := (mapEvent_key hasKeymap action scanCode).2
  unfold lookUp
  cases composing : typing.mapper.getComposeState xkb id with
  | none =>
    rw [composing] at mapped
    exact mapped.2
  | some compose =>
    rw [composing] at mapped
    exact mapped.2.trans (compose.updateState_keyCode _ notDown)

/-! ### Runs -/

/-- The device has a keymap, and every key that is down was reported as what became of its press. -/
structure Reported (xkb : Xkb Description Keymap State Compose) (id : DeviceID)
    (typing : Typing Keymap State Compose) : Prop where
  hasKeymap : (typing.mapper.getKeymappingState xkb id).isSome = true
  held : ∀ scanCode, ∀ key ∈ typing.held scanCode, key.reported = key.press.keyCode key.symbol

theorem Reported.step (reported : Reported xkb id typing) (stroke : Stroke) :
    Reported xkb id (typing.step xkb id stroke) := by
  obtain ⟨scanCode, action⟩ := stroke
  have hasKeymap := (mapEvent_key reported.hasKeymap action scanCode).1
  cases action with
  | down =>
    refine ⟨hasKeymap, fun other key isHeld => ?_⟩
    simp only [Typing.step] at isHeld
    by_cases same : other = scanCode
    · rw [same, Function.update_self] at isHeld
      cases isHeld
      exact mapEvent_down reported.hasKeymap scanCode
    · rw [Function.update_of_ne same] at isHeld
      exact reported.held other key isHeld
  | «repeat» => exact ⟨hasKeymap, reported.held⟩
  | up =>
    refine ⟨hasKeymap, fun other key isHeld => ?_⟩
    simp only [Typing.step] at isHeld
    by_cases same : other = scanCode
    · rw [same, Function.update_self] at isHeld
      cases isHeld
    · rw [Function.update_of_ne same] at isHeld
      exact reported.held other key isHeld

/-- Every repeat and release was reported as the press was. -/
def Agrees (typing : Typing Keymap State Compose) : Prop :=
  ∀ answer ∈ typing.answers, answer.reported = answer.pressed

theorem Agrees.step (agrees : Agrees typing) (reported : Reported xkb id typing)
    {stroke : Stroke} (possible : typing.Possible xkb id stroke)
    (allowed : typing.Allowed xkb id stroke) : Agrees (typing.step xkb id stroke) := by
  obtain ⟨scanCode, action⟩ := stroke
  by_cases down : action = .down
  · subst down
    exact agrees
  have answered : (typing.step xkb id (scanCode, action)).answers =
      typing.answers ++ (typing.held scanCode).toList.map fun key => ⟨key.reported,
        (typing.mapper.mapEvent xkb (.key id action scanCode keyNoSymbol 0)).2.keyCode⟩ := by
    cases action with
    | down => exact absurd rfl down
    | «repeat» => rfl
    | up => rfl
  intro answer member
  rw [answered] at member
  rcases List.mem_append.mp member with old | new
  · exact agrees answer old
  · obtain ⟨key, isHeld, rfl⟩ := List.mem_map.mp new
    rw [Option.mem_toList] at isHeld
    have sameSymbol : typing.symbolOf xkb id scanCode = key.symbol := by
      unfold Possible at possible
      rw [show typing.held (scanCode, action).1 = some key from isHeld] at possible
      cases action with
      | down => exact absurd rfl down
      | «repeat» => exact possible
      | up => exact possible
    have remembered := allowed down key isHeld
    show (typing.mapper.mapEvent xkb _).2.keyCode = key.reported
    rw [mapEvent_notDown reported.hasKeymap down, sameSymbol, remembered,
      reported.held scanCode key isHeld]

/-- Repeats and releases are reported as the presses, as long as what is remembered of a symbol is
what became of the press. -/
theorem reports_presses (typing : Typing Keymap State Compose) (strokes : List Stroke)
    (hasKeymap : (typing.mapper.getKeymappingState xkb id).isSome = true)
    (noneHeld : ∀ scanCode, typing.held scanCode = none) (noAnswers : typing.answers = [])
    (possible : Transition.AllowedAlong (Typing.step xkb id) (Possible xkb id) typing strokes)
    (allowed : Transition.AllowedAlong (Typing.step xkb id) (Allowed xkb id) typing strokes) :
    Agrees (strokes.foldl (Typing.step xkb id) typing) := by
  have reported : Reported xkb id typing := by
    refine ⟨hasKeymap, fun scanCode key isHeld => ?_⟩
    rw [noneHeld scanCode] at isHeld
    cases isHeld
  have agrees : Agrees typing := by
    unfold Agrees
    rw [noAnswers]
    exact fun answer member => by cases member
  clear hasKeymap noneHeld noAnswers
  induction strokes generalizing typing with
  | nil => exact agrees
  | cons stroke rest inductionHypothesis =>
    exact inductionHypothesis _ possible.2 allowed.2 (reported.step stroke)
      (agrees.step reported possible.1 allowed.1)

/-! ### Keys that do not come in each other's way -/

/-- No key is pressed while another one with its symbol is down, no sequence is completed while a
key is down that completed one, and a key that was consumed is not repeated. -/
def Separate (xkb : Xkb Description Keymap State Compose) (id : DeviceID)
    (typing : Typing Keymap State Compose) (stroke : Stroke) : Prop :=
  match stroke.2 with
  | .down => ∀ scanCode, ∀ key ∈ typing.held scanCode,
      key.symbol ≠ typing.symbolOf xkb id stroke.1 ∧
        ∀ keySym other, typing.treat xkb id (typing.symbolOf xkb id stroke.1) = .composed keySym →
          key.press ≠ .composed other
  | .repeat => ∀ key ∈ typing.held stroke.1, key.press ≠ .consumed
  | .up => True

/-- What is remembered is what became of the presses of the keys that are down. -/
structure Remembers (xkb : Xkb Description Keymap State Compose) (id : DeviceID)
    (typing : Typing Keymap State Compose) : Prop where
  clean : ∀ compose, typing.mapper.getComposeState xkb id = some compose → compose.Clean
  held : ∀ scanCode, ∀ key ∈ typing.held scanCode, typing.lookUp xkb id key.symbol = key.press
  apart : ∀ first second, ∀ key ∈ typing.held first, ∀ other ∈ typing.held second,
    key.symbol = other.symbol → first = second
  known : ∀ symbol, typing.lookUp xkb id symbol ≠ .plain →
    ∃ scanCode, ∃ key ∈ typing.held scanCode, key.symbol = symbol

section Memory

variable (reported : Reported xkb id typing)
  (clean : ∀ compose, typing.mapper.getComposeState xkb id = some compose → compose.Clean)
  (scanCode : BitVec 32)

include reported clean

theorem memory_down
    (new : typing.lookUp xkb id (typing.symbolOf xkb id scanCode) = .plain)
    (alone : ∀ keySym compose,
      typing.treat xkb id (typing.symbolOf xkb id scanCode) = .composed keySym →
      typing.mapper.getComposeState xkb id = some compose → compose.lastComposedKey = none) :
    let next := typing.step xkb id (scanCode, .down)
    (∀ compose, next.mapper.getComposeState xkb id = some compose → compose.Clean) ∧
      ∀ symbol, next.lookUp xkb id symbol =
        if symbol = typing.symbolOf xkb id scanCode then typing.treat xkb id symbol
        else typing.lookUp xkb id symbol := by
  have mapped := (mapEvent_key reported.hasKeymap .down scanCode).2
  unfold treat lookUp at *
  cases composing : typing.mapper.getComposeState xkb id with
  | none =>
    rw [composing] at mapped
    refine ⟨fun compose found => ?_, fun symbol => ?_⟩
    · cases mapped.1.symm.trans found
    · simp only [step, mapped.1]
      split_ifs <;> rfl
  | some compose =>
    rw [composing] at mapped new alone
    have fed : (compose.updateState xkb (typing.symbolOf xkb id scanCode) .down).1 =
        { compose.remember (typing.symbolOf xkb id scanCode)
            (compose.treat xkb (typing.symbolOf xkb id scanCode)) with
          state := (xkb.composeFeed compose.state (typing.symbolOf xkb id scanCode)).2 } := by
      rw [ComposeState.updateState, if_pos rfl, ComposeState.feed_eq]
    obtain ⟨isClean, lookUps⟩ := ComposeState.clean_remember (clean compose composing) new
      (compose.treat xkb (typing.symbolOf xkb id scanCode))
      fun keySym composed => alone keySym compose composed rfl
    refine ⟨fun next found => ?_, fun symbol => ?_⟩
    · obtain rfl := Option.some.inj (mapped.1.symm.trans found)
      rw [fed]
      exact ⟨isClean.once, isClean.either⟩
    · simp only [step, mapped.1, fed]
      refine (lookUps symbol).trans ?_
      split_ifs with same
      · rw [same]
      · rfl

theorem memory_up :
    let next := typing.step xkb id (scanCode, .up)
    (∀ compose, next.mapper.getComposeState xkb id = some compose → compose.Clean) ∧
      ∀ symbol, next.lookUp xkb id symbol =
        if symbol = typing.symbolOf xkb id scanCode then .plain
        else typing.lookUp xkb id symbol := by
  have mapped := (mapEvent_key reported.hasKeymap .up scanCode).2
  unfold lookUp
  cases composing : typing.mapper.getComposeState xkb id with
  | none =>
    rw [composing] at mapped
    refine ⟨fun compose found => ?_, fun symbol => ?_⟩
    · cases mapped.1.symm.trans found
    · simp only [step, mapped.1]
      split_ifs <;> rfl
  | some compose =>
    rw [composing] at mapped
    obtain ⟨isClean, lookUps⟩ := @ComposeState.clean_release _ _ _ _ xkb compose
      (typing.symbolOf xkb id scanCode) (clean compose composing)
    refine ⟨fun next found => ?_, fun symbol => ?_⟩
    · obtain rfl := Option.some.inj (mapped.1.symm.trans found)
      exact isClean
    · simp only [step, mapped.1]
      exact lookUps symbol

omit clean in
theorem memory_repeat
    (notConsumed : typing.lookUp xkb id (typing.symbolOf xkb id scanCode) ≠ .consumed) :
    (typing.step xkb id (scanCode, .repeat)).mapper.getComposeState xkb id =
      typing.mapper.getComposeState xkb id := by
  have mapped := (mapEvent_key reported.hasKeymap .repeat scanCode).2
  unfold lookUp at notConsumed
  cases composing : typing.mapper.getComposeState xkb id with
  | none =>
    rw [composing] at mapped
    exact mapped.1
  | some compose =>
    rw [composing] at mapped notConsumed
    exact mapped.1.trans (congrArg some (ComposeState.updateState_repeat notConsumed))

end Memory

theorem Remembers.allowed (remembers : Remembers xkb id typing) (stroke : Stroke) :
    typing.Allowed xkb id stroke :=
  fun _ key isHeld => remembers.held stroke.1 key isHeld

theorem Remembers.down (remembers : Remembers xkb id typing) (reported : Reported xkb id typing)
    {scanCode : BitVec 32} (isUp : typing.held scanCode = none)
    (separate : typing.Separate xkb id (scanCode, .down)) :
    Remembers xkb id (typing.step xkb id (scanCode, .down)) := by
  have new : typing.lookUp xkb id (typing.symbolOf xkb id scanCode) = .plain := by
    by_contra notPlain
    obtain ⟨other, key, isHeld, same⟩ := remembers.known _ notPlain
    exact (separate other key isHeld).1 same
  have alone : ∀ keySym compose,
      typing.treat xkb id (typing.symbolOf xkb id scanCode) = .composed keySym →
      typing.mapper.getComposeState xkb id = some compose → compose.lastComposedKey = none := by
    intro keySym compose composed composing
    cases last : compose.lastComposedKey with
    | none => rfl
    | some lastKey =>
      have lookUped : typing.lookUp xkb id lastKey.1 = .composed lastKey.2 := by
        unfold lookUp
        rw [composing]
        exact ComposeState.lookUp_of_last last
      obtain ⟨other, key, isHeld, same⟩ :=
        remembers.known lastKey.1 (by rw [lookUped]; exact Press.noConfusion)
      have press := (remembers.held other key isHeld).symm.trans (same ▸ lookUped)
      exact absurd press ((separate other key isHeld).2 keySym _ composed)
  obtain ⟨clean, lookUps⟩ := memory_down reported remembers.clean scanCode new alone
  have heldAt (other : BitVec 32) (key : HeldKey)
      (isHeld : key ∈ (typing.step xkb id (scanCode, .down)).held other) :
      other = scanCode ∧ key.symbol = typing.symbolOf xkb id scanCode ∧
          key.press = typing.treat xkb id (typing.symbolOf xkb id scanCode) ∨
        key ∈ typing.held other ∧ key.symbol ≠ typing.symbolOf xkb id scanCode := by
    simp only [step] at isHeld
    by_cases same : other = scanCode
    · rw [same, Function.update_self] at isHeld
      cases isHeld
      exact .inl ⟨same, rfl, rfl⟩
    · rw [Function.update_of_ne same] at isHeld
      exact .inr ⟨isHeld, (separate other key isHeld).1⟩
  refine ⟨clean, fun other key isHeld => ?_, ?_, fun symbol notPlain => ?_⟩
  · rw [lookUps]
    rcases heldAt other key isHeld with ⟨-, symbol, press⟩ | ⟨before, different⟩
    · rw [if_pos symbol, symbol, press]
    · rw [if_neg different, remembers.held other key before]
  · intro first second key isHeld other isOther sameSymbol
    rcases heldAt first key isHeld with ⟨rfl, symbol, -⟩ | ⟨before, different⟩
    · rcases heldAt second other isOther with ⟨rfl, -, -⟩ | ⟨-, otherDifferent⟩
      · rfl
      · exact absurd (sameSymbol.symm.trans symbol) otherDifferent
    · rcases heldAt second other isOther with ⟨rfl, symbol, -⟩ | ⟨otherBefore, -⟩
      · exact absurd (sameSymbol.trans symbol) different
      · exact remembers.apart first second key before other otherBefore sameSymbol
  · rw [lookUps] at notPlain
    split_ifs at notPlain with same
    · have isHeld : (typing.step xkb id (scanCode, .down)).held scanCode = some _ :=
        Function.update_self ..
      exact ⟨scanCode, _, isHeld, same.symm⟩
    · obtain ⟨other, key, isHeld, rfl⟩ := remembers.known symbol notPlain
      refine ⟨other, key, ?_, rfl⟩
      have different : other ≠ scanCode := by
        rintro rfl
        rw [isUp] at isHeld
        cases isHeld
      simp only [step]
      rw [Function.update_of_ne different]
      exact isHeld

theorem Remembers.up (remembers : Remembers xkb id typing) (reported : Reported xkb id typing)
    {scanCode : BitVec 32} (possible : typing.Possible xkb id (scanCode, .up)) :
    Remembers xkb id (typing.step xkb id (scanCode, .up)) := by
  obtain ⟨clean, lookUps⟩ := memory_up reported remembers.clean scanCode
  obtain ⟨released, isReleased, symbol⟩ : ∃ key ∈ typing.held scanCode,
      typing.symbolOf xkb id scanCode = key.symbol := by
    unfold Possible at possible
    cases isHeld : typing.held scanCode with
    | none =>
      simp only [isHeld] at possible
    | some key =>
      simp only [isHeld] at possible
      exact ⟨key, rfl, possible⟩
  have heldAt (other : BitVec 32) (key : HeldKey) :
      key ∈ (typing.step xkb id (scanCode, .up)).held other ↔
        other ≠ scanCode ∧ key ∈ typing.held other := by
    simp only [step]
    by_cases same : other = scanCode
    · rw [same, Function.update_self]
      exact iff_of_false (fun isHeld => by cases isHeld) fun both => both.1 rfl
    · rw [Function.update_of_ne same]
      exact (and_iff_right same).symm
  refine ⟨clean, fun other key isHeld => ?_, ?_, fun other notPlain => ?_⟩
  · obtain ⟨different, before⟩ := (heldAt other key).mp isHeld
    rw [lookUps, if_neg, remembers.held other key before]
    intro same
    exact different (remembers.apart other scanCode key before released isReleased
      (same.trans symbol))
  · intro first second key isHeld other isOther
    exact remembers.apart first second key ((heldAt _ _).mp isHeld).2 other
      ((heldAt _ _).mp isOther).2
  · rw [lookUps] at notPlain
    split_ifs at notPlain with same
    · exact absurd rfl notPlain
    · obtain ⟨holder, key, isHeld, rfl⟩ := remembers.known other notPlain
      refine ⟨holder, key, (heldAt _ _).mpr ⟨?_, isHeld⟩, rfl⟩
      rintro rfl
      rw [Option.mem_unique isHeld isReleased] at same
      exact same symbol.symm

theorem Remembers.repeat (remembers : Remembers xkb id typing)
    (reported : Reported xkb id typing) {scanCode : BitVec 32}
    (possible : typing.Possible xkb id (scanCode, .repeat))
    (separate : typing.Separate xkb id (scanCode, .repeat)) :
    Remembers xkb id (typing.step xkb id (scanCode, .repeat)) := by
  have notConsumed : typing.lookUp xkb id (typing.symbolOf xkb id scanCode) ≠ .consumed := by
    unfold Possible at possible
    cases isHeld : typing.held scanCode with
    | none =>
      simp only [isHeld] at possible
    | some key =>
      simp only [isHeld] at possible
      rw [possible, remembers.held scanCode key isHeld]
      exact separate key isHeld
  have same := memory_repeat reported scanCode notConsumed
  have lookUps (symbol : KeySym) : (typing.step xkb id (scanCode, .repeat)).lookUp xkb id symbol =
      typing.lookUp xkb id symbol := by
    unfold lookUp
    rw [same]
  refine ⟨fun compose found => remembers.clean compose (same.symm.trans found),
    fun other key isHeld => (lookUps _).trans (remembers.held other key isHeld),
    remembers.apart, fun symbol notPlain => remembers.known symbol ?_⟩
  rwa [lookUps] at notPlain

/-- Nothing is forgotten too early in a run of keys that do not come in each other's way. -/
theorem agrees_of_separate (typing : Typing Keymap State Compose) (strokes : List Stroke)
    (reported : Reported xkb id typing) (remembers : Remembers xkb id typing)
    (agrees : typing.Agrees)
    (possible : Transition.AllowedAlong (Typing.step xkb id) (Possible xkb id) typing strokes)
    (separate : Transition.AllowedAlong (Typing.step xkb id) (Separate xkb id) typing strokes) :
    Agrees (strokes.foldl (Typing.step xkb id) typing) := by
  induction strokes generalizing typing with
  | nil => exact agrees
  | cons stroke rest inductionHypothesis =>
    refine inductionHypothesis _ (reported.step stroke) ?_
      (agrees.step reported possible.1 (remembers.allowed stroke)) possible.2 separate.2
    obtain ⟨scanCode, action⟩ := stroke
    cases action with
    | down => exact remembers.down reported possible.1 separate.1
    | «repeat» => exact remembers.repeat reported possible.1 separate.1
    | up => exact remembers.up reported possible.1

/-- The mapper has just been told the keymap of the device. -/
def fresh (xkb : Xkb Description Keymap State Compose) (id : DeviceID)
    (description : Description) : Typing Keymap State Compose :=
  ⟨XKBMapper.new.setKeymapForDevice xkb id description, fun _ => none, []⟩

end Typing

/-! ### A table with accents -/

namespace Accents

/-- A dead key may be followed by one of two letters. -/
inductive Sequence
  | idle
  | pending
  | done (keySym : KeySym)
  | broken
  deriving DecidableEq

def deadAcute : KeySym := 0xfe51

def feed : Sequence → KeySym → Sequence
  | .pending, symbol =>
    if symbol = 0x61 then .done 0xe1 else if symbol = 0x65 then .done 0xe9 else .broken
  | _, symbol => if symbol = deadAcute then .pending else .idle

/-- Three keys, the dead one and those of the two letters. -/
def xkb : Xkb Unit Unit Unit Sequence where
  compile _ := some ()
  newState _ := ()
  keyGetOneSym _ scanCode :=
    if scanCode = toXkbScanCode 40 then deadAcute
    else if scanCode = toXkbScanCode 30 then 0x61
    else 0x65
  updateKey _ _ _ := ()
  composeStateNew := some .idle
  composeFeed sequence symbol := (true, feed sequence symbol)
  composeGetStatus
    | .idle => .nothing
    | .pending => .composing
    | .done _ => .composed
    | .broken => .cancelled
  composeGetOneSym
    | .done keySym => keySym
    | _ => keyNoSymbol

def typing : Typing Unit Unit Sequence := .fresh xkb 1 ()

/-- One letter with an accent, repeated once. -/
theorem accented_letter_agrees :
    ([(40, .down), (40, .up), (18, .down), (18, .repeat), (18, .up)].foldl (Typing.step xkb 1)
      typing).Agrees :=
  Typing.reports_presses typing _ (by decide) (fun _ => rfl) rfl (by decide) (by decide)

/-- A dead key that is repeated is reported when it goes up, and so is a letter that went down with
an accent before another one did. -/
theorem accents_come_off :
    (¬ ∀ (Description Keymap State Compose : Type) (xkb : Xkb Description Keymap State Compose)
      (id : DeviceID) (typing : Typing Keymap State Compose) (strokes : List Stroke),
      (typing.mapper.getKeymappingState xkb id).isSome = true →
      (∀ scanCode, typing.held scanCode = none) → typing.answers = [] →
      Transition.AllowedAlong (Typing.step xkb id) (Typing.Possible xkb id) typing strokes →
        (strokes.foldl (Typing.step xkb id) typing).Agrees) ∧
    ([(40, .down), (40, .repeat), (40, .up)].foldl (Typing.step xkb 1) typing).answers =
      [⟨keyNoSymbol, keyNoSymbol⟩, ⟨keyNoSymbol, deadAcute⟩] ∧
    ([(40, .down), (40, .up), (18, .down), (40, .down), (40, .up), (30, .down),
        (18, .up)].foldl (Typing.step xkb 1) typing).answers.getLast? =
      some ⟨0xe9, 0x65⟩ := by
  refine ⟨fun claimed => ?_, by decide, by decide⟩
  have agrees := claimed Unit Unit Unit Sequence xkb 1 typing
    [(40, .down), (40, .repeat), (40, .up)] (by decide) (fun _ => rfl) rfl (by decide)
  exact absurd (agrees ⟨keyNoSymbol, deadAcute⟩ (by decide)) (by decide)

end Accents

end Mir.Input

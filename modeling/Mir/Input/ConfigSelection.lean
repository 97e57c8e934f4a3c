/-
This file proves when the devices have the settings of the focused session's configuration, or of
the base configuration if it has none. A configuration that is refused half way leaves the devices
after it as they are, and the flag as it was; a new base configuration is applied whatever session
is focused; and nothing is applied when the focused session goes.
-/

import Mir.Input.ConfigChanger

namespace Mir.Input

open Transition

/-! ### Settings -/

/-- The device has the settings of an entry, of those that it can have. -/
structure Device.Has (device : Device) (entry : DeviceConfig) : Prop where
  pointer : ∀ conf ∈ entry.pointer, ∀ current ∈ device.pointer, current = conf
  touchpad : ∀ conf ∈ entry.touchpad, ∀ current ∈ device.touchpad, current = conf
  keyboard : ∀ conf ∈ entry.keyboard, ∀ current ∈ device.keyboard, current = conf

/-- The settings of an entry are valid, of those that the device can have. -/
structure DeviceConfig.Valid (compiles : Keymap → Bool) (entry : DeviceConfig) (device : Device) :
    Prop where
  pointer : ∀ conf ∈ entry.pointer, device.pointer.isSome = true → conf.outOfRange = false
  touchpad : ∀ conf ∈ entry.touchpad, device.touchpad.isSome = true →
    conf.lacksScrollButton = false
  keyboard : ∀ conf ∈ entry.keyboard, device.keyboard.isSome = true →
    compiles conf.deviceKeymap = true

/-- The device takes the settings of an entry: they are valid, and a keymap that is new is not for a
device that is disabled. -/
structure Device.Takes (compiles : Keymap → Bool) (device : Device) (entry : DeviceConfig) :
    Prop where
  pointer : ∀ conf ∈ entry.pointer, device.pointer.isSome = true → conf.outOfRange = false
  touchpad : ∀ conf ∈ entry.touchpad, device.touchpad.isSome = true →
    conf.lacksScrollButton = false
  keyboard : ∀ conf ∈ entry.keyboard, ∀ current ∈ device.keyboard,
    current.deviceKeymap = conf.deviceKeymap ∨
      (device.enabled = true ∧ compiles conf.deviceKeymap = true)

/-- The device has the settings of its entry, if there is one. -/
def Device.Follows (device : Device) (config : InputConfig) : Prop :=
  ∀ entry ∈ config.getDeviceConfigById device.id, device.Has entry

/-! ### Applying a configuration -/

section Applying

variable {compiles : Keymap → Bool} {device : Device}

/-- A part of the settings that is stored whenever the device has that part. -/
theorem applyIfSet_of_stores {Config : Type} (conf current : Option Config)
    {apply : Config → Device × Option ApplyError} (store : Option Config → Device)
    (same : store current = device)
    (stores : ∀ new ∈ conf, ∀ old ∈ current, apply new = (store (some new), none)) :
    ∃ settings, device.applyIfSet conf current apply = (store settings, none) ∧
      ∀ new ∈ conf, ∀ kept ∈ settings, kept = new := by
  cases conf with
  | none => exact ⟨current, by rw [same]; rfl, nofun⟩
  | some new =>
    cases current with
    | none => exact ⟨none, by rw [same]; rfl, nofun⟩
    | some old =>
      refine ⟨some new, stores new rfl old rfl, fun other isOther kept isKept => ?_⟩
      cases isOther
      cases isKept
      rfl

theorem applyPointerConfiguration_of_inRange {new old : PointerConfig}
    (known : device.pointer = some old) (inRange : new.outOfRange = false) :
    device.applyPointerConfiguration new = ({ device with pointer := some new }, none) := by
  unfold Device.applyPointerConfiguration
  rw [known]
  exact if_neg (by rw [inRange]; exact Bool.false_ne_true)

theorem applyTouchpadConfiguration_of_hasButton {new old : TouchpadConfig}
    (known : device.touchpad = some old) (hasButton : new.lacksScrollButton = false) :
    device.applyTouchpadConfiguration new = ({ device with touchpad := some new }, none) := by
  unfold Device.applyTouchpadConfiguration
  rw [known]
  exact if_neg (by rw [hasButton]; exact Bool.false_ne_true)

theorem applyKeyboardConfiguration_of_takes {new old : KeyboardConfig}
    (known : device.keyboard = some old)
    (takes : old.deviceKeymap = new.deviceKeymap ∨
      (device.enabled = true ∧ compiles new.deviceKeymap = true)) :
    device.applyKeyboardConfiguration compiles new =
      ({ device with keyboard := some new }, none) := by
  unfold Device.applyKeyboardConfiguration
  rw [known]
  by_cases same : old.deviceKeymap = new.deviceKeymap
  · have isOld : new = old := congrArg KeyboardConfig.mk same.symm
    refine (if_pos (Or.inr same)).trans ?_
    rw [isOld, ← known]
  · obtain ⟨enabled, compiled⟩ := takes.resolve_left same
    have notKept : ¬ (device.enabled = false ∨ old.deviceKeymap = new.deviceKeymap) := by
      rintro (disabled | other)
      · exact absurd (enabled.symm.trans disabled) nofun
      · exact same other
    refine (if_neg notKept).trans ?_
    rw [if_pos compiled]

/-- A device that takes the settings of its entry has them afterwards. -/
theorem applyDeviceConfig_of_takes {entry : DeviceConfig} (takes : device.Takes compiles entry) :
    ∃ applied, device.applyDeviceConfig compiles (some entry) = (applied, none) ∧
      applied.id = device.id ∧ applied.Has entry := by
  obtain ⟨pointer, pointerApplied, hasPointer⟩ := applyIfSet_of_stores entry.pointer device.pointer
    (fun pointer => { device with pointer := pointer }) rfl fun new isNew old known =>
      applyPointerConfiguration_of_inRange known (takes.pointer new isNew (by rw [known]; rfl))
  let pointed := { device with pointer := pointer }
  obtain ⟨touchpad, touchpadApplied, hasTouchpad⟩ :=
    applyIfSet_of_stores entry.touchpad pointed.touchpad
      (fun touchpad => { pointed with touchpad := touchpad }) rfl fun new isNew old known =>
        applyTouchpadConfiguration_of_hasButton known
          (takes.touchpad new isNew (by rw [known]; rfl))
  let touched := { pointed with touchpad := touchpad }
  obtain ⟨keyboard, keyboardApplied, hasKeyboard⟩ :=
    applyIfSet_of_stores entry.keyboard touched.keyboard
      (fun keyboard => { touched with keyboard := keyboard }) rfl fun new isNew old known =>
        applyKeyboardConfiguration_of_takes known (takes.keyboard new isNew old known)
  refine ⟨{ touched with keyboard := keyboard }, ?_, rfl, ⟨hasPointer, hasTouchpad, hasKeyboard⟩⟩
  dsimp only [Device.applyDeviceConfig]
  rw [pointerApplied]
  dsimp only [Device.andThen]
  rw [touchpadApplied]
  exact keyboardApplied

/-- Every device takes the settings of its entry. -/
def AllTake (compiles : Keymap → Bool) (devices : List Device) (config : InputConfig) : Prop :=
  ∀ device ∈ devices, ∀ entry ∈ config.getDeviceConfigById device.id, device.Takes compiles entry

theorem applyDeviceConfig_follows {config : InputConfig}
    (takes : ∀ entry ∈ config.getDeviceConfigById device.id, device.Takes compiles entry) :
    ∃ applied, device.applyDeviceConfig compiles (config.getDeviceConfigById device.id) =
        (applied, none) ∧ applied.id = device.id ∧ applied.Follows config := by
  cases found : config.getDeviceConfigById device.id with
  | none =>
    refine ⟨device, rfl, rfl, fun entry isEntry => ?_⟩
    exact absurd (found.symm.trans isEntry) nofun
  | some entry =>
    obtain ⟨applied, result, same, has⟩ := applyDeviceConfig_of_takes (takes entry found)
    refine ⟨applied, result, same, fun other isOther => ?_⟩
    rw [same, found] at isOther
    cases isOther
    exact has

/-- Where all devices take their settings nothing is thrown, and all have them afterwards. -/
theorem applyToDevices_of_allTake {devices : List Device} {config : InputConfig}
    (takes : AllTake compiles devices config) :
    ∃ applied, applyToDevices compiles config devices = (applied, none) ∧
      applied.map Device.id = devices.map Device.id ∧
      ∀ device ∈ applied, device.Follows config := by
  induction devices with
  | nil => exact ⟨[], rfl, rfl, fun _ member => absurd member List.not_mem_nil⟩
  | cons head rest inductionHypothesis =>
    obtain ⟨first, firstApplied, firstSame, firstFollows⟩ :=
      applyDeviceConfig_follows (takes head List.mem_cons_self)
    obtain ⟨others, othersApplied, othersSame, othersFollow⟩ :=
      inductionHypothesis fun device member => takes device (List.mem_cons_of_mem _ member)
    refine ⟨first :: others, ?_, ?_, fun device member => ?_⟩
    · unfold applyToDevices
      rw [firstApplied, othersApplied]
    · rw [List.map_cons, List.map_cons, firstSame, othersSame]
    · rcases List.mem_cons.mp member with rfl | inOthers
      · exact firstFollows
      · exact othersFollow device inOthers

end Applying

/-! ### Entries that come and go -/

section Entries

variable {config : InputConfig} {id : DeviceID}

theorem getDeviceConfigById_removeDeviceById (gone : DeviceID) :
    (config.removeDeviceById gone).getDeviceConfigById id =
      if id = gone then none else config.getDeviceConfigById id := by
  unfold InputConfig.removeDeviceById InputConfig.getDeviceConfigById
  rw [List.find?_filter]
  split_ifs with same
  · refine List.find?_eq_none.mpr fun conf _ both => ?_
    grind
  · congr 1
    funext conf
    grind

theorem getDeviceConfigById_removed (removed : List DeviceID) :
    InputConfig.getDeviceConfigById (removed.foldl InputConfig.removeDeviceById config) id =
      if id ∈ removed then none else config.getDeviceConfigById id := by
  induction removed generalizing config with
  | nil => exact (if_neg List.not_mem_nil).symm
  | cons first rest inductionHypothesis =>
    rw [List.foldl_cons, inductionHypothesis, getDeviceConfigById_removeDeviceById]
    by_cases inRest : id ∈ rest
    · rw [if_pos inRest, if_pos (List.mem_cons_of_mem _ inRest)]
    · rw [if_neg inRest]
      simp only [List.mem_cons, inRest, or_false]

theorem foldl_addDeviceConfig (confs : List DeviceConfig) :
    confs.foldl InputConfig.addDeviceConfig config = config ++ confs := by
  induction confs generalizing config with
  | nil => exact (List.append_nil config).symm
  | cons first rest inductionHypothesis =>
    rw [List.foldl_cons, inductionHypothesis]
    exact List.append_assoc config [first] rest

theorem getDeviceConfigById_updated (added : List Device) (removed : List DeviceID) :
    (ConfigChanger.updated added removed config).getDeviceConfigById id =
      (InputConfig.getDeviceConfigById
        (removed.foldl InputConfig.removeDeviceById config) id).or
      (InputConfig.getDeviceConfigById (added.map Device.getDeviceConfig) id) := by
  unfold ConfigChanger.updated
  rw [foldl_addDeviceConfig]
  exact List.find?_append

theorem id_of_mem_numbered {added : List Device} {lastID : DeviceID} {device : Device}
    (member : device ∈ numbered lastID added) :
    lastID < device.id ∧ device.id ≤ lastID + added.length := by
  induction added generalizing lastID with
  | nil => cases member
  | cons first rest inductionHypothesis =>
    rw [List.length_cons]
    rcases List.mem_cons.mp member with rfl | inRest
    · exact ⟨Nat.lt_succ_self lastID, Nat.add_le_add_left (Nat.le_add_left 1 _) lastID⟩
    · obtain ⟨above, below⟩ := inductionHypothesis inRest
      exact ⟨(Nat.lt_succ_self lastID).trans above,
        below.trans_eq (Nat.succ_add_eq_add_succ lastID rest.length)⟩

theorem getDeviceConfigById_numbered_of_le {added : List Device} {lastID : DeviceID}
    (old : id ≤ lastID) :
    InputConfig.getDeviceConfigById ((numbered lastID added).map Device.getDeviceConfig) id =
      none := by
  refine List.find?_eq_none.mpr fun conf member same => ?_
  obtain ⟨device, new, rfl⟩ := List.mem_map.mp member
  have later := (id_of_mem_numbered new).1
  rw [show device.id = id from of_decide_eq_true same] at later
  exact absurd old (Nat.not_le_of_lt later)

theorem getDeviceConfigById_numbered {added : List Device} {lastID : DeviceID} {device : Device}
    (member : device ∈ numbered lastID added) :
    InputConfig.getDeviceConfigById ((numbered lastID added).map Device.getDeviceConfig)
      device.id = some device.getDeviceConfig := by
  induction added generalizing lastID with
  | nil => cases member
  | cons first rest inductionHypothesis =>
    rcases List.mem_cons.mp member with rfl | inRest
    · exact List.find?_cons_of_pos (decide_eq_true rfl)
    · refine (List.find?_cons_of_neg ?_).trans (inductionHypothesis inRest)
      have later := (id_of_mem_numbered inRest).1
      intro same
      exact absurd (of_decide_eq_true same) later.ne

/-- A device has the settings that it has. -/
theorem Device.has_getDeviceConfig (device : Device) : device.Has device.getDeviceConfig where
  pointer _ isConf _ isCurrent := Option.some.inj (isCurrent.symm.trans isConf)
  touchpad _ isConf _ isCurrent := Option.some.inj (isCurrent.symm.trans isConf)
  keyboard _ isConf _ isCurrent := Option.some.inj (isCurrent.symm.trans isConf)

end Entries

/-! ### The configuration in force -/

namespace ConfigChanger

variable (changer : ConfigChanger)

/-- The entry of the focused session. -/
def focusedConfig : Option InputConfig := changer.focusedSession.bind changer.configMap

def inForce : InputConfig := changer.focusedConfig.getD changer.base

/-- What is to hold after every operation: the devices have the valid settings of the configuration
in force, and where the flag says so those of the base configuration. -/
structure Selected (compiles : Keymap → Bool) (changer : ConfigChanger) : Prop where
  settings : ∀ device ∈ changer.devices, ∀ entry ∈ changer.inForce.getDeviceConfigById device.id,
    entry.Valid compiles device → device.Has entry
  flag : changer.baseConfigurationApplied = true → ∀ device ∈ changer.devices,
    device.Follows changer.base

/-- The condition on an operation: no device refuses or ignores what is applied, the base
configuration is not set while the focused session has its own, no session stops while its
configuration is in force, and the configuration in force does not name a device before it is
added. -/
def KeepsSelection (compiles : Keymap → Bool) (changer : ConfigChanger) : ConfigOp → Prop
  | .configure session config =>
    changer.focusedSession = some session → AllTake compiles changer.devices config
  | .setBaseConfiguration config =>
    changer.focusedConfig = none ∧ AllTake compiles changer.devices config
  | .devicesUpdated added removed =>
    ∀ device ∈ numbered changer.lastID added,
      (removed.foldl InputConfig.removeDeviceById changer.inForce).getDeviceConfigById device.id =
        none
  | .disableDevice _ => True
  | .focusChange session =>
    match changer.configMap session with
    | some config => AllTake compiles changer.devices config
    | none => changer.baseConfigurationApplied = false →
        AllTake compiles changer.devices changer.base
  | .noFocus => changer.baseConfigurationApplied = false →
      AllTake compiles changer.devices changer.base
  | .sessionStopping session =>
    changer.focusedSession = some session → changer.configMap session = none

/-- What every operation under the condition keeps. -/
structure Steady (changer : ConfigChanger) : Prop where
  follows : ∀ device ∈ changer.devices, device.Follows changer.inForce
  applied : changer.baseConfigurationApplied = true ↔ changer.focusedConfig = none
  known : ∀ device ∈ changer.devices, device.id ≤ changer.lastID

variable {changer} {compiles : Keymap → Bool}

theorem inForce_of_focused {config : InputConfig} (focused : changer.focusedConfig = some config) :
    changer.inForce = config := by
  unfold inForce
  rw [focused]
  rfl

theorem inForce_of_unfocused (unfocused : changer.focusedConfig = none) :
    changer.inForce = changer.base := by
  unfold inForce
  rw [unfocused]
  rfl

theorem Steady.selected (steady : changer.Steady) : changer.Selected compiles where
  settings device member entry isEntry _ := steady.follows device member entry isEntry
  flag isApplied device member :=
    inForce_of_unfocused (steady.applied.mp isApplied) ▸ steady.follows device member

theorem steady_initial : initial.Steady where
  follows _ member := absurd member List.not_mem_nil
  applied := Iff.intro (fun _ => rfl) fun _ => rfl
  known _ member := absurd member List.not_mem_nil

/-! ### Operations that apply a configuration -/

theorem applyConfig_of_allTake {config : InputConfig}
    (takes : AllTake compiles changer.devices config) :
    ∃ devices, changer.applyConfig compiles config =
        ({ changer with devices := devices, baseConfigurationApplied := false }, none) ∧
      devices.map Device.id = changer.devices.map Device.id ∧
      ∀ device ∈ devices, device.Follows config := by
  obtain ⟨devices, applied, same, follow⟩ := applyToDevices_of_allTake takes
  refine ⟨devices, ?_, same, follow⟩
  unfold applyConfig
  rw [applied]

/-- Devices with the same numbers are no higher. -/
theorem known_of_map_eq {devices others : List Device} {last : DeviceID}
    (same : devices.map Device.id = others.map Device.id)
    (known : ∀ device ∈ others, device.id ≤ last) : ∀ device ∈ devices, device.id ≤ last := by
  intro device member
  obtain ⟨other, otherMember, sameID⟩ :=
    List.mem_map.mp (same ▸ List.mem_map_of_mem member : device.id ∈ others.map Device.id)
  exact sameID ▸ known other otherMember

/-- The configuration of the focused session is applied. -/
theorem steady_applyConfigAtSession {config : InputConfig}
    (known : ∀ device ∈ changer.devices, device.id ≤ changer.lastID)
    (takes : AllTake compiles changer.devices config)
    (focused : changer.focusedConfig = some config) :
    (changer.applyConfigAtSession compiles config).Steady := by
  obtain ⟨devices, applied, same, follow⟩ := applyConfig_of_allTake takes
  unfold applyConfigAtSession
  rw [applied]
  refine ⟨fun device member => ?_, ?_, known_of_map_eq same known⟩
  · refine (congrArg device.Follows (inForce_of_focused ?_)).mpr (follow device member)
    exact focused
  · refine Iff.intro nofun fun none => ?_
    exact absurd (focused.symm.trans none) nofun

/-- The base configuration is applied while the focused session has none of its own. -/
theorem steady_applyBaseConfig
    (known : ∀ device ∈ changer.devices, device.id ≤ changer.lastID)
    (takes : AllTake compiles changer.devices changer.base)
    (unfocused : changer.focusedConfig = none) :
    (changer.applyBaseConfig compiles).1.Steady := by
  obtain ⟨devices, applied, same, follow⟩ := applyConfig_of_allTake takes
  unfold applyBaseConfig
  rw [applied]
  refine ⟨fun device member => ?_, Iff.intro (fun _ => unfocused) fun _ => rfl,
    known_of_map_eq same known⟩
  refine (congrArg device.Follows (inForce_of_unfocused ?_)).mpr (follow device member)
  exact unfocused

/-! ### Operations that apply nothing -/

/-- An operation that leaves the devices and the configuration in force alone. -/
theorem Steady.of_same {next : ConfigChanger} (steady : changer.Steady)
    (devices : next.devices = changer.devices) (lastID : next.lastID = changer.lastID)
    (base : next.base = changer.base)
    (flag : next.baseConfigurationApplied = changer.baseConfigurationApplied)
    (focused : next.focusedConfig = changer.focusedConfig) : next.Steady where
  follows := by
    unfold inForce
    rw [devices, base, focused]
    exact steady.follows
  applied := by
    rw [flag, focused]
    exact steady.applied
  known := by
    rw [devices, lastID]
    exact steady.known

/-- The entry of another session is not that of the focused one. -/
theorem focusedConfig_of_ne {session : SessionID} {config : Option InputConfig}
    (unfocused : changer.focusedSession ≠ some session) :
    ({ changer with configMap := Function.update changer.configMap session config } :
      ConfigChanger).focusedConfig = changer.focusedConfig := by
  unfold focusedConfig
  cases focused : changer.focusedSession with
  | none => rfl
  | some other =>
    have different : other ≠ session := fun same => unfocused (same ▸ focused)
    exact Function.update_of_ne different _ _

theorem focusedConfig_of_eq {session : SessionID} {config : Option InputConfig}
    (focused : changer.focusedSession = some session) :
    ({ changer with configMap := Function.update changer.configMap session config } :
      ConfigChanger).focusedConfig = config := by
  unfold focusedConfig
  dsimp only
  rw [focused]
  exact Function.update_self _ _ _

theorem Steady.configure (steady : changer.Steady) {session : SessionID} {config : InputConfig}
    (permitted : changer.KeepsSelection compiles (.configure session config)) :
    (changer.configure compiles session config).Steady := by
  unfold ConfigChanger.configure
  split_ifs with focused
  · exact steady_applyConfigAtSession steady.known (permitted focused)
      (focusedConfig_of_eq focused)
  · exact steady.of_same rfl rfl rfl rfl (focusedConfig_of_ne focused)

theorem Steady.sessionStopping (steady : changer.Steady) {session : SessionID}
    (permitted : changer.KeepsSelection compiles (.sessionStopping session)) :
    (changer.sessionStopping session).Steady := by
  refine steady.of_same rfl rfl rfl rfl ?_
  by_cases focused : changer.focusedSession = some session
  · have noEntry : changer.focusedConfig = none := by
      unfold focusedConfig
      rw [focused]
      exact permitted focused
    exact (focusedConfig_of_eq focused).trans noEntry.symm
  · exact focusedConfig_of_ne focused

theorem Steady.focusChange (steady : changer.Steady) {session : SessionID}
    (permitted : changer.KeepsSelection compiles (.focusChange session)) :
    (changer.focusChange compiles session).1.Steady := by
  unfold ConfigChanger.focusChange
  unfold KeepsSelection at permitted
  dsimp only at permitted
  cases entry : changer.configMap session with
  | some config =>
    rw [entry] at permitted
    exact steady_applyConfigAtSession steady.known permitted entry
  | none =>
    rw [entry] at permitted
    dsimp only
    split_ifs with unapplied
    · exact steady_applyBaseConfig steady.known (permitted unapplied) entry
    · have before := steady.applied.mp (Bool.not_eq_false _ ▸ unapplied)
      exact steady.of_same rfl rfl rfl rfl (Eq.trans entry before.symm)

theorem Steady.noFocus (steady : changer.Steady)
    (permitted : changer.KeepsSelection compiles .noFocus) :
    (changer.noFocus compiles).1.Steady := by
  unfold ConfigChanger.noFocus
  dsimp only
  split_ifs with unapplied
  · exact steady_applyBaseConfig steady.known (permitted unapplied) rfl
  · have before := steady.applied.mp (Bool.not_eq_false _ ▸ unapplied)
    exact steady.of_same rfl rfl rfl rfl before.symm

theorem Steady.disableDevice (steady : changer.Steady) (id : DeviceID) :
    (changer.disableDevice id).Steady := by
  have same : ∀ device ∈ (changer.disableDevice id).devices, ∃ before ∈ changer.devices,
      device.id = before.id ∧ ∀ config, before.Follows config → device.Follows config := by
    intro device member
    obtain ⟨before, beforeMember, rfl⟩ := List.mem_map.mp member
    refine ⟨before, beforeMember, ?_⟩
    split_ifs
    · exact ⟨rfl, fun config follows entry isEntry => ⟨(follows entry isEntry).pointer,
        (follows entry isEntry).touchpad, (follows entry isEntry).keyboard⟩⟩
    · exact ⟨rfl, fun _ follows => follows⟩
  refine ⟨fun device member => ?_, steady.applied, fun device member => ?_⟩
  · obtain ⟨before, beforeMember, -, follows⟩ := same device member
    exact follows _ (steady.follows before beforeMember)
  · obtain ⟨before, beforeMember, sameID, -⟩ := same device member
    exact sameID ▸ steady.known before beforeMember

/-! ### Changes of the devices -/

theorem Steady.devicesUpdated (steady : changer.Steady) {added : List Device}
    {removed : List DeviceID}
    (permitted : changer.KeepsSelection compiles (.devicesUpdated added removed)) :
    (changer.devicesUpdated added removed).Steady := by
  have focused : (changer.devicesUpdated added removed).focusedConfig =
      changer.focusedConfig.map (updated (numbered changer.lastID added) removed) :=
    Option.map_bind.symm
  have inForceNext : (changer.devicesUpdated added removed).inForce =
      updated (numbered changer.lastID added) removed changer.inForce := by
    unfold inForce
    rw [focused]
    exact Option.getD_map ..
  refine ⟨fun device member entry isEntry => ?_, ?_, fun device member => ?_⟩
  · rw [inForceNext, getDeviceConfigById_updated] at isEntry
    rcases List.mem_append.mp member with old | new
    · obtain ⟨isOld, kept⟩ := List.mem_filter.mp old
      rw [getDeviceConfigById_removed, if_neg (of_decide_eq_true kept),
        getDeviceConfigById_numbered_of_le (steady.known device isOld), Option.or_none] at isEntry
      exact steady.follows device isOld entry isEntry
    · rw [permitted device new, Option.none_or, getDeviceConfigById_numbered new] at isEntry
      cases isEntry
      exact device.has_getDeviceConfig
  · rw [focused, Option.map_eq_none_iff]
    exact steady.applied
  · rcases List.mem_append.mp member with old | new
    · have isOld := (List.mem_filter.mp old).1
      exact (steady.known device isOld).trans (Nat.le_add_right _ _)
    · exact (id_of_mem_numbered new).2

/-! ### Every run -/

theorem Steady.step (steady : changer.Steady) {op : ConfigOp}
    (permitted : changer.KeepsSelection compiles op) : (changer.step compiles op).Steady := by
  cases op with
  | configure session config => exact steady.configure permitted
  | setBaseConfiguration config =>
    exact steady_applyBaseConfig steady.known permitted.2 permitted.1
  | devicesUpdated added removed => exact steady.devicesUpdated permitted
  | disableDevice id => exact steady.disableDevice id
  | focusChange session => exact steady.focusChange permitted
  | noFocus => exact steady.noFocus permitted
  | sessionStopping session => exact steady.sessionStopping permitted

/-- In every run whose operations meet the condition the devices have the settings of the
configuration in force, and those of the base configuration whenever the flag says so. -/
theorem configuration_follows_focus
    (reached : Reaches (step compiles) (KeepsSelection compiles) initial changer) :
    changer.Selected compiles := by
  have steady : changer.Steady :=
    reached.invariant steady_initial fun _ _ steady permitted => steady.step permitted
  exact steady.selected

instance (device : Device) (entry : DeviceConfig) : Decidable (device.Has entry) :=
  decidable_of_iff
    ((∀ conf ∈ entry.pointer, ∀ current ∈ device.pointer, current = conf) ∧
      (∀ conf ∈ entry.touchpad, ∀ current ∈ device.touchpad, current = conf) ∧
      ∀ conf ∈ entry.keyboard, ∀ current ∈ device.keyboard, current = conf)
    ⟨fun both => ⟨both.1, both.2.1, both.2.2⟩, fun has => ⟨has.1, has.2, has.3⟩⟩

instance (device : Device) (entry : DeviceConfig) : Decidable (entry.Valid compiles device) :=
  decidable_of_iff
    ((∀ conf ∈ entry.pointer, device.pointer.isSome = true → conf.outOfRange = false) ∧
      (∀ conf ∈ entry.touchpad, device.touchpad.isSome = true → conf.lacksScrollButton = false) ∧
      ∀ conf ∈ entry.keyboard, device.keyboard.isSome = true → compiles conf.deviceKeymap = true)
    ⟨fun both => ⟨both.1, both.2.1, both.2.2⟩, fun valid => ⟨valid.1, valid.2, valid.3⟩⟩

instance (device : Device) (entry : DeviceConfig) : Decidable (device.Takes compiles entry) :=
  decidable_of_iff
    ((∀ conf ∈ entry.pointer, device.pointer.isSome = true → conf.outOfRange = false) ∧
      (∀ conf ∈ entry.touchpad, device.touchpad.isSome = true → conf.lacksScrollButton = false) ∧
      ∀ conf ∈ entry.keyboard, ∀ current ∈ device.keyboard,
        current.deviceKeymap = conf.deviceKeymap ∨
          (device.enabled = true ∧ compiles conf.deviceKeymap = true))
    ⟨fun both => ⟨both.1, both.2.1, both.2.2⟩, fun takes => ⟨takes.1, takes.2, takes.3⟩⟩

instance (devices : List Device) (config : InputConfig) :
    Decidable (AllTake compiles devices config) :=
  inferInstanceAs (Decidable (∀ device ∈ devices,
    ∀ entry ∈ config.getDeviceConfigById device.id, device.Takes compiles entry))

instance : (op : ConfigOp) → Decidable (changer.KeepsSelection compiles op)
  | .configure session config => inferInstanceAs (Decidable (changer.focusedSession = some session →
      AllTake compiles changer.devices config))
  | .setBaseConfiguration config => inferInstanceAs (Decidable (changer.focusedConfig = none ∧
      AllTake compiles changer.devices config))
  | .devicesUpdated added removed =>
    inferInstanceAs (Decidable (∀ device ∈ numbered changer.lastID added,
      InputConfig.getDeviceConfigById
        (removed.foldl InputConfig.removeDeviceById changer.inForce) device.id = none))
  | .disableDevice _ => inferInstanceAs (Decidable True)
  | .focusChange session =>
    match entry : changer.configMap session with
    | some config => decidable_of_iff (AllTake compiles changer.devices config)
        (by simp only [KeepsSelection, entry])
    | none => decidable_of_iff (changer.baseConfigurationApplied = false →
          AllTake compiles changer.devices changer.base)
        (by simp only [KeepsSelection, entry])
  | .noFocus => inferInstanceAs (Decidable (changer.baseConfigurationApplied = false →
      AllTake compiles changer.devices changer.base))
  | .sessionStopping session => inferInstanceAs (Decidable (
      changer.focusedSession = some session → changer.configMap session = none))

/-! ### Runs of two mice -/

def rightHanded : PointerConfig := ⟨0, 0, 0, 1, 1⟩

def leftHanded : PointerConfig := ⟨1, 0, 0, 1, 1⟩

def biased : PointerConfig := ⟨0, 0, 2, 1, 1⟩

def mouse : Device := ⟨0, some rightHanded, none, none, true⟩

def keyboard (layout : String) : KeyboardConfig := ⟨⟨"pc105+inet", layout, "", ""⟩⟩

def pointerEntry (id : DeviceID) (conf : PointerConfig) : DeviceConfig :=
  ⟨id, some conf, none, none⟩

/-- A session has its own configuration and loses the focus, and a mouse goes. -/
def focusAndUnplug : List ConfigOp :=
  [.devicesUpdated [mouse, mouse] [], .configure 5 [pointerEntry 1 leftHanded], .focusChange 5,
    .noFocus, .sessionStopping 5, .disableDevice 2, .devicesUpdated [] [2],
    .setBaseConfiguration [pointerEntry 1 leftHanded]]

theorem configuration_follows_focus_when_unplugged :
    (focusAndUnplug.foldl (step fun _ => true) initial).Selected fun _ => true :=
  configuration_follows_focus (Reaches.start.foldl focusAndUnplug (by decide))

theorem not_selected_of_settings (device : Device) (member : device ∈ changer.devices)
    (entry : DeviceConfig) (isEntry : entry ∈ changer.inForce.getDeviceConfigById device.id)
    (valid : entry.Valid compiles device) (lacks : ¬ device.Has entry) :
    ¬ changer.Selected compiles :=
  fun selected => lacks (selected.settings device member entry isEntry valid)

/-- A configuration that is refused half way leaves a mouse without its settings, or the flag set; a
new base configuration takes the place of that of the focused session; the configuration of a
session that stops stays; a keyboard that is disabled keeps its keymap; and a mouse that was named
before it was added keeps its settings. -/
theorem configuration_is_not_followed :
    (¬ ([.devicesUpdated [mouse, mouse] [], .focusChange 5,
        .configure 5 [pointerEntry 1 biased, pointerEntry 2 leftHanded]].foldl
      (step fun _ => true) initial).Selected fun _ => true) ∧
    (¬ ([.devicesUpdated [mouse, mouse] [], .focusChange 5,
        .configure 5 [pointerEntry 1 leftHanded, pointerEntry 2 biased]].foldl
      (step fun _ => true) initial).Selected fun _ => true) ∧
    (¬ ([.devicesUpdated [mouse] [], .focusChange 5, .configure 5 [pointerEntry 1 leftHanded],
        .setBaseConfiguration [pointerEntry 1 rightHanded]].foldl
      (step fun _ => true) initial).Selected fun _ => true) ∧
    (¬ ([.devicesUpdated [mouse] [], .focusChange 5, .configure 5 [pointerEntry 1 leftHanded],
        .sessionStopping 5].foldl (step fun _ => true) initial).Selected fun _ => true) ∧
    (¬ ([.devicesUpdated [⟨0, none, none, some (keyboard "us"), true⟩] [], .focusChange 5,
        .disableDevice 1, .configure 5 [⟨1, none, none, some (keyboard "hu")⟩]].foldl
      (step fun _ => true) initial).Selected fun _ => true) ∧
    ¬ ([.setBaseConfiguration [pointerEntry 1 leftHanded], .devicesUpdated [mouse] []].foldl
      (step fun _ => true) initial).Selected fun _ => true := by
  refine ⟨?_, fun selected => ?_, ?_, ?_, ?_, ?_⟩
  · exact not_selected_of_settings ⟨2, some rightHanded, none, none, true⟩ (by decide)
      (pointerEntry 2 leftHanded) (by decide) (by decide) (by decide)
  · have has := selected.flag (by decide) ⟨1, some leftHanded, none, none, true⟩ (by decide)
      (pointerEntry 1 rightHanded) (by decide)
    exact absurd has (by decide)
  · exact not_selected_of_settings ⟨1, some rightHanded, none, none, true⟩ (by decide)
      (pointerEntry 1 leftHanded) (by decide) (by decide) (by decide)
  · exact not_selected_of_settings ⟨1, some leftHanded, none, none, true⟩ (by decide)
      (pointerEntry 1 rightHanded) (by decide) (by decide) (by decide)
  · exact not_selected_of_settings ⟨1, none, none, some (keyboard "us"), false⟩ (by decide)
      ⟨1, none, none, some (keyboard "hu")⟩ (by decide) (by decide) (by decide)
  · exact not_selected_of_settings ⟨1, some rightHanded, none, none, true⟩ (by decide)
      (pointerEntry 1 leftHanded) (by decide) (by decide) (by decide)

end ConfigChanger

end Mir.Input

/-
This file is about what is left of a configuration that the display rejects, when the
previous one is applied again without trouble. `apply_config` restores the display and the
compositor and throws; whether the changer's own records are restored and the exception is
kept from the main loop is up to each action. Some catch every exception, a preview
catches runtime errors only, and some catch nothing.
-/

import Mir.Scene.DisplayChanger

namespace Mir.Scene

namespace Changer

/-- The configuration an action asks the display for, if it gets that far. -/
def asksFor (policy : DisplayConfiguration → DisplayConfiguration) (changer : Changer) :
    Action → Option DisplayConfiguration
  | .configure session conf =>
    if changer.alive session = true ∧ changer.lock changer.focusedSession = some session then
      some conf
    else none
  | .removeSessionConfiguration session =>
    if changer.alive session = true then some changer.baseConfiguration else none
  | .previewBaseConfiguration session conf =>
    if changer.alive session = true then some conf else none
  | .cancelBaseConfigurationPreview session =>
    if changer.alive session = true then some changer.baseConfiguration else none
  | .configureForHardwareChange conf =>
    if changer.baseConfigurationApplied = true then some (policy conf) else none
  | .focusChange session =>
    if changer.alive session = true then
      match changer.configMap session with
      | some conf => some conf
      | none =>
        if changer.baseConfigurationApplied = true then none else some changer.baseConfiguration
    else none
  | .noFocus =>
    if changer.baseConfigurationApplied = true then none else some changer.baseConfiguration
  | .sessionStopping _ => none
  | .setBaseConfiguration conf =>
    if changer.baseConfigurationApplied = true then some conf else none

/-- A changer that is as it was, with nothing thrown. -/
structure RolledBack (before : Changer) (result : Changer × Option Exception) : Prop where
  display : result.1.display = before.display
  baseConfiguration : result.1.baseConfiguration = before.baseConfiguration
  baseConfigurationApplied :
    result.1.baseConfigurationApplied = before.baseConfigurationApplied
  inputRectangles : result.1.inputRectangles = before.inputRectangles
  compositorRunning : result.1.compositorRunning = true
  nothing_thrown : result.2 = none

/-- The actions that catch an exception of the display. -/
def Catches (changer : Changer) (exception : Exception) : Action → Prop
  | .configure _ _ => True
  | .removeSessionConfiguration _ => True
  | .configureForHardwareChange _ => True
  | .focusChange session => changer.configMap session ≠ none
  | .previewBaseConfiguration _ _ => exception = .runtimeError
  | .cancelBaseConfigurationPreview _ => False
  | .noFocus => False
  | .setBaseConfiguration _ => False
  | .sessionStopping _ => True

instance (changer : Changer) (exception : Exception) : DecidablePred (changer.Catches exception)
  | .configure _ _ | .removeSessionConfiguration _ | .configureForHardwareChange _
  | .sessionStopping _ => inferInstanceAs (Decidable True)
  | .focusChange session => inferInstanceAs (Decidable (changer.configMap session ≠ none))
  | .previewBaseConfiguration _ _ => inferInstanceAs (Decidable (exception = .runtimeError))
  | .cancelBaseConfigurationPreview _ | .noFocus | .setBaseConfiguration _ =>
    inferInstanceAs (Decidable False)

/-! ### What an action asks for -/

theorem applyConfig_display {changer : Changer} {answers : DisplayAnswers}
    {conf : DisplayConfiguration} (takes : changer.rejection answers conf = none) :
    (changer.applyConfig answers conf).1.display = conf := by
  obtain ⟨running, applied⟩ := applyConfig_of_accepted takes
  rw [applied]
  rfl

theorem applyBaseConfig_display {changer : Changer} {answers : DisplayAnswers}
    (takes : changer.rejection answers changer.baseConfiguration = none) :
    (changer.applyBaseConfig answers).1.display = changer.baseConfiguration := by
  obtain ⟨running, applied⟩ := applyBaseConfig_of_accepted takes
  rw [applied]
  rfl

/-- The display has what an action asks for if it accepts it. -/
theorem run_display_of_accepted (policy : DisplayConfiguration → DisplayConfiguration)
    (changer : Changer) (answers : DisplayAnswers) (action : Action) {conf : DisplayConfiguration}
    (asks : changer.asksFor policy action = some conf)
    (takes : changer.rejection answers conf = none) :
    (run policy changer answers action).1.display = conf := by
  cases action with
  | configure session own =>
    obtain ⟨focused, ⟨⟩⟩ := Option.ite_none_right_eq_some.mp asks
    simp only [run, runConfigure, if_pos focused]
    exact applyConfig_display takes
  | removeSessionConfiguration session =>
    obtain ⟨alive, ⟨⟩⟩ := Option.ite_none_right_eq_some.mp asks
    simp only [run, runRemoveSessionConfiguration, if_pos alive]
    exact applyBaseConfig_display takes
  | previewBaseConfiguration session previewed =>
    obtain ⟨alive, ⟨⟩⟩ := Option.ite_none_right_eq_some.mp asks
    obtain ⟨running, applied⟩ := applyConfig_of_accepted takes
    simp only [run, runPreviewBaseConfiguration, if_pos alive]
    rw [applied]
    rfl
  | cancelBaseConfigurationPreview session =>
    obtain ⟨alive, ⟨⟩⟩ := Option.ite_none_right_eq_some.mp asks
    simp only [run, runCancelBaseConfigurationPreview, if_pos alive]
    exact applyBaseConfig_display takes
  | configureForHardwareChange detected =>
    obtain ⟨inForce, ⟨⟩⟩ := Option.ite_none_right_eq_some.mp asks
    let updated : Changer := { changer with baseConfiguration := policy detected }
    obtain ⟨running, applied⟩ : ∃ running, updated.applyBaseConfig answers = _ :=
      applyBaseConfig_of_accepted takes
    simp only [run, runConfigureForHardwareChange, if_pos inForce]
    rw [applied]
    rfl
  | focusChange session =>
    obtain ⟨alive, asks⟩ := Option.ite_none_right_eq_some.mp asks
    cases own : changer.configMap session with
    | some recorded =>
      rw [own] at asks
      cases asks
      simp only [run, runFocusChange, if_pos alive, own]
      exact applyConfig_display takes
    | none =>
      rw [own] at asks
      obtain ⟨notInForce, ⟨⟩⟩ := Option.ite_none_left_eq_some.mp asks
      simp only [run, runFocusChange, if_pos alive, own, if_neg notInForce]
      exact applyBaseConfig_display takes
  | noFocus =>
    obtain ⟨notInForce, ⟨⟩⟩ := Option.ite_none_left_eq_some.mp asks
    simp only [run, runNoFocus, if_neg notInForce]
    exact applyBaseConfig_display takes
  | sessionStopping session => cases asks
  | setBaseConfiguration base =>
    obtain ⟨inForce, ⟨⟩⟩ := Option.ite_none_right_eq_some.mp asks
    simp only [run, runSetBaseConfiguration, if_pos inForce]
    exact applyBaseConfig_display takes

/-- An action that asks for nothing leaves the display alone and throws nothing. -/
theorem run_display_of_asksFor_none (policy : DisplayConfiguration → DisplayConfiguration)
    (changer : Changer) (answers : DisplayAnswers) (action : Action)
    (asks : changer.asksFor policy action = none) :
    (run policy changer answers action).1.display = changer.display ∧
      (run policy changer answers action).2 = none := by
  cases action with
  | configure session own =>
    have unfocused := (ite_eq_right_iff.mp asks).mt nofun
    simp only [run, runConfigure, if_neg unfocused, and_self]
  | removeSessionConfiguration session =>
    have gone := (ite_eq_right_iff.mp asks).mt nofun
    simp only [run, runRemoveSessionConfiguration, if_neg gone, and_self]
  | previewBaseConfiguration session previewed =>
    have gone := (ite_eq_right_iff.mp asks).mt nofun
    simp only [run, runPreviewBaseConfiguration, if_neg gone, and_self]
  | cancelBaseConfigurationPreview session =>
    have gone := (ite_eq_right_iff.mp asks).mt nofun
    simp only [run, runCancelBaseConfigurationPreview, if_neg gone, and_self]
  | configureForHardwareChange detected =>
    have notInForce := (ite_eq_right_iff.mp asks).mt nofun
    simp only [run, runConfigureForHardwareChange, if_neg notInForce, and_self]
  | focusChange session =>
    by_cases alive : changer.alive session = true
    · simp only [asksFor, if_pos alive] at asks
      cases own : changer.configMap session with
      | some recorded =>
        rw [own] at asks
        cases asks
      | none =>
        rw [own] at asks
        have inForce := not_not.mp ((ite_eq_left_iff.mp asks).mt nofun)
        simp only [run, runFocusChange, if_pos alive, own, if_pos inForce, and_self]
    · simp only [run, runFocusChange, if_neg alive, and_self]
  | noFocus =>
    have inForce := not_not.mp ((ite_eq_left_iff.mp asks).mt nofun)
    simp only [run, runNoFocus, if_pos inForce, and_self]
  | sessionStopping session =>
    simp only [run, runSessionStopping]
    split <;> exact ⟨rfl, rfl⟩
  | setBaseConfiguration base =>
    have notInForce := (ite_eq_right_iff.mp asks).mt nofun
    simp only [run, runSetBaseConfiguration, if_neg notInForce, and_self]

/-! ### Failures -/

theorem failed_rolledBack (changer : Changer) :
    changer.RolledBack (changer.failed changer.display, none) :=
  ⟨rfl, rfl, rfl, rfl, rfl, rfl⟩

theorem not_rolledBack_of_thrown {before after : Changer} {exception : Exception} :
    ¬before.RolledBack (after, some exception) :=
  fun rolledBack => nomatch rolledBack.nothing_thrown

section Rejected

variable {changer : Changer} {answers : DisplayAnswers} {session : SessionID}
  {conf : DisplayConfiguration} {exception : Exception}
  (reapplied : answers.reapply = .applied)

include reapplied

theorem runConfigure_rolledBack
    (asks : changer.alive session = true ∧ changer.lock changer.focusedSession = some session)
    (rejects : changer.rejection answers conf = some exception) :
    changer.RolledBack (changer.runConfigure answers session conf) := by
  unfold runConfigure
  rw [if_pos asks, applyConfig_of_reapplied rejects reapplied]
  exact changer.failed_rolledBack

theorem runRemoveSessionConfiguration_rolledBack (alive : changer.alive session = true)
    (rejects : changer.rejection answers changer.baseConfiguration = some exception) :
    changer.RolledBack (changer.runRemoveSessionConfiguration answers session) := by
  unfold runRemoveSessionConfiguration
  rw [if_pos alive, applyBaseConfig_of_reapplied rejects reapplied]
  exact changer.failed_rolledBack

/-- A preview lets everything but a runtime error through. -/
theorem runPreviewBaseConfiguration_rolledBack_iff (alive : changer.alive session = true)
    (rejects : changer.rejection answers conf = some exception) :
    changer.RolledBack (changer.runPreviewBaseConfiguration answers session conf) ↔
      exception = .runtimeError := by
  unfold runPreviewBaseConfiguration
  rw [if_pos alive, applyConfig_of_reapplied rejects reapplied]
  cases exception with
  | runtimeError => exact iff_of_true changer.failed_rolledBack rfl
  | otherException => exact iff_of_false not_rolledBack_of_thrown nofun

theorem runCancelBaseConfigurationPreview_not_rolledBack (alive : changer.alive session = true)
    (rejects : changer.rejection answers changer.baseConfiguration = some exception) :
    ¬changer.RolledBack (changer.runCancelBaseConfigurationPreview answers session) := by
  unfold runCancelBaseConfigurationPreview
  rw [if_pos alive, applyBaseConfig_of_reapplied rejects reapplied]
  exact not_rolledBack_of_thrown

/-- A hardware change takes the new base configuration back. -/
theorem runConfigureForHardwareChange_rolledBack
    (policy : DisplayConfiguration → DisplayConfiguration)
    (inForce : changer.baseConfigurationApplied = true)
    (rejects : changer.rejection answers (policy conf) = some exception) :
    changer.RolledBack (runConfigureForHardwareChange policy changer answers conf) := by
  let updated : Changer := { changer with baseConfiguration := policy conf }
  have rejected : updated.applyBaseConfig answers =
      (updated.failed updated.display, some exception) :=
    applyBaseConfig_of_reapplied rejects reapplied
  unfold runConfigureForHardwareChange
  dsimp only
  rw [if_pos inForce, rejected]
  exact ⟨rfl, rfl, rfl, rfl, rfl, rfl⟩

/-- A session's own configuration is guarded when the focus changes, the base configuration is
not. -/
theorem runFocusChange_rolledBack_own (alive : changer.alive session = true)
    (own : changer.configMap session = some conf)
    (rejects : changer.rejection answers conf = some exception) :
    changer.RolledBack (changer.runFocusChange answers session) := by
  let focused : Changer := { changer with focusedSession := some session }
  have rejected : focused.applyConfig answers conf =
      (focused.failed focused.display, some exception) :=
    applyConfig_of_reapplied rejects reapplied
  unfold runFocusChange
  simp only [if_pos alive, own]
  rw [rejected]
  exact ⟨rfl, rfl, rfl, rfl, rfl, rfl⟩

theorem runFocusChange_not_rolledBack_base (alive : changer.alive session = true)
    (own : changer.configMap session = none)
    (notInForce : ¬changer.baseConfigurationApplied = true)
    (rejects : changer.rejection answers changer.baseConfiguration = some exception) :
    ¬changer.RolledBack (changer.runFocusChange answers session) := by
  let focused : Changer := { changer with focusedSession := some session }
  have rejected : focused.applyBaseConfig answers =
      (focused.failed focused.display, some exception) :=
    applyBaseConfig_of_reapplied rejects reapplied
  unfold runFocusChange
  simp only [if_pos alive, own, if_neg notInForce]
  rw [rejected]
  exact not_rolledBack_of_thrown

theorem runNoFocus_not_rolledBack (notInForce : ¬changer.baseConfigurationApplied = true)
    (rejects : changer.rejection answers changer.baseConfiguration = some exception) :
    ¬changer.RolledBack (changer.runNoFocus answers) := by
  let unfocused : Changer := { changer with focusedSession := none }
  have rejected : unfocused.applyBaseConfig answers =
      (unfocused.failed unfocused.display, some exception) :=
    applyBaseConfig_of_reapplied rejects reapplied
  unfold runNoFocus
  dsimp only
  rw [if_neg notInForce, rejected]
  exact not_rolledBack_of_thrown

/-- Setting the base configuration keeps what the display rejected. -/
theorem runSetBaseConfiguration_not_rolledBack
    (inForce : changer.baseConfigurationApplied = true)
    (rejects : changer.rejection answers conf = some exception) :
    ¬changer.RolledBack (changer.runSetBaseConfiguration answers conf) := by
  let updated : Changer :=
    { changer with
      baseConfiguration := conf
      unconfirmed := if changer.unconfirmed = some conf then none else changer.unconfirmed }
  have rejected : updated.applyBaseConfig answers =
      (updated.failed updated.display, some exception) :=
    applyBaseConfig_of_reapplied rejects reapplied
  unfold runSetBaseConfiguration
  dsimp only
  rw [if_pos inForce, rejected]
  exact not_rolledBack_of_thrown

end Rejected

/-- When the display rejects what an action asks for and takes the previous configuration back,
the action leaves everything as it was and throws nothing exactly if it is one of those that
catch what the display threw. -/
theorem run_rolledBack_iff (policy : DisplayConfiguration → DisplayConfiguration)
    (changer : Changer) (answers : DisplayAnswers) (action : Action) {conf : DisplayConfiguration}
    {exception : Exception} (asks : changer.asksFor policy action = some conf)
    (rejects : changer.rejection answers conf = some exception)
    (reapplied : answers.reapply = .applied) :
    changer.RolledBack (run policy changer answers action) ↔ changer.Catches exception action := by
  cases action with
  | configure session own =>
    obtain ⟨focused, ⟨⟩⟩ := Option.ite_none_right_eq_some.mp asks
    exact iff_of_true (runConfigure_rolledBack reapplied focused rejects) trivial
  | removeSessionConfiguration session =>
    obtain ⟨alive, ⟨⟩⟩ := Option.ite_none_right_eq_some.mp asks
    exact iff_of_true (runRemoveSessionConfiguration_rolledBack reapplied alive rejects) trivial
  | previewBaseConfiguration session previewed =>
    obtain ⟨alive, ⟨⟩⟩ := Option.ite_none_right_eq_some.mp asks
    exact runPreviewBaseConfiguration_rolledBack_iff reapplied alive rejects
  | cancelBaseConfigurationPreview session =>
    obtain ⟨alive, ⟨⟩⟩ := Option.ite_none_right_eq_some.mp asks
    exact iff_of_false
      (runCancelBaseConfigurationPreview_not_rolledBack reapplied alive rejects) id
  | configureForHardwareChange detected =>
    obtain ⟨inForce, ⟨⟩⟩ := Option.ite_none_right_eq_some.mp asks
    exact iff_of_true
      (runConfigureForHardwareChange_rolledBack reapplied policy inForce rejects) trivial
  | focusChange session =>
    obtain ⟨alive, asks⟩ := Option.ite_none_right_eq_some.mp asks
    cases own : changer.configMap session with
    | some recorded =>
      rw [own] at asks
      cases asks
      refine iff_of_true (runFocusChange_rolledBack_own reapplied alive own rejects) ?_
      show changer.configMap session ≠ none
      rw [own]
      nofun
    | none =>
      rw [own] at asks
      obtain ⟨notInForce, ⟨⟩⟩ := Option.ite_none_left_eq_some.mp asks
      exact iff_of_false
        (runFocusChange_not_rolledBack_base reapplied alive own notInForce rejects)
        (fun caught => caught own)
  | noFocus =>
    obtain ⟨notInForce, ⟨⟩⟩ := Option.ite_none_left_eq_some.mp asks
    exact iff_of_false (runNoFocus_not_rolledBack reapplied notInForce rejects) id
  | sessionStopping session => cases asks
  | setBaseConfiguration base =>
    obtain ⟨inForce, ⟨⟩⟩ := Option.ite_none_right_eq_some.mp asks
    exact iff_of_false (runSetBaseConfiguration_not_rolledBack reapplied inForce rejects) id

/-- A display that rejects a configuration and is left with an unusable one, but takes the
previous one back. -/
def rejectsIt : DisplayAnswers := ⟨.declined, .threw .runtimeError (oneOutput 0), .applied⟩

theorem run_rolledBack_hardwareChange :
    (new (oneOutput 10) fun _ => true).RolledBack
      (run id (new (oneOutput 10) fun _ => true) rejectsIt
        (.configureForHardwareChange (oneOutput 20))) :=
  (run_rolledBack_iff id _ rejectsIt (.configureForHardwareChange (oneOutput 20)) rfl rfl rfl).mpr
    trivial

/-- A base configuration that is set stays the base configuration though the display rejects
it. -/
theorem run_not_rolledBack_setBaseConfiguration :
    ¬ ∀ (policy : DisplayConfiguration → DisplayConfiguration) (changer : Changer)
        (answers : DisplayAnswers) (action : Action) (conf : DisplayConfiguration)
        (exception : Exception),
      changer.asksFor policy action = some conf →
      changer.rejection answers conf = some exception → answers.reapply = .applied →
      changer.RolledBack (run policy changer answers action) := by
  intro claimed
  have rolledBack := claimed id (new (oneOutput 10) fun _ => true) rejectsIt
    (.setBaseConfiguration (oneOutput 20)) (oneOutput 20) .runtimeError rfl rfl rfl
  have restored := rolledBack.baseConfiguration
  revert restored
  decide

end Changer

end Mir.Scene

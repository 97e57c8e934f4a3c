/-
This file follows a preview of a base configuration to its end. A preview is in progress
while its alarm may go off; it ends when it is confirmed or cancelled or when the alarm
goes off. Once the queue has been worked off, the next preview should be accepted and the
display should not show what was previewed and never confirmed.

What a queue will come to is computed ahead: a queued preview is going to be shown, a
queued confirmation or cancellation is going to end that. The invariant is that a preview
is in progress or that the queue is going to end it. What an action does may fall short of
what it is queued for, and the alarm may come before the preview it belongs to; when
neither happens, nothing is left of a preview that has ended.

An alarm that went off is never taken away by the callback itself, so that the next preview
is refused.
-/

import Mir.Library.Transition
import Mir.Scene.Selection

namespace Mir.Scene

open Transition

/-- Whether an action is there to show a preview or to end it. -/
def Action.shows (shown : Bool) : Action → Bool
  | .previewBaseConfiguration _ _ => true
  | .setBaseConfiguration _ => false
  | .cancelBaseConfigurationPreview _ => false
  | _ => shown

/-- Whether a preview is going to be shown when a queue has been worked off. -/
def shownAfter (shown : Bool) (queue : List Action) : Bool :=
  queue.foldl Action.shows shown

theorem Action.shows_mono {fewer shown : Bool} (le : fewer = true → shown = true)
    (action : Action) : action.shows fewer = true → action.shows shown = true := by
  cases action <;> first | exact le | exact id

theorem shownAfter_mono {fewer shown : Bool} {queue : List Action}
    (le : fewer = true → shown = true) (ends : shownAfter shown queue = false) :
    shownAfter fewer queue = false := by
  induction queue generalizing fewer shown with
  | nil =>
    cases fewer with
    | false => rfl
    | true => exact (le rfl).symm.trans ends
  | cons action rest inductionHypothesis =>
    exact inductionHypothesis (Action.shows_mono le action) ends

theorem shownAfter_concat (shown : Bool) (queue : List Action) (action : Action) :
    shownAfter shown (queue ++ [action]) = action.shows (shownAfter shown queue) := by
  unfold shownAfter
  rw [List.foldl_append]
  rfl

namespace Changer

/-- A preview is in progress, or the queue is going to end whatever is shown of one. -/
def Accounted (changer : Changer) : Prop :=
  changer.previewing = true ∨ shownAfter changer.unconfirmed.isSome changer.queue = false

/-! ### What the steps do to a preview -/

/-- A change that leaves the queue and the alarm alone and shows no preview. -/
structure ShowsNoPreview (before after : Changer) : Prop where
  queue : after.queue = before.queue
  alarm : after.previewConfigurationTimeout = before.previewConfigurationTimeout
  unconfirmed : after.unconfirmed = none ∨ after.unconfirmed = before.unconfirmed

namespace ShowsNoPreview

variable {before after : Changer}

theorem isSome (change : before.ShowsNoPreview after) :
    after.unconfirmed.isSome = true → before.unconfirmed.isSome = true := by
  intro shown
  rcases change.unconfirmed with ended | same
  · rw [ended] at shown
    cases shown
  · rwa [same] at shown

theorem accounted (change : before.ShowsNoPreview after) (accounted : before.Accounted) :
    after.Accounted := by
  unfold Accounted previewing
  rw [change.queue, change.alarm]
  exact accounted.imp_right (shownAfter_mono change.isSome)

end ShowsNoPreview

theorem showsNoPreview_refl (changer : Changer) : changer.ShowsNoPreview changer :=
  ⟨rfl, rfl, .inr rfl⟩

theorem applyConfig_showsNoPreview (changer : Changer) (answers : DisplayAnswers)
    (conf : DisplayConfiguration) :
    changer.ShowsNoPreview (changer.applyConfig answers conf).1 := by
  cases rejects : changer.rejection answers conf with
  | none =>
    obtain ⟨running, applied⟩ := applyConfig_of_accepted rejects
    rw [applied]
    exact ⟨rfl, rfl, .inl rfl⟩
  | some exception =>
    obtain ⟨shown, thrown, applied⟩ := applyConfig_of_rejected rejects
    rw [applied]
    exact ⟨rfl, rfl, .inr rfl⟩

theorem applyBaseConfig_showsNoPreview (changer : Changer) (answers : DisplayAnswers) :
    changer.ShowsNoPreview (changer.applyBaseConfig answers).1 := by
  cases rejects : changer.rejection answers changer.baseConfiguration with
  | none =>
    obtain ⟨running, applied⟩ := applyBaseConfig_of_accepted rejects
    rw [applied]
    exact ⟨rfl, rfl, .inl rfl⟩
  | some exception =>
    obtain ⟨shown, thrown, applied⟩ := applyBaseConfig_of_rejected rejects
    rw [applied]
    exact ⟨rfl, rfl, .inr rfl⟩

/-- The base configuration takes the place of a preview if the display accepts it. -/
theorem applyBaseConfig_unconfirmed {changer : Changer} {answers : DisplayAnswers}
    (takes : changer.rejection answers changer.baseConfiguration = none) :
    (changer.applyBaseConfig answers).1.unconfirmed = none := by
  obtain ⟨running, applied⟩ := applyBaseConfig_of_accepted takes
  rw [applied]
  rfl

section Running

variable (changer : Changer) (answers : DisplayAnswers)

theorem runConfigure_showsNoPreview (session : SessionID) (conf : DisplayConfiguration) :
    changer.ShowsNoPreview (changer.runConfigure answers session conf).1 := by
  unfold runConfigure
  split
  · exact changer.applyConfig_showsNoPreview answers conf
  · exact changer.showsNoPreview_refl

theorem runRemoveSessionConfiguration_showsNoPreview (session : SessionID) :
    changer.ShowsNoPreview (changer.runRemoveSessionConfiguration answers session).1 := by
  unfold runRemoveSessionConfiguration
  split
  · exact changer.applyBaseConfig_showsNoPreview answers
  · exact changer.showsNoPreview_refl

theorem runCancelBaseConfigurationPreview_showsNoPreview (session : SessionID) :
    changer.ShowsNoPreview (changer.runCancelBaseConfigurationPreview answers session).1 := by
  unfold runCancelBaseConfigurationPreview
  split
  · exact changer.applyBaseConfig_showsNoPreview answers
  · exact changer.showsNoPreview_refl

theorem runFocusChange_showsNoPreview (session : SessionID) :
    changer.ShowsNoPreview (changer.runFocusChange answers session).1 := by
  unfold runFocusChange
  split
  · let focused : Changer := { changer with focusedSession := some session }
    cases recorded : changer.configMap session with
    | some conf =>
      have applied := focused.applyConfig_showsNoPreview answers conf
      simp only [recorded]
      exact ⟨applied.queue, applied.alarm, applied.unconfirmed⟩
    | none =>
      have applied := focused.applyBaseConfig_showsNoPreview answers
      simp only [recorded]
      split
      · exact ⟨rfl, rfl, .inr rfl⟩
      · exact ⟨applied.queue, applied.alarm, applied.unconfirmed⟩
  · exact changer.showsNoPreview_refl

theorem runNoFocus_showsNoPreview :
    changer.ShowsNoPreview (changer.runNoFocus answers).1 := by
  let unfocused : Changer := { changer with focusedSession := none }
  have applied := unfocused.applyBaseConfig_showsNoPreview answers
  unfold runNoFocus
  dsimp only
  split
  · exact ⟨rfl, rfl, .inr rfl⟩
  · exact ⟨applied.queue, applied.alarm, applied.unconfirmed⟩

theorem runSessionStopping_showsNoPreview (session : SessionID) :
    changer.ShowsNoPreview (changer.runSessionStopping session).1 := by
  unfold runSessionStopping
  split
  · exact ⟨rfl, rfl, .inr rfl⟩
  · exact changer.showsNoPreview_refl

theorem runConfigureForHardwareChange_showsNoPreview
    (policy : DisplayConfiguration → DisplayConfiguration) (conf : DisplayConfiguration) :
    changer.ShowsNoPreview (runConfigureForHardwareChange policy changer answers conf).1 := by
  let updated : Changer := { changer with baseConfiguration := policy conf }
  have applied := updated.applyBaseConfig_showsNoPreview answers
  unfold runConfigureForHardwareChange
  dsimp only
  split
  · -- Taking the base configuration back does not bring a preview back.
    split
    case h_1 accepted answered =>
      rw [answered] at applied
      exact ⟨applied.queue, applied.alarm, applied.unconfirmed⟩
    case h_2 rejected exception answered =>
      rw [answered] at applied
      exact ⟨applied.queue, applied.alarm, applied.unconfirmed⟩
  · exact ⟨rfl, rfl, .inr rfl⟩

theorem runSetBaseConfiguration_showsNoPreview (conf : DisplayConfiguration) :
    changer.ShowsNoPreview (changer.runSetBaseConfiguration answers conf).1 := by
  let updated : Changer :=
    { changer with
      baseConfiguration := conf
      unconfirmed := if changer.unconfirmed = some conf then none else changer.unconfirmed }
  have confirmed : updated.unconfirmed = none ∨ updated.unconfirmed = changer.unconfirmed := by
    by_cases same : changer.unconfirmed = some conf
    · exact .inl (if_pos same)
    · exact .inr (if_neg same)
  have applied := updated.applyBaseConfig_showsNoPreview answers
  unfold runSetBaseConfiguration
  dsimp only
  split
  · refine ⟨applied.queue, applied.alarm, ?_⟩
    rcases applied.unconfirmed with ended | same
    · exact .inl ended
    · exact confirmed.imp same.trans same.trans
  · exact ⟨rfl, rfl, confirmed⟩

end Running

/-- A confirmation ends the preview of the configuration it confirms. -/
theorem runSetBaseConfiguration_unconfirmed {changer : Changer} (answers : DisplayAnswers)
    {conf : DisplayConfiguration}
    (confirms : changer.unconfirmed = none ∨ changer.unconfirmed = some conf) :
    (changer.runSetBaseConfiguration answers conf).1.unconfirmed = none := by
  let updated : Changer :=
    { changer with
      baseConfiguration := conf
      unconfirmed := if changer.unconfirmed = some conf then none else changer.unconfirmed }
  have confirmed : updated.unconfirmed = none := by
    show (if changer.unconfirmed = some conf then none else changer.unconfirmed) = none
    rcases confirms with ended | same
    · rw [ended, ite_self]
    · exact if_pos same
  have applied := updated.applyBaseConfig_showsNoPreview answers
  unfold runSetBaseConfiguration
  dsimp only
  split
  · exact applied.unconfirmed.elim id (·.trans confirmed)
  · exact confirmed

/-- A preview changes neither the queue nor the alarm. -/
theorem runPreviewBaseConfiguration_keeps (changer : Changer) (answers : DisplayAnswers)
    (session : SessionID) (conf : DisplayConfiguration) :
    (changer.runPreviewBaseConfiguration answers session conf).1.queue = changer.queue ∧
      (changer.runPreviewBaseConfiguration answers session conf).1.previewConfigurationTimeout =
        changer.previewConfigurationTimeout := by
  have applied := changer.applyConfig_showsNoPreview answers conf
  unfold runPreviewBaseConfiguration
  split
  · split
    all_goals
      rename_i answered
      rw [answered] at applied
      exact ⟨applied.queue, applied.alarm⟩
  · exact ⟨rfl, rfl⟩

/-! ### Steps that live up to what they are for -/

/-- What an action is there to end is ended by it, or is still going to be ended. -/
def Concludes (changer : Changer) (answers : DisplayAnswers) (rest : List Action) : Action → Prop
  | .cancelBaseConfigurationPreview session =>
    changer.unconfirmed = none ∨
      (changer.alive session = true ∧
        changer.rejection answers changer.baseConfiguration = none) ∨
      changer.previewing = true ∨ shownAfter true rest = false
  | .setBaseConfiguration conf =>
    changer.unconfirmed = none ∨ changer.unconfirmed = some conf ∨
      changer.previewing = true ∨ shownAfter true rest = false
  | _ => True

instance (changer : Changer) (answers : DisplayAnswers) (rest : List Action) :
    DecidablePred (changer.Concludes answers rest)
  | .cancelBaseConfigurationPreview _ => inferInstanceAs (Decidable (_ ∨ _ ∧ _ ∨ _ ∨ _))
  | .setBaseConfiguration _ => inferInstanceAs (Decidable (_ ∨ _ ∨ _ ∨ _))
  | .configure _ _ | .removeSessionConfiguration _ | .previewBaseConfiguration _ _
  | .configureForHardwareChange _ | .focusChange _ | .noFocus | .sessionStopping _ =>
    inferInstanceAs (Decidable True)

/-- A step that leaves nothing of a preview it ends. The alarm must find the preview shown
already, or about to be ended in another way. -/
def Conclusive (changer : Changer) : ChangerStep → Prop
  | .runAction answers =>
    match changer.queue with
    | [] => True
    | action :: rest => changer.Concludes answers rest action
  | .previewTimeout answers =>
    changer.previewing = true → shownAfter true changer.queue = false ∨
      shownAfter false changer.queue = false ∧
        (changer.unconfirmed = none ∨ changer.alarmExpected = true ∧
          changer.rejection answers changer.baseConfiguration = none)
  | _ => True

theorem conclusive_runAction (changer : Changer) (answers : DisplayAnswers) :
    changer.Conclusive (.runAction answers) ↔
      ∀ action ∈ changer.queue.head?, changer.Concludes answers changer.queue.tail action := by
  unfold Conclusive
  cases changer.queue <;> simp

instance (changer : Changer) : DecidablePred changer.Conclusive
  | .runAction answers => decidable_of_iff' _ (changer.conclusive_runAction answers)
  | .previewTimeout _ => inferInstanceAs (Decidable (_ → _ ∨ _ ∧ (_ ∨ _ ∧ _)))
  | .configure _ _ | .removeSessionConfiguration _ | .setBaseConfiguration _
  | .previewBaseConfiguration _ _ | .confirmBaseConfiguration _
  | .cancelBaseConfigurationPreview _ | .configureForHardwareChange _ | .focusChange _ | .noFocus
  | .sessionStopping _ | .sessionDied _ => inferInstanceAs (Decidable True)

/-! ### Nothing is left behind -/

/-- An action that is there to end a preview does so, or leaves that to what is still to come. -/
theorem ShowsNoPreview.concluded {before after : Changer} (change : before.ShowsNoPreview after)
    (left : before.previewing = true ∨ shownAfter false before.queue = false)
    (ends : after.unconfirmed = none ∨ before.previewing = true ∨
      shownAfter true before.queue = false) :
    after.Accounted := by
  unfold Accounted previewing
  rw [change.queue, change.alarm]
  rcases ends with ended | previewing | later
  · rw [ended]
    exact left
  · exact .inl previewing
  · exact .inr (shownAfter_mono (fun _ => rfl) later)

theorem run_accounted (policy : DisplayConfiguration → DisplayConfiguration) {changer : Changer}
    {answers : DisplayAnswers} {action : Action} {rest : List Action}
    (accounted : changer.Accounted) (queue : changer.queue = action :: rest)
    (concludes : changer.Concludes answers rest action) :
    (run policy { changer with queue := rest } answers action).1.Accounted := by
  let taken : Changer := { changer with queue := rest }
  have left : taken.previewing = true ∨
      shownAfter (action.shows taken.unconfirmed.isSome) taken.queue = false := by
    unfold Accounted at accounted
    rw [queue] at accounted
    exact accounted
  cases action with
  | configure session conf =>
    exact (taken.runConfigure_showsNoPreview answers session conf).accounted left
  | removeSessionConfiguration session =>
    exact (taken.runRemoveSessionConfiguration_showsNoPreview answers session).accounted left
  | previewBaseConfiguration session conf =>
    obtain ⟨sameQueue, sameAlarm⟩ :=
      taken.runPreviewBaseConfiguration_keeps answers session conf
    show Accounted (taken.runPreviewBaseConfiguration answers session conf).1
    unfold Accounted previewing
    rw [sameQueue, sameAlarm]
    exact left.imp_right (shownAfter_mono fun _ => rfl)
  | cancelBaseConfigurationPreview session =>
    have change := taken.runCancelBaseConfigurationPreview_showsNoPreview answers session
    refine change.concluded left ?_
    rcases concludes with ended | ⟨alive, takes⟩ | later
    · exact .inl (change.unconfirmed.elim id (·.trans ended))
    · left
      have reverts : taken.runCancelBaseConfigurationPreview answers session =
          taken.applyBaseConfig answers := if_pos alive
      rw [reverts]
      exact applyBaseConfig_unconfirmed takes
    · exact .inr later
  | configureForHardwareChange conf =>
    exact (taken.runConfigureForHardwareChange_showsNoPreview answers policy conf).accounted left
  | focusChange session =>
    exact (taken.runFocusChange_showsNoPreview answers session).accounted left
  | noFocus => exact (taken.runNoFocus_showsNoPreview answers).accounted left
  | sessionStopping session =>
    exact (taken.runSessionStopping_showsNoPreview session).accounted left
  | setBaseConfiguration conf =>
    refine (taken.runSetBaseConfiguration_showsNoPreview answers conf).concluded left ?_
    rcases concludes with ended | confirmed | later
    · exact .inl (runSetBaseConfiguration_unconfirmed answers (.inl ended))
    · exact .inl (runSetBaseConfiguration_unconfirmed answers (.inr confirmed))
    · exact .inr later

/-- Only a preview can show one. -/
theorem Accounted.enqueue {changer : Changer} (accounted : changer.Accounted) {action : Action}
    (harmless : ∀ shown, action.shows shown = true → shown = true) :
    (changer.enqueue action).Accounted := by
  refine accounted.imp_right fun ends => ?_
  show shownAfter changer.unconfirmed.isSome (changer.queue ++ [action]) = false
  rw [shownAfter_concat, ends]
  exact Bool.eq_false_iff.mpr fun shown => Bool.false_ne_true (harmless false shown)

theorem enqueue_accounted (changer : Changer) {action : Action}
    (ends : ∀ shown, action.shows shown = false) : (changer.enqueue action).Accounted := by
  right
  show shownAfter changer.unconfirmed.isSome (changer.queue ++ [action]) = false
  rw [shownAfter_concat, ends]

section Calls

variable {changer : Changer} {session : SessionID}

theorem configure_accounted (accounted : changer.Accounted) (conf : DisplayConfiguration) :
    (changer.configure session conf).Accounted := by
  unfold configure
  dsimp only
  split
  · exact Accounted.enqueue accounted fun _ => id
  · exact accounted

theorem removeSessionConfiguration_accounted (accounted : changer.Accounted) :
    (changer.removeSessionConfiguration session).Accounted := by
  unfold removeSessionConfiguration
  dsimp only
  split
  · exact Accounted.enqueue accounted fun _ => id
  · exact accounted

theorem previewBaseConfiguration_accounted (accounted : changer.Accounted)
    (conf : DisplayConfiguration) :
    ((changer.previewBaseConfiguration session conf).toOption.getD changer).Accounted := by
  unfold previewBaseConfiguration
  split
  · exact accounted
  · exact .inl rfl

theorem cancelBaseConfigurationPreview_accounted (accounted : changer.Accounted) :
    ((changer.cancelBaseConfigurationPreview session).toOption.getD changer).Accounted := by
  unfold cancelBaseConfigurationPreview
  cases recorded : changer.previewConfigurationTimeout with
  | none => exact accounted
  | some alarm =>
    dsimp only
    split
    · exact accounted
    · split
      case isTrue triggered =>
        have finished : changer.previewing ≠ true := by
          simp [previewing, recorded, triggered]
        exact .inr (accounted.resolve_left finished)
      case isFalse => exact enqueue_accounted _ fun _ => rfl

/-- The alarm undoes the preview, provided that its session exists and that the preview has been
shown by then. -/
theorem previewTimeout_accounted {answers : DisplayAnswers} (accounted : changer.Accounted)
    (conclusive : changer.Conclusive (.previewTimeout answers)) :
    (changer.previewTimeout answers).1.Accounted := by
  unfold previewTimeout
  cases recorded : changer.previewConfigurationTimeout with
  | none => exact accounted
  | some alarm =>
    dsimp only
    split
    case isTrue => exact accounted
    case isFalse pending =>
      have inProgress : changer.previewing = true := by
        simp [previewing, recorded, pending]
      let triggered : Changer :=
        { changer with previewConfigurationTimeout := some { alarm with triggered := true } }
      have change := triggered.applyBaseConfig_showsNoPreview answers
      rcases conclusive inProgress with later | ⟨left, ends⟩
      · have accountedFor : triggered.Accounted := .inr (shownAfter_mono (fun _ => rfl) later)
        split
        · exact change.accounted accountedFor
        · exact accountedFor
      · split
        case isTrue alive =>
          refine change.concluded (.inr left) (.inl ?_)
          rcases ends with ended | ⟨-, takes⟩
          · exact change.unconfirmed.elim id (·.trans ended)
          · exact applyBaseConfig_unconfirmed takes
        case isFalse gone =>
          have unexpected : changer.alarmExpected ≠ true := by
            simp [alarmExpected, recorded, gone]
          have ended : triggered.unconfirmed = none :=
            ends.resolve_right fun expected => unexpected expected.1
          exact triggered.showsNoPreview_refl.concluded (.inr left) (.inl ended)

end Calls

theorem step_accounted (policy : DisplayConfiguration → DisplayConfiguration) {changer : Changer}
    {label : ChangerStep} (accounted : changer.Accounted) (conclusive : changer.Conclusive label) :
    (changer.step policy label).Accounted := by
  cases label with
  | configure session conf =>
    simp only [step]
    split
    · exact configure_accounted accounted conf
    · exact accounted
  | removeSessionConfiguration session =>
    simp only [step]
    split
    · exact removeSessionConfiguration_accounted accounted
    · exact accounted
  | setBaseConfiguration conf => exact enqueue_accounted _ fun _ => rfl
  | previewBaseConfiguration session conf => exact previewBaseConfiguration_accounted accounted conf
  | confirmBaseConfiguration conf => exact enqueue_accounted _ fun _ => rfl
  | cancelBaseConfigurationPreview session =>
    exact cancelBaseConfigurationPreview_accounted accounted
  | configureForHardwareChange conf => exact accounted.enqueue fun _ => id
  | focusChange session => exact accounted.enqueue fun _ => id
  | noFocus => exact accounted.enqueue fun _ => id
  | sessionStopping session => exact accounted.enqueue fun _ => id
  | sessionDied session => exact accounted
  | previewTimeout answers => exact previewTimeout_accounted accounted conclusive
  | runAction answers =>
    cases queue : changer.queue with
    | nil => simpa only [step, queue] using accounted
    | cons action rest =>
      simp only [step, Conclusive, queue] at conclusive ⊢
      exact run_accounted policy accounted queue conclusive

/-- When a preview has ended and the queue has been worked off, no preview is shown, in a run with
timeouts as well. -/
theorem unconfirmed_eq_none (policy : DisplayConfiguration → DisplayConfiguration)
    {display : DisplayConfiguration} {alive : SessionID → Bool} {changer : Changer}
    (reached : Reaches (step policy) Conclusive (new display alive) changer)
    (ended : changer.previewing = false) (idle : changer.queue = []) :
    changer.unconfirmed = none := by
  have accounted : changer.Accounted :=
    reached.invariant (.inr rfl) fun _ _ accounted conclusive =>
      step_accounted policy accounted conclusive
  have nothing := accounted.resolve_left (Bool.eq_false_iff.mp ended)
  rw [idle] at nothing
  exact Option.not_isSome_iff_eq_none.mp (Bool.eq_false_iff.mp nothing)

/-! ### The next preview -/

/-- No action touches the queue or the alarm. -/
theorem run_keeps (policy : DisplayConfiguration → DisplayConfiguration) (changer : Changer)
    (answers : DisplayAnswers) (action : Action) :
    (run policy changer answers action).1.queue = changer.queue ∧
      (run policy changer answers action).1.previewConfigurationTimeout =
        changer.previewConfigurationTimeout := by
  have keeps {after : Changer} (change : changer.ShowsNoPreview after) :
      after.queue = changer.queue ∧
        after.previewConfigurationTimeout = changer.previewConfigurationTimeout :=
    ⟨change.queue, change.alarm⟩
  cases action with
  | configure session conf => exact keeps (changer.runConfigure_showsNoPreview answers session conf)
  | removeSessionConfiguration session =>
    exact keeps (changer.runRemoveSessionConfiguration_showsNoPreview answers session)
  | previewBaseConfiguration session conf =>
    exact changer.runPreviewBaseConfiguration_keeps answers session conf
  | cancelBaseConfigurationPreview session =>
    exact keeps (changer.runCancelBaseConfigurationPreview_showsNoPreview answers session)
  | configureForHardwareChange conf =>
    exact keeps (changer.runConfigureForHardwareChange_showsNoPreview answers policy conf)
  | focusChange session => exact keeps (changer.runFocusChange_showsNoPreview answers session)
  | noFocus => exact keeps (changer.runNoFocus_showsNoPreview answers)
  | sessionStopping session => exact keeps (changer.runSessionStopping_showsNoPreview session)
  | setBaseConfiguration conf =>
    exact keeps (changer.runSetBaseConfiguration_showsNoPreview answers conf)

/-- There is no alarm that went off. -/
def NoneTriggered (changer : Changer) : Prop :=
  ∀ alarm, changer.previewConfigurationTimeout = some alarm → alarm.triggered = false

/-- The alarm does not go off while a preview is in progress. -/
def InTime (changer : Changer) : ChangerStep → Prop
  | .previewTimeout _ => changer.previewing = false
  | _ => True

instance (changer : Changer) : DecidablePred changer.InTime
  | .previewTimeout _ => inferInstanceAs (Decidable (changer.previewing = false))
  | .configure _ _ | .removeSessionConfiguration _ | .setBaseConfiguration _
  | .previewBaseConfiguration _ _ | .confirmBaseConfiguration _
  | .cancelBaseConfigurationPreview _ | .configureForHardwareChange _ | .focusChange _ | .noFocus
  | .sessionStopping _ | .sessionDied _ | .runAction _ => inferInstanceAs (Decidable True)

/-- An alarm is made anew by each preview, and only going off changes it. -/
theorem step_noneTriggered (policy : DisplayConfiguration → DisplayConfiguration)
    {changer : Changer} {label : ChangerStep} (untriggered : changer.NoneTriggered)
    (inTime : changer.InTime label) : (changer.step policy label).NoneTriggered := by
  cases label with
  | configure session conf =>
    simp only [step, configure]
    split
    · split <;> exact untriggered
    · exact untriggered
  | removeSessionConfiguration session =>
    simp only [step, removeSessionConfiguration]
    split
    · split <;> exact untriggered
    · exact untriggered
  | previewBaseConfiguration session conf =>
    simp only [step, previewBaseConfiguration]
    split
    · exact untriggered
    · intro alarm recorded
      cases recorded
      rfl
  | confirmBaseConfiguration conf =>
    intro alarm recorded
    cases recorded
  | cancelBaseConfigurationPreview session =>
    simp only [step, cancelBaseConfigurationPreview]
    cases recorded : changer.previewConfigurationTimeout with
    | none => exact untriggered
    | some alarm =>
      dsimp only
      split
      · exact untriggered
      · -- Either way there is no alarm left.
        split
        all_goals
          intro alarm recorded
          cases recorded
  | setBaseConfiguration conf => exact untriggered
  | configureForHardwareChange conf => exact untriggered
  | focusChange session => exact untriggered
  | noFocus => exact untriggered
  | sessionStopping session => exact untriggered
  | sessionDied session => exact untriggered
  | previewTimeout answers =>
    have finished : changer.previewing = false := inTime
    cases recorded : changer.previewConfigurationTimeout with
    | none => simpa only [step, previewTimeout, recorded] using untriggered
    | some alarm =>
      have pending := untriggered alarm recorded
      simp [previewing, recorded, pending] at finished
  | runAction answers =>
    cases queue : changer.queue with
    | nil => simpa only [step, queue] using untriggered
    | cons action rest =>
      simp only [step, queue, NoneTriggered]
      rw [(run_keeps policy { changer with queue := rest } answers action).2]
      exact untriggered

/-- In every run in which previews are confirmed or cancelled in time and the steps that end them
are conclusive, nothing is left of a preview that has ended once the queue has been worked off:
the next preview is accepted, and the display does not show what was not confirmed. -/
theorem preview_leaves_nothing (policy : DisplayConfiguration → DisplayConfiguration)
    (display : DisplayConfiguration) (alive : SessionID → Bool) {changer : Changer}
    (reached : Reaches (step policy)
      (fun before label => before.InTime label ∧ before.Conclusive label)
      (new display alive) changer)
    (ended : changer.previewing = false) (idle : changer.queue = []) :
    (∀ session conf, ∃ after, changer.previewBaseConfiguration session conf = .ok after) ∧
      changer.unconfirmed ≠ some changer.display := by
  have untriggered : changer.NoneTriggered :=
    reached.invariant nofun fun _ _ untriggered permitted =>
      step_noneTriggered policy untriggered permitted.1
  have hidden := unconfirmed_eq_none policy (reached.mono fun _ _ permitted => permitted.2)
    ended idle
  refine ⟨fun session conf => ?_, by rw [hidden]; nofun⟩
  have free : changer.previewConfigurationTimeout = none := by
    cases recorded : changer.previewConfigurationTimeout with
    | none => rfl
    | some alarm =>
      have pending := untriggered alarm recorded
      simp [previewing, recorded, pending] at ended
  unfold previewBaseConfiguration
  rw [free]
  exact ⟨_, rfl⟩

/-- One preview is confirmed and another one cancelled. -/
def confirmedThenCancelled : List ChangerStep :=
  [.previewBaseConfiguration 1 (oneOutput 20), .runAction takesIt,
    .confirmBaseConfiguration (oneOutput 20), .runAction takesIt,
    .previewBaseConfiguration 2 (oneOutput 30), .runAction takesIt,
    .cancelBaseConfigurationPreview 2, .runAction takesIt]

theorem preview_leaves_nothing_confirmedThenCancelled :
    ∃ after, (confirmedThenCancelled.foldl (step id)
      (new (oneOutput 10) fun _ => true)).previewBaseConfiguration 1 (oneOutput 40) = .ok after :=
  (preview_leaves_nothing id (oneOutput 10) (fun _ => true)
    (Reaches.start.foldl confirmedThenCancelled (by decide)) (by decide) (by decide)).1 1
    (oneOutput 40)

/-- A session shows a preview and is gone when the alarm goes off. -/
def goneBeforeTimeout : List ChangerStep :=
  [.previewBaseConfiguration 1 (oneOutput 20), .runAction takesIt, .sessionDied 1,
    .previewTimeout takesIt]

/-- After a timeout the next preview is refused, and a preview of a session that is gone is still
shown. -/
theorem preview_left_behind :
    ¬ (∀ (policy : DisplayConfiguration → DisplayConfiguration) (display : DisplayConfiguration)
        (alive : SessionID → Bool) (changer : Changer),
      Reaches (step policy) (fun _ _ => True) (new display alive) changer →
      changer.previewing = false → changer.queue = [] →
      ∀ session conf, ∃ after, changer.previewBaseConfiguration session conf = .ok after) ∧
    ¬ (∀ (policy : DisplayConfiguration → DisplayConfiguration) (display : DisplayConfiguration)
        (alive : SessionID → Bool) (changer : Changer),
      Reaches (step policy) (fun _ _ => True) (new display alive) changer →
      changer.previewing = false → changer.queue = [] →
      changer.unconfirmed ≠ some changer.display) := by
  constructor
  · intro claimed
    obtain ⟨after, accepted⟩ := claimed id (oneOutput 10) (fun _ => true) _
      (Reaches.start.foldl goneBeforeTimeout (by decide)) (by decide) (by decide) 2 (oneOutput 30)
    cases accepted
  · intro claimed
    have hidden := claimed id (oneOutput 10) (fun _ => true) _
      (Reaches.start.foldl goneBeforeTimeout (by decide)) (by decide) (by decide)
    revert hidden
    decide

end Changer

end Mir.Scene

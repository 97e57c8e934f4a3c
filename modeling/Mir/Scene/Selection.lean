/-
This file settles which configuration the display has once the changer has come to rest:
the focused session's own, or the base configuration.

While actions are queued the display may lag behind. The invariant is that it then shows
what is selected or that something is still to come which will see to it: an alarm, or a
queued action that will apply what is selected when its turn comes. Each action keeps the
invariant under a condition of its own, which names what the code does not check: that
the session whose configuration is removed is the focused one, that the configuration an
action captured is still the one recorded, that the end of a preview does not cover the
configuration of a focused session.
-/

import Mir.Library.Transition
import Mir.Scene.DisplayChanger

namespace Mir.Scene

open Transition

/-- The display takes every configuration. -/
def DisplayAnswers.Accepting (answers : DisplayAnswers) : Prop :=
  answers.configure = .applied ∧
    (answers.preserving = .applied ∨ answers.preserving = .declined)

instance : DecidablePred DisplayAnswers.Accepting := fun answers =>
  inferInstanceAs (Decidable (answers.configure = .applied ∧
    (answers.preserving = .applied ∨ answers.preserving = .declined)))

namespace Changer

/-! ### The selected configuration -/

/-- The configuration of the focused session, if there is such a session and it has one. -/
def entry (changer : Changer) : Option DisplayConfiguration :=
  (changer.lock changer.focusedSession).bind changer.configMap

/-- What the display should show. -/
def selected (changer : Changer) : DisplayConfiguration :=
  changer.entry.getD changer.baseConfiguration

/-- A preview is in progress while its alarm may still go off. -/
def previewing (changer : Changer) : Bool :=
  changer.previewConfigurationTimeout.any fun alarm => !alarm.triggered

/-- The alarm will go off for a session that exists. -/
def alarmExpected (changer : Changer) : Bool :=
  changer.previewConfigurationTimeout.any fun alarm =>
    !alarm.triggered && changer.alive alarm.session

/-- An action that is expected to bring the display in line when it is run. -/
def Responsible (changer : Changer) : Action → Prop
  | .configure session conf =>
    changer.lock changer.focusedSession = some session ∧ changer.configMap session = some conf
  | .removeSessionConfiguration session =>
    changer.lock changer.focusedSession = some session ∧ changer.configMap session = none
  | .focusChange session => changer.alive session = true
  | .cancelBaseConfigurationPreview session => changer.alive session = true
  | .noFocus => True
  | .setBaseConfiguration _ => True
  | .previewBaseConfiguration _ _ => False
  | .configureForHardwareChange _ => False
  | .sessionStopping _ => False

instance (changer : Changer) : DecidablePred changer.Responsible
  | .configure _ _ | .removeSessionConfiguration _ => inferInstanceAs (Decidable (_ ∧ _))
  | .focusChange session | .cancelBaseConfigurationPreview session =>
    inferInstanceAs (Decidable (changer.alive session = true))
  | .noFocus | .setBaseConfiguration _ => inferInstanceAs (Decidable True)
  | .previewBaseConfiguration _ _ | .configureForHardwareChange _ | .sessionStopping _ =>
    inferInstanceAs (Decidable False)

/-- The display may lag behind: something is still to come. -/
def Excused (changer : Changer) : Prop :=
  changer.alarmExpected = true ∨ ∃ action ∈ changer.queue, changer.Responsible action

instance : DecidablePred Excused := fun changer =>
  inferInstanceAs (Decidable (changer.alarmExpected = true ∨
    ∃ action ∈ changer.queue, changer.Responsible action))

/-- What holds in every state of a run. -/
structure Consistent (changer : Changer) : Prop where
  base_shown : changer.baseConfigurationApplied = true →
    changer.display = changer.baseConfiguration
  settled : changer.display = changer.selected ∨ changer.Excused
  no_hardware_change : ∀ conf, Action.configureForHardwareChange conf ∉ changer.queue

/-! ### When an action is in order -/

/-- An action that finds the changer, its own place in the queue already given up, as it
expects it. -/
def InOrder (changer : Changer) : Action → Prop
  | .configure session conf =>
    changer.lock changer.focusedSession = some session → changer.configMap session = some conf
  | .removeSessionConfiguration session => changer.alive session = true → changer.entry = none
  | .cancelBaseConfigurationPreview session => changer.alive session = true → changer.entry = none
  | .previewBaseConfiguration session conf =>
    changer.alive session = true → conf = changer.selected
  | .setBaseConfiguration conf =>
    match changer.entry with
    | none => changer.baseConfigurationApplied = true ∨ changer.display = conf
    | some own => if changer.baseConfigurationApplied = true then conf = own
        else changer.display = own
  | .sessionStopping session =>
    changer.lock changer.focusedSession = some session →
      changer.configMap session = none ∨ changer.display = changer.baseConfiguration
  | .configureForHardwareChange _ => True
  | .focusChange _ => True
  | .noFocus => True

instance (changer : Changer) : DecidablePred changer.InOrder
  | .configure _ _ | .removeSessionConfiguration _ | .cancelBaseConfigurationPreview _
  | .previewBaseConfiguration _ _ => inferInstanceAs (Decidable (_ → _ = _))
  | .setBaseConfiguration conf =>
    match own : changer.entry with
    | none => decidable_of_iff
        (changer.baseConfigurationApplied = true ∨ changer.display = conf)
        (by simp only [InOrder, own])
    | some entry => decidable_of_iff
        (if changer.baseConfigurationApplied = true then conf = entry else changer.display = entry)
        (by simp only [InOrder, own])
  | .sessionStopping _ => inferInstanceAs (Decidable (_ → _ ∨ _))
  | .configureForHardwareChange _ | .focusChange _ | .noFocus => inferInstanceAs (Decidable True)

/-- What is left to be done when an action has had its turn: the rest of the queue, for a
session that stops without its configuration. -/
def remaining (changer : Changer) (action : Action) (rest : List Action) : Changer :=
  match action with
  | .sessionStopping session => (runSessionStopping { changer with queue := rest } session).1
  | _ => { changer with queue := rest }

/-- The changer without a session. -/
def without (changer : Changer) (session : SessionID) : Changer :=
  { changer with alive := Function.update changer.alive session false }

/-- The display takes every configuration and the hardware does not change. -/
def Undisturbed : ChangerStep → Prop
  | .configureForHardwareChange _ => False
  | .previewTimeout answers => answers.Accepting
  | .runAction answers => answers.Accepting
  | _ => True

instance : DecidablePred Undisturbed
  | .configureForHardwareChange _ => inferInstanceAs (Decidable False)
  | .previewTimeout answers | .runAction answers => inferInstanceAs (Decidable answers.Accepting)
  | .configure _ _ | .removeSessionConfiguration _ | .setBaseConfiguration _
  | .previewBaseConfiguration _ _ | .confirmBaseConfiguration _
  | .cancelBaseConfigurationPreview _ | .focusChange _ | .noFocus | .sessionStopping _
  | .sessionDied _ => inferInstanceAs (Decidable True)

/-- A step after which nothing is left wrong: what it does is in order, or something else is
still to come. -/
def Orderly (changer : Changer) : ChangerStep → Prop
  | .runAction _ =>
    match changer.queue with
    | [] => True
    | action :: rest => (changer.remaining action rest).Excused ∨
        InOrder { changer with queue := rest } action
  | .previewTimeout _ =>
    Excused { changer with previewConfigurationTimeout := none } ∨
      (changer.alarmExpected = true → changer.entry = none)
  | .sessionDied session =>
    (changer.without session).Excused ∨ changer.display = changer.selected ∧
      (changer.focusedSession = some session →
        changer.configMap session = none ∨ changer.display = changer.baseConfiguration)
  | _ => True

instance (changer : Changer) : DecidablePred changer.Orderly
  | .runAction _ =>
    match queue : changer.queue with
    | [] => .isTrue (by simp only [Orderly, queue])
    | action :: rest => decidable_of_iff
        ((changer.remaining action rest).Excused ∨ InOrder { changer with queue := rest } action)
        (by simp only [Orderly, queue])
  | .previewTimeout _ => inferInstanceAs (Decidable (_ ∨ (_ → _)))
  | .sessionDied _ => inferInstanceAs (Decidable (_ ∨ _ ∧ (_ → _ ∨ _)))
  | .configure _ _ | .removeSessionConfiguration _ | .setBaseConfiguration _
  | .previewBaseConfiguration _ _ | .confirmBaseConfiguration _
  | .cancelBaseConfigurationPreview _ | .configureForHardwareChange _ | .focusChange _ | .noFocus
  | .sessionStopping _ => inferInstanceAs (Decidable True)

/-! ### What the selection depends on -/

/-- Two changers that select by the same records. -/
structure SelectsAs (before after : Changer) : Prop where
  alive : after.alive = before.alive
  focusedSession : after.focusedSession = before.focusedSession
  configMap : ∀ session, before.lock before.focusedSession = some session →
    after.configMap session = before.configMap session

namespace SelectsAs

variable {before after : Changer}

theorem lock (same : before.SelectsAs after) :
    after.lock after.focusedSession = before.lock before.focusedSession := by
  unfold Changer.lock
  rw [same.focusedSession, same.alive]

theorem entry (same : before.SelectsAs after) : after.entry = before.entry := by
  unfold Changer.entry
  rw [same.lock]
  cases focus : before.lock before.focusedSession with
  | none => rfl
  | some session => exact same.configMap session focus

theorem responsible (same : before.SelectsAs after) {action : Action}
    (responsible : before.Responsible action) : after.Responsible action := by
  cases action with
  | configure session conf =>
    exact ⟨same.lock.trans responsible.1,
      (same.configMap session responsible.1).trans responsible.2⟩
  | removeSessionConfiguration session =>
    exact ⟨same.lock.trans responsible.1,
      (same.configMap session responsible.1).trans responsible.2⟩
  | focusChange session => exact (congrFun same.alive session).trans responsible
  | cancelBaseConfigurationPreview session =>
    exact (congrFun same.alive session).trans responsible
  | noFocus => trivial
  | setBaseConfiguration conf => trivial
  | previewBaseConfiguration session conf => exact responsible
  | configureForHardwareChange conf => exact responsible
  | sessionStopping session => exact responsible

/-- An excuse stays one while the alarm is kept and the responsible actions are. -/
theorem excused (same : before.SelectsAs after)
    (alarm : before.alarmExpected = true → after.alarmExpected = true)
    (queue : ∀ action ∈ before.queue, before.Responsible action → action ∈ after.queue)
    (excused : before.Excused) : after.Excused := by
  obtain expected | ⟨action, queued, responsible⟩ := excused
  · exact .inl (alarm expected)
  · exact .inr ⟨action, queue action queued responsible, same.responsible responsible⟩

/-- A step that applies nothing leaves matters as they were. -/
theorem settled (same : before.SelectsAs after)
    (display : after.display = before.display)
    (base : after.baseConfiguration = before.baseConfiguration)
    (alarm : before.alarmExpected = true → after.alarmExpected = true)
    (queue : ∀ action ∈ before.queue, before.Responsible action → action ∈ after.queue)
    (settled : before.display = before.selected ∨ before.Excused) :
    after.display = after.selected ∨ after.Excused := by
  refine settled.imp (fun shown => ?_) (same.excused alarm queue)
  unfold selected at shown ⊢
  rw [display, base, same.entry, shown]

end SelectsAs

/-- Recording something for a session that is not focused does not change what is selected. -/
theorem selectsAs_update (changer : Changer) {session : SessionID}
    (value : Option DisplayConfiguration)
    (elsewhere : changer.lock changer.focusedSession ≠ some session) :
    changer.SelectsAs
      { changer with configMap := Function.update changer.configMap session value } where
  alive := rfl
  focusedSession := rfl
  configMap other focus := by
    have different : other ≠ session := by
      rintro rfl
      exact elsewhere focus
    exact Function.update_of_ne different _ _

theorem alive_of_lock {changer : Changer} {weak : Option SessionID} {session : SessionID}
    (locked : changer.lock weak = some session) : changer.alive session = true :=
  (Option.filter_eq_some_iff.mp locked).2

theorem entry_of_lock {changer : Changer} {session : SessionID}
    (locked : changer.lock changer.focusedSession = some session) :
    changer.entry = changer.configMap session := by
  unfold entry
  rw [locked]
  rfl

theorem selected_of_entry {changer : Changer} (none : changer.entry = none) :
    changer.selected = changer.baseConfiguration := by
  unfold selected
  rw [none]
  rfl

theorem selectsAs_enqueue (changer : Changer) (action : Action) :
    changer.SelectsAs (changer.enqueue action) :=
  ⟨rfl, rfl, fun _ _ => rfl⟩

theorem enqueue_no_hardware_change {changer : Changer} {action : Action}
    (hardware : ∀ conf, Action.configureForHardwareChange conf ∉ changer.queue)
    (other : ∀ conf, action ≠ .configureForHardwareChange conf) (conf : DisplayConfiguration) :
    Action.configureForHardwareChange conf ∉ (changer.enqueue action).queue := by
  intro queued
  rcases List.mem_append.mp queued with earlier | last
  · exact hardware conf earlier
  · exact other conf (List.mem_singleton.mp last).symm

/-- Putting off an action harms nothing, unless it is a hardware change. -/
theorem Consistent.enqueue {changer : Changer} (consistent : changer.Consistent) {action : Action}
    (other : ∀ conf, action ≠ .configureForHardwareChange conf) :
    (changer.enqueue action).Consistent where
  base_shown := consistent.base_shown
  settled := (changer.selectsAs_enqueue action).settled rfl rfl id
    (fun _ queued _ => List.mem_append_left _ queued) consistent.settled
  no_hardware_change := enqueue_no_hardware_change consistent.no_hardware_change other

/-- Queueing a responsible action is an excuse for whatever has just been recorded. -/
theorem enqueue_consistent {changer : Changer} {action : Action}
    (base : changer.baseConfigurationApplied = true → changer.display = changer.baseConfiguration)
    (hardware : ∀ conf, Action.configureForHardwareChange conf ∉ changer.queue)
    (other : ∀ conf, action ≠ .configureForHardwareChange conf)
    (responsible : changer.Responsible action) : (changer.enqueue action).Consistent where
  base_shown := base
  settled := .inr (.inr ⟨action, List.mem_append_right _ List.mem_cons_self,
    (changer.selectsAs_enqueue action).responsible responsible⟩)
  no_hardware_change := enqueue_no_hardware_change hardware other

/-! ### Applying a configuration -/

section Accepting

variable {answers : DisplayAnswers}

theorem rejection_of_accepting (changer : Changer) (conf : DisplayConfiguration)
    (accepting : answers.Accepting) : changer.rejection answers conf = none := by
  obtain ⟨configures, preserves⟩ := accepting
  unfold rejection
  rw [configures]
  split
  · rfl
  · rcases preserves with applied | declined
    · rw [applied]
    · rw [declined]
      rfl

/-- Applying what is selected settles matters; applying something else is excused if something
is still to come. -/
theorem applyConfig_consistent {changer : Changer} {conf : DisplayConfiguration}
    (accepting : answers.Accepting)
    (hardware : ∀ other, Action.configureForHardwareChange other ∉ changer.queue)
    (fits : changer.Excused ∨ conf = changer.selected) :
    (changer.applyConfig answers conf).1.Consistent := by
  obtain ⟨running, applied⟩ :=
    applyConfig_of_accepted (changer.rejection_of_accepting conf accepting)
  rw [applied]
  exact ⟨nofun, fits.symm, hardware⟩

theorem applyBaseConfig_consistent {changer : Changer} (accepting : answers.Accepting)
    (hardware : ∀ other, Action.configureForHardwareChange other ∉ changer.queue)
    (fits : changer.Excused ∨ changer.entry = none) :
    (changer.applyBaseConfig answers).1.Consistent := by
  obtain ⟨running, applied⟩ := applyBaseConfig_of_accepted
    (changer.rejection_of_accepting changer.baseConfiguration accepting)
  rw [applied]
  exact ⟨fun _ => rfl, fits.symm.imp (fun none => (selected_of_entry none).symm) id, hardware⟩

end Accepting

/-! ### Running an action -/

/-- A changer whose next action has just been taken from the queue: consistent, but for what
that action is there to do. -/
structure ConsistentBut (changer : Changer) (action : Action) : Prop where
  base_shown : changer.baseConfigurationApplied = true →
    changer.display = changer.baseConfiguration
  settled : changer.Responsible action ∨ changer.display = changer.selected ∨ changer.Excused
  no_hardware_change : ∀ conf, Action.configureForHardwareChange conf ∉ changer.queue

theorem Consistent.take {changer : Changer} (consistent : changer.Consistent) {action : Action}
    {rest : List Action} (queue : changer.queue = action :: rest) :
    ConsistentBut { changer with queue := rest } action where
  base_shown := consistent.base_shown
  settled := by
    have same : changer.SelectsAs { changer with queue := rest } := ⟨rfl, rfl, fun _ _ => rfl⟩
    by_cases responsible : changer.Responsible action
    · exact .inl (same.responsible responsible)
    · refine .inr (same.settled rfl rfl id (fun other queued responsibleOther => ?_)
        consistent.settled)
      rw [queue] at queued
      rcases List.mem_cons.mp queued with rfl | later
      · exact absurd responsibleOther responsible
      · exact later
  no_hardware_change conf later :=
    consistent.no_hardware_change conf (queue ▸ List.mem_cons_of_mem _ later)

theorem ConsistentBut.consistent {changer : Changer} {action : Action}
    (but : changer.ConsistentBut action) (irresponsible : ¬changer.Responsible action) :
    changer.Consistent :=
  ⟨but.base_shown, but.settled.resolve_left irresponsible, but.no_hardware_change⟩

section Running

variable {changer : Changer} {answers : DisplayAnswers} {session : SessionID}
  {conf : DisplayConfiguration}

theorem runConfigure_consistent (accepting : answers.Accepting)
    (but : changer.ConsistentBut (.configure session conf))
    (orderly : changer.Excused ∨ changer.InOrder (.configure session conf)) :
    (changer.runConfigure answers session conf).1.Consistent := by
  unfold runConfigure
  split
  case isTrue focused =>
    refine applyConfig_consistent accepting but.no_hardware_change (orderly.imp_right ?_)
    intro inOrder
    unfold selected
    rw [entry_of_lock focused.2, inOrder focused.2]
    rfl
  case isFalse unfocused =>
    refine but.consistent fun responsible => unfocused ?_
    exact ⟨alive_of_lock responsible.1, responsible.1⟩

theorem runRemoveSessionConfiguration_consistent (accepting : answers.Accepting)
    (but : changer.ConsistentBut (.removeSessionConfiguration session))
    (orderly : changer.Excused ∨ changer.InOrder (.removeSessionConfiguration session)) :
    (changer.runRemoveSessionConfiguration answers session).1.Consistent := by
  unfold runRemoveSessionConfiguration
  split
  case isTrue alive =>
    exact applyBaseConfig_consistent accepting but.no_hardware_change
      (orderly.imp_right fun inOrder => inOrder alive)
  case isFalse gone =>
    exact but.consistent fun responsible => gone (alive_of_lock responsible.1)

theorem runPreviewBaseConfiguration_consistent (accepting : answers.Accepting)
    (but : changer.ConsistentBut (.previewBaseConfiguration session conf))
    (orderly : changer.Excused ∨ changer.InOrder (.previewBaseConfiguration session conf)) :
    (changer.runPreviewBaseConfiguration answers session conf).1.Consistent := by
  unfold runPreviewBaseConfiguration
  split
  case isTrue alive =>
    have applies := applyConfig_consistent accepting but.no_hardware_change
      (orderly.imp_right fun inOrder => inOrder alive)
    obtain ⟨running, applied⟩ :=
      applyConfig_of_accepted (changer.rejection_of_accepting conf accepting)
    rw [applied] at applies ⊢
    exact ⟨applies.base_shown, applies.settled, applies.no_hardware_change⟩
  case isFalse => exact but.consistent id

theorem runCancelBaseConfigurationPreview_consistent (accepting : answers.Accepting)
    (but : changer.ConsistentBut (.cancelBaseConfigurationPreview session))
    (orderly : changer.Excused ∨ changer.InOrder (.cancelBaseConfigurationPreview session)) :
    (changer.runCancelBaseConfigurationPreview answers session).1.Consistent := by
  unfold runCancelBaseConfigurationPreview
  split
  case isTrue alive =>
    exact applyBaseConfig_consistent accepting but.no_hardware_change
      (orderly.imp_right fun inOrder => inOrder alive)
  case isFalse gone => exact but.consistent gone

/-- A focus change needs no condition: it applies what it selects. -/
theorem runFocusChange_consistent (accepting : answers.Accepting)
    (but : changer.ConsistentBut (.focusChange session)) :
    (changer.runFocusChange answers session).1.Consistent := by
  unfold runFocusChange
  split
  case isTrue alive =>
    let focused : Changer := { changer with focusedSession := some session }
    have locked : focused.lock focused.focusedSession = some session :=
      Option.filter_eq_some_iff.mpr ⟨rfl, alive⟩
    have own : focused.entry = changer.configMap session := entry_of_lock locked
    cases recorded : changer.configMap session with
    | some conf =>
      simp only [recorded]
      refine applyConfig_consistent accepting but.no_hardware_change (.inr ?_)
      unfold selected
      rw [own, recorded]
      rfl
    | none =>
      have none : focused.entry = none := own.trans recorded
      simp only [recorded]
      split
      case isTrue inForce =>
        refine ⟨but.base_shown, .inl ?_, but.no_hardware_change⟩
        exact (but.base_shown inForce).trans (selected_of_entry none).symm
      case isFalse =>
        exact applyBaseConfig_consistent accepting but.no_hardware_change (.inr none)
  case isFalse gone => exact but.consistent gone

theorem runNoFocus_consistent (accepting : answers.Accepting)
    (but : changer.ConsistentBut .noFocus) :
    (changer.runNoFocus answers).1.Consistent := by
  unfold runNoFocus
  let unfocused : Changer := { changer with focusedSession := none }
  have none : unfocused.entry = none := rfl
  dsimp only
  split
  case isTrue inForce =>
    refine ⟨but.base_shown, .inl ?_, but.no_hardware_change⟩
    exact (but.base_shown inForce).trans (selected_of_entry none).symm
  case isFalse =>
    exact applyBaseConfig_consistent accepting but.no_hardware_change (.inr none)

/-- A session that stops takes its configuration with it; nothing is applied in its place. -/
theorem runSessionStopping_consistent (but : changer.ConsistentBut (.sessionStopping session))
    (orderly : (changer.runSessionStopping session).1.Excused ∨
      changer.InOrder (.sessionStopping session)) :
    (changer.runSessionStopping session).1.Consistent := by
  have before : changer.Consistent := but.consistent id
  unfold runSessionStopping at orderly ⊢
  split
  case isFalse => exact before
  case isTrue alive =>
    rw [if_pos alive] at orderly
    refine ⟨before.base_shown, ?_, before.no_hardware_change⟩
    rcases orderly with excused | inOrder
    · exact .inr excused
    by_cases focus : changer.lock changer.focusedSession = some session
    · rcases inOrder focus with absent | shown
      · -- There was nothing to forget.
        rw [Function.update_eq_self_iff.mpr absent.symm]
        exact before.settled
      · left
        have forgotten : Function.update changer.configMap session none session = none :=
          Function.update_self _ _ _
        unfold selected entry
        dsimp only [lock] at focus ⊢
        rw [focus, Option.bind_some, forgotten]
        exact shown
    · exact (changer.selectsAs_update none focus).settled rfl rfl id (fun _ queued _ => queued)
        before.settled

theorem runSetBaseConfiguration_consistent (accepting : answers.Accepting)
    (but : changer.ConsistentBut (.setBaseConfiguration conf))
    (orderly : changer.Excused ∨ changer.InOrder (.setBaseConfiguration conf)) :
    (changer.runSetBaseConfiguration answers conf).1.Consistent := by
  unfold runSetBaseConfiguration
  dsimp only
  let updated : Changer :=
    { changer with
      baseConfiguration := conf
      unconfirmed := if changer.unconfirmed = some conf then none else changer.unconfirmed }
  have same : updated.entry = changer.entry := rfl
  split
  case isTrue inForce =>
    obtain ⟨running, applied⟩ :=
      applyBaseConfig_of_accepted (updated.rejection_of_accepting conf accepting)
    rw [applied]
    refine ⟨fun _ => rfl, orderly.symm.imp (fun inOrder => ?_) id, but.no_hardware_change⟩
    show conf = changer.entry.getD conf
    simp only [InOrder, if_pos inForce] at inOrder
    cases own : changer.entry with
    | none => rfl
    | some own' =>
      rw [own] at inOrder
      exact inOrder
  case isFalse notInForce =>
    refine ⟨fun inForce => absurd inForce notInForce, orderly.symm.imp (fun inOrder => ?_) id,
      but.no_hardware_change⟩
    show changer.display = changer.entry.getD conf
    simp only [InOrder, if_neg notInForce] at inOrder
    cases own : changer.entry with
    | none =>
      rw [own] at inOrder
      exact inOrder.resolve_left notInForce
    | some own' =>
      rw [own] at inOrder
      exact inOrder

end Running

/-- Every action keeps the changer consistent when it is in order or something is still to
come. -/
theorem run_consistent (policy : DisplayConfiguration → DisplayConfiguration) {changer : Changer}
    {answers : DisplayAnswers} {action : Action} {rest : List Action}
    (accepting : answers.Accepting) (consistent : changer.Consistent)
    (queue : changer.queue = action :: rest)
    (orderly : (changer.remaining action rest).Excused ∨
      InOrder { changer with queue := rest } action) :
    (run policy { changer with queue := rest } answers action).1.Consistent := by
  have but := consistent.take queue
  cases action with
  | configure session conf => exact runConfigure_consistent accepting but orderly
  | removeSessionConfiguration session =>
    exact runRemoveSessionConfiguration_consistent accepting but orderly
  | previewBaseConfiguration session conf =>
    exact runPreviewBaseConfiguration_consistent accepting but orderly
  | cancelBaseConfigurationPreview session =>
    exact runCancelBaseConfigurationPreview_consistent accepting but orderly
  | configureForHardwareChange conf =>
    exact absurd (queue ▸ List.mem_cons_self) (consistent.no_hardware_change conf)
  | focusChange session => exact runFocusChange_consistent accepting but
  | noFocus => exact runNoFocus_consistent accepting but
  | sessionStopping session => exact runSessionStopping_consistent but orderly
  | setBaseConfiguration conf => exact runSetBaseConfiguration_consistent accepting but orderly

/-! ### Calls -/

section Calls

variable {changer : Changer} {session : SessionID}

/-- What a session records for itself is queued while it is focused, and does not matter while it
is not. -/
theorem record_consistent (consistent : changer.Consistent) (value : Option DisplayConfiguration)
    {recorded : Changer}
    (records : recorded =
      { changer with configMap := Function.update changer.configMap session value })
    {action : Action} (other : ∀ conf, action ≠ .configureForHardwareChange conf)
    (responsible : recorded.lock recorded.focusedSession = some session →
      recorded.Responsible action) :
    (if recorded.lock recorded.focusedSession = some session then recorded.enqueue action
      else recorded).Consistent := by
  subst records
  split
  case isTrue focused =>
    exact enqueue_consistent consistent.base_shown consistent.no_hardware_change other
      (responsible focused)
  case isFalse unfocused =>
    have same := changer.selectsAs_update value unfocused
    exact ⟨consistent.base_shown,
      same.settled rfl rfl id (fun _ queued _ => queued) consistent.settled,
      consistent.no_hardware_change⟩

theorem configure_consistent (consistent : changer.Consistent) (conf : DisplayConfiguration) :
    (changer.configure session conf).Consistent :=
  record_consistent consistent (some conf) rfl nofun
    fun focused => ⟨focused, Function.update_self _ _ _⟩

theorem removeSessionConfiguration_consistent (consistent : changer.Consistent) :
    (changer.removeSessionConfiguration session).Consistent :=
  record_consistent consistent none rfl nofun
    fun focused => ⟨focused, Function.update_self _ _ _⟩

/-- An alarm nothing is expected of may be replaced. -/
theorem Consistent.replaceAlarm (consistent : changer.Consistent)
    (unexpected : changer.alarmExpected ≠ true) (alarm : Option Alarm)
    (previewer : Option SessionID) :
    Consistent { changer with
      previewConfigurationTimeout := alarm
      currentlyPreviewingSession := previewer } where
  base_shown := consistent.base_shown
  settled := by
    have same : changer.SelectsAs
        { changer with
          previewConfigurationTimeout := alarm
          currentlyPreviewingSession := previewer } := ⟨rfl, rfl, fun _ _ => rfl⟩
    exact same.settled rfl rfl (fun expected => absurd expected unexpected)
      (fun _ queued _ => queued) consistent.settled
  no_hardware_change := consistent.no_hardware_change

theorem previewBaseConfiguration_consistent (consistent : changer.Consistent)
    (conf : DisplayConfiguration) :
    ((changer.previewBaseConfiguration session conf).toOption.getD changer).Consistent := by
  unfold previewBaseConfiguration
  split
  case isTrue => exact consistent
  case isFalse idle =>
    have unexpected : changer.alarmExpected ≠ true := by
      unfold alarmExpected
      rw [Option.not_isSome_iff_eq_none.mp idle]
      nofun
    exact (consistent.replaceAlarm unexpected (some ⟨session, false⟩) (some session)).enqueue nofun

theorem confirmBaseConfiguration_consistent (consistent : changer.Consistent)
    (conf : DisplayConfiguration) : (changer.confirmBaseConfiguration conf).Consistent :=
  enqueue_consistent consistent.base_shown consistent.no_hardware_change nofun trivial

theorem cancelBaseConfigurationPreview_consistent (consistent : changer.Consistent) :
    ((changer.cancelBaseConfigurationPreview session).toOption.getD changer).Consistent := by
  unfold cancelBaseConfigurationPreview
  cases recorded : changer.previewConfigurationTimeout with
  | none => exact consistent
  | some alarm =>
    dsimp only
    split
    case isTrue => exact consistent
    case isFalse previewing =>
      split
      case isTrue triggered =>
        have unexpected : changer.alarmExpected ≠ true := by
          simp [alarmExpected, recorded, triggered]
        exact consistent.replaceAlarm unexpected none none
      case isFalse =>
        have alive : changer.alive session = true := alive_of_lock (not_not.mp previewing)
        exact enqueue_consistent consistent.base_shown consistent.no_hardware_change nofun alive

/-- The alarm applies the base configuration, whatever the focused session has. -/
theorem previewTimeout_consistent {answers : DisplayAnswers} (consistent : changer.Consistent)
    (accepting : answers.Accepting) (orderly : changer.Orderly (.previewTimeout answers)) :
    (changer.previewTimeout answers).1.Consistent := by
  unfold previewTimeout
  cases recorded : changer.previewConfigurationTimeout with
  | none => exact consistent
  | some alarm =>
    dsimp only
    split
    case isTrue => exact consistent
    case isFalse pending =>
      split
      case isTrue alive =>
        have expected : changer.alarmExpected = true := by
          simp [alarmExpected, recorded, alive, pending]
        refine applyBaseConfig_consistent accepting consistent.no_hardware_change ?_
        rcases orderly with excused | inOrder
        · have same : SelectsAs { changer with previewConfigurationTimeout := none }
              { changer with
                previewConfigurationTimeout := some { alarm with triggered := true } } :=
            ⟨rfl, rfl, fun _ _ => rfl⟩
          exact .inl (same.excused nofun (fun _ queued _ => queued) excused)
        · exact .inr (inOrder expected)
      case isFalse gone =>
        have unexpected : changer.alarmExpected ≠ true := by
          simp [alarmExpected, recorded, gone]
        exact consistent.replaceAlarm unexpected _ changer.currentlyPreviewingSession

/-- A reference to something else is not affected by the end of a session. -/
theorem lock_without_of_ne {weak : Option SessionID}
    (elsewhere : changer.lock weak ≠ some session) :
    (changer.without session).lock weak = changer.lock weak := by
  cases weak with
  | none => rfl
  | some other =>
    rcases eq_or_ne other session with rfl | different
    · have gone : changer.alive other = false := by
        simpa [lock, Option.filter] using elsewhere
      simp [lock, without, Option.filter, gone]
    · simp [lock, without, Option.filter, Function.update_of_ne different]

/-- A session that is gone is not focused any more, and what waited for it is not done. -/
theorem sessionDied_consistent (consistent : changer.Consistent)
    (orderly : changer.Orderly (.sessionDied session)) :
    (changer.without session).Consistent where
  base_shown := consistent.base_shown
  settled := by
    refine orderly.symm.imp_left fun inOrder => ?_
    obtain ⟨shown, deprived⟩ := inOrder
    by_cases focus : changer.lock changer.focusedSession = some session
    · have weak : changer.focusedSession = some session := (Option.filter_eq_some_iff.mp focus).1
      have unfocused : (changer.without session).entry = none := by
        simp [entry, lock, without, weak, Option.filter]
      refine Eq.trans ?_ (selected_of_entry unfocused).symm
      rcases deprived weak with absent | base
      · exact shown.trans (selected_of_entry ((entry_of_lock focus).trans absent))
      · exact base
    · have same : (changer.without session).entry = changer.entry := by
        unfold entry
        exact congrArg (·.bind changer.configMap) (lock_without_of_ne focus)
      unfold selected
      rw [same]
      exact shown
  no_hardware_change := consistent.no_hardware_change

end Calls

/-! ### Whole runs -/

theorem new_consistent (display : DisplayConfiguration) (alive : SessionID → Bool) :
    (new display alive).Consistent where
  base_shown _ := rfl
  settled := .inl rfl
  no_hardware_change := nofun

theorem previewing_of_alarmExpected {changer : Changer} (expected : changer.alarmExpected = true) :
    changer.previewing = true := by
  unfold alarmExpected at expected
  unfold previewing
  cases recorded : changer.previewConfigurationTimeout with
  | none =>
    rw [recorded] at expected
    cases expected
  | some alarm =>
    rw [recorded] at expected
    exact (Bool.and_eq_true_iff.mp expected).1

theorem step_consistent (policy : DisplayConfiguration → DisplayConfiguration) {changer : Changer}
    {label : ChangerStep} (consistent : changer.Consistent) (undisturbed : Undisturbed label)
    (orderly : changer.Orderly label) : (changer.step policy label).Consistent := by
  cases label with
  | configure session conf =>
    simp only [step]
    split
    · exact configure_consistent consistent conf
    · exact consistent
  | removeSessionConfiguration session =>
    simp only [step]
    split
    · exact removeSessionConfiguration_consistent consistent
    · exact consistent
  | setBaseConfiguration conf => exact consistent.enqueue nofun
  | previewBaseConfiguration session conf =>
    exact previewBaseConfiguration_consistent consistent conf
  | confirmBaseConfiguration conf => exact confirmBaseConfiguration_consistent consistent conf
  | cancelBaseConfigurationPreview session =>
    exact cancelBaseConfigurationPreview_consistent consistent
  | configureForHardwareChange conf => exact undisturbed.elim
  | focusChange session => exact consistent.enqueue nofun
  | noFocus => exact consistent.enqueue nofun
  | sessionStopping session => exact consistent.enqueue nofun
  | sessionDied session => exact sessionDied_consistent consistent orderly
  | previewTimeout answers => exact previewTimeout_consistent consistent undisturbed orderly
  | runAction answers =>
    cases queue : changer.queue with
    | nil => simpa only [step, queue] using consistent
    | cons action rest =>
      simp only [step, Orderly, queue] at orderly ⊢
      exact run_consistent policy undisturbed consistent queue orderly

/-- In every run in which each step is in order, the display shows the focused session's
configuration, or the base configuration if that session has none, whenever the queue is empty
and no preview is in progress. -/
theorem display_eq_selected (policy : DisplayConfiguration → DisplayConfiguration)
    (display : DisplayConfiguration) (alive : SessionID → Bool) {changer : Changer}
    (reached : Reaches (step policy)
      (fun before label => Undisturbed label ∧ before.Orderly label) (new display alive) changer)
    (idle : changer.queue = []) (ended : changer.previewing = false) :
    changer.display = changer.selected := by
  have consistent : changer.Consistent := reached.invariant (new_consistent display alive)
    fun before label consistent permitted =>
      step_consistent policy consistent permitted.1 permitted.2
  refine consistent.settled.resolve_right ?_
  rintro (expected | ⟨action, queued, -⟩)
  · rw [previewing_of_alarmExpected expected] at ended
    cases ended
  · rw [idle] at queued
    cases queued

/-- A session is focused, previews a base configuration and confirms it, and then has one of its
own for a while. -/
def confirmedAndOwn : List ChangerStep :=
  [.focusChange 1, .runAction takesIt,
    .previewBaseConfiguration 1 (oneOutput 20), .runAction takesIt,
    .confirmBaseConfiguration (oneOutput 20), .runAction takesIt,
    .configure 1 (oneOutput 30), .runAction takesIt,
    .removeSessionConfiguration 1, .runAction takesIt]

theorem display_eq_selected_confirmedAndOwn :
    (confirmedAndOwn.foldl (step id) (new (oneOutput 10) fun _ => true)).display = oneOutput 20 :=
  (display_eq_selected id (oneOutput 10) (fun _ => true)
    (Reaches.start.foldl confirmedAndOwn (by decide)) (by decide) (by decide)).trans (by decide)

/-- While its configuration is still being removed, the session loses the focus to another that
has one. -/
def removedTooLate : List ChangerStep :=
  [.focusChange 1, .runAction takesIt,
    .configure 1 (oneOutput 20), .runAction takesIt,
    .configure 2 (oneOutput 30),
    .focusChange 2, .removeSessionConfiguration 1, .runAction takesIt, .runAction takesIt]

/-- The base configuration is applied for a session that is not focused any more. -/
theorem display_ne_selected_removedTooLate :
    ¬ ∀ (policy : DisplayConfiguration → DisplayConfiguration) (display : DisplayConfiguration)
        (alive : SessionID → Bool) (changer : Changer),
      Reaches (step policy) (fun _ label => Undisturbed label) (new display alive) changer →
      changer.queue = [] → changer.previewing = false → changer.display = changer.selected := by
  intro claimed
  have shown := claimed id (oneOutput 10) (fun _ => true) _
    (Reaches.start.foldl removedTooLate (by decide)) (by decide) (by decide)
  revert shown
  decide

end Changer

end Mir.Scene

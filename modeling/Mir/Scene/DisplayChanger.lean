/-
This file models `MediatingDisplayChanger`, which decides what configuration the display
has. There is a base configuration, sessions may have one of their own that is used while
they are focused, and a session may preview a new base configuration until it is
confirmed, cancelled or times out.

A request takes effect twice: at once, on the changer's own records, and later, by an
action it puts on the server's queue. Each call holds the changer's mutex and is one
function here, and so is each queued action; calls come in any order and in between
actions. References to sessions are weak: a session that is gone is ignored.

How the display answers is not known: each action comes with the answers it gets, and a
display that throws may be left with any configuration. What sessions and observers are
told takes no part in these operations and is left out.
-/

import Mathlib.Data.Rat.Defs
import Mathlib.Logic.Function.Basic
import Mir.Geometry.Rectangle

namespace Mir.Scene

open Mir.Geometry

/-! ### Display configurations -/

inductive PowerMode
  | on
  | standby
  | suspend
  | off
  deriving DecidableEq, Repr

/-- What the changer reads of an output. -/
structure DisplayConfigurationOutput where
  id : Nat
  used : Bool
  connected : Bool
  powerMode : PowerMode
  topLeft : Point
  modes : List Size
  currentModeIndex : Nat
  deriving DecidableEq, Repr

abbrev DisplayConfiguration := List DisplayConfigurationOutput

/-- Whether an output is used that was not before. -/
def configurationHasNewOutputsEnabled (existing updated : DisplayConfiguration) : Bool :=
  updated.any fun output =>
    output.used && !existing.any fun other => other.used && other.id = output.id

/-- The rectangles in which input is taken: the current modes of the outputs that are on. -/
def inputRectanglesOf (conf : DisplayConfiguration) : List Rectangle :=
  conf.filterMap fun output =>
    if output.used = true ∧ output.connected = true ∧ output.powerMode = .on then
      output.modes[output.currentModeIndex]?.map fun size => ⟨output.topLeft, size⟩
    else none

/-! ### The display's answers -/

/-- What a display may throw. Everything it throws is a `std::exception`. -/
inductive Exception
  | runtimeError
  | otherException
  deriving DecidableEq, Repr

/-- The answer of `apply_if_configuration_preserves_display_buffers`. -/
inductive PreservingAnswer
  | applied
  | declined
  | threw (exception : Exception) (leaves : DisplayConfiguration)
  deriving DecidableEq, Repr

/-- The answer of `configure`. -/
inductive ConfigureAnswer
  | applied
  | threw (exception : Exception) (leaves : DisplayConfiguration)
  deriving DecidableEq, Repr

def ConfigureAnswer.thrown : ConfigureAnswer → Option Exception
  | .applied => none
  | .threw exception _ => some exception

/-- The answers the display gives while one configuration is applied. -/
structure DisplayAnswers where
  preserving : PreservingAnswer
  configure : ConfigureAnswer
  reapply : ConfigureAnswer
  deriving DecidableEq, Repr

/-! ### The changer -/

/-- The identity of a session. -/
abbrev SessionID := Nat

/-- The errors the changer reports to its callers. -/
inductive ChangerError
  | displayConfigurationInProgress
  | displayConfigurationNotInProgress
  deriving DecidableEq, Repr

def ChangerError.what : ChangerError → String
  | .displayConfigurationInProgress => "Base display configuration already in progress"
  | .displayConfigurationNotInProgress => "No base display configuration preview in progress"

/-- The alarm that ends a preview, with the session it is for. -/
structure Alarm where
  session : SessionID
  triggered : Bool
  deriving DecidableEq, Repr

/-- What is put on the server's action queue, with the data each action captures. -/
inductive Action
  | configure (session : SessionID) (conf : DisplayConfiguration)
  | removeSessionConfiguration (session : SessionID)
  | previewBaseConfiguration (session : SessionID) (conf : DisplayConfiguration)
  | cancelBaseConfigurationPreview (session : SessionID)
  | configureForHardwareChange (conf : DisplayConfiguration)
  | focusChange (session : SessionID)
  | noFocus
  | sessionStopping (session : SessionID)
  | setBaseConfiguration (conf : DisplayConfiguration)
  deriving DecidableEq, Repr

/-- The changer, with the display, the compositor and the input region it drives, the sessions
that exist and the actions queued. For the statements only, `unconfirmed` is the configuration
the display was last given by a preview, until another is applied or that one becomes the base. -/
structure Changer where
  display : DisplayConfiguration
  compositorRunning : Bool
  inputRectangles : List Rectangle
  baseConfiguration : DisplayConfiguration
  baseConfigurationApplied : Bool
  configMap : SessionID → Option DisplayConfiguration
  focusedSession : Option SessionID
  alive : SessionID → Bool
  previewConfigurationTimeout : Option Alarm
  currentlyPreviewingSession : Option SessionID
  queue : List Action
  unconfirmed : Option DisplayConfiguration

namespace Changer

/-- A changer for a display that has some configuration. -/
def new (display : DisplayConfiguration) (alive : SessionID → Bool) : Changer where
  display := display
  compositorRunning := true
  inputRectangles := inputRectanglesOf display
  baseConfiguration := display
  baseConfigurationApplied := true
  configMap _ := none
  focusedSession := none
  alive := alive
  previewConfigurationTimeout := none
  currentlyPreviewingSession := none
  queue := []
  unconfirmed := none

/-- The session a weak reference is to, if it exists still. -/
def lock (changer : Changer) (weak : Option SessionID) : Option SessionID :=
  weak.filter changer.alive

def enqueue (changer : Changer) (action : Action) : Changer :=
  { changer with queue := changer.queue ++ [action] }

/-! ### Applying a configuration -/

/-- Configures the display with the compositor stopped, and starts it again in any case. -/
def configureStopped (changer : Changer) (answer : ConfigureAnswer) (conf : DisplayConfiguration) :
    Changer × Option Exception :=
  match answer with
  | .applied => ({ changer with display := conf, compositorRunning := true }, none)
  | .threw exception leaves =>
    ({ changer with display := leaves, compositorRunning := true }, some exception)

/-- The first part of `apply_config`: without stopping the compositor where that is possible. -/
def tryConfig (changer : Changer) (answers : DisplayAnswers) (conf : DisplayConfiguration) :
    Changer × Option Exception :=
  if configurationHasNewOutputsEnabled changer.display conf = true then
    changer.configureStopped answers.configure conf
  else
    match answers.preserving with
    | .applied => ({ changer with display := conf }, none)
    | .declined => changer.configureStopped answers.configure conf
    | .threw exception leaves => ({ changer with display := leaves }, some exception)

/-- Applies a configuration. When that fails the previous one is applied again; an exception
comes out in either case, the second one if there are two. -/
def applyConfig (changer : Changer) (answers : DisplayAnswers) (conf : DisplayConfiguration) :
    Changer × Option Exception :=
  match changer.tryConfig answers conf with
  | (tried, none) =>
    ({ tried with
        inputRectangles := inputRectanglesOf conf
        baseConfigurationApplied := false
        unconfirmed := none }, none)
  | (tried, some exception) =>
    match tried.configureStopped answers.reapply changer.display with
    | (reverted, none) => (reverted, some exception)
    | (reverted, some other) => (reverted, some other)

def applyBaseConfig (changer : Changer) (answers : DisplayAnswers) : Changer × Option Exception :=
  match changer.applyConfig answers changer.baseConfiguration with
  | (applied, none) => ({ applied with baseConfigurationApplied := true }, none)
  | (failed, some exception) => (failed, some exception)

/-! ### What applying a configuration does -/

/-- What the display throws when it is given a configuration. -/
def rejection (changer : Changer) (answers : DisplayAnswers) (conf : DisplayConfiguration) :
    Option Exception :=
  if configurationHasNewOutputsEnabled changer.display conf = true then answers.configure.thrown
  else
    match answers.preserving with
    | .applied => none
    | .declined => answers.configure.thrown
    | .threw exception _ => some exception

/-- The changer after a configuration was accepted, with the compositor as the way there left it. -/
def accepted (changer : Changer) (conf : DisplayConfiguration) (running : Bool) : Changer :=
  { changer with
    display := conf
    compositorRunning := running
    inputRectangles := inputRectanglesOf conf
    baseConfigurationApplied := false
    unconfirmed := none }

/-- The changer after a configuration was not accepted, with what the display then shows. -/
def failed (changer : Changer) (shown : DisplayConfiguration) : Changer :=
  { changer with display := shown, compositorRunning := true }

theorem configureStopped_eq (changer : Changer) (answer : ConfigureAnswer)
    (conf : DisplayConfiguration) :
    ∃ shown, changer.configureStopped answer conf = (changer.failed shown, answer.thrown) ∧
      (answer.thrown = none → shown = conf) := by
  cases answer with
  | applied => exact ⟨conf, rfl, fun _ => rfl⟩
  | threw exception leaves => exact ⟨leaves, rfl, nofun⟩

/-- The first attempt touches the display and the compositor only. -/
theorem tryConfig_eq (changer : Changer) (answers : DisplayAnswers) (conf : DisplayConfiguration) :
    ∃ shown running,
      changer.tryConfig answers conf =
        ({ changer with display := shown, compositorRunning := running },
          changer.rejection answers conf) ∧
      (changer.rejection answers conf = none → shown = conf) := by
  obtain ⟨shown, stopped, last⟩ := changer.configureStopped_eq answers.configure conf
  unfold tryConfig rejection
  split
  · exact ⟨shown, true, stopped, last⟩
  · cases answers.preserving with
    | applied => exact ⟨conf, changer.compositorRunning, rfl, fun _ => rfl⟩
    | declined => exact ⟨shown, true, stopped, last⟩
    | threw exception leaves => exact ⟨leaves, changer.compositorRunning, rfl, nofun⟩

theorem applyConfig_of_accepted {changer : Changer} {answers : DisplayAnswers}
    {conf : DisplayConfiguration} (takes : changer.rejection answers conf = none) :
    ∃ running, changer.applyConfig answers conf = (changer.accepted conf running, none) := by
  obtain ⟨shown, running, tried, last⟩ := changer.tryConfig_eq answers conf
  unfold applyConfig
  rw [tried, takes, last takes]
  exact ⟨running, rfl⟩

/-- A rejected configuration comes out as an exception in every case. -/
theorem applyConfig_of_rejected {changer : Changer} {answers : DisplayAnswers}
    {conf : DisplayConfiguration} {exception : Exception}
    (rejects : changer.rejection answers conf = some exception) :
    ∃ shown thrown, changer.applyConfig answers conf = (changer.failed shown, some thrown) := by
  obtain ⟨tryShown, running, tried, -⟩ := changer.tryConfig_eq answers conf
  unfold applyConfig
  rw [tried, rejects]
  cases answers.reapply with
  | applied => exact ⟨changer.display, exception, rfl⟩
  | threw other leaves => exact ⟨leaves, other, rfl⟩

/-- With the previous configuration back, all that is left of a rejected one is the exception. -/
theorem applyConfig_of_reapplied {changer : Changer} {answers : DisplayAnswers}
    {conf : DisplayConfiguration} {exception : Exception}
    (rejects : changer.rejection answers conf = some exception)
    (reapplied : answers.reapply = .applied) :
    changer.applyConfig answers conf = (changer.failed changer.display, some exception) := by
  obtain ⟨tryShown, running, tried, -⟩ := changer.tryConfig_eq answers conf
  unfold applyConfig
  rw [tried, rejects, reapplied]
  rfl

/-- The base configuration is in force after it was accepted. -/
theorem applyBaseConfig_of_accepted {changer : Changer} {answers : DisplayAnswers}
    (takes : changer.rejection answers changer.baseConfiguration = none) :
    ∃ running, changer.applyBaseConfig answers =
      ({ changer.accepted changer.baseConfiguration running with
          baseConfigurationApplied := true }, none) := by
  obtain ⟨running, applied⟩ := applyConfig_of_accepted takes
  unfold applyBaseConfig
  rw [applied]
  exact ⟨running, rfl⟩

theorem applyBaseConfig_of_rejected {changer : Changer} {answers : DisplayAnswers}
    {exception : Exception}
    (rejects : changer.rejection answers changer.baseConfiguration = some exception) :
    ∃ shown thrown, changer.applyBaseConfig answers = (changer.failed shown, some thrown) := by
  obtain ⟨shown, thrown, applied⟩ := applyConfig_of_rejected rejects
  unfold applyBaseConfig
  rw [applied]
  exact ⟨shown, thrown, rfl⟩

theorem applyBaseConfig_of_reapplied {changer : Changer} {answers : DisplayAnswers}
    {exception : Exception}
    (rejects : changer.rejection answers changer.baseConfiguration = some exception)
    (reapplied : answers.reapply = .applied) :
    changer.applyBaseConfig answers = (changer.failed changer.display, some exception) := by
  unfold applyBaseConfig
  rw [applyConfig_of_reapplied rejects reapplied]

/-! ### Queued actions -/

/-- The configuration of a session is applied if the session is focused. A failure is told to
the session. -/
def runConfigure (changer : Changer) (answers : DisplayAnswers) (session : SessionID)
    (conf : DisplayConfiguration) : Changer × Option Exception :=
  if changer.alive session = true ∧ changer.lock changer.focusedSession = some session then
    ((changer.applyConfig answers conf).1, none)
  else (changer, none)

/-- The base configuration is applied for a session that has removed its own. Whether the session
is focused is not asked. -/
def runRemoveSessionConfiguration (changer : Changer) (answers : DisplayAnswers)
    (session : SessionID) : Changer × Option Exception :=
  if changer.alive session = true then ((changer.applyBaseConfig answers).1, none)
  else (changer, none)

/-- A preview is applied. Only a runtime error is told to the session. -/
def runPreviewBaseConfiguration (changer : Changer) (answers : DisplayAnswers)
    (session : SessionID) (conf : DisplayConfiguration) : Changer × Option Exception :=
  if changer.alive session = true then
    match changer.applyConfig answers conf with
    | (applied, none) => ({ applied with unconfirmed := some conf }, none)
    | (failed, some .runtimeError) => (failed, none)
    | (failed, some exception) => (failed, some exception)
  else (changer, none)

def runCancelBaseConfigurationPreview (changer : Changer) (answers : DisplayAnswers)
    (session : SessionID) : Changer × Option Exception :=
  if changer.alive session = true then changer.applyBaseConfig answers else (changer, none)

/-- A hardware change makes a new base configuration, and takes it back if it cannot be applied.
The sessions' configurations are forgotten. -/
def runConfigureForHardwareChange (policy : DisplayConfiguration → DisplayConfiguration)
    (changer : Changer) (answers : DisplayAnswers) (conf : DisplayConfiguration) :
    Changer × Option Exception :=
  let existing := changer.baseConfiguration
  let updated : Changer := { changer with baseConfiguration := policy conf }
  let settled : Changer :=
    if updated.baseConfigurationApplied = true then
      match updated.applyBaseConfig answers with
      | (applied, none) => applied
      | (failed, some _) => { failed with baseConfiguration := existing }
    else updated
  ({ settled with configMap := fun _ => none }, none)

/-- A session that gets the focus has its configuration applied, or the base configuration if it
has none and that is not in force. -/
def runFocusChange (changer : Changer) (answers : DisplayAnswers) (session : SessionID) :
    Changer × Option Exception :=
  if changer.alive session = true then
    let focused : Changer := { changer with focusedSession := some session }
    match focused.configMap session with
    | some conf => ((focused.applyConfig answers conf).1, none)
    | none =>
      if focused.baseConfigurationApplied = true then (focused, none)
      else focused.applyBaseConfig answers
  else (changer, none)

def runNoFocus (changer : Changer) (answers : DisplayAnswers) : Changer × Option Exception :=
  let unfocused : Changer := { changer with focusedSession := none }
  if unfocused.baseConfigurationApplied = true then (unfocused, none)
  else unfocused.applyBaseConfig answers

def runSessionStopping (changer : Changer) (session : SessionID) : Changer × Option Exception :=
  if changer.alive session = true then
    ({ changer with configMap := Function.update changer.configMap session none }, none)
  else (changer, none)

/-- A new base configuration is applied if the old one was in force. -/
def runSetBaseConfiguration (changer : Changer) (answers : DisplayAnswers)
    (conf : DisplayConfiguration) : Changer × Option Exception :=
  let updated : Changer :=
    { changer with
      baseConfiguration := conf
      unconfirmed := if changer.unconfirmed = some conf then none else changer.unconfirmed }
  if updated.baseConfigurationApplied = true then updated.applyBaseConfig answers
  else (updated, none)

/-- Runs an action. The exception is one that escapes into the main loop. -/
def run (policy : DisplayConfiguration → DisplayConfiguration) (changer : Changer)
    (answers : DisplayAnswers) : Action → Changer × Option Exception
  | .configure session conf => changer.runConfigure answers session conf
  | .removeSessionConfiguration session => changer.runRemoveSessionConfiguration answers session
  | .previewBaseConfiguration session conf =>
    changer.runPreviewBaseConfiguration answers session conf
  | .cancelBaseConfigurationPreview session =>
    changer.runCancelBaseConfigurationPreview answers session
  | .configureForHardwareChange conf =>
    changer.runConfigureForHardwareChange policy answers conf
  | .focusChange session => changer.runFocusChange answers session
  | .noFocus => changer.runNoFocus answers
  | .sessionStopping session => changer.runSessionStopping session
  | .setBaseConfiguration conf => changer.runSetBaseConfiguration answers conf

/-! ### Calls -/

/-- A session's configuration is recorded, and queued if the session is focused. -/
def configure (changer : Changer) (session : SessionID) (conf : DisplayConfiguration) : Changer :=
  let recorded : Changer :=
    { changer with configMap := Function.update changer.configMap session (some conf) }
  if recorded.lock recorded.focusedSession = some session then
    recorded.enqueue (.configure session conf)
  else recorded

def removeSessionConfiguration (changer : Changer) (session : SessionID) : Changer :=
  let removed : Changer :=
    { changer with configMap := Function.update changer.configMap session none }
  if removed.lock removed.focusedSession = some session then
    removed.enqueue (.removeSessionConfiguration session)
  else removed

/-- A preview is refused while the alarm of another exists. -/
def previewBaseConfiguration (changer : Changer) (session : SessionID)
    (conf : DisplayConfiguration) : Except ChangerError Changer :=
  if changer.previewConfigurationTimeout.isSome = true then
    .error .displayConfigurationInProgress
  else
    .ok (enqueue
      { changer with
        previewConfigurationTimeout := some ⟨session, false⟩
        currentlyPreviewingSession := some session }
      (.previewBaseConfiguration session conf))

/-- Confirms a configuration, whatever was previewed. -/
def confirmBaseConfiguration (changer : Changer) (conf : DisplayConfiguration) : Changer :=
  enqueue
    { changer with previewConfigurationTimeout := none, currentlyPreviewingSession := none }
    (.setBaseConfiguration conf)

/-- Cancels the preview of a session. An alarm that went off already has done the work. -/
def cancelBaseConfigurationPreview (changer : Changer) (session : SessionID) :
    Except ChangerError Changer :=
  match changer.previewConfigurationTimeout with
  | none => .error .displayConfigurationNotInProgress
  | some alarm =>
    if changer.lock changer.currentlyPreviewingSession ≠ some session then
      .error .displayConfigurationNotInProgress
    else
      let ended : Changer :=
        { changer with previewConfigurationTimeout := none, currentlyPreviewingSession := none }
      if alarm.triggered = true then .ok ended
      else .ok (ended.enqueue (.cancelBaseConfigurationPreview session))

/-- The alarm goes off. The alarm itself is kept. -/
def previewTimeout (changer : Changer) (answers : DisplayAnswers) : Changer × Option Exception :=
  match changer.previewConfigurationTimeout with
  | none => (changer, none)
  | some alarm =>
    if alarm.triggered = true then (changer, none)
    else
      let triggered : Changer :=
        { changer with previewConfigurationTimeout := some { alarm with triggered := true } }
      if changer.alive alarm.session = true then triggered.applyBaseConfig answers
      else (triggered, none)

end Changer

/-- What may happen to a changer: the calls on it, the events it is told of, its alarm, the end of
a session, and the next action of the queue. -/
inductive ChangerStep
  | configure (session : SessionID) (conf : DisplayConfiguration)
  | removeSessionConfiguration (session : SessionID)
  | setBaseConfiguration (conf : DisplayConfiguration)
  | previewBaseConfiguration (session : SessionID) (conf : DisplayConfiguration)
  | confirmBaseConfiguration (conf : DisplayConfiguration)
  | cancelBaseConfigurationPreview (session : SessionID)
  | configureForHardwareChange (conf : DisplayConfiguration)
  | focusChange (session : SessionID)
  | noFocus
  | sessionStopping (session : SessionID)
  | sessionDied (session : SessionID)
  | previewTimeout (answers : DisplayAnswers)
  | runAction (answers : DisplayAnswers)
  deriving DecidableEq, Repr

namespace Changer

/-- One step. A call that is refused changes nothing, and a session that is gone calls nothing. -/
def step (policy : DisplayConfiguration → DisplayConfiguration) (changer : Changer) :
    ChangerStep → Changer
  | .configure session conf =>
    if changer.alive session = true then changer.configure session conf else changer
  | .removeSessionConfiguration session =>
    if changer.alive session = true then changer.removeSessionConfiguration session else changer
  | .setBaseConfiguration conf => changer.enqueue (.setBaseConfiguration conf)
  | .previewBaseConfiguration session conf =>
    (changer.previewBaseConfiguration session conf).toOption.getD changer
  | .confirmBaseConfiguration conf => changer.confirmBaseConfiguration conf
  | .cancelBaseConfigurationPreview session =>
    (changer.cancelBaseConfigurationPreview session).toOption.getD changer
  | .configureForHardwareChange conf => changer.enqueue (.configureForHardwareChange conf)
  | .focusChange session => changer.enqueue (.focusChange session)
  | .noFocus => changer.enqueue .noFocus
  | .sessionStopping session => changer.enqueue (.sessionStopping session)
  | .sessionDied session => { changer with alive := Function.update changer.alive session false }
  | .previewTimeout answers => (changer.previewTimeout answers).1
  | .runAction answers =>
    match changer.queue with
    | [] => changer
    | action :: rest => (run policy { changer with queue := rest } answers action).1

end Changer

/-- A configuration of one output that is on, in a mode of some width. -/
def oneOutput (width : Int) : DisplayConfiguration :=
  [⟨0, true, true, .on, ⟨0, 0⟩, [⟨width, 100⟩], 0⟩]

/-- The answers of a display that is stopped for a change and takes it. -/
def takesIt : DisplayAnswers := ⟨.declined, .applied, .applied⟩

end Mir.Scene

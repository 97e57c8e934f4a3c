/-
This file models `ProtobufMessageProcessor`, which passes the invocations of a client to the
methods of the display server and sends their results back. Most methods are called with a
closure that ends with the call. Two of them, `submit_buffer` and `platform_operation`, are
called with a closure that deletes itself when it is run and that the method may keep.

Both ways of calling catch what a method throws and answer with an error, but for one case:
the second way notes the error of a `ClientVisibleError` in the result and does not run the
closure, so that nothing is sent and the client waits for ever.
-/

import Mathlib.Data.List.Basic

namespace Mir.Frontend

/-! ### Messages -/

/-- The exceptions that the processor tells apart. -/
inductive ExceptionKind
  | securityCheckError
  | clientVisibleError (domain code : Nat)
  | runtimeError
  | other
  deriving DecidableEq, Repr

structure Exception where
  kind : ExceptionKind
  what : String
  diagnosticInformation : String
  deriving DecidableEq, Repr

/-- The first three kinds are runtime errors. -/
def Exception.isRuntimeError (exception : Exception) : Bool :=
  exception.kind ≠ .other

def Exception.isClientVisibleError (exception : Exception) : Bool :=
  match exception.kind with
  | .clientVisibleError _ _ => true
  | _ => false

/-- What a method is called with. -/
structure RequestMessage where
  content : Nat
  fd : List Nat
  deriving DecidableEq, Repr

structure ResultMessage where
  content : Nat
  error : Option String
  structuredError : Option (Nat × Nat)
  deriving DecidableEq, Repr

structure Response where
  id : Nat
  message : ResultMessage
  deriving DecidableEq, Repr

structure Invocation where
  id : Nat
  methodName : String
  parameters : String
  deriving DecidableEq, Repr

/-- What the socket throws when it does not take a message. -/
structure SystemError where
  what : String
  diagnosticInformation : String
  deriving DecidableEq, Repr

def SystemError.exception (failure : SystemError) : Exception :=
  ⟨.runtimeError, failure.what, failure.diagnosticInformation⟩

inductive Report
  | receivedInvocation (id : Nat) (methodName : String)
  | unknownMethod (id : Nat) (methodName : String)
  | exceptionHandled (id : Nat) (what : String)
  | completedInvocation (id : Nat) (result : Bool)
  deriving DecidableEq, Repr

/-! ### The dispatch table -/

inductive Method
  | connect | createSurface | submitBuffer | allocateBuffers | releaseBuffers | releaseSurface
  | platformOperation | configureDisplay | removeSessionConfiguration
  | setBaseDisplayConfiguration | configureSurface | modifySurface | createScreencast
  | screencastBuffer | screencastToBuffer | releaseScreencast | createBufferStream
  | releaseBufferStream | configureCursor | newFdsForPromptProviders | startPromptSession
  | stopPromptSession | disconnect | pong | configureBufferStream | raiseSurface
  | translateSurfaceToScreen | requestPersistentSurfaceId | previewBaseDisplayConfiguration
  | confirmBaseDisplayConfiguration | cancelBaseDisplayConfigurationPreview
  deriving DecidableEq, Repr

namespace Method

def name : Method → String
  | connect => "connect"
  | createSurface => "create_surface"
  | submitBuffer => "submit_buffer"
  | allocateBuffers => "allocate_buffers"
  | releaseBuffers => "release_buffers"
  | releaseSurface => "release_surface"
  | platformOperation => "platform_operation"
  | configureDisplay => "configure_display"
  | removeSessionConfiguration => "remove_session_configuration"
  | setBaseDisplayConfiguration => "set_base_display_configuration"
  | configureSurface => "configure_surface"
  | modifySurface => "modify_surface"
  | createScreencast => "create_screencast"
  | screencastBuffer => "screencast_buffer"
  | screencastToBuffer => "screencast_to_buffer"
  | releaseScreencast => "release_screencast"
  | createBufferStream => "create_buffer_stream"
  | releaseBufferStream => "release_buffer_stream"
  | configureCursor => "configure_cursor"
  | newFdsForPromptProviders => "new_fds_for_prompt_providers"
  | startPromptSession => "start_prompt_session"
  | stopPromptSession => "stop_prompt_session"
  | disconnect => "disconnect"
  | pong => "pong"
  | configureBufferStream => "configure_buffer_stream"
  | raiseSurface => "raise_surface"
  | translateSurfaceToScreen => "translate_surface_to_screen"
  | requestPersistentSurfaceId => "request_persistent_surface_id"
  | previewBaseDisplayConfiguration => "preview_base_display_configuration"
  | confirmBaseDisplayConfiguration => "confirm_base_display_configuration"
  | cancelBaseDisplayConfigurationPreview => "cancel_base_display_configuration_preview"

/-- The methods in the order in which `dispatch` compares their names. -/
def table : List Method :=
  [connect, createSurface, submitBuffer, allocateBuffers, releaseBuffers, releaseSurface,
    platformOperation, configureDisplay, removeSessionConfiguration,
    setBaseDisplayConfiguration, configureSurface, modifySurface, createScreencast,
    screencastBuffer, screencastToBuffer, releaseScreencast, createBufferStream,
    releaseBufferStream, configureCursor, newFdsForPromptProviders, startPromptSession,
    stopPromptSession, disconnect, pong, configureBufferStream, raiseSurface,
    translateSurfaceToScreen, requestPersistentSurfaceId, previewBaseDisplayConfiguration,
    confirmBaseDisplayConfiguration, cancelBaseDisplayConfigurationPreview]

def named (methodName : String) : Option Method :=
  table.find? fun method => method.name = methodName

/-- Every method is reached by its name. -/
theorem named_name (method : Method) : named method.name = some method := by
  cases method <;> decide

/-- The methods that are called with a closure they may keep. They also get the file descriptors
that came with the invocation. -/
def sharesClosure : Method → Bool
  | submitBuffer | platformOperation => true
  | _ => false

end Method

/-! ### Calling a method -/

/-- What a method does with its closure: run it and return, keep it and return, or throw before it
is run. The message is what the method has made of the result by then. -/
inductive HandlerAction
  | runs (message : ResultMessage)
  | keeps (message : ResultMessage)
  | throws (message : ResultMessage) (exception : Exception)
  deriving DecidableEq, Repr

namespace HandlerAction

def message : HandlerAction → ResultMessage
  | runs message => message
  | keeps message => message
  | throws message _ => message

/-- The closure has been run, and has deleted itself if it does that. -/
def ran : HandlerAction → Bool
  | runs _ => true
  | _ => false

end HandlerAction

/-- What a piece of the processor did: the responses that the socket took, the response that a kept
closure will send, what was thrown, and whether a closure was run that had deleted itself. -/
structure Outcome where
  sent : List Response
  kept : Option Response
  thrown : Option Exception
  ranDeletedClosure : Bool
  deriving DecidableEq, Repr

namespace Outcome

def nothing : Outcome := ⟨[], none, none, false⟩

def throwing (exception : Exception) : Outcome := ⟨[], none, some exception, false⟩

end Outcome

section Calls

variable (sender : Response → Option SystemError)

def sendResponse (response : Response) : Outcome :=
  match sender response with
  | none => ⟨[response], none, none, false⟩
  | some failure => .throwing failure.exception

/-- The call of the method itself. -/
def callMethod (id : Nat) : HandlerAction → Outcome
  | .runs message => sendResponse sender ⟨id, message⟩
  | .keeps message => ⟨[], some ⟨id, message⟩, none, false⟩
  | .throws _ exception => .throwing exception

def setError (message : ResultMessage) (exception : Exception) : ResultMessage :=
  { message with
    error := some ("Error processing request: " ++ exception.what ++
      "\nInternal error details: " ++ exception.diagnosticInformation) }

def setStructuredError (message : ResultMessage) (domain code : Nat) : ResultMessage :=
  { message with structuredError := some (domain, code) }

/-- The closure ends with the call, so nobody can keep it. -/
def invoke (id : Nat) (action : HandlerAction) : Outcome :=
  let call := callMethod sender id action
  match call.thrown with
  | none => { call with kept := none }
  | some exception =>
    match exception.kind with
    | .securityCheckError => call
    | .clientVisibleError domain code =>
      sendResponse sender ⟨id, setStructuredError action.message domain code⟩
    | _ => sendResponse sender ⟨id, setError action.message exception⟩

/-- A client visible error is noted in the result, and the closure is forgotten. -/
def invokeShared (id : Nat) (action : HandlerAction) : Outcome :=
  let call := callMethod sender id action
  match call.thrown with
  | none => call
  | some exception =>
    match exception.kind with
    | .securityCheckError => call
    | .clientVisibleError _ _ => .nothing
    | _ =>
      if action.ran then { Outcome.nothing with ranDeletedClosure := true }
      else sendResponse sender ⟨id, setError action.message exception⟩

theorem sendResponse_answers {response : Response}
    (returned : (sendResponse sender response).thrown = none) :
    sendResponse sender response = ⟨[response], none, none, false⟩ := by
  unfold sendResponse at returned ⊢
  cases sending : sender response with
  | none => rfl
  | some failure => simp [sending, Outcome.throwing] at returned

/-- What `invoke` answers, if it returns. -/
theorem invoke_answers {id : Nat} {action : HandlerAction}
    (returned : (invoke sender id action).thrown = none)
    (notKept : ∀ message, action ≠ .keeps message) :
    ∃ message, invoke sender id action = ⟨[⟨id, message⟩], none, none, false⟩ := by
  cases thrown : (callMethod sender id action).thrown with
  | none =>
    cases action with
    | runs message =>
      refine ⟨message, ?_⟩
      have sent := sendResponse_answers sender thrown
      simp only [invoke, callMethod] at sent ⊢
      rw [sent]
    | keeps message => exact absurd rfl (notKept message)
    | throws message exception => cases thrown
  | some exception =>
    simp only [invoke, thrown] at returned ⊢
    cases kind : exception.kind with
    | securityCheckError =>
      simp [kind, thrown] at returned
    | clientVisibleError domain code =>
      simp only [kind] at returned ⊢
      exact ⟨_, sendResponse_answers sender returned⟩
    | runtimeError =>
      simp only [kind] at returned ⊢
      exact ⟨_, sendResponse_answers sender returned⟩
    | other =>
      simp only [kind] at returned ⊢
      exact ⟨_, sendResponse_answers sender returned⟩

theorem invokeShared_runs {id : Nat} {message : ResultMessage}
    (accepted : sender ⟨id, message⟩ = none) :
    invokeShared sender id (.runs message) = ⟨[⟨id, message⟩], none, none, false⟩ := by
  simp [invokeShared, callMethod, sendResponse, accepted]

theorem invokeShared_throws {id : Nat} {message : ResultMessage} {exception : Exception}
    (returned : (invokeShared sender id (.throws message exception)).thrown = none) :
    invokeShared sender id (.throws message exception) =
      if exception.isClientVisibleError then .nothing
      else ⟨[⟨id, setError message exception⟩], none, none, false⟩ := by
  simp only [invokeShared, callMethod, Outcome.throwing, HandlerAction.ran,
    HandlerAction.message] at returned ⊢
  unfold Exception.isClientVisibleError
  cases kind : exception.kind with
  | securityCheckError => simp [kind] at returned
  | clientVisibleError domain code => rfl
  | runtimeError =>
    simp only [kind] at returned ⊢
    exact sendResponse_answers sender returned
  | other =>
    simp only [kind] at returned ⊢
    exact sendResponse_answers sender returned

/-- What throws has sent nothing. -/
theorem sendResponse_thrown {response : Response} {exception : Exception}
    (thrown : (sendResponse sender response).thrown = some exception) :
    (sendResponse sender response).sent = [] := by
  unfold sendResponse at thrown ⊢
  cases sending : sender response with
  | none => simp [sending] at thrown
  | some failure => rfl

theorem callMethod_thrown {id : Nat} {action : HandlerAction} {exception : Exception}
    (thrown : (callMethod sender id action).thrown = some exception) :
    (callMethod sender id action).sent = [] := by
  cases action with
  | runs message => exact sendResponse_thrown sender thrown
  | keeps message => rfl
  | throws message exception => rfl

theorem invoke_thrown {id : Nat} {action : HandlerAction} {exception : Exception}
    (thrown : (invoke sender id action).thrown = some exception) :
    (invoke sender id action).sent = [] := by
  cases inside : (callMethod sender id action).thrown with
  | none => simp [invoke, inside] at thrown
  | some first =>
    simp only [invoke, inside] at thrown ⊢
    split at thrown
    · exact callMethod_thrown sender thrown
    · exact sendResponse_thrown sender thrown
    · exact sendResponse_thrown sender thrown

end Calls

/-! ### Dispatching an invocation -/

/-- An invocation with what decides its fate: what protobuf makes of the parameters, what the method
does and which messages the socket takes. -/
structure Call where
  invocation : Invocation
  sideChannelFds : List Nat
  parseFromString : Method → String → Option RequestMessage
  handler : Method → RequestMessage → HandlerAction
  sender : Response → Option SystemError

structure Dispatched where
  outcome : Outcome
  result : Bool
  reports : List Report
  deriving DecidableEq, Repr

namespace Call

def request (call : Call) (method : Method) : Option RequestMessage :=
  match call.parseFromString method call.invocation.parameters with
  | none => none
  | some request =>
    some (if method.sharesClosure then { request with fd := call.sideChannelFds } else request)

/-- What the method does, if the invocation is passed to one. -/
def action (call : Call) : Option HandlerAction :=
  match Method.named call.invocation.methodName with
  | none => none
  | some method => (call.request method).map (call.handler method)

def parseFailure : Exception :=
  ⟨.runtimeError, "Failed to parse message parameters!", "Failed to parse message parameters!"⟩

def invoked (call : Call) (method : Method) : Outcome :=
  match call.request method with
  | none => .throwing parseFailure
  | some request =>
    if method.sharesClosure then
      invokeShared call.sender call.invocation.id (call.handler method request)
    else invoke call.sender call.invocation.id (call.handler method request)

def noDebugInterface : ResultMessage :=
  ⟨0, some "Server does not support the client debugging interface", none⟩

/-- The debugging method answers a runtime error that comes out of its invocation. -/
def performed (call : Call) (method : Method) : Outcome × List Report :=
  let outcome := call.invoked method
  match outcome.thrown with
  | none => (outcome, [])
  | some exception =>
    if method = .translateSurfaceToScreen ∧ exception.isRuntimeError then
      let answer := sendResponse call.sender ⟨call.invocation.id, noDebugInterface⟩
      ({ answer with sent := outcome.sent ++ answer.sent },
        if answer.thrown = none then
          [.exceptionHandled call.invocation.id
            "Client attempted to use unavailable debug interface"]
        else [])
    else (outcome, [])

def dispatch (call : Call) : Dispatched :=
  let id := call.invocation.id
  let received := Report.receivedInvocation id call.invocation.methodName
  match Method.named call.invocation.methodName with
  | none =>
    ⟨.nothing, false,
      [received, .unknownMethod id call.invocation.methodName, .completedInvocation id false]⟩
  | some method =>
    let performed := call.performed method
    match performed.1.thrown with
    | some exception =>
      ⟨performed.1, false, received :: performed.2 ++
        [.exceptionHandled id exception.what, .completedInvocation id false]⟩
    | none =>
      ⟨performed.1, method ≠ .disconnect,
        received :: performed.2 ++ [.completedInvocation id (method ≠ .disconnect)]⟩

/-- The method runs its closure and returns, or throws something else than a failed security check
before that. -/
def RunsOrThrows (call : Call) : Prop :=
  match call.action with
  | some (.runs message) => call.sender ⟨call.invocation.id, message⟩ = none
  | some (.throws _ exception) => exception.kind ≠ .securityCheckError
  | _ => False

/-- The method shares its closure and throws an error that the client is to see. -/
def Swallowed (call : Call) : Prop :=
  match Method.named call.invocation.methodName, call.action with
  | some method, some (.throws _ exception) =>
    method.sharesClosure = true ∧ exception.isClientVisibleError = true
  | _, _ => False

/-- The method shares its closure and keeps it. -/
def Keeps (call : Call) : Prop :=
  match Method.named call.invocation.methodName, call.action with
  | some method, some (.keeps _) => method.sharesClosure = true
  | _, _ => False

variable {call : Call} {method : Method}

theorem dispatch_of_result (result : call.dispatch.result = true) :
    ∃ method, Method.named call.invocation.methodName = some method ∧
      call.dispatch.outcome = (call.performed method).1 ∧
      (call.performed method).1.thrown = none := by
  unfold dispatch at result ⊢
  cases named : Method.named call.invocation.methodName with
  | none => simp [named] at result
  | some method =>
    refine ⟨method, rfl, ?_⟩
    cases thrown : (call.performed method).1.thrown with
    | none => simp [thrown]
    | some exception => simp [named, thrown] at result


theorem action_of_named (named : Method.named call.invocation.methodName = some method)
    {action : HandlerAction} (acts : call.action = some action) :
    ∃ request, call.request method = some request ∧ call.handler method request = action := by
  unfold Call.action at acts
  rw [named] at acts
  exact Option.map_eq_some_iff.mp acts

/-- A method that shares its closure is called in the second way, and nothing follows. -/
theorem performed_shared (named : Method.named call.invocation.methodName = some method)
    (shares : method.sharesClosure = true) {action : HandlerAction}
    (acts : call.action = some action) :
    (call.performed method).1 = invokeShared call.sender call.invocation.id action := by
  obtain ⟨request, parsed, rfl⟩ := action_of_named named acts
  have notDebug : method ≠ .translateSurfaceToScreen := by
    rintro rfl
    cases shares
  unfold performed
  simp only [invoked, parsed, shares, notDebug, false_and, if_true, if_false]
  split <;> rfl

/-- A method that does not share its closure answers once, if its call returns. -/
theorem performed_answers (named : Method.named call.invocation.methodName = some method)
    (shares : method.sharesClosure = false) {action : HandlerAction}
    (acts : call.action = some action) (notKept : ∀ message, action ≠ .keeps message)
    (returned : (call.performed method).1.thrown = none) :
    ∃ message, (call.performed method).1 =
      ⟨[⟨call.invocation.id, message⟩], none, none, false⟩ := by
  obtain ⟨request, parsed, rfl⟩ := action_of_named named acts
  have invokes : call.invoked method =
      invoke call.sender call.invocation.id (call.handler method request) := by
    simp [invoked, parsed, shares]
  unfold performed at returned ⊢
  rw [invokes] at returned ⊢
  cases thrown : (invoke call.sender call.invocation.id (call.handler method request)).thrown with
  | none =>
    simp only [thrown]
    exact invoke_answers call.sender thrown notKept
  | some exception =>
    have silent := invoke_thrown call.sender thrown
    simp only [thrown, silent, List.nil_append] at returned ⊢
    by_cases debug : method = .translateSurfaceToScreen ∧ exception.isRuntimeError = true
    · rw [if_pos debug] at returned ⊢
      exact ⟨_, sendResponse_answers call.sender returned⟩
    · rw [if_neg debug] at returned
      cases thrown.symm.trans returned

theorem RunsOrThrows.acts (runsOrThrows : call.RunsOrThrows) :
    ∃ action, call.action = some action ∧ ∀ message, action ≠ .keeps message := by
  unfold RunsOrThrows at runsOrThrows
  split at runsOrThrows
  · rename_i message acts
    exact ⟨_, acts, fun other equal => by cases equal⟩
  · rename_i message exception acts
    exact ⟨_, acts, fun other equal => by cases equal⟩
  · exact runsOrThrows.elim

/-- A method that shares its closure answers once if it runs it, and if it throws anything but an
error that the client is to see. -/
theorem performed_shared_answers (named : Method.named call.invocation.methodName = some method)
    (shares : method.sharesClosure = true) (runsOrThrows : call.RunsOrThrows)
    (returned : (call.performed method).1.thrown = none) :
    (call.performed method).1.kept = none ∧
      ((call.performed method).1.sent.map Response.id = [call.invocation.id] ↔
        ¬ call.Swallowed) := by
  obtain ⟨action, acts, notKept⟩ := runsOrThrows.acts
  unfold RunsOrThrows at runsOrThrows
  unfold Swallowed
  rw [performed_shared named shares acts] at returned ⊢
  rw [named, acts]
  cases action with
  | runs message =>
    rw [invokeShared_runs call.sender (by simpa only [acts] using runsOrThrows)]
    simp
  | keeps message => exact absurd rfl (notKept message)
  | throws message exception =>
    rw [invokeShared_throws call.sender returned]
    cases visible : exception.isClientVisibleError with
    | false => simp [visible]
    | true => simp [Outcome.nothing, shares, visible]

/-- Of a method that runs its closure or throws, `dispatch` sends one response, unless the error of
a shared closure was swallowed. -/
theorem dispatch_answers (result : call.dispatch.result = true) (runsOrThrows : call.RunsOrThrows) :
    call.dispatch.outcome.kept = none ∧
      (call.dispatch.outcome.sent.map Response.id = [call.invocation.id] ↔ ¬ call.Swallowed) := by
  obtain ⟨method, named, outcome, returned⟩ := dispatch_of_result result
  rw [outcome]
  cases shares : method.sharesClosure with
  | true => exact performed_shared_answers named shares runsOrThrows returned
  | false =>
    obtain ⟨action, acts, notKept⟩ := runsOrThrows.acts
    obtain ⟨message, answered⟩ := performed_answers named shares acts notKept returned
    unfold Swallowed
    rw [answered, named, acts]
    cases action <;> simp [shares]

/-- A closure that is kept has sent nothing yet. -/
theorem dispatch_keeps (keeps : call.Keeps) :
    ∃ message, call.dispatch.outcome =
      ⟨[], some ⟨call.invocation.id, message⟩, none, false⟩ := by
  unfold Keeps at keeps
  split at keeps
  · rename_i method message named acts
    have kept : (call.performed method).1 =
        ⟨[], some ⟨call.invocation.id, message⟩, none, false⟩ :=
      performed_shared named keeps acts
    refine ⟨message, ?_⟩
    unfold dispatch
    simp only [named, kept]
  · exact keeps.elim

end Call

end Mir.Frontend

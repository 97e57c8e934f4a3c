/-
This file embeds a client's request for a surface, from the session mediator down: the frontend
shell, the window manager with its canonical policy, and the session that builds the surface. A
request without streams has one made for it before anything else is checked.
-/

import Mir.Scene.SurfaceCreation

namespace Mir.Frontend.SurfaceCreation

open Scene.SurfaceCreation Throwing

/-! ### The window manager -/

/-- Of the types normal and utility. -/
def mustNotHaveParent (type : BitVec 32) : Bool := type = 0#32 || type = 1#32

/-- Of the types gloss, satellite and tip. -/
def mustHaveParent (type : BitVec 32) : Bool := type = 3#32 || type = 7#32 || type = 8#32

def mirWindowStateRestored : BitVec 32 := 1#32

def mirWindowStateFullscreen : BitVec 32 := 5#32

def mirWindowTypeInputMethod : BitVec 32 := 6#32

/-- The policy checks the type and the parent, and decides the state. -/
def CanonicalPolicy.placeNewSurface (circumstances : Circumstances)
    (params : CreationParameters) : Creation CreationParameters := do
  let server ← readState
  match params.type with
  | none => throwing (.runtimeError "Surface type must be provided")
  | some type =>
    let parent := params.parent.bind server.lock
    if mustNotHaveParent type ∧ parent.isSome then
      throwing (.runtimeError "Surface type cannot have parent")
    else if mustHaveParent type ∧ parent.isNone then
      throwing (.runtimeError "Surface type must have parent")
    else if params.outputID ≠ 0#32 then do
      call circumstances .placeInOutput
      return { params with state := some mirWindowStateFullscreen }
    else return { params with state := some (params.state.getD mirWindowStateRestored) }

def infoFor (surface : SurfaceHandle) : Creation SurfaceInfo := do
  let server ← readState
  match server.surfaceInfo surface with
  | some info => pure info
  | none => throwing .outOfRange

def setInfo (surface : SurfaceHandle) (info : SurfaceInfo) : Creation Unit :=
  change fun server =>
    { server with surfaceInfo := Function.update server.surfaceInfo surface (some info) }

/-- A surface is noted when it was built. It has no entry yet, for it is new. -/
def emplaceInfo (surface : SurfaceHandle) (params : CreationParameters) : Creation Unit := do
  let server ← readState
  setInfo surface
    ⟨server.attributes surface .type, server.attributes surface .state, params.parent, []⟩

/-- A parent that can be locked is told of the surface. -/
def tellParent (surface : SurfaceHandle) : Creation Unit := do
  let info ← infoFor surface
  let server ← readState
  match info.parent.bind server.lock with
  | none => pure ()
  | some parent => do
    let parentInfo ← infoFor parent
    setInfo parent { parentInfo with children := parentInfo.children ++ [surface] }

def tellSession (surface : SurfaceHandle) : Creation Unit := do
  let server ← readState
  match server.sessionInfo with
  | none => throwing .outOfRange
  | some surfaces =>
    change fun server => { server with sessionInfo := some (surfaces ++ [surface]) }

def CanonicalPolicy.handleNewSurface (surface : SurfaceHandle) : Creation Unit := do
  tellParent surface
  tellSession surface

def WindowManager.addSurface (circumstances : Circumstances) (params : CreationParameters) :
    Creation Int := do
  let placed ← CanonicalPolicy.placeNewSurface circumstances params
  let id ← ApplicationSession.createSurface circumstances placed
  let surface ← checkedFindSurface id
  emplaceInfo surface placed
  CanonicalPolicy.handleNewSurface surface
  return id

/-! ### The shells -/

def AbstractShell.createSurface (circumstances : Circumstances) (params : CreationParameters) :
    Creation Int := do
  let id ← WindowManager.addSurface circumstances params
  call circumstances .createdSurface
  return id

/-- Only an input method may have somebody else's surface for its parent. -/
def checkForeignParent (params : CreationParameters) : Creation Unit := do
  let server ← readState
  if (params.parent.bind server.lock).isSome then
    match params.type with
    | none => throwing (.runtimeError "Accessing value of unset optional")
    | some type =>
      if type ≠ mirWindowTypeInputMethod then
        throwing (.invalidArgument
          "Foreign parents may only be set on surfaces of type mir_window_type_inputmethod")
      else pure ()
  else pure ()

def FrontendShell.createSurface (circumstances : Circumstances) (params : CreationParameters) :
    Creation Int := do
  checkForeignParent params
  let parent ← findParent params
  AbstractShell.createSurface circumstances { params with parent := parent }

/-! ### The mediator -/

structure SurfaceRequest where
  type : Option (BitVec 32)
  state : Option (BitVec 32)
  prefOrientation : Option (BitVec 32)
  outputID : Option (BitVec 32)
  parentID : Option Int
  parentPersistentID : Option String
  stream : List Int
  deriving DecidableEq, Repr

/-- What a request asks for, once its parent was looked up and it has a stream. -/
def SurfaceRequest.params (request : SurfaceRequest) (parent : Option SurfaceHandle)
    (legacyStream : Option Int) : CreationParameters where
  type := request.type
  state := request.state
  preferredOrientation := request.prefOrientation
  outputID := request.outputID.getD 0#32
  parentID := request.parentID
  parent := parent
  contentID := legacyStream
  streams := if request.stream = [] then none else some request.stream

def checkSession : Creation Unit := do
  let server ← readState
  if server.connected then pure () else throwing (.logicError "Invalid application session")

def foreignParent (circumstances : Circumstances) (request : SurfaceRequest) :
    Creation (Option SurfaceHandle) :=
  match request.parentPersistentID with
  | none => return none
  | some id => ofExcept (circumstances.surfaceForID id)

/-- A request without streams has one made for it. -/
def legacyStream (circumstances : Circumstances) (request : SurfaceRequest) :
    Creation (Option Int) :=
  if request.stream = [] then do
    let id ← createBufferStream circumstances
    let _ ← checkedFindStream id
    return some id
  else return none

/-- The response, with the surface looked up again. -/
def respond (circumstances : Circumstances) (legacyStream : Option Int) (id : Int) :
    Creation Unit := do
  let _ ← checkedFindSurface id
  call circumstances .respond
  change fun server =>
    match legacyStream with
    | none => server
    | some stream =>
      { server with legacyDefaultStreamMap := server.legacyDefaultStreamMap.set id stream }
  call circumstances .run
  call circumstances .uncork

def SessionMediator.createSurface (circumstances : Circumstances) (request : SurfaceRequest) :
    Creation Unit := do
  checkSession
  call circumstances .sessionCreateSurfaceCalled
  let parent ← foreignParent circumstances request
  let stream ← legacyStream circumstances request
  call circumstances .createSink
  let id ← FrontendShell.createSurface circumstances (request.params parent stream)
  respond circumstances stream id

end Mir.Frontend.SurfaceCreation

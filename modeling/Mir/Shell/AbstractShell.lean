/-
This file embeds the shell that clients ask for surfaces: the sessions with the surfaces each of
them has, the surfaces as they are stacked, the focus, and the window manager with its policy.

The shell keeps weak references to the session and the surface that have the focus, the policy to
the surface that is active. Selecting an active surface moves all three; moving the focus to the
next session moves the first two only. Whatever is asked of the window manager may throw half way,
so each operation gives the state it leaves together with how it ended.

Closing a session first collects its surfaces by asking the session for its default surface and
then for the surface after each, and removes them in the order of their addresses. It holds them
all until it returns.
-/

import Mathlib.Data.List.Sort
import Mathlib.Logic.Embedding.Basic
import Mir.Shell.WindowManager

namespace Mir.Shell

/-! ### The state -/

/-- What is thrown by the window manager and the sessions, and by the shell itself. -/
inductive ShellFailure
  | thrown (failure : Failure)
  | logicError (what : String)
  | invalidArgument (what : String)
  deriving DecidableEq, Repr

/-- Sessions are numbered as they are opened, and each has its surfaces in the order of their
identifiers. `type` is what the surface itself tells of its type. -/
structure AbstractShell where
  manager : Manager
  sessions : List SessionID
  opened : Nat
  surfaces : SessionID → List SurfaceID
  type : SurfaceID → WindowType
  stack : List SurfaceID
  focusSession : Option SessionID
  focusSurface : Option SurfaceID

namespace AbstractShell

def initial : AbstractShell where
  manager := .initial
  sessions := []
  opened := 0
  surfaces := fun _ => []
  type := fun _ => .normal
  stack := []
  focusSession := none
  focusSurface := none

/-- Nobody holds on to a session that was closed. -/
def lockSession (shell : AbstractShell) (session : SessionID) : Option SessionID :=
  if session ∈ shell.sessions then some session else none

def focusedSession (shell : AbstractShell) : Option SessionID :=
  shell.focusSession.bind shell.lockSession

def focusedSurface (shell : AbstractShell) : Option SurfaceID :=
  shell.focusSurface.bind shell.manager.lock

def defaultSurface (shell : AbstractShell) (session : SessionID) : Option SurfaceID :=
  (shell.surfaces session).head?

def activeSurface (shell : AbstractShell) : Option SurfaceID :=
  shell.manager.activeSurfaceOr (shell.focusedSession.bind shell.defaultSurface)

def setActive (shell : AbstractShell) (surface : Option SurfaceID) : AbstractShell :=
  { shell with manager := { shell.manager with activeSurface := surface } }

/-! ### The focus -/

def setFocusTo (shell : AbstractShell) (session : Option SessionID)
    (surface : Option SurfaceID) : AbstractShell :=
  { shell with
    focusSurface := if surface ≠ shell.focusedSurface then surface else shell.focusSurface
    focusSession := if session ≠ shell.focusedSession then session else shell.focusSession }

/-- The last session comes after none, and the first one after the last. -/
def successorOf (shell : AbstractShell) :
    Option SessionID → Except ShellFailure (Option SessionID)
  | none => .ok shell.sessions.getLast?
  | some session =>
    match shell.sessions.dropWhile (· ≠ session) with
    | [] => .error (.logicError "Invalid session")
    | [_] => .ok shell.sessions.head?
    | _ :: successor :: _ => .ok (some successor)

/-- The sessions in the order the search for a surface goes through them, once. -/
def roundFrom (shell : AbstractShell) (first : SessionID) : List SessionID :=
  shell.sessions.dropWhile (· ≠ first) ++ shell.sessions.takeWhile (· ≠ first)

/-- The next session that has a surface, with its default surface. -/
def focusNextSession (shell : AbstractShell) : AbstractShell × Except ShellFailure Unit :=
  match shell.successorOf shell.focusedSession with
  | .error failure => (shell, .error failure)
  | .ok none => (shell.setFocusTo none none, .ok ())
  | .ok (some first) =>
    match (shell.roundFrom first).find? fun session => (shell.defaultSurface session).isSome with
    | none => (shell.setFocusTo none none, .ok ())
    | some successor =>
      (shell.setFocusTo (some successor) (shell.defaultSurface successor), .ok ())

/-- The surfaces that are raised stay in order, and so do the others. -/
def raise (shell : AbstractShell) (surfaces : List SurfaceID) : AbstractShell :=
  { shell with
    stack := shell.stack.filter (· ∉ surfaces) ++ shell.stack.filter (· ∈ surfaces) }

/-- The focus has moved before the tree is raised. -/
def selectActiveSurface (shell : AbstractShell) :
    Nat → Option SurfaceID → AbstractShell × Except ShellFailure Unit
  | 0, _ => (shell, .error (.thrown .stackExhausted))
  | _ + 1, none =>
    match shell.manager.activeSurface.bind shell.manager.lock with
    | some _ => ((shell.setFocusTo none none).setActive none, .ok ())
    | none => (shell.setActive none, .ok ())
  | depth + 1, some surface =>
    match shell.manager.surfaceInfo surface with
    | none => (shell, .error (.thrown .outOfRange))
    | some info =>
      if info.canBeActive then
        let focused := shell.setFocusTo (shell.lockSession info.session) (some surface)
        match focused.manager.raiseTree surface with
        | .error failure => (focused, .error (.thrown failure))
        | .ok surfaces => ((focused.raise surfaces).setActive (some surface), .ok ())
      else
        -- cannot have input focus, so its parent is tried
        match shell.manager.lockParent info with
        | some parent => shell.selectActiveSurface depth (some parent)
        | none => (shell, .ok ())

def select (shell : AbstractShell) (surface : Option SurfaceID) :
    AbstractShell × Except ShellFailure Unit :=
  shell.selectActiveSurface (shell.manager.made + 1) surface

/-! ### Creating and modifying surfaces -/

/-- The parent of a surface that is created. A client names surfaces of its own; a parent that
belongs to another is for input methods only. -/
def requestedParent (shell : AbstractShell) (session : SessionID) (type : Option WindowType)
    (parentID foreignParent : Option SurfaceID) : Except ShellFailure (Option SurfaceID) :=
  if (foreignParent.bind shell.manager.lock).isSome ∧ type ≠ some .inputmethod then
    .error (.invalidArgument
      "Foreign parents may only be set on surfaces of type mir_window_type_inputmethod")
  else
    match parentID with
    | none => .ok foreignParent
    | some parent =>
      if parent ∈ shell.surfaces session then .ok (some parent)
      else .error (.thrown (.runtimeError "Invalid SurfaceId"))

/-- The session has the surface and it is on the stack even if the window manager fails after
it was built. -/
def createSurface (shell : AbstractShell) (session : SessionID) (type : Option WindowType)
    (parentID foreignParent : Option SurfaceID) : AbstractShell :=
  match shell.requestedParent session type parentID foreignParent with
  | .error _ => shell
  | .ok parent =>
    let surface := shell.manager.made
    let outcome := shell.manager.addSurface session type parent
    if outcome.1.made = surface then shell
    else
      { shell with
        manager := outcome.1
        surfaces := Function.update shell.surfaces session (shell.surfaces session ++ [surface])
        type := Function.update shell.type surface (type.getD .normal)
        stack := shell.stack ++ [surface] }

/-- A surface is told its type when the window manager has accepted that it changes. -/
def modifySurface (shell : AbstractShell) (session : SessionID) (surface : SurfaceID)
    (parentID : Option SurfaceID) (type : Option WindowType) : AbstractShell :=
  if surface ∈ shell.surfaces session ∧ ∀ parent ∈ parentID, parent ∈ shell.surfaces session then
    let outcome := shell.manager.modifySurface surface ⟨parentID.map some, type⟩
    match outcome.2, type with
    | .ok (), some newType =>
      if (shell.manager.surfaceInfo surface).map SurfaceInfo.type = some newType then
        { shell with manager := outcome.1 }
      else
        { shell with manager := outcome.1, type := Function.update shell.type surface newType }
    | _, _ => { shell with manager := outcome.1 }
  else shell

def setSurfaceType (shell : AbstractShell) (session : SessionID) (surface : SurfaceID)
    (type : WindowType) : AbstractShell :=
  if surface ∈ shell.surfaces session then
    { shell with type := Function.update shell.type surface type }
  else shell

/-! ### Removing surfaces -/

/-- A session gives up a surface of its own, and the surface leaves the stack. -/
def sessionDestroySurface (shell : AbstractShell) (session : SessionID) (surface : SurfaceID) :
    Except ShellFailure AbstractShell :=
  if surface ∈ shell.surfaces session then
    .ok { shell with
      manager := shell.manager.destroy surface
      surfaces :=
        Function.update shell.surfaces session ((shell.surfaces session).erase surface)
      stack := shell.stack.erase surface }
  else .error (.thrown (.runtimeError "Invalid Surface"))

/-- The window manager forgets that the session has the surface. -/
def unlist (shell : AbstractShell) (session : SessionID) (surface : SurfaceID) :
    AbstractShell × Except ShellFailure Unit :=
  match shell.manager.sessionInfo session with
  | none => (shell, .error (.thrown .outOfRange))
  | some surfaces =>
    let surfaces := surfaces.eraseP fun other =>
      shell.manager.lock other = shell.manager.lock surface
    ({ shell with manager := { shell.manager with
        sessionInfo := Function.update shell.manager.sessionInfo session (some surfaces) } },
      .ok ())

/-- What is done to a surface that is removed before another becomes active. -/
def discard (shell : AbstractShell) (session : SessionID) (surface : SurfaceID) :
    AbstractShell × Except ShellFailure Unit :=
  match shell.manager.surfaceInfo surface with
  | none => (shell, .error (.thrown .outOfRange))
  | some info =>
    match shell.manager.eraseSibling surface info with
    | .error failure => (shell, .error (.thrown failure))
    | .ok erased =>
      match { shell with manager := erased }.sessionDestroySurface session surface with
      | .error failure => ({ shell with manager := erased }, .error failure)
      | .ok destroyed => destroyed.unlist session surface

/-- The first surface that the session has left becomes active, or one of the next session. -/
def activateNext (shell : AbstractShell) (session : SessionID) :
    AbstractShell × Except ShellFailure Unit :=
  let shell := shell.setActive none
  match (shell.manager.sessionInfo session).getD [] with
  | [] =>
    let focused := shell.focusNextSession
    match focused.2 with
    | .error failure => (focused.1, .error failure)
    | .ok () => focused.1.select focused.1.focusedSurface
  | first :: _ => shell.select (shell.manager.lock first)

def handleDeleteSurface (shell : AbstractShell) (session : SessionID) (surface : SurfaceID) :
    AbstractShell × Except ShellFailure Unit :=
  let isActiveSurface := decide (shell.manager.lock surface = shell.activeSurface)
  let discarded := shell.discard session surface
  match discarded.2 with
  | .error failure => (discarded.1, .error failure)
  | .ok () => if isActiveSurface then discarded.1.activateNext session else discarded

def forget (shell : AbstractShell) (surface : SurfaceID) : AbstractShell :=
  { shell with manager := shell.manager.forget surface }

/-- The surface is forgotten only if nothing was thrown before. -/
def removeSurface (shell : AbstractShell) (session : SessionID) (surface : SurfaceID) :
    AbstractShell × Except ShellFailure Unit :=
  let deleted := shell.handleDeleteSurface session surface
  match deleted.2 with
  | .error failure => (deleted.1, .error failure)
  | .ok () => (deleted.1.forget surface, .ok ())

def destroySurface (shell : AbstractShell) (session : SessionID) (surface : SurfaceID) :
    AbstractShell :=
  if surface ∈ shell.surfaces session then (shell.removeSurface session surface).1 else shell

/-! ### Closing a session -/

def canTakeFocus : WindowType → Bool
  | .normal | .utility | .dialog | .satellite | .freestyle | .menu | .inputmethod => true
  | .gloss | .tip => false

def surfaceAfter (shell : AbstractShell) (session : SessionID) (before : SurfaceID) :
    Except ShellFailure (Option SurfaceID) :=
  let surfaces := shell.surfaces session
  match surfaces.dropWhile (· ≠ before) with
  | [] =>
    .error (.thrown (.runtimeError "surface_after: surface is not a member of this session"))
  | current :: later =>
    match later.find? fun surface => canTakeFocus (shell.type surface) with
    | some next => .ok (some next)
    | none =>
      let earlier := surfaces.takeWhile (· ≠ before) ++ [current]
      match earlier.find? fun surface => canTakeFocus (shell.type surface) with
      | some next => .ok (some next)
      -- the search that starts again ends where the first one began
      | none => .ok later.head?

/-- The walk ends at the latest when all surfaces of the session were found. -/
def collectFrom (shell : AbstractShell) (session : SessionID) :
    Nat → Option SurfaceID → List SurfaceID → Except ShellFailure (List SurfaceID)
  | 0, _, _ => .error (.thrown .stackExhausted)
  | _ + 1, none, found => .ok found
  | steps + 1, some surface, found =>
    if surface ∈ found then .ok found
    else
      match shell.surfaceAfter session surface with
      | .error failure => .error failure
      | .ok next => shell.collectFrom session steps next (found ++ [surface])

/-- The surfaces of a session that are removed when it is closed. -/
def collect (shell : AbstractShell) (session : SessionID) :
    Except ShellFailure (List SurfaceID) :=
  shell.collectFrom session ((shell.surfaces session).length + 1) (shell.defaultSurface session)
    []

/-- A set of references is in the order of their addresses. -/
def byAddress (addresses : SurfaceID ↪ Nat) (surfaces : List SurfaceID) : List SurfaceID :=
  surfaces.insertionSort fun first second => addresses first ≤ addresses second

def removals (shell : AbstractShell) (session : SessionID) (addresses : SurfaceID ↪ Nat) :
    Except ShellFailure (List SurfaceID) :=
  (shell.collect session).map (byAddress addresses)

def removeSurfaces (shell : AbstractShell) (session : SessionID) :
    List SurfaceID → AbstractShell × Except ShellFailure Unit
  | [] => (shell, .ok ())
  | surface :: rest =>
    let removed := shell.removeSurface session surface
    match removed.2 with
    | .error failure => (removed.1, .error failure)
    | .ok () => removed.1.removeSurfaces session rest

/-- The session leaves the container, and the window manager forgets it. -/
def endSession (shell : AbstractShell) (session : SessionID) :
    AbstractShell × Except ShellFailure Unit :=
  if session ∈ shell.sessions then
    ({ shell with
        sessions := shell.sessions.erase session
        manager := shell.manager.step (.removeSession session) }, .ok ())
  else (shell, .error (.logicError "Invalid Session"))

def closeSession (shell : AbstractShell) (session : SessionID) (addresses : SurfaceID ↪ Nat) :
    AbstractShell × Except ShellFailure Unit :=
  match shell.removals session addresses with
  | .error failure => (shell, .error failure)
  | .ok order =>
    let removed := shell.removeSurfaces session order
    match removed.2 with
    | .error failure => (removed.1, .error failure)
    | .ok () => removed.1.endSession session

/-- A session that nobody holds any more takes the surfaces it still has off the stack and lets
go of them. -/
def releaseSession (shell : AbstractShell) (session : SessionID) : AbstractShell :=
  let left := shell.surfaces session
  { shell with
    manager := { shell.manager with
      destroyed := fun surface => decide (surface ∈ left) || shell.manager.destroyed surface }
    surfaces := Function.update shell.surfaces session []
    stack := shell.stack.filter (· ∉ left) }

/-! ### Runs -/

inductive Op
  | openSession
  | createSurface (session : SessionID) (type : Option WindowType)
      (parentID foreignParent : Option SurfaceID)
  | modifySurface (session : SessionID) (surface : SurfaceID) (parentID : Option SurfaceID)
      (type : Option WindowType)
  | setSurfaceType (session : SessionID) (surface : SurfaceID) (type : WindowType)
  | destroySurface (session : SessionID) (surface : SurfaceID)
  | selectActiveSurface (surface : Option SurfaceID)
  | focusNextSession
  | closeSession (session : SessionID) (addresses : SurfaceID ↪ Nat)
  | expire (surface : SurfaceID)

/-- A client asks for the session it has open only, and lets go of it when it is closed. -/
def step (shell : AbstractShell) : Op → AbstractShell
  | .openSession =>
    { shell with
      sessions := shell.sessions ++ [shell.opened]
      opened := shell.opened + 1
      manager := shell.manager.step (.addSession shell.opened) }
  | .createSurface session type parentID foreignParent =>
    if session ∈ shell.sessions then
      shell.createSurface session type parentID foreignParent
    else shell
  | .modifySurface session surface parentID type =>
    if session ∈ shell.sessions then shell.modifySurface session surface parentID type
    else shell
  | .setSurfaceType session surface type =>
    if session ∈ shell.sessions then shell.setSurfaceType session surface type else shell
  | .destroySurface session surface =>
    if session ∈ shell.sessions then shell.destroySurface session surface else shell
  | .selectActiveSurface surface => (shell.select (surface.bind shell.manager.lock)).1
  | .focusNextSession => shell.focusNextSession.1
  | .closeSession session addresses =>
    if session ∈ shell.sessions then
      let closed := shell.closeSession session addresses
      match closed.2 with
      | .error _ => closed.1
      | .ok () => closed.1.releaseSession session
    else shell
  | .expire surface => { shell with manager := shell.manager.step (.expire surface) }

end AbstractShell

end Mir.Shell

/-
This file embeds the window manager: what it keeps about each surface, and what adding,
modifying and removing a surface do to it under the canonical policy. A surface has a
parent and a list of children, both weak references: a reference to a surface that is
gone cannot be locked.

An operation may throw half way. What it has changed until then stays changed, so each
operation here gives the state it leaves together with how it ended. The recursions over
parents and children have a bound on their depth; running out of it stands for a stack
that is exhausted.
-/

import Mathlib.Logic.Function.Basic
import Mathlib.Data.List.Basic
import Mir.Geometry.Rectangle
import Mir.Library.Transition

namespace Mir.Shell

open Mir.Geometry

abbrev SurfaceID := Nat

abbrev SessionID := Nat

/-! ### What is kept about a surface -/

inductive WindowType
  | normal
  | utility
  | dialog
  | gloss
  | freestyle
  | menu
  | inputmethod
  | satellite
  | tip
  deriving DecidableEq, Repr

structure SurfaceInfo where
  type : WindowType
  session : SessionID
  parent : Option SurfaceID
  children : List SurfaceID
  deriving DecidableEq, Repr

def SurfaceInfo.canBeActive (info : SurfaceInfo) : Bool :=
  match info.type with
  | .normal | .utility | .dialog | .satellite | .freestyle | .menu | .inputmethod => true
  | .gloss | .tip => false

def SurfaceInfo.mustHaveParent (info : SurfaceInfo) : Bool :=
  match info.type with
  | .gloss | .inputmethod | .satellite | .tip => true
  | .normal | .utility | .dialog | .freestyle | .menu => false

def SurfaceInfo.canMorphTo (info : SurfaceInfo) (newType : WindowType) : Bool :=
  match newType with
  | .normal | .utility | .satellite =>
    match info.type with
    | .normal | .utility | .dialog | .satellite => true
    | .gloss | .freestyle | .menu | .inputmethod | .tip => false
  | .dialog =>
    match info.type with
    | .normal | .utility | .dialog | .menu | .satellite => true
    | .gloss | .freestyle | .inputmethod | .tip => false
  | .gloss | .freestyle | .menu | .inputmethod | .tip => false

/-- The policy asks this of a surface that is placed as well as of one that morphs. -/
def mustNotHaveParent : WindowType → Bool
  | .normal | .utility => true
  | .dialog | .gloss | .freestyle | .menu | .inputmethod | .satellite | .tip => false

/-- The test the policy makes when it places a surface; it lacks the input method. -/
def mustHaveParentToBePlaced : WindowType → Bool
  | .gloss | .satellite | .tip => true
  | .normal | .utility | .dialog | .freestyle | .menu | .inputmethod => false

/-! ### The state -/

inductive Failure
  | outOfRange
  | runtimeError (what : String)
  | nullDereference
  | stackExhausted
  deriving DecidableEq, Repr

/-- Surfaces are numbered as they are made. `destroyed` are those their session has given up,
`expired` those of them that nobody refers to any more. -/
structure Manager where
  surfaceInfo : SurfaceID → Option SurfaceInfo
  sessionInfo : SessionID → Option (List SurfaceID)
  made : Nat
  destroyed : SurfaceID → Bool
  expired : SurfaceID → Bool
  activeSurface : Option SurfaceID

namespace Manager

def initial : Manager where
  surfaceInfo := fun _ => none
  sessionInfo := fun _ => none
  made := 0
  destroyed := fun _ => false
  expired := fun _ => false
  activeSurface := none

/-- A reference that a caller holds is to a surface that was made. -/
def reference (manager : Manager) (surface : Option SurfaceID) : Option SurfaceID :=
  surface.filter fun id => id < manager.made

def lock (manager : Manager) (surface : SurfaceID) : Option SurfaceID :=
  if manager.expired surface then none else some surface

def lockParent (manager : Manager) (info : SurfaceInfo) : Option SurfaceID :=
  info.parent.bind manager.lock

def infoFor (manager : Manager) (surface : SurfaceID) : Except Failure SurfaceInfo :=
  match manager.surfaceInfo surface with
  | none => .error .outOfRange
  | some info => .ok info

def setInfo (manager : Manager) (surface : SurfaceID) (info : SurfaceInfo) : Manager :=
  { manager with surfaceInfo := Function.update manager.surfaceInfo surface (some info) }

def destroy (manager : Manager) (surface : SurfaceID) : Manager :=
  { manager with destroyed := Function.update manager.destroyed surface true }

def expire (manager : Manager) (surface : SurfaceID) : Manager :=
  { manager with expired := Function.update manager.expired surface true }

def forget (manager : Manager) (surface : SurfaceID) : Manager :=
  { manager with surfaceInfo := Function.update manager.surfaceInfo surface none }

/-! ### Trees of surfaces -/

/-- The surfaces below one, each list of children before what is below them. -/
def addChildren (manager : Manager) : Nat → SurfaceID → Except Failure (List SurfaceID)
  | 0, _ => .error .stackExhausted
  | depth + 1, surface => do
    let info ← manager.infoFor surface
    let below ← info.children.mapM (manager.addChildren depth)
    return info.children ++ below.flatten

/-- The surfaces that are raised with a root. A tree is no deeper than there are surfaces. -/
def raiseTree (manager : Manager) (root : SurfaceID) : Except Failure (List SurfaceID) := do
  let below ← manager.addChildren (manager.made + 1) root
  return root :: below

/-- The positions of the surfaces after a surface and all below it have moved; the reference to a
child has to be locked. -/
def moveTree (manager : Manager) (movement : Point) :
    Nat → Option SurfaceID → (SurfaceID → Point) → Except Failure (SurfaceID → Point)
  | 0, _, _ => .error .stackExhausted
  | _ + 1, none, _ => .error .nullDereference
  | depth + 1, some root, topLeft => do
    let moved : Point := ⟨(topLeft root).x + movement.x, (topLeft root).y + movement.y⟩
    let info ← manager.infoFor root
    info.children.foldlM
      (fun topLeft child => manager.moveTree movement depth (manager.lock child) topLeft)
      (Function.update topLeft root moved)

/-- The surface that is active afterwards. -/
def selectActiveSurface (manager : Manager) :
    Nat → Option SurfaceID → Except Failure (Option SurfaceID)
  | 0, _ => .error .stackExhausted
  | _ + 1, none => .ok none
  | depth + 1, some surface => do
    let info ← manager.infoFor surface
    if info.canBeActive then
      let _ ← manager.raiseTree surface
      return some surface
    else
      -- cannot have input focus, so its parent is tried
      match manager.lockParent info with
      | some parent => manager.selectActiveSurface depth (some parent)
      | none => return manager.activeSurface

/-! ### The operations -/

/-- A session that is not registered cannot be given a surface. -/
def recordSurface (manager : Manager) (session : SessionID) (surface : SurfaceID) :
    Manager × Except Failure Unit :=
  match manager.sessionInfo session with
  | none => (manager, .error .outOfRange)
  | some surfaces =>
    ({ manager with
        sessionInfo := Function.update manager.sessionInfo session (some (surfaces ++ [surface])) },
      .ok ())

/-- A surface is built and registered. -/
def registerSurface (manager : Manager) (session : SessionID) (type : WindowType)
    (parent : Option SurfaceID) : Manager :=
  { manager.setInfo manager.made ⟨type, session, parent, []⟩ with made := manager.made + 1 }

/-- The surface is registered before its parent is told. -/
def handleNewSurface (manager : Manager) (session : SessionID) (type : WindowType)
    (parent : Option SurfaceID) : Manager × Except Failure Unit :=
  let surface := manager.made
  let registered := manager.registerSurface session type parent
  match parent.bind manager.lock with
  | none => registered.recordSurface session surface
  | some parent =>
    match registered.surfaceInfo parent with
    | none => (registered, .error .outOfRange)
    | some info =>
      (registered.setInfo parent
        { info with children := info.children ++ [surface] }).recordSurface session surface

def addSurface (manager : Manager) (session : SessionID) (type : Option WindowType)
    (parent : Option SurfaceID) : Manager × Except Failure Unit :=
  let parent := manager.reference parent
  match type with
  | none => (manager, .error (.runtimeError "Surface type must be provided"))
  | some type =>
    if mustNotHaveParent type && (parent.bind manager.lock).isSome then
      (manager, .error (.runtimeError "Surface type cannot have parent"))
    else if mustHaveParentToBePlaced type && (parent.bind manager.lock).isNone then
      (manager, .error (.runtimeError "Surface type must have parent"))
    else manager.handleNewSurface session type parent

/-- The part of a specification that has to do with parents. -/
structure Modifications where
  parent : Option (Option SurfaceID)
  type : Option WindowType
  deriving DecidableEq, Repr

/-- The information about a surface with the modifications made. -/
def modifiedInfo (manager : Manager) (info : SurfaceInfo) (modifications : Modifications) :
    Except Failure SurfaceInfo :=
  let info :=
    match modifications.parent with
    | some parent => { info with parent := manager.reference parent }
    | none => info
  match modifications.type with
  | none => .ok info
  | some newType =>
    if info.type = newType then .ok info
    else if !info.canMorphTo newType then
      .error (.runtimeError "Unsupported surface type change")
    else
      let info := { info with type := newType }
      if mustNotHaveParent newType then
        if modifications.parent.isSome then
          .error (.runtimeError "Target surface type does not support parent")
        else .ok { info with parent := none }
      else if info.mustHaveParent && (manager.lockParent info).isNone then
        .error (.runtimeError "Target surface type requires parent")
      else .ok info

def modifySurface (manager : Manager) (surface : SurfaceID) (modifications : Modifications) :
    Manager × Except Failure Unit :=
  match manager.surfaceInfo surface with
  | none => (manager, .error .outOfRange)
  | some info =>
    match manager.modifiedInfo info modifications with
    | .error failure => (manager, .error failure)
    | .ok info => (manager.setInfo surface info, .ok ())

/-- The parent of a surface, if it can be locked, forgets the child. -/
def eraseSibling (manager : Manager) (surface : SurfaceID) (info : SurfaceInfo) :
    Except Failure Manager :=
  match manager.lockParent info with
  | none => .ok manager
  | some parent =>
    match manager.surfaceInfo parent with
    | none => .error .outOfRange
    | some parentInfo =>
      .ok (manager.setInfo parent
        { parentInfo with
          children := parentInfo.children.eraseP fun child =>
            manager.lock child = manager.lock surface })

/-- What others answer while a surface is removed: the default surface of the focused session, the
surface that is focused when no surface of the session is left, and whether the last reference to
the surface goes with it. -/
structure Answers where
  defaultSurface : Option SurfaceID
  focusedSurface : Option SurfaceID
  expires : Bool
  deriving DecidableEq, Repr

def activeSurfaceOr (manager : Manager) (defaultSurface : Option SurfaceID) : Option SurfaceID :=
  match manager.activeSurface.bind manager.lock with
  | some surface => some surface
  | none => defaultSurface

/-- A session gives up a surface of its own. -/
def destroySurface (manager : Manager) (session : SessionID) (surface : SurfaceID)
    (info : SurfaceInfo) (expires : Bool) : Except Failure Manager :=
  if info.session = session ∧ manager.destroyed surface = false ∧
      manager.lock surface = some surface then
    .ok (if expires then (manager.destroy surface).expire surface else manager.destroy surface)
  else .error (.runtimeError "Invalid Surface")

/-- What is left to do when a surface was destroyed: its session forgets it, and another surface
becomes active if it was. -/
def afterDestroyed (manager : Manager) (session : SessionID) (surface : SurfaceID)
    (wasActive : Bool) (focusedSurface : Option SurfaceID) : Manager × Except Failure Unit :=
  match manager.sessionInfo session with
  | none => (manager, .error .outOfRange)
  | some surfaces =>
    let surfaces := surfaces.eraseP fun other => manager.lock other = manager.lock surface
    let manager : Manager :=
      { manager with sessionInfo := Function.update manager.sessionInfo session (some surfaces) }
    if wasActive then
      let manager : Manager := { manager with activeSurface := none }
      let next :=
        match surfaces with
        | [] => focusedSurface
        | first :: _ => manager.lock first
      match manager.selectActiveSurface (manager.made + 1) next with
      | .error failure => (manager, .error failure)
      | .ok active => ({ manager with activeSurface := active }, .ok ())
    else (manager, .ok ())

/-- The surface is forgotten only if nothing was thrown before. -/
def removeSurface (manager : Manager) (session : SessionID) (surface : SurfaceID)
    (answers : Answers) : Manager × Except Failure Unit :=
  let wasActive := decide (manager.lock surface = manager.activeSurfaceOr answers.defaultSurface)
  match manager.surfaceInfo surface with
  | none => (manager, .error .outOfRange)
  | some info =>
    match manager.eraseSibling surface info with
    | .error failure => (manager, .error failure)
    | .ok erased =>
      match erased.destroySurface session surface info answers.expires with
      | .error failure => (erased, .error failure)
      | .ok destroyed =>
        let outcome := destroyed.afterDestroyed session surface wasActive answers.focusedSurface
        match outcome.2 with
        | .error failure => (outcome.1, .error failure)
        | .ok () => (outcome.1.forget surface, .ok ())

end Manager

inductive Op
  | addSession (session : SessionID)
  | removeSession (session : SessionID)
  | addSurface (session : SessionID) (type : Option WindowType) (parent : Option SurfaceID)
  | modifySurface (surface : SurfaceID) (modifications : Manager.Modifications)
  | removeSurface (session : SessionID) (surface : SurfaceID) (answers : Manager.Answers)
  | expire (surface : SurfaceID)

/-- Only a surface that was destroyed loses its last reference. -/
def Manager.step (manager : Manager) : Op → Manager
  | .addSession session =>
    { manager with sessionInfo := Function.update manager.sessionInfo session (some []) }
  | .removeSession session =>
    { manager with sessionInfo := Function.update manager.sessionInfo session none }
  | .addSurface session type parent => (manager.addSurface session type parent).1
  | .modifySurface surface modifications => (manager.modifySurface surface modifications).1
  | .removeSurface session surface answers => (manager.removeSurface session surface answers).1
  | .expire surface => if manager.destroyed surface then manager.expire surface else manager

end Mir.Shell

/-
This file embeds how a session creates a surface: the content and the parent are looked up, the
surface is built, put on the stack, told its attributes, and only then entered in the session's
map. Each step may throw, and what was changed before stays.

What is kept of the server is what a creation changes: the maps of the session and of its
mediator, the stack, the attributes of surfaces, and what the window manager has noted. A
surface or a stream is known by a number for its address. Sizes, positions and the layers of a
surface decide nothing of what throws, and are left out.
-/

import Mathlib.Logic.Function.Basic
import Mir.Library.OrderedMap
import Mir.Library.Throwing

namespace Mir.Scene.SurfaceCreation

open Throwing

abbrev SurfaceHandle := Nat

abbrev StreamHandle := Nat

/-! ### The state -/

inductive CreationError
  | logicError (what : String)
  | runtimeError (what : String)
  | invalidArgument (what : String)
  | outOfRange
  | outside (what : String)
  deriving DecidableEq, Repr

/-- The attributes of a surface that a creation can set. -/
inductive WindowAttribute
  | type
  | state
  | preferredOrientation
  deriving DecidableEq, Repr

/-- What the window manager notes of a surface. -/
structure SurfaceInfo where
  type : BitVec 32
  state : BitVec 32
  parent : Option SurfaceHandle
  children : List SurfaceHandle
  deriving DecidableEq, Repr

/-- One session, and what it shares with the others. `sessionInfo` are the surfaces that the window
manager has noted for it, if it knows the session. -/
structure Server where
  connected : Bool
  nextSurfaceID : Int
  surfaces : OrderedMap Int SurfaceHandle
  defaultContentMap : OrderedMap Int Int
  streams : OrderedMap Int StreamHandle
  legacyDefaultStreamMap : OrderedMap Int Int
  stack : List SurfaceHandle
  attributes : SurfaceHandle → WindowAttribute → BitVec 32
  made : Nat
  expired : SurfaceHandle → Bool
  surfaceInfo : SurfaceHandle → Option SurfaceInfo
  sessionInfo : Option (List SurfaceHandle)

/-- What a failed creation should leave as it was. -/
structure Trace where
  surfaces : OrderedMap Int SurfaceHandle
  streams : OrderedMap Int StreamHandle
  stack : List SurfaceHandle
  surfaceInfo : SurfaceHandle → Option SurfaceInfo

namespace Server

def trace (server : Server) : Trace :=
  ⟨server.surfaces, server.streams, server.stack, server.surfaceInfo⟩

/-- A surface that was made can be locked until nobody holds it. -/
def lock (server : Server) (surface : SurfaceHandle) : Option SurfaceHandle :=
  if surface < server.made ∧ server.expired surface = false then some surface else none

/-- The address of a new stream is not that of one in the map. -/
def newStream (server : Server) : StreamHandle :=
  (server.streams.entries.map fun entry => entry.2 + 1).sum

def setAttribute (server : Server) (surface : SurfaceHandle) (attrib : WindowAttribute)
    (value : BitVec 32) : Server :=
  { server with
    attributes := Function.update server.attributes surface
      (Function.update (server.attributes surface) attrib value) }

end Server

structure CreationParameters where
  type : Option (BitVec 32)
  state : Option (BitVec 32)
  preferredOrientation : Option (BitVec 32)
  outputID : BitVec 32
  parentID : Option Int
  parent : Option SurfaceHandle
  contentID : Option Int
  streams : Option (List Int)
  deriving DecidableEq, Repr

/-- The calls of a creation that lead out of what is embedded here: reports, observers, listeners,
factories, the display layout and the sender of messages. -/
inductive Outside
  | sessionCreateSurfaceCalled
  | createBufferStream
  | createSink
  | placeInOutput
  | createSurface
  | surfaceAdded
  | attribChanged (attrib : WindowAttribute)
  | movedTo
  | surfaceCreated
  | createdSurface
  | respond
  | run
  | uncork
  deriving DecidableEq, Repr

/-- What these calls throw, and what the store of persistent surfaces answers. -/
structure Circumstances where
  throws : Outside → Option String
  surfaceForID : String → Except CreationError (Option SurfaceHandle)

/-- A step of a creation, which keeps its changes when it throws. -/
abbrev Creation := Throwing Server CreationError

/-! ### The surface and the stack -/

def call (circumstances : Circumstances) (step : Outside) : Creation Unit :=
  match circumstances.throws step with
  | none => pure ()
  | some what => throwing (.outside what)

/-- Sets an attribute of a surface to a value that passes its check, and tells its observers if it
is another one. -/
def setAttribute (circumstances : Circumstances) (attrib : WindowAttribute)
    (invalid : BitVec 32 → Bool) (what : String) (surface : SurfaceHandle) (value : BitVec 32) :
    Creation Unit :=
  if invalid value then throwing (.logicError what)
  else do
    let server ← readState
    if server.attributes surface attrib = value then pure ()
    else do
      change fun server => server.setAttribute surface attrib value
      call circumstances (.attribChanged attrib)

/-- `mir_window_types` is 9, and passes the check. -/
def invalidType (type : BitVec 32) : Bool := type.toInt < 0 || type.toInt > 9

/-- `mir_window_states` is 8, and passes the check. -/
def invalidState (state : BitVec 32) : Bool := state.toInt < 0 || state.toInt > 8

def invalidOrientation (mode : BitVec 32) : Bool := mode &&& 15#32 = 0#32

def setType (circumstances : Circumstances) : SurfaceHandle → BitVec 32 → Creation Unit :=
  setAttribute circumstances .type invalidType "Invalid surface type."

def setState (circumstances : Circumstances) : SurfaceHandle → BitVec 32 → Creation Unit :=
  setAttribute circumstances .state invalidState "Invalid surface state."

def setPreferredOrientation (circumstances : Circumstances) :
    SurfaceHandle → BitVec 32 → Creation Unit :=
  setAttribute circumstances .preferredOrientation invalidOrientation "Invalid orientation mode"

def configure (circumstances : Circumstances) (surface : SurfaceHandle) :
    WindowAttribute → BitVec 32 → Creation Unit
  | .type, value => setType circumstances surface value
  | .state, value => setState circumstances surface value
  | .preferredOrientation, value => setPreferredOrientation circumstances surface value

def configureIfSet (circumstances : Circumstances) (surface : SurfaceHandle)
    (attrib : WindowAttribute) : Option (BitVec 32) → Creation Unit
  | none => pure ()
  | some value => configure circumstances surface attrib value

/-- The attributes of a new surface. -/
def initialAttributes : WindowAttribute → BitVec 32
  | .type => 0#32
  | .state => 1#32
  | .preferredOrientation => 15#32

def newSurface : Creation SurfaceHandle := do
  let server ← readState
  change fun server =>
    { server with
      made := server.made + 1
      attributes := Function.update server.attributes server.made initialAttributes }
  return server.made

def SurfaceStack.addSurface (circumstances : Circumstances) (surface : SurfaceHandle) :
    Creation Unit := do
  change fun server => { server with stack := server.stack ++ [surface] }
  call circumstances .surfaceAdded

/-! ### The session -/

def nextID : Creation Int := do
  let server ← readState
  change fun server => { server with nextSurfaceID := (server.nextSurfaceID + 1).bmod (2 ^ 32) }
  return server.nextSurfaceID

def checkedFind {Value : Type} (find : Server → Option Value) (what : String) : Creation Value := do
  let server ← readState
  match find server with
  | some value => pure value
  | none => throwing (.runtimeError what)

def checkedFindSurface (id : Int) : Creation SurfaceHandle :=
  checkedFind (fun server => server.surfaces.find id) "Invalid SurfaceId"

def checkedFindStream (id : Int) : Creation StreamHandle :=
  checkedFind (fun server => server.streams.find id) "Invalid BufferStreamId"

def insertStream (id : Int) : Creation Int := do
  change fun server => { server with streams := server.streams.set id server.newStream }
  return id

def createBufferStream (circumstances : Circumstances) : Creation Int := do
  let id ← nextID
  call circumstances .createBufferStream
  insertStream id

/-- The stream that is the content of the surface: the one named, or the first. -/
def findContent (params : CreationParameters) : Creation Int :=
  match params.contentID, params.streams with
  | some content, _ => do
    let _ ← checkedFindStream content
    return content
  | none, some (first :: _) => do
    let _ ← checkedFindStream first
    return first
  | none, _ => throwing (.logicError "surface must have content")

def findParent (params : CreationParameters) : Creation (Option SurfaceHandle) :=
  match params.parentID with
  | none => return params.parent
  | some id => do
    let parent ← checkedFindSurface id
    return some parent

/-- The ids of the streams that the surface is built of. -/
def CreationParameters.streamIDs (params : CreationParameters) : List Int :=
  match params.contentID with
  | some content => [content]
  | none => params.streams.getD []

def findStreams : List Int → Creation (List StreamHandle)
  | [] => return []
  | id :: rest => do
    let stream ← checkedFindStream id
    let others ← findStreams rest
    return stream :: others

/-- A surface that is built, with the id it is to have and that of its content. -/
structure Prepared where
  id : Int
  content : Int
  surface : SurfaceHandle

/-- The steps up to the factory. -/
def prepareSurface (circumstances : Circumstances) (params : CreationParameters) :
    Creation Prepared := do
  let id ← nextID
  let content ← findContent params
  let _ ← findParent params
  let _ ← findStreams params.streamIDs
  call circumstances .createSurface
  let surface ← newSurface
  return ⟨id, content, surface⟩

def insertSurface (prepared : Prepared) : Creation Unit :=
  change fun server =>
    { server with
      surfaces := server.surfaces.set prepared.id prepared.surface
      defaultContentMap := server.defaultContentMap.set prepared.id prepared.content }

/-- The steps from the stack on. -/
def enterSurface (circumstances : Circumstances) (params : CreationParameters)
    (prepared : Prepared) : Creation Int := do
  SurfaceStack.addSurface circumstances prepared.surface
  configureIfSet circumstances prepared.surface .state params.state
  configureIfSet circumstances prepared.surface .type params.type
  configureIfSet circumstances prepared.surface .preferredOrientation params.preferredOrientation
  insertSurface prepared
  call circumstances .movedTo
  call circumstances .surfaceCreated
  return prepared.id

def ApplicationSession.createSurface (circumstances : Circumstances)
    (params : CreationParameters) : Creation Int := do
  let prepared ← prepareSurface circumstances params
  enterSurface circumstances params prepared

/-! ### When the steps of a session give a value -/

variable {circumstances : Circumstances} {server : Server} {params : CreationParameters}

def WindowAttribute.invalid : WindowAttribute → BitVec 32 → Bool
  | .type => invalidType
  | .state => invalidState
  | .preferredOrientation => invalidOrientation

/-- A new surface can be told a value: it passes its check, and no observer of a change throws. -/
def Circumstances.Allows (circumstances : Circumstances) (attrib : WindowAttribute)
    (value : Option (BitVec 32)) : Prop :=
  ∀ told ∈ value, attrib.invalid told = false ∧
    (initialAttributes attrib ≠ told → circumstances.throws (.attribChanged attrib) = none)

theorem call_gives (step : Outside) :
    GivesIff (call circumstances step) server (circumstances.throws step = none) () server := by
  unfold call
  cases circumstances.throws step with
  | none => exact (givesIff_pure () server).congr (iff_of_true trivial rfl)
  | some what =>
    exact (givesIff_throwing _ server () server).congr (iff_of_false id (nomatch ·))

theorem setAttribute_same {surface : SurfaceHandle} {attrib : WindowAttribute}
    {value : BitVec 32} (same : server.attributes surface attrib = value) :
    server.setAttribute surface attrib value = server := by
  rw [Server.setAttribute, ← same, Function.update_eq_self, Function.update_eq_self]

theorem configure_gives (surface : SurfaceHandle) (attrib : WindowAttribute) (value : BitVec 32) :
    GivesIff (configure circumstances surface attrib value) server
      (attrib.invalid value = false ∧ (server.attributes surface attrib ≠ value →
        circumstances.throws (.attribChanged attrib) = none)) ()
      (server.setAttribute surface attrib value) := by
  have general (invalid : BitVec 32 → Bool) (what : String) :
      GivesIff (setAttribute circumstances attrib invalid what surface value) server
        (invalid value = false ∧ (server.attributes surface attrib ≠ value →
          circumstances.throws (.attribChanged attrib) = none)) ()
        (server.setAttribute surface attrib value) := by
    unfold setAttribute
    cases rejected : invalid value with
    | true =>
      rw [if_pos rfl]
      exact (givesIff_throwing _ server () _).congr (iff_of_false id fun both => nomatch both.1)
    | false =>
      rw [if_neg Bool.false_ne_true]
      refine (givesIff_readState server).always_bind ?_
      by_cases same : server.attributes surface attrib = value
      · rw [if_pos same, setAttribute_same same]
        refine (givesIff_pure () server).congr (iff_of_true trivial ⟨rfl, fun other => ?_⟩)
        exact absurd same other
      · rw [if_neg same]
        refine ((givesIff_change _ server).always_bind (call_gives _)).congr ?_
        exact ⟨fun quiet => ⟨rfl, fun _ => quiet⟩, fun both => both.2 same⟩
  cases attrib with
  | type => exact general invalidType _
  | state => exact general invalidState _
  | preferredOrientation => exact general invalidOrientation _

theorem nextID_gives :
    GivesIff nextID server True server.nextSurfaceID
      { server with nextSurfaceID := (server.nextSurfaceID + 1).bmod (2 ^ 32) } :=
  ⟨fun _ => rfl, fun never => absurd trivial never⟩

theorem newSurface_gives :
    GivesIff newSurface server True server.made
      { server with
        made := server.made + 1
        attributes := Function.update server.attributes server.made initialAttributes } :=
  ⟨fun _ => rfl, fun never => absurd trivial never⟩

theorem checkedFind_gives {Value : Type} (find : Server → Option Value) (what : String)
    (absent : Value) :
    GivesIff (checkedFind find what) server ((find server).isSome = true)
      ((find server).getD absent) server := by
  refine (givesIff_readState server).always_bind ?_
  cases find server with
  | none => exact (givesIff_throwing _ server _ server).congr (iff_of_false id (nomatch ·))
  | some value => exact (givesIff_pure value server).congr (iff_of_true trivial rfl)

/-- Telling a new surface one attribute leaves the others as they are. -/
theorem configureIfSet_gives {surface : SurfaceHandle} {attrib : WindowAttribute}
    (isNew : server.attributes surface attrib = initialAttributes attrib)
    (value : Option (BitVec 32)) :
    ∃ attributes, GivesIff (configureIfSet circumstances surface attrib value) server
        (circumstances.Allows attrib value) () { server with attributes := attributes } ∧
      ∀ other, other ≠ attrib → attributes surface other = server.attributes surface other := by
  cases value with
  | none =>
    refine ⟨server.attributes, ?_, fun _ _ => rfl⟩
    exact (givesIff_pure () server).congr (iff_of_true trivial fun _ told => nomatch told)
  | some told =>
    refine ⟨_, (configure_gives surface attrib told).congr ?_, fun other different => ?_⟩
    · rw [isNew]
      refine ⟨fun allowed _ same => ?_, fun allows => allows told rfl⟩
      rwa [← Option.mem_some_iff.mp same]
    · rw [Function.update_self, Function.update_of_ne different]

theorem checkedFindStream_gives (id : Int) :
    GivesIff (checkedFindStream id) server ((server.streams.find id).isSome = true)
      ((server.streams.find id).getD 0) server :=
  checkedFind_gives _ _ 0

theorem checkedFindSurface_gives (id : Int) :
    GivesIff (checkedFindSurface id) server ((server.surfaces.find id).isSome = true)
      ((server.surfaces.find id).getD 0) server :=
  checkedFind_gives _ _ 0

theorem findStreams_gives (ids : List Int) :
    GivesIff (findStreams ids) server (∀ id ∈ ids, (server.streams.find id).isSome = true)
      (ids.map fun id => (server.streams.find id).getD 0) server := by
  induction ids with
  | nil => exact (givesIff_pure _ server).congr (iff_of_true trivial fun _ none => nomatch none)
  | cons id rest inductionHypothesis =>
    refine ((checkedFindStream_gives id).bind fun _ => inductionHypothesis.map _).congr ?_
    rw [List.forall_mem_cons]

/-- The content is the first of the streams that the surface is built of. -/
theorem findContent_gives :
    GivesIff (findContent params) server
      (∃ first ∈ params.streamIDs.head?, (server.streams.find first).isSome = true)
      (params.streamIDs.headD 0) server := by
  have found (first : Int) (streamIDs : List Int) (isFirst : streamIDs.head? = some first) :
      GivesIff (do let _ ← checkedFindStream first; pure first) server
        (∃ first ∈ streamIDs.head?, (server.streams.find first).isSome = true)
        (streamIDs.headD 0) server := by
    rw [isFirst, List.headD_eq_head?_getD, isFirst]
    refine ((checkedFindStream_gives first).map fun _ => first).congr ?_
    exact ⟨fun isSome => ⟨first, rfl, isSome⟩, fun ⟨_, same, isSome⟩ =>
      Option.mem_some_iff.mp same ▸ isSome⟩
  unfold findContent CreationParameters.streamIDs
  rcases params.contentID with - | content
  · rcases params.streams with - | - | ⟨first, rest⟩
    · exact (givesIff_throwing _ server _ server).congr
        (iff_of_false id fun ⟨_, absent, _⟩ => nomatch absent)
    · exact (givesIff_throwing _ server _ server).congr
        (iff_of_false id fun ⟨_, absent, _⟩ => nomatch absent)
    · exact found first (first :: rest) rfl
  · exact found content [content] rfl

/-- The parent of a surface, if it is one of the session's or somebody else's. -/
def CreationParameters.requestedParent (params : CreationParameters) (server : Server) :
    Option SurfaceHandle :=
  match params.parentID with
  | none => params.parent
  | some id => some ((server.surfaces.find id).getD 0)

theorem findParent_gives :
    GivesIff (findParent params) server
      (∀ id ∈ params.parentID, (server.surfaces.find id).isSome = true)
      (params.requestedParent server) server := by
  unfold findParent CreationParameters.requestedParent
  cases params.parentID with
  | none => exact (givesIff_pure _ server).congr (iff_of_true trivial fun _ none => nomatch none)
  | some id =>
    refine ((checkedFindSurface_gives id).map some).congr ?_
    exact ⟨fun isSome _ same => Option.mem_some_iff.mp same ▸ isSome, fun all => all id rfl⟩

/-- A session builds a surface for these parameters. -/
structure CreationParameters.Accepted (params : CreationParameters)
    (circumstances : Circumstances) (server : Server) : Prop where
  content : params.streamIDs ≠ []
  streams : ∀ id ∈ params.streamIDs, (server.streams.find id).isSome = true
  parent : ∀ id ∈ params.parentID, (server.surfaces.find id).isSome = true
  built : circumstances.throws .createSurface = none

/-- The server after an id was given away and a surface was built. -/
def Server.afterPreparing (server : Server) : Server :=
  { server with
    nextSurfaceID := (server.nextSurfaceID + 1).bmod (2 ^ 32)
    made := server.made + 1
    attributes := Function.update server.attributes server.made initialAttributes }

theorem prepareSurface_gives :
    GivesIff (prepareSurface circumstances params) server (params.Accepted circumstances server)
      ⟨server.nextSurfaceID, params.streamIDs.headD 0, server.made⟩ server.afterPreparing := by
  refine (nextID_gives.always_bind (findContent_gives.bind fun _ => findParent_gives.bind fun _ =>
    (findStreams_gives _).bind fun _ => (call_gives .createSurface).bind fun _ =>
      newSurface_gives.map _)).congr ?_
  constructor
  · rintro ⟨⟨first, isFirst, -⟩, parent, streams, built, -⟩
    exact ⟨List.ne_nil_of_mem (List.mem_of_head? isFirst), streams, parent, built⟩
  · rintro ⟨content, streams, parent, built⟩
    obtain ⟨first, rest, ids⟩ := List.exists_cons_of_ne_nil content
    refine ⟨⟨first, by rw [ids]; rfl, ?_⟩, parent, streams, built, trivial⟩
    exact streams first (ids ▸ List.mem_cons_self)

/-- A surface that is built can be entered with these parameters. -/
structure CreationParameters.Enters (params : CreationParameters)
    (circumstances : Circumstances) : Prop where
  added : circumstances.throws .surfaceAdded = none
  state : circumstances.Allows .state params.state
  type : circumstances.Allows .type params.type
  orientation : circumstances.Allows .preferredOrientation params.preferredOrientation
  moved : circumstances.throws .movedTo = none
  told : circumstances.throws .surfaceCreated = none

theorem enterSurface_gives {prepared : Prepared}
    (isNew : server.attributes prepared.surface = initialAttributes) :
    ∃ attributes, GivesIff (enterSurface circumstances params prepared) server
      (params.Enters circumstances) prepared.id
      { server with
        stack := server.stack ++ [prepared.surface]
        attributes := attributes
        surfaces := server.surfaces.set prepared.id prepared.surface
        defaultContentMap := server.defaultContentMap.set prepared.id prepared.content } := by
  let entered : Server := { server with stack := server.stack ++ [prepared.surface] }
  have added : GivesIff (SurfaceStack.addSurface circumstances prepared.surface) server
      (circumstances.throws .surfaceAdded = none) () entered :=
    (givesIff_change _ server).always_bind (call_gives _)
  obtain ⟨first, state, sameFirst⟩ :=
    @configureIfSet_gives circumstances entered prepared.surface .state
      (congrFun isNew .state) params.state
  obtain ⟨second, type, sameSecond⟩ :=
    @configureIfSet_gives circumstances { entered with attributes := first } prepared.surface .type
      ((sameFirst .type nofun).trans (congrFun isNew .type)) params.type
  obtain ⟨third, orientation, -⟩ :=
    @configureIfSet_gives circumstances { entered with attributes := second } prepared.surface
      .preferredOrientation
      ((sameSecond .preferredOrientation nofun).trans
        ((sameFirst .preferredOrientation nofun).trans (congrFun isNew .preferredOrientation)))
      params.preferredOrientation
  refine ⟨third, (added.bind fun _ => state.bind fun _ => type.bind fun _ => orientation.bind
    fun _ => (givesIff_change _ _).always_bind ((call_gives .movedTo).bind fun _ =>
      (call_gives .surfaceCreated).map _)).congr ?_⟩
  exact ⟨fun ⟨added, state, type, orientation, moved, told⟩ =>
    ⟨added, state, type, orientation, moved, told⟩,
    fun ⟨added, state, type, orientation, moved, told⟩ =>
    ⟨added, state, type, orientation, moved, told⟩⟩

/-! ### What the steps of a session leave behind -/

/-- What no step takes back: the stack and the streams. -/
def Server.listed (server : Server) : List SurfaceHandle × OrderedMap Int StreamHandle :=
  (server.stack, server.streams)

theorem keeps_call {View : Type} (view : Server → View) (step : Outside) :
    Keeps view (call circumstances step) := by
  unfold call
  cases circumstances.throws step with
  | none => exact keeps_pure view ()
  | some what => exact keeps_throwing view _

theorem keeps_checkedFind {View Value : Type} (view : Server → View)
    (find : Server → Option Value) (what : String) : Keeps view (checkedFind find what) := by
  refine (keeps_readState view).bind fun server => ?_
  cases find server with
  | none => exact keeps_throwing view _
  | some value => exact keeps_pure view value

theorem keeps_nextID : Keeps Server.trace nextID :=
  (keeps_readState _).bind fun _ =>
    Keeps.bind (keeps_change fun _ => rfl) fun _ => keeps_pure _ _

theorem keeps_newSurface : Keeps Server.trace newSurface :=
  (keeps_readState _).bind fun _ =>
    Keeps.bind (keeps_change fun _ => rfl) fun _ => keeps_pure _ _

theorem keeps_findContent : Keeps Server.trace (findContent params) := by
  have found (id : Int) : Keeps Server.trace (do let _ ← checkedFindStream id; pure id) :=
    (keeps_checkedFind _ _ _).bind fun _ => keeps_pure _ _
  unfold findContent
  rcases params.contentID with - | content
  · rcases params.streams with - | - | ⟨first, rest⟩
    · exact keeps_throwing _ _
    · exact keeps_throwing _ _
    · exact found first
  · exact found content

theorem keeps_findParent : Keeps Server.trace (findParent params) := by
  unfold findParent
  cases params.parentID with
  | none => exact keeps_pure _ _
  | some id => exact (keeps_checkedFind _ _ _).bind fun _ => keeps_pure _ _

theorem keeps_findStreams (ids : List Int) : Keeps Server.trace (findStreams ids) := by
  induction ids with
  | nil => exact keeps_pure _ _
  | cons id rest inductionHypothesis =>
    exact (keeps_checkedFind _ _ _).bind fun _ =>
      inductionHypothesis.bind fun _ => keeps_pure _ _

/-- Nothing is left behind by the steps up to the factory. -/
theorem keeps_prepareSurface : Keeps Server.trace (prepareSurface circumstances params) :=
  keeps_nextID.bind fun _ => keeps_findContent.bind fun _ => keeps_findParent.bind fun _ =>
    (keeps_findStreams _).bind fun _ => (keeps_call _ _).bind fun _ =>
      keeps_newSurface.bind fun _ => keeps_pure _ _

theorem keeps_configureIfSet (surface : SurfaceHandle) (attrib : WindowAttribute)
    (value : Option (BitVec 32)) :
    Keeps Server.listed (configureIfSet circumstances surface attrib value) := by
  have general (attrib : WindowAttribute) (invalid : BitVec 32 → Bool) (what : String)
      (told : BitVec 32) : Keeps Server.listed
        (setAttribute circumstances attrib invalid what surface told) := by
    unfold setAttribute
    split
    · exact keeps_throwing _ _
    · refine (keeps_readState _).bind fun server => ?_
      split
      · exact keeps_pure _ _
      · exact Keeps.bind (keeps_change fun _ => rfl) fun _ => keeps_call _ _
  cases value with
  | none => exact keeps_pure _ _
  | some told =>
    cases attrib with
    | type => exact general .type invalidType _ told
    | state => exact general .state invalidState _ told
    | preferredOrientation => exact general .preferredOrientation invalidOrientation _ told

/-- The surface is on the stack from the first step of its entry on, also if a later one throws,
and the streams are as they were. -/
theorem enterSurface_listed (prepared : Prepared) (server : Server) :
    ((enterSurface circumstances params prepared).run server).2.listed =
      (server.stack ++ [prepared.surface], server.streams) := by
  have rest : Keeps Server.listed (do
      call circumstances .surfaceAdded
      configureIfSet circumstances prepared.surface .state params.state
      configureIfSet circumstances prepared.surface .type params.type
      configureIfSet circumstances prepared.surface .preferredOrientation
        params.preferredOrientation
      insertSurface prepared
      call circumstances .movedTo
      call circumstances .surfaceCreated
      return prepared.id) :=
    (keeps_call _ _).bind fun _ => (keeps_configureIfSet _ _ _).bind fun _ =>
      (keeps_configureIfSet _ _ _).bind fun _ => (keeps_configureIfSet _ _ _).bind fun _ =>
        Keeps.bind (keeps_change fun _ => rfl) fun _ => (keeps_call _ _).bind fun _ =>
          (keeps_call _ _).bind fun _ => keeps_pure _ _
  exact rest { server with stack := server.stack ++ [prepared.surface] }

theorem listed_ne_of_stack {server after : Server} (surface : SurfaceHandle)
    (stack : after.stack = server.stack ++ [surface]) : after.trace ≠ server.trace := by
  intro same
  have shorter : after.stack = server.stack := congrArg Trace.stack same
  rw [stack] at shorter
  exact absurd (congrArg List.length shorter) (by simp)

/-- If a session throws while it creates a surface, nothing of it is left exactly if it threw
before the surface was on the stack. -/
theorem createSurface_restores_iff :
    RestoresOnError Server.trace (ApplicationSession.createSurface circumstances params) server ↔
      (params.Accepted circumstances server → params.Enters circumstances) := by
  obtain ⟨attributes, enters⟩ := @enterSurface_gives circumstances server.afterPreparing params
    ⟨server.nextSurfaceID, params.streamIDs.headD 0, server.made⟩ (Function.update_self ..)
  refine restoresOnError_iff keeps_prepareSurface prepareSurface_gives enters ?_
  exact listed_ne_of_stack _ (congrArg Prod.fst (enterSurface_listed _ _))

end Mir.Scene.SurfaceCreation

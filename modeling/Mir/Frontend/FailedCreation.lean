/-
This file proves when a request for a surface that fails leaves nothing behind.

Nothing takes back what was added before a step throws. A request without streams has a stream
made for it first, which stays if anything throws later; and the surface stays on the stack if a
value of an attribute is refused, if its parent or its session is not registered, or if any call
after that throws. What is checked before, by the shell, the policy and the session's lookups,
leaves nothing behind.
-/

import Mathlib.Algebra.Order.BigOperators.Group.List
import Mathlib.Algebra.Order.Group.Nat
import Mir.Frontend.CreateSurface

namespace Mir.Frontend.SurfaceCreation

open Scene.SurfaceCreation Throwing

variable {circumstances : Circumstances} {server : Server} {params : CreationParameters}

/-! ### What is checked before a surface is built -/

/-- A surface of this type may have this parent, or none. -/
def SuitsParent (type : BitVec 32) (parent : Option SurfaceHandle) : Prop :=
  ¬ (mustNotHaveParent type = true ∧ parent.isSome = true) ∧
    ¬ (mustHaveParent type = true ∧ parent.isNone = true)

/-- The parameters with the state that the policy decides on. -/
def placedParams (params : CreationParameters) : CreationParameters :=
  { params with
    state := some (if params.outputID ≠ 0#32 then mirWindowStateFullscreen
      else params.state.getD mirWindowStateRestored) }

theorem placeNewSurface_gives :
    GivesIff (CanonicalPolicy.placeNewSurface circumstances params) server
      ((∃ type ∈ params.type, SuitsParent type (params.parent.bind server.lock)) ∧
        (params.outputID ≠ 0#32 → circumstances.throws .placeInOutput = none))
      (placedParams params) server := by
  unfold CanonicalPolicy.placeNewSurface placedParams
  refine (givesIff_readState server).always_bind ?_
  cases params.type with
  | none =>
    exact (givesIff_throwing _ server _ server).congr
      (iff_of_false id fun ⟨⟨_, absent, _⟩, _⟩ => nomatch absent)
  | some type =>
    have decides : GivesIff
        (if params.outputID ≠ 0#32 then do
          call circumstances .placeInOutput
          return { params with type := some type, state := some mirWindowStateFullscreen }
        else
          return { params with
            type := some type
            state := some (params.state.getD mirWindowStateRestored) })
        server (params.outputID ≠ 0#32 → circumstances.throws .placeInOutput = none)
        { params with
          type := some type
          state := some (if params.outputID ≠ 0#32 then mirWindowStateFullscreen
            else params.state.getD mirWindowStateRestored) } server := by
      by_cases output : params.outputID ≠ 0#32
      · rw [if_pos output, if_pos output]
        refine ((call_gives .placeInOutput).map _).congr ?_
        exact ⟨fun quiet _ => quiet, fun quiet => quiet output⟩
      · rw [if_neg output, if_neg output]
        exact (givesIff_pure _ server).congr (iff_of_true trivial fun also => absurd also output)
    refine ((decides.refusing _).refusing _).congr ?_
    constructor
    · rintro ⟨allowed, needed, quiet⟩
      exact ⟨⟨type, rfl, allowed, needed⟩, quiet⟩
    · rintro ⟨⟨_, same, suits⟩, quiet⟩
      cases same
      exact ⟨suits.1, suits.2, quiet⟩

theorem checkForeignParent_gives :
    GivesIff (checkForeignParent params) server
      ((params.parent.bind server.lock).isSome = true →
        params.type = some mirWindowTypeInputMethod) () server := by
  unfold checkForeignParent
  refine (givesIff_readState server).always_bind ?_
  by_cases foreign : (params.parent.bind server.lock).isSome = true
  · rw [if_pos foreign]
    cases params.type with
    | none =>
      refine (givesIff_throwing _ server () server).congr (iff_of_false id fun holds => ?_)
      exact nomatch holds foreign
    | some type =>
      refine ((givesIff_pure () server).refusing _).congr ?_
      constructor
      · rintro ⟨inputMethod, -⟩ -
        rw [not_not.mp inputMethod]
      · exact fun holds => ⟨not_not.mpr (Option.some.inj (holds foreign)), trivial⟩
  · rw [if_neg foreign]
    exact (givesIff_pure () server).congr (iff_of_true trivial fun also => absurd also foreign)

/-- The shell and the policy take these parameters. -/
structure Placeable (circumstances : Circumstances) (server : Server)
    (params : CreationParameters) : Prop where
  foreign : (params.parent.bind server.lock).isSome = true →
    params.type = some mirWindowTypeInputMethod
  parent : ∀ id ∈ params.parentID, (server.surfaces.find id).isSome = true
  type : ∃ type ∈ params.type,
    SuitsParent type ((params.requestedParent server).bind server.lock)
  output : params.outputID ≠ 0#32 → circumstances.throws .placeInOutput = none

/-- The steps of the shells up to the factory. -/
def prepareRequest (circumstances : Circumstances) (params : CreationParameters) :
    Creation (CreationParameters × Prepared) := do
  checkForeignParent params
  let parent ← findParent params
  let placed ← CanonicalPolicy.placeNewSurface circumstances { params with parent := parent }
  let prepared ← prepareSurface circumstances placed
  return (placed, prepared)

/-- The parameters that the session is given. -/
def givenParams (server : Server) (params : CreationParameters) : CreationParameters :=
  placedParams { params with parent := params.requestedParent server }

theorem prepareRequest_gives :
    GivesIff (prepareRequest circumstances params) server
      (Placeable circumstances server params ∧ params.Accepted circumstances server)
      (givenParams server params,
        ⟨server.nextSurfaceID, params.streamIDs.headD 0, server.made⟩) server.afterPreparing := by
  refine (checkForeignParent_gives.bind fun _ => findParent_gives.bind fun _ =>
    placeNewSurface_gives.bind fun _ => prepareSurface_gives.map _).congr ?_
  constructor
  · rintro ⟨foreign, parent, ⟨type, output⟩, content, streams, found, built⟩
    exact ⟨⟨foreign, parent, type, output⟩, content, streams, found, built⟩
  · rintro ⟨⟨foreign, parent, type, output⟩, content, streams, found, built⟩
    exact ⟨foreign, parent, ⟨type, output⟩, content, streams, found, built⟩

/-! ### What happens once a surface is built -/

theorem infoFor_gives (surface : SurfaceHandle) (absent : SurfaceInfo) :
    GivesIff (infoFor surface) server ((server.surfaceInfo surface).isSome = true)
      ((server.surfaceInfo surface).getD absent) server := by
  refine (givesIff_readState server).always_bind ?_
  cases server.surfaceInfo surface with
  | none => exact (givesIff_throwing _ server _ server).congr (iff_of_false id nofun)
  | some info => exact (givesIff_pure info server).congr (iff_of_true trivial rfl)

/-- The parent, if it can be locked, has to be noted. -/
theorem tellParent_gives {surface : SurfaceHandle} {info : SurfaceInfo}
    (known : server.surfaceInfo surface = some info) :
    ∃ surfaceInfo, GivesIff (tellParent surface) server
      (∀ parent ∈ info.parent.bind server.lock, (server.surfaceInfo parent).isSome = true) ()
      { server with surfaceInfo := surfaceInfo } := by
  have first : GivesIff (infoFor surface) server True info server := by
    have found := @infoFor_gives server surface info
    rw [known] at found
    exact found.congr (iff_of_true rfl trivial)
  cases locked : info.parent.bind server.lock with
  | none =>
    refine ⟨server.surfaceInfo, first.always_bind ((givesIff_readState server).always_bind ?_)⟩
    rw [locked]
    exact (givesIff_pure () server).congr (iff_of_true trivial fun _ absent => nomatch absent)
  | some parent =>
    let parentInfo := (server.surfaceInfo parent).getD info
    refine ⟨Function.update server.surfaceInfo parent
        (some { parentInfo with children := parentInfo.children ++ [surface] }),
      first.always_bind ((givesIff_readState server).always_bind ?_)⟩
    rw [locked]
    refine ((infoFor_gives parent info).bind fun _ => givesIff_change _ server).congr ?_
    constructor
    · rintro ⟨noted, -⟩ _ same
      cases same
      exact noted
    · exact fun all => ⟨all parent rfl, trivial⟩

theorem tellSession_gives (surface : SurfaceHandle) :
    GivesIff (tellSession surface) server (server.sessionInfo.isSome = true) ()
      { server with
        sessionInfo := server.sessionInfo.map fun surfaces => surfaces ++ [surface] } := by
  refine (givesIff_readState server).always_bind ?_
  cases server.sessionInfo with
  | none => exact (givesIff_throwing _ server () _).congr (iff_of_false id nofun)
  | some surfaces => exact (givesIff_change _ server).congr (iff_of_true trivial rfl)

theorem respond_gives (stream : Option Int) (id : Int) :
    ∃ legacyDefaultStreamMap, GivesIff (respond circumstances stream id) server
      ((server.surfaces.find id).isSome = true ∧ circumstances.throws .respond = none ∧
        circumstances.throws .run = none ∧ circumstances.throws .uncork = none) ()
      { server with legacyDefaultStreamMap := legacyDefaultStreamMap } := by
  cases stream with
  | none =>
    exact ⟨_, (checkedFindSurface_gives id).bind fun _ => (call_gives .respond).bind fun _ =>
      (givesIff_change _ server).always_bind ((call_gives .run).bind fun _ => call_gives .uncork)⟩
  | some stream =>
    exact ⟨_, (checkedFindSurface_gives id).bind fun _ => (call_gives .respond).bind fun _ =>
      (givesIff_change _ server).always_bind ((call_gives .run).bind fun _ => call_gives .uncork)⟩

/-- The steps from the stack on, up to the response. -/
def finishRequest (circumstances : Circumstances) (stream : Option Int)
    (request : CreationParameters × Prepared) : Creation Unit := do
  let id ← enterSurface circumstances request.1 request.2
  let surface ← checkedFindSurface id
  emplaceInfo surface request.1
  CanonicalPolicy.handleNewSurface surface
  call circumstances .createdSurface
  respond circumstances stream id

/-- A surface that was built can be entered, noted and told of. -/
structure Finishable (circumstances : Circumstances) (server : Server)
    (params : CreationParameters) : Prop where
  enters : params.Enters circumstances
  parent : ∀ parent ∈ params.parent.bind server.lock, (server.surfaceInfo parent).isSome = true
  session : server.sessionInfo.isSome = true
  created : circumstances.throws .createdSurface = none
  responded : circumstances.throws .respond = none
  ran : circumstances.throws .run = none
  uncorked : circumstances.throws .uncork = none

theorem lock_eq_some {surface locked : SurfaceHandle} (isLocked : locked ∈ server.lock surface) :
    surface = locked := by
  unfold Server.lock at isLocked
  split at isLocked
  · exact Option.some.inj isLocked
  · exact nomatch isLocked

/-- A surface is noted by the time its parent is looked up, in case it is its own. -/
theorem noted_iff (parent : Option SurfaceHandle) (info : SurfaceInfo) :
    (∀ known ∈ parent.bind server.afterPreparing.lock,
        (Function.update server.surfaceInfo server.made (some info) known).isSome = true) ↔
      ∀ known ∈ parent.bind server.lock, (server.surfaceInfo known).isSome = true := by
  cases parent with
  | none => exact iff_of_true (fun _ absent => nomatch absent) fun _ absent => nomatch absent
  | some parent =>
    show (∀ known ∈ server.afterPreparing.lock parent, _) ↔ ∀ known ∈ server.lock parent, _
    by_cases itself : parent = server.made
    · refine iff_of_true (fun known locked => ?_) fun known locked => ?_
      · rw [← lock_eq_some locked, itself, Function.update_self]
        rfl
      · rw [itself, Server.lock, if_neg fun both => lt_irrefl _ both.1] at locked
        exact nomatch locked
    · have same : server.afterPreparing.lock parent = server.lock parent := by
        have before : parent < server.made + 1 ↔ parent < server.made :=
          ⟨fun most => lt_of_le_of_ne (Nat.lt_succ_iff.mp most) itself, Nat.lt_succ_of_lt⟩
        unfold Server.lock Server.afterPreparing
        simp only [before]
      rw [same]
      refine forall₂_congr fun known locked => ?_
      rw [← lock_eq_some locked, Function.update_of_ne itself]

theorem finishRequest_gives (stream : Option Int) (id content : Int) :
    ∃ last, GivesIff
      (finishRequest circumstances stream (params, ⟨id, content, server.made⟩))
      server.afterPreparing (Finishable circumstances server params) () last := by
  obtain ⟨attributes, enters⟩ := @enterSurface_gives circumstances server.afterPreparing params
    ⟨id, content, server.made⟩ (Function.update_self ..)
  let entered : Server :=
    { server.afterPreparing with
      stack := server.stack ++ [server.made]
      attributes := attributes
      surfaces := server.surfaces.set id server.made
      defaultContentMap := server.defaultContentMap.set id content }
  have isFound : entered.surfaces.find id = some server.made := by
    rw [OrderedMap.find_set, if_pos rfl]
  have found : GivesIff (checkedFindSurface id) entered True server.made entered := by
    have found := @checkedFindSurface_gives entered id
    rw [isFound] at found
    exact found.congr (iff_of_true rfl trivial)
  let info : SurfaceInfo :=
    ⟨attributes server.made .type, attributes server.made .state, params.parent, []⟩
  let noted : Server :=
    { entered with surfaceInfo := Function.update server.surfaceInfo server.made (some info) }
  have emplaced : GivesIff (emplaceInfo server.made params) entered True () noted :=
    (givesIff_readState entered).always_bind (givesIff_change _ entered)
  obtain ⟨surfaceInfo, told⟩ := @tellParent_gives noted server.made info (Function.update_self ..)
  let last : Server :=
    { noted with
      surfaceInfo := surfaceInfo
      sessionInfo := server.sessionInfo.map fun surfaces => surfaces ++ [server.made] }
  have handled : GivesIff (CanonicalPolicy.handleNewSurface server.made) noted
      ((∀ parent ∈ params.parent.bind noted.lock, (noted.surfaceInfo parent).isSome = true) ∧
        server.sessionInfo.isSome = true) () last :=
    told.bind fun _ => tellSession_gives server.made
  obtain ⟨map, responds⟩ := @respond_gives circumstances last stream id
  refine ⟨_, (enters.bind fun _ => found.always_bind (emplaced.always_bind
    (handled.bind fun _ => (call_gives .createdSurface).bind fun _ => responds))).congr ?_⟩
  constructor
  · rintro ⟨enters, ⟨parent, session⟩, created, -, responded, ran, uncorked⟩
    exact ⟨enters, (noted_iff _ info).mp parent, session, created, responded, ran, uncorked⟩
  · rintro ⟨enters, parent, session, created, responded, ran, uncorked⟩
    have isSome : (last.surfaces.find id).isSome = true := congrArg Option.isSome isFound
    exact ⟨enters, ⟨(noted_iff _ info).mpr parent, session⟩, created, isSome, responded, ran,
      uncorked⟩

/-! ### What the steps leave behind -/

theorem keeps_checkForeignParent : Keeps Server.trace (checkForeignParent params) := by
  refine (keeps_readState _).bind fun server => ?_
  by_cases foreign : (params.parent.bind server.lock).isSome = true
  · rw [if_pos foreign]
    cases params.type with
    | none => exact keeps_throwing _ _
    | some type => exact (keeps_pure _ ()).refusing _
  · rw [if_neg foreign]
    exact keeps_pure _ ()

theorem keeps_placeNewSurface :
    Keeps Server.trace (CanonicalPolicy.placeNewSurface circumstances params) := by
  refine (keeps_readState _).bind fun server => ?_
  cases params.type with
  | none => exact keeps_throwing _ _
  | some type =>
    refine Keeps.refusing _ (Keeps.refusing _ ?_)
    by_cases output : params.outputID ≠ 0#32
    · rw [if_pos output]
      exact (keeps_call _ _).bind fun _ => keeps_pure _ _
    · rw [if_neg output]
      exact keeps_pure _ _

/-- Nothing is left behind by the shells up to the factory. -/
theorem keeps_prepareRequest : Keeps Server.trace (prepareRequest circumstances params) :=
  keeps_checkForeignParent.bind fun _ => keeps_findParent.bind fun _ =>
    keeps_placeNewSurface.bind fun _ => keeps_prepareSurface.bind fun _ => keeps_pure _ _

theorem keeps_infoFor (surface : SurfaceHandle) : Keeps Server.listed (infoFor surface) := by
  refine (keeps_readState _).bind fun server => ?_
  cases server.surfaceInfo surface with
  | none => exact keeps_throwing _ _
  | some info => exact keeps_pure _ info

theorem keeps_setInfo (surface : SurfaceHandle) (info : SurfaceInfo) :
    Keeps Server.listed (setInfo surface info) :=
  keeps_change fun _ => rfl

theorem keeps_handleNewSurface (surface : SurfaceHandle) :
    Keeps Server.listed (CanonicalPolicy.handleNewSurface surface) := by
  have parents : Keeps Server.listed (tellParent surface) := by
    refine (keeps_infoFor surface).bind fun info => (keeps_readState _).bind fun server => ?_
    cases info.parent.bind server.lock with
    | none => exact keeps_pure _ ()
    | some parent => exact (keeps_infoFor parent).bind fun _ => keeps_setInfo _ _
  have sessions : Keeps Server.listed (tellSession surface) := by
    refine (keeps_readState _).bind fun server => ?_
    cases server.sessionInfo with
    | none => exact keeps_throwing _ _
    | some surfaces => exact keeps_change fun _ => rfl
  exact parents.bind fun _ => sessions

theorem keeps_respond (stream : Option Int) (id : Int) :
    Keeps Server.listed (respond circumstances stream id) := by
  refine (keeps_checkedFind _ _ _).bind fun _ => (keeps_call _ _).bind fun _ =>
    Keeps.bind (keeps_change fun _ => ?_) fun _ => (keeps_call _ _).bind fun _ => keeps_call _ _
  cases stream with
  | none => rfl
  | some stream => rfl

/-- A surface that was built is on the stack after these steps, whether they throw or not. -/
theorem finishRequest_listed (stream : Option Int) (request : CreationParameters × Prepared)
    (server : Server) :
    ((finishRequest circumstances stream request).run server).2.listed =
      (server.stack ++ [request.2.surface], server.streams) := by
  refine (view_run_bind (fun id => ?_) server).trans (enterSurface_listed request.2 server)
  exact (keeps_checkedFind _ _ _).bind fun surface =>
    Keeps.bind (Keeps.bind (keeps_readState _) fun _ => keeps_setInfo _ _) fun _ =>
      (keeps_handleNewSurface surface).bind fun _ => (keeps_call _ _).bind fun _ =>
        keeps_respond stream id

/-! ### When a request that throws leaves nothing behind -/

namespace SurfaceRequest

/-- The surface that the store has for the parent, if it has one. -/
def heldParent (request : SurfaceRequest) (circumstances : Circumstances) :
    Option SurfaceHandle :=
  match request.parentPersistentID.map circumstances.surfaceForID with
  | some (.ok parent) => parent
  | _ => none

/-- What the request asks for, but for the stream that is made for it. -/
def asked (request : SurfaceRequest) (circumstances : Circumstances) : CreationParameters :=
  request.params (request.heldParent circumstances) none

/-- The mediator takes the request, and makes a stream if it names none. -/
structure Begins (request : SurfaceRequest) (circumstances : Circumstances)
    (server : Server) : Prop where
  session : server.connected = true
  called : circumstances.throws .sessionCreateSurfaceCalled = none
  held : ∀ id ∈ request.parentPersistentID, ∃ parent, circumstances.surfaceForID id = .ok parent
  stream : request.stream = [] → circumstances.throws .createBufferStream = none

/-- The surface is built. -/
structure Prepares (request : SurfaceRequest) (circumstances : Circumstances)
    (server : Server) : Prop where
  sink : circumstances.throws .createSink = none
  placeable : Placeable circumstances server (request.asked circumstances)
  streams : ∀ id ∈ request.stream, (server.streams.find id).isSome = true
  built : circumstances.throws .createSurface = none

/-- The surface is entered, noted and told of. -/
def Finishes (request : SurfaceRequest) (circumstances : Circumstances) (server : Server) : Prop :=
  Finishable circumstances server (givenParams server (request.asked circumstances))

end SurfaceRequest

variable {request : SurfaceRequest}

/-- The steps of the mediator up to the stream. -/
def beginRequest (circumstances : Circumstances) (request : SurfaceRequest) :
    Creation (Option SurfaceHandle) := do
  checkSession
  call circumstances .sessionCreateSurfaceCalled
  foreignParent circumstances request

theorem foreignParent_gives :
    GivesIff (foreignParent circumstances request) server
      (∀ id ∈ request.parentPersistentID, ∃ parent, circumstances.surfaceForID id = .ok parent)
      (request.heldParent circumstances) server := by
  unfold foreignParent SurfaceRequest.heldParent
  cases request.parentPersistentID with
  | none =>
    exact (givesIff_pure _ server).congr (iff_of_true trivial fun _ absent => nomatch absent)
  | some id =>
    show GivesIff (ofExcept (circumstances.surfaceForID id)) server _
      (match some (circumstances.surfaceForID id) with
        | some (.ok parent) => parent
        | _ => none) server
    cases held : circumstances.surfaceForID id with
    | error error =>
      refine (givesIff_throwing error server none server).congr (iff_of_false nofun fun all => ?_)
      obtain ⟨parent, isHeld⟩ := all id rfl
      exact nomatch held ▸ isHeld
    | ok parent =>
      refine (givesIff_pure parent server).congr (iff_of_true trivial fun _ same => ?_)
      exact ⟨parent, Option.mem_some_iff.mp same ▸ held⟩

theorem beginRequest_gives :
    GivesIff (beginRequest circumstances request) server
      (server.connected = true ∧ circumstances.throws .sessionCreateSurfaceCalled = none ∧
        ∀ id ∈ request.parentPersistentID, ∃ parent, circumstances.surfaceForID id = .ok parent)
      (request.heldParent circumstances) server := by
  have connected : GivesIff checkSession server (server.connected = true) () server := by
    refine (givesIff_readState server).always_bind ?_
    cases server.connected with
    | false => exact (givesIff_throwing _ server () server).congr (iff_of_false id nofun)
    | true => exact (givesIff_pure () server).congr (iff_of_true trivial rfl)
  exact connected.bind fun _ => (call_gives _).bind fun _ => foreignParent_gives

theorem keeps_beginRequest : Keeps Server.trace (beginRequest circumstances request) := by
  have connected : Keeps Server.trace checkSession := by
    refine (keeps_readState _).bind fun server => ?_
    cases server.connected with
    | false => exact keeps_throwing _ _
    | true => exact keeps_pure _ ()
  have parents : Keeps Server.trace (foreignParent circumstances request) := by
    unfold foreignParent
    cases request.parentPersistentID with
    | none => exact keeps_pure _ _
    | some id => exact fun _ => rfl
  exact connected.bind fun _ => (keeps_call _ _).bind fun _ => parents

/-- A request that names streams leaves nothing until the surface is on the stack. -/
theorem restores_with_streams (streams : request.stream ≠ []) :
    RestoresOnError Server.trace (SessionMediator.createSurface circumstances request) server ↔
      (request.Begins circumstances server ∧ request.Prepares circumstances server →
        request.Finishes circumstances server) := by
  have parts : SessionMediator.createSurface circumstances request =
      (do
        let parent ← beginRequest circumstances request
        call circumstances .createSink
        prepareRequest circumstances (request.params parent none)) >>=
      finishRequest circumstances none := by
    unfold SessionMediator.createSurface legacyStream FrontendShell.createSurface
      AbstractShell.createSurface WindowManager.addSurface ApplicationSession.createSurface
      beginRequest prepareRequest finishRequest
    simp only [if_neg streams, bind_assoc, pure_bind]
  let asked := request.asked circumstances
  have early : GivesIff (do
      let parent ← beginRequest circumstances request
      call circumstances .createSink
      prepareRequest circumstances (request.params parent none)) server
      (request.Begins circumstances server ∧ request.Prepares circumstances server)
      (givenParams server asked,
        ⟨server.nextSurfaceID, asked.streamIDs.headD 0, server.made⟩) server.afterPreparing := by
    have named : asked.streamIDs = request.stream := by
      show (if request.stream = [] then none else some request.stream).getD [] = request.stream
      rw [if_neg streams]
      rfl
    refine (beginRequest_gives.bind fun _ => (call_gives .createSink).bind fun _ =>
      prepareRequest_gives).congr ?_
    constructor
    · rintro ⟨⟨session, called, held⟩, sink, placeable, -, found, -, built⟩
      exact ⟨⟨session, called, held, fun none => absurd none streams⟩,
        ⟨sink, placeable, named ▸ found, built⟩⟩
    · rintro ⟨⟨session, called, held, -⟩, sink, placeable, found, built⟩
      exact ⟨⟨session, called, held⟩, sink, placeable, named ▸ streams, named ▸ found,
        placeable.parent, built⟩
  have keeps : Keeps Server.trace (do
      let parent ← beginRequest circumstances request
      call circumstances .createSink
      prepareRequest circumstances (request.params parent none)) :=
    keeps_beginRequest.bind fun _ => (keeps_call _ _).bind fun _ => keeps_prepareRequest
  obtain ⟨last, finishes⟩ := @finishRequest_gives circumstances server (givenParams server asked)
    none server.nextSurfaceID (asked.streamIDs.headD 0)
  rw [parts]
  refine restoresOnError_iff keeps early finishes ?_
  exact listed_ne_of_stack server.made (congrArg Prod.fst (finishRequest_listed _ _ _))

/-- The server with the stream that is made for a request. -/
def afterStream (server : Server) : Server :=
  { server with
    nextSurfaceID := (server.nextSurfaceID + 1).bmod (2 ^ 32)
    streams := server.streams.set server.nextSurfaceID server.newStream }

theorem newStream_ne {id : Int} : server.streams.find id ≠ some server.newStream := by
  intro known
  have member : (id, server.newStream) ∈ server.streams.entries :=
    (OrderedMap.find_eq_some_iff _ _ _).mp known
  have below : server.newStream + 1 ≤ server.newStream :=
    List.single_le_sum (fun _ _ => Nat.zero_le _) _
      (@List.mem_map_of_mem _ _ _ _ (fun entry => entry.2 + 1) member)
  exact absurd below (Nat.not_succ_le_self _)

/-- The steps of a request without streams once an id was given to the stream. -/
def continueRequest (circumstances : Circumstances) (request : SurfaceRequest)
    (begun : Option SurfaceHandle × Int) : Creation Unit := do
  let id ← insertStream begun.2
  let _ ← checkedFindStream id
  call circumstances .createSink
  let prepared ← prepareRequest circumstances (request.params begun.1 (some id))
  finishRequest circumstances (some id) prepared

theorem continueRequest_gives (noStreams : request.stream = []) :
    ∃ last, GivesIff
      (continueRequest circumstances request
        (request.heldParent circumstances, server.nextSurfaceID))
      { server with nextSurfaceID := (server.nextSurfaceID + 1).bmod (2 ^ 32) }
      (request.Prepares circumstances server ∧ request.Finishes circumstances server) () last := by
  let id := server.nextSurfaceID
  let asked := request.params (request.heldParent circumstances) (some id)
  obtain ⟨last, finishes⟩ := @finishRequest_gives circumstances (afterStream server)
    (givenParams (afterStream server) asked) (some id) (afterStream server).nextSurfaceID id
  have prepares := @prepareRequest_gives circumstances (afterStream server) asked
  have inserts : GivesIff (insertStream id)
      { server with nextSurfaceID := (server.nextSurfaceID + 1).bmod (2 ^ 32) } True id
      (afterStream server) :=
    (givesIff_change _ _).map fun _ => id
  have isFound : (afterStream server).streams.find id = some server.newStream := by
    show (server.streams.set id server.newStream).find id = some server.newStream
    rw [OrderedMap.find_set, if_pos rfl]
  have isSome : ((afterStream server).streams.find id).isSome = true :=
    congrArg Option.isSome isFound
  refine ⟨last, (inserts.always_bind ((checkedFindStream_gives id).bind fun _ =>
    (call_gives .createSink).bind fun _ => prepares.bind fun _ => finishes)).congr ?_⟩
  -- The session is given the same parameters but for the content, which decides nothing later.
  have enters : (givenParams (afterStream server) asked).Enters circumstances ↔
      (givenParams server (request.asked circumstances)).Enters circumstances :=
    ⟨fun ⟨added, state, type, orientation, moved, told⟩ =>
      ⟨added, state, type, orientation, moved, told⟩,
    fun ⟨added, state, type, orientation, moved, told⟩ =>
      ⟨added, state, type, orientation, moved, told⟩⟩
  have finishable : Finishable circumstances (afterStream server)
      (givenParams (afterStream server) asked) ↔ request.Finishes circumstances server :=
    ⟨fun holds => { holds with enters := enters.mp holds.enters },
      fun holds => { holds with enters := enters.mpr holds.enters }⟩
  rw [finishable]
  constructor
  · rintro ⟨-, sink, ⟨⟨foreign, parent, type, output⟩, -, -, -, built⟩, finishes⟩
    refine ⟨⟨sink, ⟨foreign, parent, type, output⟩, fun _ named => ?_, built⟩, finishes⟩
    rw [noStreams] at named
    exact nomatch named
  · rintro ⟨⟨sink, ⟨foreign, parent, type, output⟩, -, built⟩, finishes⟩
    refine ⟨isSome, sink, ⟨⟨foreign, parent, type, output⟩, List.cons_ne_nil id [],
      fun _ named => ?_, parent, built⟩, finishes⟩
    rw [List.mem_singleton.mp named]
    exact isSome

/-- The stream that was made is in the session's map after these steps, whether they throw or
not. -/
theorem continueRequest_streams (begun : Option SurfaceHandle × Int) (server : Server) :
    ((continueRequest circumstances request begun).run server).2.streams =
      server.streams.set begun.2 server.newStream := by
  refine view_run_bind (fun id => ?_) server
  refine (keeps_checkedFind _ _ _).bind fun _ => (keeps_call _ _).bind fun _ => ?_
  refine (keeps_prepareRequest.through Trace.streams).bind fun prepared => ?_
  exact fun after => congrArg Prod.snd (finishRequest_listed _ prepared after)

/-- A request that names no stream leaves nothing only until one is made for it. -/
theorem restores_without_streams (noStreams : request.stream = []) :
    RestoresOnError Server.trace (SessionMediator.createSurface circumstances request) server ↔
      (request.Begins circumstances server →
        request.Prepares circumstances server ∧ request.Finishes circumstances server) := by
  have parts : SessionMediator.createSurface circumstances request =
      (do
        let parent ← beginRequest circumstances request
        let id ← nextID
        call circumstances .createBufferStream
        return (parent, id)) >>=
      continueRequest circumstances request := by
    unfold SessionMediator.createSurface legacyStream createBufferStream
      FrontendShell.createSurface AbstractShell.createSurface WindowManager.addSurface
      ApplicationSession.createSurface continueRequest beginRequest prepareRequest finishRequest
    simp only [if_pos noStreams, bind_assoc, pure_bind]
  have early : GivesIff (do
      let parent ← beginRequest circumstances request
      let id ← nextID
      call circumstances .createBufferStream
      return (parent, id)) server (request.Begins circumstances server)
      (request.heldParent circumstances, server.nextSurfaceID)
      { server with nextSurfaceID := (server.nextSurfaceID + 1).bmod (2 ^ 32) } := by
    refine (beginRequest_gives.bind fun _ => nextID_gives.always_bind
      ((call_gives .createBufferStream).map _)).congr ?_
    exact ⟨fun ⟨⟨session, called, held⟩, made⟩ => ⟨session, called, held, fun _ => made⟩,
      fun ⟨session, called, held, made⟩ => ⟨⟨session, called, held⟩, made noStreams⟩⟩
  have keeps : Keeps Server.trace (do
      let parent ← beginRequest circumstances request
      let id ← nextID
      call circumstances .createBufferStream
      return (parent, id)) :=
    keeps_beginRequest.bind fun _ => keeps_nextID.bind fun _ => (keeps_call _ _).bind fun _ =>
      keeps_pure _ _
  obtain ⟨last, continues⟩ := continueRequest_gives noStreams
  rw [parts]
  refine restoresOnError_iff keeps early continues fun same => ?_
  have asBefore : server.streams.set server.nextSurfaceID server.newStream = server.streams :=
    (continueRequest_streams _ _).symm.trans (congrArg Trace.streams same)
  have new : server.streams.find server.nextSurfaceID = some server.newStream := by
    rw [← asBefore, OrderedMap.find_set, if_pos rfl]
  exact newStream_ne new

/-- Something was added for the request before its last steps: a stream, or the surface. -/
def SurfaceRequest.Adds (request : SurfaceRequest) (circumstances : Circumstances)
    (server : Server) : Prop :=
  request.Begins circumstances server ∧
    (request.stream = [] ∨ request.Prepares circumstances server)

/-- Every step once something was added gives a value. -/
def SurfaceRequest.Completes (request : SurfaceRequest) (circumstances : Circumstances)
    (server : Server) : Prop :=
  request.Prepares circumstances server ∧ request.Finishes circumstances server

theorem mediator_restores_iff :
    RestoresOnError Server.trace (SessionMediator.createSurface circumstances request) server ↔
      (request.Adds circumstances server → request.Completes circumstances server) := by
  by_cases noStreams : request.stream = []
  · rw [restores_without_streams noStreams]
    exact ⟨fun completes adds => completes adds.1, fun completes begins =>
      completes ⟨begins, .inl noStreams⟩⟩
  · rw [restores_with_streams noStreams]
    constructor
    · rintro finishes ⟨begins, none | prepares⟩
      · exact absurd none noStreams
      · exact ⟨prepares, finishes ⟨begins, prepares⟩⟩
    · exact fun completes both => (completes ⟨both.1, .inr both.2⟩).2

/-- A creation that throws leaves nothing behind exactly if nothing was added before it threw. For
a session that is the surface on the stack; for the mediator it is also a stream that the request
did not name. Nothing takes them back. -/
theorem failed_creation_restores_iff (circumstances : Circumstances) (server : Server)
    (params : CreationParameters) (request : SurfaceRequest) :
    (RestoresOnError Server.trace (ApplicationSession.createSurface circumstances params) server ↔
      (params.Accepted circumstances server → params.Enters circumstances)) ∧
    (RestoresOnError Server.trace (SessionMediator.createSurface circumstances request) server ↔
      (request.Adds circumstances server → request.Completes circumstances server)) :=
  ⟨createSurface_restores_iff, mediator_restores_iff⟩

/-- Nothing outside throws, and the store has no surface. -/
def quietCircumstances : Circumstances where
  throws _ := none
  surfaceForID _ := .ok none

/-- A session with one stream and no surface. -/
def serverWithStream : Server where
  connected := true
  nextSurfaceID := 2
  surfaces := .empty
  defaultContentMap := .empty
  streams := OrderedMap.empty.set 1 0
  legacyDefaultStreamMap := .empty
  stack := []
  attributes _ := initialAttributes
  made := 0
  expired _ := false
  surfaceInfo _ := none
  sessionInfo := some []

/-- A normal window is refused for its state, which is 9, and stays on the stack. Without a type the
request is refused by the policy, and the stream that was made for it stays. -/
theorem failed_creation_leaves_surface_and_stream :
    ¬ (∀ (circumstances : Circumstances) (server : Server) (params : CreationParameters),
      RestoresOnError Server.trace
        (ApplicationSession.createSurface circumstances params) server) ∧
    ¬ ∀ (circumstances : Circumstances) (server : Server) (request : SurfaceRequest),
      RestoresOnError Server.trace
        (SessionMediator.createSurface circumstances request) server := by
  constructor
  · intro restores
    have same := restores quietCircumstances serverWithStream
      ⟨some 0#32, some 9#32, none, 0#32, none, none, none, some [1]⟩
      (.logicError "Invalid surface state.") _ rfl
    exact absurd (congrArg Trace.stack same) (by decide)
  · intro restores
    have same := restores quietCircumstances serverWithStream
      ⟨none, none, none, none, none, none, []⟩
      (.runtimeError "Surface type must be provided") _ rfl
    exact absurd (congrArg (fun trace => trace.streams.size) same) (by decide)

end Mir.Frontend.SurfaceCreation

/-
This file proves when the window manager's set of fullscreen surfaces is in step with the states
of surfaces, and when it knows the output of each surface in it.

A surface enters the set when it is created fullscreen. When a state is set, the policy looks at
the state the surface had before: a surface that becomes fullscreen is taken out of the set and
its output is forgotten, one that ceases to be fullscreen stays in. When displays change, the
output of every surface in the set is read, and reading one that is not set is fatal.

Geometry is left out: whether the tree below a surface can be moved depends on the lists of
children only, and whether the surface can be resized is for its buffers to say.
-/

import Mir.Shell.Registered

namespace Mir.Shell

/-! ### The state -/

/-- The states a surface can be asked for; `unknown` stands for all that are none. -/
inductive WindowState
  | unknown
  | restored
  | minimized
  | maximized
  | vertmaximized
  | fullscreen
  | horizmaximized
  | hidden
  deriving DecidableEq, Repr

/-- Zero is the output that stands for none. -/
abbrev OutputID := Nat

/-- Why displays cannot be updated. -/
inductive UpdateFailure
  | outOfRange
  | unsetOptional
  deriving DecidableEq, Repr

/-- `state` and `outputID` are kept for each surface with what the manager knows about it. The
source does not note in `outputNamed` which surfaces were ever given an output. -/
structure CanonicalPolicy where
  manager : Manager
  state : SurfaceID → WindowState
  outputID : SurfaceID → Option OutputID
  outputNamed : SurfaceID → Bool
  fullscreenSurfaces : List SurfaceID
  aborted : Bool

namespace CanonicalPolicy

def initial : CanonicalPolicy where
  manager := .initial
  state := fun _ => .unknown
  outputID := fun _ => none
  outputNamed := fun _ => false
  fullscreenSurfaces := []
  aborted := false

/-! ### The operations -/

/-- The state of a surface that is placed: an output makes it fullscreen. -/
def placedState (state : Option WindowState) (outputID : OutputID) : WindowState :=
  if outputID ≠ 0 then .fullscreen else state.getD .restored

/-- A surface that is built is registered even if its parent or session turns out not to be. -/
def addSurface (policy : CanonicalPolicy) (session : SessionID) (type : Option WindowType)
    (parent : Option SurfaceID) (state : Option WindowState) (outputID : OutputID) :
    CanonicalPolicy :=
  let outcome := policy.manager.addSurface session type parent
  let surface := policy.manager.made
  if outcome.1.made = surface then policy
  else
    { policy with
      manager := outcome.1
      state := Function.update policy.state surface (placedState state outputID)
      outputID := Function.update policy.outputID surface
        (if outputID ≠ 0 then some outputID else none)
      outputNamed := Function.update policy.outputNamed surface (decide (outputID ≠ 0))
      fullscreenSurfaces :=
        match outcome.2 with
        | .ok () =>
          if placedState state outputID = .fullscreen then
            policy.fullscreenSurfaces.insert surface
          else policy.fullscreenSurfaces
        | .error _ => policy.fullscreenSurfaces }

/-- Whether the surface and all below it can be moved. -/
def moves (policy : CanonicalPolicy) (surface : SurfaceID) : Bool :=
  (policy.manager.moveTree ⟨0, 0⟩ (policy.manager.made + 1) (some surface)
    fun _ => ⟨0, 0⟩).isOk

/-- The set and the output are changed by the state there was before. -/
def noteFullscreen (policy : CanonicalPolicy) (surface : SurfaceID) : CanonicalPolicy :=
  if policy.state surface ≠ .fullscreen then
    { policy with
      outputID := Function.update policy.outputID surface none
      fullscreenSurfaces := policy.fullscreenSurfaces.filter (· ≠ surface) }
  else { policy with fullscreenSurfaces := policy.fullscreenSurfaces.insert surface }

/-- `resizes` tells whether the buffers of the surface can be had in the new size. -/
def handleSetState (policy : CanonicalPolicy) (surface : SurfaceID) (value : WindowState)
    (resizes : Bool) : CanonicalPolicy :=
  if policy.manager.surfaceInfo surface = none ∨ value = .unknown then policy
  else
    let noted := policy.noteFullscreen surface
    let changed : CanonicalPolicy :=
      { noted with state := Function.update policy.state surface value }
    if policy.state surface = value then noted
    else if value = .hidden ∨ value = .minimized then changed
    else if resizes && policy.moves surface then changed
    else noted

/-- What a modification that is accepted does before it sets the state. -/
def modified (policy : CanonicalPolicy) (surface : SurfaceID)
    (modifications : Manager.Modifications) (outputID : Option OutputID) : CanonicalPolicy :=
  { policy with
    manager := (policy.manager.modifySurface surface modifications).1
    outputID :=
      if outputID.isSome then Function.update policy.outputID surface outputID
      else policy.outputID
    outputNamed :=
      if outputID.isSome then Function.update policy.outputNamed surface true
      else policy.outputNamed }

/-- `othersApply` tells whether the changes made before that of the state go through. -/
def modifySurface (policy : CanonicalPolicy) (surface : SurfaceID)
    (modifications : Manager.Modifications) (outputID : Option OutputID)
    (state : Option WindowState) (othersApply resizes : Bool) : CanonicalPolicy :=
  match (policy.manager.modifySurface surface modifications).2 with
  | .error _ => policy
  | .ok () =>
    let modified := policy.modified surface modifications outputID
    match state with
    | none => modified
    | some value => if othersApply then modified.handleSetState surface value resizes else modified

/-- The state that a toggle asks for. -/
def toggledState (policy : CanonicalPolicy) (surface : SurfaceID) (value : WindowState) :
    WindowState :=
  if policy.state surface = value then .restored else value

def toggle (policy : CanonicalPolicy) (value : WindowState) (defaultSurface : Option SurfaceID)
    (resizes : Bool) : CanonicalPolicy :=
  match policy.manager.activeSurfaceOr defaultSurface with
  | none => policy
  | some surface => policy.handleSetState surface (policy.toggledState surface value) resizes

/-- The surface is taken out of the set before anything can be thrown. -/
def removeSurface (policy : CanonicalPolicy) (session : SessionID) (surface : SurfaceID)
    (answers : Manager.Answers) : CanonicalPolicy :=
  { policy with
    manager := (policy.manager.removeSurface session surface answers).1
    fullscreenSurfaces := policy.fullscreenSurfaces.filter (· ≠ surface) }

def selectActiveSurface (policy : CanonicalPolicy) (surface : Option SurfaceID) :
    CanonicalPolicy :=
  match policy.manager.selectActiveSurface (policy.manager.made + 1) surface with
  | .error _ => policy
  | .ok active => { policy with manager := { policy.manager with activeSurface := active } }

/-- The output of a surface in the set is read if the surface can be locked. -/
def placeInOutput (policy : CanonicalPolicy) (surface : SurfaceID) : Except UpdateFailure Unit :=
  match policy.manager.lock surface with
  | none => .ok ()
  | some surface =>
    match policy.manager.surfaceInfo surface with
    | none => .error .outOfRange
    | some _ =>
      match policy.outputID surface with
      | none => .error .unsetOptional
      | some _ => .ok ()

def placeAll (policy : CanonicalPolicy) : List SurfaceID → Except UpdateFailure Unit
  | [] => .ok ()
  | surface :: rest =>
    match policy.placeInOutput surface with
    | .error failure => .error failure
    | .ok () => policy.placeAll rest

def handleDisplaysUpdated (policy : CanonicalPolicy) : Except UpdateFailure Unit :=
  policy.placeAll policy.fullscreenSurfaces

inductive Op
  | addSession (session : SessionID)
  | removeSession (session : SessionID)
  | addSurface (session : SessionID) (type : Option WindowType) (parent : Option SurfaceID)
      (state : Option WindowState) (outputID : OutputID)
  | modifySurface (surface : SurfaceID) (modifications : Manager.Modifications)
      (outputID : Option OutputID) (state : Option WindowState) (othersApply resizes : Bool)
  | setSurfaceAttribute (surface : SurfaceID) (value : WindowState) (resizes : Bool)
  | toggle (value : WindowState) (defaultSurface : Option SurfaceID) (resizes : Bool)
  | removeSurface (session : SessionID) (surface : SurfaceID) (answers : Manager.Answers)
  | selectActiveSurface (surface : Option SurfaceID)
  | displaysUpdated
  | expire (surface : SurfaceID)

/-- Reading an output that is not set ends the server. -/
def step (policy : CanonicalPolicy) : Op → CanonicalPolicy
  | .addSession session => { policy with manager := policy.manager.step (.addSession session) }
  | .removeSession session =>
    { policy with manager := policy.manager.step (.removeSession session) }
  | .addSurface session type parent state outputID =>
    policy.addSurface session type parent state outputID
  | .modifySurface surface modifications outputID state othersApply resizes =>
    policy.modifySurface surface modifications outputID state othersApply resizes
  | .setSurfaceAttribute surface value resizes => policy.handleSetState surface value resizes
  | .toggle value defaultSurface resizes => policy.toggle value defaultSurface resizes
  | .removeSurface session surface answers => policy.removeSurface session surface answers
  | .selectActiveSurface surface => policy.selectActiveSurface surface
  | .displaysUpdated =>
    { policy with
      aborted := policy.aborted || decide (policy.handleDisplaysUpdated = .error .unsetOptional) }
  | .expire surface => { policy with manager := policy.manager.step (.expire surface) }

end CanonicalPolicy

namespace CanonicalPolicy

variable {policy : CanonicalPolicy}

/-! ### The set in step with the states -/

/-- The set holds the live surfaces that are fullscreen. -/
def InStep (policy : CanonicalPolicy) : Prop :=
  ∀ surface, surface ∈ policy.fullscreenSurfaces ↔
    policy.manager.isLive surface = true ∧ policy.state surface = .fullscreen

/-- Nothing is thrown before the new state is noted. -/
def goesThrough (policy : CanonicalPolicy) (surface : SurfaceID) (value : WindowState)
    (resizes : Bool) : Bool :=
  decide (value = .hidden ∨ value = .minimized) || (resizes && policy.moves surface)

/-- The state of a live surface does not change from fullscreen to another or back, and no state
is set of a fullscreen surface that was destroyed. -/
def KeepsFullscreen (policy : CanonicalPolicy) (surface : SurfaceID) (value : WindowState)
    (resizes : Bool) : Prop :=
  (policy.manager.surfaceInfo surface).isSome = true → value ≠ .unknown →
    (policy.state surface = .fullscreen → policy.manager.isLive surface = true) ∧
    (policy.manager.isLive surface = true → policy.goesThrough surface value resizes = true →
      (policy.state surface = .fullscreen ↔ value = .fullscreen))

instance (policy : CanonicalPolicy) (surface : SurfaceID) (value : WindowState)
    (resizes : Bool) : Decidable (policy.KeepsFullscreen surface value resizes) :=
  inferInstanceAs (Decidable (_ → _ → _ ∧ (_ → _ → _)))

/-- The condition under which the set stays in step, and the outputs that are read are set. -/
def Allowed (policy : CanonicalPolicy) : Op → Prop
  | .addSurface session type parent state outputID =>
    policy.manager.accepts type parent = true → placedState state outputID = .fullscreen →
      policy.manager.Welcomes session parent
  | .modifySurface surface modifications outputID state othersApply resizes =>
    (policy.manager.modifySurface surface modifications).2 = .ok () → othersApply = true →
      ∀ value ∈ state,
        (policy.modified surface modifications outputID).KeepsFullscreen surface value resizes
  | .setSurfaceAttribute surface value resizes => policy.KeepsFullscreen surface value resizes
  | .toggle value defaultSurface resizes =>
    ∀ surface ∈ policy.manager.activeSurfaceOr defaultSurface,
      policy.KeepsFullscreen surface (policy.toggledState surface value) resizes
  | .removeSurface session surface _ =>
    policy.manager.isLive surface = true → policy.state surface = .fullscreen →
      policy.manager.Releases session surface
  | .displaysUpdated => ∀ surface ∈ policy.fullscreenSurfaces, policy.outputNamed surface = true
  | _ => True

instance (policy : CanonicalPolicy) : DecidablePred policy.Allowed
  | .addSurface session type parent state outputID =>
    inferInstanceAs (Decidable (policy.manager.accepts type parent = true →
      placedState state outputID = .fullscreen → policy.manager.Welcomes session parent))
  | .modifySurface surface modifications outputID state othersApply resizes =>
    inferInstanceAs (Decidable
      ((policy.manager.modifySurface surface modifications).2 = .ok () → othersApply = true →
        ∀ value ∈ state,
          (policy.modified surface modifications outputID).KeepsFullscreen surface value resizes))
  | .setSurfaceAttribute surface value resizes =>
    inferInstanceAs (Decidable (policy.KeepsFullscreen surface value resizes))
  | .toggle value defaultSurface resizes =>
    inferInstanceAs (Decidable (∀ surface ∈ policy.manager.activeSurfaceOr defaultSurface,
      policy.KeepsFullscreen surface (policy.toggledState surface value) resizes))
  | .removeSurface session surface _ =>
    inferInstanceAs (Decidable (policy.manager.isLive surface = true →
      policy.state surface = .fullscreen → policy.manager.Releases session surface))
  | .displaysUpdated => inferInstanceAs (Decidable
      (∀ surface ∈ policy.fullscreenSurfaces, policy.outputNamed surface = true))
  | .addSession _ | .removeSession _ | .selectActiveSurface _ | .expire _ => .isTrue trivial

/-- The invariant of every run that meets the condition. -/
structure Bookkept (policy : CanonicalPolicy) : Prop where
  standing : policy.manager.Standing
  inStep : policy.InStep
  outputs : ∀ surface, policy.manager.isLive surface = true →
    policy.state surface = .fullscreen → policy.outputNamed surface = true →
      (policy.outputID surface).isSome = true
  named : ∀ surface, (policy.outputID surface).isSome = true →
    policy.outputNamed surface = true

/-- What setting a valid state of a registered surface does. -/
structure StateSet (policy next : CanonicalPolicy) (surface : SurfaceID)
    (value : WindowState) (through : Bool) : Prop where
  manager : next.manager = policy.manager
  named : next.outputNamed = policy.outputNamed
  member : surface ∈ next.fullscreenSurfaces ↔ policy.state surface = .fullscreen
  members : ∀ other, other ≠ surface →
    (other ∈ next.fullscreenSurfaces ↔ other ∈ policy.fullscreenSurfaces)
  state : next.state =
    if through then Function.update policy.state surface value else policy.state
  output : next.outputID = if policy.state surface = .fullscreen then policy.outputID
    else Function.update policy.outputID surface none

theorem stateSet_noteFullscreen (policy : CanonicalPolicy) (surface : SurfaceID)
    (value : WindowState) :
    StateSet policy (policy.noteFullscreen surface) surface value false := by
  unfold noteFullscreen
  split_ifs with other
  · refine ⟨rfl, rfl, ?_, fun another different => ?_, rfl, (if_neg other).symm⟩
    · exact iff_of_false (fun member => by simpa using (List.mem_filter.mp member).2) other
    · simp [List.mem_filter, different]
  · have isFullscreen : policy.state surface = .fullscreen := by simpa using other
    refine ⟨rfl, rfl, ?_, fun another different => ?_, rfl, (if_pos isFullscreen).symm⟩
    · exact iff_of_true List.mem_insert_self isFullscreen
    · simp [List.mem_insert_iff, different]

/-- The state is noted after the set was changed. -/
theorem StateSet.change {next : CanonicalPolicy} {surface : SurfaceID} {value : WindowState}
    (set : StateSet policy next surface value false) :
    StateSet policy { next with state := Function.update policy.state surface value } surface
      value true :=
  ⟨set.manager, set.named, set.member, set.members, rfl, set.output⟩

theorem handleSetState_cases (policy : CanonicalPolicy) (surface : SurfaceID)
    (value : WindowState) (resizes : Bool) :
    ((policy.manager.surfaceInfo surface = none ∨ value = .unknown) ∧
      policy.handleSetState surface value resizes = policy) ∨
    (policy.manager.surfaceInfo surface).isSome = true ∧ value ≠ .unknown ∧
      StateSet policy (policy.handleSetState surface value resizes) surface value
        (policy.goesThrough surface value resizes) := by
  have noted := policy.stateSet_noteFullscreen surface value
  unfold handleSetState
  by_cases nothing : policy.manager.surfaceInfo surface = none ∨ value = .unknown
  · rw [if_pos nothing]
    exact .inl ⟨nothing, rfl⟩
  · rw [if_neg nothing]
    obtain ⟨known, valid⟩ := not_or.mp nothing
    refine .inr ⟨Option.isSome_iff_ne_none.mpr known, valid, ?_⟩
    dsimp only
    unfold goesThrough
    by_cases hides : value = .hidden ∨ value = .minimized
    · rw [decide_eq_true hides, Bool.true_or, if_pos hides]
      split_ifs with already
      · refine ⟨noted.manager, noted.named, noted.member, noted.members, ?_, noted.output⟩
        rw [noted.state, if_pos rfl, ← already, Function.update_eq_self]
        rfl
      · exact noted.change
    · rw [decide_eq_false hides, Bool.false_or, if_neg hides]
      split_ifs with already through
      · refine ⟨noted.manager, noted.named, noted.member, noted.members, ?_, noted.output⟩
        rw [noted.state, ← already, Function.update_eq_self]
        split_ifs <;> rfl
      · rw [through]
        exact noted.change
      · rw [Bool.eq_false_iff.mpr through]
        exact noted

/-- The manager changes, but not which surfaces are live. -/
theorem Bookkept.sameSurfaces (bookkept : policy.Bookkept) {next : CanonicalPolicy}
    (same : Manager.SameSurfaces policy.manager next.manager) (state : next.state = policy.state)
    (outputID : next.outputID = policy.outputID) (named : next.outputNamed = policy.outputNamed)
    (set : next.fullscreenSurfaces = policy.fullscreenSurfaces) : next.Bookkept := by
  refine ⟨same.standing bookkept.standing, fun surface => ?_, fun surface => ?_,
    fun surface => ?_⟩
  · rw [set, state, same.isLive]
    exact bookkept.inStep surface
  · rw [outputID, named, state, same.isLive]
    exact bookkept.outputs surface
  · rw [outputID, named]
    exact bookkept.named surface

theorem Bookkept.handleSetState (bookkept : policy.Bookkept) {surface : SurfaceID}
    {value : WindowState} {resizes : Bool} (keeps : policy.KeepsFullscreen surface value resizes) :
    (policy.handleSetState surface value resizes).Bookkept := by
  rcases policy.handleSetState_cases surface value resizes with ⟨-, same⟩ | ⟨known, valid, set⟩
  · rw [same]
    exact bookkept
  · obtain ⟨onlyLive, unchanged⟩ := keeps known valid
    have sameState : ∀ other, policy.manager.isLive other = true →
        ((policy.handleSetState surface value resizes).state other = .fullscreen ↔
          policy.state other = .fullscreen) := by
      intro other live
      rw [set.state]
      split_ifs with through
      · by_cases same : other = surface
        · subst same
          rw [Function.update_self]
          exact (unchanged live through).symm
        · rw [Function.update_of_ne same]
      · exact Iff.rfl
    refine ⟨by rw [set.manager]; exact bookkept.standing, fun other => ?_, fun other => ?_,
      fun other => ?_⟩
    · rw [set.manager]
      by_cases same : other = surface
      · subst same
        rw [set.member]
        constructor
        · intro before
          exact ⟨onlyLive before, (sameState other (onlyLive before)).mpr before⟩
        · rintro ⟨live, after⟩
          exact (sameState other live).mp after
      · rw [set.members other same, bookkept.inStep other]
        exact and_congr_right fun live => (sameState other live).symm
    · rw [set.manager, set.named, set.output]
      intro live after isNamed
      have before := (sameState other live).mp after
      have known := bookkept.outputs other live before isNamed
      split_ifs with kept
      · exact known
      · rw [Function.update_of_ne]
        · exact known
        · rintro rfl
          exact kept before
    · rw [set.named, set.output]
      intro isSet
      split_ifs at isSet with kept
      · exact bookkept.named other isSet
      · by_cases same : other = surface
        · subst same
          rw [Function.update_self] at isSet
          cases isSet
        · rw [Function.update_of_ne same] at isSet
          exact bookkept.named other isSet

theorem Bookkept.modified (bookkept : policy.Bookkept) (surface : SurfaceID)
    (modifications : Manager.Modifications) (outputID : Option OutputID) :
    (policy.modified surface modifications outputID).Bookkept := by
  have same := policy.manager.modifySurface_same surface modifications
  unfold CanonicalPolicy.modified
  cases outputID with
  | none => exact bookkept.sameSurfaces same rfl rfl rfl rfl
  | some output =>
    refine ⟨same.standing bookkept.standing, fun other => ?_, fun other => ?_, fun other => ?_⟩
    · show other ∈ policy.fullscreenSurfaces ↔ Manager.isLive _ other = true ∧ _
      rw [same.isLive]
      exact bookkept.inStep other
    · show Manager.isLive _ other = true → _ →
        Function.update policy.outputNamed surface true other = true →
          (Function.update policy.outputID surface (some output) other).isSome = true
      rw [same.isLive]
      by_cases isSurface : other = surface
      · subst isSurface
        rw [Function.update_self, Function.update_self]
        exact fun _ _ _ => rfl
      · rw [Function.update_of_ne isSurface, Function.update_of_ne isSurface]
        exact bookkept.outputs other
    · show (Function.update policy.outputID surface (some output) other).isSome = true →
        Function.update policy.outputNamed surface true other = true
      by_cases isSurface : other = surface
      · subst isSurface
        rw [Function.update_self, Function.update_self]
        exact fun _ => rfl
      · rw [Function.update_of_ne isSurface, Function.update_of_ne isSurface]
        exact bookkept.named other

theorem Bookkept.addSurface (bookkept : policy.Bookkept) (session : SessionID)
    (type : Option WindowType) (parent : Option SurfaceID) (state : Option WindowState)
    (outputID : OutputID)
    (welcome : policy.manager.accepts type parent = true →
      placedState state outputID = .fullscreen → policy.manager.Welcomes session parent) :
    (policy.addSurface session type parent state outputID).Bookkept := by
  unfold CanonicalPolicy.addSurface
  dsimp only
  cases accepted : policy.manager.accepts type parent with
  | false =>
    rw [if_pos (by rw [Manager.addSurface_rejected accepted])]
    exact bookkept
  | true =>
    obtain ⟨kind, isNew⟩ : ∃ kind, policy.manager.addSurface session type parent =
        policy.manager.handleNewSurface session kind (policy.manager.reference parent) :=
      Manager.addSurface_accepted accepted
    obtain ⟨registers, welcomed⟩ := policy.manager.handleNewSurface_registers session kind parent
    rw [← isNew] at registers welcomed
    rw [if_neg (by rw [registers.made]; exact Nat.succ_ne_self _)]
    have live := registers.isLive bookkept.standing
    have notBefore : policy.manager.made ∉ policy.fullscreenSurfaces := by
      intro member
      obtain ⟨isLive, -⟩ := (bookkept.inStep _).mp member
      exact Nat.lt_irrefl _
        (bookkept.standing.registered _ (Bool.and_eq_true_iff.mp isLive).1)
    refine ⟨registers.standing bookkept.standing, fun surface => ?_, fun surface => ?_,
      fun surface => ?_⟩
    · dsimp only
      rw [live]
      by_cases new : surface = policy.manager.made
      · subst new
        rw [Function.update_self, decide_eq_true rfl, Bool.true_or]
        by_cases fullscreen : placedState state outputID = .fullscreen
        · rw [welcomed.mpr (welcome accepted fullscreen), if_pos fullscreen]
          exact iff_of_true List.mem_insert_self ⟨rfl, fullscreen⟩
        · split
          · rw [if_neg fullscreen]
            exact iff_of_false notBefore fun both => fullscreen both.2
          · exact iff_of_false notBefore fun both => fullscreen both.2
      · rw [Function.update_of_ne new, decide_eq_false new, Bool.false_or,
          ← bookkept.inStep surface]
        split
        · split_ifs
          · simp [List.mem_insert_iff, new]
          · exact Iff.rfl
        · exact Iff.rfl
    · dsimp only
      rw [live]
      by_cases new : surface = policy.manager.made
      · subst new
        rw [Function.update_self, Function.update_self, Function.update_self]
        intro _ _ isNamed
        rw [if_pos (of_decide_eq_true isNamed)]
        rfl
      · rw [Function.update_of_ne new, Function.update_of_ne new, Function.update_of_ne new,
          decide_eq_false new, Bool.false_or]
        exact bookkept.outputs surface
    · dsimp only
      by_cases new : surface = policy.manager.made
      · subst new
        rw [Function.update_self, Function.update_self]
        intro isSet
        split_ifs at isSet with given
        · exact decide_eq_true given
        · cases isSet
      · rw [Function.update_of_ne new, Function.update_of_ne new]
        exact bookkept.named surface

theorem Bookkept.removeSurface (bookkept : policy.Bookkept) (session : SessionID)
    (surface : SurfaceID) (answers : Manager.Answers)
    (releases : policy.manager.isLive surface = true → policy.state surface = .fullscreen →
      policy.manager.Releases session surface) :
    (policy.removeSurface session surface answers).Bookkept := by
  have others : ∀ other, other ≠ surface →
      (other ∈ policy.fullscreenSurfaces.filter (· ≠ surface) ↔
        other ∈ policy.fullscreenSurfaces) := by
    intro other different
    simp [List.mem_filter, different]
  have erased : surface ∉ policy.fullscreenSurfaces.filter (· ≠ surface) := fun member => by
    simpa using (List.mem_filter.mp member).2
  unfold CanonicalPolicy.removeSurface
  rcases Manager.removeSurface_cases bookkept.standing session surface answers with
    ⟨same, notReleased⟩ | ⟨destroys, -⟩
  · refine ⟨same.standing bookkept.standing, fun other => ?_, fun other => ?_, bookkept.named⟩
    · dsimp only
      rw [same.isLive]
      by_cases isSurface : other = surface
      · subst isSurface
        refine iff_of_false erased ?_
        rintro ⟨live, fullscreen⟩
        exact notReleased live (releases live fullscreen)
      · rw [others other isSurface]
        exact bookkept.inStep other
    · dsimp only
      rw [same.isLive]
      exact bookkept.outputs other
  · refine ⟨destroys.standing bookkept.standing, fun other => ?_, fun other => ?_,
      bookkept.named⟩
    · dsimp only
      rw [destroys.isLive]
      by_cases isSurface : other = surface
      · subst isSurface
        exact iff_of_false erased fun both => by simp at both
      · rw [others other isSurface, decide_eq_true isSurface, Bool.true_and]
        exact bookkept.inStep other
    · dsimp only
      rw [destroys.isLive, Bool.and_eq_true_iff]
      exact fun live => bookkept.outputs other live.2

theorem bookkept_step (bookkept : policy.Bookkept) {op : Op} (allowed : policy.Allowed op) :
    (policy.step op).Bookkept := by
  cases op with
  | addSession session =>
    exact bookkept.sameSurfaces ⟨fun _ => rfl, rfl, rfl, rfl⟩ rfl rfl rfl rfl
  | removeSession session =>
    exact bookkept.sameSurfaces ⟨fun _ => rfl, rfl, rfl, rfl⟩ rfl rfl rfl rfl
  | addSurface session type parent state outputID =>
    exact bookkept.addSurface session type parent state outputID allowed
  | modifySurface surface modifications outputID state othersApply resizes =>
    dsimp only [step]
    unfold CanonicalPolicy.modifySurface
    split
    · exact bookkept
    · rename_i accepted
      have modified := bookkept.modified surface modifications outputID
      cases state with
      | none => exact modified
      | some value =>
        dsimp only
        split_ifs with applies
        · exact modified.handleSetState (allowed accepted applies value rfl)
        · exact modified
  | setSurfaceAttribute surface value resizes => exact bookkept.handleSetState allowed
  | toggle value defaultSurface resizes =>
    dsimp only [step]
    unfold toggle
    split
    · exact bookkept
    · rename_i surface active
      exact bookkept.handleSetState (allowed surface active)
  | removeSurface session surface answers =>
    exact bookkept.removeSurface session surface answers allowed
  | selectActiveSurface surface =>
    dsimp only [step]
    unfold CanonicalPolicy.selectActiveSurface
    split
    · exact bookkept
    · exact bookkept.sameSurfaces ⟨fun _ => rfl, rfl, rfl, rfl⟩ rfl rfl rfl rfl
  | displaysUpdated => exact bookkept.sameSurfaces (.refl _) rfl rfl rfl rfl
  | expire surface =>
    dsimp only [step, Manager.step]
    split_ifs with gone
    · -- only a surface that was destroyed expires, so the live ones stay
      refine ⟨⟨bookkept.standing.registered, bookkept.standing.destroyed, fun other expired => ?_⟩,
        bookkept.inStep, bookkept.outputs, bookkept.named⟩
      by_cases same : other = surface
      · exact same ▸ gone
      · exact bookkept.standing.expired other ((Function.update_of_ne same _ _).symm.trans expired)
    · exact bookkept

/-! ### Displays are updated -/

theorem placeInOutput_member (bookkept : policy.Bookkept) {surface : SurfaceID}
    (member : surface ∈ policy.fullscreenSurfaces) :
    policy.placeInOutput surface =
      if (policy.outputID surface).isSome then .ok () else .error .unsetOptional := by
  obtain ⟨live, -⟩ := (bookkept.inStep surface).mp member
  obtain ⟨registered, notDestroyed⟩ := Bool.and_eq_true_iff.mp live
  obtain ⟨info, known⟩ := Option.isSome_iff_exists.mp registered
  have locked : policy.manager.lock surface = some surface := by
    rw [Manager.lock, if_neg]
    intro expired
    rw [bookkept.standing.expired surface expired] at notDestroyed
    cases notDestroyed
  unfold placeInOutput
  rw [locked]
  dsimp only
  rw [known]
  dsimp only
  cases policy.outputID surface <;> rfl

theorem placeAll_members (bookkept : policy.Bookkept) {surfaces : List SurfaceID}
    (members : ∀ surface ∈ surfaces, surface ∈ policy.fullscreenSurfaces) :
    policy.placeAll surfaces =
      if ∀ surface ∈ surfaces, (policy.outputID surface).isSome = true then .ok ()
      else .error .unsetOptional := by
  induction surfaces with
  | nil => exact (if_pos fun _ member => by cases member).symm
  | cons first rest inductionHypothesis =>
    rw [placeAll, placeInOutput_member bookkept (members first List.mem_cons_self)]
    by_cases isSet : (policy.outputID first).isSome = true
    · rw [if_pos isSet]
      dsimp only
      rw [inductionHypothesis fun surface member => members surface (List.mem_cons_of_mem _ member)]
      simp only [List.forall_mem_cons, isSet, true_and]
    · rw [if_neg isSet, if_neg]
      intro all
      exact isSet (all first List.mem_cons_self)

theorem aborted_handleSetState (policy : CanonicalPolicy) (surface : SurfaceID)
    (value : WindowState) (resizes : Bool) :
    (policy.handleSetState surface value resizes).aborted = policy.aborted := by
  unfold handleSetState noteFullscreen
  dsimp only
  split_ifs <;> rfl

theorem aborted_step {op : Op} (isOther : op ≠ .displaysUpdated) :
    (policy.step op).aborted = policy.aborted := by
  cases op with
  | addSurface session type parent state outputID =>
    dsimp only [step]
    unfold CanonicalPolicy.addSurface
    dsimp only
    split_ifs <;> rfl
  | modifySurface surface modifications outputID state othersApply resizes =>
    dsimp only [step]
    unfold CanonicalPolicy.modifySurface
    split
    · rfl
    · cases state with
      | none => rfl
      | some value =>
        dsimp only
        split_ifs
        · exact aborted_handleSetState _ _ _ _
        · rfl
  | setSurfaceAttribute surface value resizes => exact aborted_handleSetState _ _ _ _
  | toggle value defaultSurface resizes =>
    dsimp only [step]
    unfold toggle
    split
    · rfl
    · exact aborted_handleSetState _ _ _ _
  | selectActiveSurface surface =>
    dsimp only [step]
    unfold CanonicalPolicy.selectActiveSurface
    split <;> rfl
  | displaysUpdated => exact absurd rfl isOther
  | _ => rfl

/-! ### The condition is needed -/

theorem handleSetState_breaks {surface : SurfaceID} {value : WindowState} {resizes : Bool}
    (changes : ¬ policy.KeepsFullscreen surface value resizes) :
    ¬ (policy.handleSetState surface value resizes).InStep := by
  unfold KeepsFullscreen at changes
  push Not at changes
  obtain ⟨known, valid, changes⟩ := changes
  rcases policy.handleSetState_cases surface value resizes with ⟨nothing, -⟩ | ⟨-, -, set⟩
  · rcases nothing with unknown | invalid
    · rw [unknown] at known
      cases known
    · exact absurd invalid valid
  · intro inStep
    have here := inStep surface
    rw [set.member, set.manager, set.state] at here
    by_cases onlyLive : policy.state surface = .fullscreen → policy.manager.isLive surface = true
    · obtain ⟨live, through, differs⟩ := changes onlyLive
      rw [if_pos through, Function.update_self] at here
      have agree : policy.state surface = .fullscreen ↔ value = .fullscreen :=
        here.trans ⟨And.right, fun now => ⟨live, now⟩⟩
      rcases differs with ⟨before, after⟩ | ⟨before, after⟩
      · exact after (agree.mp before)
      · exact before (agree.mpr after)
    · push Not at onlyLive
      exact onlyLive.2 (here.mp onlyLive.1).1

/-- A step that does not meet the condition breaks the set or ends the server. -/
theorem breaks_of_not_allowed (bookkept : policy.Bookkept) {op : Op}
    (forbidden : ¬ policy.Allowed op) :
    ¬ (policy.step op).InStep ∨ (policy.step op).aborted = true := by
  cases op with
  | addSurface session type parent state outputID =>
    refine .inl fun inStep => ?_
    unfold Allowed at forbidden
    push Not at forbidden
    obtain ⟨accepted, fullscreen, unwelcome⟩ := forbidden
    obtain ⟨kind, isNew⟩ : ∃ kind, policy.manager.addSurface session type parent =
        policy.manager.handleNewSurface session kind (policy.manager.reference parent) :=
      Manager.addSurface_accepted accepted
    obtain ⟨registers, welcomed⟩ := policy.manager.handleNewSurface_registers session kind parent
    rw [← isNew] at registers welcomed
    have here := inStep policy.manager.made
    dsimp only [step] at here
    unfold CanonicalPolicy.addSurface at here
    dsimp only at here
    rw [if_neg (by rw [registers.made]; exact Nat.succ_ne_self _)] at here
    dsimp only at here
    rw [registers.isLive bookkept.standing, Function.update_self, decide_eq_true rfl,
      Bool.true_or] at here
    have member := here.mpr ⟨rfl, fullscreen⟩
    split at member
    · rename_i ok
      exact unwelcome (welcomed.mp ok)
    · obtain ⟨live, -⟩ := (bookkept.inStep _).mp member
      exact Nat.lt_irrefl _ (bookkept.standing.registered _ (Bool.and_eq_true_iff.mp live).1)
  | modifySurface surface modifications outputID state othersApply resizes =>
    unfold Allowed at forbidden
    push Not at forbidden
    obtain ⟨accepted, applies, value, isState, changes⟩ := forbidden
    cases isState
    refine .inl ?_
    dsimp only [step]
    unfold CanonicalPolicy.modifySurface
    rw [accepted]
    dsimp only
    rw [if_pos applies]
    exact handleSetState_breaks changes
  | setSurfaceAttribute surface value resizes => exact .inl (handleSetState_breaks forbidden)
  | toggle value defaultSurface resizes =>
    unfold Allowed at forbidden
    push Not at forbidden
    obtain ⟨surface, active, changes⟩ := forbidden
    refine .inl ?_
    dsimp only [step]
    unfold toggle
    rw [Option.mem_def.mp active]
    exact handleSetState_breaks changes
  | removeSurface session surface answers =>
    refine .inl fun inStep => ?_
    unfold Allowed at forbidden
    push Not at forbidden
    obtain ⟨live, fullscreen, notReleased⟩ := forbidden
    rcases Manager.removeSurface_cases bookkept.standing session surface answers with
      ⟨same, -⟩ | ⟨-, releases⟩
    · have member := (inStep surface).mpr ⟨(same.isLive surface).trans live, fullscreen⟩
      simpa using (List.mem_filter.mp member).2
    · exact notReleased releases
  | displaysUpdated =>
    unfold Allowed at forbidden
    push Not at forbidden
    obtain ⟨surface, member, unnamed⟩ := forbidden
    refine .inr ?_
    have unset : policy.handleDisplaysUpdated = .error .unsetOptional := by
      rw [handleDisplaysUpdated, placeAll_members bookkept fun _ => id, if_neg]
      exact fun all => unnamed (bookkept.named surface (all surface member))
    dsimp only [step]
    rw [unset]
    simp
  | _ => exact absurd trivial forbidden

/-! ### Runs -/

theorem bookkept_initial : initial.Bookkept where
  standing :=
    ⟨fun _ known => (by cases known), fun _ gone => (by cases gone),
      fun _ gone => (by cases gone)⟩
  inStep _ := by
    refine iff_of_false (fun member => by cases member) fun both => ?_
    cases both.2
  outputs _ _ fullscreen := by cases fullscreen
  named _ isSet := by cases isSet

theorem outputs_of_allowed (bookkept : policy.Bookkept)
    (allowed : policy.Allowed .displaysUpdated) :
    ∀ surface ∈ policy.fullscreenSurfaces, (policy.outputID surface).isSome = true := by
  intro surface member
  obtain ⟨live, fullscreen⟩ := (bookkept.inStep surface).mp member
  exact bookkept.outputs surface live fullscreen (allowed surface member)

theorem updates_of_allowed (bookkept : policy.Bookkept)
    (allowed : policy.Allowed .displaysUpdated) : policy.handleDisplaysUpdated = .ok () := by
  rw [handleDisplaysUpdated, placeAll_members bookkept fun _ => id,
    if_pos (outputs_of_allowed bookkept allowed)]

theorem running_step (bookkept : policy.Bookkept) (running : policy.aborted = false) {op : Op}
    (allowed : policy.Allowed op) : (policy.step op).aborted = false := by
  by_cases isUpdate : op = .displaysUpdated
  · subst isUpdate
    show (policy.aborted || decide (policy.handleDisplaysUpdated = _)) = false
    rw [running, updates_of_allowed bookkept allowed]
    rfl
  · exact (aborted_step isUpdate).trans running

def Sound (policy : CanonicalPolicy) : Prop := policy.Bookkept ∧ policy.aborted = false

/-- In every run in which no state changes from fullscreen to another or back, fullscreen surfaces
are created and removed without failure, and displays are updated only when each fullscreen
surface was given an output, the set holds the live fullscreen surfaces, the output of each is set
when displays are updated, and none is read that is not. A step that does not meet the condition
breaks the set or reads an output that is not set. -/
theorem fullscreen_bookkeeping {policy : CanonicalPolicy}
    (reached : Transition.Reaches step Allowed initial policy) :
    policy.InStep ∧ policy.aborted = false ∧
    (policy.Allowed .displaysUpdated →
      (∀ surface ∈ policy.fullscreenSurfaces, (policy.outputID surface).isSome = true) ∧
      policy.handleDisplaysUpdated = .ok ()) ∧
    ∀ op, ¬ policy.Allowed op → ¬ (policy.step op).InStep ∨ (policy.step op).aborted = true := by
  have sound : policy.Sound := by
    refine reached.invariant ⟨bookkept_initial, rfl⟩ fun before op sound allowed => ?_
    exact ⟨bookkept_step sound.1 allowed, running_step sound.1 sound.2 allowed⟩
  obtain ⟨bookkept, running⟩ := sound
  exact ⟨bookkept.inStep, running, fun allowed =>
    ⟨outputs_of_allowed bookkept allowed, updates_of_allowed bookkept allowed⟩,
    fun _ => breaks_of_not_allowed bookkept⟩

/-- A surface is made fullscreen on an output, is maximized below, and displays change. -/
private def placedFullscreen : List Op :=
  [.addSession 0, .addSurface 0 (some .normal) none none 3,
    .addSurface 0 (some .normal) none none 0, .setSurfaceAttribute 1 .maximized true,
    .modifySurface 0 ⟨none, none⟩ (some 4) none true true, .displaysUpdated]

theorem fullscreen_bookkeeping_when_placed :
    (placedFullscreen.foldl step initial).InStep ∧
      (placedFullscreen.foldl step initial).fullscreenSurfaces = [0] ∧
      (placedFullscreen.foldl step initial).aborted = false := by
  have reached : Transition.Reaches step Allowed initial (placedFullscreen.foldl step initial) :=
    Transition.Reaches.start.foldl placedFullscreen (by decide)
  obtain ⟨inStep, running, -⟩ := fullscreen_bookkeeping reached
  exact ⟨inStep, by decide, running⟩

/-- A surface is made and becomes fullscreen. -/
private def becomesFullscreen : List Op :=
  [.addSession 0, .addSurface 0 (some .normal) none none 0,
    .setSurfaceAttribute 0 .fullscreen true]

/-- It is asked to be fullscreen once more, and displays change. -/
private def becomesFullscreenTwice : List Op :=
  becomesFullscreen ++ [.setSurfaceAttribute 0 .fullscreen true, .displaysUpdated]

/-- The set does not hold a surface that has become fullscreen; asked for once more, it does, but
its output is not set when displays change. -/
theorem becoming_fullscreen_is_missed :
    (¬ ∀ policy, Transition.Reaches step (fun _ _ => True) initial policy → policy.InStep) ∧
    ¬ ∀ policy, Transition.Reaches step (fun _ _ => True) initial policy →
      policy.aborted = false := by
  refine ⟨fun claimed => ?_, fun claimed => ?_⟩
  · have reached : Transition.Reaches step (fun _ _ => True) initial
        (becomesFullscreen.foldl step initial) :=
      Transition.Reaches.start.foldl becomesFullscreen (by decide)
    have inStep := claimed _ reached 0
    revert inStep
    decide
  · have reached : Transition.Reaches step (fun _ _ => True) initial
        (becomesFullscreenTwice.foldl step initial) :=
      Transition.Reaches.start.foldl becomesFullscreenTwice (by decide)
    have running := claimed _ reached
    revert running
    decide

end CanonicalPolicy

end Mir.Shell

/-
This file says what each operation of the window manager does to the surfaces it has: which of
them are registered, which were destroyed and which can no longer be locked. A surface is
registered when it is added, even if adding it fails after that; a removal destroys the surface
it is asked for, or leaves all of them as they were.
-/

import Mir.Shell.ParentCycles

namespace Mir.Shell

namespace Manager

variable {manager before after : Manager}

/-! ### Which surfaces the manager has -/

/-- The same surfaces are registered, destroyed and expired. -/
structure SameSurfaces (before after : Manager) : Prop where
  registered : ∀ surface,
    (after.surfaceInfo surface).isSome = (before.surfaceInfo surface).isSome
  made : after.made = before.made
  destroyed : after.destroyed = before.destroyed
  expired : after.expired = before.expired

/-- One more surface is registered. -/
structure Registers (before after : Manager) : Prop where
  registered : ∀ surface, (after.surfaceInfo surface).isSome =
    (decide (surface = before.made) || (before.surfaceInfo surface).isSome)
  made : after.made = before.made + 1
  destroyed : after.destroyed = before.destroyed
  expired : after.expired = before.expired

/-- A registered surface is destroyed, and it may expire and be forgotten. -/
structure Destroys (before after : Manager) (surface : SurfaceID) : Prop where
  known : (before.surfaceInfo surface).isSome = true
  registered : ∀ other, other ≠ surface →
    (after.surfaceInfo other).isSome = (before.surfaceInfo other).isSome
  fewer : (after.surfaceInfo surface).isSome = true → (before.surfaceInfo surface).isSome = true
  made : after.made = before.made
  destroyed : after.destroyed = Function.update before.destroyed surface true
  expired : ∀ other, after.expired other = true → before.expired other = true ∨ other = surface

/-- Surfaces are numbered as they are made, and only one that was destroyed expires. -/
structure Standing (manager : Manager) : Prop where
  registered : ∀ surface, (manager.surfaceInfo surface).isSome = true → surface < manager.made
  destroyed : ∀ surface, manager.destroyed surface = true → surface < manager.made
  expired : ∀ surface, manager.expired surface = true → manager.destroyed surface = true

theorem SameSurfaces.refl (manager : Manager) : SameSurfaces manager manager :=
  ⟨fun _ => rfl, rfl, rfl, rfl⟩

theorem SameSurfaces.isLive (same : SameSurfaces before after) (surface : SurfaceID) :
    after.isLive surface = before.isLive surface := by
  rw [Manager.isLive, Manager.isLive, same.registered, same.destroyed]

theorem SameSurfaces.standing (same : SameSurfaces before after) (standing : before.Standing) :
    after.Standing where
  registered surface known := by
    rw [same.made]
    exact standing.registered surface ((same.registered surface).symm.trans known)
  destroyed surface gone := by
    rw [same.made]
    exact standing.destroyed surface (same.destroyed ▸ gone)
  expired surface gone := by
    rw [same.destroyed]
    exact standing.expired surface (same.expired ▸ gone)

theorem Registers.standing (registers : Registers before after) (standing : before.Standing) :
    after.Standing where
  registered surface known := by
    rw [registers.made]
    rw [registers.registered, Bool.or_eq_true, decide_eq_true_eq] at known
    rcases known with rfl | old
    · exact Nat.lt_succ_self _
    · exact Nat.lt_succ_of_lt (standing.registered surface old)
  destroyed surface gone := by
    rw [registers.made]
    exact Nat.lt_succ_of_lt (standing.destroyed surface (registers.destroyed ▸ gone))
  expired surface gone := by
    rw [registers.destroyed]
    exact standing.expired surface (registers.expired ▸ gone)

theorem Registers.isLive (registers : Registers before after) (standing : before.Standing)
    (surface : SurfaceID) :
    after.isLive surface = (decide (surface = before.made) || before.isLive surface) := by
  rw [Manager.isLive, Manager.isLive, registers.registered, registers.destroyed]
  by_cases new : surface = before.made
  · subst new
    have notDestroyed : before.destroyed before.made = false :=
      Bool.eq_false_iff.mpr fun gone => Nat.lt_irrefl _ (standing.destroyed _ gone)
    simp [notDestroyed]
  · simp [new]

theorem Destroys.standing {surface : SurfaceID} (destroys : Destroys before after surface)
    (standing : before.Standing) : after.Standing where
  registered other known := by
    rw [destroys.made]
    by_cases same : other = surface
    · exact standing.registered other (same ▸ destroys.fewer (same ▸ known))
    · exact standing.registered other ((destroys.registered other same).symm.trans known)
  destroyed other gone := by
    rw [destroys.made]
    by_cases same : other = surface
    · exact standing.registered other (same ▸ destroys.known)
    · rw [destroys.destroyed, Function.update_of_ne same] at gone
      exact standing.destroyed other gone
  expired other gone := by
    rw [destroys.destroyed]
    by_cases same : other = surface
    · rw [same]
      exact Function.update_self _ _ _
    · rw [Function.update_of_ne same]
      rcases destroys.expired other gone with old | isSurface
      · exact standing.expired other old
      · exact absurd isSurface same

theorem Destroys.isLive {surface : SurfaceID} (destroys : Destroys before after surface)
    (other : SurfaceID) :
    after.isLive other = (decide (other ≠ surface) && before.isLive other) := by
  rw [Manager.isLive, Manager.isLive, destroys.destroyed]
  by_cases same : other = surface
  · simp [same]
  · simp [same, destroys.registered other same]

/-! ### What the operations do to them -/

theorem sameSurfaces_setInfo {surface : SurfaceID} {old info : SurfaceInfo}
    (known : manager.surfaceInfo surface = some old) :
    SameSurfaces manager (manager.setInfo surface info) := by
  refine ⟨fun other => ?_, rfl, rfl, rfl⟩
  rw [surfaceInfo_setInfo]
  split_ifs with same
  · rw [same, known]
    rfl
  · rfl

/-- Whether the policy places a surface of a type below a parent. -/
def accepts (manager : Manager) (type : Option WindowType) (parent : Option SurfaceID) : Bool :=
  match type with
  | none => false
  | some type =>
    let locked := (manager.reference parent).bind manager.lock
    !(mustNotHaveParent type && locked.isSome) && !(mustHaveParentToBePlaced type && locked.isNone)

/-- A surface that is made has a session and a parent that are registered, if it has a parent that
can be locked. -/
def Welcomes (manager : Manager) (session : SessionID) (parent : Option SurfaceID) : Prop :=
  (∀ other ∈ (manager.reference parent).bind manager.lock,
    (manager.surfaceInfo other).isSome = true) ∧ (manager.sessionInfo session).isSome = true

instance (manager : Manager) (session : SessionID) (parent : Option SurfaceID) :
    Decidable (manager.Welcomes session parent) :=
  inferInstanceAs (Decidable (_ ∧ _))

theorem registers_registerSurface (manager : Manager) (session : SessionID) (type : WindowType)
    (parent : Option SurfaceID) :
    Registers manager (manager.registerSurface session type parent) := by
  refine ⟨fun surface => ?_, rfl, rfl, rfl⟩
  show ((manager.setInfo manager.made ⟨type, session, parent, []⟩).surfaceInfo surface).isSome = _
  rw [surfaceInfo_setInfo]
  by_cases new : surface = manager.made
  · simp [new]
  · simp [new]

theorem Registers.same {last : Manager} (registers : Registers before after)
    (same : SameSurfaces after last) : Registers before last :=
  ⟨fun surface => (same.registered surface).trans (registers.registered surface),
    same.made.trans registers.made, same.destroyed.trans registers.destroyed,
    same.expired.trans registers.expired⟩

theorem sameSurfaces_recordSurface (manager : Manager) (session : SessionID)
    (surface : SurfaceID) :
    SameSurfaces manager (manager.recordSurface session surface).1 := by
  unfold recordSurface
  split <;> exact ⟨fun _ => rfl, rfl, rfl, rfl⟩

theorem recordSurface_ok_iff (manager : Manager) (session : SessionID) (surface : SurfaceID) :
    (manager.recordSurface session surface).2 = .ok () ↔
      (manager.sessionInfo session).isSome = true := by
  unfold recordSurface
  cases manager.sessionInfo session with
  | none => simp
  | some surfaces => simp

/-- An accepted surface is registered, and all is well if its parent and session are known. -/
theorem handleNewSurface_registers (manager : Manager) (session : SessionID)
    (type : WindowType) (parent : Option SurfaceID) :
    Registers manager (manager.handleNewSurface session type (manager.reference parent)).1 ∧
      ((manager.handleNewSurface session type (manager.reference parent)).2 = .ok () ↔
        manager.Welcomes session parent) := by
  have registers :=
    manager.registers_registerSurface session type (manager.reference parent)
  unfold handleNewSurface Welcomes
  dsimp only
  cases locked : (manager.reference parent).bind manager.lock with
  | none =>
    dsimp only
    refine ⟨registers.same (sameSurfaces_recordSurface _ _ _), ?_⟩
    rw [recordSurface_ok_iff]
    exact ⟨fun known => ⟨fun _ member => (by cases member), known⟩, And.right⟩
  | some other =>
    have old : other < manager.made := by
      have named := named_of_locked locked
      exact of_decide_eq_true (Option.filter_eq_some_iff.mp named).2
    have sameInfo : ((manager.registerSurface session type
        (manager.reference parent)).surfaceInfo other).isSome =
          (manager.surfaceInfo other).isSome := by
      rw [registers.registered, decide_eq_false (Nat.ne_of_lt old), Bool.false_or]
    dsimp only
    cases known : (manager.registerSurface session type
        (manager.reference parent)).surfaceInfo other with
    | none =>
      refine ⟨registers, ⟨fun impossible => (by cases impossible), fun welcomes => ?_⟩⟩
      have registered := welcomes.1 other rfl
      rw [← sameInfo, known] at registered
      cases registered
    | some info =>
      refine ⟨(registers.same (sameSurfaces_setInfo known)).same
        (sameSurfaces_recordSurface _ _ _), ?_⟩
      rw [recordSurface_ok_iff]
      constructor
      · intro sessionKnown
        refine ⟨fun parent isParent => ?_, sessionKnown⟩
        cases isParent
        rw [← sameInfo, known]
        rfl
      · exact And.right

theorem addSurface_rejected {session : SessionID} {type : Option WindowType}
    {parent : Option SurfaceID} (rejected : manager.accepts type parent = false) :
    (manager.addSurface session type parent).1 = manager := by
  unfold accepts at rejected
  unfold addSurface
  cases type with
  | none => rfl
  | some type =>
    dsimp only at rejected ⊢
    split_ifs with mustNot must
    · rfl
    · rfl
    · rw [Bool.and_eq_false_iff] at rejected
      simp [mustNot, must] at rejected

theorem addSurface_accepted {session : SessionID} {type : Option WindowType}
    {parent : Option SurfaceID} (accepted : manager.accepts type parent = true) :
    ∃ kind, manager.addSurface session type parent =
      manager.handleNewSurface session kind (manager.reference parent) := by
  unfold accepts at accepted
  unfold addSurface
  cases type with
  | none => cases accepted
  | some type =>
    dsimp only at accepted ⊢
    refine ⟨type, ?_⟩
    split_ifs with mustNot must
    · simp [mustNot] at accepted
    · simp [must] at accepted
    · rfl

theorem modifySurface_same (manager : Manager) (surface : SurfaceID)
    (modifications : Modifications) :
    SameSurfaces manager (manager.modifySurface surface modifications).1 := by
  rcases manager.modifySurface_cases surface modifications with
    same | ⟨info, next, known, -, -, -, same⟩
  · rw [same]
    exact .refl manager
  · rw [same]
    exact sameSurfaces_setInfo known

theorem eraseSibling_same {surface : SurfaceID} {info : SurfaceInfo} {next : Manager}
    (erased : manager.eraseSibling surface info = .ok next) : SameSurfaces manager next := by
  rcases Tree.eraseSibling_cases erased with ⟨-, rfl⟩ | ⟨parent, parentInfo, -, known, rfl⟩
  · exact .refl _
  · exact sameSurfaces_setInfo known

theorem afterDestroyed_same (manager : Manager) (session : SessionID) (surface : SurfaceID)
    (wasActive : Bool) (focusedSurface : Option SurfaceID) :
    SameSurfaces manager (manager.afterDestroyed session surface wasActive focusedSurface).1 := by
  obtain ⟨sameInfo, made, destroyed, expired⟩ :=
    manager.afterDestroyed_frame session surface wasActive focusedSurface
  exact ⟨fun other => by rw [sameInfo], made, destroyed, expired⟩

/-- The session of a surface that is removed owns it, and its parent is registered if it can be
locked. -/
def Releases (manager : Manager) (session : SessionID) (surface : SurfaceID) : Prop :=
  ∀ info ∈ manager.surfaceInfo surface, info.session = session ∧
    ∀ parent ∈ manager.lockParent info, (manager.surfaceInfo parent).isSome = true

instance (manager : Manager) (session : SessionID) (surface : SurfaceID) :
    Decidable (manager.Releases session surface) :=
  inferInstanceAs (Decidable (∀ info ∈ manager.surfaceInfo surface, _ ∧ _))

theorem destroys_destroySurface {surface : SurfaceID} {session : SessionID} {info : SurfaceInfo}
    {expires : Bool} {next : Manager} (known : (manager.surfaceInfo surface).isSome = true)
    (destroyed : manager.destroySurface session surface info expires = .ok next) :
    Destroys manager next surface := by
  unfold destroySurface at destroyed
  split_ifs at destroyed with own expire
  · cases destroyed
    refine ⟨known, fun _ _ => rfl, id, rfl, rfl, fun other gone => ?_⟩
    by_cases same : other = surface
    · exact .inr same
    · exact .inl ((Function.update_of_ne same _ _).symm.trans gone)
  · cases destroyed
    exact ⟨known, fun _ _ => rfl, id, rfl, rfl, fun _ gone => .inl gone⟩

theorem Destroys.same {last : Manager} {surface : SurfaceID}
    (destroys : Destroys before after surface) (same : SameSurfaces after last) :
    Destroys before last surface :=
  ⟨destroys.known, fun other different =>
      (same.registered other).trans (destroys.registered other different),
    fun registered => destroys.fewer ((same.registered surface).symm.trans registered),
    same.made.trans destroys.made, same.destroyed.trans destroys.destroyed,
    fun other gone => destroys.expired other (same.expired ▸ gone)⟩

theorem Destroys.of_same {first : Manager} {surface : SurfaceID}
    (same : SameSurfaces first before) (destroys : Destroys before after surface) :
    Destroys first after surface :=
  ⟨(same.registered surface).symm.trans destroys.known, fun other different =>
      (destroys.registered other different).trans (same.registered other),
    fun _ => (same.registered surface).symm.trans destroys.known,
    destroys.made.trans same.made, by rw [destroys.destroyed, same.destroyed],
    fun other gone => same.expired ▸ destroys.expired other gone⟩

theorem Destroys.forget {surface : SurfaceID} (destroys : Destroys before after surface) :
    Destroys before (after.forget surface) surface := by
  refine ⟨destroys.known, fun other different => ?_, fun registered => destroys.known,
    destroys.made, destroys.destroyed, destroys.expired⟩
  rw [surfaceInfo_forget, if_neg different]
  exact destroys.registered other different

/-- A removal destroys the surface or leaves all surfaces as they were. A live surface is destroyed
exactly when its session asks and its parent is registered. -/
theorem removeSurface_cases (standing : manager.Standing) (session : SessionID)
    (surface : SurfaceID) (answers : Answers) :
    SameSurfaces manager (manager.removeSurface session surface answers).1 ∧
        (manager.isLive surface = true → ¬ manager.Releases session surface) ∨
      Destroys manager (manager.removeSurface session surface answers).1 surface ∧
        manager.Releases session surface := by
  unfold removeSurface Releases
  dsimp only
  cases known : manager.surfaceInfo surface with
  | none =>
    refine .inl ⟨.refl manager, fun live => ?_⟩
    rw [isLive, known] at live
    cases live
  | some info =>
    dsimp only
    cases erasing : manager.eraseSibling surface info with
    | error failure =>
      refine .inl ⟨.refl manager, fun _ releases => ?_⟩
      obtain ⟨-, parentKnown⟩ := releases info rfl
      unfold eraseSibling at erasing
      cases locked : manager.lockParent info with
      | none =>
        rw [locked] at erasing
        cases erasing
      | some parent =>
        obtain ⟨parentInfo, isParent⟩ := Option.isSome_iff_exists.mp (parentKnown parent locked)
        rw [locked] at erasing
        dsimp only at erasing
        rw [isParent] at erasing
        cases erasing
    | ok erased =>
      have same := eraseSibling_same erasing
      have parentKnown : ∀ parent ∈ manager.lockParent info,
          (manager.surfaceInfo parent).isSome = true := by
        intro parent locked
        unfold eraseSibling at erasing
        rw [Option.mem_def.mp locked] at erasing
        dsimp only at erasing
        cases isParent : manager.surfaceInfo parent with
        | none =>
          rw [isParent] at erasing
          cases erasing
        | some parentInfo => rfl
      dsimp only
      cases destroying : erased.destroySurface session surface info answers.expires with
      | error failure =>
        refine .inl ⟨same, fun live releases => ?_⟩
        obtain ⟨own, -⟩ := releases info rfl
        have notDestroyed : manager.destroyed surface = false := by
          rw [isLive, known] at live
          simpa using live
        have locked : erased.lock surface = some surface := by
          rw [lock, same.expired, if_neg]
          intro gone
          rw [standing.expired surface gone] at notDestroyed
          cases notDestroyed
        unfold destroySurface at destroying
        rw [if_pos ⟨own, same.destroyed ▸ notDestroyed, locked⟩] at destroying
        cases destroying
      | ok destroyed =>
        have own : info.session = session := by
          unfold destroySurface at destroying
          split_ifs at destroying with isOwn
          · exact isOwn.1
          · exact isOwn.1
        have registered : (erased.surfaceInfo surface).isSome = true := by
          rw [same.registered, known]
          rfl
        have destroys := ((destroys_destroySurface registered destroying).of_same same).same
          (destroyed.afterDestroyed_same session surface
            (decide (manager.lock surface = manager.activeSurfaceOr answers.defaultSurface))
            answers.focusedSurface)
        have releases : ∀ next ∈ some info, next.session = session ∧
            ∀ parent ∈ manager.lockParent next, (manager.surfaceInfo parent).isSome = true := by
          intro next isNext
          cases isNext
          exact ⟨own, parentKnown⟩
        dsimp only
        split
        · exact .inr ⟨destroys, releases⟩
        · exact .inr ⟨destroys.forget, releases⟩

end Manager

end Mir.Shell

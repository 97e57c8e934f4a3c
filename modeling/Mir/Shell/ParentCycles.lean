/-
This file proves when the parents of surfaces form no cycle, and that the recursions of the
window manager then end.

A modification may name any surface as the parent of another. The policy only asks whether the
type of the surface allows a parent: a surface can become its own parent, or the child of one
of its descendants. Selecting the active surface then goes from parent to parent without end.
The lists of children are not touched by a modification, so walks down the tree always end.
-/

import Mir.Library.Acyclic
import Mir.Library.Fallible
import Mir.Shell.SurfaceTree

namespace Mir.Shell.Manager

open Fallible Relation

/-! ### The parent relation -/

/-- A registered surface has a parent that can be locked and is registered too. -/
def HasParent (manager : Manager) (surface parent : SurfaceID) : Prop :=
  ∃ info, manager.surfaceInfo surface = some info ∧ manager.lockParent info = some parent ∧
    (manager.surfaceInfo parent).isSome = true

/-- The parent that a modification names, if it can be locked. -/
def namedParent (manager : Manager) (modifications : Modifications) : Option SurfaceID :=
  (modifications.parent.bind manager.reference).bind manager.lock

/-- An accepted modification names neither the surface itself nor one of its descendants as the
parent. -/
def NamesNoDescendant (manager : Manager) : Op → Prop
  | .modifySurface surface modifications => ∀ info ∈ manager.surfaceInfo surface,
    manager.rejects info modifications = false →
      ∀ parent ∈ manager.namedParent modifications,
        (manager.surfaceInfo parent).isSome = true →
          ¬ ReflTransGen manager.HasParent parent surface
  | _ => True

/-- What holds in any run: references are to surfaces that were made, and children are newer than
their parents. -/
structure Numbered (manager : Manager) : Prop where
  registered : ∀ surface info, manager.surfaceInfo surface = some info → surface < manager.made
  parents : ∀ surface info parent, manager.surfaceInfo surface = some info →
    info.parent = some parent → parent < manager.made
  children : ∀ surface info child, manager.surfaceInfo surface = some info →
    child ∈ info.children → surface < child ∧ child < manager.made

/-- Surfaces are forgotten, lose children and can no longer be locked. -/
structure Shrinks (before after : Manager) : Prop where
  info : ∀ surface info, after.surfaceInfo surface = some info →
    ∃ old, before.surfaceInfo surface = some old ∧ info.parent = old.parent ∧
      ∀ child ∈ info.children, child ∈ old.children
  made : after.made = before.made
  expired : ∀ surface, before.expired surface = true → after.expired surface = true

namespace Shrinks

variable {first second third : Manager}

theorem refl (manager : Manager) : Shrinks manager manager :=
  ⟨fun _ info known => ⟨info, known, rfl, fun _ member => member⟩, rfl, fun _ => id⟩

theorem trans (early : Shrinks first second) (late : Shrinks second third) :
    Shrinks first third := by
  refine ⟨fun surface info known => ?_, late.made.trans early.made, fun surface gone =>
    late.expired surface (early.expired surface gone)⟩
  obtain ⟨middle, knownMiddle, sameParent, fewer⟩ := late.info surface info known
  obtain ⟨old, knownOld, oldParent, fewerStill⟩ := early.info surface middle knownMiddle
  exact ⟨old, knownOld, sameParent.trans oldParent, fun child member =>
    fewerStill child (fewer child member)⟩

theorem numbered (shrinks : Shrinks first second) (numbered : first.Numbered) :
    second.Numbered := by
  refine ⟨fun surface info known => ?_, fun surface info parent known named => ?_,
    fun surface info child known member => ?_⟩
  all_goals
    obtain ⟨old, knownOld, sameParent, fewer⟩ := shrinks.info surface info known
    rw [shrinks.made]
  · exact numbered.registered surface old knownOld
  · exact numbered.parents surface old parent knownOld (sameParent ▸ named)
  · exact numbered.children surface old child knownOld (fewer child member)

/-- A parent that can still be locked could be locked before. -/
theorem hasParent (shrinks : Shrinks first second) (surface parent : SurfaceID)
    (has : second.HasParent surface parent) : first.HasParent surface parent := by
  obtain ⟨info, known, locked, parentKnown⟩ := has
  obtain ⟨old, knownOld, sameParent, -⟩ := shrinks.info surface info known
  obtain ⟨parentInfo, parentSome⟩ := Option.isSome_iff_exists.mp parentKnown
  obtain ⟨oldParent, oldParentKnown, -⟩ := shrinks.info parent parentInfo parentSome
  refine ⟨old, knownOld, ?_, by rw [oldParentKnown]; rfl⟩
  have named := named_of_locked locked
  rw [lockParent, named, Option.bind_some, lock] at locked
  split_ifs at locked with expired
  rw [lockParent, ← sameParent, named, Option.bind_some, lock, if_neg]
  intro gone
  exact expired (shrinks.expired parent gone)

end Shrinks

/-! ### What an operation can do -/

variable {manager : Manager}

theorem surfaceInfo_setInfo (manager : Manager) (surface other : SurfaceID) (info : SurfaceInfo) :
    (manager.setInfo surface info).surfaceInfo other =
      if other = surface then some info else manager.surfaceInfo other :=
  Function.update_apply manager.surfaceInfo surface (some info) other

theorem surfaceInfo_forget (manager : Manager) (surface other : SurfaceID) :
    (manager.forget surface).surfaceInfo other =
      if other = surface then none else manager.surfaceInfo other :=
  Function.update_apply manager.surfaceInfo surface none other

theorem shrinks_forget (manager : Manager) (surface : SurfaceID) :
    Shrinks manager (manager.forget surface) := by
  refine ⟨fun other info known => ?_, rfl, fun _ => id⟩
  rw [surfaceInfo_forget] at known
  split_ifs at known
  exact ⟨info, known, rfl, fun _ member => member⟩

theorem shrinks_destroySurface {session : SessionID} {surface : SurfaceID} {info : SurfaceInfo}
    {expires : Bool} {next : Manager}
    (destroyed : manager.destroySurface session surface info expires = .ok next) :
    Shrinks manager next := by
  unfold destroySurface at destroyed
  split_ifs at destroyed with own expire
  · cases destroyed
    refine ⟨fun other info known => ⟨info, known, rfl, fun _ member => member⟩, rfl,
      fun other gone => ?_⟩
    by_cases same : other = surface
    · rw [same]
      exact Function.update_self _ _ _
    · exact (Function.update_of_ne same _ _).trans gone
  · cases destroyed
    exact ⟨fun other info known => ⟨info, known, rfl, fun _ member => member⟩, rfl, fun _ => id⟩

theorem shrinks_eraseSibling {surface : SurfaceID} {info : SurfaceInfo} {next : Manager}
    (erased : manager.eraseSibling surface info = .ok next) : Shrinks manager next := by
  rcases Tree.eraseSibling_cases erased with ⟨-, rfl⟩ | ⟨parent, parentInfo, -, known, rfl⟩
  · exact .refl _
  · refine ⟨fun other otherInfo registered => ?_, rfl, fun _ => id⟩
    rw [surfaceInfo_setInfo] at registered
    split_ifs at registered with same
    · cases registered
      exact ⟨parentInfo, same ▸ known, rfl, fun child member => List.mem_of_mem_eraseP member⟩
    · exact ⟨otherInfo, registered, rfl, fun _ member => member⟩

theorem shrinks_afterDestroyed (manager : Manager) (session : SessionID) (surface : SurfaceID)
    (wasActive : Bool) (focusedSurface : Option SurfaceID) :
    Shrinks manager (manager.afterDestroyed session surface wasActive focusedSurface).1 := by
  obtain ⟨sameInfo, sameMade, -, sameExpired⟩ :=
    manager.afterDestroyed_frame session surface wasActive focusedSurface
  refine ⟨fun other info known => ⟨info, ?_, rfl, fun _ member => member⟩, sameMade,
    fun other gone => ?_⟩
  · rw [← sameInfo]
    exact known
  · rw [sameExpired]
    exact gone

theorem shrinks_removeSurface (manager : Manager) (session : SessionID) (surface : SurfaceID)
    (answers : Answers) : Shrinks manager (manager.removeSurface session surface answers).1 := by
  unfold removeSurface
  dsimp only
  split
  · exact .refl _
  · split
    · exact .refl _
    · rename_i erased eraseOk
      have siblings := shrinks_eraseSibling eraseOk
      split
      · exact siblings
      · rename_i destroyed destroyOk
        have gone := siblings.trans (shrinks_destroySurface destroyOk)
        have after := gone.trans (shrinks_afterDestroyed destroyed session surface
          (decide (manager.lock surface = manager.activeSurfaceOr answers.defaultSurface))
          answers.focusedSurface)
        split
        · exact after
        · exact after.trans (shrinks_forget _ surface)

/-- A surface is made below a parent, or below none. -/
structure Grows (before after : Manager) (parent : Option SurfaceID) : Prop where
  info : ∀ surface info, after.surfaceInfo surface = some info →
    surface = before.made ∧ info.parent = parent ∧ info.children = [] ∨
      ∃ old, before.surfaceInfo surface = some old ∧ info.parent = old.parent ∧
        ∀ child ∈ info.children, child ∈ old.children ∨ child = before.made
  made : after.made = before.made + 1
  expired : after.expired = before.expired
  below : ∀ other ∈ parent, other < before.made

theorem grows_registerSurface (manager : Manager) (session : SessionID) (type : WindowType)
    {parent : Option SurfaceID} (below : ∀ other ∈ parent, other < manager.made) :
    Grows manager (manager.registerSurface session type parent) parent := by
  refine ⟨fun surface info known => ?_, rfl, rfl, below⟩
  have known : (manager.setInfo manager.made ⟨type, session, parent, []⟩).surfaceInfo surface =
      some info := known
  rw [surfaceInfo_setInfo] at known
  split_ifs at known with same
  · cases known
    exact .inl ⟨same, rfl, rfl⟩
  · exact .inr ⟨info, known, rfl, fun _ member => .inl member⟩

/-- Which surfaces a session has does not matter here. -/
theorem Grows.recordSurface {after : Manager} {parent : Option SurfaceID}
    (grows : Grows manager after parent) (session : SessionID) (surface : SurfaceID) :
    Grows manager (after.recordSurface session surface).1 parent := by
  unfold Manager.recordSurface
  split
  · exact grows
  · exact ⟨grows.info, grows.made, grows.expired, grows.below⟩

theorem Grows.addChild {after : Manager} {parent : Option SurfaceID}
    (grows : Grows manager after parent) {named : SurfaceID} (isParent : parent = some named)
    {info : SurfaceInfo} (known : after.surfaceInfo named = some info) :
    Grows manager
      (after.setInfo named { info with children := info.children ++ [manager.made] }) parent := by
  refine ⟨fun surface next registered => ?_, grows.made, grows.expired, grows.below⟩
  rw [surfaceInfo_setInfo] at registered
  split_ifs at registered with same
  · cases registered
    rcases grows.info named info known with ⟨isNew, -⟩ | ⟨old, before, sameParent, fewer⟩
    · exact absurd isNew (Nat.ne_of_lt (grows.below named isParent))
    · refine .inr ⟨old, same ▸ before, sameParent, fun child member => ?_⟩
      rcases List.mem_append.mp member with listed | new
      · exact fewer child listed
      · exact .inr (List.mem_singleton.mp new)
  · exact grows.info surface next registered

theorem addSurface_cases (manager : Manager) (session : SessionID) (type : Option WindowType)
    (parent : Option SurfaceID) :
    (manager.addSurface session type parent).1 = manager ∨
      ∃ named, Grows manager (manager.addSurface session type parent).1 named := by
  have below : ∀ other ∈ manager.reference parent, other < manager.made := by
    intro other member
    exact of_decide_eq_true (Option.filter_eq_some_iff.mp member).2
  unfold addSurface
  dsimp only
  split
  · exact .inl rfl
  · rename_i type
    split_ifs
    · exact .inl rfl
    · exact .inl rfl
    · refine .inr ⟨manager.reference parent, ?_⟩
      have registered := grows_registerSurface manager session type below
      unfold handleNewSurface
      dsimp only
      split
      · exact registered.recordSurface session manager.made
      · rename_i named locked
        split
        · exact registered
        · rename_i info known
          have isParent : manager.reference parent = some named := by
            obtain ⟨other, isOther, isLocked⟩ := Option.bind_eq_some_iff.mp locked
            rw [lock] at isLocked
            split_ifs at isLocked
            cases isLocked
            exact isOther
          exact (registered.addChild isParent known).recordSurface session manager.made

theorem Grows.numbered (numbered : manager.Numbered) {after : Manager}
    {parent : Option SurfaceID} (grows : Grows manager after parent) : after.Numbered := by
  refine ⟨fun surface info known => ?_, fun surface info named known isNamed => ?_,
    fun surface info child known member => ?_⟩
  all_goals
    rw [grows.made]
    rcases grows.info surface info known with
      ⟨isNew, sameParent, noChildren⟩ | ⟨old, before, sameParent, fewer⟩
  · exact isNew ▸ Nat.lt_succ_self _
  · exact Nat.lt_succ_of_lt (numbered.registered surface old before)
  · exact Nat.lt_succ_of_lt (grows.below named (sameParent ▸ isNamed))
  · exact Nat.lt_succ_of_lt (numbered.parents surface old named before (sameParent ▸ isNamed))
  · rw [noChildren] at member
    cases member
  · rcases fewer child member with listed | new
    · obtain ⟨newer, isMade⟩ := numbered.children surface old child before listed
      exact ⟨newer, Nat.lt_succ_of_lt isMade⟩
    · rw [new]
      exact ⟨numbered.registered surface old before, Nat.lt_succ_self _⟩

/-! ### No cycle comes about -/

/-- Nobody can be above a surface that has yet to be made. -/
theorem not_above_new (numbered : manager.Numbered) {surface : SurfaceID}
    (old : surface < manager.made) : ¬ ReflTransGen manager.HasParent surface manager.made := by
  intro walk
  cases walk with
  | refl => exact Nat.lt_irrefl _ old
  | tail _ edge =>
    obtain ⟨-, -, -, known⟩ := edge
    obtain ⟨info, registered⟩ := Option.isSome_iff_exists.mp known
    exact Nat.lt_irrefl _ (numbered.registered _ info registered)

theorem Grows.acyclic (numbered : manager.Numbered) (acyclic : Acyclic manager.HasParent)
    {after : Manager} {parent : Option SurfaceID} (grows : Grows manager after parent) :
    Acyclic after.HasParent := by
  have sameLock : after.lock = manager.lock := by
    funext surface
    rw [lock, lock, grows.expired]
  have edges : ∀ surface above, after.HasParent surface above →
      manager.HasParent surface above ∨ surface = manager.made ∧ parent = some above := by
    rintro surface above ⟨info, known, locked, aboveKnown⟩
    have named := named_of_locked locked
    rcases grows.info surface info known with
      ⟨isNew, sameParent, -⟩ | ⟨old, before, sameParent, -⟩
    · exact .inr ⟨isNew, sameParent ▸ named⟩
    · refine .inl ⟨old, before, ?_, ?_⟩
      · rw [lockParent, sameParent, sameLock] at locked
        exact locked
      · obtain ⟨aboveInfo, registered⟩ := Option.isSome_iff_exists.mp aboveKnown
        rcases grows.info above aboveInfo registered with ⟨isNew, -⟩ | ⟨oldAbove, found, -⟩
        · have isMade := numbered.parents surface old above before (sameParent ▸ named)
          exact absurd isNew (Nat.ne_of_lt isMade)
        · rw [found]
          rfl
  cases parent with
  | none =>
    refine acyclic.mono fun surface above edge => ?_
    exact (edges surface above edge).resolve_right fun new => by cases new.2
  | some target =>
    refine acyclic.redirect (fun surface above edge => ?_)
      (not_above_new numbered (grows.below target rfl))
    exact (edges surface above edge).imp_right fun new =>
      ⟨new.1, (Option.some.inj new.2).symm⟩

/-- What an accepted modification leaves. -/
theorem modifySurface_cases (manager : Manager) (surface : SurfaceID)
    (modifications : Modifications) :
    (manager.modifySurface surface modifications).1 = manager ∨
      ∃ info next, manager.surfaceInfo surface = some info ∧
        manager.rejects info modifications = false ∧
        next.parent = manager.askedParent info modifications ∧ next.children = info.children ∧
        (manager.modifySurface surface modifications).1 = manager.setInfo surface next := by
  rcases manager.modifySurface_eq surface modifications with same | ⟨info, next, known, ok, becomes⟩
  · exact .inl same
  · obtain ⟨accepted, asked, sameChildren⟩ := modifiedInfo_ok ok
    exact .inr ⟨info, next, known, accepted, asked, sameChildren, becomes⟩

/-- The parent of a modified surface is the one that was named or the one it had. -/
theorem askedParent_cases (manager : Manager) {info : SurfaceInfo} {modifications : Modifications}
    {parent : SurfaceID}
    (asked : (manager.askedParent info modifications).bind manager.lock = some parent) :
    manager.namedParent modifications = some parent ∨ manager.lockParent info = some parent := by
  unfold askedParent at asked
  split at asked
  · rename_i named
    refine .inl ?_
    rw [namedParent, named]
    exact asked
  · split_ifs at asked
    · cases asked
    · exact .inr asked

theorem numbered_setInfo (numbered : manager.Numbered) {surface : SurfaceID}
    {info next : SurfaceInfo} (known : manager.surfaceInfo surface = some info)
    (below : ∀ parent, next.parent = some parent → parent < manager.made)
    (sameChildren : next.children = info.children) : (manager.setInfo surface next).Numbered := by
  refine ⟨fun other otherInfo registered => ?_, fun other otherInfo parent registered named => ?_,
    fun other otherInfo child registered member => ?_⟩
  all_goals
    rw [surfaceInfo_setInfo] at registered
    split_ifs at registered with same
  · exact same ▸ numbered.registered surface info known
  · exact numbered.registered other otherInfo registered
  · cases registered
    exact below parent named
  · exact numbered.parents other otherInfo parent registered named
  · cases registered
    rw [sameChildren] at member
    exact same ▸ numbered.children surface info child known member
  · exact numbered.children other otherInfo child registered member

theorem askedParent_made (numbered : manager.Numbered) {surface parent : SurfaceID}
    {info : SurfaceInfo} {modifications : Modifications}
    (known : manager.surfaceInfo surface = some info)
    (asked : manager.askedParent info modifications = some parent) : parent < manager.made := by
  unfold askedParent at asked
  split at asked
  · exact of_decide_eq_true (Option.filter_eq_some_iff.mp asked).2
  · split_ifs at asked
    exact numbered.parents surface info parent known asked

theorem modifySurface_acyclic (acyclic : Acyclic manager.HasParent) {surface : SurfaceID}
    {modifications : Modifications}
    (names : manager.NamesNoDescendant (.modifySurface surface modifications)) :
    Acyclic (manager.modifySurface surface modifications).1.HasParent := by
  rcases manager.modifySurface_cases surface modifications with
    same | ⟨info, next, known, accepted, asked, -, same⟩
  · rw [same]
    exact acyclic
  rw [same]
  have stillKnown : ∀ other, ((manager.setInfo surface next).surfaceInfo other).isSome = true →
      (manager.surfaceInfo other).isSome = true := by
    intro other registered
    rw [surfaceInfo_setInfo] at registered
    split_ifs at registered with isSurface
    · rw [isSurface, known]
      rfl
    · exact registered
  have edges : ∀ other above, (manager.setInfo surface next).HasParent other above →
      manager.HasParent other above ∨ other = surface ∧
        manager.namedParent modifications = some above ∧
          (manager.surfaceInfo above).isSome = true := by
    rintro other above ⟨otherInfo, registered, locked, aboveKnown⟩
    rw [surfaceInfo_setInfo] at registered
    split_ifs at registered with isSurface
    · cases registered
      have locked : (manager.askedParent info modifications).bind manager.lock = some above := by
        rw [← asked]
        exact locked
      rcases manager.askedParent_cases locked with named | old
      · exact .inr ⟨isSurface, named, stillKnown above aboveKnown⟩
      · exact .inl ⟨info, isSurface ▸ known, old, stillKnown above aboveKnown⟩
    · exact .inl ⟨otherInfo, registered, locked, stillKnown above aboveKnown⟩
  cases named : manager.namedParent modifications with
  | none =>
    refine acyclic.mono fun other above edge => ?_
    refine (edges other above edge).resolve_right fun new => ?_
    rw [named] at new
    cases new.2.1
  | some target =>
    by_cases targetKnown : (manager.surfaceInfo target).isSome = true
    · refine acyclic.redirect (fun other above edge => ?_)
        (names info known accepted target named targetKnown)
      refine (edges other above edge).imp_right fun new => ⟨new.1, ?_⟩
      rw [named] at new
      exact (Option.some.inj new.2.1).symm
    · refine acyclic.mono fun other above edge => ?_
      refine (edges other above edge).resolve_right fun new => ?_
      rw [named] at new
      exact targetKnown (Option.some.inj new.2.1 ▸ new.2.2)

/-! ### The recursions end -/

theorem infoFor_known {surface : SurfaceID} {info : SurfaceInfo}
    (known : manager.surfaceInfo surface = some info) : manager.infoFor surface = .ok info := by
  rw [infoFor, known]

/-- A walk down that has come to a surface has not come to its end. -/
theorem depth_pos {depth : Nat} {surface : SurfaceID}
    (inside : surface < manager.made ∨ 0 < depth) (enough : manager.made < surface + depth) :
    0 < depth := by
  rcases inside with isMade | positive
  · refine Nat.pos_of_ne_zero fun nothing => ?_
    rw [nothing] at enough
    exact Nat.lt_irrefl _ (Nat.lt_trans enough isMade)
  · exact positive

/-- Children are newer than their parents, so the walk down is no longer than there are
surfaces. -/
theorem addChildren_ends (numbered : manager.Numbered) (depth : Nat) {surface : SurfaceID}
    (inside : surface < manager.made ∨ 0 < depth) (enough : manager.made < surface + depth) :
    manager.addChildren depth surface ≠ .error .stackExhausted := by
  induction depth generalizing surface with
  | zero => exact absurd (depth_pos inside enough) (Nat.lt_irrefl 0)
  | succ depth inductionHypothesis =>
    rw [addChildren]
    cases known : manager.surfaceInfo surface with
    | none =>
      rw [infoFor, known]
      exact fun same => by cases same
    | some info =>
      rw [infoFor_known known]
      show (info.children.mapM (manager.addChildren depth) >>= _) ≠ _
      refine bind_ne_error (mapM_ne_error fun child member => ?_) fun below same => by cases same
      obtain ⟨newer, isMade⟩ := numbered.children surface info child known member
      exact inductionHypothesis (.inl isMade) (Tree.deeper enough newer)

theorem raiseTree_ends (numbered : manager.Numbered) (root : SurfaceID) :
    manager.raiseTree root ≠ .error .stackExhausted := by
  unfold raiseTree
  refine bind_ne_error (addChildren_ends numbered _ (.inr (Nat.succ_pos _)) ?_)
    fun below same => by cases same
  exact Nat.lt_of_lt_of_le (Nat.lt_succ_self _) (Nat.le_add_left _ root)

theorem moveTree_ends (numbered : manager.Numbered) (movement : Mir.Geometry.Point) (depth : Nat)
    {surface : SurfaceID} (inside : surface < manager.made ∨ 0 < depth)
    (enough : manager.made < surface + depth) (topLeft : SurfaceID → Mir.Geometry.Point) :
    manager.moveTree movement depth (some surface) topLeft ≠ .error .stackExhausted := by
  induction depth generalizing surface topLeft with
  | zero => exact absurd (depth_pos inside enough) (Nat.lt_irrefl 0)
  | succ depth inductionHypothesis =>
    rw [moveTree]
    cases known : manager.surfaceInfo surface with
    | none =>
      rw [infoFor, known]
      exact fun same => by cases same
    | some info =>
      rw [infoFor_known known]
      refine foldlM_ne_error (fun child member next => ?_) _
      obtain ⟨newer, isMade⟩ := numbered.children surface info child known member
      rw [lock]
      split_ifs
      · -- a child that is gone is dereferenced all the same
        have positive := depth_pos (.inl isMade) (Tree.deeper enough newer)
        obtain ⟨less, isSucc⟩ := Nat.exists_eq_succ_of_ne_zero (Nat.ne_of_gt positive)
        rw [isSucc]
        exact fun same => by cases same
      · exact inductionHypothesis (.inl isMade) (Tree.deeper enough newer) next

/-- The way from parent to parent is no longer than there are surfaces. -/
theorem selectActiveSurface_ends (numbered : manager.Numbered)
    (acyclic : Acyclic manager.HasParent) (depth : Nat) {surface : SurfaceID}
    {visited : List SurfaceID}
    (walk : (surface :: visited).Pairwise fun later earlier =>
      TransGen manager.HasParent earlier later)
    (inside : ∀ other ∈ visited, other < manager.made)
    (enough : manager.made < depth + visited.length) :
    manager.selectActiveSurface depth (some surface) ≠ .error .stackExhausted := by
  induction depth generalizing surface visited with
  | zero =>
    have short := acyclic.length_le (List.pairwise_cons.mp walk).2 inside
    rw [Nat.zero_add] at enough
    exact absurd enough (Nat.not_lt.mpr short)
  | succ depth inductionHypothesis =>
    rw [selectActiveSurface]
    cases known : manager.surfaceInfo surface with
    | none =>
      rw [infoFor, known]
      exact fun same => by cases same
    | some info =>
      rw [infoFor_known known]
      show (if info.canBeActive then _ else _) ≠ Except.error Failure.stackExhausted
      split_ifs
      · exact bind_ne_error (raiseTree_ends numbered surface) fun _ same => by cases same
      have inside' : ∀ other ∈ surface :: visited, other < manager.made := by
        intro other member
        rcases List.mem_cons.mp member with rfl | earlier
        · exact numbered.registered other info known
        · exact inside other earlier
      cases locked : manager.lockParent info with
      | none => exact fun same => by cases same
      | some parent =>
        show manager.selectActiveSurface depth (some parent) ≠ _
        by_cases parentKnown : (manager.surfaceInfo parent).isSome = true
        · have edge : manager.HasParent surface parent := ⟨info, known, locked, parentKnown⟩
          refine inductionHypothesis ?_ inside' (by rw [List.length_cons]; omega)
          refine List.pairwise_cons.mpr ⟨fun other member => ?_, walk⟩
          rcases List.mem_cons.mp member with rfl | earlier
          · exact .single edge
          · exact ((List.pairwise_cons.mp walk).1 other earlier).tail edge
        · have short := acyclic.length_le walk inside'
          rw [List.length_cons] at short
          obtain ⟨less, isSucc⟩ : ∃ less, depth = less + 1 :=
            Nat.exists_eq_succ_of_ne_zero (by omega)
          have unknown : manager.surfaceInfo parent = none := by simpa using parentKnown
          rw [isSucc, selectActiveSurface, infoFor, unknown]
          exact fun same => by cases same

/-! ### Runs -/

theorem shrinks_expire (manager : Manager) (surface : SurfaceID) :
    Shrinks manager (manager.expire surface) := by
  refine ⟨fun other info known => ⟨info, known, rfl, fun _ member => member⟩, rfl,
    fun other gone => ?_⟩
  by_cases same : other = surface
  · rw [same]
    exact Function.update_self _ _ _
  · exact (Function.update_of_ne same _ _).trans gone

theorem numbered_initial : initial.Numbered where
  registered _ _ known := by cases known
  parents _ _ _ known := by cases known
  children _ _ _ known := by cases known

theorem acyclic_initial : Acyclic initial.HasParent := by
  intro surface cycle
  obtain ⟨_, ⟨_, known, _⟩, _⟩ := Relation.TransGen.head'_iff.mp cycle
  cases known

theorem numbered_step (numbered : manager.Numbered) (op : Op) : (manager.step op).Numbered := by
  cases op with
  | addSession session => exact ⟨numbered.registered, numbered.parents, numbered.children⟩
  | removeSession session => exact ⟨numbered.registered, numbered.parents, numbered.children⟩
  | addSurface session type parent =>
    rcases manager.addSurface_cases session type parent with same | ⟨named, grows⟩
    · rw [step, same]
      exact numbered
    · exact grows.numbered numbered
  | modifySurface surface modifications =>
    rcases manager.modifySurface_cases surface modifications with
      same | ⟨info, next, known, -, asked, sameChildren, same⟩
    · rw [step, same]
      exact numbered
    · rw [step, same]
      refine numbered_setInfo numbered known (fun parent named => ?_) sameChildren
      exact askedParent_made numbered known (asked ▸ named)
  | removeSurface session surface answers =>
    exact (manager.shrinks_removeSurface session surface answers).numbered numbered
  | expire surface =>
    dsimp only [step]
    split_ifs
    · exact (manager.shrinks_expire surface).numbered numbered
    · exact numbered

theorem acyclic_step (numbered : manager.Numbered) (acyclic : Acyclic manager.HasParent) {op : Op}
    (names : manager.NamesNoDescendant op) : Acyclic (manager.step op).HasParent := by
  cases op with
  | addSession session => exact acyclic
  | removeSession session => exact acyclic
  | addSurface session type parent =>
    rcases manager.addSurface_cases session type parent with same | ⟨named, grows⟩
    · rw [step, same]
      exact acyclic
    · exact grows.acyclic numbered acyclic
  | modifySurface surface modifications => exact modifySurface_acyclic acyclic names
  | removeSurface session surface answers =>
    exact acyclic.mono (manager.shrinks_removeSurface session surface answers).hasParent
  | expire surface =>
    dsimp only [step]
    split_ifs
    · exact acyclic.mono (manager.shrinks_expire surface).hasParent
    · exact acyclic

/-! ### A descendant as the parent -/

theorem rejects_of_error {info : SurfaceInfo} {modifications : Modifications} {failure : Failure}
    (failed : manager.modifiedInfo info modifications = .error failure) :
    manager.rejects info modifications = true := by
  obtain ⟨newParent, newType⟩ := modifications
  cases newType with
  | none => cases newParent <;> cases failed
  | some newType =>
    unfold rejects askedParent losesParent
    cases newParent with
    | none =>
      dsimp only [modifiedInfo] at failed
      split_ifs at failed with same morphs parentless set needs
      · simp [same, morphs]
      · cases set
      · have noNeed : mustNotHaveParent newType = false := Bool.eq_false_iff.mpr parentless
        simp only [ne_eq, same, not_false_eq_true, decide_true, Bool.true_and, noNeed,
          Bool.false_eq_true, if_false, Bool.or_eq_true]
        exact .inr needs
    | some parent =>
      dsimp only [modifiedInfo] at failed
      rw [canMorphTo_parent] at failed
      split_ifs at failed with same morphs parentless set needs
      · simp [same, morphs]
      · simp [same, parentless]
      · have noNeed : mustNotHaveParent newType = false := Bool.eq_false_iff.mpr parentless
        simp only [ne_eq, same, not_false_eq_true, decide_true, Bool.true_and, noNeed,
          Bool.false_eq_true, if_false, Bool.or_eq_true]
        exact .inr needs

/-- The modified surface has the parent that was named, and the others are as they were. -/
theorem hasParent_modifySurface {surface parent : SurfaceID} {info : SurfaceInfo}
    {modifications : Modifications} (known : manager.surfaceInfo surface = some info)
    (accepted : manager.rejects info modifications = false)
    (named : manager.namedParent modifications = some parent)
    (parentKnown : (manager.surfaceInfo parent).isSome = true) :
    (manager.modifySurface surface modifications).1.HasParent surface parent ∧
      ∀ other above, other ≠ surface → manager.HasParent other above →
        (manager.modifySurface surface modifications).1.HasParent other above := by
  have still : ∀ (next : SurfaceInfo) other, (manager.surfaceInfo other).isSome = true →
      ((manager.setInfo surface next).surfaceInfo other).isSome = true := by
    intro next other registered
    rw [surfaceInfo_setInfo]
    split_ifs
    · rfl
    · exact registered
  cases modified : manager.modifiedInfo info modifications with
  | error failure =>
    rw [rejects_of_error modified] at accepted
    cases accepted
  | ok next =>
    obtain ⟨-, asked, -⟩ := modifiedInfo_ok modified
    have result : (manager.modifySurface surface modifications).1 =
        manager.setInfo surface next := by
      unfold modifySurface
      rw [known]
      dsimp only
      rw [modified]
    rw [result]
    refine ⟨⟨next, by rw [surfaceInfo_setInfo, if_pos rfl], ?_, still next parent parentKnown⟩,
      fun other above different edge => ?_⟩
    · show next.parent.bind manager.lock = some parent
      unfold namedParent at named
      unfold askedParent at asked
      cases given : modifications.parent with
      | none =>
        rw [given] at named
        cases named
      | some reference =>
        rw [given] at named asked
        rw [asked]
        exact named
    · obtain ⟨otherInfo, registered, locked, aboveKnown⟩ := edge
      refine ⟨otherInfo, ?_, locked, still next above aboveKnown⟩
      rw [surfaceInfo_setInfo, if_neg different]
      exact registered

/-- A modification that names the surface or a descendant makes a cycle. -/
theorem cycle_of_descendant {op : Op} (names : ¬ manager.NamesNoDescendant op) :
    ¬ Acyclic (manager.step op).HasParent := by
  cases op with
  | modifySurface surface modifications =>
    intro acyclic
    refine names fun info known accepted parent named parentKnown walk => ?_
    obtain ⟨edge, others⟩ := hasParent_modifySurface known accepted named parentKnown
    -- the way up from the parent as far as the first time it comes to the surface
    have still : ReflTransGen (manager.modifySurface surface modifications).1.HasParent
        parent surface := by
      clear edge parentKnown named
      induction walk using ReflTransGen.head_induction_on with
      | refl => exact .refl
      | @head here above first _ inductionHypothesis =>
        by_cases arrived : here = surface
        · rw [arrived]
        · exact .head (others here above arrived first) inductionHypothesis
    exact acyclic surface (TransGen.head' edge still)
  | _ => exact absurd trivial names

/-- In every run in which no accepted modification names the surface itself or one of its
descendants as the parent, the parents form no cycle, and selecting the active surface, moving
and raising a tree end. A modification that does name one makes a cycle. -/
theorem parents_stay_acyclic {manager : Manager}
    (reached : Transition.Reaches Manager.step NamesNoDescendant initial manager) :
    Acyclic manager.HasParent ∧
    (∀ surface, manager.selectActiveSurface (manager.made + 1) surface ≠
      .error .stackExhausted) ∧
    (∀ root, manager.raiseTree root ≠ .error .stackExhausted) ∧
    (∀ movement root topLeft, manager.moveTree movement (manager.made + 1) root topLeft ≠
      .error .stackExhausted) ∧
    ∀ op, ¬ manager.NamesNoDescendant op → ¬ Acyclic (manager.step op).HasParent := by
  have numbered : manager.Numbered := reached.invariant numbered_initial
    fun _ op before _ => numbered_step before op
  have acyclic : Acyclic manager.HasParent := by
    refine reached.invariant_with (fun other run => ?_) acyclic_initial
      fun _ _ known before names => acyclic_step known before names
    exact run.invariant numbered_initial fun _ op before _ => numbered_step before op
  refine ⟨acyclic, fun surface => ?_, raiseTree_ends numbered, fun movement root topLeft => ?_,
    fun op => cycle_of_descendant⟩
  · cases surface with
    | none => exact fun same => by cases same
    | some surface =>
      exact selectActiveSurface_ends numbered acyclic _ (List.pairwise_singleton _ surface)
        (fun _ member => by cases member) (Nat.lt_succ_self _)
  · cases root with
    | none => exact fun same => by cases same
    | some root =>
      exact moveTree_ends numbered movement _ (.inr (Nat.succ_pos _))
        (Nat.lt_of_lt_of_le (Nat.lt_succ_self _) (Nat.le_add_left _ root)) topLeft

/-- Two windows and a dialog of the first. -/
private def dialogShown : List Op :=
  [.addSession 0, .addSurface 0 (some .normal) none, .addSurface 0 (some .normal) none,
    .addSurface 0 (some .dialog) (some 0)]

/-- The dialog moves from the first window to the second, from which no way leads up. -/
theorem parents_stay_acyclic_after_move :
    Acyclic ((dialogShown.foldl step initial).step
        (.modifySurface 2 ⟨some (some 1), none⟩)).HasParent ∧
      ((dialogShown.foldl step initial).step
        (.modifySurface 2 ⟨some (some 1), none⟩)).surfaceInfo 2 =
          some ⟨.dialog, 0, some 1, []⟩ := by
  have shown : Transition.Reaches step NamesNoDescendant initial (dialogShown.foldl step initial) :=
    Transition.Reaches.start.foldl dialogShown ⟨trivial, trivial, trivial, trivial, trivial⟩
  have moved : (dialogShown.foldl step initial).NamesNoDescendant
      (.modifySurface 2 ⟨some (some 1), none⟩) := by
    intro info _ _ parent named _ walk
    have second : some 1 = some parent := named
    cases second
    obtain same | ⟨above, ⟨window, known, locked, -⟩, -⟩ := ReflTransGen.cases_head walk
    · cases same
    · have isWindow : some (⟨.normal, 0, none, []⟩ : SurfaceInfo) = some window := known
      cases isWindow
      cases locked
  exact ⟨(parents_stay_acyclic (shown.step _ moved)).1, by decide⟩

/-- A tip below a window is given itself as its parent. -/
private def tipBelowItself : List Op :=
  [.addSession 0, .addSurface 0 (some .normal) none, .addSurface 0 (some .tip) (some 0),
    .modifySurface 1 ⟨some (some 1), none⟩]

theorem selectActiveSurface_never_ends (depth : Nat) :
    (tipBelowItself.foldl step initial).selectActiveSurface depth (some 1) =
      .error .stackExhausted := by
  induction depth with
  | zero => rfl
  | succ depth inductionHypothesis => exact inductionHypothesis

/-- The tip is its own parent, and the search for a surface to be active goes on without end. -/
theorem tip_below_itself :
    (¬ ∀ manager, Transition.Reaches step (fun _ _ => True) initial manager →
      Acyclic manager.HasParent) ∧
    ¬ ∀ manager, Transition.Reaches step (fun _ _ => True) initial manager →
      ∀ surface, ∃ depth, manager.selectActiveSurface depth surface ≠ .error .stackExhausted := by
  have reached : Transition.Reaches step (fun _ _ => True) initial
      (tipBelowItself.foldl step initial) :=
    Transition.Reaches.start.foldl tipBelowItself (by decide)
  refine ⟨fun claimed => ?_, fun claimed => ?_⟩
  · have own : (tipBelowItself.foldl step initial).HasParent 1 1 :=
      ⟨⟨.tip, 0, some 1, []⟩, by decide, by decide, by decide⟩
    exact claimed _ reached 1 (.single own)
  · obtain ⟨depth, returns⟩ := claimed _ reached (some 1)
    exact returns (selectActiveSurface_never_ends depth)

end Mir.Shell.Manager

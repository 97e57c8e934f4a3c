/-
This file proves that another surface can become active when one is removed, and that the focus
then is where the active surface is. The surface that is selected may be one that cannot be active,
so its parent is tried, and the surface that becomes active is raised with all that is below it.
That goes through if the parents that are tried are registered and lead in no circle, and if what
is below any surface is registered.
-/

import Mathlib.Data.List.TakeWhile
import Mir.Shell.ShellRuns

namespace Mir.Shell.AbstractShell

open Relation

variable {shell before after : AbstractShell} {session home : SessionID}
variable {there : SurfaceID → Prop}

/-- If the session has the focus, the active surface is one of its own. -/
def HomeFocus (session : SessionID) (shell : AbstractShell) : Prop :=
  shell.focusSession = some session →
    ∃ active ∈ shell.surfaces session, shell.activeSurface = some active

/-- The surfaces in `there` can be selected: the parent of one that cannot be active is one of them
too, parents lead in no circle, and children are registered. -/
structure Selectable (shell : AbstractShell) (there : SurfaceID → Prop) : Prop where
  registered : ∀ surface, there surface → (shell.manager.surfaceInfo surface).isSome = true
  parents : ∀ surface info parent, there surface → shell.manager.surfaceInfo surface = some info →
    info.canBeActive = false → shell.manager.lockParent info = some parent → there parent
  acyclic : Acyclic shell.manager.HasParent
  children : ∀ surface info, shell.manager.surfaceInfo surface = some info →
    ∀ child ∈ info.children, (shell.manager.surfaceInfo child).isSome = true

/-! ### A surface is selected -/

theorem Selectable.moved (selectable : before.Selectable there) (moves : FocusMoves before after) :
    after.Selectable there := by
  have sameParents : after.manager.HasParent = before.manager.HasParent := by
    funext surface parent
    rw [Manager.HasParent, Manager.HasParent, moves.surfaceInfo, moves.lockParent]
  refine ⟨?_, ?_, ?_, ?_⟩
  · rw [moves.surfaceInfo]
    exact selectable.registered
  · rw [moves.surfaceInfo, moves.lockParent]
    exact selectable.parents
  · rw [sameParents]
    exact selectable.acyclic
  · rw [moves.surfaceInfo]
    exact selectable.children

theorem Selectable.raiseTree_ok (selectable : shell.Selectable there) (recorded : shell.Recorded)
    {root : SurfaceID} {info : SurfaceInfo}
    (known : shell.manager.surfaceInfo root = some info) :
    ∃ surfaces, shell.manager.raiseTree root = .ok surfaces := by
  have below : ∀ surface, (shell.manager.surfaceInfo surface).isSome = true →
      surface < shell.manager.made ∧ ∃ info, shell.manager.surfaceInfo surface = some info ∧
        ∀ child ∈ info.children,
          (shell.manager.surfaceInfo child).isSome = true ∧ surface < child := by
    intro surface registered
    obtain ⟨info, known⟩ := Option.isSome_iff_exists.mp registered
    refine ⟨recorded.numbered.registered surface info known, info, known, fun child member => ?_⟩
    exact ⟨selectable.children surface info known child member,
      (recorded.numbered.children surface info child known member).1⟩
  exact Manager.raiseTree_ok below (Option.isSome_of_eq_some known)

/-- Selecting a surface goes through. Either a surface of the same session becomes active and the
session has the focus, or nothing changes. The walk from parent to parent is no longer than there
are surfaces. -/
theorem selectActiveSurface_ok (recorded : shell.Recorded) (selectable : shell.Selectable there)
    (isOpen : home ∈ shell.sessions) (depth : Nat) {surface : SurfaceID}
    {visited : List SurfaceID}
    (walk : (surface :: visited).Pairwise fun later earlier =>
      TransGen shell.manager.HasParent earlier later)
    (inside : ∀ other ∈ visited, other < shell.manager.made)
    (enough : shell.manager.made < depth + visited.length) (isThere : there surface)
    (noted : shell.sessionOf surface = some home)
    (locked : shell.manager.lock surface = some surface) :
    (shell.selectActiveSurface depth (some surface)).2 = .ok () ∧
      ((shell.selectActiveSurface depth (some surface)).1 = shell ∨
        ∃ active, there active ∧ shell.sessionOf active = some home ∧
          shell.manager.lock active = some active ∧
          (shell.selectActiveSurface depth (some surface)).1.focusSession = some home ∧
          (shell.selectActiveSurface depth (some surface)).1.manager.activeSurface =
            some active) := by
  induction depth generalizing surface visited with
  | zero =>
    have short := selectable.acyclic.length_le (List.pairwise_cons.mp walk).2 inside
    rw [Nat.zero_add] at enough
    exact absurd enough (Nat.not_lt.mpr short)
  | succ depth inductionHypothesis =>
    obtain ⟨info, known, isHome⟩ := Option.map_eq_some_iff.mp noted
    rw [selectActiveSurface, known]
    dsimp only
    split_ifs with active
    · obtain ⟨raised, isRaised⟩ := selectable.raiseTree_ok recorded known
      have isRaised : (shell.setFocusTo (shell.lockSession info.session)
          (some surface)).manager.raiseTree surface = .ok raised := isRaised
      rw [isRaised]
      refine ⟨rfl, .inr ⟨surface, isThere, noted, locked, ?_, rfl⟩⟩
      rw [isHome, lockSession, if_pos isOpen]
      exact shell.focusSession_setFocusTo home (some surface)
    · cases isParent : shell.manager.lockParent info with
      | none => exact ⟨rfl, .inl rfl⟩
      | some parent =>
        have cannot := Bool.eq_false_iff.mpr active
        have parentThere := selectable.parents surface info parent isThere known cannot isParent
        have registered := selectable.registered parent parentThere
        obtain ⟨parentInfo, parentKnown⟩ := Option.isSome_iff_exists.mp registered
        have parentNoted := sessionOf_of_known parentKnown
        have atHome := recorded.atHome surface info parent _ known cannot isParent parentNoted
        obtain ⟨named, -, parentLocked⟩ := Option.bind_eq_some_iff.mp isParent
        rw [(Manager.lock_eq_some_iff.mp parentLocked).1] at parentLocked
        have enoughStill : shell.manager.made < depth + (surface :: visited).length := by
          rw [List.length_cons]
          omega
        refine inductionHypothesis ?_ (fun other member => ?_) enoughStill parentThere
          (by rw [parentNoted, atHome, isHome]) parentLocked
        · refine List.pairwise_cons.mpr ⟨fun other member => ?_, walk⟩
          have edge : shell.manager.HasParent surface parent :=
            ⟨info, known, isParent, registered⟩
          rcases List.mem_cons.mp member with rfl | earlier
          · exact .single edge
          · exact ((List.pairwise_cons.mp walk).1 other earlier).tail edge
        · rcases List.mem_cons.mp member with rfl | earlier
          · exact recorded.numbered.registered other info known
          · exact inside other earlier

/-- An open session has a successor, and so has none. -/
theorem successorOf_focused (shell : AbstractShell) :
    ∃ next, shell.successorOf shell.focusedSession = .ok next := by
  cases focused : shell.focusedSession with
  | none => exact ⟨_, rfl⟩
  | some session =>
    obtain ⟨other, -, locked⟩ := Option.bind_eq_some_iff.mp focused
    have isOpen := (lockSession_eq_some_iff.mp locked).2
    rw [successorOf]
    split
    · rename_i notThere
      have differs := List.dropWhile_eq_nil_iff.mp notThere session isOpen
      exact absurd rfl (of_decide_eq_true differs)
    · exact ⟨_, rfl⟩
    · exact ⟨_, rfl⟩

/-- The focus goes to the default surface of an open session, or nowhere. -/
theorem focusNextSession_cases (shell : AbstractShell) :
    shell.focusNextSession = (shell.setFocusTo none none, .ok ()) ∨
      ∃ next ∈ shell.sessions, ∃ surface, shell.defaultSurface next = some surface ∧
        shell.focusNextSession = (shell.setFocusTo (some next) (some surface), .ok ()) := by
  obtain ⟨successor, isSuccessor⟩ := shell.successorOf_focused
  unfold focusNextSession
  rw [isSuccessor]
  cases successor with
  | none => exact .inl rfl
  | some successor =>
    dsimp only
    split
    · exact .inl rfl
    · rename_i next found
      have has : (shell.defaultSurface next).isSome = true := by simpa using List.find?_some found
      obtain ⟨surface, isDefault⟩ := Option.isSome_iff_exists.mp has
      refine .inr ⟨next, ?_, surface, isDefault, by rw [isDefault]⟩
      rcases List.mem_append.mp (List.mem_of_find?_eq_some found) with later | earlier
      · exact (List.dropWhile_sublist _).mem later
      · exact (List.takeWhile_sublist _).mem earlier

theorem focusedSurface_setFocusTo (shell : AbstractShell) (session : Option SessionID)
    {surface : Option SurfaceID} (locked : surface.bind shell.manager.lock = surface) :
    (shell.setFocusTo session surface).focusedSurface = surface := by
  show (if surface ≠ shell.focusedSurface then surface else shell.focusSurface).bind
    shell.manager.lock = surface
  split_ifs with different
  · exact locked
  · exact (not_not.mp different).symm

theorem homeFocus_of_active {active : SurfaceID} (member : active ∈ shell.surfaces session)
    (locked : shell.manager.lock active = some active)
    (isActive : shell.manager.activeSurface = some active) : HomeFocus session shell := by
  refine fun _ => ⟨active, member, activeSurface_locked ?_⟩
  rw [isActive]
  exact locked

theorem homeFocus_of_default {surface : SurfaceID} (isOpen : session ∈ shell.sessions)
    (member : surface ∈ shell.surfaces session)
    (inactive : shell.manager.activeSurface = none) : HomeFocus session shell := by
  intro focused
  obtain ⟨first, isFirst⟩ : ∃ first, (shell.surfaces session).head? = some first :=
    Option.isSome_iff_exists.mp (List.isSome_head?.mpr (List.ne_nil_of_mem member))
  refine ⟨first, List.mem_of_head? isFirst, ?_⟩
  rw [activeSurface_unlocked isOpen focused (by rw [inactive]; rfl), isFirst]

/-- After a surface of a session is selected, the focus is not with another session while one of
this session's surfaces is active. -/
theorem homeFocus_select (recorded : shell.Recorded) (selectable : shell.Selectable there)
    (own : ∀ other, there other → shell.sessionOf other = some session →
      other ∈ shell.surfaces session)
    (isOpen : home ∈ shell.sessions) {surface : SurfaceID} (isThere : there surface)
    (noted : shell.sessionOf surface = some home)
    (locked : shell.manager.lock surface = some surface)
    (inactive : shell.manager.activeSurface = none)
    (focus : home = session ∨ shell.focusSession ≠ some session) :
    (shell.select (some surface)).2 = .ok () ∧
      HomeFocus session (shell.select (some surface)).1 := by
  obtain ⟨ok, ended⟩ := selectActiveSurface_ok recorded selectable isOpen
    (shell.manager.made + 1) (List.pairwise_singleton _ _) (fun _ member => by cases member)
    (Nat.lt_succ_self _) isThere noted locked
  refine ⟨ok, ?_⟩
  rcases ended with same | ⟨active, activeThere, activeNoted, activeLocked, focused, isActive⟩
  · rw [select, same]
    rcases focus with rfl | elsewhere
    · exact homeFocus_of_default isOpen (own surface isThere noted) inactive
    · exact fun focused => absurd focused elsewhere
  · have moves : FocusMoves shell (shell.select (some surface)).1 :=
      moves_selectActiveSurface shell _ _
    by_cases isHome : home = session
    · rw [isHome] at activeNoted
      refine homeFocus_of_active ?_ ?_ isActive
      · rw [moves.surfaces]
        exact own active activeThere activeNoted
      · rw [moves.lock]
        exact activeLocked
    · intro other
      exact absurd (Option.some.inj (focused.symm.trans other)) isHome

/-- When the active surface of a session is discarded and another becomes active, then nothing is
thrown and the focus is where the active surface is. -/
theorem activateNext_spec (recorded : shell.Recorded) (selectable : shell.Selectable there)
    (all : ∀ home, ∀ surface ∈ shell.surfaces home, there surface)
    (own : ∀ other, there other → shell.sessionOf other = some session →
      other ∈ shell.surfaces session) (isOpen : session ∈ shell.sessions) :
    (shell.activateNext session).2 = .ok () ∧
      HomeFocus session (shell.activateNext session).1 := by
  have inactive : (shell.setActive none).Recorded :=
    recorded.moved (shell.moves_setActive none) recorded.settled
  have selectableStill := selectable.moved (shell.moves_setActive none)
  unfold activateNext
  dsimp only
  split
  · have focused := inactive.focusNextSession
    have moves := (shell.setActive none).moves_focusNextSession
    rcases (shell.setActive none).focusNextSession_cases with
      same | ⟨next, isOpenNext, surface, isDefault, same⟩
    · rw [same]
      dsimp only
      rw [focusedSurface_setFocusTo _ none rfl]
      exact ⟨rfl, fun still => absurd still (focusSession_setFocusTo_none isOpen none)⟩
    · rw [same] at focused moves ⊢
      dsimp only
      have member : surface ∈ (shell.setActive none).surfaces next := List.mem_of_head? isDefault
      have locked : (some surface).bind (shell.setActive none).manager.lock = some surface :=
        inactive.locked member
      rw [focusedSurface_setFocusTo _ (some next) locked]
      refine homeFocus_select focused (selectableStill.moved moves) own isOpenNext
        (all next surface member) (recorded.owner next surface member) locked rfl ?_
      by_cases isSession : next = session
      · exact .inl isSession
      · refine .inr fun still => isSession ?_
        rw [focusSession_setFocusTo] at still
        exact Option.some.inj still
  · rename_i surfaces first rest listed
    have listed : (shell.manager.sessionInfo session).getD [] = first :: rest := listed
    have member : first ∈ (shell.setActive none).surfaces session := by
      cases isListed : shell.manager.sessionInfo session with
      | none =>
        rw [isListed] at listed
        cases listed
      | some surfaces =>
        rw [isListed, Option.getD_some] at listed
        refine (recorded.listed session surfaces isListed).2 first ?_
        rw [listed]
        exact List.mem_cons_self
    have locked := inactive.locked member
    rw [locked]
    exact homeFocus_select inactive selectableStill own isOpen (all session first member)
      (recorded.owner session first member) locked rfl (.inl rfl)

end Mir.Shell.AbstractShell

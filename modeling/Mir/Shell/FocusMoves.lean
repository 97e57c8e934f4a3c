/-
This file says what moving the focus does to the shell: the focus, the active surface and the order
of the stack change, and nothing else. A surface that has the focus belongs to the session that
has it.
-/

import Mir.Shell.AbstractShell

namespace Mir.Shell.AbstractShell

variable {shell before after : AbstractShell}

/-- The session that the window manager has noted for a surface. -/
def sessionOf (shell : AbstractShell) (surface : SurfaceID) : Option SessionID :=
  (shell.manager.surfaceInfo surface).map SurfaceInfo.session

/-- The surface that has the focus was made; if it can be locked and its owner is open, the owner
has the focus. -/
def FocusSettled (owner : SurfaceID → Option SessionID) (shell : AbstractShell) : Prop :=
  ∀ surface, shell.focusSurface = some surface → surface < shell.manager.made ∧
    ∀ session, shell.manager.lock surface = some surface → owner surface = some session →
      session ∈ shell.sessions → shell.focusSession = some session

/-! ### What stays as it was -/

/-- At most the focus, the active surface and the order of the stack are other ones. -/
structure FocusMoves (before after : AbstractShell) : Prop where
  surfaceInfo : after.manager.surfaceInfo = before.manager.surfaceInfo
  sessionInfo : after.manager.sessionInfo = before.manager.sessionInfo
  made : after.manager.made = before.manager.made
  destroyed : after.manager.destroyed = before.manager.destroyed
  expired : after.manager.expired = before.manager.expired
  sessions : after.sessions = before.sessions
  opened : after.opened = before.opened
  surfaces : after.surfaces = before.surfaces
  stack : after.stack.Perm before.stack

namespace FocusMoves

theorem refl (shell : AbstractShell) : FocusMoves shell shell :=
  ⟨rfl, rfl, rfl, rfl, rfl, rfl, rfl, rfl, .refl _⟩

theorem trans {middle : AbstractShell} (early : FocusMoves before middle)
    (late : FocusMoves middle after) : FocusMoves before after :=
  ⟨late.surfaceInfo.trans early.surfaceInfo, late.sessionInfo.trans early.sessionInfo,
    late.made.trans early.made, late.destroyed.trans early.destroyed,
    late.expired.trans early.expired, late.sessions.trans early.sessions,
    late.opened.trans early.opened, late.surfaces.trans early.surfaces,
    late.stack.trans early.stack⟩

theorem lock (moves : FocusMoves before after) : after.manager.lock = before.manager.lock := by
  funext surface
  rw [Manager.lock, Manager.lock, moves.expired]

theorem sessionOf (moves : FocusMoves before after) : after.sessionOf = before.sessionOf := by
  funext surface
  rw [AbstractShell.sessionOf, AbstractShell.sessionOf, moves.surfaceInfo]

theorem lockParent (moves : FocusMoves before after) :
    after.manager.lockParent = before.manager.lockParent := by
  funext info
  rw [Manager.lockParent, Manager.lockParent, moves.lock]

end FocusMoves

theorem moves_setFocusTo (shell : AbstractShell) (session : Option SessionID)
    (surface : Option SurfaceID) : FocusMoves shell (shell.setFocusTo session surface) :=
  ⟨rfl, rfl, rfl, rfl, rfl, rfl, rfl, rfl, .refl _⟩

theorem moves_setActive (shell : AbstractShell) (surface : Option SurfaceID) :
    FocusMoves shell (shell.setActive surface) :=
  ⟨rfl, rfl, rfl, rfl, rfl, rfl, rfl, rfl, .refl _⟩

theorem moves_raise (shell : AbstractShell) (surfaces : List SurfaceID) :
    FocusMoves shell (shell.raise surfaces) := by
  refine ⟨rfl, rfl, rfl, rfl, rfl, rfl, rfl, rfl, ?_⟩
  refine List.perm_append_comm.trans ?_
  simpa using List.filter_append_perm (· ∈ surfaces) shell.stack

theorem moves_selectActiveSurface (shell : AbstractShell) (depth : Nat)
    (surface : Option SurfaceID) :
    FocusMoves shell (shell.selectActiveSurface depth surface).1 := by
  induction depth generalizing surface with
  | zero => exact .refl shell
  | succ depth inductionHypothesis =>
    cases surface with
    | none =>
      rw [selectActiveSurface]
      split
      · exact (shell.moves_setFocusTo none none).trans (moves_setActive _ none)
      · exact shell.moves_setActive none
    | some surface =>
      rw [selectActiveSurface]
      split
      · exact .refl shell
      · rename_i info known
        split_ifs
        · dsimp only
          have focused := shell.moves_setFocusTo (shell.lockSession info.session) (some surface)
          split
          · exact focused
          · exact focused.trans ((moves_raise _ _).trans (moves_setActive _ _))
        · split
          · exact inductionHypothesis _
          · exact .refl shell

theorem moves_focusNextSession (shell : AbstractShell) :
    FocusMoves shell shell.focusNextSession.1 := by
  unfold focusNextSession
  split
  · exact .refl shell
  · exact shell.moves_setFocusTo none none
  · split
    · exact shell.moves_setFocusTo none none
    · exact shell.moves_setFocusTo _ _

theorem moves_activateNext (shell : AbstractShell) (session : SessionID) :
    FocusMoves shell (shell.activateNext session).1 := by
  have inactive := shell.moves_setActive none
  unfold activateNext
  dsimp only
  split
  · split
    · exact inactive.trans (moves_focusNextSession _)
    · exact (inactive.trans (moves_focusNextSession _)).trans (moves_selectActiveSurface _ _ _)
  · exact inactive.trans (moves_selectActiveSurface _ _ _)

/-! ### Where the focus goes -/

theorem lockSession_eq_some_iff {session other : SessionID} :
    shell.lockSession session = some other ↔ session = other ∧ other ∈ shell.sessions := by
  unfold lockSession
  split_ifs with isOpen
  · rw [Option.some_inj]
    exact ⟨fun same => ⟨same, same ▸ isOpen⟩, And.left⟩
  · refine ⟨fun impossible => (by cases impossible), fun ⟨same, known⟩ => ?_⟩
    exact absurd (same ▸ known) isOpen

theorem focusSession_of_focused {session : SessionID}
    (focused : shell.focusedSession = some session) : shell.focusSession = some session := by
  obtain ⟨other, isOther, locked⟩ := Option.bind_eq_some_iff.mp focused
  rw [isOther, (lockSession_eq_some_iff.mp locked).1]

theorem focused_of_focusSession {session : SessionID} (isOpen : session ∈ shell.sessions)
    (focused : shell.focusSession = some session) : shell.focusedSession = some session := by
  rw [focusedSession, focused, Option.bind_some, lockSession, if_pos isOpen]

theorem activeSurface_locked {surface : SurfaceID}
    (locked : shell.manager.activeSurface.bind shell.manager.lock = some surface) :
    shell.activeSurface = some surface := by
  rw [activeSurface, Manager.activeSurfaceOr, locked]

/-- The default surface of the session that has the focus stands in for the active surface. -/
theorem activeSurface_unlocked {session : SessionID} (isOpen : session ∈ shell.sessions)
    (focused : shell.focusSession = some session)
    (unlocked : shell.manager.activeSurface.bind shell.manager.lock = none) :
    shell.activeSurface = (shell.surfaces session).head? := by
  rw [activeSurface, Manager.activeSurfaceOr, unlocked, focused_of_focusSession isOpen focused]
  rfl

/-- The session that is asked for has the focus. -/
theorem focusSession_setFocusTo (shell : AbstractShell) (session : SessionID)
    (surface : Option SurfaceID) :
    (shell.setFocusTo (some session) surface).focusSession = some session := by
  show (if some session ≠ shell.focusedSession then some session else shell.focusSession) = _
  split_ifs with different
  · rfl
  · exact focusSession_of_focused (not_not.mp different).symm

/-- An open session that had the focus loses it. -/
theorem focusSession_setFocusTo_none {session : SessionID} (isOpen : session ∈ shell.sessions)
    (surface : Option SurfaceID) :
    (shell.setFocusTo none surface).focusSession ≠ some session := by
  intro focused
  have focused : (if none ≠ shell.focusedSession then none else shell.focusSession) =
      some session := focused
  split_ifs at focused with different
  rw [focused_of_focusSession isOpen focused] at different
  exact different (by simp)

theorem focusedSurface_eq_some {surface : SurfaceID} (focused : shell.focusSurface = some surface)
    (locked : shell.manager.lock surface = some surface) :
    shell.focusedSurface = some surface := by
  rw [focusedSurface, focused, Option.bind_some, locked]

theorem settled_setFocusTo {owner : SurfaceID → Option SessionID} {session : Option SessionID}
    {surface : Option SurfaceID} (settled : FocusSettled owner shell)
    (made : ∀ other ∈ surface, other < shell.manager.made)
    (owned : ∀ other ∈ surface, ∀ home, owner other = some home → home ∈ shell.sessions →
      session = some home) :
    FocusSettled owner (shell.setFocusTo session surface) := by
  intro other focused
  have focused : (if surface ≠ shell.focusedSurface then surface else shell.focusSurface) =
      some other := focused
  split_ifs at focused with different
  · refine ⟨made other focused, fun home locked isOwner isOpen => ?_⟩
    rw [owned other focused home isOwner isOpen]
    exact shell.focusSession_setFocusTo home surface
  · refine ⟨(settled other focused).1, fun home locked isOwner isOpen => ?_⟩
    have asked : surface = some other := by
      rw [not_not.mp different]
      exact focusedSurface_eq_some focused locked
    rw [owned other asked home isOwner isOpen]
    exact shell.focusSession_setFocusTo home surface

theorem settled_setFocusTo_none {owner : SurfaceID → Option SessionID}
    (settled : FocusSettled owner shell) : FocusSettled owner (shell.setFocusTo none none) :=
  settled_setFocusTo settled (fun other member => by cases member)
    fun other member => by cases member

/-- The surfaces that are noted were made, and their owner is the session they are noted for. -/
def Extends (owner : SurfaceID → Option SessionID) (shell : AbstractShell) : Prop :=
  ∀ surface session, shell.sessionOf surface = some session →
    surface < shell.manager.made ∧ owner surface = some session

theorem sessionOf_of_known {surface : SurfaceID} {info : SurfaceInfo}
    (known : shell.manager.surfaceInfo surface = some info) :
    shell.sessionOf surface = some info.session := by
  rw [sessionOf, known]
  rfl

theorem settled_selectActiveSurface {owner : SurfaceID → Option SessionID}
    (extend : Extends owner shell) (settled : FocusSettled owner shell) (depth : Nat)
    (surface : Option SurfaceID) :
    FocusSettled owner (shell.selectActiveSurface depth surface).1 := by
  induction depth generalizing surface with
  | zero => exact settled
  | succ depth inductionHypothesis =>
    cases surface with
    | none =>
      rw [selectActiveSurface]
      split
      · exact settled_setFocusTo_none settled
      · exact settled
    | some surface =>
      rw [selectActiveSurface]
      split
      · exact settled
      · rename_i info known
        obtain ⟨made, noted⟩ := extend surface info.session (sessionOf_of_known known)
        have focused : FocusSettled owner
            (shell.setFocusTo (shell.lockSession info.session) (some surface)) := by
          refine settled_setFocusTo settled (fun other isSurface => ?_)
            fun other isSurface home isOwner isOpen => ?_
          · cases isSurface
            exact made
          · cases isSurface
            have same : info.session = home := Option.some.inj (noted.symm.trans isOwner)
            exact lockSession_eq_some_iff.mpr ⟨same, isOpen⟩
        split_ifs
        · dsimp only
          split
          · exact focused
          · exact focused
        · split
          · exact inductionHypothesis _
          · exact settled

theorem settled_focusNextSession {owner : SurfaceID → Option SessionID}
    (owned : ∀ session, ∀ surface ∈ shell.surfaces session,
      surface < shell.manager.made ∧ owner surface = some session)
    (settled : FocusSettled owner shell) : FocusSettled owner shell.focusNextSession.1 := by
  unfold focusNextSession
  split
  · exact settled
  · exact settled_setFocusTo_none settled
  · split
    · exact settled_setFocusTo_none settled
    · rename_i first isNext session found
      refine settled_setFocusTo settled (fun other isDefault => ?_)
        fun other isDefault home isOwner isOpen => ?_
      · exact (owned session other (List.mem_of_head? isDefault)).1
      · exact (owned session other (List.mem_of_head? isDefault)).2.symm.trans isOwner

theorem settled_activateNext {owner : SurfaceID → Option SessionID}
    (extend : Extends owner shell)
    (owned : ∀ session, ∀ surface ∈ shell.surfaces session,
      surface < shell.manager.made ∧ owner surface = some session)
    (settled : FocusSettled owner shell) (session : SessionID) :
    FocusSettled owner (shell.activateNext session).1 := by
  have inactive : FocusSettled owner (shell.setActive none) := settled
  unfold activateNext
  dsimp only
  split
  · have focused : FocusSettled owner (shell.setActive none).focusNextSession.1 :=
      settled_focusNextSession owned inactive
    have moves := moves_focusNextSession (shell.setActive none)
    split
    · exact focused
    · have still : Extends owner (shell.setActive none).focusNextSession.1 := by
        rw [Extends, moves.sessionOf, moves.made]
        exact extend
      exact settled_selectActiveSurface still focused _ _
  · have still : Extends owner (shell.setActive none) := extend
    exact settled_selectActiveSurface still inactive _ _

end Mir.Shell.AbstractShell

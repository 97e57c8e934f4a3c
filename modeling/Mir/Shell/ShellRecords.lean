/-
This file proves that the records of the shell agree in every run. A session has the surfaces that
the window manager has noted for it and that it has not given up; the stack and the window
manager's own list for the session hold no others; and a surface that cannot be active lies below
one of its own session.

The window manager's list may lack surfaces: adding a surface fails half way if its parent was
removed but can still be locked.
-/

import Mir.Shell.FocusMoves
import Mir.Shell.Registered

namespace Mir.Shell

/-! ### What is noted of surfaces -/

/-- All that is noted of a surface but its children. -/
def SurfaceInfo.stem (info : SurfaceInfo) : SurfaceInfo := { info with children := [] }

namespace Manager

variable {manager before after : Manager}

/-- At most the children of surfaces are other ones. -/
def SameStems (before after : Manager) : Prop :=
  ∀ surface, (after.surfaceInfo surface).map SurfaceInfo.stem =
    (before.surfaceInfo surface).map SurfaceInfo.stem

theorem sameStems_setInfo {surface : SurfaceID} {info next : SurfaceInfo}
    (known : manager.surfaceInfo surface = some info) (same : next.stem = info.stem) :
    SameStems manager (manager.setInfo surface next) := by
  intro other
  rw [surfaceInfo_setInfo]
  split_ifs with isSurface
  · rw [isSurface, known, Option.map_some, Option.map_some, same]
  · rfl

theorem lock_eq_some_iff {surface other : SurfaceID} :
    manager.lock surface = some other ↔ surface = other ∧ manager.expired surface = false := by
  unfold lock
  cases manager.expired surface with
  | true => simp
  | false => simp

/-- Only the surface itself is locked like a surface that can be locked. -/
theorem eraseP_lock {surface : SurfaceID} (locked : manager.lock surface = some surface)
    (surfaces : List SurfaceID) :
    (surfaces.eraseP fun other => manager.lock other = manager.lock surface) =
      surfaces.erase surface := by
  have same : (fun other => decide (manager.lock other = manager.lock surface)) =
      (· == surface) := by
    funext other
    rw [locked, beq_eq_decide, decide_eq_decide, lock_eq_some_iff]
    refine ⟨And.left, fun same => ⟨same, ?_⟩⟩
    rw [same]
    exact (lock_eq_some_iff.mp locked).2
  rw [same, List.erase_eq_eraseP']

/-- The parent forgets a surface that can be locked, and nothing else changes. -/
theorem eraseSibling_table {surface : SurfaceID} {info : SurfaceInfo} {erased : Manager}
    (locked : manager.lock surface = some surface)
    (ok : manager.eraseSibling surface info = .ok erased) :
    ∃ table, erased = { manager with surfaceInfo := table } ∧
      (∀ other known, manager.surfaceInfo other = some known →
        ∃ children, table other = some { known with children := children } ∧
          (children = known.children ∨ children = known.children.erase surface)) ∧
      (∀ parent known, manager.lockParent info = some parent →
        manager.surfaceInfo parent = some known →
          table parent = some { known with children := known.children.erase surface }) ∧
      ∀ other, manager.surfaceInfo other = none → table other = none := by
  rcases Tree.eraseSibling_cases ok with
    ⟨orphan, rfl⟩ | ⟨parent, parentInfo, isParent, parentKnown, rfl⟩
  · refine ⟨erased.surfaceInfo, rfl, fun other known isKnown => ⟨_, isKnown, .inl rfl⟩,
      fun parent known isParent => ?_, fun _ => id⟩
    cases orphan.symm.trans isParent
  · refine ⟨_, rfl, fun other known isKnown => ?_, fun other known isParentToo isKnown => ?_,
      fun other unknown => ?_⟩
    · rw [eraseP_lock locked, Function.update_apply]
      split_ifs with same
      · rw [same, parentKnown] at isKnown
        cases isKnown
        exact ⟨_, rfl, .inr rfl⟩
      · exact ⟨_, isKnown, .inl rfl⟩
    · cases isParent.symm.trans (named_of_locked isParentToo)
      cases parentKnown.symm.trans isKnown
      rw [eraseP_lock locked, Function.update_self]
    · rw [Function.update_apply]
      split_ifs with same
      · rw [same, parentKnown] at unknown
        cases unknown
      · exact unknown

/-- A surface that is added has no children yet, and its parent gets it as one. -/
structure Adds (before after : Manager) (session : SessionID) (type : WindowType)
    (parent : Option SurfaceID) : Prop where
  stems : ∀ surface, (after.surfaceInfo surface).map SurfaceInfo.stem =
    if surface = before.made then some ⟨type, session, parent, []⟩
    else (before.surfaceInfo surface).map SurfaceInfo.stem
  sessionInfo : after.sessionInfo = before.sessionInfo ∨
    ∃ surfaces, before.sessionInfo session = some surfaces ∧
      after.sessionInfo =
        Function.update before.sessionInfo session (some (surfaces ++ [before.made]))
  made : after.made = before.made + 1
  destroyed : after.destroyed = before.destroyed
  expired : after.expired = before.expired

theorem adds_registerSurface (manager : Manager) (session : SessionID) (type : WindowType)
    (parent : Option SurfaceID) :
    Adds manager (manager.registerSurface session type parent) session type parent := by
  refine ⟨fun surface => ?_, .inl rfl, rfl, rfl, rfl⟩
  show ((manager.setInfo manager.made ⟨type, session, parent, []⟩).surfaceInfo surface).map _ = _
  rw [surfaceInfo_setInfo]
  split_ifs
  · rfl
  · rfl

theorem Adds.recordSurface {session : SessionID} {type : WindowType} {parent : Option SurfaceID}
    (adds : Adds before after session type parent)
    (same : after.sessionInfo = before.sessionInfo) :
    Adds before (after.recordSurface session before.made).1 session type parent := by
  unfold Manager.recordSurface
  split
  · exact adds
  · rename_i surfaces known
    refine ⟨adds.stems, .inr ⟨surfaces, same ▸ known, ?_⟩, adds.made, adds.destroyed,
      adds.expired⟩
    show Function.update after.sessionInfo session _ = _
    rw [same]

theorem Adds.setInfo {session : SessionID} {type : WindowType} {parent : Option SurfaceID}
    (adds : Adds before after session type parent) {surface : SurfaceID}
    {info next : SurfaceInfo} (known : after.surfaceInfo surface = some info)
    (same : next.stem = info.stem) :
    Adds before (after.setInfo surface next) session type parent :=
  ⟨fun other => (sameStems_setInfo known same other).trans (adds.stems other),
    adds.sessionInfo, adds.made, adds.destroyed, adds.expired⟩

theorem addSurface_adds (manager : Manager) (session : SessionID) (type : Option WindowType)
    (parent : Option SurfaceID) :
    (manager.addSurface session type parent).1 = manager ∨
      ∃ kind, type = some kind ∧ Adds manager (manager.addSurface session type parent).1 session
        kind (manager.reference parent) := by
  unfold addSurface
  dsimp only
  split
  · exact .inl rfl
  · rename_i kind
    split_ifs
    · exact .inl rfl
    · exact .inl rfl
    · refine .inr ⟨kind, rfl, ?_⟩
      have registered := manager.adds_registerSurface session kind (manager.reference parent)
      unfold handleNewSurface
      dsimp only
      split
      · exact registered.recordSurface rfl
      · split
        · exact registered
        · rename_i info known
          have same : SurfaceInfo.stem { info with children := info.children ++ [manager.made] } =
              info.stem := rfl
          exact (registered.setInfo known same).recordSurface rfl

/-- A surface stays with its session, and it does not change to a type that cannot be active. -/
theorem modifiedInfo_kept {info next : SurfaceInfo} {modifications : Modifications}
    (ok : manager.modifiedInfo info modifications = .ok next) :
    next.session = info.session ∧ (next.canBeActive = false → info.canBeActive = false) := by
  obtain ⟨newParent, newType⟩ := modifications
  cases newType with
  | none => cases newParent <;> cases ok <;> exact ⟨rfl, id⟩
  | some newType =>
    have active {info : SurfaceInfo} (morphs : ¬ (!info.canMorphTo newType) = true)
        (parent : Option SurfaceID) :
        SurfaceInfo.canBeActive { info with parent := parent, type := newType } = true := by
      cases newType <;> first | rfl | exact absurd rfl morphs
    cases newParent with
    | none =>
      dsimp only [modifiedInfo] at ok
      split_ifs at ok with same morphs
      · cases ok
        exact ⟨rfl, id⟩
      · cases ok
        exact ⟨rfl, fun cannot => by cases (active morphs none).symm.trans cannot⟩
      · cases ok
        exact ⟨rfl, fun cannot => by cases (active morphs info.parent).symm.trans cannot⟩
    | some parent =>
      dsimp only [modifiedInfo] at ok
      split_ifs at ok with same morphs
      · cases ok
        exact ⟨rfl, id⟩
      · cases ok
        exact ⟨rfl, fun cannot => by cases (active morphs none).symm.trans cannot⟩
      · cases ok
        exact ⟨rfl, fun cannot => by
          cases (active morphs (manager.reference parent)).symm.trans cannot⟩

end Manager

namespace AbstractShell

variable {shell before after : AbstractShell}

/-! ### The records -/

/-- The invariant of every run. -/
structure Recorded (shell : AbstractShell) : Prop where
  standing : shell.manager.Standing
  numbered : shell.manager.Numbered
  opened : ∀ session ∈ shell.sessions, session < shell.opened
  openedOnce : shell.sessions.Nodup
  noted : ∀ surface session, shell.sessionOf surface = some session → session < shell.opened
  known : ∀ session ∈ shell.sessions, (shell.manager.sessionInfo session).isSome = true
  owned : ∀ session surface, surface ∈ shell.surfaces session ↔
    shell.sessionOf surface = some session ∧ shell.manager.destroyed surface = false
  ownedOnce : ∀ session, (shell.surfaces session).Nodup
  stacked : ∀ surface ∈ shell.stack, ∃ session, surface ∈ shell.surfaces session
  stackedOnce : shell.stack.Nodup
  listed : ∀ session surfaces, shell.manager.sessionInfo session = some surfaces →
    surfaces.Nodup ∧ ∀ surface ∈ surfaces, surface ∈ shell.surfaces session
  atHome : ∀ surface info parent session, shell.manager.surfaceInfo surface = some info →
    info.canBeActive = false → shell.manager.lockParent info = some parent →
      shell.sessionOf parent = some session → session = info.session
  settled : FocusSettled shell.sessionOf shell

theorem recorded_initial : initial.Recorded where
  standing := ⟨fun _ known => (by cases known), fun _ gone => (by cases gone),
    fun _ gone => (by cases gone)⟩
  numbered := Manager.numbered_initial
  opened _ member := by cases member
  openedOnce := List.nodup_nil
  noted _ _ known := by cases known
  known _ member := by cases member
  owned _ _ := ⟨fun member => (by cases member), fun known => (by cases known.1)⟩
  ownedOnce _ := List.nodup_nil
  stacked _ member := by cases member
  stackedOnce := List.nodup_nil
  listed _ _ known := by cases known
  atHome _ _ _ _ known := by cases known
  settled _ focused := by cases focused

namespace Recorded

/-- A surface that a session has is live and can be locked. -/
theorem live (recorded : shell.Recorded) {session : SessionID} {surface : SurfaceID}
    (member : surface ∈ shell.surfaces session) :
    ∃ info, shell.manager.LiveAs surface info ∧ info.session = session := by
  obtain ⟨owner, notDestroyed⟩ := (recorded.owned session surface).mp member
  obtain ⟨info, known, isOwner⟩ := Option.map_eq_some_iff.mp owner
  exact ⟨info, ⟨known, notDestroyed⟩, isOwner⟩

theorem locked (recorded : shell.Recorded) {session : SessionID} {surface : SurfaceID}
    (member : surface ∈ shell.surfaces session) :
    shell.manager.lock surface = some surface := by
  refine Manager.lock_eq_some_iff.mpr ⟨rfl, ?_⟩
  obtain ⟨-, notDestroyed⟩ := (recorded.owned session surface).mp member
  refine Bool.eq_false_iff.mpr fun gone => ?_
  rw [recorded.standing.expired surface gone] at notDestroyed
  cases notDestroyed

theorem moved (recorded : before.Recorded) (moves : FocusMoves before after)
    (settled : FocusSettled before.sessionOf after) : after.Recorded where
  standing := Manager.SameSurfaces.standing
    ⟨fun _ => by rw [moves.surfaceInfo], moves.made, moves.destroyed, moves.expired⟩
    recorded.standing
  numbered := Manager.Shrinks.numbered
    ⟨fun _ info known => ⟨info, moves.surfaceInfo ▸ known, rfl, fun _ => id⟩, moves.made,
      fun _ gone => moves.expired ▸ gone⟩ recorded.numbered
  opened := by
    rw [moves.sessions, moves.opened]
    exact recorded.opened
  openedOnce := by
    rw [moves.sessions]
    exact recorded.openedOnce
  noted := by
    rw [moves.sessionOf, moves.opened]
    exact recorded.noted
  known := by
    rw [moves.sessions, moves.sessionInfo]
    exact recorded.known
  owned := by
    rw [moves.surfaces, moves.sessionOf, moves.destroyed]
    exact recorded.owned
  ownedOnce := by
    rw [moves.surfaces]
    exact recorded.ownedOnce
  stacked surface member := by
    rw [moves.surfaces]
    exact recorded.stacked surface (moves.stack.mem_iff.mp member)
  stackedOnce := moves.stack.nodup_iff.mpr recorded.stackedOnce
  listed := by
    rw [moves.sessionInfo, moves.surfaces]
    exact recorded.listed
  atHome := by
    rw [moves.surfaceInfo, moves.lockParent, moves.sessionOf]
    exact recorded.atHome
  settled := by
    rw [moves.sessionOf]
    exact settled

theorem made (recorded : shell.Recorded) {surface : SurfaceID} {session : SessionID}
    (noted : shell.sessionOf surface = some session) : surface < shell.manager.made := by
  obtain ⟨info, known, -⟩ := Option.map_eq_some_iff.mp noted
  exact recorded.standing.registered surface (Option.isSome_of_eq_some known)

theorem extendsSessionOf (recorded : shell.Recorded) : Extends shell.sessionOf shell :=
  fun _ _ noted => ⟨recorded.made noted, noted⟩

theorem owner (recorded : shell.Recorded) (session : SessionID) (surface : SurfaceID)
    (member : surface ∈ shell.surfaces session) : shell.sessionOf surface = some session :=
  ((recorded.owned session surface).mp member).1

/-- A surface is of one session. -/
theorem owner_unique (recorded : shell.Recorded) {session home : SessionID} {surface : SurfaceID}
    (member : surface ∈ shell.surfaces session) (other : surface ∈ shell.surfaces home) :
    home = session := by
  have isHome := recorded.owner home surface other
  rw [recorded.owner session surface member] at isHome
  exact (Option.some.inj isHome).symm

theorem madeOwner (recorded : shell.Recorded) (session : SessionID) (surface : SurfaceID)
    (member : surface ∈ shell.surfaces session) :
    surface < shell.manager.made ∧ shell.sessionOf surface = some session :=
  ⟨recorded.made (recorded.owner session surface member), recorded.owner session surface member⟩

theorem select (recorded : shell.Recorded) (surface : Option SurfaceID) :
    (shell.select surface).1.Recorded :=
  recorded.moved (moves_selectActiveSurface _ _ _)
    (settled_selectActiveSurface recorded.extendsSessionOf recorded.settled _ _)

theorem focusNextSession (recorded : shell.Recorded) : shell.focusNextSession.1.Recorded :=
  recorded.moved (moves_focusNextSession shell)
    (settled_focusNextSession recorded.madeOwner recorded.settled)

theorem activateNext (recorded : shell.Recorded) (session : SessionID) :
    (shell.activateNext session).1.Recorded :=
  recorded.moved (moves_activateNext shell session)
    (settled_activateNext recorded.extendsSessionOf recorded.madeOwner recorded.settled session)

end Recorded

/-! ### A surface is removed -/

/-- A session gives up a surface, which its parent and the window manager's list forget. -/
structure Discards (before after : AbstractShell) (session : SessionID) (surface : SurfaceID) :
    Prop where
  kept : ∀ other info, before.manager.surfaceInfo other = some info →
    ∃ children, after.manager.surfaceInfo other = some { info with children := children } ∧
      (children = info.children ∨ children = info.children.erase surface)
  parent : ∀ info parent parentInfo, before.manager.surfaceInfo surface = some info →
    before.manager.lockParent info = some parent →
      before.manager.surfaceInfo parent = some parentInfo →
        after.manager.surfaceInfo parent =
          some { parentInfo with children := parentInfo.children.erase surface }
  fewer : ∀ other, before.manager.surfaceInfo other = none →
    after.manager.surfaceInfo other = none
  sessionInfo : ∃ surfaces, before.manager.sessionInfo session = some surfaces ∧
    after.manager.sessionInfo =
      Function.update before.manager.sessionInfo session (some (surfaces.erase surface))
  made : after.manager.made = before.manager.made
  destroyed : after.manager.destroyed = Function.update before.manager.destroyed surface true
  expired : after.manager.expired = before.manager.expired
  activeSurface : after.manager.activeSurface = before.manager.activeSurface
  sessions : after.sessions = before.sessions
  opened : after.opened = before.opened
  surfaces : after.surfaces =
    Function.update before.surfaces session ((before.surfaces session).erase surface)
  stack : after.stack = before.stack.erase surface
  focusSession : after.focusSession = before.focusSession
  focusSurface : after.focusSurface = before.focusSurface

/-- A removal is refused if the parent of the surface can be locked but was removed before. -/
theorem discard_cases (recorded : shell.Recorded) {session : SessionID} {surface : SurfaceID}
    (isOpen : session ∈ shell.sessions) (member : surface ∈ shell.surfaces session) :
    (∃ info parent, shell.manager.surfaceInfo surface = some info ∧
        shell.manager.lockParent info = some parent ∧
        shell.manager.surfaceInfo parent = none ∧
        shell.discard session surface = (shell, .error (.thrown .outOfRange))) ∨
      (∃ info, shell.manager.surfaceInfo surface = some info ∧
        ∀ parent, shell.manager.lockParent info = some parent →
          (shell.manager.surfaceInfo parent).isSome = true) ∧
      (shell.discard session surface).2 = .ok () ∧
      Discards shell (shell.discard session surface).1 session surface := by
  obtain ⟨info, live, -⟩ := recorded.live member
  have locked := recorded.locked member
  obtain ⟨surfaces, listed⟩ := Option.isSome_iff_exists.mp (recorded.known session isOpen)
  cases erases : shell.manager.eraseSibling surface info with
  | error failure =>
    refine .inl ?_
    unfold Manager.eraseSibling at erases
    split at erases
    · cases erases
    · rename_i parent isParent
      split at erases
      · rename_i unknown
        cases erases
        refine ⟨info, parent, live.1, isParent, unknown, ?_⟩
        unfold discard Manager.eraseSibling
        rw [live.1]
        dsimp only
        rw [isParent]
        dsimp only
        rw [unknown]
      · cases erases
  | ok erased =>
    refine .inr ⟨⟨info, live.1, fun parent isParent => ?_⟩, ?_⟩
    · unfold Manager.eraseSibling at erases
      rw [isParent] at erases
      dsimp only at erases
      split at erases
      · cases erases
      · rename_i parentInfo isKnown
        rw [isKnown]
        rfl
    · obtain ⟨table, rfl, kept, parent, fewer⟩ := Manager.eraseSibling_table locked erases
      have unlisted : (surfaces.eraseP fun other => shell.manager.lock other =
          shell.manager.lock surface) = surfaces.erase surface :=
        Manager.eraseP_lock locked surfaces
      have discarded : shell.discard session surface =
          ({ shell with
              manager := { shell.manager with
                surfaceInfo := table
                destroyed := Function.update shell.manager.destroyed surface true
                sessionInfo := Function.update shell.manager.sessionInfo session
                  (some (surfaces.erase surface)) }
              surfaces :=
                Function.update shell.surfaces session ((shell.surfaces session).erase surface)
              stack := shell.stack.erase surface }, .ok ()) := by
        unfold discard sessionDestroySurface unlist
        rw [live.1]
        dsimp only
        rw [erases]
        dsimp only
        rw [if_pos member]
        dsimp only [Manager.destroy]
        rw [listed]
        dsimp only
        rw [← unlisted]
        rfl
      rw [discarded]
      refine ⟨rfl, kept, fun known above aboveInfo isKnown => ?_, fewer, ⟨surfaces, listed, rfl⟩,
        rfl, rfl, rfl, rfl, rfl, rfl, rfl, rfl, rfl, rfl⟩
      cases live.1.symm.trans isKnown
      exact parent above aboveInfo

namespace Discards

variable {session : SessionID} {surface : SurfaceID}

theorem info (discards : Discards before after session surface) {other : SurfaceID}
    {next : SurfaceInfo} (known : after.manager.surfaceInfo other = some next) :
    ∃ info, before.manager.surfaceInfo other = some info ∧
      next = { info with children := next.children } ∧
      ∀ child ∈ next.children, child ∈ info.children := by
  cases was : before.manager.surfaceInfo other with
  | none =>
    rw [discards.fewer other was] at known
    cases known
  | some info =>
    obtain ⟨children, isNow, sameOrErased⟩ := discards.kept other info was
    rw [isNow] at known
    cases known
    refine ⟨info, rfl, rfl, fun child member => ?_⟩
    rcases sameOrErased with same | erased
    · exact same ▸ member
    · rw [erased] at member
      exact List.mem_of_mem_erase member

theorem registered (discards : Discards before after session surface) (other : SurfaceID) :
    (after.manager.surfaceInfo other).isSome = (before.manager.surfaceInfo other).isSome := by
  cases was : before.manager.surfaceInfo other with
  | none => rw [discards.fewer other was]
  | some info =>
    obtain ⟨children, isNow, -⟩ := discards.kept other info was
    rw [isNow]
    rfl

theorem sessionOf (discards : Discards before after session surface) :
    after.sessionOf = before.sessionOf := by
  funext other
  rw [AbstractShell.sessionOf, AbstractShell.sessionOf]
  cases was : before.manager.surfaceInfo other with
  | none => rw [discards.fewer other was]
  | some info =>
    obtain ⟨children, isNow, -⟩ := discards.kept other info was
    rw [isNow]
    rfl

theorem lock (discards : Discards before after session surface) :
    after.manager.lock = before.manager.lock := by
  funext other
  rw [Manager.lock, Manager.lock, discards.expired]

theorem gone (discards : Discards before after session surface) :
    after.manager.destroyed surface = true := by
  rw [discards.destroyed]
  exact Function.update_self _ _ _

theorem mem_surfaces (discards : Discards before after session surface)
    (recorded : before.Recorded) (member : surface ∈ before.surfaces session)
    (home : SessionID) (other : SurfaceID) :
    other ∈ after.surfaces home ↔ other ≠ surface ∧ other ∈ before.surfaces home := by
  rw [discards.surfaces, Function.update_apply]
  split_ifs with same
  · rw [same, (recorded.ownedOnce session).mem_erase_iff]
  · refine ⟨fun known => ⟨?_, known⟩, And.right⟩
    rintro rfl
    exact same (recorded.owner_unique member known)

theorem recorded (discards : Discards before after session surface)
    (recorded : before.Recorded) (member : surface ∈ before.surfaces session) :
    after.Recorded where
  standing := by
    obtain ⟨info, live, -⟩ := recorded.live member
    have isKnown : (before.manager.surfaceInfo surface).isSome = true := by
      rw [live.1]
      rfl
    have destroys : Manager.Destroys before.manager after.manager surface :=
      ⟨isKnown, fun other _ => discards.registered other, fun _ => isKnown, discards.made,
        discards.destroyed, fun other gone => .inl (discards.expired ▸ gone)⟩
    exact destroys.standing recorded.standing
  numbered := by
    refine Manager.Shrinks.numbered ⟨fun other next known => ?_, discards.made, fun _ gone => ?_⟩
      recorded.numbered
    · obtain ⟨info, was, same, fewer⟩ := discards.info known
      exact ⟨info, was, by rw [same], fewer⟩
    · rw [discards.expired]
      exact gone
  opened := by
    rw [discards.sessions, discards.opened]
    exact recorded.opened
  openedOnce := by
    rw [discards.sessions]
    exact recorded.openedOnce
  noted := by
    rw [discards.sessionOf, discards.opened]
    exact recorded.noted
  known home isOpen := by
    obtain ⟨surfaces, -, same⟩ := discards.sessionInfo
    rw [same, Function.update_apply]
    split_ifs
    · rfl
    · exact recorded.known home (discards.sessions ▸ isOpen)
  owned home other := by
    rw [discards.mem_surfaces recorded member, discards.sessionOf, discards.destroyed,
      Function.update_apply, recorded.owned]
    split_ifs with same
    · simp [same]
    · simp [same]
  ownedOnce home := by
    rw [discards.surfaces, Function.update_apply]
    split_ifs
    · exact (recorded.ownedOnce session).erase surface
    · exact recorded.ownedOnce home
  stacked other there := by
    rw [discards.stack, recorded.stackedOnce.mem_erase_iff] at there
    obtain ⟨home, known⟩ := recorded.stacked other there.2
    exact ⟨home, (discards.mem_surfaces recorded member home other).mpr ⟨there.1, known⟩⟩
  stackedOnce := by
    rw [discards.stack]
    exact recorded.stackedOnce.erase surface
  listed home surfaces known := by
    obtain ⟨before, listed, same⟩ := discards.sessionInfo
    rw [same, Function.update_apply] at known
    split_ifs at known with isSession
    · cases known
      obtain ⟨once, each⟩ := recorded.listed session before listed
      refine ⟨once.erase surface, fun other there => ?_⟩
      rw [once.mem_erase_iff] at there
      exact (discards.mem_surfaces recorded member home other).mpr
        ⟨there.1, isSession ▸ each other there.2⟩
    · obtain ⟨once, each⟩ := recorded.listed home surfaces known
      refine ⟨once, fun other there => ?_⟩
      refine (discards.mem_surfaces recorded member home other).mpr ⟨?_, each other there⟩
      rintro rfl
      exact isSession (recorded.owner_unique member (each other there))
  atHome other next parent home known cannot isParent isHome := by
    obtain ⟨info, was, same, -⟩ := discards.info known
    rw [same] at cannot isParent ⊢
    rw [discards.sessionOf] at isHome
    rw [Manager.lockParent, discards.lock] at isParent
    exact recorded.atHome other info parent home was cannot isParent isHome
  settled := by
    rw [FocusSettled, discards.focusSession, discards.focusSurface, discards.lock,
      discards.sessionOf, discards.sessions, discards.made]
    exact recorded.settled

end Discards

namespace Recorded

/-- What was destroyed is forgotten. -/
theorem forget (recorded : shell.Recorded) {surface : SurfaceID}
    (gone : shell.manager.destroyed surface = true) : (shell.forget surface).Recorded := by
  have known {other : SurfaceID} {info : SurfaceInfo}
      (isKnown : (shell.forget surface).manager.surfaceInfo other = some info) :
      other ≠ surface ∧ shell.manager.surfaceInfo other = some info := by
    have isKnown : (shell.manager.forget surface).surfaceInfo other = some info := isKnown
    rw [Manager.surfaceInfo_forget] at isKnown
    split_ifs at isKnown with same
    exact ⟨same, isKnown⟩
  have owner {other : SurfaceID} {home : SessionID}
      (noted : (shell.forget surface).sessionOf other = some home) :
      shell.sessionOf other = some home := by
    obtain ⟨info, isKnown, isHome⟩ := Option.map_eq_some_iff.mp noted
    rw [sessionOf_of_known (known isKnown).2, isHome]
  refine ⟨⟨fun other isSome => ?_, recorded.standing.destroyed, recorded.standing.expired⟩,
    (Manager.shrinks_forget shell.manager surface).numbered recorded.numbered, recorded.opened,
    recorded.openedOnce, fun other home isOwner => recorded.noted other home (owner isOwner),
    recorded.known, fun home other => ?_, recorded.ownedOnce,
    recorded.stacked, recorded.stackedOnce, recorded.listed,
    fun other info parent home isKnown cannot isParent isHome => ?_,
    fun other focused => ⟨(recorded.settled other focused).1, fun home locked isOwner => ?_⟩⟩
  · obtain ⟨info, isKnown⟩ := Option.isSome_iff_exists.mp isSome
    exact recorded.standing.registered other (Option.isSome_of_eq_some (known isKnown).2)
  · refine (recorded.owned home other).trans ⟨fun ⟨isOwner, notDestroyed⟩ => ⟨?_, notDestroyed⟩,
      fun ⟨isOwner, notDestroyed⟩ => ⟨owner isOwner, notDestroyed⟩⟩
    have different : other ≠ surface := by
      rintro rfl
      cases notDestroyed.symm.trans gone
    show ((shell.manager.forget surface).surfaceInfo other).map _ = _
    rw [Manager.surfaceInfo_forget, if_neg different]
    exact isOwner
  · exact recorded.atHome other info parent home (known isKnown).2 cannot isParent (owner isHome)
  · exact (recorded.settled other focused).2 home locked (owner isOwner)

end Recorded

/-- How a removal can end: it is refused, or the surface is discarded and forgotten, unless
another surface cannot become active in its place. -/
theorem removeSurface_cases (recorded : shell.Recorded) {session : SessionID}
    {surface : SurfaceID} (isOpen : session ∈ shell.sessions)
    (member : surface ∈ shell.surfaces session) :
    (∃ info parent, shell.manager.surfaceInfo surface = some info ∧
        shell.manager.lockParent info = some parent ∧
        shell.manager.surfaceInfo parent = none ∧
        shell.removeSurface session surface = (shell, .error (.thrown .outOfRange))) ∨
      ∃ info discarded, shell.manager.surfaceInfo surface = some info ∧
        (∀ parent, shell.manager.lockParent info = some parent →
          (shell.manager.surfaceInfo parent).isSome = true) ∧
        Discards shell discarded session surface ∧
        (shell.activeSurface ≠ some surface ∧
            shell.removeSurface session surface = (discarded.forget surface, .ok ()) ∨
          shell.activeSurface = some surface ∧
            ((discarded.activateNext session).2 = .ok () ∧
                shell.removeSurface session surface =
                  ((discarded.activateNext session).1.forget surface, .ok ()) ∨
              ∃ failure, (discarded.activateNext session).2 = .error failure ∧
                shell.removeSurface session surface =
                  ((discarded.activateNext session).1, .error failure))) := by
  rcases discard_cases recorded isOpen member with
    ⟨info, parent, known, isParent, unknown, refused⟩ | ⟨⟨info, known, registered⟩, ok, discards⟩
  · refine .inl ⟨info, parent, known, isParent, unknown, ?_⟩
    unfold removeSurface handleDeleteSurface
    rw [refused]
  · refine .inr ⟨info, _, known, registered, discards, ?_⟩
    unfold removeSurface handleDeleteSurface
    rw [recorded.locked member]
    dsimp only
    rw [ok]
    dsimp only
    by_cases active : shell.activeSurface = some surface
    · rw [active, decide_eq_true rfl, if_pos rfl]
      refine .inr ⟨rfl, ?_⟩
      cases ended : ((shell.discard session surface).1.activateNext session).2 with
      | error failure => exact .inr ⟨failure, rfl, rfl⟩
      | ok => exact .inl ⟨rfl, rfl⟩
    · rw [decide_eq_false (Ne.symm active), if_neg Bool.false_ne_true, ok]
      exact .inl ⟨active, rfl⟩

namespace Recorded

/-- Removing a surface of an open session keeps the records, however it ends. -/
theorem removeSurface (recorded : shell.Recorded) {session : SessionID} {surface : SurfaceID}
    (isOpen : session ∈ shell.sessions) (member : surface ∈ shell.surfaces session) :
    (shell.removeSurface session surface).1.Recorded := by
  rcases removeSurface_cases recorded isOpen member with
    ⟨info, parent, -, -, -, refused⟩ | ⟨info, discarded, -, -, discards, ended⟩
  · rw [refused]
    exact recorded
  · have still := discards.recorded recorded member
    have gone := discards.gone
    have moves := moves_activateNext discarded session
    rcases ended with ⟨-, same⟩ | ⟨-, ⟨-, same⟩ | ⟨failure, -, same⟩⟩
    · rw [same]
      exact still.forget gone
    · rw [same]
      refine (still.activateNext session).forget ?_
      rw [moves.destroyed]
      exact gone
    · rw [same]
      exact still.activateNext session

end Recorded

/-- A session has one surface less, and nobody keeps anything about it but other surfaces that have
it as their parent. -/
structure Removes (before after : AbstractShell) (session : SessionID) (surface : SurfaceID) :
    Prop where
  kept : ∀ other info, other ≠ surface → before.manager.surfaceInfo other = some info →
    ∃ children, after.manager.surfaceInfo other = some { info with children := children } ∧
      (children = info.children ∨ children = info.children.erase surface)
  parent : ∀ info parent parentInfo, parent ≠ surface →
    before.manager.surfaceInfo surface = some info →
      before.manager.lockParent info = some parent →
        before.manager.surfaceInfo parent = some parentInfo →
          after.manager.surfaceInfo parent =
            some { parentInfo with children := parentInfo.children.erase surface }
  old : ∀ other next, after.manager.surfaceInfo other = some next →
    ∃ info, before.manager.surfaceInfo other = some info ∧
      next = { info with children := next.children }
  gone : after.manager.surfaceInfo surface = none
  sessionInfo : ∃ surfaces, before.manager.sessionInfo session = some surfaces ∧
    after.manager.sessionInfo =
      Function.update before.manager.sessionInfo session (some (surfaces.erase surface))
  made : after.manager.made = before.manager.made
  lock : after.manager.lock = before.manager.lock
  sessions : after.sessions = before.sessions
  surfaces : after.surfaces =
    Function.update before.surfaces session ((before.surfaces session).erase surface)
  members : ∀ home other, other ∈ after.surfaces home ↔
    other ≠ surface ∧ other ∈ before.surfaces home

/-- The surface is forgotten after the focus has moved. -/
theorem Discards.removes {middle : AbstractShell} {session : SessionID} {surface : SurfaceID}
    (discards : Discards before middle session surface) (recorded : before.Recorded)
    (member : surface ∈ before.surfaces session) (moves : FocusMoves middle after) :
    Removes before (after.forget surface) session surface := by
  have info (other : SurfaceID) : (after.forget surface).manager.surfaceInfo other =
      if other = surface then none else middle.manager.surfaceInfo other := by
    rw [← moves.surfaceInfo]
    exact Manager.surfaceInfo_forget after.manager surface other
  refine ⟨fun other noted different known => ?_,
    fun noted parent parentInfo different known isParent parentKnown => ?_,
    fun other next known => ?_, ?_, ?_, moves.made.trans discards.made, ?_,
    moves.sessions.trans discards.sessions, moves.surfaces.trans discards.surfaces,
    fun home other => ?_⟩
  · rw [info, if_neg different]
    exact discards.kept other noted known
  · rw [info, if_neg different]
    exact discards.parent noted parent parentInfo known isParent parentKnown
  · rw [info] at known
    split_ifs at known
    obtain ⟨noted, was, same, -⟩ := discards.info known
    exact ⟨noted, was, same⟩
  · rw [info, if_pos rfl]
  · obtain ⟨surfaces, listed, same⟩ := discards.sessionInfo
    exact ⟨surfaces, listed, moves.sessionInfo.trans same⟩
  · exact moves.lock.trans discards.lock
  · show other ∈ after.surfaces home ↔ _
    rw [moves.surfaces]
    exact discards.mem_surfaces recorded member home other

theorem Removes.info {session : SessionID} {surface : SurfaceID}
    (removes : Removes before after session surface) {other : SurfaceID} {next : SurfaceInfo}
    (known : after.manager.surfaceInfo other = some next) :
    other ≠ surface ∧ ∃ info, before.manager.surfaceInfo other = some info ∧
      next = { info with children := next.children } ∧
      (∀ child ∈ next.children, child ∈ info.children) ∧
      (next.children = info.children ∨ next.children = info.children.erase surface) := by
  have different : other ≠ surface := by
    rintro rfl
    rw [removes.gone] at known
    cases known
  obtain ⟨info, was, same⟩ := removes.old other next known
  obtain ⟨children, isNow, lists⟩ := removes.kept other info different was
  cases known.symm.trans isNow
  refine ⟨different, info, was, rfl, fun child member => ?_, lists⟩
  rcases lists with sameChildren | erased
  · rw [← sameChildren]
    exact member
  · rw [erased] at member
    exact List.mem_of_mem_erase member

theorem Removes.registered {session : SessionID} {surface other : SurfaceID}
    (removes : Removes before after session surface) (different : other ≠ surface)
    (registered : (before.manager.surfaceInfo other).isSome = true) :
    (after.manager.surfaceInfo other).isSome = true := by
  obtain ⟨info, was⟩ := Option.isSome_iff_exists.mp registered
  obtain ⟨children, isNow, -⟩ := removes.kept other info different was
  exact Option.isSome_of_eq_some isNow

theorem Removes.sessionOf {session : SessionID} {surface : SurfaceID}
    (removes : Removes before after session surface) {other : SurfaceID} {home : SessionID}
    (isOwner : after.sessionOf other = some home) :
    other ≠ surface ∧ before.sessionOf other = some home := by
  obtain ⟨next, known, isHome⟩ := Option.map_eq_some_iff.mp isOwner
  obtain ⟨different, info, was, same, -⟩ := removes.info known
  refine ⟨different, ?_⟩
  rw [sessionOf_of_known was, ← isHome, same]

/-- What a removal that goes through leaves. -/
theorem removeSurface_ok (recorded : shell.Recorded) {session : SessionID} {surface : SurfaceID}
    (isOpen : session ∈ shell.sessions) (member : surface ∈ shell.surfaces session)
    (ok : (shell.removeSurface session surface).2 = .ok ()) :
    Removes shell (shell.removeSurface session surface).1 session surface ∧
      (∃ info, shell.manager.surfaceInfo surface = some info ∧
        ∀ parent, shell.manager.lockParent info = some parent →
          (shell.manager.surfaceInfo parent).isSome = true) ∧
      (shell.activeSurface ≠ some surface →
        (shell.removeSurface session surface).1.focusSession = shell.focusSession ∧
          (shell.removeSurface session surface).1.manager.activeSurface =
            shell.manager.activeSurface) := by
  rcases removeSurface_cases recorded isOpen member with
    ⟨info, parent, -, -, -, refused⟩ | ⟨info, discarded, known, registered, discards, ended⟩
  · rw [refused] at ok
    cases ok
  · rcases ended with ⟨-, same⟩ | ⟨active, ⟨-, same⟩ | ⟨failure, -, same⟩⟩
    · rw [same]
      exact ⟨discards.removes recorded member (.refl _), ⟨info, known, registered⟩,
        fun _ => ⟨discards.focusSession, discards.activeSurface⟩⟩
    · rw [same]
      exact ⟨discards.removes recorded member (moves_activateNext _ _), ⟨info, known, registered⟩,
        fun inactive => absurd active inactive⟩
    · rw [same] at ok
      cases ok

/-! ### All surfaces of a session are removed -/

/-- A removal that does not go through is the last. -/
theorem removeSurfaces_cons (shell : AbstractShell) (session : SessionID) (surface : SurfaceID)
    (rest : List SurfaceID) :
    (∃ failure, (shell.removeSurface session surface).2 = .error failure ∧
        shell.removeSurfaces session (surface :: rest) =
          ((shell.removeSurface session surface).1, .error failure)) ∨
      (shell.removeSurface session surface).2 = .ok () ∧
        shell.removeSurfaces session (surface :: rest) =
          (shell.removeSurface session surface).1.removeSurfaces session rest := by
  rw [removeSurfaces]
  cases ended : (shell.removeSurface session surface).2 with
  | error failure => exact .inl ⟨failure, rfl, rfl⟩
  | ok => exact .inr ⟨rfl, rfl⟩

/-- The surfaces of an open session that are still to be removed. -/
structure Pending (shell : AbstractShell) (session : SessionID) (rest : List SurfaceID) : Prop where
  recorded : shell.Recorded
  isOpen : session ∈ shell.sessions
  once : rest.Nodup
  members : ∀ surface ∈ rest, surface ∈ shell.surfaces session

namespace Pending

variable {session : SessionID} {surface : SurfaceID} {rest : List SurfaceID}

theorem member (pending : shell.Pending session (surface :: rest)) :
    surface ∈ shell.surfaces session :=
  pending.members surface List.mem_cons_self

theorem next (pending : shell.Pending session (surface :: rest))
    (ok : (shell.removeSurface session surface).2 = .ok ()) :
    (shell.removeSurface session surface).1.Pending session rest := by
  obtain ⟨removes, -, -⟩ := removeSurface_ok pending.recorded pending.isOpen pending.member ok
  obtain ⟨new, restOnce⟩ := List.nodup_cons.mp pending.once
  refine ⟨pending.recorded.removeSurface pending.isOpen pending.member, ?_, restOnce,
    fun other later => ?_⟩
  · rw [removes.sessions]
    exact pending.isOpen
  · refine (removes.members session other).mpr ⟨?_,
      pending.members other (List.mem_cons_of_mem _ later)⟩
    rintro rfl
    exact new later

theorem recorded_after (pending : shell.Pending session rest) :
    (shell.removeSurfaces session rest).1.Recorded := by
  induction rest generalizing shell with
  | nil => exact pending.recorded
  | cons surface rest inductionHypothesis =>
    rcases removeSurfaces_cons shell session surface rest with ⟨failure, -, same⟩ | ⟨ok, same⟩
    · rw [same]
      exact pending.recorded.removeSurface pending.isOpen pending.member
    · rw [same]
      exact inductionHypothesis (pending.next ok)

/-- What each removal that goes through preserves holds when all of them have gone through. -/
theorem run {property : AbstractShell → List SurfaceID → Prop}
    (pending : shell.Pending session rest) (start : property shell rest)
    (ok : (shell.removeSurfaces session rest).2 = .ok ())
    (preserved : ∀ state surface rest, state.Pending session (surface :: rest) →
      (state.removeSurface session surface).2 = .ok () → property state (surface :: rest) →
        property (state.removeSurface session surface).1 rest) :
    property (shell.removeSurfaces session rest).1 [] := by
  induction rest generalizing shell with
  | nil => exact start
  | cons surface rest inductionHypothesis =>
    rcases removeSurfaces_cons shell session surface rest with ⟨failure, -, same⟩ | ⟨first, same⟩
    · rw [same] at ok
      cases ok
    · rw [same] at ok ⊢
      exact inductionHypothesis (pending.next first)
        (preserved shell surface rest pending first start) ok

/-- If each removal goes through, all of them do. -/
theorem run_ok {property : AbstractShell → List SurfaceID → Prop}
    (pending : shell.Pending session rest) (start : property shell rest)
    (preserved : ∀ state surface rest, state.Pending session (surface :: rest) →
      property state (surface :: rest) → (state.removeSurface session surface).2 = .ok () ∧
        property (state.removeSurface session surface).1 rest) :
    (shell.removeSurfaces session rest).2 = .ok () := by
  induction rest generalizing shell with
  | nil => rfl
  | cons surface rest inductionHypothesis =>
    obtain ⟨first, still⟩ := preserved shell surface rest pending start
    rcases removeSurfaces_cons shell session surface rest with ⟨failure, failed, -⟩ | ⟨-, same⟩
    · rw [first] at failed
      cases failed
    · rw [same]
      exact inductionHypothesis (pending.next first) still

end Pending

end AbstractShell

end Mir.Shell

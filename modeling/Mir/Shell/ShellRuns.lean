/-
This file proves that whatever is asked of the shell keeps its records in agreement, so that they
agree in every state that a run reaches.
-/

import Mir.Shell.ShellRecords
import Mir.Shell.SurfaceWalk

namespace Mir.Shell

open Transition

namespace Manager

variable {manager before after : Manager}

theorem Adds.registers {session : SessionID} {type : WindowType} {parent : Option SurfaceID}
    (adds : Adds before after session type parent) : Registers before after := by
  refine ⟨fun surface => ?_, adds.made, adds.destroyed, adds.expired⟩
  have stems := congrArg Option.isSome (adds.stems surface)
  rw [Option.isSome_map] at stems
  rw [stems]
  split_ifs with new
  · rw [decide_eq_true new]
    rfl
  · rw [decide_eq_false new, Option.isSome_map]
    rfl

/-- What an accepted modification leaves of a surface. -/
theorem modifySurface_info (manager : Manager) (surface : SurfaceID)
    (modifications : Modifications) :
    (manager.modifySurface surface modifications).1 = manager ∨
      ∃ info next, manager.surfaceInfo surface = some info ∧
        next.parent = manager.askedParent info modifications ∧ next.session = info.session ∧
        (next.canBeActive = false → info.canBeActive = false) ∧
        (manager.modifySurface surface modifications).1 = manager.setInfo surface next := by
  rcases manager.modifySurface_eq surface modifications with same | ⟨info, next, known, ok, becomes⟩
  · exact .inl same
  · obtain ⟨sameSession, active⟩ := modifiedInfo_kept ok
    exact .inr ⟨info, next, known, (modifiedInfo_ok ok).2.1, sameSession, active, becomes⟩

theorem standing_step (standing : manager.Standing) (surface : SurfaceID) :
    (manager.step (.expire surface)).Standing := by
  dsimp only [step]
  split_ifs with gone
  · refine ⟨standing.registered, standing.destroyed, fun other expired => ?_⟩
    by_cases same : other = surface
    · rw [same]
      exact gone
    · exact standing.expired other ((Function.update_of_ne same _ _).symm.trans expired)
  · exact standing

end Manager

namespace AbstractShell.Recorded

variable {shell : AbstractShell}

/-! ### Creating and modifying surfaces -/

theorem openSession (recorded : shell.Recorded) : (shell.step .openSession).Recorded where
  standing := ⟨recorded.standing.registered, recorded.standing.destroyed,
    recorded.standing.expired⟩
  numbered := Manager.numbered_step recorded.numbered (.addSession shell.opened)
  opened session isOpen := by
    rcases List.mem_append.mp isOpen with old | new
    · exact Nat.lt_succ_of_lt (recorded.opened session old)
    · rw [List.mem_singleton.mp new]
      exact Nat.lt_succ_self _
  openedOnce := by
    refine List.nodup_append'.mpr ⟨recorded.openedOnce, List.nodup_singleton _, ?_⟩
    refine List.disjoint_singleton.mpr fun old => ?_
    exact Nat.lt_irrefl _ (recorded.opened _ old)
  noted surface session isOwner := Nat.lt_succ_of_lt (recorded.noted surface session isOwner)
  known session isOpen := by
    show (Function.update shell.manager.sessionInfo shell.opened (some []) session).isSome = true
    rw [Function.update_apply]
    split_ifs with new
    · rfl
    · rcases List.mem_append.mp isOpen with old | isNew
      · exact recorded.known session old
      · exact absurd (List.mem_singleton.mp isNew) new
  owned := recorded.owned
  ownedOnce := recorded.ownedOnce
  stacked := recorded.stacked
  stackedOnce := recorded.stackedOnce
  listed session surfaces known := by
    have known : Function.update shell.manager.sessionInfo shell.opened (some []) session =
        some surfaces := known
    rw [Function.update_apply] at known
    split_ifs at known
    · cases known
      exact ⟨List.nodup_nil, fun surface member => by cases member⟩
    · exact recorded.listed session surfaces known
  atHome := recorded.atHome
  settled surface focused := by
    refine ⟨(recorded.settled surface focused).1, fun session locked isOwner isOpen => ?_⟩
    refine (recorded.settled surface focused).2 session locked isOwner ?_
    refine (List.mem_append.mp isOpen).resolve_right fun new => ?_
    rw [List.mem_singleton.mp new] at isOwner
    exact Nat.lt_irrefl _ (recorded.noted surface _ isOwner)

end AbstractShell.Recorded

namespace AbstractShell

variable {shell before after : AbstractShell}

/-- A session has one more surface, which is on top of the stack. -/
structure Creates (before after : AbstractShell) (session : SessionID) (type : WindowType)
    (parent : Option SurfaceID) : Prop where
  adds : Manager.Adds before.manager after.manager session type parent
  sessions : after.sessions = before.sessions
  opened : after.opened = before.opened
  surfaces : after.surfaces = Function.update before.surfaces session
    (before.surfaces session ++ [before.manager.made])
  stack : after.stack = before.stack ++ [before.manager.made]
  focusSession : after.focusSession = before.focusSession
  focusSurface : after.focusSurface = before.focusSurface

namespace Creates

variable {session : SessionID} {type : WindowType} {parent : Option SurfaceID}

theorem sessionOf (creates : Creates before after session type parent) (surface : SurfaceID) :
    after.sessionOf surface =
      if surface = before.manager.made then some session else before.sessionOf surface := by
  have stems := congrArg (Option.map SurfaceInfo.session) (creates.adds.stems surface)
  rw [Option.map_map] at stems
  refine stems.trans ?_
  split_ifs
  · rfl
  · rw [Option.map_map]
    rfl

theorem lock (creates : Creates before after session type parent) :
    after.manager.lock = before.manager.lock := by
  funext surface
  rw [Manager.lock, Manager.lock, creates.adds.expired]

theorem mem_surfaces (creates : Creates before after session type parent) (home : SessionID)
    (surface : SurfaceID) :
    surface ∈ after.surfaces home ↔
      surface = before.manager.made ∧ home = session ∨ surface ∈ before.surfaces home := by
  rw [creates.surfaces, Function.update_apply]
  split_ifs with same
  · rw [same, List.mem_append, List.mem_singleton, or_comm]
    simp
  · simp [same]

theorem recorded (creates : Creates before after session type parent)
    (recorded : before.Recorded) (isOpen : session ∈ before.sessions)
    (numbered : after.manager.Numbered) (parentMade : ∀ other ∈ parent, other < before.manager.made)
    (own : SurfaceInfo.canBeActive ⟨type, session, parent, []⟩ = false →
      ∀ other ∈ parent.bind before.manager.lock, before.sessionOf other = some session) :
    after.Recorded where
  standing := creates.adds.registers.standing recorded.standing
  numbered := numbered
  opened := by
    rw [creates.sessions, creates.opened]
    exact recorded.opened
  openedOnce := by
    rw [creates.sessions]
    exact recorded.openedOnce
  noted surface home isOwner := by
    rw [creates.opened]
    rw [creates.sessionOf] at isOwner
    split_ifs at isOwner
    · cases isOwner
      exact recorded.opened session isOpen
    · exact recorded.noted surface home isOwner
  known home isOpenHome := by
    have was := recorded.known home (creates.sessions ▸ isOpenHome)
    rcases creates.adds.sessionInfo with same | ⟨surfaces, -, same⟩
    · rw [same]
      exact was
    · rw [same, Function.update_apply]
      split_ifs
      · rfl
      · exact was
  owned home surface := by
    rw [creates.mem_surfaces, creates.sessionOf, creates.adds.destroyed, recorded.owned]
    split_ifs with new
    · have notDestroyed : before.manager.destroyed before.manager.made = false :=
        Bool.eq_false_iff.mpr fun gone => Nat.lt_irrefl _ (recorded.standing.destroyed _ gone)
      rw [new, notDestroyed]
      refine ⟨?_, fun known => .inl ⟨rfl, (Option.some.inj known.1).symm⟩⟩
      rintro (⟨-, same⟩ | ⟨isOwner, -⟩)
      · exact ⟨by rw [same], rfl⟩
      · exact absurd (recorded.made isOwner) (Nat.lt_irrefl _)
    · simp [new]
  ownedOnce home := by
    rw [creates.surfaces, Function.update_apply]
    split_ifs
    · refine List.nodup_append'.mpr ⟨recorded.ownedOnce session, List.nodup_singleton _,
        List.disjoint_singleton.mpr fun member => ?_⟩
      exact Nat.lt_irrefl _ (recorded.madeOwner session _ member).1
    · exact recorded.ownedOnce home
  stacked surface member := by
    rw [creates.stack] at member
    rcases List.mem_append.mp member with there | new
    · obtain ⟨home, isHome⟩ := recorded.stacked surface there
      exact ⟨home, (creates.mem_surfaces home surface).mpr (.inr isHome)⟩
    · exact ⟨session, (creates.mem_surfaces session surface).mpr
        (.inl ⟨List.mem_singleton.mp new, rfl⟩)⟩
  stackedOnce := by
    rw [creates.stack]
    refine List.nodup_append'.mpr ⟨recorded.stackedOnce, List.nodup_singleton _,
      List.disjoint_singleton.mpr fun there => ?_⟩
    obtain ⟨home, isHome⟩ := recorded.stacked _ there
    exact Nat.lt_irrefl _ (recorded.madeOwner home _ isHome).1
  listed home surfaces known := by
    have still (once : surfaces.Nodup) (each : ∀ surface ∈ surfaces,
        surface ∈ before.surfaces home) : surfaces.Nodup ∧ ∀ surface ∈ surfaces,
          surface ∈ after.surfaces home :=
      ⟨once, fun surface member => (creates.mem_surfaces home surface).mpr
        (.inr (each surface member))⟩
    rcases creates.adds.sessionInfo with same | ⟨surfacesBefore, listed, same⟩
    · rw [same] at known
      obtain ⟨once, each⟩ := recorded.listed home surfaces known
      exact still once each
    · rw [same, Function.update_apply] at known
      split_ifs at known with isSession
      · cases known
        obtain ⟨once, each⟩ := recorded.listed session surfacesBefore listed
        refine ⟨List.nodup_append'.mpr ⟨once, List.nodup_singleton _,
          List.disjoint_singleton.mpr fun member => ?_⟩, fun surface member => ?_⟩
        · exact Nat.lt_irrefl _ (recorded.madeOwner session _ (each _ member)).1
        · refine (creates.mem_surfaces home surface).mpr ?_
          rcases List.mem_append.mp member with there | new
          · exact .inr (isSession ▸ each surface there)
          · exact .inl ⟨List.mem_singleton.mp new, isSession⟩
      · obtain ⟨once, each⟩ := recorded.listed home surfaces known
        exact still once each
  atHome surface next above home known cannot isParent isHome := by
    have stem := creates.adds.stems surface
    rw [known, Option.map_some] at stem
    rw [Manager.lockParent, creates.lock] at isParent
    have aboveMade {other : Option SurfaceID} (made : ∀ named ∈ other, named < before.manager.made)
        (locked : other.bind before.manager.lock = some above) :
        before.sessionOf above = some home := by
      have named := Manager.named_of_locked locked
      rw [creates.sessionOf, if_neg (Nat.ne_of_lt (made above named))] at isHome
      exact isHome
    split_ifs at stem
    · have same : next.stem = ⟨type, session, parent, []⟩ := Option.some.inj stem
      have isNext : next.parent = parent := congrArg SurfaceInfo.parent same
      have isOwn : next.session = session := congrArg SurfaceInfo.session same
      have cannotHere : next.stem.canBeActive = false := cannot
      rw [isNext] at isParent
      rw [same] at cannotHere
      have isOwner := own cannotHere above isParent
      rw [aboveMade parentMade isParent] at isOwner
      rw [isOwn]
      exact Option.some.inj isOwner
    · obtain ⟨info, was, same⟩ := Option.map_eq_some_iff.mp stem.symm
      have sameParent : info.stem.parent = next.stem.parent := congrArg SurfaceInfo.parent same
      have sameParent : info.parent = next.parent := sameParent
      have sameSession : info.stem.session = next.stem.session := congrArg SurfaceInfo.session same
      have sameSession : info.session = next.session := sameSession
      have cannotBefore : info.stem.canBeActive = false := same ▸ cannot
      rw [← sameParent] at isParent
      have made := fun named => recorded.numbered.parents surface info named was
      rw [← sameSession]
      exact recorded.atHome surface info above home was cannotBefore isParent
        (aboveMade made isParent)
  settled surface focused := by
    rw [creates.focusSurface] at focused
    obtain ⟨made, settled⟩ := recorded.settled surface focused
    refine ⟨creates.adds.made ▸ Nat.lt_succ_of_lt made, fun home locked isOwner isOpenHome => ?_⟩
    rw [creates.sessionOf, if_neg (Nat.ne_of_lt made)] at isOwner
    rw [creates.lock] at locked
    rw [creates.focusSession]
    exact settled home locked isOwner (creates.sessions ▸ isOpenHome)

end Creates

namespace Recorded

theorem createSurface (recorded : shell.Recorded) {session : SessionID}
    (isOpen : session ∈ shell.sessions) (type : Option WindowType)
    (parentID foreignParent : Option SurfaceID) :
    (shell.createSurface session type parentID foreignParent).Recorded := by
  unfold AbstractShell.createSurface
  split
  · exact recorded
  · rename_i parent requested
    dsimp only
    split_ifs with unmade
    · exact recorded
    · rcases shell.manager.addSurface_adds session type parent with same | ⟨kind, isKind, adds⟩
      · rw [same] at unmade
        exact absurd rfl unmade
      · have creates : Creates shell { shell with
            manager := (shell.manager.addSurface session type parent).1
            surfaces := Function.update shell.surfaces session
              (shell.surfaces session ++ [shell.manager.made])
            type := Function.update shell.type shell.manager.made (type.getD .normal)
            stack := shell.stack ++ [shell.manager.made] } session kind
              (shell.manager.reference parent) :=
          ⟨adds, rfl, rfl, rfl, rfl, rfl, rfl⟩
        refine creates.recorded recorded isOpen
          (Manager.numbered_step recorded.numbered (.addSurface session type parent))
          (fun other member => of_decide_eq_true (Option.filter_eq_some_iff.mp member).2)
          fun cannot other locked => ?_
        have named := Manager.named_of_locked locked
        unfold requestedParent at requested
        split_ifs at requested with foreign
        split at requested
        · cases requested
          have asked : foreignParent = some other := (Option.filter_eq_some_iff.mp named).1
          rw [named] at locked
          have isInputMethod : type = some .inputmethod := by
            refine not_not.mp fun different => foreign ⟨?_, different⟩
            rw [asked, locked]
            rfl
          rw [isInputMethod] at isKind
          cases isKind
          cases cannot
        · split_ifs at requested with own
          cases requested
          have asked := (Option.filter_eq_some_iff.mp named).1
          cases asked
          exact recorded.owner session _ own

theorem withType (recorded : shell.Recorded) (type : SurfaceID → WindowType) :
    Recorded { shell with type := type } :=
  ⟨recorded.standing, recorded.numbered, recorded.opened, recorded.openedOnce, recorded.noted,
    recorded.known, recorded.owned, recorded.ownedOnce, recorded.stacked, recorded.stackedOnce,
    recorded.listed, recorded.atHome, recorded.settled⟩

/-- What is noted of a surface changes, but not its session. -/
theorem withInfo (recorded : shell.Recorded) {surface : SurfaceID} {info next : SurfaceInfo}
    (known : shell.manager.surfaceInfo surface = some info) (isOwn : next.session = info.session)
    (numbered : (shell.manager.setInfo surface next).Numbered)
    (atHome : next.canBeActive = false → ∀ parent, shell.manager.lockParent next = some parent →
      ∀ home, shell.sessionOf parent = some home → home = next.session) :
    Recorded { shell with manager := shell.manager.setInfo surface next } := by
  have sessionOf : AbstractShell.sessionOf { shell with
      manager := shell.manager.setInfo surface next } = shell.sessionOf := by
    funext other
    show ((shell.manager.setInfo surface next).surfaceInfo other).map _ = _
    rw [Manager.surfaceInfo_setInfo]
    split_ifs with same
    · rw [same, sessionOf_of_known known, Option.map_some, isOwn]
    · rfl
  refine ⟨(Manager.sameSurfaces_setInfo known).standing recorded.standing, numbered,
    recorded.opened, recorded.openedOnce, ?_, recorded.known, ?_, recorded.ownedOnce,
    recorded.stacked, recorded.stackedOnce, recorded.listed, ?_, ?_⟩
  · rw [sessionOf]
    exact recorded.noted
  · rw [sessionOf]
    exact recorded.owned
  · intro other otherInfo parent home isKnown cannot isParent isHome
    rw [sessionOf] at isHome
    have isKnown : (shell.manager.setInfo surface next).surfaceInfo other = some otherInfo :=
      isKnown
    rw [Manager.surfaceInfo_setInfo] at isKnown
    split_ifs at isKnown with same
    · cases isKnown
      exact atHome cannot parent isParent home isHome
    · exact recorded.atHome other otherInfo parent home isKnown cannot isParent isHome
  · rw [sessionOf]
    exact recorded.settled

/-- A modification brings no surface that cannot be active below one of another session. -/
theorem modifySurface (recorded : shell.Recorded) (session : SessionID) (surface : SurfaceID)
    (parentID : Option SurfaceID) (type : Option WindowType) :
    (shell.modifySurface session surface parentID type).Recorded := by
  unfold AbstractShell.modifySurface
  split_ifs with own
  · have modified : Recorded { shell with
        manager := (shell.manager.modifySurface surface ⟨parentID.map some, type⟩).1 } := by
      have numbered := Manager.numbered_step recorded.numbered
        (.modifySurface surface ⟨parentID.map some, type⟩)
      rcases shell.manager.modifySurface_info surface ⟨parentID.map some, type⟩ with
        same | ⟨info, next, known, isParent, isOwn, active, same⟩
      · rw [same]
        exact recorded
      · rw [Manager.step, same] at numbered
        rw [same]
        refine recorded.withInfo known isOwn numbered fun cannot above locked home isHome => ?_
        rw [Manager.lockParent, isParent] at locked
        rw [isOwn]
        cases parentID with
        | none =>
          unfold Manager.askedParent at locked
          dsimp only [Option.map_none] at locked
          split_ifs at locked
          · cases locked
          · exact recorded.atHome surface info above home known (active cannot) locked isHome
        | some parent =>
          have asked : shell.manager.reference (some parent) = some above :=
            Manager.named_of_locked locked
          have named : some parent = some above := (Option.filter_eq_some_iff.mp asked).1
          cases named
          have isOwner := recorded.owner session above (own.2 above rfl)
          have isOwnerToo := recorded.owner session surface own.1
          rw [sessionOf_of_known known] at isOwnerToo
          rw [isHome] at isOwner
          exact (Option.some.inj isOwner).trans (Option.some.inj isOwnerToo).symm
    dsimp only
    split
    · split_ifs
      · exact modified
      · exact modified.withType _
    · exact modified
  · exact recorded

theorem expire (recorded : shell.Recorded) (surface : SurfaceID) :
    (shell.step (.expire surface)).Recorded := by
  have standing := Manager.standing_step recorded.standing surface
  have numbered := Manager.numbered_step recorded.numbered (.expire surface)
  dsimp only [AbstractShell.step, Manager.step] at standing numbered ⊢
  split_ifs at standing numbered ⊢ with gone
  · have locked {other known : SurfaceID}
        (isLocked : (shell.manager.expire surface).lock other = some known) :
        shell.manager.lock other = some known := by
      obtain ⟨same, notExpired⟩ := Manager.lock_eq_some_iff.mp isLocked
      refine Manager.lock_eq_some_iff.mpr ⟨same, ?_⟩
      have notExpired : Function.update shell.manager.expired surface true other = false :=
        notExpired
      rw [Function.update_apply] at notExpired
      split_ifs at notExpired
      exact notExpired
    refine ⟨standing, numbered, recorded.opened, recorded.openedOnce, recorded.noted,
      recorded.known, recorded.owned, recorded.ownedOnce, recorded.stacked, recorded.stackedOnce,
      recorded.listed, fun other info parent home known cannot isParent => ?_,
      fun other focused => ⟨(recorded.settled other focused).1, fun home isLocked => ?_⟩⟩
    · obtain ⟨named, isNamed, isLocked⟩ := Option.bind_eq_some_iff.mp isParent
      refine recorded.atHome other info parent home known cannot ?_
      exact Option.bind_eq_some_iff.mpr ⟨named, isNamed, locked isLocked⟩
    · exact (recorded.settled other focused).2 home (locked isLocked)
  · exact recorded

/-! ### Closing a session -/

theorem endSession (recorded : shell.Recorded) (session : SessionID) :
    (shell.endSession session).1.Recorded := by
  unfold AbstractShell.endSession
  split_ifs with isOpen
  · have listed (home : SessionID) (surfaces : List SurfaceID)
        (known : Function.update shell.manager.sessionInfo session none home = some surfaces) :
        shell.manager.sessionInfo home = some surfaces := by
      rw [Function.update_apply] at known
      split_ifs at known
      exact known
    refine ⟨⟨recorded.standing.registered, recorded.standing.destroyed,
      recorded.standing.expired⟩,
      Manager.numbered_step recorded.numbered (.removeSession session),
      fun home isOpenHome => recorded.opened home (List.mem_of_mem_erase isOpenHome),
      recorded.openedOnce.erase session, recorded.noted, fun home isOpenHome => ?_,
      recorded.owned, recorded.ownedOnce, recorded.stacked, recorded.stackedOnce,
      fun home surfaces known => recorded.listed home surfaces (listed home surfaces known),
      recorded.atHome, fun surface focused => ⟨(recorded.settled surface focused).1,
        fun home locked isOwner isOpenHome => ?_⟩⟩
    · rw [recorded.openedOnce.mem_erase_iff] at isOpenHome
      show (Function.update shell.manager.sessionInfo session none home).isSome = true
      rw [Function.update_of_ne isOpenHome.1]
      exact recorded.known home isOpenHome.2
    · exact (recorded.settled surface focused).2 home locked isOwner
        (List.mem_of_mem_erase isOpenHome)
  · exact recorded

theorem releaseSession (recorded : shell.Recorded) {session : SessionID}
    (unlisted : shell.manager.sessionInfo session = none) :
    (shell.releaseSession session).Recorded := by
  have members (home : SessionID) (surface : SurfaceID) :
      surface ∈ Function.update shell.surfaces session [] home ↔
        surface ∉ shell.surfaces session ∧ surface ∈ shell.surfaces home := by
    rw [Function.update_apply]
    split_ifs with same
    · simp [same]
    · refine ⟨fun member => ⟨fun other => ?_, member⟩, And.right⟩
      exact same (recorded.owner_unique other member)
  refine ⟨⟨recorded.standing.registered, fun surface gone => ?_, fun surface gone => ?_⟩,
    ⟨recorded.numbered.registered, recorded.numbered.parents, recorded.numbered.children⟩,
    recorded.opened, recorded.openedOnce, recorded.noted, recorded.known,
    fun home surface => ?_, fun home => ?_, fun surface member => ?_,
    recorded.stackedOnce.filter _, fun home surfaces known => ?_, recorded.atHome,
    recorded.settled⟩
  · rcases Bool.or_eq_true_iff.mp gone with left | before
    · exact (recorded.madeOwner session surface (of_decide_eq_true left)).1
    · exact recorded.standing.destroyed surface before
  · exact Bool.or_eq_true_iff.mpr (.inr (recorded.standing.expired surface gone))
  · refine (members home surface).trans ?_
    show _ ↔ shell.sessionOf surface = some home ∧
      (decide (surface ∈ shell.surfaces session) || shell.manager.destroyed surface) = false
    rw [recorded.owned home surface, Bool.or_eq_false_iff, decide_eq_false_iff_not]
    exact ⟨fun known => ⟨known.2.1, known.1, known.2.2⟩,
      fun known => ⟨known.2.1, known.1, known.2.2⟩⟩
  · show (Function.update shell.surfaces session [] home).Nodup
    rw [Function.update_apply]
    split_ifs
    · exact List.nodup_nil
    · exact recorded.ownedOnce home
  · obtain ⟨there, notLeft⟩ := List.mem_filter.mp member
    obtain ⟨home, isHome⟩ := recorded.stacked surface there
    exact ⟨home, (members home surface).mpr ⟨of_decide_eq_true notLeft, isHome⟩⟩
  · obtain ⟨once, each⟩ := recorded.listed home surfaces known
    refine ⟨once, fun surface member => (members home surface).mpr ⟨fun other => ?_,
      each surface member⟩⟩
    rw [recorded.owner_unique other (each surface member)] at known
    exact Option.some_ne_none surfaces (known.symm.trans unlisted)

end Recorded

theorem pending_removals (recorded : shell.Recorded) {session : SessionID}
    (isOpen : session ∈ shell.sessions) {addresses : SurfaceID ↪ Nat} {order : List SurfaceID}
    (removals : shell.removals session addresses = .ok order) : shell.Pending session order := by
  obtain ⟨found, isFound, once, -, finds⟩ :=
    removals_finds (recorded.ownedOnce session) addresses
  rw [isFound] at removals
  cases removals
  exact ⟨recorded, isOpen, once, fun surface member => ((finds surface).mp member).1⟩

theorem Recorded.closeSession (recorded : shell.Recorded) {session : SessionID}
    (isOpen : session ∈ shell.sessions) (addresses : SurfaceID ↪ Nat) :
    (shell.closeSession session addresses).1.Recorded := by
  unfold AbstractShell.closeSession
  split
  · exact recorded
  · rename_i order removals
    have removed := (pending_removals recorded isOpen removals).recorded_after
    dsimp only
    split
    · exact removed
    · exact removed.endSession session

theorem closeSession_eq {session : SessionID} {addresses : SurfaceID ↪ Nat}
    {order : List SurfaceID} (removals : shell.removals session addresses = .ok order)
    (removed : (shell.removeSurfaces session order).2 = .ok ()) :
    shell.closeSession session addresses =
      (shell.removeSurfaces session order).1.endSession session := by
  unfold AbstractShell.closeSession
  rw [removals]
  dsimp only
  rw [removed]

/-- A session is closed when all its removals have gone through. -/
theorem closeSession_ok {session : SessionID} {addresses : SurfaceID ↪ Nat}
    (ok : (shell.closeSession session addresses).2 = .ok ()) :
    ∃ order, shell.removals session addresses = .ok order ∧
      (shell.removeSurfaces session order).2 = .ok () := by
  unfold AbstractShell.closeSession at ok
  split at ok
  · cases ok
  · rename_i order removals
    dsimp only at ok
    split at ok
    · cases ok
    · rename_i removed
      exact ⟨order, removals, removed⟩

theorem unlisted_endSession {session : SessionID}
    (ok : (shell.endSession session).2 = .ok ()) :
    (shell.endSession session).1.manager.sessionInfo session = none := by
  unfold AbstractShell.endSession at ok ⊢
  split_ifs at ok ⊢
  exact Function.update_self _ _ _

theorem unlisted_closeSession {session : SessionID} {addresses : SurfaceID ↪ Nat}
    (ok : (shell.closeSession session addresses).2 = .ok ()) :
    (shell.closeSession session addresses).1.manager.sessionInfo session = none := by
  obtain ⟨order, removals, removed⟩ := closeSession_ok ok
  rw [closeSession_eq removals removed] at ok ⊢
  exact unlisted_endSession ok

/-! ### Runs -/

theorem Recorded.step (recorded : shell.Recorded) (op : Op) : (shell.step op).Recorded := by
  cases op with
  | openSession => exact recorded.openSession
  | createSurface session type parentID foreignParent =>
    dsimp only [AbstractShell.step]
    split_ifs with isOpen
    · exact recorded.createSurface isOpen type parentID foreignParent
    · exact recorded
  | modifySurface session surface parentID type =>
    dsimp only [AbstractShell.step]
    split_ifs
    · exact recorded.modifySurface session surface parentID type
    · exact recorded
  | setSurfaceType session surface type =>
    dsimp only [AbstractShell.step]
    split_ifs
    · unfold setSurfaceType
      split_ifs
      · exact recorded.withType _
      · exact recorded
    · exact recorded
  | destroySurface session surface =>
    dsimp only [AbstractShell.step]
    split_ifs with isOpen
    · unfold destroySurface
      split_ifs with member
      · exact recorded.removeSurface isOpen member
      · exact recorded
    · exact recorded
  | selectActiveSurface surface => exact recorded.select _
  | focusNextSession => exact recorded.focusNextSession
  | closeSession session addresses =>
    dsimp only [AbstractShell.step]
    split_ifs with isOpen
    · have closed := recorded.closeSession isOpen addresses
      split
      · exact closed
      · rename_i ok
        exact closed.releaseSession (unlisted_closeSession ok)
    · exact recorded
  | expire surface => exact recorded.expire surface

theorem recorded_of_reaches (reached : Reaches step (fun _ _ => True) initial shell) :
    shell.Recorded :=
  reached.invariant recorded_initial fun _ op recorded _ => recorded.step op

end AbstractShell

end Mir.Shell

/-
This file proves when the shell closes a session cleanly: every surface of the session is removed
once, nothing of it is left behind, the focus moves on, and other sessions keep what they have.

The shell asks the session for its surfaces, and the session skips those that cannot take the
focus; such a surface is left behind unless it is the first. The surfaces are removed in the order
of their addresses while all of them are held: a surface whose parent was removed before it cannot
be removed any more, and what remains of the session stays open. Finally the focus moves on only if
the surface that is active is one of the session's.
-/

import Mathlib.Logic.Equiv.Basic
import Mathlib.Tactic.IntervalCases
import Mir.Shell.FocusPasses

namespace Mir.Shell.AbstractShell

open Transition

variable {shell before after first : AbstractShell} {session : SessionID}

/-! ### What closing a session is for -/

/-- Other sessions have what they had, but for references to surfaces of the session. -/
structure Spares (owner : SurfaceID → Option SessionID) (session : SessionID)
    (before after : AbstractShell) : Prop where
  surfaces : ∀ other, other ≠ session → after.surfaces other = before.surfaces other
  listed : ∀ other, other ≠ session →
    after.manager.sessionInfo other = before.manager.sessionInfo other
  info : ∀ surface info, before.manager.surfaceInfo surface = some info →
    info.session ≠ session → ∃ children,
      after.manager.surfaceInfo surface = some { info with children := children } ∧
        children.filter (owner · ≠ some session) = info.children.filter (owner · ≠ some session)

/-- Every surface of the session is removed once, and nothing refers to any of them. -/
structure ClosesCleanly (shell : AbstractShell) (session : SessionID)
    (addresses : SurfaceID ↪ Nat) : Prop where
  returns : (shell.closeSession session addresses).2 = .ok ()
  once : ∃ order, shell.removals session addresses = .ok order ∧
    ∀ surface, shell.sessionOf surface = some session → order.count surface = 1
  forgotten : ∀ surface, shell.sessionOf surface = some session →
    (shell.closeSession session addresses).1.manager.surfaceInfo surface = none ∧
      surface ∉ (shell.closeSession session addresses).1.stack
  unlisted : (shell.closeSession session addresses).1.manager.sessionInfo session = none ∧
    ∀ other surfaces,
      (shell.closeSession session addresses).1.manager.sessionInfo other = some surfaces →
        ∀ surface ∈ surfaces, shell.sessionOf surface ≠ some session
  unfocused : (shell.closeSession session addresses).1.focusSession ≠ some session ∧
    ∀ surface, shell.sessionOf surface = some session →
      (shell.closeSession session addresses).1.focusSurface ≠ some surface
  spares : Spares shell.sessionOf session shell (shell.closeSession session addresses).1

/-! ### When it is closed so -/

/-- The walk comes to every surface of the session, no parent that can be locked is removed before
a surface below it, and the focus is where the active surface is. -/
structure Closable (shell : AbstractShell) (session : SessionID) (addresses : SurfaceID ↪ Nat) :
    Prop where
  found : ∀ surface, shell.sessionOf surface = some session → shell.Finds session surface
  parents : ∀ surface info parent, shell.manager.surfaceInfo surface = some info →
    info.session = session → shell.manager.lockParent info = some parent →
      (shell.manager.surfaceInfo parent).isSome = true ∧
        (shell.sessionOf parent = some session → addresses surface ≤ addresses parent)
  focus : HomeFocus session shell

/-- The parent of a surface that cannot be active is registered, parents lead in no circle, children
are registered, and a surface of the session is a child of its parent only, and once. -/
structure WellKept (shell : AbstractShell) (session : SessionID) : Prop where
  parents : ∀ surface info parent, shell.manager.surfaceInfo surface = some info →
    info.canBeActive = false → shell.manager.lockParent info = some parent →
      (shell.manager.surfaceInfo parent).isSome = true
  acyclic : Acyclic shell.manager.HasParent
  children : ∀ surface info, shell.manager.surfaceInfo surface = some info →
    ∀ child ∈ info.children, (shell.manager.surfaceInfo child).isSome = true
  own : ∀ surface info child childInfo, shell.manager.surfaceInfo surface = some info →
    child ∈ info.children → shell.manager.surfaceInfo child = some childInfo →
      childInfo.session = session →
        shell.manager.lockParent childInfo = some surface ∧ info.children.count child = 1

/-! ### Other sessions are spared -/

theorem Spares.refl (owner : SurfaceID → Option SessionID) (session : SessionID)
    (shell : AbstractShell) : Spares owner session shell shell :=
  ⟨fun _ _ => rfl, fun _ _ => rfl, fun _ info known _ => ⟨info.children, known, rfl⟩⟩

theorem Spares.trans {middle : AbstractShell} {owner : SurfaceID → Option SessionID}
    (early : Spares owner session before middle) (late : Spares owner session middle after) :
    Spares owner session before after := by
  refine ⟨fun other different => (late.surfaces other different).trans
    (early.surfaces other different), fun other different =>
      (late.listed other different).trans (early.listed other different),
    fun surface info known different => ?_⟩
  obtain ⟨some, knownSome, same⟩ := early.info surface info known different
  obtain ⟨children, knownLast, sameLast⟩ := late.info surface _ knownSome different
  exact ⟨children, knownLast, sameLast.trans same⟩

theorem Removes.spares {surface : SurfaceID} {owner : SurfaceID → Option SessionID}
    (removes : Removes before after session surface) (isOwner : owner surface = some session)
    (noted : before.sessionOf surface = some session) : Spares owner session before after := by
  refine ⟨fun other different => ?_, fun other different => ?_,
    fun other info known different => ?_⟩
  · rw [removes.surfaces, Function.update_of_ne different]
  · obtain ⟨surfaces, -, same⟩ := removes.sessionInfo
    rw [same, Function.update_of_ne different]
  · have notSurface : other ≠ surface := by
      rintro rfl
      rw [sessionOf_of_known known] at noted
      exact different (Option.some.inj noted)
    obtain ⟨children, isNow, same | erased⟩ := removes.kept other info notSurface known
    · exact ⟨children, isNow, by rw [same]⟩
    · refine ⟨children, isNow, ?_⟩
      rw [erased, ← List.erase_filter, List.erase_of_not_mem]
      intro member
      exact of_decide_eq_true (List.mem_filter.mp member).2 isOwner

/-- Other sessions are spared while the surfaces in a list, all of one session, are removed. -/
def Sparing (first : AbstractShell) (session : SessionID) (shell : AbstractShell)
    (rest : List SurfaceID) : Prop :=
  Spares first.sessionOf session first shell ∧
    ∀ surface ∈ rest, first.sessionOf surface = some session

theorem Pending.spares {rest : List SurfaceID} (pending : shell.Pending session rest)
    (ok : (shell.removeSurfaces session rest).2 = .ok ()) :
    Spares shell.sessionOf session shell (shell.removeSurfaces session rest).1 := by
  have spared : Sparing shell session (shell.removeSurfaces session rest).1 [] := by
    refine pending.run ⟨.refl _ _ _, fun surface member => ?_⟩ ok
      fun state surface later statePending stateOk known => ?_
    · exact pending.recorded.owner session surface (pending.members surface member)
    · obtain ⟨removes, -, -⟩ :=
        removeSurface_ok statePending.recorded statePending.isOpen statePending.member stateOk
      have noted := statePending.recorded.owner session surface statePending.member
      exact ⟨known.1.trans (removes.spares (known.2 surface List.mem_cons_self) noted),
        fun other member => known.2 other (List.mem_cons_of_mem _ member)⟩
  exact spared.1

/-! ### What has to hold for it -/

/-- A surface whose removal goes through lies below no surface that was removed before. -/
def Ordered (first : AbstractShell) (order : List SurfaceID) (surface : SurfaceID) : Prop :=
  ∀ info parent, first.manager.surfaceInfo surface = some info →
    first.manager.lockParent info = some parent →
      (first.manager.surfaceInfo parent).isSome = true ∧
        ∃ earlier later, order = earlier ++ surface :: later ∧ parent ∉ earlier

/-- What is left of the surfaces while those in `order` are removed. -/
structure Removing (first : AbstractShell) (order : List SurfaceID) (shell : AbstractShell)
    (rest : List SurfaceID) : Prop where
  lock : shell.manager.lock = first.manager.lock
  old : ∀ surface info, shell.manager.surfaceInfo surface = some info →
    ∃ was, first.manager.surfaceInfo surface = some was ∧ info.parent = was.parent
  gone : ∃ earlier, order = earlier ++ rest ∧
    ∀ surface ∈ earlier, shell.manager.surfaceInfo surface = none ∧ Ordered first order surface

theorem Removing.next {order rest : List SurfaceID} {surface : SurfaceID}
    (removing : Removing first order shell (surface :: rest))
    (pending : shell.Pending session (surface :: rest))
    (ok : (shell.removeSurface session surface).2 = .ok ()) :
    Removing first order (shell.removeSurface session surface).1 rest := by
  obtain ⟨removes, ⟨info, known, registered⟩, -⟩ :=
    removeSurface_ok pending.recorded pending.isOpen pending.member ok
  obtain ⟨earlier, isOrder, gone⟩ := removing.gone
  refine ⟨removes.lock.trans removing.lock, fun other next isNow => ?_, earlier ++ [surface], ?_,
    fun other member => ?_⟩
  · obtain ⟨otherInfo, was, same⟩ := removes.old other next isNow
    obtain ⟨before, wasFirst, sameParent⟩ := removing.old other otherInfo was
    exact ⟨before, wasFirst, by rw [same, ← sameParent]⟩
  · rw [isOrder, List.append_cons]
  · rcases List.mem_append.mp member with old | new
    · refine ⟨Option.eq_none_iff_forall_ne_some.mpr fun next isNow => ?_, (gone other old).2⟩
      obtain ⟨otherInfo, was, -⟩ := removes.old other next isNow
      rw [(gone other old).1] at was
      cases was
    · rw [List.mem_singleton.mp new]
      refine ⟨removes.gone, fun firstInfo parent wasFirst isParent => ?_⟩
      obtain ⟨before, isBefore, sameParent⟩ := removing.old surface info known
      rw [wasFirst] at isBefore
      cases isBefore
      rw [Manager.lockParent, ← sameParent, ← removing.lock] at isParent
      obtain ⟨parentInfo, isKnown⟩ := Option.isSome_iff_exists.mp (registered parent isParent)
      obtain ⟨parentBefore, wasKnown, -⟩ := removing.old parent parentInfo isKnown
      refine ⟨Option.isSome_of_eq_some wasKnown, earlier, rest, isOrder, fun removed => ?_⟩
      rw [(gone parent removed).1] at isKnown
      cases isKnown

theorem Pending.ordered {order : List SurfaceID} (pending : shell.Pending session order)
    (ok : (shell.removeSurfaces session order).2 = .ok ()) :
    ∀ surface ∈ order, Ordered shell order surface := by
  have removing : Removing shell order (shell.removeSurfaces session order).1 [] := by
    refine pending.run ⟨rfl, fun _ info known => ⟨info, known, rfl⟩, [], rfl, fun _ member => ?_⟩ ok
      fun state surface rest statePending stateOk known => known.next statePending stateOk
    cases member
  obtain ⟨earlier, isOrder, gone⟩ := removing.gone
  rw [List.append_nil] at isOrder
  intro surface member
  exact (gone surface (isOrder ▸ member)).2

/-- The focus stays with the session while surfaces are removed none of which is active. -/
structure Elsewhere (session : SessionID) (shell : AbstractShell) (rest : List SurfaceID) :
    Prop where
  focus : shell.focusSession = some session
  active : ∀ surface ∈ shell.surfaces session, shell.activeSurface ≠ some surface

theorem Elsewhere.next {rest : List SurfaceID} {surface : SurfaceID}
    (elsewhere : Elsewhere session shell (surface :: rest))
    (pending : shell.Pending session (surface :: rest))
    (ok : (shell.removeSurface session surface).2 = .ok ()) :
    Elsewhere session (shell.removeSurface session surface).1 rest := by
  obtain ⟨removes, -, unmoved⟩ :=
    removeSurface_ok pending.recorded pending.isOpen pending.member ok
  obtain ⟨sameFocus, sameActive⟩ := unmoved (elsewhere.active surface pending.member)
  refine ⟨sameFocus.trans elsewhere.focus, fun other member => ?_⟩
  have known := ((removes.members session other).mp member).2
  cases locked : shell.manager.activeSurface.bind shell.manager.lock with
  | some active =>
    have still := elsewhere.active other known
    rw [activeSurface_locked locked] at still
    rw [← sameActive, ← removes.lock] at locked
    rw [activeSurface_locked locked]
    exact still
  | none =>
    -- the default surface of the session would be active
    obtain ⟨first, isFirst⟩ : ∃ first, (shell.surfaces session).head? = some first :=
      Option.isSome_iff_exists.mp (List.isSome_head?.mpr (List.ne_nil_of_mem known))
    refine absurd ?_ (elsewhere.active first (List.mem_of_head? isFirst))
    rw [activeSurface_unlocked pending.isOpen elsewhere.focus locked, isFirst]

theorem Pending.homeFocus {order : List SurfaceID} (pending : shell.Pending session order)
    (ok : (shell.removeSurfaces session order).2 = .ok ())
    (unfocused : (shell.removeSurfaces session order).1.focusSession ≠ some session) :
    HomeFocus session shell := by
  intro focus
  by_contra noneActive
  have elsewhere : Elsewhere session (shell.removeSurfaces session order).1 [] := by
    refine pending.run ⟨focus, fun surface member active => ?_⟩ ok
      fun state surface rest statePending stateOk known => known.next statePending stateOk
    exact noneActive ⟨surface, member, active⟩
  exact unfocused elsewhere.focus

theorem focusSession_endSession (shell : AbstractShell) (session : SessionID) :
    (shell.endSession session).1.focusSession = shell.focusSession := by
  unfold endSession
  split_ifs <;> rfl

/-- A session that is closed cleanly could be. -/
theorem ClosesCleanly.closable {addresses : SurfaceID ↪ Nat} (recorded : shell.Recorded)
    (isOpen : session ∈ shell.sessions) (closes : shell.ClosesCleanly session addresses) :
    shell.Closable session addresses := by
  obtain ⟨order, removals, removed⟩ := closeSession_ok closes.returns
  obtain ⟨orderOnce, isOrderOnce, each⟩ := closes.once
  obtain ⟨orderFound, isFound, -, sorted, finds⟩ :=
    removals_finds (recorded.ownedOnce session) addresses
  rw [removals] at isOrderOnce isFound
  cases isOrderOnce
  cases isFound
  have pending := pending_removals recorded isOpen removals
  have member {surface : SurfaceID} (isOwner : shell.sessionOf surface = some session) :
      surface ∈ order := List.count_pos_iff.mp (by rw [each surface isOwner]; exact Nat.one_pos)
  refine ⟨fun surface isOwner => (finds surface).mp (member isOwner),
    fun surface info parent known own isParent => ?_, ?_⟩
  · have isOwner : shell.sessionOf surface = some session := by
      rw [sessionOf_of_known known, own]
    obtain ⟨registered, earlier, later, isOrder, notEarlier⟩ :=
      pending.ordered removed surface (member isOwner) info parent known isParent
    refine ⟨registered, fun isOwnerToo => ?_⟩
    have parentMember := member isOwnerToo
    rw [isOrder] at parentMember sorted
    rcases List.mem_append.mp parentMember with early | late
    · exact absurd early notEarlier
    · obtain ⟨above, -⟩ := List.pairwise_cons.mp (List.pairwise_append.mp sorted).2.1
      rcases List.mem_cons.mp late with rfl | after
      · exact le_rfl
      · exact above parent after
  · refine pending.homeFocus removed ?_
    have unfocused := closes.unfocused.1
    rw [closeSession_eq removals removed, focusSession_endSession] at unfocused
    exact unfocused

/-! ### Every removal goes through -/

/-- What holds while the surfaces of a session are removed, those in `rest` being left. -/
structure Closing (first : AbstractShell) (session : SessionID) (addresses : SurfaceID ↪ Nat)
    (shell : AbstractShell) (rest : List SurfaceID) : Prop where
  kept : shell.WellKept session
  lock : shell.manager.lock = first.manager.lock
  sessions : shell.sessions = first.sessions
  sorted : rest.Pairwise fun first second => addresses first ≤ addresses second
  left : ∀ surface, shell.sessionOf surface = some session → surface ∈ rest
  parents : ∀ surface info parent, shell.manager.surfaceInfo surface = some info →
    info.session = session → shell.manager.lockParent info = some parent →
      (shell.manager.surfaceInfo parent).isSome = true ∧
        (shell.sessionOf parent = some session → addresses surface ≤ addresses parent)
  home : HomeFocus session shell
  settled : FocusSettled first.sessionOf shell
  noted : Extends first.sessionOf shell

/-- A surface that is left of the session does not lie below the one that is removed first. -/
theorem Closing.last {addresses : SurfaceID ↪ Nat} {rest : List SurfaceID} {surface : SurfaceID}
    (closing : Closing first session addresses shell (surface :: rest))
    (noted : shell.sessionOf surface = some session) {other : SurfaceID} {info : SurfaceInfo}
    (known : shell.manager.surfaceInfo other = some info) (different : other ≠ surface)
    (own : info.session = session) : shell.manager.lockParent info ≠ some surface := by
  intro isParent
  have later : other ∈ rest := by
    have member := closing.left other (by rw [sessionOf_of_known known, own])
    exact (List.mem_cons.mp member).resolve_left different
  have above := (List.pairwise_cons.mp closing.sorted).1 other later
  have below := (closing.parents other info surface known own isParent).2 noted
  exact different (addresses.injective (Nat.le_antisymm below above))

/-- Before the surface that is removed first is forgotten, the others can be selected. -/
theorem Closing.selectable {addresses : SurfaceID ↪ Nat} {rest : List SurfaceID}
    {surface : SurfaceID} (closing : Closing first session addresses before (surface :: rest))
    (recorded : before.Recorded) (noted : before.sessionOf surface = some session)
    (discards : Discards before after session surface) :
    after.Selectable fun other =>
      (before.manager.surfaceInfo other).isSome = true ∧ other ≠ surface where
  registered other isThere := by
    rw [discards.registered]
    exact isThere.1
  parents other next parent isThere known cannot isParent := by
    obtain ⟨info, was, same, -⟩ := discards.info known
    rw [same] at cannot isParent
    rw [Manager.lockParent, discards.lock] at isParent
    refine ⟨closing.kept.parents other info parent was cannot isParent, ?_⟩
    rintro rfl
    have atHome := recorded.atHome other info parent session was cannot isParent noted
    exact closing.last noted was isThere.2 atHome.symm isParent
  acyclic := by
    refine closing.kept.acyclic.mono ?_
    rintro source goal ⟨next, known, isParent, registered⟩
    obtain ⟨info, was, same, -⟩ := discards.info known
    rw [same, Manager.lockParent, discards.lock] at isParent
    rw [discards.registered] at registered
    exact ⟨info, was, isParent, registered⟩
  children other next known child member := by
    obtain ⟨info, was, -, fewer⟩ := discards.info known
    rw [discards.registered]
    exact closing.kept.children other info was child (fewer child member)

/-- What is left is still well kept: the surface that is gone is neither the parent of one that
cannot be active nor in any list of children. -/
theorem Closing.kept_next {addresses : SurfaceID ↪ Nat} {rest : List SurfaceID}
    {surface : SurfaceID} (closing : Closing first session addresses before (surface :: rest))
    (recorded : before.Recorded) (noted : before.sessionOf surface = some session)
    (removes : Removes before after session surface) : after.WellKept session where
  parents other next parent known cannot isParent := by
    obtain ⟨different, info, was, same, -⟩ := removes.info known
    rw [same] at cannot isParent
    rw [Manager.lockParent, removes.lock] at isParent
    refine removes.registered ?_ (closing.kept.parents other info parent was cannot isParent)
    rintro rfl
    have atHome := recorded.atHome other info parent session was cannot isParent noted
    exact closing.last noted was different atHome.symm isParent
  acyclic := by
    refine closing.kept.acyclic.mono ?_
    rintro source goal ⟨next, known, isParent, registered⟩
    obtain ⟨-, info, was, same, -⟩ := removes.info known
    obtain ⟨goalNext, goalKnown⟩ := Option.isSome_iff_exists.mp registered
    obtain ⟨-, goalInfo, goalWas, -⟩ := removes.info goalKnown
    rw [same, Manager.lockParent, removes.lock] at isParent
    exact ⟨info, was, isParent, Option.isSome_of_eq_some goalWas⟩
  children other next known child member := by
    obtain ⟨different, info, was, -, fewer, -⟩ := removes.info known
    refine removes.registered ?_ (closing.kept.children other info was child (fewer child member))
    rintro rfl
    obtain ⟨childInfo, childKnown, own⟩ := Option.map_eq_some_iff.mp noted
    obtain ⟨isParent, once⟩ :=
      closing.kept.own other info child childInfo was (fewer child member) childKnown own
    have erased := removes.parent childInfo other info different childKnown isParent was
    cases known.symm.trans erased
    have listed := List.count_pos_iff.mpr member
    rw [List.count_erase_self, once] at listed
    exact Nat.lt_irrefl _ listed
  own other next child childNext known member childKnown own := by
    obtain ⟨-, info, was, -, fewer, lists⟩ := removes.info known
    obtain ⟨different, childInfo, childWas, same, -⟩ := removes.info childKnown
    rw [same] at own
    obtain ⟨isParent, once⟩ :=
      closing.kept.own other info child childInfo was (fewer child member) childWas own
    refine ⟨?_, ?_⟩
    · rw [same, Manager.lockParent, removes.lock]
      exact isParent
    · rcases lists with sameChildren | erased
      · rw [sameChildren, once]
      · rw [erased, List.count_erase_of_ne different, once]

/-- The focus stays where the active surface is if another surface is discarded. -/
theorem HomeFocus.discard {middle : AbstractShell} {surface : SurfaceID}
    (home : HomeFocus session before) (recorded : before.Recorded)
    (isOpen : session ∈ before.sessions) (member : surface ∈ before.surfaces session)
    (discards : Discards before middle session surface)
    (inactive : before.activeSurface ≠ some surface) : HomeFocus session middle := by
  intro focused
  have focusedBefore := discards.focusSession.symm.trans focused
  obtain ⟨active, activeMember, isActive⟩ := home focusedBefore
  have different : active ≠ surface := by
    rintro rfl
    exact inactive isActive
  refine ⟨active, (discards.mem_surfaces recorded member session active).mpr
    ⟨different, activeMember⟩, ?_⟩
  have same : middle.manager.activeSurface.bind middle.manager.lock =
      before.manager.activeSurface.bind before.manager.lock := by
    rw [discards.activeSurface, discards.lock]
  cases locked : before.manager.activeSurface.bind before.manager.lock with
  | some other =>
    rw [activeSurface_locked locked] at isActive
    rw [activeSurface_locked (same.trans locked), isActive]
  | none =>
    rw [activeSurface_unlocked isOpen focusedBefore locked] at isActive
    rw [activeSurface_unlocked (by rw [discards.sessions]; exact isOpen) focused
      (same.trans locked), discards.surfaces, Function.update_self]
    cases are : before.surfaces session with
    | nil =>
      rw [are] at isActive
      cases isActive
    | cons head rest =>
      rw [are] at isActive
      cases isActive
      rw [List.erase_cons_tail (by simpa using different)]
      rfl

theorem Closing.removed {addresses : SurfaceID ↪ Nat} {rest : List SurfaceID} {surface : SurfaceID}
    (closing : Closing first session addresses before (surface :: rest))
    (recorded : before.Recorded) (member : surface ∈ before.surfaces session)
    (removes : Removes before after session surface) (home : HomeFocus session after)
    (settled : FocusSettled first.sessionOf after) :
    Closing first session addresses after rest where
  kept := closing.kept_next recorded (recorded.owner session surface member) removes
  lock := removes.lock.trans closing.lock
  sessions := removes.sessions.trans closing.sessions
  sorted := (List.pairwise_cons.mp closing.sorted).2
  left other isOwner := by
    obtain ⟨different, was⟩ := removes.sessionOf isOwner
    exact (List.mem_cons.mp (closing.left other was)).resolve_left different
  parents other next parent known own isParent := by
    obtain ⟨info, was, same⟩ := removes.old other next known
    obtain ⟨different, -⟩ := removes.sessionOf (sessionOf_of_known known)
    rw [same] at own isParent
    rw [Manager.lockParent, removes.lock] at isParent
    have last := closing.last (recorded.owner session surface member) was different own
    have notSurface : parent ≠ surface := by
      rintro rfl
      exact last isParent
    obtain ⟨registered, ordered⟩ := closing.parents other info parent was own isParent
    obtain ⟨parentInfo, parentKnown⟩ := Option.isSome_iff_exists.mp registered
    obtain ⟨children, isNow, -⟩ := removes.kept parent parentInfo notSurface parentKnown
    exact ⟨Option.isSome_of_eq_some isNow, fun isOwner => ordered (removes.sessionOf isOwner).2⟩
  home := home
  settled := settled
  noted other home isOwner := by
    obtain ⟨-, was⟩ := removes.sessionOf isOwner
    rw [removes.made]
    exact closing.noted other home was

/-- The next removal goes through, as the parent of the surface is still there. -/
theorem Closing.next {addresses : SurfaceID ↪ Nat} {rest : List SurfaceID} {surface : SurfaceID}
    (closing : Closing first session addresses shell (surface :: rest))
    (pending : shell.Pending session (surface :: rest)) :
    (shell.removeSurface session surface).2 = .ok () ∧
      Closing first session addresses (shell.removeSurface session surface).1 rest := by
  have recorded := pending.recorded
  have member := pending.member
  rcases removeSurface_cases recorded pending.isOpen member with
    ⟨info, parent, known, isParent, unknown, -⟩ | ⟨info, discarded, -, -, discards, ended⟩
  · have isOwner := recorded.owner session surface member
    rw [sessionOf_of_known known] at isOwner
    have registered := (closing.parents surface info parent known (Option.some.inj isOwner)
      isParent).1
    rw [unknown] at registered
    cases registered
  · have settled : FocusSettled first.sessionOf discarded := by
      rw [FocusSettled, discards.focusSession, discards.focusSurface, discards.lock,
        discards.sessions, discards.made]
      exact closing.settled
    rcases ended with ⟨inactive, same⟩ | ⟨-, ended⟩
    · have home := closing.home.discard recorded pending.isOpen member discards inactive
      have removes := discards.removes recorded member (.refl discarded)
      rw [same]
      exact ⟨rfl, closing.removed recorded member removes home settled⟩
    · have isOwner := recorded.owner session surface member
      have selectable := closing.selectable recorded isOwner discards
      have isOpen : session ∈ discarded.sessions := by
        rw [discards.sessions]
        exact pending.isOpen
      have all (home : SessionID) (other : SurfaceID) (isMember : other ∈ discarded.surfaces home) :
          (shell.manager.surfaceInfo other).isSome = true ∧ other ≠ surface := by
        obtain ⟨different, was⟩ := (discards.mem_surfaces recorded member home other).mp isMember
        obtain ⟨info, live, -⟩ := recorded.live was
        exact ⟨Option.isSome_of_eq_some live.1, different⟩
      have own (other : SurfaceID)
          (isThere : (shell.manager.surfaceInfo other).isSome = true ∧ other ≠ surface)
          (isOwner : discarded.sessionOf other = some session) :
          other ∈ discarded.surfaces session := by
        rw [discards.sessionOf] at isOwner
        exact (discards.mem_surfaces recorded member session other).mpr
          ⟨isThere.2, pending.members other (closing.left other isOwner)⟩
      obtain ⟨ok, home⟩ := activateNext_spec (discards.recorded recorded member) selectable all own
        isOpen
      have noted : Extends first.sessionOf discarded := by
        rw [Extends, discards.sessionOf, discards.made]
        exact closing.noted
      have owned (home : SessionID) (other : SurfaceID)
          (isMember : other ∈ discarded.surfaces home) :
          other < discarded.manager.made ∧ first.sessionOf other = some home := by
        obtain ⟨-, was⟩ := (discards.mem_surfaces recorded member home other).mp isMember
        rw [discards.made]
        exact closing.noted other home (recorded.owner home other was)
      have moved := settled_activateNext noted owned settled session
      have removes := discards.removes recorded member (moves_activateNext discarded session)
      rcases ended with ⟨-, same⟩ | ⟨failure, failed, -⟩
      · rw [same]
        exact ⟨rfl, closing.removed recorded member removes home moved⟩
      · rw [ok] at failed
        cases failed

/-! ### The start and the end -/

theorem Closable.closing {addresses : SurfaceID ↪ Nat} {order : List SurfaceID}
    (closable : shell.Closable session addresses) (kept : shell.WellKept session)
    (recorded : shell.Recorded)
    (sorted : order.Pairwise fun first second => addresses first ≤ addresses second)
    (finds : ∀ surface, surface ∈ order ↔ shell.Finds session surface) :
    Closing shell session addresses shell order where
  kept := kept
  lock := rfl
  sessions := rfl
  sorted := sorted
  left surface isOwner := (finds surface).mpr (closable.found surface isOwner)
  parents := closable.parents
  home := closable.focus
  settled := recorded.settled
  noted := recorded.extendsSessionOf

theorem spares_endSession (owner : SurfaceID → Option SessionID)
    (isOpen : session ∈ shell.sessions) :
    Spares owner session shell (shell.endSession session).1 := by
  unfold endSession
  rw [if_pos isOpen]
  refine ⟨fun _ _ => rfl, fun other different => ?_, fun _ info known _ =>
    ⟨info.children, known, rfl⟩⟩
  exact Function.update_of_ne different _ _

theorem Closing.gone {addresses : SurfaceID ↪ Nat} {surface : SurfaceID}
    (closing : Closing first session addresses shell [])
    (owner : first.sessionOf surface = some session) :
    shell.manager.surfaceInfo surface = none := by
  refine Option.eq_none_iff_forall_ne_some.mpr fun info known => ?_
  have noted := sessionOf_of_known known
  have isOwner := (closing.noted surface info.session noted).2
  have own := Option.some.inj (isOwner.symm.trans owner)
  cases closing.left surface (by rw [noted, own])

/-- The focus has moved on, as no surface of the session is left to be active. -/
theorem Closing.unfocused {addresses : SurfaceID ↪ Nat}
    (closing : Closing first session addresses shell []) (recorded : shell.Recorded) :
    shell.focusSession ≠ some session := by
  intro focused
  obtain ⟨active, member, -⟩ := closing.home focused
  cases closing.left active (recorded.owner session active member)

/-- A session that can be closed cleanly is, if the surfaces are well kept. -/
theorem Closable.closesCleanly {addresses : SurfaceID ↪ Nat}
    (closable : shell.Closable session addresses) (kept : shell.WellKept session)
    (recorded : shell.Recorded) (isOpen : session ∈ shell.sessions) :
    shell.ClosesCleanly session addresses := by
  obtain ⟨order, removals, once, sorted, finds⟩ :=
    removals_finds (recorded.ownedOnce session) addresses
  have pending := pending_removals recorded isOpen removals
  have start := closable.closing kept recorded sorted finds
  have ok := pending.run_ok start fun _ _ _ statePending closing => closing.next statePending
  have closing : Closing shell session addresses (shell.removeSurfaces session order).1 [] :=
    pending.run start ok fun _ _ _ statePending _ closing => (closing.next statePending).2
  have removed := pending.recorded_after
  have isOpenStill : session ∈ (shell.removeSurfaces session order).1.sessions := by
    rw [closing.sessions]
    exact isOpen
  have spares := (pending.spares ok).trans (spares_endSession shell.sessionOf isOpenStill)
  have same := closeSession_eq removals ok
  rw [endSession, if_pos isOpenStill] at same spares
  refine ⟨by rw [same], ⟨order, removals, fun surface isOwner => ?_⟩, fun surface isOwner => ?_,
    ⟨?_, fun other surfaces listed surface member isOwner => ?_⟩,
    ⟨?_, fun surface isOwner focused => ?_⟩, ?_⟩
  · exact List.count_eq_one_of_mem once ((finds surface).mpr (closable.found surface isOwner))
  · rw [same]
    have gone := closing.gone isOwner
    refine ⟨gone, fun stacked => ?_⟩
    obtain ⟨home, member⟩ := removed.stacked surface stacked
    obtain ⟨info, live, -⟩ := removed.live member
    cases gone.symm.trans live.1
  · rw [same]
    exact Function.update_self _ _ _
  · rw [same] at listed
    have listed : Function.update (shell.removeSurfaces session order).1.manager.sessionInfo session
        none other = some surfaces := listed
    rw [Function.update_apply] at listed
    split_ifs at listed
    obtain ⟨info, live, -⟩ := removed.live ((removed.listed other surfaces listed).2 surface member)
    cases (closing.gone isOwner).symm.trans live.1
  · rw [same]
    exact closing.unfocused removed
  · rw [same] at focused
    have locked : (shell.removeSurfaces session order).1.manager.lock surface = some surface := by
      rw [closing.lock]
      exact recorded.locked (closable.found surface isOwner).1
    exact closing.unfocused removed
      ((closing.settled surface focused).2 session locked isOwner isOpenStill)
  · rw [same]
    exact spares

/-- The walk has to find every surface of the session, each parent that can be locked has to be
there and not at a lower address than the surfaces below it, and the session may have the focus only
with an active surface of its own. -/
theorem session_closes_cleanly {shell : AbstractShell} {session : SessionID}
    (reached : Reaches step (fun _ _ => True) initial shell) (isOpen : session ∈ shell.sessions)
    (addresses : SurfaceID ↪ Nat) :
    (shell.WellKept session → shell.Closable session addresses →
        shell.ClosesCleanly session addresses) ∧
      (shell.ClosesCleanly session addresses → shell.Closable session addresses) := by
  have recorded := recorded_of_reaches reached
  exact ⟨fun kept closable => closable.closesCleanly kept recorded isOpen,
    fun closes => closes.closable recorded isOpen⟩

/-- One session has a window with a menu below it, another has a window of its own. -/
private def menuShown : List Op :=
  [.openSession, .openSession, .createSurface 0 (some .normal) none none,
    .createSurface 1 (some .normal) none none, .createSurface 0 (some .menu) (some 0) none,
    .selectActiveSurface (some 2)]

private theorem menuShown_known {surface : SurfaceID} {info : SurfaceInfo}
    (known : (menuShown.foldl step initial).manager.surfaceInfo surface = some info) :
    surface = 0 ∧ info = ⟨.normal, 0, none, [2]⟩ ∨ surface = 1 ∧ info = ⟨.normal, 1, none, []⟩ ∨
      surface = 2 ∧ info = ⟨.menu, 0, some 0, []⟩ := by
  have reached : Reaches step (fun _ _ => True) initial (menuShown.foldl step initial) :=
    Reaches.start.foldl menuShown (by decide)
  have made : surface < 3 := (recorded_of_reaches reached).numbered.registered surface info known
  interval_cases surface
  · exact .inl ⟨rfl, (Option.some.inj known).symm⟩
  · exact .inr (.inl ⟨rfl, (Option.some.inj known).symm⟩)
  · exact .inr (.inr ⟨rfl, (Option.some.inj known).symm⟩)

/-- The menu is at the lower address. -/
theorem session_closes_cleanly_with_menu :
    (menuShown.foldl step initial).ClosesCleanly 0 (Equiv.swap 0 2).toEmbedding := by
  have reached : Reaches step (fun _ _ => True) initial (menuShown.foldl step initial) :=
    Reaches.start.foldl menuShown (by decide)
  refine (session_closes_cleanly reached (by decide) _).1 ⟨?_, ?_, ?_, ?_⟩ ⟨?_, ?_, ?_⟩
  · intro surface info parent known cannot
    rcases menuShown_known known with ⟨-, rfl⟩ | ⟨-, rfl⟩ | ⟨-, rfl⟩ <;> cases cannot
  · refine .of_lt fun surface parent ⟨info, known, isParent, _⟩ => ?_
    rcases menuShown_known known with ⟨-, rfl⟩ | ⟨-, rfl⟩ | ⟨rfl, rfl⟩
    · cases isParent
    · cases isParent
    · cases isParent
      decide
  · intro surface info known child member
    rcases menuShown_known known with ⟨-, rfl⟩ | ⟨-, rfl⟩ | ⟨-, rfl⟩
    · rw [List.mem_singleton.mp member]
      decide
    · cases member
    · cases member
  · intro surface info child childInfo known member childKnown _
    rcases menuShown_known known with ⟨rfl, rfl⟩ | ⟨-, rfl⟩ | ⟨-, rfl⟩
    · cases List.mem_singleton.mp member
      cases childKnown
      decide
    · cases member
    · cases member
  · intro surface isOwner
    obtain ⟨info, known, own⟩ := Option.map_eq_some_iff.mp isOwner
    rcases menuShown_known known with ⟨rfl, -⟩ | ⟨-, rfl⟩ | ⟨rfl, -⟩
    · decide
    · cases own
    · decide
  · intro surface info parent known own isParent
    rcases menuShown_known known with ⟨-, rfl⟩ | ⟨-, rfl⟩ | ⟨rfl, rfl⟩
    · cases isParent
    · cases own
    · cases isParent
      decide
  · exact fun _ => ⟨2, by decide, by decide⟩

/-- A session has a window with a tip below it. -/
private def tipShown : List Op :=
  [.openSession, .createSurface 0 (some .normal) none none,
    .createSurface 0 (some .tip) (some 0) none]

/-- A tip cannot take the focus, so the walk does not come to it. And a menu at a higher address
than its parent is removed after it, which throws. -/
theorem tip_is_left_behind :
    let closed := (tipShown.foldl step initial).closeSession 0 (.refl _)
    (¬ ∀ shell session (addresses : SurfaceID ↪ Nat),
      Reaches step (fun _ _ => True) initial shell → session ∈ shell.sessions →
        shell.ClosesCleanly session addresses) ∧
    (closed.2 = .ok () ∧ closed.1.manager.surfaceInfo 1 = some ⟨.tip, 0, some 0, []⟩ ∧
      closed.1.stack = [1]) ∧
    ((menuShown.foldl step initial).closeSession 0 (.refl _)).2 = .error (.thrown .outOfRange) := by
  refine ⟨fun claimed => ?_, ⟨by decide, by decide, by decide⟩, by decide⟩
  have reached : Reaches step (fun _ _ => True) initial (tipShown.foldl step initial) :=
    Reaches.start.foldl tipShown (by decide)
  have closes := claimed _ 0 (.refl _) reached (by decide)
  have forgotten := (closes.forgotten 1 (by decide)).1
  revert forgotten
  decide

end Mir.Shell.AbstractShell

/-
This file says which surface of its session comes after another. The session goes through the
surfaces created later, and then through all from the first one on to the surface asked about.
Where the second search finds nothing it stops behind that surface, not behind the last one, and
the session takes what is there for what was found.
-/

import Mir.Shell.SurfaceWalk

namespace Mir.Shell.AbstractShell

variable {shell : AbstractShell} {session : SessionID}

/-- The surfaces of a session that were created after one of them. -/
def createdAfter (shell : AbstractShell) (session : SessionID) (before : SurfaceID) :
    List SurfaceID :=
  ((shell.surfaces session).dropWhile (· ≠ before)).tail

/-- The surfaces of a session once around, from the one after `before` to `before` itself. -/
def roundAfter (shell : AbstractShell) (session : SessionID) (before : SurfaceID) :
    List SurfaceID :=
  shell.createdAfter session before ++ (shell.surfaces session).takeWhile (· ≠ before) ++ [before]

/-- What is found is the first surface of the round that can take the focus, and nothing is found
only if none of the session's surfaces can. -/
structure FindsNext (shell : AbstractShell) (session : SessionID) (before : SurfaceID)
    (found : Option SurfaceID) : Prop where
  first : found = (shell.roundAfter session before).find? shell.takesFocus
  nothing : found = none ↔ ∀ other ∈ shell.surfaces session, shell.takesFocus other = false

instance (shell : AbstractShell) (session : SessionID) (before : SurfaceID)
    (found : Option SurfaceID) : Decidable (shell.FindsNext session before found) :=
  decidable_of_iff (found = (shell.roundAfter session before).find? shell.takesFocus ∧
      (found = none ↔ ∀ other ∈ shell.surfaces session, shell.takesFocus other = false))
    ⟨fun finds => ⟨finds.1, finds.2⟩, fun finds => ⟨finds.first, finds.nothing⟩⟩

/-- The first place of a surface among those of its session. -/
theorem surfaces_split {before : SurfaceID} (member : before ∈ shell.surfaces session) :
    ∃ done later, shell.surfaces session = done ++ before :: later ∧ before ∉ done ∧
      shell.createdAfter session before = later ∧
      shell.roundAfter session before = later ++ (done ++ [before]) := by
  obtain ⟨done, later, are, new⟩ := List.eq_append_cons_of_mem member
  have differs : ∀ other ∈ done, decide (other ≠ before) = true := by
    intro other known
    exact decide_eq_true fun same => new (same ▸ known)
  have after : shell.createdAfter session before = later := by
    rw [createdAfter, are, List.dropWhile_append_of_pos differs,
      List.dropWhile_cons_of_neg (by simp), List.tail_cons]
  refine ⟨done, later, are, new, after, ?_⟩
  rw [roundAfter, after, are, List.takeWhile_append_of_pos differs,
    List.takeWhile_cons_of_neg (by simp), List.append_nil, List.append_assoc]

/-- The round comes to each surface of the session. -/
theorem mem_roundAfter {before : SurfaceID} (member : before ∈ shell.surfaces session)
    (other : SurfaceID) :
    other ∈ shell.roundAfter session before ↔ other ∈ shell.surfaces session := by
  obtain ⟨done, later, are, -, -, round⟩ := surfaces_split member
  rw [round, are, List.append_cons done before later]
  exact List.mem_append.trans (or_comm.trans List.mem_append.symm)

theorem roundAfter_find?_eq_none {before : SurfaceID}
    (member : before ∈ shell.surfaces session) :
    (shell.roundAfter session before).find? shell.takesFocus = none ↔
      ∀ other ∈ shell.surfaces session, shell.takesFocus other = false := by
  simp only [List.find?_eq_none, mem_roundAfter member, Bool.not_eq_true]

/-- The two searches find what one search of the round would, or else the surface that was
created next. -/
theorem surfaceAfter_eq_roundAfter {before : SurfaceID}
    (member : before ∈ shell.surfaces session) :
    shell.surfaceAfter session before =
      .ok (((shell.roundAfter session before).find? shell.takesFocus).or
        (shell.createdAfter session before).head?) := by
  obtain ⟨done, later, are, new, after, round⟩ := surfaces_split member
  rw [surfaceAfter_eq are new, round, after, @List.find?_append _ _ later, Option.or_assoc]

/-- The session finds the next surface exactly if there is one to find, or the surface asked about
is its last. -/
theorem surfaceAfter_findsNext_iff {before : SurfaceID}
    (member : before ∈ shell.surfaces session) :
    (∃ found, shell.surfaceAfter session before = .ok found ∧
        shell.FindsNext session before found) ↔
      (∃ other ∈ shell.surfaces session, shell.takesFocus other = true) ∨
        shell.createdAfter session before = [] := by
  rw [surfaceAfter_eq_roundAfter member]
  have nothing := roundAfter_find?_eq_none member
  constructor
  · rintro ⟨_, ⟨⟩, finds⟩
    by_cases focusable : ∃ other ∈ shell.surfaces session, shell.takesFocus other = true
    · exact .inl focusable
    · have unfocusable : ∀ other ∈ shell.surfaces session, shell.takesFocus other = false :=
        fun other known => Bool.eq_false_iff.mpr fun takes => focusable ⟨other, known, takes⟩
      have isNone := finds.nothing.mpr unfocusable
      rw [nothing.mpr unfocusable, Option.none_or] at isNone
      exact .inr (List.head?_eq_none_iff.mp isNone)
  · intro finds
    have same : ((shell.roundAfter session before).find? shell.takesFocus).or
        (shell.createdAfter session before).head? =
          (shell.roundAfter session before).find? shell.takesFocus := by
      rcases finds with ⟨other, known, takes⟩ | isLast
      · have isFound : ((shell.roundAfter session before).find? shell.takesFocus).isSome = true :=
          List.find?_isSome.mpr ⟨other, (mem_roundAfter member other).mpr known, takes⟩
        obtain ⟨found, first⟩ := Option.isSome_iff_exists.mp isFound
        rw [first, Option.some_or]
      · rw [isLast, List.head?_nil, Option.or_none]
    refine ⟨_, rfl, ?_⟩
    rw [same]
    exact ⟨rfl, nothing⟩

/-- A window with two tips. -/
private def windowWithTips : List Op :=
  [.openSession, .createSurface 0 (some .normal) none none,
    .createSurface 0 (some .tip) (some 0) none, .createSurface 0 (some .tip) (some 0) none]

theorem window_follows_itself :
    ∃ found, (windowWithTips.foldl step initial).surfaceAfter 0 0 = .ok found ∧
      (windowWithTips.foldl step initial).FindsNext 0 0 found :=
  (surfaceAfter_findsNext_iff (by decide)).mpr (.inl ⟨0, by decide, by decide⟩)

/-- The tips are left when the window is destroyed. -/
private def tipsLeft : List Op :=
  windowWithTips ++ [.destroySurface 0 0]

theorem tip_follows_tip :
    let shell := tipsLeft.foldl step initial
    shell.surfaceAfter 0 1 = .ok (some 2) ∧ shell.takesFocus 2 = false ∧
      ¬ ∀ (shell : AbstractShell) (session : SessionID), ∀ before ∈ shell.surfaces session,
        ∃ found, shell.surfaceAfter session before = .ok found ∧
          shell.FindsNext session before found := by
  refine ⟨by decide, by decide, fun claimed => ?_⟩
  obtain ⟨found, after, finds⟩ := claimed (tipsLeft.foldl step initial) 0 1 (by decide)
  have isNone := finds.nothing.mpr (by decide)
  rw [isNone] at after
  revert after
  decide

end Mir.Shell.AbstractShell

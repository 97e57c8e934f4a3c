/-
This file says which surfaces of a session the shell finds when it closes the session. It starts
at the default surface, the first, and asks for the one after until it comes to one it has found
already. The session skips surfaces that cannot take the focus, unless none of its surfaces can:
then the search that comes back to where it started gives the surface after that.
-/

import Mir.Shell.AbstractShell

namespace Mir.Shell.AbstractShell

variable {shell : AbstractShell} {session : SessionID}

def takesFocus (shell : AbstractShell) (surface : SurfaceID) : Bool :=
  canTakeFocus (shell.type surface)

/-- The surfaces of a session that the walk comes to. -/
def Finds (shell : AbstractShell) (session : SessionID) (surface : SurfaceID) : Prop :=
  surface ∈ shell.surfaces session ∧
    (shell.defaultSurface session = some surface ∨ shell.takesFocus surface = true ∨
      ∀ other ∈ shell.surfaces session, shell.takesFocus other = false)

instance (shell : AbstractShell) (session : SessionID) :
    DecidablePred (shell.Finds session) :=
  fun _ => inferInstanceAs (Decidable (_ ∧ (_ ∨ _ ∨ _)))

/-- The surface after one in the middle of the session's surfaces. -/
theorem surfaceAfter_eq {done later : List SurfaceID} {surface : SurfaceID}
    (are : shell.surfaces session = done ++ surface :: later) (new : surface ∉ done) :
    shell.surfaceAfter session surface =
      .ok ((later.find? shell.takesFocus).or
        (((done ++ [surface]).find? shell.takesFocus).or later.head?)) := by
  have differs : ∀ other ∈ done, decide (other ≠ surface) = true := by
    intro other member
    exact decide_eq_true fun same => new (same ▸ member)
  have dropped : (done ++ surface :: later).dropWhile (· ≠ surface) = surface :: later := by
    rw [List.dropWhile_append_of_pos differs, List.dropWhile_cons_of_neg (by simp)]
  have taken : (done ++ surface :: later).takeWhile (· ≠ surface) = done := by
    rw [List.takeWhile_append_of_pos differs, List.takeWhile_cons_of_neg (by simp),
      List.append_nil]
  have takes : (fun other => canTakeFocus (shell.type other)) = shell.takesFocus := rfl
  unfold surfaceAfter
  dsimp only
  rw [are, dropped, taken, takes]
  dsimp only
  cases later.find? shell.takesFocus with
  | some next => rfl
  | none =>
    cases (done ++ [surface]).find? shell.takesFocus with
    | some next => rfl
    | none => rfl

theorem new_of_once {done later : List SurfaceID} {surface : SurfaceID}
    (once : (shell.surfaces session).Nodup)
    (are : shell.surfaces session = done ++ surface :: later) : surface ∉ done := by
  rw [are, List.nodup_middle, List.nodup_cons] at once
  exact fun member => once.1 (List.mem_append_left later member)

theorem collectFrom_new {steps : Nat} {surface : SurfaceID} {found : List SurfaceID}
    {next : Option SurfaceID} (new : surface ∉ found)
    (after : shell.surfaceAfter session surface = .ok next) :
    shell.collectFrom session (steps + 1) (some surface) found =
      shell.collectFrom session steps next (found ++ [surface]) := by
  rw [collectFrom, if_neg new, after]

/-- If no surface can take the focus, each is followed by the next. -/
theorem collectFrom_all
    (unfocusable : ∀ other ∈ shell.surfaces session, shell.takesFocus other = false)
    (once : (shell.surfaces session).Nodup) (later done : List SurfaceID) (surface : SurfaceID)
    (are : shell.surfaces session = done ++ surface :: later) :
    shell.collectFrom session (later.length + 2) (some surface) done =
      .ok (done ++ surface :: later) := by
  have notTaken (others : List SurfaceID) (known : ∀ other ∈ others,
      other ∈ shell.surfaces session) : others.find? shell.takesFocus = none := by
    refine List.find?_eq_none.mpr fun other member => ?_
    rw [unfocusable other (known other member)]
    exact Bool.false_ne_true
  induction later generalizing done surface with
  | nil =>
    have new := new_of_once once are
    have after := surfaceAfter_eq are new
    rw [notTaken (done ++ [surface]) fun other member => are ▸ member] at after
    rw [List.length_nil, collectFrom_new new after]
    rfl
  | cons next rest inductionHypothesis =>
    have new := new_of_once once are
    have known : ∀ other ∈ next :: rest, other ∈ shell.surfaces session := by
      rw [are]
      exact fun other member => List.mem_append_right _ (List.mem_cons_of_mem _ member)
    have knownHere : ∀ other ∈ done ++ [surface], other ∈ shell.surfaces session := by
      rw [are, List.append_cons done surface (next :: rest)]
      exact fun other member => List.mem_append_left _ member
    have after := surfaceAfter_eq are new
    rw [notTaken _ known, notTaken _ knownHere] at after
    rw [List.length_cons, collectFrom_new new after]
    have walked := inductionHypothesis (done ++ [surface]) next (by rw [are, List.append_cons])
    rw [← List.append_cons] at walked
    exact walked

/-- If a surface can take the focus, all that can are found after the first. -/
theorem collectFrom_focusable {last : SurfaceID} (known : last ∈ shell.surfaces session)
    (focusable : shell.takesFocus last = true) (once : (shell.surfaces session).Nodup)
    (steps : Nat) (later done found : List SurfaceID) (surface : SurfaceID)
    (are : shell.surfaces session = done ++ surface :: later) (fewer : found ⊆ done)
    (all : ∀ other ∈ done, shell.takesFocus other = true → other ∈ found)
    (enough : later.length + 2 ≤ steps) :
    shell.collectFrom session steps (some surface) found =
      .ok (found ++ surface :: later.filter shell.takesFocus) := by
  induction steps generalizing later done found surface with
  | zero => exact absurd enough (Nat.not_succ_le_zero _)
  | succ steps inductionHypothesis =>
    have new := new_of_once once are
    have notFound : surface ∉ found := fun member => new (fewer member)
    have after := surfaceAfter_eq are new
    have fewerHere : ∀ other ∈ found ++ [surface], other ∈ done ++ [surface] := by
      intro other member
      rcases List.mem_append.mp member with before | here
      · exact List.mem_append_left _ (fewer before)
      · exact List.mem_append_right _ here
    have allHere : ∀ other ∈ done ++ [surface], shell.takesFocus other = true →
        other ∈ found ++ [surface] := by
      intro other member takes
      rcases List.mem_append.mp member with before | here
      · exact List.mem_append_left _ (all other before takes)
      · exact List.mem_append_right _ here
    rw [collectFrom_new notFound after]
    cases next : later.find? shell.takesFocus with
    | some other =>
      obtain ⟨takes, skipped, rest, rfl, skips⟩ := List.find?_eq_some_iff_append.mp next
      have left : (skipped ++ other :: rest).filter shell.takesFocus =
          other :: rest.filter shell.takesFocus := by
        rw [List.filter_append, List.filter_cons_of_pos takes, List.filter_eq_nil_iff.mpr,
          List.nil_append]
        exact fun item member => by simpa using skips item member
      have shorter : rest.length + 2 ≤ steps := by
        rw [List.length_append, List.length_cons] at enough
        omega
      have split : shell.surfaces session = done ++ [surface] ++ skipped ++ other :: rest := by
        rw [are]
        simp
      have walked := inductionHypothesis rest (done ++ [surface] ++ skipped) (found ++ [surface])
        other split (fun item member => List.mem_append_left _ (fewerHere item member))
        (fun item member takesToo => ?_) shorter
      · rw [Option.some_or, left, walked,
          List.append_cons found surface (other :: rest.filter shell.takesFocus)]
      · rcases List.mem_append.mp member with here | between
        · exact allHere item here takesToo
        · have passed := skips item between
          rw [takesToo] at passed
          cases passed
    | none =>
      have isFirst : ∃ other, (done ++ [surface]).find? shell.takesFocus = some other := by
        refine Option.isSome_iff_exists.mp (List.find?_isSome.mpr ⟨last, ?_, focusable⟩)
        rw [are, List.append_cons] at known
        refine (List.mem_append.mp known).resolve_right fun after => ?_
        exact absurd focusable (List.find?_eq_none.mp next last after)
      obtain ⟨other, first⟩ := isFirst
      have isFound := allHere other (List.mem_of_find?_eq_some first)
        (List.find?_some first)
      have left : later.filter shell.takesFocus = [] :=
        List.filter_eq_nil_iff.mpr (List.find?_eq_none.mp next)
      rw [Option.none_or, first, Option.some_or, left]
      cases steps with
      | zero => exact absurd enough (by omega)
      | succ steps => rw [collectFrom, if_pos isFound]

/-- What is collected when a session is closed. -/
theorem collect_finds (once : (shell.surfaces session).Nodup) :
    ∃ found, shell.collect session = .ok found ∧ found.Nodup ∧
      ∀ surface, surface ∈ found ↔ shell.Finds session surface := by
  unfold collect Finds defaultSurface
  cases are : shell.surfaces session with
  | nil => exact ⟨[], rfl, List.nodup_nil, fun surface => by simp⟩
  | cons first rest =>
    have startsAt : shell.surfaces session = [] ++ first :: rest := are
    have onceHere : (first :: rest).Nodup := are ▸ once
    obtain ⟨firstOnce, restOnce⟩ := List.nodup_cons.mp onceHere
    by_cases focusable : ∃ last ∈ first :: rest, shell.takesFocus last = true
    · obtain ⟨last, known, takes⟩ := focusable
      have walked := collectFrom_focusable (are ▸ known) takes once (rest.length + 2) rest [] []
        first startsAt (fun _ member => member) (fun _ member _ => member) le_rfl
      refine ⟨_, walked, ?_, fun surface => ?_⟩
      · exact List.nodup_cons.mpr ⟨fun member => firstOnce (List.mem_of_mem_filter member),
          restOnce.filter _⟩
      · have notAll : ¬ ∀ other ∈ first :: rest, shell.takesFocus other = false := by
          intro unfocusable
          rw [unfocusable last known] at takes
          cases takes
        constructor
        · intro member
          rcases List.mem_cons.mp member with rfl | kept
          · exact ⟨List.mem_cons_self, .inl rfl⟩
          · obtain ⟨later, takesToo⟩ := List.mem_filter.mp kept
            exact ⟨List.mem_cons_of_mem _ later, .inr (.inl takesToo)⟩
        · rintro ⟨member, isFirst | takesToo | unfocusable⟩
          · exact List.mem_cons.mpr (.inl (Option.some.inj isFirst).symm)
          · refine List.mem_cons.mpr ((List.mem_cons.mp member).imp_right fun later => ?_)
            exact List.mem_filter.mpr ⟨later, takesToo⟩
          · exact absurd unfocusable notAll
    · have unfocusable : ∀ other ∈ first :: rest, shell.takesFocus other = false :=
        fun other member => Bool.eq_false_iff.mpr fun takes => focusable ⟨other, member, takes⟩
      have walked := collectFrom_all (are ▸ unfocusable) once rest [] first startsAt
      exact ⟨_, walked, onceHere, fun surface =>
        ⟨fun member => ⟨member, .inr (.inr unfocusable)⟩, And.left⟩⟩

/-- They are removed once each, in the order of their addresses. -/
theorem removals_finds (once : (shell.surfaces session).Nodup) (addresses : SurfaceID ↪ Nat) :
    ∃ order, shell.removals session addresses = .ok order ∧ order.Nodup ∧
      order.Pairwise (fun first second => addresses first ≤ addresses second) ∧
      ∀ surface, surface ∈ order ↔ shell.Finds session surface := by
  obtain ⟨found, collected, foundOnce, finds⟩ := collect_finds once
  have total : Std.Total fun first second : SurfaceID => addresses first ≤ addresses second :=
    ⟨fun first second => Nat.le_total _ _⟩
  have transitive : IsTrans SurfaceID fun first second => addresses first ≤ addresses second :=
    ⟨fun _ _ _ => Nat.le_trans⟩
  refine ⟨byAddress addresses found, by rw [removals, collected]; rfl, ?_,
    List.pairwise_insertionSort _ found, fun surface => ?_⟩
  · exact (List.perm_insertionSort _ found).nodup_iff.mpr foundOnce
  · exact (List.mem_insertionSort _).trans (finds surface)

end Mir.Shell.AbstractShell

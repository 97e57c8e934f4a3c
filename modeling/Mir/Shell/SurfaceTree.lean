/-
This file proves what keeps the parents and children of surfaces in step. Adding and
removing a surface keep them so; a modification rewrites the parent of a surface and
leaves the lists of children as they were, so they stay in step only if the parent does
not really change.

A live surface is one that is registered and that its session has not destroyed. While
parents and children are in step, a child is newer than its parent, so the trees of live
surfaces are finite and can be moved and raised.
-/

import Mir.Library.Forest
import Mir.Shell.WindowManager

namespace Mir.Shell

open Transition Forest Mir.Geometry

/-- The links of a surface to others. -/
def SurfaceInfo.links (info : SurfaceInfo) : Links := ⟨info.parent, info.children⟩

namespace Manager

/-! ### In step -/

/-- A surface is registered with this information and was not destroyed. -/
def LiveAs (manager : Manager) (surface : SurfaceID) (info : SurfaceInfo) : Prop :=
  manager.surfaceInfo surface = some info ∧ manager.destroyed surface = false

def isLive (manager : Manager) (surface : SurfaceID) : Bool :=
  (manager.surfaceInfo surface).isSome && !manager.destroyed surface

/-- The parent of a surface if that is live. -/
def liveParent (manager : Manager) (parent : Option SurfaceID) : Option SurfaceID :=
  parent.filter manager.isLive

/-- A live surface is in the list of children of another exactly when that is its parent, it is
there once, and every child in such a list is registered. -/
structure InStep (manager : Manager) : Prop where
  children : ∀ parent parentInfo child childInfo, manager.LiveAs parent parentInfo →
    manager.LiveAs child childInfo →
    (child ∈ parentInfo.children ↔ childInfo.parent = some parent)
  once : ∀ parent info, manager.LiveAs parent info → info.children.Nodup
  registered : ∀ parent info, manager.LiveAs parent info → ∀ child ∈ info.children,
    (manager.surfaceInfo child).isSome

/-- The links of the live surfaces. -/
def node (manager : Manager) (surface : SurfaceID) : Option Links :=
  if manager.destroyed surface then none
  else (manager.surfaceInfo surface).map SurfaceInfo.links

/-- The invariant: the live surfaces are a well linked forest. -/
structure Tree (manager : Manager) : Prop where
  linked : WellLinked manager.node manager.made
  made : ∀ surface info, manager.surfaceInfo surface = some info → surface < manager.made
  destroyedMade : ∀ surface, manager.destroyed surface = true → surface < manager.made
  expired : ∀ surface, manager.expired surface = true → manager.destroyed surface = true

theorem node_of_live {manager : Manager} {surface : SurfaceID} {info : SurfaceInfo}
    (live : manager.LiveAs surface info) : manager.node surface = some info.links := by
  rw [node, live.2, live.1]
  rfl

theorem live_of_node {manager : Manager} {surface : SurfaceID} {links : Links}
    (there : manager.node surface = some links) :
    ∃ info, manager.LiveAs surface info ∧ info.links = links := by
  unfold node at there
  split_ifs at there with destroyed
  obtain ⟨info, registered, same⟩ := Option.map_eq_some_iff.mp there
  exact ⟨info, ⟨registered, Bool.eq_false_iff.mpr destroyed⟩, same⟩

theorem Tree.inStep {manager : Manager} (tree : manager.Tree) : manager.InStep where
  children parent parentInfo child childInfo live childLive := by
    have members := tree.linked.children parent parentInfo.links (node_of_live live) child
    refine members.trans ⟨?_, fun same => ⟨childInfo.links, node_of_live childLive, same⟩⟩
    rintro ⟨links, there, same⟩
    rw [node_of_live childLive] at there
    rw [← Option.some.inj there] at same
    exact same
  once parent info live := tree.linked.once parent info.links (node_of_live live)
  registered parent info live child member := by
    obtain ⟨links, there, -⟩ := tree.linked.child_there (node_of_live live) member
    obtain ⟨childInfo, childLive, -⟩ := live_of_node there
    rw [childLive.1]
    rfl

theorem tree_initial : initial.Tree where
  linked := wellLinked_empty
  made surface info registered := by cases registered
  destroyedMade surface destroyed := by cases destroyed
  expired surface expired := by cases expired

/-! ### Walking over trees -/

section Below

variable {manager : Manager} {there : SurfaceID → Prop}

theorem Tree.deeper {bound surface child depth : Nat} (deep : bound < surface + (depth + 1))
    (newer : surface < child) : bound < child + depth := by
  omega

/-- What is below a surface can be collected if children are registered and newer; the depth needed
is the number of newer surfaces. -/
theorem addChildren_ok (below : ∀ surface, there surface → surface < manager.made ∧
      ∃ info, manager.surfaceInfo surface = some info ∧
        ∀ child ∈ info.children, there child ∧ surface < child) (depth : Nat)
    {surface : SurfaceID} (isThere : there surface) (deep : manager.made < surface + depth) :
    ∃ surfaces, manager.addChildren depth surface = .ok surfaces := by
  induction depth generalizing surface with
  | zero => exact absurd (below surface isThere).1 (Nat.not_lt.mpr (Nat.le_of_lt deep))
  | succ depth inductionHypothesis =>
    obtain ⟨-, info, isKnown, childThere⟩ := below surface isThere
    have each (children : List SurfaceID) (known : ∀ child ∈ children, child ∈ info.children) :
        ∃ surfaces, children.mapM (manager.addChildren depth) = .ok surfaces := by
      induction children with
      | nil => exact ⟨[], rfl⟩
      | cons child rest collected =>
        obtain ⟨isChildThere, newer⟩ := childThere child (known child List.mem_cons_self)
        obtain ⟨first, firstOk⟩ := inductionHypothesis isChildThere (Tree.deeper deep newer)
        obtain ⟨others, othersOk⟩ :=
          collected fun other member => known other (List.mem_cons_of_mem _ member)
        refine ⟨first :: others, ?_⟩
        rw [List.mapM_cons, firstOk, othersOk]
        rfl
    obtain ⟨surfaces, collected⟩ := each info.children fun child member => member
    refine ⟨info.children ++ surfaces.flatten, ?_⟩
    rw [addChildren, infoFor, isKnown]
    change (info.children.mapM (manager.addChildren depth) >>= _) = _
    rw [collected]
    rfl

theorem raiseTree_ok (below : ∀ surface, there surface → surface < manager.made ∧
      ∃ info, manager.surfaceInfo surface = some info ∧
        ∀ child ∈ info.children, there child ∧ surface < child) {root : SurfaceID}
    (isThere : there root) : ∃ surfaces, manager.raiseTree root = .ok surfaces := by
  obtain ⟨surfaces, collected⟩ := addChildren_ok below (manager.made + 1) isThere (by omega)
  refine ⟨root :: surfaces, ?_⟩
  rw [raiseTree, collected]
  rfl

end Below

namespace Tree

variable {manager : Manager}

theorem lock_live (tree : manager.Tree) {surface : SurfaceID} {info : SurfaceInfo}
    (live : manager.LiveAs surface info) : manager.lock surface = some surface := by
  refine if_neg fun expired => ?_
  exact absurd live.2 (Bool.eq_false_iff.mp · (tree.expired surface expired))

theorem infoFor_live {surface : SurfaceID} {info : SurfaceInfo}
    (live : manager.LiveAs surface info) : manager.infoFor surface = .ok info := by
  unfold infoFor
  rw [live.1]

/-- A child of a live surface is live and newer. -/
theorem child (tree : manager.Tree) {surface child : SurfaceID} {info : SurfaceInfo}
    (live : manager.LiveAs surface info) (member : child ∈ info.children) :
    ∃ childInfo, manager.LiveAs child childInfo ∧ surface < child := by
  obtain ⟨links, there, named⟩ := tree.linked.child_there (node_of_live live) member
  obtain ⟨childInfo, childLive, same⟩ := live_of_node there
  exact ⟨childInfo, childLive,
    tree.linked.newer surface info.links child links (node_of_live live) there named⟩

/-- What is below a live surface can be raised with it. -/
theorem raiseTree_ok (tree : manager.Tree) {root : SurfaceID} {info : SurfaceInfo}
    (live : manager.LiveAs root info) : ∃ surfaces, manager.raiseTree root = .ok surfaces := by
  have below : ∀ surface, (∃ info, manager.LiveAs surface info) → surface < manager.made ∧
      ∃ info, manager.surfaceInfo surface = some info ∧
        ∀ child ∈ info.children, (∃ info, manager.LiveAs child info) ∧ surface < child := by
    rintro surface ⟨info, live⟩
    refine ⟨tree.made surface info live.1, info, live.1, fun child member => ?_⟩
    obtain ⟨childInfo, childLive, newer⟩ := tree.child live member
    exact ⟨⟨childInfo, childLive⟩, newer⟩
  exact Manager.raiseTree_ok below ⟨info, live⟩

/-- A live surface can be moved with all that is below it. -/
theorem moveTree_ok (tree : manager.Tree) (movement : Point) (depth : Nat) {surface : SurfaceID}
    {info : SurfaceInfo} (live : manager.LiveAs surface info)
    (deep : manager.made < surface + depth) (topLeft : SurfaceID → Point) :
    ∃ moved, manager.moveTree movement depth (some surface) topLeft = .ok moved := by
  induction depth generalizing surface info topLeft with
  | zero => exact absurd (tree.made surface info live.1) (Nat.not_lt.mpr (Nat.le_of_lt deep))
  | succ depth inductionHypothesis =>
    have each (children : List SurfaceID) (known : ∀ child ∈ children, child ∈ info.children)
        (topLeft : SurfaceID → Point) :
        ∃ moved, children.foldlM (fun topLeft child =>
          manager.moveTree movement depth (manager.lock child) topLeft) topLeft = .ok moved := by
      induction children generalizing topLeft with
      | nil => exact ⟨topLeft, rfl⟩
      | cons child rest moved =>
        obtain ⟨childInfo, childLive, newer⟩ := tree.child live (known child List.mem_cons_self)
        obtain ⟨first, firstOk⟩ := inductionHypothesis childLive (deeper deep newer) topLeft
        obtain ⟨others, othersOk⟩ :=
          moved (fun other member => known other (List.mem_cons_of_mem _ member)) first
        refine ⟨others, ?_⟩
        rw [List.foldlM_cons, tree.lock_live childLive, firstOk]
        exact othersOk
    obtain ⟨moved, ok⟩ := each info.children (fun child member => member)
      (Function.update topLeft surface
        ⟨(topLeft surface).x + movement.x, (topLeft surface).y + movement.y⟩)
    refine ⟨moved, ?_⟩
    rw [moveTree, infoFor_live live]
    exact ok

end Tree

/-! ### What changes a tree -/

theorem isLive_iff (manager : Manager) (surface : SurfaceID) :
    manager.isLive surface = true ↔ (manager.node surface).isSome = true := by
  unfold isLive node
  cases manager.destroyed surface <;> simp

theorem liveParent_eq_some (manager : Manager) (parent : Option SurfaceID) (surface : SurfaceID) :
    manager.liveParent parent = some surface ↔
      parent = some surface ∧ manager.isLive surface = true :=
  Option.filter_eq_some_iff

theorem named_of_locked {manager : Manager} {parent : Option SurfaceID} {surface : SurfaceID}
    (locked : parent.bind manager.lock = some surface) : parent = some surface := by
  obtain ⟨other, named, found⟩ := Option.bind_eq_some_iff.mp locked
  unfold lock at found
  split_ifs at found
  rw [named, found]

theorem registered_of_setInfo {manager : Manager} {surface other : SurfaceID}
    {info otherInfo : SurfaceInfo}
    (known : (manager.setInfo surface info).surfaceInfo other = some otherInfo) :
    other = surface ∨ manager.surfaceInfo other = some otherInfo := by
  by_cases same : other = surface
  · exact .inl same
  · exact .inr ((Function.update_of_ne same _ _).symm.trans known)

/-- Information about a live surface is replaced in its node, about another one in none. -/
theorem node_setInfo (manager : Manager) (surface : SurfaceID) (info : SurfaceInfo) :
    (manager.setInfo surface info).node =
      if manager.destroyed surface then manager.node
      else Function.update manager.node surface (some info.links) := by
  funext other
  by_cases destroyed : manager.destroyed surface = true
  · rw [if_pos destroyed]
    by_cases same : other = surface
    · simp [node, setInfo, same, destroyed]
    · simp [node, setInfo, same]
  · rw [if_neg destroyed]
    by_cases same : other = surface
    · simp [node, setInfo, same, destroyed]
    · simp [node, setInfo, same]

theorem node_destroy (manager : Manager) (surface : SurfaceID) :
    (manager.destroy surface).node = Function.update manager.node surface none := by
  funext other
  unfold node destroy
  by_cases same : other = surface
  · subst same
    simp
  · simp [same]

theorem node_forget (manager : Manager) (surface : SurfaceID)
    (destroyed : manager.destroyed surface = true) :
    (manager.forget surface).node = manager.node := by
  funext other
  unfold node forget
  by_cases same : other = surface
  · subst same
    simp [destroyed]
  · simp [same]

namespace Tree

variable {manager : Manager}

/-- What sessions have, and which surface is active, has nothing to do with trees. -/
theorem sessions (tree : manager.Tree) {other : Manager}
    (info : other.surfaceInfo = manager.surfaceInfo) (made : other.made = manager.made)
    (destroyed : other.destroyed = manager.destroyed) (expired : other.expired = manager.expired) :
    other.Tree := by
  have node : other.node = manager.node := by
    funext surface
    unfold Manager.node
    rw [info, destroyed]
  refine ⟨?_, ?_, ?_, ?_⟩
  · rw [node, made]
    exact tree.linked
  · rw [info, made]
    exact tree.made
  · rw [destroyed, made]
    exact tree.destroyedMade
  · rw [expired, destroyed]
    exact tree.expired

theorem not_destroyed_made (tree : manager.Tree) : manager.destroyed manager.made = false :=
  Bool.eq_false_iff.mpr fun destroyed =>
    absurd (tree.destroyedMade _ destroyed) (Nat.lt_irrefl _)

theorem node_of_unlocked (tree : manager.Tree) {surface : SurfaceID}
    (unlocked : manager.lock surface = none) : manager.node surface = none := by
  unfold lock at unlocked
  split_ifs at unlocked with expired
  rw [node, if_pos (tree.expired surface expired)]

theorem node_of_unregistered {surface : SurfaceID}
    (unregistered : manager.surfaceInfo surface = none) : manager.node surface = none := by
  rw [node, unregistered, Option.map_none, ite_self]

/-- Information about a destroyed surface is replaced. -/
theorem setInfo_destroyed (tree : manager.Tree) {surface : SurfaceID}
    (destroyed : manager.destroyed surface = true) (info : SurfaceInfo) :
    (manager.setInfo surface info).Tree := by
  refine ⟨?_, fun other otherInfo registered => ?_, tree.destroyedMade, tree.expired⟩
  · rw [node_setInfo, if_pos destroyed]
    exact tree.linked
  · rcases registered_of_setInfo registered with rfl | before
    · exact tree.destroyedMade other destroyed
    · exact tree.made other otherInfo before

/-! ### A surface is added -/

section Add

variable (session : SessionID) (type : WindowType) (parent : Option SurfaceID)

theorem node_registerSurface (tree : manager.Tree) :
    (manager.registerSurface session type parent).node =
      Function.update manager.node manager.made (some ⟨parent, []⟩) := by
  have same : (manager.registerSurface session type parent).node =
      (manager.setInfo manager.made ⟨type, session, parent, []⟩).node := rfl
  rw [same, node_setInfo, if_neg (Bool.eq_false_iff.mp tree.not_destroyed_made)]
  rfl

theorem registerSurface_made (tree : manager.Tree) (surface : SurfaceID) (info : SurfaceInfo)
    (known : (manager.registerSurface session type parent).surfaceInfo surface = some info) :
    surface < manager.made + 1 := by
  rcases registered_of_setInfo known with rfl | before
  · exact Nat.lt_succ_self _
  · exact Nat.lt_succ_of_lt (tree.made surface info before)

/-- A new surface without a live parent. -/
theorem register_orphan (tree : manager.Tree)
    (below : ∀ other, parent = some other → other < manager.made)
    (orphan : ∀ other, parent = some other → manager.node other = none) :
    (manager.registerSurface session type parent).Tree := by
  refine ⟨?_, registerSurface_made session type parent tree, ?_, tree.expired⟩
  · rw [node_registerSurface session type parent tree]
    exact tree.linked.attach_orphan parent below orphan
  · exact fun surface destroyed => Nat.lt_succ_of_lt (tree.destroyedMade surface destroyed)

/-- A new surface that its live parent is told about. -/
theorem register_child (tree : manager.Tree) {surface : SurfaceID} {info : SurfaceInfo}
    (live : manager.LiveAs surface info) :
    ((manager.registerSurface session type (some surface)).setInfo surface
      { info with children := info.children ++ [manager.made] }).Tree := by
  have alive : ¬ (manager.registerSurface session type (some surface)).destroyed surface = true :=
    Bool.eq_false_iff.mp live.2
  refine ⟨?_, fun other otherInfo known => ?_, ?_, tree.expired⟩
  · rw [node_setInfo, if_neg alive, node_registerSurface session type _ tree]
    exact tree.linked.attach_child (node_of_live live)
  · rcases registered_of_setInfo known with rfl | before
    · exact Nat.lt_succ_of_lt (tree.made other info live.1)
    · exact registerSurface_made session type _ tree other otherInfo before
  · exact fun other destroyed => Nat.lt_succ_of_lt (tree.destroyedMade other destroyed)

theorem recordSurface (tree : manager.Tree) (surface : SurfaceID) :
    (manager.recordSurface session surface).1.Tree := by
  unfold Manager.recordSurface
  split
  · exact tree
  · exact tree.sessions rfl rfl rfl rfl

theorem handleNewSurface (tree : manager.Tree)
    (below : ∀ other, parent = some other → other < manager.made) :
    (manager.handleNewSurface session type parent).1.Tree := by
  have orphan := tree.register_orphan session type parent below
  unfold Manager.handleNewSurface
  cases locked : parent.bind manager.lock with
  | none =>
    refine (orphan fun other named => ?_).recordSurface session _
    rw [named, Option.bind_some] at locked
    exact tree.node_of_unlocked locked
  | some surface =>
    obtain rfl := named_of_locked locked
    have same : (manager.registerSurface session type (some surface)).surfaceInfo surface =
        manager.surfaceInfo surface :=
      Function.update_of_ne (Nat.ne_of_lt (below surface rfl)) _ _
    dsimp only
    simp only [same]
    cases known : manager.surfaceInfo surface with
    | none =>
      refine orphan fun other named => ?_
      exact Option.some.inj named ▸ node_of_unregistered known
    | some info =>
      refine Tree.recordSurface _ ?_ _
      cases destroyed : manager.destroyed surface with
      | false => exact tree.register_child session type ⟨known, destroyed⟩
      | true =>
        refine (orphan fun other named => ?_).setInfo_destroyed destroyed _
        rw [← Option.some.inj named, node, if_pos destroyed]

theorem addSurface (tree : manager.Tree) (type : Option WindowType) :
    (manager.addSurface session type parent).1.Tree := by
  have below (other : SurfaceID) (named : manager.reference parent = some other) :
      other < manager.made :=
    of_decide_eq_true (Option.filter_eq_some_iff.mp named).2
  unfold Manager.addSurface
  dsimp only
  split
  · exact tree
  · split_ifs
    · exact tree
    · exact tree
    · exact tree.handleNewSurface session _ _ below

end Add

end Tree

/-! ### A surface is modified -/

/-- The type of a surface changes to one that has no parent. -/
def losesParent (info : SurfaceInfo) (modifications : Modifications) : Bool :=
  match modifications.type with
  | none => false
  | some newType => decide (info.type ≠ newType) && mustNotHaveParent newType

/-- The parent a modification asks for. -/
def askedParent (manager : Manager) (info : SurfaceInfo) (modifications : Modifications) :
    Option SurfaceID :=
  match modifications.parent with
  | some parent => manager.reference parent
  | none => if losesParent info modifications then none else info.parent

/-- The change of type that a modification asks for is not possible. -/
def rejects (manager : Manager) (info : SurfaceInfo) (modifications : Modifications) : Bool :=
  match modifications.type with
  | none => false
  | some newType =>
    decide (info.type ≠ newType) &&
      (!info.canMorphTo newType ||
        if mustNotHaveParent newType then modifications.parent.isSome
        else SurfaceInfo.mustHaveParent { info with type := newType } &&
          ((manager.askedParent info modifications).bind manager.lock).isNone)

/-- The parent of a surface matters to a change of its type only when the new type needs one. -/
theorem canMorphTo_parent (info : SurfaceInfo) (parent : Option SurfaceID) (newType : WindowType) :
    SurfaceInfo.canMorphTo { info with parent := parent } newType = info.canMorphTo newType :=
  rfl

theorem modifiedInfo_ok {manager : Manager} {info next : SurfaceInfo}
    {modifications : Modifications} (ok : manager.modifiedInfo info modifications = .ok next) :
    manager.rejects info modifications = false ∧
      next.parent = manager.askedParent info modifications ∧ next.children = info.children := by
  obtain ⟨newParent, newType⟩ := modifications
  cases newType with
  | none => cases newParent <;> cases ok <;> exact ⟨rfl, rfl, rfl⟩
  | some newType =>
    unfold rejects askedParent losesParent
    cases newParent with
    | none =>
      dsimp only [modifiedInfo] at ok
      split_ifs at ok with same morphs parentless set needs
      · cases ok
        simp [same]
      · cases ok
        simp_all
      · cases ok
        refine ⟨?_, by simp [parentless], rfl⟩
        simp only [ne_eq, same, not_false_eq_true, decide_true, Bool.true_and, parentless,
          Bool.eq_false_iff.mpr morphs, Bool.false_or, Bool.and_false, Bool.false_eq_true, if_false]
        exact Bool.eq_false_iff.mpr needs
    | some parent =>
      dsimp only [modifiedInfo] at ok
      rw [canMorphTo_parent] at ok
      split_ifs at ok with same morphs parentless set needs
      · cases ok
        simp [same]
      · exact absurd rfl set
      · cases ok
        refine ⟨?_, rfl, rfl⟩
        simp only [ne_eq, same, not_false_eq_true, decide_true, Bool.true_and, parentless,
          Bool.eq_false_iff.mpr morphs, Bool.false_or, Bool.false_eq_true, if_false]
        exact Bool.eq_false_iff.mpr needs

/-- A modification changes nothing, or leaves the information that it makes. -/
theorem modifySurface_eq (manager : Manager) (surface : SurfaceID)
    (modifications : Modifications) :
    (manager.modifySurface surface modifications).1 = manager ∨
      ∃ info next, manager.surfaceInfo surface = some info ∧
        manager.modifiedInfo info modifications = .ok next ∧
        (manager.modifySurface surface modifications).1 = manager.setInfo surface next := by
  unfold modifySurface
  cases known : manager.surfaceInfo surface with
  | none => exact .inl rfl
  | some info =>
    dsimp only
    cases modified : manager.modifiedInfo info modifications with
    | error failure => exact .inl rfl
    | ok next => exact .inr ⟨info, next, rfl, modified, rfl⟩

/-- A modification of a live surface leaves its parent as it is, or is not accepted. A parent that
is not live is as good as none. -/
def KeepsParent (manager : Manager) : Op → Prop
  | .modifySurface surface modifications => ∀ info ∈ manager.surfaceInfo surface,
    manager.destroyed surface = false → manager.rejects info modifications = false →
      manager.liveParent (manager.askedParent info modifications) =
        manager.liveParent info.parent
  | _ => True

instance (manager : Manager) : DecidablePred manager.KeepsParent
  | .modifySurface surface modifications => inferInstanceAs (Decidable (∀ info ∈
      manager.surfaceInfo surface, manager.destroyed surface = false →
        manager.rejects info modifications = false →
          manager.liveParent (manager.askedParent info modifications) =
            manager.liveParent info.parent))
  | .addSession _ => .isTrue trivial
  | .removeSession _ => .isTrue trivial
  | .addSurface _ _ _ => .isTrue trivial
  | .removeSurface _ _ _ => .isTrue trivial
  | .expire _ => .isTrue trivial

theorem liveParent_iff {manager : Manager} {first second : Option SurfaceID}
    (same : manager.liveParent first = manager.liveParent second) (other : SurfaceID)
    (there : (manager.node other).isSome = true) : first = some other ↔ second = some other := by
  have live := (manager.isLive_iff other).mpr there
  have either (parent : Option SurfaceID) :
      manager.liveParent parent = some other ↔ parent = some other := by
    rw [liveParent_eq_some, and_iff_left live]
  rw [← either first, ← either second, same]

namespace Tree

variable {manager : Manager}

/-- Information about a live surface is replaced, with a parent that is as good as before. -/
theorem setInfo_live (tree : manager.Tree) {surface : SurfaceID} {info next : SurfaceInfo}
    (live : manager.LiveAs surface info) (children : next.children = info.children)
    (parent : ∀ other, (manager.node other).isSome →
      (next.parent = some other ↔ info.parent = some other))
    (below : ∀ other, next.parent = some other → other < manager.made) :
    (manager.setInfo surface next).Tree := by
  refine ⟨?_, fun other otherInfo registered => ?_, tree.destroyedMade, tree.expired⟩
  · rw [node_setInfo, if_neg (Bool.eq_false_iff.mp live.2)]
    exact tree.linked.replace (node_of_live live) children parent below
  · rcases registered_of_setInfo registered with rfl | before
    · exact tree.made other info live.1
    · exact tree.made other otherInfo before

/-- A modification asks for a surface that was made. -/
theorem askedParent_below (tree : manager.Tree) {surface other : SurfaceID} {info : SurfaceInfo}
    (live : manager.LiveAs surface info) (modifications : Modifications)
    (asked : manager.askedParent info modifications = some other) : other < manager.made := by
  have old (named : info.parent = some other) : other < manager.made :=
    tree.linked.parentBelow surface info.links other (node_of_live live) named
  unfold askedParent at asked
  split at asked
  · exact of_decide_eq_true (Option.filter_eq_some_iff.mp asked).2
  · split_ifs at asked
    exact old asked

theorem modifySurface (tree : manager.Tree) (surface : SurfaceID) (modifications : Modifications)
    (keeps : manager.KeepsParent (.modifySurface surface modifications)) :
    (manager.modifySurface surface modifications).1.Tree := by
  rcases manager.modifySurface_eq surface modifications with
    unchanged | ⟨info, next, known, modified, becomes⟩
  · rw [unchanged]
    exact tree
  · rw [becomes]
    cases destroyed : manager.destroyed surface with
    | true => exact tree.setInfo_destroyed destroyed next
    | false =>
      obtain ⟨accepted, parent, children⟩ := modifiedInfo_ok modified
      have same := keeps info known destroyed accepted
      rw [← parent] at same
      refine tree.setInfo_live ⟨known, destroyed⟩ children (liveParent_iff same) ?_
      rw [parent]
      exact fun other asked => tree.askedParent_below ⟨known, destroyed⟩ modifications asked

/-! ### A surface is removed -/

theorem expire (tree : manager.Tree) {surface : SurfaceID}
    (destroyed : manager.destroyed surface = true) : (manager.expire surface).Tree := by
  refine ⟨tree.linked, tree.made, tree.destroyedMade, fun other expired => ?_⟩
  by_cases same : other = surface
  · rw [same]
    exact destroyed
  · exact tree.expired other ((Function.update_of_ne same _ _).symm.trans expired)

theorem forget (tree : manager.Tree) {surface : SurfaceID}
    (destroyed : manager.destroyed surface = true) : (manager.forget surface).Tree := by
  refine ⟨?_, fun other info registered => ?_, tree.destroyedMade, tree.expired⟩
  · rw [node_forget manager surface destroyed]
    exact tree.linked
  · refine tree.made other info ((Function.update_of_ne ?_ _ _).symm.trans registered)
    rintro rfl
    have gone : (manager.forget other).surfaceInfo other = none := Function.update_self _ _ _
    cases gone.symm.trans registered

/-- The children of a live surface are live, so the first that is locked like a surface is that
surface. -/
theorem eraseP_children (tree : manager.Tree) {parent surface : SurfaceID} {info : SurfaceInfo}
    (live : manager.LiveAs parent info) (locked : manager.lock surface = some surface) :
    (info.children.eraseP fun child => manager.lock child = manager.lock surface) =
      info.children.erase surface := by
  have each (children : List SurfaceID) (known : ∀ child ∈ children, child ∈ info.children) :
      (children.eraseP fun child => manager.lock child = manager.lock surface) =
        children.erase surface := by
    induction children with
    | nil => rfl
    | cons child rest inductionHypothesis =>
      obtain ⟨childInfo, childLive, -⟩ := tree.child live (known child List.mem_cons_self)
      have tail := inductionHypothesis fun other member =>
        known other (List.mem_cons_of_mem _ member)
      rw [List.eraseP_cons, List.erase_cons, tail, tree.lock_live childLive, locked]
      simp
  exact each info.children fun child member => member

/-- What can happen to the parent of a surface that is removed. -/
theorem eraseSibling_cases {surface : SurfaceID} {info : SurfaceInfo} {erased : Manager}
    (ok : manager.eraseSibling surface info = .ok erased) :
    manager.lockParent info = none ∧ erased = manager ∨
      ∃ parent parentInfo, info.parent = some parent ∧
        manager.surfaceInfo parent = some parentInfo ∧
        erased = manager.setInfo parent
          { parentInfo with
            children := parentInfo.children.eraseP fun child =>
              manager.lock child = manager.lock surface } := by
  unfold eraseSibling at ok
  cases locked : manager.lockParent info with
  | none =>
    rw [locked] at ok
    exact .inl ⟨rfl, (Except.ok.inj ok).symm⟩
  | some parent =>
    rw [locked] at ok
    dsimp only at ok
    cases known : manager.surfaceInfo parent with
    | none =>
      rw [known] at ok
      cases ok
    | some parentInfo =>
      rw [known] at ok
      exact .inr ⟨parent, parentInfo, named_of_locked locked, known, (Except.ok.inj ok).symm⟩

/-- A surface is destroyed, after what is known about surfaces has changed: the forest is all that
has to be looked at. -/
theorem destroyWith (tree : manager.Tree) {surface : SurfaceID} (isMade : surface < manager.made)
    (surfaceInfo : SurfaceID → Option SurfaceInfo)
    (made : ∀ other info, surfaceInfo other = some info → other < manager.made)
    (linked : WellLinked (({ manager with surfaceInfo } : Manager).destroy surface).node
      manager.made) :
    (({ manager with surfaceInfo } : Manager).destroy surface).Tree := by
  refine ⟨linked, made, fun other destroyed => ?_, fun other expired => ?_⟩
  · by_cases same : other = surface
    · rw [same]
      exact isMade
    · exact tree.destroyedMade other ((Function.update_of_ne same _ _).symm.trans destroyed)
  · by_cases same : other = surface
    · rw [same]
      exact Function.update_self _ _ _
    · exact (Function.update_of_ne same _ _).trans (tree.expired other expired)

/-- A live surface is destroyed whose parent is not live. -/
theorem destroy_orphan (tree : manager.Tree) {surface : SurfaceID} {info : SurfaceInfo}
    (live : manager.LiveAs surface info)
    (orphan : ∀ parent, info.parent = some parent → manager.node parent = none) :
    (manager.destroy surface).Tree := by
  refine tree.destroyWith (tree.made surface info live.1) manager.surfaceInfo tree.made ?_
  rw [node_destroy]
  exact tree.linked.detach_orphan (node_of_live live) orphan

/-- A live surface that its parent has forgotten is destroyed. -/
theorem eraseSibling_destroy (tree : manager.Tree) {surface : SurfaceID} {info : SurfaceInfo}
    (live : manager.LiveAs surface info) {erased : Manager}
    (ok : manager.eraseSibling surface info = .ok erased) : (erased.destroy surface).Tree := by
  rcases eraseSibling_cases ok with ⟨unlocked, rfl⟩ | ⟨parent, parentInfo, named, known, rfl⟩
  · refine tree.destroy_orphan live fun parent named => ?_
    rw [lockParent, named, Option.bind_some] at unlocked
    exact tree.node_of_unlocked unlocked
  · cases gone : manager.destroyed parent with
    | true =>
      have different : surface ≠ parent := by
        rintro rfl
        cases live.2.symm.trans gone
      have still := tree.setInfo_destroyed gone
        { parentInfo with
          children := parentInfo.children.eraseP fun child =>
            manager.lock child = manager.lock surface }
      refine still.destroy_orphan ⟨(Function.update_of_ne different _ _).trans live.1, live.2⟩ ?_
      intro other isParent
      rw [named, Option.some_inj] at isParent
      rw [← isParent, node_setInfo, if_pos gone, node, if_pos gone]
    | false =>
      have parentLive : manager.LiveAs parent parentInfo := ⟨known, gone⟩
      rw [tree.eraseP_children parentLive (tree.lock_live live)]
      refine tree.destroyWith (tree.made surface info live.1)
        (Function.update manager.surfaceInfo parent _) (fun other otherInfo registered => ?_) ?_
      · rcases registered_of_setInfo registered with rfl | before
        · exact tree.made other parentInfo known
        · exact tree.made other otherInfo before
      · have detached := tree.linked.detach_child (node_of_live live) named
          (node_of_live parentLive)
        rw [node_destroy]
        change WellLinked (Function.update (manager.setInfo parent _).node surface none) _
        rw [node_setInfo, if_neg (Bool.eq_false_iff.mp gone)]
        exact detached

/-- A surface that was destroyed is in no list of a live surface, so there is nothing to
forget. -/
theorem eraseSibling_destroyed (tree : manager.Tree) {surface : SurfaceID} {info : SurfaceInfo}
    (destroyed : manager.destroyed surface = true) {erased : Manager}
    (ok : manager.eraseSibling surface info = .ok erased) : erased.Tree := by
  rcases eraseSibling_cases ok with ⟨-, rfl⟩ | ⟨parent, parentInfo, -, known, rfl⟩
  · exact tree
  · cases gone : manager.destroyed parent with
    | true => exact tree.setInfo_destroyed gone _
    | false =>
      have live : manager.LiveAs parent parentInfo := ⟨known, gone⟩
      refine tree.setInfo_live live ?_ (fun _ _ => Iff.rfl) fun other =>
        tree.linked.parentBelow parent parentInfo.links other (node_of_live live)
      refine List.eraseP_of_forall_not fun child member same => ?_
      obtain ⟨childInfo, childLive, -⟩ := tree.child live member
      have same := of_decide_eq_true same
      rw [tree.lock_live childLive, lock] at same
      split_ifs at same
      rw [← Option.some.inj same, childLive.2] at destroyed
      cases destroyed

end Tree

/-- What is left to do when a surface was destroyed has nothing to do with trees. -/
theorem afterDestroyed_frame (manager : Manager) (session : SessionID) (surface : SurfaceID)
    (wasActive : Bool) (focusedSurface : Option SurfaceID) :
    let after := (manager.afterDestroyed session surface wasActive focusedSurface).1
    after.surfaceInfo = manager.surfaceInfo ∧ after.made = manager.made ∧
      after.destroyed = manager.destroyed ∧ after.expired = manager.expired := by
  unfold afterDestroyed
  dsimp only
  split
  · exact ⟨rfl, rfl, rfl, rfl⟩
  · split_ifs
    · split <;> exact ⟨rfl, rfl, rfl, rfl⟩
    · exact ⟨rfl, rfl, rfl, rfl⟩

/-- A session is asked to destroy surfaces of its own only. -/
def AskedByOwner (manager : Manager) : Op → Prop
  | .removeSurface session surface _ => ∀ info ∈ manager.surfaceInfo surface,
    info.session = session
  | _ => True

instance (manager : Manager) : DecidablePred manager.AskedByOwner
  | .removeSurface session surface _ => inferInstanceAs (Decidable (∀ info ∈
      manager.surfaceInfo surface, info.session = session))
  | .addSession _ => .isTrue trivial
  | .removeSession _ => .isTrue trivial
  | .addSurface _ _ _ => .isTrue trivial
  | .modifySurface _ _ => .isTrue trivial
  | .expire _ => .isTrue trivial

namespace Tree

variable {manager : Manager}

theorem afterDestroyed (tree : manager.Tree) (session : SessionID) {surface : SurfaceID}
    (destroyed : manager.destroyed surface = true) (wasActive : Bool)
    (focusedSurface : Option SurfaceID) :
    let after := (manager.afterDestroyed session surface wasActive focusedSurface).1
    after.Tree ∧ (after.forget surface).Tree := by
  obtain ⟨info, made, sameDestroyed, expired⟩ :=
    manager.afterDestroyed_frame session surface wasActive focusedSurface
  have still := tree.sessions info made sameDestroyed expired
  exact ⟨still, still.forget (by rw [sameDestroyed, destroyed])⟩

theorem eraseSibling_frame {surface : SurfaceID} {info : SurfaceInfo} {next : Manager}
    (erased : manager.eraseSibling surface info = .ok next) :
    next.destroyed = manager.destroyed ∧ next.expired = manager.expired := by
  rcases eraseSibling_cases erased with ⟨-, rfl⟩ | ⟨parent, parentInfo, -, -, rfl⟩
  · exact ⟨rfl, rfl⟩
  · exact ⟨rfl, rfl⟩

/-- The session of a live surface destroys it. -/
theorem destroySurface (tree : manager.Tree) {surface : SurfaceID} {info : SurfaceInfo}
    (live : manager.LiveAs surface info) {next : Manager}
    (erased : manager.eraseSibling surface info = .ok next) (expires : Bool) :
    ∃ state, next.destroySurface info.session surface info expires = .ok state ∧ state.Tree ∧
      state.destroyed surface = true := by
  obtain ⟨sameDestroyed, sameExpired⟩ := eraseSibling_frame erased
  have locked : next.lock surface = some surface := by
    have before := tree.lock_live live
    rw [lock] at before ⊢
    rw [sameExpired]
    exact before
  have met : info.session = info.session ∧ next.destroyed surface = false ∧
      next.lock surface = some surface := ⟨rfl, by rw [sameDestroyed, live.2], locked⟩
  have destroyed := tree.eraseSibling_destroy live erased
  have isDestroyed : (next.destroy surface).destroyed surface = true :=
    Function.update_self _ _ _
  rw [Manager.destroySurface, if_pos met]
  cases expires with
  | true => exact ⟨_, rfl, destroyed.expire isDestroyed, isDestroyed⟩
  | false => exact ⟨_, rfl, destroyed, isDestroyed⟩

theorem removeSurface (tree : manager.Tree) (session : SessionID) (surface : SurfaceID)
    (answers : Answers) (asked : manager.AskedByOwner (.removeSurface session surface answers)) :
    (manager.removeSurface session surface answers).1.Tree := by
  unfold Manager.removeSurface
  cases known : manager.surfaceInfo surface with
  | none => exact tree
  | some info =>
    dsimp only
    cases erased : manager.eraseSibling surface info with
    | error failure => exact tree
    | ok next =>
      dsimp only
      cases gone : manager.destroyed surface with
      | true =>
        have refused : next.destroySurface session surface info answers.expires =
            .error (.runtimeError "Invalid Surface") :=
          if_neg fun met => by
            rw [(eraseSibling_frame erased).1, gone] at met
            cases met.2.1
        rw [refused]
        exact tree.eraseSibling_destroyed gone erased
      | false =>
        obtain rfl : info.session = session := asked info known
        obtain ⟨state, ok, stateTree, stateDestroyed⟩ :=
          tree.destroySurface ⟨known, gone⟩ erased answers.expires
        rw [ok]
        dsimp only
        obtain ⟨after, forgotten⟩ := stateTree.afterDestroyed info.session stateDestroyed
          (decide (manager.lock surface = manager.activeSurfaceOr answers.defaultSurface))
          answers.focusedSurface
        split
        · exact after
        · exact forgotten

/-! ### Runs -/

theorem step (tree : manager.Tree) (op : Op) (asked : manager.AskedByOwner op)
    (keeps : manager.KeepsParent op) : (manager.step op).Tree := by
  cases op with
  | addSession session => exact tree.sessions rfl rfl rfl rfl
  | removeSession session => exact tree.sessions rfl rfl rfl rfl
  | addSurface session type parent => exact tree.addSurface session parent type
  | modifySurface surface modifications => exact tree.modifySurface surface modifications keeps
  | removeSurface session surface answers => exact tree.removeSurface session surface answers asked
  | expire surface =>
    dsimp only [Manager.step]
    split_ifs with destroyed
    · exact tree.expire destroyed
    · exact tree

end Tree

/-- Parents and children stay in step in every run whose modifications keep parents, and the tree
of every live surface can be raised and moved. -/
theorem parents_and_children_stay_in_step {manager : Manager}
    (reached : Reaches Manager.step (fun manager op => manager.AskedByOwner op ∧
      manager.KeepsParent op) initial manager) :
    manager.InStep ∧ ∀ root info, manager.LiveAs root info →
      (∃ raised, manager.raiseTree root = .ok raised) ∧
      ∀ movement topLeft, ∃ moved,
        manager.moveTree movement (manager.made + 1) (some root) topLeft = .ok moved := by
  have tree : manager.Tree := reached.invariant tree_initial
    fun state op stateTree allowed => stateTree.step op allowed.1 allowed.2
  refine ⟨tree.inStep, fun root info live => ⟨tree.raiseTree_ok live, fun movement topLeft => ?_⟩⟩
  exact tree.moveTree_ok movement (manager.made + 1) live
    (Nat.lt_of_lt_of_le (Nat.lt_succ_self _) (Nat.le_add_left _ _)) topLeft

/-- A dialog that has a tip becomes a satellite of the same parent, and a menu comes and goes. -/
def satellite : List Op :=
  [.addSession 0, .addSurface 0 (some .normal) none, .addSurface 0 (some .dialog) (some 0),
    .addSurface 0 (some .tip) (some 1), .modifySurface 1 ⟨some (some 0), some .satellite⟩,
    .addSurface 0 (some .menu) (some 0), .removeSurface 0 3 ⟨none, none, true⟩]

theorem satellite_stays_in_step :
    let manager := satellite.foldl Manager.step initial
    manager.raiseTree 0 = .ok [0, 1, 2] ∧ manager.InStep := by
  refine ⟨by decide, ?_⟩
  exact (parents_and_children_stay_in_step (Reaches.start.foldl satellite (by decide))).1

/-- A dialog is given another parent and then removed. -/
def reparented : List Op :=
  [.addSession 0, .addSurface 0 (some .normal) none, .addSurface 0 (some .normal) none,
    .addSurface 0 (some .dialog) (some 0), .modifySurface 2 ⟨some (some 1), none⟩,
    .removeSurface 0 2 ⟨none, none, true⟩]

/-- Its first parent still lists it, and can no longer be raised. -/
theorem reparented_child_is_not_forgotten :
    (¬ ∀ manager, Reaches Manager.step Manager.AskedByOwner initial manager → manager.InStep) ∧
      (reparented.foldl Manager.step initial).raiseTree 0 = .error .outOfRange := by
  refine ⟨fun claimed => ?_, by decide⟩
  have held := claimed _ (Reaches.start.foldl reparented (by decide))
  have registered := held.registered 0 ⟨.normal, 0, none, [2]⟩ ⟨by decide, by decide⟩ 2 (by decide)
  revert registered
  decide

end Manager

end Mir.Shell

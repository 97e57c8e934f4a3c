/-
This file is a small library of forests whose links are kept twice: each node has a
reference to its parent and each has the list of its children. Nodes are numbered as they
are made, `bound` being the next number. Such a forest is well linked when the two kinds
of links agree, no child is listed twice, and children are newer than their parents.

A reference may be to a node that is no longer there; it then says nothing. Each lemma is
one way to change a forest that keeps it well linked.
-/

import Mathlib.Data.List.Nodup
import Mathlib.Logic.Function.Basic

namespace Forest

structure Links where
  parent : Option Nat
  children : List Nat

/-- The forest with a new node below a parent. -/
def attach (node : Nat → Option Links) (new parent : Nat) (links : Links) : Nat → Option Links :=
  Function.update (Function.update node new (some ⟨some parent, []⟩)) parent
    (some { links with children := links.children ++ [new] })

/-- The forest without a node that was below a parent. -/
def detach (node : Nat → Option Links) (id parent : Nat) (links : Links) : Nat → Option Links :=
  Function.update (Function.update node parent
    (some { links with children := links.children.erase id })) id none

section Update

variable (node : Nat → Option Links) {id new parent : Nat} (links : Links)

theorem attach_parent :
    attach node new parent links parent =
      some { links with children := links.children ++ [new] } :=
  Function.update_self _ _ _

theorem attach_new (different : new ≠ parent) :
    attach node new parent links new = some ⟨some parent, []⟩ := by
  rw [attach, Function.update_of_ne different, Function.update_self]

theorem attach_other (notParent : id ≠ parent) (notNew : id ≠ new) :
    attach node new parent links id = node id := by
  rw [attach, Function.update_of_ne notParent, Function.update_of_ne notNew]

/-- A node is the parent, the new one, or one that was there and is as it was. -/
theorem attach_cases {after : Links} (now : attach node new parent links id = some after) :
    id = parent ∧ after = { links with children := links.children ++ [new] } ∨
      id = new ∧ after = ⟨some parent, []⟩ ∨ id ≠ parent ∧ node id = some after := by
  by_cases isParent : id = parent
  · subst isParent
    rw [attach_parent, Option.some_inj] at now
    exact .inl ⟨rfl, now.symm⟩
  · by_cases isNew : id = new
    · subst isNew
      rw [attach_new _ _ isParent, Option.some_inj] at now
      exact .inr (.inl ⟨rfl, now.symm⟩)
    · rw [attach_other _ _ isParent isNew] at now
      exact .inr (.inr ⟨isParent, now⟩)

theorem detach_gone : detach node id parent links id = none :=
  Function.update_self _ _ _

theorem detach_parent (different : parent ≠ id) :
    detach node id parent links parent =
      some { links with children := links.children.erase id } := by
  rw [detach, Function.update_of_ne different, Function.update_self]

theorem detach_other {other : Nat} (kept : other ≠ id) (notParent : other ≠ parent) :
    detach node id parent links other = node other := by
  rw [detach, Function.update_of_ne kept, Function.update_of_ne notParent]

/-- A node that is left is the parent, or one that is as it was. -/
theorem detach_cases {other : Nat} {after : Links}
    (now : detach node id parent links other = some after) :
    other ≠ id ∧ (other = parent ∧ after = { links with children := links.children.erase id } ∨
      other ≠ parent ∧ node other = some after) := by
  by_cases gone : other = id
  · subst gone
    rw [detach_gone] at now
    cases now
  · refine ⟨gone, ?_⟩
    by_cases isParent : other = parent
    · subst isParent
      rw [detach_parent _ _ gone, Option.some_inj] at now
      exact .inl ⟨rfl, now.symm⟩
    · rw [detach_other _ _ gone isParent] at now
      exact .inr ⟨isParent, now⟩

end Update

structure WellLinked (node : Nat → Option Links) (bound : Nat) : Prop where
  below : ∀ id links, node id = some links → id < bound
  parentBelow : ∀ id links parent, node id = some links → links.parent = some parent →
    parent < bound
  children : ∀ id links, node id = some links → ∀ child,
    child ∈ links.children ↔
      ∃ childLinks, node child = some childLinks ∧ childLinks.parent = some id
  once : ∀ id links, node id = some links → links.children.Nodup
  newer : ∀ id links child childLinks, node id = some links → node child = some childLinks →
    childLinks.parent = some id → id < child

theorem wellLinked_empty : WellLinked (fun _ => none) 0 where
  below id links there := by cases there
  parentBelow id links parent there := by cases there
  children id links there := by cases there
  once id links there := by cases there
  newer id links child childLinks there := by cases there

namespace WellLinked

variable {node : Nat → Option Links} {bound : Nat}

/-- No child of a node is missing. -/
theorem child_there (linked : WellLinked node bound) {id child : Nat} {links : Links}
    (there : node id = some links) (member : child ∈ links.children) :
    ∃ childLinks, node child = some childLinks ∧ childLinks.parent = some id :=
  (linked.children id links there child).mp member

/-- The reference of a node to its parent is replaced by one that says the same. -/
theorem replace (linked : WellLinked node bound) {id : Nat} {links next : Links}
    (there : node id = some links) (children : next.children = links.children)
    (parent : ∀ other, (node other).isSome → (next.parent = some other ↔ links.parent = some other))
    (below : ∀ other, next.parent = some other → other < bound) :
    WellLinked (Function.update node id (some next)) bound := by
  have before {other : Nat} {otherLinks : Links}
      (after : Function.update node id (some next) other = some otherLinks) :
      ∃ oldLinks, node other = some oldLinks ∧ otherLinks.children = oldLinks.children ∧
        (∀ known, (node known).isSome →
          (otherLinks.parent = some known ↔ oldLinks.parent = some known)) ∧
        ∀ known, otherLinks.parent = some known → known < bound := by
    by_cases same : other = id
    · subst same
      rw [Function.update_self, Option.some_inj] at after
      subst after
      exact ⟨links, there, children, parent, below⟩
    · rw [Function.update_of_ne same] at after
      exact ⟨otherLinks, after, rfl, fun _ _ => Iff.rfl, fun known =>
        linked.parentBelow other otherLinks known after⟩
  have still {other : Nat} {oldLinks : Links} (old : node other = some oldLinks) :
      ∃ otherLinks, Function.update node id (some next) other = some otherLinks := by
    by_cases same : other = id
    · exact ⟨next, by rw [same, Function.update_self]⟩
    · exact ⟨oldLinks, by rw [Function.update_of_ne same, old]⟩
  refine ⟨fun other otherLinks after => ?_, fun other otherLinks known after named => ?_,
    fun other otherLinks after child => ?_, fun other otherLinks after => ?_,
    fun other otherLinks child childLinks after childAfter named => ?_⟩
  · obtain ⟨oldLinks, old, -⟩ := before after
    exact linked.below other oldLinks old
  · obtain ⟨oldLinks, -, -, -, below⟩ := before after
    exact below known named
  · obtain ⟨oldLinks, old, sameChildren, -⟩ := before after
    have isThere : (node other).isSome := by rw [old]; rfl
    rw [sameChildren, linked.children other oldLinks old child]
    constructor
    · rintro ⟨oldChild, childThere, named⟩
      obtain ⟨childLinks, childAfter⟩ := still childThere
      obtain ⟨sameChild, sameThere, -, sameParent, -⟩ := before childAfter
      rw [Option.some.inj (childThere.symm.trans sameThere)] at named
      exact ⟨childLinks, childAfter, (sameParent other isThere).mpr named⟩
    · rintro ⟨childLinks, childAfter, named⟩
      obtain ⟨oldChild, childThere, -, sameParent, -⟩ := before childAfter
      exact ⟨oldChild, childThere, (sameParent other isThere).mp named⟩
  · obtain ⟨oldLinks, old, sameChildren, -⟩ := before after
    rw [sameChildren]
    exact linked.once other oldLinks old
  · obtain ⟨oldLinks, old, -⟩ := before after
    obtain ⟨oldChild, childThere, -, sameParent, -⟩ := before childAfter
    have isThere : (node other).isSome := by rw [old]; rfl
    exact linked.newer other oldLinks child oldChild old childThere
      ((sameParent other isThere).mp named)

/-- A new node whose parent is not there. -/
theorem attach_orphan (linked : WellLinked node bound) (parent : Option Nat)
    (below : ∀ other, parent = some other → other < bound)
    (orphan : ∀ other, parent = some other → node other = none) :
    WellLinked (Function.update node bound (some ⟨parent, []⟩)) (bound + 1) := by
  have cases {id : Nat} {links : Links}
      (after : Function.update node bound (some ⟨parent, []⟩) id = some links) :
      id = bound ∧ links = ⟨parent, []⟩ ∨ id ≠ bound ∧ node id = some links := by
    by_cases same : id = bound
    · subst same
      rw [Function.update_self, Option.some_inj] at after
      exact .inl ⟨rfl, after.symm⟩
    · rw [Function.update_of_ne same] at after
      exact .inr ⟨same, after⟩
  have old {id : Nat} {links : Links} (there : node id = some links) :
      Function.update node bound (some ⟨parent, []⟩) id = some links := by
    rw [Function.update_of_ne (Nat.ne_of_lt (linked.below id links there)), there]
  refine ⟨fun id links after => ?_, fun id links other after named => ?_,
    fun id links after child => ?_, fun id links after => ?_,
    fun id links child childLinks after childAfter named => ?_⟩
  · rcases cases after with ⟨rfl, -⟩ | ⟨-, there⟩
    · exact Nat.lt_succ_self _
    · exact Nat.lt_succ_of_lt (linked.below id links there)
  · rcases cases after with ⟨rfl, rfl⟩ | ⟨-, there⟩
    · exact Nat.lt_succ_of_lt (below other named)
    · exact Nat.lt_succ_of_lt (linked.parentBelow id links other there named)
  · rcases cases after with ⟨rfl, rfl⟩ | ⟨-, there⟩
    · refine iff_of_false List.not_mem_nil ?_
      rintro ⟨childLinks, childAfter, named⟩
      rcases cases childAfter with ⟨-, rfl⟩ | ⟨-, childThere⟩
      · exact absurd (below id named) (Nat.lt_irrefl _)
      · exact absurd (linked.parentBelow child childLinks id childThere named) (Nat.lt_irrefl _)
    · rw [linked.children id links there child]
      constructor
      · rintro ⟨childLinks, childThere, named⟩
        exact ⟨childLinks, old childThere, named⟩
      · rintro ⟨childLinks, childAfter, named⟩
        rcases cases childAfter with ⟨-, rfl⟩ | ⟨-, childThere⟩
        · rw [orphan id named] at there
          cases there
        · exact ⟨childLinks, childThere, named⟩
  · rcases cases after with ⟨-, rfl⟩ | ⟨-, there⟩
    · exact List.nodup_nil
    · exact linked.once id links there
  · rcases cases childAfter with ⟨rfl, rfl⟩ | ⟨-, childThere⟩
    · exact below id named
    · rcases cases after with ⟨rfl, rfl⟩ | ⟨-, there⟩
      · exact absurd (linked.parentBelow child childLinks id childThere named) (Nat.lt_irrefl _)
      · exact linked.newer id links child childLinks there childThere named

/-- A node is taken away whose parent is not there. -/
theorem detach_orphan (linked : WellLinked node bound) {id : Nat} {links : Links}
    (there : node id = some links)
    (orphan : ∀ other, links.parent = some other → node other = none) :
    WellLinked (Function.update node id none) bound := by
  have before {other : Nat} {otherLinks : Links}
      (after : Function.update node id none other = some otherLinks) :
      other ≠ id ∧ node other = some otherLinks := by
    by_cases same : other = id
    · subst same
      rw [Function.update_self] at after
      cases after
    · rw [Function.update_of_ne same] at after
      exact ⟨same, after⟩
  refine ⟨fun other otherLinks after => linked.below other otherLinks (before after).2,
    fun other otherLinks parent after =>
      linked.parentBelow other otherLinks parent (before after).2,
    fun other otherLinks after child => ?_,
    fun other otherLinks after => linked.once other otherLinks (before after).2,
    fun other otherLinks child childLinks after childAfter =>
      linked.newer other otherLinks child childLinks (before after).2 (before childAfter).2⟩
  rw [linked.children other otherLinks (before after).2 child]
  constructor
  · rintro ⟨childLinks, childThere, named⟩
    have different : child ≠ id := by
      rintro rfl
      rw [Option.some.inj (childThere.symm.trans there)] at named
      cases (orphan other named).symm.trans (before after).2
    exact ⟨childLinks, by rw [Function.update_of_ne different, childThere], named⟩
  · rintro ⟨childLinks, childAfter, named⟩
    exact ⟨childLinks, (before childAfter).2, named⟩

/-- A node that was there keeps its parent when another is attached. -/
theorem attach_old (linked : WellLinked node bound) {parent : Nat} {links : Links}
    (there : node parent = some links) {id : Nat} {before : Links}
    (known : node id = some before) :
    ∃ after, attach node bound parent links id = some after ∧ after.parent = before.parent := by
  by_cases isParent : id = parent
  · subst isParent
    refine ⟨_, attach_parent _ _, ?_⟩
    rw [Option.some.inj (known.symm.trans there)]
  · refine ⟨before, ?_, rfl⟩
    rw [attach_other _ _ isParent (Nat.ne_of_lt (linked.below id before known)), known]

/-- The nodes that name an older node as their parent, and the new one. -/
theorem attach_named_iff (linked : WellLinked node bound) {parent : Nat} {links : Links}
    (there : node parent = some links) {id child : Nat} (known : id < bound) :
    (∃ childLinks, attach node bound parent links child = some childLinks ∧
      childLinks.parent = some id) ↔
    (∃ childLinks, node child = some childLinks ∧ childLinks.parent = some id) ∨
      child = bound ∧ id = parent := by
  constructor
  · rintro ⟨childLinks, now, named⟩
    rcases attach_cases _ _ now with ⟨rfl, rfl⟩ | ⟨rfl, rfl⟩ | ⟨-, before⟩
    · exact .inl ⟨links, there, named⟩
    · exact .inr ⟨rfl, (Option.some.inj named).symm⟩
    · exact .inl ⟨childLinks, before, named⟩
  · rintro (⟨childLinks, before, named⟩ | ⟨rfl, rfl⟩)
    · obtain ⟨after, now, same⟩ := linked.attach_old there before
      exact ⟨after, now, same.trans named⟩
    · exact ⟨⟨some id, []⟩, attach_new _ _ (Nat.ne_of_gt known), rfl⟩

/-- A new node whose parent is there and is told. -/
theorem attach_child (linked : WellLinked node bound) {parent : Nat} {links : Links}
    (there : node parent = some links) :
    WellLinked (attach node bound parent links) (bound + 1) := by
  have parentBelow := linked.below parent links there
  have new : bound ∉ links.children := fun member => by
    obtain ⟨childLinks, childThere, -⟩ := linked.child_there there member
    exact absurd (linked.below bound childLinks childThere) (Nat.lt_irrefl _)
  refine ⟨fun id after now => ?_, fun id after other now named => ?_,
    fun id after now child => ?_, fun id after now => ?_,
    fun id after child childLinks now childNow named => ?_⟩
  · rcases attach_cases _ _ now with ⟨rfl, -⟩ | ⟨rfl, -⟩ | ⟨-, before⟩
    · exact Nat.lt_succ_of_lt parentBelow
    · exact Nat.lt_succ_self _
    · exact Nat.lt_succ_of_lt (linked.below id after before)
  · rcases attach_cases _ _ now with ⟨rfl, rfl⟩ | ⟨rfl, rfl⟩ | ⟨-, before⟩
    · exact Nat.lt_succ_of_lt (linked.parentBelow id links other there named)
    · exact Option.some.inj named ▸ Nat.lt_succ_of_lt parentBelow
    · exact Nat.lt_succ_of_lt (linked.parentBelow id after other before named)
  · rcases attach_cases _ _ now with ⟨rfl, rfl⟩ | ⟨rfl, rfl⟩ | ⟨notParent, before⟩
    · rw [linked.attach_named_iff there parentBelow, List.mem_append, List.mem_singleton,
        linked.children id links there child]
      exact or_congr_right ⟨fun same => ⟨same, rfl⟩, And.left⟩
    · refine iff_of_false List.not_mem_nil ?_
      rintro ⟨childLinks, childNow, named⟩
      rcases attach_cases _ _ childNow with ⟨rfl, rfl⟩ | ⟨rfl, rfl⟩ | ⟨-, before⟩
      · exact absurd (linked.parentBelow child links id there named) (Nat.lt_irrefl _)
      · exact absurd (Option.some.inj named) (Nat.ne_of_lt parentBelow)
      · exact absurd (linked.parentBelow child childLinks id before named) (Nat.lt_irrefl _)
    · rw [linked.attach_named_iff there (linked.below id after before),
        linked.children id after before child]
      exact ⟨.inl, fun either => either.resolve_right fun same => notParent same.2⟩
  · rcases attach_cases _ _ now with ⟨rfl, rfl⟩ | ⟨rfl, rfl⟩ | ⟨-, before⟩
    · refine (linked.once id links there).append (List.nodup_singleton _) ?_
      exact List.disjoint_singleton.mpr new
    · exact List.nodup_nil
    · exact linked.once id after before
  · rcases attach_cases _ _ childNow with ⟨rfl, rfl⟩ | ⟨rfl, rfl⟩ | ⟨-, childBefore⟩
    · have isOld := linked.parentBelow child links id there named
      rcases attach_cases _ _ now with ⟨rfl, rfl⟩ | ⟨rfl, rfl⟩ | ⟨-, before⟩
      · exact linked.newer id links id links there there named
      · exact absurd isOld (Nat.lt_irrefl _)
      · exact linked.newer id after child links before there named
    · exact Option.some.inj named ▸ parentBelow
    · have isOld := linked.parentBelow child childLinks id childBefore named
      rcases attach_cases _ _ now with ⟨rfl, rfl⟩ | ⟨rfl, rfl⟩ | ⟨-, before⟩
      · exact linked.newer id links child childLinks there childBefore named
      · exact absurd isOld (Nat.lt_irrefl _)
      · exact linked.newer id after child childLinks before childBefore named

/-- A node that is left had the same parent before. -/
theorem detach_before {id parent : Nat} {parentLinks : Links}
    (parentThere : node parent = some parentLinks) {other : Nat} {after : Links}
    (now : detach node id parent parentLinks other = some after) :
    ∃ old, node other = some old ∧ old.parent = after.parent := by
  rcases (detach_cases _ _ now).2 with ⟨rfl, rfl⟩ | ⟨-, known⟩
  · exact ⟨parentLinks, parentThere, rfl⟩
  · exact ⟨after, known, rfl⟩

/-- Every node but the one that is taken away is left, with the same parent. -/
theorem detach_still {id parent : Nat} {parentLinks : Links}
    (parentThere : node parent = some parentLinks) {other : Nat} {old : Links}
    (known : node other = some old) (kept : other ≠ id) :
    ∃ after, detach node id parent parentLinks other = some after ∧ after.parent = old.parent := by
  by_cases isParent : other = parent
  · subst isParent
    refine ⟨_, detach_parent _ _ kept, ?_⟩
    rw [Option.some.inj (known.symm.trans parentThere)]
  · exact ⟨old, by rw [detach_other _ _ kept isParent, known], rfl⟩

theorem detach_named_iff {id parent : Nat} {parentLinks : Links}
    (parentThere : node parent = some parentLinks) (other child : Nat) :
    (∃ childLinks, detach node id parent parentLinks child = some childLinks ∧
      childLinks.parent = some other) ↔
    child ≠ id ∧ ∃ childLinks, node child = some childLinks ∧ childLinks.parent = some other := by
  constructor
  · rintro ⟨childLinks, now, childNamed⟩
    obtain ⟨old, known, same⟩ := detach_before parentThere now
    exact ⟨(detach_cases _ _ now).1, old, known, same.trans childNamed⟩
  · rintro ⟨kept, old, known, childNamed⟩
    obtain ⟨after, now, same⟩ := detach_still parentThere known kept
    exact ⟨after, now, same.trans childNamed⟩

/-- A node is taken away whose parent is there and is told. -/
theorem detach_child (linked : WellLinked node bound) {id parent : Nat} {links parentLinks : Links}
    (there : node id = some links) (named : links.parent = some parent)
    (parentThere : node parent = some parentLinks) :
    WellLinked (detach node id parent parentLinks) bound := by
  refine ⟨fun other after now => ?_, fun other after known now isNamed => ?_,
    fun other after now child => ?_, fun other after now => ?_,
    fun other after child childLinks now childNow isNamed => ?_⟩
  · obtain ⟨old, known, -⟩ := detach_before parentThere now
    exact linked.below other old known
  · obtain ⟨old, wasThere, same⟩ := detach_before parentThere now
    exact linked.parentBelow other old known wasThere (same.trans isNamed)
  · rw [detach_named_iff parentThere]
    rcases (detach_cases _ _ now).2 with ⟨rfl, rfl⟩ | ⟨notParent, known⟩
    · rw [(linked.once other parentLinks parentThere).mem_erase_iff,
        linked.children other parentLinks parentThere child]
    · rw [linked.children other after known child]
      refine (and_iff_right_of_imp ?_).symm
      rintro ⟨childLinks, childThere, childNamed⟩ rfl
      rw [Option.some.inj (childThere.symm.trans there), named] at childNamed
      exact notParent (Option.some.inj childNamed).symm
  · rcases (detach_cases _ _ now).2 with ⟨rfl, rfl⟩ | ⟨-, known⟩
    · exact (linked.once other parentLinks parentThere).erase id
    · exact linked.once other after known
  · obtain ⟨old, known, -⟩ := detach_before parentThere now
    obtain ⟨oldChild, childKnown, same⟩ := detach_before parentThere childNow
    exact linked.newer other old child oldChild known childKnown (same.trans isNamed)

end WellLinked

end Forest

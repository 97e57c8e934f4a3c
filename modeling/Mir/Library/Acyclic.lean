/-
This file is a small library of relations without cycles: what keeps a relation free of them,
what it means for the finite sets of nodes, and how long a walk along such a relation can be.
-/

import Mathlib.Data.Fintype.Card
import Mathlib.Data.Fintype.EquivFin
import Mathlib.Data.List.Nodup
import Mathlib.Data.List.Perm.Subperm
import Mathlib.Logic.Relation
import Mathlib.Order.Basic
import Mathlib.Order.WellFounded

open Relation

variable {Node : Type*}

/-- No node is reached from itself. -/
def Acyclic (relation : Node → Node → Prop) : Prop := ∀ node, ¬ TransGen relation node node

namespace Acyclic

variable {before after : Node → Node → Prop}

/-- A relation that leads down only has no cycles. -/
theorem of_lt [Preorder Node] {relation : Node → Node → Prop}
    (down : ∀ source goal, relation source goal → goal < source) : Acyclic relation := by
  intro node cycle
  have below {first last : Node} (walk : TransGen relation first last) : last < first := by
    induction walk with
    | single edge => exact down _ _ edge
    | tail _ edge inductionHypothesis => exact (down _ _ edge).trans inductionHypothesis
  exact lt_irrefl node (below cycle)

/-- A relation with fewer edges has no more cycles. -/
theorem mono (acyclic : Acyclic before)
    (edges : ∀ source goal, after source goal → before source goal) : Acyclic after :=
  fun node cycle => acyclic node (TransGen.mono edges node node cycle)

/-- A walk with new edges from one node goes the old way, or up to that node and on from where one
of the new edges ends. -/
theorem split_at_node {node : Node} {targets : Node → Prop}
    (edges : ∀ source goal, after source goal →
      before source goal ∨ source = node ∧ targets goal)
    {first last : Node} (walk : TransGen after first last) :
    TransGen before first last ∨
      ReflTransGen before first node ∧
        ∃ target, targets target ∧ ReflTransGen before target last := by
  induction walk with
  | single edge =>
    rcases edges _ _ edge with old | ⟨rfl, isTarget⟩
    · exact .inl (.single old)
    · exact .inr ⟨.refl, _, isTarget, .refl⟩
  | tail _ edge inductionHypothesis =>
    rcases edges _ _ edge with old | ⟨rfl, isTarget⟩
    · rcases inductionHypothesis with oldWalk | ⟨reaches, target, isTarget, onwards⟩
      · exact .inl (oldWalk.tail old)
      · exact .inr ⟨reaches, target, isTarget, onwards.tail old⟩
    · rcases inductionHypothesis with oldWalk | ⟨reaches, _⟩
      · exact .inr ⟨oldWalk.to_reflTransGen, _, isTarget, .refl⟩
      · exact .inr ⟨reaches, _, isTarget, .refl⟩

/-- New edges from a node close no cycle when it cannot be reached from where they end. -/
theorem fan_out (acyclic : Acyclic before) {node : Node} {targets : Node → Prop}
    (edges : ∀ source goal, after source goal →
      before source goal ∨ source = node ∧ targets goal)
    (apart : ∀ target, targets target → ¬ ReflTransGen before target node) : Acyclic after := by
  intro other cycle
  rcases split_at_node edges cycle with old | ⟨reaches, target, isTarget, onwards⟩
  · exact acyclic other old
  · exact apart target isTarget (onwards.trans reaches)

/-- A new edge closes no cycle when its start cannot be reached from its end. -/
theorem redirect (acyclic : Acyclic before) {node target : Node}
    (edges : ∀ source goal, after source goal →
      before source goal ∨ source = node ∧ goal = target)
    (apart : ¬ ReflTransGen before target node) : Acyclic after := by
  refine acyclic.fan_out edges fun other isTarget => ?_
  rw [isTarget]
  exact apart

/-- New edges to a node that leads nowhere close no cycle. -/
theorem into_sink (acyclic : Acyclic before) {node : Node}
    (edges : ∀ source goal, after source goal → goal ≠ node → before source goal)
    (sink : ∀ goal, ¬ after node goal) : Acyclic after := by
  have old {first last : Node} (walk : TransGen after first last) (unlike : last ≠ node) :
      TransGen before first last := by
    induction walk with
    | single edge => exact .single (edges _ _ edge unlike)
    | tail _ edge inductionHypothesis =>
      refine (inductionHypothesis ?_).tail (edges _ _ edge unlike)
      rintro rfl
      exact sink _ edge
  intro other cycle
  refine acyclic other (old cycle ?_)
  rintro rfl
  obtain ⟨goal, edge, -⟩ := (TransGen.head'_iff).mp cycle
  exact sink goal edge

/-- The nodes of a walk, each of which leads to another of them or to the last one. -/
theorem exists_nodes {relation : Node → Node → Prop} {first last : Node}
    (walk : TransGen relation first last) :
    ∃ nodes : Finset Node, first ∈ nodes ∧
      ∀ node ∈ nodes, ∃ other, (other ∈ nodes ∨ other = last) ∧ relation node other := by
  classical
  induction walk using TransGen.head_induction_on with
  | single edge =>
    refine ⟨{_}, Finset.mem_singleton_self _, fun node member => ⟨last, .inr rfl, ?_⟩⟩
    rw [Finset.mem_singleton.mp member]
    exact edge
  | head edge _ inductionHypothesis =>
    obtain ⟨nodes, isFirst, onwards⟩ := inductionHypothesis
    refine ⟨insert _ nodes, Finset.mem_insert_self _ _, fun node member => ?_⟩
    rcases Finset.mem_insert.mp member with rfl | later
    · exact ⟨_, .inl (Finset.mem_insert_of_mem isFirst), edge⟩
    · obtain ⟨other, isNode, goes⟩ := onwards node later
      exact ⟨other, isNode.imp_left Finset.mem_insert_of_mem, goes⟩

/-- There are no cycles exactly if in every finite set some node leads to no other one of it. -/
theorem iff_exists_sink {relation : Node → Node → Prop} :
    Acyclic relation ↔ ∀ nodes : Finset Node, nodes.Nonempty →
      ∃ node ∈ nodes, ∀ other ∈ nodes, ¬ relation node other := by
  constructor
  · intro acyclic nodes nonempty
    let above (node other : nodes) : Prop := TransGen relation other.1 node.1
    have : IsTrans nodes above := ⟨fun _ _ _ up down => TransGen.trans down up⟩
    have : Std.Irrefl above := ⟨fun node => acyclic node.1⟩
    have wellFounded : WellFounded above := Finite.wellFounded_of_trans_of_irrefl above
    obtain ⟨first, member⟩ := nonempty
    obtain ⟨node, -, isLast⟩ := wellFounded.has_min Set.univ ⟨⟨first, member⟩, trivial⟩
    exact ⟨node.1, node.2, fun other isNode edge =>
      isLast ⟨other, isNode⟩ trivial (TransGen.single edge)⟩
  · intro sinks node cycle
    obtain ⟨nodes, isFirst, onwards⟩ := exists_nodes cycle
    obtain ⟨sink, member, isSink⟩ := sinks nodes ⟨node, isFirst⟩
    obtain ⟨other, isNode, edge⟩ := onwards sink member
    rcases isNode with isNode | rfl
    · exact isSink other isNode edge
    · exact isSink other isFirst edge

/-- A walk meets no node twice, so it is no longer than there are nodes. -/
theorem length_le {relation : Nat → Nat → Prop} (acyclic : Acyclic relation) {bound : Nat}
    {walk : List Nat}
    (steps : walk.Pairwise fun later earlier => TransGen relation earlier later)
    (inside : ∀ node ∈ walk, node < bound) : walk.length ≤ bound := by
  have distinct : walk.Nodup := by
    refine steps.imp fun {later earlier} step same => ?_
    subst same
    exact acyclic later step
  have contained : walk ⊆ List.range bound := fun node member =>
    List.mem_range.mpr (inside node member)
  calc walk.length ≤ (List.range bound).length := (distinct.subperm contained).length_le
    _ = bound := List.length_range

end Acyclic

/-
This file proves in which order the groups of overlapping outputs come: each output that is added
puts its group last, so the groups are ordered by their last outputs. Groupings of two
configurations that have their outputs in the same order are then the same list of groups exactly
if the same outputs are linked.
-/

import Mir.Graphics.OutputGrouping

namespace Mir.Graphics

open Components

namespace OverlappingOutputGrouping

/-! ### Linked outputs -/

/-- A chain of active outputs leads from one to the other, each of which overlaps the next and has
its orientation. -/
def LinkedIDs (outputs : List DisplayConfigurationOutput) (first second : OutputID) : Prop :=
  ∃ one ∈ outputs.filter DisplayConfigurationOutput.active, ∃ other, one.id = first ∧
    other.id = second ∧ Linked Joined (outputs.filter DisplayConfigurationOutput.active) one other

theorem orientation_eq_of_linked {outputs : List DisplayConfigurationOutput}
    {first second : DisplayConfigurationOutput} (linked : Linked Joined outputs first second) :
    first.orientation = second.orientation := by
  induction linked with
  | refl => rfl
  | tail _ step inductionHypothesis =>
    have joined : (_ && _) = true := step.2.2
    rw [Bool.and_eq_true, decide_eq_true_iff] at joined
    exact inductionHypothesis.trans joined.2

/-! ### The order of the groups -/

/-- The ids of the outputs in each group. -/
def ids (groups : List OverlappingOutputGroup) : List (List OutputID) :=
  groups.map (List.map DisplayConfigurationOutput.id)

section Grouping

variable {walk : List DisplayConfigurationOutput → List DisplayConfigurationOutput}
  {rank : OutputID → Nat}

theorem nodup_of_ordered {outputs : List DisplayConfigurationOutput}
    (ordered : outputs.Pairwise fun first second => rank first.id < rank second.id) :
    (outputs.map DisplayConfigurationOutput.id).Nodup := by
  refine List.pairwise_map.mpr (ordered.imp fun {first second} less same => ?_)
  rw [same] at less
  exact Nat.lt_irrefl _ less

/-- Each output that is added puts its group last. -/
theorem ofConfiguration_increasing (walks : ∀ outputs, (walk outputs).Perm outputs)
    (outputs : List DisplayConfigurationOutput)
    (ordered : outputs.Pairwise fun first second => rank first.id < rank second.id) :
    (ofConfiguration walk outputs).Pairwise fun group other =>
      last (fun output => rank output.id) group < last (fun output => rank output.id) other := by
  induction outputs using List.reverseRecOn with
  | nil => exact .nil
  | append_singleton outputs output inductionHypothesis =>
    obtain ⟨earlier, -, before⟩ := List.pairwise_append.mp ordered
    have increasing := inductionHypothesis earlier
    have partitions := ofConfiguration_partitions walks outputs (nodup_of_ordered earlier)
    have members : ∀ group ∈ ofConfiguration walk outputs, group ⊆ outputs :=
      fun group isGroup other inGroup =>
      (List.mem_filter.mp ((partitions.covers other).mpr ⟨group, isGroup, inGroup⟩)).1
    rw [ofConfiguration_append]
    split
    · obtain ⟨merged, mem_merged, same⟩ := addOutput_eq walks
        (distinct_of_nodup (nodup_of_ordered ordered))
        fun group isGroup other inGroup => List.mem_append_left _ (members group isGroup inGroup)
      rw [same]
      refine List.pairwise_append.mpr ⟨increasing.filter _, List.pairwise_singleton _ _, ?_⟩
      intro group kept _ isMerged
      rw [List.mem_singleton.mp isMerged]
      have isGroup := (List.mem_filter.mp kept).1
      refine Nat.lt_of_lt_of_le
        (last_lt (partitions.inhabited group isGroup) fun other inGroup => ?_)
        (le_last ((mem_merged output).mpr (.inl rfl)))
      exact before other (members group isGroup inGroup) output (List.mem_singleton_self output)
    · exact increasing

/-- The groups come in the order of their last outputs. -/
theorem ids_inOrder (walks : ∀ outputs, (walk outputs).Perm outputs)
    {outputs : List DisplayConfigurationOutput}
    (ordered : outputs.Pairwise fun first second => rank first.id < rank second.id) :
    InOrder rank (ids (ofConfiguration walk outputs)) := by
  have nodup := nodup_of_ordered ordered
  have partitions := ofConfiguration_partitions walks outputs nodup
  refine ⟨?_, ?_, ?_⟩
  · refine List.pairwise_map.mpr (partitions.apart.imp_of_mem ?_)
    intro group other isGroup isOther disjoint id inGroup inOther
    obtain ⟨first, isFirst, rfl⟩ := List.mem_map.mp inGroup
    obtain ⟨second, isSecond, same⟩ := List.mem_map.mp inOther
    have firstMember := (partitions.covers first).mpr ⟨group, isGroup, isFirst⟩
    have secondMember := (partitions.covers second).mpr ⟨other, isOther, isSecond⟩
    rw [distinct_of_nodup nodup second (List.mem_filter.mp secondMember).1 first
      (List.mem_filter.mp firstMember).1 same] at isSecond
    exact disjoint isFirst isSecond
  · intro _ isIDs
    obtain ⟨group, isGroup, rfl⟩ := List.mem_map.mp isIDs
    exact List.map_eq_nil_iff.not.mpr (partitions.inhabited group isGroup)
  · refine List.pairwise_map.mpr ((ofConfiguration_increasing walks outputs ordered).imp ?_)
    intro group other less
    unfold last at less ⊢
    rw [List.map_map, List.map_map]
    exact less

/-- Outputs are in one group exactly if they are linked. -/
theorem together_ids_iff (walks : ∀ outputs, (walk outputs).Perm outputs)
    {outputs : List DisplayConfigurationOutput}
    (nodup : (outputs.map DisplayConfigurationOutput.id).Nodup) (first second : OutputID) :
    Together (ids (ofConfiguration walk outputs)) first second ↔
      LinkedIDs outputs first second := by
  have partitions := ofConfiguration_partitions walks outputs nodup
  constructor
  · rintro ⟨_, isIDs, isFirst, isSecond⟩
    obtain ⟨group, isGroup, rfl⟩ := List.mem_map.mp isIDs
    obtain ⟨one, inGroup, rfl⟩ := List.mem_map.mp isFirst
    obtain ⟨other, alsoInGroup, rfl⟩ := List.mem_map.mp isSecond
    exact ⟨one, (partitions.covers one).mpr ⟨group, isGroup, inGroup⟩, other, rfl, rfl,
      partitions.linked group isGroup one inGroup other alsoInGroup⟩
  · rintro ⟨one, member, other, rfl, rfl, linked⟩
    obtain ⟨group, isGroup, inGroup, alsoInGroup⟩ := (partitions.together_iff member).mpr linked
    exact ⟨_, List.mem_map_of_mem isGroup, List.mem_map_of_mem inGroup,
      List.mem_map_of_mem alsoInGroup⟩

end Grouping

end OverlappingOutputGrouping

end Mir.Graphics

/-
This file models the grouping of display outputs that overlap, and proves that the groups are the
connected components of the active outputs. Outputs are added one by one, and the groups that an
output overlaps are united with it by way of a hash set, which is walked in an order of its own.
-/

import Mathlib.Data.List.Induction
import Mathlib.Data.List.Nodup
import Mir.Geometry.Rectangle
import Mir.Library.Components

namespace Mir.Graphics

open Mir.Geometry Components

abbrev OutputID := Nat

inductive PowerMode
  | on
  | standby
  | suspend
  | off
  deriving DecidableEq, Repr

inductive Orientation
  | normal
  | left
  | inverted
  | right
  deriving DecidableEq, Repr

/-- An output, with the sizes of its modes. -/
structure DisplayConfigurationOutput where
  id : OutputID
  modes : List Size
  connected : Bool
  used : Bool
  topLeft : Point
  currentModeIndex : Nat
  powerMode : PowerMode
  orientation : Orientation
  deriving DecidableEq, Repr

def extentsOf (modes : List Size) (currentModeIndex : Nat) (orientation : Orientation)
    (topLeft : Point) : Rectangle :=
  match modes[currentModeIndex]? with
  | none => Rectangle.empty
  | some size =>
    if orientation = .normal ∨ orientation = .inverted then ⟨topLeft, size⟩
    else ⟨topLeft, ⟨size.height, size.width⟩⟩

namespace DisplayConfigurationOutput

def extents (output : DisplayConfigurationOutput) : Rectangle :=
  extentsOf output.modes output.currentModeIndex output.orientation output.topLeft

/-- What the grouping asks of an output before it is added. -/
def active (output : DisplayConfigurationOutput) : Bool :=
  output.connected && output.used && decide (output.powerMode = .on) &&
    decide (output.currentModeIndex < output.modes.length)

/-- Outputs of different orientations are not grouped. -/
def groupsWith (other output : DisplayConfigurationOutput) : Bool :=
  other.extents.overlaps output.extents && decide (other.orientation = output.orientation)

end DisplayConfigurationOutput

/-! ### The grouping -/

abbrev OverlappingOutputGroup := List DisplayConfigurationOutput

namespace OverlappingOutputGrouping

/-- The insertion into a set of outputs that are compared by their ids. -/
def insert (newGroup : List DisplayConfigurationOutput) (output : DisplayConfigurationOutput) :
    List DisplayConfigurationOutput :=
  if output.id ∈ newGroup.map DisplayConfigurationOutput.id then newGroup else newGroup ++ [output]

def groupAt (groups : List OverlappingOutputGroup) (index : Nat) : OverlappingOutputGroup :=
  groups.getD index []

def foundOverlap (output : DisplayConfigurationOutput) (group : OverlappingOutputGroup) : Bool :=
  group.any fun other => other.groupsWith output

/-- The indices of the groups that an output overlaps, the last one first. -/
def overlappingGroups (groups : List OverlappingOutputGroup)
    (output : DisplayConfigurationOutput) : List Nat :=
  (List.range groups.length).reverse.filter fun index =>
    foundOverlap output (groupAt groups index)

/-- One group goes into the new one and is erased. -/
def uniteGroup (united : List DisplayConfigurationOutput × List OverlappingOutputGroup)
    (index : Nat) : List DisplayConfigurationOutput × List OverlappingOutputGroup :=
  ((groupAt united.2 index).foldl insert united.1, united.2.eraseIdx index)

section Walk

variable (walk : List DisplayConfigurationOutput → List DisplayConfigurationOutput)

def addOutput (groups : List OverlappingOutputGroup) (confOutput : DisplayConfigurationOutput) :
    List OverlappingOutputGroup :=
  if overlappingGroups groups confOutput ≠ [] then
    let united := (overlappingGroups groups confOutput).foldl uniteGroup ([], groups)
    united.2 ++ [walk (insert united.1 confOutput)]
  else groups ++ [[confOutput]]

/-- The grouping of the outputs of a configuration, in the order in which it enumerates them. -/
def ofConfiguration (outputs : List DisplayConfigurationOutput) : List OverlappingOutputGroup :=
  outputs.foldl
    (fun groups confOutput =>
      if confOutput.active = true then addOutput walk groups confOutput else groups)
    []

end Walk

/-! ### Uniting groups -/

/-- Outputs with one id are one output. -/
def Distinct (outputs : List DisplayConfigurationOutput) : Prop :=
  ∀ first ∈ outputs, ∀ second ∈ outputs, first.id = second.id → first = second

theorem mem_insert {outputs newGroup : List DisplayConfigurationOutput}
    {output : DisplayConfigurationOutput} (distinct : Distinct outputs)
    (within : newGroup ⊆ outputs) (member : output ∈ outputs) (other : DisplayConfigurationOutput) :
    other ∈ insert newGroup output ↔ other ∈ newGroup ∨ other = output := by
  unfold insert
  by_cases known : output.id ∈ newGroup.map DisplayConfigurationOutput.id
  · rw [if_pos known]
    refine ⟨.inl, fun either => either.elim (fun old => old) ?_⟩
    rintro rfl
    obtain ⟨same, inGroup, sameID⟩ := List.mem_map.mp known
    exact distinct same (within inGroup) other member sameID ▸ inGroup
  · rw [if_neg known, List.mem_append, List.mem_singleton]

theorem mem_foldl_insert {outputs : List DisplayConfigurationOutput} (distinct : Distinct outputs)
    (group : List DisplayConfigurationOutput) (isWithin : group ⊆ outputs)
    (newGroup : List DisplayConfigurationOutput) (within : newGroup ⊆ outputs)
    (other : DisplayConfigurationOutput) :
    other ∈ group.foldl insert newGroup ↔ other ∈ newGroup ∨ other ∈ group := by
  induction group generalizing newGroup with
  | nil => simp
  | cons first rest inductionHypothesis =>
    have member : first ∈ outputs := isWithin List.mem_cons_self
    have inserted := mem_insert distinct within member
    have stays : insert newGroup first ⊆ outputs := by
      intro old isOld
      rcases (inserted old).mp isOld with before | rfl
      · exact within before
      · exact member
    rw [List.foldl_cons,
      inductionHypothesis (fun _ later => isWithin (List.mem_cons_of_mem _ later)) _ stays,
      inserted, List.mem_cons, or_assoc]

section Unite

variable (output : DisplayConfigurationOutput)

theorem groupAt_append {groups tail : List OverlappingOutputGroup} {index : Nat}
    (within : index < groups.length) : groupAt (groups ++ tail) index = groupAt groups index := by
  unfold groupAt
  rw [List.getD_eq_getElem?_getD, List.getElem?_append_left within, ← List.getD_eq_getElem?_getD]

theorem overlappingGroups_append (groups : List OverlappingOutputGroup)
    (group : OverlappingOutputGroup) :
    overlappingGroups (groups ++ [group]) output =
      (if foundOverlap output group = true then [groups.length] else []) ++
        overlappingGroups groups output := by
  have last : groupAt (groups ++ [group]) groups.length = group := by simp [groupAt]
  unfold overlappingGroups
  rw [List.length_append, List.length_singleton, List.range_succ, List.reverse_append,
    List.filter_append]
  congr 1
  · rw [List.reverse_singleton, List.filter_cons, last, List.filter_nil]
  · refine List.filter_congr fun index member => ?_
    rw [groupAt_append (List.mem_range.mp (List.mem_reverse.mp member))]

/-- The loop that unites takes out the groups that are overlapped, and the indices still to come
stay right since they come from the last to the first. -/
theorem foldl_uniteGroup {outputs : List DisplayConfigurationOutput} (distinct : Distinct outputs)
    (groups : List OverlappingOutputGroup) (isWithin : ∀ group ∈ groups, group ⊆ outputs)
    (newGroup : List DisplayConfigurationOutput) (within : newGroup ⊆ outputs)
    (tail : List OverlappingOutputGroup) :
    let united := (overlappingGroups groups output).foldl uniteGroup (newGroup, groups ++ tail)
    united.2 = (groups.filter fun group => !foundOverlap output group) ++ tail ∧
      ∀ other, other ∈ united.1 ↔ other ∈ newGroup ∨
        ∃ group ∈ groups, foundOverlap output group = true ∧ other ∈ group := by
  induction groups using List.reverseRecOn generalizing newGroup tail with
  | nil => simp [overlappingGroups]
  | append_singleton groups group inductionHypothesis =>
    have before : ∀ group ∈ groups, group ⊆ outputs :=
      fun group member => isWithin group (List.mem_append_left _ member)
    rw [overlappingGroups_append]
    cases found : foundOverlap output group with
    | false =>
      have rest := inductionHypothesis before newGroup within (group :: tail)
      simp only [List.append_assoc, List.singleton_append, List.nil_append, Bool.false_eq_true,
        if_false, List.filter_append]
      refine ⟨rest.1.trans (by simp [found]), fun other => (rest.2 other).trans ?_⟩
      simp [or_and_right, exists_or, found]
    | true =>
      have isLast : group ⊆ outputs := isWithin group (List.mem_append_right _ (by simp))
      have inserted := mem_foldl_insert distinct group isLast newGroup within
      have stays : group.foldl insert newGroup ⊆ outputs := fun other member =>
        ((inserted other).mp member).elim (fun old => within old) (fun new => isLast new)
      have rest := inductionHypothesis before (group.foldl insert newGroup) stays tail
      have first : uniteGroup (newGroup, groups ++ [group] ++ tail) groups.length =
          (group.foldl insert newGroup, groups ++ tail) := by
        simp [uniteGroup, groupAt, List.eraseIdx_append_of_length_le]
      simp only [if_true, List.singleton_append, List.foldl_cons]
      rw [first]
      refine ⟨rest.1.trans (by simp [found]), fun other => (rest.2 other).trans ?_⟩
      rw [inserted, or_assoc]
      refine or_congr_right ?_
      simp [or_and_right, exists_or, found, or_comm]

end Unite

/-! ### The groups are the components -/

theorem groupsWith_symm {first second : DisplayConfigurationOutput}
    (groups : first.groupsWith second = true) : second.groupsWith first = true := by
  unfold DisplayConfigurationOutput.groupsWith at groups ⊢
  obtain ⟨overlap, same⟩ := (Bool.and_eq_true _ _).mp groups
  rw [Rectangle.overlaps_comm, overlap, Bool.true_and]
  exact decide_eq_true (of_decide_eq_true same).symm

/-- The relation between outputs whose extents overlap and whose orientation is the same. -/
def Joined (first second : DisplayConfigurationOutput) : Prop := first.groupsWith second = true

theorem foundOverlap_iff (output : DisplayConfigurationOutput) (group : OverlappingOutputGroup) :
    foundOverlap output group = true ↔ ∃ other ∈ group, Joined other output :=
  List.any_eq_true

section Grouping

variable {walk : List DisplayConfigurationOutput → List DisplayConfigurationOutput}

/-- The groups that an output overlaps are taken out, and one group with all of them is added. -/
theorem addOutput_eq (walks : ∀ outputs, (walk outputs).Perm outputs)
    {outputs : List DisplayConfigurationOutput} {groups : List OverlappingOutputGroup}
    {output : DisplayConfigurationOutput} (distinct : Distinct (outputs ++ [output]))
    (isWithin : ∀ group ∈ groups, group ⊆ outputs ++ [output]) :
    ∃ merged : OverlappingOutputGroup, (∀ other, other ∈ merged ↔ other = output ∨
      ∃ group ∈ groups, foundOverlap output group = true ∧ other ∈ group) ∧
      addOutput walk groups output =
        (groups.filter fun group => !foundOverlap output group) ++ [merged] := by
  obtain ⟨kept, united⟩ :=
    foldl_uniteGroup output distinct groups isWithin [] (List.nil_subset _) []
  rw [List.append_nil, List.append_nil] at kept
  rw [List.append_nil] at united
  have within : ((overlappingGroups groups output).foldl uniteGroup ([], groups)).1 ⊆
      outputs ++ [output] := by
    intro other member
    rcases (united other).mp member with old | ⟨group, isGroup, -, inGroup⟩
    · cases old
    · exact isWithin group isGroup inGroup
  have inserted := mem_insert distinct within
    (List.mem_append_right _ (List.mem_singleton_self output))
  unfold addOutput
  by_cases overlaps : overlappingGroups groups output = []
  · rw [if_neg (not_not.mpr overlaps)]
    rw [overlaps] at kept united
    refine ⟨[output], fun other => ?_, by rw [← kept]; rfl⟩
    have nowhere := (united other).not.mp List.not_mem_nil
    rw [List.mem_singleton]
    exact (or_iff_left fun somewhere => nowhere (.inr somewhere)).symm
  · rw [if_pos overlaps]
    dsimp only
    refine ⟨_, fun other => ?_, by rw [kept]⟩
    rw [(walks _).mem_iff, inserted, united, or_comm]
    simp

theorem addOutput_partitions (walks : ∀ outputs, (walk outputs).Perm outputs)
    {outputs : List DisplayConfigurationOutput} {groups : List OverlappingOutputGroup}
    (partitions : Partitions Joined outputs groups) {output : DisplayConfigurationOutput}
    (distinct : Distinct (outputs ++ [output])) (fresh : output ∉ outputs) :
    Partitions Joined (outputs ++ [output]) (addOutput walk groups output) := by
  have isWithin : ∀ group ∈ groups, group ⊆ outputs ++ [output] :=
    fun group isGroup other inGroup =>
    List.mem_append_left _ ((partitions.covers other).mpr ⟨group, isGroup, inGroup⟩)
  obtain ⟨merged, mem_merged, same⟩ := addOutput_eq walks distinct isWithin
  rw [same]
  exact partitions.insert (fun _ _ => groupsWith_symm) fresh
    (fun group _ => foundOverlap_iff output group) mem_merged

theorem ofConfiguration_append (outputs : List DisplayConfigurationOutput)
    (output : DisplayConfigurationOutput) :
    ofConfiguration walk (outputs ++ [output]) =
      if output.active = true then addOutput walk (ofConfiguration walk outputs) output
      else ofConfiguration walk outputs := by
  unfold ofConfiguration
  rw [List.foldl_append]
  rfl

theorem distinct_of_nodup {outputs : List DisplayConfigurationOutput}
    (nodup : (outputs.map DisplayConfigurationOutput.id).Nodup) : Distinct outputs :=
  fun _ isFirst _ isSecond same => List.inj_on_of_nodup_map nodup isFirst isSecond same

theorem ofConfiguration_partitions (walks : ∀ outputs, (walk outputs).Perm outputs)
    (outputs : List DisplayConfigurationOutput)
    (nodup : (outputs.map DisplayConfigurationOutput.id).Nodup) :
    Partitions Joined (outputs.filter DisplayConfigurationOutput.active)
      (ofConfiguration walk outputs) := by
  induction outputs using List.reverseRecOn with
  | nil => exact .nil
  | append_singleton outputs output inductionHypothesis =>
    have earlier : outputs.map DisplayConfigurationOutput.id <+:
        (outputs ++ [output]).map DisplayConfigurationOutput.id :=
      List.IsPrefix.map _ (List.prefix_append _ _)
    have partitions := inductionHypothesis (nodup.sublist earlier.sublist)
    have fresh : output ∉ outputs := by
      intro member
      rw [List.map_append] at nodup
      exact (List.nodup_append.mp nodup).2.2 _ (List.mem_map_of_mem member) _
        (List.mem_singleton_self _) rfl
    rw [ofConfiguration_append, List.filter_append, List.filter_cons, List.filter_nil]
    by_cases active : output.active = true
    · rw [if_pos active, if_pos active]
      refine addOutput_partitions walks partitions ?_
        fun member => fresh (List.mem_filter.mp member).1
      have kept : (outputs.filter DisplayConfigurationOutput.active ++ [output]).Sublist
          (outputs ++ [output]) := List.filter_sublist.append (List.Sublist.refl _)
      exact distinct_of_nodup (nodup.sublist (kept.map _))
    · rw [if_neg active, if_neg active, List.append_nil]
      exact partitions

/-- The groups are the connected components of the active outputs, whatever the order in which the
outputs are enumerated and the sets are walked. -/
theorem groups_are_components (walks : ∀ outputs, (walk outputs).Perm outputs)
    (outputs : List DisplayConfigurationOutput)
    (nodup : (outputs.map DisplayConfigurationOutput.id).Nodup) :
    (∀ output, (output ∈ outputs ∧ output.active = true) ↔
      ∃ group ∈ ofConfiguration walk outputs, output ∈ group) ∧
    (∀ output ∈ outputs, output.active = true →
      ((ofConfiguration walk outputs).countP fun group => decide (output ∈ group)) = 1) ∧
    (∀ group ∈ ofConfiguration walk outputs, group ≠ []) ∧
    (∀ first ∈ outputs, first.active = true → ∀ second,
      (∃ group ∈ ofConfiguration walk outputs, first ∈ group ∧ second ∈ group) ↔
        Linked Joined (outputs.filter DisplayConfigurationOutput.active) first second) ∧
    ∀ (others : List DisplayConfigurationOutput)
      (otherWalk : List DisplayConfigurationOutput → List DisplayConfigurationOutput),
      others.Perm outputs → (∀ outputs, (otherWalk outputs).Perm outputs) →
        ∀ group ∈ ofConfiguration walk outputs, ∃ other ∈ ofConfiguration otherWalk others,
          ∀ output, output ∈ group ↔ output ∈ other := by
  have partitions := ofConfiguration_partitions walks outputs nodup
  refine ⟨fun output => ?_, fun output member active => ?_, partitions.inhabited,
    fun first member active second => ?_, fun others otherWalk perm otherWalks group isGroup => ?_⟩
  · rw [← partitions.covers, List.mem_filter]
  · exact partitions.countP_groups (List.mem_filter.mpr ⟨member, active⟩)
  · exact partitions.together_iff (List.mem_filter.mpr ⟨member, active⟩)
  · have again := ofConfiguration_partitions otherWalks others
      ((perm.map DisplayConfigurationOutput.id).nodup_iff.mpr nodup)
    have same := again.perm fun output =>
      (perm.filter DisplayConfigurationOutput.active).symm.mem_iff
    exact partitions.same_groups same isGroup

def outputAt (id : OutputID) (x : Int) : DisplayConfigurationOutput :=
  ⟨id, [⟨100, 50⟩], true, true, ⟨x, 0⟩, 0, .on, .normal⟩

/-- Three outputs in a row, of which the one in the middle is enumerated last. -/
def threeInARow : List DisplayConfigurationOutput := [outputAt 1 0, outputAt 2 150, outputAt 3 80]

theorem groups_are_components_of_threeInARow :
    ((ofConfiguration List.reverse threeInARow).countP
      fun group => decide (outputAt 1 0 ∈ group)) = 1 :=
  (groups_are_components List.reverse_perm threeInARow (by decide)).2.1 (outputAt 1 0)
    List.mem_cons_self (by decide)

end Grouping

end OverlappingOutputGrouping

end Mir.Graphics

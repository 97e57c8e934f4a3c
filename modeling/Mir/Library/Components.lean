/-
This file is a small library of connected components. A list of groups is the partition of a list
of items into components when linked items are in one group and only those are. An item that is
added unites the groups that it is joined to, and the partition stays one: so components can be
kept up as the items arrive, in any order.
-/

import Mathlib.Data.List.Pairwise
import Mathlib.Logic.Relation

namespace Components

variable {Item : Type*}

/-- A chain of joined items leads from one item to another. -/
def Linked (joined : Item → Item → Prop) (items : List Item) : Item → Item → Prop :=
  Relation.ReflTransGen fun first second => first ∈ items ∧ second ∈ items ∧ joined first second

/-- The groups are the connected components of the items. -/
structure Partitions (joined : Item → Item → Prop) (items : List Item)
    (groups : List (List Item)) : Prop where
  covers : ∀ item, item ∈ items ↔ ∃ group ∈ groups, item ∈ group
  apart : groups.Pairwise List.Disjoint
  inhabited : ∀ group ∈ groups, group ≠ []
  linked : ∀ group ∈ groups, ∀ first ∈ group, ∀ second ∈ group, Linked joined items first second
  closed : ∀ group ∈ groups, ∀ first ∈ group, ∀ second ∈ items, joined first second →
    second ∈ group

variable {joined : Item → Item → Prop} {items : List Item} {groups : List (List Item)}
  {first second : Item}

namespace Linked

theorem mono {more : List Item} (linked : Linked joined items first second)
    (fewer : items ⊆ more) : Linked joined more first second :=
  Relation.ReflTransGen.mono (fun _ _ step => ⟨fewer step.1, fewer step.2.1, step.2.2⟩) _ _ linked

theorem symm (symmetric : ∀ first second, joined first second → joined second first)
    (linked : Linked joined items first second) : Linked joined items second first := by
  induction linked with
  | refl => exact .refl
  | tail _ step inductionHypothesis =>
    exact .head ⟨step.2.1, step.1, symmetric _ _ step.2.2⟩ inductionHypothesis

end Linked

namespace Partitions

theorem nil : Partitions joined [] [] where
  covers item := by simp
  apart := List.Pairwise.nil
  inhabited := nofun
  linked := nofun
  closed := nofun

/-- Two items are in one group exactly if they are linked. -/
theorem together_iff (partitions : Partitions joined items groups) (member : first ∈ items) :
    (∃ group ∈ groups, first ∈ group ∧ second ∈ group) ↔ Linked joined items first second := by
  constructor
  · rintro ⟨group, isGroup, isFirst, isSecond⟩
    exact partitions.linked group isGroup first isFirst second isSecond
  · intro linked
    obtain ⟨group, isGroup, isFirst⟩ := (partitions.covers first).mp member
    refine ⟨group, isGroup, isFirst, ?_⟩
    induction linked with
    | refl => exact isFirst
    | tail _ step inductionHypothesis =>
      exact partitions.closed group isGroup _ inductionHypothesis _ step.2.1 step.2.2

/-- An item is in one group only. -/
theorem group_unique (partitions : Partitions joined items groups) {group other : List Item}
    (isGroup : group ∈ groups) (isOther : other ∈ groups) (inGroup : first ∈ group)
    (inOther : first ∈ other) : other = group := by
  by_contra different
  have : Std.Symm fun first second : List Item => first.Disjoint second :=
    ⟨fun _ _ disjoint _ inFirst inSecond => disjoint inSecond inFirst⟩
  exact partitions.apart.forall isOther isGroup different inOther inGroup

/-- Of the groups, one has the item. -/
theorem countP_groups [DecidableEq Item] (partitions : Partitions joined items groups)
    (member : first ∈ items) :
    (groups.countP fun group => decide (first ∈ group)) = 1 := by
  obtain ⟨group, isGroup, inGroup⟩ := (partitions.covers first).mp member
  have apart := partitions.apart
  clear partitions
  induction groups with
  | nil => cases isGroup
  | cons head rest inductionHypothesis =>
    obtain ⟨disjoint, later⟩ := List.pairwise_cons.mp apart
    rw [List.countP_cons]
    rcases List.mem_cons.mp isGroup with rfl | isLater
    · have absent : (rest.countP fun group => decide (first ∈ group)) = 0 :=
        List.countP_eq_zero.mpr fun other isOther inOther =>
          disjoint other isOther inGroup (of_decide_eq_true inOther)
      rw [absent, if_pos (decide_eq_true inGroup)]
    · have notHead : first ∉ head := fun inHead => disjoint group isLater inHead inGroup
      rw [if_neg (by simpa using notHead), inductionHypothesis isLater later]

/-- The items do not say in what order they came. -/
theorem perm {others : List Item} (partitions : Partitions joined items groups)
    (same : ∀ item, item ∈ others ↔ item ∈ items) : Partitions joined others groups where
  covers item := (same item).trans (partitions.covers item)
  apart := partitions.apart
  inhabited := partitions.inhabited
  linked group isGroup first isFirst second isSecond :=
    (partitions.linked group isGroup first isFirst second isSecond).mono
      fun item member => (same item).mpr member
  closed group isGroup first isFirst second member :=
    partitions.closed group isGroup first isFirst second ((same second).mp member)

/-- Two partitions of the same items have the same groups. -/
theorem same_groups {others : List (List Item)} (partitions : Partitions joined items groups)
    (partitioned : Partitions joined items others) {group : List Item} (isGroup : group ∈ groups) :
    ∃ other ∈ others, ∀ item, item ∈ group ↔ item ∈ other := by
  obtain ⟨first, isFirst⟩ := List.exists_mem_of_ne_nil group (partitions.inhabited group isGroup)
  have member : first ∈ items := (partitions.covers first).mpr ⟨group, isGroup, isFirst⟩
  obtain ⟨other, isOther, inOther⟩ := (partitioned.covers first).mp member
  refine ⟨other, isOther, fun item => ⟨fun inGroup => ?_, fun isSecond => ?_⟩⟩
  · have linked := partitions.linked group isGroup first isFirst item inGroup
    obtain ⟨third, isThird, again, there⟩ := (partitioned.together_iff member).mpr linked
    exact partitioned.group_unique isOther isThird inOther again ▸ there
  · have linked := partitioned.linked other isOther first inOther item isSecond
    obtain ⟨third, isThird, again, there⟩ := (partitions.together_iff member).mpr linked
    exact partitions.group_unique isGroup isThird isFirst again ▸ there

section Insert

variable {item : Item} {touches : List Item → Bool} {merged : List Item}

/-- The groups that an item is joined to become one with it. -/
theorem insert (partitions : Partitions joined items groups)
    (symmetric : ∀ first second, joined first second → joined second first)
    (fresh : item ∉ items)
    (touches_iff : ∀ group ∈ groups, touches group = true ↔ ∃ other ∈ group, joined other item)
    (mem_merged : ∀ other, other ∈ merged ↔
      other = item ∨ ∃ group ∈ groups, touches group = true ∧ other ∈ group) :
    Partitions joined (items ++ [item])
      ((groups.filter fun group => !touches group) ++ [merged]) := by
  have fewer : items ⊆ items ++ [item] := List.subset_append_left _ _
  have isLast : item ∈ items ++ [item] := List.mem_append_right _ (List.mem_singleton_self item)
  have inItems {group : List Item} (isGroup : group ∈ groups) {other : Item}
      (inGroup : other ∈ group) : other ∈ items :=
    (partitions.covers other).mpr ⟨group, isGroup, inGroup⟩
  -- from every item of a group that is touched a chain leads to the new item
  have toItem {other : Item} (inMerged : other ∈ merged) :
      Linked joined (items ++ [item]) other item := by
    rcases (mem_merged other).mp inMerged with rfl | ⟨group, isGroup, touched, inGroup⟩
    · exact .refl
    · obtain ⟨last, isLastOf, meets⟩ := (touches_iff group isGroup).mp touched
      have linked := (partitions.linked group isGroup other inGroup last isLastOf).mono fewer
      exact linked.tail ⟨fewer (inItems isGroup isLastOf), isLast, meets⟩
  have isMerged {group : List Item} (isGroup : group ∈ groups) (touched : touches group = true)
      {other : Item} (inGroup : other ∈ group) : other ∈ merged :=
    (mem_merged other).mpr (.inr ⟨group, isGroup, touched, inGroup⟩)
  refine ⟨fun other => ?_, ?_, fun group member => ?_, fun group member => ?_,
    fun group member => ?_⟩
  · rw [List.mem_append, List.mem_singleton, partitions.covers]
    constructor
    · rintro (⟨group, isGroup, inGroup⟩ | rfl)
      · cases touched : touches group with
        | true =>
          exact ⟨merged, List.mem_append_right _ (List.mem_singleton_self _),
            isMerged isGroup touched inGroup⟩
        | false =>
          refine ⟨group, List.mem_append_left _ (List.mem_filter.mpr ⟨isGroup, ?_⟩), inGroup⟩
          rw [touched]
          rfl
      · exact ⟨merged, List.mem_append_right _ (List.mem_singleton_self _),
          (mem_merged other).mpr (.inl rfl)⟩
    · rintro ⟨group, isGroup, inGroup⟩
      rcases List.mem_append.mp isGroup with kept | last
      · exact .inl ⟨group, (List.mem_filter.mp kept).1, inGroup⟩
      · rw [List.mem_singleton.mp last] at inGroup
        rcases (mem_merged other).mp inGroup with same | ⟨old, isOld, -, inOld⟩
        · exact .inr same
        · exact .inl ⟨old, isOld, inOld⟩
  · refine List.pairwise_append.mpr ⟨partitions.apart.filter _, List.pairwise_singleton _ _,
      fun group kept last isLast => ?_⟩
    obtain ⟨isGroup, untouched⟩ := List.mem_filter.mp kept
    rw [List.mem_singleton.mp isLast]
    intro other inGroup inMerged
    rcases (mem_merged other).mp inMerged with rfl | ⟨old, isOld, touched, inOld⟩
    · exact fresh (inItems isGroup inGroup)
    · rw [partitions.group_unique isGroup isOld inGroup inOld] at touched
      rw [touched] at untouched
      cases untouched
  · rcases List.mem_append.mp member with kept | last
    · exact partitions.inhabited group (List.mem_filter.mp kept).1
    · rw [List.mem_singleton.mp last]
      exact List.ne_nil_of_mem ((mem_merged item).mpr (.inl rfl))
  · intro first isFirst second isSecond
    rcases List.mem_append.mp member with kept | last
    · exact (partitions.linked group (List.mem_filter.mp kept).1 first isFirst second
        isSecond).mono fewer
    · rw [List.mem_singleton.mp last] at isFirst isSecond
      exact (toItem isFirst).trans ((toItem isSecond).symm symmetric)
  · intro first isFirst second isSecond meets
    rcases List.mem_append.mp member with kept | last
    · obtain ⟨isGroup, untouched⟩ := List.mem_filter.mp kept
      rcases List.mem_append.mp isSecond with old | new
      · exact partitions.closed group isGroup first isFirst second old meets
      · rw [List.mem_singleton.mp new] at meets
        rw [(touches_iff group isGroup).mpr ⟨first, isFirst, meets⟩] at untouched
        cases untouched
    · rw [List.mem_singleton.mp last] at isFirst ⊢
      rcases List.mem_append.mp isSecond with old | new
      · rcases (mem_merged first).mp isFirst with rfl | ⟨group, isGroup, touched, inGroup⟩
        · obtain ⟨group, isGroup, inGroup⟩ := (partitions.covers second).mp old
          have touched := (touches_iff group isGroup).mpr ⟨second, inGroup, symmetric _ _ meets⟩
          exact isMerged isGroup touched inGroup
        · exact isMerged isGroup touched
            (partitions.closed group isGroup first inGroup second old meets)
      · exact (mem_merged second).mpr (.inl (List.mem_singleton.mp new))

end Insert

end Partitions

/-! ### Groups in the order of their last items -/

/-- The groups have the same items. -/
def Same (group other : List Item) : Prop := ∀ item, item ∈ group ↔ item ∈ other

/-- Two items are in one group. -/
def Together (groups : List (List Item)) (first second : Item) : Prop :=
  ∃ group ∈ groups, first ∈ group ∧ second ∈ group

/-- The rank of the last item, where the items come in the order of their ranks. -/
def last (rank : Item → Nat) (group : List Item) : Nat := (group.map rank).foldr max 0

/-- Groups without common items, one after another. -/
structure InOrder (rank : Item → Nat) (groups : List (List Item)) : Prop where
  apart : groups.Pairwise List.Disjoint
  inhabited : ∀ group ∈ groups, group ≠ []
  increasing : groups.Pairwise fun group other => last rank group < last rank other

variable {rank : Item → Nat} {group other : List Item}

theorem last_cons (item : Item) (group : List Item) :
    last rank (item :: group) = max (rank item) (last rank group) := rfl

theorem le_last {item : Item} (member : item ∈ group) : rank item ≤ last rank group := by
  induction group with
  | nil => cases member
  | cons head rest inductionHypothesis =>
    rw [last_cons]
    rcases List.mem_cons.mp member with rfl | later
    · exact Nat.le_max_left _ _
    · exact Nat.le_trans (inductionHypothesis later) (Nat.le_max_right _ _)

theorem last_le {bound : Nat} (below : ∀ item ∈ group, rank item ≤ bound) :
    last rank group ≤ bound := by
  induction group with
  | nil => exact Nat.zero_le bound
  | cons head rest inductionHypothesis =>
    rw [last_cons]
    exact Nat.max_le.mpr ⟨below head List.mem_cons_self,
      inductionHypothesis fun item later => below item (List.mem_cons_of_mem _ later)⟩

theorem last_lt {bound : Nat} (inhabited : group ≠ [])
    (below : ∀ item ∈ group, rank item < bound) : last rank group < bound := by
  obtain ⟨item, member⟩ := List.exists_mem_of_ne_nil group inhabited
  have positive := below item member
  have most : last rank group ≤ bound - 1 :=
    last_le fun other isOther => Nat.le_pred_of_lt (below other isOther)
  omega

theorem last_congr (same : Same group other) : last rank group = last rank other :=
  Nat.le_antisymm (last_le fun item member => le_last ((same item).mp member))
    (last_le fun item member => le_last ((same item).mpr member))

/-- The ranks of other items do not count. -/
theorem last_congr_rank {otherRank : Item → Nat}
    (same : ∀ item ∈ group, otherRank item = rank item) : last otherRank group = last rank group :=
  Nat.le_antisymm
    (last_le fun item member => Nat.le_trans (Nat.le_of_eq (same item member)) (le_last member))
    (last_le fun item member =>
      Nat.le_trans (Nat.le_of_eq (same item member).symm) (le_last member))

theorem InOrder.congr_rank {groups : List (List Item)} {otherRank : Item → Nat}
    (inOrder : InOrder rank groups)
    (same : ∀ group ∈ groups, ∀ item ∈ group, otherRank item = rank item) :
    InOrder otherRank groups where
  apart := inOrder.apart
  inhabited := inOrder.inhabited
  increasing := by
    refine inOrder.increasing.imp_of_mem fun {group other} isGroup isOther less => ?_
    rw [last_congr_rank (same group isGroup), last_congr_rank (same other isOther)]
    exact less

/-- Of the groups in order, no two have an item in common. -/
theorem InOrder.group_unique {groups : List (List Item)} (inOrder : InOrder rank groups)
    (isGroup : group ∈ groups) (isOther : other ∈ groups) (inGroup : first ∈ group)
    (inOther : first ∈ other) : other = group := by
  by_contra different
  have : Std.Symm fun first second : List Item => first.Disjoint second :=
    ⟨fun _ _ disjoint _ inFirst inSecond => disjoint inSecond inFirst⟩
  exact inOrder.apart.forall isOther isGroup different inOther inGroup

theorem together_congr {groups others : List (List Item)} (same : List.Forall₂ Same groups others) :
    Together groups first second ↔ Together others first second := by
  unfold Together
  induction same with
  | nil => simp
  | cons head _ inductionHypothesis =>
    simp only [List.mem_cons, exists_eq_or_imp]
    exact or_congr (and_congr (head first) (head second)) inductionHypothesis

/-- Groups that have the same items together have the same groups. -/
theorem InOrder.exists_same {groups others : List (List Item)} (inOrder : InOrder rank groups)
    (otherInOrder : InOrder rank others)
    (together : ∀ first second, Together groups first second ↔ Together others first second)
    (isGroup : group ∈ groups) : ∃ other ∈ others, Same group other := by
  obtain ⟨first, isFirst⟩ := List.exists_mem_of_ne_nil group (inOrder.inhabited group isGroup)
  obtain ⟨other, isOther, inOther, -⟩ :=
    (together first first).mp ⟨group, isGroup, isFirst, isFirst⟩
  refine ⟨other, isOther, fun second => ⟨fun inGroup => ?_, fun isSecond => ?_⟩⟩
  · obtain ⟨third, isThird, again, there⟩ :=
      (together first second).mp ⟨group, isGroup, isFirst, inGroup⟩
    rw [← otherInOrder.group_unique isOther isThird inOther again]
    exact there
  · obtain ⟨third, isThird, again, there⟩ :=
      (together first second).mpr ⟨other, isOther, inOther, isSecond⟩
    rw [← inOrder.group_unique isGroup isThird isFirst again]
    exact there

theorem InOrder.tail {groups : List (List Item)} (inOrder : InOrder rank (group :: groups)) :
    InOrder rank groups where
  apart := (List.pairwise_cons.mp inOrder.apart).2
  inhabited := fun other isOther => inOrder.inhabited other (List.mem_cons_of_mem _ isOther)
  increasing := (List.pairwise_cons.mp inOrder.increasing).2

/-- The first group ends first. -/
theorem InOrder.last_head_le {groups : List (List Item)} (inOrder : InOrder rank (group :: groups))
    (isOther : other ∈ group :: groups) :
    other = group ∨ last rank group < last rank other := by
  rcases List.mem_cons.mp isOther with same | later
  · exact .inl same
  · exact .inr ((List.pairwise_cons.mp inOrder.increasing).1 other later)

/-- Two lists of groups in order are the same one if they have the same groups. -/
theorem forall₂_same {groups others : List (List Item)} (inOrder : InOrder rank groups)
    (otherInOrder : InOrder rank others)
    (has_other : ∀ group ∈ groups, ∃ other ∈ others, Same group other)
    (has_group : ∀ other ∈ others, ∃ group ∈ groups, Same group other) :
    List.Forall₂ Same groups others := by
  induction groups generalizing others with
  | nil =>
    cases others with
    | nil => exact .nil
    | cons other rest =>
      obtain ⟨group, isGroup, -⟩ := has_group other List.mem_cons_self
      cases isGroup
  | cons group rest inductionHypothesis =>
    cases others with
    | nil =>
      obtain ⟨other, isOther, -⟩ := has_other group List.mem_cons_self
      cases isOther
    | cons other others =>
      obtain ⟨partner, isPartner, samePartner⟩ := has_other group List.mem_cons_self
      obtain ⟨source, isSource, sameSource⟩ := has_group other List.mem_cons_self
      -- the one that ends first on one side is the one that does on the other
      have same : Same group other := by
        rcases inOrder.last_head_le isSource with rfl | later
        · exact sameSource
        · rcases otherInOrder.last_head_le isPartner with rfl | earlier
          · exact samePartner
          · rw [← last_congr samePartner, ← last_congr sameSource] at earlier
            exact absurd earlier (Nat.lt_asymm later)
      refine .cons same (inductionHypothesis inOrder.tail otherInOrder.tail ?_ ?_)
      · intro further isFurther
        obtain ⟨fellow, isFellow, sameFellow⟩ :=
          has_other further (List.mem_cons_of_mem _ isFurther)
        rcases List.mem_cons.mp isFellow with rfl | later
        · have less := (List.pairwise_cons.mp inOrder.increasing).1 further isFurther
          rw [last_congr same, last_congr sameFellow] at less
          exact absurd less (Nat.lt_irrefl _)
        · exact ⟨fellow, later, sameFellow⟩
      · intro further isFurther
        obtain ⟨fellow, isFellow, sameFellow⟩ :=
          has_group further (List.mem_cons_of_mem _ isFurther)
        rcases List.mem_cons.mp isFellow with rfl | later
        · have less := (List.pairwise_cons.mp otherInOrder.increasing).1 further isFurther
          rw [← last_congr same, ← last_congr sameFellow] at less
          exact absurd less (Nat.lt_irrefl _)
        · exact ⟨fellow, later, sameFellow⟩

/-- Two lists of groups in order are the same one exactly if the same items are together. -/
theorem forall₂_same_iff {groups others : List (List Item)} (inOrder : InOrder rank groups)
    (otherInOrder : InOrder rank others) :
    List.Forall₂ Same groups others ↔
      ∀ first second, Together groups first second ↔ Together others first second := by
  constructor
  · exact fun same first second => together_congr same
  · intro together
    refine forall₂_same inOrder otherInOrder
      (fun group isGroup => inOrder.exists_same otherInOrder together isGroup) ?_
    intro other isOther
    obtain ⟨group, isGroup, same⟩ := otherInOrder.exists_same inOrder
      (fun first second => (together first second).symm) isOther
    exact ⟨group, isGroup, fun item => (same item).symm⟩

end Components

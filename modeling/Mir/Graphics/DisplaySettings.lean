/-
This file compares the two ways in which a configuration is put into effect. The fast one keeps the
display buffers, and does not touch the power modes and the gamma of the outputs. It proves when
both leave the outputs with the same settings.

Power modes are compared before the fast way is taken, and gamma is not.
-/

import Mathlib.Data.List.Basic
import Mir.Graphics.KMSDisplay

namespace Mir.Graphics.KMS

open Mir.Geometry Components

/-! ### The settings in force -/

/-- The orientation and the area that an output is shown with. -/
abbrev Look := Orientation × Rectangle

def Group.look (group : Group) : Look := (group.orientation, group.boundingRectangle)

def DisplayBuffer.look (buffer : DisplayBuffer) : Look := (buffer.rotation, buffer.area)

/-- What an output was told, and what the display buffer looks like that drives it. -/
structure Settings where
  kmsOutput : KMSOutput
  shownBy : Option Look
  deriving DecidableEq

theorem Settings.eq_iff {one other : Settings} :
    one = other ↔ one.kmsOutput = other.kmsOutput ∧ one.shownBy = other.shownBy := by
  cases one
  cases other
  rw [Settings.mk.injEq]

namespace Display

def settings (display : Display) (id : OutputID) : Settings where
  kmsOutput := display.kmsOutputs id
  shownBy :=
    (display.displayBuffers.find? fun buffer => decide (id ∈ buffer.outputs)).map DisplayBuffer.look

/-- Applying the configuration leaves all outputs with the settings that they get along with new
display buffers. -/
def AgreesWithFull (walk : Walk) (display : Display) (conf : RealKMSDisplayConfiguration) : Prop :=
  ∃ fast full,
    display.applyIfConfigurationPreservesDisplayBuffers walk conf = .ok (fast, true) ∧
      display.configureLocked walk false conf = .ok full ∧
      ∀ output ∈ conf.outputs, fast.settings output.id = full.settings output.id

/-- Each connected output was told its power mode and its gamma. -/
def Told (display : Display) (conf : RealKMSDisplayConfiguration) : Prop :=
  ∀ output ∈ conf.outputs, output.connected = true →
    (display.kmsOutputs output.id).powerMode = output.powerMode ∧
      (display.kmsOutputs output.id).gamma = output.gamma

/-- What a display buffer at a place looks like next: as the group at that place, or as before. -/
def lookAt (groups : List Group) (index : Nat) (buffer : DisplayBuffer) : Look :=
  match groups[index]? with
  | some group => group.look
  | none => buffer.look

/-- The display buffers are at the places of groups that look like the groups of their outputs. -/
structure Aligned (walk : Walk) (display : Display) (conf : RealKMSDisplayConfiguration) :
    Prop where
  enough : (conf.grouping walk).length ≤ display.displayBuffers.length
  driven : ∀ group ∈ conf.grouping walk, ∀ output ∈ group, ∃ buffer ∈ display.displayBuffers,
    output.id ∈ buffer.outputs
  alike : ∀ index buffer, display.displayBuffers[index]? = some buffer →
    ∀ output ∈ conf.outputs, output.id ∈ buffer.outputs → ∃ own ∈ conf.grouping walk,
      output ∈ own ∧ own.look = lookAt (conf.grouping walk) index buffer

end Display

/-! ### Outputs and their groups -/

section Groups

variable {conf : RealKMSDisplayConfiguration} {walk : Walk} {group : Group}
  {output : DisplayConfigurationOutput}

theorem mem_outputs_of_mem_group (isGroup : group ∈ conf.grouping walk) (member : output ∈ group) :
    output ∈ conf.outputs := by
  obtain ⟨layouts, -, rfl⟩ := List.mem_map.mp isGroup
  obtain ⟨layout, -, found⟩ := List.mem_filterMap.mp member
  exact List.mem_of_find?_eq_some found

theorem active_of_mem_group (walks : ∀ outputs, (walk outputs).Perm outputs)
    (distinct : conf.ids.Nodup) (isGroup : group ∈ conf.grouping walk) (member : output ∈ group) :
    output.layout.active = true := by
  have isLayouts := layouts_mem walks distinct isGroup
  have covered := ((partitions_layouts walks distinct).covers output.layout).mpr
    ⟨_, isLayouts, List.mem_map_of_mem member⟩
  exact (List.mem_filter.mp covered).2

theorem eq_of_id_eq (distinct : conf.ids.Nodup) {other : DisplayConfigurationOutput}
    (member : output ∈ conf.outputs) (isOther : other ∈ conf.outputs)
    (same : other.id = output.id) : other = output :=
  List.inj_on_of_nodup_map distinct isOther member same

theorem exists_group_of_active (walks : ∀ outputs, (walk outputs).Perm outputs)
    (distinct : conf.ids.Nodup) (member : output ∈ conf.outputs)
    (active : output.layout.active = true) : ∃ group ∈ conf.grouping walk, output ∈ group := by
  have isActive : output.layout ∈
      conf.layouts.filter Graphics.DisplayConfigurationOutput.active :=
    List.mem_filter.mpr ⟨List.mem_map_of_mem member, active⟩
  obtain ⟨layouts, isLayouts, isLayout⟩ :=
    ((partitions_layouts walks distinct).covers output.layout).mp isActive
  rw [← layout_grouping walks distinct] at isLayouts
  obtain ⟨group, isGroup, rfl⟩ := List.mem_map.mp isLayouts
  obtain ⟨other, isOther, same⟩ := List.mem_map.mp isLayout
  have sameID : other.id = output.id := congrArg Graphics.DisplayConfigurationOutput.id same
  rw [eq_of_id_eq distinct member (mem_outputs_of_mem_group isGroup isOther) sameID] at isOther
  exact ⟨group, isGroup, isOther⟩

theorem mem_placements {groups : List Group} {placement : Rectangle × DisplayConfigurationOutput} :
    placement ∈ placements groups ↔
      ∃ group ∈ groups, placement.2 ∈ group ∧ placement.1 = group.boundingRectangle := by
  unfold placements
  rw [List.mem_flatMap]
  refine exists_congr fun group => and_congr_right fun _ => ?_
  rw [List.mem_map]
  constructor
  · rintro ⟨output, member, rfl⟩
    exact ⟨member, rfl⟩
  · rintro ⟨member, same⟩
    exact ⟨placement.2, member, Prod.ext same.symm rfl⟩

end Groups

/-! ### What the outputs are told -/

section Told

variable {conf : RealKMSDisplayConfiguration} {walk : Walk} {output : DisplayConfigurationOutput}
  (kmsOutputs : OutputID → KMSOutput)

/-- The settings that both ways make. -/
def KMSOutput.mode (kmsOutput : KMSOutput) : Displacement × Nat :=
  (kmsOutput.fbOffset, kmsOutput.modeIndex)

/-- The settings that only the slow way makes. -/
def KMSOutput.display (kmsOutput : KMSOutput) : PowerMode × GammaCurves :=
  (kmsOutput.powerMode, kmsOutput.gamma)

theorem KMSOutput.eq_iff {one other : KMSOutput} :
    one = other ↔ one.mode = other.mode ∧ one.display = other.display := by
  unfold mode display
  rw [Prod.mk.injEq, Prod.mk.injEq, KMSOutput.mk.injEq, and_assoc]

theorem mode_eq (conf : RealKMSDisplayConfiguration) (groups : List Group) (id : OutputID) :
    (setUpOutputs true groups kmsOutputs id).mode =
      (clearConnectedUnusedOutputs conf (setUpOutputs false groups kmsOutputs) id).mode := by
  unfold clearConnectedUnusedOutputs
  rw [PointUpdate.view_through_of_kept KMSOutput.mode]
  · refine PointUpdate.through_related (fun one other : KMSOutput => one.mode = other.mode)
      (fun _ => rfl) ?_ id
    intro _ _ _ _ _
    rfl
  · intro other _ _ kmsOutput
    unfold clearConnectedUnused
    split <;> rfl

theorem display_fast (groups : List Group) (id : OutputID) :
    (setUpOutputs true groups kmsOutputs id).display = (kmsOutputs id).display :=
  PointUpdate.view_through_of_kept KMSOutput.display kmsOutputs fun _ _ _ _ => rfl

/-- Along with new display buffers, each connected output is told its power mode and gamma. -/
theorem display_full_connected (walks : ∀ outputs, (walk outputs).Perm outputs)
    (distinct : conf.ids.Nodup) (member : output ∈ conf.outputs) (valid : output.valid = true)
    (connected : output.connected = true) :
    (clearConnectedUnusedOutputs conf (setUpOutputs false (conf.grouping walk) kmsOutputs)
      output.id).display = (output.powerMode, output.gamma) := by
  by_cases unused : output.used = false ∨ output.powerMode ≠ .on
  · refine PointUpdate.view_through_of_set KMSOutput.display _ member rfl ?_
    intro other isOther same kmsOutput
    rw [eq_of_id_eq distinct member isOther same, clearConnectedUnused, if_pos ⟨connected, unused⟩]
    rfl
  · unfold clearConnectedUnusedOutputs
    rw [PointUpdate.view_through_of_kept KMSOutput.display]
    · rw [not_or, Bool.not_eq_false, not_not] at unused
      have active : output.layout.active = true := by
        unfold DisplayConfigurationOutput.valid at valid
        rw [if_neg (by rw [connected]; exact Bool.noConfusion), Bool.and_eq_true,
          decide_eq_true_iff] at valid
        unfold Graphics.DisplayConfigurationOutput.active DisplayConfigurationOutput.layout
        simp [connected, unused.1, unused.2, valid.2]
      obtain ⟨group, isGroup, inGroup⟩ := exists_group_of_active walks distinct member active
      refine PointUpdate.view_through_of_set KMSOutput.display _
        (mem_placements.mpr ⟨group, isGroup, inGroup, rfl⟩ :
          (group.boundingRectangle, output) ∈ placements (conf.grouping walk)) rfl ?_
      intro placement isPlacement same kmsOutput
      obtain ⟨other, isOther, inOther, -⟩ := mem_placements.mp isPlacement
      rw [eq_of_id_eq distinct member (mem_outputs_of_mem_group isOther inOther) same]
      rfl
    · intro other isOther same kmsOutput
      rw [eq_of_id_eq distinct member isOther same, clearConnectedUnused,
        if_neg fun both => unused both.2]

/-- An output that is not connected is told nothing. -/
theorem display_full_disconnected (walks : ∀ outputs, (walk outputs).Perm outputs)
    (distinct : conf.ids.Nodup) (member : output ∈ conf.outputs)
    (disconnected : output.connected = false) :
    (clearConnectedUnusedOutputs conf (setUpOutputs false (conf.grouping walk) kmsOutputs)
      output.id).display = (kmsOutputs output.id).display := by
  unfold clearConnectedUnusedOutputs setUpOutputs
  rw [PointUpdate.view_through_of_kept KMSOutput.display,
    PointUpdate.view_through_of_kept KMSOutput.display]
  · intro placement isPlacement same kmsOutput
    obtain ⟨group, isGroup, inGroup, -⟩ := mem_placements.mp isPlacement
    have isOutput := eq_of_id_eq distinct member (mem_outputs_of_mem_group isGroup inGroup) same
    have active := active_of_mem_group walks distinct isGroup inGroup
    rw [isOutput] at active
    unfold Graphics.DisplayConfigurationOutput.active DisplayConfigurationOutput.layout at active
    rw [disconnected] at active
    cases active
  · intro other isOther same kmsOutput
    rw [eq_of_id_eq distinct member isOther same, clearConnectedUnused, disconnected,
      if_neg fun both => Bool.false_ne_true both.1]

/-- The two ways tell an output the same exactly if it was told already what the fast one does not
tell it. -/
theorem kmsOutputs_eq_iff (walks : ∀ outputs, (walk outputs).Perm outputs)
    (distinct : conf.ids.Nodup) (member : output ∈ conf.outputs) (valid : output.valid = true) :
    setUpOutputs true (conf.grouping walk) kmsOutputs output.id =
        clearConnectedUnusedOutputs conf (setUpOutputs false (conf.grouping walk) kmsOutputs)
          output.id ↔
      (output.connected = true → (kmsOutputs output.id).powerMode = output.powerMode ∧
        (kmsOutputs output.id).gamma = output.gamma) := by
  rw [KMSOutput.eq_iff, and_iff_right (mode_eq kmsOutputs conf _ _), display_fast]
  cases connected : output.connected with
  | true =>
    rw [display_full_connected kmsOutputs walks distinct member valid connected]
    unfold KMSOutput.display
    rw [Prod.mk.injEq]
    exact ⟨fun same _ => same, fun told => told rfl⟩
  | false =>
    rw [display_full_disconnected kmsOutputs walks distinct member connected]
    exact ⟨fun _ isConnected => absurd isConnected Bool.false_ne_true, fun _ => rfl⟩

end Told

/-! ### What the display buffers show -/

section Looks

variable {conf : RealKMSDisplayConfiguration} {walk : Walk} {output : DisplayConfigurationOutput}
  {buffers : List DisplayBuffer} {groups : List Group}

/-- The one item that has an output is found. -/
theorem find_of_apart {Item : Type} {items : List Item} {outputs : Item → List OutputID}
    (apart : (items.map outputs).Pairwise List.Disjoint) {item : Item} (member : item ∈ items)
    {id : OutputID} (has : id ∈ outputs item) :
    (items.find? fun item => decide (id ∈ outputs item)) = some item := by
  induction items with
  | nil => cases member
  | cons first rest inductionHypothesis =>
    obtain ⟨disjoint, later⟩ := List.pairwise_cons.mp apart
    rcases List.mem_cons.mp member with rfl | isLater
    · exact List.find?_cons_of_pos (decide_eq_true has)
    · have hasNot : id ∉ outputs first := fun inFirst =>
        disjoint (outputs item) (List.mem_map_of_mem isLater) inFirst has
      rw [List.find?_cons_of_neg (by simpa using hasNot)]
      exact inductionHypothesis later isLater

/-- A display buffer after the loop over the groups. -/
def placed (groups : List Group) (index : Nat) (buffer : DisplayBuffer) : DisplayBuffer :=
  match groups[index]? with
  | some group => buffer.setOrientation group.orientation group.boundingRectangle
  | none => buffer

theorem setOrientations_eq :
    setOrientations buffers groups =
      if groups.length ≤ buffers.length then .ok (buffers.mapIdx (placed groups))
      else .error .pastDisplayBuffers := by
  induction buffers, groups using setOrientations.induct with
  | case1 buffers =>
    have same : buffers.mapIdx (placed []) = buffers := by
      refine List.ext_getElem? fun index => ?_
      rw [List.getElem?_mapIdx]
      cases buffers[index]? <;> rfl
    rw [setOrientations, List.length_nil, if_pos (Nat.zero_le _), same]
  | case2 group groups =>
    rw [setOrientations, List.length_cons, List.length_nil, if_neg (Nat.not_succ_le_zero _)]
  | case3 buffer buffers group groups inductionHypothesis =>
    rw [setOrientations, inductionHypothesis, List.length_cons, List.length_cons,
      List.mapIdx_cons]
    by_cases enough : groups.length ≤ buffers.length
    · rw [if_pos enough, if_pos (Nat.succ_le_succ enough)]
      rfl
    · rw [if_neg enough, if_neg fun more => enough (Nat.le_of_succ_le_succ more)]
      rfl

theorem outputs_placed (index : Nat) (buffer : DisplayBuffer) :
    (placed groups index buffer).outputs = buffer.outputs := by
  unfold placed
  split <;> rfl

theorem look_placed (index : Nat) (buffer : DisplayBuffer) :
    (placed groups index buffer).look = Display.lookAt groups index buffer := by
  unfold placed Display.lookAt
  split <;> rfl

theorem drives_placed (buffers : List DisplayBuffer) (groups : List Group) :
    (buffers.mapIdx (placed groups)).map DisplayBuffer.outputs =
      buffers.map DisplayBuffer.outputs := by
  refine List.ext_getElem? fun index => ?_
  rw [List.getElem?_map, List.getElem?_map, List.getElem?_mapIdx, Option.map_map]
  exact congrArg (Option.map · buffers[index]?) (funext (outputs_placed index))

end Looks

namespace Display

variable {conf : RealKMSDisplayConfiguration} {walk : Walk} {display : Display}
  {output : DisplayConfigurationOutput}

/-- What the fast way leads to, if there are display buffers enough. -/
def fast (walk : Walk) (display : Display) (conf : RealKMSDisplayConfiguration) : Display :=
  { display with
    kmsOutputs := setUpOutputs true (conf.grouping walk) display.kmsOutputs
    displayBuffers := display.displayBuffers.mapIdx (placed (conf.grouping walk))
    currentConfiguration := conf }

/-- What the slow way leads to. -/
def full (walk : Walk) (display : Display) (conf : RealKMSDisplayConfiguration) : Display :=
  { display with
    kmsOutputs :=
      clearConnectedUnusedOutputs conf
        (setUpOutputs false (conf.grouping walk) display.kmsOutputs)
    displayBuffers := (conf.grouping walk).map DisplayBuffer.ofGroup
    currentConfiguration := conf }

theorem apply_eq (isCompatible : compatible display.currentConfiguration conf = true) :
    display.applyIfConfigurationPreservesDisplayBuffers walk conf =
      if (conf.grouping walk).length ≤ display.displayBuffers.length then
        .ok (display.fast walk conf, true)
      else .error .pastDisplayBuffers := by
  unfold applyIfConfigurationPreservesDisplayBuffers configureLocked
  rw [if_pos isCompatible, compatible_symm isCompatible]
  dsimp only
  rw [if_pos rfl, setOrientations_eq]
  split <;> rfl

theorem configureLocked_full (isCompatible : compatible display.currentConfiguration conf = true) :
    display.configureLocked walk false conf = .ok (display.full walk conf) := by
  have found : ¬ (conf.outputs.any fun output =>
      (display.currentConfiguration.findOutputWithID output.id).isNone) = true := by
    intro missing
    obtain ⟨output, member, isNone⟩ := List.any_eq_true.mp missing
    have known : output.id ∈ display.currentConfiguration.ids := by
      rw [ids_eq_of_compatible isCompatible]
      exact List.mem_map_of_mem member
    obtain ⟨current, isCurrent, same⟩ := List.mem_map.mp known
    rw [Option.isNone_iff_eq_none] at isNone
    exact List.find?_eq_none.mp isNone current isCurrent (decide_eq_true same)
  unfold configureLocked
  rw [if_neg Bool.false_ne_true, if_neg found]
  rfl

theorem agreesWithFull_iff_eq (isCompatible : compatible display.currentConfiguration conf = true) :
    AgreesWithFull walk display conf ↔
      (conf.grouping walk).length ≤ display.displayBuffers.length ∧
        ∀ output ∈ conf.outputs, (display.fast walk conf).settings output.id =
          (display.full walk conf).settings output.id := by
  unfold AgreesWithFull
  rw [apply_eq isCompatible, configureLocked_full isCompatible]
  by_cases enough : (conf.grouping walk).length ≤ display.displayBuffers.length
  · rw [if_pos enough]
    refine ⟨?_, fun both => ⟨_, _, rfl, rfl, both.2⟩⟩
    rintro ⟨fast, full, isFast, isFull, same⟩
    cases isFast
    cases isFull
    exact ⟨enough, same⟩
  · rw [if_neg enough]
    refine ⟨?_, fun both => absurd both.1 enough⟩
    rintro ⟨fast, full, isFast, -⟩
    cases isFast

/-- An output is shown by the display buffer that drives it. -/
theorem shownBy_fast (arranged : display.Arranged) (conf : RealKMSDisplayConfiguration)
    {index : Nat} {buffer : DisplayBuffer}
    (isBuffer : display.displayBuffers[index]? = some buffer) {id : OutputID}
    (has : id ∈ buffer.outputs) :
    ((display.fast walk conf).settings id).shownBy =
      some (lookAt (conf.grouping walk) index buffer) := by
  have apart : ((display.fast walk conf).displayBuffers.map
      DisplayBuffer.outputs).Pairwise List.Disjoint := by
    unfold fast
    rw [drives_placed]
    exact arranged.inOrder.apart
  have isPlaced : placed (conf.grouping walk) index buffer ∈
      (display.fast walk conf).displayBuffers := by
    refine List.mem_of_getElem? (i := index) ?_
    unfold fast
    rw [List.getElem?_mapIdx, isBuffer]
    rfl
  unfold settings
  dsimp only
  rw [find_of_apart apart isPlaced (by rw [outputs_placed]; exact has), Option.map_some,
    look_placed]

theorem shownBy_fast_none {id : OutputID}
    (hasNot : ∀ buffer ∈ display.displayBuffers, id ∉ buffer.outputs) :
    ((display.fast walk conf).settings id).shownBy = none := by
  unfold settings
  dsimp only
  rw [Option.map_eq_none_iff, List.find?_eq_none]
  intro buffer member
  have known : buffer.outputs ∈ display.displayBuffers.map DisplayBuffer.outputs := by
    rw [← drives_placed _ (conf.grouping walk)]
    exact List.mem_map_of_mem member
  obtain ⟨before, isBefore, same⟩ := List.mem_map.mp known
  rw [← same, decide_eq_true_iff]
  exact hasNot before isBefore

/-- An output is shown by the new display buffer of its group. -/
theorem shownBy_full (walks : ∀ outputs, (walk outputs).Perm outputs) (distinct : conf.ids.Nodup)
    {own : Group} (isGroup : own ∈ conf.grouping walk) (member : output ∈ own) :
    ((display.full walk conf).settings output.id).shownBy = some own.look := by
  have apart : (((conf.grouping walk).map DisplayBuffer.ofGroup).map
      DisplayBuffer.outputs).Pairwise List.Disjoint := by
    rw [List.map_map]
    exact (grouping_inOrder walks distinct).apart
  unfold settings full
  dsimp only
  rw [find_of_apart apart (List.mem_map_of_mem isGroup) (List.mem_map_of_mem member)]
  rfl

theorem shownBy_full_none (distinct : conf.ids.Nodup) (member : output ∈ conf.outputs)
    (hasNot : ∀ group ∈ conf.grouping walk, output ∉ group) :
    ((display.full walk conf).settings output.id).shownBy = none := by
  unfold settings
  dsimp only
  rw [Option.map_eq_none_iff, List.find?_eq_none]
  intro buffer isBuffer
  obtain ⟨group, isGroup, rfl⟩ := List.mem_map.mp isBuffer
  rw [decide_eq_true_iff]
  intro inGroup
  obtain ⟨other, isOther, same⟩ := List.mem_map.mp inGroup
  rw [eq_of_id_eq distinct member (mem_outputs_of_mem_group isGroup isOther) same] at isOther
  exact hasNot group isGroup isOther

/-- The display buffers show the outputs alike exactly if they are aligned. -/
theorem shownBy_eq_iff (walks : ∀ outputs, (walk outputs).Perm outputs)
    (arranged : display.Arranged) (distinct : conf.ids.Nodup) :
    ((conf.grouping walk).length ≤ display.displayBuffers.length ∧
      ∀ output ∈ conf.outputs, ((display.fast walk conf).settings output.id).shownBy =
        ((display.full walk conf).settings output.id).shownBy) ↔
      Aligned walk display conf := by
  constructor
  · rintro ⟨enough, same⟩
    refine ⟨enough, fun group isGroup output inGroup => ?_,
      fun index buffer isBuffer output member has => ?_⟩
    · by_contra undriven
      have shown := same output (mem_outputs_of_mem_group isGroup inGroup)
      rw [shownBy_fast_none fun buffer isBuffer has => undriven ⟨buffer, isBuffer, has⟩,
        shownBy_full walks distinct isGroup inGroup] at shown
      cases shown
    · have shown := same output member
      rw [shownBy_fast arranged conf isBuffer has] at shown
      by_cases grouped : ∃ own ∈ conf.grouping walk, output ∈ own
      · obtain ⟨own, isGroup, inGroup⟩ := grouped
        rw [shownBy_full walks distinct isGroup inGroup] at shown
        exact ⟨own, isGroup, inGroup, (Option.some.inj shown).symm⟩
      · rw [shownBy_full_none distinct member fun group isGroup inGroup =>
          grouped ⟨group, isGroup, inGroup⟩] at shown
        cases shown
  · intro aligned
    refine ⟨aligned.enough, fun output member => ?_⟩
    by_cases driven : ∃ buffer ∈ display.displayBuffers, output.id ∈ buffer.outputs
    · obtain ⟨buffer, isBuffer, has⟩ := driven
      obtain ⟨index, atIndex⟩ := List.getElem?_of_mem isBuffer
      obtain ⟨own, isGroup, inGroup, look⟩ := aligned.alike index buffer atIndex output member has
      rw [shownBy_fast arranged conf atIndex has, shownBy_full walks distinct isGroup inGroup, look]
    · have ungrouped : ∀ group ∈ conf.grouping walk, output ∉ group :=
        fun group isGroup inGroup => driven (aligned.driven group isGroup output inGroup)
      rw [shownBy_fast_none fun buffer isBuffer has => driven ⟨buffer, isBuffer, has⟩,
        shownBy_full_none distinct member ungrouped]

/-- In every display that a run leads to, applying a valid configuration agrees with making new
display buffers exactly if all connected outputs were told their power modes and gamma, and the
display buffers are aligned. -/
theorem agreesWithFull_iff (walks : ∀ outputs, (walk outputs).Perm outputs)
    {kmsOutputs : OutputID → KMSOutput} {initial : RealKMSDisplayConfiguration}
    (distinct : initial.ids.Nodup) {first : Display}
    (constructed : construct walk kmsOutputs initial = .ok first)
    (reached : Transition.Reaches (Display.step walk) (Allowed walk) first display)
    (isCompatible : compatible display.currentConfiguration conf = true)
    (valid : conf.valid = true) :
    AgreesWithFull walk display conf ↔ Told display conf ∧ Aligned walk display conf := by
  have arranged := Arranged.of_reaches walks distinct constructed reached
  have newDistinct : conf.ids.Nodup := by
    rw [← ids_eq_of_compatible isCompatible]
    exact arranged.distinct
  have told : Told display conf ↔ ∀ output ∈ conf.outputs,
      ((display.fast walk conf).settings output.id).kmsOutput =
        ((display.full walk conf).settings output.id).kmsOutput := by
    refine forall₂_congr fun output member => ?_
    exact (kmsOutputs_eq_iff display.kmsOutputs walks newDistinct member
      (List.all_eq_true.mp valid output member)).symm
  rw [agreesWithFull_iff_eq isCompatible, told, ← shownBy_eq_iff walks arranged newDistinct]
  constructor
  · rintro ⟨enough, same⟩
    exact ⟨fun output member => (Settings.eq_iff.mp (same output member)).1, enough,
      fun output member => (Settings.eq_iff.mp (same output member)).2⟩
  · rintro ⟨kmsOutput, enough, shownBy⟩
    exact ⟨enough, fun output member =>
      Settings.eq_iff.mpr ⟨kmsOutput output member, shownBy output member⟩⟩

theorem forall₂_getElem? {One Other : Type} {related : One → Other → Prop} {ones : List One}
    {others : List Other} (same : List.Forall₂ related ones others) {index : Nat} {other : Other}
    (isOther : others[index]? = some other) :
    ∃ one, ones[index]? = some one ∧ related one other := by
  induction same generalizing index with
  | nil => cases isOther
  | cons head _ inductionHypothesis =>
    cases index with
    | zero =>
      cases isOther
      exact ⟨_, rfl, head⟩
    | succ index => exact inductionHypothesis isOther

/-- Display buffers for the very groups of the new configuration are aligned. -/
theorem aligned_of_same (distinct : conf.ids.Nodup)
    (same : List.Forall₂ Same (groupIDs (conf.grouping walk)) display.drives) :
    Aligned walk display conf := by
  have groupwise := List.forall₂_map_right_iff.mp (List.forall₂_map_left_iff.mp same)
  refine ⟨Nat.le_of_eq groupwise.length_eq, fun group isGroup output inGroup => ?_,
    fun index buffer isBuffer output member has => ?_⟩
  · obtain ⟨ids, isIDs, has⟩ := ((together_congr same).mp
      ⟨_, List.mem_map_of_mem isGroup, List.mem_map_of_mem inGroup, List.mem_map_of_mem inGroup⟩ :
        Together display.drives output.id output.id)
    obtain ⟨buffer, isBuffer, rfl⟩ := List.mem_map.mp isIDs
    exact ⟨buffer, isBuffer, has.1⟩
  · obtain ⟨own, atIndex, sameOutputs⟩ := forall₂_getElem? groupwise isBuffer
    have isGroup := List.mem_of_getElem? atIndex
    obtain ⟨other, isOther, sameID⟩ := List.mem_map.mp ((sameOutputs output.id).mpr has)
    rw [eq_of_id_eq distinct member (mem_outputs_of_mem_group isGroup isOther) sameID] at isOther
    refine ⟨own, isGroup, isOther, ?_⟩
    unfold lookAt
    rw [atIndex]

theorem agreesWithFull_cloned :
    AgreesWithFull (fun outputs => outputs) clonedDisplay (cloned .left .left) := by
  refine (agreesWithFull_iff (fun _ => .refl _) (by decide) construct_cloned .start (by decide)
    (by decide)).mpr ⟨?_, aligned_of_same (by decide) ?_⟩
  · unfold Told
    decide
  · exact List.forall₂_same.mpr fun _ _ _ => Iff.rfl

/-- The first output gets a new gamma. -/
def tinted : RealKMSDisplayConfiguration :=
  ⟨3, ⟨0, 2⟩, [originOutput 1 .normal ⟨[1], [1], [1]⟩, originOutput 2 .normal .empty]⟩

/-- A configuration that differs in its gamma only is applied, and the output is told nothing. -/
theorem gamma_is_not_applied :
    ¬ ∀ (walk : Walk) (kmsOutputs : OutputID → KMSOutput)
      (initial conf : RealKMSDisplayConfiguration) (display : Display),
      (∀ outputs, (walk outputs).Perm outputs) → initial.ids.Nodup →
        construct walk kmsOutputs initial = .ok display → conf.valid = true →
        compatible display.currentConfiguration conf = true →
        AgreesWithFull walk display conf := by
  intro always
  have agrees := always (fun outputs => outputs) untold (cloned .normal .normal) tinted
    clonedDisplay (fun _ => .refl _) (by decide) construct_cloned (by decide) (by decide)
  have same := ((agreesWithFull_iff_eq (by decide)).mp agrees).2
    (originOutput 1 .normal ⟨[1], [1], [1]⟩) List.mem_cons_self
  have sameGamma := congrArg (fun settings => settings.kmsOutput.gamma) same
  exact absurd sameGamma (by decide)

end Display

end Mir.Graphics.KMS

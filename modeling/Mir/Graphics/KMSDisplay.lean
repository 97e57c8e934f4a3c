/-
This file models the display of the mesa platform: how a configuration is put into effect, with new
display buffers or with the existing ones. It proves when the existing ones do for a configuration
that is compatible with the current one.

Being compatible leaves the orientations out, and the outputs are grouped by their orientations,
too. Rotating one of two outputs that share a display buffer takes one that there is not.
-/

import Mathlib.Data.List.Zip
import Mir.Graphics.GroupingOrder
import Mir.Graphics.KMSConfiguration
import Mir.Library.Fallible
import Mir.Library.PointUpdate

namespace Mir.Graphics.KMS

open Mir.Geometry Components

/-! ### Comparing configurations -/

namespace DisplayConfigurationOutput

/-- The comparison `==`, which leaves out formats, power mode, gamma and EDID. -/
def equals (val1 val2 : DisplayConfigurationOutput) : Bool :=
  val1.id = val2.id ∧ val1.cardID = val2.cardID ∧ val1.type = val2.type ∧
    val1.physicalSizeMM = val2.physicalSizeMM ∧
    val1.preferredModeIndex = val2.preferredModeIndex ∧ val1.connected = val2.connected ∧
    val1.used = val2.used ∧ val1.topLeft = val2.topLeft ∧ val1.orientation = val2.orientation ∧
    val1.currentModeIndex = val2.currentModeIndex ∧ val1.scale = val2.scale ∧
    val1.formFactor = val2.formFactor ∧ val1.modes = val2.modes

def valid (output : DisplayConfigurationOutput) : Bool :=
  if output.connected = false then !output.used
  else
    output.pixelFormats.contains output.currentFormat &&
      decide (output.currentModeIndex < output.modes.length)

/-- What the grouping looks at. -/
def layout (output : DisplayConfigurationOutput) : Graphics.DisplayConfigurationOutput where
  id := output.id
  modes := output.modes.map DisplayConfigurationMode.size
  connected := output.connected
  used := output.used
  topLeft := output.topLeft
  currentModeIndex := output.currentModeIndex
  powerMode := output.powerMode
  orientation := output.orientation

def extents (output : DisplayConfigurationOutput) : Rectangle := output.layout.extents

/-- One output in two configurations: orientation, scale, form factor and subpixel arrangement may
differ. -/
def compatible (output1 output2 : DisplayConfigurationOutput) : Bool :=
  decide (output1.powerMode = output2.powerMode) &&
    output1.equals { output2 with
      orientation := output1.orientation
      subpixelArrangement := output1.subpixelArrangement
      scale := output1.scale
      formFactor := output1.formFactor }

end DisplayConfigurationOutput

def compatible (conf1 conf2 : RealKMSDisplayConfiguration) : Bool :=
  decide (conf1.drmFd = conf2.drmFd) && decide (conf1.card = conf2.card) &&
    decide (conf1.outputs.length = conf2.outputs.length) &&
    (conf1.outputs.zip conf2.outputs).all fun outputs => outputs.1.compatible outputs.2

namespace RealKMSDisplayConfiguration

def valid (conf : RealKMSDisplayConfiguration) : Bool :=
  conf.outputs.all DisplayConfigurationOutput.valid

def findOutputWithID (conf : RealKMSDisplayConfiguration) (id : OutputID) :
    Option DisplayConfigurationOutput :=
  conf.outputs.find? fun output => output.id = id

def ids (conf : RealKMSDisplayConfiguration) : List OutputID :=
  conf.outputs.map DisplayConfigurationOutput.id

def layouts (conf : RealKMSDisplayConfiguration) : List Graphics.DisplayConfigurationOutput :=
  conf.outputs.map DisplayConfigurationOutput.layout

end RealKMSDisplayConfiguration

/-! ### Groups of outputs -/

/-- The order in which a set of outputs is walked. -/
abbrev Walk := List Graphics.DisplayConfigurationOutput → List Graphics.DisplayConfigurationOutput

abbrev Group := List DisplayConfigurationOutput

namespace Group

def boundingRectangle (group : Group) : Rectangle :=
  Rectangle.boundingRectangle (group.map DisplayConfigurationOutput.extents)

/-- The loop leaves the orientation of the last output. -/
def orientation (group : Group) : Orientation :=
  group.foldl (fun _ output => output.orientation) .normal

end Group

/-- The groups of overlapping outputs. -/
def RealKMSDisplayConfiguration.grouping (conf : RealKMSDisplayConfiguration) (walk : Walk) :
    List Group :=
  (OverlappingOutputGrouping.ofConfiguration walk conf.layouts).map fun group =>
    group.filterMap fun output => conf.findOutputWithID output.id

/-! ### The display -/

structure Displacement where
  dx : Int
  dy : Int
  deriving DecidableEq, Repr

/-- What an output was told. -/
structure KMSOutput where
  fbOffset : Displacement
  modeIndex : Nat
  powerMode : PowerMode
  gamma : GammaCurves
  deriving DecidableEq, Repr

structure DisplayBuffer where
  outputs : List OutputID
  area : Rectangle
  rotation : Orientation
  deriving DecidableEq, Repr

structure Display where
  kmsOutputs : OutputID → KMSOutput
  displayBuffers : List DisplayBuffer
  currentConfiguration : RealKMSDisplayConfiguration
  dirtyConfiguration : Bool

/-- `pastDisplayBuffers` is an access past the end of the vector of display buffers. -/
inductive DisplayError
  | invalidConfiguration
  | failedToFindOutput
  | pastDisplayBuffers
  deriving DecidableEq, Repr

def DisplayBuffer.ofGroup (group : Group) : DisplayBuffer :=
  ⟨group.map DisplayConfigurationOutput.id, group.boundingRectangle, group.orientation⟩

def DisplayBuffer.setOrientation (buffer : DisplayBuffer) (rot : Orientation) (area : Rectangle) :
    DisplayBuffer :=
  { buffer with rotation := rot, area := area }

/-- The display buffers one after another, as `group_idx` counts. -/
def setOrientations : List DisplayBuffer → List Group →
    Except DisplayError (List DisplayBuffer)
  | buffers, [] => .ok buffers
  | [], _ :: _ => .error .pastDisplayBuffers
  | buffer :: buffers, group :: groups => do
    let rest ← setOrientations buffers groups
    return buffer.setOrientation group.orientation group.boundingRectangle :: rest

/-- An output of a group. Its power mode and gamma are only set along with new display buffers. -/
def setUp (comp : Bool) (boundingRect : Rectangle) (output : DisplayConfigurationOutput)
    (kmsOutput : KMSOutput) : KMSOutput :=
  let configured := { kmsOutput with
    fbOffset := ⟨output.topLeft.x - boundingRect.topLeft.x,
      output.topLeft.y - boundingRect.topLeft.y⟩
    modeIndex := output.currentModeIndex }
  if comp = true then configured
  else { configured with powerMode := output.powerMode, gamma := output.gamma }

/-- The outputs of all groups, each with the rectangle of its group. -/
def placements (groups : List Group) : List (Rectangle × DisplayConfigurationOutput) :=
  groups.flatMap fun group => group.map fun output => (group.boundingRectangle, output)

def setUpOutputs (comp : Bool) (groups : List Group) (kmsOutputs : OutputID → KMSOutput) :
    OutputID → KMSOutput :=
  PointUpdate.through (fun placement => placement.2.id)
    (fun placement => setUp comp placement.1 placement.2) (placements groups) kmsOutputs

/-- What is done to an output that is connected and not used, or not on. -/
def clearConnectedUnused (output : DisplayConfigurationOutput) (kmsOutput : KMSOutput) :
    KMSOutput :=
  if output.connected = true ∧ (output.used = false ∨ output.powerMode ≠ .on) then
    { kmsOutput with powerMode := output.powerMode, gamma := output.gamma }
  else kmsOutput

def clearConnectedUnusedOutputs (conf : RealKMSDisplayConfiguration)
    (kmsOutputs : OutputID → KMSOutput) : OutputID → KMSOutput :=
  PointUpdate.through DisplayConfigurationOutput.id clearConnectedUnused conf.outputs kmsOutputs

namespace Display

/-- Without `comp` all outputs of the new configuration are reset, and looked up in the current one
for that. -/
def configureLocked (walk : Walk) (comp : Bool) (kmsConf : RealKMSDisplayConfiguration)
    (display : Display) : Except DisplayError Display :=
  let groups := kmsConf.grouping walk
  if comp = true then do
    let displayBuffers ← setOrientations display.displayBuffers groups
    return { display with
      kmsOutputs := setUpOutputs true groups display.kmsOutputs
      displayBuffers := displayBuffers
      currentConfiguration := kmsConf }
  else if kmsConf.outputs.any fun output =>
      (display.currentConfiguration.findOutputWithID output.id).isNone then
    .error .failedToFindOutput
  else
    .ok { display with
      kmsOutputs :=
        clearConnectedUnusedOutputs kmsConf (setUpOutputs false groups display.kmsOutputs)
      displayBuffers := groups.map DisplayBuffer.ofGroup
      currentConfiguration := kmsConf }

def configure (walk : Walk) (conf : RealKMSDisplayConfiguration) (display : Display) :
    Except DisplayError Display :=
  if conf.valid = false then .error .invalidConfiguration
  else display.configureLocked walk (compatible conf display.currentConfiguration) conf

/-- The display, and whether the configuration was applied. -/
def applyIfConfigurationPreservesDisplayBuffers (walk : Walk)
    (conf : RealKMSDisplayConfiguration) (display : Display) :
    Except DisplayError (Display × Bool) :=
  if compatible display.currentConfiguration conf = true then do
    let after ← display.configureLocked walk (compatible conf display.currentConfiguration) conf
    return (after, true)
  else .ok (display, false)

/-- What the constructor does with the configuration that its policy makes. That one is the current
one then, and is not compatible with itself. -/
def construct (walk : Walk) (kmsOutputs : OutputID → KMSOutput)
    (conf : RealKMSDisplayConfiguration) : Except DisplayError Display :=
  if conf.valid = false then .error .invalidConfiguration
  else configureLocked walk false conf ⟨kmsOutputs, [], conf, false⟩

/-- What can happen to a display. The kernel's connectors are read when they have changed. -/
inductive Op
  | hotplug
  | configuration (resources : DRMModeResources)
  | configure (conf : RealKMSDisplayConfiguration)
  | applyIfConfigurationPreservesDisplayBuffers (conf : RealKMSDisplayConfiguration)
  | resume

/-- A call that throws leaves the display as it was, but for an update, which leaves what it had
read. -/
def step (walk : Walk) (display : Display) : Op → Display
  | .hotplug => { display with dirtyConfiguration := true }
  | .configuration resources =>
    if display.dirtyConfiguration = true then
      let updated := display.currentConfiguration.update resources
      { display with
        currentConfiguration := updated.1
        dirtyConfiguration := updated.2.isSome }
    else display
  | .configure conf =>
    match display.configure walk conf with
    | .ok after => after
    | .error _ => display
  | .applyIfConfigurationPreservesDisplayBuffers conf =>
    match display.applyIfConfigurationPreservesDisplayBuffers walk conf with
    | .ok (after, _) => after
    | .error _ => display
  | .resume =>
    { display with
      kmsOutputs := clearConnectedUnusedOutputs display.currentConfiguration display.kmsOutputs }

end Display

/-! ### Compatible configurations -/

namespace DisplayConfigurationOutput

theorem compatible_symm {output1 output2 : DisplayConfigurationOutput}
    (isCompatible : output1.compatible output2 = true) : output2.compatible output1 = true := by
  unfold compatible equals at isCompatible ⊢
  simp only [Bool.and_eq_true, decide_eq_true_eq] at isCompatible ⊢
  obtain ⟨power, id, card, type, size, preferred, connected, used, topLeft, -, mode, -, -, modes⟩ :=
    isCompatible
  exact ⟨power.symm, id.symm, card.symm, type.symm, size.symm, preferred.symm, connected.symm,
    used.symm, topLeft.symm, trivial, mode.symm, trivial, trivial, modes.symm⟩

theorem id_eq_of_compatible {output1 output2 : DisplayConfigurationOutput}
    (isCompatible : output1.compatible output2 = true) : output1.id = output2.id := by
  unfold compatible equals at isCompatible
  simp only [Bool.and_eq_true, decide_eq_true_eq] at isCompatible
  exact isCompatible.2.1

end DisplayConfigurationOutput

section Compatible

variable {conf1 conf2 : RealKMSDisplayConfiguration}

theorem compatible_iff :
    compatible conf1 conf2 = true ↔ conf1.drmFd = conf2.drmFd ∧ conf1.card = conf2.card ∧
      conf1.outputs.length = conf2.outputs.length ∧
      ∀ outputs ∈ conf1.outputs.zip conf2.outputs, outputs.1.compatible outputs.2 = true := by
  unfold compatible
  simp only [Bool.and_eq_true, decide_eq_true_eq, List.all_eq_true, and_assoc]

/-- Each configuration can be attained from the other. -/
theorem compatible_symm (isCompatible : compatible conf1 conf2 = true) :
    compatible conf2 conf1 = true := by
  obtain ⟨drmFd, card, length, each⟩ := compatible_iff.mp isCompatible
  refine compatible_iff.mpr ⟨drmFd.symm, card.symm, length.symm, fun outputs member => ?_⟩
  rw [← List.zip_swap] at member
  obtain ⟨swapped, isMember, rfl⟩ := List.mem_map.mp member
  exact DisplayConfigurationOutput.compatible_symm (each swapped isMember)

theorem ids_eq_of_compatible (isCompatible : compatible conf1 conf2 = true) :
    conf1.ids = conf2.ids := by
  obtain ⟨-, -, length, each⟩ := compatible_iff.mp isCompatible
  have firsts := List.map_fst_zip (Nat.le_of_eq length)
  have seconds := List.map_snd_zip (Nat.le_of_eq length.symm)
  calc conf1.ids
      = (conf1.outputs.zip conf2.outputs).map fun outputs => outputs.1.id := by
        rw [RealKMSDisplayConfiguration.ids, ← firsts, List.map_map, firsts]
        rfl
    _ = (conf1.outputs.zip conf2.outputs).map fun outputs => outputs.2.id :=
        List.map_congr_left fun outputs member =>
          DisplayConfigurationOutput.id_eq_of_compatible (each outputs member)
    _ = conf2.ids := by
        rw [RealKMSDisplayConfiguration.ids, ← seconds, List.map_map, seconds]
        rfl

end Compatible

/-! ### The groups of a configuration -/

section Grouping

variable {conf : RealKMSDisplayConfiguration} {walk : Walk}

theorem find_eq_some (distinct : conf.ids.Nodup) {output : DisplayConfigurationOutput}
    (member : output ∈ conf.outputs) : conf.findOutputWithID output.id = some output := by
  obtain ⟨found, isFound⟩ : ∃ found, conf.findOutputWithID output.id = some found := by
    refine Option.isSome_iff_exists.mp (List.find?_isSome.mpr ⟨output, member, ?_⟩)
    exact decide_eq_true rfl
  have satisfies := List.find?_some isFound
  have same : found.id = output.id := of_decide_eq_true satisfies
  rw [isFound, List.inj_on_of_nodup_map distinct (List.mem_of_find?_eq_some isFound) member same]

theorem ids_layouts (conf : RealKMSDisplayConfiguration) :
    conf.layouts.map Graphics.DisplayConfigurationOutput.id = conf.ids := by
  unfold RealKMSDisplayConfiguration.layouts RealKMSDisplayConfiguration.ids
  rw [List.map_map]
  rfl

/-- The outputs of a group are found again by their ids. -/
theorem layout_found (distinct : conf.ids.Nodup)
    {group : List Graphics.DisplayConfigurationOutput} (known : group ⊆ conf.layouts) :
    (group.filterMap fun output => conf.findOutputWithID output.id).map
      DisplayConfigurationOutput.layout = group := by
  induction group with
  | nil => rfl
  | cons first rest inductionHypothesis =>
    obtain ⟨output, member, rfl⟩ := List.mem_map.mp (known List.mem_cons_self)
    have found : conf.findOutputWithID output.layout.id = some output :=
      find_eq_some distinct member
    rw [List.filterMap_cons, found]
    dsimp only
    rw [List.map_cons,
      inductionHypothesis fun other later => known (List.mem_cons_of_mem _ later)]

theorem partitions_layouts (walks : ∀ outputs, (walk outputs).Perm outputs)
    (distinct : conf.ids.Nodup) :
    Partitions OverlappingOutputGrouping.Joined
      (conf.layouts.filter Graphics.DisplayConfigurationOutput.active)
      (OverlappingOutputGrouping.ofConfiguration walk conf.layouts) := by
  rw [← ids_layouts] at distinct
  exact OverlappingOutputGrouping.ofConfiguration_partitions walks _ distinct

theorem layout_grouping (walks : ∀ outputs, (walk outputs).Perm outputs)
    (distinct : conf.ids.Nodup) :
    (conf.grouping walk).map (List.map DisplayConfigurationOutput.layout) =
      OverlappingOutputGrouping.ofConfiguration walk conf.layouts := by
  have partitions := partitions_layouts walks distinct
  unfold RealKMSDisplayConfiguration.grouping
  rw [List.map_map]
  refine (List.map_congr_left fun group isGroup => layout_found distinct fun output inGroup => ?_)
    |>.trans (List.map_id _)
  exact (List.mem_filter.mp ((partitions.covers output).mpr ⟨group, isGroup, inGroup⟩)).1

theorem layouts_mem (walks : ∀ outputs, (walk outputs).Perm outputs) (distinct : conf.ids.Nodup)
    {group : Group} (isGroup : group ∈ conf.grouping walk) :
    group.map DisplayConfigurationOutput.layout ∈
      OverlappingOutputGrouping.ofConfiguration walk conf.layouts := by
  rw [← layout_grouping walks distinct]
  exact List.mem_map_of_mem isGroup

/-- The ids of the outputs of each group. -/
def groupIDs (groups : List Group) : List (List OutputID) :=
  groups.map (List.map DisplayConfigurationOutput.id)

theorem groupIDs_grouping (walks : ∀ outputs, (walk outputs).Perm outputs)
    (distinct : conf.ids.Nodup) :
    groupIDs (conf.grouping walk) =
      OverlappingOutputGrouping.ids
        (OverlappingOutputGrouping.ofConfiguration walk conf.layouts) := by
  rw [← layout_grouping walks distinct]
  unfold groupIDs OverlappingOutputGrouping.ids
  rw [List.map_map]
  refine List.map_congr_left fun group _ => ?_
  rw [Function.comp_apply, List.map_map]
  rfl

/-- The place of an output among those of a configuration. -/
def rank (ids : List OutputID) (id : OutputID) : Nat := ids.idxOf id

theorem rank_increasing {ids : List OutputID} (nodup : ids.Nodup) :
    ids.Pairwise fun first second => rank ids first < rank ids second := by
  refine List.pairwise_iff_getElem.mpr fun i j iWithin jWithin less => ?_
  unfold rank
  rw [nodup.idxOf_getElem i iWithin, nodup.idxOf_getElem j jWithin]
  exact less

theorem grouping_inOrder (walks : ∀ outputs, (walk outputs).Perm outputs)
    (distinct : conf.ids.Nodup) :
    InOrder (rank conf.ids) (groupIDs (conf.grouping walk)) := by
  rw [groupIDs_grouping walks distinct]
  refine OverlappingOutputGrouping.ids_inOrder walks ?_
  have ordered := rank_increasing distinct
  rw [← ids_layouts] at ordered ⊢
  have pairs := List.pairwise_map.mp ordered
  exact pairs

/-- A chain of active outputs of a configuration leads from one output to another. -/
def Linked (conf : RealKMSDisplayConfiguration) (first second : OutputID) : Prop :=
  OverlappingOutputGrouping.LinkedIDs conf.layouts first second

theorem together_grouping_iff (walks : ∀ outputs, (walk outputs).Perm outputs)
    (distinct : conf.ids.Nodup) (first second : OutputID) :
    Together (groupIDs (conf.grouping walk)) first second ↔ Linked conf first second := by
  rw [groupIDs_grouping walks distinct]
  rw [← ids_layouts] at distinct
  exact OverlappingOutputGrouping.together_ids_iff walks distinct first second

theorem orientation_of_same {group : Group} {orientation : Orientation} (inhabited : group ≠ [])
    (same : ∀ output ∈ group, output.orientation = orientation) :
    group.orientation = orientation := by
  unfold Group.orientation
  obtain ⟨before, output, rfl⟩ := (List.eq_nil_or_concat' group).resolve_left inhabited
  rw [List.foldl_append]
  exact same output (List.mem_append_right _ (List.mem_singleton_self output))

/-- All outputs of a group have the orientation that its display buffer gets. -/
theorem orientation_eq (walks : ∀ outputs, (walk outputs).Perm outputs)
    (distinct : conf.ids.Nodup) {group : Group} (isGroup : group ∈ conf.grouping walk)
    {output : DisplayConfigurationOutput} (member : output ∈ group) :
    output.orientation = group.orientation := by
  have partitions := partitions_layouts walks distinct
  have isLayouts := layouts_mem walks distinct isGroup
  refine (orientation_of_same (List.ne_nil_of_mem member) fun other isOther => ?_).symm
  have linked := partitions.linked _ isLayouts other.layout (List.mem_map_of_mem isOther)
    output.layout (List.mem_map_of_mem member)
  exact OverlappingOutputGrouping.orientation_eq_of_linked linked

end Grouping

/-! ### The display buffers -/

section DisplayBuffers

variable {buffers after : List DisplayBuffer} {groups : List Group}

theorem outputs_setOrientations (given : setOrientations buffers groups = .ok after) :
    after.map DisplayBuffer.outputs = buffers.map DisplayBuffer.outputs := by
  induction buffers, groups using setOrientations.induct generalizing after with
  | case1 buffers =>
    rw [setOrientations] at given
    cases given
    rfl
  | case2 group groups =>
    rw [setOrientations] at given
    cases given
  | case3 buffer buffers group groups inductionHypothesis =>
    rw [setOrientations] at given
    obtain ⟨rest, result, isAfter⟩ := Fallible.bind_ok given
    cases isAfter
    rw [List.map_cons, List.map_cons, inductionHypothesis result]
    rfl

/-- A display buffer has the area and the orientation of the outputs that it drives. -/
def Matches (groups : List Group) (buffer : DisplayBuffer) : Prop :=
  ∃ group ∈ groups, Same (group.map DisplayConfigurationOutput.id) buffer.outputs ∧
    buffer.area = group.boundingRectangle ∧
    ∀ output ∈ group, output.orientation = buffer.rotation

/-- With the groups that the display buffers have, all of them are set. -/
theorem setOrientations_of_same
    (uniform : ∀ group ∈ groups, ∀ output ∈ group, output.orientation = group.orientation)
    (same : List.Forall₂ Same (groupIDs groups) (buffers.map DisplayBuffer.outputs)) :
    ∃ after, setOrientations buffers groups = .ok after ∧
      ∀ buffer ∈ after, Matches groups buffer := by
  induction groups generalizing buffers with
  | nil =>
    rw [groupIDs, List.map_nil, List.forall₂_nil_left_iff, List.map_eq_nil_iff] at same
    subst same
    exact ⟨[], rfl, fun _ isBuffer => nomatch isBuffer⟩
  | cons group groups inductionHypothesis =>
    cases buffers with
    | nil => cases same
    | cons buffer buffers =>
      obtain ⟨head, rest⟩ := List.forall₂_cons.mp same
      obtain ⟨after, given, fits⟩ := inductionHypothesis
        (fun other isOther => uniform other (List.mem_cons_of_mem _ isOther)) rest
      refine ⟨buffer.setOrientation group.orientation group.boundingRectangle :: after, ?_, ?_⟩
      · rw [setOrientations, given]
        rfl
      · intro other isOther
        rcases List.mem_cons.mp isOther with rfl | later
        · exact ⟨group, List.mem_cons_self, head, rfl, uniform group List.mem_cons_self⟩
        · obtain ⟨its, isGroup, facts⟩ := fits other later
          exact ⟨its, List.mem_cons_of_mem _ isGroup, facts⟩

end DisplayBuffers

/-! ### Updates add outputs at the end -/

section Update

/-- One list of ids after another: some are added at the end, and they stay distinct. -/
def Grows (ids after : List OutputID) : Prop := ids <+: after ∧ (ids.Nodup → after.Nodup)

theorem Grows.refl (ids : List OutputID) : Grows ids ids :=
  ⟨List.prefix_refl ids, fun nodup => nodup⟩

theorem Grows.trans {ids after later : List OutputID} (first : Grows ids after)
    (second : Grows after later) : Grows ids later :=
  ⟨first.1.trans second.1, fun nodup => second.2 (first.2 nodup)⟩

variable {connector : Connector} {gamma : GammaCurves}
  {outputs after : List DisplayConfigurationOutput}

theorem id_updateOutput {output updated : DisplayConfigurationOutput}
    (taken : updateOutput output connector gamma = .ok updated) : updated.id = output.id := by
  obtain ⟨index, -, isUpdated⟩ := Fallible.bind_ok taken
  cases isUpdated
  rfl

theorem ids_addOrUpdate (taken : addOrUpdate connector gamma outputs = .ok after) :
    after.map DisplayConfigurationOutput.id = outputs.map DisplayConfigurationOutput.id ∨
      connector.connectorID ∉ outputs.map DisplayConfigurationOutput.id ∧
        after.map DisplayConfigurationOutput.id =
          outputs.map DisplayConfigurationOutput.id ++ [connector.connectorID] := by
  induction outputs generalizing after with
  | nil =>
    cases taken
    exact .inr ⟨List.not_mem_nil, rfl⟩
  | cons output rest inductionHypothesis =>
    rw [addOrUpdate] at taken
    by_cases isIt : output.id = connector.connectorID
    · rw [if_pos isIt] at taken
      obtain ⟨updated, result, isAfter⟩ := Fallible.bind_ok taken
      cases isAfter
      rw [List.map_cons, List.map_cons, id_updateOutput result]
      exact .inl rfl
    · rw [if_neg isIt] at taken
      obtain ⟨others, result, isAfter⟩ := Fallible.bind_ok taken
      cases isAfter
      rw [List.map_cons, List.map_cons]
      rcases inductionHypothesis result with same | ⟨absent, added⟩
      · rw [same]
        exact .inl rfl
      · rw [added]
        exact .inr ⟨List.not_mem_cons_of_ne_of_not_mem (Ne.symm isIt) absent, rfl⟩

theorem grows_addOrUpdateOutput (taken : addOrUpdateOutput outputs connector = .ok after) :
    Grows (outputs.map DisplayConfigurationOutput.id)
      (after.map DisplayConfigurationOutput.id) := by
  obtain ⟨gamma, -, isAfter⟩ := Fallible.bind_ok taken
  rcases ids_addOrUpdate isAfter with same | ⟨absent, added⟩
  · rw [same]
    exact .refl _
  · rw [added]
    refine ⟨List.prefix_append _ _, fun nodup => ?_⟩
    exact List.Nodup.append nodup (List.nodup_singleton _) (List.disjoint_singleton.mpr absent)

theorem grows_updateOutputs (connectors : List Connector) :
    Grows (outputs.map DisplayConfigurationOutput.id)
      ((updateOutputs outputs connectors).1.map DisplayConfigurationOutput.id) := by
  induction connectors generalizing outputs with
  | nil => exact .refl _
  | cons connector rest inductionHypothesis =>
    rw [updateOutputs]
    cases result : addOrUpdateOutput outputs connector with
    | error error => exact .refl _
    | ok after => exact (grows_addOrUpdateOutput result).trans inductionHypothesis

theorem grows_update (conf : RealKMSDisplayConfiguration) (resources : DRMModeResources) :
    Grows conf.ids (conf.update resources).1.ids := grows_updateOutputs resources.connectors

end Update

namespace Display

/-! ### Runs of a display -/

/-- What is asked of a step: the ids of a configuration differ, as an update makes them, and no
display buffer is taken that there is not. -/
def Allowed (walk : Walk) (display : Display) : Op → Prop
  | .configure conf => conf.ids.Nodup ∧ display.configure walk conf ≠ .error .pastDisplayBuffers
  | .applyIfConfigurationPreservesDisplayBuffers conf =>
    conf.ids.Nodup ∧
      display.applyIfConfigurationPreservesDisplayBuffers walk conf ≠ .error .pastDisplayBuffers
  | _ => True

/-- The outputs that each display buffer drives. -/
def drives (display : Display) : List (List OutputID) :=
  display.displayBuffers.map DisplayBuffer.outputs

/-- The display buffers drive outputs of the configuration, in its order. -/
structure Arranged (display : Display) : Prop where
  distinct : display.currentConfiguration.ids.Nodup
  known : ∀ ids ∈ display.drives, ids ⊆ display.currentConfiguration.ids
  inOrder : InOrder (rank display.currentConfiguration.ids) display.drives

section Runs

variable {walk : Walk} {display after : Display} {conf : RealKMSDisplayConfiguration}
  {comp : Bool}

theorem configureLocked_ok (given : display.configureLocked walk comp conf = .ok after) :
    after.currentConfiguration = conf ∧
      (comp = true ∧ after.drives = display.drives ∨
        comp = false ∧ after.drives = groupIDs (conf.grouping walk)) := by
  unfold configureLocked at given
  cases comp with
  | true =>
    rw [if_pos rfl] at given
    obtain ⟨buffers, result, isAfter⟩ := Fallible.bind_ok given
    cases isAfter
    exact ⟨rfl, .inl ⟨rfl, outputs_setOrientations result⟩⟩
  | false =>
    rw [if_neg Bool.false_ne_true] at given
    split at given
    · cases given
    · cases given
      refine ⟨rfl, .inr ⟨rfl, ?_⟩⟩
      unfold drives groupIDs
      rw [List.map_map]
      rfl

theorem known_grouping (walks : ∀ outputs, (walk outputs).Perm outputs)
    (distinct : conf.ids.Nodup) : ∀ ids ∈ groupIDs (conf.grouping walk), ids ⊆ conf.ids := by
  intro ids isGroup id member
  obtain ⟨one, isActive, -, rfl, -⟩ :=
    (together_grouping_iff walks distinct id id).mp ⟨ids, isGroup, member, member⟩
  rw [← ids_layouts]
  exact List.mem_map_of_mem (List.mem_filter.mp isActive).1

namespace Arranged

theorem of_ids {before later : Display} (arranged : before.Arranged)
    (drives : later.drives = before.drives)
    (grows : Grows before.currentConfiguration.ids later.currentConfiguration.ids) :
    later.Arranged where
  distinct := grows.2 arranged.distinct
  known := by
    rw [drives]
    exact fun ids isIDs => List.Subset.trans (arranged.known ids isIDs) grows.1.subset
  inOrder := by
    rw [drives]
    refine arranged.inOrder.congr_rank fun ids isIDs id member => ?_
    obtain ⟨more, same⟩ := grows.1
    unfold rank
    rw [← same]
    exact List.idxOf_append_of_mem (arranged.known ids isIDs member)

/-- New display buffers drive the groups. -/
theorem of_grouping (walks : ∀ outputs, (walk outputs).Perm outputs) (distinct : conf.ids.Nodup)
    (current : after.currentConfiguration = conf)
    (drives : after.drives = groupIDs (conf.grouping walk)) : after.Arranged := by
  refine ⟨?_, ?_, ?_⟩
  · rw [current]
    exact distinct
  · rw [drives, current]
    exact known_grouping walks distinct
  · rw [drives, current]
    exact grouping_inOrder walks distinct

theorem configureLocked (arranged : display.Arranged)
    (walks : ∀ outputs, (walk outputs).Perm outputs) (distinct : conf.ids.Nodup)
    (given : display.configureLocked walk (compatible conf display.currentConfiguration) conf =
      .ok after) : after.Arranged := by
  obtain ⟨current, ⟨comp, drives⟩ | ⟨-, drives⟩⟩ := configureLocked_ok given
  · refine arranged.of_ids drives ?_
    rw [current, ids_eq_of_compatible comp]
    exact .refl _
  · exact of_grouping walks distinct current drives

theorem step (arranged : display.Arranged) (walks : ∀ outputs, (walk outputs).Perm outputs)
    (op : Op) (allowed : display.Allowed walk op) : (display.step walk op).Arranged := by
  cases op with
  | hotplug => exact arranged.of_ids rfl (.refl _)
  | resume => exact arranged.of_ids rfl (.refl _)
  | configuration resources =>
    unfold Display.step
    dsimp only
    split
    · exact arranged.of_ids rfl (grows_update _ resources)
    · exact arranged
  | configure conf =>
    unfold Display.step
    dsimp only
    split
    · next after given =>
      unfold configure at given
      split at given
      · cases given
      · exact arranged.configureLocked walks allowed.1 given
    · exact arranged
  | applyIfConfigurationPreservesDisplayBuffers conf =>
    unfold Display.step
    dsimp only
    split
    · next after applied given =>
      unfold applyIfConfigurationPreservesDisplayBuffers at given
      split at given
      · obtain ⟨later, result, isAfter⟩ := Fallible.bind_ok given
        cases isAfter
        exact arranged.configureLocked walks allowed.1 result
      · cases given
        exact arranged
    · exact arranged

theorem construct (walks : ∀ outputs, (walk outputs).Perm outputs)
    {kmsOutputs : OutputID → KMSOutput} (distinct : conf.ids.Nodup)
    (constructed : construct walk kmsOutputs conf = .ok after) : after.Arranged := by
  unfold Display.construct at constructed
  split at constructed
  · cases constructed
  · obtain ⟨current, ⟨isComp, -⟩ | ⟨-, drives⟩⟩ := configureLocked_ok constructed
    · cases isComp
    · exact of_grouping walks distinct current drives

/-- The display buffers are arranged in every run. -/
theorem of_reaches (walks : ∀ outputs, (walk outputs).Perm outputs)
    {kmsOutputs : OutputID → KMSOutput} (distinct : conf.ids.Nodup) {first : Display}
    (constructed : Display.construct walk kmsOutputs conf = .ok first)
    (reached : Transition.Reaches (Display.step walk) (Allowed walk) first display) :
    display.Arranged := by
  induction reached with
  | start => exact .construct walks distinct constructed
  | step op _ allowed inductionHypothesis => exact inductionHypothesis.step walks op allowed

end Arranged

/-! ### Keeping the display buffers -/

/-- The groups of a configuration are the ones that the display buffers were made for, one for one,
and when it is applied each display buffer gets the area and the orientation of its outputs. -/
structure KeepsDisplayBuffers (walk : Walk) (display : Display)
    (conf : RealKMSDisplayConfiguration) : Prop where
  sameGroups : List.Forall₂ Same (groupIDs (conf.grouping walk)) display.drives
  applied : ∃ after,
    display.applyIfConfigurationPreservesDisplayBuffers walk conf = .ok (after, true) ∧
      after.drives = display.drives ∧
      ∀ buffer ∈ after.displayBuffers, Matches (conf.grouping walk) buffer

theorem keepsDisplayBuffers_of_same (walks : ∀ outputs, (walk outputs).Perm outputs)
    (distinct : conf.ids.Nodup) (isCompatible : compatible display.currentConfiguration conf = true)
    (same : List.Forall₂ Same (groupIDs (conf.grouping walk)) display.drives) :
    KeepsDisplayBuffers walk display conf := by
  obtain ⟨buffers, given, matching⟩ := setOrientations_of_same
    (fun group isGroup output member => orientation_eq walks distinct isGroup member) same
  refine ⟨same, { display with
    kmsOutputs := setUpOutputs true (conf.grouping walk) display.kmsOutputs
    displayBuffers := buffers
    currentConfiguration := conf }, ?_, outputs_setOrientations given, matching⟩
  unfold applyIfConfigurationPreservesDisplayBuffers configureLocked
  rw [if_pos isCompatible, compatible_symm isCompatible]
  dsimp only
  rw [if_pos rfl, given]
  rfl

/-- In every display that a run leads to, the display buffers are kept exactly if they drive
together the outputs that are linked in the new configuration. -/
theorem keepsDisplayBuffers_iff (walks : ∀ outputs, (walk outputs).Perm outputs)
    {kmsOutputs : OutputID → KMSOutput} {initial : RealKMSDisplayConfiguration}
    (distinct : initial.ids.Nodup) {first : Display}
    (constructed : construct walk kmsOutputs initial = .ok first)
    (reached : Transition.Reaches (Display.step walk) (Allowed walk) first display)
    (isCompatible : compatible display.currentConfiguration conf = true) :
    KeepsDisplayBuffers walk display conf ↔
      ∀ one other, Linked conf one other ↔ Together display.drives one other := by
  have arranged := Arranged.of_reaches walks distinct constructed reached
  have sameIDs := ids_eq_of_compatible isCompatible
  have newDistinct : conf.ids.Nodup := by
    rw [← sameIDs]
    exact arranged.distinct
  have inOrder :
      InOrder (rank display.currentConfiguration.ids) (groupIDs (conf.grouping walk)) := by
    rw [sameIDs]
    exact grouping_inOrder walks newDistinct
  have sameGroups := forall₂_same_iff inOrder arranged.inOrder
  simp only [together_grouping_iff walks newDistinct] at sameGroups
  rw [← sameGroups]
  exact ⟨KeepsDisplayBuffers.sameGroups, keepsDisplayBuffers_of_same walks newDistinct isCompatible⟩

end Runs

/-- An output that is used, at the origin. -/
def originOutput (id : OutputID) (orientation : Orientation) (gamma : GammaCurves) :
    DisplayConfigurationOutput :=
  ⟨id, 0, 11, [.argb8888, .xrgb8888], [⟨⟨100, 50⟩, 6000⟩], 0, ⟨480, 270⟩, true, true, ⟨0, 0⟩, 0,
    .xrgb8888, .on, orientation, 1, .monitor, .unknown, gamma, true, []⟩

/-- Two outputs that show the same. -/
def cloned (first second : Orientation) : RealKMSDisplayConfiguration :=
  ⟨3, ⟨0, 2⟩, [originOutput 1 first .empty, originOutput 2 second .empty]⟩

def untold : OutputID → KMSOutput := fun _ => ⟨⟨0, 0⟩, 0, .on, .empty⟩

/-- A display with one display buffer for both outputs. -/
def clonedDisplay : Display where
  kmsOutputs := clearConnectedUnusedOutputs (cloned .normal .normal)
    (setUpOutputs false ((cloned .normal .normal).grouping fun outputs => outputs) untold)
  displayBuffers := [⟨[1, 2], ⟨⟨0, 0⟩, ⟨100, 50⟩⟩, .normal⟩]
  currentConfiguration := cloned .normal .normal
  dirtyConfiguration := false

theorem construct_cloned :
    construct (fun outputs => outputs) untold (cloned .normal .normal) = .ok clonedDisplay := rfl

/-- Both outputs are rotated. -/
theorem keepsDisplayBuffers_cloned :
    KeepsDisplayBuffers (fun outputs => outputs) clonedDisplay (cloned .left .left) := by
  refine (keepsDisplayBuffers_iff (fun _ => .refl _) (by decide) construct_cloned .start
    (by decide)).mpr fun one other => ?_
  have together := @together_grouping_iff (cloned .left .left) (fun outputs => outputs)
    (fun _ => .refl _) (by decide) one other
  exact together.symm

/-- One of the two outputs is rotated. There are two groups then, and one display buffer. -/
theorem rotated_clone_has_no_display_buffer :
    ¬ ∀ (walk : Walk) (kmsOutputs : OutputID → KMSOutput)
      (initial conf : RealKMSDisplayConfiguration) (display : Display),
      (∀ outputs, (walk outputs).Perm outputs) → initial.ids.Nodup →
        construct walk kmsOutputs initial = .ok display → conf.valid = true →
        compatible display.currentConfiguration conf = true →
        KeepsDisplayBuffers walk display conf := by
  intro always
  have keeps := always (fun outputs => outputs) untold (cloned .normal .normal)
    (cloned .normal .left) clonedDisplay (fun _ => .refl _) (by decide) construct_cloned (by decide)
    (by decide)
  exact absurd keeps.sameGroups.length_eq (by decide)

end Display

end Mir.Graphics.KMS

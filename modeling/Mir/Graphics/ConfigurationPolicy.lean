/-
This file embeds two policies that configure the outputs of a display before anybody else does: one
shows the same on all outputs, the other sets them side by side. It proves how the outputs overlap
afterwards, and so how they are grouped.
-/

import Mir.Graphics.KMSDisplay

namespace Mir.Graphics.OverlappingOutputGrouping

/-- Outputs that do not overlap stay in groups of their own. -/
theorem ofConfiguration_eq_singletons
    {walk : List DisplayConfigurationOutput → List DisplayConfigurationOutput}
    (outputs : List DisplayConfigurationOutput)
    (apart : (outputs.filter DisplayConfigurationOutput.active).Pairwise
      fun first second => first.groupsWith second = false) :
    ofConfiguration walk outputs =
      (outputs.filter DisplayConfigurationOutput.active).map fun output => [output] := by
  induction outputs using List.reverseRecOn with
  | nil => rfl
  | append_singleton outputs output inductionHypothesis =>
    rw [List.filter_append] at apart ⊢
    obtain ⟨earlier, -, later⟩ := List.pairwise_append.mp apart
    rw [ofConfiguration_append, inductionHypothesis earlier]
    by_cases active : output.active = true
    · have none : overlappingGroups ((outputs.filter DisplayConfigurationOutput.active).map
          fun other => [other]) output = [] := by
        refine List.filter_eq_nil_iff.mpr fun index _ found => ?_
        obtain ⟨other, isOther, joined⟩ := (foundOverlap_iff _ _).mp found
        unfold groupAt at isOther
        rw [List.getD_eq_getElem?_getD, List.getElem?_map] at isOther
        cases isAt : (outputs.filter DisplayConfigurationOutput.active)[index]? with
        | none =>
          rw [isAt] at isOther
          cases isOther
        | some first =>
          rw [isAt] at isOther
          obtain rfl := List.mem_singleton.mp isOther
          have alone := later other (List.mem_of_getElem? isAt) output
            (by rw [List.filter_cons_of_pos active]; exact List.mem_cons_self)
          exact Bool.false_ne_true (alone.symm.trans joined)
      rw [if_pos active, addOutput, if_neg (not_not.mpr none), List.filter_cons_of_pos active,
        List.filter_nil, List.map_append]
      rfl
    · rw [if_neg active, List.filter_cons_of_neg active, List.filter_nil, List.append_nil]

end Mir.Graphics.OverlappingOutputGrouping

namespace Mir.Graphics.KMS

open Mir.Geometry Components

/-! ### Modes and formats -/

/-- The largest value of a size, which is the index of no mode. -/
def noMode : Nat := 2 ^ 64 - 1

def selectModeIndex (modeIndex : Nat) (modes : List DisplayConfigurationMode) : Nat :=
  if modes.isEmpty then noMode
  else if modeIndex ≥ modes.length then 0
  else modeIndex

def PixelFormat.containsAlpha : PixelFormat → Bool
  | .abgr8888 | .argb8888 | .rgba5551 | .rgba4444 => true
  | .invalid | .xbgr8888 | .xrgb8888 | .bgr888 | .rgb888 | .rgb565 => false

/-- The format itself if it is there and opaque, or else the first opaque one. -/
def selectOpaqueFormat (format : PixelFormat) (formats : List PixelFormat) : PixelFormat :=
  if format.containsAlpha = false ∧ format ∈ formats then format
  else
    match formats.find? fun other => !other.containsAlpha with
    | some firstOpaque => firstOpaque
    | none =>
      -- only transparent options
      if format ∈ formats then format else formats.head?.getD .invalid

/-! ### The policies -/

namespace CloneDisplayConfigurationPolicy

def defaultPowerState : PowerMode := .on

def configure (confOutput : DisplayConfigurationOutput) : DisplayConfigurationOutput :=
  if !confOutput.connected || confOutput.modes.isEmpty then
    { confOutput with used := false, powerMode := defaultPowerState }
  else
    { confOutput with
      used := true
      topLeft := ⟨0, 0⟩
      currentModeIndex := selectModeIndex confOutput.preferredModeIndex confOutput.modes
      currentFormat := selectOpaqueFormat confOutput.currentFormat confOutput.pixelFormats
      powerMode := defaultPowerState
      orientation := .normal }

def applyTo (conf : List DisplayConfigurationOutput) : List DisplayConfigurationOutput :=
  conf.map configure

end CloneDisplayConfigurationPolicy

namespace SideBySideDisplayConfigurationPolicy

def configure (maxX : Int) (confOutput : DisplayConfigurationOutput) :
    DisplayConfigurationOutput :=
  if confOutput.connected && decide (confOutput.modes.length > 0) then
    { confOutput with
      used := true
      topLeft := ⟨maxX, 0⟩
      currentModeIndex := selectModeIndex confOutput.preferredModeIndex confOutput.modes
      powerMode := .on
      orientation := .normal }
  else { confOutput with used := false, powerMode := .off }

/-- The width of the mode at an index. The policy looks only at modes that there are. -/
def widthAt (modes : List DisplayConfigurationMode) (index : Nat) : Int :=
  (modes[index]?.map fun mode => mode.size.width).getD 0

/-- Where the next output goes. -/
def advance (maxX : Int) (confOutput : DisplayConfigurationOutput) : Int :=
  if confOutput.connected && decide (confOutput.modes.length > 0) then
    maxX + widthAt confOutput.modes
      (selectModeIndex confOutput.preferredModeIndex confOutput.modes)
  else maxX

/-- The loop, from an offset on. -/
def applyFrom : Int → List DisplayConfigurationOutput → List DisplayConfigurationOutput
  | _, [] => []
  | maxX, confOutput :: rest =>
    configure maxX confOutput :: applyFrom (advance maxX confOutput) rest

def applyTo (conf : List DisplayConfigurationOutput) : List DisplayConfigurationOutput :=
  applyFrom 0 conf

end SideBySideDisplayConfigurationPolicy

/-! ### What both policies do to an output -/

theorem selectModeIndex_lt (modeIndex : Nat) {modes : List DisplayConfigurationMode}
    (some : modes ≠ []) : selectModeIndex modeIndex modes < modes.length := by
  rw [selectModeIndex, if_neg (by simpa using some)]
  split_ifs with outside
  · exact List.length_pos_iff.mpr some
  · exact Nat.not_le.mp outside

/-- An output before and after it is configured: it is used if it can be, and then it is on, the
right way up and has one of its modes. -/
structure Configured (before after : DisplayConfigurationOutput) : Prop where
  id : after.id = before.id
  modes : after.modes = before.modes
  connected : after.connected = before.connected
  used : after.used = true ↔ before.connected = true ∧ before.modes ≠ []
  on : after.used = true → after.powerMode = .on
  upright : after.used = true → after.orientation = .normal
  inModes : after.used = true → after.currentModeIndex < after.modes.length

namespace Configured

variable {before after : DisplayConfigurationOutput}

/-- An output that is used is grouped. -/
theorem active_iff (configured : Configured before after) :
    after.layout.active = true ↔ after.used = true := by
  unfold Graphics.DisplayConfigurationOutput.active DisplayConfigurationOutput.layout
  simp only [Bool.and_eq_true, decide_eq_true_eq, List.length_map]
  constructor
  · rintro ⟨⟨⟨-, used⟩, -⟩, -⟩
    exact used
  · intro used
    have connected : after.connected = true :=
      configured.connected.trans (configured.used.mp used).1
    exact ⟨⟨⟨connected, used⟩, configured.on used⟩, configured.inModes used⟩

/-- The area of an output that is used has the size of its mode. -/
theorem extents_eq (configured : Configured before after) (used : after.used = true) :
    ∃ mode ∈ after.modes, after.modes[after.currentModeIndex]? = some mode ∧
      after.extents = ⟨after.topLeft, mode.size⟩ := by
  have inModes := configured.inModes used
  refine ⟨after.modes[after.currentModeIndex], List.getElem_mem inModes,
    List.getElem?_eq_getElem inModes, ?_⟩
  unfold DisplayConfigurationOutput.extents Graphics.DisplayConfigurationOutput.extents extentsOf
    DisplayConfigurationOutput.layout
  simp only [List.getElem?_map, List.getElem?_eq_getElem inModes, Option.map_some]
  rw [if_pos (.inl (configured.upright used))]

end Configured

/-- The outputs of a configuration before and after. -/
abbrev AllConfigured (conf outputs : List DisplayConfigurationOutput) : Prop :=
  List.Forall₂ Configured conf outputs

namespace AllConfigured

variable {conf outputs : List DisplayConfigurationOutput}

theorem exists_before (configured : AllConfigured conf outputs)
    {output : DisplayConfigurationOutput} (member : output ∈ outputs) :
    ∃ before ∈ conf, Configured before output := by
  induction configured with
  | nil => cases member
  | cons first later inductionHypothesis =>
    rcases List.mem_cons.mp member with rfl | inRest
    · exact ⟨_, List.mem_cons_self, first⟩
    · obtain ⟨before, isBefore, isConfigured⟩ := inductionHypothesis inRest
      exact ⟨before, List.mem_cons_of_mem _ isBefore, isConfigured⟩

theorem ids_eq (configured : AllConfigured conf outputs) :
    outputs.map DisplayConfigurationOutput.id = conf.map DisplayConfigurationOutput.id := by
  induction configured with
  | nil => rfl
  | cons first later inductionHypothesis =>
    rw [List.map_cons, List.map_cons, first.id, inductionHypothesis]

/-- The outputs that are grouped are those that are used. -/
theorem filter_active (configured : AllConfigured conf outputs) :
    (outputs.map DisplayConfigurationOutput.layout).filter
        Graphics.DisplayConfigurationOutput.active =
      (outputs.filter DisplayConfigurationOutput.used).map DisplayConfigurationOutput.layout := by
  rw [List.filter_map]
  refine congrArg _ (List.filter_congr fun output member => ?_)
  obtain ⟨before, -, isConfigured⟩ := configured.exists_before member
  exact Bool.eq_iff_iff.mpr isConfigured.active_iff

end AllConfigured

/-! ### Side by side -/

namespace SideBySideDisplayConfigurationPolicy

theorem usable_iff {output : DisplayConfigurationOutput} :
    (output.connected && decide (output.modes.length > 0)) = true ↔
      output.connected = true ∧ output.modes ≠ [] := by
  rw [Bool.and_eq_true, decide_eq_true_iff, gt_iff_lt, List.length_pos_iff]

theorem configured (maxX : Int) (output : DisplayConfigurationOutput) :
    Configured output (configure maxX output) := by
  unfold configure
  split_ifs with usable
  · exact ⟨rfl, rfl, rfl, iff_of_true rfl (usable_iff.mp usable), fun _ => rfl, fun _ => rfl,
      fun _ => selectModeIndex_lt _ (usable_iff.mp usable).2⟩
  · exact ⟨rfl, rfl, rfl, iff_of_false Bool.false_ne_true (usable_iff.not.mp usable),
      fun used => (Bool.false_ne_true used).elim, fun used => (Bool.false_ne_true used).elim,
      fun used => (Bool.false_ne_true used).elim⟩

theorem allConfigured (maxX : Int) (conf : List DisplayConfigurationOutput) :
    AllConfigured conf (applyFrom maxX conf) := by
  induction conf generalizing maxX with
  | nil => exact .nil
  | cons output rest inductionHypothesis =>
    exact .cons (configured maxX output) (inductionHypothesis _)

/-- An output that is used takes up what lies between its offset and the next one. -/
theorem extents_configure {maxX : Int} {output : DisplayConfigurationOutput}
    (used : (configure maxX output).used = true) :
    (configure maxX output).extents.left = maxX ∧
      (configure maxX output).extents.right = advance maxX output := by
  have usable := usable_iff.mpr ((configured maxX output).used.mp used)
  obtain ⟨mode, -, found, extents⟩ := (configured maxX output).extents_eq used
  rw [extents, Rectangle.left, Rectangle.right, Rectangle.bottomRight, advance, if_pos usable]
  rw [configure, if_pos usable] at found ⊢
  rw [widthAt, found]
  exact ⟨rfl, rfl⟩

theorem le_advance (maxX : Int) {output : DisplayConfigurationOutput}
    (notNegative : ∀ mode ∈ output.modes, 0 ≤ mode.size.width) : maxX ≤ advance maxX output := by
  unfold advance
  split_ifs with usable
  · have inModes := selectModeIndex_lt output.preferredModeIndex (usable_iff.mp usable).2
    rw [widthAt, List.getElem?_eq_getElem inModes]
    exact Int.le_add_of_nonneg_right (notNegative _ (List.getElem_mem inModes))
  · exact le_rfl

/-- What comes after an offset stays to the right of it. -/
theorem le_left_of_mem (conf : List DisplayConfigurationOutput)
    (notNegative : ∀ output ∈ conf, ∀ mode ∈ output.modes, 0 ≤ mode.size.width) (maxX : Int) :
    ∀ output ∈ applyFrom maxX conf, output.used = true → maxX ≤ output.extents.left := by
  induction conf generalizing maxX with
  | nil => exact fun output member => by cases member
  | cons first rest inductionHypothesis =>
    intro output member used
    rcases List.mem_cons.mp member with rfl | later
    · exact Int.le_of_eq (extents_configure used).1.symm
    · have further := le_advance maxX (notNegative first List.mem_cons_self)
      exact Int.le_trans further (inductionHypothesis
        (fun other inRest => notNegative other (List.mem_cons_of_mem _ inRest)) _ output later used)

theorem overlaps_eq_false_of_right_le {rectangle other : Rectangle}
    (apart : rectangle.right ≤ other.left) : rectangle.overlaps other = false := by
  simp [Rectangle.overlaps, apart]

/-- The outputs that are used do not overlap. -/
theorem pairwise_apart (conf : List DisplayConfigurationOutput)
    (notNegative : ∀ output ∈ conf, ∀ mode ∈ output.modes, 0 ≤ mode.size.width) (maxX : Int) :
    ((applyFrom maxX conf).filter DisplayConfigurationOutput.used).Pairwise
      fun first second => first.extents.overlaps second.extents = false := by
  induction conf generalizing maxX with
  | nil => exact .nil
  | cons output rest inductionHypothesis =>
    have inRest : ∀ other ∈ rest, ∀ mode ∈ other.modes, 0 ≤ mode.size.width :=
      fun other member => notNegative other (List.mem_cons_of_mem _ member)
    have later := inductionHypothesis inRest (advance maxX output)
    rw [applyFrom]
    by_cases used : (configure maxX output).used = true
    · rw [List.filter_cons_of_pos used]
      refine .cons (fun other member => ?_) later
      obtain ⟨isLater, otherUsed⟩ := List.mem_filter.mp member
      refine overlaps_eq_false_of_right_le ?_
      rw [(extents_configure used).2]
      exact le_left_of_mem rest inRest _ other isLater otherUsed
    · rw [List.filter_cons_of_neg used]
      exact later

end SideBySideDisplayConfigurationPolicy

/-! ### Clones -/

namespace CloneDisplayConfigurationPolicy

theorem unusable_iff {output : DisplayConfigurationOutput} :
    (!output.connected || output.modes.isEmpty) = true ↔
      ¬(output.connected = true ∧ output.modes ≠ []) := by
  rw [Bool.or_eq_true, Bool.not_eq_true', List.isEmpty_iff, not_and_or, not_not,
    Bool.not_eq_true]

theorem configured (output : DisplayConfigurationOutput) :
    Configured output (configure output) := by
  unfold configure
  split_ifs with unusable
  · exact ⟨rfl, rfl, rfl, iff_of_false Bool.false_ne_true (unusable_iff.mp unusable),
      fun used => (Bool.false_ne_true used).elim, fun used => (Bool.false_ne_true used).elim,
      fun used => (Bool.false_ne_true used).elim⟩
  · have usable := not_not.mp (unusable_iff.not.mp unusable)
    exact ⟨rfl, rfl, rfl, iff_of_true rfl usable, fun _ => rfl, fun _ => rfl,
      fun _ => selectModeIndex_lt _ usable.2⟩

theorem allConfigured (conf : List DisplayConfigurationOutput) :
    AllConfigured conf (applyTo conf) :=
  List.forall₂_map_right_iff.mpr (List.forall₂_same.mpr fun output _ => configured output)

theorem topLeft_configure {output : DisplayConfigurationOutput}
    (used : (configure output).used = true) : (configure output).topLeft = ⟨0, 0⟩ := by
  have usable : ¬(!output.connected || output.modes.isEmpty) = true :=
    unusable_iff.not.mpr (not_not.mpr ((configured output).used.mp used))
  rw [configure, if_neg usable]

end CloneDisplayConfigurationPolicy

/-- Whether an output is used and its area is not empty. -/
def DisplayConfigurationOutput.shows (output : DisplayConfigurationOutput) : Bool :=
  output.used && decide (0 < output.extents.size.width) && decide (0 < output.extents.size.height)

namespace CloneDisplayConfigurationPolicy

/-- All clones have the pixel at the origin. -/
theorem joined_of_shows {conf : List DisplayConfigurationOutput}
    {first second : DisplayConfigurationOutput} (isFirst : first ∈ applyTo conf)
    (isSecond : second ∈ applyTo conf) (firstShows : first.shows = true)
    (secondShows : second.shows = true) :
    OverlappingOutputGrouping.Joined first.layout second.layout := by
  have corner {output : DisplayConfigurationOutput} (member : output ∈ applyTo conf)
      (shows : output.shows = true) :
      output.layout.orientation = .normal ∧
        ∃ size : Size, output.extents = ⟨⟨0, 0⟩, size⟩ ∧ 0 < size.width ∧ 0 < size.height := by
    obtain ⟨before, -, rfl⟩ := List.mem_map.mp member
    unfold DisplayConfigurationOutput.shows at shows
    simp only [Bool.and_eq_true, decide_eq_true_eq] at shows
    obtain ⟨⟨used, wide⟩, high⟩ := shows
    obtain ⟨mode, -, -, extents⟩ := (configured before).extents_eq used
    rw [topLeft_configure used] at extents
    rw [extents] at wide high
    exact ⟨(configured before).upright used, mode.size, extents, wide, high⟩
  obtain ⟨firstUpright, firstSize, firstExtents, firstWide, firstHigh⟩ :=
    corner isFirst firstShows
  obtain ⟨secondUpright, secondSize, secondExtents, secondWide, secondHigh⟩ :=
    corner isSecond secondShows
  have overlap : first.extents.overlaps second.extents = true := by
    rw [firstExtents, secondExtents]
    simp only [Rectangle.overlaps, Bool.not_eq_true', Bool.or_eq_false_iff,
      decide_eq_false_iff_not]
    simp only [Rectangle.left, Rectangle.right, Rectangle.top, Rectangle.bottom,
      Rectangle.bottomRight]
    omega
  unfold OverlappingOutputGrouping.Joined Graphics.DisplayConfigurationOutput.groupsWith
  rw [firstUpright, secondUpright, Bool.and_eq_true]
  exact ⟨overlap, rfl⟩

end CloneDisplayConfigurationPolicy

/-! ### How the outputs are grouped -/

/-- The groups of the outputs of a configuration. -/
def groupsOf (walk : Walk) (outputs : List DisplayConfigurationOutput) :
    List OverlappingOutputGroup :=
  OverlappingOutputGrouping.ofConfiguration walk (outputs.map DisplayConfigurationOutput.layout)

/-- Outputs that were set side by side do not overlap, and each is a group of its own. -/
theorem sideBySide_groups (walk : Walk) {conf : List DisplayConfigurationOutput}
    (notNegative : ∀ output ∈ conf, ∀ mode ∈ output.modes, 0 ≤ mode.size.width) :
    groupsOf walk (SideBySideDisplayConfigurationPolicy.applyTo conf) =
      ((SideBySideDisplayConfigurationPolicy.applyTo conf).filter
        DisplayConfigurationOutput.used).map fun output => [output.layout] := by
  have active := (SideBySideDisplayConfigurationPolicy.allConfigured 0 conf).filter_active
  have apart := SideBySideDisplayConfigurationPolicy.pairwise_apart conf notNegative 0
  unfold groupsOf SideBySideDisplayConfigurationPolicy.applyTo
  rw [OverlappingOutputGrouping.ofConfiguration_eq_singletons, active, List.map_map]
  · rfl
  · rw [active]
    refine List.pairwise_map.mpr (apart.imp fun {first second} apart => ?_)
    have alone : first.layout.extents.overlaps second.layout.extents = false := apart
    rw [Graphics.DisplayConfigurationOutput.groupsWith, alone, Bool.false_and]

/-- Clones that are not empty are in one group. -/
theorem clones_group {walk : Walk} (walks : ∀ outputs, (walk outputs).Perm outputs)
    {conf : List DisplayConfigurationOutput}
    (distinct : (conf.map DisplayConfigurationOutput.id).Nodup)
    {first : DisplayConfigurationOutput}
    (isFirst : first ∈ CloneDisplayConfigurationPolicy.applyTo conf)
    (firstShows : first.shows = true) :
    ∃ group ∈ groupsOf walk (CloneDisplayConfigurationPolicy.applyTo conf),
      ∀ second ∈ CloneDisplayConfigurationPolicy.applyTo conf, second.shows = true →
        second.layout ∈ group := by
  have configured := CloneDisplayConfigurationPolicy.allConfigured conf
  have ids : (((CloneDisplayConfigurationPolicy.applyTo conf).map
      DisplayConfigurationOutput.layout).map Graphics.DisplayConfigurationOutput.id).Nodup := by
    rw [List.map_map]
    exact configured.ids_eq ▸ distinct
  have partitions := OverlappingOutputGrouping.ofConfiguration_partitions walks _ ids
  rw [configured.filter_active] at partitions
  have isGrouped {output : DisplayConfigurationOutput}
      (member : output ∈ CloneDisplayConfigurationPolicy.applyTo conf)
      (shows : output.shows = true) :
      output.layout ∈ ((CloneDisplayConfigurationPolicy.applyTo conf).filter
        DisplayConfigurationOutput.used).map DisplayConfigurationOutput.layout := by
    unfold DisplayConfigurationOutput.shows at shows
    rw [Bool.and_assoc, Bool.and_eq_true] at shows
    exact List.mem_map_of_mem (List.mem_filter.mpr ⟨member, shows.1⟩)
  obtain ⟨group, isGroup, inGroup⟩ :=
    (partitions.covers first.layout).mp (isGrouped isFirst firstShows)
  refine ⟨group, isGroup, fun second isSecond secondShows => ?_⟩
  exact partitions.closed group isGroup _ inGroup _ (isGrouped isSecond secondShows)
    (CloneDisplayConfigurationPolicy.joined_of_shows isFirst isSecond firstShows secondShows)

/-- What the two policies make of a configuration. -/
theorem policies_group_outputs (walk : Walk) (walks : ∀ outputs, (walk outputs).Perm outputs)
    (conf : List DisplayConfigurationOutput)
    (distinct : (conf.map DisplayConfigurationOutput.id).Nodup)
    (notNegative : ∀ output ∈ conf, ∀ mode ∈ output.modes,
      0 ≤ mode.size.width ∧ 0 ≤ mode.size.height) :
    let sideBySide := SideBySideDisplayConfigurationPolicy.applyTo conf
    let clones := CloneDisplayConfigurationPolicy.applyTo conf
    (AllConfigured conf sideBySide ∧
      (sideBySide.filter DisplayConfigurationOutput.used).Pairwise
        (fun first second => first.extents.overlaps second.extents = false) ∧
      groupsOf walk sideBySide =
        (sideBySide.filter DisplayConfigurationOutput.used).map fun output => [output.layout]) ∧
    AllConfigured conf clones ∧
      ∀ first ∈ clones, first.shows = true → ∃ group ∈ groupsOf walk clones,
        ∀ second ∈ clones, second.shows = true → second.layout ∈ group := by
  have wide : ∀ output ∈ conf, ∀ mode ∈ output.modes, 0 ≤ mode.size.width :=
    fun output member mode isMode => (notNegative output member mode isMode).1
  exact ⟨⟨SideBySideDisplayConfigurationPolicy.allConfigured 0 conf,
      SideBySideDisplayConfigurationPolicy.pairwise_apart conf wide 0,
      sideBySide_groups walk wide⟩,
    CloneDisplayConfigurationPolicy.allConfigured conf,
    fun _ isFirst firstShows => clones_group walks distinct isFirst firstShows⟩

/-- An output with one mode that is narrower than its height. -/
private def tallOutput (id : OutputID) : DisplayConfigurationOutput where
  id := id
  cardID := 0
  type := 0
  pixelFormats := [.argb8888, .xrgb8888]
  modes := [⟨⟨60, 80⟩, 6000⟩]
  preferredModeIndex := 3
  physicalSizeMM := ⟨0, 0⟩
  connected := true
  used := false
  topLeft := ⟨0, 0⟩
  currentModeIndex := 0
  currentFormat := .argb8888
  powerMode := .off
  orientation := .left
  scale := 1
  formFactor := .monitor
  subpixelArrangement := .unknown
  gamma := .empty
  gammaSupported := false
  edid := []

theorem policies_group_outputs_of_two :
    (groupsOf List.reverse
        (SideBySideDisplayConfigurationPolicy.applyTo [tallOutput 1, tallOutput 2])).length = 2 ∧
      ∃ group ∈ groupsOf List.reverse
          (CloneDisplayConfigurationPolicy.applyTo [tallOutput 1, tallOutput 2]),
        ∀ second ∈ CloneDisplayConfigurationPolicy.applyTo [tallOutput 1, tallOutput 2],
          second.shows = true → second.layout ∈ group := by
  have policies := policies_group_outputs List.reverse List.reverse_perm
    [tallOutput 1, tallOutput 2] (by decide) (by decide)
  refine ⟨?_, policies.2.2 (CloneDisplayConfigurationPolicy.configure (tallOutput 1))
    List.mem_cons_self (by decide)⟩
  rw [policies.1.2.2]
  rfl

end Mir.Graphics.KMS

/-
This file embeds the display configuration of the mesa platform and how it is updated from what the
kernel says of its connectors. It proves when an update reads no mode that is not there.

The index of the current mode outlives a disconnection and the list of modes does not. An update
compares the index with the length of the new list, and then reads the old one.
-/

import Mathlib.Algebra.Order.Field.Rat
import Mir.Graphics.OutputGrouping
import Mir.Library.Transition

namespace Mir.Graphics.KMS

open Mir.Geometry

/-! ### What the kernel says -/

/-- A mode of a connector, as far as it is looked at. Of its type that is one bit. -/
structure ModeInfo where
  clock : Nat
  hdisplay : Nat
  hsyncStart : Nat
  hsyncEnd : Nat
  htotal : Nat
  hskew : Nat
  vdisplay : Nat
  vsyncStart : Nat
  vsyncEnd : Nat
  vtotal : Nat
  isPreferred : Bool
  deriving DecidableEq, Repr

/-- A mode with all fields zero. -/
def ModeInfo.zero : ModeInfo := ⟨0, 0, 0, 0, 0, 0, 0, 0, 0, 0, false⟩

def kmsModesAreEqual (info1 info2 : ModeInfo) : Bool :=
  info1.clock = info2.clock ∧ info1.hdisplay = info2.hdisplay ∧
    info1.hsyncStart = info2.hsyncStart ∧ info1.hsyncEnd = info2.hsyncEnd ∧
    info1.htotal = info2.htotal ∧ info1.hskew = info2.hskew ∧
    info1.vdisplay = info2.vdisplay ∧ info1.vsyncStart = info2.vsyncStart ∧
    info1.vsyncEnd = info2.vsyncEnd ∧ info1.vtotal = info2.vtotal

structure Crtc where
  mode : ModeInfo
  gammaSize : Nat
  deriving DecidableEq, Repr

inductive SubpixelArrangement
  | unknown
  | horizontalRGB
  | horizontalBGR
  | verticalRGB
  | verticalBGR
  | none
  deriving DecidableEq, Repr

/-- A connector with the CRTC of its encoder, if it has one. The number of modes is an `int`. -/
structure Connector where
  connectorID : OutputID
  connectorType : Nat
  mmWidth : Nat
  mmHeight : Nat
  connected : Bool
  subpixel : SubpixelArrangement
  crtc : Option Crtc
  modes : List ModeInfo
  edid : List UInt8
  countModes : modes.length < 2 ^ 31
  deriving DecidableEq, Repr

/-- The ids of connectors differ. -/
structure DRMModeResources where
  numCrtcs : Nat
  connectors : List Connector
  nodup : (connectors.map Connector.connectorID).Nodup

/-! ### The configuration -/

/-- The refresh rate is in hundredths of a hertz. -/
structure DisplayConfigurationMode where
  size : Size
  vrefresh : Nat
  deriving DecidableEq, Repr

inductive PixelFormat
  | invalid
  | abgr8888
  | xbgr8888
  | argb8888
  | xrgb8888
  | bgr888
  | rgb888
  | rgb565
  | rgba5551
  | rgba4444
  deriving DecidableEq, Repr

inductive FormFactor
  | unknown
  | phone
  | tablet
  | monitor
  | tv
  | projector
  deriving DecidableEq, Repr

structure GammaCurves where
  red : List (BitVec 16)
  green : List (BitVec 16)
  blue : List (BitVec 16)
  deriving DecidableEq, Repr

def GammaCurves.empty : GammaCurves := ⟨[], [], []⟩

structure DisplayConfigurationOutput where
  id : OutputID
  cardID : Nat
  type : Nat
  pixelFormats : List PixelFormat
  modes : List DisplayConfigurationMode
  preferredModeIndex : Nat
  physicalSizeMM : Size
  connected : Bool
  used : Bool
  topLeft : Point
  currentModeIndex : Nat
  currentFormat : PixelFormat
  powerMode : PowerMode
  orientation : Orientation
  scale : ℚ
  formFactor : FormFactor
  subpixelArrangement : SubpixelArrangement
  gamma : GammaCurves
  gammaSupported : Bool
  edid : List UInt8
  deriving DecidableEq

structure DisplayConfigurationCard where
  id : Nat
  maxSimultaneousOutputs : Nat
  deriving DecidableEq, Repr

structure RealKMSDisplayConfiguration where
  drmFd : Int
  card : DisplayConfigurationCard
  outputs : List DisplayConfigurationOutput
  deriving DecidableEq

/-! ### The update -/

/-- The value of an index that is none. -/
def invalidModeIndex : Nat := 2 ^ 32 - 1

def calculateVrefreshHz (mode : ModeInfo) : Nat :=
  if mode.htotal = 0 ∨ mode.vtotal = 0 then 0
  else mode.clock * 100000 / (mode.htotal * mode.vtotal)

inductive UpdateError
  | outOfBounds
  | logicError (what : String)
  deriving DecidableEq, Repr

/-- The curves of a table, which has two entries or more. -/
def linearGammaLUTs (size : Nat) : Except UpdateError GammaCurves :=
  if size < 2 then .error (.logicError "gamma LUT size is too small")
  else
    let ramp := (List.range size).map fun index =>
      BitVec.ofNat 16 (index * (65535 / (size - 1)))
    .ok ⟨ramp, ramp, ramp⟩

/-- What the loop over the modes finds. -/
structure ModeScan where
  modes : List DisplayConfigurationMode
  currentModeIndex : Nat
  preferredModeIndex : Nat
  deriving DecidableEq, Repr

/-- One turn of the loop. Its index is the number of modes before. -/
def scanMode (currentModeInfo : ModeInfo) (scan : ModeScan) (modeInfo : ModeInfo) : ModeScan where
  modes := scan.modes ++
    [⟨⟨modeInfo.hdisplay, modeInfo.vdisplay⟩, calculateVrefreshHz modeInfo⟩]
  currentModeIndex :=
    if kmsModesAreEqual modeInfo currentModeInfo = true then scan.modes.length
    else scan.currentModeIndex
  preferredModeIndex :=
    if modeInfo.isPreferred = true then scan.modes.length else scan.preferredModeIndex

namespace Connector

/-- The mode of the CRTC, or zeros. -/
def currentModeInfo (connector : Connector) : ModeInfo :=
  (connector.crtc.map Crtc.mode).getD .zero

def gamma (connector : Connector) : Except UpdateError GammaCurves :=
  match connector.crtc with
  | none => .ok .empty
  | some crtc => if crtc.gammaSize > 0 then linearGammaLUTs crtc.gammaSize else .ok .empty

def scan (connector : Connector) : ModeScan :=
  connector.modes.foldl (scanMode connector.currentModeInfo)
    ⟨[], invalidModeIndex, invalidModeIndex⟩

/-- Only a connected output is asked for its EDID. -/
def readEDID (connector : Connector) : List UInt8 :=
  if connector.connected = true then connector.edid else []

end Connector

def newOutput (connector : Connector) (gamma : GammaCurves) : DisplayConfigurationOutput where
  id := connector.connectorID
  cardID := 0
  type := connector.connectorType
  pixelFormats := [.argb8888, .xrgb8888]
  modes := connector.scan.modes
  preferredModeIndex := connector.scan.preferredModeIndex
  physicalSizeMM := ⟨connector.mmWidth, connector.mmHeight⟩
  connected := connector.connected
  used := false
  topLeft := ⟨0, 0⟩
  currentModeIndex := connector.scan.currentModeIndex
  currentFormat := .xrgb8888
  powerMode := .on
  orientation := .normal
  scale := 1
  formFactor := .monitor
  subpixelArrangement := connector.subpixel
  gamma := gamma
  gammaSupported := true
  edid := connector.readEDID

/-- The index of the current mode. The old modes are read at an index within the new ones. -/
def updatedModeIndex (output : DisplayConfigurationOutput) (scan : ModeScan) :
    Except UpdateError Nat :=
  if scan.currentModeIndex ≠ invalidModeIndex then .ok scan.currentModeIndex
  else if scan.modes = [] then .ok output.currentModeIndex
  else if output.currentModeIndex ≥ scan.modes.length then .ok scan.preferredModeIndex
  else
    match output.modes[output.currentModeIndex]? with
    | none => .error .outOfBounds
    | some old =>
      if scan.modes[output.currentModeIndex]? ≠ some old then .ok scan.preferredModeIndex
      else .ok output.currentModeIndex

def updateOutput (output : DisplayConfigurationOutput) (connector : Connector)
    (gamma : GammaCurves) : Except UpdateError DisplayConfigurationOutput := do
  let currentModeIndex ← updatedModeIndex output connector.scan
  return { output with
    currentModeIndex := currentModeIndex
    modes := connector.scan.modes
    preferredModeIndex := connector.scan.preferredModeIndex
    physicalSizeMM := ⟨connector.mmWidth, connector.mmHeight⟩
    connected := connector.connected
    currentFormat := .xrgb8888
    subpixelArrangement := connector.subpixel
    gamma := gamma
    edid := connector.readEDID }

/-- The first output with the id of the connector is updated, or one is added at the end. -/
def addOrUpdate (connector : Connector) (gamma : GammaCurves) :
    List DisplayConfigurationOutput → Except UpdateError (List DisplayConfigurationOutput)
  | [] => .ok [newOutput connector gamma]
  | output :: rest =>
    if output.id = connector.connectorID then do
      let updated ← updateOutput output connector gamma
      return updated :: rest
    else do
      let others ← addOrUpdate connector gamma rest
      return output :: others

def addOrUpdateOutput (outputs : List DisplayConfigurationOutput) (connector : Connector) :
    Except UpdateError (List DisplayConfigurationOutput) := do
  let gamma ← connector.gamma
  addOrUpdate connector gamma outputs

/-- The connectors one after another, up to one that throws. -/
def updateOutputs (outputs : List DisplayConfigurationOutput) :
    List Connector → List DisplayConfigurationOutput × Option UpdateError
  | [] => (outputs, none)
  | connector :: rest =>
    match addOrUpdateOutput outputs connector with
    | .error error => (outputs, some error)
    | .ok after => updateOutputs after rest

def RealKMSDisplayConfiguration.update (configuration : RealKMSDisplayConfiguration)
    (resources : DRMModeResources) : RealKMSDisplayConfiguration × Option UpdateError :=
  let updated := updateOutputs configuration.outputs resources.connectors
  ({ configuration with
      card := ⟨0, min resources.numCrtcs resources.connectors.length⟩
      outputs := updated.1 }, updated.2)

/-! ### What the loop over the modes finds -/

namespace Connector

def hasCurrentMode (connector : Connector) : Bool :=
  connector.modes.any fun modeInfo => kmsModesAreEqual modeInfo connector.currentModeInfo

def hasPreferredMode (connector : Connector) : Bool := connector.modes.any ModeInfo.isPreferred

/-- The table of the CRTC has one entry, and the update throws. -/
def refusesGamma (connector : Connector) : Bool :=
  connector.crtc.any fun crtc => decide (crtc.gammaSize = 1)

theorem scan_foldl (currentModeInfo : ModeInfo) (modes : List ModeInfo) :
    let scan := modes.foldl (scanMode currentModeInfo) ⟨[], invalidModeIndex, invalidModeIndex⟩
    scan.modes.length = modes.length ∧
      ((modes.any fun modeInfo => kmsModesAreEqual modeInfo currentModeInfo) = true →
        scan.currentModeIndex < modes.length) ∧
      ((modes.any fun modeInfo => kmsModesAreEqual modeInfo currentModeInfo) = false →
        scan.currentModeIndex = invalidModeIndex) ∧
      (modes.any ModeInfo.isPreferred = true → scan.preferredModeIndex < modes.length) ∧
      (modes.any ModeInfo.isPreferred = false → scan.preferredModeIndex = invalidModeIndex) := by
  induction modes using List.reverseRecOn with
  | nil => exact ⟨rfl, nofun, fun _ => rfl, nofun, fun _ => rfl⟩
  | append_singleton modes modeInfo inductionHypothesis =>
    obtain ⟨length, current, noCurrent, preferred, noPreferred⟩ := inductionHypothesis
    rw [List.foldl_append, List.foldl_cons, List.foldl_nil]
    simp only [List.any_append, List.any_cons, List.any_nil, Bool.or_false, List.length_append,
      List.length_singleton, scanMode, length, Bool.or_eq_true, Bool.or_eq_false_iff]
    refine ⟨trivial, ?_, ?_, ?_, ?_⟩
    · intro either
      split_ifs with isCurrent
      · exact Nat.lt_succ_self _
      · exact Nat.lt_succ_of_lt (current (either.resolve_right isCurrent))
    · rintro ⟨none, isNot⟩
      rw [if_neg (Bool.eq_false_iff.mp isNot), noCurrent none]
    · intro either
      split_ifs with isPreferred
      · exact Nat.lt_succ_self _
      · exact Nat.lt_succ_of_lt (preferred (either.resolve_right isPreferred))
    · rintro ⟨none, isNot⟩
      rw [if_neg (Bool.eq_false_iff.mp isNot), noPreferred none]

variable {connector : Connector}

theorem length_scan : connector.scan.modes.length = connector.modes.length :=
  (scan_foldl connector.currentModeInfo connector.modes).1

theorem scan_currentModeIndex (has : connector.hasCurrentMode = true) :
    connector.scan.currentModeIndex < connector.modes.length :=
  (scan_foldl connector.currentModeInfo connector.modes).2.1 has

theorem scan_noCurrentModeIndex (hasNot : connector.hasCurrentMode = false) :
    connector.scan.currentModeIndex = invalidModeIndex :=
  (scan_foldl connector.currentModeInfo connector.modes).2.2.1 hasNot

theorem scan_preferredModeIndex (has : connector.hasPreferredMode = true) :
    connector.scan.preferredModeIndex < connector.modes.length :=
  (scan_foldl connector.currentModeInfo connector.modes).2.2.2.1 has

theorem scan_noPreferredModeIndex (hasNot : connector.hasPreferredMode = false) :
    connector.scan.preferredModeIndex = invalidModeIndex :=
  (scan_foldl connector.currentModeInfo connector.modes).2.2.2.2 hasNot

theorem ne_invalidModeIndex {index : Nat} (within : index < connector.modes.length) :
    index ≠ invalidModeIndex := by
  have few := connector.countModes
  unfold invalidModeIndex
  omega

theorem gamma_eq (connector : Connector) :
    (connector.refusesGamma = true ∧
      connector.gamma = .error (.logicError "gamma LUT size is too small")) ∨
    connector.refusesGamma = false ∧ ∃ gamma, connector.gamma = .ok gamma := by
  unfold refusesGamma Connector.gamma
  rcases connector.crtc with - | crtc
  · exact .inr ⟨rfl, _, rfl⟩
  · show (decide (crtc.gammaSize = 1) = true ∧ _) ∨ decide (crtc.gammaSize = 1) = false ∧ _
    rw [decide_eq_true_eq, decide_eq_false_iff_not]
    unfold linearGammaLUTs
    dsimp only
    split_ifs with larger few
    · exact .inl ⟨by omega, rfl⟩
    · exact .inr ⟨by omega, _, rfl⟩
    · exact .inr ⟨by omega, _, rfl⟩

end Connector

/-! ### When an update is sound -/

/-- The current mode is one of the modes, or there is none, nor a preferred one. A current mode that
the kernel has is always taken. -/
def Sound (output : DisplayConfigurationOutput) : Prop :=
  output.modes ≠ [] → output.currentModeIndex < output.modes.length ∨
    output.currentModeIndex = invalidModeIndex ∧ output.preferredModeIndex = invalidModeIndex

/-- A connector without a current mode is a new one that prefers none, or an output whose index is
not within the new modes, or was within the old ones. -/
def Fits (outputs : List DisplayConfigurationOutput) (connector : Connector) : Prop :=
  connector.hasCurrentMode = true ∨
    match outputs.find? fun output => output.id = connector.connectorID with
    | none => connector.hasPreferredMode = false
    | some output =>
      connector.modes.length ≤ output.currentModeIndex ∨
        output.currentModeIndex < output.modes.length

section Update

variable {connector : Connector} {gamma : GammaCurves} {output : DisplayConfigurationOutput}

theorem modes_ne_nil_of_lt {index : Nat} (within : index < connector.modes.length) :
    connector.scan.modes ≠ [] := by
  refine List.ne_nil_of_length_pos ?_
  rw [Connector.length_scan]
  exact Nat.zero_lt_of_lt within

/-- The preferred mode is taken, or there is none. -/
theorem preferred_or_invalid (connector : Connector) :
    connector.scan.preferredModeIndex < connector.scan.modes.length ∨
      connector.scan.preferredModeIndex = invalidModeIndex := by
  rw [Connector.length_scan]
  cases has : connector.hasPreferredMode with
  | true => exact .inl (Connector.scan_preferredModeIndex has)
  | false => exact .inr (Connector.scan_noPreferredModeIndex has)

theorem sound_newOutput_iff :
    Sound (newOutput connector gamma) ↔
      connector.hasCurrentMode = true ∨ connector.hasPreferredMode = false := by
  cases hasCurrent : connector.hasCurrentMode with
  | true =>
    refine iff_of_true (fun _ => .inl ?_) (.inl rfl)
    show connector.scan.currentModeIndex < connector.scan.modes.length
    rw [Connector.length_scan]
    exact Connector.scan_currentModeIndex hasCurrent
  | false =>
    have invalid := Connector.scan_noCurrentModeIndex hasCurrent
    cases hasPreferred : connector.hasPreferredMode with
    | true =>
      have within := Connector.scan_preferredModeIndex hasPreferred
      refine iff_of_false (fun sound => ?_) (by nofun)
      rcases sound (modes_ne_nil_of_lt within) with known | ⟨-, noPreferred⟩
      · have known : connector.scan.currentModeIndex < connector.scan.modes.length := known
        rw [Connector.length_scan] at known
        exact Connector.ne_invalidModeIndex known invalid
      · exact Connector.ne_invalidModeIndex within noPreferred
    | false =>
      refine iff_of_true (fun _ => .inr ⟨invalid, ?_⟩) (.inr rfl)
      exact Connector.scan_noPreferredModeIndex hasPreferred

/-- The index of the current mode when it may be kept. -/
theorem updatedModeIndex_ok (fits : connector.hasCurrentMode = true ∨
      connector.modes.length ≤ output.currentModeIndex ∨
      output.currentModeIndex < output.modes.length) :
    ∃ index, updatedModeIndex output connector.scan = .ok index ∧
      (connector.scan.modes ≠ [] → index < connector.scan.modes.length ∨
        index = invalidModeIndex ∧ connector.scan.preferredModeIndex = invalidModeIndex) := by
  have preferred := preferred_or_invalid connector
  unfold updatedModeIndex
  cases hasCurrent : connector.hasCurrentMode with
  | true =>
    have within := Connector.scan_currentModeIndex hasCurrent
    rw [if_pos (Connector.ne_invalidModeIndex within)]
    refine ⟨_, rfl, fun _ => .inl ?_⟩
    rwa [Connector.length_scan]
  | false =>
    rw [if_neg (not_not.mpr (Connector.scan_noCurrentModeIndex hasCurrent))]
    by_cases empty : connector.scan.modes = []
    · rw [if_pos empty]
      exact ⟨_, rfl, fun some_ => absurd empty some_⟩
    · rw [if_neg empty]
      by_cases beyond : output.currentModeIndex ≥ connector.scan.modes.length
      · rw [if_pos beyond]
        exact ⟨_, rfl, fun _ => preferred.imp id fun invalid => ⟨invalid, invalid⟩⟩
      · rw [if_neg beyond]
        rw [Connector.length_scan] at beyond
        have old : output.currentModeIndex < output.modes.length := by
          rw [hasCurrent] at fits
          exact (fits.resolve_left nofun).resolve_left beyond
        rw [List.getElem?_eq_getElem old]
        dsimp only
        split_ifs with changed
        · exact ⟨_, rfl, fun _ => preferred.imp id fun invalid => ⟨invalid, invalid⟩⟩
        · refine ⟨_, rfl, fun _ => .inl ?_⟩
          rw [Connector.length_scan]
          exact Nat.lt_of_not_le beyond

theorem updatedModeIndex_error (noCurrent : connector.hasCurrentMode = false)
    (within : output.currentModeIndex < connector.modes.length)
    (beyond : output.modes.length ≤ output.currentModeIndex) :
    updatedModeIndex output connector.scan = .error .outOfBounds := by
  unfold updatedModeIndex
  rw [if_neg (not_not.mpr (Connector.scan_noCurrentModeIndex noCurrent)),
    if_neg (modes_ne_nil_of_lt within), Connector.length_scan, if_neg (Nat.not_le.mpr within),
    List.getElem?_eq_none beyond]

/-- A fitting connector is taken, and leaves the other outputs as they are. -/
theorem addOrUpdate_ok {outputs : List DisplayConfigurationOutput}
    (sound : ∀ output ∈ outputs, Sound output) (fits : Fits outputs connector) :
    ∃ after, addOrUpdate connector gamma outputs = .ok after ∧ (∀ output ∈ after, Sound output) ∧
      ∀ id, id ≠ connector.connectorID → (after.find? fun output => output.id = id) =
        outputs.find? fun output => output.id = id := by
  induction outputs with
  | nil =>
    refine ⟨[newOutput connector gamma], rfl, ?_, fun id other => ?_⟩
    · exact List.forall_mem_singleton.mpr (sound_newOutput_iff.mpr fits)
    · have differs : ¬ (newOutput connector gamma).id = id := Ne.symm other
      rw [List.find?_cons_of_neg (by simpa using differs)]
  | cons output rest inductionHypothesis =>
    obtain ⟨first, later⟩ := List.forall_mem_cons.mp sound
    unfold addOrUpdate
    by_cases same : output.id = connector.connectorID
    · rw [if_pos same]
      unfold Fits at fits
      rw [List.find?_cons_of_pos (by simpa using same)] at fits
      obtain ⟨index, taken, isSound⟩ := updatedModeIndex_ok fits
      unfold updateOutput
      rw [taken]
      refine ⟨_, rfl, List.forall_mem_cons.mpr ⟨isSound, later⟩, fun id other => ?_⟩
      have differs : ¬ output.id = id := fun isID => other (isID.symm.trans same)
      rw [List.find?_cons_of_neg (by simpa using differs),
        List.find?_cons_of_neg (by simpa using differs)]
    · rw [if_neg same]
      have fitsRest : Fits rest connector := by
        unfold Fits at fits
        rwa [List.find?_cons_of_neg (by simpa using same)] at fits
      obtain ⟨after, taken, isSound, others⟩ := inductionHypothesis later fitsRest
      rw [taken]
      refine ⟨output :: after, rfl, List.forall_mem_cons.mpr ⟨first, isSound⟩, fun id other => ?_⟩
      rw [List.find?_cons, List.find?_cons, others id other]

/-- A connector that does not fit reads outside the modes, or leaves an unsound output. -/
theorem addOrUpdate_unfit {outputs : List DisplayConfigurationOutput}
    (unfit : ¬ Fits outputs connector) :
    addOrUpdate connector gamma outputs = .error .outOfBounds ∨
      ∃ after, addOrUpdate connector gamma outputs = .ok after ∧
        ∃ output ∈ after, output.id = connector.connectorID ∧ ¬ Sound output := by
  induction outputs with
  | nil =>
    refine .inr ⟨[newOutput connector gamma], rfl, _, List.mem_singleton_self _, rfl, ?_⟩
    exact fun sound => unfit (sound_newOutput_iff.mp sound)
  | cons output rest inductionHypothesis =>
    unfold addOrUpdate
    by_cases same : output.id = connector.connectorID
    · rw [if_pos same]
      unfold Fits at unfit
      rw [List.find?_cons_of_pos (by simpa using same)] at unfit
      obtain ⟨noCurrent, outside⟩ := not_or.mp unfit
      obtain ⟨within, beyond⟩ := not_or.mp outside
      refine .inl ?_
      unfold updateOutput
      rw [updatedModeIndex_error (Bool.eq_false_iff.mpr noCurrent) (Nat.lt_of_not_le within)
        (Nat.le_of_not_lt beyond)]
      rfl
    · rw [if_neg same]
      have unfitRest : ¬ Fits rest connector := by
        unfold Fits at unfit ⊢
        rwa [List.find?_cons_of_neg (by simpa using same)] at unfit
      rcases inductionHypothesis unfitRest with error | ⟨after, taken, unsound⟩
      · rw [error]
        exact .inl rfl
      · rw [taken]
        obtain ⟨other, member, isID, notSound⟩ := unsound
        exact .inr ⟨_, rfl, other, List.mem_cons_of_mem _ member, isID, notSound⟩

end Update

/-! ### Runs of updates -/

section Runs

variable {outputs : List DisplayConfigurationOutput}

/-- The connectors that an update comes to, up to one whose table it refuses. -/
def reached (connectors : List Connector) : List Connector :=
  connectors.takeWhile fun connector => !connector.refusesGamma

theorem addOrUpdate_keeps {connector : Connector} {gamma : GammaCurves}
    {after : List DisplayConfigurationOutput}
    (taken : addOrUpdate connector gamma outputs = .ok after)
    {output : DisplayConfigurationOutput} (member : output ∈ outputs)
    (other : output.id ≠ connector.connectorID) : output ∈ after := by
  induction outputs generalizing after with
  | nil => cases member
  | cons first rest inductionHypothesis =>
    unfold addOrUpdate at taken
    by_cases same : first.id = connector.connectorID
    · rw [if_pos same] at taken
      have inRest : output ∈ rest :=
        (List.mem_cons.mp member).resolve_left fun isFirst => other (isFirst ▸ same)
      cases updated : updateOutput first connector gamma with
      | error error =>
        rw [updated] at taken
        cases taken
      | ok new =>
        rw [updated] at taken
        cases taken
        exact List.mem_cons_of_mem _ inRest
    · rw [if_neg same] at taken
      cases updated : addOrUpdate connector gamma rest with
      | error error =>
        rw [updated] at taken
        cases taken
      | ok others =>
        rw [updated] at taken
        cases taken
        rcases List.mem_cons.mp member with rfl | inRest
        · exact List.mem_cons_self
        · exact List.mem_cons_of_mem _ (inductionHypothesis updated inRest)

/-- An output of none of the connectors is left as it is. -/
theorem updateOutputs_keeps {connectors : List Connector} {output : DisplayConfigurationOutput}
    (member : output ∈ outputs) (others : output.id ∉ connectors.map Connector.connectorID) :
    output ∈ (updateOutputs outputs connectors).1 := by
  induction connectors generalizing outputs with
  | nil => exact member
  | cons connector rest inductionHypothesis =>
    obtain ⟨other, later⟩ := not_or.mp (mt List.mem_cons.mpr others)
    unfold updateOutputs
    cases taken : addOrUpdateOutput outputs connector with
    | error error => exact member
    | ok after =>
      refine inductionHypothesis ?_ later
      unfold addOrUpdateOutput at taken
      cases known : connector.gamma with
      | error error =>
        rw [known] at taken
        cases taken
      | ok gamma =>
        rw [known] at taken
        exact addOrUpdate_keeps taken member other

theorem updateOutputs_ok {connector : Connector} {after : List DisplayConfigurationOutput}
    (rest : List Connector) (taken : addOrUpdateOutput outputs connector = .ok after) :
    updateOutputs outputs (connector :: rest) = updateOutputs after rest := by
  rw [updateOutputs, taken]

theorem updateOutputs_error {connector : Connector} {error : UpdateError}
    (rest : List Connector) (thrown : addOrUpdateOutput outputs connector = .error error) :
    updateOutputs outputs (connector :: rest) = (outputs, some error) := by
  rw [updateOutputs, thrown]

theorem addOrUpdateOutput_of_gamma {connector : Connector} {gamma : GammaCurves}
    (known : connector.gamma = .ok gamma) :
    addOrUpdateOutput outputs connector = addOrUpdate connector gamma outputs := by
  rw [addOrUpdateOutput, known]
  rfl

/-- An update of sound outputs is sound exactly if each connector it comes to fits. -/
theorem updateOutputs_sound_iff {connectors : List Connector}
    (sound : ∀ output ∈ outputs, Sound output)
    (nodup : (connectors.map Connector.connectorID).Nodup) :
    ((updateOutputs outputs connectors).2 ≠ some .outOfBounds ∧
      ∀ output ∈ (updateOutputs outputs connectors).1, Sound output) ↔
    ∀ connector ∈ reached connectors, Fits outputs connector := by
  induction connectors generalizing outputs with
  | nil => exact iff_of_true ⟨nofun, sound⟩ nofun
  | cons connector rest inductionHypothesis =>
    obtain ⟨fresh, nodup⟩ := List.nodup_cons.mp nodup
    unfold reached
    rcases connector.gamma_eq with ⟨refuses, error⟩ | ⟨accepts, gamma, known⟩
    · have thrown : addOrUpdateOutput outputs connector =
          .error (.logicError "gamma LUT size is too small") := by
        rw [addOrUpdateOutput, error]
        rfl
      rw [updateOutputs_error rest thrown, List.takeWhile_cons_of_neg (by simp [refuses])]
      exact iff_of_true ⟨nofun, sound⟩ nofun
    · rw [List.takeWhile_cons_of_pos (by simp [accepts]), List.forall_mem_cons]
      by_cases fits : Fits outputs connector
      · obtain ⟨after, taken, isSound, others⟩ := @addOrUpdate_ok connector gamma _ sound fits
        rw [updateOutputs_ok rest ((addOrUpdateOutput_of_gamma known).trans taken),
          and_iff_right fits, inductionHypothesis isSound nodup]
        refine forall₂_congr fun other isReached => ?_
        have differs : other.connectorID ≠ connector.connectorID := fun isSame =>
          fresh (isSame ▸ List.mem_map_of_mem (List.takeWhile_subset _ isReached))
        unfold Fits
        rw [others other.connectorID differs]
      · refine iff_of_false ?_ fun both => fits both.1
        rintro ⟨inBounds, allSound⟩
        rcases @addOrUpdate_unfit connector gamma _ fits with error | ⟨after, taken, unsound⟩
        · rw [updateOutputs_error rest ((addOrUpdateOutput_of_gamma known).trans error)] at inBounds
          exact inBounds rfl
        · obtain ⟨output, member, isID, notSound⟩ := unsound
          rw [updateOutputs_ok rest ((addOrUpdateOutput_of_gamma known).trans taken)] at allSound
          exact notSound (allSound output (updateOutputs_keeps member (isID ▸ fresh)))

/-- A configuration after some updates, and whether one of them read outside the modes. -/
structure Updated where
  configuration : RealKMSDisplayConfiguration
  outOfBounds : Bool
  deriving DecidableEq

namespace Updated

def step (updated : Updated) (resources : DRMModeResources) : Updated where
  configuration := (updated.configuration.update resources).1
  outOfBounds := updated.outOfBounds ||
    decide ((updated.configuration.update resources).2 = some .outOfBounds)

/-- A configuration before its first update, which its constructor makes. -/
def bare (drmFd : Int) : Updated := ⟨⟨drmFd, ⟨0, 0⟩, []⟩, false⟩

def IsSound (updated : Updated) : Prop :=
  updated.outOfBounds = false ∧ ∀ output ∈ updated.configuration.outputs, Sound output

/-- Each connector that the update comes to fits. -/
def AllFit (updated : Updated) (resources : DRMModeResources) : Prop :=
  ∀ connector ∈ reached resources.connectors, Fits updated.configuration.outputs connector

theorem isSound_step_iff {updated : Updated} (sound : updated.IsSound)
    (resources : DRMModeResources) :
    (updated.step resources).IsSound ↔ updated.AllFit resources := by
  refine Iff.trans ?_ (updateOutputs_sound_iff sound.2 resources.nodup)
  refine and_congr_left fun _ => ?_
  show (updated.outOfBounds || decide (_ = some UpdateError.outOfBounds)) = false ↔ _
  rw [sound.1, Bool.false_or, decide_eq_false_iff_not]
  rfl

/-- After every update of a run no mode was read that is not there, and each current mode is one of
the modes or there was none to choose, exactly if in every update each connector fits. -/
theorem updates_sound_iff (drmFd : Int) (updates : List DRMModeResources) :
    (∀ done, done <+: updates → (done.foldl step (bare drmFd)).IsSound) ↔
      Transition.AllowedAlong step AllFit (bare drmFd) updates :=
  @Transition.forall_prefix_iff_allowedAlong _ _ step AllFit IsSound (bare drmFd) updates
    ⟨rfl, fun _ none => nomatch none⟩ fun _ resources _ sound => isSound_step_iff sound resources

/-- A monitor with two modes, of which the second is set or none is. -/
def monitor (crtc : Option Crtc) : DRMModeResources where
  numCrtcs := 1
  connectors := [⟨30, 11, 480, 270, true, .unknown, crtc,
    [{ ModeInfo.zero with hdisplay := 800, vdisplay := 600 },
      { ModeInfo.zero with hdisplay := 640, vdisplay := 480 }], [], by decide⟩]
  nodup := List.nodup_singleton _

def unplugged : DRMModeResources where
  numCrtcs := 1
  connectors := [⟨30, 11, 0, 0, false, .unknown, none, [], [], by decide⟩]
  nodup := List.nodup_singleton _

/-- The monitor is unplugged, and plugged in again without a mode set. -/
theorem replugged_monitor_is_read_out_of_bounds :
    ¬ ∀ (drmFd : Int) (updates : List DRMModeResources),
      (updates.foldl step (bare drmFd)).IsSound := by
  intro always
  have sound := always 3
    [monitor (some ⟨{ ModeInfo.zero with hdisplay := 640, vdisplay := 480 }, 0⟩), unplugged,
      monitor none]
  exact absurd sound.1 (by decide)

end Updated

end Runs

end Mir.Graphics.KMS

/-
This file models the hardware cursor of the mesa platform: on every output that it is on, the CRTC
shows the cursor's buffer as a plane of its own. It proves on which outputs the cursor is set after
any run of operations on a fixed configuration.

Showing an image while the cursor is hidden only makes it visible: it is set on no output before it
is placed again.
-/

import Mir.Graphics.OutputGrouping
import Mir.Library.PointUpdate
import Mir.Library.Transition

namespace Mir.Graphics.HardwareCursor

open Mir.Geometry

/-! ### The outputs -/

structure Displacement where
  dx : Int
  dy : Int
  deriving DecidableEq, Repr

/-- An output of the kernel. `scansCursor` is what its CRTC was told last, and `cursorAt` where
to. -/
structure KMSOutput where
  hasCrtc : Bool
  hasCursor : Bool
  scansCursor : Bool
  cursorAt : Point
  deriving DecidableEq, Repr

namespace KMSOutput

/-- An output that was just made, or reset. -/
def new : KMSOutput := ⟨false, false, false, ⟨0, 0⟩⟩

/-- The call to the kernel succeeds. -/
def setCursor (output : KMSOutput) : KMSOutput :=
  if output.hasCrtc = true then { output with hasCursor := true, scansCursor := true } else output

def moveCursor (output : KMSOutput) (destination : Point) : KMSOutput :=
  if output.hasCrtc = true then { output with cursorAt := destination } else output

def clearCursor (output : KMSOutput) : KMSOutput :=
  if output.hasCrtc = true then { output with hasCursor := false, scansCursor := false } else output

@[simp] theorem hasCrtc_setCursor (output : KMSOutput) :
    output.setCursor.hasCrtc = output.hasCrtc := by
  unfold setCursor
  split <;> rfl

@[simp] theorem hasCrtc_moveCursor (output : KMSOutput) (destination : Point) :
    (output.moveCursor destination).hasCrtc = output.hasCrtc := by
  unfold moveCursor
  split <;> rfl

@[simp] theorem hasCrtc_clearCursor (output : KMSOutput) :
    output.clearCursor.hasCrtc = output.hasCrtc := by
  unfold clearCursor
  split <;> rfl

end KMSOutput

/-- The outputs of the container, by the ids of their connectors. -/
abbrev OutputContainer := OutputID → Option KMSOutput

def getKMSOutputFor (outputs : OutputContainer) (id : OutputID) : KMSOutput :=
  (outputs id).getD .new

def forEachOutput (outputs : OutputContainer) (change : KMSOutput → KMSOutput) : OutputContainer :=
  fun id => (outputs id).map change

/-- The configuration has one output for each id. -/
structure KMSDisplayConfiguration where
  outputs : List DisplayConfigurationOutput
  nodup : (outputs.map DisplayConfigurationOutput.id).Nodup

def KMSDisplayConfiguration.usedOutputs (configuration : KMSDisplayConfiguration) :
    List DisplayConfigurationOutput :=
  configuration.outputs.filter DisplayConfigurationOutput.used

/-! ### The cursor -/

structure CursorImage where
  size : Size
  hotspot : Displacement
  deriving DecidableEq, Repr

/-- A smaller image is padded, and a larger one is refused. -/
def CursorImage.isWritten (image : CursorImage) (bufferSize : Size) (writes : Bool) : Bool :=
  !(decide (image.size ≠ bufferSize) &&
    (decide (image.size.width > bufferSize.width) ||
      decide (image.size.height > bufferSize.height))) && writes

structure Cursor where
  outputs : OutputContainer
  configuration : KMSDisplayConfiguration
  bufferSize : Size
  currentPosition : Point
  hotspot : Displacement
  visible : Bool
  lastSetFailed : Bool

inductive ForceCursorState
  | updateState
  | forceState
  deriving DecidableEq, Repr

/-- A position within the bounds of a display that is rotated. -/
def transform (rect : Rectangle) (vector : Displacement) : Orientation → Displacement
  | .left => ⟨vector.dy, rect.size.width - vector.dx⟩
  | .inverted => ⟨rect.size.width - vector.dx, rect.size.height - vector.dy⟩
  | .right => ⟨rect.size.height - vector.dy, vector.dx⟩
  | .normal => vector

/-- What the loop does with one used output. -/
def placeOn (position : Point) (hotspot : Displacement) (force : ForceCursorState)
    (confOutput : DisplayConfigurationOutput) (output : KMSOutput) : KMSOutput :=
  if confOutput.extents.containsPoint position = true then
    let dp := transform confOutput.extents
      ⟨position.x - confOutput.extents.topLeft.x, position.y - confOutput.extents.topLeft.y⟩
      confOutput.orientation
    let moved := output.moveCursor ⟨dp.dx - hotspot.dx, dp.dy - hotspot.dy⟩
    if force = .forceState ∨ moved.hasCursor = false then moved.setCursor else moved
  else if force = .forceState ∨ output.hasCursor = true then output.clearCursor
  else output

/-- Whether the cursor was to be set on an output, and could not be. -/
def setFailsOn (position : Point) (force : ForceCursorState)
    (confOutput : DisplayConfigurationOutput) (output : KMSOutput) : Bool :=
  confOutput.extents.containsPoint position &&
    (decide (force = .forceState) || !output.hasCursor) && !output.setCursor.hasCursor

namespace Cursor

def placeCursorAtLocked (cursor : Cursor) (position : Point) (force : ForceCursorState) :
    Cursor :=
  let moved := { cursor with currentPosition := position }
  if cursor.visible = false then moved
  else
    let used := cursor.configuration.usedOutputs
    { moved with
      outputs := PointUpdate.through DisplayConfigurationOutput.id
        (fun confOutput output =>
          some (placeOn position cursor.hotspot force confOutput (output.getD .new)))
        used cursor.outputs
      lastSetFailed := used.any fun confOutput =>
        setFailsOn position force confOutput (getKMSOutputFor cursor.outputs confOutput.id) }

/-! The fields that placing does not change, and those that it does. -/

variable (cursor : Cursor) (position : Point) (force : ForceCursorState)

theorem placeCursorAtLocked_hidden (hidden : cursor.visible = false) :
    cursor.placeCursorAtLocked position force = { cursor with currentPosition := position } := by
  unfold placeCursorAtLocked
  rw [if_pos hidden]

@[simp] theorem currentPosition_placeCursorAtLocked :
    (cursor.placeCursorAtLocked position force).currentPosition = position := by
  unfold placeCursorAtLocked
  split <;> rfl

@[simp] theorem configuration_placeCursorAtLocked :
    (cursor.placeCursorAtLocked position force).configuration = cursor.configuration := by
  unfold placeCursorAtLocked
  split <;> rfl

@[simp] theorem visible_placeCursorAtLocked :
    (cursor.placeCursorAtLocked position force).visible = cursor.visible := by
  unfold placeCursorAtLocked
  split <;> rfl

@[simp] theorem bufferSize_placeCursorAtLocked :
    (cursor.placeCursorAtLocked position force).bufferSize = cursor.bufferSize := by
  unfold placeCursorAtLocked
  split <;> rfl

theorem outputs_placeCursorAtLocked (visible : cursor.visible = true) :
    (cursor.placeCursorAtLocked position force).outputs =
      PointUpdate.through DisplayConfigurationOutput.id
        (fun confOutput output =>
          some (placeOn position cursor.hotspot force confOutput (output.getD .new)))
        cursor.configuration.usedOutputs cursor.outputs := by
  unfold placeCursorAtLocked
  rw [if_neg (by rw [visible]; nofun)]

end Cursor

namespace Cursor

def showCursor (cursor : Cursor) : Cursor :=
  if cursor.visible = false then
    { cursor with visible := true }.placeCursorAtLocked cursor.currentPosition .forceState
  else cursor

/-- An image is written before anything else, and nothing has changed if that throws. -/
def showImage (cursor : Cursor) (image : CursorImage) (writes : Bool) : Cursor :=
  if image.isWritten cursor.bufferSize writes = false then cursor
  else
    let hot := { cursor with hotspot := image.hotspot }
    let placed :=
      if cursor.visible = true then hot.placeCursorAtLocked cursor.currentPosition .forceState
      else hot
    { placed with visible := true }

def hide (cursor : Cursor) : Cursor :=
  { cursor with
    visible := false
    outputs := forEachOutput cursor.outputs KMSOutput.clearCursor }

def moveTo (cursor : Cursor) (position : Point) : Cursor :=
  cursor.placeCursorAtLocked position .updateState

def resume (cursor : Cursor) : Cursor :=
  cursor.placeCursorAtLocked cursor.currentPosition .forceState

/-- An operation. Writing an image to the buffer may fail. -/
inductive Operation
  | showCursor
  | showImage (image : CursorImage) (writes : Bool)
  | hide
  | moveTo (position : Point)
  | resume
  deriving DecidableEq, Repr

def step (cursor : Cursor) : Operation → Cursor
  | .showCursor => cursor.showCursor
  | .showImage image writes => cursor.showImage image writes
  | .hide => cursor.hide
  | .moveTo position => cursor.moveTo position
  | .resume => cursor.resume

/-- The outputs before there is a cursor, of which some have a CRTC. -/
def bareOutputs (crtcs : OutputID → Option Bool) : OutputContainer := fun id =>
  (crtcs id).map fun hasCrtc => { KMSOutput.new with hasCrtc := hasCrtc }

/-- A new cursor shows its first image, and is given up if that fails. -/
def create (crtcs : OutputID → Option Bool) (configuration : KMSDisplayConfiguration)
    (bufferSize : Size) (initialImage : CursorImage) (writes : Bool) : Option Cursor :=
  if initialImage.isWritten bufferSize writes = false then none
  else
    let cursor : Cursor :=
      ⟨bareOutputs crtcs, configuration, bufferSize, ⟨0, 0⟩, ⟨0, 0⟩, true, false⟩
    let shown := cursor.showImage initialImage writes
    if shown.lastSetFailed = true then none else some shown

/-! ### Where the cursor is set -/

/-- The cursor is to be set on this output. -/
def BelongsOn (cursor : Cursor) (id : OutputID) : Prop :=
  ∃ confOutput ∈ cursor.configuration.usedOutputs, confOutput.id = id ∧
    confOutput.extents.containsPoint cursor.currentPosition = true

/-- Of the outputs with a CRTC, those that the cursor is set on are the used ones whose extents
contain its position if it is shown, and none if it is not. -/
def SetWhere (shown : Bool) (cursor : Cursor) : Prop :=
  ∀ id output, cursor.outputs id = some output → output.hasCrtc = true →
    output.hasCursor = output.scansCursor ∧
      (output.scansCursor = true ↔ shown = true ∧ cursor.BelongsOn id)

/-- An output that is not used does not have the cursor. -/
def Coherent (cursor : Cursor) : Prop :=
  ∀ id output, cursor.outputs id = some output → output.hasCrtc = true →
    output.hasCursor = output.scansCursor ∧
      (output.scansCursor = true →
        id ∈ cursor.configuration.usedOutputs.map DisplayConfigurationOutput.id)

theorem SetWhere.coherent {shown : Bool} {cursor : Cursor} (isSet : cursor.SetWhere shown) :
    cursor.Coherent := by
  intro id output known crtc
  obtain ⟨same, where_⟩ := isSet id output known crtc
  refine ⟨same, fun scans => ?_⟩
  obtain ⟨confOutput, used, rfl, -⟩ := (where_.mp scans).2
  exact List.mem_map_of_mem used

end Cursor

section PlaceOn

variable {position : Point} {hotspot : Displacement} {force : ForceCursorState}
  {confOutput : DisplayConfigurationOutput} {output : KMSOutput}

theorem placeOn_hasCrtc :
    (placeOn position hotspot force confOutput output).hasCrtc = output.hasCrtc := by
  unfold placeOn
  dsimp only
  split_ifs <;> simp

/-- Whether it is forced or not, the cursor is on the output afterwards if it is within it. -/
theorem placeOn_scansCursor (crtc : output.hasCrtc = true)
    (same : output.hasCursor = output.scansCursor) :
    let placed := placeOn position hotspot force confOutput output
    placed.hasCursor = placed.scansCursor ∧
      placed.scansCursor = confOutput.extents.containsPoint position := by
  unfold placeOn KMSOutput.setCursor KMSOutput.clearCursor KMSOutput.moveCursor
  cases inside : confOutput.extents.containsPoint position with
  | true =>
    simp only [crtc, if_true]
    split_ifs with isSet
    · exact ⟨rfl, rfl⟩
    · have has : output.hasCursor = true := (Bool.not_eq_false _).mp (not_or.mp isSet).2
      exact ⟨same, same.symm.trans has⟩
  | false =>
    simp only [crtc, if_true, Bool.false_eq_true, if_false]
    split_ifs with isCleared
    · exact ⟨rfl, rfl⟩
    · have hasNot : output.hasCursor = false := Bool.eq_false_iff.mpr (not_or.mp isCleared).2
      exact ⟨same, same.symm.trans hasNot⟩

end PlaceOn

namespace Cursor

variable {cursor : Cursor}

theorem nodup_usedOutputs (configuration : KMSDisplayConfiguration) :
    (configuration.usedOutputs.map DisplayConfigurationOutput.id).Nodup :=
  configuration.nodup.sublist (List.filter_sublist.map _)

/-- Placing a visible cursor sets it on the right outputs. -/
theorem setWhere_placeCursorAtLocked (coherent : cursor.Coherent)
    (visible : cursor.visible = true) (position : Point) (force : ForceCursorState) :
    (cursor.placeCursorAtLocked position force).SetWhere true := by
  intro id output known crtc
  rw [outputs_placeCursorAtLocked cursor position force visible] at known
  unfold BelongsOn
  rw [currentPosition_placeCursorAtLocked, configuration_placeCursorAtLocked]
  by_cases used : id ∈ cursor.configuration.usedOutputs.map DisplayConfigurationOutput.id
  · obtain ⟨confOutput, isUsed, rfl⟩ := List.mem_map.mp used
    rw [PointUpdate.through_self _ (nodup_usedOutputs _) isUsed] at known
    obtain rfl := Option.some.inj known
    rw [placeOn_hasCrtc] at crtc
    cases before : cursor.outputs confOutput.id with
    | none =>
      rw [before] at crtc
      exact absurd crtc (by decide)
    | some output =>
      rw [before] at crtc
      obtain ⟨same, scans⟩ := @placeOn_scansCursor position cursor.hotspot force confOutput output
        crtc (coherent _ output before crtc).1
      refine ⟨same, ?_⟩
      show (placeOn _ _ _ _ output).scansCursor = true ↔ _
      rw [scans]
      refine ⟨fun inside => ⟨rfl, confOutput, isUsed, rfl, inside⟩, ?_⟩
      rintro ⟨-, other, isOther, sameID, inside⟩
      rwa [← List.inj_on_of_nodup_map (nodup_usedOutputs _) isOther isUsed sameID]
  · rw [PointUpdate.through_other _ used] at known
    obtain ⟨same, onlyUsed⟩ := coherent id output known crtc
    refine ⟨same, iff_of_false (fun scans => used (onlyUsed scans)) ?_⟩
    rintro ⟨-, confOutput, isUsed, rfl, -⟩
    exact used (List.mem_map_of_mem isUsed)

theorem setWhere_hide : cursor.hide.SetWhere false := by
  intro id output known crtc
  obtain ⟨before, isBefore, rfl⟩ := Option.map_eq_some_iff.mp known
  unfold KMSOutput.clearCursor at crtc ⊢
  split_ifs at crtc ⊢ with had
  · exact ⟨rfl, iff_of_false nofun fun shown => nomatch shown.1⟩
  · exact absurd crtc had

theorem setWhere_false_iff : cursor.SetWhere false ↔
    ∀ id output, cursor.outputs id = some output → output.hasCrtc = true →
      output.hasCursor = output.scansCursor ∧ output.scansCursor = false := by
  refine forall₄_congr fun id output _ _ => and_congr_right fun _ => ?_
  have never : ¬ (false = true ∧ cursor.BelongsOn id) := fun both => Bool.false_ne_true both.1
  rw [iff_false_right never, Bool.not_eq_true]

/-- An operation sets the cursor where it belongs: an image is not shown while the cursor is hidden
over an output. -/
def Places (cursor : Cursor) : Operation → Prop
  | .showImage image writes =>
    image.isWritten cursor.bufferSize writes = true → cursor.visible = false →
      ∀ id output, cursor.outputs id = some output → output.hasCrtc = true →
        ¬ cursor.BelongsOn id
  | _ => True

theorem setWhere_moved (isSet : cursor.SetWhere cursor.visible) (position : Point)
    (force : ForceCursorState) :
    (cursor.placeCursorAtLocked position force).SetWhere
      (cursor.placeCursorAtLocked position force).visible := by
  rw [visible_placeCursorAtLocked]
  cases visible : cursor.visible with
  | true => exact setWhere_placeCursorAtLocked isSet.coherent visible position force
  | false =>
    rw [visible, setWhere_false_iff] at isSet
    rw [placeCursorAtLocked_hidden cursor position force visible, setWhere_false_iff]
    exact isSet

theorem showImage_refused {image : CursorImage} {writes : Bool}
    (refused : image.isWritten cursor.bufferSize writes = false) :
    cursor.showImage image writes = cursor :=
  if_pos refused

theorem showImage_visible {image : CursorImage} {writes : Bool}
    (written : image.isWritten cursor.bufferSize writes = true) (visible : cursor.visible = true) :
    cursor.showImage image writes =
      { Cursor.placeCursorAtLocked { cursor with hotspot := image.hotspot } cursor.currentPosition
          .forceState with visible := true } := by
  unfold showImage
  rw [if_neg (by rw [written]; nofun)]
  simp only [visible, if_true]

theorem showImage_hidden {image : CursorImage} {writes : Bool}
    (written : image.isWritten cursor.bufferSize writes = true) (hidden : cursor.visible = false) :
    cursor.showImage image writes =
      { cursor with hotspot := image.hotspot, visible := true } := by
  unfold showImage
  rw [if_neg (by rw [written]; nofun)]
  simp only [hidden, Bool.false_eq_true, if_false]

/-- After an image was shown while the cursor was hidden, it is set nowhere. -/
theorem setWhere_true_of_hidden_iff (isSet : cursor.SetWhere false) :
    cursor.SetWhere true ↔ ∀ id output, cursor.outputs id = some output →
      output.hasCrtc = true → ¬ cursor.BelongsOn id := by
  rw [setWhere_false_iff] at isSet
  refine forall₄_congr fun id output known crtc => ?_
  obtain ⟨same, scansNot⟩ := isSet id output known crtc
  rw [scansNot]
  exact ⟨fun both belongs => Bool.false_ne_true (both.2.mpr ⟨rfl, belongs⟩),
    fun elsewhere => ⟨same.trans scansNot, iff_of_false nofun fun both => elsewhere both.2⟩⟩

theorem setWhere_step_iff (isSet : cursor.SetWhere cursor.visible) (operation : Operation) :
    (cursor.step operation).SetWhere (cursor.step operation).visible ↔
      cursor.Places operation := by
  cases operation with
  | showCursor =>
    refine iff_of_true ?_ trivial
    show cursor.showCursor.SetWhere cursor.showCursor.visible
    unfold showCursor
    by_cases hidden : cursor.visible = false
    · rw [if_pos hidden, visible_placeCursorAtLocked]
      have coherent : Coherent { cursor with visible := true } := isSet.coherent
      exact setWhere_placeCursorAtLocked coherent rfl _ _
    · rw [if_neg hidden]
      exact isSet
  | showImage image writes =>
    show (cursor.showImage image writes).SetWhere (cursor.showImage image writes).visible ↔ _
    by_cases written : image.isWritten cursor.bufferSize writes = true
    · cases visible : cursor.visible with
      | true =>
        rw [showImage_visible written visible]
        have coherent : Coherent { cursor with hotspot := image.hotspot } := isSet.coherent
        have placed := setWhere_placeCursorAtLocked coherent visible cursor.currentPosition
          .forceState
        exact iff_of_true placed fun _ hidden => nomatch visible.symm.trans hidden
      | false =>
        rw [visible] at isSet
        have hidden : SetWhere false { cursor with hotspot := image.hotspot, visible := true } :=
          isSet
        rw [showImage_hidden written visible, setWhere_true_of_hidden_iff hidden]
        exact ⟨fun elsewhere _ _ => elsewhere, fun places => places written visible⟩
    · rw [showImage_refused (Bool.eq_false_iff.mpr written)]
      exact iff_of_true isSet fun accepted => absurd accepted written
  | hide => exact iff_of_true setWhere_hide trivial
  | moveTo position => exact iff_of_true (setWhere_moved isSet position _) trivial
  | resume => exact iff_of_true (setWhere_moved isSet _ _) trivial

/-! ### Runs of operations -/

/-- Whether the cursor was last shown or hidden. An image that is refused shows nothing. -/
def shownAfter (bufferSize : Size) (shown : Bool) : Operation → Bool
  | .showCursor => true
  | .showImage image writes => image.isWritten bufferSize writes || shown
  | .hide => false
  | .moveTo _ => shown
  | .resume => shown

def lastShown (bufferSize : Size) (operations : List Operation) : Bool :=
  operations.foldl (shownAfter bufferSize) true

theorem visible_step (operation : Operation) :
    (cursor.step operation).visible = shownAfter cursor.bufferSize cursor.visible operation ∧
      (cursor.step operation).bufferSize = cursor.bufferSize := by
  cases operation with
  | showCursor =>
    show cursor.showCursor.visible = true ∧ cursor.showCursor.bufferSize = cursor.bufferSize
    unfold showCursor
    split_ifs with hidden
    · simp
    · exact ⟨(Bool.not_eq_false _).mp hidden, rfl⟩
  | showImage image writes =>
    show (cursor.showImage image writes).visible =
        (image.isWritten cursor.bufferSize writes || cursor.visible) ∧
      (cursor.showImage image writes).bufferSize = cursor.bufferSize
    cases written : image.isWritten cursor.bufferSize writes with
    | false =>
      rw [showImage_refused written]
      exact ⟨rfl, rfl⟩
    | true =>
      cases visible : cursor.visible with
      | true =>
        rw [showImage_visible written visible]
        exact ⟨rfl, bufferSize_placeCursorAtLocked _ _ _⟩
      | false =>
        rw [showImage_hidden written visible]
        exact ⟨rfl, rfl⟩
  | hide => exact ⟨rfl, rfl⟩
  | moveTo position =>
    exact ⟨visible_placeCursorAtLocked _ _ _, bufferSize_placeCursorAtLocked _ _ _⟩
  | resume => exact ⟨visible_placeCursorAtLocked _ _ _, bufferSize_placeCursorAtLocked _ _ _⟩

theorem visible_foldl (operations : List Operation) :
    (operations.foldl step cursor).visible =
      operations.foldl (shownAfter cursor.bufferSize) cursor.visible := by
  induction operations generalizing cursor with
  | nil => rfl
  | cons operation rest inductionHypothesis =>
    obtain ⟨visible, bufferSize⟩ := @visible_step cursor operation
    rw [List.foldl_cons, List.foldl_cons, inductionHypothesis, visible, bufferSize]

theorem setWhere_create {crtcs : OutputID → Option Bool} {configuration : KMSDisplayConfiguration}
    {bufferSize : Size} {initialImage : CursorImage} {writes : Bool}
    (created : create crtcs configuration bufferSize initialImage writes = some cursor) :
    cursor.SetWhere true ∧ cursor.visible = true ∧ cursor.bufferSize = bufferSize := by
  unfold create at created
  split_ifs at created with refused
  let bare : Cursor :=
    ⟨bareOutputs crtcs, configuration, bufferSize, ⟨0, 0⟩, ⟨0, 0⟩, true, false⟩
  have written : initialImage.isWritten bare.bufferSize writes = true :=
    (Bool.not_eq_false _).mp refused
  dsimp only at created
  split_ifs at created with failed
  obtain rfl := Option.some.inj created
  have coherent : Coherent { bare with hotspot := initialImage.hotspot } := by
    intro id output known _
    obtain ⟨hasCrtc, -, rfl⟩ := Option.map_eq_some_iff.mp known
    exact ⟨rfl, fun scans => nomatch scans⟩
  have placed := setWhere_placeCursorAtLocked coherent rfl bare.currentPosition .forceState
  rw [show Cursor.showImage _ initialImage writes = bare.showImage initialImage writes from rfl,
    showImage_visible written rfl]
  exact ⟨placed, rfl, bufferSize_placeCursorAtLocked _ _ _⟩

/-- After every operation of a run the cursor is set on the outputs it belongs on, and on none if it
was last hidden, exactly if no image was shown over an output while the cursor was hidden. -/
theorem cursor_set_where_it_belongs_iff (crtcs : OutputID → Option Bool)
    (configuration : KMSDisplayConfiguration) (bufferSize : Size) (initialImage : CursorImage)
    (writes : Bool) (cursor : Cursor)
    (created : create crtcs configuration bufferSize initialImage writes = some cursor)
    (operations : List Operation) :
    (∀ done, done <+: operations →
      (done.foldl step cursor).SetWhere (lastShown bufferSize done)) ↔
      Transition.AllowedAlong step Places cursor operations := by
  obtain ⟨isSet, visible, sameSize⟩ := setWhere_create created
  have first : cursor.SetWhere cursor.visible := by
    rw [visible]
    exact isSet
  have along : (∀ done, done <+: operations →
      (done.foldl step cursor).SetWhere (done.foldl step cursor).visible) ↔
      Transition.AllowedAlong step Places cursor operations :=
    @Transition.forall_prefix_iff_allowedAlong _ _ step Places
      (fun cursor => cursor.SetWhere cursor.visible) cursor operations first
      fun _ operation _ isSet => setWhere_step_iff isSet operation
  refine Iff.trans (forall₂_congr fun done _ => ?_) along
  rw [visible_foldl, visible, sameSize]
  rfl

/-- One output that is used, with a CRTC, and a cursor of 64 pixels on it. -/
def oneOutput : KMSDisplayConfiguration where
  outputs := [⟨1, [⟨100, 50⟩], true, true, ⟨0, 0⟩, 0, .on, .normal⟩]
  nodup := by decide

def smallImage : CursorImage := ⟨⟨32, 32⟩, ⟨0, 0⟩⟩

def cursorOnOneOutput : Cursor :=
  (create (fun _ => some true) oneOutput ⟨64, 64⟩ smallImage true).get (by decide)

theorem cursor_set_where_it_belongs_oneOutput :
    (∀ done, done <+: [.hide, .moveTo ⟨10, 10⟩, .showCursor] →
      (done.foldl step cursorOnOneOutput).SetWhere (lastShown ⟨64, 64⟩ done)) ↔
      Transition.AllowedAlong step Places cursorOnOneOutput
        [.hide, .moveTo ⟨10, 10⟩, .showCursor] :=
  cursor_set_where_it_belongs_iff (fun _ => some true) oneOutput ⟨64, 64⟩ smallImage true
    cursorOnOneOutput (Option.some_get _).symm [.hide, .moveTo ⟨10, 10⟩, .showCursor]

theorem image_shown_while_hidden_is_not_set :
    ¬ ∀ (crtcs : OutputID → Option Bool) (configuration : KMSDisplayConfiguration)
      (bufferSize : Size) (initialImage : CursorImage) (writes : Bool) (cursor : Cursor),
      create crtcs configuration bufferSize initialImage writes = some cursor →
        ∀ operations : List Operation,
          (operations.foldl step cursor).SetWhere (lastShown bufferSize operations) := by
  intro always
  have isSet := always (fun _ => some true) oneOutput ⟨64, 64⟩ smallImage true cursorOnOneOutput
    (Option.some_get _).symm [.hide, .showImage smallImage true] 1 _ rfl rfl
  exact absurd (isSet.2.mpr ⟨rfl, _, List.mem_singleton_self _, rfl, rfl⟩) (by decide)

end Cursor

end Mir.Graphics.HardwareCursor

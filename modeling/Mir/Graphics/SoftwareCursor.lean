/-
This file models the software cursor, which puts a renderable of its own into the scene, and its
operations on any number of threads, interleaved at each locked section and each call of the scene.

Every operation that changes the scene has two parts: a locked section that decides what is to be
done, and a later step that reads or swaps the stored renderable. It proves that as long as no
operation overtakes another between the two, only what is in the scene is removed from it, and at
rest the scene holds the current renderable exactly if the cursor is visible.
-/

import Mir.Graphics.HardwareCursor
import Mir.Library.Roster

namespace Mir.Graphics

open Mir.Geometry HardwareCursor

/-! ### The cursor -/

namespace SoftwareCursor

/-- The buffer of a renderable is known by its size. -/
structure CursorRenderable where
  size : Size
  position : Point
  deriving DecidableEq, Repr

/-- A renderable is known by its place among those made. -/
abbrev RenderableID := Nat

/-- How far a call is. Showing and hiding are about to call the scene; an image is about to be
added, or to be swapped in; what it replaced is about to be removed; a move is about to be told. -/
inductive Phase
  | showing
  | hiding
  | adding (image : RenderableID) (hotspot : Displacement) (oldVisibility : Bool)
  | swapping (image : RenderableID) (hotspot : Displacement) (oldVisibility : Bool)
  | removing (old : RenderableID)
  | moved
  deriving DecidableEq, Repr

end SoftwareCursor

open SoftwareCursor in
/-- The cursor, its overlays in the scene, and the calls in progress in the order in which they
began. `strays` is the history of the removals of what was not in the scene. -/
structure SoftwareCursor (Thread : Type*) where
  made : List CursorRenderable
  renderable : Option RenderableID
  visible : Bool
  hotspot : Displacement
  overlays : List RenderableID
  calls : Roster Thread Phase
  strays : List RenderableID

namespace SoftwareCursor

/-- The steps of the operations. The first of each is its first locked section; `written` says
whether the image could be written to its buffer. -/
inductive Op (Thread : Type*)
  | showBegins (thread : Thread)
  | showAdds (thread : Thread)
  | hideBegins (thread : Thread)
  | hideRemoves (thread : Thread)
  | imageBegins (thread : Thread) (image : CursorImage) (written : Bool)
  | imageAdds (thread : Thread)
  | imageSwaps (thread : Thread)
  | imageRemoves (thread : Thread)
  | moveTo (thread : Thread) (position : Point)
  | moveTells (thread : Thread)

/-! ### The order of the calls -/

variable {Thread : Type*}

/-- From which visibility to which one a call takes the scene in its second part, and nothing once
that part is done. -/
def Phase.toggle : Phase → Option (Bool × Bool)
  | .showing => some (false, true)
  | .hiding => some (true, false)
  | .adding _ _ oldVisibility | .swapping _ _ oldVisibility => some (oldVisibility, true)
  | .removing _ | .moved => none

/-- What a call has in the scene besides the stored renderable. -/
def Phase.held : Phase → List RenderableID
  | .swapping image _ _ => [image]
  | .removing old => [old]
  | _ => []

/-- What may be ahead of a call that takes its second part: calls that have taken theirs, and if it
replaces an image while visible, others that do so too. -/
def Phase.LetsPass (call earlier : Phase) : Prop :=
  earlier.toggle = none ∨ call.toggle = some (true, true) ∧ earlier.toggle = some (true, true)

/-- The calls take the scene from one visibility to another, each from where those before it
arrive. -/
def Leads : List (Thread × Phase) → Bool → Bool → Prop
  | [], shown, visible => shown = visible
  | call :: rest, shown, visible =>
    match call.2.toggle with
    | none => Leads rest shown visible
    | some (before, after) => shown = before ∧ Leads rest after visible

section Leads

variable {first second : List (Thread × Phase)} {thread : Thread} {phase : Phase}
  {shown visible : Bool}

theorem leads_cons_none (settled : phase.toggle = none) :
    Leads ((thread, phase) :: first) shown visible ↔ Leads first shown visible := by
  simp only [Leads, settled]

theorem leads_cons_some {before after : Bool} (toggles : phase.toggle = some (before, after)) :
    Leads ((thread, phase) :: first) shown visible ↔
      shown = before ∧ Leads first after visible := by
  simp only [Leads, toggles]

theorem leads_append :
    Leads (first ++ second) shown visible ↔
      ∃ middle, Leads first shown middle ∧ Leads second middle visible := by
  induction first generalizing shown with
  | nil =>
    refine ⟨fun leads => ⟨shown, rfl, leads⟩, ?_⟩
    rintro ⟨middle, rfl, leads⟩
    exact leads
  | cons call rest inductionHypothesis =>
    obtain ⟨thread, phase⟩ := call
    cases toggles : phase.toggle with
    | none =>
      rw [List.cons_append, leads_cons_none toggles, inductionHypothesis]
      simp only [leads_cons_none toggles]
    | some toggle =>
      rw [List.cons_append, leads_cons_some toggles, inductionHypothesis]
      simp only [leads_cons_some toggles, and_assoc, exists_and_left]

theorem leads_settled (settled : phase.toggle = none) :
    Leads (first ++ (thread, phase) :: second) shown visible ↔
      Leads (first ++ second) shown visible := by
  simp only [leads_append, leads_cons_none settled]

/-- Calls that let one pass do not change what it starts from. -/
theorem Leads.shown_eq {call : Phase} {before after : Bool} (leads : Leads first shown before)
    (toggles : call.toggle = some (before, after))
    (letPass : ∀ earlier ∈ first, call.LetsPass earlier.2) : shown = before := by
  induction first generalizing shown with
  | nil => exact leads
  | cons earlier rest inductionHypothesis =>
    obtain ⟨thread, phase⟩ := earlier
    rcases letPass _ List.mem_cons_self with settled | ⟨both, passed⟩
    · exact inductionHypothesis ((leads_cons_none settled).mp leads)
        fun earlier member => letPass earlier (List.mem_cons_of_mem _ member)
    · rw [toggles] at both
      obtain ⟨rfl, -⟩ := Prod.mk.inj (Option.some.inj both)
      exact ((leads_cons_some passed).mp leads).1

/-- Where a call is taken that all others let pass, the others lead on from where it arrives. -/
theorem Leads.passed {call : Phase} {before after : Bool}
    (leads : Leads (first ++ (thread, call) :: second) shown visible)
    (toggles : call.toggle = some (before, after))
    (letPass : ∀ earlier ∈ first, call.LetsPass earlier.2) :
    shown = before ∧ Leads (first ++ second) after visible := by
  obtain ⟨middle, leadsFirst, leadsRest⟩ := leads_append.mp leads
  obtain ⟨rfl, leadsSecond⟩ := (leads_cons_some toggles).mp leadsRest
  have same := leadsFirst.shown_eq toggles letPass
  refine ⟨same, leads_append.mpr ⟨after, ?_, leadsSecond⟩⟩
  subst same
  clear leads leadsRest leadsSecond
  induction first with
  | nil => rfl
  | cons earlier rest inductionHypothesis =>
    obtain ⟨thread, phase⟩ := earlier
    rcases letPass _ List.mem_cons_self with settled | ⟨both, passed⟩
    · rw [leads_cons_none settled] at leadsFirst ⊢
      exact inductionHypothesis
        (fun earlier member => letPass earlier (List.mem_cons_of_mem _ member)) leadsFirst
    · rw [toggles] at both
      obtain ⟨rfl, rfl⟩ := Prod.mk.inj (Option.some.inj both)
      exact leadsFirst

end Leads

/-! ### The operations -/

section Operations

variable [DecidableEq Thread]

def new : SoftwareCursor Thread := ⟨[], none, false, ⟨0, 0⟩, [], .empty, []⟩

/-- Where a renderable is on the screen. -/
def screenPosition (cursor : SoftwareCursor Thread) (id : RenderableID) : Point :=
  (cursor.made[id]?.map CursorRenderable.position).getD ⟨0, 0⟩

def addInputVisualization (cursor : SoftwareCursor Thread) (id : RenderableID) :
    SoftwareCursor Thread :=
  { cursor with overlays := cursor.overlays ++ [id] }

/-- The scene refuses to remove what it does not have. -/
def removeInputVisualization (cursor : SoftwareCursor Thread) (id : RenderableID) :
    SoftwareCursor Thread :=
  if id ∈ cursor.overlays then
    { cursor with overlays := cursor.overlays.erase id }
  else
    { cursor with strays := id :: cursor.strays }

def createRenderableFor (cursor : SoftwareCursor Thread) (image : CursorImage) (position : Point) :
    CursorRenderable where
  size := image.size
  position := ⟨position.x + cursor.hotspot.dx - image.hotspot.dx,
    position.y + cursor.hotspot.dy - image.hotspot.dy⟩

def showBegins (cursor : SoftwareCursor Thread) (thread : Thread) : SoftwareCursor Thread :=
  match cursor.calls.find thread with
  | some _ => cursor
  | none =>
    if cursor.visible = true then
      cursor
    else
      { cursor with visible := true, calls := cursor.calls.join thread .showing }

/-- The stored renderable is read without the mutex. -/
def showAdds (cursor : SoftwareCursor Thread) (thread : Thread) : SoftwareCursor Thread :=
  match cursor.calls.find thread with
  | some .showing =>
    match cursor.renderable with
    | some id => { cursor.addInputVisualization id with calls := cursor.calls.leave thread }
    | none => { cursor with calls := cursor.calls.leave thread }
  | _ => cursor

def hideBegins (cursor : SoftwareCursor Thread) (thread : Thread) : SoftwareCursor Thread :=
  match cursor.calls.find thread with
  | some _ => cursor
  | none =>
    if cursor.visible = true then
      { cursor with visible := false, calls := cursor.calls.join thread .hiding }
    else
      cursor

/-- The stored renderable is read without the mutex. -/
def hideRemoves (cursor : SoftwareCursor Thread) (thread : Thread) : SoftwareCursor Thread :=
  match cursor.calls.find thread with
  | some .hiding =>
    match cursor.renderable with
    | some id => { cursor.removeInputVisualization id with calls := cursor.calls.leave thread }
    | none => { cursor with calls := cursor.calls.leave thread }
  | _ => cursor

/-- Nothing has changed when the image cannot be written. -/
def imageBegins (cursor : SoftwareCursor Thread) (thread : Thread) (image : CursorImage)
    (written : Bool) : SoftwareCursor Thread :=
  match cursor.calls.find thread with
  | some _ => cursor
  | none =>
    if written = true then
      let position := (cursor.renderable.map cursor.screenPosition).getD ⟨0, 0⟩
      { cursor with
        made := cursor.made ++ [cursor.createRenderableFor image position]
        visible := true
        calls := cursor.calls.join thread
          (.adding cursor.made.length image.hotspot cursor.visible) }
    else
      cursor

def imageAdds (cursor : SoftwareCursor Thread) (thread : Thread) : SoftwareCursor Thread :=
  match cursor.calls.find thread with
  | some (.adding image hotspot oldVisibility) =>
    { cursor.addInputVisualization image with
      calls := cursor.calls.change thread (.swapping image hotspot oldVisibility) }
  | _ => cursor

/-- What was stored is to be removed if the cursor was visible when the call began. -/
def imageSwaps (cursor : SoftwareCursor Thread) (thread : Thread) : SoftwareCursor Thread :=
  match cursor.calls.find thread with
  | some (.swapping image hotspot oldVisibility) =>
    { cursor with
      renderable := some image
      hotspot := hotspot
      calls := match cursor.renderable, oldVisibility with
        | some old, true => cursor.calls.change thread (.removing old)
        | _, _ => cursor.calls.leave thread }
  | _ => cursor

def imageRemoves (cursor : SoftwareCursor Thread) (thread : Thread) : SoftwareCursor Thread :=
  match cursor.calls.find thread with
  | some (.removing old) =>
    { cursor.removeInputVisualization old with calls := cursor.calls.leave thread }
  | _ => cursor

def moveTo (cursor : SoftwareCursor Thread) (thread : Thread) (position : Point) :
    SoftwareCursor Thread :=
  match cursor.calls.find thread, cursor.renderable with
  | none, some id =>
    { cursor with
      made := cursor.made.modify id fun renderable =>
        { renderable with
          position := ⟨position.x - cursor.hotspot.dx, position.y - cursor.hotspot.dy⟩ }
      calls := cursor.calls.join thread .moved }
  | _, _ => cursor

def moveTells (cursor : SoftwareCursor Thread) (thread : Thread) : SoftwareCursor Thread :=
  match cursor.calls.find thread with
  | some .moved => { cursor with calls := cursor.calls.leave thread }
  | _ => cursor

/-- One step of one thread. A step that the thread is not at changes nothing. -/
def step (cursor : SoftwareCursor Thread) : Op Thread → SoftwareCursor Thread
  | .showBegins thread => cursor.showBegins thread
  | .showAdds thread => cursor.showAdds thread
  | .hideBegins thread => cursor.hideBegins thread
  | .hideRemoves thread => cursor.hideRemoves thread
  | .imageBegins thread image written => cursor.imageBegins thread image written
  | .imageAdds thread => cursor.imageAdds thread
  | .imageSwaps thread => cursor.imageSwaps thread
  | .imageRemoves thread => cursor.imageRemoves thread
  | .moveTo thread position => cursor.moveTo thread position
  | .moveTells thread => cursor.moveTells thread

/-- No call overtakes another with its second part, except that images which replace one another
while the cursor is visible may come in any order. -/
def InTurn (cursor : SoftwareCursor Thread) : Op Thread → Prop
  | .showAdds thread | .hideRemoves thread | .imageSwaps thread =>
    ∀ call ∈ cursor.calls.find thread, ∀ earlier ∈ cursor.calls.ahead thread,
      call.LetsPass earlier.2
  | _ => True

end Operations

/-! ### What is at rest -/

/-- At rest the scene has the current renderable exactly if the cursor is visible, and nothing else
of the cursor, and only what was in the scene has been removed from it. -/
structure Settled (cursor : SoftwareCursor Thread) : Prop where
  overlays : cursor.calls.entries = [] →
    cursor.overlays = if cursor.visible = true then cursor.renderable.toList else []
  strays : cursor.strays = []

/-- What the scene has of the stored renderable. -/
def base (cursor : SoftwareCursor Thread) (shown : Bool) : List RenderableID :=
  if shown = true then cursor.renderable.toList else []

def heldBy (calls : List (Thread × Phase)) : List RenderableID :=
  calls.flatMap fun call => call.2.held

/-- What holds as long as no call overtakes another: the calls lead from what the scene shows to
the visibility, and the scene has the stored renderable if it is shown, and what the calls hold. -/
structure Sound (cursor : SoftwareCursor Thread) (shown : Bool) : Prop where
  leads : Leads cursor.calls.entries shown cursor.visible
  overlays : cursor.overlays.Perm (cursor.base shown ++ heldBy cursor.calls.entries)
  strays : cursor.strays = []

namespace Sound

variable {cursor : SoftwareCursor Thread} {shown : Bool}

theorem new : (SoftwareCursor.new : SoftwareCursor Thread).Sound false := ⟨rfl, .nil, rfl⟩

theorem settled (sound : cursor.Sound shown) : cursor.Settled where
  overlays := fun atRest => by
    have leads := sound.leads
    have overlays := sound.overlays
    rw [atRest] at leads overlays
    obtain rfl : shown = cursor.visible := leads
    rw [heldBy, List.flatMap_nil, List.append_nil, base] at overlays
    split at overlays
    · next isVisible =>
      rw [if_pos isVisible]
      cases stored : cursor.renderable with
      | none => rw [stored] at overlays; exact List.perm_nil.mp overlays
      | some id => rw [stored] at overlays; exact List.perm_singleton.mp overlays
    · next isHidden =>
      rw [if_neg isHidden]
      exact List.perm_nil.mp overlays
  strays := sound.strays

/-- What a list is a permutation of with an element among others, it is without the element once
that is erased. -/
theorem perm_erase {list first second : List RenderableID} {id : RenderableID}
    (perm : list.Perm (first ++ id :: second)) : (list.erase id).Perm (first ++ second) := by
  have front : list.Perm (id :: (first ++ second)) := perm.trans List.perm_middle
  simpa using front.erase id

/-- The scene has what the call is about to remove. -/
theorem removeInputVisualization_of_perm {first second : List RenderableID} {id : RenderableID}
    (perm : cursor.overlays.Perm (first ++ id :: second)) :
    cursor.removeInputVisualization id =
      { cursor with overlays := cursor.overlays.erase id } := by
  rw [removeInputVisualization, if_pos]
  exact perm.mem_iff.mpr (List.mem_append_right _ List.mem_cons_self)

variable [DecidableEq Thread]

/-- A call that begins holds nothing yet, and leads on from the visibility. -/
theorem begins (sound : cursor.Sound shown) {thread : Thread} {phase : Phase}
    (idle : cursor.calls.find thread = none) (holds : phase.held = []) {visible : Bool}
    {made : List CursorRenderable} (leads : Leads [(thread, phase)] cursor.visible visible) :
    Sound { cursor with
      made := made
      visible := visible
      calls := cursor.calls.join thread phase } shown where
  leads := by
    show Leads (cursor.calls.join thread phase).entries shown visible
    rw [cursor.calls.entries_join phase idle]
    exact leads_append.mpr ⟨_, sound.leads, leads⟩
  overlays := by
    show cursor.overlays.Perm (cursor.base shown ++ heldBy (cursor.calls.join thread phase).entries)
    rw [cursor.calls.entries_join phase idle, heldBy, List.flatMap_append, List.flatMap_cons,
      List.flatMap_nil, holds, List.append_nil, List.append_nil]
    exact sound.overlays
  strays := sound.strays

theorem showBegins (sound : cursor.Sound shown) (thread : Thread) :
    (cursor.showBegins thread).Sound shown := by
  unfold SoftwareCursor.showBegins
  split
  · exact sound
  · next idle =>
    split
    · exact sound
    · next hidden => exact sound.begins idle rfl ⟨Bool.eq_false_iff.mpr hidden, rfl⟩

theorem hideBegins (sound : cursor.Sound shown) (thread : Thread) :
    (cursor.hideBegins thread).Sound shown := by
  unfold SoftwareCursor.hideBegins
  split
  · exact sound
  · next idle =>
    split
    · next isVisible => exact sound.begins idle rfl ⟨isVisible, rfl⟩
    · exact sound

theorem imageBegins (sound : cursor.Sound shown) (thread : Thread) (image : CursorImage)
    (written : Bool) : (cursor.imageBegins thread image written).Sound shown := by
  unfold SoftwareCursor.imageBegins
  split
  · exact sound
  · next idle =>
    split
    · exact sound.begins idle rfl ⟨rfl, rfl⟩
    · exact sound

theorem moveTo (sound : cursor.Sound shown) (thread : Thread) (position : Point) :
    (cursor.moveTo thread position).Sound shown := by
  unfold SoftwareCursor.moveTo
  split
  · next id idle _ => exact sound.begins idle rfl rfl
  · exact sound

/-- A call that neither toggles nor holds anything can leave. -/
theorem moveTells (sound : cursor.Sound shown) (thread : Thread) :
    (cursor.moveTells thread).Sound shown := by
  unfold SoftwareCursor.moveTells
  split
  · next isMoved =>
    obtain ⟨before, after, entries, -, -, left⟩ := cursor.calls.split isMoved
    refine ⟨?_, ?_, sound.strays⟩
    · have leads := sound.leads
      rw [entries, leads_append] at leads
      show Leads (cursor.calls.leave thread).entries shown cursor.visible
      rw [left, leads_append]
      exact leads
    · have overlays := sound.overlays
      rw [entries] at overlays
      show cursor.overlays.Perm (cursor.base shown ++ heldBy (cursor.calls.leave thread).entries)
      rw [left]
      simpa [heldBy, Phase.held] using overlays
  · exact sound

theorem imageRemoves (sound : cursor.Sound shown) (thread : Thread) :
    (cursor.imageRemoves thread).Sound shown := by
  unfold SoftwareCursor.imageRemoves
  split
  · next old isRemoving =>
    obtain ⟨before, after, entries, -, -, left⟩ := cursor.calls.split isRemoving
    have leads := sound.leads
    rw [entries, leads_append] at leads
    have overlays : cursor.overlays.Perm
        ((cursor.base shown ++ heldBy before) ++ old :: heldBy after) := by
      have overlays := sound.overlays
      rw [entries] at overlays
      simpa [heldBy, Phase.held] using overlays
    rw [removeInputVisualization_of_perm overlays]
    refine ⟨?_, ?_, sound.strays⟩
    · show Leads (cursor.calls.leave thread).entries shown cursor.visible
      rw [left, leads_append]
      exact leads
    · show (cursor.overlays.erase old).Perm
        (cursor.base shown ++ heldBy (cursor.calls.leave thread).entries)
      rw [left]
      simpa [heldBy] using perm_erase overlays
  · exact sound

theorem imageAdds (sound : cursor.Sound shown) (thread : Thread) :
    (cursor.imageAdds thread).Sound shown := by
  unfold SoftwareCursor.imageAdds
  split
  · next image hotspot oldVisibility isAdding =>
    obtain ⟨before, after, entries, -, changed, -⟩ := cursor.calls.split isAdding
    refine ⟨?_, ?_, sound.strays⟩
    · have leads := sound.leads
      rw [entries, leads_append] at leads
      show Leads (cursor.calls.change thread _).entries shown cursor.visible
      rw [changed, leads_append]
      exact leads
    · have overlays := sound.overlays
      rw [entries] at overlays
      show (cursor.overlays ++ [image]).Perm
        (cursor.base shown ++ heldBy (cursor.calls.change thread _).entries)
      rw [changed]
      have with_image := overlays.append_right [image]
      refine with_image.trans (List.perm_iff_count.mpr fun id => ?_)
      simp only [heldBy, List.flatMap_append, List.flatMap_cons, Phase.held, List.nil_append,
        List.count_append]
      omega
  · exact sound

theorem showAdds (sound : cursor.Sound shown) (thread : Thread)
    (inTurn : cursor.InTurn (.showAdds thread)) :
    ∃ later, (cursor.showAdds thread).Sound later := by
  unfold SoftwareCursor.showAdds
  split
  · next isShowing =>
    obtain ⟨before, after, entries, ahead, -, left⟩ := cursor.calls.split isShowing
    have letPass := inTurn _ isShowing
    rw [ahead] at letPass
    have leads := sound.leads
    rw [entries] at leads
    obtain ⟨rfl, leadsOn⟩ := leads.passed rfl letPass
    have overlays : cursor.overlays.Perm (heldBy (before ++ after)) := by
      have overlays := sound.overlays
      rw [entries] at overlays
      simpa [heldBy, Phase.held, base] using overlays
    rw [← left] at leadsOn overlays
    split
    · next id stored =>
      refine ⟨true, leadsOn, ?_, sound.strays⟩
      show (cursor.overlays ++ [id]).Perm (cursor.renderable.toList ++ heldBy _)
      rw [stored]
      exact (overlays.append_right [id]).trans List.perm_append_comm
    · next absent =>
      refine ⟨true, leadsOn, ?_, sound.strays⟩
      show cursor.overlays.Perm (cursor.renderable.toList ++ heldBy _)
      rw [absent]
      exact overlays
  · exact ⟨shown, sound⟩

theorem hideRemoves (sound : cursor.Sound shown) (thread : Thread)
    (inTurn : cursor.InTurn (.hideRemoves thread)) :
    ∃ later, (cursor.hideRemoves thread).Sound later := by
  unfold SoftwareCursor.hideRemoves
  split
  · next isHiding =>
    obtain ⟨before, after, entries, ahead, -, left⟩ := cursor.calls.split isHiding
    have letPass := inTurn _ isHiding
    rw [ahead] at letPass
    have leads := sound.leads
    rw [entries] at leads
    obtain ⟨rfl, leadsOn⟩ := leads.passed rfl letPass
    have overlays : cursor.overlays.Perm
        (cursor.renderable.toList ++ heldBy (before ++ after)) := by
      have overlays := sound.overlays
      rw [entries] at overlays
      simpa [heldBy, Phase.held, base] using overlays
    rw [← left] at leadsOn overlays
    split
    · next id stored =>
      rw [stored] at overlays
      have withoutBase : cursor.overlays.Perm ([] ++ id :: heldBy _) := overlays
      rw [removeInputVisualization_of_perm withoutBase]
      exact ⟨false, leadsOn, perm_erase withoutBase, sound.strays⟩
    · next absent =>
      rw [absent] at overlays
      exact ⟨false, leadsOn, overlays, sound.strays⟩
  · exact ⟨shown, sound⟩

theorem imageSwaps (sound : cursor.Sound shown) (thread : Thread)
    (inTurn : cursor.InTurn (.imageSwaps thread)) :
    ∃ later, (cursor.imageSwaps thread).Sound later := by
  unfold SoftwareCursor.imageSwaps
  split
  · next image hotspot oldVisibility isSwapping =>
    obtain ⟨before, after, entries, ahead, changed, left⟩ := cursor.calls.split isSwapping
    have letPass := inTurn _ isSwapping
    rw [ahead] at letPass
    have leads := sound.leads
    rw [entries] at leads
    obtain ⟨same, leadsOn⟩ := leads.passed rfl letPass
    have overlays := sound.overlays
    rw [entries, same] at overlays
    have withImage : ∀ id, cursor.overlays.count id =
        (cursor.base oldVisibility).count id + (heldBy before).count id + [image].count id +
          (heldBy after).count id := by
      intro id
      rw [overlays.count_eq]
      simp only [heldBy, List.flatMap_append, List.flatMap_cons, Phase.held, List.count_append]
      omega
    -- nothing of what was stored is in the scene, so that nothing is left to remove
    have leaves (nothing : cursor.base oldVisibility = []) :
        Sound { cursor with
          renderable := some image
          hotspot := hotspot
          calls := cursor.calls.leave thread } true := by
      refine ⟨?_, List.perm_iff_count.mpr fun id => ?_, sound.strays⟩
      · show Leads (cursor.calls.leave thread).entries true cursor.visible
        rw [left]
        exact leadsOn
      · show cursor.overlays.count id =
          ([image] ++ heldBy (cursor.calls.leave thread).entries).count id
        rw [withImage, left, nothing]
        simp only [heldBy, List.flatMap_append, List.count_append, List.count_nil]
        omega
    cases stored : cursor.renderable with
    | none =>
      refine ⟨true, leaves ?_⟩
      rw [base, stored]
      split <;> rfl
    | some old =>
      cases oldVisibility with
      | false => exact ⟨true, leaves rfl⟩
      | true =>
        refine ⟨true, ?_, List.perm_iff_count.mpr fun id => ?_, sound.strays⟩
        · show Leads (cursor.calls.change thread _).entries true cursor.visible
          rw [changed, leads_settled rfl]
          exact leadsOn
        · show cursor.overlays.count id =
            ([image] ++ heldBy (cursor.calls.change thread _).entries).count id
          rw [withImage, changed, base, if_pos rfl, stored]
          simp only [heldBy, List.flatMap_append, List.flatMap_cons, Phase.held,
            List.count_append, Option.toList_some]
          omega
  · exact ⟨shown, sound⟩

theorem step (sound : cursor.Sound shown) (op : Op Thread) (inTurn : cursor.InTurn op) :
    ∃ later, (cursor.step op).Sound later := by
  cases op with
  | showBegins thread => exact ⟨shown, sound.showBegins thread⟩
  | showAdds thread => exact sound.showAdds thread inTurn
  | hideBegins thread => exact ⟨shown, sound.hideBegins thread⟩
  | hideRemoves thread => exact sound.hideRemoves thread inTurn
  | imageBegins thread image written => exact ⟨shown, sound.imageBegins thread image written⟩
  | imageAdds thread => exact ⟨shown, sound.imageAdds thread⟩
  | imageSwaps thread => exact sound.imageSwaps thread inTurn
  | imageRemoves thread => exact ⟨shown, sound.imageRemoves thread⟩
  | moveTo thread position => exact ⟨shown, sound.moveTo thread position⟩
  | moveTells thread => exact ⟨shown, sound.moveTells thread⟩

end Sound

section Runs

variable [DecidableEq Thread]

/-- In every run in which no call overtakes another, the scene is at rest as the cursor wants it. -/
theorem settled_of_inTurn {cursor : SoftwareCursor Thread}
    (reached : Transition.Reaches SoftwareCursor.step InTurn SoftwareCursor.new cursor) :
    cursor.Settled := by
  have sound : ∃ shown, cursor.Sound shown := by
    induction reached with
    | start => exact ⟨false, .new⟩
    | step op _ inTurn inductionHypothesis =>
      obtain ⟨shown, sound⟩ := inductionHypothesis
      exact sound.step op inTurn
  obtain ⟨shown, sound⟩ := sound
  exact sound.settled

/-- An image of sixteen by sixteen pixels. -/
def smallImage : CursorImage := ⟨⟨16, 16⟩, ⟨0, 0⟩⟩

/-- The cursor is hidden while its first image is shown, and both take their turns. -/
def hiddenInTurn : List (Op Nat) :=
  [.imageBegins 0 smallImage true, .hideBegins 1, .imageAdds 0, .imageSwaps 0, .hideRemoves 1]

theorem settled_hiddenInTurn :
    (hiddenInTurn.foldl SoftwareCursor.step SoftwareCursor.new).Settled := by
  refine settled_of_inTurn (.foldl .start hiddenInTurn ⟨trivial, trivial, trivial, ?_, ?_, trivial⟩)
  · intro call _ earlier member
    exact absurd (show earlier ∈ [] from member) List.not_mem_nil
  · intro call _ earlier member
    exact absurd (show earlier ∈ [] from member) List.not_mem_nil

/-- The cursor is hidden, before the image that is being shown is stored: the image stays in the
scene. -/
theorem image_stays_after_hide :
    ¬ ∀ ops : List (Op Nat), (ops.foldl SoftwareCursor.step SoftwareCursor.new).Settled := by
  intro always
  have settled := always [.imageBegins 0 smallImage true, .imageAdds 0, .hideBegins 1,
    .hideRemoves 1, .imageSwaps 0]
  exact absurd (settled.overlays rfl) (by decide)

end Runs

end SoftwareCursor

end Mir.Graphics

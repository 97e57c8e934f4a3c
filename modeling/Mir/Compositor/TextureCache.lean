/-
This file models `mgl::RecentlyUsedCache`, in which a renderer keeps the textures of the
renderables it draws, and the system around it: a stream of software buffers, its client,
which writes into the buffers that it owns, and any number of compositors, each with a cache.

`load` decides by the id of a buffer whether it has to upload the pixels. A renderer loads
each renderable that it draws and then drops what was not used, once for each frame that it
composites, and it invalidates the cache when a frame is composited without it. A texture is
known here by what was uploaded to it last, and `ShmBuffer::bind` uploads the pixels of the
buffer. The pixel formats and the texture's name, parameters and binding are left out.

The buffer of a renderable is the handle that `lock_compositor_buffer` returned, a `Frame`.
The pixels of each submission, and the results of the loads, are recorded for the statements
only; no operation reads them.
-/

import Mathlib.Logic.Function.Basic
import Mir.Compositor.Conservation

namespace Mir.Compositor

/-- The identity of a renderable, an address in the source. -/
abbrev RenderableID := Nat

inductive LoadError
  | doesNotSupportGLRendering
  deriving DecidableEq, Repr

/-- The text of each error. -/
def LoadError.what : LoadError → String
  | .doesNotSupportGLRendering => "Buffer does not support GL rendering"

namespace RecentlyUsedCache

/-- A renderable as a cache sees it, with what its buffer uploads when it is bound, if it can be
bound. -/
structure Renderable (Pixels : Type) where
  id : RenderableID
  frame : Frame
  textureSource : Option Pixels

/-- A texture, with what was uploaded to it last, and what it was uploaded from. -/
structure Entry (Pixels : Type) where
  texture : Option Pixels
  lastBoundBuffer : BufferID
  used : Bool
  validBinding : Bool
  resource : Option Frame
  deriving DecidableEq

namespace Entry

variable {Pixels : Type}

def new : Entry Pixels where
  texture := none
  lastBoundBuffer := 0
  used := true
  validBinding := false
  resource := none

/-- Whether a buffer has to be uploaded, which its id decides. -/
def needsBind (entry : Entry Pixels) (buffer : BufferID) : Prop :=
  entry.lastBoundBuffer ≠ buffer ∨ entry.validBinding = false

instance (entry : Entry Pixels) : DecidablePred entry.needsBind :=
  fun buffer => inferInstanceAs (Decidable (entry.lastBoundBuffer ≠ buffer ∨ _))

/-- The entry after a buffer with these pixels has been loaded. -/
def load (entry : Entry Pixels) (frame : Frame) (pixels : Pixels) : Entry Pixels :=
  let bound : Entry Pixels :=
    if entry.needsBind frame.buffer then
      { entry with
        texture := some pixels
        resource := some frame
        lastBoundBuffer := frame.buffer }
    else entry
  { bound with validBinding := true, used := true }

/-- An entry that was used lets go of its buffer; one that was not used goes. -/
def dropUnused (entry : Entry Pixels) : Option (Entry Pixels) :=
  if entry.used = true then some { entry with resource := none, used := false } else none

/-- A load that uploads leaves the pixels of the buffer. -/
theorem load_texture_of_needsBind {entry : Entry Pixels} {frame : Frame}
    (needs : entry.needsBind frame.buffer) (pixels : Pixels) :
    (entry.load frame pixels).texture = some pixels := by
  rw [load, if_pos needs]

/-- A load that does not upload leaves what there was. -/
theorem load_texture_of_not_needsBind {entry : Entry Pixels} {frame : Frame}
    (has : ¬ entry.needsBind frame.buffer) (pixels : Pixels) :
    (entry.load frame pixels).texture = entry.texture := by
  rw [load, if_neg has]

end Entry

end RecentlyUsedCache

/-- The textures of a renderer, by the ids of the renderables. -/
structure RecentlyUsedCache (Pixels : Type) where
  textures : RenderableID → Option (RecentlyUsedCache.Entry Pixels)

namespace RecentlyUsedCache

variable {Pixels : Type}

def new : RecentlyUsedCache Pixels := ⟨fun _ => none⟩

/-- The entry of a renderable, which is a new one if there is none. -/
def entry (cache : RecentlyUsedCache Pixels) (id : RenderableID) : Entry Pixels :=
  (cache.textures id).getD .new

def set (cache : RecentlyUsedCache Pixels) (id : RenderableID) (entry : Entry Pixels) :
    RecentlyUsedCache Pixels :=
  ⟨Function.update cache.textures id (some entry)⟩

/-- Brings the texture of a renderable up to date and returns what it holds. -/
def load (cache : RecentlyUsedCache Pixels) (renderable : Renderable Pixels) :
    RecentlyUsedCache Pixels × Except LoadError (Option Pixels) :=
  let texture := cache.entry renderable.id
  match renderable.textureSource with
  | none => (cache.set renderable.id texture, .error .doesNotSupportGLRendering)
  | some pixels =>
    let loaded := texture.load renderable.frame pixels
    (cache.set renderable.id loaded, .ok loaded.texture)

/-- Marks every texture as out of date. -/
def invalidate (cache : RecentlyUsedCache Pixels) : RecentlyUsedCache Pixels :=
  ⟨fun id => (cache.textures id).map fun entry => { entry with validBinding := false }⟩

/-- Drops the textures that were not used since the last time. -/
def dropUnused (cache : RecentlyUsedCache Pixels) : RecentlyUsedCache Pixels :=
  ⟨fun id => (cache.textures id).bind Entry.dropUnused⟩

@[simp] theorem set_textures_self (cache : RecentlyUsedCache Pixels) (id : RenderableID)
    (entry : Entry Pixels) : (cache.set id entry).textures id = some entry :=
  Function.update_self ..

theorem set_textures_other (cache : RecentlyUsedCache Pixels) {id other : RenderableID}
    (different : other ≠ id) (entry : Entry Pixels) :
    (cache.set id entry).textures other = cache.textures other :=
  Function.update_of_ne different ..

/-- A load touches no texture but the renderable's own. -/
theorem load_textures_other (cache : RecentlyUsedCache Pixels) (renderable : Renderable Pixels)
    {other : RenderableID} (different : other ≠ renderable.id) :
    (cache.load renderable).1.textures other = cache.textures other := by
  unfold load
  cases renderable.textureSource with
  | none => exact cache.set_textures_other different _
  | some pixels => exact cache.set_textures_other different _

/-- A texture that is still there after a drop holds what it held. -/
theorem dropUnused_textures {cache : RecentlyUsedCache Pixels} {id : RenderableID}
    {entry : Entry Pixels} (stays : entry ∈ cache.dropUnused.textures id) :
    ∃ before ∈ cache.textures id, entry.texture = before.texture ∧
      entry.validBinding = before.validBinding := by
  obtain ⟨before, present, kept⟩ := Option.bind_eq_some_iff.mp stays
  refine ⟨before, present, ?_⟩
  unfold Entry.dropUnused at kept
  split at kept
  · cases kept
    exact ⟨rfl, rfl⟩
  · cases kept

/-- No texture is up to date after all were marked. -/
theorem invalidate_textures {cache : RecentlyUsedCache Pixels} {id : RenderableID}
    {entry : Entry Pixels} (stays : entry ∈ cache.invalidate.textures id) :
    entry.validBinding = false := by
  obtain ⟨before, -, rfl⟩ := Option.map_eq_some_iff.mp stays
  rfl

end RecentlyUsedCache

/-! ### The system -/

/-- What a compositor loaded, and what the texture held afterwards. -/
structure Load (Pixels : Type) where
  compositor : CompositorID
  frame : Frame
  texture : Except LoadError (Option Pixels)

/-- A stream with its users, the pixels of its buffers and the compositors' caches. -/
structure Rendering (Pixels : Type) where
  world : World
  pixels : BufferID → Pixels
  /-- The pixels of each submission, by its number. -/
  submitted : Nat → Option Pixels
  /-- The pixels each buffer was last submitted with. -/
  lastSubmitted : BufferID → Option Pixels
  caches : CompositorID → RecentlyUsedCache Pixels
  /-- The loads of the stream's renderable, the newest first. -/
  loads : List (Load Pixels)

/-- What the client and the compositors may do: a step of the stream, a write of the client into
a buffer, and what a renderer does with its cache. -/
inductive RenderOp (Pixels : Type)
  | stream (op : Op)
  | write (buffer : BufferID) (pixels : Pixels)
  | load (id : CompositorID) (frame : Frame)
  | loadOther (id : CompositorID) (renderable : RecentlyUsedCache.Renderable Pixels)
  | dropUnused (id : CompositorID)
  | suspend (id : CompositorID)

namespace Rendering

variable {Pixels : Type}

def initial (buffers : BufferMap) (pixels : BufferID → Pixels) : Rendering Pixels where
  world := World.initial buffers
  pixels := pixels
  submitted := fun _ => none
  lastSubmitted := fun _ => none
  caches := fun _ => .new
  loads := []

/-- The last load of a compositor. -/
def lastLoad (rendering : Rendering Pixels) (id : CompositorID) : Option (Load Pixels) :=
  rendering.loads.find? fun load => load.compositor = id

/-- A step of the stream. A submission is recorded with the pixels that the buffer has. -/
def streamStep (rendering : Rendering Pixels) (op : Op) : Rendering Pixels :=
  let stepped : Rendering Pixels := { rendering with world := rendering.world.step op }
  match op.submittedBuffer with
  | none => stepped
  | some buffer =>
    let pixels := some (rendering.pixels buffer)
    { stepped with
      submitted := Function.update rendering.submitted rendering.world.submissions pixels
      lastSubmitted := Function.update rendering.lastSubmitted buffer pixels }

/-- A compositor loads the renderable of the stream, with the buffer it was given. -/
def loadFrame (surface : RenderableID) (rendering : Rendering Pixels) (id : CompositorID)
    (frame : Frame) : Rendering Pixels :=
  let loaded :=
    (rendering.caches id).load ⟨surface, frame, some (rendering.pixels frame.buffer)⟩
  { rendering with
    caches := Function.update rendering.caches id loaded.1
    loads := ⟨id, frame, loaded.2⟩ :: rendering.loads }

/-- A compositor changes its cache. -/
def setCache (rendering : Rendering Pixels) (id : CompositorID)
    (cache : RecentlyUsedCache Pixels) : Rendering Pixels :=
  { rendering with caches := Function.update rendering.caches id cache }

/-- One step of the system, for the renderable of the stream. -/
def step (surface : RenderableID) (rendering : Rendering Pixels) :
    RenderOp Pixels → Rendering Pixels
  | .stream op => rendering.streamStep op
  | .write buffer pixels =>
    { rendering with pixels := Function.update rendering.pixels buffer pixels }
  | .load id frame => rendering.loadFrame surface id frame
  | .loadOther id renderable =>
    rendering.setCache id ((rendering.caches id).load renderable).1
  | .dropUnused id => rendering.setCache id (rendering.caches id).dropUnused
  | .suspend id => rendering.setCache id (rendering.caches id).invalidate

/-- The client submits and writes only what it owns, and a compositor loads only what it was
given and still holds. The other renderables have ids of their own. -/
def Behaves (surface : RenderableID) (rendering : Rendering Pixels) : RenderOp Pixels → Prop
  | .stream op => SubmitsOwned rendering.world op
  | .write buffer _ => clientOwns rendering.world.trace buffer = true
  | .load id frame => (id, frame) ∈ rendering.world.given ∧ frame ∈ rendering.world.held
  | .loadOther _ renderable => renderable.id ≠ surface
  | .dropUnused _ | .suspend _ => True

/-- The client changes the pixels of a buffer before it submits it again. -/
def ChangesPixels (rendering : Rendering Pixels) : RenderOp Pixels → Prop
  | .stream op => ∀ buffer ∈ op.submittedBuffer,
      rendering.lastSubmitted buffer ≠ some (rendering.pixels buffer)
  | _ => True

/-- A load uploads the pixels, or the compositor last loaded a submission with the same ones. -/
def UploadsOrRepeats (surface : RenderableID) (rendering : Rendering Pixels) :
    RenderOp Pixels → Prop
  | .load id frame => ∀ entry ∈ (rendering.caches id).textures surface,
      ¬ entry.needsBind frame.buffer → ∀ last ∈ rendering.lastLoad id,
        rendering.submitted last.frame.submission = rendering.submitted frame.submission
  | _ => True

/-- After each load the texture held the pixels of the submission that the compositor was
given. -/
def TexturesFresh (rendering : Rendering Pixels) : Prop :=
  ∀ load ∈ rendering.loads, ∃ pixels,
    rendering.submitted load.frame.submission = some pixels ∧ load.texture = .ok (some pixels)

instance (surface : RenderableID) (rendering : Rendering Pixels) :
    DecidablePred (rendering.Behaves surface)
  | .stream op => inferInstanceAs (Decidable (SubmitsOwned rendering.world op))
  | .write _ _ => inferInstanceAs (Decidable (_ = true))
  | .load _ _ => inferInstanceAs (Decidable (_ ∧ _))
  | .loadOther _ _ => inferInstanceAs (Decidable (_ ≠ _))
  | .dropUnused _ | .suspend _ => inferInstanceAs (Decidable True)

instance [DecidableEq Pixels] (rendering : Rendering Pixels) :
    DecidablePred rendering.ChangesPixels
  | .stream op => inferInstanceAs (Decidable (∀ buffer ∈ op.submittedBuffer, _))
  | .write _ _ | .load _ _ | .loadOther _ _ | .dropUnused _ | .suspend _ =>
    inferInstanceAs (Decidable True)

instance [DecidableEq Pixels] (surface : RenderableID) (rendering : Rendering Pixels) :
    DecidablePred (rendering.UploadsOrRepeats surface)
  | .load id frame => inferInstanceAs (Decidable (∀ entry ∈ (rendering.caches id).textures surface,
      ¬ entry.needsBind frame.buffer → ∀ last ∈ rendering.lastLoad id, _))
  | .stream _ | .write _ _ | .loadOther _ _ | .dropUnused _ | .suspend _ =>
    inferInstanceAs (Decidable True)

end Rendering

end Mir.Compositor

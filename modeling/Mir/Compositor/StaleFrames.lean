/-
This file proves when the textures of the compositors hold the pixels that the client
submitted. A cache takes the id of a buffer for its pixels: a compositor that is given a buffer
again, and has loaded no other in between, does not upload it, also when the client got the
buffer back and submitted it with new pixels. A compositor that composites every frame loads
another buffer in between; one of several monitors, or a slow one, may not.

The client writes only what the server does not have, so each frame in the server's hands keeps
the pixels it was submitted with. What a cache holds is what its compositor loaded last.
-/

import Mir.Compositor.ServerFrames
import Mir.Compositor.TextureCache

namespace Mir.Compositor

namespace Rendering

variable {Pixels : Type}

/-- Each frame in the server's hands has the pixels it was submitted with, and what a cache
would not upload is what its compositor loaded last. -/
structure Kept (surface : RenderableID) (rendering : Rendering Pixels) : Prop where
  balanced : Balanced rendering.world
  frames : ∀ frame ∈ rendering.world.stream.serverFrames,
    frame.submission < rendering.world.submissions ∧
      rendering.submitted frame.submission = some (rendering.pixels frame.buffer)
  loaded : ∀ load ∈ rendering.loads, load.frame.submission < rendering.world.submissions
  remembered : ∀ id, ∀ entry ∈ (rendering.caches id).textures surface,
    entry.validBinding = true →
      ∃ last ∈ rendering.lastLoad id, last.texture = .ok entry.texture

theorem kept_initial (surface : RenderableID) (buffers : BufferMap) (pixels : BufferID → Pixels) :
    (initial buffers pixels).Kept surface where
  balanced := balanced_initial buffers
  frames _ present := nomatch present
  loaded _ member := nomatch member
  remembered _ _ present := nomatch present

namespace Kept

variable {surface : RenderableID} {rendering : Rendering Pixels}

/-- A frame that is held is in the server's hands. -/
theorem held_present (kept : rendering.Kept surface) {frame : Frame}
    (held : frame ∈ rendering.world.held) : frame ∈ rendering.world.stream.serverFrames :=
  List.mem_append_right _
    (kept.balanced.tracked.counted.listed frame (List.mem_append_left _ held))

/-! ### The steps of the stream and of the client -/

end Kept

variable {surface : RenderableID} {rendering : Rendering Pixels}

@[simp] theorem streamStep_world (op : Op) :
    (rendering.streamStep op).world = rendering.world.step op := by
  unfold streamStep
  cases op.submittedBuffer <;> rfl

@[simp] theorem streamStep_pixels (op : Op) :
    (rendering.streamStep op).pixels = rendering.pixels := by
  unfold streamStep
  cases op.submittedBuffer <;> rfl

@[simp] theorem streamStep_caches (op : Op) :
    (rendering.streamStep op).caches = rendering.caches := by
  unfold streamStep
  cases op.submittedBuffer <;> rfl

@[simp] theorem streamStep_loads (op : Op) :
    (rendering.streamStep op).loads = rendering.loads := by
  unfold streamStep
  cases op.submittedBuffer <;> rfl

/-- What was submitted before stays recorded. -/
theorem streamStep_submitted (op : Op) {number : Nat}
    (older : number < rendering.world.submissions) :
    (rendering.streamStep op).submitted number = rendering.submitted number := by
  unfold streamStep
  cases op.submittedBuffer with
  | none => rfl
  | some buffer => exact Function.update_of_ne (Nat.ne_of_lt older) ..

/-- A submission is recorded with the pixels of its buffer. -/
theorem streamStep_submitted_new {op : Op} {buffer : BufferID}
    (submits : op.submittedBuffer = some buffer) :
    (rendering.streamStep op).submitted rendering.world.submissions =
      some (rendering.pixels buffer) := by
  unfold streamStep
  rw [submits]
  exact Function.update_self ..

namespace Kept

theorem stream (kept : rendering.Kept surface) {op : Op}
    (owned : SubmitsOwned rendering.world op) : (rendering.streamStep op).Kept surface := by
  have brings := World.step_brings kept.balanced.tracked op
  refine ⟨?_, fun frame present => ?_, fun load member => ?_, fun id entry present valid => ?_⟩
  · rw [streamStep_world]
    exact kept.balanced.step op owned
  · rw [streamStep_world] at present ⊢
    rw [streamStep_pixels]
    rcases brings.frames frame present with before | ⟨submits, number, more⟩
    · obtain ⟨older, pixels⟩ := kept.frames frame before
      exact ⟨Nat.lt_of_lt_of_le older brings.submissions_le,
        (streamStep_submitted op older).trans pixels⟩
    · rw [number]
      exact ⟨more, streamStep_submitted_new submits⟩
  · rw [streamStep_loads] at member
    rw [streamStep_world]
    exact Nat.lt_of_lt_of_le (kept.loaded load member) brings.submissions_le
  · rw [streamStep_caches] at present
    rw [lastLoad, streamStep_loads]
    exact kept.remembered id entry present valid

/-- The client writes into a buffer that the server does not have. -/
theorem write (kept : rendering.Kept surface) {buffer : BufferID}
    (owns : clientOwns rendering.world.trace buffer = true) (pixels : Pixels) :
    Kept surface { rendering with pixels := Function.update rendering.pixels buffer pixels } := by
  have away := (kept.balanced.owned buffer).mp owns
  exact { kept with
    frames := fun frame present => by
      obtain ⟨older, same⟩ := kept.frames frame present
      have different : frame.buffer ≠ buffer := by
        rintro rfl
        exact away (mem_serverBuffers_of_mem_serverFrames present)
      refine ⟨older, same.trans (congrArg some ?_)⟩
      exact (Function.update_of_ne different ..).symm }

/-! ### The steps of a renderer -/

/-- A renderer may forget its texture, or keep what it holds. -/
theorem setCache (kept : rendering.Kept surface) (id : CompositorID)
    {cache : RecentlyUsedCache Pixels}
    (keeps : ∀ entry ∈ cache.textures surface, entry.validBinding = true →
      ∃ before ∈ (rendering.caches id).textures surface,
        entry.texture = before.texture ∧ before.validBinding = true) :
    (rendering.setCache id cache).Kept surface := by
  exact { kept with
    remembered := fun other entry present valid => by
      by_cases same : other = id
      · subst same
        have present : entry ∈ (Function.update rendering.caches other cache other).textures
            surface := present
        rw [Function.update_self] at present
        obtain ⟨before, known, texture, wasValid⟩ := keeps entry present valid
        rw [texture]
        exact kept.remembered other before known wasValid
      · have present : entry ∈ (Function.update rendering.caches id cache other).textures
            surface := present
        rw [Function.update_of_ne same] at present
        exact kept.remembered other entry present valid }

theorem loadOther (kept : rendering.Kept surface) (id : CompositorID)
    {renderable : RecentlyUsedCache.Renderable Pixels} (different : renderable.id ≠ surface) :
    (rendering.setCache id ((rendering.caches id).load renderable).1).Kept surface := by
  refine kept.setCache id fun entry present valid => ⟨entry, ?_, rfl, valid⟩
  rwa [RecentlyUsedCache.load_textures_other _ _ different.symm] at present

theorem dropUnused (kept : rendering.Kept surface) (id : CompositorID) :
    (rendering.setCache id (rendering.caches id).dropUnused).Kept surface := by
  refine kept.setCache id fun entry present valid => ?_
  obtain ⟨before, known, texture, same⟩ := RecentlyUsedCache.dropUnused_textures present
  exact ⟨before, known, texture, same ▸ valid⟩

theorem suspend (kept : rendering.Kept surface) (id : CompositorID) :
    (rendering.setCache id (rendering.caches id).invalidate).Kept surface := by
  refine kept.setCache id fun entry present valid => ?_
  rw [RecentlyUsedCache.invalidate_textures present] at valid
  cases valid

end Kept

/-! ### A load -/

/-- The entry of the stream's renderable after a load. -/
def loadedEntry (surface : RenderableID) (rendering : Rendering Pixels) (id : CompositorID)
    (frame : Frame) : RecentlyUsedCache.Entry Pixels :=
  ((rendering.caches id).entry surface).load frame (rendering.pixels frame.buffer)

theorem loadFrame_caches_self (id : CompositorID) (frame : Frame) :
    ((rendering.loadFrame surface id frame).caches id).textures surface =
      some (rendering.loadedEntry surface id frame) := by
  show (Function.update rendering.caches id _ id).textures surface = _
  rw [Function.update_self]
  exact RecentlyUsedCache.set_textures_self ..

theorem loadFrame_caches_other {id other : CompositorID} (different : other ≠ id)
    (frame : Frame) :
    (rendering.loadFrame surface id frame).caches other = rendering.caches other :=
  Function.update_of_ne different ..

/-- A compositor that loads a frame it holds keeps the invariant. -/
theorem Kept.load (kept : rendering.Kept surface) (id : CompositorID) {frame : Frame}
    (held : frame ∈ rendering.world.held) : (rendering.loadFrame surface id frame).Kept surface :=
  { kept with
    loaded := fun load member => by
      rcases List.mem_cons.mp member with rfl | before
      · exact (kept.frames frame (kept.held_present held)).1
      · exact kept.loaded load before
    remembered := fun other entry present valid => by
      by_cases same : other = id
      · subst same
        rw [loadFrame_caches_self, Option.mem_some_iff] at present
        subst present
        refine ⟨_, List.find?_cons_of_pos (decide_eq_true rfl), rfl⟩
      · rw [loadFrame_caches_other same] at present
        obtain ⟨last, isLast, texture⟩ := kept.remembered other entry present valid
        refine ⟨last, (List.find?_cons_of_neg ?_).trans isLast, texture⟩
        simpa using Ne.symm same }

/-- The texture after a load: the pixels of the buffer if they were uploaded, and otherwise those
of the compositor's last load. -/
theorem Kept.loadedEntry_texture (kept : rendering.Kept surface) (fresh : rendering.TexturesFresh)
    (id : CompositorID) {frame : Frame} (held : frame ∈ rendering.world.held) :
    (rendering.loadedEntry surface id frame).texture = some (rendering.pixels frame.buffer) ↔
      rendering.UploadsOrRepeats surface (.load id frame) := by
  have recorded := (kept.frames frame (kept.held_present held)).2
  have uploads (entry : RecentlyUsedCache.Entry Pixels) (needs : entry.needsBind frame.buffer)
      (known : (rendering.caches id).entry surface = entry) :
      (rendering.loadedEntry surface id frame).texture = some (rendering.pixels frame.buffer) := by
    rw [loadedEntry, known]
    exact RecentlyUsedCache.Entry.load_texture_of_needsBind needs _
  cases present : (rendering.caches id).textures surface with
  | none =>
    have new : (rendering.caches id).entry surface = .new := by
      rw [RecentlyUsedCache.entry, present]
      rfl
    refine iff_of_true (uploads .new (.inr rfl) new) fun entry known => ?_
    rw [present] at known
    cases known
  | some entry =>
    have known : (rendering.caches id).entry surface = entry := by
      rw [RecentlyUsedCache.entry, present]
      rfl
    by_cases needs : entry.needsBind frame.buffer
    · refine iff_of_true (uploads entry needs known) fun other same has => ?_
      rw [present, Option.mem_some_iff] at same
      exact absurd needs (same ▸ has)
    · have valid : entry.validBinding = true := by
        by_contra outdated
        exact needs (.inr (Bool.not_eq_true _ ▸ outdated))
      obtain ⟨last, isLast, texture⟩ := kept.remembered id entry present valid
      obtain ⟨pixels, submitted, shown⟩ := fresh last (List.mem_of_find?_eq_some isLast)
      have holds : entry.texture = some pixels := Except.ok.inj (texture.symm.trans shown)
      rw [loadedEntry, known, RecentlyUsedCache.Entry.load_texture_of_not_needsBind needs, holds,
        ← submitted, ← recorded]
      constructor
      · intro same _ _ _ other isOther
        rw [Option.mem_unique isOther isLast]
        exact same
      · exact fun repeats => repeats entry present needs last isLast

/-- A load keeps the textures fresh exactly if it uploads or repeats. -/
theorem Kept.texturesFresh_load_iff (kept : rendering.Kept surface)
    (fresh : rendering.TexturesFresh) (id : CompositorID) {frame : Frame}
    (held : frame ∈ rendering.world.held) :
    (rendering.loadFrame surface id frame).TexturesFresh ↔
      rendering.UploadsOrRepeats surface (.load id frame) := by
  rw [← kept.loadedEntry_texture fresh id held]
  have recorded := (kept.frames frame (kept.held_present held)).2
  constructor
  · intro after
    obtain ⟨pixels, submitted, shown⟩ := after _ List.mem_cons_self
    rw [← recorded]
    exact (Except.ok.inj shown).trans submitted.symm
  · intro texture load member
    rcases List.mem_cons.mp member with rfl | before
    · exact ⟨_, recorded, congrArg Except.ok texture⟩
    · exact fresh load before

/-! ### Every run -/

/-- Every step of a client and of compositors that behave keeps the invariant. -/
theorem Kept.step (kept : rendering.Kept surface) {op : RenderOp Pixels}
    (behaves : rendering.Behaves surface op) : (rendering.step surface op).Kept surface := by
  cases op with
  | stream op => exact kept.stream behaves
  | write buffer pixels => exact kept.write behaves pixels
  | load id frame => exact kept.load id behaves.2
  | loadOther id renderable => exact kept.loadOther id behaves
  | dropUnused id => exact kept.dropUnused id
  | suspend id => exact kept.suspend id

/-- A step keeps the textures fresh exactly if it is no load, or one that uploads or repeats. -/
theorem Kept.texturesFresh_step_iff (kept : rendering.Kept surface)
    (fresh : rendering.TexturesFresh) {op : RenderOp Pixels}
    (behaves : rendering.Behaves surface op) :
    (rendering.step surface op).TexturesFresh ↔ rendering.UploadsOrRepeats surface op := by
  cases op with
  | stream op =>
    refine iff_of_true (fun load member => ?_) trivial
    rw [Rendering.step, streamStep_loads] at member
    obtain ⟨pixels, submitted, shown⟩ := fresh load member
    exact ⟨pixels, (streamStep_submitted op (kept.loaded load member)).trans submitted, shown⟩
  | load id frame => exact kept.texturesFresh_load_iff fresh id behaves.2
  | write _ _ => exact iff_of_true fresh trivial
  | loadOther _ _ => exact iff_of_true fresh trivial
  | dropUnused _ => exact iff_of_true fresh trivial
  | suspend _ => exact iff_of_true fresh trivial

/-- In every run in which the client writes and submits only what it owns, and in which each load
uploads or repeats, after each load the texture held the pixels of the submission that the
compositor was given; and the next step keeps it so exactly if it uploads or repeats too. -/
theorem textures_fresh (surface : RenderableID) (buffers : BufferMap)
    (pixels : BufferID → Pixels) (rendering : Rendering Pixels)
    (reached : Transition.Reaches (step surface)
      (fun before op => before.Behaves surface op ∧ before.UploadsOrRepeats surface op)
      (initial buffers pixels) rendering) :
    rendering.TexturesFresh ∧ ∀ op, rendering.Behaves surface op →
      ((rendering.step surface op).TexturesFresh ↔ rendering.UploadsOrRepeats surface op) := by
  obtain ⟨kept, fresh⟩ : rendering.Kept surface ∧ rendering.TexturesFresh := by
    induction reached with
    | start => exact ⟨kept_initial surface buffers pixels, fun _ member => nomatch member⟩
    | step op _ permitted inductionHypothesis =>
      obtain ⟨kept, fresh⟩ := inductionHypothesis
      exact ⟨kept.step permitted.1,
        (kept.texturesFresh_step_iff fresh permitted.1).mpr permitted.2⟩
  exact ⟨fresh, fun op behaves => kept.texturesFresh_step_iff fresh behaves⟩

/-- Two monitors show each of two frames. -/
def everyFrame : List (RenderOp Nat) :=
  [.write 0 10, .stream (.submitBuffer (some 0)), .stream (.lockCompositorBuffer 1), .load 1 ⟨0, 0⟩,
    .dropUnused 1, .stream (.lockCompositorBuffer 2), .load 2 ⟨0, 0⟩, .dropUnused 2,
    .stream (.releaseCompositorBuffer ⟨0, 0⟩), .stream (.releaseCompositorBuffer ⟨0, 0⟩),
    .write 1 11, .stream (.submitBuffer (some 1)), .stream (.lockCompositorBuffer 1),
    .load 1 ⟨1, 1⟩, .dropUnused 1]

theorem textures_fresh_everyFrame :
    (everyFrame.foldl (step 7) (initial everyBuffer fun _ => 0)).TexturesFresh :=
  (textures_fresh 7 everyBuffer (fun _ => 0) _
    (Transition.Reaches.start.foldl everyFrame (by decide))).1

/-- Compositor 1 shows the first frame, and compositor 2 the first and the second; the client gets
the first buffer back and draws the third frame into it, which compositor 1 is given next. -/
def missedFrame : List (RenderOp Nat) :=
  [.write 0 10, .stream (.submitBuffer (some 0)), .stream (.lockCompositorBuffer 1), .load 1 ⟨0, 0⟩,
    .dropUnused 1, .stream (.releaseCompositorBuffer ⟨0, 0⟩), .write 1 11,
    .stream (.submitBuffer (some 1)), .stream (.lockCompositorBuffer 2), .load 2 ⟨0, 0⟩,
    .dropUnused 2, .stream (.releaseCompositorBuffer ⟨0, 0⟩), .stream (.lockCompositorBuffer 2),
    .load 2 ⟨1, 1⟩, .dropUnused 2, .stream (.releaseCompositorBuffer ⟨1, 1⟩), .write 0 12,
    .stream (.submitBuffer (some 0)), .stream (.lockCompositorBuffer 2), .load 2 ⟨0, 2⟩,
    .dropUnused 2, .stream (.releaseCompositorBuffer ⟨0, 2⟩), .stream (.lockCompositorBuffer 1),
    .load 1 ⟨0, 2⟩]

/-- A compositor that missed a frame shows the first pixels of a buffer for the last ones, also
when the client changes the pixels before each submission. -/
theorem missed_frame_leaves_stale_texture :
    ¬ ∀ rendering : Rendering Nat, Transition.Reaches (step 7)
        (fun before op => before.Behaves 7 op ∧ before.ChangesPixels op)
        (initial everyBuffer fun _ => 0) rendering → rendering.TexturesFresh := by
  intro claimed
  have fresh := claimed _ (Transition.Reaches.start.foldl missedFrame (by decide))
  obtain ⟨pixels, submitted, shown⟩ := fresh ⟨1, ⟨0, 2⟩, .ok (some 10)⟩ (by exact .head _)
  have last : some 12 = some pixels := submitted
  have stale : some 10 = some pixels := Except.ok.inj shown
  exact absurd (last.trans stale.symm) (by decide)

end Rendering

end Mir.Compositor

/-
This file is a small library of length-prefixed framing. A writer puts a header of fixed size
in front of each body, which encodes the body's length; a reader takes a header's worth of
items, decodes a length from it and takes that many more. The two sides each have their own
idea of the header, and the results say exactly when they agree: a stream is split into the
bodies that were written into it if and only if every length survives the header and is one
the reader takes.
-/

import Mathlib.Data.List.Basic

/-- How one writer frames a body and how one reader takes it out of the stream. -/
structure LengthPrefix (Item : Type) where
  headerSize : Nat
  header : Nat → List Item
  length_header : ∀ size, (header size).length = headerSize
  headerSize_pos : 0 < headerSize
  bodySize : List Item → Nat
  /-- The body sizes the reader takes; any other ends the reading. -/
  takes : Nat → Bool

namespace LengthPrefix

variable {Item : Type} (format : LengthPrefix Item)

def frame (body : List Item) : List Item := format.header body.length ++ body

/-- One body from the front of a stream, with the rest of the stream; nothing when the stream
is too short or the reader gives up. -/
def readBody (stream : List Item) : Option (List Item × List Item) :=
  let size := format.bodySize (stream.take format.headerSize)
  let after := stream.drop format.headerSize
  if stream.length < format.headerSize then none
  else if format.takes size = false then none
  else if after.length < size then none
  else some (after.take size, after.drop size)

/-- Reading one body after the other until none can be read. -/
def splitWithin : Nat → List Item → List (List Item) × List Item
  | 0, stream => ([], stream)
  | fuel + 1, stream =>
    match format.readBody stream with
    | none => ([], stream)
    | some (body, rest) =>
      ((body :: (splitWithin fuel rest).1), (splitWithin fuel rest).2)

/-- Every body takes its header from the stream, so the length of the stream is fuel enough. -/
def split (stream : List Item) : List (List Item) × List Item :=
  format.splitWithin stream.length stream

/-! ### Reading what was written -/

/-- Whether the reader finds the length that the writer put into the header. -/
def Agrees (size : Nat) : Prop :=
  format.bodySize (format.header size) = size ∧ format.takes size = true

theorem readBody_frame (body rest : List Item) :
    format.readBody (format.frame body ++ rest) =
      if format.takes (format.bodySize (format.header body.length)) = false then none
      else if (body ++ rest).length < format.bodySize (format.header body.length) then none
      else some ((body ++ rest).take (format.bodySize (format.header body.length)),
        (body ++ rest).drop (format.bodySize (format.header body.length))) := by
  have header := format.length_header body.length
  have split : format.frame body ++ rest = format.header body.length ++ (body ++ rest) :=
    List.append_assoc _ _ _
  have taken : (format.header body.length ++ (body ++ rest)).take format.headerSize =
      format.header body.length := List.take_left' header
  have left : (format.header body.length ++ (body ++ rest)).drop format.headerSize =
      body ++ rest := List.drop_left' header
  have enough : ¬ (format.header body.length ++ (body ++ rest)).length < format.headerSize := by
    rw [List.length_append]
    omega
  unfold readBody
  rw [split, taken, left, if_neg enough]

/-- A body whose length survives is read back, and the stream is left at the next frame. -/
theorem readBody_frame_of_agrees {body : List Item} (agrees : format.Agrees body.length)
    (rest : List Item) : format.readBody (format.frame body ++ rest) = some (body, rest) := by
  obtain ⟨sameSize, takes⟩ := agrees
  have long : ¬ (body ++ rest).length < body.length := by
    rw [List.length_append]
    omega
  rw [readBody_frame, sameSize, if_neg (by simp [takes]), if_neg long, List.take_left,
    List.drop_left]

/-- A body that is read back has a length that survives. -/
theorem agrees_of_readBody_frame {body rest after : List Item}
    (read : format.readBody (format.frame body ++ rest) = some (body, after)) :
    format.Agrees body.length := by
  rw [readBody_frame] at read
  split_ifs at read with refused short
  have both := Option.some.inj read
  have sameBody := congrArg (fun pair => pair.1.length) both
  dsimp only at sameBody
  rw [List.length_take] at sameBody
  have sameSize : format.bodySize (format.header body.length) = body.length := by omega
  rw [sameSize] at refused
  exact ⟨sameSize, by simpa using refused⟩

/-! ### Splitting a stream -/

theorem length_frame (body : List Item) :
    (format.frame body).length = format.headerSize + body.length := by
  rw [frame, List.length_append, format.length_header]

/-- A stream of frames is no shorter than the number of frames, so there is fuel for each. -/
theorem length_le_length_flatMap_frame (bodies : List (List Item)) :
    bodies.length ≤ (bodies.flatMap format.frame).length := by
  induction bodies with
  | nil => exact Nat.le_refl 0
  | cons body bodies inductionHypothesis =>
    have headerSize := format.headerSize_pos
    rw [List.flatMap_cons, List.length_append, List.length_cons, length_frame]
    omega

theorem splitWithin_flatMap_frame {bodies : List (List Item)}
    (agree : ∀ body ∈ bodies, format.Agrees body.length) {fuel : Nat}
    (enough : bodies.length ≤ fuel) :
    format.splitWithin fuel (bodies.flatMap format.frame) = (bodies, []) := by
  induction bodies generalizing fuel with
  | nil =>
    have short : format.readBody [] = none := if_pos format.headerSize_pos
    cases fuel with
    | zero => rfl
    | succ fuel => rw [List.flatMap_nil, splitWithin, short]
  | cons body bodies inductionHypothesis =>
    cases fuel with
    | zero => exact absurd enough (Nat.not_succ_le_zero _)
    | succ fuel =>
      have read := format.readBody_frame_of_agrees (agree body List.mem_cons_self)
        (bodies.flatMap format.frame)
      have later := inductionHypothesis
        (fun other member => agree other (List.mem_cons_of_mem _ member))
        (Nat.le_of_succ_le_succ enough)
      rw [List.flatMap_cons, splitWithin, read]
      dsimp only
      rw [later]

/-- Bodies that are all read back have lengths that survive. -/
theorem agrees_of_splitWithin {bodies : List (List Item)} {fuel : Nat} {unread : List Item}
    (read : format.splitWithin fuel (bodies.flatMap format.frame) = (bodies, unread)) :
    ∀ body ∈ bodies, format.Agrees body.length := by
  induction bodies generalizing fuel with
  | nil =>
    intro body member
    cases member
  | cons body bodies inductionHypothesis =>
    cases fuel with
    | zero => cases read
    | succ fuel =>
      rw [List.flatMap_cons, splitWithin] at read
      split at read
      case h_1 => cases read
      case h_2 first rest found =>
        obtain ⟨sameBodies, sameUnread⟩ := Prod.mk.inj read
        obtain ⟨rfl, later⟩ := List.cons.inj sameBodies
        have agrees := format.agrees_of_readBody_frame found
        rw [format.readBody_frame_of_agrees agrees] at found
        obtain rfl := (Prod.mk.inj (Option.some.inj found)).2
        intro other member
        rcases List.mem_cons.mp member with rfl | member
        · exact agrees
        · exact inductionHypothesis (Prod.ext later sameUnread) other member

/-- A stream is split into exactly what was written if and only if every length survives. -/
theorem split_flatMap_frame_iff (bodies : List (List Item)) :
    format.split (bodies.flatMap format.frame) = (bodies, []) ↔
      ∀ body ∈ bodies, format.Agrees body.length :=
  ⟨format.agrees_of_splitWithin, fun agree =>
    format.splitWithin_flatMap_frame agree (format.length_le_length_flatMap_frame bodies)⟩

end LengthPrefix

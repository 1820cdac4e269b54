import ApertureClient.Framing.Words

/-!
# Length-prefixed frames

A **frame** is a fixed-width header announcing a length, followed by that many
items.  A stream of frames has one reading: `next` takes the first frame off a
stream (`next_frame_append`), and `split` reads all complete frames off a stream
and leaves what does not make a frame yet.
-/

namespace Framing

/-- A fixed-width code for lengths below `bound`. -/
structure Header (β : Type) where
  width : ℕ
  bound : ℕ
  encode : ℕ → List β
  decode : List β → ℕ
  encode_length : ∀ n, (encode n).length = width
  /-- A length below the bound is read back. -/
  decode_encode : ∀ {n}, n < bound → decode (encode n) = n
  width_pos : 0 < width

namespace Header

variable {β : Type} (H : Header β)

/-- The frame of a message. -/
def frame (m : List β) : List β := H.encode m.length ++ m

/-- The frames of a list of messages, one after the other. -/
def frames (ms : List (List β)) : List β := ms.flatMap H.frame

@[simp] theorem frame_length (m : List β) : (H.frame m).length = H.width + m.length := by
  simp [frame, H.encode_length]

@[simp] theorem frames_nil : H.frames [] = [] := rfl

@[simp] theorem frames_cons (m : List β) (ms : List (List β)) :
    H.frames (m :: ms) = H.frame m ++ H.frames ms := List.flatMap_cons

@[simp] theorem frames_append (ms ms' : List (List β)) :
    H.frames (ms ++ ms') = H.frames ms ++ H.frames ms' := List.flatMap_append

/-! ## Reading one frame -/

/-- Take the first frame off a stream, when it is complete. -/
def next (stream : List β) : Option (List β × List β) :=
  let n := H.decode (stream.take H.width)
  if H.width + n ≤ stream.length then
    some ((stream.drop H.width).take n, stream.drop (H.width + n))
  else none

theorem next_frame_append {m : List β} (h : m.length < H.bound) (rest : List β) :
    H.next (H.frame m ++ rest) = some (m, rest) := by
  have head : (H.frame m ++ rest).take H.width = H.encode m.length := by
    rw [frame, List.append_assoc, ← H.encode_length m.length, List.take_left]
  have body : (H.frame m ++ rest).drop H.width = m ++ rest := by
    rw [frame, List.append_assoc, ← H.encode_length m.length, List.drop_left]
  have tail : (H.frame m ++ rest).drop (H.width + m.length) = rest := by
    rw [← H.frame_length m, List.drop_left]
  simp only [next, head, H.decode_encode h, body, tail, List.take_left, List.length_append,
    frame_length]
  rw [if_pos (by omega)]

/-- A proper part of a frame is not a frame. -/
theorem next_take_frame {m : List β} (h : m.length < H.bound) {k : ℕ}
    (part : k < (H.frame m).length) : H.next ((H.frame m).take k) = none := by
  rw [frame_length] at part
  simp only [next, List.length_take, frame_length]
  by_cases whole : H.width ≤ k
  · have head : ((H.frame m).take k).take H.width = H.encode m.length := by
      rw [List.take_take, Nat.min_eq_left whole, frame, ← H.encode_length m.length, List.take_left]
    rw [head, H.decode_encode h, if_neg (by omega)]
  · rw [if_neg (by omega)]

@[simp] theorem next_nil : H.next [] = none := by
  have := H.width_pos
  simp only [next, List.length_nil]
  rw [if_neg (by omega)]

/-! ## Reading all complete frames -/

/-- Take frames off a stream, at most `fuel` of them. -/
def splitAtMost : ℕ → List β → List (List β) × List β
  | 0, stream => ([], stream)
  | fuel + 1, stream =>
      match H.next stream with
      | none => ([], stream)
      | some (m, rest) =>
          let out := splitAtMost fuel rest
          (m :: out.1, out.2)

/-- The complete frames of a stream and what is left of it. -/
def split (stream : List β) : List (List β) × List β := H.splitAtMost stream.length stream

theorem splitAtMost_frames_append {rest : List β} (stop : H.next rest = none)
    (ms : List (List β)) :
    ∀ fuel, ms.length ≤ fuel → (∀ m ∈ ms, m.length < H.bound) →
      H.splitAtMost fuel (H.frames ms ++ rest) = (ms, rest) := by
  induction ms with
  | nil =>
      intro fuel _ _
      cases fuel with
      | zero => rfl
      | succ fuel => simp [splitAtMost, stop]
  | cons m ms ih =>
      intro fuel enough small
      obtain ⟨fuel, rfl⟩ : ∃ k, fuel = k + 1 := ⟨fuel - 1, by simp at enough; omega⟩
      have first := H.next_frame_append (small m (by simp)) (H.frames ms ++ rest)
      rw [frames_cons, List.append_assoc, splitAtMost, first]
      simp only
      rw [ih fuel (by simp at enough; omega) (fun x hx => small x (by simp [hx]))]

theorem length_le_frames_length (ms : List (List β)) : ms.length ≤ (H.frames ms).length := by
  induction ms with
  | nil => simp
  | cons m ms ih =>
      have := H.width_pos
      simp only [List.length_cons, frames_cons, List.length_append, frame_length]
      omega

/-- A stream of frames followed by the beginning of another is split at the
frame boundaries. -/
theorem split_frames_append {ms : List (List β)} {rest : List β}
    (small : ∀ m ∈ ms, m.length < H.bound) (stop : H.next rest = none) :
    H.split (H.frames ms ++ rest) = (ms, rest) := by
  refine H.splitAtMost_frames_append stop ms _ ?_ small
  have := H.length_le_frames_length ms
  simp only [List.length_append]
  omega

end Header

end Framing

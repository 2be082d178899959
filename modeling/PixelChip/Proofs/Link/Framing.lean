import PixelChip.Proofs.Dissect.Account
import PixelChip.Proofs.Link.Streaming

/-!
# A frame link is cut into eights

Any eight bytes are a frame and fewer are never one, so where a frame starts and ends on the link
is a matter of counting.  `frameInduction` counts: either fewer than eight bytes are left, or the
first eight are taken.  Along it follow the items of a buffer (`getElem?_decoded_frames`), what is
skipped of it (`skippedFrom_frames`) and what a stream decoder takes and keeps of it
(`drain_frames`).

Nothing but the remainder behind the last frame is ever reported as skipped.  A stream decoder keeps
that remainder, since more bytes would make it a frame, and only the end of the stream discards it.
-/

namespace PixelChip

open Channel Dissection StreamDecoder

/-- Induction along the frames of a buffer: fewer bytes than a frame are left, or one is taken. -/
theorem frameInduction {motive : List UInt8 → Prop}
    (short : ∀ src : List UInt8, src.length < 8 → motive src)
    (frame : ∀ src : List UInt8, 8 ≤ src.length → motive (src.drop 8) → motive src)
    (src : List UInt8) : motive src := by
  induction hlength : src.length using Nat.strongRecOn generalizing src with
  | ind length ih =>
      by_cases hshort : src.length < 8
      · exact short src hshort
      · refine frame src (by omega) (ih _ ?_ _ rfl)
        rw [List.length_drop]
        omega

lemma ne_nil_of_frame {src : List UInt8} (h : 8 ≤ src.length) : src ≠ [] :=
  List.ne_nil_of_length_pos (by omega)

/-! ## The remainder -/

/-- The bytes behind the last whole frame of a buffer. -/
def remainder (src : List UInt8) : List UInt8 :=
  src.drop (8 * (src.length / 8))

lemma length_remainder (src : List UInt8) : (remainder src).length = src.length % 8 := by
  rw [remainder, List.length_drop]
  omega

lemma remainder_of_length_lt {src : List UInt8} (h : src.length < 8) : remainder src = src := by
  rw [remainder, Nat.div_eq_of_lt h, Nat.mul_zero, List.drop_zero]

lemma remainder_drop {src : List UInt8} (h : 8 ≤ src.length) :
    remainder (src.drop 8) = remainder src := by
  have hcount : 8 + 8 * ((src.length - 8) / 8) = 8 * (src.length / 8) := by omega
  rw [remainder, remainder, List.drop_drop, List.length_drop, hcount]

/-! ## A buffer decoded at once -/

lemma decoded_of_length_le {src : List UInt8} (h : 8 ≤ src.length) :
    decoded src = Frame.ofBytes (src.take 8) :: decoded (src.drop 8) :=
  (decoded_of_parse_ok (ne_nil_of_frame h) (Frame.parse_of_length_le h)).1

lemma length_decoded_frames (src : List UInt8) :
    (decoded (α := Frame) src).length = src.length / 8 := by
  induction src using frameInduction with
  | short src h => rw [decoded_frame_of_length_lt h, List.length_nil, Nat.div_eq_of_lt h]
  | frame src h ih =>
      rw [decoded_of_length_le h, List.length_cons, ih, List.length_drop]
      omega

/-- A frame depends on its own eight bytes alone. -/
lemma getElem?_decoded_frames {src : List UInt8} {i : Nat} (hi : i < src.length / 8) :
    (decoded src)[i]? = some (Frame.ofBytes ((src.drop (8 * i)).take 8)) := by
  induction src using frameInduction generalizing i with
  | short src h => omega
  | frame src h ih =>
      rw [decoded_of_length_le h]
      cases i with
      | zero => rfl
      | succ i =>
          have hrest : i < (src.drop 8).length / 8 := by
            rw [List.length_drop]
            omega
          rw [List.getElem?_cons_succ, ih hrest, List.drop_drop, Nat.mul_succ, Nat.add_comm]

/-- Of fewer bytes than a frame, each is skipped because of those missing behind it. -/
lemma skippedFrom_of_length_lt (offset : Nat) {src : List UInt8} (h : src.length < 8) :
    skippedFrom Frame offset src =
      src.mapIdx fun j byte => ⟨offset + j, byte, .truncated 8 (src.length - j)⟩ := by
  induction src generalizing offset with
  | nil => rfl
  | cons byte rest ih =>
      have hparse := Frame.parse_of_length_lt (List.cons_ne_nil byte rest) h
      rw [skippedFrom_of_parse_error (α := Frame) offset hparse,
        ih (offset + 1) (Nat.lt_of_succ_lt h), List.mapIdx_cons]
      simp only [List.length_cons, Nat.add_sub_add_right, Nat.add_assoc, Nat.add_comm 1,
        Nat.add_zero, Nat.sub_zero]

lemma skippedFrom_frames (offset : Nat) (src : List UInt8) :
    skippedFrom Frame offset src =
      (remainder src).mapIdx fun j byte =>
        ⟨offset + 8 * (src.length / 8) + j, byte, .truncated 8 (src.length % 8 - j)⟩ := by
  induction src using frameInduction generalizing offset with
  | short src h =>
      rw [skippedFrom_of_length_lt offset h, remainder_of_length_lt h, Nat.div_eq_of_lt h,
        Nat.mod_eq_of_lt h, Nat.mul_zero, Nat.add_zero]
  | frame src h ih =>
      have hoffset : offset + 8 + 8 * ((src.length - 8) / 8) = offset + 8 * (src.length / 8) := by
        omega
      have hmissing : (src.length - 8) % 8 = src.length % 8 := by omega
      rw [skippedFrom_of_parse_ok offset (ne_nil_of_frame h) (Frame.parse_of_length_le h),
        ih (offset + 8), remainder_drop h, List.length_drop, hoffset, hmissing]

/-! ## A stream -/

lemma next_of_length_lt (skipped : Nat) {src : List UInt8} (h : src.length < 8) :
    next (α := Frame) { skipped, buffer := src } = (none, { skipped, buffer := src }) := by
  by_cases hsrc : src = []
  · rw [hsrc]
    rfl
  · have hparse : Packet.parse (α := Frame) src = .error (.truncated 8 src.length) :=
      Frame.parse_of_length_lt hsrc h
    refine next_of_isPending hsrc ?_
    rw [hparse, isPending_error, ParseError.isTruncated]

/-- A stream decoder takes the frames of what has arrived and keeps the remainder. -/
lemma drain_frames (skipped : Nat) (src : List UInt8) :
    drain (α := Frame) { skipped, buffer := src } =
      (decoded src, { skipped, buffer := remainder src }) := by
  induction src using frameInduction with
  | short src h =>
      rw [drain_of_next_none (next_of_length_lt skipped h), decoded_frame_of_length_lt h,
        remainder_of_length_lt h]
  | frame src h ih =>
      have hnext : next { skipped, buffer := src } =
          (some (Frame.ofBytes (src.take 8)), { skipped, buffer := src.drop 8 }) :=
        next_of_parse_ok (ne_nil_of_frame h) (Frame.parse_of_length_le h)
      rw [drain_of_next_some hnext, ih, decoded_of_length_le h, remainder_drop h]

/-- The end of the stream discards what is no frame. -/
lemma finish_of_length_lt (skipped : Nat) {src : List UInt8} (h : src.length < 8) :
    finish (α := Frame) { skipped, buffer := src } =
      (none, { skipped := skipped + src.length, buffer := [] }) := by
  rw [finish, next_of_length_lt skipped h]

/-- **A frame link is cut into frames of eight bytes and nothing else.**  A buffer decodes to one
frame for every eight bytes, each parsed from its own eight, and the bytes behind the last frame are
skipped one after the other because the bytes of a frame are missing.  However the same bytes arrive
at a stream decoder, and whenever it is asked for the next frame, it delivers the same frames, skips
nothing and keeps that remainder until the end of the stream, which discards and counts it. -/
theorem cut_into_frames (src : List UInt8) :
    (ofBytes (α := Frame) src).items.size = src.length / 8 ∧
      (∀ i < src.length / 8, ∃ frame, (ofBytes src).items[i]? = some frame ∧
        Frame.parse ((src.drop (8 * i)).take 8) = .ok (frame, 8)) ∧
      ((remainder src).length = src.length % 8 ∧
        (ofBytes (α := Frame) src).skipped = (remainder src).mapIdx fun j byte =>
          ⟨8 * (src.length / 8) + j, byte, .truncated 8 (src.length % 8 - j)⟩) ∧
      ∀ events, arrived events = src →
        delivery empty events =
          ((ofBytes src).items.toList, ({ skipped := 0, buffer := remainder src } :
            StreamDecoder Frame)) ∧
        finish (α := Frame) { skipped := 0, buffer := remainder src } =
          (none, { skipped := src.length % 8, buffer := [] }) := by
  refine ⟨length_decoded_frames src, ?_, ⟨length_remainder src, ?_⟩, ?_⟩
  · intro i hi
    have hlength : ((src.drop (8 * i)).take 8).length = 8 := by
      rw [List.length_take, List.length_drop]
      omega
    refine ⟨Frame.ofBytes ((src.drop (8 * i)).take 8), ?_, ?_⟩
    · rw [← Array.getElem?_toList]
      exact getElem?_decoded_frames hi
    · rw [Frame.parse_of_length_le hlength.ge, List.take_take, Nat.min_self]
  · have hskipped : (ofBytes (α := Frame) src).skipped = skippedFrom Frame 0 src := rfl
    rw [hskipped, skippedFrom_frames, Nat.zero_add]
  · intro events harrived
    have hlt : (remainder src).length < 8 := by
      rw [length_remainder]
      exact Nat.mod_lt _ (by decide)
    refine ⟨?_, ?_⟩
    · rw [delivery_eq_drain, harrived]
      exact drain_frames 0 src
    · rw [finish_of_length_lt 0 hlt, length_remainder, Nat.zero_add]

/-- A blank frame and the beginning of another arrive in three pieces. -/
theorem cut_into_frames_of_pieces :
    arrived [.arrive [0x1E, 0, 0], .decode, .arrive [0, 0, 0, 0, 0, 1, 2], .arrive [3]] =
        Frame.blankBytes ++ [1, 2, 3] ∧
      delivery empty
          [.arrive [0x1E, 0, 0], .decode, .arrive [0, 0, 0, 0, 0, 1, 2], .arrive [3]] =
        ([Frame.blank], { skipped := 0, buffer := [1, 2, 3] }) := by
  have harrived : arrived
      [.arrive [0x1E, 0, 0], .decode, .arrive [0, 0, 0, 0, 0, 1, 2], .arrive [3]] =
        Frame.blankBytes ++ [1, 2, 3] := rfl
  have hitems : decoded (Frame.blankBytes ++ [1, 2, 3]) = [Frame.blank] := by
    rw [decoded_of_length_le (by decide), decoded_frame_of_length_lt (by decide)]
    rfl
  have hdelivered := ((cut_into_frames (Frame.blankBytes ++ [1, 2, 3])).2.2.2 _ harrived).1
  refine ⟨harrived, hdelivered.trans ?_⟩
  exact congrArg (·, _) hitems

end PixelChip

import PixelChip.Link.Packet
import PixelChip.Proofs.Command.Grammar

/-!
# Laws of the items of a link

Channels and stream decoders work with any `Packet`.  What is proved of them rests on three laws
of its parser, and commands and frames obey them:

* an item is at least one byte long, and no longer than the buffer it was read from;
* a verdict is final: bytes that arrive later change it only if it was that bytes are missing.

Frames obey them because nothing but the length of a buffer is ever refused.
-/

namespace PixelChip

/-- The parser of an item never reads past a buffer, makes progress, and stands by its verdicts. -/
class LawfulPacket (α : Type) [Packet α] : Prop where
  length_pos : ∀ {src : List UInt8} {item : α} {n : Nat},
    Packet.parse src = .ok (item, n) → 0 < n
  length_le : ∀ {src : List UInt8} {item : α} {n : Nat},
    Packet.parse src = .ok (item, n) → n ≤ src.length
  parse_append : ∀ {src : List UInt8}, src ≠ [] →
    isPending (Packet.parse (α := α) src) = false → ∀ later : List UInt8,
      Packet.parse (α := α) (src ++ later) = Packet.parse src

/-! ## Commands -/

/-- A command is parsed from the bytes of one of its forms. -/
lemma Command.length_of_parse {src : List UInt8} {command : Command} {n : Nat}
    (h : Command.parse src = .ok (command, n)) : 0 < n ∧ n ≤ src.length := by
  obtain ⟨bytes, behind, rfl, hwritten, rfl⟩ := Command.parse_eq_ok_iff.1 h
  obtain ⟨-, first, second, payload, rfl, -⟩ := hwritten.shape
  exact ⟨by simp, by simp⟩

instance : LawfulPacket Command where
  length_pos h := (Command.length_of_parse h).1
  length_le h := (Command.length_of_parse h).2
  parse_append := Command.parse_append

/-! ## Frames -/

namespace Frame

/-- Eight bytes are a frame, whatever follows them. -/
lemma parse_of_length_le {src : List UInt8} (h : 8 ≤ src.length) :
    parse src = .ok (ofBytes (src.take 8), 8) := by
  have hempty : src.isEmpty = false := by
    obtain _ | ⟨byte, rest⟩ := src
    · exact absurd h (by decide)
    · rfl
  rw [parse, hempty, if_neg (by decide), if_neg (by omega)]

/-- Fewer than eight bytes are the beginning of one. -/
lemma parse_of_length_lt {src : List UInt8} (hsrc : src ≠ []) (h : src.length < 8) :
    parse src = .error (.truncated 8 src.length) := by
  have hempty : src.isEmpty = false := by simpa using hsrc
  rw [parse, hempty, if_neg (by decide), if_pos h]

lemma length_of_parse {src : List UInt8} {frame : Frame} {n : Nat}
    (h : parse src = .ok (frame, n)) : n = 8 ∧ 8 ≤ src.length := by
  by_cases hlength : src.length < 8
  · by_cases hsrc : src = []
    · rw [hsrc] at h
      exact absurd h (by simp [parse])
    · rw [parse_of_length_lt hsrc hlength] at h
      exact absurd h (by simp)
  · rw [parse_of_length_le (by omega)] at h
    obtain ⟨-, rfl⟩ := Prod.mk.inj (Except.ok.inj h)
    exact ⟨rfl, by omega⟩

lemma parse_append {src : List UInt8} (hsrc : src ≠ []) (hpending : isPending (parse src) = false)
    (later : List UInt8) : parse (src ++ later) = parse src := by
  by_cases hlength : src.length < 8
  · rw [parse_of_length_lt hsrc hlength] at hpending
    exact absurd hpending (by simp [ParseError.isTruncated])
  · have hle : 8 ≤ src.length := by omega
    have hle' : 8 ≤ (src ++ later).length := by
      rw [List.length_append]
      omega
    rw [parse_of_length_le hle, parse_of_length_le hle', List.take_append_of_le_length hle]

/-- A buffer that the parser waits on is shorter than a frame. -/
lemma length_lt_of_isPending {src : List UInt8} (hpending : isPending (parse src) = true) :
    src.length < 8 := by
  by_contra hlength
  rw [parse_of_length_le (by omega)] at hpending
  exact absurd hpending (by simp)

end Frame

instance : LawfulPacket Frame where
  length_pos h := by rw [(Frame.length_of_parse h).1]; decide
  length_le h := by rw [(Frame.length_of_parse h).1]; exact (Frame.length_of_parse h).2
  parse_append := Frame.parse_append

end PixelChip

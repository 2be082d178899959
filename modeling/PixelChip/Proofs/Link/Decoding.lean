import PixelChip.Link.Channel
import PixelChip.Proofs.Link.LawfulPacket

/-!
# What a complete buffer decodes to

A channel keeps the items of a buffer and a report of each skipped byte.  `decoded` and
`skippedCount` are the two results that do not depend on where the buffer starts; their equations
follow the decoding step by step, and `bufferInduction` is the induction along its steps.
-/

namespace PixelChip

variable {α : Type} [Packet α]

/-- Induction along the steps of decoding a buffer: an item is taken, or a byte is skipped. -/
theorem bufferInduction [LawfulPacket α] {motive : List UInt8 → Prop} (nil : motive [])
    (item : ∀ (src : List UInt8) (a : α) (n : Nat), src ≠ [] → Packet.parse src = .ok (a, n) →
      motive (src.drop n) → motive src)
    (skip : ∀ (byte : UInt8) (rest : List UInt8) (reason : ParseError),
      Packet.parse (α := α) (byte :: rest) = .error reason → motive rest → motive (byte :: rest))
    (src : List UInt8) : motive src := by
  induction hlength : src.length using Nat.strongRecOn generalizing src with
  | ind length ih =>
      obtain _ | ⟨byte, rest⟩ := src
      · exact nil
      · cases hparse : Packet.parse (α := α) (byte :: rest) with
        | ok parsed =>
            obtain ⟨a, n⟩ := parsed
            have hpos := LawfulPacket.length_pos hparse
            refine item _ a n (by simp) hparse (ih _ ?_ _ rfl)
            rw [← hlength, List.length_drop, List.length_cons]
            omega
        | error reason =>
            refine skip byte rest reason hparse (ih _ ?_ _ rfl)
            rw [← hlength, List.length_cons]
            omega

lemma encodeAll_cons (item : α) (items : List α) :
    encodeAll (item :: items) = Packet.encode item ++ encodeAll items := rfl

namespace Channel

/-- The items of the channel that a buffer decodes to. -/
def decoded (src : List UInt8) : List α :=
  (ofBytes src).items.toList

variable (α) in
/-- How many bytes of a buffer are skipped when it is decoded. -/
def skippedCount (src : List UInt8) : Nat :=
  (ofBytes (α := α) src).skipped.length

/-- Where a buffer starts matters neither for its items nor for how many bytes are skipped. -/
lemma segments_offset [LawfulPacket α] (offset : Nat) (src : List UInt8) :
    (Segment.segments (α := α) offset src).filterMap itemOf? = decoded src ∧
      ((Segment.segments (α := α) offset src).filterMap skippedOf?).length =
        skippedCount α src := by
  have hzero : ∀ src : List UInt8, decoded (α := α) src =
      (Segment.segments 0 src).filterMap itemOf? ∧ skippedCount α src =
        ((Segment.segments (α := α) 0 src).filterMap skippedOf?).length := by
    intro src
    exact ⟨by simp [decoded, ofBytes], rfl⟩
  rw [(hzero src).1, (hzero src).2]
  induction src using bufferInduction (α := α) generalizing offset with
  | nil => simp
  | item src a n hsrc hparse ih =>
      have hstep : ∀ offset, Segment.segments offset src =
          .item offset (src.take n) a :: Segment.segments (offset + n) (src.drop n) := fun _ =>
        Segment.segments_item hsrc (LawfulPacket.length_pos hparse) hparse
      rw [hstep offset, hstep 0]
      simp only [List.filterMap_cons, itemOf?, skippedOf?, (ih (offset + n)).1,
        (ih (offset + n)).2, (ih (0 + n)).1, (ih (0 + n)).2, and_self]
  | skip byte rest reason hparse ih =>
      have hstep : ∀ offset, Segment.segments (α := α) offset (byte :: rest) =
          .skipped offset byte reason :: Segment.segments (offset + 1) rest := fun _ =>
        Segment.segments_skipped hparse
      rw [hstep offset, hstep 0]
      simp only [List.filterMap_cons, itemOf?, skippedOf?, List.length_cons, (ih (offset + 1)).1,
        (ih (offset + 1)).2, (ih (0 + 1)).1, (ih (0 + 1)).2, and_self]

/-! ## Step by step -/

@[simp]
lemma decoded_nil : decoded (α := α) [] = [] := rfl

@[simp]
lemma skippedCount_nil : skippedCount α [] = 0 := rfl

variable [LawfulPacket α] {src : List UInt8}

/-- Where an item parses, it is the first item, and decoding goes on behind it. -/
lemma decoded_of_parse_ok {a : α} {n : Nat} (hsrc : src ≠ [])
    (hparse : Packet.parse src = .ok (a, n)) :
    decoded src = a :: decoded (src.drop n) ∧
      skippedCount α src = skippedCount α (src.drop n) := by
  obtain ⟨hitems, hskipped⟩ := segments_offset (α := α) 0 src
  obtain ⟨hitems', hskipped'⟩ := segments_offset (α := α) (0 + n) (src.drop n)
  rw [Segment.segments_item hsrc (LawfulPacket.length_pos hparse) hparse] at hitems hskipped
  rw [← hitems, ← hskipped, ← hitems', ← hskipped']
  exact ⟨rfl, rfl⟩

/-- Where no item parses, one byte is skipped. -/
lemma decoded_of_parse_error {byte : UInt8} {rest : List UInt8} {reason : ParseError}
    (hparse : Packet.parse (α := α) (byte :: rest) = .error reason) :
    decoded (α := α) (byte :: rest) = decoded rest ∧
      skippedCount α (byte :: rest) = skippedCount α rest + 1 := by
  obtain ⟨hitems, hskipped⟩ := segments_offset (α := α) 0 (byte :: rest)
  obtain ⟨hitems', hskipped'⟩ := segments_offset (α := α) (0 + 1) rest
  rw [Segment.segments_skipped hparse] at hitems hskipped
  rw [← hitems, ← hskipped, ← hitems', ← hskipped']
  exact ⟨rfl, rfl⟩

/-- Every item of a buffer parses somewhere in it. -/
lemma exists_parse_of_mem_decoded {a : α} (h : a ∈ decoded src) :
    ∃ behind n, behind <:+ src ∧ Packet.parse behind = .ok (a, n) := by
  induction src using bufferInduction (α := α) with
  | nil => exact absurd h List.not_mem_nil
  | item src first n hsrc hparse ih =>
      rw [(decoded_of_parse_ok hsrc hparse).1] at h
      obtain rfl | h := List.mem_cons.1 h
      · exact ⟨src, n, List.suffix_refl src, hparse⟩
      · obtain ⟨behind, m, hsuffix, hbehind⟩ := ih h
        exact ⟨behind, m, hsuffix.trans (List.drop_suffix n src), hbehind⟩
  | skip byte rest reason hparse ih =>
      rw [(decoded_of_parse_error hparse).1] at h
      obtain ⟨behind, m, hsuffix, hbehind⟩ := ih h
      exact ⟨behind, m, hsuffix.trans (List.suffix_cons byte rest), hbehind⟩

/-- What comes after an item that was read is of no consequence for it. -/
lemma decoded_append_of_parse_ok {a : α} {n : Nat} (hsrc : src ≠ [])
    (hparse : Packet.parse src = .ok (a, n)) (behind : List UInt8) :
    decoded (src ++ behind) = a :: decoded (src.drop n ++ behind) ∧
      skippedCount α (src ++ behind) = skippedCount α (src.drop n ++ behind) := by
  have hsame : Packet.parse (α := α) (src ++ behind) = .ok (a, n) := by
    rw [LawfulPacket.parse_append hsrc (by rw [hparse]; rfl), hparse]
  have hstep := decoded_of_parse_ok (by simp [hsrc]) hsame
  rwa [List.drop_append_of_le_length (LawfulPacket.length_le hparse)] at hstep

/-! ## Items that were written -/

/-- The item is read back from its encoding, whatever follows it. -/
def ReadsBack (item : α) : Prop :=
  ∀ behind : List UInt8,
    Packet.parse (Packet.encode item ++ behind) = .ok (item, (Packet.encode item).length)

lemma ReadsBack.encode_ne_nil {item : α} (h : ReadsBack item) : Packet.encode item ≠ [] := by
  have hpos := LawfulPacket.length_pos (h [])
  exact List.ne_nil_of_length_pos hpos

/-- Written items that are read back are decoded first, and no byte of them is skipped. -/
lemma decoded_encodeAll_append {items : List α} (h : ∀ item ∈ items, ReadsBack item)
    (behind : List UInt8) :
    decoded (encodeAll items ++ behind) = items ++ decoded behind ∧
      skippedCount α (encodeAll items ++ behind) = skippedCount α behind := by
  induction items with
  | nil => exact ⟨rfl, rfl⟩
  | cons item items ih =>
      have hitem := h item List.mem_cons_self
      obtain ⟨hitems, hskipped⟩ := ih fun other hother => h other (List.mem_cons_of_mem item hother)
      have hstep := decoded_of_parse_ok (by simp [hitem.encode_ne_nil])
        (hitem (encodeAll items ++ behind))
      rw [List.drop_left] at hstep
      rw [encodeAll_cons, List.append_assoc, hstep.1, hstep.2, hitems, hskipped]
      exact ⟨rfl, rfl⟩

/-- A list of written items decodes to itself. -/
lemma decoded_encodeAll {items : List α} (h : ∀ item ∈ items, ReadsBack item) :
    decoded (encodeAll items) = items ∧ skippedCount α (encodeAll items) = 0 := by
  have hdecoded := decoded_encodeAll_append h []
  rwa [List.append_nil, decoded_nil, skippedCount_nil, List.append_nil] at hdecoded

end Channel
end PixelChip

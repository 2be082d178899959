import Mathlib.Data.List.Chain
import PixelChip.Dissect.Dissection
import PixelChip.Proofs.Link.EncodedLength

/-!
# A dissection accounts for every byte

The places that `locate` finds are those at which the channel decoded the capture (`locate_eq`),
because every item takes as many bytes as it encodes to.  So the pieces of a dissection follow the
decoding of the capture step by step: an item is a piece, and a skipped byte starts a run or extends
the run behind it.  `runs_induction` is the induction along these steps, and `Accounts` lists what
follows from it.
-/

namespace PixelChip
namespace Dissection

open Channel Segment

variable {α : Type} [Packet α]

/-! ## Places found again -/

/-- The bytes that are skipped when a buffer is decoded whose first byte has the given offset. -/
def skippedFrom (α : Type) [Packet α] (offset : Nat) (src : List UInt8) : List SkippedByte :=
  (segments (α := α) offset src).filterMap skippedOf?

lemma skippedFrom_of_parse_ok [LawfulPacket α] {src : List UInt8} {item : α} {n : Nat}
    (offset : Nat) (hsrc : src ≠ []) (hparse : Packet.parse src = .ok (item, n)) :
    skippedFrom α offset src = skippedFrom α (offset + n) (src.drop n) := by
  unfold skippedFrom
  rw [segments_item hsrc (LawfulPacket.length_pos hparse) hparse, List.filterMap_cons_none rfl]

lemma skippedFrom_of_parse_error {byte : UInt8} {rest : List UInt8} {reason : ParseError}
    (offset : Nat) (hparse : Packet.parse (α := α) (byte :: rest) = .error reason) :
    skippedFrom α offset (byte :: rest) =
      ⟨offset, byte, reason⟩ :: skippedFrom α (offset + 1) rest := by
  unfold skippedFrom
  rw [segments_skipped hparse]
  exact List.filterMap_cons_some rfl

lemma le_of_mem_skippedFrom [LawfulPacket α] {offset : Nat} {src : List UInt8}
    {skip : SkippedByte} (h : skip ∈ skippedFrom α offset src) : offset ≤ skip.offset := by
  induction src using bufferInduction (α := α) generalizing offset with
  | nil => exact absurd h List.not_mem_nil
  | item src item n hsrc hparse ih =>
      rw [skippedFrom_of_parse_ok offset hsrc hparse] at h
      exact Nat.le_of_add_right_le (ih h)
  | skip byte rest reason hparse ih =>
      rw [skippedFrom_of_parse_error offset hparse, List.mem_cons] at h
      obtain rfl | h := h
      · exact Nat.le_refl offset
      · exact Nat.le_of_succ_le (ih h)

/-- Where no skipped byte stands, none is taken. -/
lemma skippedAt?_eq_none {offset : Nat} {skipped : List SkippedByte}
    (h : ∀ skip ∈ skipped, offset < skip.offset) : skippedAt? offset skipped = none := by
  cases skipped with
  | nil => rfl
  | cons skip others =>
      have hne : ¬ skip.offset = offset := Nat.ne_of_gt (h skip List.mem_cons_self)
      rw [skippedAt?, if_neg hne]

/-- **The places of items are found again.** -/
theorem locate_eq [UniformPacket α] (found : Array (Segment α)) (offset : Nat)
    (src : List UInt8) :
    (locate found offset src (decoded src) (skippedFrom α offset src)).toList =
      found.toList ++ segments offset src := by
  induction src using bufferInduction (α := α) generalizing found offset with
  | nil => rw [locate_nil, segments_nil, List.append_nil]
  | item src item n hsrc hparse ih =>
      have hpos := LawfulPacket.length_pos hparse
      have htake : (src.take n).length = n := List.length_take_of_le (LawfulPacket.length_le hparse)
      -- the bytes of an item hold no skipped byte
      have hnone : skippedAt? offset (skippedFrom α (offset + n) (src.drop n)) = none := by
        refine skippedAt?_eq_none fun skip hskip => ?_
        have hle := le_of_mem_skippedFrom hskip
        omega
      rw [(decoded_of_parse_ok hsrc hparse).1, skippedFrom_of_parse_ok offset hsrc hparse,
        segments_item hsrc hpos hparse]
      rw [locate_item hsrc hnone]
      simp only [UniformPacket.length_encode hparse, htake]
      rw [ih]
      simp
  | skip byte rest reason hparse ih =>
      have hsome : skippedAt? offset (⟨offset, byte, reason⟩ :: skippedFrom α (offset + 1) rest) =
          some (⟨offset, byte, reason⟩, skippedFrom α (offset + 1) rest) := if_pos rfl
      rw [(decoded_of_parse_error hparse).1, skippedFrom_of_parse_error offset hparse,
        segments_skipped hparse, locate_skipped hsome, ih]
      simp

/-! ## Pieces step by step -/

/-- The pieces of a buffer whose first byte has the given offset. -/
def runs (wrap : α → Content) (offset : Nat) (src : List UInt8) : List Piece :=
  (segments offset src).foldr (addSegment wrap) []

/-- A dissection cuts a capture where the channel does. -/
lemma pieces_eq [UniformPacket α] (wrap : α → Content) (capture : List UInt8) :
    pieces wrap capture = runs wrap 0 capture := by
  have hsegments := locate_eq (α := α) #[] 0 capture
  rw [List.nil_append] at hsegments
  unfold pieces runs
  rw [← hsegments]
  rfl

variable {wrap : α → Content}

lemma runs_of_parse_ok [LawfulPacket α] {src : List UInt8} {item : α} {n : Nat} (offset : Nat)
    (hsrc : src ≠ []) (hparse : Packet.parse src = .ok (item, n)) :
    runs wrap offset src =
      { offset, raw := src.take n, content := wrap item } ::
        runs wrap (offset + n) (src.drop n) := by
  unfold runs
  rw [segments_item hsrc (LawfulPacket.length_pos hparse) hparse]
  rfl

lemma runs_of_parse_error {byte : UInt8} {rest : List UInt8} {reason : ParseError}
    (offset : Nat) (hparse : Packet.parse (α := α) (byte :: rest) = .error reason) :
    runs wrap offset (byte :: rest) =
      addSegment wrap (.skipped offset byte reason) (runs wrap (offset + 1) rest) := by
  unfold runs
  rw [segments_skipped hparse]
  rfl

omit [Packet α] in
/-- A skipped byte extends the run right behind it. -/
lemma addSegment_of_run {offset : Nat} (byte : UInt8) (reason : ParseError) {run : Piece}
    (behind : List Piece) (hskipped : run.content.isSkipped = true)
    (hoffset : run.offset = offset + 1) :
    addSegment wrap (.skipped offset byte reason) (run :: behind) =
      { offset, raw := byte :: run.raw, content := .skipped reason } :: behind :=
  if_pos ⟨hskipped, hoffset⟩

omit [Packet α] in
/-- Where no run is behind it, a skipped byte starts one. -/
lemma addSegment_of_not_run (offset : Nat) (byte : UInt8) (reason : ParseError)
    {behind : List Piece}
    (h : ∀ next ∈ behind.head?, next.content.isSkipped = true → next.offset ≠ offset + 1) :
    addSegment wrap (.skipped offset byte reason) behind =
      { offset, raw := [byte], content := .skipped reason } :: behind := by
  cases behind with
  | nil => rfl
  | cons next others => exact if_neg fun hrun => h next rfl hrun.1 hrun.2

omit [Packet α] in
lemma head?_addSegment (wrap : α → Content) (offset : Nat) (byte : UInt8) (reason : ParseError)
    (behind : List Piece) :
    ∃ raw, (addSegment wrap (.skipped offset byte reason) behind).head? =
      some { offset, raw, content := .skipped reason } := by
  by_cases h : ∀ next ∈ behind.head?, next.content.isSkipped = true → next.offset ≠ offset + 1
  · rw [addSegment_of_not_run offset byte reason h]
    exact ⟨[byte], rfl⟩
  · push Not at h
    obtain ⟨run, hrun, hskipped, hoffset⟩ := h
    obtain ⟨others, rfl⟩ := List.head?_eq_some_iff.1 hrun
    rw [addSegment_of_run byte reason others hskipped hoffset]
    exact ⟨byte :: run.raw, rfl⟩

/-- The first piece starts where the buffer does. -/
lemma offset_of_head?_runs [LawfulPacket α] {offset : Nat} {src : List UInt8} {first : Piece}
    (h : (runs wrap offset src).head? = some first) : first.offset = offset := by
  induction src using bufferInduction (α := α) with
  | nil => exact absurd h (by simp [runs])
  | item src item n hsrc hparse ih =>
      rw [runs_of_parse_ok offset hsrc hparse, List.head?_cons] at h
      rw [← Option.some.inj h]
  | skip byte rest reason hparse ih =>
      obtain ⟨raw, hhead⟩ := head?_addSegment wrap offset byte reason
        (runs wrap (offset + 1) rest)
      rw [runs_of_parse_error offset hparse, hhead] at h
      rw [← Option.some.inj h]

/-- **Induction along the pieces of a buffer.**  An item is a piece.  A skipped byte is a piece if
no run stands behind it, and otherwise extends that run. -/
theorem runs_induction [LawfulPacket α] (wrap : α → Content)
    {motive : Nat → List UInt8 → List Piece → Prop}
    (nil : ∀ offset, motive offset [] [])
    (item : ∀ (offset : Nat) (src : List UInt8) (a : α) (n : Nat) (behind : List Piece),
      src ≠ [] → Packet.parse src = .ok (a, n) → motive (offset + n) (src.drop n) behind →
        motive offset src ({ offset, raw := src.take n, content := wrap a } :: behind))
    (start : ∀ (offset : Nat) (byte : UInt8) (rest : List UInt8) (reason : ParseError)
      (behind : List Piece), Packet.parse (α := α) (byte :: rest) = .error reason →
        (∀ next ∈ behind.head?, next.content.isSkipped = false) →
        motive (offset + 1) rest behind →
          motive offset (byte :: rest)
            ({ offset, raw := [byte], content := .skipped reason } :: behind))
    (extend : ∀ (offset : Nat) (byte : UInt8) (rest : List UInt8) (reason : ParseError)
      (run : Piece) (behind : List Piece),
        Packet.parse (α := α) (byte :: rest) = .error reason → run.content.isSkipped = true →
        run.offset = offset + 1 → motive (offset + 1) rest (run :: behind) →
          motive offset (byte :: rest)
            ({ offset, raw := byte :: run.raw, content := .skipped reason } :: behind))
    (offset : Nat) (src : List UInt8) : motive offset src (runs wrap offset src) := by
  induction src using bufferInduction (α := α) generalizing offset with
  | nil => exact nil offset
  | item src a n hsrc hparse ih =>
      rw [runs_of_parse_ok offset hsrc hparse]
      exact item offset src a n _ hsrc hparse (ih (offset + n))
  | skip byte rest reason hparse ih =>
      have hrest := ih (offset + 1)
      have hhead : ∀ first, (runs wrap (offset + 1) rest).head? = some first →
          first.offset = offset + 1 := fun first => offset_of_head?_runs
      rw [runs_of_parse_error offset hparse]
      cases hbehind : runs wrap (offset + 1) rest with
      | nil =>
          rw [hbehind] at hrest
          exact start offset byte rest reason [] hparse (by simp) hrest
      | cons run behind =>
          rw [hbehind] at hrest hhead
          have hoffset : run.offset = offset + 1 := hhead run rfl
          by_cases hskipped : run.content.isSkipped = true
          · rw [addSegment_of_run byte reason behind hskipped hoffset]
            exact extend offset byte rest reason run behind hparse hskipped hoffset hrest
          · have hnone : ∀ next ∈ (run :: behind).head?, ¬ next.content.isSkipped = true := by
              intro next hnext
              rwa [← Option.some.inj hnext]
            rw [addSegment_of_not_run offset byte reason fun next hnext hrun =>
              absurd hrun (hnone next hnext)]
            refine start offset byte rest reason (run :: behind) hparse ?_ hrest
            exact fun next hnext => eq_false_of_ne_true (hnone next hnext)

/-! ## What the pieces are -/

variable [LawfulPacket α]

/-- Together the pieces are the buffer. -/
lemma flatMap_raw_runs (wrap : α → Content) (offset : Nat) (src : List UInt8) :
    (runs wrap offset src).flatMap (·.raw) = src := by
  refine runs_induction wrap (motive := fun _ src pieces => pieces.flatMap (·.raw) = src)
    ?_ ?_ ?_ ?_ offset src
  · intro offset
    rfl
  · intro offset src a n behind _ _ ih
    rw [List.flatMap_cons, ih, List.take_append_drop]
  · intro offset byte rest reason behind _ _ ih
    rw [List.flatMap_cons, ih]
    rfl
  · intro offset byte rest reason run behind _ _ _ ih
    rw [List.flatMap_cons] at ih ⊢
    rw [List.cons_append, ih]

/-- The first of some pieces stands at an offset, and each of the others where the one before it
ends. -/
def StandFrom : Nat → List Piece → Prop
  | _, [] => True
  | offset, piece :: behind => piece.offset = offset ∧ StandFrom (offset + piece.raw.length) behind

lemma StandFrom.offset_eq {offset : Nat} {before after : List Piece} {piece : Piece}
    (h : StandFrom offset (before ++ piece :: after)) :
    piece.offset = offset + (before.flatMap (·.raw)).length := by
  induction before generalizing offset with
  | nil => exact h.1
  | cons first before ih =>
      have hrest := ih h.2
      rw [hrest, List.flatMap_cons, List.length_append, Nat.add_assoc]

lemma standFrom_runs (wrap : α → Content) (offset : Nat) (src : List UInt8) :
    StandFrom offset (runs wrap offset src) := by
  refine runs_induction wrap (motive := fun offset _ pieces => StandFrom offset pieces)
    ?_ ?_ ?_ ?_ offset src
  · intro offset
    trivial
  · intro offset src a n behind _ hparse ih
    have hlength : (src.take n).length = n :=
      List.length_take_of_le (LawfulPacket.length_le hparse)
    refine ⟨rfl, ?_⟩
    rwa [hlength]
  · intro offset byte rest reason behind _ _ ih
    exact ⟨rfl, ih⟩
  · intro offset byte rest reason run behind _ _ _ ih
    have hlength : offset + (byte :: run.raw).length = offset + 1 + run.raw.length := by
      rw [List.length_cons]
      omega
    refine ⟨rfl, ?_⟩
    rw [hlength]
    exact ih.2

/-! ## Items -/

/-- The pieces that are not skipped hold the items of the channel, in order. -/
lemma contents_runs (hwrap : ∀ a, (wrap a).isSkipped = false) (offset : Nat) (src : List UInt8) :
    ((runs wrap offset src).filter fun piece => !piece.content.isSkipped).map (·.content) =
      (decoded src).map wrap := by
  refine runs_induction wrap (motive := fun _ src pieces =>
      (pieces.filter fun piece => !piece.content.isSkipped).map (·.content) =
        (decoded src).map wrap)
    ?_ ?_ ?_ ?_ offset src
  · intro offset
    rfl
  · intro offset src a n behind hsrc hparse ih
    rw [(decoded_of_parse_ok hsrc hparse).1, List.map_cons, ← ih,
      List.filter_cons_of_pos (by simp [hwrap]), List.map_cons]
  · intro offset byte rest reason behind hparse _ ih
    rw [(decoded_of_parse_error hparse).1, ← ih,
      List.filter_cons_of_neg (by simp [Content.isSkipped])]
  · intro offset byte rest reason run behind hparse hskipped _ ih
    rw [(decoded_of_parse_error hparse).1, ← ih,
      List.filter_cons_of_neg (by simp [Content.isSkipped]),
      List.filter_cons_of_neg (by simp [hskipped])]

/-- The piece holds an item that is read from a buffer at the offset of the piece, from as many
bytes.  The first byte of the buffer has the offset `start`. -/
def ReadsAt (wrap : α → Content) (start : Nat) (src : List UInt8) (piece : Piece) : Prop :=
  start ≤ piece.offset ∧ ∃ item, piece.content = wrap item ∧
    Packet.parse (src.drop (piece.offset - start)) = .ok (item, piece.raw.length)

omit [LawfulPacket α] in
/-- What is read behind some bytes is read in front of them too, at the same offset. -/
lemma ReadsAt.of_drop {start n : Nat} {src : List UInt8} {piece : Piece}
    (h : ReadsAt wrap (start + n) (src.drop n) piece) : ReadsAt wrap start src piece := by
  obtain ⟨hle, item, hcontent, hparse⟩ := h
  have hoffset : n + (piece.offset - (start + n)) = piece.offset - start := by omega
  rw [List.drop_drop, hoffset] at hparse
  exact ⟨Nat.le_of_add_right_le hle, item, hcontent, hparse⟩

/-- Every piece that is not skipped is read where it stands. -/
lemma readsAt_of_mem_runs (wrap : α → Content) (offset : Nat) (src : List UInt8) :
    ∀ piece ∈ runs wrap offset src, piece.content.isSkipped = false →
      ReadsAt wrap offset src piece := by
  refine runs_induction wrap (motive := fun offset src pieces => ∀ piece ∈ pieces,
      piece.content.isSkipped = false → ReadsAt wrap offset src piece)
    ?_ ?_ ?_ ?_ offset src
  · intro offset piece hpiece
    exact absurd hpiece List.not_mem_nil
  · intro offset src a n behind _ hparse ih piece hpiece hitem
    obtain rfl | hpiece := List.mem_cons.1 hpiece
    · have hlength : (src.take n).length = n :=
        List.length_take_of_le (LawfulPacket.length_le hparse)
      refine ⟨Nat.le_refl offset, a, rfl, ?_⟩
      rw [Nat.sub_self, List.drop_zero, hlength, hparse]
    · exact (ih piece hpiece hitem).of_drop
  · intro offset byte rest reason behind _ _ ih piece hpiece hitem
    obtain rfl | hpiece := List.mem_cons.1 hpiece
    · exact absurd hitem (by simp [Content.isSkipped])
    · exact ReadsAt.of_drop (n := 1) (ih piece hpiece hitem)
  · intro offset byte rest reason run behind _ _ _ ih piece hpiece hitem
    obtain rfl | hpiece := List.mem_cons.1 hpiece
    · exact absurd hitem (by simp [Content.isSkipped])
    · exact ReadsAt.of_drop (n := 1) (ih piece (List.mem_cons_of_mem run hpiece) hitem)

/-! ## Runs of skipped bytes -/

/-- No two runs of skipped bytes are neighbours. -/
def Separate (pieces : List Piece) : Prop :=
  pieces.IsChain fun piece next =>
    ¬ (piece.content.isSkipped = true ∧ next.content.isSkipped = true)

lemma separate_runs (hwrap : ∀ a, (wrap a).isSkipped = false) (offset : Nat)
    (src : List UInt8) : Separate (runs wrap offset src) := by
  refine runs_induction wrap (motive := fun _ _ pieces => Separate pieces) ?_ ?_ ?_ ?_ offset src
  · intro offset
    exact List.isChain_nil
  · intro offset src a n behind _ _ ih
    refine List.isChain_cons.2 ⟨?_, ih⟩
    intro next _ hboth
    rw [hwrap] at hboth
    exact absurd hboth.1 Bool.false_ne_true
  · intro offset byte rest reason behind _ hnext ih
    refine List.isChain_cons.2 ⟨?_, ih⟩
    intro next hmem hboth
    rw [hnext next hmem] at hboth
    exact absurd hboth.2 Bool.false_ne_true
  · intro offset byte rest reason run behind _ hskipped _ ih
    obtain ⟨hrun, hbehind⟩ := List.isChain_cons.1 ih
    refine List.isChain_cons.2 ⟨?_, hbehind⟩
    intro next hmem hboth
    exact hrun next hmem ⟨hskipped, hboth.2⟩

/-- The skipped bytes of some pieces, each with its offset. -/
def skippedPlaces (pieces : List Piece) : List (UInt8 × Nat) :=
  (pieces.filter (·.content.isSkipped)).flatMap fun piece => piece.raw.zipIdx piece.offset

lemma skippedPlaces_cons_of_item {piece : Piece} (h : piece.content.isSkipped = false)
    (behind : List Piece) : skippedPlaces (piece :: behind) = skippedPlaces behind := by
  unfold skippedPlaces
  rw [List.filter_cons_of_neg (by simp [h])]

lemma skippedPlaces_cons_of_skipped {piece : Piece} (h : piece.content.isSkipped = true)
    (behind : List Piece) :
    skippedPlaces (piece :: behind) = piece.raw.zipIdx piece.offset ++ skippedPlaces behind := by
  unfold skippedPlaces
  rw [List.filter_cons_of_pos (by simpa using h), List.flatMap_cons]

/-- The runs hold the bytes that the channel skipped, at their offsets. -/
lemma skippedPlaces_runs (hwrap : ∀ a, (wrap a).isSkipped = false) (offset : Nat)
    (src : List UInt8) :
    skippedPlaces (runs wrap offset src) =
      (skippedFrom α offset src).map fun skip => (skip.byte, skip.offset) := by
  refine runs_induction wrap (motive := fun offset src pieces =>
      skippedPlaces pieces =
        (skippedFrom α offset src).map fun skip => (skip.byte, skip.offset))
    ?_ ?_ ?_ ?_ offset src
  · intro offset
    rfl
  · intro offset src a n behind hsrc hparse ih
    rw [skippedFrom_of_parse_ok offset hsrc hparse, ← ih]
    exact skippedPlaces_cons_of_item (hwrap a) behind
  · intro offset byte rest reason behind hparse _ ih
    rw [skippedFrom_of_parse_error offset hparse, List.map_cons, ← ih]
    exact skippedPlaces_cons_of_skipped rfl behind
  · intro offset byte rest reason run behind hparse hskipped hoffset ih
    have hrun := skippedPlaces_cons_of_skipped hskipped behind
    rw [skippedFrom_of_parse_error offset hparse, List.map_cons, ← ih, hrun, hoffset]
    exact skippedPlaces_cons_of_skipped rfl behind

/-- The reason of a run is that of its first byte. -/
lemma reason_of_mem_runs (hwrap : ∀ a, (wrap a).isSkipped = false) (offset : Nat)
    (src : List UInt8) :
    ∀ piece ∈ runs wrap offset src, ∀ reason, piece.content = .skipped reason →
      ∃ byte, piece.raw.head? = some byte ∧
        ⟨piece.offset, byte, reason⟩ ∈ skippedFrom α offset src := by
  refine runs_induction wrap (motive := fun offset src pieces => ∀ piece ∈ pieces, ∀ reason,
      piece.content = .skipped reason → ∃ byte, piece.raw.head? = some byte ∧
        ⟨piece.offset, byte, reason⟩ ∈ skippedFrom α offset src)
    ?_ ?_ ?_ ?_ offset src
  · intro offset piece hpiece
    exact absurd hpiece List.not_mem_nil
  · intro offset src a n behind hsrc hparse ih piece hpiece reason hreason
    rw [skippedFrom_of_parse_ok offset hsrc hparse]
    obtain rfl | hpiece := List.mem_cons.1 hpiece
    · have hskipped := hwrap a
      rw [show wrap a = .skipped reason from hreason] at hskipped
      exact absurd hskipped (by simp [Content.isSkipped])
    · exact ih piece hpiece reason hreason
  · intro offset byte rest first behind hparse _ ih piece hpiece reason hreason
    rw [skippedFrom_of_parse_error offset hparse]
    obtain rfl | hpiece := List.mem_cons.1 hpiece
    · rw [← Content.skipped.inj hreason]
      exact ⟨byte, rfl, List.mem_cons_self⟩
    · obtain ⟨other, hhead, hmem⟩ := ih piece hpiece reason hreason
      exact ⟨other, hhead, List.mem_cons_of_mem _ hmem⟩
  · intro offset byte rest first run behind hparse _ _ ih piece hpiece reason hreason
    rw [skippedFrom_of_parse_error offset hparse]
    obtain rfl | hpiece := List.mem_cons.1 hpiece
    · rw [← Content.skipped.inj hreason]
      exact ⟨byte, rfl, List.mem_cons_self⟩
    · obtain ⟨other, hhead, hmem⟩ := ih piece (List.mem_cons_of_mem run hpiece) reason hreason
      exact ⟨other, hhead, List.mem_cons_of_mem _ hmem⟩

/-! ## Both links -/

omit [LawfulPacket α] in
/-- A summary counts the items and the skipped bytes. -/
lemma ofPieces_eq (pieces : List Piece) :
    Summary.ofPieces pieces =
      { items := ((pieces.filter fun piece => !piece.content.isSkipped).map (·.content)).length
        skippedBytes := (skippedPlaces pieces).length } := by
  have hplaces : (skippedPlaces pieces).length =
      ((pieces.filter (·.content.isSkipped)).flatMap (·.raw)).length := by
    unfold skippedPlaces
    simp only [List.length_flatMap, List.length_zipIdx]
  unfold Summary.ofPieces
  rw [hplaces, List.length_map]

/-- The pieces account for a capture, of which the channel is the decoding. -/
structure Accounts (wrap : α → Content) (capture : List UInt8) (channel : Channel α)
    (pieces : List Piece) : Prop where
  /-- Together the pieces are the capture. -/
  raw_eq : pieces.flatMap (·.raw) = capture
  /-- A piece stands where those before it end. -/
  offset_eq : ∀ before piece after, pieces = before ++ piece :: after →
    piece.offset = (before.flatMap (·.raw)).length
  /-- The pieces that are not skipped hold the items of the channel, in order. -/
  contents_eq : (pieces.filter fun piece => !piece.content.isSkipped).map (·.content) =
    channel.items.toList.map wrap
  /-- Each of them is read from the capture at its offset, from as many bytes as it has. -/
  parse_eq : ∀ piece ∈ pieces, piece.content.isSkipped = false → ∃ item,
    piece.content = wrap item ∧
      Packet.parse (capture.drop piece.offset) = .ok (item, piece.raw.length)
  /-- No two runs of skipped bytes are neighbours. -/
  separate : Separate pieces
  /-- The runs hold the bytes that the channel skipped, at their offsets. -/
  skipped_eq : skippedPlaces pieces =
    channel.skipped.map fun skip => (skip.byte, skip.offset)
  /-- The reason of a run is the one that the channel reports for its first byte. -/
  reason_eq : ∀ piece ∈ pieces, ∀ reason, piece.content = .skipped reason →
    ∃ byte, piece.raw.head? = some byte ∧ ⟨piece.offset, byte, reason⟩ ∈ channel.skipped
  /-- The summary counts the items of the channel and the bytes that it skipped. -/
  summary_eq : Summary.ofPieces pieces =
    { items := channel.items.size, skippedBytes := channel.skipped.length }

omit [LawfulPacket α] in
lemma accounts_pieces [UniformPacket α] (hwrap : ∀ a, (wrap a).isSkipped = false)
    (capture : List UInt8) :
    Accounts wrap capture (Channel.ofBytes capture) (pieces wrap capture) := by
  have hcontents := contents_runs hwrap 0 capture
  have hskipped := skippedPlaces_runs hwrap 0 capture
  rw [pieces_eq]
  constructor
  case raw_eq => exact flatMap_raw_runs wrap 0 capture
  case offset_eq =>
    intro before piece after h
    have hstand := standFrom_runs wrap 0 capture
    rw [h] at hstand
    rw [hstand.offset_eq, Nat.zero_add]
  case contents_eq => exact hcontents
  case parse_eq =>
    intro piece hpiece hitem
    obtain ⟨-, item, hcontent, hparse⟩ := readsAt_of_mem_runs wrap 0 capture piece hpiece hitem
    exact ⟨item, hcontent, hparse⟩
  case separate => exact separate_runs hwrap 0 capture
  case skipped_eq => exact hskipped
  case reason_eq => exact reason_of_mem_runs hwrap 0 capture
  case summary_eq =>
    rw [ofPieces_eq, hcontents, hskipped, List.length_map, List.length_map]
    rfl

/-- **A dissection accounts for every byte of a capture at its right offset**, on both links. -/
theorem ofCapture_accounts (capture : List UInt8) :
    Accounts Content.command capture (Channel.ofBytes capture) (ofCapture .command capture) ∧
      Accounts Content.frame capture (Channel.ofBytes capture) (ofCapture .data capture) :=
  ⟨accounts_pieces (fun _ => rfl) capture, accounts_pieces (fun _ => rfl) capture⟩

end Dissection
end PixelChip

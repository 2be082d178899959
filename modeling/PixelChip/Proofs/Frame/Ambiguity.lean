import PixelChip.Proofs.Frame.RoundTrip

/-!
# What the bytes of a frame do not show

A frame that shows its kind is read back.  Here is the converse: every exception that
`Frame.Unambiguous` lists is a frame that comes back as another one.  A hit with the bits of an
event header comes back as a header; a hit in the first place whose first byte is the filler is
dropped, and one whose first byte is an aurora code makes a register frame of the whole.

The flags of a register frame share one code, and an error leaves no room for the others.
-/

namespace PixelChip

/-! ## Sub-frames -/

namespace SubFrame

/-- A hit with the bits of an event header is read as a header. -/
lemma ofWord_word_of_headerLike {sub : SubFrame} (h : sub.InWidth) (hlike : sub.HeaderLike) :
    ∃ header, ofWord sub.word = .header header := by
  cases sub with
  | header header => exact hlike.elim
  | hit hit =>
      obtain ⟨hcol, hrow⟩ := hlike
      have hlt : hit.coreRow.toNat < 64 := h.2.1
      have hkind : (SubFrame.hit hit).word >>> 25 = 1 := by
        simp only [word, Nat.shiftLeft_eq, Nat.shiftRight_eq_div_pow]
        omega
      exact ⟨_, if_pos hkind⟩

/-- A sub-frame survives its way through its word exactly if it shows its kind. -/
lemma ofWord_word_iff {sub : SubFrame} (h : sub.InWidth) :
    ofWord sub.word = sub ↔ ¬ sub.HeaderLike := by
  refine ⟨fun hread hlike => ?_, ofWord_word h⟩
  obtain ⟨header, hheader⟩ := ofWord_word_of_headerLike h hlike
  rw [hread] at hheader
  rw [hheader] at hlike
  exact hlike

end SubFrame

/-! ## Data frames -/

/-- Eight bytes behind an aurora code are a register frame. -/
lemma RegisterFrame.parse_of_legal {code : UInt8} {rest : List UInt8}
    (h : Aurora.isLegal code = true) (hlength : rest.length = 7) :
    ∃ frame, parse (code :: rest) = .ok frame := by
  have hlong : ¬ (code :: rest).length < 8 := by simp [hlength]
  rw [parse, if_neg hlong]
  exact ⟨_, if_pos h⟩

namespace DataFrame

/-- The words of a data frame denote the frame only if they show what is in each place. -/
lemma shows_of_ofBytes_words {frame : DataFrame} (h : (Frame.data frame).InWidth)
    (hread : ofBytes (bigEndian 4 frame.firstWord ++ bigEndian 4 frame.second.word) = frame) :
    (∀ sub ∈ frame.subFrames, ¬ sub.HeaderLike) ∧
      ∀ hit, frame.first = some (.hit hit) → hit.firstByte ≠ filler := by
  rw [ofBytes_words] at hread
  obtain ⟨first, second⟩ := frame
  obtain ⟨hfirst, hsecond⟩ := DataFrame.mk.inj hread
  have hsecond' : ¬ second.HeaderLike := (SubFrame.ofWord_word_iff h.2).1 hsecond
  cases first with
  | none => exact ⟨by simpa [subFrames] using hsecond', by simp⟩
  | some sub =>
      have hfiller : firstByte ⟨some sub, second⟩ ≠ filler := fun heq => by
        rw [if_pos heq] at hfirst
        exact absurd hfirst (by simp)
      rw [if_neg hfiller, Option.some.injEq] at hfirst
      have hsub : ¬ sub.HeaderLike := (SubFrame.ofWord_word_iff (h.1 sub rfl)).1 hfirst
      refine ⟨by simpa [subFrames] using ⟨hsub, hsecond'⟩, fun hit hhit => ?_⟩
      obtain rfl : sub = .hit hit := by simpa using hhit
      rwa [firstByte_of_hit (h.1 _ rfl)] at hfiller

end DataFrame

/-! ## Register frames -/

namespace RegisterFrame

/-- The frame with no slot marked as reported by the cursor. -/
def unmarked (frame : RegisterFrame) : RegisterFrame :=
  { frame with
    first := { frame.first with autoRead := false }
    second := { frame.second with autoRead := false } }

/-- The error flag hides the marks of the slots. -/
lemma word_unmarked {frame : RegisterFrame} (herror : frame.error = true) :
    frame.unmarked.word = frame.word := by
  have hcode : frame.unmarked.auroraCode = frame.auroraCode := by
    rw [auroraCode, auroraCode, if_pos herror, if_pos (show frame.unmarked.error from herror)]
  rw [word, hcode]
  rfl

end RegisterFrame

/-! ## All frames -/

namespace Frame

/-- Bytes denote a data frame if no aurora code is in front and they denote its sub-frames. -/
lemma of_ofBytes_eq_data {bytes : List UInt8} {d : DataFrame} (h : ofBytes bytes = data d) :
    (∃ reason, RegisterFrame.parse bytes = .error reason) ∧ DataFrame.ofBytes bytes = d := by
  rw [ofBytes] at h
  cases hregister : RegisterFrame.parse bytes with
  | ok r => exact absurd h (by simp [hregister])
  | error reason =>
      simp only [hregister] at h
      split at h
      · exact absurd h (by simp)
      · exact ⟨⟨reason, rfl⟩, Frame.data.inj h⟩

/-- The bytes of a frame denote the frame only if they show its kind. -/
lemma unambiguous_of_ofBytes {frame : Frame} (h : frame.InWidth)
    (hread : ofBytes frame.encode = frame) : frame.Unambiguous := by
  cases frame with
  | register r => trivial
  | blank => trivial
  | data d =>
      obtain ⟨⟨reason, hregister⟩, hbytes⟩ := of_ofBytes_eq_data hread
      have hlegal : Aurora.isLegal d.firstByte = false := by
        rw [Bool.eq_false_iff]
        intro hlegal
        have hlength : (bigEndian 3 d.firstWord ++ bigEndian 4 d.second.word).length = 7 := by simp
        obtain ⟨r, hr⟩ := RegisterFrame.parse_of_legal hlegal hlength
        rw [encode_data_cons, hr] at hregister
        exact absurd hregister (by simp)
      obtain ⟨hlike, hfiller⟩ := DataFrame.shows_of_ofBytes_words h hbytes
      refine ⟨hlike, fun hit hhit => ⟨hfiller hit hhit, ?_⟩⟩
      obtain ⟨first, second⟩ := d
      obtain rfl : first = some (.hit hit) := hhit
      rwa [DataFrame.firstByte_of_hit (h.1 _ rfl)] at hlegal

/-- **The ambiguities of frames are real, and there are no others.**  A frame whose fields fit is
read back exactly if its bytes show its kind, whatever follows them.  A register frame with the
error flag loses the marks of its slots and nothing else. -/
theorem read_back_exactly_if_unambiguous (behind : List UInt8) :
    (∀ frame : Frame, frame.InWidth →
      (parse (frame.encode ++ behind) = .ok (frame, 8) ↔ frame.Unambiguous)) ∧
    ∀ r : RegisterFrame, r.status.toNat < 16 → r.first.address.toNat < 1024 →
      r.second.address.toNat < 1024 → r.error = true →
      parse ((register r).encode ++ behind) = .ok (register r.unmarked, 8) := by
  refine ⟨fun frame h => ⟨fun hparse => ?_, fun hkind => parse_encode h hkind behind⟩, ?_⟩
  · rw [parse_encode_append] at hparse
    exact unambiguous_of_ofBytes h (Prod.mk.inj (Except.ok.inj hparse)).1
  · intro r hstatus hfirst hsecond herror
    have hencode : (register r).encode = (register r.unmarked).encode := by
      rw [encode, encode, RegisterFrame.word_unmarked herror]
    have hwidth : (register r.unmarked).InWidth :=
      ⟨hstatus, hfirst, hsecond, fun _ => ⟨rfl, rfl⟩⟩
    rw [hencode]
    exact parse_encode hwidth trivial behind

/-- A hit with the bits of a header, a hit that reads as the sync filler and one that reads as the
start of a register frame are misread; an error hides the marks of both slots. -/
theorem misread_frames :
    let hit (coreCol coreRow : UInt8) : SubFrame := .hit ⟨coreCol, coreRow, 5, ⟨1, 2, 3, 4⟩⟩
    let headerLike : Frame := .data ⟨none, hit 0 40⟩
    let fillerLike : Frame := .data ⟨some (hit 7 32), hit 1 1⟩
    let registerLike : Frame := .data ⟨some (hit 45 3), hit 1 1⟩
    let failed (marked : Bool) : RegisterFrame :=
      ⟨2, ⟨0x3FF, 7, marked⟩, ⟨1, 0xFFFF, marked⟩, true⟩
    (∀ frame ∈ [headerLike, fillerLike, registerLike],
      frame.InWidth ∧ ¬ frame.Unambiguous ∧ parse (frame.encode ++ [0]) ≠ .ok (frame, 8)) ∧
    parse ((register (failed true)).encode ++ [0]) = .ok (register (failed false), 8) := by
  intro hit headerLike fillerLike registerLike failed
  obtain ⟨hiff, herror⟩ := read_back_exactly_if_unambiguous [0]
  refine ⟨?_, herror (failed true) (by decide) (by decide) (by decide) rfl⟩
  have hhit : ∀ coreCol coreRow : UInt8, coreCol.toNat < 64 → coreRow.toNat < 64 →
      (hit coreCol coreRow).InWidth :=
    fun _ _ hcol hrow => ⟨hcol, hrow, (by decide : (5 : UInt8).toNat < 16), by simp [Quad.toList]⟩
  have hheader : headerLike.InWidth := ⟨by simp, hhit 0 40 (by decide) (by decide)⟩
  have hfirst : ∀ coreCol coreRow : UInt8, coreCol.toNat < 64 → coreRow.toNat < 64 →
      (data ⟨some (hit coreCol coreRow), hit 1 1⟩).InWidth := fun coreCol coreRow hcol hrow =>
    ⟨by simpa using hhit coreCol coreRow hcol hrow, hhit 1 1 (by decide) (by decide)⟩
  have hmisread : ∀ frame : Frame, frame.InWidth → ¬ frame.Unambiguous → frame.InWidth ∧
      ¬ frame.Unambiguous ∧ parse (frame.encode ++ [0]) ≠ .ok (frame, 8) :=
    fun frame h hkind => ⟨h, hkind, fun hread => hkind ((hiff frame h).1 hread)⟩
  simp only [List.forall_mem_cons, List.not_mem_nil, false_imp_iff, implies_true, and_true]
  refine ⟨hmisread _ hheader fun hkind => ?_,
    hmisread _ (hfirst 7 32 (by decide) (by decide)) fun hkind => ?_,
    hmisread _ (hfirst 45 3 (by decide) (by decide)) fun hkind => ?_⟩
  · exact hkind.1 (hit 0 40) (by simp [DataFrame.subFrames]) ⟨rfl, by decide⟩
  · exact (hkind.2 _ rfl).1 rfl
  · exact absurd (hkind.2 _ rfl).2 (by decide)

end Frame
end PixelChip

import PixelChip.Proofs.Link.Decoding

/-!
# Frames read back

A frame whose fields fit is read back from its bytes unless the kind that its bytes show is another
one.  `Frame.Unambiguous` lists the exceptions, which only data frames with hits can be: a hit that
has the bits of an event header, and a hit in the first place whose first byte is the filler or an
aurora code.
-/

namespace PixelChip

/-! ## Bytes of a number -/

@[simp]
lemma length_bigEndian (count n : Nat) : (bigEndian count n).length = count := by
  rw [bigEndian, List.length_map, Numeral.length_expand]

lemma bigEndian_succ (count n : Nat) :
    bigEndian (count + 1) n =
      UInt8.ofNat (n / Numeral.size 256 count % 256) :: bigEndian count n := by
  rw [bigEndian, Numeral.expand_succ_cons]
  rfl

/-- A number survives its way through the bytes of a field that can hold it. -/
lemma ofBigEndian_bigEndian {count n : Nat} (h : n < Numeral.size 256 count) :
    ofBigEndian (bigEndian count n) = n := by
  have hdigits : (Numeral.expand 256 count n).map (UInt8.toNat ∘ UInt8.ofNat) =
      Numeral.expand 256 count n := by
    refine (List.map_congr_left fun digit hdigit => ?_).trans (List.map_id _)
    exact Nat.mod_eq_of_lt (Numeral.lt_of_mem_expand (by decide) hdigit)
  rw [ofBigEndian, bigEndian, List.map_map, hdigits, Numeral.value_expand, Nat.mod_eq_of_lt h]

/-! ## What the wire cannot tell apart -/

/-- The first byte of a hit on the wire: its core column and the upper two bits of its core row. -/
def Hit.firstByte (hit : Hit) : UInt8 :=
  .ofNat (4 * hit.coreCol.toNat + hit.coreRow.toNat / 16)

/-- The bits of the sub-frame are those of an event header, though it is a hit. -/
def SubFrame.HeaderLike : SubFrame → Prop
  | header _ => False
  | hit h => h.coreCol.toNat = 0 ∧ 32 ≤ h.coreRow.toNat

/-- The bytes of the frame show its kind. -/
def Frame.Unambiguous : Frame → Prop
  | register _ | blank => True
  | data d => (∀ sub ∈ d.subFrames, ¬ sub.HeaderLike) ∧
      ∀ hit, d.first = some (.hit hit) →
        hit.firstByte ≠ filler ∧ Aurora.isLegal hit.firstByte = false

/-! ## Register frames -/

namespace RegisterFrame

lemma isLegal_auroraCode (frame : RegisterFrame) : Aurora.isLegal frame.auroraCode = true := by
  rw [auroraCode]
  cases frame.error
  · cases frame.first.autoRead <;> cases frame.second.autoRead <;> rfl
  · rfl

/-- The aurora code is the first byte. -/
lemma word_div (frame : RegisterFrame) :
    frame.word / Numeral.size 256 7 = frame.auroraCode.toNat := by
  have hsize : Numeral.size 256 7 = 2 ^ 56 := by decide
  have hfirst := frame.first.value.toNat_lt
  have hsecond := frame.second.value.toNat_lt
  simp only [hsize, word, Nat.shiftLeft_eq]
  omega

lemma word_lt (frame : RegisterFrame) : frame.word < Numeral.size 256 8 := by
  have hdiv := frame.word_div
  have hcode := frame.auroraCode.toNat_lt
  have hpos : 0 < Numeral.size 256 7 := by decide
  exact (Nat.div_lt_iff_lt_mul hpos).1 (by rw [hdiv]; exact hcode)

/-- The aurora code stands for the flags, as far as an error leaves them any. -/
lemma withAuroraCode_auroraCode {frame : RegisterFrame}
    (h : frame.error → frame.first.autoRead = false ∧ frame.second.autoRead = false) :
    withAuroraCode frame.auroraCode
      { frame with
        first := { frame.first with autoRead := false }
        second := { frame.second with autoRead := false }
        error := false } = frame := by
  obtain ⟨status, ⟨address, value, auto⟩, ⟨address', value', auto'⟩, error⟩ := frame
  cases error with
  | true =>
      obtain ⟨rfl, rfl⟩ := h rfl
      rfl
  | false => cases auto <;> cases auto' <;> rfl

/-- The fields survive their way through the word of a frame. -/
lemma ofWord_word {frame : RegisterFrame} (h : (Frame.register frame).InWidth) :
    ofWord frame.word = frame := by
  obtain ⟨hstatus, haddress, haddress', hflags⟩ := h
  have hcode : UInt8.ofNat (frame.word >>> 56) = frame.auroraCode := by
    have hsize : 2 ^ 56 = Numeral.size 256 7 := by decide
    rw [Nat.shiftRight_eq_div_pow, hsize, word_div, UInt8.ofNat_toNat]
  have hvalue := frame.first.value.toNat_lt
  have hvalue' := frame.second.value.toNat_lt
  have hfields :
      UInt8.ofNat (frame.word >>> 52 % 16) = frame.status ∧
      UInt16.ofNat (frame.word >>> 42 % 1024) = frame.first.address ∧
      UInt16.ofNat (frame.word >>> 26) = frame.first.value ∧
      UInt16.ofNat (frame.word >>> 16 % 1024) = frame.second.address ∧
      UInt16.ofNat frame.word = frame.second.value := by
    simp only [← UInt8.toNat_inj, ← UInt16.toNat_inj, UInt8.toNat_ofNat', UInt16.toNat_ofNat',
      Nat.shiftRight_eq_div_pow, word, Nat.shiftLeft_eq]
    refine ⟨?_, ?_, ?_, ?_, ?_⟩ <;> omega
  obtain ⟨hstatus, haddress, hvalue, haddress', hvalue'⟩ := hfields
  rw [ofWord, hcode, hstatus, haddress, hvalue, haddress', hvalue']
  exact withAuroraCode_auroraCode hflags

lemma parse_bigEndian {frame : RegisterFrame} (h : (Frame.register frame).InWidth) :
    parse (bigEndian 8 frame.word) = .ok frame := by
  have hword : ofBigEndian (bigEndian 8 frame.word) = frame.word :=
    ofBigEndian_bigEndian frame.word_lt
  have hcode : UInt8.ofNat (frame.word / Numeral.size 256 7 % 256) = frame.auroraCode := by
    rw [word_div, Nat.mod_eq_of_lt frame.auroraCode.toNat_lt, UInt8.ofNat_toNat]
  have hlength : ¬ (bigEndian 8 frame.word).length < 8 := by simp
  rw [bigEndian_succ, hcode] at hword hlength ⊢
  rw [parse, if_neg hlength]
  simp only [frame.isLegal_auroraCode, if_true]
  rw [List.take_of_length_le (by simp), hword, ofWord_word h]

/-- Without an aurora code in front there is no register frame. -/
lemma parse_of_illegal {code : UInt8} {rest : List UInt8} (h : Aurora.isLegal code = false) :
    ∃ reason, parse (code :: rest) = .error reason := by
  rw [parse]
  by_cases hlength : (code :: rest).length < 8
  · exact ⟨_, if_pos hlength⟩
  · refine ⟨.invalidAuroraCode code, ?_⟩
    rw [if_neg hlength]
    simp only [h, Bool.false_eq_true, if_false]

end RegisterFrame

/-! ## Data frames -/

namespace SubFrame

lemma word_lt (sub : SubFrame) : sub.word < Numeral.size 256 4 := by
  have hsize : Numeral.size 256 4 = 2 ^ 32 := by decide
  cases sub with
  | header header =>
      simp only [hsize, word, Nat.shiftLeft_eq]
      omega
  | hit hit =>
      simp only [hsize, word, Nat.shiftLeft_eq]
      omega

/-- A sub-frame that shows its kind survives its way through its word. -/
lemma ofWord_word {sub : SubFrame} (h : sub.InWidth) (hlike : ¬ sub.HeaderLike) :
    ofWord sub.word = sub := by
  cases sub with
  | header header =>
      obtain ⟨hid, htag, hbcid⟩ := h
      have hkind : (SubFrame.header header).word >>> 25 = 1 := by
        simp only [word, Nat.shiftLeft_eq, Nat.shiftRight_eq_div_pow]
        omega
      rw [ofWord, if_pos hkind]
      obtain ⟨id, tag, bcid⟩ := header
      simp only [word, Nat.shiftLeft_eq, Nat.shiftRight_eq_div_pow, SubFrame.header.injEq,
        EventHeader.mk.injEq, ← UInt8.toNat_inj, ← UInt16.toNat_inj, UInt8.toNat_ofNat',
        UInt16.toNat_ofNat'] at hid htag hbcid ⊢
      refine ⟨?_, ?_, ?_⟩ <;> omega
  | hit hit =>
      obtain ⟨col, row, region, p0, p1, p2, p3⟩ := hit
      obtain ⟨hcol, hrow, hregion, htots⟩ := h
      simp only [Quad.toList, List.forall_mem_cons] at htots
      obtain ⟨h0, h1, h2, h3, -⟩ := htots
      simp only [HeaderLike] at hcol hrow hregion hlike
      have hkind : ¬ (SubFrame.hit ⟨col, row, region, p0, p1, p2, p3⟩).word >>> 25 = 1 := by
        simp only [word, Nat.shiftLeft_eq, Nat.shiftRight_eq_div_pow]
        omega
      rw [ofWord, if_neg hkind]
      simp only [word, Nat.shiftLeft_eq, Nat.shiftRight_eq_div_pow, SubFrame.hit.injEq,
        Hit.mk.injEq, Quad.mk.injEq, ← UInt8.toNat_inj, UInt8.toNat_ofNat']
      refine ⟨?_, ?_, ?_, ?_, ?_, ?_, ?_⟩ <;> omega

/-- The first byte of a header is 2 or 3. -/
lemma header_word_div (header : EventHeader) :
    (SubFrame.header header).word / Numeral.size 256 3 = 2 ∨
      (SubFrame.header header).word / Numeral.size 256 3 = 3 := by
  have hsize : Numeral.size 256 3 = 2 ^ 24 := by decide
  simp only [hsize, word, Nat.shiftLeft_eq]
  omega

lemma hit_word_div {hit : Hit} (h : (SubFrame.hit hit).InWidth) :
    (SubFrame.hit hit).word / Numeral.size 256 3 =
      4 * hit.coreCol.toNat + hit.coreRow.toNat / 16 := by
  have hsize : Numeral.size 256 3 = 2 ^ 24 := by decide
  obtain ⟨hcol, hrow, -, -⟩ := h
  simp only [hsize, word, Nat.shiftLeft_eq]
  omega

end SubFrame

namespace DataFrame

/-- The word in the first place. -/
def firstWord (frame : DataFrame) : Nat :=
  frame.first.elim SubFrame.syncWord SubFrame.word

/-- The first byte on the wire. -/
def firstByte (frame : DataFrame) : UInt8 :=
  .ofNat (frame.firstWord / Numeral.size 256 3 % 256)

lemma firstByte_of_none (second : SubFrame) : firstByte ⟨none, second⟩ = filler := by
  rw [firstByte, firstWord, Option.elim_none]
  decide

lemma firstByte_of_hit {hit : Hit} {second : SubFrame} (h : (SubFrame.hit hit).InWidth) :
    firstByte ⟨some (.hit hit), second⟩ = hit.firstByte := by
  have hdiv := SubFrame.hit_word_div h
  obtain ⟨hcol, hrow, -, -⟩ := h
  rw [firstByte, firstWord, Option.elim_some, hdiv, Nat.mod_eq_of_lt (by omega), Hit.firstByte]

/-- The first byte shows the data frame, and whether the sync filler is in the first place. -/
lemma firstByte_of_unambiguous {frame : DataFrame} (h : (Frame.data frame).InWidth)
    (hkind : (Frame.data frame).Unambiguous) :
    Aurora.isLegal frame.firstByte = false ∧ (frame.firstByte = filler ↔ frame.first = none) := by
  obtain ⟨first, second⟩ := frame
  cases first with
  | none =>
      rw [firstByte_of_none]
      exact ⟨by decide, iff_of_true rfl rfl⟩
  | some sub =>
      cases sub with
      | header header =>
          have hbyte : firstByte ⟨some (.header header), second⟩ = 2 ∨
              firstByte ⟨some (.header header), second⟩ = 3 := by
            rw [firstByte, firstWord]
            obtain hdiv | hdiv := SubFrame.header_word_div header
            · exact .inl (by rw [Option.elim_some, hdiv]; rfl)
            · exact .inr (by rw [Option.elim_some, hdiv]; rfl)
          obtain hbyte | hbyte := hbyte
          · rw [hbyte]
            exact ⟨by decide, iff_of_false (by decide) (by simp)⟩
          · rw [hbyte]
            exact ⟨by decide, iff_of_false (by decide) (by simp)⟩
      | hit hit =>
          obtain ⟨hfiller, hlegal⟩ := hkind.2 hit rfl
          rw [firstByte_of_hit (h.1 _ rfl)]
          exact ⟨hlegal, iff_of_false hfiller (by simp)⟩

lemma firstWord_lt (frame : DataFrame) : frame.firstWord < Numeral.size 256 4 := by
  obtain ⟨first, second⟩ := frame
  cases first with
  | none => exact (by decide : SubFrame.syncWord < Numeral.size 256 4)
  | some sub => exact sub.word_lt

/-- Each place is read by its own word, the first one only behind a byte that is no filler. -/
lemma ofBytes_words (frame : DataFrame) :
    ofBytes (bigEndian 4 frame.firstWord ++ bigEndian 4 frame.second.word) =
      { first := if frame.firstByte = filler then none else some (.ofWord frame.firstWord)
        second := .ofWord frame.second.word } := by
  have htake : (bigEndian 4 frame.firstWord ++ bigEndian 4 frame.second.word).take 4 =
      bigEndian 4 frame.firstWord := List.take_left' (by simp)
  have hdrop : (bigEndian 4 frame.firstWord ++ bigEndian 4 frame.second.word).drop 4 =
      bigEndian 4 frame.second.word := List.drop_left' (by simp)
  have hhead : (bigEndian 4 frame.firstWord ++ bigEndian 4 frame.second.word).head? =
      some frame.firstByte := by
    rw [bigEndian_succ]
    rfl
  rw [ofBytes, htake, hdrop, hhead, ofBigEndian_bigEndian frame.firstWord_lt,
    ofBigEndian_bigEndian frame.second.word_lt]
  simp only [Option.some.injEq]

lemma ofBytes_bigEndian {frame : DataFrame} (h : (Frame.data frame).InWidth)
    (hkind : (Frame.data frame).Unambiguous) :
    ofBytes (bigEndian 4 frame.firstWord ++ bigEndian 4 frame.second.word) = frame := by
  have hsecond : SubFrame.ofWord frame.second.word = frame.second :=
    SubFrame.ofWord_word h.2 (hkind.1 frame.second (by simp [subFrames]))
  have hfiller := (firstByte_of_unambiguous h hkind).2
  rw [ofBytes_words, hsecond]
  obtain ⟨first, second⟩ := frame
  cases first with
  | none => rw [if_pos (hfiller.2 rfl)]
  | some sub =>
      have hsub : SubFrame.ofWord sub.word = sub :=
        SubFrame.ofWord_word (h.1 sub rfl) (hkind.1 sub (by simp [subFrames]))
      rw [if_neg (fun hbyte => absurd (hfiller.1 hbyte) (by simp)), firstWord, Option.elim_some,
        hsub]

end DataFrame

/-! ## All frames -/

namespace Frame

lemma length_encode (frame : Frame) : frame.encode.length = 8 := by
  cases frame with
  | register r => exact length_bigEndian 8 r.word
  | data d => rw [encode, List.length_append, length_bigEndian, length_bigEndian]
  | blank => rfl

lemma encode_data_cons (d : DataFrame) :
    (data d).encode = d.firstByte :: (bigEndian 3 d.firstWord ++ bigEndian 4 d.second.word) := by
  have hwords : (data d).encode = bigEndian 4 d.firstWord ++ bigEndian 4 d.second.word := rfl
  rw [hwords, bigEndian_succ]
  rfl

/-- The bytes of a frame denote the frame. -/
lemma ofBytes_encode {frame : Frame} (h : frame.InWidth) (hkind : frame.Unambiguous) :
    ofBytes frame.encode = frame := by
  cases frame with
  | register r => rw [encode, ofBytes, RegisterFrame.parse_bigEndian h]
  | data d =>
      obtain ⟨hlegal, hfiller⟩ := DataFrame.firstByte_of_unambiguous h hkind
      have hregister : ∃ reason, RegisterFrame.parse (data d).encode = .error reason := by
        rw [encode_data_cons]
        exact RegisterFrame.parse_of_illegal hlegal
      have hblank : (data d).encode ≠ blankBytes := by
        intro heq
        have hnone := hfiller.1 (List.head_eq_of_cons_eq ((encode_data_cons d).symm.trans heq))
        -- the word of the sync filler is no filler beyond its first byte
        rw [encode, hnone] at heq
        exact absurd (congrArg (List.take 4) heq) (by
          rw [List.take_left' (by simp)]
          decide)
      obtain ⟨reason, hregister⟩ := hregister
      rw [ofBytes, hregister]
      simp only [if_neg hblank]
      exact congrArg data (DataFrame.ofBytes_bigEndian h hkind)
  | blank => rfl

/-- The bytes of a frame are parsed as what they denote, whatever follows them. -/
lemma parse_encode_append (frame : Frame) (behind : List UInt8) :
    parse (frame.encode ++ behind) = .ok (ofBytes frame.encode, 8) := by
  have hlength : 8 ≤ (frame.encode ++ behind).length := by
    rw [List.length_append, length_encode]
    omega
  rw [parse_of_length_le hlength, List.take_left' (length_encode frame)]

/-- **A frame that shows its kind is read back**, whatever follows it. -/
theorem parse_encode {frame : Frame} (h : frame.InWidth) (hkind : frame.Unambiguous)
    (behind : List UInt8) : parse (frame.encode ++ behind) = .ok (frame, 8) := by
  rw [parse_encode_append, ofBytes_encode h hkind]

lemma readsBack {frame : Frame} (h : frame.InWidth) (hkind : frame.Unambiguous) :
    Channel.ReadsBack frame := by
  intro behind
  have hparse := parse_encode h hkind behind
  have hlength : (Packet.encode frame).length = 8 := length_encode frame
  rw [hlength]
  exact hparse

end Frame
end PixelChip

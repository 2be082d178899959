import PixelChip.Proofs.Frame.RoundTrip

/-!
# Frames written again

Any eight bytes are a frame.  Writing that frame gives the bytes back, with one exception: a filler
byte in the first place stands for the whole sync filler, so that the rest of the first word comes
back as the filler has it.

No shift and no mask drops a bit: a word of 64 bits is the word of its register frame if its first
byte is an aurora code, and a word of 32 bits is always the word of its sub-frame.  What was read
also shows its kind, so that it is read back from what it is written as.
-/

namespace PixelChip

/-! ## Bytes of a number -/

lemma Numeral.size_pos {base : Nat} (hbase : 0 < base) (count : Nat) : 0 < size base count := by
  induction count with
  | zero => exact Nat.zero_lt_one
  | succ count ih => exact Nat.mul_pos hbase ih

/-- Bytes are the digits of the number that they denote. -/
lemma expand_ofBigEndian (bytes : List UInt8) :
    Numeral.expand 256 bytes.length (ofBigEndian bytes) = bytes.map UInt8.toNat := by
  have hdigits : ∀ digit ∈ bytes.map UInt8.toNat, digit < 256 := by
    intro digit hdigit
    obtain ⟨byte, -, rfl⟩ := List.mem_map.1 hdigit
    exact byte.toNat_lt
  have hexpand := Numeral.expand_value hdigits
  rwa [List.length_map] at hexpand

/-- Bytes survive their way through the number that they denote. -/
lemma bigEndian_ofBigEndian (bytes : List UInt8) :
    bigEndian bytes.length (ofBigEndian bytes) = bytes := by
  rw [bigEndian, expand_ofBigEndian, List.map_map]
  refine (List.map_congr_left fun byte _ => ?_).trans (List.map_id bytes)
  exact UInt8.ofNat_toNat

lemma ofBigEndian_lt (bytes : List UInt8) :
    ofBigEndian bytes < Numeral.size 256 bytes.length := by
  have hvalue : ofBigEndian bytes = ofBigEndian bytes % Numeral.size 256 bytes.length := by
    rw [← Numeral.value_expand, expand_ofBigEndian]
    rfl
  rw [hvalue]
  exact Nat.mod_lt _ (Numeral.size_pos (by decide) bytes.length)

/-- The first byte is what is left of the number above all others. -/
lemma ofBigEndian_cons_div (byte : UInt8) (rest : List UInt8) :
    ofBigEndian (byte :: rest) / Numeral.size 256 rest.length = byte.toNat := by
  have hbytes := bigEndian_ofBigEndian (byte :: rest)
  have hlt := ofBigEndian_lt (byte :: rest)
  rw [List.length_cons] at hbytes hlt
  have hdiv : ofBigEndian (byte :: rest) / Numeral.size 256 rest.length < 256 :=
    Nat.div_lt_of_lt_mul (by rwa [Nat.mul_comm])
  rw [bigEndian_succ, Nat.mod_eq_of_lt hdiv] at hbytes
  have hbyte := congrArg UInt8.toNat (List.head_eq_of_cons_eq hbytes)
  rwa [UInt8.toNat_ofNat', Nat.mod_eq_of_lt hdiv] at hbyte

/-! ## Register frames -/

namespace RegisterFrame

/-- Each aurora code is that of the flags that it stands for, and the error code leaves the slots
unmarked. -/
lemma withAuroraCode_flags {code : UInt8} (h : Aurora.isLegal code = true)
    (frame : RegisterFrame) :
    (withAuroraCode code frame).auroraCode = code ∧
      ((withAuroraCode code frame).error = true →
        (withAuroraCode code frame).first.autoRead = false ∧
          (withAuroraCode code frame).second.autoRead = false) := by
  have hcode : code ∈ [Aurora.autoAuto, Aurora.autoRead, Aurora.readAuto, Aurora.readRead,
      Aurora.error] := by simpa [Aurora.isLegal] using h
  simp only [List.mem_cons, List.not_mem_nil, or_false] at hcode
  obtain rfl | rfl | rfl | rfl | rfl := hcode
  case inr.inr.inr.inr => exact ⟨rfl, fun _ => ⟨rfl, rfl⟩⟩
  all_goals exact ⟨rfl, fun herror => absurd herror Bool.false_ne_true⟩

variable {word : Nat}

/-- No bit of a word is lost if its first byte is an aurora code. -/
lemma word_ofWord (hword : word < Numeral.size 256 8)
    (hcode : Aurora.isLegal (.ofNat (word >>> 56)) = true) : (ofWord word).word = word := by
  have hsize : Numeral.size 256 8 = 2 ^ 64 := by decide
  have hflags : (ofWord word).auroraCode = .ofNat (word >>> 56) :=
    (withAuroraCode_flags hcode _).1
  rw [RegisterFrame.word, hflags]
  simp only [ofWord, withAuroraCode, UInt8.toNat_ofNat', UInt16.toNat_ofNat',
    Nat.shiftRight_eq_div_pow, Nat.shiftLeft_eq]
  omega

lemma inWidth_ofWord (hcode : Aurora.isLegal (.ofNat (word >>> 56)) = true) :
    (Frame.register (ofWord word)).InWidth := by
  refine ⟨?_, ?_, ?_, (withAuroraCode_flags hcode _).2⟩ <;>
    simp only [ofWord, withAuroraCode, UInt8.toNat_ofNat', UInt16.toNat_ofNat'] <;> omega

end RegisterFrame

/-! ## Sub-frames -/

namespace SubFrame

variable {word : Nat}

/-- No bit of a word is lost. -/
lemma word_ofWord (hword : word < Numeral.size 256 4) : (ofWord word).word = word := by
  have hsize : Numeral.size 256 4 = 2 ^ 32 := by decide
  by_cases hkind : word >>> 25 = 1
  · rw [ofWord, if_pos hkind]
    simp only [SubFrame.word, UInt8.toNat_ofNat', UInt16.toNat_ofNat', Nat.shiftRight_eq_div_pow,
      Nat.shiftLeft_eq] at hkind ⊢
    omega
  · have hnibble : ∀ n : Nat, n % 16 % 2 ^ 8 % 16 = n % 16 := by omega
    have hsix : ∀ n : Nat, n % 64 % 2 ^ 8 % 64 = n % 64 := by omega
    rw [ofWord, if_neg hkind]
    simp only [SubFrame.word, UInt8.toNat_ofNat', Nat.shiftRight_eq_div_pow, Nat.shiftLeft_eq,
      hnibble, hsix]
    omega

lemma inWidth_ofWord (word : Nat) : (ofWord word).InWidth := by
  by_cases hkind : word >>> 25 = 1
  · rw [ofWord, if_pos hkind]
    simp only [InWidth, UInt8.toNat_ofNat', UInt16.toNat_ofNat']
    omega
  · rw [ofWord, if_neg hkind]
    simp only [InWidth, Quad.toList, List.forall_mem_cons, UInt8.toNat_ofNat']
    refine ⟨?_, ?_, ?_, ?_, ?_, ?_, ?_, by simp⟩ <;> omega

/-- What is read as a hit has not the bits of an event header. -/
lemma not_headerLike_ofWord (hword : word < Numeral.size 256 4) : ¬ (ofWord word).HeaderLike := by
  have hsize : Numeral.size 256 4 = 2 ^ 32 := by decide
  by_cases hkind : word >>> 25 = 1
  · rw [ofWord, if_pos hkind]
    exact id
  · rw [ofWord, if_neg hkind]
    simp only [HeaderLike, UInt8.toNat_ofNat', Nat.shiftRight_eq_div_pow] at hkind ⊢
    omega

end SubFrame

/-! ## Data frames -/

namespace DataFrame

variable (byte : UInt8) {rest : List UInt8}

/-- Both words of a frame of eight bytes are words of 32 bits. -/
lemma words_lt (h : rest.length = 7) :
    ofBigEndian ((byte :: rest).take 4) < Numeral.size 256 4 ∧
      ofBigEndian ((byte :: rest).drop 4) < Numeral.size 256 4 := by
  have htake := ofBigEndian_lt ((byte :: rest).take 4)
  have hdrop := ofBigEndian_lt ((byte :: rest).drop 4)
  simp only [List.length_take, List.length_drop, List.length_cons, h] at htake hdrop
  exact ⟨htake, hdrop⟩

lemma inWidth_ofBytes (bytes : List UInt8) : (Frame.data (ofBytes bytes)).InWidth := by
  refine ⟨fun sub hsub => ?_, SubFrame.inWidth_ofWord _⟩
  simp only [ofBytes] at hsub
  split at hsub
  · exact absurd hsub (by simp)
  · rw [← Option.some.inj hsub]
    exact SubFrame.inWidth_ofWord _

/-- The second word comes back, and the first one unless a filler is in front of it. -/
lemma encode_ofBytes (h : rest.length = 7) :
    (Frame.data (ofBytes (byte :: rest))).encode =
      (if byte = filler then [0x1E, 0x04, 0x00, 0x00] else (byte :: rest).take 4) ++
        (byte :: rest).drop 4 := by
  obtain ⟨hfirst, hsecond⟩ := words_lt byte h
  have htake := bigEndian_ofBigEndian ((byte :: rest).take 4)
  have hdrop := bigEndian_ofBigEndian ((byte :: rest).drop 4)
  simp only [List.length_take, List.length_drop, List.length_cons, h] at htake hdrop
  rw [Frame.encode]
  congr 1
  · by_cases hfiller : byte = filler
    · subst hfiller
      have hnone : (ofBytes (filler :: rest)).first = none := rfl
      rw [hnone, if_pos rfl, Option.elim_none]
      decide
    · simp only [ofBytes, List.head?_cons, Option.some.injEq, if_neg hfiller, Option.elim_some]
      rw [SubFrame.word_ofWord hfirst]
      exact htake
  · rw [ofBytes, SubFrame.word_ofWord hsecond]
    exact hdrop

/-- The first byte comes back in any case. -/
lemma firstByte_ofBytes (h : rest.length = 7) : (ofBytes (byte :: rest)).firstByte = byte := by
  have hencode := encode_ofBytes byte h
  rw [Frame.encode_data_cons] at hencode
  by_cases hfiller : byte = filler
  · rw [if_pos hfiller] at hencode
    exact (List.head_eq_of_cons_eq hencode).trans hfiller.symm
  · rw [if_neg hfiller] at hencode
    exact List.head_eq_of_cons_eq hencode

/-- The sub-frames that were read show their kind, and so does the first byte. -/
lemma unambiguous_ofBytes (h : rest.length = 7) (hlegal : Aurora.isLegal byte = false) :
    (Frame.data (ofBytes (byte :: rest))).Unambiguous := by
  obtain ⟨hfirst, hsecond⟩ := words_lt byte h
  have hbyte := firstByte_ofBytes byte h
  have hwidth := inWidth_ofBytes (byte :: rest)
  have hsecond' : ¬ (ofBytes (byte :: rest)).second.HeaderLike :=
    SubFrame.not_headerLike_ofWord hsecond
  have hfirst' : ∀ sub, (ofBytes (byte :: rest)).first = some sub →
      byte ≠ filler ∧ ¬ sub.HeaderLike := by
    intro sub hsub
    simp only [ofBytes, List.head?_cons, Option.some.injEq] at hsub
    split at hsub
    · exact absurd hsub (by simp)
    · next hfiller =>
      rw [← Option.some.inj hsub]
      exact ⟨hfiller, SubFrame.not_headerLike_ofWord hfirst⟩
  generalize ofBytes (byte :: rest) = frame at hbyte hwidth hsecond' hfirst'
  obtain ⟨first, second⟩ := frame
  refine ⟨fun sub hsub => ?_, fun hit hhit => ?_⟩
  · obtain hsub | hsub := List.mem_append.1 hsub
    · exact (hfirst' sub (Option.mem_toList.1 hsub)).2
    · rwa [List.mem_singleton.1 hsub]
  · obtain rfl : first = some (.hit hit) := hhit
    rw [← firstByte_of_hit (hwidth.1 _ rfl), hbyte]
    exact ⟨(hfirst' _ rfl).1, hlegal⟩

end DataFrame

/-! ## All frames -/

namespace Frame

variable (byte : UInt8) {rest : List UInt8}

/-- What eight bytes are: a register frame behind an aurora code, else blank or a data frame. -/
lemma ofBytes_cases (h : rest.length = 7) :
    (Aurora.isLegal byte = true ∧
        ofBytes (byte :: rest) = register (.ofWord (ofBigEndian (byte :: rest)))) ∨
      (byte :: rest = blankBytes ∧ ofBytes (byte :: rest) = blank) ∨
      (Aurora.isLegal byte = false ∧ byte :: rest ≠ blankBytes ∧
        ofBytes (byte :: rest) = data (.ofBytes (byte :: rest))) := by
  have hlength : (byte :: rest).length = 8 := by rw [List.length_cons, h]
  have hparse : RegisterFrame.parse (byte :: rest) =
      if Aurora.isLegal byte then .ok (.ofWord (ofBigEndian (byte :: rest)))
      else .error (.invalidAuroraCode byte) := by
    rw [RegisterFrame.parse, if_neg (by omega), List.take_of_length_le (by omega)]
  rw [ofBytes, hparse]
  cases hlegal : Aurora.isLegal byte with
  | true => exact .inl ⟨rfl, rfl⟩
  | false =>
      by_cases hblank : byte :: rest = blankBytes
      · exact .inr (.inl ⟨hblank, if_pos hblank⟩)
      · exact .inr (.inr ⟨rfl, hblank, if_neg hblank⟩)

/-- The aurora code in front of a register frame is the first byte of its word. -/
lemma ofNat_ofBigEndian_shiftRight (h : rest.length = 7) :
    UInt8.ofNat (ofBigEndian (byte :: rest) >>> 56) = byte := by
  have hsize : 2 ^ 56 = Numeral.size 256 rest.length := by
    rw [h]
    decide
  rw [Nat.shiftRight_eq_div_pow, hsize, ofBigEndian_cons_div, UInt8.ofNat_toNat]

/-- Whatever was read is within its widths and shows its kind. -/
lemma ofBytes_shows (h : rest.length = 7) :
    (ofBytes (byte :: rest)).InWidth ∧ (ofBytes (byte :: rest)).Unambiguous := by
  obtain ⟨hlegal, hframe⟩ | ⟨-, hframe⟩ | ⟨hlegal, -, hframe⟩ := ofBytes_cases byte h
  · rw [hframe]
    rw [← ofNat_ofBigEndian_shiftRight byte h] at hlegal
    exact ⟨RegisterFrame.inWidth_ofWord hlegal, trivial⟩
  · rw [hframe]
    exact ⟨trivial, trivial⟩
  · rw [hframe]
    exact ⟨DataFrame.inWidth_ofBytes _, DataFrame.unambiguous_ofBytes byte h hlegal⟩

/-- The bytes of a frame come back, but for what stands behind a filler that starts no blank
frame. -/
lemma encode_ofBytes (h : rest.length = 7) :
    (ofBytes (byte :: rest)).encode =
      if byte = filler ∧ byte :: rest ≠ blankBytes then
        [0x1E, 0x04, 0x00, 0x00] ++ (byte :: rest).drop 4
      else byte :: rest := by
  obtain ⟨hlegal, hframe⟩ | ⟨hblank, hframe⟩ | ⟨-, hblank, hframe⟩ := ofBytes_cases byte h
  · have hfiller : ¬ (byte = filler ∧ byte :: rest ≠ blankBytes) := by
      rintro ⟨rfl, -⟩
      exact absurd hlegal (by decide)
    have hbytes := bigEndian_ofBigEndian (byte :: rest)
    have hword := ofBigEndian_lt (byte :: rest)
    rw [List.length_cons, h] at hbytes hword
    rw [← ofNat_ofBigEndian_shiftRight byte h] at hlegal
    rw [hframe, if_neg hfiller, encode, RegisterFrame.word_ofWord hword hlegal, hbytes]
  · rw [hframe, if_neg (fun hfiller => hfiller.2 hblank), hblank, encode]
  · rw [hframe, DataFrame.encode_ofBytes byte h]
    by_cases hfiller : byte = filler
    · rw [if_pos hfiller, if_pos ⟨hfiller, hblank⟩]
    · rw [if_neg hfiller, if_neg (fun h => hfiller h.1), List.take_append_drop]

/-- **Writing a frame that was read gives its bytes back.**  Any eight bytes are a frame, whatever
follows them, and every field of it is within its width.  It is written as the same bytes, unless
a filler is in front of them and they are not the blank frame: then the first word is written as the
sync filler.  Either way the frame is read back from what it is written as. -/
theorem encode_undoes_parse {bytes : List UInt8} (h : bytes.length = 8) (behind : List UInt8) :
    ∃ frame, parse (bytes ++ behind) = .ok (frame, 8) ∧ frame.InWidth ∧
      frame.encode =
        (if bytes.head? = some filler ∧ bytes ≠ blankBytes then
          [0x1E, 0x04, 0x00, 0x00] ++ bytes.drop 4
        else bytes) ∧
      parse frame.encode = .ok (frame, 8) := by
  have hle : 8 ≤ (bytes ++ behind).length := by
    rw [List.length_append]
    omega
  obtain _ | ⟨byte, rest⟩ := bytes
  · exact absurd h (by decide)
  have hrest : rest.length = 7 := by rwa [List.length_cons, Nat.succ_inj] at h
  obtain ⟨hwidth, hkind⟩ := ofBytes_shows byte hrest
  have hagain := parse_encode hwidth hkind []
  rw [List.append_nil] at hagain
  refine ⟨ofBytes (byte :: rest), ?_, hwidth, ?_, hagain⟩
  · rw [parse_of_length_le hle, List.take_left' h]
  · rw [encode_ofBytes byte hrest]
    simp only [List.head?_cons, Option.some.injEq]

/-- A disturbed sync filler in front of an event header. -/
theorem encode_undoes_parse_of_disturbed_filler :
    let bytes : List UInt8 := [0x1E, 0xFF, 0x80, 0x01, 0x02, 0x12, 0x80, 0x05]
    let frame : Frame := .data (.synced (.header ⟨1, 5, 5⟩))
    bytes.length = 8 ∧ parse (bytes ++ [0x1E]) = .ok (frame, 8) ∧
      frame.encode = [0x1E, 0x04, 0x00, 0x00, 0x02, 0x12, 0x80, 0x05] ∧
      parse frame.encode = .ok (frame, 8) := by
  intro bytes frame
  have hlength : bytes.length = 8 := rfl
  obtain ⟨read, hparse, -, hencode, hagain⟩ := encode_undoes_parse hlength [0x1E]
  have hread : parse (bytes ++ [0x1E]) = .ok (frame, 8) := by decide +kernel
  obtain rfl : read = frame := (Prod.mk.inj (Except.ok.inj (hparse.symm.trans hread))).1
  exact ⟨hlength, hread, hencode, hagain⟩

end Frame
end PixelChip

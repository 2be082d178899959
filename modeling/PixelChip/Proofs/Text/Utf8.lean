import Mathlib.Tactic.Lemma
import Mathlib.Tactic.SplitIfs
import PixelChip.Text.Utf8

/-!
# Text in bytes and back

The bytes that are read as a text are exactly those that the text is written as
(`decodeUtf8_eq_ok_iff`).  A character of several bytes is read by its lead and then byte by byte;
`Continues` says which bytes may follow, and `codeAfter` which code point they make.  The bounds of
the byte behind the lead leave out every code point that has a shorter form or is no character.
-/

namespace PixelChip
namespace Text

/-! ## Characters of several bytes -/

/-- Some bytes complete a sequence, the first of them within the given bounds. -/
def Continues : (missing : Nat) → (low high : UInt8) → List UInt8 → Prop
  | 0, low, high, [byte] => low ≤ byte ∧ byte ≤ high
  | missing + 1, low, high, byte :: rest =>
    (low ≤ byte ∧ byte ≤ high) ∧ Continues missing 0x80 0xBF rest
  | _, _, _, _ => False

/-- The code point that the bits read so far and further bytes make. -/
def codeAfter (code : Nat) (bytes : List UInt8) : Nat :=
  bytes.foldl (fun code byte => 64 * code + byte.toNat % 64) code

variable {found text : List Char} {index start seen missing code : Nat} {low high : UInt8}

lemma decodeFrom_last {byte : UInt8} (h : low ≤ byte ∧ byte ≤ high) (rest : List UInt8) :
    decodeFrom found index (some ⟨start, seen, 0, low, high, code⟩) (byte :: rest) =
      decodeFrom (.ofNat (64 * code + byte.toNat % 64) :: found) (index + 1) none rest := by
  rw [decodeFrom]
  exact if_pos h

lemma decodeFrom_more {byte : UInt8} (h : low ≤ byte ∧ byte ≤ high) (rest : List UInt8) :
    decodeFrom found index (some ⟨start, seen, missing + 1, low, high, code⟩) (byte :: rest) =
      decodeFrom found (index + 1)
        (some ⟨start, seen + 1, missing, 0x80, 0xBF, 64 * code + byte.toNat % 64⟩) rest := by
  rw [decodeFrom]
  exact if_pos h

/-- A byte outside of the bounds is refused. -/
lemma bounds_of_decodeFrom {byte : UInt8} {rest : List UInt8}
    (h : decodeFrom found index (some ⟨start, seen, missing, low, high, code⟩) (byte :: rest) =
      .ok text) : low ≤ byte ∧ byte ≤ high := by
  rw [decodeFrom] at h
  split_ifs at h with hbounds
  exact hbounds

/-- Bytes that complete a sequence are read as its character. -/
lemma decodeFrom_of_continues {bytes : List UInt8} (h : Continues missing low high bytes)
    (rest : List UInt8) :
    decodeFrom found index (some ⟨start, seen, missing, low, high, code⟩) (bytes ++ rest) =
      decodeFrom (.ofNat (codeAfter code bytes) :: found) (index + bytes.length) none rest := by
  induction missing generalizing index seen low high code bytes with
  | zero =>
      obtain _ | ⟨byte, _ | ⟨_, _⟩⟩ := bytes
      · exact absurd h id
      · exact decodeFrom_last h rest
      · exact absurd h id
  | succ missing ih =>
      obtain _ | ⟨byte, bytes⟩ := bytes
      · exact absurd h id
      · rw [List.cons_append, decodeFrom_more h.1, ih h.2, List.length_cons, Nat.add_assoc,
          Nat.add_comm 1]
        rfl

/-- If reading on inside of a sequence succeeds, the sequence is completed first. -/
lemma exists_continues {bytes : List UInt8}
    (h : decodeFrom found index (some ⟨start, seen, missing, low, high, code⟩) bytes = .ok text) :
    ∃ more rest, bytes = more ++ rest ∧ Continues missing low high more := by
  induction missing generalizing index seen low high code bytes with
  | zero =>
      obtain _ | ⟨byte, bytes⟩ := bytes
      · cases h
      · exact ⟨[byte], bytes, rfl, bounds_of_decodeFrom h⟩
  | succ missing ih =>
      obtain _ | ⟨byte, bytes⟩ := bytes
      · cases h
      · have hbounds := bounds_of_decodeFrom h
        rw [decodeFrom_more hbounds] at h
        obtain ⟨more, rest, rfl, hmore⟩ := ih h
        exact ⟨byte :: more, rest, rfl, hbounds, hmore⟩

/-! ## Leads -/

lemma toNat_ofNat_of_valid {n : Nat} (h : n < 0xD800 ∨ 0xDFFF < n ∧ n < 0x110000) :
    (Char.ofNat n).toNat = n := by
  rw [Char.ofNat, dif_pos h]
  rfl

/-- A byte that continues a sequence, within some bounds. -/
def IsTail (low high : Nat) (byte : UInt8) : Prop :=
  low ≤ byte.toNat ∧ byte.toNat ≤ high

lemma continues_zero_iff {bytes : List UInt8} :
    Continues 0 low high bytes ↔ ∃ b, bytes = [b] ∧ IsTail low.toNat high.toNat b := by
  obtain _ | ⟨b, _ | ⟨c, rest⟩⟩ := bytes <;>
    simp [Continues, IsTail, UInt8.le_iff_toNat_le]

lemma continues_succ_iff {bytes : List UInt8} :
    Continues (missing + 1) low high bytes ↔ ∃ b rest, bytes = b :: rest ∧
      IsTail low.toNat high.toNat b ∧ Continues missing 0x80 0xBF rest := by
  constructor
  · obtain _ | ⟨b, rest⟩ := bytes
    · exact False.elim
    · rintro ⟨⟨hlow, hhigh⟩, hrest⟩
      exact ⟨b, rest, rfl, ⟨UInt8.le_iff_toNat_le.1 hlow, UInt8.le_iff_toNat_le.1 hhigh⟩, hrest⟩
  · rintro ⟨b, rest, rfl, ⟨hlow, hhigh⟩, hrest⟩
    exact ⟨⟨UInt8.le_iff_toNat_le.2 hlow, UInt8.le_iff_toNat_le.2 hhigh⟩, hrest⟩

/-- A character of two bytes. -/
lemma encodeChar_two {lead b : UInt8} (hlead : lead.toNat = 0xC0 + code)
    (hcode : 2 ≤ code ∧ code < 32) (hb : IsTail 0x80 0xBF b) :
    encodeChar (.ofNat (64 * code + b.toNat % 64)) = [lead, b] := by
  generalize hn : 64 * code + b.toNat % 64 = n
  unfold IsTail at hb
  have hchar : (Char.ofNat n).toNat = n := toNat_ofNat_of_valid (by omega)
  rw [encodeChar, hchar, if_neg (by omega), if_pos (by omega)]
  simp only [← UInt8.toNat_inj, List.cons.injEq, UInt8.toNat_ofNat', Nat.shiftRight_eq_div_pow,
    and_true]
  omega

/-- A character of three bytes, which has no shorter form and is no surrogate. -/
lemma encodeChar_three {lead b c : UInt8} (hlead : lead.toNat = 0xE0 + code) (hcode : code < 16)
    (hb : IsTail 0x80 0xBF b) (hc : IsTail 0x80 0xBF c)
    (hlong : 32 ≤ 64 * code + b.toNat % 64)
    (hvalid : 64 * code + b.toNat % 64 < 0x360 ∨ 0x380 ≤ 64 * code + b.toNat % 64) :
    encodeChar (.ofNat (64 * (64 * code + b.toNat % 64) + c.toNat % 64)) = [lead, b, c] := by
  generalize hn : 64 * (64 * code + b.toNat % 64) + c.toNat % 64 = n
  unfold IsTail at hb hc
  have hchar : (Char.ofNat n).toNat = n := toNat_ofNat_of_valid (by omega)
  rw [encodeChar, hchar, if_neg (by omega), if_neg (by omega), if_pos (by omega)]
  simp only [← UInt8.toNat_inj, List.cons.injEq, UInt8.toNat_ofNat', Nat.shiftRight_eq_div_pow,
    and_true]
  omega

/-- A character of four bytes, which has no shorter form and is not past the last. -/
lemma encodeChar_four {lead b c d : UInt8} (hlead : lead.toNat = 0xF0 + code)
    (hb : IsTail 0x80 0xBF b) (hc : IsTail 0x80 0xBF c) (hd : IsTail 0x80 0xBF d)
    (hlong : 16 ≤ 64 * code + b.toNat % 64) (hlast : 64 * code + b.toNat % 64 < 0x110) :
    encodeChar (.ofNat (64 * (64 * (64 * code + b.toNat % 64) + c.toNat % 64) + d.toNat % 64)) =
      [lead, b, c, d] := by
  generalize hn : 64 * (64 * (64 * code + b.toNat % 64) + c.toNat % 64) + d.toNat % 64 = n
  unfold IsTail at hb hc hd
  have hchar : (Char.ofNat n).toNat = n := toNat_ofNat_of_valid (by omega)
  rw [encodeChar, hchar, if_neg (by omega), if_neg (by omega), if_neg (by omega)]
  simp only [← UInt8.toNat_inj, List.cons.injEq, UInt8.toNat_ofNat', Nat.shiftRight_eq_div_pow,
    and_true]
  omega

/-- The bounds of a tail behind a lead are no wider than those of any other. -/
lemma IsTail.weaken {low high : Nat} {byte : UInt8} (h : IsTail low high byte)
    (hlow : 0x80 ≤ low) (hhigh : high ≤ 0xBF) : IsTail 0x80 0xBF byte :=
  ⟨Nat.le_trans hlow h.1, Nat.le_trans h.2 hhigh⟩

/-- A sequence that is completed is what its character is written as. -/
lemma encodeChar_of_lead {lead : UInt8} {seq : Utf8Sequence} {more : List UInt8}
    (hlead : Utf8Sequence.ofLead? start lead = some seq)
    (hmore : Continues seq.missing seq.low seq.high more) :
    encodeChar (.ofNat (codeAfter seq.code more)) = lead :: more := by
  unfold Utf8Sequence.ofLead? at hlead
  simp only [] at hlead
  split_ifs at hlead with h2 hE0 hED h3 hF0 h4 hF4
  all_goals
    obtain rfl := Option.some.inj hlead
    simp only [continues_succ_iff, continues_zero_iff] at hmore
    dsimp only
  · obtain ⟨b, rfl, hb⟩ := hmore
    exact encodeChar_two (by omega) (by omega) hb
  · obtain ⟨b, -, rfl, hb, c, rfl, hc⟩ := hmore
    have hbounds : 0xA0 ≤ b.toNat ∧ b.toNat ≤ 0xBF := hb
    exact encodeChar_three hE0 (by decide) (hb.weaken (by decide) (by decide)) hc (by omega)
      (by omega)
  · obtain ⟨b, -, rfl, hb, c, rfl, hc⟩ := hmore
    have hbounds : 0x80 ≤ b.toNat ∧ b.toNat ≤ 0x9F := hb
    exact encodeChar_three hED (by decide) (hb.weaken (by decide) (by decide)) hc (by omega)
      (by omega)
  · obtain ⟨b, -, rfl, hb, c, rfl, hc⟩ := hmore
    exact encodeChar_three (by omega) (by omega) hb hc (by omega) (by omega)
  · obtain ⟨b, -, rfl, hb, c, -, rfl, hc, d, rfl, hd⟩ := hmore
    have hbounds : 0x90 ≤ b.toNat ∧ b.toNat ≤ 0xBF := hb
    exact encodeChar_four hF0 (hb.weaken (by decide) (by decide)) hc hd (by omega) (by omega)
  · obtain ⟨b, -, rfl, hb, c, -, rfl, hc, d, rfl, hd⟩ := hmore
    exact encodeChar_four (by omega) hb hc hd (by omega) (by omega)
  · obtain ⟨b, -, rfl, hb, c, -, rfl, hc, d, rfl, hd⟩ := hmore
    have hbounds : 0x80 ≤ b.toNat ∧ b.toNat ≤ 0x8F := hb
    exact encodeChar_four hF4 (hb.weaken (by decide) (by decide)) hc hd (by omega) (by omega)

lemma toNat_tail (n : Nat) : (UInt8.ofNat (0x80 + n % 64)).toNat = 0x80 + n % 64 := by
  rw [UInt8.toNat_ofNat']
  omega

/-- The lead of three bytes. -/
lemma ofLead?_three {lead : UInt8} (hlead : lead.toNat = 0xE0 + code) (hcode : code < 16)
    (start : Nat) : ∃ low high,
      Utf8Sequence.ofLead? start lead = some ⟨start, 1, 1, low, high, code⟩ ∧
      low.toNat = (if code = 0 then 0xA0 else 0x80) ∧
      high.toNat = if code = 13 then 0x9F else 0xBF := by
  unfold Utf8Sequence.ofLead?
  simp only [hlead]
  rw [if_neg (by omega)]
  by_cases h0 : code = 0
  · exact ⟨0xA0, 0xBF, by simp [h0], by simp [h0], by simp [h0]⟩
  · by_cases h13 : code = 13
    · exact ⟨0x80, 0x9F, by simp [h13], by simp [h13], by simp [h13]⟩
    · refine ⟨0x80, 0xBF, ?_, by simp [h0], by simp [h13]⟩
      rw [if_neg (by omega), if_neg (by omega), if_pos (by omega), Nat.add_sub_cancel_left]

/-- The lead of four bytes. -/
lemma ofLead?_four {lead : UInt8} (hlead : lead.toNat = 0xF0 + code) (hcode : code < 5)
    (start : Nat) : ∃ low high,
      Utf8Sequence.ofLead? start lead = some ⟨start, 1, 2, low, high, code⟩ ∧
      low.toNat = (if code = 0 then 0x90 else 0x80) ∧
      high.toNat = if code = 4 then 0x8F else 0xBF := by
  unfold Utf8Sequence.ofLead?
  simp only [hlead]
  rw [if_neg (by omega), if_neg (by omega), if_neg (by omega), if_neg (by omega)]
  by_cases h0 : code = 0
  · exact ⟨0x90, 0xBF, by simp [h0], by simp [h0], by simp [h0]⟩
  · by_cases h4 : code = 4
    · exact ⟨0x80, 0x8F, by simp [h4], by simp [h4], by simp [h4]⟩
    · refine ⟨0x80, 0xBF, ?_, by simp [h0], by simp [h4]⟩
      rw [if_neg (by omega), if_pos (by omega), Nat.add_sub_cancel_left]

lemma not_lt_of_toNat {lead : UInt8} (h : 0x80 ≤ lead.toNat) : ¬ lead < 0x80 := by
  rw [UInt8.lt_iff_toNat_lt]
  exact Nat.not_lt_of_le h

lemma isTail_tail (n : Nat) : IsTail 0x80 0xBF (.ofNat (0x80 + n % 64)) := by
  rw [IsTail, toNat_tail]
  omega

/-- Some bytes are a lead and what completes its sequence to a code point. -/
def AreSequence (start n : Nat) (bytes : List UInt8) : Prop :=
  ∃ lead seq more, bytes = lead :: more ∧ ¬ lead < 0x80 ∧
    Utf8Sequence.ofLead? start lead = some seq ∧
    Continues seq.missing seq.low seq.high more ∧ codeAfter seq.code more = n

lemma areSequence_two (start : Nat) {n : Nat} (h : 0x80 ≤ n ∧ n < 0x800) :
    AreSequence start n [.ofNat (0xC0 + n / 64), .ofNat (0x80 + n % 64)] := by
  have h0 := toNat_tail n
  have hlead : (UInt8.ofNat (0xC0 + n / 64)).toNat = 0xC0 + n / 64 := by
    rw [UInt8.toNat_ofNat']
    omega
  refine ⟨_, ⟨start, 1, 0, 0x80, 0xBF, n / 64⟩, _, rfl, not_lt_of_toNat (by omega), ?_,
    continues_zero_iff.2 ⟨_, rfl, isTail_tail n⟩, ?_⟩
  · unfold Utf8Sequence.ofLead?
    simp only [hlead]
    rw [if_pos (by omega), Nat.add_sub_cancel_left]
  · show 64 * (n / 64) + _ % 64 = n
    omega

lemma areSequence_three (start : Nat) {n : Nat} (h : 0x800 ≤ n ∧ n < 0x10000)
    (hvalid : n < 0xD800 ∨ 0xDFFF < n) :
    AreSequence start n
      [.ofNat (0xE0 + n / 4096), .ofNat (0x80 + n / 64 % 64), .ofNat (0x80 + n % 64)] := by
  have h0 := toNat_tail n
  have h1 := toNat_tail (n / 64)
  have hlead : (UInt8.ofNat (0xE0 + n / 4096)).toNat = 0xE0 + n / 4096 := by
    rw [UInt8.toNat_ofNat']
    omega
  obtain ⟨low, high, hseq, hlow, hhigh⟩ := ofLead?_three hlead (by omega) start
  have hbounds : IsTail low.toNat high.toNat (.ofNat (0x80 + n / 64 % 64)) := by
    rw [IsTail, h1, hlow, hhigh]
    split_ifs <;> omega
  refine ⟨_, _, _, rfl, not_lt_of_toNat (by omega), hseq,
    continues_succ_iff.2 ⟨_, _, rfl, hbounds, continues_zero_iff.2 ⟨_, rfl, isTail_tail n⟩⟩, ?_⟩
  show 64 * (64 * (n / 4096) + _ % 64) + _ % 64 = n
  omega

lemma areSequence_four (start : Nat) {n : Nat} (h : 0x10000 ≤ n ∧ n < 0x110000) :
    AreSequence start n
      [.ofNat (0xF0 + n / 262144), .ofNat (0x80 + n / 4096 % 64), .ofNat (0x80 + n / 64 % 64),
        .ofNat (0x80 + n % 64)] := by
  have h0 := toNat_tail n
  have h1 := toNat_tail (n / 64)
  have h2 := toNat_tail (n / 4096)
  have hlead : (UInt8.ofNat (0xF0 + n / 262144)).toNat = 0xF0 + n / 262144 := by
    rw [UInt8.toNat_ofNat']
    omega
  obtain ⟨low, high, hseq, hlow, hhigh⟩ := ofLead?_four hlead (by omega) start
  have hbounds : IsTail low.toNat high.toNat (.ofNat (0x80 + n / 4096 % 64)) := by
    rw [IsTail, h2, hlow, hhigh]
    split_ifs <;> omega
  refine ⟨_, _, _, rfl, not_lt_of_toNat (by omega), hseq,
    continues_succ_iff.2 ⟨_, _, rfl, hbounds, continues_succ_iff.2 ⟨_, _, rfl,
      isTail_tail (n / 64), continues_zero_iff.2 ⟨_, rfl, isTail_tail n⟩⟩⟩, ?_⟩
  show 64 * (64 * (64 * (n / 262144) + _ % 64) + _ % 64) + _ % 64 = n
  omega

/-- A character past ASCII starts with a lead and goes on with bytes that complete it. -/
lemma areSequence_encodeChar {c : Char} (h : 0x80 ≤ c.toNat) (start : Nat) :
    AreSequence start c.toNat (encodeChar c) := by
  have hvalid : c.toNat < 0xD800 ∨ 0xDFFF < c.toNat ∧ c.toNat < 0x110000 := c.valid
  rw [encodeChar, if_neg (by omega)]
  simp only [Nat.shiftRight_eq_div_pow, Nat.reducePow, Nat.div_one]
  by_cases hshort : c.toNat < 0x800
  · rw [if_pos hshort]
    exact areSequence_two start ⟨h, hshort⟩
  · rw [if_neg hshort]
    by_cases hmiddle : c.toNat < 0x10000
    · rw [if_pos hmiddle]
      exact areSequence_three start (by omega) (by omega)
    · rw [if_neg hmiddle]
      exact areSequence_four start (by omega)

/-! ## Texts -/

lemma decodeFrom_ascii {byte : UInt8} (h : byte < 0x80) (rest : List UInt8) :
    decodeFrom found index none (byte :: rest) =
      decodeFrom (.ofNat byte.toNat :: found) (index + 1) none rest := by
  rw [decodeFrom, if_pos h]

lemma decodeFrom_lead {lead : UInt8} {seq : Utf8Sequence} (h : ¬ lead < 0x80)
    (hseq : Utf8Sequence.ofLead? index lead = some seq) (rest : List UInt8) :
    decodeFrom found index none (lead :: rest) = decodeFrom found (index + 1) (some seq) rest := by
  rw [decodeFrom, if_neg h, hseq]

/-- The bytes of a character are read as that character. -/
lemma decodeFrom_encodeChar (found : List Char) (index : Nat) (c : Char) (rest : List UInt8) :
    ∃ index', decodeFrom found index none (encodeChar c ++ rest) =
      decodeFrom (c :: found) index' none rest := by
  by_cases h : c.toNat < 0x80
  · have hbyte : (UInt8.ofNat c.toNat).toNat = c.toNat := by
      rw [UInt8.toNat_ofNat']
      omega
    have hlow : UInt8.ofNat c.toNat < 0x80 := UInt8.lt_iff_toNat_lt.2 (by simpa [hbyte] using h)
    rw [encodeChar, if_pos h, List.singleton_append, decodeFrom_ascii hlow, hbyte,
      Char.ofNat_toNat]
    exact ⟨_, rfl⟩
  · obtain ⟨lead, ⟨start, seen, missing, low, high, code⟩, more, hbytes, hlead, hseq, hmore,
      hcode⟩ := areSequence_encodeChar (Nat.le_of_not_lt h) index
    rw [hbytes, List.cons_append, decodeFrom_lead hlead hseq, decodeFrom_of_continues hmore, hcode,
      Char.ofNat_toNat]
    exact ⟨_, rfl⟩

lemma decodeFrom_encodeUtf8 (found : List Char) (index : Nat) (text : List Char) :
    decodeFrom found index none (encodeUtf8 text) = .ok (found.reverse ++ text) := by
  induction text generalizing found index with
  | nil => rw [List.append_nil]; rfl
  | cons c text ih =>
      obtain ⟨index', hread⟩ := decodeFrom_encodeChar found index c (encodeUtf8 text)
      rw [encodeUtf8, List.flatMap_cons, ← encodeUtf8, hread, ih, List.reverse_cons,
        List.append_assoc, List.singleton_append]

/-- Bytes that are read as a text start with a character, if there are any. -/
lemma exists_char {byte : UInt8} {bytes : List UInt8}
    (h : decodeFrom found index none (byte :: bytes) = .ok text) :
    ∃ c rest index', byte :: bytes = encodeChar c ++ rest ∧
      decodeFrom (c :: found) index' none rest = .ok text := by
  by_cases hlow : byte < 0x80
  · rw [decodeFrom_ascii hlow] at h
    have hbyte : byte.toNat < 0x80 := UInt8.lt_iff_toNat_lt.1 hlow
    refine ⟨.ofNat byte.toNat, bytes, index + 1, ?_, h⟩
    rw [encodeChar, toNat_ofNat_of_valid (by omega), if_pos hbyte, UInt8.ofNat_toNat]
    rfl
  · cases hseq : Utf8Sequence.ofLead? index byte with
    | none =>
        rw [decodeFrom, if_neg hlow, hseq] at h
        cases h
    | some seq =>
        obtain ⟨start, seen, missing, low, high, code⟩ := seq
        rw [decodeFrom_lead hlow hseq] at h
        obtain ⟨more, rest, rfl, hmore⟩ := exists_continues h
        rw [decodeFrom_of_continues hmore] at h
        refine ⟨_, rest, _, ?_, h⟩
        rw [encodeChar_of_lead hseq hmore]
        rfl

lemma exists_text {bytes : List UInt8} (h : decodeFrom found index none bytes = .ok text) :
    ∃ rest, text = found.reverse ++ rest ∧ bytes = encodeUtf8 rest := by
  induction hlength : bytes.length using Nat.strongRecOn generalizing bytes found index with
  | ind n ih =>
      obtain _ | ⟨byte, bytes⟩ := bytes
      · exact ⟨[], (Except.ok.inj h).symm.trans (List.append_nil _).symm, rfl⟩
      · obtain ⟨c, rest, index', hbytes, hrest⟩ := exists_char h
        have hlt : rest.length < n := by
          have hle := congrArg List.length hbytes
          have hpos : encodeChar c ≠ [] := by
            rw [encodeChar]
            split_ifs <;> simp
          have hpos := List.length_pos_iff.2 hpos
          rw [List.length_append] at hle
          omega
        obtain ⟨tail, htext, rfl⟩ := ih rest.length hlt hrest rfl
        refine ⟨c :: tail, ?_, hbytes⟩
        rw [htext, List.reverse_cons, List.append_assoc, List.singleton_append]

/-- **The bytes of a text are those that are read as it.** -/
theorem decodeUtf8_eq_ok_iff (bytes : List UInt8) (text : List Char) :
    decodeUtf8 bytes = .ok text ↔ bytes = encodeUtf8 text := by
  constructor
  · intro h
    obtain ⟨rest, htext, hbytes⟩ := exists_text h
    rw [hbytes, htext]
    rfl
  · rintro rfl
    exact decodeFrom_encodeUtf8 [] 0 text

end Text
end PixelChip

import Mathlib.Data.List.Induction
import Mathlib.Tactic.FinCases
import PixelChip.Dissect.HexDigits
import PixelChip.Text.Utf8

/-!
# Laws of decoders of digits

Hex dumps are read with any `HexDecoder`.  What is proved of them rests on three laws of it:

* digits in any letter case are decoded to the bytes that are written with them;
* an odd number of bytes is refused as such, whatever they are;
* of an even number of bytes the first that is no digit is reported, with its position.

Decoding pairs of digits obeys them.
-/

namespace PixelChip

open Text

/-- A hexadecimal digit in ASCII. -/
def IsHexDigit (c : Char) : Prop :=
  c ∈ ['0', '1', '2', '3', '4', '5', '6', '7', '8', '9', 'a', 'b', 'c', 'd', 'e', 'f',
    'A', 'B', 'C', 'D', 'E', 'F']

instance (c : Char) : Decidable (IsHexDigit c) :=
  inferInstanceAs (Decidable (c ∈ _))

/-- The pairs of digits are those of some bytes, in any letter case. -/
def Denotes (digits : List Char) (bytes : List UInt8) : Prop :=
  digits.map Char.toLower = bytes.flatMap fun byte => (hex 2 byte.toNat).toList

/-- A decoder undoes writing bytes in hexadecimal, and says what is wrong with other digits. -/
class LawfulHexDecoder [HexDecoder] : Prop where
  decode_of_denotes : ∀ {digits : List Char} {bytes : List UInt8}, Denotes digits bytes →
    HexDecoder.decode (encodeUtf8 digits) = .ok bytes
  decode_of_odd : ∀ {digits : List UInt8}, digits.length % 2 = 1 →
    HexDecoder.decode digits = .error .oddLength
  decode_of_invalid : ∀ {ahead behind : List UInt8} {byte : UInt8},
    (ahead ++ byte :: behind).length % 2 = 0 →
    (∀ other ∈ ahead, IsHexDigit (.ofNat other.toNat)) → ¬ IsHexDigit (.ofNat byte.toNat) →
    HexDecoder.decode (ahead ++ byte :: behind) = .error (.invalidCharacter byte ahead.length)

lemma Denotes.append {digits digits' : List Char} {bytes bytes' : List UInt8}
    (h : Denotes digits bytes) (h' : Denotes digits' bytes') :
    Denotes (digits ++ digits') (bytes ++ bytes') := by
  rw [Denotes, List.map_append, List.flatMap_append, h, h']

/-! ## Digits -/

/-- A byte is written with two digits. -/
lemma toList_hex_two {n : Nat} (h : n < 256) :
    (hex 2 n).toList = [Nat.digitChar (n / 16), Nat.digitChar (n % 16)] := by
  rw [hex, padded, String.toList_ofList]
  by_cases hsmall : n < 16
  · rw [Nat.toDigits_of_lt_base hsmall, Nat.div_eq_of_lt hsmall, Nat.mod_eq_of_lt hsmall]
    rfl
  · have hlarge : 16 ≤ n := Nat.le_of_not_lt hsmall
    have hhigh : n / 16 < 16 := Nat.div_lt_of_lt_mul h
    rw [Nat.toDigits_of_base_le (by decide) hlarge, Nat.toDigits_of_lt_base hhigh]
    rfl

/-- The digits of a byte, as they are written, denote it. -/
lemma denotes_hex (byte : UInt8) : Denotes (hex 2 byte.toNat).toList [byte] := by
  have hbyte : byte.toNat < 256 := byte.toNat_lt
  have hlower : ∀ d < 16, (Nat.digitChar d).toLower = Nat.digitChar d := by decide
  rw [Denotes, List.flatMap_singleton, toList_hex_two hbyte, List.map_cons, List.map_singleton,
    hlower _ (Nat.div_lt_of_lt_mul hbyte), hlower _ (Nat.mod_lt _ (by decide))]

/-- A digit is one byte in UTF-8. -/
lemma IsHexDigit.encodeChar_eq {c : Char} (h : IsHexDigit c) : encodeChar c = [.ofNat c.toNat] := by
  unfold IsHexDigit at h
  fin_cases h <;> rfl

/-- The byte of a digit is that digit. -/
lemma IsHexDigit.ofNat_toNat {c : Char} (h : IsHexDigit c) :
    Char.ofNat (UInt8.ofNat c.toNat).toNat = c := by
  unfold IsHexDigit at h
  fin_cases h <;> rfl

/-- A digit is one that is written, in either letter case. -/
lemma isHexDigit_iff (c : Char) : IsHexDigit c ↔ ∃ d < 16, c.toLower = Nat.digitChar d := by
  constructor
  · intro h
    unfold IsHexDigit at h
    fin_cases h <;> decide
  · rintro ⟨d, hd, hc⟩
    have hdigit : ∀ d < 16, (Nat.digitChar d).toNat < 128 := by decide
    have hall : ∀ n < 128, ∀ d < 16, (Char.ofNat n).toLower = Nat.digitChar d →
        IsHexDigit (.ofNat n) := by
      decide +kernel
    have hascii : c.toNat < 128 := by
      unfold Char.toLower at hc
      split at hc
      · rename_i hupper
        exact Nat.lt_of_le_of_lt hupper.2 (by decide)
      · exact hc ▸ hdigit d hd
    rw [← Char.ofNat_toNat c]
    exact hall c.toNat hascii d hd (by rwa [Char.ofNat_toNat])

namespace HexDigits

/-- A digit has the value that its lower case is written for. -/
lemma nibble?_of_toLower {c : Char} {d : Nat} (hd : d < 16) (h : c.toLower = Nat.digitChar d) :
    nibble? (.ofNat c.toNat) = some d := by
  have hdigit : IsHexDigit c := (isHexDigit_iff c).2 ⟨d, hd, h⟩
  unfold IsHexDigit at hdigit
  revert d
  fin_cases hdigit <;> decide

/-- A byte has no value as a digit unless it is one. -/
lemma nibble?_eq_none_iff (byte : UInt8) :
    nibble? byte = none ↔ ¬ IsHexDigit (.ofNat byte.toNat) := by
  have hall : ∀ n < 256, nibble? (.ofNat n) = none ↔ ¬ IsHexDigit (.ofNat n) := by
    decide +kernel
  have h := hall byte.toNat byte.toNat_lt
  rwa [UInt8.ofNat_toNat] at h

lemma exists_nibble {byte : UInt8} (h : IsHexDigit (.ofNat byte.toNat)) (position : Nat) :
    ∃ x, nibble byte position = .ok x := by
  cases hvalue : nibble? byte with
  | none => exact absurd h ((nibble?_eq_none_iff byte).1 hvalue)
  | some x => exact ⟨x, by rw [nibble, hvalue]⟩

lemma nibble_of_not_isHexDigit {byte : UInt8} (h : ¬ IsHexDigit (.ofNat byte.toNat))
    (position : Nat) : nibble byte position = .error (.invalidCharacter byte position) := by
  rw [nibble, (nibble?_eq_none_iff byte).2 h]

/-! ## Pairs of digits -/

/-- The digits of a byte stand in front, as one byte each. -/
lemma exists_of_denotes_cons {digits : List Char} {byte : UInt8} {bytes : List UInt8}
    (h : Denotes digits (byte :: bytes)) :
    ∃ high low rest, encodeUtf8 digits = high :: low :: encodeUtf8 rest ∧
      nibble? high = some (byte.toNat / 16) ∧ nibble? low = some (byte.toNat % 16) ∧
      Denotes rest bytes := by
  have hbyte : byte.toNat < 256 := byte.toNat_lt
  have hhigh : byte.toNat / 16 < 16 := Nat.div_lt_of_lt_mul hbyte
  have hlow : byte.toNat % 16 < 16 := Nat.mod_lt _ (by decide)
  rw [Denotes, List.flatMap_cons, toList_hex_two hbyte] at h
  obtain ⟨first, digits, rfl, hfirst, h⟩ := List.map_eq_cons_iff.1 h
  obtain ⟨second, rest, rfl, hsecond, hrest⟩ := List.map_eq_cons_iff.1 h
  refine ⟨.ofNat first.toNat, .ofNat second.toNat, rest, ?_, nibble?_of_toLower hhigh hfirst,
    nibble?_of_toLower hlow hsecond, hrest⟩
  have hfirstByte := ((isHexDigit_iff first).2 ⟨_, hhigh, hfirst⟩).encodeChar_eq
  have hsecondByte := ((isHexDigit_iff second).2 ⟨_, hlow, hsecond⟩).encodeChar_eq
  rw [encodeUtf8, List.flatMap_cons, List.flatMap_cons, hfirstByte, hsecondByte]
  rfl

/-- Digits of bytes are decoded pair by pair. -/
lemma pairs_of_denotes {digits : List Char} {bytes : List UInt8} (h : Denotes digits bytes)
    (position : Nat) : pairs position (encodeUtf8 digits) = .ok bytes := by
  induction bytes generalizing digits position with
  | nil =>
      obtain rfl : digits = [] := List.map_eq_nil_iff.1 h
      rfl
  | cons byte bytes ih =>
      obtain ⟨high, low, rest, hdigits, hhigh, hlow, hrest⟩ := exists_of_denotes_cons h
      rw [hdigits, pairs, nibble, nibble, hhigh, hlow, ih hrest (position + 2)]
      show Except.ok (UInt8.ofNat (16 * (byte.toNat / 16) + byte.toNat % 16) :: bytes) = _
      rw [Nat.div_add_mod, UInt8.ofNat_toNat]

/-- There are two digits for every byte. -/
lemma length_of_denotes {digits : List Char} {bytes : List UInt8} (h : Denotes digits bytes) :
    (encodeUtf8 digits).length = 2 * bytes.length := by
  induction bytes generalizing digits with
  | nil =>
      obtain rfl : digits = [] := List.map_eq_nil_iff.1 h
      rfl
  | cons byte bytes ih =>
      obtain ⟨high, low, rest, hdigits, -, -, hrest⟩ := exists_of_denotes_cons h
      rw [hdigits, List.length_cons, List.length_cons, List.length_cons, ih hrest]
      omega

/-- The first byte that is no digit is reported. -/
lemma pairs_of_invalid {ahead behind : List UInt8} {byte : UInt8}
    (heven : (ahead ++ byte :: behind).length % 2 = 0)
    (hahead : ∀ other ∈ ahead, IsHexDigit (.ofNat other.toNat))
    (hbyte : ¬ IsHexDigit (.ofNat byte.toNat)) (position : Nat) :
    pairs position (ahead ++ byte :: behind) =
      .error (.invalidCharacter byte (position + ahead.length)) := by
  induction ahead using List.twoStepInduction generalizing position with
  | nil =>
      obtain _ | ⟨low, behind⟩ := behind
      · exact absurd heven (by simp)
      · rw [List.nil_append, pairs, nibble_of_not_isHexDigit hbyte]
        rfl
  | singleton high =>
      obtain ⟨x, hx⟩ := exists_nibble (hahead high List.mem_cons_self) position
      rw [List.singleton_append, pairs, hx, nibble_of_not_isHexDigit hbyte]
      rfl
  | cons_cons high low ahead ih _ =>
      obtain ⟨x, hx⟩ := exists_nibble (hahead high (by simp)) position
      obtain ⟨y, hy⟩ := exists_nibble (hahead low (by simp)) (position + 1)
      have hrest := ih (by simp only [List.cons_append, List.length_cons] at heven; omega)
        (fun other hother => hahead other (by simp [hother])) (position + 2)
      have hplace : position + 2 + ahead.length = position + (high :: low :: ahead).length := by
        simp only [List.length_cons]
        omega
      rw [List.cons_append, List.cons_append, pairs, hx, hy, hrest, hplace]
      rfl

end HexDigits

/-- Digits denote one list of bytes at most. -/
lemma Denotes.unique {digits : List Char} {bytes bytes' : List UInt8} (h : Denotes digits bytes)
    (h' : Denotes digits bytes') : bytes = bytes' :=
  Except.ok.inj ((HexDigits.pairs_of_denotes h 0).symm.trans (HexDigits.pairs_of_denotes h' 0))

instance : LawfulHexDecoder where
  decode_of_denotes h := by
    have hlength := HexDigits.length_of_denotes h
    exact (if_neg (by omega)).trans (HexDigits.pairs_of_denotes h 0)
  decode_of_odd h := if_pos h
  decode_of_invalid heven hahead hbyte := by
    have h := HexDigits.pairs_of_invalid heven hahead hbyte 0
    rw [Nat.zero_add] at h
    exact (if_neg (by omega)).trans h

end PixelChip

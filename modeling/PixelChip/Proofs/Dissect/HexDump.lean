import Mathlib.Data.List.TakeWhile
import PixelChip.Dissect.HexDump
import PixelChip.Link.Packet
import PixelChip.Proofs.Dissect.HexDecoding
import PixelChip.Proofs.Text.Digits

/-!
# Hex dumps read back

A row is some bytes in hexadecimal behind some blanks.  A text of rows, one to a line, is a hex dump
of the bytes of all of them (`parse_rows`): the blanks in front of a row are tokens without digits,
and no digit is taken for a separator, a comment or the marker of hexadecimal numbers.  Any lawful
decoder of digits will do.
-/

namespace PixelChip
namespace HexDump

open Text

/-! ## Cutting a text -/

lemma splitWhere_eq_splitOnP (p : Char → Bool) (text : List Char) :
    splitWhere p text = text.splitOnP p := by
  induction text with
  | nil => rfl
  | cons c rest ih =>
      rw [splitWhere, List.splitOnP_cons_eq_if_modifyHead, ih]
      cases hrest : rest.splitOnP p with
      | nil => exact absurd hrest (List.splitOnP_ne_nil p rest)
      | cons piece pieces => rfl

lemma splitWhere_eq_splitOn (c : Char) (text : List Char) :
    splitWhere (· = c) text = text.splitOn c := by
  rw [splitWhere_eq_splitOnP, List.splitOn_eq_splitOnP]
  rfl

/-- Parts with a separator between them are cut there and wherever each of them is cut. -/
lemma splitOnP_intercalate {p : Char → Bool} {c : Char} (hc : p c = true)
    {parts : List (List Char)} (hparts : parts ≠ []) :
    ([c].intercalate parts).splitOnP p = parts.flatMap (List.splitOnP p) := by
  induction parts with
  | nil => exact absurd rfl hparts
  | cons first rest ih =>
      obtain _ | ⟨second, rest⟩ := rest
      · rw [List.intercalate_singleton, List.flatMap_singleton]
      · rw [List.intercalate_cons_cons, List.append_assoc, List.singleton_append,
          List.splitOnP_append_cons first _ hc, ih (List.cons_ne_nil second rest)]
        rfl

/-- Every separator in front of a text leaves an empty part. -/
lemma splitOnP_replicate_append {p : Char → Bool} {c : Char} (hc : p c = true) (count : Nat)
    (text : List Char) :
    (List.replicate count c ++ text).splitOnP p = List.replicate count [] ++ text.splitOnP p := by
  induction count with
  | zero => rfl
  | succ count ih =>
      rw [List.replicate_succ, List.cons_append, List.splitOnP_cons_eq_if_modifyHead, if_pos hc, ih]
      rfl

/-! ## Rows -/

/-- Some bytes in hexadecimal behind some blanks. -/
def row (indent : Nat) (bytes : List UInt8) : List Char :=
  List.replicate indent ' ' ++ (hexBytes bytes).toList

lemma toList_hexBytes (bytes : List UInt8) : (hexBytes bytes).toList =
    [' '].intercalate (bytes.map fun byte => (hex 2 byte.toNat).toList) := by
  rw [hexBytes, String.toList_intercalate, List.map_map]
  rfl

/-- Blanks and digits are all that a row holds. -/
lemma not_mem_row {c : Char} (hblank : c ≠ ' ') (hdigit : c ∉ digitChars) (indent : Nat)
    (bytes : List UInt8) : c ∉ row indent bytes := by
  rw [row, toList_hexBytes, List.mem_append, not_or]
  refine ⟨fun h => hblank (List.eq_of_mem_replicate h), ?_⟩
  refine not_mem_intercalate (by simpa using hblank) fun part hpart hmem => hdigit ?_
  obtain ⟨byte, -, rfl⟩ := List.mem_map.1 hpart
  exact mem_digitChars_of_mem_padded (by decide) (by decide) hmem

/-- Every blank in front of a row gives an empty token, and none of the row is a comment. -/
lemma tokens_row (indent : Nat) (bytes : List UInt8) :
    tokens (row indent bytes) =
      List.replicate indent [] ++ (hexBytes bytes).toList.splitOnP isSeparator := by
  have hcomment : (row indent bytes).takeWhile (· ≠ '#') = row indent bytes := by
    refine List.takeWhile_eq_self_iff.2 fun c hc => ?_
    rw [decide_eq_true_eq]
    rintro rfl
    exact not_mem_row (by decide) (by decide) indent bytes hc
  rw [tokens, hcomment, splitWhere_eq_splitOnP, row, splitOnP_replicate_append (by decide)]

lemma isSeparator_of_mem_digitChars {c : Char} (h : c ∈ digitChars) : isSeparator c = false := by
  have hdigit : ∀ d < 16, isSeparator (Nat.digitChar d) = false := by decide
  obtain ⟨d, hd, rfl⟩ := List.mem_map.1 h
  exact hdigit d (List.mem_range.1 hd)

/-- The other tokens are the digits of one byte each. -/
lemma splitOnP_hexBytes {bytes : List UInt8} (hbytes : bytes ≠ []) :
    (hexBytes bytes).toList.splitOnP isSeparator =
      bytes.map fun byte => (hex 2 byte.toNat).toList := by
  have hbyte : ∀ byte : UInt8,
      (hex 2 byte.toNat).toList.splitOnP isSeparator = [(hex 2 byte.toNat).toList] := by
    intro byte
    refine List.splitOnP_eq_singleton fun c hc => isSeparator_of_mem_digitChars ?_
    exact mem_digitChars_of_mem_padded (by decide) (by decide) hc
  rw [toList_hexBytes, splitOnP_intercalate (by decide) (by simpa using hbytes), List.flatMap_map]
  simp only [hbyte]
  rw [List.map_eq_flatMap]

/-! ## Rows read -/

/-- A token of two characters has no marker unless the second of them is an `x`. -/
lemma digitsOf_of_ne {first second : Char} (hlower : second ≠ 'x') (hupper : second ≠ 'X') :
    digitsOf [first, second] = [first, second] := by
  unfold digitsOf
  split <;> simp_all

/-- The digits of a byte are not taken for the marker of hexadecimal numbers. -/
lemma digitsOf_hex (byte : UInt8) :
    digitsOf (hex 2 byte.toNat).toList = (hex 2 byte.toNat).toList := by
  have hdigit : ∀ d < 16, Nat.digitChar d ≠ 'x' ∧ Nat.digitChar d ≠ 'X' := by decide
  obtain ⟨hlower, hupper⟩ := hdigit (byte.toNat % 16) (Nat.mod_lt _ (by decide))
  rw [toList_hex_two byte.toNat_lt, digitsOf_of_ne hlower hupper]

variable [HexDecoder]

lemma parseTokens_replicate_append (line count : Nat) (tokens : List (List Char)) :
    parseTokens line (List.replicate count [] ++ tokens) = parseTokens line tokens := by
  induction count with
  | zero => rfl
  | succ count ih =>
      have hempty : parseToken [] = .ok [] := rfl
      rw [List.replicate_succ, List.cons_append, parseTokens, hempty]
      simp only [ih, List.nil_append]
      cases parseTokens line tokens <;> rfl

variable [LawfulHexDecoder]

/-- What stands behind the marker of a token is decoded.  No digits are decoded to no bytes. -/
lemma parseToken_eq (token : List Char) :
    parseToken token = HexDecoder.decode (encodeUtf8 (digitsOf token)) := by
  cases hdigits : digitsOf token with
  | nil =>
      have hnil : Denotes [] [] := rfl
      rw [LawfulHexDecoder.decode_of_denotes hnil, parseToken, hdigits]
  | cons c digits => rw [parseToken, hdigits]

/-- The two digits of a byte are read back. -/
lemma parseToken_hex (byte : UInt8) : parseToken (hex 2 byte.toNat).toList = .ok [byte] := by
  rw [parseToken_eq, digitsOf_hex, LawfulHexDecoder.decode_of_denotes (denotes_hex byte)]

lemma parseTokens_hex (line : Nat) (bytes : List UInt8) :
    parseTokens line (bytes.map fun byte => (hex 2 byte.toNat).toList) = .ok bytes := by
  induction bytes with
  | nil => rfl
  | cons byte bytes ih =>
      rw [List.map_cons, parseTokens, parseToken_hex]
      simp only [ih]
      rfl

/-- A row is read back. -/
lemma parseTokens_row (line indent : Nat) (bytes : List UInt8) :
    parseTokens line (tokens (row indent bytes)) = .ok bytes := by
  rw [tokens_row, parseTokens_replicate_append]
  by_cases hbytes : bytes = []
  · -- what stands behind the blanks is one more empty token
    rw [hbytes]
    rfl
  · rw [splitOnP_hexBytes hbytes, parseTokens_hex]

lemma parseLines_rows (line indent : Nat) (rows : List (List UInt8)) :
    parseLines line (rows.map (row indent)) = .ok rows.flatten := by
  induction rows generalizing line with
  | nil => rfl
  | cons bytes rows ih =>
      rw [List.map_cons, parseLines, parseTokens_row, ih]
      rfl

/-- **Rows are read back**: a text of rows, one to a line, is a hex dump of the bytes of all of
them. -/
theorem parse_rows (indent : Nat) (rows : List (List UInt8)) :
    parse (['\n'].intercalate (rows.map (row indent))) = .ok rows.flatten := by
  have hlines : ∀ line ∈ rows.map (row indent), '\n' ∉ line := by
    intro line hline
    obtain ⟨bytes, -, rfl⟩ := List.mem_map.1 hline
    exact not_mem_row (by decide) newline_not_mem_digitChars indent bytes
  by_cases hrows : rows = []
  · -- the empty text has one line, which is no row but holds no byte either
    rw [hrows]
    rfl
  · rw [parse, splitWhere_eq_splitOn, List.splitOn_intercalate '\n' hlines (by simpa using hrows),
      parseLines_rows]

end HexDump
end PixelChip

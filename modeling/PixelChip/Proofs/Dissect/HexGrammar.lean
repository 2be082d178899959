import Mathlib.Data.List.Nodup
import PixelChip.Proofs.Dissect.HexDump
import PixelChip.Proofs.Dissect.HexTokens

/-!
# Which texts are hex dumps

A text is a hex dump exactly if every token is a run of pairs of digits, and the first token that is
none is what the error is about.  `HasFault` is the reason: an odd number of bytes, whatever they
are, or else the first byte that is no digit.  What single tokens are decoded to is the laws of a
`LawfulHexDecoder`; all else is proved of the texts.

The line number of a token follows from what stands before it.  So a text below another is read as
it is on its own, with the lines counted on.
-/

namespace PixelChip
namespace HexDump

open Text

/-! ## Digits -/

/-- The digits are such, and can be cut into pairs. -/
def ArePairs (digits : List Char) : Prop :=
  digits.length % 2 = 0 ∧ ∀ c ∈ digits, IsHexDigit c

-- Only the characters of the run are looked at, although there are finitely many of them.
instance (digits : List Char) : Decidable (ArePairs digits) :=
  @instDecidableAnd _ _ inferInstance (List.decidableBAll _ digits)

/-- What is wrong with some digits: the number of their bytes is odd, or else the first byte that is
no digit. -/
def HasFault (digits : List Char) : HexFault → Prop
  | .oddLength => (encodeUtf8 digits).length % 2 = 1
  | .invalidCharacter byte position =>
    (encodeUtf8 digits).length % 2 = 0 ∧ (encodeUtf8 digits)[position]? = some byte ∧
      ¬ IsHexDigit (.ofNat byte.toNat) ∧
      ∀ earlier < position, ∀ other ∈ (encodeUtf8 digits)[earlier]?,
        IsHexDigit (.ofNat other.toNat)

/-- Bytes of longer sequences are no digits. -/
lemma not_isHexDigit_continuation (n : Nat) :
    ¬ IsHexDigit (.ofNat (UInt8.ofNat (0x80 + n % 64)).toNat) := by
  have hall : ∀ k < 64, ¬ IsHexDigit (.ofNat (UInt8.ofNat (0x80 + k)).toNat) := by
    decide +kernel
  exact hall (n % 64) (Nat.mod_lt n (by decide))

/-- A character is a digit if its bytes are. -/
lemma isHexDigit_of_encodeChar {c : Char}
    (h : ∀ byte ∈ encodeChar c, IsHexDigit (.ofNat byte.toNat)) : IsHexDigit c := by
  -- a sequence of several bytes ends in one that continues it
  have hlast : UInt8.ofNat (0x80 + c.toNat % 64) ∉ encodeChar c := fun hmem =>
    not_isHexDigit_continuation c.toNat (h _ hmem)
  by_cases hn : c.toNat < 0x80
  · have hbyte := h (.ofNat c.toNat) (by simp [encodeChar, hn])
    rw [UInt8.toNat_ofNat', Nat.mod_eq_of_lt (by omega), Char.ofNat_toNat] at hbyte
    exact hbyte
  · refine absurd ?_ hlast
    rw [encodeChar, if_neg hn]
    split
    · simp
    · split <;> simp

/-- The bytes of some digits are digits, as many as there are. -/
lemma encodeUtf8_of_isHexDigit {digits : List Char} (h : ∀ c ∈ digits, IsHexDigit c) :
    encodeUtf8 digits = digits.map fun c => .ofNat c.toNat := by
  induction digits with
  | nil => rfl
  | cons c digits ih =>
      rw [encodeUtf8, List.flatMap_cons, (h c List.mem_cons_self).encodeChar_eq,
        List.map_cons]
      exact congrArg (_ :: ·) (ih fun d hd => h d (List.mem_cons_of_mem c hd))

/-- Runs of pairs of digits are known by their bytes. -/
lemma arePairs_iff (digits : List Char) : ArePairs digits ↔
    (encodeUtf8 digits).length % 2 = 0 ∧
      ∀ byte ∈ encodeUtf8 digits, IsHexDigit (.ofNat byte.toNat) := by
  constructor
  · rintro ⟨hlength, hdigits⟩
    rw [encodeUtf8_of_isHexDigit hdigits, List.length_map]
    refine ⟨hlength, fun byte hbyte => ?_⟩
    obtain ⟨c, hc, rfl⟩ := List.mem_map.1 hbyte
    rw [(hdigits c hc).ofNat_toNat]
    exact hdigits c hc
  · rintro ⟨hlength, hbytes⟩
    have hdigits : ∀ c ∈ digits, IsHexDigit c := fun c hc =>
      isHexDigit_of_encodeChar fun byte hbyte => hbytes byte (List.mem_flatMap_of_mem hc hbyte)
    rw [encodeUtf8_of_isHexDigit hdigits, List.length_map] at hlength
    exact ⟨hlength, hdigits⟩

/-- Digits with a fault are not all right. -/
lemma HasFault.not_arePairs {digits : List Char} {fault : HexFault} (h : HasFault digits fault) :
    ¬ ArePairs digits := by
  rw [arePairs_iff]
  rintro ⟨hlength, hbytes⟩
  cases fault with
  | oddLength =>
      rw [HasFault, hlength] at h
      exact absurd h (by decide)
  | invalidCharacter byte position =>
      obtain ⟨-, hbyte, hnot, -⟩ := h
      exact hnot (hbytes byte (List.mem_of_getElem? hbyte))

/-- Digits have one fault at most. -/
lemma HasFault.unique {digits : List Char} {fault fault' : HexFault} (h : HasFault digits fault)
    (h' : HasFault digits fault') : fault = fault' := by
  cases fault with
  | oddLength =>
      cases fault' with
      | oddLength => rfl
      | invalidCharacter byte' position' =>
          have hodd : _ = 1 := h
          rw [h'.1] at hodd
          exact absurd hodd (by decide)
  | invalidCharacter byte position =>
      cases fault' with
      | oddLength =>
          have hodd : _ = 1 := h'
          rw [h.1] at hodd
          exact absurd hodd (by decide)
      | invalidCharacter byte' position' =>
          obtain ⟨-, hbyte, hnot, hfirst⟩ := h
          obtain ⟨-, hbyte', hnot', hfirst'⟩ := h'
          obtain hlt | rfl | hgt := Nat.lt_trichotomy position position'
          · exact absurd (hfirst' position hlt byte hbyte) hnot
          · rw [Option.some.inj (hbyte.symm.trans hbyte')]
          · exact absurd (hfirst position' hgt byte' hbyte') hnot'

/-- Pairs of digits denote some bytes. -/
lemma ArePairs.exists_denotes {digits : List Char} (h : ArePairs digits) :
    ∃ bytes, Denotes digits bytes := by
  obtain ⟨hlength, hdigits⟩ := h
  induction digits using List.twoStepInduction with
  | nil => exact ⟨[], rfl⟩
  | singleton c => exact absurd hlength (by simp)
  | cons_cons high low digits ih _ =>
      obtain ⟨x, hx, hhigh⟩ := (isHexDigit_iff high).1 (hdigits high (by simp))
      obtain ⟨y, hy, hlow⟩ := (isHexDigit_iff low).1 (hdigits low (by simp))
      obtain ⟨bytes, hdenotes⟩ := ih (by simp only [List.length_cons] at hlength; omega)
        fun c hc => hdigits c (by simp [hc])
      have htoNat : (UInt8.ofNat (16 * x + y)).toNat = 16 * x + y := by
        rw [UInt8.toNat_ofNat', Nat.mod_eq_of_lt (by omega)]
      refine ⟨.ofNat (16 * x + y) :: bytes, ?_⟩
      rw [Denotes, List.flatMap_cons, htoNat, toList_hex_two (by omega), List.map_cons,
        List.map_cons, hhigh, hlow, hdenotes, Nat.mul_add_div (by decide), Nat.div_eq_of_lt hy,
        Nat.mul_add_mod, Nat.mod_eq_of_lt hy]
      rfl

/-- Where not all bytes are digits, one of them is the first that is none. -/
lemma exists_first_invalid {bytes : List UInt8}
    (h : ¬ ∀ byte ∈ bytes, IsHexDigit (.ofNat byte.toNat)) :
    ∃ ahead byte behind, bytes = ahead ++ byte :: behind ∧
      (∀ other ∈ ahead, IsHexDigit (.ofNat other.toNat)) ∧ ¬ IsHexDigit (.ofNat byte.toNat) := by
  induction bytes with
  | nil => simp at h
  | cons byte bytes ih =>
      by_cases hbyte : IsHexDigit (.ofNat byte.toNat)
      · obtain ⟨ahead, bad, behind, rfl, hahead, hbad⟩ := ih (by simpa [hbyte] using h)
        exact ⟨byte :: ahead, bad, behind, rfl, by simpa [hbyte] using hahead, hbad⟩
      · exact ⟨[], byte, bytes, rfl, by simp, hbyte⟩

/-! ## The first fault -/

/-- The error about a token. -/
def errorAt (token : Fragment) (fault : HexFault) : HexDumpError where
  line := 1 + token.before.count '\n'
  token := token.text
  fault := fault

/-- The token with the first fault of a text. -/
def IsFirstFault (text : List Char) (token : Fragment) (fault : HexFault) : Prop :=
  token ∈ tokensIn text ∧ HasFault (digitsOf token.text) fault ∧
    ∀ other ∈ tokensIn text, other.before.length < token.before.length →
      ArePairs (digitsOf other.text)

lemma IsFirstFault.not_lt {text : List Char} {token token' : Fragment} {fault fault' : HexFault}
    (h : IsFirstFault text token fault) (h' : IsFirstFault text token' fault') :
    ¬ token.before.length < token'.before.length := fun hlt =>
  h.2.1.not_arePairs (h'.2.2 token h.1 hlt)

lemma IsFirstFault.unique {text : List Char} {token token' : Fragment} {fault fault' : HexFault}
    (h : IsFirstFault text token fault) (h' : IsFirstFault text token' fault') :
    token = token' ∧ fault = fault' := by
  have hlength : token.before.length = token'.before.length :=
    Nat.le_antisymm (Nat.le_of_not_lt (h'.not_lt h)) (Nat.le_of_not_lt (h.not_lt h'))
  have hnodup : ((tokensIn text).map fun token => token.before.length).Nodup :=
    List.pairwise_map.2 ((pairwise_tokensIn text).imp Nat.ne_of_lt)
  obtain rfl := List.inj_on_of_nodup_map hnodup h.1 h'.1 hlength
  exact ⟨rfl, h.2.1.unique h'.2.1⟩

/-! ## Lines -/

lemma tokens_eq (line : Fragment) : tokens line.text = (tokensOfLine line).map Fragment.text := by
  rw [tokens, tokensOfLine, map_text_fragments, splitWhere_eq_splitOnP]

/-- No token of a line stands behind another line break. -/
lemma count_before {line token : Fragment} (hline : '\n' ∉ line.text)
    (htoken : token ∈ tokensOfLine line) :
    token.before.count '\n' = line.before.count '\n' := by
  obtain ⟨-, ahead, behind, hbefore, hcut, -, -⟩ := (mem_fragments_iff _ _ _).1 htoken
  have hahead : '\n' ∉ ahead := fun h => by
    refine hline ((List.takeWhile_sublist (· ≠ '#')).subset ?_)
    rw [hcut]
    simp [h]
  rw [hbefore, List.count_append, List.count_eq_zero.2 hahead, Nat.add_zero]

/-- A text has one line more than line breaks. -/
lemma length_splitOnP_newline (text : List Char) :
    (text.splitOnP (· = '\n')).length = 1 + text.count '\n' := by
  induction text with
  | nil => rfl
  | cons c text ih =>
      rw [List.splitOnP_cons_eq_if_modifyHead]
      by_cases hc : c = '\n'
      · rw [if_pos (by simpa using hc), List.length_cons, ih, hc, List.count_cons_self]
        omega
      · rw [if_neg (by simpa using hc), List.length_modifyHead, ih, List.count_cons_of_ne hc]

section

variable [HexDecoder]

/-! ## Tokens in order -/

lemma digitsOf_nil_parse {token : List Char} (h : digitsOf token = []) :
    parseToken token = .ok [] := by
  rw [parseToken, h]

/-- The bytes of some tokens, in order, up to the first with a fault. -/
def parseAll : List Fragment → Except HexDumpError (List UInt8)
  | [] => .ok []
  | token :: rest =>
    match parseToken token.text with
    | .error fault => .error (errorAt token fault)
    | .ok bytes => (parseAll rest).map (bytes ++ ·)

lemma parseAll_append (tokens tokens' : List Fragment) :
    parseAll (tokens ++ tokens') = do
      let bytes ← parseAll tokens
      let others ← parseAll tokens'
      return bytes ++ others := by
  induction tokens with
  | nil => cases h : parseAll tokens' <;> simp [parseAll, h, bind, Except.bind, pure, Except.pure]
  | cons token tokens ih =>
      rw [List.cons_append, parseAll, parseAll, ih]
      cases parseToken token.text with
      | error fault => rfl
      | ok bytes =>
          cases parseAll tokens with
          | error error => rfl
          | ok others =>
              cases parseAll tokens' with
              | error error => rfl
              | ok more =>
                  show Except.ok (bytes ++ (others ++ more)) = .ok (bytes ++ others ++ more)
                  rw [List.append_assoc]

/-- Tokens without digits do not matter. -/
lemma parseAll_filter (tokens : List Fragment) :
    parseAll (tokens.filter (digitsOf ·.text ≠ [])) = parseAll tokens := by
  induction tokens with
  | nil => rfl
  | cons token tokens ih =>
      by_cases hdigits : digitsOf token.text = []
      · rw [List.filter_cons_of_neg (by simpa using hdigits), ih, parseAll,
          digitsOf_nil_parse hdigits]
        cases parseAll tokens <;> rfl
      · rw [List.filter_cons_of_pos (by simpa using hdigits), parseAll, parseAll, ih]

/-- The tokens of one line have its number. -/
lemma parseTokens_eq {line : Nat} {tokens : List Fragment}
    (h : ∀ token ∈ tokens, 1 + token.before.count '\n' = line) :
    parseTokens line (tokens.map Fragment.text) = parseAll tokens := by
  induction tokens with
  | nil => rfl
  | cons token tokens ih =>
      have hline := h token List.mem_cons_self
      have hrest := ih fun other hother => h other (List.mem_cons_of_mem token hother)
      rw [List.map_cons]
      cases hparse : parseToken token.text with
      | ok bytes => simp only [parseTokens, parseAll, hparse, hrest]
      | error fault => simp only [parseTokens, parseAll, errorAt, hparse, hline]

lemma parseLine_eq (line : Fragment) (hline : '\n' ∉ line.text) :
    parseTokens (1 + line.before.count '\n') (tokens line.text) = parseAll (tokensOfLine line) := by
  rw [tokens_eq]
  exact parseTokens_eq fun token htoken => by rw [count_before hline htoken]

/-- The lines of a text are read as the tokens on them. -/
lemma parseLines_fragmentsFrom {begun : List Char} (hbegun : '\n' ∉ begun)
    (before text : List Char) :
    parseLines (1 + before.count '\n')
        ((fragmentsFrom (· = '\n') before begun text).map Fragment.text) =
      parseAll ((fragmentsFrom (· = '\n') before begun text).flatMap tokensOfLine) := by
  induction text generalizing before begun with
  | nil =>
      rw [fragmentsFrom, List.map_singleton, List.flatMap_singleton, parseLines,
        parseLine_eq ⟨before, begun⟩ hbegun, parseLines]
      cases parseAll (tokensOfLine ⟨before, begun⟩) with
      | error error => rfl
      | ok bytes => exact congrArg Except.ok (List.append_nil bytes)
  | cons c rest ih =>
      rw [fragmentsFrom]
      by_cases hc : c = '\n'
      · have hcount : 1 + before.count '\n' + 1 = 1 + (before ++ begun ++ [c]).count '\n' := by
          rw [List.count_append, List.count_append, List.count_eq_zero.2 hbegun, hc]
          rfl
        rw [if_pos (by simpa using hc), List.map_cons, List.flatMap_cons, parseLines,
          parseLine_eq ⟨before, begun⟩ hbegun, hcount, ih (by simp), parseAll_append]
      · have hbegun' : '\n' ∉ begun ++ [c] := by simp [hbegun, Ne.symm hc]
        rw [if_neg (by simpa using hc)]
        exact ih hbegun' before

/-- **A text is read as its tokens are.** -/
lemma parse_eq (text : List Char) : parse text = parseAll (tokensIn text) := by
  have h := parseLines_fragmentsFrom List.not_mem_nil [] text
  rw [← fragments, map_text_fragments] at h
  rw [tokensIn, parseAll_filter, parse, splitWhere_eq_splitOnP]
  exact h

/-! ## One text below another -/

/-- An error in a text with some lines above it. -/
def shiftLine (lines : Nat) (error : HexDumpError) : HexDumpError :=
  { error with line := error.line + lines }

lemma parseTokens_add (line lines : Nat) (tokens : List (List Char)) :
    parseTokens (line + lines) tokens =
      (parseTokens line tokens).mapError (shiftLine lines) := by
  induction tokens with
  | nil => rfl
  | cons token tokens ih =>
      rw [parseTokens, parseTokens, ih]
      cases parseToken token with
      | error fault => rfl
      | ok bytes => cases parseTokens line tokens <;> rfl

lemma parseLines_add (line lines : Nat) (texts : List (List Char)) :
    parseLines (line + lines) texts =
      (parseLines line texts).mapError (shiftLine lines) := by
  induction texts generalizing line with
  | nil => rfl
  | cons text texts ih =>
      rw [parseLines, parseLines, parseTokens_add, Nat.add_right_comm, ih]
      cases parseTokens line (tokens text) with
      | error error => rfl
      | ok bytes => cases parseLines (line + 1) texts <;> rfl

lemma parseLines_append (line : Nat) (texts texts' : List (List Char)) :
    parseLines line (texts ++ texts') = do
      let bytes ← parseLines line texts
      let others ← parseLines (line + texts.length) texts'
      return bytes ++ others := by
  induction texts generalizing line with
  | nil =>
      rw [List.nil_append, List.length_nil, Nat.add_zero, parseLines]
      cases parseLines line texts' <;> rfl
  | cons text texts ih =>
      have hline : line + 1 + texts.length = line + (text :: texts).length := by
        rw [List.length_cons]
        omega
      rw [List.cons_append, parseLines, parseLines, ih, hline]
      cases parseTokens line (tokens text) with
      | error error => rfl
      | ok bytes =>
          cases parseLines (line + 1) texts with
          | error error => rfl
          | ok others =>
              cases parseLines (line + (text :: texts).length) texts' with
              | error error => rfl
              | ok more => exact congrArg Except.ok (List.append_assoc bytes others more).symm

/-- A text below another: both are read, and lines are counted on. -/
lemma parse_append_newline (text other : List Char) :
    parse (text ++ '\n' :: other) = do
      let bytes ← parse text
      let others ← (parse other).mapError (shiftLine (1 + text.count '\n'))
      return bytes ++ others := by
  have hbreak : decide ('\n' = '\n') = true := by decide
  rw [parse, parse, parse, splitWhere_eq_splitOnP, splitWhere_eq_splitOnP, splitWhere_eq_splitOnP,
    List.splitOnP_append_cons text other hbreak, parseLines_append, length_splitOnP_newline,
    parseLines_add]

/-! ## Texts read -/

variable [LawfulHexDecoder]

/-- **A token is read or has a fault.** -/
lemma parseToken_cases (token : List Char) :
    (ArePairs (digitsOf token) ∧
        ∃ bytes, parseToken token = .ok bytes ∧ Denotes (digitsOf token) bytes) ∨
      ∃ fault, parseToken token = .error fault ∧ HasFault (digitsOf token) fault := by
  rw [parseToken_eq]
  by_cases hpairs : ArePairs (digitsOf token)
  · obtain ⟨bytes, hdenotes⟩ := hpairs.exists_denotes
    exact .inl ⟨hpairs, bytes, LawfulHexDecoder.decode_of_denotes hdenotes, hdenotes⟩
  · right
    obtain hodd | heven := (Nat.mod_two_eq_zero_or_one (encodeUtf8 (digitsOf token)).length).symm
    · exact ⟨.oddLength, LawfulHexDecoder.decode_of_odd hodd, hodd⟩
    · have hbad : ¬ ∀ byte ∈ encodeUtf8 (digitsOf token), IsHexDigit (.ofNat byte.toNat) :=
        fun hbytes => hpairs ((arePairs_iff _).2 ⟨heven, hbytes⟩)
      obtain ⟨ahead, byte, behind, hsplit, hahead, hbyte⟩ := exists_first_invalid hbad
      rw [hsplit] at heven
      refine ⟨.invalidCharacter byte ahead.length, ?_, ?_⟩
      · rw [hsplit, LawfulHexDecoder.decode_of_invalid heven hahead hbyte]
      · rw [HasFault, hsplit]
        refine ⟨heven, by simp, hbyte, fun earlier hearlier other hother => hahead other ?_⟩
        rw [List.getElem?_append_left hearlier] at hother
        exact List.mem_of_getElem? hother

/-- Tokens without a fault are read as the bytes that their digits denote. -/
lemma exists_parseAll {tokens : List Fragment}
    (h : ∀ token ∈ tokens, ArePairs (digitsOf token.text)) :
    ∃ bytes, parseAll tokens = .ok bytes ∧
      Denotes (tokens.flatMap (digitsOf ·.text)) bytes := by
  induction tokens with
  | nil => exact ⟨[], rfl, rfl⟩
  | cons token tokens ih =>
      obtain ⟨bytes, hparse, hdenotes⟩ :=
        ih fun other hother => h other (List.mem_cons_of_mem token hother)
      obtain ⟨-, first, hfirst, hfirst'⟩ | ⟨fault, -, hfault⟩ := parseToken_cases token.text
      · refine ⟨first ++ bytes, ?_, hfirst'.append hdenotes⟩
        rw [parseAll, hfirst, hparse]
        rfl
      · exact absurd (h token List.mem_cons_self) hfault.not_arePairs

/-- Of several tokens the first with a fault is reported. -/
lemma exists_parseAll_error {tokens : List Fragment}
    (h : ∃ token ∈ tokens, ¬ ArePairs (digitsOf token.text)) :
    ∃ ahead token behind fault, tokens = ahead ++ token :: behind ∧
      (∀ other ∈ ahead, ArePairs (digitsOf other.text)) ∧
      HasFault (digitsOf token.text) fault ∧ parseAll tokens = .error (errorAt token fault) := by
  induction tokens with
  | nil => simp at h
  | cons token tokens ih =>
      obtain ⟨hpairs, bytes, hparse, -⟩ | ⟨fault, hparse, hfault⟩ := parseToken_cases token.text
      · obtain ⟨ahead, bad, behind, fault, rfl, hahead, hfault, herror⟩ :=
          ih (by simpa [hpairs] using h)
        refine ⟨token :: ahead, bad, behind, fault, rfl, ?_, hfault, ?_⟩
        · intro other hother
          obtain rfl | hother := List.mem_cons.1 hother
          · exact hpairs
          · exact hahead other hother
        · rw [parseAll, hparse, herror]
          rfl
      · refine ⟨[], token, tokens, fault, rfl, by simp, hfault, ?_⟩
        rw [parseAll, hparse]

lemma exists_isFirstFault {text : List Char}
    (h : ¬ ∀ token ∈ tokensIn text, ArePairs (digitsOf token.text)) :
    ∃ token fault, IsFirstFault text token fault ∧ parse text = .error (errorAt token fault) := by
  obtain ⟨ahead, token, behind, fault, htokens, hahead, hfault, herror⟩ :=
    exists_parseAll_error (by simpa using h)
  refine ⟨token, fault, ⟨by simp [htokens], hfault, ?_⟩, (parse_eq text).trans herror⟩
  have hpairwise := pairwise_tokensIn text
  rw [htokens, List.pairwise_append, List.pairwise_cons] at hpairwise
  intro other hother hlt
  rw [htokens, List.mem_append, List.mem_cons] at hother
  obtain hother | rfl | hother := hother
  · exact hahead other hother
  · exact absurd hlt (Nat.lt_irrefl _)
  · exact absurd hlt (Nat.lt_asymm (hpairwise.2.1.1 other hother))

/-- Which texts are read, and as what. -/
lemma parse_eq_ok_iff (text : List Char) (bytes : List UInt8) :
    parse text = .ok bytes ↔ (∀ token ∈ tokensIn text, ArePairs (digitsOf token.text)) ∧
      Denotes ((tokensIn text).flatMap (digitsOf ·.text)) bytes := by
  constructor
  · intro h
    by_cases hpairs : ∀ token ∈ tokensIn text, ArePairs (digitsOf token.text)
    · obtain ⟨bytes', hparse, hdenotes⟩ := exists_parseAll hpairs
      rw [← parse_eq, h] at hparse
      rw [Except.ok.inj hparse]
      exact ⟨hpairs, hdenotes⟩
    · obtain ⟨token, fault, -, herror⟩ := exists_isFirstFault hpairs
      rw [herror] at h
      cases h
  · rintro ⟨hpairs, hdenotes⟩
    obtain ⟨bytes', hparse, hdenotes'⟩ := exists_parseAll hpairs
    rw [parse_eq, hparse, hdenotes.unique hdenotes']

/-- Which texts are refused, and why. -/
lemma parse_eq_error_iff (text : List Char) (error : HexDumpError) :
    parse text = .error error ↔
      ∃ token fault, IsFirstFault text token fault ∧ error = errorAt token fault := by
  constructor
  · intro h
    have hpairs : ¬ ∀ token ∈ tokensIn text, ArePairs (digitsOf token.text) := fun hpairs => by
      obtain ⟨bytes, hparse, -⟩ := exists_parseAll hpairs
      rw [← parse_eq, h] at hparse
      cases hparse
    obtain ⟨token, fault, hfirst, herror⟩ := exists_isFirstFault hpairs
    exact ⟨token, fault, hfirst, Except.error.inj (h.symm.trans herror)⟩
  · rintro ⟨token, fault, hfirst, rfl⟩
    have hpairs : ¬ ∀ token ∈ tokensIn text, ArePairs (digitsOf token.text) := fun hpairs =>
      hfirst.2.1.not_arePairs (hpairs token hfirst.1)
    obtain ⟨token', fault', hfirst', herror⟩ := exists_isFirstFault hpairs
    obtain ⟨rfl, rfl⟩ := hfirst.unique hfirst'
    exact herror

end

/-- **Exactly hex dumps are read.**  The tokens of a text are where `StandsIn` says, and `tokensIn`
lists them in their order.  A text is read if all of them are runs of pairs of digits, and then as
the bytes that their digits denote.  Otherwise the first token that is no such run is reported as it
is written, with the number of its line and its fault.  So a text below another is read on its own,
with its lines counted on. -/
theorem parse_accepts_exactly_hex_dumps [HexDecoder] [LawfulHexDecoder] (text : List Char) :
    (∀ token, token ∈ tokensIn text ↔ StandsIn text token) ∧
    (tokensIn text).Pairwise (fun token token' =>
      token.before.length < token'.before.length) ∧
    (∀ bytes, parse text = .ok bytes ↔
      (∀ token ∈ tokensIn text, ArePairs (digitsOf token.text)) ∧
        Denotes ((tokensIn text).flatMap (digitsOf ·.text)) bytes) ∧
    (∀ error, parse text = .error error ↔
      ∃ token ∈ tokensIn text, ¬ ArePairs (digitsOf token.text) ∧
        (∀ other ∈ tokensIn text, other.before.length < token.before.length →
          ArePairs (digitsOf other.text)) ∧
        error.line = 1 + token.before.count '\n' ∧ error.token = token.text ∧
        HasFault (digitsOf token.text) error.fault) ∧
    ∀ other, parse (text ++ '\n' :: other) =
      match parse text, parse other with
      | .error error, _ => .error error
      | .ok bytes, .ok others => .ok (bytes ++ others)
      | .ok _, .error error =>
        .error { error with line := error.line + (1 + text.count '\n') } := by
  refine ⟨mem_tokensIn_iff text, pairwise_tokensIn text, parse_eq_ok_iff text, fun error => ?_,
    fun other => ?_⟩
  · rw [parse_eq_error_iff]
    constructor
    · rintro ⟨token, fault, ⟨hmem, hfault, hothers⟩, rfl⟩
      exact ⟨token, hmem, hfault.not_arePairs, hothers, rfl, rfl, hfault⟩
    · rintro ⟨token, hmem, -, hothers, hline, htoken, hfault⟩
      refine ⟨token, error.fault, ⟨hmem, hfault, hothers⟩, ?_⟩
      cases error
      simp_all [errorAt]
  · rw [parse_append_newline]
    cases parse text with
    | error error => rfl
    | ok bytes => cases parse other <;> rfl

/-- The marker of hexadecimal numbers stays in the report but is no part of the digits. -/
theorem bad_digit_behind_marker_is_reported :
    LawfulHexDecoder ∧
      parse "5a5a # 0\r\n65, 0xG1\n7".toList =
        .error ⟨2, "0xG1".toList, .invalidCharacter 0x47 0⟩ ∧
      parse "5A5a,0X69 69".toList = .ok [0x5A, 0x5A, 0x69, 0x69] := by
  refine ⟨inferInstance, ?_, ?_⟩
  · refine ((parse_accepts_exactly_hex_dumps _).2.2.2.1 _).2
      ⟨⟨"5a5a # 0\r\n65, ".toList, "0xG1".toList⟩, ?_, ?_, ?_, rfl, rfl, ?_⟩
    · decide +kernel
    · decide +kernel
    · decide +kernel
    · exact ⟨by decide, by decide, by decide, by simp⟩
  · refine ((parse_accepts_exactly_hex_dumps _).2.2.1 _).2 ⟨?_, ?_⟩
    · decide +kernel
    · unfold Denotes
      decide +kernel

end HexDump
end PixelChip

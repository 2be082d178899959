import Mathlib.Data.List.Infix
import PixelChip.Proofs.Command.RoundTrip

/-!
# What the parser accepts

The parser accepts what valid commands encode to, and nothing else but bytes that differ from an
encoding in bits that mean nothing.  There are few of these: the lowest bit of both payload bytes of
a pulse, the lowest bit of two bytes of a read request, and all of its last byte, which still has to
be a symbol.  `Command.Matches` says this byte by byte.

Commands without such bits have one form only, their encoding (`Written.eq_encode`).
-/

namespace PixelChip

/-! ## Bits that mean nothing -/

/-- How far a byte may differ from the one that an encoder writes. -/
inductive Tolerance where
  | exact
  /-- The lowest bit of the value of the symbol means nothing. -/
  | lowestBit
  /-- No bit of the value of the symbol means anything. -/
  | anySymbol
  deriving DecidableEq, Repr

/-- Whether a byte may stand where another one is written. -/
def Tolerance.Allows (written found : UInt8) : Tolerance → Prop
  | exact => found = written
  | lowestBit => ∃ value : Fin 32, written = Symbol.encode value ∧
      (found = Symbol.encode value ∨ found = Symbol.encode (value.val ^^^ 1))
  | anySymbol => Symbol.isSymbol found = true

lemma Symbol.encode_injective {value value' : Fin 32}
    (h : Symbol.encode value = Symbol.encode value') : value = value' := by
  have hdecode := congrArg Symbol.decode? h
  rw [Symbol.decode?_encode_fin, Symbol.decode?_encode_fin] at hdecode
  exact Option.some.inj hdecode

/-- Flipping the lowest bit is a step within a pair of values. -/
lemma xor_one_div_two (value : Fin 32) :
    (value.val ^^^ 1) < 32 ∧ (value.val ^^^ 1) / 2 = value / 2 := by
  revert value
  decide

lemma eq_or_eq_xor_one (value : Fin 32) :
    value.val = 2 * (value / 2) ∨ value.val = (2 * (value / 2)) ^^^ 1 := by
  revert value
  decide

/-- Where the lowest bit means nothing, the upper four are what counts. -/
lemma Tolerance.allows_lowestBit_iff {half : Nat} (hhalf : half < 16) {found : UInt8} :
    lowestBit.Allows (Symbol.encode (2 * half)) found ↔
      ∃ value : Fin 32, found = Symbol.encode value ∧ value.val / 2 = half := by
  constructor
  · rintro ⟨value, hvalue, hfound⟩
    have hwritten : (⟨2 * half, by omega⟩ : Fin 32) = value := Symbol.encode_injective hvalue
    have hdiv : value.val / 2 = half := by
      rw [← hwritten]
      exact Nat.mul_div_cancel_left half (by decide)
    obtain ⟨hlt, hsame⟩ := xor_one_div_two value
    obtain rfl | rfl := hfound
    · exact ⟨value, rfl, hdiv⟩
    · exact ⟨⟨value.val ^^^ 1, hlt⟩, rfl, hsame.trans hdiv⟩
  · rintro ⟨value, rfl, rfl⟩
    refine ⟨⟨2 * (value.val / 2), by omega⟩, rfl, ?_⟩
    obtain hvalue | hvalue := eq_or_eq_xor_one value
    · exact .inl (congrArg Symbol.encode hvalue)
    · exact .inr (congrArg Symbol.encode hvalue)

lemma Tolerance.allows_anySymbol_iff {written found : UInt8} :
    anySymbol.Allows written found ↔ ∃ value : Fin 32, found = Symbol.encode value := by
  simp only [Allows, Symbol.isSymbol, Option.isSome_iff_exists, Symbol.decode?_eq_some_iff]

namespace Command

/-- How far the byte at an offset may differ from the encoding of a command. -/
def tolerance : Command → (offset : Nat) → Tolerance
  | pulse _, offset => if offset = 2 ∨ offset = 3 then .lowestBit else .exact
  | read _, offset =>
    if offset = 2 ∨ offset = 4 then .lowestBit else if offset = 5 then .anySymbol else .exact
  | _, _ => .exact

/-- The byte of a buffer at an offset is the one of the encoding, up to bits that mean nothing. -/
def MatchesAt (command : Command) (src : List UInt8) (offset : Nat) : Prop :=
  ∃ written found, command.encode[offset]? = some written ∧ src[offset]? = some found ∧
    (command.tolerance offset).Allows written found

/-- The front of a buffer is the encoding of the command, up to bits that mean nothing. -/
def Matches (command : Command) (src : List UInt8) : Prop :=
  ∀ offset < command.wireLength, command.MatchesAt src offset

/-- Every bit of the encoding means something. -/
def Exact (command : Command) : Prop :=
  ∀ offset, command.tolerance offset = .exact

/-! ## Commands with a single form -/

lemma toNat_decide_odd (n : Nat) : (decide (n % 2 = 1)).toNat = n % 2 := by
  obtain h | h := Nat.mod_two_eq_zero_or_one n
  · rw [h]
    rfl
  · rw [h]
    rfl

/-- The five values that sixteen symbols carry are written as these symbols. -/
lemma tail_extendedData (v0 : UInt16) {tail : List (Fin 32)} (htail : tail.length = 16) :
    (Kind.extendedData v0 tail).tail = tail.map Fin.val := by
  have hdigits : Numeral.expand 32 16 (Numeral.value 32 (tail.map Fin.val)) = tail.map Fin.val := by
    have hexpand : Numeral.expand 32 (tail.map Fin.val).length
        (Numeral.value 32 (tail.map Fin.val)) = tail.map Fin.val := Numeral.expand_value (by simp)
    rwa [List.length_map, htail] at hexpand
  generalize hbits : Numeral.value 32 (tail.map Fin.val) = bits at hdigits
  have hlt : bits < 2 ^ 80 := by
    have hvalue := Numeral.value_expand 32 16 bits
    have hsize : Numeral.size 32 16 = 2 ^ 80 := by decide
    rw [hdigits, hbits, hsize] at hvalue
    rw [hvalue]
    exact Nat.mod_lt _ (by decide)
  have hwords : Numeral.value 65536 [(UInt16.ofNat (bits >>> 64)).toNat,
      (UInt16.ofNat (bits >>> 48)).toNat, (UInt16.ofNat (bits >>> 32)).toNat,
      (UInt16.ofNat (bits >>> 16)).toNat, (UInt16.ofNat (bits >>> 0)).toNat] = bits := by
    simp only [value_five, UInt16.toNat_ofNat', Nat.shiftRight_eq_div_pow]
    omega
  rw [Kind.extendedData, hbits]
  show Numeral.expand 32 16 (Numeral.value 65536 _) = _
  rw [hwords, hdigits]

/-- A trigger starts with the pattern that it was read from. -/
lemma pattern_ofPattern (place : Fin 15) (tag : Fin 32) :
    (Trigger.ofPattern place tag).pattern = Trigger.patterns.get place := by
  have hplace : (UInt8.ofNat (place.val + 1)).toNat - 1 = place.val := by
    rw [UInt8.toNat_ofNat']
    omega
  unfold Trigger.pattern
  exact congrArg Trigger.patterns.get (Fin.ext hplace)

lemma toNat_firstValue (d4 d5 d6 d7 : Fin 32) :
    (Kind.firstValue d4 d5 d6 d7).toNat =
      d4.val % 2 * 32768 + d5.val * 1024 + d6.val * 32 + d7.val := by
  rw [Kind.firstValue, UInt16.toNat_ofNat']
  omega

/-- The payload of a calibration pulse is written with the symbols that it was read from. -/
lemma ofNat_symbols_cal (d2 d3 d4 d5 : Fin 32) :
    (Cal.symbols
        { chipId := .ofNat (d2.val / 2)
          edgeMode := d2.val % 2 = 1
          edgeDelay := .ofNat (d3.val / 4)
          edgeWidth := .ofNat (d3.val % 4 * 16 + d4.val / 2)
          auxMode := d4.val % 2 = 1
          auxDelay := .ofNat d5.val }).map (Fin.ofNat 32) = [d2, d3, d4, d5] := by
  simp only [Cal.symbols, List.map_cons, List.map_nil, UInt8.toNat_ofNat', toNat_decide_odd,
    List.cons.injEq, Fin.ext_iff, Fin.val_ofNat]
  refine ⟨?_, ?_, ?_, ?_, trivial⟩ <;> omega

/-- The first eight bytes of a write are written with the symbols that they were read from.  The
lowest bit of the first symbol says whether more values follow. -/
lemma ofNat_symbols_write (d2 d3 d4 d5 d6 d7 : Fin 32) (data : WriteData)
    (hfirst : data.first = Kind.firstValue d4 d5 d6 d7)
    (hlayout : data.isExtended.toNat = d2.val % 2) :
    (RegisterWrite.symbols
        { chipId := .ofNat (d2.val / 2)
          address := .ofNat (d3.val * 16 + d4.val / 2)
          data := data }).map (Fin.ofNat 32) =
      [d2, d3, d4, d5, d6, d7] ++ data.tail.map (Fin.ofNat 32) := by
  simp only [RegisterWrite.symbols, hfirst, hlayout, toNat_firstValue, UInt8.toNat_ofNat',
    UInt16.toNat_ofNat', List.map_append, List.map_cons, List.map_nil]
  refine congrArg (· ++ _) ?_
  simp only [List.cons.injEq, Fin.ext_iff, Fin.val_ofNat]
  refine ⟨?_, ?_, ?_, ?_, ?_, ?_, trivial⟩ <;> omega

/-- **A command all of whose bits mean something has one form**, its encoding. -/
lemma Written.eq_encode {bytes : List UInt8} {command : Command} (h : Written bytes command)
    (hexact : command.Exact) : bytes = command.encode := by
  cases h with
  | pulse d2 d3 => exact Tolerance.noConfusion (hexact 2)
  | read d2 d3 d4 d5 => exact Tolerance.noConfusion (hexact 2)
  | cal d2 d3 d4 d5 =>
      rw [encode, map_encode_eq_spell, ofNat_symbols_cal]
      rfl
  | single d2 d3 d4 d5 d6 d7 heven =>
      have hsymbols := ofNat_symbols_write d2 d3 d4 d5 d6 d7
        (.single (Kind.firstValue d4 d5 d6 d7)) rfl heven.symm
      rw [encode, map_encode_eq_spell, hsymbols]
      rfl
  | six d2 d3 d4 d5 d6 d7 tail hodd htail =>
      have hsymbols := ofNat_symbols_write d2 d3 d4 d5 d6 d7
        (Kind.extendedData (Kind.firstValue d4 d5 d6 d7) tail) rfl
        (Nat.mod_two_ne_zero.1 hodd).symm
      have htail' : (tail.map Fin.val).map (Fin.ofNat 32) = tail := by
        rw [List.map_map]
        refine (List.map_congr_left fun digit _ => ?_).trans (List.map_id _)
        exact Fin.ext (Nat.mod_eq_of_lt digit.isLt)
      rw [encode, map_encode_eq_spell, hsymbols, tail_extendedData _ htail, htail']
      rfl
  | trigger place tag =>
      have htag : Symbol.encode (UInt8.ofNat tag.val).toNat = Symbol.encode tag.val := by
        rw [UInt8.toNat_ofNat', Nat.mod_eq_of_lt (by omega)]
      show _ = [(Trigger.ofPattern place tag).pattern, Symbol.encode (UInt8.ofNat tag.val).toNat]
      rw [pattern_ofPattern, htag]
      rfl
  | _ => rfl

/-! ## Matching a buffer -/

section MatchesAt

variable {command : Command} {src : List UInt8} {offset : Nat} {written : UInt8}

lemma matchesAt_iff (hwritten : command.encode[offset]? = some written) :
    command.MatchesAt src offset ↔
      ∃ found, src[offset]? = some found ∧ (command.tolerance offset).Allows written found := by
  simp [MatchesAt, hwritten]

lemma matchesAt_exact_iff (htolerance : command.tolerance offset = .exact)
    (hwritten : command.encode[offset]? = some written) :
    command.MatchesAt src offset ↔ src[offset]? = some written := by
  rw [matchesAt_iff hwritten, htolerance]
  simp [Tolerance.Allows]

lemma matchesAt_lowestBit_iff {half : Nat} (htolerance : command.tolerance offset = .lowestBit)
    (hhalf : half < 16) (hwritten : command.encode[offset]? = some (Symbol.encode (2 * half))) :
    command.MatchesAt src offset ↔
      ∃ value : Fin 32, src[offset]? = some (Symbol.encode value) ∧ value.val / 2 = half := by
  rw [matchesAt_iff hwritten, htolerance]
  simp only [Tolerance.allows_lowestBit_iff hhalf]
  constructor
  · rintro ⟨found, hfound, value, rfl, hvalue⟩
    exact ⟨value, hfound, hvalue⟩
  · rintro ⟨value, hfound, hvalue⟩
    exact ⟨_, hfound, value, rfl, hvalue⟩

lemma matchesAt_anySymbol_iff (htolerance : command.tolerance offset = .anySymbol)
    (hwritten : command.encode[offset]? = some written) :
    command.MatchesAt src offset ↔
      ∃ value : Fin 32, src[offset]? = some (Symbol.encode value) := by
  rw [matchesAt_iff hwritten, htolerance]
  simp only [Tolerance.allows_anySymbol_iff]
  constructor
  · rintro ⟨found, hfound, value, rfl⟩
    exact ⟨value, hfound⟩
  · rintro ⟨value, hfound⟩
    exact ⟨_, hfound, value, rfl⟩

end MatchesAt

/-- A command all of whose bits mean something matches what starts with its encoding. -/
lemma matches_iff_of_exact {command : Command} {src : List UInt8} (hexact : command.Exact) :
    command.Matches src ↔ command.encode <+: src := by
  rw [Matches, ← length_encode, List.prefix_iff_getElem?]
  exact forall₂_congr fun offset hoffset =>
    matchesAt_exact_iff (hexact offset) (List.getElem?_eq_getElem hoffset)

/-- A pulse matches the symbols of its fields, the lowest bits aside. -/
lemma matches_pulse_iff {p : Pulse} {src : List UInt8} :
    (pulse p).Matches src ↔ src[0]? = some 0x5C ∧ src[1]? = some 0x5C ∧
      (∃ d2 : Fin 32, src[2]? = some (Symbol.encode d2) ∧ d2.val / 2 = p.chipId.toNat % 16) ∧
      ∃ d3 : Fin 32, src[3]? = some (Symbol.encode d3) ∧ d3.val / 2 = p.length.toNat % 16 := by
  have hid : p.chipId.toNat % 16 < 16 := Nat.mod_lt _ (by decide)
  have hlength : p.length.toNat % 16 < 16 := Nat.mod_lt _ (by decide)
  have hbytes : (pulse p).Matches src ↔ (pulse p).MatchesAt src 0 ∧ (pulse p).MatchesAt src 1 ∧
      (pulse p).MatchesAt src 2 ∧ (pulse p).MatchesAt src 3 := by
    simp only [Matches, wireLength, Nat.forall_lt_succ_right, Nat.not_lt_zero, false_imp_iff,
      implies_true, true_and, and_assoc]
  rw [hbytes, matchesAt_exact_iff rfl rfl, matchesAt_exact_iff rfl rfl,
    matchesAt_lowestBit_iff rfl hid rfl, matchesAt_lowestBit_iff rfl hlength rfl]

/-- A read request matches the symbols of its fields, the lowest bits aside, and any last
symbol. -/
lemma matches_read_iff {r : RegisterRead} {src : List UInt8} :
    (read r).Matches src ↔ src[0]? = some 0x65 ∧ src[1]? = some 0x65 ∧
      (∃ d2 : Fin 32, src[2]? = some (Symbol.encode d2) ∧ d2.val / 2 = r.chipId.toNat % 16) ∧
      src[3]? = some (Symbol.encode (r.address.toNat % 512 / 16)) ∧
      (∃ d4 : Fin 32, src[4]? = some (Symbol.encode d4) ∧ d4.val / 2 = r.address.toNat % 16) ∧
      ∃ d5 : Fin 32, src[5]? = some (Symbol.encode d5) := by
  have hid : r.chipId.toNat % 16 < 16 := Nat.mod_lt _ (by decide)
  have haddress : r.address.toNat % 16 < 16 := Nat.mod_lt _ (by decide)
  have hbytes : (read r).Matches src ↔ (read r).MatchesAt src 0 ∧ (read r).MatchesAt src 1 ∧
      (read r).MatchesAt src 2 ∧ (read r).MatchesAt src 3 ∧ (read r).MatchesAt src 4 ∧
      (read r).MatchesAt src 5 := by
    simp only [Matches, wireLength, Nat.forall_lt_succ_right, Nat.not_lt_zero, false_imp_iff,
      implies_true, true_and, and_assoc]
  rw [hbytes, matchesAt_exact_iff rfl rfl, matchesAt_exact_iff rfl rfl,
    matchesAt_lowestBit_iff rfl hid rfl, matchesAt_exact_iff rfl rfl,
    matchesAt_lowestBit_iff rfl haddress rfl, matchesAt_anySymbol_iff rfl rfl]

/-! ## Forms at the front of a buffer

A buffer starts with a form of a command exactly if the command fits the wire and matches the
buffer. -/

/-- The buffer starts with a form of the command. -/
def Opens (command : Command) (src : List UInt8) : Prop :=
  ∃ bytes behind, src = bytes ++ behind ∧ Written bytes command

lemma opens_iff_of_exact {command : Command} {src : List UInt8} (hexact : command.Exact) :
    command.Opens src ↔ command.InWidth ∧ command.Matches src := by
  rw [matches_iff_of_exact hexact]
  constructor
  · rintro ⟨bytes, behind, rfl, hwritten⟩
    exact ⟨hwritten.inWidth, behind, by rw [hwritten.eq_encode hexact]⟩
  · rintro ⟨hwidth, behind, rfl⟩
    have hwritten := written_encode command
    rw [onWire_of_inWidth hwidth] at hwritten
    exact ⟨_, behind, rfl, hwritten⟩

lemma opens_pulse_iff {p : Pulse} {src : List UInt8} :
    (pulse p).Opens src ↔ (pulse p).InWidth ∧ (pulse p).Matches src := by
  rw [matches_pulse_iff]
  constructor
  · rintro ⟨bytes, behind, rfl, hwritten⟩
    refine ⟨hwritten.inWidth, ?_⟩
    cases hwritten with
    | pulse d2 d3 =>
        simp only [UInt8.toNat_ofNat']
        exact ⟨rfl, rfl, ⟨d2, rfl, by omega⟩, d3, rfl, by omega⟩
  · rintro ⟨⟨hid, hlength⟩, h0, h1, ⟨d2, h2, hd2⟩, d3, h3, hd3⟩
    obtain ⟨src, rfl⟩ := exists_cons_of_getElem?_zero src h0
    obtain ⟨src, rfl⟩ := exists_cons_of_getElem?_zero src h1
    obtain ⟨src, rfl⟩ := exists_cons_of_getElem?_zero src h2
    obtain ⟨src, rfl⟩ := exists_cons_of_getElem?_zero src h3
    have hform := Written.pulse d2 d3
    rw [hd2, hd3, ofNat_mod_of_lt_uint8 hid, ofNat_mod_of_lt_uint8 hlength] at hform
    exact ⟨_, src, rfl, hform⟩

lemma opens_read_iff {r : RegisterRead} {src : List UInt8} :
    (read r).Opens src ↔ (read r).InWidth ∧ (read r).Matches src := by
  rw [matches_read_iff]
  constructor
  · rintro ⟨bytes, behind, rfl, hwritten⟩
    refine ⟨hwritten.inWidth, ?_⟩
    cases hwritten with
    | read d2 d3 d4 d5 =>
        simp only [UInt8.toNat_ofNat', UInt16.toNat_ofNat']
        have hd3 : (d3.val * 16 + d4.val / 2) % 2 ^ 16 % 512 / 16 = d3.val := by omega
        rw [hd3]
        exact ⟨rfl, rfl, ⟨d2, rfl, by omega⟩, rfl, ⟨d4, rfl, by omega⟩, d5, rfl⟩
  · rintro ⟨⟨hid, haddress⟩, h0, h1, ⟨d2, h2, hd2⟩, h3, ⟨d4, h4, hd4⟩, d5, h5⟩
    obtain ⟨src, rfl⟩ := exists_cons_of_getElem?_zero src h0
    obtain ⟨src, rfl⟩ := exists_cons_of_getElem?_zero src h1
    obtain ⟨src, rfl⟩ := exists_cons_of_getElem?_zero src h2
    obtain ⟨src, rfl⟩ := exists_cons_of_getElem?_zero src h3
    obtain ⟨src, rfl⟩ := exists_cons_of_getElem?_zero src h4
    obtain ⟨src, rfl⟩ := exists_cons_of_getElem?_zero src h5
    have hform := Written.read d2 ⟨r.address.toNat % 512 / 16, by omega⟩ d4 d5
    have hsplit : r.address.toNat % 512 / 16 * 16 + r.address.toNat % 16 =
        r.address.toNat % 512 := by
      omega
    rw [hd2, hd4, hsplit, ofNat_mod_of_lt_uint8 hid, ofNat_mod_of_lt_uint16 haddress] at hform
    exact ⟨_, src, rfl, hform⟩

lemma opens_iff {command : Command} {src : List UInt8} :
    command.Opens src ↔ command.InWidth ∧ command.Matches src := by
  cases command with
  | pulse p => exact opens_pulse_iff
  | read r => exact opens_read_iff
  | _ => exact opens_iff_of_exact fun _ => rfl

/-- **The parser accepts exactly the encodings of valid commands**, up to bits that mean nothing.
It takes as many bytes as the command occupies on the wire, whatever follows them. -/
theorem accepted_up_to_unused_bits (src : List UInt8) (command : Command) (n : Nat) :
    parse src = .ok (command, n) ↔
      command.Checked ∧ n = command.wireLength ∧ n ≤ src.length ∧ command.Matches src := by
  rw [parse_eq_ok_iff, checked_iff_inWidth]
  constructor
  · rintro ⟨bytes, behind, hsrc, hwritten, rfl⟩
    obtain ⟨hwidth, hmatches⟩ := opens_iff.1 ⟨bytes, behind, hsrc, hwritten⟩
    have hle : bytes.length ≤ src.length := by
      rw [hsrc, List.length_append]
      exact Nat.le_add_right _ _
    exact ⟨hwidth, hwritten.length_eq, hle, hmatches⟩
  · rintro ⟨hwidth, rfl, -, hmatches⟩
    obtain ⟨bytes, behind, hsrc, hwritten⟩ := opens_iff.2 ⟨hwidth, hmatches⟩
    exact ⟨bytes, behind, hsrc, hwritten, hwritten.length_eq.symm⟩

/-- A read request with flipped lowest bits, and with a last symbol that is not the one written. -/
example :
    let request : Command := .read ⟨5, 0x1A3⟩
    request.encode = [0x65, 0x65, 0x96, 0xC9, 0x8D, 0x6A] ∧
      parse [0x65, 0x65, 0x99, 0xC9, 0x8E, 0xD4] = .ok (request, 6) := by
  decide

end Command
end PixelChip

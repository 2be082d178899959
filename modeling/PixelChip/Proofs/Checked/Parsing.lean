import PixelChip.Link.Command.Text
import PixelChip.Proofs.Checked.Access
import PixelChip.Proofs.Command.Reader

/-!
# Variants under checks

The parsers of the variants take bytes out of a buffer and numbers out of tables, each at a place
that was found to exist somewhere else.  In the namespace `Checked` stand these parsers once more,
with every byte and every element asked for where it may not exist and every sum, difference and
shift checked against its type.  A failed check leaves no verdict, not even a refusal that the
parsers tried next could hide.

A trigger with checks is a `RawTrigger`, two bytes of which nothing is known.  That its bitmap is
one of those for which there is a pattern is the work of those who make triggers.

Each parser is shown to be `Sound`: on any bytes no check fails, the checks change no verdict, and
an item takes at least one byte and no more than there are.
-/

namespace PixelChip
namespace Checked

/-! ## Verdicts -/

/-- A verdict of a parser, unless a check fails on the way. -/
abbrev Guarded (α : Type) : Type :=
  ExceptT ParseError Option α

namespace Guarded

variable {α β : Type}

/-- Goes on with the outcome of a check. -/
def check (outcome : Option α) : Guarded α :=
  ExceptT.mk (outcome.map .ok)

/-- A verdict that was found without a check. -/
def unchecked (verdict : Except ParseError α) : Guarded α :=
  ExceptT.mk (some verdict)

/-- No check fails, the verdict is the given one, and an answer has a property. -/
def Settles (guarded : Guarded α) (verdict : Except ParseError α) (property : α → Prop) : Prop :=
  guarded.run = some verdict ∧ ∀ answer, verdict = .ok answer → property answer

variable {guarded : Guarded α} {verdict : Except ParseError α} {property : α → Prop}
  {property' : β → Prop}

lemma settles_pure {answer : α} (h : property answer) :
    Settles (pure answer) (pure answer) property :=
  ⟨rfl, fun _ hanswer => Except.ok.inj hanswer ▸ h⟩

lemma settles_throw (cause : ParseError) : Settles (throw cause) (.error cause) property :=
  ⟨rfl, nofun⟩

lemma settles_unchecked (h : ∀ answer, verdict = .ok answer → property answer) :
    Settles (unchecked verdict) verdict property :=
  ⟨rfl, h⟩

/-- What is known of an answer is at hand for what is done with it. -/
lemma Settles.bind {next : α → Guarded β} {next' : α → Except ParseError β}
    (h : Settles guarded verdict property)
    (hnext : ∀ answer, property answer → Settles (next answer) (next' answer) property') :
    Settles (guarded >>= next) (verdict >>= next') property' := by
  obtain ⟨hrun, hproperty⟩ := h
  cases verdict with
  | error cause =>
      refine ⟨?_, nofun⟩
      rw [ExceptT.run_bind, hrun]
      rfl
  | ok answer =>
      obtain ⟨hrun', hproperty'⟩ := hnext answer (hproperty answer rfl)
      refine ⟨?_, hproperty'⟩
      rw [ExceptT.run_bind, hrun]
      exact hrun'

/-- A check that succeeds leaves no trace in the verdict. -/
lemma Settles.check_bind {outcome : Option α} {answer : α} {next : α → Guarded β}
    {verdict' : Except ParseError β} (h : outcome = some answer)
    (hnext : Settles (next answer) verdict' property') :
    Settles (check outcome >>= next) verdict' property' := by
  subst h
  exact hnext

lemma Settles.map {f : α → β} (h : Settles guarded verdict property)
    (hf : ∀ answer, property answer → property' (f answer)) :
    Settles (f <$> guarded) (f <$> verdict) property' := by
  rw [map_eq_pure_bind, map_eq_pure_bind]
  exact h.bind fun answer hanswer => settles_pure (hf answer hanswer)

end Guarded

open Guarded

variable {α β : Type}

/-- **A parser with checks is sound** if on no buffer a check fails, its verdicts are those of the
parser without checks, and an item takes at least one byte and no more than there are.  `raw` turns
the items of the one parser into those of the other. -/
def Sound (raw : α → β) (checked : List UInt8 → Guarded (β × Nat))
    (parse : List UInt8 → Except ParseError (α × Nat)) : Prop :=
  ∀ src, Settles (checked src) (Prod.map raw id <$> parse src) fun answer =>
    1 ≤ answer.2 ∧ answer.2 ≤ src.length

section Sound

variable {raw : α → β} {checked : List UInt8 → Guarded (β × Nat)}
  {parse : List UInt8 → Except ParseError (α × Nat)} {src : List UInt8}

lemma Sound.of_parse_ok (h : Sound raw checked parse) {item : α} {n : Nat}
    (hparse : parse src = .ok (item, n)) :
    (checked src).run = some (.ok (raw item, n)) ∧ 1 ≤ n ∧ n ≤ src.length := by
  obtain ⟨hrun, hinside⟩ := h src
  rw [hparse] at hrun hinside
  exact ⟨hrun, hinside (raw item, n) rfl⟩

lemma Sound.of_parse_error (h : Sound raw checked parse) {cause : ParseError}
    (hparse : parse src = .error cause) : (checked src).run = some (.error cause) := by
  obtain ⟨hrun, -⟩ := h src
  rwa [hparse] at hrun

/-- An item that comes out of the parser with checks comes out of the other. -/
lemma Sound.exists_of_run (h : Sound raw checked parse) {item : β} {n : Nat}
    (hrun : (checked src).run = some (.ok (item, n))) :
    ∃ item', parse src = .ok (item', n) ∧ raw item' = item := by
  cases hparse : parse src with
  | error cause =>
      rw [h.of_parse_error hparse] at hrun
      exact absurd hrun nofun
  | ok parsed =>
      obtain ⟨item', n'⟩ := parsed
      rw [(h.of_parse_ok hparse).1] at hrun
      obtain ⟨hitem, rfl⟩ := Prod.mk.inj (Except.ok.inj (Option.some.inj hrun))
      exact ⟨item', rfl, hitem⟩

end Sound

lemma sound_id {checked : List UInt8 → Guarded (α × Nat)}
    {parse : List UInt8 → Except ParseError (α × Nat)}
    (h : ∀ src, Settles (checked src) (parse src) fun answer =>
      1 ≤ answer.2 ∧ answer.2 ≤ src.length) : Sound id checked parse := by
  intro src
  rw [Prod.map_id, id_map]
  exact h src

/-! ## Buffers -/

/-- The bytes of a buffer from one place up to another, if both are places of it. -/
def slice (src : List UInt8) (start stop : Nat) : Option (List UInt8) :=
  if start ≤ stop ∧ stop ≤ src.length then some ((src.drop start).take (stop - start)) else none

/-- A buffer without its first bytes, if it has as many. -/
def advance (src : List UInt8) (count : Nat) : Option (List UInt8) :=
  if count ≤ src.length then some (src.drop count) else none

/-- Some bytes in a row, each taken by itself. -/
def bytesFrom (src : List UInt8) (start count : Nat) : Option (List UInt8) :=
  (List.range' start count).mapM fun offset => src[offset]?

lemma slice_eq {src : List UInt8} {start stop : Nat} (hstart : start ≤ stop)
    (hstop : stop ≤ src.length) :
    slice src start stop = some ((src.drop start).take (stop - start)) :=
  if_pos ⟨hstart, hstop⟩

lemma advance_eq {src : List UInt8} {count : Nat} (h : count ≤ src.length) :
    advance src count = some (src.drop count) :=
  if_pos h

lemma bytesFrom_eq {src : List UInt8} {start count : Nat} (h : start + count ≤ src.length) :
    bytesFrom src start count = some ((src.drop start).take count) := by
  induction count generalizing start with
  | zero => rfl
  | succ count ih =>
      have hstart : start < src.length := by omega
      have hrest : bytesFrom src (start + 1) count = some ((src.drop (start + 1)).take count) :=
        ih (by omega)
      unfold bytesFrom at hrest ⊢
      rw [List.range'_succ, List.mapM_cons, List.getElem?_eq_getElem hstart, hrest,
        List.drop_eq_getElem_cons hstart, List.take_succ_cons]
      rfl

/-- A list through which no check fails. -/
lemma mapM_eq_some_map {step : α → Option β} {f : α → β} {inputs : List α}
    (h : ∀ a ∈ inputs, step a = some (f a)) : inputs.mapM step = some (inputs.map f) := by
  induction inputs with
  | nil => rfl
  | cons a inputs ih =>
      obtain ⟨ha, hrest⟩ := List.forall_mem_cons.1 h
      rw [List.mapM_cons, ha, ih hrest]
      rfl

/-! ## Symbols -/

/-- What the table of symbols has for a byte that is none. -/
def noValue : UInt8 := 0xFF

/-- The values of all 256 bytes, of which the symbols have been entered. -/
def valueTable : List UInt8 :=
  (List.finRange 32).foldl
    (fun table value => table.set (Symbol.encode value.val).toNat (.ofNat value.val))
    (List.replicate 256 noValue)

/-- The value of the symbol at an offset. -/
def symbolAt (src : List UInt8) (offset : Nat) : Guarded Nat := do
  let byte ← check src[offset]?
  let value ← check valueTable[byte.toNat]?
  if value = noValue then throw (.invalidSymbol byte offset) else return value.toNat

/-- The values of the symbols at several offsets, looked at in the order given. -/
def symbolsAt (src : List UInt8) : List Nat → Guarded (List Nat)
  | [] => return []
  | offset :: offsets => do
    let value ← symbolAt src offset
    let values ← symbolsAt src offsets
    return value :: values

lemma valueTable_eq :
    valueTable = (List.range 256).map fun n =>
      (Symbol.decode? (.ofNat n)).elim noValue fun value => .ofNat value.val := by
  decide +kernel

lemma valueTable_getElem? (byte : UInt8) :
    valueTable[byte.toNat]? =
      some ((Symbol.decode? byte).elim noValue fun value => .ofNat value.val) := by
  rw [valueTable_eq, List.getElem?_map, List.getElem?_range byte.toNat_lt, Option.map_some,
    UInt8.ofNat_toNat]

/-- A byte that is there is looked up without a failed check. -/
lemma settles_symbolAt {src : List UInt8} {offset : Nat} (h : offset < src.length) :
    Settles (symbolAt src offset) (PixelChip.symbolAt src offset) (· < 32) := by
  have hbyte : src[offset]? = some src[offset] := List.getElem?_eq_getElem h
  rw [PixelChip.symbolAt, hbyte]
  dsimp only
  refine Settles.check_bind hbyte (Settles.check_bind (valueTable_getElem? _) ?_)
  cases Symbol.decode? src[offset] with
  | none =>
      rw [Option.elim_none, if_pos rfl]
      exact settles_throw _
  | some value =>
      have hne : UInt8.ofNat value.val ≠ noValue := by
        revert value
        decide
      have hvalue : (UInt8.ofNat value.val).toNat = value.val :=
        UInt8.toNat_ofNat_of_lt (Nat.lt_trans value.isLt (by decide))
      rw [Option.elim_some, if_neg hne, hvalue]
      refine settles_pure ?_
      exact value.isLt

example : (symbolAt [0x5C, 0x5C] 2).run = none := rfl

lemma settles_symbolsAt {src : List UInt8} {offsets : List Nat}
    (h : ∀ offset ∈ offsets, offset < src.length) :
    Settles (symbolsAt src offsets) (PixelChip.symbolsAt src offsets) fun _ => True := by
  induction offsets with
  | nil => exact settles_pure trivial
  | cons offset offsets ih =>
      obtain ⟨hoffset, hrest⟩ := List.forall_mem_cons.1 h
      refine (settles_symbolAt hoffset).bind fun value _ => ?_
      exact (ih hrest).bind fun values _ => settles_pure trivial

/-- An identifier is matched against the beginning of a buffer, which takes no check. -/
lemma settles_expectIdentifier (first second : UInt8) (length : Nat) (src : List UInt8) :
    Settles (unchecked (expectIdentifier first second length src))
      (expectIdentifier first second length src) fun _ => length ≤ src.length := by
  refine settles_unchecked fun answer h => ?_
  obtain _ | ⟨byte, rest⟩ := src
  · exact absurd h nofun
  · rw [expectIdentifier] at h
    split_ifs at h with hfirst hsecond hlength
    omega

/-! ## Variants -/

/-- The pulse at the start of a buffer and its length. -/
def parsePulse (src : List UInt8) : Guarded (Pulse × Nat) := do
  unchecked (expectIdentifier 0x5C 0x5C 4 src)
  let d2 ← symbolAt src 2
  let d3 ← symbolAt src 3
  return ({ chipId := .ofNat (d2 / 2), length := .ofNat (d3 / 2) }, 4)

/-- The calibration pulse at the start of a buffer and its length. -/
def parseCal (src : List UInt8) : Guarded (Cal × Nat) := do
  unchecked (expectIdentifier 0x63 0x63 6 src)
  let d2 ← symbolAt src 2
  let d3 ← symbolAt src 3
  let d4 ← symbolAt src 4
  let d5 ← symbolAt src 5
  let cal : Cal :=
    { chipId := .ofNat (d2 / 2)
      edgeMode := d2 % 2 = 1
      edgeDelay := .ofNat (d3 / 4)
      edgeWidth := .ofNat (d3 % 4 * 16 + d4 / 2)
      auxMode := d4 % 2 = 1
      auxDelay := .ofNat d5 }
  return (cal, 6)

/-- The read request at the start of a buffer and its length. -/
def parseRead (src : List UInt8) : Guarded (RegisterRead × Nat) := do
  unchecked (expectIdentifier 0x65 0x65 6 src)
  let d2 ← symbolAt src 2
  let d3 ← symbolAt src 3
  let d4 ← symbolAt src 4
  let _ ← symbolAt src 5
  return ({ chipId := .ofNat (d2 / 2), address := .ofNat (d3 * 16 + d4 / 2) }, 6)

/-- The value `i` of the five behind the first of an extended write, counted from 0.  It is shifted
out of a string of 80 bits that is kept in 128. -/
def laterValue (bits i : Nat) : Option UInt16 := do
  let shift ← minus 64 (16 * i)
  let shift ← below 128 shift
  return .ofNat (bits >>> shift)

/-- The register write at the start of a buffer and its length.  The length is asked for once for
either layout, and once more for the extended one. -/
def parseWrite (src : List UInt8) : Guarded (RegisterWrite × Nat) := do
  unchecked (expectIdentifier 0x66 0x66 8 src)
  let d2 ← symbolAt src 2
  let d4 ← symbolAt src 4
  let d3 ← symbolAt src 3
  let d5 ← symbolAt src 5
  let d6 ← symbolAt src 6
  let d7 ← symbolAt src 7
  let chipId : UInt8 := .ofNat (d2 / 2)
  let address : UInt16 := .ofNat (d3 * 16 + d4 / 2)
  let v0 : UInt16 := .ofNat (d4 % 2 * 32768 + d5 * 1024 + d6 * 32 + d7)
  if d2 % 2 = 0 then
    return ({ chipId, address, data := .single v0 }, 8)
  else if src.length < 24 then
    throw (.truncated 24 src.length)
  else
    let tail ← symbolsAt src (List.range' 8 16)
    let bits := Numeral.value 32 tail
    let v1 ← check (laterValue bits 0)
    let v2 ← check (laterValue bits 1)
    let v3 ← check (laterValue bits 2)
    let v4 ← check (laterValue bits 3)
    let v5 ← check (laterValue bits 4)
    return ({ chipId, address, data := .six v0 v1 v2 v3 v4 v5 }, 24)

/-- The fields of a trigger, whatever they hold. -/
structure RawTrigger where
  crossings : UInt8
  tag : UInt8
  deriving DecidableEq, Repr

/-- The trigger at the start of a buffer and its length.  The bitmap is one more than the place of
the pattern, as a byte. -/
def parseTrigger (src : List UInt8) : Guarded (RawTrigger × Nat) :=
  match src with
  | [] => throw .identifierMismatch
  | byte :: _ =>
    match Trigger.patterns.idxOf? byte with
    | none => throw (.invalidTriggerPattern byte)
    | some place =>
      if src.length < 2 then throw (.truncated 2 src.length)
      else do
        let crossings ← check (below UInt8.size (place + 1))
        let tag ← symbolAt src 1
        return ({ crossings := .ofNat crossings, tag := .ofNat tag }, 2)

theorem sound_parsePulse : Sound id parsePulse Pulse.parse := by
  refine sound_id fun src => ?_
  refine (settles_expectIdentifier _ _ _ src).bind fun _ hlength => ?_
  refine (settles_symbolAt (by omega)).bind fun d2 _ => ?_
  refine (settles_symbolAt (by omega)).bind fun d3 _ => ?_
  exact settles_pure ⟨Nat.succ_pos _, hlength⟩

theorem sound_parseCal : Sound id parseCal Cal.parse := by
  refine sound_id fun src => ?_
  refine (settles_expectIdentifier _ _ _ src).bind fun _ hlength => ?_
  refine (settles_symbolAt (by omega)).bind fun d2 _ => ?_
  refine (settles_symbolAt (by omega)).bind fun d3 _ => ?_
  refine (settles_symbolAt (by omega)).bind fun d4 _ => ?_
  refine (settles_symbolAt (by omega)).bind fun d5 _ => ?_
  exact settles_pure ⟨Nat.succ_pos _, hlength⟩

theorem sound_parseRead : Sound id parseRead RegisterRead.parse := by
  refine sound_id fun src => ?_
  refine (settles_expectIdentifier _ _ _ src).bind fun _ hlength => ?_
  refine (settles_symbolAt (by omega)).bind fun d2 _ => ?_
  refine (settles_symbolAt (by omega)).bind fun d3 _ => ?_
  refine (settles_symbolAt (by omega)).bind fun d4 _ => ?_
  refine (settles_symbolAt (by omega)).bind fun d5 _ => ?_
  exact settles_pure ⟨Nat.succ_pos _, hlength⟩

lemma laterValue_eq (bits : Nat) {i : Nat} (h : i < 5) :
    laterValue bits i = some (.ofNat (bits >>> (16 * (4 - i)))) := by
  have hshift : 64 - 16 * i = 16 * (4 - i) := by omega
  rw [laterValue, minus_eq (by omega), hshift]
  simp only [Option.bind_eq_bind, Option.bind_some]
  rw [below_eq (by omega)]
  rfl

/-- Eight bytes are known to be there from the beginning, the sixteen others only after the length
was asked for again. -/
theorem sound_parseWrite : Sound id parseWrite RegisterWrite.parse := by
  refine sound_id fun src => ?_
  refine (settles_expectIdentifier _ _ _ src).bind fun _ hlength => ?_
  refine (settles_symbolAt (by omega)).bind fun d2 _ => ?_
  refine (settles_symbolAt (by omega)).bind fun d4 _ => ?_
  refine (settles_symbolAt (by omega)).bind fun d3 _ => ?_
  refine (settles_symbolAt (by omega)).bind fun d5 _ => ?_
  refine (settles_symbolAt (by omega)).bind fun d6 _ => ?_
  refine (settles_symbolAt (by omega)).bind fun d7 _ => ?_
  by_cases hsingle : d2 % 2 = 0
  · rw [if_pos hsingle, if_pos hsingle]
    exact settles_pure ⟨Nat.succ_pos _, hlength⟩
  rw [if_neg hsingle, if_neg hsingle]
  by_cases hshort : src.length < 24
  · rw [if_pos hshort, if_pos hshort]
    exact settles_throw _
  rw [if_neg hshort, if_neg hshort]
  have htail : ∀ offset ∈ List.range' 8 16, offset < src.length := by
    intro offset hoffset
    have hlt : offset < 8 + 16 := (List.mem_range'_1.1 hoffset).2
    omega
  refine (settles_symbolsAt htail).bind fun tail _ => ?_
  refine Settles.check_bind (laterValue_eq _ (by decide)) ?_
  refine Settles.check_bind (laterValue_eq _ (by decide)) ?_
  refine Settles.check_bind (laterValue_eq _ (by decide)) ?_
  refine Settles.check_bind (laterValue_eq _ (by decide)) ?_
  refine Settles.check_bind (laterValue_eq _ (by decide)) ?_
  exact settles_pure ⟨Nat.succ_pos _, by omega⟩

end Checked

/-- The fields of a trigger without what is known of them. -/
def Trigger.raw (trigger : Trigger) : Checked.RawTrigger where
  crossings := trigger.crossings
  tag := trigger.tag

namespace Checked

open Guarded

lemma raw_ofPattern (place : Fin 15) {tag : Nat} (h : tag < 32) :
    (Trigger.ofPattern place (Fin.ofNat 32 tag)).raw =
      { crossings := .ofNat (place.val + 1), tag := .ofNat tag } := by
  show RawTrigger.mk _ (.ofNat (tag % 32)) = _
  rw [Nat.mod_eq_of_lt h]
  rfl

theorem sound_parseTrigger : Sound Trigger.raw parseTrigger Trigger.parse := by
  intro src
  obtain _ | ⟨byte, rest⟩ := src
  · exact settles_throw _
  rw [parseTrigger, Trigger.parse, List.idxOf?_eq_map_finIdxOf?_val]
  cases Trigger.patterns.finIdxOf? byte with
  | none => exact settles_throw _
  | some place =>
      rw [Option.map_some]
      dsimp only
      by_cases hshort : (byte :: rest).length < 2
      · rw [if_pos hshort, if_pos hshort]
        exact settles_throw _
      have hplace : place.val + 1 < UInt8.size := by
        have hlt : place.val < 15 := place.isLt
        have hsize : UInt8.size = 256 := rfl
        omega
      rw [if_neg hshort, if_neg hshort, map_bind]
      refine Settles.check_bind (below_eq hplace) ?_
      refine (settles_symbolAt (by omega)).bind fun tag htag => ?_
      rw [map_pure, Prod.map_apply, raw_ofPattern place htag]
      exact settles_pure ⟨Nat.succ_pos _, by omega⟩

end Checked
end PixelChip

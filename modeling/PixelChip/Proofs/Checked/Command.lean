import PixelChip.Proofs.Checked.Parsing

/-!
# Commands under checks

A `RawCommand` is a command of which nothing is known that its fields do not say: the bitmap of its
trigger may be one for which there is no pattern.  To write such a trigger, and to describe it,
takes the pattern out of its table, at the place below the bitmap.  `isSome_pattern_iff` says for
which bitmaps that place exists.

`sound_parseCommand` says that the parser of commands fails no check on any bytes and gives the
verdicts of `Command.parse`, and `encodeCommand_raw` and `textCommand_raw` that commands can be
written and described.
-/

namespace PixelChip

/-- The symbol `i` of a string of bits, counted from its first. -/
lemma Numeral.expand_eq_map_shiftRight (count bits : Nat) :
    expand 32 count bits =
      (List.range count).map fun i => (bits >>> (5 * (count - 1 - i))) % 32 := by
  induction count generalizing bits with
  | zero => rfl
  | succ count ih =>
      have hdiv : bits / 32 = bits >>> 5 := (Nat.shiftRight_eq_div_pow bits 5).symm
      rw [expand, ih, List.range_succ, List.map_append]
      congr 1
      · apply List.map_congr_left
        intro i hi
        have hlt : i < count := List.mem_range.1 hi
        have hshift : 5 * (count + 1 - 1 - i) = 5 + 5 * (count - 1 - i) := by omega
        rw [hdiv, ← Nat.shiftRight_add, hshift]
      · simp

namespace Checked

/-- A command whose trigger may hold anything. -/
inductive RawCommand where
  | ecr
  | bcr
  | noop
  | sync
  | pulse (pulse : Pulse)
  | cal (cal : Cal)
  | read (read : RegisterRead)
  | write (write : RegisterWrite)
  | trigger (trigger : RawTrigger)
  deriving DecidableEq, Repr

end Checked

/-- The command without what is known of its trigger. -/
def Command.raw : Command → Checked.RawCommand
  | ecr => .ecr
  | bcr => .bcr
  | noop => .noop
  | sync => .sync
  | pulse p => .pulse p
  | cal c => .cal c
  | read r => .read r
  | write w => .write w
  | trigger t => .trigger t.raw

namespace Checked

open Guarded

/-! ## Reading -/

/-- A parser of one of the nine variants: the command at the start of a buffer and its length. -/
abbrev Parser : Type :=
  List UInt8 → Guarded (RawCommand × Nat)

/-- The parser of a command that is nothing but its identifier. -/
def parseBare (first second : UInt8) (command : RawCommand) : Parser := fun src => do
  unchecked (expectIdentifier first second 2 src)
  return (command, 2)

/-- The parser of a variant, as a parser of commands. -/
def parseAs {β : Type} (wrap : β → RawCommand) (parse : List UInt8 → Guarded (β × Nat)) :
    Parser := fun src => do
  let (item, length) ← parse src
  return (wrap item, length)

/-- The parsers of the nine variants in the order in which they are tried. -/
def parsers : List Parser :=
  [parseAs .cal parseCal,
   parseBare 0x5A 0x5A .ecr,
   parseBare 0x59 0x59 .bcr,
   parseAs .pulse parsePulse,
   parseAs .read parseRead,
   parseAs .write parseWrite,
   parseBare 0x69 0x69 .noop,
   parseBare 0x41 0x7E .sync,
   parseAs .trigger parseTrigger]

/-- Tries parsers in turn.  The first success is the answer; when all fail it is the most specific
failure.  A check that fails ends the trial. -/
def firstSuccess (src : List UInt8) (failure : ParseError) :
    List Parser → Option (Except ParseError (RawCommand × Nat))
  | [] => return .error failure
  | parser :: others => do
    match ← (parser src).run with
    | .ok parsed => return .ok parsed
    | .error cause =>
      if failure.specificity < cause.specificity then firstSuccess src cause others
      else firstSuccess src failure others

/-- The command at the start of a buffer and its length. -/
def parseCommand : Parser := fun src =>
  ExceptT.mk (firstSuccess src .identifierMismatch parsers)

lemma sound_parseBare (first second : UInt8) (command : Command) :
    Sound Command.raw (parseBare first second command.raw)
      (Command.parseBare first second command) := by
  intro src
  rw [Command.parseBare, map_bind]
  refine (settles_expectIdentifier first second 2 src).bind fun _ hlength => ?_
  exact settles_pure ⟨Nat.succ_pos _, hlength⟩

lemma sound_parseAs {α β : Type} {raw : α → β} {checked : List UInt8 → Guarded (β × Nat)}
    {parse : List UInt8 → Except ParseError (α × Nat)} {wrap : β → RawCommand}
    {wrap' : α → Command} (h : Sound raw checked parse)
    (hwrap : ∀ item, wrap (raw item) = (wrap' item).raw) :
    Sound Command.raw (parseAs wrap checked) (Command.parseAs wrap' parse) := by
  intro src
  have hverdict : Prod.map Command.raw id <$> Command.parseAs wrap' parse src =
      Prod.map wrap id <$> Prod.map raw id <$> parse src := by
    rw [Command.parseAs]
    cases parse src with
    | error cause => rfl
    | ok parsed => exact congrArg (fun item => Except.ok (item, parsed.2)) (hwrap parsed.1).symm
  rw [hverdict]
  exact (h src).map fun _ hanswer => hanswer

lemma sound_parsers : List.Forall₂ (Sound Command.raw) parsers Command.parsers :=
  .cons (sound_parseAs sound_parseCal fun _ => rfl) <|
  .cons (sound_parseBare 0x5A 0x5A .ecr) <|
  .cons (sound_parseBare 0x59 0x59 .bcr) <|
  .cons (sound_parseAs sound_parsePulse fun _ => rfl) <|
  .cons (sound_parseAs sound_parseRead fun _ => rfl) <|
  .cons (sound_parseAs sound_parseWrite fun _ => rfl) <|
  .cons (sound_parseBare 0x69 0x69 .noop) <|
  .cons (sound_parseBare 0x41 0x7E .sync) <|
  .cons (sound_parseAs sound_parseTrigger fun _ => rfl) .nil

/-- If each of some parsers is sound, so is the trial of them all. -/
lemma settles_firstSuccess {checked : List Parser} {parsers : List Command.Parser}
    (h : List.Forall₂ (Sound Command.raw) checked parsers) (src : List UInt8)
    (failure : ParseError) :
    Settles (ExceptT.mk (firstSuccess src failure checked))
      (Prod.map Command.raw id <$> Command.firstSuccess src failure parsers)
      fun answer => 1 ≤ answer.2 ∧ answer.2 ≤ src.length := by
  induction h generalizing failure with
  | nil => exact settles_throw failure
  | @cons checked parser others others' hparser _ ih =>
      obtain ⟨hrun, hinside⟩ := hparser src
      rw [firstSuccess, hrun, Command.firstSuccess]
      cases hverdict : parser src with
      | ok parsed =>
          rw [hverdict] at hinside
          exact ⟨rfl, hinside⟩
      | error cause =>
          show Settles
            (ExceptT.mk (if failure.specificity < cause.specificity then _ else _))
            (_ <$> if failure.specificity < cause.specificity then _ else _) _
          split_ifs with hspecific
          · exact ih cause
          · exact ih failure

theorem sound_parseCommand : Sound Command.raw parseCommand Command.parse := fun src =>
  settles_firstSuccess sound_parsers src .identifierMismatch

/-! ## Triggers -/

namespace RawTrigger

/-- A trigger for at least one crossing, with a tag of five bits. -/
def checked (crossings tag : UInt8) : Except ParseError RawTrigger := do
  checkWidth "bunch_crossings" crossings.toNat 4
  if crossings = 0 then throw (.fieldOutOfRange "bunch_crossings" 0 15)
  else
    checkWidth "tag" tag.toNat 5
    return { crossings, tag }

/-- The first byte of a trigger. -/
def pattern (trigger : RawTrigger) : Option UInt8 := do
  let place ← minus trigger.crossings.toNat 1
  Trigger.patterns[place]?

/-- **There are patterns for the bitmaps 1 to 15 and no others.** -/
theorem isSome_pattern_iff (trigger : RawTrigger) :
    trigger.pattern.isSome ↔ 1 ≤ trigger.crossings.toNat ∧ trigger.crossings.toNat ≤ 15 := by
  have hlength : Trigger.patterns.length = 15 := rfl
  rw [pattern, minus]
  split_ifs with hpos
  · show Trigger.patterns[trigger.crossings.toNat - 1]?.isSome ↔ _
    rw [isSome_getElem?, hlength]
    omega
  · exact iff_of_false nofun fun h => hpos h.1

example : pattern { crossings := 0, tag := 0 } = none ∧
    pattern { crossings := 16, tag := 0 } = none := by
  decide

/-- The checking constructor makes what the one makes that keeps a proof. -/
lemma checked_eq (crossings tag : UInt8) :
    checked crossings tag = Trigger.raw <$> Trigger.checked crossings tag := by
  have hbitmap : checkWidth "bunch_crossings" crossings.toNat 4 =
      if crossings.toNat < 16 then .ok ()
      else .error (.fieldOutOfRange "bunch_crossings" crossings.toNat 15) := rfl
  have hfive : checkWidth "tag" tag.toNat 5 =
      if tag.toNat < 32 then .ok () else .error (.fieldOutOfRange "tag" tag.toNat 31) := rfl
  have hzero : crossings = 0 ↔ ¬0 < crossings.toNat := by
    rw [Nat.pos_iff_ne_zero, not_not, ← UInt8.toNat_inj]
    rfl
  rw [checked, Trigger.checked, hbitmap, hfive]
  by_cases hlt : crossings.toNat < 16
  · rw [if_pos hlt, dif_pos hlt]
    by_cases hpos : 0 < crossings.toNat
    · rw [if_neg (fun h => hzero.1 h hpos), dif_pos hpos]
      by_cases htag : tag.toNat < 32
      · rw [if_pos htag, dif_pos htag]
        rfl
      · rw [if_neg htag, dif_neg htag]
        rfl
    · rw [if_pos (hzero.2 hpos), dif_neg hpos]
      rfl
  · rw [if_neg hlt, dif_neg hlt]
    rfl

lemma pattern_raw (trigger : Trigger) : trigger.raw.pattern = some trigger.pattern := by
  have hlt : trigger.raw.crossings.toNat - 1 < Trigger.patterns.length := by
    have hcrossings : trigger.raw.crossings.toNat < 16 := trigger.crossings_lt
    show _ < 15
    omega
  have hpos : 1 ≤ trigger.raw.crossings.toNat := trigger.crossings_pos
  rw [pattern, minus_eq hpos, Option.bind_eq_bind, Option.bind_some,
    List.getElem?_eq_getElem hlt]
  rfl

end RawTrigger

/-! ## Writing -/

/-- The symbol of the low five bits of a value. -/
def symbol (value : Nat) : Option UInt8 :=
  Symbol.alphabet[value % 32]?

/-- An identifier and a payload of symbols. -/
def encodeAs (first second : UInt8) (values : List Nat) : Option (List UInt8) := do
  let payload ← values.mapM symbol
  return first :: second :: payload

/-- The values after the first of an extended write, as one string of 80 bits, kept in 128. -/
def laterSymbols : WriteData → Option (List Nat)
  | .single _ => return []
  | .six _ v1 v2 v3 v4 v5 =>
    let bits := Numeral.value 65536 [v1.toNat, v2.toNat, v3.toNat, v4.toNat, v5.toNat]
    (List.range 16).mapM fun i => do
      let shift ← minus 75 (5 * i)
      let shift ← below 128 shift
      return bits >>> shift

/-- Payload values of a write. -/
def writeSymbols (w : RegisterWrite) : Option (List Nat) := do
  let v := w.data.first.toNat
  let later ← laterSymbols w.data
  return [2 * (w.chipId.toNat % 16) + w.data.isExtended.toNat,
    w.address.toNat % 512 / 16,
    2 * (w.address.toNat % 16) + v / 32768,
    v / 1024, v / 32, v] ++ later

/-- The wire encoding. -/
def encodeCommand : RawCommand → Option (List UInt8)
  | .ecr => return [0x5A, 0x5A]
  | .bcr => return [0x59, 0x59]
  | .noop => return [0x69, 0x69]
  | .sync => return [0x41, 0x7E]
  | .pulse p => encodeAs 0x5C 0x5C p.symbols
  | .cal c => encodeAs 0x63 0x63 c.symbols
  | .read r => encodeAs 0x65 0x65 r.symbols
  | .write w => do encodeAs 0x66 0x66 (← writeSymbols w)
  | .trigger t => do
    let pattern ← t.pattern
    let tag ← symbol t.tag.toNat
    return [pattern, tag]

/-- The line that describes a command. -/
def textCommand : RawCommand → Option String
  | .ecr => return Command.ecr.text
  | .bcr => return Command.bcr.text
  | .noop => return Command.noop.text
  | .sync => return Command.sync.text
  | .pulse p => return (Command.pulse p).text
  | .cal c => return (Command.cal c).text
  | .read r => return (Command.read r).text
  | .write w => return (Command.write w).text
  | .trigger t => do
    let pattern ← t.pattern
    return "Trigger pattern: 0x" ++ Text.hex 2 pattern.toNat
      ++ ", bc: " ++ Text.binary 4 t.crossings.toNat
      ++ ", tag: " ++ Text.decimal t.tag.toNat

lemma symbol_eq (value : Nat) : symbol value = some (Symbol.encode value) :=
  List.getElem?_eq_getElem (Nat.mod_lt value (by decide))

lemma encodeAs_eq (first second : UInt8) (values : List Nat) :
    encodeAs first second values = some (first :: second :: values.map Symbol.encode) := by
  rw [encodeAs, mapM_eq_some_map fun value _ => symbol_eq value]
  rfl

/-- The string of an extended write is shifted by no more than 75. -/
lemma laterSymbols_eq (data : WriteData) :
    ∃ later, laterSymbols data = some later ∧
      later.map Symbol.encode = data.tail.map Symbol.encode := by
  cases data with
  | single value => exact ⟨[], rfl, rfl⟩
  | six v0 v1 v2 v3 v4 v5 =>
      let bits := Numeral.value 65536 [v1.toNat, v2.toNat, v3.toNat, v4.toNat, v5.toNat]
      refine ⟨(List.range 16).map fun i => bits >>> (75 - 5 * i), mapM_eq_some_map ?_, ?_⟩
      · intro i hi
        have hlt : i < 16 := List.mem_range.1 hi
        rw [minus_eq (by omega), Option.bind_eq_bind, Option.bind_some, below_eq (by omega)]
        rfl
      · rw [WriteData.tail, Numeral.expand_eq_map_shiftRight, List.map_map, List.map_map]
        apply List.map_congr_left
        intro i hi
        have hlt : i < 16 := List.mem_range.1 hi
        have hshift : 5 * (16 - 1 - i) = 75 - 5 * i := by omega
        show Symbol.encode (bits >>> (75 - 5 * i)) =
          Symbol.encode ((bits >>> (5 * (16 - 1 - i))) % 32)
        rw [Symbol.encode_mod, hshift]

theorem encodeCommand_raw (command : Command) :
    encodeCommand command.raw = some command.encode := by
  cases command with
  | pulse p => exact encodeAs_eq 0x5C 0x5C p.symbols
  | cal c => exact encodeAs_eq 0x63 0x63 c.symbols
  | read r => exact encodeAs_eq 0x65 0x65 r.symbols
  | write w =>
      obtain ⟨later, hlater, htail⟩ := laterSymbols_eq w.data
      rw [Command.raw, encodeCommand, writeSymbols, hlater]
      show encodeAs 0x66 0x66 (_ ++ later) = _
      rw [encodeAs_eq, List.map_append, htail, ← List.map_append]
      rfl
  | trigger t =>
      rw [Command.raw, encodeCommand, RawTrigger.pattern_raw, symbol_eq]
      rfl
  | _ => rfl

theorem textCommand_raw (command : Command) : textCommand command.raw = some command.text := by
  cases command with
  | trigger t =>
      rw [Command.raw, textCommand, RawTrigger.pattern_raw]
      rfl
  | _ => rfl

end Checked
end PixelChip

import PixelChip.Numeral
import PixelChip.Link.Symbol
import PixelChip.Link.Command

/-!
# Commands on the wire

A command starts with an identifier of two bytes; all that follows is payload in line-code
symbols of five bits each. A trigger has no identifier: its first byte is one of fifteen patterns,
which stands for the bitmap of crossings, and its second the tag.

Layouts are mixed-radix numbers: each function `symbols` lists the values of the symbols after the
identifier, and each function `parse` takes them apart again. `Symbol.encode` keeps the low five
bits, so a term may carry bits that belong to an earlier symbol.

The parsers look at the bytes in a fixed order, which decides which corrupt byte is reported.
-/

namespace PixelChip

/-! ## Writing -/

/-- Payload values of a pulse. -/
def Pulse.symbols (p : Pulse) : List Nat :=
  [2 * (p.chipId.toNat % 16), 2 * (p.length.toNat % 16)]

/-- Payload values of a calibration pulse: the edge width is split over two symbols. -/
def Cal.symbols (c : Cal) : List Nat :=
  [2 * (c.chipId.toNat % 16) + c.edgeMode.toNat,
   4 * (c.edgeDelay.toNat % 8) + c.edgeWidth.toNat % 64 / 16,
   2 * (c.edgeWidth.toNat % 16) + c.auxMode.toNat,
   c.auxDelay.toNat]

/-- Payload values of a read request: the last symbol is unused. -/
def RegisterRead.symbols (r : RegisterRead) : List Nat :=
  [2 * (r.chipId.toNat % 16), r.address.toNat % 512 / 16, 2 * (r.address.toNat % 16), 0]

/-- The five values after the first of an extended write, as one string of 80 bits. -/
def WriteData.tail : WriteData → List Nat
  | .single _ => []
  | .six _ v1 v2 v3 v4 v5 =>
    Numeral.expand 32 16
      (Numeral.value 65536 [v1.toNat, v2.toNat, v3.toNat, v4.toNat, v5.toNat])

/-- Payload values of a write: the layout flag shares a symbol with the chip ID, and the top bit
of the first value one with the low bits of the address. -/
def RegisterWrite.symbols (w : RegisterWrite) : List Nat :=
  let v := w.data.first.toNat
  [2 * (w.chipId.toNat % 16) + w.data.isExtended.toNat,
   w.address.toNat % 512 / 16,
   2 * (w.address.toNat % 16) + v / 32768,
   v / 1024, v / 32, v] ++ w.data.tail

/-- First bytes of triggers, in the order of the bitmaps 1 to 15. -/
def Trigger.patterns : List UInt8 :=
  [0x2B, 0x2D, 0x2E, 0x33, 0x35, 0x36, 0x39, 0x3A, 0x3C, 0x4B, 0x4D, 0x4E, 0x53, 0x55, 0x56]

/-- The first byte of a trigger. -/
def Trigger.pattern (t : Trigger) : UInt8 :=
  have h := t.crossings_lt
  Trigger.patterns.get ⟨t.crossings.toNat - 1, by show _ < 15; omega⟩

namespace Command

/-- The wire encoding. -/
def encode : Command → List UInt8
  | ecr => [0x5A, 0x5A]
  | bcr => [0x59, 0x59]
  | noop => [0x69, 0x69]
  | sync => [0x41, 0x7E]
  | pulse p => [0x5C, 0x5C] ++ p.symbols.map Symbol.encode
  | cal c => [0x63, 0x63] ++ c.symbols.map Symbol.encode
  | read r => [0x65, 0x65] ++ r.symbols.map Symbol.encode
  | write w => [0x66, 0x66] ++ w.symbols.map Symbol.encode
  | trigger t => [t.pattern, Symbol.encode t.tag.toNat]

/-- Number of bytes that the command occupies on the wire. -/
def wireLength : Command → Nat
  | ecr | bcr | noop | sync | trigger _ => 2
  | pulse _ => 4
  | cal _ | read _ => 6
  | write w => if w.data.isExtended then 24 else 8

end Command

/-! ## Reading -/

/-- Checks an identifier of two bytes and that `length` bytes are there. -/
def expectIdentifier (first second : UInt8) (length : Nat) (src : List UInt8) :
    Except ParseError Unit :=
  match src with
  | [] => .error .identifierMismatch
  | byte :: rest =>
    if byte ≠ first then .error .identifierMismatch
    else if rest.head?.any (· ≠ second) then .error .identifierMismatch
    else if src.length < length then .error (.truncated length src.length)
    else .ok ()

/-- The value of the symbol at an offset. -/
def symbolAt (src : List UInt8) (offset : Nat) : Except ParseError Nat :=
  match src[offset]? with
  | none => .error (.pastEnd offset)
  | some byte =>
    match Symbol.decode? byte with
    | none => .error (.invalidSymbol byte offset)
    | some value => .ok value.val

/-- The values of the symbols at several offsets, looked at in the order given. -/
def symbolsAt (src : List UInt8) : List Nat → Except ParseError (List Nat)
  | [] => .ok []
  | offset :: offsets => do
    let value ← symbolAt src offset
    let values ← symbolsAt src offsets
    return value :: values

/-- The pulse at the start of a buffer and its length. -/
def Pulse.parse (src : List UInt8) : Except ParseError (Pulse × Nat) := do
  expectIdentifier 0x5C 0x5C 4 src
  let d2 ← symbolAt src 2
  let d3 ← symbolAt src 3
  return ({ chipId := .ofNat (d2 / 2), length := .ofNat (d3 / 2) }, 4)

/-- The calibration pulse at the start of a buffer and its length. -/
def Cal.parse (src : List UInt8) : Except ParseError (Cal × Nat) := do
  expectIdentifier 0x63 0x63 6 src
  let d2 ← symbolAt src 2
  let d3 ← symbolAt src 3
  let d4 ← symbolAt src 4
  let d5 ← symbolAt src 5
  let cal : Cal :=
    { chipId := .ofNat (d2 / 2)
      edgeMode := d2 % 2 = 1
      edgeDelay := .ofNat (d3 / 4)
      edgeWidth := .ofNat (d3 % 4 * 16 + d4 / 2)
      auxMode := d4 % 2 = 1
      auxDelay := .ofNat d5 }
  return (cal, 6)

/-- The read request at the start of a buffer and its length. -/
def RegisterRead.parse (src : List UInt8) : Except ParseError (RegisterRead × Nat) := do
  expectIdentifier 0x65 0x65 6 src
  let d2 ← symbolAt src 2
  let d3 ← symbolAt src 3
  let d4 ← symbolAt src 4
  let _ ← symbolAt src 5
  return ({ chipId := .ofNat (d2 / 2), address := .ofNat (d3 * 16 + d4 / 2) }, 6)

/-- The register write at the start of a buffer and its length. The layout is known after the
first eight bytes; only then are the other sixteen of the extended layout asked for. -/
def RegisterWrite.parse (src : List UInt8) : Except ParseError (RegisterWrite × Nat) := do
  expectIdentifier 0x66 0x66 8 src
  let d2 ← symbolAt src 2
  let d4 ← symbolAt src 4
  let d3 ← symbolAt src 3
  let d5 ← symbolAt src 5
  let d6 ← symbolAt src 6
  let d7 ← symbolAt src 7
  let chipId : UInt8 := .ofNat (d2 / 2)
  let address : UInt16 := .ofNat (d3 * 16 + d4 / 2)
  let v0 : UInt16 := .ofNat (d4 % 2 * 32768 + d5 * 1024 + d6 * 32 + d7)
  if d2 % 2 = 0 then
    return ({ chipId, address, data := .single v0 }, 8)
  else if src.length < 24 then
    .error (.truncated 24 src.length)
  else
    let tail ← symbolsAt src (List.range' 8 16)
    let bits := Numeral.value 32 tail
    let word (low : Nat) : UInt16 := .ofNat (bits >>> (16 * low))
    let data := .six v0 (word 4) (word 3) (word 2) (word 1) (word 0)
    return ({ chipId, address, data }, 24)

/-- The trigger with the pattern of a given place in the table and a tag of one symbol. -/
def Trigger.ofPattern (place : Fin 15) (tag : Fin 32) : Trigger where
  crossings := .ofNat (place.val + 1)
  tag := .ofNat tag.val
  crossings_pos := by
    have h := place.isLt
    simp only [UInt8.toNat_ofNat']
    omega
  crossings_lt := by
    have h := place.isLt
    simp only [UInt8.toNat_ofNat']
    omega
  tag_lt := by
    have h := tag.isLt
    simp only [UInt8.toNat_ofNat']
    omega

/-- The trigger at the start of a buffer and its length. -/
def Trigger.parse (src : List UInt8) : Except ParseError (Trigger × Nat) :=
  match src with
  | [] => .error .identifierMismatch
  | byte :: _ =>
    match Trigger.patterns.finIdxOf? byte with
    | none => .error (.invalidTriggerPattern byte)
    | some place =>
      if src.length < 2 then .error (.truncated 2 src.length)
      else do
        let tag ← symbolAt src 1
        return (Trigger.ofPattern place (Fin.ofNat 32 tag), 2)

namespace Command

/-- A parser of one of the nine variants: the command at the start of a buffer and its length. -/
abbrev Parser := List UInt8 → Except ParseError (Command × Nat)

/-- The parser of a command that is nothing but its identifier. -/
def parseBare (first second : UInt8) (command : Command) : Parser := fun src => do
  expectIdentifier first second 2 src
  return (command, 2)

/-- The parser of a variant, as a parser of commands. -/
def parseAs {α : Type} (wrap : α → Command)
    (parse : List UInt8 → Except ParseError (α × Nat)) : Parser := fun src => do
  let (item, length) ← parse src
  return (wrap item, length)

/-- The parsers of the nine variants in the order in which they are tried. -/
def parsers : List Parser :=
  [parseAs .cal Cal.parse,
   parseBare 0x5A 0x5A .ecr,
   parseBare 0x59 0x59 .bcr,
   parseAs .pulse Pulse.parse,
   parseAs .read RegisterRead.parse,
   parseAs .write RegisterWrite.parse,
   parseBare 0x69 0x69 .noop,
   parseBare 0x41 0x7E .sync,
   parseAs .trigger Trigger.parse]

/-- Tries parsers in turn. The first success is the answer; when all fail it is the most specific
failure, the earliest of several that are equally specific. -/
def firstSuccess (src : List UInt8) (failure : ParseError) :
    List Parser → Except ParseError (Command × Nat)
  | [] => .error failure
  | parser :: others =>
    match parser src with
    | .ok parsed => .ok parsed
    | .error cause =>
      if failure.specificity < cause.specificity then firstSuccess src cause others
      else firstSuccess src failure others

/-- The command at the start of a buffer and its length. -/
def parse (src : List UInt8) : Except ParseError (Command × Nat) :=
  firstSuccess src .identifierMismatch parsers

end Command
end PixelChip

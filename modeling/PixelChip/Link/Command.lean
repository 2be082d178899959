import PixelChip.Link.ParseError

/-!
# Commands of the host

The commands that a host sends to the chips on its link. Field values are stored as they are
given: a checking constructor (`checked`) refuses a value that is wider than its field on the
wire, while a structure built directly may hold such a value, of which the wire keeps the low
bits. `Command.InWidth` says that no field is too wide.

A `Trigger` is always within its widths, because its pattern exists for the bitmaps 1 to 15 only.
-/

namespace PixelChip

/-- Chip IDs from here on address every chip on the link. -/
def broadcastId : UInt8 := 8

/-- Global pulse of `2 ^ length` bunch crossings. -/
structure Pulse where
  /-- Four bits. -/
  chipId : UInt8
  /-- Four bits. -/
  length : UInt8
  deriving DecidableEq, Repr

/-- Calibration injection pulse. -/
structure Cal where
  /-- Four bits. -/
  chipId : UInt8
  edgeMode : Bool
  /-- Three bits. -/
  edgeDelay : UInt8
  /-- Six bits. -/
  edgeWidth : UInt8
  auxMode : Bool
  /-- Five bits. -/
  auxDelay : UInt8
  deriving DecidableEq, Repr

/-- Read request for one register. -/
structure RegisterRead where
  /-- Four bits. -/
  chipId : UInt8
  /-- Nine bits. -/
  address : UInt16
  deriving DecidableEq, Repr

/-- Payload of a register write: one value, or six in the extended layout. -/
inductive WriteData where
  | single (value : UInt16)
  | six (v0 v1 v2 v3 v4 v5 : UInt16)
  deriving DecidableEq, Repr

/-- Register write. -/
structure RegisterWrite where
  /-- Four bits. -/
  chipId : UInt8
  /-- Nine bits. -/
  address : UInt16
  data : WriteData
  deriving DecidableEq, Repr

/-- Trigger for up to four consecutive bunch crossings. -/
structure Trigger where
  /-- Bitmap of the crossings, the first of them in bit 3. Never zero. -/
  crossings : UInt8
  tag : UInt8
  crossings_pos : 0 < crossings.toNat
  crossings_lt : crossings.toNat < 16
  tag_lt : tag.toNat < 32
  deriving DecidableEq, Repr

/-- A command on the link from the host to the chip. -/
inductive Command where
  /-- Event counter reset. -/
  | ecr
  /-- Bunch counter reset. -/
  | bcr
  | noop
  | sync
  | pulse (pulse : Pulse)
  | cal (cal : Cal)
  | read (read : RegisterRead)
  | write (write : RegisterWrite)
  | trigger (trigger : Trigger)
  deriving DecidableEq, Repr

/-! ## Checking constructors

Each checks its fields in the order in which they are listed and reports the first that is too
wide. -/

/-- A pulse whose fields fit. -/
def Pulse.checked (chipId length : UInt8) : Except ParseError Pulse := do
  checkWidth "chip_id" chipId.toNat 4
  checkWidth "length" length.toNat 4
  return { chipId, length }

/-- A calibration pulse whose fields fit. -/
def Cal.checked (chipId : UInt8) (edgeMode : Bool) (edgeDelay edgeWidth : UInt8) (auxMode : Bool)
    (auxDelay : UInt8) : Except ParseError Cal := do
  checkWidth "chip_id" chipId.toNat 4
  checkWidth "edge_delay" edgeDelay.toNat 3
  checkWidth "edge_width" edgeWidth.toNat 6
  checkWidth "aux_delay" auxDelay.toNat 5
  return { chipId, edgeMode, edgeDelay, edgeWidth, auxMode, auxDelay }

/-- A read request whose fields fit. -/
def RegisterRead.checked (chipId : UInt8) (address : UInt16) : Except ParseError RegisterRead := do
  checkWidth "chip_id" chipId.toNat 4
  checkWidth "address" address.toNat 9
  return { chipId, address }

/-- A register write whose fields fit. -/
def RegisterWrite.checked (chipId : UInt8) (address : UInt16) (data : WriteData) :
    Except ParseError RegisterWrite := do
  checkWidth "chip_id" chipId.toNat 4
  checkWidth "address" address.toNat 9
  return { chipId, address, data }

/-- A trigger for at least one crossing, with a tag of five bits. -/
def Trigger.checked (crossings tag : UInt8) : Except ParseError Trigger :=
  if hlt : crossings.toNat < 16 then
    if hpos : 0 < crossings.toNat then
      if htag : tag.toNat < 32 then
        .ok ⟨crossings, tag, hpos, hlt, htag⟩
      else .error (.fieldOutOfRange "tag" tag.toNat 31)
    else .error (.fieldOutOfRange "bunch_crossings" 0 15)
  else .error (.fieldOutOfRange "bunch_crossings" crossings.toNat 15)

/-! ## What a command carries -/

namespace WriteData

/-- Whether the layout of six values is used. -/
def isExtended : WriteData → Bool
  | single _ => false
  | six .. => true

/-- The value of a single write, or the first of six. -/
def first : WriteData → UInt16
  | single value => value
  | six v0 .. => v0

/-- All values, in the order in which they are sent. -/
def values : WriteData → List UInt16
  | single value => [value]
  | six v0 v1 v2 v3 v4 v5 => [v0, v1, v2, v3, v4, v5]

end WriteData

/-- Whether the crossing `n` of the four, counted from 0, is triggered. -/
def Trigger.firesAt (trigger : Trigger) (n : Nat) : Bool :=
  n < 4 && trigger.crossings.toNat.testBit (3 - n)

namespace Command

/-- The chip ID that the command carries, if it carries one. -/
def chipId? : Command → Option UInt8
  | pulse p => some p.chipId
  | cal c => some c.chipId
  | read r => some r.chipId
  | write w => some w.chipId
  | ecr | bcr | noop | sync | trigger _ => none

/-- Whether a chip with this ID must execute the command. -/
def addresses (command : Command) (chipId : UInt8) : Bool :=
  match command.chipId? with
  | none => true
  | some id => broadcastId ≤ id || id == chipId

/-- Every field is within its width on the wire. -/
def InWidth : Command → Prop
  | ecr | bcr | noop | sync | trigger _ => True
  | pulse p => p.chipId.toNat < 16 ∧ p.length.toNat < 16
  | cal c => c.chipId.toNat < 16 ∧ c.edgeDelay.toNat < 8 ∧ c.edgeWidth.toNat < 64 ∧
      c.auxDelay.toNat < 32
  | read r => r.chipId.toNat < 16 ∧ r.address.toNat < 512
  | write w => w.chipId.toNat < 16 ∧ w.address.toNat < 512

instance (command : Command) : Decidable command.InWidth := by
  cases command <;> unfold InWidth <;> infer_instance

end Command
end PixelChip

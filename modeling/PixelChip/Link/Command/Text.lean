import PixelChip.Link.Command.Wire

/-!
# Commands in text

One line of text for each command, with the fields as they are stored: a field that is too wide
for the wire shows all of its value.
-/

namespace PixelChip

/-- A flag as the digit 0 or 1. -/
def Text.flag (b : Bool) : String :=
  if b then "1" else "0"

/-- The values of a write, each after a blank. -/
def WriteData.text (data : WriteData) : String :=
  String.join (data.values.map fun value => " 0x" ++ Text.hex 4 value.toNat)

/-- The line that describes a command. -/
def Command.text : Command → String
  | ecr => "ECR"
  | bcr => "BCR"
  | noop => "Noop"
  | sync => "Sync"
  | pulse p =>
    "Pulse chip_id: " ++ Text.decimal p.chipId.toNat ++ ", length: " ++ Text.decimal p.length.toNat
  | cal c =>
    "Cal chip_id: " ++ Text.decimal c.chipId.toNat ++ ", edge_mode: " ++ Text.flag c.edgeMode
      ++ ", edge_delay: " ++ Text.decimal c.edgeDelay.toNat
      ++ ", edge_width: " ++ Text.decimal c.edgeWidth.toNat
      ++ ", aux_mode: " ++ Text.flag c.auxMode
      ++ ", aux_delay: " ++ Text.decimal c.auxDelay.toNat
  | read r =>
    "RdReg chip_id: " ++ Text.decimal r.chipId.toNat
      ++ ", address: 0x" ++ Text.hex 3 r.address.toNat
  | write w =>
    "WrReg chip_id: " ++ Text.decimal w.chipId.toNat ++ ", mode: " ++ Text.flag w.data.isExtended
      ++ ", address: 0x" ++ Text.hex 3 w.address.toNat ++ ", value:" ++ w.data.text
  | trigger t =>
    "Trigger pattern: 0x" ++ Text.hex 2 t.pattern.toNat
      ++ ", bc: " ++ Text.binary 4 t.crossings.toNat
      ++ ", tag: " ++ Text.decimal t.tag.toNat

end PixelChip

import PixelChip.Text.Number

/-!
# Why bytes or fields were refused

One type holds the causes for both links: bytes that start no item, an item that ran out of bytes,
corrupt payload, and a field that does not fit its width on the wire.
-/

namespace PixelChip

/-- The cause for which a parser or a checking constructor refuses its input. -/
inductive ParseError where
  /-- The first bytes are not the identifier of the item. -/
  | identifierMismatch
  /-- The identifier matched, but the item needs more bytes than there are. -/
  | truncated (need available : Nat)
  /-- A payload byte is no line-code symbol. -/
  | invalidSymbol (byte : UInt8) (offset : Nat)
  /-- The first byte of a trigger is none of the fifteen patterns. -/
  | invalidTriggerPattern (byte : UInt8)
  /-- The first byte of a register frame is none of the five codes. -/
  | invalidAuroraCode (byte : UInt8)
  /-- A field holds more than its width on the wire allows. -/
  | fieldOutOfRange (field : String) (value max : Nat)
  /-- A parser looked at an offset that the buffer does not have. Parsers check the length
  before they look, so none of them reports this. -/
  | pastEnd (offset : Nat)
  deriving DecidableEq, Repr

namespace ParseError

/-- The text that reports the cause. -/
def message : ParseError → String
  | identifierMismatch => "Identifier mismatch at offset 0"
  | truncated need available =>
    "Truncated payload: need " ++ Text.decimal need ++ " bytes, have " ++ Text.decimal available
  | invalidSymbol byte offset =>
    "Invalid symbol 0x" ++ Text.hex 2 byte.toNat ++ " at offset " ++ Text.decimal offset
  | invalidTriggerPattern byte => "Invalid trigger pattern: 0x" ++ Text.hex 2 byte.toNat
  | invalidAuroraCode byte => "Invalid aurora code: 0x" ++ Text.hex 2 byte.toNat
  | fieldOutOfRange field value max =>
    "Field " ++ field ++ " out of range: " ++ Text.decimal value ++ " (max " ++ Text.decimal max
      ++ ")"
  | pastEnd offset => "Read past the end at offset " ++ Text.decimal offset

/-- Whether the bytes are the beginning of an item that has not arrived completely. -/
def isTruncated : ParseError → Bool
  | truncated .. => true
  | _ => false

/-- How much of an item had been recognised: nothing, its identifier followed by corrupt payload,
or all that there was of it. -/
def specificity : ParseError → Nat
  | identifierMismatch | invalidTriggerPattern _ => 0
  | truncated .. => 2
  | _ => 1

end ParseError

/-- Accepts a field value that fits `bits` bits. -/
def checkWidth (field : String) (value bits : Nat) : Except ParseError Unit :=
  if value < 1 <<< bits then .ok () else .error (.fieldOutOfRange field value (1 <<< bits - 1))

end PixelChip

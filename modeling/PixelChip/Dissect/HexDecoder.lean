import PixelChip.Text.Quoted

/-!
# Decoders of hexadecimal digits

A decoder turns a run of hexadecimal digits into the bytes that they denote, or says what is wrong
with it. Hex dumps are read with any decoder, and nothing in how they are cut into lines and tokens
depends on how it works.
-/

namespace PixelChip

/-- What is wrong with a run of digits. -/
inductive HexFault where
  | oddLength
  /-- A byte of the run, in UTF-8, is no hexadecimal digit. -/
  | invalidCharacter (byte : UInt8) (position : Nat)
  deriving DecidableEq, Repr

/-- The text that reports a fault. The byte is shown as the character with its code. -/
def HexFault.message : HexFault → String
  | oddLength => "Odd number of digits"
  | invalidCharacter byte position =>
    "Invalid character " ++ Text.quotedChar (Char.ofNat byte.toNat) ++ " at position "
      ++ Text.decimal position

/-- A decoder of hexadecimal digits. -/
class HexDecoder where
  /-- The bytes that a run of digits, in UTF-8, denotes. -/
  decode : List UInt8 → Except HexFault (List UInt8)

end PixelChip

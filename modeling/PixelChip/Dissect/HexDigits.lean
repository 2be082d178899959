import PixelChip.Dissect.HexDecoder

/-!
# Decoding pairs of digits

Two digits make a byte, the upper half first, and letters may have either case. An odd number of
digits is refused before any of them is looked at; otherwise the first that is no digit is reported
with its position.
-/

namespace PixelChip
namespace HexDigits

/-- The value of a hexadecimal digit in ASCII. -/
def nibble? (byte : UInt8) : Option Nat :=
  let b := byte.toNat
  if 48 ≤ b ∧ b ≤ 57 then some (b - 48)
  else if 97 ≤ b ∧ b ≤ 102 then some (b - 87)
  else if 65 ≤ b ∧ b ≤ 70 then some (b - 55)
  else none

/-- The value of the digit at a position of its run. -/
def nibble (byte : UInt8) (position : Nat) : Except HexFault Nat :=
  match nibble? byte with
  | some value => .ok value
  | none => .error (.invalidCharacter byte position)

/-- The bytes that pairs of digits denote, from a position of their run on. -/
def pairs (position : Nat) : List UInt8 → Except HexFault (List UInt8)
  | [] => .ok []
  | [_] => .error .oddLength
  | high :: low :: rest => do
    let h ← nibble high position
    let l ← nibble low (position + 1)
    let bytes ← pairs (position + 2) rest
    return .ofNat (16 * h + l) :: bytes

instance : HexDecoder where
  decode digits := if digits.length % 2 = 1 then .error .oddLength else pairs 0 digits

end HexDigits
end PixelChip

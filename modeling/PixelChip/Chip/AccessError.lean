import PixelChip.Text.Number

/-!
# Refused accesses to the state of a chip
-/

namespace PixelChip

/-- The cause for which an access to registers or pixels is refused. -/
inductive AccessError where
  | invalidRegisterAddress (address : Nat)
  | pixelPairOutOfRange (doubleCol row : Nat)
  | pixelOutOfRange (col row : Nat)
  deriving DecidableEq, Repr

/-- The text that reports the cause. -/
def AccessError.message : AccessError → String
  | invalidRegisterAddress address => "Invalid register address: " ++ Text.decimal address
  | pixelPairOutOfRange doubleCol row =>
    "Pixel pair out of range: double column " ++ Text.decimal doubleCol ++ ", row "
      ++ Text.decimal row
  | pixelOutOfRange col row =>
    "Pixel out of range: column " ++ Text.decimal col ++ ", row " ++ Text.decimal row

end PixelChip

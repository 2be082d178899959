/-!
# Analog front ends

The matrix is built with three front ends, fixed by core column (eight pixel columns each).
-/

namespace PixelChip

/-- Flavour of analog front end. -/
inductive FrontEnd where
  /-- Synchronous. -/
  | sync
  /-- Linear. -/
  | lin
  /-- Differential. -/
  | diff
  deriving DecidableEq, Repr

namespace FrontEnd

/-- The front end of a core column. -/
def ofCoreCol (coreCol : Nat) : FrontEnd :=
  if coreCol ≤ 15 then sync else if coreCol ≤ 32 then lin else diff

/-- The front end of a pixel column. -/
def ofCol (col : Nat) : FrontEnd :=
  ofCoreCol (col / 8)

end FrontEnd
end PixelChip

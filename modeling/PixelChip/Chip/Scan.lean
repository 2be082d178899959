import PixelChip.Chip.Matrix
import PixelChip.Link.Frame

/-!
# Reading hits out of the matrix

A trigger reads the matrix quad by quad: quad columns in ascending order, in each of them rows in
ascending order, in each quad the four pixels by ascending column. A pixel that is enabled answers
with a time over threshold, which may draw random values; a quad of which some pixel answers with
a nonzero time gives a hit.

How a pixel answers is a parameter of the whole scan, so that what is said here about positions
and order holds for every response.
-/

namespace PixelChip
namespace Scan

/-- Applies a step to each element in turn and hands a state from one to the next. -/
def through {α β σ : Type} (step : α → σ → β × σ) : List α → σ → List β × σ
  | [], state => ([], state)
  | a :: rest, state =>
    let (b, state) := step a state
    let (bs, state) := through step rest state
    (b :: bs, state)

/-- The time over threshold of an enabled pixel, given its column, row and configuration. -/
abbrev Response (G : Type) := (col row : Nat) → Pixel → G → UInt8 × G

variable {G : Type}

/-- The answer of a pixel, 0 if it is disabled. -/
def pixel (respond : Response G) (matrix : Matrix) (col row : Nat) (generator : G) : UInt8 × G :=
  match matrix.pixel? col row with
  | none => (0, generator)
  | some pixel => if pixel.enabled then respond col row pixel generator else (0, generator)

/-- The answers of the four pixels of a quad. -/
def quad (respond : Response G) (matrix : Matrix) (quadCol row : Nat) (generator : G) :
    Quad UInt8 × G :=
  let (p0, generator) := pixel respond matrix (4 * quadCol) row generator
  let (p1, generator) := pixel respond matrix (4 * quadCol + 1) row generator
  let (p2, generator) := pixel respond matrix (4 * quadCol + 2) row generator
  let (p3, generator) := pixel respond matrix (4 * quadCol + 3) row generator
  (⟨p0, p1, p2, p3⟩, generator)

/-- The hit of a quad, if any of its pixels answers. -/
def hit? (respond : Response G) (matrix : Matrix) (quadCol row : Nat) (generator : G) :
    Option Hit × G :=
  let (tots, generator) := quad respond matrix quadCol row generator
  (if tots.toList.all (· = 0) then none else some (Hit.at (.ofNat quadCol) (.ofNat row) tots),
   generator)

/-- The hits of a quad column. -/
def column (respond : Response G) (matrix : Matrix) (quadCol : Nat) (generator : G) :
    List Hit × G :=
  let (hits, generator) := through (hit? respond matrix quadCol) (List.range 192) generator
  (hits.filterMap id, generator)

/-- The quad columns of some core columns. -/
def quadColumns (coreCols : List Nat) : List Nat :=
  coreCols.flatMap fun coreCol => [2 * coreCol, 2 * coreCol + 1]

/-- The hits of some core columns. -/
def hits (respond : Response G) (matrix : Matrix) (coreCols : List Nat) (generator : G) :
    List Hit × G :=
  let (columns, generator) := through (column respond matrix) (quadColumns coreCols) generator
  (columns.flatten, generator)

end Scan
end PixelChip

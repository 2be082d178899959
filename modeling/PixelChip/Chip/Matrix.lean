import PixelChip.Chip.AccessError

/-!
# The pixel matrix

400 columns by 192 rows of pixels, each with one configuration byte. The matrix has two views:
single pixels by column and row, and the pairs of a double column, which the configuration portal
writes as one value of 16 bits with the even column in the low byte.

Coordinates are numbers without a bound, and an access outside of the matrix is refused.
-/

namespace PixelChip

/-- Configuration of a pixel: bit 0 enable, bit 1 inject, bit 2 hitbus, bits 3 to 6 threshold
trim, bit 7 gain. -/
structure Pixel where
  bits : UInt8
  deriving DecidableEq, Repr

namespace Pixel

/-- Whether a bit of the configuration is set. -/
def bit (pixel : Pixel) (n : UInt8) : Bool :=
  pixel.bits >>> n &&& 1 ≠ 0

/-- Sets or clears a bit of the configuration. -/
def withBit (pixel : Pixel) (n : UInt8) (on : Bool) : Pixel :=
  if on then ⟨pixel.bits ||| 1 <<< n⟩ else ⟨pixel.bits &&& ~~~(1 <<< n)⟩

def enabled (pixel : Pixel) : Bool := pixel.bit 0

def inject (pixel : Pixel) : Bool := pixel.bit 1

def hitbus (pixel : Pixel) : Bool := pixel.bit 2

def gain (pixel : Pixel) : Bool := pixel.bit 7

/-- Threshold trim, four bits. -/
def tdac (pixel : Pixel) : UInt8 :=
  pixel.bits >>> 3 &&& 0xF

def withEnabled (pixel : Pixel) (on : Bool) : Pixel := pixel.withBit 0 on

def withInject (pixel : Pixel) (on : Bool) : Pixel := pixel.withBit 1 on

def withHitbus (pixel : Pixel) (on : Bool) : Pixel := pixel.withBit 2 on

def withGain (pixel : Pixel) (on : Bool) : Pixel := pixel.withBit 7 on

/-- Sets the threshold trim to the low four bits of a value. -/
def withTdac (pixel : Pixel) (tdac : UInt8) : Pixel :=
  let trim : UInt8 := (tdac &&& 0xF) <<< 3
  ⟨(pixel.bits &&& 0x87) ||| trim⟩

end Pixel

/-- The pixels, column by column. -/
structure Matrix where
  pixels : Vector Pixel 76800

namespace Matrix

/-- The matrix with all configuration bytes 0. -/
def cleared : Matrix where
  pixels := Vector.replicate 76800 ⟨0⟩

/-- The place of a pixel among all pixels. -/
def index (col row : Nat) : Nat :=
  192 * col + row

theorem index_lt {col row : Nat} (hcol : col < 400) (hrow : row < 192) :
    index col row < 76800 := by
  unfold index
  omega

/-- Distinct pixels have distinct places. -/
theorem index_inj {col row col' row' : Nat} (hrow : row < 192) (hrow' : row' < 192) :
    index col row = index col' row' ↔ col = col' ∧ row = row' := by
  unfold index
  omega

/-- The pixel at a column and row, if it exists. -/
def pixel? (matrix : Matrix) (col row : Nat) : Option Pixel :=
  if h : col < 400 ∧ row < 192 then some (matrix.pixels.get ⟨index col row, index_lt h.1 h.2⟩)
  else none

/-- Changes the pixel at a column and row. -/
def modify (matrix : Matrix) (col row : Nat) (f : Pixel → Pixel) : Except AccessError Matrix :=
  if h : col < 400 ∧ row < 192 then
    have hindex := index_lt h.1 h.2
    .ok ⟨matrix.pixels.set (index col row) (f (matrix.pixels.get ⟨index col row, hindex⟩)) hindex⟩
  else .error (.pixelOutOfRange col row)

/-- The place of the pixel at a column and row, if it exists. -/
def place? (col row : Nat) : Option (Fin 76800) :=
  if h : col < 400 ∧ row < 192 then some ⟨index col row, index_lt h.1 h.2⟩ else none

/-- The places of the even and the odd pixel in a row of a double column. Column numbers have 16
bits, and a double column whose even column would need more is refused like any other outside. -/
def pairPlaces (doubleCol row : Nat) : Except AccessError (Fin 76800 × Fin 76800) :=
  let places? := do
    let even ← if 2 * doubleCol < 65536 then place? (2 * doubleCol) row else none
    let odd ← place? (2 * doubleCol + 1) row
    return (even, odd)
  match places? with
  | some places => .ok places
  | none => .error (.pixelPairOutOfRange doubleCol row)

/-- Exactly the double columns and rows of the matrix have pairs. -/
theorem pairPlaces_eq (doubleCol row : Nat) :
    pairPlaces doubleCol row =
      if h : doubleCol < 200 ∧ row < 192 then
        .ok (⟨index (2 * doubleCol) row, index_lt (by omega) h.2⟩,
          ⟨index (2 * doubleCol + 1) row, index_lt (by omega) h.2⟩)
      else .error (.pixelPairOutOfRange doubleCol row) := by
  unfold pairPlaces place?
  by_cases h : doubleCol < 200 ∧ row < 192
  · have hdoubling : 2 * doubleCol < 65536 := by omega
    have heven : 2 * doubleCol < 400 ∧ row < 192 := by omega
    have hodd : 2 * doubleCol + 1 < 400 ∧ row < 192 := by omega
    rw [dif_pos h, if_pos hdoubling, dif_pos heven, dif_pos hodd]
    rfl
  · have heven : ¬(2 * doubleCol < 400 ∧ row < 192) := by omega
    rw [dif_neg h, dif_neg heven, ite_self]
    rfl

/-- The pair of pixels in a row of a double column. -/
def pair (matrix : Matrix) (doubleCol row : Nat) : Except AccessError UInt16 :=
  match pairPlaces doubleCol row with
  | .ok (even, odd) =>
    .ok (.ofNat (256 * (matrix.pixels.get odd).bits.toNat + (matrix.pixels.get even).bits.toNat))
  | .error cause => .error cause

/-- A pair is the pixels of two neighbouring columns. -/
theorem pair_eq (matrix : Matrix) (doubleCol row : Nat) :
    matrix.pair doubleCol row =
      match matrix.pixel? (2 * doubleCol) row, matrix.pixel? (2 * doubleCol + 1) row with
      | some even, some odd => .ok (.ofNat (256 * odd.bits.toNat + even.bits.toNat))
      | _, _ => .error (.pixelPairOutOfRange doubleCol row) := by
  unfold pair pixel?
  rw [pairPlaces_eq]
  by_cases h : doubleCol < 200 ∧ row < 192
  · have heven : 2 * doubleCol < 400 ∧ row < 192 := by omega
    have hodd : 2 * doubleCol + 1 < 400 ∧ row < 192 := by omega
    rw [dif_pos h, dif_pos heven, dif_pos hodd]
  · have heven : ¬(2 * doubleCol < 400 ∧ row < 192) := by omega
    rw [dif_neg h, dif_neg heven]

/-- Writes the pair of pixels in a row of a double column. -/
def setPair (matrix : Matrix) (doubleCol row : Nat) (value : UInt16) :
    Except AccessError Matrix :=
  match pairPlaces doubleCol row with
  | .ok (even, odd) =>
    .ok ⟨(matrix.pixels.set even ⟨.ofNat value.toNat⟩ even.isLt).set odd
      ⟨.ofNat (value.toNat / 256)⟩ odd.isLt⟩
  | .error cause => .error cause

/-- Writes the same byte to every pixel of a rectangle, bounds included. Positions outside of the
matrix are passed over. -/
def fill (matrix : Matrix) (firstCol lastCol firstRow lastRow : Nat) (pixel : Pixel) : Matrix :=
  (List.range' firstCol (lastCol + 1 - firstCol)).foldl (fun matrix col =>
    (List.range' firstRow (lastRow + 1 - firstRow)).foldl (fun matrix row =>
      if h : col < 400 ∧ row < 192 then
        ⟨matrix.pixels.set (index col row) pixel (index_lt h.1 h.2)⟩
      else matrix) matrix) matrix

end Matrix
end PixelChip

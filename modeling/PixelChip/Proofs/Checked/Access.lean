import PixelChip.Proofs.Chip.Write

/-!
# Registers and pixels under checks

The chip forms its numbers in machine types and takes elements out of arrays.  In the namespace
`Checked` stand its functions once more, with every sum, product and difference checked against its
type and every element asked for where it may not exist.  A failed check gives `none` for the whole.

This module treats what reads and writes registers and pixels.  Each function of the chip has a
lemma that its checks succeed and that it gives what the function without checks gives:
`setPair_eq`, `read_eq` and `write_eq`.  A caller may also write a field of its own, and
`setField_eq` says for which fields the checks succeed.
-/

namespace PixelChip
namespace Checked

/-! ## Checks -/

/-- A number, if it is below a limit. -/
def below (limit n : Nat) : Option Nat :=
  if n < limit then some n else none

/-- A number, if it has no more than 16 bits. -/
def word (n : Nat) : Option Nat :=
  below UInt16.size n

/-- The difference of two numbers, if it is none below 0. -/
def minus (n m : Nat) : Option Nat :=
  if m ≤ n then some (n - m) else none

/-- A word shifted to the left, if by fewer places than it has. -/
def shiftLeft (word : BitVec 16) (places : Nat) : Option (BitVec 16) :=
  if places < 16 then some (word <<< places) else none

/-- Sets an element, if there is one. -/
def setAt {α : Type} {size : Nat} (elements : Vector α size) (place : Nat) (element : α) :
    Option (Vector α size) :=
  if h : place < size then some (elements.set place element h) else none

lemma below_eq {limit n : Nat} (h : n < limit) : below limit n = some n :=
  if_pos h

lemma word_eq {n : Nat} (h : n < 65536) : word n = some n :=
  below_eq h

lemma minus_eq {n m : Nat} (h : m ≤ n) : minus n m = some (n - m) :=
  if_pos h

lemma setAt_eq {α : Type} {size place : Nat} (elements : Vector α size) (h : place < size)
    (element : α) : setAt elements place element = some (elements.set place element h) :=
  dif_pos h

/-! ## Fields -/

/-- Writes a field.  Its mask and the value are shifted by the offset as it is, before it is known
whether there is a register at the address. -/
def setField (registers : RegisterFile) (field : Field) (value : UInt16) :
    Option (Except AccessError RegisterFile) := do
  let mask ← shiftLeft field.mask field.offset
  let current := (registers.get field.address).toBitVec
  let shifted ← shiftLeft value.toBitVec field.offset
  return registers.set field.address (.ofBitVec ((current &&& ~~~mask) ||| (shifted &&& mask)))

/-- Where an offset is counted around without checks, the check fails. -/
theorem setField_eq (registers : RegisterFile) (field : Field) (value : UInt16) :
    setField registers field value =
      if field.offset < 16 then some (registers.setField field value) else none := by
  unfold setField shiftLeft
  split_ifs with h
  · rw [RegisterFile.setField, Field.start, Nat.mod_eq_of_lt h]
    rfl
  · rfl

/-! ## Pixels -/

/-- The place of a pixel, if the pixel exists. -/
def place? (col row : Nat) : Option Nat :=
  if col < 400 ∧ row < 192 then some (col * 192 + row) else none

/-- The pixel at a column and row, if it exists. -/
def pixel? (matrix : Matrix) (col row : Nat) : Option (Option Pixel) :=
  match place? col row with
  | some place => do
    let pixel ← matrix.pixels[place]?
    return some pixel
  | none => return none

/-- The places of the pixels in a row of a double column, if they exist.  The product may be too
large, and the sum is formed if it is not. -/
def pairPlaces (doubleCol row : Nat) : Option (Except AccessError (Nat × Nat)) :=
  let outside : Except AccessError (Nat × Nat) := .error (.pixelPairOutOfRange doubleCol row)
  match (word (doubleCol * 2)).bind (place? · row) with
  | none => return outside
  | some even => do
    let oddCol ← word (doubleCol * 2 + 1)
    match place? oddCol row with
    | none => return outside
    | some odd => return .ok (even, odd)

/-- The pair of pixels in a row of a double column. -/
def pair (matrix : Matrix) (doubleCol row : Nat) : Option (Except AccessError UInt16) := do
  match ← pairPlaces doubleCol row with
  | .error cause => return .error cause
  | .ok (even, odd) =>
    let low ← matrix.pixels[even]?
    let high ← matrix.pixels[odd]?
    return .ok (.ofNat (256 * high.bits.toNat + low.bits.toNat))

/-- Writes the pair of pixels in a row of a double column. -/
def setPair (matrix : Matrix) (doubleCol row : Nat) (value : UInt16) :
    Option (Except AccessError Matrix) := do
  match ← pairPlaces doubleCol row with
  | .error cause => return .error cause
  | .ok (even, odd) =>
    let pixels ← setAt matrix.pixels even ⟨.ofNat value.toNat⟩
    let pixels ← setAt pixels odd ⟨.ofNat (value.toNat / 256)⟩
    return .ok ⟨pixels⟩

lemma place?_eq (col row : Nat) :
    place? col row = if col < 400 ∧ row < 192 then some (Matrix.index col row) else none := by
  rw [place?, Matrix.index, Nat.mul_comm col]

theorem pixel?_eq (matrix : Matrix) (col row : Nat) :
    pixel? matrix col row = some (matrix.pixel? col row) := by
  rw [pixel?, place?_eq]
  by_cases h : col < 400 ∧ row < 192
  · rw [if_pos h, Matrix.pixel?_of_lt matrix h.1 h.2]
    simp [Vector.getElem?_eq_getElem (Matrix.index_lt h.1 h.2)]
  · rw [if_neg h, Matrix.pixel?_of_outside matrix h]
    rfl

/-- Where a pair exists, so do its places. -/
lemma pairPlaces_eq (doubleCol row : Nat) :
    pairPlaces doubleCol row =
      if doubleCol < 200 ∧ row < 192 then
        some (.ok (Matrix.index (2 * doubleCol) row, Matrix.index (2 * doubleCol + 1) row))
      else some (.error (.pixelPairOutOfRange doubleCol row)) := by
  rw [pairPlaces, Nat.mul_comm doubleCol]
  by_cases h : doubleCol < 200 ∧ row < 192
  · have heven : 2 * doubleCol < 400 ∧ row < 192 := by omega
    have hodd : 2 * doubleCol + 1 < 400 ∧ row < 192 := by omega
    have hplace : (word (2 * doubleCol)).bind (place? · row) =
        some (Matrix.index (2 * doubleCol) row) := by
      rw [word_eq (by omega), Option.bind_some, place?_eq, if_pos heven]
    rw [if_pos h, hplace, word_eq (by omega)]
    simp [place?_eq, hodd]
  · have hplace : (word (2 * doubleCol)).bind (place? · row) = none := by
      rw [Option.bind_eq_none_iff]
      intro even heven
      obtain rfl : 2 * doubleCol = even :=
        Option.some.inj (Option.ite_none_right_eq_some.1 heven).2
      rw [place?_eq, if_neg (by omega)]
    rw [if_neg h, hplace]
    rfl

theorem pair_eq (matrix : Matrix) (doubleCol row : Nat) :
    pair matrix doubleCol row = some (matrix.pair doubleCol row) := by
  rw [pair, pairPlaces_eq, Matrix.pair, Matrix.pairPlaces_eq]
  by_cases h : doubleCol < 200 ∧ row < 192
  · have heven : Matrix.index (2 * doubleCol) row < 76800 := Matrix.index_lt (by omega) h.2
    have hodd : Matrix.index (2 * doubleCol + 1) row < 76800 := Matrix.index_lt (by omega) h.2
    rw [if_pos h, dif_pos h]
    simp only [Option.bind_eq_bind, Option.bind_some, Vector.getElem?_eq_getElem heven,
      Vector.getElem?_eq_getElem hodd]
    rfl
  · rw [if_neg h, dif_neg h]
    rfl

theorem setPair_eq (matrix : Matrix) (doubleCol row : Nat) (value : UInt16) :
    setPair matrix doubleCol row value = some (matrix.setPair doubleCol row value) := by
  rw [setPair, pairPlaces_eq, Matrix.setPair, Matrix.pairPlaces_eq]
  by_cases h : doubleCol < 200 ∧ row < 192
  · have heven : Matrix.index (2 * doubleCol) row < 76800 := Matrix.index_lt (by omega) h.2
    have hodd : Matrix.index (2 * doubleCol + 1) row < 76800 := Matrix.index_lt (by omega) h.2
    rw [if_pos h, dif_pos h]
    simp only [Option.bind_eq_bind, Option.bind_some, setAt_eq _ heven, setAt_eq _ hodd]
    rfl
  · rw [if_neg h, dif_neg h]
    rfl

/-! ## Reads and writes -/

variable {G : Type}

/-- The value that the chip reports for an address. -/
def read (detector : Detector G) (address : UInt16) : Option UInt16 :=
  if address.toNat = Field.pixPortal.address then do
    let (doubleCol, row) := detector.selectedPair
    let value ← pair detector.matrix doubleCol row
    return value.toOption.getD 0
  else return detector.registers.get address.toNat

/-- Writes values to consecutive rows of a double column, up to the first that is outside of the
matrix.  `offset` counts the rows before, and is increased even where no value is left. -/
def writeRows (doubleCol row : Nat) : (offset : Nat) → List UInt16 → Matrix → Option Matrix
  | offset, [], matrix => do
    let _ ← word (offset + 1)
    return matrix
  | offset, value :: values, matrix => do
    let next ← word (offset + 1)
    let target ← word (row + offset)
    match ← setPair matrix doubleCol target value with
    | .ok matrix => writeRows doubleCol row next values matrix
    | .error _ => return matrix

/-- Executes a register write. -/
def write (detector : Detector G) (write : RegisterWrite) : Option (Detector G) :=
  if write.address.toNat = Field.pixPortal.address then do
    let (doubleCol, row) := detector.selectedPair
    let matrix ← writeRows doubleCol row 0 write.data.values detector.matrix
    return { detector with matrix }
  else
    match detector.registers.set write.address.toNat write.data.first with
    | .ok registers => return { detector with registers }
    | .error _ => return detector

theorem read_eq (detector : Detector G) (address : UInt16) :
    read detector address = some (detector.read address) := by
  rw [read, Detector.read]
  split
  · simp only [pair_eq]
    rfl
  · rfl

/-- No sum is too large where the last one is not. -/
lemma writeRows_eq (doubleCol : Nat) {row offset : Nat} {values : List UInt16}
    (h : row + (offset + values.length) + 1 < 65536) (matrix : Matrix) :
    writeRows doubleCol row offset values matrix =
      some (Detector.writeRows doubleCol (row + offset) values matrix) := by
  induction values generalizing offset matrix with
  | nil =>
      rw [List.length_nil] at h
      rw [writeRows, word_eq (by omega)]
      rfl
  | cons value values ih =>
      rw [List.length_cons] at h
      rw [writeRows, word_eq (by omega), word_eq (by omega), Detector.writeRows]
      simp only [Option.bind_eq_bind, Option.bind_some, setPair_eq]
      cases matrix.setPair doubleCol (row + offset) value with
      | ok matrix => exact ih (by omega) matrix
      | error cause => rfl

/-- Rows have nine bits, and at most six values are written. -/
theorem write_eq (detector : Detector G) (write : RegisterWrite) :
    Checked.write detector write = some (detector.write write) := by
  have hlength := write.data.length_values_le
  have hrow := detector.selectedPair_lt.2
  rw [Checked.write, Detector.write]
  split
  · have hrows := writeRows_eq detector.selectedPair.1
      (show detector.selectedPair.2 + (0 + write.data.values.length) + 1 < 65536 by omega)
      detector.matrix
    simp only [hrows]
    rfl
  · cases detector.registers.set write.address.toNat write.data.first <;> rfl

end Checked
end PixelChip

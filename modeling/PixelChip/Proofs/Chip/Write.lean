import PixelChip.Proofs.Chip.Access
import PixelChip.Random.Draw

/-!
# What a write changes

The target of a register write is a register or, at address 0, some rows of the selected double
column.  `SetsRows` says what becomes of the pixels: two lemmas, for a matrix that is left alone and
for one more row, follow the recursion of `writeRows`, and from them comes what a whole write
stores.

A write that fits changes its target and nothing else.  One that does not fit changes no register,
but a write of six rows that begins inside the matrix and ends outside has stored the rows inside
before it finds the first outside.
-/

namespace PixelChip

/-! ## Registers -/

namespace RegisterFile

/-- A field has no bits outside of its mask. -/
lemma field_le_mask (registers : RegisterFile) (field : Field) :
    (registers.field field).toNat ≤ field.mask.toNat := by
  show ((registers.get field.address).toBitVec >>> field.start &&& field.mask).toNat ≤ _
  rw [BitVec.toNat_and]
  exact Nat.and_le_right

end RegisterFile

/-! ## Rows of pixels -/

namespace Matrix

variable {before between after : Matrix} {doubleCol row : Nat} {value : UInt16}

/-- Rows of a double column, from one on, take values, and no other pixel changes. -/
structure SetsRows (before after : Matrix) (doubleCol row : Nat) (values : List UInt16) : Prop where
  pixels : ∀ (i : Nat) (value : UInt16) (col : Nat), values[i]? = some value →
    col / 2 = doubleCol → after.pixel? col (row + i) = some (half value col)
  others : ∀ col row', ¬(col / 2 = doubleCol ∧ row ≤ row' ∧ row' < row + values.length) →
    after.pixel? col row' = before.pixel? col row'

lemma SetsRows.nil (before : Matrix) (doubleCol row : Nat) :
    SetsRows before before doubleCol row [] where
  pixels := by simp
  others := fun _ _ _ => rfl

/-- One more row in front. -/
lemma SetsRows.cons {values : List UInt16} (hset : before.setPair doubleCol row value = .ok between)
    (h : SetsRows between after doubleCol (row + 1) values) :
    SetsRows before after doubleCol row (value :: values) := by
  have hpixel := pixel?_setPair hset
  refine ⟨?_, ?_⟩
  · intro i value' col hvalue hcol
    cases i with
    | zero =>
        -- The rows behind do not touch the first.
        obtain rfl : value = value' := by simpa using hvalue
        rw [Nat.add_zero, h.others col row (by omega), hpixel, if_pos ⟨hcol, rfl⟩]
    | succ i =>
        rw [Nat.add_comm i 1, ← Nat.add_assoc]
        exact h.pixels i value' col (by simpa using hvalue) hcol
  · intro col row' hout
    rw [List.length_cons] at hout
    rw [h.others col row' (by omega), hpixel, if_neg (by omega)]

/-- The pair in the first row is the first value. -/
lemma SetsRows.pair_eq {values : List UInt16} (h : SetsRows before after doubleCol row values)
    (hvalue : values[0]? = some value) : after.pair doubleCol row = .ok value :=
  pair_of_halves (h.pixels 0 value _ hvalue (by omega)) (h.pixels 0 value _ hvalue (by omega))

end Matrix

/-! ## Writes -/

namespace Detector

variable {G : Type} {detector : Detector G} {write : RegisterWrite} {doubleCol row : Nat}

/-- A write that begins outside of the matrix stores nothing. -/
lemma writeRows_of_outside (h : 200 ≤ doubleCol ∨ 192 ≤ row) (values : List UInt16)
    (matrix : Matrix) : writeRows doubleCol row values matrix = matrix := by
  cases values with
  | nil => rfl
  | cons value values =>
      have hset := matrix.setPair_of_outside (show ¬(doubleCol < 200 ∧ row < 192) by omega) value
      simp only [writeRows, hset]

/-- **What a write stores in the matrix**: the values for which there are rows. -/
lemma setsRows_writeRows (hdouble : doubleCol < 200) (row : Nat) (values : List UInt16)
    (matrix : Matrix) :
    matrix.SetsRows (writeRows doubleCol row values matrix) doubleCol row
      (values.take (192 - row)) := by
  induction values generalizing row matrix with
  | nil =>
      rw [List.take_nil]
      exact .nil matrix doubleCol row
  | cons value values ih =>
      by_cases hrow : row < 192
      · obtain ⟨matrix', hset, -⟩ := matrix.exists_setPair hdouble hrow value
        have hrest := ih (row + 1) matrix'
        rw [show 192 - row = 192 - (row + 1) + 1 by omega, List.take_succ_cons]
        simp only [writeRows, hset]
        exact .cons hset hrest
      · rw [writeRows_of_outside (by omega), show 192 - row = 0 by omega, List.take_zero]
        exact .nil matrix doubleCol row

/-- The target of a write lies wholly inside of the registers or the matrix. -/
structure Fits (detector : Detector G) (write : RegisterWrite) : Prop where
  address_lt : write.address.toNat < 138
  rows_le : write.address.toNat = 0 → detector.selectedPair.1 < 200 ∧
    detector.selectedPair.2 + write.data.values.length ≤ 192

/-- The region registers are narrower than 16 bits. -/
lemma selectedPair_lt (detector : Detector G) :
    detector.selectedPair.1 < 256 ∧ detector.selectedPair.2 < 512 := by
  have hcol : detector.selectedPair.1 ≤ 255 := detector.registers.field_le_mask .regionCol
  have hrow : detector.selectedPair.2 ≤ 511 := detector.registers.field_le_mask .regionRow
  exact ⟨Nat.lt_succ_of_le hcol, Nat.lt_succ_of_le hrow⟩

lemma exists_write_of_register (detector : Detector G) (hpos : 0 < write.address.toNat)
    (h : write.address.toNat < 138) :
    ∃ registers, detector.write write = { detector with registers } ∧
      detector.registers.Sets registers write.address.toNat write.data.first := by
  obtain ⟨registers, hset, hsets⟩ := detector.registers.exists_sets h write.data.first
  refine ⟨registers, ?_, hsets⟩
  rw [write_of_ne_zero (Nat.ne_of_gt hpos), hset]

lemma write_of_outside (h : 138 ≤ write.address.toNat) : detector.write write = detector := by
  have hset : detector.registers.set write.address.toNat write.data.first =
      .error (.invalidRegisterAddress write.address.toNat) := by
    unfold RegisterFile.set
    rw [dif_neg (Nat.not_lt_of_le h)]
  rw [write_of_ne_zero (by omega), hset]

/-- A write reaches nothing but registers and pixels. -/
lemma write_eq (detector : Detector G) (write : RegisterWrite) :
    detector.write write =
      { detector with
        registers := (detector.write write).registers
        matrix := (detector.write write).matrix } := by
  by_cases hportal : write.address.toNat = 0
  · rw [write_of_portal hportal]
  · by_cases hlt : write.address.toNat < 138
    · obtain ⟨registers, hwrite, -⟩ :=
        detector.exists_write_of_register (Nat.pos_of_ne_zero hportal) hlt
      rw [hwrite]
    · rw [write_of_outside (Nat.le_of_not_lt hlt)]

/-- The pair that was written to reads as the first value. -/
lemma read_of_setsRows (detector : Detector G) {after : Detector G} {values : List UInt16}
    {value : UInt16} (hregisters : after.registers = detector.registers)
    (hrows : detector.matrix.SetsRows after.matrix detector.selectedPair.1 detector.selectedPair.2
      values)
    (hvalue : values[0]? = some value) : after.read 0 = value := by
  have hselected : after.selectedPair = detector.selectedPair := by
    unfold selectedPair
    rw [hregisters]
  show (after.matrix.pair after.selectedPair.1 after.selectedPair.2).toOption.getD 0 = value
  rw [hselected, hrows.pair_eq hvalue]
  rfl

end Detector

lemma WriteData.getElem?_values_zero (data : WriteData) : data.values[0]? = some data.first := by
  cases data <;> rfl

lemma WriteData.length_values_le (data : WriteData) : data.values.length ≤ 6 := by
  cases data <;> simp [values]

namespace Chip

variable {G : Type} [Generator G]

/-- **A write that fits changes its target and nothing else.**  A register takes the first value and
is flagged; at address 0 the selected pair and those in the rows after it take the values, and
address 0 reads as the first of them.  No write reaches the readout, the thresholds, the generator
or a setting, and the numbers of rows and columns that it forms have 16 bits. -/
theorem write_changes_its_target (detector : Detector G) (readout : Readout)
    (write : RegisterWrite) :
    let after := (execute detector readout (.write write)).1
    let pair := detector.selectedPair
    let values := write.data.values
    (1 ≤ write.address.toNat → write.address.toNat < 138 →
      detector.registers.Sets after.registers write.address.toNat write.data.first ∧
        after.matrix = detector.matrix) ∧
    (write.address.toNat = 0 → pair.1 < 200 → pair.2 + values.length ≤ 192 →
      detector.matrix.SetsRows after.matrix pair.1 pair.2 values ∧
        after.registers = detector.registers ∧ after.read 0 = write.data.first) ∧
    (execute detector readout (.write write)).2 = readout ∧
    after = { detector with registers := after.registers, matrix := after.matrix } ∧
    2 * pair.1 + 1 < UInt16.size ∧ ∀ i < values.length, pair.2 + i < UInt16.size := by
  intro after pair values
  have hlength : values.length ≤ 6 := write.data.length_values_le
  obtain ⟨hcol, hrow⟩ : pair.1 < 256 ∧ pair.2 < 512 := detector.selectedPair_lt
  have hsize : UInt16.size = 65536 := rfl
  refine ⟨?_, ?_, rfl, detector.write_eq write, by omega, fun i hi => by omega⟩
  · intro hpos hlt
    obtain ⟨registers, hwrite, hsets⟩ := detector.exists_write_of_register hpos hlt
    have hafter : after = { detector with registers } := hwrite
    rw [hafter]
    exact ⟨hsets, rfl⟩
  · intro hportal hdouble hrows
    have hsets := Detector.setsRows_writeRows hdouble pair.2 values detector.matrix
    rw [List.take_of_length_le (by omega)] at hsets
    have hafter : after = { detector with
        matrix := Detector.writeRows pair.1 pair.2 values detector.matrix } :=
      Detector.write_of_portal hportal
    rw [hafter]
    exact ⟨hsets, rfl, detector.read_of_setsRows rfl hsets write.data.getElem?_values_zero⟩

/-- Six values in the first double column after power-on, and a value in a register. -/
theorem write_changes_its_target_powerOn :
    let detector := Detector.powerOn (ChaCha.ofSeed 0)
    let readout := Readout.powerOn .all
    let portal := execute detector readout (.write ⟨0, 0, .six 0x0102 3 4 5 6 0x0708⟩)
    let register := execute detector readout (.write ⟨0, 137, .single 9⟩)
    detector.selectedPair = (0, 0) ∧
      portal.1.matrix.pixel? 0 0 = some ⟨2⟩ ∧ portal.1.matrix.pixel? 1 5 = some ⟨7⟩ ∧
      portal.1.matrix.pixel? 1 6 = detector.matrix.pixel? 1 6 ∧ portal.1.read 0 = 0x0102 ∧
      register.1.registers.get 137 = 9 ∧ register.1.matrix = detector.matrix := by
  intro detector readout portal register
  have hselected : detector.selectedPair = (0, 0) := by decide +kernel
  obtain ⟨-, hportal, -⟩ :=
    write_changes_its_target detector readout ⟨0, 0, .six 0x0102 3 4 5 6 0x0708⟩
  obtain ⟨hregister, -⟩ := write_changes_its_target detector readout ⟨0, 137, .single 9⟩
  rw [hselected] at hportal
  obtain ⟨hrows, -, hread⟩ := hportal rfl (by decide) (by decide)
  obtain ⟨hsets, hmatrix⟩ := hregister (by decide) (by decide)
  refine ⟨hselected, ?_, ?_, ?_, hread, hsets.value, hmatrix⟩
  · exact hrows.pixels 0 0x0102 0 rfl rfl
  · exact hrows.pixels 5 0x0708 1 rfl rfl
  · exact hrows.others 1 6 (by decide)

/-- **What a write that does not fit changes.**  It changes no register and no flag, and besides
pixels nothing at all.  If it begins outside of the matrix, it changes no pixel either.  If it
begins inside, the values for which there are rows are stored, and no other pixel changes. -/
theorem write_that_does_not_fit (detector : Detector G) (readout : Readout)
    (write : RegisterWrite) (h : ¬detector.Fits write) :
    let after := (execute detector readout (.write write)).1
    let pair := detector.selectedPair
    after = { detector with matrix := after.matrix } ∧
    (write.address.toNat ≠ 0 ∨ 200 ≤ pair.1 ∨ 192 ≤ pair.2 → after.matrix = detector.matrix) ∧
    (write.address.toNat = 0 → pair.1 < 200 →
      detector.matrix.SetsRows after.matrix pair.1 pair.2
        (write.data.values.take (192 - pair.2))) := by
  intro after pair
  by_cases hportal : write.address.toNat = 0
  · have hafter : after = { detector with
        matrix := Detector.writeRows pair.1 pair.2 write.data.values detector.matrix } :=
      Detector.write_of_portal hportal
    rw [hafter]
    refine ⟨rfl, ?_, ?_⟩
    · intro houtside
      exact Detector.writeRows_of_outside (houtside.resolve_left (not_not_intro hportal)) _ _
    · intro _ hdouble
      exact Detector.setsRows_writeRows hdouble pair.2 write.data.values detector.matrix
  · have hlt : 138 ≤ write.address.toNat := by
      by_contra hlt
      exact h ⟨Nat.lt_of_not_le hlt, fun hzero => absurd hzero hportal⟩
    have hafter : after = detector := Detector.write_of_outside hlt
    rw [hafter]
    exact ⟨rfl, fun _ => rfl, fun hzero => absurd hzero hportal⟩

/-- A write past the registers. -/
theorem write_that_does_not_fit_powerOn :
    let detector := Detector.powerOn (ChaCha.ofSeed 0)
    let after := (execute detector (.powerOn .all) (.write ⟨0, 300, .single 0xFFFF⟩)).1
    ¬detector.Fits ⟨0, 300, .single 0xFFFF⟩ ∧ after = detector := by
  intro detector after
  have hfits : ¬detector.Fits ⟨0, 300, .single 0xFFFF⟩ := fun h => absurd h.address_lt (by decide)
  obtain ⟨hafter, hmatrix, -⟩ :=
    write_that_does_not_fit detector (.powerOn .all) ⟨0, 300, .single 0xFFFF⟩ hfits
  refine ⟨hfits, hafter.trans ?_⟩
  rw [hmatrix (.inl (by decide))]

/-- **A write across the last row stores the rows before it.**  The chip has the row 190 selected,
and six values go to address 0. -/
theorem write_across_the_last_row :
    ¬∀ chip : Chip ChaCha, Reachable chip → ∀ write : RegisterWrite, ¬chip.detector.Fits write →
      let after := (execute chip.detector chip.readout (.write write)).1
      after.registers = chip.detector.registers ∧ after.matrix = chip.detector.matrix := by
  intro hunchanged
  let chip : Chip ChaCha := (powerOn 0 .all (ChaCha.ofSeed 0)).run
    [.push (.write ⟨0, 2, .single 190⟩), .process]
  let write : RegisterWrite := ⟨0, 0, .six 1 2 3 4 5 6⟩
  have hreachable : Reachable chip := by
    refine (Reachable.powerOn 0 .all (ChaCha.ofSeed 0)).run ?_
    simp only [List.forall_mem_cons]
    exact ⟨.write 0 2 (.single 190) rfl, trivial, by simp⟩
  have hselected : chip.detector.selectedPair = (0, 190) := by decide +kernel
  have hfits : ¬chip.detector.Fits write := by
    intro h
    have hrows := (h.rows_le rfl).2
    rw [hselected] at hrows
    exact absurd hrows (by decide)
  obtain ⟨-, hmatrix⟩ := hunchanged chip hreachable write hfits
  have hwrite : chip.detector.write write = _ := Detector.write_of_portal rfl
  have hrows := Detector.setsRows_writeRows (show 0 < 200 by decide) 190 write.data.values
    chip.detector.matrix
  -- The row is there to take the value 1, and the pixel would have to stay at 0.
  have hafter : (chip.detector.write write).matrix.pixel? 0 190 = some ⟨1⟩ := by
    rw [hwrite, hselected]
    exact hrows.pixels 0 1 0 rfl rfl
  have hbefore : chip.detector.matrix.pixel? 0 190 = some ⟨0⟩ := by
    have hcleared : chip.detector.matrix = .cleared := rfl
    rw [hcleared, Matrix.pixel?_of_lt _ (by decide) (by decide)]
    exact Vector.getElem?_replicate
  have hsame : (chip.detector.write write).matrix = chip.detector.matrix := hmatrix
  rw [hsame, hbefore] at hafter
  exact absurd hafter (by decide)

end Chip
end PixelChip

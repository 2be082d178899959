import PixelChip.Proofs.Chip.Run

/-!
# Reading what was written

A register holds the value last written to it.  Address 0 is a window on the pixel pair that the
region registers select: a value written through it is split over the two pixels and put together
again when it is read.
-/

namespace PixelChip

/-! ## Registers -/

namespace RegisterFile

variable {address : Nat}

/-- A register takes a value and is flagged, and all others stay as they are. -/
structure Sets (before after : RegisterFile) (address : Nat) (value : UInt16) : Prop where
  value : after.get address = value
  flag : after.updated[address]? = some true
  other_values : ∀ other, other ≠ address → after.get other = before.get other
  other_flags : ∀ other, other ≠ address → after.updated[other]? = before.updated[other]?

lemma exists_sets (registers : RegisterFile) (h : address < 138) (value : UInt16) :
    ∃ registers', registers.set address value = .ok registers' ∧
      registers.Sets registers' address value := by
  unfold set
  rw [dif_pos h]
  refine ⟨_, rfl, ?_, ?_, ?_, ?_⟩
  · simp only [get, Vector.getElem?_set_self, Option.getD_some]
  · exact Vector.getElem?_set_self h
  · intro other hother
    simp only [get, Vector.getElem?_set_ne h (Ne.symm hother)]
  · intro other hother
    exact Vector.getElem?_set_ne h (Ne.symm hother)

end RegisterFile

/-! ## Pixels -/

namespace Matrix

variable {before after : Matrix} {col doubleCol row : Nat} {value : UInt16}

lemma pixel?_of_lt (matrix : Matrix) (hcol : col < 400) (hrow : row < 192) :
    matrix.pixel? col row = matrix.pixels[index col row]? := by
  unfold pixel?
  rw [dif_pos ⟨hcol, hrow⟩, Vector.getElem?_eq_getElem (index_lt hcol hrow)]
  rfl

lemma pixel?_of_outside (matrix : Matrix) (h : ¬(col < 400 ∧ row < 192)) :
    matrix.pixel? col row = none :=
  dif_neg h

/-- The byte of a value that goes to a column: the low one to even columns. -/
def half (value : UInt16) (col : Nat) : Pixel :=
  ⟨if col % 2 = 0 then value.toUInt8 else (value >>> 8).toUInt8⟩

lemma half_even (value : UInt16) (doubleCol : Nat) :
    half value (2 * doubleCol) = ⟨value.toUInt8⟩ := by
  unfold half
  rw [if_pos (Nat.mul_mod_right 2 doubleCol)]

lemma half_odd (value : UInt16) (doubleCol : Nat) :
    half value (2 * doubleCol + 1) = ⟨(value >>> 8).toUInt8⟩ := by
  unfold half
  rw [if_neg (by omega)]

/-- Writing a pair changes its two pixels and no other. -/
lemma pixel?_setPair (h : before.setPair doubleCol row value = .ok after) (col row' : Nat) :
    after.pixel? col row' =
      if col / 2 = doubleCol ∧ row' = row then some (half value col)
      else before.pixel? col row' := by
  rw [setPair, pairPlaces_eq] at h
  by_cases hin : doubleCol < 200 ∧ row < 192
  · rw [dif_pos hin] at h
    obtain rfl := Except.ok.inj h
    obtain ⟨hdouble, hrow⟩ := hin
    have heven : 2 * doubleCol < 400 := by omega
    have hodd : 2 * doubleCol + 1 < 400 := by omega
    by_cases htarget : col / 2 = doubleCol ∧ row' = row
    · rw [if_pos htarget]
      obtain ⟨hcol, rfl⟩ := htarget
      obtain rfl | rfl : col = 2 * doubleCol ∨ col = 2 * doubleCol + 1 := by omega
      · have hne : index (2 * doubleCol + 1) row' ≠ index (2 * doubleCol) row' := by
          rw [Ne, index_inj hrow hrow]
          omega
        rw [pixel?_of_lt _ heven hrow, Vector.getElem?_set_ne _ hne, Vector.getElem?_set_self,
          half_even]
        rfl
      · have hhigh : (value >>> 8).toUInt8 = UInt8.ofNat (value.toNat / 256) := by
          rw [← UInt8.toNat_inj, UInt16.toNat_toUInt8, UInt16.toNat_shiftRight]
          simp [Nat.shiftRight_eq_div_pow]
        rw [pixel?_of_lt _ hodd hrow, Vector.getElem?_set_self, half_odd, hhigh]
    · rw [if_neg htarget]
      by_cases hpixel : col < 400 ∧ row' < 192
      · have hne_even : index (2 * doubleCol) row ≠ index col row' := by
          rw [Ne, index_inj hrow hpixel.2]
          omega
        have hne_odd : index (2 * doubleCol + 1) row ≠ index col row' := by
          rw [Ne, index_inj hrow hpixel.2]
          omega
        rw [pixel?_of_lt _ hpixel.1 hpixel.2, pixel?_of_lt _ hpixel.1 hpixel.2,
          Vector.getElem?_set_ne _ hne_odd, Vector.getElem?_set_ne _ hne_even]
      · rw [pixel?_of_outside _ hpixel, pixel?_of_outside _ hpixel]
  · rw [dif_neg hin] at h
    exact absurd h (by simp)

/-- A pair outside of the matrix is not written. -/
lemma setPair_of_outside (matrix : Matrix) (h : ¬(doubleCol < 200 ∧ row < 192)) (value : UInt16) :
    matrix.setPair doubleCol row value = .error (.pixelPairOutOfRange doubleCol row) := by
  rw [setPair, pairPlaces_eq, dif_neg h]

/-- A pair is the value of which its pixels hold the halves. -/
lemma pair_of_halves (heven : after.pixel? (2 * doubleCol) row = some (half value (2 * doubleCol)))
    (hodd : after.pixel? (2 * doubleCol + 1) row = some (half value (2 * doubleCol + 1))) :
    after.pair doubleCol row = .ok value := by
  rw [half_even] at heven
  rw [half_odd] at hodd
  have hlow : value.toUInt8.toNat = value.toNat % 256 := UInt16.toNat_toUInt8 value
  have hhigh : (value >>> 8).toUInt8.toNat = value.toNat / 256 % 256 := by
    rw [UInt16.toNat_toUInt8, UInt16.toNat_shiftRight]
    simp [Nat.shiftRight_eq_div_pow]
  have hsum : 256 * (value.toNat / 256 % 256) + value.toNat % 256 = value.toNat := by
    have hvalue := value.toNat_lt
    omega
  rw [pair_eq, heven, hodd]
  simp only [hlow, hhigh, hsum, UInt16.ofNat_toNat]

/-- A pair inside the matrix reads as what was written to it. -/
lemma exists_setPair (matrix : Matrix) (hdouble : doubleCol < 200) (hrow : row < 192)
    (value : UInt16) :
    ∃ matrix', matrix.setPair doubleCol row value = .ok matrix' ∧
      matrix'.pair doubleCol row = .ok value := by
  obtain ⟨matrix', hset⟩ : ∃ matrix', matrix.setPair doubleCol row value = .ok matrix' := by
    rw [setPair, pairPlaces_eq, dif_pos ⟨hdouble, hrow⟩]
    exact ⟨_, rfl⟩
  have hpixel := pixel?_setPair hset
  refine ⟨matrix', hset, pair_of_halves ?_ ?_⟩
  · rw [hpixel, if_pos ⟨by omega, rfl⟩]
  · rw [hpixel, if_pos ⟨by omega, rfl⟩]

end Matrix

namespace Detector

variable {G : Type} {detector : Detector G} {write : RegisterWrite}

/-- Whether a value written to an address has a place: the address is that of a register, and for
the window on the pixels the selected pair lies inside the matrix. -/
structure Holds (detector : Detector G) (address : UInt16) : Prop where
  address_lt : address.toNat < 138
  pair_lt : address.toNat = 0 → detector.selectedPair.1 < 200 ∧ detector.selectedPair.2 < 192

lemma write_of_portal (h : write.address.toNat = 0) :
    detector.write write =
      { detector with
        matrix := writeRows detector.selectedPair.1 detector.selectedPair.2 write.data.values
          detector.matrix } := by
  unfold Detector.write
  exact if_pos h

lemma write_of_ne_zero (h : write.address.toNat ≠ 0) :
    detector.write write =
      match detector.registers.set write.address.toNat write.data.first with
      | .ok registers => { detector with registers }
      | .error _ => detector := by
  unfold Detector.write
  exact if_neg h

/-- **A value that has a place is read back.** -/
theorem read_write (chipId : UInt8) {address : UInt16} (h : detector.Holds address)
    (value : UInt16) :
    (detector.write ⟨chipId, address, .single value⟩).read address = value := by
  by_cases hportal : address.toNat = Field.pixPortal.address
  · obtain ⟨hcol, hrow⟩ := h.pair_lt hportal
    obtain ⟨matrix, hset, hpair⟩ := detector.matrix.exists_setPair hcol hrow value
    rw [write_of_portal hportal]
    unfold Detector.read
    rw [if_pos hportal]
    -- The write changes no register, so that both look at the same pair.
    show ((writeRows detector.selectedPair.1 detector.selectedPair.2 [value]
      detector.matrix).pair detector.selectedPair.1 detector.selectedPair.2).toOption.getD 0 = value
    simp only [writeRows, hset, hpair]
    rfl
  · obtain ⟨registers, hset, hsets⟩ := detector.registers.exists_sets h.address_lt value
    have hwrite : detector.write ⟨chipId, address, .single value⟩ =
        { detector with registers } := by
      rw [write_of_ne_zero hportal]
      simp only [WriteData.first, hset]
    rw [hwrite]
    unfold Detector.read
    rw [if_neg hportal]
    exact hsets.value

end Detector
end PixelChip

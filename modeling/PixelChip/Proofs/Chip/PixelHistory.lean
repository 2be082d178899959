import PixelChip.Proofs.Chip.Access

/-!
# What pixels tell of the writes so far

A pixel can be written alone, as a whole or in part, or together with its neighbour in a double
column.  Either way a write is a `Pixel.Change` of each pixel that it addresses
(`Write.changeAt?`), and has no other effect (`Write.pixel?_apply`).  So a pixel is what the changes
that addressed it made of it, one after the other (`pixel?_after`), and a pair is the bytes of its
two pixels.
-/

namespace PixelChip

/-! ## Parts of a pixel -/

namespace Pixel

/-- A change of a pixel: of the whole byte, or of a part. -/
inductive Change where
  | raw (bits : UInt8)
  | enabled (on : Bool)
  | inject (on : Bool)
  | hitbus (on : Bool)
  | tdac (trim : UInt8)
  | gain (on : Bool)

namespace Change

/-- The pixel behind a change. -/
def apply : Change → Pixel → Pixel
  | raw bits, _ => ⟨bits⟩
  | enabled on, pixel => pixel.withEnabled on
  | inject on, pixel => pixel.withInject on
  | hitbus on, pixel => pixel.withHitbus on
  | tdac trim, pixel => pixel.withTdac trim
  | gain on, pixel => pixel.withGain on

/-- What a change makes of a bit of the byte, if it is one of those that it sets. -/
def bit? : Change → Nat → Option Bool
  | raw bits, place => some (bits.toBitVec.getLsbD place)
  | enabled on, place => if place = 0 then some on else none
  | inject on, place => if place = 1 then some on else none
  | hitbus on, place => if place = 2 then some on else none
  | tdac trim, place =>
    if 3 ≤ place ∧ place ≤ 6 then some (trim.toBitVec.getLsbD (place - 3)) else none
  | gain on, place => if place = 7 then some on else none

end Change

variable {place : Nat}

/-- Setting or clearing a bit of a pixel leaves its other bits alone. -/
lemma getLsbD_withBit (pixel : Pixel) {n : UInt8} (hn : n.toNat < 8) (on : Bool)
    (hplace : place < 8) :
    (pixel.withBit n on).bits.toBitVec.getLsbD place =
      (if place = n.toNat then some on else none).getD (pixel.bits.toBitVec.getLsbD place) := by
  have hone : (1 <<< n : UInt8).toBitVec.getLsbD place = decide (place = n.toNat) := by
    have hshift : (1 <<< n : UInt8).toBitVec = BitVec.twoPow 8 n.toNat := by
      rw [UInt8.toBitVec_shiftLeft, BitVec.shiftLeft_eq', BitVec.toNat_umod, BitVec.twoPow_eq]
      exact congrArg (1#8 <<< ·) (Nat.mod_eq_of_lt hn)
    rw [hshift, BitVec.getLsbD_twoPow, decide_eq_true hn, Bool.true_and]
    exact decide_eq_decide.2 eq_comm
  cases on with
  | true =>
      have hor : (pixel.withBit n true).bits.toBitVec.getLsbD place =
          (pixel.bits.toBitVec.getLsbD place || (1 <<< n : UInt8).toBitVec.getLsbD place) :=
        BitVec.getLsbD_or
      rw [hor, hone]
      by_cases hbit : place = n.toNat
      · simp [hbit]
      · simp [hbit]
  | false =>
      have hand : (pixel.withBit n false).bits.toBitVec.getLsbD place =
          (pixel.bits.toBitVec.getLsbD place && !(1 <<< n : UInt8).toBitVec.getLsbD place) := by
        show (pixel.bits.toBitVec &&& ~~~(1 <<< n : UInt8).toBitVec).getLsbD place = _
        rw [BitVec.getLsbD_and, BitVec.getLsbD_not, decide_eq_true hplace, Bool.true_and]
      rw [hand, hone]
      by_cases hbit : place = n.toNat
      · simp [hbit]
      · simp [hbit]

lemma getLsbD_withTdac (pixel : Pixel) (trim : UInt8) (hplace : place < 8) :
    (pixel.withTdac trim).bits.toBitVec.getLsbD place =
      (if 3 ≤ place ∧ place ≤ 6 then some (trim.toBitVec.getLsbD (place - 3)) else none).getD
        (pixel.bits.toBitVec.getLsbD place) := by
  have hkept : ∀ place < 8, (0x87#8).getLsbD place = decide ¬(3 ≤ place ∧ place ≤ 6) := by decide
  have htrim : ∀ place < 8, (0xF#8).getLsbD place = decide (place < 4) := by decide
  show ((pixel.bits.toBitVec &&& 0x87#8) ||| (trim.toBitVec &&& 0xF#8) <<< 3).getLsbD place = _
  rw [BitVec.getLsbD_or, BitVec.getLsbD_and, BitVec.getLsbD_shiftLeft, BitVec.getLsbD_and,
    hkept place hplace, htrim (place - 3) (by omega), decide_eq_true hplace, Bool.true_and]
  by_cases hbit : 3 ≤ place ∧ place ≤ 6
  · have hlow : ¬place < 3 := by omega
    have hhigh : place - 3 < 4 := by omega
    simp [hbit, hlow, hhigh]
  · have hout : place < 3 ∨ ¬place - 3 < 4 := by omega
    obtain hlow | hhigh := hout
    · simp [hbit, hlow]
    · simp [hbit, hhigh]

/-- **A change sets its own bits and no others.** -/
lemma Change.getLsbD_apply (change : Change) (pixel : Pixel) (hplace : place < 8) :
    (change.apply pixel).bits.toBitVec.getLsbD place =
      (change.bit? place).getD (pixel.bits.toBitVec.getLsbD place) := by
  cases change with
  | raw bits => rfl
  | enabled on => exact pixel.getLsbD_withBit (by decide) on hplace
  | inject on => exact pixel.getLsbD_withBit (by decide) on hplace
  | hitbus on => exact pixel.getLsbD_withBit (by decide) on hplace
  | tdac trim => exact pixel.getLsbD_withTdac trim hplace
  | gain on => exact pixel.getLsbD_withBit (by decide) on hplace

end Pixel

namespace Matrix

/-- A write of a pair or of a pixel. -/
inductive Write where
  | pair (doubleCol row : Nat) (value : UInt16)
  | pixel (col row : Nat) (change : Pixel.Change)

namespace Write

/-- The matrix behind a write, or the cause for which it is refused. -/
def result (matrix : Matrix) : Write → Except AccessError Matrix
  | pair doubleCol row value => matrix.setPair doubleCol row value
  | pixel col row change => matrix.modify col row change.apply

/-- The matrix behind a write.  A refused write leaves it as it was. -/
def apply (matrix : Matrix) (write : Write) : Matrix :=
  match write.result matrix with
  | .ok after => after
  | .error _ => matrix

/-- What a write addresses lies inside of the matrix. -/
def Inside : Write → Prop
  | pair doubleCol row _ => doubleCol < 200 ∧ row < 192
  | pixel col row _ => col < 400 ∧ row < 192

/-- The cause for which a write outside of the matrix is refused. -/
def refusal : Write → AccessError
  | pair doubleCol row _ => .pixelPairOutOfRange doubleCol row
  | pixel col row _ => .pixelOutOfRange col row

/-- How a write changes the pixel at a column and row, if it addresses that pixel.  Of the value for
a pair, the low byte is for the even column. -/
def changeAt? (col row : Nat) : Write → Option Pixel.Change
  | pair doubleCol row' value =>
    if col / 2 = doubleCol ∧ row = row' then some (.raw (half value col).bits) else none
  | pixel col' row' change => if col = col' ∧ row = row' then some change else none

end Write

/-- The matrix behind some writes. -/
def after (matrix : Matrix) (writes : List Write) : Matrix :=
  writes.foldl Write.apply matrix

variable {matrix after : Matrix} {write : Write} {col row : Nat}

/-! ## One write -/

/-- Changing a pixel changes no other. -/
lemma pixel?_modify {col' row' : Nat} {change : Pixel → Pixel}
    (h : matrix.modify col' row' change = .ok after) (col row : Nat) :
    after.pixel? col row =
      if col = col' ∧ row = row' then (matrix.pixel? col row).map change
      else matrix.pixel? col row := by
  unfold modify at h
  by_cases hin : col' < 400 ∧ row' < 192
  · rw [dif_pos hin] at h
    obtain rfl := Except.ok.inj h
    by_cases htarget : col = col' ∧ row = row'
    · obtain ⟨rfl, rfl⟩ := htarget
      rw [if_pos ⟨rfl, rfl⟩, pixel?_of_lt _ hin.1 hin.2, Vector.getElem?_set_self]
      unfold pixel?
      rw [dif_pos hin, Option.map_some]
    · rw [if_neg htarget]
      by_cases hpixel : col < 400 ∧ row < 192
      · have hne : index col' row' ≠ index col row := by
          rw [Ne, index_inj hin.2 hpixel.2]
          exact fun hsame => htarget ⟨hsame.1.symm, hsame.2.symm⟩
        rw [pixel?_of_lt _ hpixel.1 hpixel.2, pixel?_of_lt _ hpixel.1 hpixel.2,
          Vector.getElem?_set_ne _ hne]
      · rw [pixel?_of_outside _ hpixel, pixel?_of_outside _ hpixel]
  · rw [dif_neg hin] at h
    exact absurd h (by simp)

lemma exists_pixel? (matrix : Matrix) (hcol : col < 400) (hrow : row < 192) :
    ∃ pixel, matrix.pixel? col row = some pixel :=
  ⟨_, dif_pos ⟨hcol, hrow⟩⟩

namespace Write

/-- A write inside of the matrix is done. -/
lemma exists_result (matrix : Matrix) (h : write.Inside) :
    ∃ after, write.result matrix = .ok after := by
  cases write with
  | pair doubleCol row value =>
      obtain ⟨after, hset, -⟩ := matrix.exists_setPair h.1 h.2 value
      exact ⟨after, hset⟩
  | pixel col row change => exact ⟨_, dif_pos h⟩

/-- A write outside is refused. -/
lemma result_of_outside (matrix : Matrix) (h : ¬write.Inside) :
    write.result matrix = .error write.refusal := by
  cases write with
  | pair doubleCol row value => exact matrix.setPair_of_outside h value
  | pixel col row change => exact dif_neg h

/-- A write outside of the matrix addresses no pixel of it. -/
lemma changeAt?_of_outside (h : ¬write.Inside) (hcol : col < 400) (hrow : row < 192) :
    write.changeAt? col row = none := by
  cases write with
  | pair doubleCol row' value =>
      refine if_neg fun haddressed => h ?_
      obtain ⟨rfl, rfl⟩ := haddressed
      exact ⟨by omega, hrow⟩
  | pixel col' row' change =>
      refine if_neg fun haddressed => h ?_
      obtain ⟨rfl, rfl⟩ := haddressed
      exact ⟨hcol, hrow⟩

/-- A pixel behind a write that was done: changed if the write addressed it, and else as before. -/
lemma pixel?_of_result (h : write.result matrix = .ok after) (col row : Nat) :
    after.pixel? col row =
      (matrix.pixel? col row).map ((write.changeAt? col row).elim id Pixel.Change.apply) := by
  cases write with
  | pair doubleCol row' value =>
      rw [pixel?_setPair h, changeAt?]
      by_cases haddressed : col / 2 = doubleCol ∧ row = row'
      · have hin : col < 400 ∧ row < 192 := by
          by_contra hout
          have houtside : ¬(pair doubleCol row' value).Inside := by
            rintro ⟨hcol, hrow⟩
            exact hout ⟨by omega, by omega⟩
          rw [result_of_outside matrix houtside] at h
          exact absurd h (by simp)
        obtain ⟨pixel, hpixel⟩ := matrix.exists_pixel? hin.1 hin.2
        rw [if_pos haddressed, if_pos haddressed, hpixel, Option.map_some, Option.elim_some]
        rfl
      · rw [if_neg haddressed, if_neg haddressed, Option.elim_none, Option.map_id, id]
  | pixel col' row' change =>
      rw [pixel?_modify h, changeAt?]
      by_cases haddressed : col = col' ∧ row = row'
      · rw [if_pos haddressed, if_pos haddressed, Option.elim_some]
      · rw [if_neg haddressed, if_neg haddressed, Option.elim_none, Option.map_id, id]

/-- **One write changes the pixels that it addresses and no others**, whether it is done or not. -/
lemma pixel?_apply (matrix : Matrix) (write : Write) (col row : Nat) :
    (write.apply matrix).pixel? col row =
      (matrix.pixel? col row).map ((write.changeAt? col row).elim id Pixel.Change.apply) := by
  by_cases hinside : write.Inside
  · obtain ⟨after, hresult⟩ := exists_result matrix hinside
    rw [apply, hresult]
    exact pixel?_of_result hresult col row
  · rw [apply, result_of_outside matrix hinside]
    by_cases hin : col < 400 ∧ row < 192
    · rw [changeAt?_of_outside hinside hin.1 hin.2, Option.elim_none, Option.map_id, id]
    · rw [matrix.pixel?_of_outside hin, Option.map_none]

end Write

/-! ## Several writes -/

lemma after_cons (matrix : Matrix) (write : Write) (writes : List Write) :
    matrix.after (write :: writes) = (write.apply matrix).after writes := rfl

/-- **A pixel is what the changes that addressed it made of it**, in order. -/
lemma pixel?_after (matrix : Matrix) (writes : List Write) (col row : Nat) :
    (matrix.after writes).pixel? col row =
      (matrix.pixel? col row).map fun pixel =>
        (writes.filterMap (·.changeAt? col row)).foldl (fun pixel change => change.apply pixel)
          pixel := by
  induction writes generalizing matrix with
  | nil => exact Option.map_id'.symm
  | cons write writes ih =>
      rw [after_cons, ih, Write.pixel?_apply, Option.map_map]
      cases hchange : write.changeAt? col row with
      | none =>
          rw [List.filterMap_cons_none hchange]
          rfl
      | some change =>
          rw [List.filterMap_cons_some hchange]
          rfl

lemma pixel?_cleared (h : col < 400 ∧ row < 192) : cleared.pixel? col row = some ⟨0⟩ := by
  rw [pixel?_of_lt _ h.1 h.2]
  exact Vector.getElem?_replicate.trans (if_pos (index_lt h.1 h.2))

/-- A pair as the bytes of its pixels. -/
lemma pair_bytes (even odd : UInt8) :
    UInt16.ofNat (256 * odd.toNat + even.toNat) = odd.toUInt16 <<< 8 ||| even.toUInt16 := by
  have hodd : odd.toNat < 2 ^ 8 := odd.toNat_lt
  have heven : even.toNat < 2 ^ 8 := even.toNat_lt
  have hsum : (256 * odd.toNat + even.toNat) % 2 ^ 16 = 2 ^ 8 * odd.toNat + even.toNat :=
    Nat.mod_eq_of_lt (by omega)
  have hhigh : odd.toNat <<< 8 % 2 ^ 16 = 2 ^ 8 * odd.toNat := by
    rw [Nat.shiftLeft_eq, Nat.mul_comm]
    exact Nat.mod_eq_of_lt (by omega)
  have hshift : (odd.toUInt16 <<< 8).toNat = odd.toNat <<< 8 % 2 ^ 16 := UInt16.toNat_shiftLeft _ _
  rw [← UInt16.toNat_inj, UInt16.toNat_ofNat', hsum, UInt16.toNat_or, hshift, hhigh,
    UInt8.toNat_toUInt16, Nat.two_pow_add_eq_or_of_lt heven]

/-- Pixels and pairs show the writes so far. -/
structure Reflects (writes : List Write) (matrix : Matrix) : Prop where
  /-- A pixel is what the changes that addressed it made of a cleared one, in order. -/
  pixels : ∀ col row, matrix.pixel? col row =
    if col < 400 ∧ row < 192 then
      some ((writes.filterMap (·.changeAt? col row)).foldl (fun pixel change => change.apply pixel)
        ⟨0⟩)
    else none
  /-- A pair is the bytes of its pixels, the odd column in the high one. -/
  pairs : ∀ doubleCol row, doubleCol < 200 → row < 192 →
    ∃ even odd, matrix.pixel? (2 * doubleCol) row = some even ∧
      matrix.pixel? (2 * doubleCol + 1) row = some odd ∧
      matrix.pair doubleCol row = .ok (odd.bits.toUInt16 <<< 8 ||| even.bits.toUInt16)
  outside : ∀ doubleCol row, ¬(doubleCol < 200 ∧ row < 192) →
    matrix.pair doubleCol row = .error (.pixelPairOutOfRange doubleCol row)
  accepts : ∀ write : Write, write.Inside → ∃ after, write.result matrix = .ok after
  /-- A write outside fails and changes nothing. -/
  refuses : ∀ write : Write, ¬write.Inside →
    write.result matrix = .error write.refusal ∧ write.apply matrix = matrix

/-- **Pixels are a faithful store under both views.**  Whatever was written to a cleared matrix, a
pixel shows the changes that addressed it, alone or in a pair, and a pair shows its two pixels.  A
write outside of the matrix fails and changes nothing.  A change of a part of a pixel sets the bits
of that part only. -/
theorem after_reflects_writes (writes : List Write) :
    Reflects writes (cleared.after writes) ∧
      ∀ (change : Pixel.Change) (pixel : Pixel), ∀ place < 8,
        (change.apply pixel).bits.toBitVec.getLsbD place =
          (change.bit? place).getD (pixel.bits.toBitVec.getLsbD place) := by
  refine ⟨⟨?_, ?_, ?_, ?_, ?_⟩, fun change pixel place hplace => change.getLsbD_apply pixel hplace⟩
  · intro col row
    rw [pixel?_after]
    split_ifs with hin
    · rw [pixel?_cleared hin, Option.map_some]
    · rw [pixel?_of_outside _ hin, Option.map_none]
  · intro doubleCol row hcol hrow
    obtain ⟨even, heven⟩ :=
      (cleared.after writes).exists_pixel? (show 2 * doubleCol < 400 by omega) hrow
    obtain ⟨odd, hodd⟩ :=
      (cleared.after writes).exists_pixel? (show 2 * doubleCol + 1 < 400 by omega) hrow
    refine ⟨even, odd, heven, hodd, ?_⟩
    rw [pair_eq, heven, hodd]
    exact congrArg Except.ok (pair_bytes even.bits odd.bits)
  · intro doubleCol row hout
    rw [pair, pairPlaces_eq, dif_neg hout]
  · exact fun write => Write.exists_result _
  · intro write hout
    have hrefused := Write.result_of_outside (cleared.after writes) hout
    exact ⟨hrefused, by rw [Write.apply, hrefused]⟩

end Matrix
end PixelChip

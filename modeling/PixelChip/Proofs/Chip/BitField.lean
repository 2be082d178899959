import PixelChip.Proofs.Chip.Access

/-!
# Bit fields

A field covers a range of the bits of one register.  `SetsField.bit_eq` says what writing it does
to every bit of the registers, and `getLsbD_field` what reading it shows of them.  All else follows
from these two, bit by bit.

Fields are lenses: what was written is read back, the last of several writes wins, and writing back
what was read changes no value.  Fields that share no bit know nothing of each other.  A field may
reach past the end of its register, and the bits there are neither written nor read.
-/

namespace PixelChip

namespace Field

/-- A place of a register belongs to a field. -/
def Covers (field : Field) (place : Nat) : Prop :=
  field.start ≤ place ∧ place < field.start + field.width

instance (field : Field) (place : Nat) : Decidable (field.Covers place) :=
  inferInstanceAs (Decidable (_ ∧ _))

/-- A field begins inside of a register.  It may end outside. -/
structure BeginsInside (field : Field) : Prop where
  address_lt : field.address < 138
  offset_lt : field.offset < 16

/-- Such a field starts at the place that its offset tells. -/
lemma BeginsInside.start_eq {field : Field} (h : field.BeginsInside) :
    field.start = field.offset :=
  Nat.mod_eq_of_lt h.offset_lt

/-- Two fields share no bit. -/
def Disjoint (field other : Field) : Prop :=
  field.address = other.address → ∀ place < 16, ¬(field.Covers place ∧ other.Covers place)

lemma Disjoint.symm {field other : Field} (h : field.Disjoint other) : other.Disjoint field :=
  fun haddress place hplace hboth => h haddress.symm place hplace hboth.symm

/-- A word holds a value in the bits of a field, and what another word holds in all others. -/
def Merges (field : Field) (held value word : UInt16) : Prop :=
  ∀ place < 16, word.toBitVec.getLsbD place =
    if field.Covers place then value.toBitVec.getLsbD (place - field.start)
    else held.toBitVec.getLsbD place

lemma getLsbD_mask (field : Field) {place : Nat} (h : place < 16) :
    field.mask.getLsbD place = decide (place < field.width) := by
  rw [mask, BitVec.getLsbD_setWidth, BitVec.getLsbD_allOnes, decide_eq_true h, Bool.true_and]

/-- Putting a value under the mask of a field merges it into a word. -/
lemma merges_masked (field : Field) (held value : UInt16) :
    field.Merges held value
      (.ofBitVec ((held.toBitVec &&& ~~~(field.mask <<< field.start)) |||
        (value.toBitVec <<< field.start &&& field.mask <<< field.start))) := by
  intro place hplace
  have hback : place - field.start < 16 := by omega
  simp only [BitVec.getLsbD_or, BitVec.getLsbD_and, BitVec.getLsbD_not, BitVec.getLsbD_shiftLeft,
    field.getLsbD_mask hback, hplace, decide_true, Bool.true_and]
  by_cases hstart : place < field.start
  · have hnot : ¬field.Covers place := fun hcovers => absurd hcovers.1 (by omega)
    simp [hnot, hstart]
  · by_cases hwidth : place - field.start < field.width
    · have hcovers : field.Covers place := ⟨by omega, by omega⟩
      simp [hcovers, hstart, hwidth]
    · have hnot : ¬field.Covers place := fun hcovers => absurd hcovers.2 (by omega)
      simp [hnot, hwidth]

end Field

namespace RegisterFile

variable {before after : RegisterFile} {field other : Field} {value : UInt16}

/-- A bit of a register. -/
def bit (registers : RegisterFile) (address place : Nat) : Bool :=
  (registers.get address).toBitVec.getLsbD place

/-- Registers that read alike have the same values. -/
lemma values_eq_of_get_eq (h : ∀ address, after.get address = before.get address) :
    after.values = before.values := by
  refine Vector.ext fun address haddress => ?_
  have hget := h address
  rwa [get, get, Vector.getElem?_eq_getElem haddress, Vector.getElem?_eq_getElem haddress] at hget

/-- Registers with the same bits have the same values. -/
lemma get_eq_of_bit_eq
    (h : ∀ address, ∀ place < 16, after.bit address place = before.bit address place)
    (address : Nat) : after.get address = before.get address :=
  UInt16.toBitVec_inj.1 (BitVec.eq_of_getLsbD_eq fun place hplace => h address place hplace)

/-- A field takes a value, its register is flagged, and everything else stays as it is. -/
structure SetsField (before after : RegisterFile) (field : Field) (value : UInt16) : Prop where
  sets : before.Sets after field.address (after.get field.address)
  merges : field.Merges (before.get field.address) value (after.get field.address)

lemma exists_setField (registers : RegisterFile) (h : field.address < 138) (value : UInt16) :
    ∃ after, registers.setField field value = .ok after ∧
      registers.SetsField after field value := by
  obtain ⟨after, hset, hsets⟩ := registers.exists_sets h
    (.ofBitVec (((registers.get field.address).toBitVec &&& ~~~(field.mask <<< field.start)) |||
      (value.toBitVec <<< field.start &&& field.mask <<< field.start)))
  refine ⟨after, hset, ?_, ?_⟩
  · rwa [hsets.value]
  · rw [hsets.value]
    exact field.merges_masked (registers.get field.address) value

/-! ## Bit by bit -/

/-- The bits of a field take those of the value, and no other bit changes. -/
lemma SetsField.bit_eq (h : before.SetsField after field value) (address : Nat) {place : Nat}
    (hplace : place < 16) :
    after.bit address place =
      if address = field.address ∧ field.Covers place then
        value.toBitVec.getLsbD (place - field.start)
      else before.bit address place := by
  by_cases haddress : address = field.address
  · simp only [haddress, true_and]
    exact h.merges place hplace
  · rw [if_neg fun hin => haddress hin.1, bit, bit, h.sets.other_values address haddress]

lemma SetsField.flag_eq (h : before.SetsField after field value) (address : Nat) :
    after.updated[address]? =
      if address = field.address then some true else before.updated[address]? := by
  by_cases haddress : address = field.address
  · rw [if_pos haddress, haddress, h.sets.flag]
  · rw [if_neg haddress, h.sets.other_flags address haddress]

/-- A field shows the bits of its register from its offset on, as far as the register goes. -/
lemma getLsbD_field (registers : RegisterFile) (field : Field) {place : Nat} (hplace : place < 16) :
    (registers.field field).toBitVec.getLsbD place =
      (registers.bit field.address (field.start + place) && decide (place < field.width)) := by
  show ((registers.get field.address).toBitVec >>> field.start &&& field.mask).getLsbD place = _
  rw [BitVec.getLsbD_and, BitVec.getLsbD_ushiftRight, field.getLsbD_mask hplace, bit]

/-- There are no bits past the end of a register. -/
lemma bit_of_le (registers : RegisterFile) (address : Nat) {place : Nat} (h : 16 ≤ place) :
    registers.bit address place = false :=
  BitVec.getLsbD_of_ge _ _ h

/-! ## Fields as lenses -/

/-- Reading a field after writing it gives the bits of the value that the field has. -/
lemma SetsField.field_eq (h : before.SetsField after field value) :
    (after.field field).toBitVec =
      value.toBitVec &&& field.mask &&& BitVec.allOnes 16 >>> field.start := by
  refine BitVec.eq_of_getLsbD_eq fun place hplace => ?_
  rw [after.getLsbD_field field hplace, BitVec.getLsbD_and, BitVec.getLsbD_and,
    field.getLsbD_mask hplace, BitVec.getLsbD_ushiftRight, BitVec.getLsbD_allOnes]
  by_cases hend : field.start + place < 16
  · rw [h.bit_eq field.address hend, decide_eq_true hend, Bool.and_true]
    by_cases hwidth : place < field.width
    · have hcovers : field.Covers (field.start + place) := ⟨by omega, by omega⟩
      rw [if_pos ⟨rfl, hcovers⟩, Nat.add_sub_cancel_left]
    · rw [decide_eq_false hwidth, Bool.and_false, Bool.and_false]
  · rw [after.bit_of_le field.address (by omega), decide_eq_false hend, Bool.and_false,
      Bool.false_and]

/-- Writing a field that holds the value already changes nothing. -/
lemma SetsField.values_eq (h : before.SetsField after field (before.field field)) :
    after.values = before.values := by
  refine values_eq_of_get_eq (get_eq_of_bit_eq fun address place hplace => ?_)
  rw [h.bit_eq address hplace]
  by_cases hin : address = field.address ∧ field.Covers place
  · obtain ⟨rfl, hstart, hwidth⟩ := hin
    have hback : place - field.start < field.width := by omega
    rw [if_pos ⟨rfl, hstart, hwidth⟩, before.getLsbD_field field (by omega),
      Nat.add_sub_cancel' hstart, decide_eq_true hback, Bool.and_true]
  · rw [if_neg hin]

/-- Registers with the same bits and flags are the same. -/
lemma eq_of_bit_eq
    (hbits : ∀ address, ∀ place < 16, after.bit address place = before.bit address place)
    (hflags : ∀ address : Nat, after.updated[address]? = before.updated[address]?) :
    after = before := by
  have hvalues := values_eq_of_get_eq (get_eq_of_bit_eq hbits)
  have hupdated : after.updated = before.updated := by
    refine Vector.ext fun address haddress => ?_
    have hflag := hflags address
    rwa [Vector.getElem?_eq_getElem haddress, Vector.getElem?_eq_getElem haddress,
      Option.some.injEq] at hflag
  obtain ⟨values, updated⟩ := after
  obtain ⟨values', updated'⟩ := before
  exact congrArg₂ mk hvalues hupdated

/-- The last of two writes of a field wins. -/
lemma SetsField.eq_of_overwrites {between direct : RegisterFile} {value' : UInt16}
    (hfirst : before.SetsField between field value) (hthen : between.SetsField after field value')
    (hdirect : before.SetsField direct field value') : after = direct := by
  refine eq_of_bit_eq (fun address place hplace => ?_) fun address => ?_
  · rw [hthen.bit_eq address hplace, hdirect.bit_eq address hplace, hfirst.bit_eq address hplace]
    split_ifs <;> rfl
  · rw [hthen.flag_eq, hdirect.flag_eq, hfirst.flag_eq]
    split_ifs <;> rfl

/-! ## Two fields -/

/-- A field does not show a write of another with which it shares no bit. -/
lemma SetsField.field_eq_of_disjoint (h : before.SetsField after field value)
    (hdisjoint : field.Disjoint other) : after.field other = before.field other := by
  refine UInt16.toBitVec_inj.1 (BitVec.eq_of_getLsbD_eq fun place hplace => ?_)
  rw [after.getLsbD_field other hplace, before.getLsbD_field other hplace]
  by_cases hwidth : place < other.width
  · by_cases hend : other.start + place < 16
    · have hout : ¬(other.address = field.address ∧ field.Covers (other.start + place)) :=
        fun hin => hdisjoint hin.1.symm _ hend ⟨hin.2, by omega, by omega⟩
      rw [h.bit_eq other.address hend, if_neg hout]
    · rw [after.bit_of_le other.address (by omega), before.bit_of_le other.address (by omega)]
  · rw [decide_eq_false hwidth, Bool.and_false, Bool.and_false]

/-- Writes of fields that share no bit commute. -/
lemma SetsField.comm {between between' after' : RegisterFile} {value' : UInt16}
    (hfield : before.SetsField between field value)
    (hother : between.SetsField after other value')
    (hother' : before.SetsField between' other value')
    (hfield' : between'.SetsField after' field value)
    (hdisjoint : field.Disjoint other) : after = after' := by
  refine eq_of_bit_eq (fun address place hplace => ?_) fun address => ?_
  · rw [hother.bit_eq address hplace, hfield.bit_eq address hplace, hfield'.bit_eq address hplace,
      hother'.bit_eq address hplace]
    by_cases hin : address = field.address ∧ field.Covers place
    · have hout : ¬(address = other.address ∧ other.Covers place) := fun hin' =>
        hdisjoint (hin.1.symm.trans hin'.1) place hplace ⟨hin.2, hin'.2⟩
      rw [if_neg hout, if_pos hin, if_pos hin]
    · rw [if_neg hin, if_neg hin]
  · rw [hother.flag_eq, hfield.flag_eq, hfield'.flag_eq, hother'.flag_eq]
    split_ifs <;> rfl

/-- **Fields are independent lenses.**  A field that begins inside of a register can be written, at
any width.  It then shows the bits of the value that lie inside of both, and no other bit of its
register and no other register changes.  The last of two writes wins, and writing back what the
field shows changes no value.  Two fields without a common bit can be written in either order, and
neither write shows in the other. -/
theorem fields_are_lenses (registers : RegisterFile) {field : Field} (h : field.BeginsInside)
    (value value' : UInt16) :
    ∃ after, registers.setField field value = .ok after ∧
      (after.field field).toBitVec =
        value.toBitVec &&& field.mask &&& BitVec.allOnes 16 >>> field.offset ∧
      (∀ place, ¬field.Covers place →
        after.bit field.address place = registers.bit field.address place) ∧
      (∀ address, address ≠ field.address → after.get address = registers.get address) ∧
      after.setField field value' = registers.setField field value' ∧
      (∃ same, registers.setField field (registers.field field) = .ok same ∧
        same.values = registers.values) ∧
      ∀ other : Field, other.BeginsInside → field.Disjoint other →
        ∃ after' both, registers.setField other value' = .ok after' ∧
          after.field other = registers.field other ∧ after'.field field = registers.field field ∧
          after.setField other value' = .ok both ∧ after'.setField field value = .ok both := by
  obtain ⟨after, hset, hwrite⟩ := registers.exists_setField h.address_lt value
  refine ⟨after, hset, ?_, ?_, hwrite.sets.other_values, ?_, ?_, ?_⟩
  · rw [hwrite.field_eq, h.start_eq]
  · intro place hout
    by_cases hplace : place < 16
    · rw [hwrite.bit_eq field.address hplace, if_neg fun hin => hout hin.2]
    · rw [after.bit_of_le field.address (by omega), registers.bit_of_le field.address (by omega)]
  · obtain ⟨last, hlast, hthen⟩ := after.exists_setField h.address_lt value'
    obtain ⟨direct, hdirect, honce⟩ := registers.exists_setField h.address_lt value'
    rw [hlast, hdirect, hwrite.eq_of_overwrites hthen honce]
  · obtain ⟨same, hsame, hback⟩ :=
      registers.exists_setField h.address_lt (registers.field field)
    exact ⟨same, hsame, hback.values_eq⟩
  · intro other hother hdisjoint
    obtain ⟨after', hset', hwrite'⟩ := registers.exists_setField hother.address_lt value'
    obtain ⟨both, hboth, hthen⟩ := after.exists_setField hother.address_lt value'
    obtain ⟨both', hboth', hthen'⟩ := after'.exists_setField h.address_lt value
    rw [← hwrite.comm hthen hwrite' hthen' hdisjoint] at hboth'
    exact ⟨after', both, hset', hwrite.field_eq_of_disjoint hdisjoint,
      hwrite'.field_eq_of_disjoint hdisjoint.symm, hboth, hboth'⟩

/-- A field of ten bits of which two lie inside of the register, next to the other fourteen. -/
theorem fields_are_lenses_past_the_end :
    (⟨48, 14, 10⟩ : Field).BeginsInside ∧ (⟨48, 0, 14⟩ : Field).BeginsInside ∧
      (⟨48, 14, 10⟩ : Field).Disjoint ⟨48, 0, 14⟩ ∧
      ∃ after, powerOn.setField ⟨48, 14, 10⟩ 0x3FD = .ok after ∧
        after.field ⟨48, 14, 10⟩ = 1 ∧ after.field ⟨48, 0, 14⟩ = 0x3FFF := by
  have hfield : (⟨48, 14, 10⟩ : Field).BeginsInside := ⟨by decide, by decide⟩
  have hother : (⟨48, 0, 14⟩ : Field).BeginsInside := ⟨by decide, by decide⟩
  have hdisjoint : (⟨48, 14, 10⟩ : Field).Disjoint ⟨48, 0, 14⟩ := by
    intro _ place _ hboth
    have hfirst : 14 ≤ place := hboth.1.1
    have hsecond : place < 0 + 14 := hboth.2.2
    omega
  obtain ⟨after, hset, hread, -, -, -, -, hindependent⟩ :=
    powerOn.fields_are_lenses hfield 0x3FD 0
  obtain ⟨-, -, -, hshown, -⟩ := hindependent _ hother hdisjoint
  refine ⟨hfield, hother, hdisjoint, after, hset, UInt16.toBitVec_inj.1 (hread.trans ?_), ?_⟩
  · decide
  · rw [hshown]
    decide +kernel

end RegisterFile
end PixelChip

import PixelChip.Proofs.Command.Grammar

/-!
# Writing and reading back

What a command encodes to is a form of the command that the wire keeps: `onWire` cuts every field
to its width and changes nothing else.  `parse_encode` is the round trip for arbitrary field
values, in any context; for a command that a checking constructor accepts, `onWire` is the
identity.
-/

namespace PixelChip
namespace Command

/-! ## Commands that can be built -/

/-- The command is one that a checking constructor accepts, or has no fields. -/
inductive Checked : Command → Prop where
  | ecr : Checked .ecr
  | bcr : Checked .bcr
  | noop : Checked .noop
  | sync : Checked .sync
  | pulse (chipId length : UInt8) {p : Pulse} (h : Pulse.checked chipId length = .ok p) :
      Checked (.pulse p)
  | cal (chipId edgeDelay edgeWidth auxDelay : UInt8) (edgeMode auxMode : Bool) {c : Cal}
      (h : Cal.checked chipId edgeMode edgeDelay edgeWidth auxMode auxDelay = .ok c) :
      Checked (.cal c)
  | read (chipId : UInt8) (address : UInt16) {r : RegisterRead}
      (h : RegisterRead.checked chipId address = .ok r) : Checked (.read r)
  | write (chipId : UInt8) (address : UInt16) (data : WriteData) {w : RegisterWrite}
      (h : RegisterWrite.checked chipId address data = .ok w) : Checked (.write w)
  | trigger (crossings tag : UInt8) {t : Trigger} (h : Trigger.checked crossings tag = .ok t) :
      Checked (.trigger t)

lemma checkWidth_bind_eq_ok_iff {α : Type} {field : String} {value bits : Nat}
    {next : Except ParseError α} {a : α} :
    (checkWidth field value bits >>= fun _ => next) = .ok a ↔
      value < 1 <<< bits ∧ next = .ok a := by
  rw [checkWidth]
  by_cases h : value < 1 <<< bits
  · rw [if_pos h]
    simp [h, bind, Except.bind]
  · rw [if_neg h]
    simp [h, bind, Except.bind]

/-- A command can be built exactly when no field is too wide. -/
theorem checked_iff_inWidth (command : Command) : command.Checked ↔ command.InWidth := by
  constructor
  · intro h
    cases h with
    | pulse _ _ h =>
        simp only [Pulse.checked, checkWidth_bind_eq_ok_iff] at h
        obtain ⟨hid, hlength, heq⟩ := h
        obtain rfl := Except.ok.inj heq
        exact ⟨hid, hlength⟩
    | cal _ _ _ _ _ _ h =>
        simp only [Cal.checked, checkWidth_bind_eq_ok_iff] at h
        obtain ⟨hid, hdelay, hwidth, haux, heq⟩ := h
        obtain rfl := Except.ok.inj heq
        exact ⟨hid, hdelay, hwidth, haux⟩
    | read _ _ h =>
        simp only [RegisterRead.checked, checkWidth_bind_eq_ok_iff] at h
        obtain ⟨hid, haddress, heq⟩ := h
        obtain rfl := Except.ok.inj heq
        exact ⟨hid, haddress⟩
    | write _ _ _ h =>
        simp only [RegisterWrite.checked, checkWidth_bind_eq_ok_iff] at h
        obtain ⟨hid, haddress, heq⟩ := h
        obtain rfl := Except.ok.inj heq
        exact ⟨hid, haddress⟩
    | _ => trivial
  · intro h
    cases command with
    | pulse p =>
        refine .pulse p.chipId p.length ?_
        simp only [Pulse.checked, checkWidth_bind_eq_ok_iff]
        exact ⟨h.1, h.2, rfl⟩
    | cal c =>
        obtain ⟨hid, hdelay, hwidth, haux⟩ := h
        refine .cal c.chipId c.edgeDelay c.edgeWidth c.auxDelay c.edgeMode c.auxMode ?_
        simp only [Cal.checked, checkWidth_bind_eq_ok_iff]
        exact ⟨hid, hdelay, hwidth, haux, rfl⟩
    | read r =>
        refine .read r.chipId r.address ?_
        simp only [RegisterRead.checked, checkWidth_bind_eq_ok_iff]
        exact ⟨h.1, h.2, rfl⟩
    | write w =>
        refine .write w.chipId w.address w.data ?_
        simp only [RegisterWrite.checked, checkWidth_bind_eq_ok_iff]
        exact ⟨h.1, h.2, rfl⟩
    | trigger t =>
        refine .trigger t.crossings t.tag ?_
        rw [Trigger.checked, dif_pos t.crossings_lt, dif_pos t.crossings_pos, dif_pos t.tag_lt]
    | ecr => exact .ecr
    | bcr => exact .bcr
    | noop => exact .noop
    | sync => exact .sync

/-! ## What the wire keeps -/

/-- The command with every field cut to its width. -/
def onWire : Command → Command
  | pulse p =>
    .pulse { chipId := .ofNat (p.chipId.toNat % 16), length := .ofNat (p.length.toNat % 16) }
  | cal c =>
    .cal
      { c with
        chipId := .ofNat (c.chipId.toNat % 16)
        edgeDelay := .ofNat (c.edgeDelay.toNat % 8)
        edgeWidth := .ofNat (c.edgeWidth.toNat % 64)
        auxDelay := .ofNat (c.auxDelay.toNat % 32) }
  | read r =>
    .read { chipId := .ofNat (r.chipId.toNat % 16), address := .ofNat (r.address.toNat % 512) }
  | write w =>
    .write
      { w with
        chipId := .ofNat (w.chipId.toNat % 16)
        address := .ofNat (w.address.toNat % 512) }
  | command => command

lemma ofNat_mod_of_lt_uint8 {value : UInt8} {bound : Nat} (h : value.toNat < bound) :
    UInt8.ofNat (value.toNat % bound) = value := by
  rw [Nat.mod_eq_of_lt h, UInt8.ofNat_toNat]

lemma ofNat_mod_of_lt_uint16 {value : UInt16} {bound : Nat} (h : value.toNat < bound) :
    UInt16.ofNat (value.toNat % bound) = value := by
  rw [Nat.mod_eq_of_lt h, UInt16.ofNat_toNat]

/-- The wire keeps all of a command whose fields fit. -/
theorem onWire_of_inWidth {command : Command} (h : command.InWidth) : command.onWire = command := by
  cases command with
  | pulse p => simp only [onWire, ofNat_mod_of_lt_uint8 h.1, ofNat_mod_of_lt_uint8 h.2]
  | cal c =>
      obtain ⟨hid, hdelay, hwidth, haux⟩ := h
      simp only [onWire, ofNat_mod_of_lt_uint8 hid, ofNat_mod_of_lt_uint8 hdelay,
        ofNat_mod_of_lt_uint8 hwidth, ofNat_mod_of_lt_uint8 haux]
  | read r => simp only [onWire, ofNat_mod_of_lt_uint8 h.1, ofNat_mod_of_lt_uint16 h.2]
  | write w => simp only [onWire, ofNat_mod_of_lt_uint8 h.1, ofNat_mod_of_lt_uint16 h.2]
  | _ => rfl

/-! ## Writing is a form -/

/-- The symbols of some numbers spell their low five bits. -/
lemma map_encode_eq_spell (values : List Nat) :
    values.map Symbol.encode = Symbol.spell (values.map (Fin.ofNat 32)) := by
  induction values with
  | nil => rfl
  | cons value values ih =>
      rw [List.map_cons, ih, List.map_cons, Symbol.spell_cons, ← Symbol.encode_mod value]
      rfl

/-- Five register values as one number of 80 bits. -/
lemma value_five (v1 v2 v3 v4 v5 : Nat) :
    Numeral.value 65536 [v1, v2, v3, v4, v5] =
      (((v1 * 65536 + v2) * 65536 + v3) * 65536 + v4) * 65536 + v5 := by
  simp [Numeral.value, Nat.mul_comm]

/-- The five values after the first survive their way through sixteen symbols. -/
lemma extendedData_tail (v0 v1 v2 v3 v4 v5 : UInt16) :
    Kind.extendedData v0 ((WriteData.six v0 v1 v2 v3 v4 v5).tail.map (Fin.ofNat 32)) =
      .six v0 v1 v2 v3 v4 v5 := by
  have h1 := v1.toNat_lt
  have h2 := v2.toNat_lt
  have h3 := v3.toNat_lt
  have h4 := v4.toNat_lt
  have h5 := v5.toNat_lt
  have hdigits : ((WriteData.six v0 v1 v2 v3 v4 v5).tail.map (Fin.ofNat 32)).map Fin.val =
      (WriteData.six v0 v1 v2 v3 v4 v5).tail := by
    rw [List.map_map]
    refine (List.map_congr_left fun digit hdigit => ?_).trans (List.map_id _)
    exact Nat.mod_eq_of_lt (Numeral.lt_of_mem_expand (by decide) hdigit)
  have hsize : Numeral.size 32 16 = 2 ^ 80 := by decide
  have hbits : Numeral.value 32
      (((WriteData.six v0 v1 v2 v3 v4 v5).tail.map (Fin.ofNat 32)).map Fin.val) =
        (((v1.toNat * 65536 + v2.toNat) * 65536 + v3.toNat) * 65536 + v4.toNat) * 65536
          + v5.toNat := by
    rw [hdigits, WriteData.tail, Numeral.value_expand, value_five, hsize]
    exact Nat.mod_eq_of_lt (by omega)
  simp only [Kind.extendedData, hbits, Nat.shiftRight_eq_div_pow, WriteData.six.injEq, true_and,
    ← UInt16.toNat_inj, UInt16.toNat_ofNat']
  refine ⟨?_, ?_, ?_, ?_, ?_⟩ <;> omega

/-- A flag in the lowest bit of a symbol. -/
lemma decide_flag (flag : Bool) (n : Nat) : decide ((2 * n + flag.toNat) % 32 % 2 = 1) = flag := by
  cases flag
  · simp only [Bool.toNat_false, decide_eq_false_iff_not]
    omega
  · simp only [Bool.toNat_true, decide_eq_true_eq]
    omega

/-- The first value of a write survives its way through four symbols. -/
lemma firstValue_ofNat (address : Nat) (v : UInt16) :
    Kind.firstValue (Fin.ofNat 32 (2 * (address % 16) + v.toNat / 32768))
      (Fin.ofNat 32 (v.toNat / 1024)) (Fin.ofNat 32 (v.toNat / 32)) (Fin.ofNat 32 v.toNat) = v := by
  have hv := v.toNat_lt
  rw [Kind.firstValue, ← UInt16.toNat_inj, UInt16.toNat_ofNat']
  simp only [Fin.val_ofNat]
  omega

/-- The place of a trigger in the table of patterns, and its tag, give it back. -/
lemma ofPattern_crossings (t : Trigger) (h : t.crossings.toNat - 1 < 15) :
    Trigger.ofPattern ⟨t.crossings.toNat - 1, h⟩ (Fin.ofNat 32 t.tag.toNat) = t := by
  have hcrossings : t.crossings.toNat - 1 + 1 = t.crossings.toNat :=
    Nat.sub_add_cancel t.crossings_pos
  have htag : UInt8.ofNat (t.tag.toNat % 32) = t.tag := ofNat_mod_of_lt_uint8 t.tag_lt
  cases t
  simp only [Trigger.ofPattern, Fin.val_ofNat, hcrossings, UInt8.ofNat_toNat, htag]

/-- The upper four bits of a symbol, next to a flag. -/
lemma upper_nibble (n : Nat) (flag : Bool) : (2 * (n % 16) + flag.toNat) % 32 / 2 = n % 16 := by
  have hflag := flag.toNat_lt
  omega

/-- The upper four bits of a symbol that holds no more. -/
lemma upper_nibble_alone (n : Nat) : 2 * (n % 16) % 32 / 2 = n % 16 :=
  upper_nibble n false

/-- The nine bits of an address from two symbols, of which the second holds one bit more. -/
lemma address_bits (address low : Nat) (h : low < 2) :
    address % 512 / 16 % 32 * 16 + (2 * (address % 16) + low) % 32 / 2 = address % 512 := by
  omega

lemma written_encode_pulse (p : Pulse) :
    Written (encode (.pulse p)) (onWire (.pulse p)) := by
  have hform := Written.pulse (Fin.ofNat 32 (2 * (p.chipId.toNat % 16)))
    (Fin.ofNat 32 (2 * (p.length.toNat % 16)))
  simp only [Fin.val_ofNat, upper_nibble_alone] at hform
  rw [encode, map_encode_eq_spell]
  exact hform

lemma written_encode_cal (c : Cal) : Written (encode (.cal c)) (onWire (.cal c)) := by
  have hform := Written.cal (Fin.ofNat 32 (2 * (c.chipId.toNat % 16) + c.edgeMode.toNat))
    (Fin.ofNat 32 (4 * (c.edgeDelay.toNat % 8) + c.edgeWidth.toNat % 64 / 16))
    (Fin.ofNat 32 (2 * (c.edgeWidth.toNat % 16) + c.auxMode.toNat))
    (Fin.ofNat 32 c.auxDelay.toNat)
  have hdelay : (4 * (c.edgeDelay.toNat % 8) + c.edgeWidth.toNat % 64 / 16) % 32 / 4 =
      c.edgeDelay.toNat % 8 := by
    omega
  have hupper : (4 * (c.edgeDelay.toNat % 8) + c.edgeWidth.toNat % 64 / 16) % 32 % 4 * 16 +
      c.edgeWidth.toNat % 16 = c.edgeWidth.toNat % 64 := by
    omega
  simp only [Fin.val_ofNat, upper_nibble, hdelay, hupper, decide_flag] at hform
  rw [encode, map_encode_eq_spell]
  exact hform

lemma written_encode_read (r : RegisterRead) : Written (encode (.read r)) (onWire (.read r)) := by
  have hform := Written.read (Fin.ofNat 32 (2 * (r.chipId.toNat % 16)))
    (Fin.ofNat 32 (r.address.toNat % 512 / 16)) (Fin.ofNat 32 (2 * (r.address.toNat % 16)))
    (Fin.ofNat 32 0)
  have haddress := address_bits r.address.toNat 0 (by decide)
  simp only [Fin.val_ofNat, upper_nibble_alone, Nat.add_zero] at hform haddress
  rw [haddress] at hform
  rw [encode, map_encode_eq_spell]
  exact hform

lemma written_encode_single (chipId : UInt8) (address v : UInt16) :
    Written (encode (.write ⟨chipId, address, .single v⟩))
      (onWire (.write ⟨chipId, address, .single v⟩)) := by
  have hv := v.toNat_lt
  have hform := Written.single (Fin.ofNat 32 (2 * (chipId.toNat % 16) + false.toNat))
    (Fin.ofNat 32 (address.toNat % 512 / 16))
    (Fin.ofNat 32 (2 * (address.toNat % 16) + v.toNat / 32768))
    (Fin.ofNat 32 (v.toNat / 1024)) (Fin.ofNat 32 (v.toNat / 32)) (Fin.ofNat 32 v.toNat)
    (by simp only [Fin.val_ofNat, Bool.toNat_false]; omega)
  have haddress := address_bits address.toNat (v.toNat / 32768) (by omega)
  simp only [firstValue_ofNat, Fin.val_ofNat, upper_nibble, haddress] at hform
  rw [encode, map_encode_eq_spell, RegisterWrite.symbols, onWire]
  exact hform

lemma written_encode_six (chipId : UInt8) (address v0 v1 v2 v3 v4 v5 : UInt16) :
    Written (encode (.write ⟨chipId, address, .six v0 v1 v2 v3 v4 v5⟩))
      (onWire (.write ⟨chipId, address, .six v0 v1 v2 v3 v4 v5⟩)) := by
  have hv := v0.toNat_lt
  have hform := Written.six (Fin.ofNat 32 (2 * (chipId.toNat % 16) + true.toNat))
    (Fin.ofNat 32 (address.toNat % 512 / 16))
    (Fin.ofNat 32 (2 * (address.toNat % 16) + v0.toNat / 32768))
    (Fin.ofNat 32 (v0.toNat / 1024)) (Fin.ofNat 32 (v0.toNat / 32)) (Fin.ofNat 32 v0.toNat)
    ((WriteData.six v0 v1 v2 v3 v4 v5).tail.map (Fin.ofNat 32))
    (by simp only [Fin.val_ofNat, Bool.toNat_true]; omega)
    (by simp [WriteData.tail])
  have haddress := address_bits address.toNat (v0.toNat / 32768) (by omega)
  simp only [firstValue_ofNat, extendedData_tail, Fin.val_ofNat, upper_nibble, haddress] at hform
  rw [encode, map_encode_eq_spell, RegisterWrite.symbols, onWire]
  simp only [List.map_cons, List.cons_append, List.nil_append, WriteData.first]
  exact hform

lemma written_encode_trigger (t : Trigger) :
    Written (encode (.trigger t)) (onWire (.trigger t)) := by
  have hlt := t.crossings_lt
  have hform := Written.trigger ⟨t.crossings.toNat - 1, by omega⟩ (Fin.ofNat 32 t.tag.toNat)
  rw [ofPattern_crossings] at hform
  rw [encode, ← Symbol.encode_mod]
  exact hform

/-- **What a command encodes to is a form of what the wire keeps of it.** -/
theorem written_encode (command : Command) : Written command.encode command.onWire := by
  cases command with
  | ecr => exact .ecr
  | bcr => exact .bcr
  | noop => exact .noop
  | sync => exact .sync
  | pulse p => exact written_encode_pulse p
  | cal c => exact written_encode_cal c
  | read r => exact written_encode_read r
  | write w =>
      obtain ⟨chipId, address, v | ⟨v0, v1, v2, v3, v4, v5⟩⟩ := w
      · exact written_encode_single chipId address v
      · exact written_encode_six chipId address v0 v1 v2 v3 v4 v5
  | trigger t => exact written_encode_trigger t

/-- **The round trip of a command**, for arbitrary field values and whatever follows. -/
theorem parse_encode (command : Command) (behind : List UInt8) :
    parse (command.encode ++ behind) = .ok (command.onWire, command.encode.length) :=
  parse_eq_ok_iff.2 ⟨command.encode, behind, rfl, written_encode command, rfl⟩

lemma parse_encode_of_inWidth {command : Command} (h : command.InWidth) (behind : List UInt8) :
    parse (command.encode ++ behind) = .ok (command, command.encode.length) := by
  rw [parse_encode, onWire_of_inWidth h]

/-- What the wire keeps of a command is as long as the command. -/
lemma wireLength_onWire (command : Command) : command.onWire.wireLength = command.wireLength := by
  cases command <;> rfl

/-- A command encodes to as many bytes as it occupies on the wire. -/
lemma length_encode (command : Command) : command.encode.length = command.wireLength :=
  (written_encode command).length_eq.trans command.wireLength_onWire

/-- **Parsing undoes encoding**, in any context and for arbitrary field values.  What comes back is
the command with every field cut to its width, which is the command itself if a checking constructor
accepts it. -/
theorem parse_undoes_encode (command : Command) (behind : List UInt8) :
    command.encode.length = command.wireLength ∧
      parse (command.encode ++ behind) = .ok (command.onWire, command.wireLength) ∧
      (command.Checked → command.onWire = command) := by
  refine ⟨command.length_encode, ?_, fun hchecked => ?_⟩
  · rw [parse_encode, length_encode]
  · exact onWire_of_inWidth ((checked_iff_inWidth command).1 hchecked)

/-- A write of six values loses the upper bits of its chip ID and of its address. -/
theorem parse_undoes_encode_of_six :
    let write (chipId : UInt8) (address : UInt16) : Command :=
      .write ⟨chipId, address, .six 0x8001 0x7FFF 3 0xFFFF 0 6⟩
    (write 8 0x1FF).Checked ∧
      (write 8 0x1FF).onWire = write 8 0x1FF ∧
      (write 0xF8 0xFFFF).encode.length = 24 ∧
      parse ((write 0xF8 0xFFFF).encode ++ [0x5A]) = .ok (write 8 0x1FF, 24) := by
  intro write
  have hchecked : (write 8 0x1FF).Checked := .write 8 0x1FF _ rfl
  obtain ⟨hlength, hparse, -⟩ := parse_undoes_encode (write 0xF8 0xFFFF) [0x5A]
  exact ⟨hchecked, (parse_undoes_encode (write 8 0x1FF) []).2.2 hchecked, hlength, hparse⟩

end Command
end PixelChip

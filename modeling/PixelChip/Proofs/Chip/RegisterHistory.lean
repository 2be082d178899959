import PixelChip.Proofs.Checked.Access
import PixelChip.Proofs.Chip.BitField

/-!
# What registers tell of the calls so far

A `Call` writes a register or a field, or drains the flags.  One call changes no register but that
which it addresses (`Call.get_perform_of_ne`).  So a register stays as it is while no call addresses
it (`get_after_of_unwritten`), and holds what the last one that did left there
(`leaves_get_after`).  The flags are followed along the calls in the same way
(`flagged_after_iff`): a register is flagged if a call wrote it and none behind drained the flags.

`Reflects` lists what this says of the registers behind any calls from power-on.

A field may have an offset past the end of its register.  Without checks the offset is counted
around; with them, such a call ends the run, and all others do what they do without
(`Checked.perform_eq`).
-/

namespace PixelChip
namespace RegisterFile

/-- A call that can change registers or their flags. -/
inductive Call where
  | set (address : Nat) (value : UInt16)
  | setField (field : Field) (value : UInt16)
  | drain

/-- What a call answers. -/
inductive Answer where
  | written
  | refused (cause : AccessError)
  | drained (addresses : List Nat)

/-- The answer of a write and the registers behind it.  A refused write leaves them as they were. -/
def ofWrite (registers : RegisterFile) : Except AccessError RegisterFile → Answer × RegisterFile
  | .ok after => (.written, after)
  | .error cause => (.refused cause, registers)

namespace Call

/-- The answer of a call and the registers behind it. -/
def perform (registers : RegisterFile) : Call → Answer × RegisterFile
  | set address value => registers.ofWrite (registers.set address value)
  | setField field value => registers.ofWrite (registers.setField field value)
  | drain => (.drained registers.drain.1, registers.drain.2)

/-- The address of the register that a call writes, if it is a write. -/
def address? : Call → Option Nat
  | set address _ => some address
  | setField field _ => some field.address
  | drain => none

/-- A write leaves its word in a register.  A field is merged into the word held before. -/
def Leaves : Call → (held word : UInt16) → Prop
  | set _ value, _, word => word = value
  | setField field value, held, word => field.Merges held value word
  | drain, _, _ => False

end Call

/-- The registers behind some calls. -/
def after (registers : RegisterFile) (calls : List Call) : RegisterFile :=
  calls.foldl (fun registers call => (call.perform registers).2) registers

/-- A field that the call writes, if any, has an offset inside of a register. -/
def Call.OffsetInside : Call → Prop
  | set _ _ => True
  | setField field _ => field.offset < 16
  | drain => True

instance : DecidablePred Call.OffsetInside
  | .set _ _ => inferInstanceAs (Decidable True)
  | .setField field _ => inferInstanceAs (Decidable (field.offset < 16))
  | .drain => inferInstanceAs (Decidable True)

/-- Some call wrote a register, and none behind it drained the flags. -/
def WrittenSinceDrain (calls : List Call) (address : Nat) : Prop :=
  ∃ before call behind, calls = before ++ call :: behind ∧ call.address? = some address ∧
    Call.drain ∉ behind

/-- Registers show the last write of each address, and draining them shows what was written since
the flags were last drained. -/
structure Reflects (calls : List Call) (registers : RegisterFile) : Prop where
  /-- A register that no call addressed has its value at power-on. -/
  unwritten : ∀ address < 138, (∀ call ∈ calls, call.address? ≠ some address) →
    registers.get address = (powerOnValues.lookup address).getD 0
  /-- Any other has what the last call that addressed it left there. -/
  written : ∀ before call behind address, calls = before ++ call :: behind →
    address < 138 → call.address? = some address →
    (∀ later ∈ behind, later.address? ≠ some address) →
      call.Leaves ((powerOn.after before).get address) (registers.get address)
  outside : ∀ address, 138 ≤ address → registers.get address = 0
  /-- A write fails exactly at an address that no register has, and then changes nothing. -/
  answers : ∀ (call : Call) (address : Nat), call.address? = some address →
    if address < 138 then (call.perform registers).1 = .written
    else call.perform registers = (.refused (.invalidRegisterAddress address), registers)
  drains : ∃ addresses, (Call.drain.perform registers).1 = .drained addresses ∧
    addresses.Pairwise (· < ·) ∧
    (∀ address, address ∈ addresses ↔ address < 138 ∧ WrittenSinceDrain calls address) ∧
    ∀ address, (Call.drain.perform registers).2.get address = registers.get address

variable {registers : RegisterFile} {call : Call} {calls : List Call} {address : Nat}

/-! ## One call -/

namespace Call

/-- A write inside is done. -/
lemma exists_perform_of_lt (registers : RegisterFile) (haddress : call.address? = some address)
    (h : address < 138) :
    ∃ after, call.perform registers = (.written, after) ∧
      registers.Sets after address (after.get address) ∧
      call.Leaves (registers.get address) (after.get address) := by
  cases call with
  | set target value =>
      obtain rfl := Option.some.inj haddress
      obtain ⟨after, hset, hsets⟩ := registers.exists_sets h value
      refine ⟨after, ?_, ?_, hsets.value⟩
      · rw [perform, hset, ofWrite]
      · rwa [hsets.value]
  | setField field value =>
      obtain rfl := Option.some.inj haddress
      obtain ⟨after, hset, hwrite⟩ := registers.exists_setField h value
      refine ⟨after, ?_, hwrite.sets, hwrite.merges⟩
      rw [perform, hset, ofWrite]
  | drain => exact absurd haddress (by simp [address?])

/-- A write outside is refused. -/
lemma perform_of_le (registers : RegisterFile) (haddress : call.address? = some address)
    (h : 138 ≤ address) :
    call.perform registers = (.refused (.invalidRegisterAddress address), registers) := by
  have hset : ∀ value, registers.set address value = .error (.invalidRegisterAddress address) :=
    fun value => dif_neg (Nat.not_lt_of_le h)
  cases call with
  | set target value =>
      obtain rfl := Option.some.inj haddress
      rw [perform, hset, ofWrite]
  | setField field value =>
      obtain rfl := Option.some.inj haddress
      rw [perform, RegisterFile.setField, hset, ofWrite]
  | drain => exact absurd haddress (by simp [address?])

/-- A call that addresses no register has drained the flags. -/
lemma eq_drain_of_address?_eq_none (h : call.address? = none) : call = .drain := by
  cases call with
  | set target value => exact absurd h (by simp [address?])
  | setField field value => exact absurd h (by simp [address?])
  | drain => rfl

/-- A call leaves alone the registers that it does not address. -/
lemma get_perform_of_ne (registers : RegisterFile) (h : call.address? ≠ some address) :
    (call.perform registers).2.get address = registers.get address := by
  cases htarget : call.address? with
  | none =>
      rw [eq_drain_of_address?_eq_none htarget]
      rfl
  | some target =>
      by_cases hlt : target < 138
      · obtain ⟨after, hperform, hsets, -⟩ := exists_perform_of_lt registers htarget hlt
        rw [hperform]
        exact hsets.other_values address fun heq => h (heq ▸ htarget)
      · rw [perform_of_le registers htarget (Nat.le_of_not_lt hlt)]

/-- A register is flagged behind a call that wrote it, and keeps its flag unless that is drained. -/
lemma flagged_perform_iff (registers : RegisterFile) (haddress : address < 138) :
    (call.perform registers).2.updated[address]? = some true ↔
      call.address? = some address ∨
        (registers.updated[address]? = some true ∧ call ≠ .drain) := by
  cases htarget : call.address? with
  | none =>
      obtain rfl := eq_drain_of_address?_eq_none htarget
      have hcleared : (perform registers drain).2.updated[address]? = some false :=
        Vector.getElem?_replicate.trans (if_pos haddress)
      simp [hcleared]
  | some target =>
      have hne : call ≠ .drain := by
        rintro rfl
        exact absurd htarget (by simp [address?])
      by_cases hlt : target < 138
      · obtain ⟨after, hperform, hsets, -⟩ := exists_perform_of_lt registers htarget hlt
        by_cases heq : address = target
        · simp [hperform, heq, hsets.flag]
        · simp [hperform, hsets.other_flags address heq, hne, Ne.symm heq]
      · rw [perform_of_le registers htarget (Nat.le_of_not_lt hlt)]
        have heq : target ≠ address := by omega
        simp [heq, hne]

end Call

/-! ## Several calls -/

lemma after_append (registers : RegisterFile) (calls calls' : List Call) :
    registers.after (calls ++ calls') = (registers.after calls).after calls' :=
  List.foldl_append

lemma after_cons (registers : RegisterFile) (call : Call) (calls : List Call) :
    registers.after (call :: calls) = ((call.perform registers).2).after calls := rfl

/-- A register stays as it is while no call addresses it. -/
lemma get_after_of_unwritten (registers : RegisterFile)
    (h : ∀ call ∈ calls, call.address? ≠ some address) :
    (registers.after calls).get address = registers.get address := by
  induction calls generalizing registers with
  | nil => rfl
  | cons call calls ih =>
      rw [after_cons, ih _ fun later hlater => h later (List.mem_cons_of_mem call hlater),
        Call.get_perform_of_ne registers (h call List.mem_cons_self)]

/-- A register holds what the last call that addressed it left there. -/
lemma leaves_get_after (registers : RegisterFile) (before behind : List Call)
    (haddress : address < 138) (hcall : call.address? = some address)
    (hlater : ∀ later ∈ behind, later.address? ≠ some address) :
    call.Leaves ((registers.after before).get address)
      ((registers.after (before ++ call :: behind)).get address) := by
  obtain ⟨written, hperform, -, hleaves⟩ :=
    Call.exists_perform_of_lt (registers.after before) hcall haddress
  rw [after_append, after_cons, get_after_of_unwritten _ hlater, hperform]
  exact hleaves

lemma not_writtenSinceDrain_nil (address : Nat) : ¬WrittenSinceDrain [] address := by
  rintro ⟨before, call, behind, hcalls, -⟩
  exact absurd hcalls (by simp)

lemma writtenSinceDrain_cons_iff :
    WrittenSinceDrain (call :: calls) address ↔
      (call.address? = some address ∧ Call.drain ∉ calls) ∨ WrittenSinceDrain calls address := by
  constructor
  · rintro ⟨before, write, behind, hcalls, hwrite, hbehind⟩
    obtain _ | ⟨first, before⟩ := before
    · obtain ⟨rfl, rfl⟩ := List.cons.inj hcalls
      exact .inl ⟨hwrite, hbehind⟩
    · obtain ⟨-, rfl⟩ := List.cons.inj hcalls
      exact .inr ⟨before, write, behind, rfl, hwrite, hbehind⟩
  · rintro (⟨hwrite, hbehind⟩ | ⟨before, write, behind, rfl, hwrite, hbehind⟩)
    · exact ⟨[], call, calls, rfl, hwrite, hbehind⟩
    · exact ⟨call :: before, write, behind, rfl, hwrite, hbehind⟩

/-- **What is flagged behind some calls**: what they wrote since they drained the flags, and, if
they did not, what was flagged before. -/
lemma flagged_after_iff (registers : RegisterFile) (haddress : address < 138) :
    (registers.after calls).updated[address]? = some true ↔
      WrittenSinceDrain calls address ∨
        (registers.updated[address]? = some true ∧ Call.drain ∉ calls) := by
  induction calls generalizing registers with
  | nil => simp [after, not_writtenSinceDrain_nil]
  | cons call calls ih =>
      rw [after_cons, ih, Call.flagged_perform_iff registers haddress, writtenSinceDrain_cons_iff,
        List.mem_cons]
      tauto

/-! ## Draining -/

lemma mem_drain_iff (registers : RegisterFile) (address : Nat) :
    address ∈ registers.drain.1 ↔
      address < 138 ∧ registers.updated[address]? = some true := by
  have hflag : registers.updated[address]?.getD false = true ↔
      registers.updated[address]? = some true := by
    cases registers.updated[address]? with
    | none => simp
    | some flag => simp
  rw [drain, List.mem_filter, List.mem_range, hflag]

lemma pairwise_drain (registers : RegisterFile) : registers.drain.1.Pairwise (· < ·) :=
  List.pairwise_lt_range.filter _

end RegisterFile

/-! ## Calls under checks -/

namespace Checked

open RegisterFile

/-- The answer of a call and the registers behind it. -/
def perform (registers : RegisterFile) : Call → Option (Answer × RegisterFile)
  | .set address value => return registers.ofWrite (registers.set address value)
  | .setField field value => do
    let written ← setField registers field value
    return registers.ofWrite written
  | .drain => return (.drained registers.drain.1, registers.drain.2)

/-- The registers behind some calls. -/
def after (registers : RegisterFile) (calls : List Call) : Option RegisterFile :=
  calls.foldlM (fun registers call => (perform registers call).map Prod.snd) registers

/-- A call that is not stopped by a check does what it does without. -/
theorem perform_eq (registers : RegisterFile) (call : Call) :
    perform registers call =
      if call.OffsetInside then some (call.perform registers) else none := by
  cases call with
  | setField field value =>
      rw [perform, setField_eq]
      show _ = if field.offset < 16 then _ else none
      split_ifs <;> rfl
  | set address value => rfl
  | drain => rfl

/-- **The checks stop a run** at the first offset outside of a register, and change none without. -/
theorem after_eq (registers : RegisterFile) (calls : List Call) :
    after registers calls =
      if ∀ call ∈ calls, call.OffsetInside then some (registers.after calls) else none := by
  induction calls generalizing registers with
  | nil => rfl
  | cons call calls ih =>
      rw [after, List.foldlM_cons, perform_eq]
      simp only [List.forall_mem_cons]
      by_cases hcall : call.OffsetInside
      · rw [if_pos hcall, Option.map_some, Option.bind_eq_bind, Option.bind_some]
        simp only [hcall, true_and]
        exact ih (call.perform registers).2
      · rw [if_neg hcall, if_neg fun hall => hcall hall.1]
        rfl

end Checked

namespace RegisterFile

variable {registers : RegisterFile} {calls : List Call} {address : Nat}

/-! ## From power-on -/

lemma get_powerOn (h : address < 138) :
    powerOn.get address = (powerOnValues.lookup address).getD 0 := by
  have hvalue : powerOn.values[address]? = some ((powerOnValues.lookup address).getD 0) :=
    Vector.getElem?_ofFn.trans (dif_pos h)
  rw [get, hvalue, Option.getD_some]

lemma flagged_powerOn_iff : powerOn.updated[address]? = some true ↔ False := by
  simp [powerOn, Vector.getElem?_replicate]

lemma get_of_le (registers : RegisterFile) (h : 138 ≤ address) : registers.get address = 0 := by
  rw [get, Vector.getElem?_eq_none h, Option.getD_none]

/-- **Registers are a faithful store with an exact record of changes.**  Whatever calls were made
since power-on, an address shows the last word that was written to it, a write fails exactly where
there is no register and then changes nothing, and draining the flags lists in ascending order the
addresses that were written since the last time.  This includes fields with an offset past the end
of a register, which is counted around.  Where shifts are checked, a call that writes such a field
ends the run, and every run without such calls goes through and leaves the same registers. -/
theorem after_reflects_calls (calls : List Call) :
    Reflects calls (powerOn.after calls) ∧
      Checked.after powerOn calls =
        if ∀ call ∈ calls, call.OffsetInside then some (powerOn.after calls) else none := by
  refine ⟨?_, Checked.after_eq powerOn calls⟩
  constructor
  case unwritten =>
    intro address haddress hcalls
    rw [get_after_of_unwritten powerOn hcalls, get_powerOn haddress]
  case written =>
    intro before call behind address hsplit haddress hcall hlater
    rw [hsplit]
    exact leaves_get_after powerOn before behind haddress hcall hlater
  case outside => exact fun address h => get_of_le _ h
  case answers =>
    intro call address hcall
    split_ifs with haddress
    · obtain ⟨written, hperform, -⟩ :=
        Call.exists_perform_of_lt (powerOn.after calls) hcall haddress
      rw [hperform]
    · exact Call.perform_of_le _ hcall (Nat.le_of_not_lt haddress)
  case drains =>
    refine ⟨_, rfl, pairwise_drain _, fun address => ?_, fun address => ?_⟩
    · rw [mem_drain_iff]
      refine and_congr_right fun haddress => ?_
      rw [flagged_after_iff powerOn haddress, flagged_powerOn_iff, false_and, or_false]
    · have hnone : Call.drain.address? ≠ some address := by simp [Call.address?]
      exact Call.get_perform_of_ne _ hnone

-- An offset of 17 is counted around to 1, and stops a run under checks.
example : (powerOn.after [.setField ⟨0, 17, 1⟩ 1]).get 0 = 2 ∧
    (Checked.after powerOn [.setField ⟨0, 17, 1⟩ 1]).isNone := by
  decide +kernel

end RegisterFile
end PixelChip

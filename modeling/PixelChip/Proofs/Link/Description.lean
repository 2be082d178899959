import PixelChip.Proofs.Link.LawfulPacket
import PixelChip.Proofs.Text.Digits

/-!
# What describes an item is one line

Commands and frames are described without line breaks, whatever their fields hold.  So are the
causes for which bytes are refused: the only text in a cause that comes from elsewhere is the name
of a field out of range, and no parser reports that, since the fields that it reads are as wide as
the wire.
-/

namespace PixelChip

open Text

/-! ## Items -/

@[simp]
lemma Text.newline_not_mem_flag (b : Bool) : '\n' ∉ (flag b).toList := by
  cases b <;> simp [flag]

@[simp]
lemma WriteData.newline_not_mem_text (data : WriteData) : '\n' ∉ data.text.toList := by
  simp [text]

theorem Command.newline_not_mem_text (command : Command) : '\n' ∉ command.text.toList := by
  unfold text
  cases command <;> simp

@[simp]
lemma Aurora.newline_not_mem_describe (code : UInt8) : '\n' ∉ (Aurora.describe code).toList := by
  unfold Aurora.describe
  split_ifs <;> simp

@[simp]
lemma RegisterFrame.newline_not_mem_statusText (frame : RegisterFrame) :
    '\n' ∉ frame.statusText.toList := by
  unfold statusText
  split <;> simp

lemma RegisterSlot.newline_not_mem_text {place : String} (hplace : '\n' ∉ place.toList)
    (slot : RegisterSlot) : '\n' ∉ (slot.text place).toList := by
  unfold text
  split_ifs <;> simp [hplace]

@[simp]
lemma RegisterFrame.newline_not_mem_text (frame : RegisterFrame) : '\n' ∉ frame.text.toList := by
  unfold text
  simp [RegisterSlot.newline_not_mem_text]

@[simp]
lemma SubFrame.newline_not_mem_text (sub : SubFrame) : '\n' ∉ sub.text.toList := by
  unfold text
  cases sub with
  | header h => simp
  | hit h => simp [not_mem_intercalate]

theorem Frame.newline_not_mem_text (frame : Frame) : '\n' ∉ frame.text.toList := by
  unfold text
  cases frame with
  | register r => exact r.newline_not_mem_text
  | data d =>
      have hfirst : '\n' ∉ (d.first.elim "Syn" SubFrame.text).toList := by
        cases d.first with
        | none => simp
        | some sub => exact sub.newline_not_mem_text
      simp [hfirst]
  | blank => simp

/-! ## Causes -/

namespace ParseError

/-- A cause that is found in bytes.  A field out of range is not: only a value that is still to be
written can have one. -/
def FoundInBytes : ParseError → Prop
  | fieldOutOfRange .. => False
  | _ => True

lemma FoundInBytes.newline_not_mem_message {cause : ParseError} (h : cause.FoundInBytes) :
    '\n' ∉ cause.message.toList := by
  unfold message
  cases cause with
  | fieldOutOfRange field value max => exact absurd h id
  | _ => simp

end ParseError

theorem Command.foundInBytes_of_parse {src : List UInt8} {cause : ParseError}
    (h : parse src = .error cause) : cause.FoundInBytes := by
  obtain _ | ⟨first, rest⟩ := src
  · cases h
    trivial
  · rw [parse_cons] at h
    cases hkind : Kind.ofFirst? first with
    | none =>
        rw [hkind] at h
        cases h
        trivial
    | some kind =>
        simp only [hkind, Kind.verdict] at h
        split_ifs at h
        · obtain ⟨length, -, -, rfl⟩ | ⟨offset, hlt, rfl, -⟩ :=
            Reader.run_error (Kind.within_reader first kind) (Nat.zero_le _) h
          · trivial
          · trivial
        · cases h
          trivial

theorem Frame.foundInBytes_of_parse {src : List UInt8} {cause : ParseError}
    (h : parse src = .error cause) : cause.FoundInBytes := by
  unfold parse at h
  split_ifs at h
  · cases h
    trivial
  · cases h
    trivial

end PixelChip

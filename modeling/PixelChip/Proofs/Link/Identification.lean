import PixelChip.Proofs.Command.Grammar
import PixelChip.Proofs.Frame.Reencoding
import PixelChip.Proofs.Text.Fields

/-!
# Items are known by their text

Two items of the same description are the same item.  The first letter of a description gives the
kind of the item, and the labels between the fields of a kind are always the same, so that a
description is taken apart field by field.

For commands and register frames this holds whatever the fields hold.  A hit is described by its
position, which gives its core column, core row and region back only if the region is within its
width.  That is so for every frame that is read.
-/

namespace PixelChip

open Text

lemma Text.flag_eq (b : Bool) : flag b = decimal b.toNat := by
  cases b <;> rfl

lemma Text.bool_inj {a b : Bool} (h : a.toNat = b.toNat) : a = b := by
  revert h
  cases a <;> cases b <;> decide

/-! ## Commands -/

namespace Command

/-- The letter that a description starts with. -/
def initial : Command → Char
  | ecr => 'E'
  | bcr => 'B'
  | noop => 'N'
  | sync => 'S'
  | pulse _ => 'P'
  | cal _ => 'C'
  | read _ => 'R'
  | write _ => 'W'
  | trigger _ => 'T'

lemma head?_text (command : Command) : command.text.toList.head? = some command.initial := by
  unfold text
  cases command <;> simp [initial]

lemma pulse_text_inj {p p' : Pulse} (h : (pulse p).text = (pulse p').text) : p = p' := by
  unfold text at h
  have h := congrArg String.toList h
  simp only [String.toList_append, List.append_assoc, String.reduceToList] at h
  obtain ⟨hchip, h⟩ := isNumeral_decimal.label_inj (by decide) (List.append_cancel_left h)
  have hlength := isNumeral_decimal.injective _ _ h
  cases p
  cases p'
  simp_all [UInt8.toNat_inj]

lemma cal_text_inj {c c' : Cal} (h : (cal c).text = (cal c').text) : c = c' := by
  unfold text at h
  have h := congrArg String.toList h
  simp only [flag_eq, String.toList_append, List.append_assoc, String.reduceToList] at h
  obtain ⟨hchip, h⟩ := isNumeral_decimal.label_inj (by decide) (List.append_cancel_left h)
  obtain ⟨hedgeMode, h⟩ := isNumeral_decimal.label_inj (by decide) h
  obtain ⟨hedgeDelay, h⟩ := isNumeral_decimal.label_inj (by decide) h
  obtain ⟨hedgeWidth, h⟩ := isNumeral_decimal.label_inj (by decide) h
  obtain ⟨hauxMode, h⟩ := isNumeral_decimal.label_inj (by decide) h
  have hauxDelay := isNumeral_decimal.injective _ _ h
  have hedgeMode := bool_inj hedgeMode
  have hauxMode := bool_inj hauxMode
  cases c
  cases c'
  simp_all [UInt8.toNat_inj]

lemma read_text_inj {r r' : RegisterRead} (h : (read r).text = (read r').text) : r = r' := by
  unfold text at h
  have h := congrArg String.toList h
  simp only [String.toList_append, List.append_assoc, String.reduceToList] at h
  obtain ⟨hchip, h⟩ := isNumeral_decimal.label_inj (by decide) (List.append_cancel_left h)
  have haddress := (isNumeral_hex 3).injective _ _ h
  cases r
  cases r'
  simp_all [UInt8.toNat_inj, UInt16.toNat_inj]

lemma trigger_text_inj {t t' : Trigger} (h : (trigger t).text = (trigger t').text) : t = t' := by
  unfold text at h
  have h := congrArg String.toList h
  simp only [String.toList_append, List.append_assoc, String.reduceToList] at h
  obtain ⟨-, h⟩ := (isNumeral_hex 2).label_inj (by decide) (List.append_cancel_left h)
  obtain ⟨hcrossings, h⟩ := (isNumeral_binary 4).label_inj (by decide) h
  have htag := isNumeral_decimal.injective _ _ h
  cases t
  cases t'
  simp_all [UInt8.toNat_inj]

/-- The values of a write are known by their text, if it is known how many they are. -/
lemma values_inj {values values' : List UInt16} (hlength : values.length = values'.length)
    (h : (values.flatMap fun value => [' ', '0', 'x'] ++ (hex 4 value.toNat).toList) =
      values'.flatMap fun value => [' ', '0', 'x'] ++ (hex 4 value.toNat).toList) :
    values = values' := by
  have hstops : ∀ values : List UInt16,
      Stops (values.flatMap fun value => [' ', '0', 'x'] ++ (hex 4 value.toNat).toList) := by
    intro values
    cases values with
    | nil => exact stops_nil
    | cons value values => exact stops_cons (by decide) _
  induction values generalizing values' with
  | nil => exact (List.length_eq_zero_iff.1 hlength.symm).symm
  | cons value values ih =>
      obtain _ | ⟨value', values'⟩ := values'
      · exact absurd hlength (by simp)
      · simp only [List.flatMap_cons, List.append_assoc] at h
        obtain ⟨hvalue, hrest⟩ := (isNumeral_hex 4).append_inj (hstops values) (hstops values')
          (List.append_cancel_left h)
        rw [UInt16.toNat_inj.1 hvalue, ih (by simpa using hlength) hrest]

lemma toList_writeData (data : WriteData) : data.text.toList =
    data.values.flatMap fun value => [' ', '0', 'x'] ++ (hex 4 value.toNat).toList := by
  rw [WriteData.text, String.toList_join, List.flatMap_map]
  simp

lemma write_text_inj {w w' : RegisterWrite} (h : (write w).text = (write w').text) : w = w' := by
  unfold text at h
  have h := congrArg String.toList h
  simp only [flag_eq, String.toList_append, List.append_assoc, String.reduceToList] at h
  obtain ⟨hchip, h⟩ := isNumeral_decimal.label_inj (by decide) (List.append_cancel_left h)
  obtain ⟨hmode, h⟩ := isNumeral_decimal.label_inj (by decide) h
  obtain ⟨haddress, h⟩ := (isNumeral_hex 3).label_inj (by decide) h
  -- the mode says how many values there are
  have hlength : w.data.values.length = w'.data.values.length := by
    revert hmode
    cases w.data <;> cases w'.data <;> simp [WriteData.isExtended, WriteData.values]
  rw [toList_writeData, toList_writeData] at h
  have hvalues := values_inj hlength h
  have hdata : w.data = w'.data := by
    revert hvalues
    cases w.data <;> cases w'.data <;> simp [WriteData.values]
  cases w
  cases w'
  simp_all [UInt8.toNat_inj, UInt16.toNat_inj]

/-- **Different commands have different texts.** -/
theorem text_injective : Function.Injective text := by
  intro command command' h
  have hinitial : command.initial = command'.initial := by
    have hhead := congrArg (fun line => line.toList.head?) h
    simpa only [head?_text, Option.some.injEq] using hhead
  cases command with
  | ecr =>
      cases command' with
      | ecr => rfl
      | _ => exact absurd hinitial (by simp [initial])
  | bcr =>
      cases command' with
      | bcr => rfl
      | _ => exact absurd hinitial (by simp [initial])
  | noop =>
      cases command' with
      | noop => rfl
      | _ => exact absurd hinitial (by simp [initial])
  | sync =>
      cases command' with
      | sync => rfl
      | _ => exact absurd hinitial (by simp [initial])
  | pulse p =>
      cases command' with
      | pulse p' => rw [pulse_text_inj h]
      | _ => exact absurd hinitial (by simp [initial])
  | cal c =>
      cases command' with
      | cal c' => rw [cal_text_inj h]
      | _ => exact absurd hinitial (by simp [initial])
  | read r =>
      cases command' with
      | read r' => rw [read_text_inj h]
      | _ => exact absurd hinitial (by simp [initial])
  | write w =>
      cases command' with
      | write w' => rw [write_text_inj h]
      | _ => exact absurd hinitial (by simp [initial])
  | trigger t =>
      cases command' with
      | trigger t' => rw [trigger_text_inj h]
      | _ => exact absurd hinitial (by simp [initial])

end Command

/-! ## Frames -/

/-- The row of a hit is made of its core row and the row within the core. -/
lemma Hit.row_eq {hit : Hit} (h : hit.coreRegion.toNat < 16) :
    hit.row = 8 * hit.coreRow.toNat + hit.coreRegion.toNat / 2 := by
  have hlow : hit.coreRegion.toNat / 2 < 2 ^ 3 := Nat.div_lt_of_lt_mul h
  exact (Nat.two_pow_add_eq_or_of_lt hlow hit.coreRow.toNat).symm

/-- A hit is known by the position of its first pixel and the times of its pixels. -/
lemma Hit.eq_of_position {hit hit' : Hit} (hregion : hit.coreRegion.toNat < 16)
    (hregion' : hit'.coreRegion.toNat < 16) (hcol : hit.col 0 = hit'.col 0)
    (hrow : hit.row = hit'.row) (htots : hit.tots = hit'.tots) : hit = hit' := by
  rw [Hit.row_eq hregion, Hit.row_eq hregion'] at hrow
  simp only [Hit.col, Hit.quadCol] at hcol
  have hcoreCol : hit.coreCol = hit'.coreCol := UInt8.toNat_inj.1 (by omega)
  have hcoreRow : hit.coreRow = hit'.coreRow := UInt8.toNat_inj.1 (by omega)
  have hcoreRegion : hit.coreRegion = hit'.coreRegion := UInt8.toNat_inj.1 (by omega)
  cases hit
  cases hit'
  simp_all

namespace SubFrame

lemma header_text_append_inj {e e' : EventHeader} {rest rest' : List Char} (hrest : Stops rest)
    (hrest' : Stops rest')
    (h : (header e).text.toList ++ rest = (header e').text.toList ++ rest') :
    e = e' ∧ rest = rest' := by
  unfold text at h
  simp only [String.toList_append, List.append_assoc, String.reduceToList] at h
  obtain ⟨hid, h⟩ := isNumeral_decimal.label_inj (by decide) (List.append_cancel_left h)
  obtain ⟨htag, h⟩ := isNumeral_decimal.label_inj (by decide) h
  obtain ⟨hbcid, h⟩ := isNumeral_decimal.append_inj hrest hrest' h
  cases e
  cases e'
  simp_all [UInt8.toNat_inj, UInt16.toNat_inj]

lemma hit_text_append_inj {q q' : Hit} (hq : (hit q).InWidth) (hq' : (hit q').InWidth)
    {rest rest' : List Char}
    (h : (hit q).text.toList ++ rest = (hit q').text.toList ++ rest') :
    q = q' ∧ rest = rest' := by
  unfold text at h
  simp only [Quad.toList, List.map_cons, List.map_nil, String.intercalate_cons_cons,
    String.intercalate_singleton, String.toList_append, List.append_assoc, String.reduceToList] at h
  obtain ⟨hcol, h⟩ := isNumeral_decimal.label_inj (by decide) (List.append_cancel_left h)
  obtain ⟨hrow, h⟩ := isNumeral_decimal.label_inj (by decide) h
  obtain ⟨h0, h⟩ := isNumeral_decimal.label_inj (by decide) h
  obtain ⟨h1, h⟩ := isNumeral_decimal.label_inj (by decide) h
  obtain ⟨h2, h⟩ := isNumeral_decimal.label_inj (by decide) h
  obtain ⟨h3, h⟩ := isNumeral_decimal.label_inj (by decide) h
  have htots : q.tots = q'.tots := by
    cases htots : q.tots
    cases htots' : q'.tots
    simp_all [UInt8.toNat_inj]
  exact ⟨Hit.eq_of_position hq.2.2.1 hq'.2.2.1 hcol hrow htots, h⟩

/-- The second letter of a description. -/
lemma getElem?_text (sub : SubFrame) (rest : List Char) :
    (sub.text.toList ++ rest)[1]? = some (match sub with | header _ => 'd' | hit _ => 'i') := by
  unfold text
  cases sub <;> simp

/-- **Different sub-frames have different texts**, whatever follows them. -/
lemma text_append_inj {sub sub' : SubFrame} (hsub : sub.InWidth) (hsub' : sub'.InWidth)
    {rest rest' : List Char} (hrest : Stops rest) (hrest' : Stops rest')
    (h : sub.text.toList ++ rest = sub'.text.toList ++ rest') : sub = sub' ∧ rest = rest' := by
  have hletter := congrArg (·[1]?) h
  simp only [getElem?_text, Option.some.injEq] at hletter
  cases sub with
  | header e =>
      cases sub' with
      | header e' =>
          obtain ⟨rfl, hrest⟩ := header_text_append_inj hrest hrest' h
          exact ⟨rfl, hrest⟩
      | hit q' => exact absurd hletter (by simp)
  | hit q =>
      cases sub' with
      | header e' => exact absurd hletter (by simp)
      | hit q' =>
          obtain ⟨rfl, hrest⟩ := hit_text_append_inj hsub hsub' h
          exact ⟨rfl, hrest⟩

end SubFrame

/-- The text in the first place of a data frame, a sub-frame or the sync filler. -/
lemma DataFrame.first_text_append_inj {first first' : Option SubFrame}
    (hfirst : ∀ sub ∈ first, sub.InWidth) (hfirst' : ∀ sub ∈ first', sub.InWidth)
    {rest rest' : List Char} (hrest : Stops rest) (hrest' : Stops rest')
    (h : (first.elim "Syn" SubFrame.text).toList ++ rest =
      (first'.elim "Syn" SubFrame.text).toList ++ rest') : first = first' ∧ rest = rest' := by
  have hletter := congrArg (·[1]?) h
  cases first with
  | none =>
      cases first' with
      | none => exact ⟨rfl, List.append_cancel_left h⟩
      | some sub' =>
          rw [Option.elim_some, SubFrame.getElem?_text] at hletter
          cases sub' <;> simp at hletter
  | some sub =>
      cases first' with
      | none =>
          rw [Option.elim_some, SubFrame.getElem?_text] at hletter
          cases sub <;> simp at hletter
      | some sub' =>
          obtain ⟨rfl, hrest⟩ := SubFrame.text_append_inj (hfirst sub rfl) (hfirst' sub' rfl) hrest
            hrest' h
          exact ⟨rfl, hrest⟩

lemma DataFrame.text_inj {d d' : DataFrame} (hd : (Frame.data d).InWidth)
    (hd' : (Frame.data d').InWidth) (h : (Frame.data d).text = (Frame.data d').text) : d = d' := by
  unfold Frame.text at h
  have h := congrArg String.toList h
  simp only [String.toList_append, List.append_assoc, String.reduceToList] at h
  have hstops : ∀ rest, Stops ([' ', '|', ' '] ++ rest) := stops_cons (by decide)
  obtain ⟨hfirst, h⟩ := DataFrame.first_text_append_inj hd.1 hd'.1 (hstops _) (hstops _)
    (List.append_cancel_left h)
  have h := List.append_cancel_left h
  rw [← List.append_nil d.second.text.toList, ← List.append_nil d'.second.text.toList] at h
  obtain ⟨hsecond, -⟩ := SubFrame.text_append_inj hd.2 hd'.2 stops_nil stops_nil h
  cases d
  cases d'
  simp_all

namespace RegisterSlot

/-- The mark of a slot that the cursor chose, in front of what does not start with a blank. -/
lemma mark_append_inj {auto auto' : Bool} {rest rest' : List Char} (hrest : ' ' ∉ rest.head?)
    (hrest' : ' ' ∉ rest'.head?)
    (h : (if auto then " (auto)" else "").toList ++ rest =
      (if auto' then " (auto)" else "").toList ++ rest') : auto = auto' ∧ rest = rest' := by
  cases auto <;> cases auto'
  · exact ⟨rfl, h⟩
  · simp only [Bool.false_eq_true, if_false, if_true, String.reduceToList, List.nil_append] at h
    exact absurd (by simp [h]) hrest
  · simp only [Bool.false_eq_true, if_false, if_true, String.reduceToList, List.nil_append] at h
    exact absurd (by simp [← h]) hrest'
  · exact ⟨rfl, List.append_cancel_left h⟩

lemma text_append_inj {slot slot' : RegisterSlot} (place : String) {rest rest' : List Char}
    (hrest : Stops rest) (hrest' : Stops rest') (hblank : ' ' ∉ rest.head?)
    (hblank' : ' ' ∉ rest'.head?)
    (h : (slot.text place).toList ++ rest = (slot'.text place).toList ++ rest') :
    slot = slot' ∧ rest = rest' := by
  have hmark : ∀ (auto : Bool) {rest : List Char}, Stops rest →
      Stops ((if auto then " (auto)" else "").toList ++ rest) := by
    intro auto rest hrest
    cases auto with
    | true =>
        simp only [if_true, String.reduceToList]
        exact stops_cons (by decide) _
    | false => simpa using hrest
  unfold text at h
  simp only [String.toList_append, List.append_assoc, String.reduceToList] at h
  have h := List.append_cancel_left (List.append_cancel_left (List.append_cancel_left h))
  obtain ⟨haddress, h⟩ := (isNumeral_hex 3).label_inj (by decide) h
  have h := List.append_cancel_left (List.append_cancel_left h)
  obtain ⟨hvalue, h⟩ := (isNumeral_hex 4).append_inj (hmark _ hrest) (hmark _ hrest') h
  obtain ⟨hauto, h⟩ := mark_append_inj hblank hblank' h
  refine ⟨?_, h⟩
  cases slot
  cases slot'
  simp_all [UInt16.toNat_inj]

lemma head?_text (slot : RegisterSlot) (place : String) :
    (slot.text place).toList.head? = some ',' := by
  unfold text
  simp

/-- A slot ends a number in front of it. -/
lemma stops_text (slot : RegisterSlot) (place : String) : Stops (slot.text place).toList := by
  intro c hc
  rw [head?_text] at hc
  obtain rfl : ',' = c := Option.some.inj hc
  decide

lemma blank_notMem_head?_text (slot : RegisterSlot) (place : String) :
    ' ' ∉ (slot.text place).toList.head? := by
  rw [head?_text]
  decide

end RegisterSlot

namespace RegisterFrame

/-- The code of a frame tells whether it has the error flag. -/
lemma auroraCode_eq_error_iff (frame : RegisterFrame) :
    frame.auroraCode = Aurora.error ↔ frame.error = true := by
  unfold auroraCode
  split_ifs with herror
  · simp [herror]
  · simp only [herror]
    split <;> decide

lemma text_inj {r r' : RegisterFrame} (h : (Frame.register r).text = (Frame.register r').text) :
    r = r' := by
  unfold Frame.text at h
  have h : r.text.toList = r'.text.toList := congrArg String.toList h
  unfold text at h
  simp only [String.toList_append, List.append_assoc, String.reduceToList] at h
  obtain ⟨hcode, h⟩ := (isNumeral_hex 2).label_inj (by decide) (List.append_cancel_left h)
  have hcode := UInt8.toNat_inj.1 hcode
  rw [hcode] at h
  have h := List.append_cancel_left (List.append_cancel_left h)
  obtain ⟨hstatus, h⟩ := (isNumeral_hex 1).label_inj (by decide) h
  have hwords : r.statusText = r'.statusText := by
    rw [statusText, statusText, hstatus]
  rw [hwords] at h
  have h := List.append_cancel_left (List.append_cancel_left h)
  -- behind the first slot comes the comma of the second, and behind that nothing
  obtain ⟨hfirst, h⟩ := RegisterSlot.text_append_inj "0" (r.second.stops_text "1")
    (r'.second.stops_text "1") (r.second.blank_notMem_head?_text "1")
    (r'.second.blank_notMem_head?_text "1") h
  rw [← List.append_nil (r.second.text "1").toList,
    ← List.append_nil (r'.second.text "1").toList] at h
  obtain ⟨hsecond, -⟩ := RegisterSlot.text_append_inj "1" stops_nil stops_nil (by simp) (by simp) h
  have herror : r.error = r'.error := by
    rw [Bool.eq_iff_iff, ← auroraCode_eq_error_iff, ← auroraCode_eq_error_iff, hcode]
  cases r
  cases r'
  simp_all [UInt8.toNat_inj]

end RegisterFrame

namespace Frame

/-- The letter that a description starts with. -/
def initial : Frame → Char
  | register _ => 'R'
  | data _ => 'D'
  | blank => 'B'

lemma head?_text (frame : Frame) : frame.text.toList.head? = some frame.initial := by
  unfold text
  cases frame with
  | register r =>
      unfold RegisterFrame.text
      simp [initial]
  | _ => simp [initial]

/-- Different frames within their widths have different texts. -/
theorem text_injOn {frame frame' : Frame} (hframe : frame.InWidth) (hframe' : frame'.InWidth)
    (h : frame.text = frame'.text) : frame = frame' := by
  have hinitial : frame.initial = frame'.initial := by
    have hhead := congrArg (fun line => line.toList.head?) h
    simpa only [head?_text, Option.some.injEq] using hhead
  cases frame with
  | register r =>
      cases frame' with
      | register r' => rw [RegisterFrame.text_inj h]
      | _ => exact absurd hinitial (by simp [initial])
  | data d =>
      cases frame' with
      | data d' => rw [DataFrame.text_inj hframe hframe' h]
      | _ => exact absurd hinitial (by simp [initial])
  | blank =>
      cases frame' with
      | blank => rfl
      | _ => exact absurd hinitial (by simp [initial])

theorem inWidth_of_parse {src : List UInt8} {frame : Frame} {n : Nat}
    (h : parse src = .ok (frame, n)) : frame.InWidth := by
  unfold parse at h
  split_ifs at h with hempty hshort
  obtain ⟨byte, rest, hbytes⟩ : ∃ byte rest, src.take 8 = byte :: rest :=
    List.exists_cons_of_ne_nil (by simpa using hempty)
  have hlength : rest.length = 7 := by
    have htake := congrArg List.length hbytes
    rw [List.length_take, List.length_cons] at htake
    omega
  obtain ⟨rfl, -⟩ := Prod.mk.inj (Except.ok.inj h)
  rw [hbytes]
  exact (ofBytes_shows byte hlength).1

end Frame

/-- **No two different items print alike.**  The text of a command determines the command, whatever
its fields hold, and the text of a frame that was read determines the frame. -/
theorem items_are_known_by_their_text :
    (∀ (src src' : List UInt8) (command command' : Command) (n n' : Nat),
      Command.parse src = .ok (command, n) → Command.parse src' = .ok (command', n') →
        command.text = command'.text → command = command') ∧
    ∀ (src src' : List UInt8) (frame frame' : Frame) (n n' : Nat),
      Frame.parse src = .ok (frame, n) → Frame.parse src' = .ok (frame', n') →
        frame.text = frame'.text → frame = frame' := by
  refine ⟨fun _ _ command command' _ _ _ _ h => Command.text_injective h, ?_⟩
  intro src src' frame frame' n n' hparse hparse' h
  exact Frame.text_injOn (Frame.inWidth_of_parse hparse) (Frame.inWidth_of_parse hparse') h

/-- Bytes that differ where they carry nothing are read as one item: a read request in its last
symbol, and a data frame behind the filler. -/
theorem items_are_known_by_their_text_despite_unused_bits :
    (∃ command command' : Command,
      Command.parse [0x65, 0x65, 0x8D, 0xC9, 0x96, 0x6A] = .ok (command, 6) ∧
        Command.parse [0x65, 0x65, 0x8D, 0xC9, 0x96, 0x6C, 0x41] = .ok (command', 6) ∧
        command.text = command'.text ∧ command = command') ∧
    ∃ frame frame' : Frame,
      Frame.parse [0x1E, 0x04, 0, 0, 0x04, 0x23, 0x40, 0xF1] = .ok (frame, 8) ∧
        Frame.parse [0x1E, 0xFF, 1, 2, 0x04, 0x23, 0x40, 0xF1, 0] = .ok (frame', 8) ∧
        frame.text = frame'.text ∧ frame = frame' := by
  have hread : Command.parse [0x65, 0x65, 0x8D, 0xC9, 0x96, 0x6A] =
      .ok (.read ⟨3, 0x1A5⟩, 6) := by
    decide +kernel
  have hread' : Command.parse [0x65, 0x65, 0x8D, 0xC9, 0x96, 0x6C, 0x41] =
      .ok (.read ⟨3, 0x1A5⟩, 6) := by
    decide +kernel
  have hframe : Frame.parse [0x1E, 0x04, 0, 0, 0x04, 0x23, 0x40, 0xF1] =
      .ok (.data (.synced (.hit ⟨1, 2, 3, ⟨4, 0, 15, 1⟩⟩)), 8) := by
    decide +kernel
  have hframe' : Frame.parse [0x1E, 0xFF, 1, 2, 0x04, 0x23, 0x40, 0xF1, 0] =
      .ok (.data (.synced (.hit ⟨1, 2, 3, ⟨4, 0, 15, 1⟩⟩)), 8) := by
    decide +kernel
  exact ⟨⟨_, _, hread, hread', rfl,
      items_are_known_by_their_text.1 _ _ _ _ _ _ hread hread' rfl⟩,
    ⟨_, _, hframe, hframe', rfl,
      items_are_known_by_their_text.2 _ _ _ _ _ _ hframe hframe' rfl⟩⟩

end PixelChip

import PixelChip.Proofs.Checked.Trigger
import PixelChip.Proofs.Chip.Demand
import PixelChip.Random.Draw

/-!
# No run overflows

`Checked.run` is `Chip.run` with all checks.  Besides numbers and places in arrays it checks the
count of slots since the last service frame, which has 32 bits, and the cursor.  `checked_run_eq`
says that no run fails a check.

The count is not always below the interval: when the interval is lowered, the count stays where it
is until the next slot.  But it is below the largest interval in force so far, which the interval
itself does not exceed.  That is `Readout.InRange`, which every demand and every operation keeps.

Slots since power-on are counted without a bound, and so is what is only logged.
-/

namespace PixelChip

/-! ## Slots -/

namespace Checked

/-- The next report, with a cursor below its end. -/
def nextSlot (look : UInt16 → Option UInt16) (readout : Readout) :
    Option (RegisterSlot × Readout) :=
  match readout.pending with
  | address :: pending => do
    let value ← look address
    return ({ address, value, autoRead := false }, { readout with pending })
  | [] => do
    let cursor ← below Readout.cursorEnd readout.cursor
    let next ← word (cursor + 1)
    let value ← look (.ofNat cursor)
    return ({ address := .ofNat cursor, value, autoRead := true },
      { readout with cursor := if next < Readout.cursorEnd then next else 0 })

/-- The service frame that is due. -/
def serviceFrame (look : UInt16 → Option UInt16) (readout : Readout) :
    Option (RegisterFrame × Readout) := do
  let (first, readout) ← nextSlot look readout
  let (second, readout) ← nextSlot look readout
  return ({ status := 0, first, second, error := false }, readout)

/-- Uses a slot, and sends a service frame if that makes one due. -/
def useSlot (look : UInt16 → Option UInt16) (readout : Readout) : Option Readout := do
  let used ← below UInt32.size (readout.sinceService + 1)
  let readout := { readout with slots := readout.slots + 1 }
  if used < readout.interval.toNat then return { readout with sinceService := used }
  else
    let readout := { readout with sinceService := 0 }
    if readout.mode.sendsService then
      let (frame, readout) ← serviceFrame look readout
      return readout.push (.register frame)
    else return readout

/-- Sends a data frame in a slot of its own. -/
def emit (look : UInt16 → Option UInt16) (readout : Readout) (frame : DataFrame) :
    Option Readout :=
  useSlot look (if readout.mode.sendsData then readout.push (.data frame) else readout)

end Checked

namespace Readout

/-- The count of slots and the cursor are in their ranges, with `largest` as the largest interval in
force so far. -/
structure InRange (largest : Nat) (readout : Readout) : Prop where
  interval_le : readout.interval.toNat ≤ largest
  sinceService_lt : readout.sinceService < largest
  cursor_lt : readout.cursor < cursorEnd

variable {largest : Nat} {readout : Readout} {checked : UInt16 → Option UInt16}
  {look : UInt16 → UInt16}

lemma nextSlot_cursor_lt (look : UInt16 → UInt16) (h : readout.cursor < cursorEnd) :
    (readout.nextSlot look).2.cursor < cursorEnd := by
  cases hpending : readout.pending with
  | nil =>
      rw [nextSlot_of_nil look hpending]
      show (if _ then _ else _) < _
      split
      · assumption
      · decide
  | cons address pending => rwa [nextSlot_of_cons look hpending]

lemma checked_nextSlot_eq (hlook : ∀ address, checked address = some (look address))
    (h : readout.cursor < cursorEnd) :
    Checked.nextSlot checked readout = some (readout.nextSlot look) := by
  have hnext : readout.cursor + 1 < 65536 := Nat.lt_of_le_of_lt h (by decide)
  rw [Checked.nextSlot, nextSlot]
  cases readout.pending with
  | nil =>
      simp only [Checked.below_eq h, Checked.word_eq hnext, hlook, Option.bind_eq_bind,
        Option.bind_some]
      rfl
  | cons address pending =>
      simp only [hlook]
      rfl

lemma checked_serviceFrame_eq (hlook : ∀ address, checked address = some (look address))
    (h : readout.cursor < cursorEnd) :
    Checked.serviceFrame checked readout = some (readout.serviceFrame look) := by
  simp only [Checked.serviceFrame, checked_nextSlot_eq hlook h,
    checked_nextSlot_eq hlook (nextSlot_cursor_lt look h), Option.bind_eq_bind, Option.bind_some]
  rfl

/-- **A slot overflows nothing** where the count is in its range. -/
lemma InRange.checked_useSlot_eq (h : InRange largest readout) (hlargest : largest < UInt32.size)
    (hlook : ∀ address, checked address = some (look address)) :
    Checked.useSlot checked readout = some (readout.useSlot look) := by
  have hused : readout.sinceService + 1 < UInt32.size := Nat.lt_of_le_of_lt h.sinceService_lt hlargest
  rw [Checked.useSlot, Checked.below_eq hused, Readout.useSlot]
  simp only [Option.bind_eq_bind, Option.bind_some]
  split_ifs
  · rfl
  · let counted : Readout := { readout with slots := readout.slots + 1, sinceService := 0 }
    have hservice : Checked.serviceFrame checked counted = some (counted.serviceFrame look) :=
      checked_serviceFrame_eq hlook h.cursor_lt
    rw [hservice]
    rfl
  · rfl

/-- **A slot keeps the count in its range**: it goes on below the interval, or starts anew. -/
lemma InRange.useSlot (h : InRange largest readout) (look : UInt16 → UInt16) :
    InRange largest (readout.useSlot look) := by
  have hpos : 0 < largest := Nat.lt_of_le_of_lt (Nat.zero_le _) h.sinceService_lt
  obtain ⟨hnot, hslot⟩ | ⟨-, -, hslot⟩ | ⟨-, -, hslot⟩ := readout.useSlot_cases look
  · rw [hslot]
    exact ⟨h.interval_le, Nat.lt_of_lt_of_le (Nat.lt_of_not_le hnot) h.interval_le, h.cursor_lt⟩
  · rw [hslot]
    exact ⟨h.interval_le, hpos, h.cursor_lt⟩
  · rw [hslot]
    have hinterval := congrArg UInt32.toNat (serviceFrame_interval look readout)
    exact ⟨hinterval ▸ h.interval_le, hpos,
      nextSlot_cursor_lt look (nextSlot_cursor_lt look h.cursor_lt)⟩

lemma InRange.push (h : InRange largest readout) (frame : Frame) :
    InRange largest (readout.push frame) :=
  ⟨h.interval_le, h.sinceService_lt, h.cursor_lt⟩

/-- **Every demand keeps the count in its range.** -/
lemma InRange.meet (h : InRange largest readout) (demand : Demand) :
    InRange largest (demand.meet readout) := by
  cases demand with
  | request address => exact ⟨h.interval_le, h.sinceService_lt, h.cursor_lt⟩
  | slot look => exact h.useSlot look
  | send look frame =>
      show InRange largest (readout.emit look frame)
      unfold emit
      apply InRange.useSlot
      split
      · exact h.push _
      · exact h

lemma InRange.meetAll (h : InRange largest readout) (demands : List Demand) :
    InRange largest (readout.meetAll demands) :=
  meetAll_induction h fun demand _ _ hstep => hstep.meet demand

lemma InRange.checked_emit_eq (h : InRange largest readout) (hlargest : largest < UInt32.size)
    (hlook : ∀ address, checked address = some (look address)) (frame : DataFrame) :
    Checked.emit checked readout frame = some (readout.emit look frame) := by
  have hpushed : InRange largest
      (if readout.mode.sendsData then readout.push (.data frame) else readout) := by
    split
    · exact h.push _
    · exact h
  exact hpushed.checked_useSlot_eq hlargest hlook

lemma InRange.checked_foldlM_emit_eq (h : InRange largest readout) (hlargest : largest < UInt32.size)
    (hlook : ∀ address, checked address = some (look address)) (frames : List DataFrame) :
    frames.foldlM (Checked.emit checked) readout = some (frames.foldl (emit look) readout) := by
  induction frames generalizing readout with
  | nil => rfl
  | cons frame frames ih =>
      have hnext : InRange largest (readout.emit look frame) := h.meet (.send look frame)
      rw [List.foldlM_cons, h.checked_emit_eq hlargest hlook]
      exact ih hnext

end Readout

/-! ## Calls -/

namespace Checked

variable {G : Type} [Generator G]

/-- Executes one command. -/
def execute (detector : Detector G) (readout : Readout) :
    Command → Option (Detector G × Readout)
  | .read read => return (detector.convert read.address, readout.request read.address)
  | .write write => do
    let detector ← Checked.write detector write
    return (detector, readout)
  | .trigger trigger => do
    let (frames, detector) ← Checked.trigger detector trigger
    let readout ← frames.foldlM (emit (read detector)) readout
    return (detector, readout)
  | .ecr | .bcr | .noop | .sync | .pulse _ | .cal _ => return (detector, readout)

/-- Executes commands in order. -/
def executeAll : List Command → Detector G → Readout → Option (Detector G × Readout)
  | [], detector, readout => return (detector, readout)
  | command :: commands, detector, readout => do
    let (detector, readout) ← execute detector readout command
    executeAll commands detector readout

/-- Executes the queue. -/
def process (chip : Chip G) : Option (Chip G) := do
  let (detector, readout) ←
    executeAll chip.queue chip.detector { chip.readout with output := .empty }
  let readout ←
    if readout.slots = chip.readout.slots then useSlot (read detector) readout else pure readout
  return { chip with
    queue := []
    detector := { detector with registers := detector.registers.drain.2 }
    readout := { readout with output := readout.output.encode } }

/-- The chip after an operation.  Only a call of `process` has something to check. -/
def apply (chip : Chip G) : Chip.Operation → Option (Chip G)
  | .process => process chip
  | operation => return operation.apply chip

/-- The chip after some operations, in order. -/
def run (chip : Chip G) (operations : List Chip.Operation) : Option (Chip G) :=
  operations.foldlM apply chip

variable {largest : Nat} {readout : Readout} {chip : Chip G}

lemma execute_eq (hlargest : largest < UInt32.size) (h : readout.InRange largest)
    (detector : Detector G) (command : Command) :
    execute detector readout command = some (Chip.execute detector readout command) := by
  cases command with
  | write write =>
      rw [execute, write_eq]
      rfl
  | trigger trigger =>
      simp only [execute, trigger_eq, Option.bind_eq_bind, Option.bind_some,
        h.checked_foldlM_emit_eq hlargest (read_eq _)]
      rfl
  | _ => rfl

lemma inRange_execute (h : readout.InRange largest) (detector : Detector G) (command : Command) :
    (Chip.execute detector readout command).2.InRange largest := by
  rw [Chip.execute_eq]
  exact h.meetAll _

lemma executeAll_eq (hlargest : largest < UInt32.size) (h : readout.InRange largest)
    (commands : List Command) (detector : Detector G) :
    executeAll commands detector readout = some (Chip.executeAll commands detector readout) := by
  induction commands generalizing detector readout with
  | nil => rfl
  | cons command commands ih =>
      rw [executeAll, execute_eq hlargest h]
      exact ih (inRange_execute h detector command) _

lemma process_eq (hlargest : largest < UInt32.size) (h : chip.readout.InRange largest) :
    process chip = some chip.process := by
  have hfresh : ({ chip.readout with output := .empty } : Readout).InRange largest :=
    ⟨h.interval_le, h.sinceService_lt, h.cursor_lt⟩
  have hcall : (Chip.executeAll chip.queue chip.detector
      { chip.readout with output := .empty }).2.InRange largest := by
    rw [Chip.executeAll_eq]
    exact hfresh.meetAll _
  rw [process, Chip.process, executeAll_eq hlargest hfresh]
  simp only [Option.bind_eq_bind, Option.bind_some, hcall.checked_useSlot_eq hlargest (read_eq _)]
  split_ifs <;> rfl

end Checked

/-! ## Runs -/

namespace Chip

variable {G : Type} [Generator G] {chip : Chip G} {largest : Nat}

/-- The readouts that a call of `process` passes through, the first and the last included. -/
def readoutsOfCall (chip : Chip G) : List Readout :=
  chip.demands.scanl Readout.Demand.meet chip.readout.fresh

/-- The largest interval in force so far, where `largest` was before an operation. -/
def Operation.raise (largest : Nat) : Operation → Nat
  | setInterval interval => max largest (max interval 1).toNat
  | _ => largest

/-- The largest interval in force along a run from power-on. -/
def largestInterval (operations : List Operation) : Nat :=
  operations.foldl Operation.raise Readout.defaultInterval.toNat

/-- Between any two demands the count is in its range. -/
lemma inRange_of_mem_scanl {demands : List Readout.Demand} {first readout : Readout}
    (h : first.InRange largest) (hmem : readout ∈ demands.scanl Readout.Demand.meet first) :
    readout.InRange largest := by
  induction demands generalizing first with
  | nil => exact List.mem_singleton.1 hmem ▸ h
  | cons demand demands ih =>
      rw [List.scanl_cons, List.mem_cons] at hmem
      obtain rfl | hmem := hmem
      · exact h
      · exact ih (h.meet demand) hmem

lemma raise_lt (h : largest < UInt32.size) (operation : Operation) :
    operation.raise largest < UInt32.size := by
  cases operation with
  | setInterval interval => exact Nat.max_lt.2 ⟨h, (max interval 1).toNat_lt⟩
  | _ => exact h

/-- **Every operation keeps the count in its range**, which an interval may make wider. -/
lemma inRange_apply (h : chip.readout.InRange largest) (operation : Operation) :
    (operation.apply chip).readout.InRange (operation.raise largest) := by
  have hsame : ∀ readout : Readout, readout.interval = chip.readout.interval →
      readout.sinceService = chip.readout.sinceService → readout.cursor = chip.readout.cursor →
      readout.InRange largest := by
    rintro readout hinterval hsince hcursor
    exact ⟨hinterval ▸ h.interval_le, hsince ▸ h.sinceService_lt, hcursor ▸ h.cursor_lt⟩
  cases operation with
  | setInterval interval =>
      exact ⟨Nat.le_max_right _ _, Nat.lt_of_lt_of_le h.sinceService_lt (Nat.le_max_left _ _),
        h.cursor_lt⟩
  | process =>
      have hcall : (chip.readout.fresh.meetAll chip.demands).InRange largest :=
        (hsame _ rfl rfl rfl : chip.readout.fresh.InRange largest).meetAll _
      show chip.process.readout.InRange largest
      rw [process_eq]
      exact ⟨hcall.interval_le, hcall.sinceService_lt, hcall.cursor_lt⟩
  | push command =>
      show (chip.push command).2.readout.InRange largest
      rw [push]
      split <;> exact h
  | _ => exact hsame _ rfl rfl rfl

/-- **Along every run** no check fails and the count stays in its range. -/
lemma checked_run_spec (hlargest : largest < UInt32.size) (h : chip.readout.InRange largest)
    (operations : List Operation) :
    Checked.run chip operations = some (chip.run operations) ∧
      (chip.run operations).readout.InRange (operations.foldl Operation.raise largest) ∧
      operations.foldl Operation.raise largest < UInt32.size := by
  induction operations generalizing chip largest with
  | nil => exact ⟨rfl, h, hlargest⟩
  | cons operation operations ih =>
      have happly : Checked.apply chip operation = some (operation.apply chip) := by
        cases operation with
        | process => exact Checked.process_eq hlargest h
        | _ => rfl
      have hrest := ih (raise_lt hlargest operation) (inRange_apply h operation)
      rw [Checked.run, List.foldlM_cons, happly]
      exact hrest

/-- **No run overflows or leaves an array.**  Along every run from power-on, with any commands,
registers, pixels and intervals, all checks succeed, and they change nothing.  At any time, also in
the middle of a call of `process`, the count of slots since the last service frame is below the
largest interval in force so far, which has 32 bits, and the cursor is below its end. -/
theorem no_run_overflows (id : UInt8) (mode : OutputMode) (generator : G)
    (operations : List Operation) :
    let chip := (powerOn id mode generator).run operations
    Checked.run (powerOn id mode generator) operations = some chip ∧
    largestInterval operations < UInt32.size ∧
    ∀ readout ∈ chip.readout :: chip.readoutsOfCall,
      readout.sinceService < largestInterval operations ∧ readout.cursor < 0x1FF := by
  intro chip
  have hpowerOn : (powerOn id mode generator).readout.InRange Readout.defaultInterval.toNat :=
    ⟨Nat.le_refl 10, Nat.zero_lt_succ 9, Nat.zero_lt_succ 510⟩
  obtain ⟨hrun, hrange, hlargest⟩ := checked_run_spec (by decide) hpowerOn operations
  have hfresh : chip.readout.fresh.InRange (largestInterval operations) :=
    ⟨hrange.interval_le, hrange.sinceService_lt, hrange.cursor_lt⟩
  refine ⟨hrun, hlargest, fun readout hreadout => ?_⟩
  have hall : readout.InRange (largestInterval operations) := by
    obtain rfl | hpassed := List.mem_cons.1 hreadout
    · exact hrange
    · exact inRange_of_mem_scanl hfresh hpassed
  exact ⟨hall.sinceService_lt, hall.cursor_lt⟩

/-- Two slots at the largest interval of all, which is then lowered below their number. -/
theorem no_run_overflows_after_lowering :
    let operations : List Operation :=
      [.setInterval 4294967295, .process, .process, .setInterval 0]
    let chip := (powerOn 0 .all (ChaCha.ofSeed 0)).run operations
    chip.readout.interval = 1 ∧ chip.readout.sinceService = 2 ∧
      Checked.run (powerOn 0 .all (ChaCha.ofSeed 0)) operations = some chip ∧
      chip.readout.sinceService < 4294967295 := by
  intro operations chip
  obtain ⟨hrun, -, hcounts⟩ := no_run_overflows 0 .all (ChaCha.ofSeed 0) operations
  exact ⟨by decide +kernel, by decide +kernel, hrun, (hcounts _ List.mem_cons_self).1⟩

end Chip
end PixelChip

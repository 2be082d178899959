import PixelChip.Proofs.Chip.Run
import PixelChip.Proofs.Chip.Trigger
import PixelChip.Random.Draw

/-!
# What a chip sends is read back

Along every run the addresses that wait for a service frame are those of commands, nine bits wide,
and the cursor stays below its end, so that register frames fit the wire.  Data frames do by
`trigger_unambiguous`.  `Chip.Sound` gathers this with the agreement of frames and bytes.  Every
operation preserves it, and from it follows that the bytes of a reachable chip decode to its frames
and to nothing else.
-/

namespace PixelChip

/-- The wire has room for the frame, and its bytes show its kind. -/
def Frame.Sound (frame : Frame) : Prop :=
  frame.InWidth ∧ frame.Unambiguous

/-! ## The readout -/

/-- What a readout is going to send and has sent fits the wire. -/
structure Readout.Sound (readout : Readout) : Prop where
  pending_lt : ∀ address ∈ readout.pending, address.toNat < 512
  cursor_lt : readout.cursor < Readout.cursorEnd
  frames : ∀ frame ∈ readout.output.items.toList, frame.Sound

namespace Readout

variable {readout : Readout} (look : UInt16 → UInt16)

lemma powerOn_sound (mode : OutputMode) : (powerOn mode).Sound where
  pending_lt := by simp [powerOn]
  cursor_lt := by
    show 0 < 511
    decide
  frames := by simp [powerOn, Channel.empty]

/-- Frames that are dropped leave a sound readout. -/
lemma Sound.dropped (h : readout.Sound) : ({ readout with output := .empty } : Readout).Sound :=
  ⟨h.pending_lt, h.cursor_lt, by simp [Channel.empty]⟩

lemma Sound.request (h : readout.Sound) {address : UInt16} (haddress : address.toNat < 512) :
    (readout.request address).Sound := by
  refine ⟨?_, h.cursor_lt, h.frames⟩
  intro other hother
  obtain hother | hother := List.mem_append.1 hother
  · exact h.pending_lt other hother
  · rwa [List.mem_singleton.1 hother]

lemma Sound.nextSlot (h : readout.Sound) :
    (readout.nextSlot look).1.address.toNat < 512 ∧ (readout.nextSlot look).2.Sound := by
  rw [Readout.nextSlot]
  cases hpending : readout.pending with
  | cons address pending =>
      have hlt := h.pending_lt
      rw [hpending] at hlt
      refine ⟨hlt address List.mem_cons_self, ?_, h.cursor_lt, h.frames⟩
      exact fun other hother => hlt other (List.mem_cons_of_mem address hother)
  | nil =>
      have hcursor : readout.cursor < 511 := h.cursor_lt
      refine ⟨?_, by simp, ?_, h.frames⟩
      · simp only [UInt16.toNat_ofNat']
        omega
      · show (if readout.cursor + 1 < 511 then readout.cursor + 1 else 0) < 511
        split <;> omega

lemma Sound.serviceFrame (h : readout.Sound) :
    (Frame.register (readout.serviceFrame look).1).Sound ∧
      (readout.serviceFrame look).2.Sound := by
  obtain ⟨hfirst, hrest⟩ := h.nextSlot look
  obtain ⟨hsecond, hlast⟩ := hrest.nextSlot look
  refine ⟨⟨⟨Nat.zero_lt_succ 15, ?_, ?_, ?_⟩, trivial⟩, hlast⟩
  · exact Nat.lt_trans hfirst (by decide)
  · exact Nat.lt_trans hsecond (by decide)
  · exact fun herror => absurd herror Bool.false_ne_true

lemma Sound.push (h : readout.Sound) {frame : Frame} (hframe : frame.Sound) :
    (readout.push frame).Sound := by
  refine ⟨h.pending_lt, h.cursor_lt, ?_⟩
  intro other hother
  have hmem : other ∈ readout.output.items.toList ++ [frame] := by
    simpa [Readout.push, Channel.push] using hother
  obtain hother | hother := List.mem_append.1 hmem
  · exact h.frames other hother
  · rwa [List.mem_singleton.1 hother]

lemma Sound.useSlot (h : readout.Sound) : (readout.useSlot look).Sound := by
  rw [Readout.useSlot]
  have hslot : ∀ since slots, ({ readout with sinceService := since, slots } : Readout).Sound :=
    fun since slots => ⟨h.pending_lt, h.cursor_lt, h.frames⟩
  by_cases hdue : readout.sinceService + 1 < readout.interval.toNat
  · rw [if_pos hdue]
    exact hslot _ _
  · rw [if_neg hdue]
    by_cases hmode : readout.mode.sendsService
    · rw [if_pos hmode]
      obtain ⟨hframe, hrest⟩ := (hslot 0 (readout.slots + 1)).serviceFrame look
      exact hrest.push hframe
    · rw [if_neg hmode]
      exact hslot _ _

lemma Sound.emit (h : readout.Sound) {frame : DataFrame} (hframe : (Frame.data frame).Sound) :
    (readout.emit look frame).Sound := by
  rw [Readout.emit]
  by_cases hmode : readout.mode.sendsData
  · rw [if_pos hmode]
    exact (h.push hframe).useSlot look
  · rw [if_neg hmode]
    exact h.useSlot look

lemma Sound.foldl_emit (h : readout.Sound) {frames : List DataFrame}
    (hframes : ∀ frame ∈ frames, (Frame.data frame).Sound) :
    (frames.foldl (Readout.emit look) readout).Sound := by
  induction frames generalizing readout with
  | nil => exact h
  | cons frame frames ih =>
      refine ih (h.emit look (hframes frame List.mem_cons_self)) ?_
      exact fun other hother => hframes other (List.mem_cons_of_mem frame hother)

end Readout

namespace Chip

/-! ## The chip -/

/-- The commands that wait and the readout fit the wire, and the bytes are those of the frames. -/
structure Sound {G : Type} (chip : Chip G) : Prop where
  queue : ∀ command ∈ chip.queue, command.InWidth
  readout : chip.readout.Sound
  bytes_eq : chip.bytes = encodeAll chip.frames

variable {G : Type} {chip : Chip G}

lemma powerOn_sound (id : UInt8) (mode : OutputMode) (generator : G) :
    (powerOn id mode generator).Sound where
  queue := by simp [powerOn]
  readout := Readout.powerOn_sound mode
  bytes_eq := rfl

lemma Sound.receive (h : chip.Sound) (bytes : List UInt8) : (chip.receive bytes).2.Sound := by
  refine ⟨?_, h.readout, h.bytes_eq⟩
  intro command hcommand
  obtain hcommand | hcommand := List.mem_append.1 hcommand
  · exact h.queue command hcommand
  · obtain ⟨behind, n, -, hparse⟩ :=
      Channel.exists_parse_of_mem_decoded (List.mem_filter.1 hcommand).1
    exact Command.inWidth_of_parse hparse

lemma Sound.push (h : chip.Sound) {command : Command} (hcommand : command.Checked) :
    (chip.push command).2.Sound := by
  rw [Chip.push]
  by_cases hadmits : chip.inlet.admits command
  · rw [if_pos hadmits]
    refine ⟨?_, h.readout, h.bytes_eq⟩
    intro other hother
    obtain hother | hother := List.mem_append.1 hother
    · exact h.queue other hother
    · rw [List.mem_singleton.1 hother]
      exact (Command.checked_iff_inWidth command).1 hcommand
  · rw [if_neg hadmits]
    exact h

/-! ## Executing commands -/

variable [Generator G]

/-- Executing a command keeps the readout sound, whatever the detector does. -/
lemma execute_sound {detector : Detector G} {readout : Readout} (h : readout.Sound)
    {command : Command} (hcommand : command.InWidth) :
    (execute detector readout command).2.Sound := by
  cases command with
  | read read => exact h.request hcommand.2
  | trigger trigger => exact h.foldl_emit _ fun frame hframe => Detector.trigger_unambiguous hframe
  | _ => exact h

lemma executeAll_sound (detector : Detector G) {readout : Readout} (h : readout.Sound)
    {commands : List Command} (hcommands : ∀ command ∈ commands, command.InWidth) :
    (executeAll commands detector readout).2.Sound := by
  induction commands generalizing detector readout with
  | nil => exact h
  | cons command commands ih =>
      rw [executeAll]
      refine ih _ (execute_sound h (hcommands command List.mem_cons_self)) ?_
      exact fun other hother => hcommands other (List.mem_cons_of_mem command hother)

lemma Sound.process (h : chip.Sound) : chip.process.Sound := by
  rw [Chip.process]
  cases hexecute : executeAll chip.queue chip.detector { chip.readout with output := .empty } with
  | mk detector readout =>
      have hreadout := executeAll_sound chip.detector h.readout.dropped h.queue
      rw [hexecute] at hreadout
      have hslot : (if readout.slots = chip.readout.slots then readout.useSlot detector.read
          else readout).Sound := by
        split
        · exact hreadout.useSlot detector.read
        · exact hreadout
      exact ⟨by simp, ⟨hslot.pending_lt, hslot.cursor_lt, hslot.frames⟩, rfl⟩

/-! ## Operations -/

/-- **One operation** keeps what a chip is going to send, and has sent, fit for the wire. -/
theorem Sound.apply (h : chip.Sound) {operation : Operation} (hvalid : operation.Valid) :
    (operation.apply chip).Sound := by
  cases operation with
  | receive bytes => exact h.receive bytes
  | push command => exact h.push hvalid
  | process => exact h.process
  | takeFrames => exact ⟨h.queue, h.readout.dropped, rfl⟩
  | clear =>
      have hdropped := h.readout.dropped
      refine ⟨?_, ⟨?_, hdropped.cursor_lt, hdropped.frames⟩, rfl⟩
      · exact fun command hcommand => absurd hcommand List.not_mem_nil
      · exact fun address haddress => absurd haddress List.not_mem_nil
  | setMode mode =>
      exact ⟨h.queue, ⟨h.readout.pending_lt, h.readout.cursor_lt, h.readout.frames⟩, h.bytes_eq⟩
  | setInterval interval =>
      exact ⟨h.queue, ⟨h.readout.pending_lt, h.readout.cursor_lt, h.readout.frames⟩, h.bytes_eq⟩
  | _ => exact ⟨h.queue, h.readout, h.bytes_eq⟩

/-- **Along every run** what a chip is going to send, and has sent, fits the wire. -/
theorem Reachable.sound (h : Reachable chip) : chip.Sound := by
  induction h with
  | powerOn id mode generator => exact powerOn_sound id mode generator
  | step operation hvalid _ ih => exact ih.apply hvalid

/-- **What a reachable chip emitted is read back.**  Its bytes are the encoding of its frames, and
they decode to exactly these frames without a byte that is skipped.  No frame is one that the wire
cannot tell from another. -/
theorem bytes_decode (h : Reachable chip) :
    chip.bytes = encodeAll chip.frames ∧
      (Channel.ofBytes (α := Frame) chip.bytes).items.toList = chip.frames ∧
      (Channel.ofBytes (α := Frame) chip.bytes).skipped = [] ∧
      ∀ frame ∈ chip.frames, frame.InWidth ∧ frame.Unambiguous := by
  have hsound := h.sound
  have hframes : ∀ frame ∈ chip.frames, frame.Sound := hsound.readout.frames
  have hread : ∀ frame ∈ chip.frames, Channel.ReadsBack frame := fun frame hframe =>
    Frame.readsBack (hframes frame hframe).1 (hframes frame hframe).2
  obtain ⟨hitems, hskipped⟩ := Channel.decoded_encodeAll hread
  rw [← hsound.bytes_eq] at hitems hskipped
  exact ⟨hsound.bytes_eq, hitems, List.eq_nil_of_length_eq_zero hskipped, hframes⟩

/-- A trigger and a read request that are processed while every slot makes a service frame due and
no core column is enabled. -/
theorem bytes_decode_of_trigger :
    let chip : Chip ChaCha := (powerOn 0 .all (ChaCha.ofSeed 7)).run
      [.setInterval 1,
        .changeRegisters fun registers => { registers with values := .replicate 138 0 },
        .receive [0x65, 0x65, 0x6A, 0x6A, 0x96, 0x6A],
        .push (.trigger ⟨8, 3, by decide, by decide, by decide⟩), .process]
    chip.frames =
        [.data (.synced (.header ⟨0, 3, 0⟩)),
          .register
            { status := 0, first := ⟨5, 0, false⟩, second := ⟨0, 0, true⟩, error := false }] ∧
      (Channel.ofBytes (α := Frame) chip.bytes).items.toList = chip.frames := by
  intro chip
  have hreachable : Reachable chip := by
    refine (Reachable.powerOn 0 .all (ChaCha.ofSeed 7)).run ?_
    simp only [List.forall_mem_cons]
    exact ⟨trivial, trivial, trivial, .trigger 8 3 rfl, trivial, by simp⟩
  refine ⟨?_, (bytes_decode hreachable).2.1⟩
  decide +kernel

end Chip
end PixelChip

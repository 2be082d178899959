import PixelChip.Proofs.Chip.Demand
import PixelChip.Proofs.Chip.History
import PixelChip.Random.Draw

/-!
# The output mode only filters

Take two chips that are built alike and go through the same operations, one of which sends
everything and the other what some mode lets out.  The detectors of the two stay equal, since no
detector looks at a readout, so that both readouts meet the same demands.  `Readout.Restricts` says
what two such readouts have in common: the slot counts always, and what waits and the cursor as long
as the mode lets service frames out.  A suppressed service frame consumes neither.
-/

namespace PixelChip

/-- Whether a mode lets a frame out. -/
def OutputMode.lets (mode : OutputMode) : Frame → Bool
  | .register _ => mode.sendsService
  | .data _ => mode.sendsData
  | .blank => false

def Frame.isData : Frame → Bool
  | data _ => true
  | register _ | blank => false

lemma OutputMode.lets_serviceOnly : serviceOnly.lets = Frame.isService := by
  funext frame
  cases frame <;> rfl

lemma OutputMode.lets_dataOnly : dataOnly.lets = Frame.isData := by
  funext frame
  cases frame <;> rfl

namespace Readout

/-- The readout works in the mode given, and otherwise does what an unrestricted one does. -/
structure Restricts (mode : OutputMode) (full readout : Readout) : Prop where
  full_mode : full.mode = .all
  mode_eq : readout.mode = mode
  interval_eq : readout.interval = full.interval
  sinceService_eq : readout.sinceService = full.sinceService
  slots_eq : readout.slots = full.slots
  pending_eq : mode.sendsService = true → readout.pending = full.pending
  cursor_eq : mode.sendsService = true → readout.cursor = full.cursor
  output_eq : readout.output.items.toList = full.output.items.toList.filter mode.lets

variable {mode : OutputMode} {full readout : Readout}

/-- What is reported next follows from what waits and from the cursor. -/
lemma nextSlot_congr (look : UInt16 → UInt16) (hpending : readout.pending = full.pending)
    (hcursor : readout.cursor = full.cursor) :
    (readout.nextSlot look).1 = (full.nextSlot look).1 ∧
      (readout.nextSlot look).2.pending = (full.nextSlot look).2.pending ∧
      (readout.nextSlot look).2.cursor = (full.nextSlot look).2.cursor := by
  cases h : full.pending with
  | nil =>
      have h' := hpending.trans h
      rw [nextSlot_of_nil look h, nextSlot_of_nil look h', hcursor]
      exact ⟨rfl, hpending, rfl⟩
  | cons address pending =>
      have h' := hpending.trans h
      rw [nextSlot_of_cons look h, nextSlot_of_cons look h']
      exact ⟨rfl, rfl, hcursor⟩

lemma serviceFrame_congr (look : UInt16 → UInt16) (hpending : readout.pending = full.pending)
    (hcursor : readout.cursor = full.cursor) :
    (readout.serviceFrame look).1 = (full.serviceFrame look).1 ∧
      (readout.serviceFrame look).2.pending = (full.serviceFrame look).2.pending ∧
      (readout.serviceFrame look).2.cursor = (full.serviceFrame look).2.cursor := by
  obtain ⟨hfirst, hpending', hcursor'⟩ := nextSlot_congr look hpending hcursor
  obtain ⟨hsecond, hlast⟩ := nextSlot_congr look hpending' hcursor'
  refine ⟨?_, hlast⟩
  unfold serviceFrame
  simp only [hfirst, hsecond]

lemma Restricts.serviceDue_iff (h : Restricts mode full readout) :
    readout.ServiceDue ↔ full.ServiceDue := by
  unfold ServiceDue
  rw [h.interval_eq, h.sinceService_eq]

lemma Restricts.full_sends (h : Restricts mode full readout) :
    full.mode.sendsService = true ∧ full.mode.sendsData = true := by
  rw [h.full_mode]
  exact ⟨rfl, rfl⟩

/-- A service frame that is let out is that of the unrestricted readout. -/
lemma Restricts.useSlot_of_sent (h : Restricts mode full readout) (look : UInt16 → UInt16)
    (hdue : full.ServiceDue) (hmode : mode.sendsService = true) :
    Restricts mode (full.useSlot look) (readout.useSlot look) := by
  have hsends : readout.mode.sendsService = true := by rw [h.mode_eq, hmode]
  obtain ⟨hframe, hpending, hcursor⟩ :=
    serviceFrame_congr look (h.pending_eq hmode) (h.cursor_eq hmode)
  rw [Readout.useSlot_of_sent look hdue h.full_sends.1,
    Readout.useSlot_of_sent look (h.serviceDue_iff.2 hdue) hsends]
  refine ⟨?_, ?_, ?_, rfl, ?_, fun _ => hpending, fun _ => hcursor, ?_⟩
  · exact (serviceFrame_mode look full).trans h.full_mode
  · exact (serviceFrame_mode look readout).trans h.mode_eq
  · simpa using h.interval_eq
  · show readout.slots + 1 = full.slots + 1
    rw [h.slots_eq]
  · simp [h.output_eq, hframe, OutputMode.lets, hmode]

/-- Where a service frame is not let out, what waits and the cursor stay behind for good. -/
lemma Restricts.useSlot_of_suppressed (h : Restricts mode full readout) (look : UInt16 → UInt16)
    (hdue : full.ServiceDue) (hmode : mode.sendsService = false) :
    Restricts mode (full.useSlot look) (readout.useSlot look) := by
  have hsends : readout.mode.sendsService = false := by rw [h.mode_eq, hmode]
  have hlost : ¬ mode.sendsService = true := by simp [hmode]
  rw [Readout.useSlot_of_sent look hdue h.full_sends.1,
    Readout.useSlot_of_suppressed look (h.serviceDue_iff.2 hdue) hsends]
  refine ⟨?_, h.mode_eq, ?_, rfl, ?_, fun hsends => absurd hsends hlost,
    fun hsends => absurd hsends hlost, ?_⟩
  · exact (serviceFrame_mode look full).trans h.full_mode
  · simpa using h.interval_eq
  · show readout.slots + 1 = full.slots + 1
    rw [h.slots_eq]
  · simp [h.output_eq, OutputMode.lets, hmode]

/-- A service frame comes where the unrestricted one does, and is the same if it is let out. -/
lemma Restricts.useSlot (h : Restricts mode full readout) (look : UInt16 → UInt16) :
    Restricts mode (full.useSlot look) (readout.useSlot look) := by
  by_cases hdue : full.ServiceDue
  · cases hmode : mode.sendsService with
    | true => exact h.useSlot_of_sent look hdue hmode
    | false => exact h.useSlot_of_suppressed look hdue hmode
  · have hdue' : ¬ readout.ServiceDue := mt h.serviceDue_iff.1 hdue
    rw [useSlot_of_not_due look hdue, useSlot_of_not_due look hdue']
    exact
      { h with
        sinceService_eq := by rw [h.sinceService_eq]
        slots_eq := by rw [h.slots_eq] }

lemma Restricts.emit (h : Restricts mode full readout) (look : UInt16 → UInt16)
    (frame : DataFrame) : Restricts mode (full.emit look frame) (readout.emit look frame) := by
  unfold Readout.emit
  apply Restricts.useSlot
  rw [if_pos h.full_sends.2, h.mode_eq]
  cases hmode : mode.sendsData with
  | true =>
      rw [if_pos rfl]
      exact { h with output_eq := by simp [h.output_eq, OutputMode.lets, hmode] }
  | false =>
      rw [if_neg Bool.false_ne_true]
      exact { h with output_eq := by simp [h.output_eq, OutputMode.lets, hmode] }

lemma Restricts.request (h : Restricts mode full readout) (address : UInt16) :
    Restricts mode (full.request address) (readout.request address) :=
  { h with
    pending_eq := fun hsends => congrArg (· ++ [address]) (h.pending_eq hsends) }

/-- **Two readouts that meet the same demands** stay alike. -/
lemma Restricts.meetAll (h : Restricts mode full readout) (demands : List Demand) :
    Restricts mode (full.meetAll demands) (readout.meetAll demands) := by
  induction demands generalizing full readout with
  | nil => exact h
  | cons demand demands ih =>
      apply ih
      cases demand with
      | request address => exact h.request address
      | send look frame => exact h.emit look frame
      | slot look => exact h.useSlot look

/-- Frames that both drop are no difference. -/
lemma Restricts.fresh (h : Restricts mode full readout) :
    Restricts mode full.fresh readout.fresh :=
  { h with output_eq := rfl }

end Readout

namespace Chip

/-- The chip works in the mode given, and otherwise does what an unrestricted one does. -/
structure Restricts {G : Type} (mode : OutputMode) (full chip : Chip G) : Prop where
  id_eq : chip.id = full.id
  queue_eq : chip.queue = full.queue
  detector_eq : chip.detector = full.detector
  readout : Readout.Restricts mode full.readout chip.readout

variable {G : Type} {mode : OutputMode} {full chip : Chip G}

lemma powerOn_restricts (id : UInt8) (mode : OutputMode) (generator : G) :
    Restricts mode (powerOn id .all generator) (powerOn id mode generator) where
  id_eq := rfl
  queue_eq := rfl
  detector_eq := rfl
  readout := ⟨rfl, rfl, rfl, rfl, rfl, fun _ => rfl, fun _ => rfl, rfl⟩

lemma Restricts.inlet_eq (h : Restricts mode full chip) : chip.inlet = full.inlet := by
  unfold inlet
  rw [h.id_eq]

/-- Detectors that are changed in the same way stay equal. -/
lemma Restricts.changeDetector (h : Restricts mode full chip) (change : Detector G → Detector G) :
    Restricts mode { full with detector := change full.detector }
      { chip with detector := change chip.detector } :=
  { h with detector_eq := congrArg change h.detector_eq }

variable [Generator G]

/-- The demands of a call follow from the queue and the detector. -/
lemma Restricts.demands_eq (h : Restricts mode full chip) : chip.demands = full.demands := by
  unfold demands
  rw [h.queue_eq, h.detector_eq]

lemma Restricts.process (h : Restricts mode full chip) :
    Restricts mode full.process chip.process := by
  have hcall := h.readout.fresh.meetAll full.demands
  rw [process_eq, process_eq, h.demands_eq, h.queue_eq, h.detector_eq]
  exact ⟨h.id_eq, rfl, rfl, { hcall with }⟩

/-- Whether the operation leaves the output mode alone. -/
def Operation.keepsMode : Operation → Bool
  | setMode _ => false
  | _ => true

/-- **One operation** has the same effect on both chips, up to the frames. -/
lemma Restricts.apply (h : Restricts mode full chip) {operation : Operation}
    (hkeeps : operation.keepsMode = true) :
    Restricts mode (operation.apply full) (operation.apply chip) := by
  cases operation with
  | receive bytes =>
      have hqueue : chip.queue ++ chip.inlet.admitted bytes =
          full.queue ++ full.inlet.admitted bytes := by rw [h.queue_eq, h.inlet_eq]
      exact { h with queue_eq := hqueue }
  | push command =>
      show Restricts mode (full.push command).2 (chip.push command).2
      rw [push_snd, push_snd, h.inlet_eq, h.queue_eq]
      exact { h with queue_eq := rfl }
  | process => exact h.process
  | takeFrames => exact { h with readout := h.readout.fresh }
  | clear =>
      exact ⟨h.id_eq, rfl, h.detector_eq, { h.readout.fresh with pending_eq := fun _ => rfl }⟩
  | setId id => exact { h with id_eq := rfl }
  | setMode other => exact absurd hkeeps Bool.false_ne_true
  | setInterval interval => exact { h with readout := { h.readout with interval_eq := rfl } }
  | setRandomThresholds on =>
      exact h.changeDetector fun d => { d with randomThresholds := on, thresholds := none }
  | setPixelNoise on => exact h.changeDetector fun d => { d with pixelNoise := on }
  | setSeed seed =>
      exact h.changeDetector fun d => { d with generator := Generator.ofSeed seed, seeded := true }
  | changeRegisters change =>
      exact h.changeDetector fun d => { d with registers := change d.registers }
  | changeMatrix change => exact h.changeDetector fun d => { d with matrix := change d.matrix }

/-- **Along every run** in which the mode stays, the two chips differ in their frames only. -/
lemma Restricts.run (h : Restricts mode full chip) {operations : List Operation}
    (hkeeps : ∀ operation ∈ operations, operation.keepsMode = true) :
    Restricts mode (full.run operations) (chip.run operations) := by
  induction operations generalizing full chip with
  | nil => exact h
  | cons operation operations ih =>
      apply ih (h.apply (hkeeps operation List.mem_cons_self))
      intro other hother
      exact hkeeps other (List.mem_cons_of_mem operation hother)

/-- **The output mode only filters.**  Of three chips that are built alike but for their mode and go
through the same operations, of which none sets the mode, one shows the service frames and one the
data frames of that which sends everything.  All three agree on registers, pixels, thresholds and
generator and on the slots since the last service frame, and the first two also on what waits and on
the cursor.  A seed is set by an operation; without one the clock is a part of the generator, and
the three see the same clock. -/
theorem mode_only_filters (id : UInt8) (generator : G) {operations : List Operation}
    (hkeeps : ∀ operation ∈ operations, operation.keepsMode = true) :
    let full := (powerOn id .all generator).run operations
    let service := (powerOn id .serviceOnly generator).run operations
    let data := (powerOn id .dataOnly generator).run operations
    service.frames = full.frames.filter Frame.isService ∧
      data.frames = full.frames.filter Frame.isData ∧
      service.detector = full.detector ∧
      data.detector = full.detector ∧
      service.readout.sinceService = full.readout.sinceService ∧
      data.readout.sinceService = full.readout.sinceService ∧
      service.readout.pending = full.readout.pending ∧
      service.readout.cursor = full.readout.cursor := by
  intro full service data
  have hservice : Restricts .serviceOnly full service :=
    (powerOn_restricts id .serviceOnly generator).run hkeeps
  have hdata : Restricts .dataOnly full data :=
    (powerOn_restricts id .dataOnly generator).run hkeeps
  refine ⟨?_, ?_, hservice.detector_eq, hdata.detector_eq, hservice.readout.sinceService_eq,
    hdata.readout.sinceService_eq, hservice.readout.pending_eq rfl, hservice.readout.cursor_eq rfl⟩
  · rw [← OutputMode.lets_serviceOnly]
    exact hservice.readout.output_eq
  · rw [← OutputMode.lets_dataOnly]
    exact hdata.readout.output_eq

/-- A trigger and a read request while every slot makes a service frame due and no core column is
enabled. -/
theorem mode_only_filters_trigger :
    let operations : List Operation :=
      [.setSeed 7, .setInterval 1,
        .changeRegisters fun registers => { registers with values := .replicate 138 0 },
        .receive [0x65, 0x65, 0x6A, 0x6A, 0x96, 0x6A],
        .push (.trigger ⟨8, 3, by decide, by decide, by decide⟩), .process]
    let frames (mode : OutputMode) : List Frame :=
      ((powerOn 0 mode (ChaCha.ofSeed 0)).run operations).frames
    (∀ operation ∈ operations, operation.keepsMode = true) ∧
      frames .all =
        [.data (.synced (.header ⟨0, 3, 0⟩)),
          .register
            { status := 0, first := ⟨5, 0, false⟩, second := ⟨0, 0, true⟩, error := false }] ∧
      frames .serviceOnly = (frames .all).filter Frame.isService ∧
      frames .dataOnly = (frames .all).filter Frame.isData := by
  intro operations frames
  have hkeeps : ∀ operation ∈ operations, operation.keepsMode = true := by
    simp [operations, Operation.keepsMode]
  obtain ⟨hservice, hdata, -⟩ := mode_only_filters 0 (ChaCha.ofSeed 0) hkeeps
  refine ⟨hkeeps, ?_, hservice, hdata⟩
  decide +kernel

end Chip
end PixelChip

import PixelChip.Proofs.Chip.Demand
import PixelChip.Proofs.Chip.History
import PixelChip.Random.Draw

/-!
# When the queue is processed does not matter

Commands that are pushed in batches, each followed by a call of `process`, give the same data frames
and leave the same detector however they are cut.  A call does two things to the detector: it runs
the commands, and it clears the marks of registers that were written.  Nothing reads these marks, so
that the calls between batches do not show.  Slots and service frames do depend on the calls, but
they never change what a trigger reads.
-/

namespace PixelChip
namespace Detector

variable {G : Type}

/-! ## Marks of written registers -/

/-- What is read does not depend on the marks. -/
@[simp] lemma read_drained (detector : Detector G) : detector.drained.read = detector.read := rfl

/-- Detectors that are equal up to marks hold the same data. -/
lemma eq_of_drained_eq {detector detector' : Detector G}
    (h : detector.drained = detector'.drained) :
    detector.registers.values = detector'.registers.values ∧
      detector.matrix = detector'.matrix ∧
      detector.thresholds = detector'.thresholds ∧
      detector.generator = detector'.generator := by
  unfold drained RegisterFile.drain at h
  simp only [Detector.mk.injEq, RegisterFile.mk.injEq] at h
  obtain ⟨⟨hvalues, -⟩, hmatrix, hthresholds, -, -, hgenerator, -⟩ := h
  exact ⟨hvalues, hmatrix, hthresholds, hgenerator⟩

lemma write_drained (detector : Detector G) (write : RegisterWrite) :
    (detector.drained.write write).drained = (detector.write write).drained := by
  unfold Detector.write
  by_cases hportal : write.address.toNat = Field.pixPortal.address
  · rw [if_pos hportal, if_pos hportal]
    rfl
  · rw [if_neg hportal, if_neg hportal]
    unfold RegisterFile.set
    by_cases haddress : write.address.toNat < 138
    · rw [dif_pos haddress, dif_pos haddress]
      rfl
    · rw [dif_neg haddress, dif_neg haddress]
      rfl

variable [Generator G]

lemma convert_drained (detector : Detector G) (address : UInt16) :
    (detector.drained.convert address).drained = (detector.convert address).drained := by
  unfold Detector.convert
  by_cases hadc : address.toNat = Field.adcRead.address
  · rw [if_pos hadc, if_pos hadc]
    unfold RegisterFile.set
    by_cases haddress : address.toNat < 138
    · simp only [dif_pos haddress]
      rfl
    · simp only [dif_neg haddress]
      rfl
  · rw [if_neg hadc, if_neg hadc]
    rfl

/-- Starting the generator anew changes nothing else. -/
lemma restartGenerator_eq (detector : Detector G) :
    detector.restartGenerator =
      { detector with generator := detector.restartGenerator.generator } := by
  unfold restartGenerator
  split <;> rfl

lemma restartGenerator_drained (detector : Detector G) :
    detector.drained.restartGenerator = detector.restartGenerator.drained := by
  have hsame : detector.drained.seeded = detector.seeded := rfl
  unfold restartGenerator
  rw [hsame]
  split <;> rfl

lemma refreshThresholds_drained (detector : Detector G) :
    detector.drained.refreshThresholds = detector.refreshThresholds.drained := by
  have hhold : detector.drained.thresholdsHold = detector.thresholdsHold := rfl
  have hcompute :
      Thresholds.compute (.ofRegisters detector.drained.registers)
          detector.drained.randomThresholds detector.drained.generator =
        Thresholds.compute (.ofRegisters detector.registers) detector.randomThresholds
          detector.generator := rfl
  unfold refreshThresholds
  rw [hhold, hcompute]
  split
  · rfl
  · -- Kept closed, since the thresholds of all pixels would be compared one by one.
    generalize Thresholds.compute (.ofRegisters detector.registers) detector.randomThresholds
      detector.generator = computed
    rfl

/-- How a detector that is ready for a trigger reads its pixels. -/
def scan (detector : Detector G) : List Hit × G :=
  Scan.hits (detector.respond (injection detector.registers)) detector.matrix
    (enabledCoreCols detector.registers) detector.generator

lemma scan_drained (detector : Detector G) : detector.drained.scan = detector.scan := by
  have hrespond : ∀ injection, detector.drained.respond injection = detector.respond injection := by
    intro injection
    cases injection <;> rfl
  unfold scan
  rw [hrespond]
  rfl

lemma trigger_eq (detector : Detector G) (trigger : Trigger) :
    detector.trigger trigger =
      (header trigger :: detector.ready.scan.1.map fun hit => .synced (.hit hit),
        { detector.ready with generator := detector.ready.scan.2 }) := rfl

/-- A trigger does not look at the marks, and leaves them as they are. -/
lemma trigger_drained (detector : Detector G) (trigger : Trigger) :
    detector.drained.trigger trigger =
      ((detector.trigger trigger).1, (detector.trigger trigger).2.drained) := by
  have hready : detector.drained.ready = detector.ready.drained := by
    rw [ready, restartGenerator_drained, refreshThresholds_drained, ready]
  rw [trigger_eq, trigger_eq, hready, scan_drained]
  rfl

/-- **One command** has the same effect whatever the marks, up to the marks that it leaves. -/
lemma execute_drained (detector : Detector G) (command : Command) :
    (detector.drained.execute command).drained = (detector.execute command).drained := by
  cases command with
  | read read => exact convert_drained detector read.address
  | write write => exact write_drained detector write
  | trigger trigger =>
      show (detector.drained.trigger trigger).2.drained = _
      rw [trigger_drained]
      rfl
  | _ => rfl

lemma demands_drained (detector : Detector G) (command : Command) :
    detector.drained.demands command = detector.demands command := by
  cases command with
  | trigger trigger =>
      unfold demands
      simp only [trigger_drained, read_drained]
  | _ => rfl

lemma executeAll_drained (detector : Detector G) (commands : List Command) :
    (detector.drained.executeAll commands).drained = (detector.executeAll commands).drained := by
  induction commands generalizing detector with
  | nil => rfl
  | cons command commands ih =>
      calc
        ((detector.drained.execute command).executeAll commands).drained =
            ((detector.drained.execute command).drained.executeAll commands).drained := (ih _).symm
        _ = ((detector.execute command).drained.executeAll commands).drained := by
            rw [execute_drained]
        _ = ((detector.execute command).executeAll commands).drained := ih _

lemma demandsAll_drained (detector : Detector G) (commands : List Command) :
    detector.drained.demandsAll commands = detector.demandsAll commands := by
  induction commands generalizing detector with
  | nil => rfl
  | cons command commands ih =>
      rw [demandsAll, demandsAll, demands_drained, ← ih (detector.drained.execute command),
        execute_drained, ih (detector.execute command)]

/-! ## Commands in two parts -/

lemma executeAll_append (detector : Detector G) (commands commands' : List Command) :
    detector.executeAll (commands ++ commands') =
      (detector.executeAll commands).executeAll commands' :=
  List.foldl_append

lemma demandsAll_append (detector : Detector G) (commands commands' : List Command) :
    detector.demandsAll (commands ++ commands') =
      detector.demandsAll commands ++ (detector.executeAll commands).demandsAll commands' := by
  induction commands generalizing detector with
  | nil => rfl
  | cons command commands ih =>
      rw [List.cons_append, demandsAll, ih, demandsAll, List.append_assoc]
      rfl

/-- The data frames that some commands make, in order. -/
def dataFrames (detector : Detector G) (commands : List Command) : List DataFrame :=
  (detector.demandsAll commands).filterMap Readout.Demand.data?

lemma dataFrames_drained (detector : Detector G) (commands : List Command) :
    detector.drained.dataFrames commands = detector.dataFrames commands := by
  rw [dataFrames, demandsAll_drained, dataFrames]

lemma dataFrames_append (detector : Detector G) (commands commands' : List Command) :
    detector.dataFrames (commands ++ commands') =
      detector.dataFrames commands ++ (detector.executeAll commands).dataFrames commands' := by
  rw [dataFrames, demandsAll_append, List.filterMap_append, dataFrames, dataFrames]

end Detector

/-! ## Data frames that are sent -/

namespace Readout

/-- Service frames are no data frames. -/
lemma useSlot_data (look : UInt16 → UInt16) (readout : Readout) :
    (readout.useSlot look).output.items.toList.filterMap Frame.data? =
      readout.output.items.toList.filterMap Frame.data? := by
  obtain ⟨-, h⟩ | ⟨-, -, h⟩ | ⟨-, -, h⟩ := readout.useSlot_cases look
  · rw [h]
  · rw [h]
  · rw [h]
    simp [Frame.data?]

lemma meet_data (readout : Readout) (demand : Demand) :
    (demand.meet readout).output.items.toList.filterMap Frame.data? =
      readout.output.items.toList.filterMap Frame.data? ++
        if readout.mode.sendsData then demand.data?.toList else [] := by
  cases demand with
  | request address => simp [Demand.meet, Demand.data?, Readout.request]
  | slot look => simpa [Demand.meet, Demand.data?] using useSlot_data look readout
  | send look frame =>
      refine (useSlot_data look _).trans ?_
      by_cases hmode : readout.mode.sendsData = true
      · rw [if_pos hmode, if_pos hmode, output_push, List.filterMap_append]
        rfl
      · rw [if_neg hmode, if_neg hmode, List.append_nil]

/-- Where only data frames are demanded, they are what is demanded. -/
lemma filterMap_data?_send (look : UInt16 → UInt16) (frames : List DataFrame) :
    (frames.map (Demand.send look)).filterMap Demand.data? = frames := by
  rw [List.filterMap_map]
  exact List.filterMap_some

/-- The data frames that are demanded are sent, in order, unless the mode suppresses them. -/
lemma meetAll_data (readout : Readout) (demands : List Demand) :
    (readout.meetAll demands).output.items.toList.filterMap Frame.data? =
      readout.output.items.toList.filterMap Frame.data? ++
        if readout.mode.sendsData then demands.filterMap Demand.data? else [] := by
  induction demands generalizing readout with
  | nil => simp
  | cons demand demands ih =>
      rw [meetAll_cons, ih, meet_data, (meet_settings readout demand).1, List.append_assoc]
      congr 1
      by_cases hmode : readout.mode.sendsData = true
      · simp only [if_pos hmode]
        cases hdata : demand.data? <;> simp [hdata]
      · simp only [if_neg hmode, List.append_nil]

end Readout

/-! ## Batches -/

namespace Chip

variable {G : Type}

/-- Commands pushed in batches, with a call of `process` after each.  An empty batch is one call
more. -/
def Operation.batched (batches : List (List Command)) : List Operation :=
  batches.flatMap fun batch => batch.map push ++ [process]

variable [Generator G] {chip : Chip G}

lemma process_data (chip : Chip G) :
    chip.process.frames.filterMap Frame.data? =
      if chip.readout.mode.sendsData then chip.detector.dataFrames chip.queue else [] := by
  rw [process_frames, Readout.meetAll_data, filterMap_demands fun _ => rfl]
  rfl

lemma run_pushes (chip : Chip G) (commands : List Command) :
    chip.run (commands.map .push) =
      { chip with queue := chip.queue ++ commands.filter chip.inlet.admits } := by
  induction commands generalizing chip with
  | nil => simp
  | cons command commands ih =>
      have hpush : Operation.apply chip (.push command) =
          { chip with queue := chip.queue ++ [command].filter chip.inlet.admits } :=
        push_snd chip command
      have hqueue : chip.queue ++ [command].filter chip.inlet.admits ++
            commands.filter chip.inlet.admits =
          chip.queue ++ (command :: commands).filter chip.inlet.admits := by
        rw [List.append_assoc, ← List.filter_append]
        rfl
      rw [List.map_cons, run_cons, ih, hpush]
      exact congrArg (fun queue => ({ chip with queue } : Chip G)) hqueue

lemma emitted_pushes (chip : Chip G) (commands : List Command) :
    chip.emitted (commands.map .push) = [] := by
  unfold emitted
  induction commands generalizing chip with
  | nil => rfl
  | cons command commands ih => exact ih _

/-- What a batch and the call after it do: its commands run through the detector, their data frames
are sent, and the mode stays. -/
lemma process_batch (hqueue : chip.queue = []) (batch : List Command) :
    ∃ readout : Readout, readout.mode = chip.readout.mode ∧
      (chip.run (batch.map .push)).process =
        { chip with
          detector := (chip.detector.executeAll (batch.filter chip.inlet.admits)).drained
          readout } ∧
      (chip.run (batch.map .push)).process.frames.filterMap Frame.data? =
        if chip.readout.mode.sendsData then
          chip.detector.dataFrames (batch.filter chip.inlet.admits) else [] := by
  rw [process_data, run_pushes, hqueue, List.nil_append, process_eq]
  refine ⟨_, ?_, rfl, rfl⟩
  exact (Readout.meetAll_settings _ _).1

/-- **Batches are as good as one call**: the data frames are those of all commands in a row, and the
detector ends where these lead it, up to marks. -/
theorem run_batched (hqueue : chip.queue = []) (batches : List (List Command)) :
    (chip.emitted (Operation.batched batches)).filterMap Frame.data? =
        (if chip.readout.mode.sendsData then
          chip.detector.dataFrames (batches.flatten.filter chip.inlet.admits) else []) ∧
      (chip.run (Operation.batched batches)).detector.drained =
        (chip.detector.executeAll (batches.flatten.filter chip.inlet.admits)).drained := by
  induction batches generalizing chip with
  | nil =>
      refine ⟨?_, rfl⟩
      split <;> rfl
  | cons batch batches ih =>
      obtain ⟨readout, hmode, hcall, hframes⟩ := process_batch hqueue batch
      have hrun : chip.run (Operation.batched (batch :: batches)) =
          (chip.run (batch.map .push)).process.run (Operation.batched batches) := by
        rw [Operation.batched, List.flatMap_cons, List.append_assoc, run_append]
        rfl
      have hemitted : chip.emitted (Operation.batched (batch :: batches)) =
          (chip.run (batch.map .push)).process.frames ++
            (chip.run (batch.map .push)).process.emitted (Operation.batched batches) := by
        unfold emitted
        rw [Operation.batched, List.flatMap_cons, List.append_assoc, collected_append]
        exact congrArg (· ++ _) (emitted_pushes chip batch)
      obtain ⟨hdata, hlast⟩ := @ih (chip.run (batch.map .push)).process (by rw [hcall, hqueue])
      rw [hrun, hemitted, List.filterMap_append, hframes, hdata, hlast, hcall, List.flatten_cons,
        List.filter_append]
      constructor
      · show _ ++ (if readout.mode.sendsData then _ else _) = _
        rw [hmode, Detector.dataFrames_drained, Detector.dataFrames_append]
        split
        · rfl
        · rfl
      · rw [Detector.executeAll_append]
        exact Detector.executeAll_drained _ _

/-- **Results do not depend on when the queue is processed.**  However the same commands are cut
into batches, with any number of empty ones, the data frames of all calls are the same, and so are
the registers, the pixels, the thresholds and the generator in the end.  The generator is any that is
deterministic; without a seed its state holds what the clock shows at each trigger. -/
theorem batches_do_not_matter (hqueue : chip.queue = []) {first second : List (List Command)}
    (hsame : first.flatten = second.flatten) :
    let left := (chip.run (Operation.batched first)).detector
    let right := (chip.run (Operation.batched second)).detector
    (chip.emitted (Operation.batched first)).filterMap Frame.data? =
        (chip.emitted (Operation.batched second)).filterMap Frame.data? ∧
      left.registers.values = right.registers.values ∧
      left.matrix = right.matrix ∧
      left.thresholds = right.thresholds ∧
      left.generator = right.generator := by
  intro left right
  obtain ⟨hdata, hlast⟩ := run_batched hqueue first
  obtain ⟨hdata', hlast'⟩ := run_batched hqueue second
  have hdetector : left.drained = right.drained := by
    rw [hlast, hlast', hsame]
  refine ⟨?_, Detector.eq_of_drained_eq hdetector⟩
  rw [hdata, hdata', hsame]

/-- Two triggers with a register write between them, in three batches of which one is empty, and in
a single one.  Every slot makes a service frame due and no core column is enabled. -/
theorem batches_of_triggers :
    let chip : Chip ChaCha := (powerOn 0 .all (ChaCha.ofSeed 0)).run
      [.setSeed 7, .setInterval 1,
        .changeRegisters fun registers => { registers with values := .replicate 138 0 }]
    let trigger (tag : Fin 32) : Command := .trigger (Trigger.ofPattern 7 tag)
    let write : Command := .write ⟨0, 12, .single 100⟩
    let first := [[trigger 3], [], [write, trigger 4]]
    let second := [[trigger 3, write, trigger 4]]
    chip.queue = [] ∧ first.flatten = second.flatten ∧
      (chip.emitted (Operation.batched first)).filterMap Frame.data? =
        [.synced (.header ⟨0, 3, 0⟩), .synced (.header ⟨0, 4, 0⟩)] ∧
      (chip.emitted (Operation.batched first)).filterMap Frame.data? =
        (chip.emitted (Operation.batched second)).filterMap Frame.data? ∧
      (chip.run (Operation.batched first)).detector.registers.values =
        (chip.run (Operation.batched second)).detector.registers.values := by
  intro chip trigger write first second
  have hqueue : chip.queue = [] := rfl
  have hsame : first.flatten = second.flatten := rfl
  obtain ⟨hdata, hvalues, -⟩ := batches_do_not_matter hqueue hsame
  refine ⟨hqueue, hsame, ?_, hdata, hvalues⟩
  decide +kernel

end Chip
end PixelChip

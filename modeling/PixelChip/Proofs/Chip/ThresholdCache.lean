import PixelChip.Proofs.Chip.Batches
import PixelChip.Proofs.Chip.Write

/-!
# Kept thresholds do not show

A detector keeps the thresholds of its last trigger and computes them anew only when a threshold DAC
has changed since.  What is kept does not say whether it is random.  It is never mistaken all the
same: the one setting that decides on it throws it away, so that thresholds that are kept without
random ones are those that would be computed (`Coherent`), and computing these draws nothing.

So a trigger cannot tell a detector with such thresholds from one that lost them
(`ready_withoutThresholds`), and nothing else looks at thresholds (`IgnoresThresholds`).  Two chips
of which one lost its thresholds stay the same in all else, step by step and along every run.
-/

namespace PixelChip

/-! ## Thresholds without deviations -/

namespace Thresholds

/-- Every pixel of the matrix has the nominal threshold of its column. -/
lemma charge_uniform (settings : ThresholdSettings) {col row : Nat} (hcol : col < 400)
    (hrow : row < 192) : (uniform settings).charge col row = settings.nominal col := by
  have hindex := Matrix.index_lt hcol hrow
  have hplace : Matrix.index col row / 192 = col := by
    unfold Matrix.index
    omega
  unfold charge uniform
  rw [Vector.getElem?_ofFn, dif_pos hindex, Option.getD_some, hplace]

end Thresholds

namespace Detector

/-- The field that holds the threshold DAC of a front end. -/
def thresholdField : FrontEnd → Field
  | .sync => .vthSync
  | .lin => .vthLin
  | .diff => .vth1Diff

lemma dac_ofRegisters (registers : RegisterFile) (frontEnd : FrontEnd) :
    (ThresholdSettings.ofRegisters registers).dac frontEnd =
      registers.field (thresholdField frontEnd) := by
  cases frontEnd <;> rfl

variable {G : Type}

/-- The detector without the thresholds that it kept. -/
def withoutThresholds (detector : Detector G) : Detector G :=
  { detector with thresholds := none }

/-- Thresholds that are kept while there are no random ones are those that would be computed. -/
def Coherent (detector : Detector G) : Prop :=
  detector.randomThresholds = false →
    ∀ thresholds, detector.thresholds = some thresholds → thresholds = .uniform thresholds.settings

lemma coherent_of_none {detector : Detector G} (h : detector.thresholds = none) :
    detector.Coherent := by
  intro _ thresholds hkept
  rw [h] at hkept
  exact absurd hkept (by simp)

/-- A change that does not look at thresholds and leaves them as they are. -/
structure IgnoresThresholds (change : Detector G → Detector G) : Prop where
  commutes : ∀ detector, change detector.withoutThresholds = (change detector).withoutThresholds
  thresholds : ∀ detector, (change detector).thresholds = detector.thresholds
  randomThresholds : ∀ detector, (change detector).randomThresholds = detector.randomThresholds

lemma IgnoresThresholds.coherent {change : Detector G → Detector G}
    (h : IgnoresThresholds change) {detector : Detector G} (hcoherent : detector.Coherent) :
    (change detector).Coherent := by
  intro hnominal thresholds hkept
  rw [h.randomThresholds] at hnominal
  rw [h.thresholds] at hkept
  exact hcoherent hnominal thresholds hkept

lemma ignoresThresholds_write (write : RegisterWrite) :
    IgnoresThresholds fun detector : Detector G => detector.write write where
  commutes := by
    intro detector
    by_cases hportal : write.address.toNat = 0
    · rw [write_of_portal hportal, write_of_portal hportal]
      rfl
    · have hsame : detector.withoutThresholds.registers = detector.registers := rfl
      rw [write_of_ne_zero hportal, write_of_ne_zero hportal, hsame]
      cases detector.registers.set write.address.toNat write.data.first <;> rfl
  thresholds := fun detector => by rw [write_eq]
  randomThresholds := fun detector => by rw [write_eq]

lemma ignoresThresholds_drained : IgnoresThresholds (drained (G := G)) :=
  ⟨fun _ => rfl, fun _ => rfl, fun _ => rfl⟩

/-! ## Losing what was kept -/

/-- Two detectors are the same, or one of them lost thresholds that it can compute again. -/
inductive SameButKept : Detector G → Detector G → Prop where
  | same (detector : Detector G) : SameButKept detector detector
  | lost {detector : Detector G} (hnominal : detector.randomThresholds = false)
      (hcoherent : detector.Coherent) : SameButKept detector detector.withoutThresholds

variable {detector lossy : Detector G}

lemma SameButKept.withoutThresholds_eq (h : SameButKept detector lossy) :
    lossy.withoutThresholds = detector.withoutThresholds := by
  cases h with
  | same => rfl
  | lost hnominal hcoherent => rfl

/-- A change that ignores thresholds does not bring the loss to light. -/
lemma SameButKept.change (h : SameButKept detector lossy) {change : Detector G → Detector G}
    (hignores : IgnoresThresholds change) : SameButKept (change detector) (change lossy) := by
  cases h with
  | same => exact .same _
  | lost hnominal hcoherent =>
      rw [hignores.commutes]
      exact .lost ((hignores.randomThresholds detector).trans hnominal) (hignores.coherent hcoherent)

lemma SameButKept.read_eq (h : SameButKept detector lossy) : lossy.read = detector.read := by
  cases h with
  | same => rfl
  | lost hnominal hcoherent => rfl

variable [Generator G]

/-- A conversion reaches nothing but registers and the generator. -/
lemma convert_eq (detector : Detector G) (address : UInt16) :
    detector.convert address =
      { detector with
        registers := (detector.convert address).registers
        generator := (detector.convert address).generator } := by
  unfold convert
  split
  · obtain ⟨reading, generator⟩ := Generator.reading detector.generator
    cases hset : detector.registers.set address.toNat reading <;> simp only [hset]
  · rfl

lemma ignoresThresholds_convert (address : UInt16) :
    IgnoresThresholds fun detector : Detector G => detector.convert address where
  commutes := by
    intro detector
    have hregisters : detector.withoutThresholds.registers = detector.registers := rfl
    have hgenerator : detector.withoutThresholds.generator = detector.generator := rfl
    unfold convert
    rw [hregisters, hgenerator]
    split
    · obtain ⟨reading, generator⟩ := Generator.reading detector.generator
      cases hset : detector.registers.set address.toNat reading <;> simp only [hset] <;> rfl
    · rfl
  thresholds := fun detector => by rw [convert_eq]
  randomThresholds := fun detector => by rw [convert_eq]

/-! ## Triggers -/

/-- Without random thresholds a trigger works with the nominal ones, and draws none. -/
lemma refreshThresholds_of_nominal (hnominal : detector.randomThresholds = false)
    (hcoherent : detector.Coherent) :
    detector.refreshThresholds =
      { detector with thresholds := some (.uniform (.ofRegisters detector.registers)) } := by
  unfold refreshThresholds
  cases hhold : detector.thresholdsHold with
  | false => rw [if_neg Bool.false_ne_true, hnominal, Thresholds.compute_of_not_random]
  | true =>
      rw [if_pos rfl]
      unfold thresholdsHold at hhold
      cases hkept : detector.thresholds with
      | none =>
          rw [hkept] at hhold
          exact absurd hhold Bool.false_ne_true
      | some thresholds =>
          rw [hkept] at hhold
          have hsettings : thresholds.settings = .ofRegisters detector.registers :=
            of_decide_eq_true hhold
          have hthresholds := hcoherent hnominal thresholds hkept
          rw [← hsettings, ← hthresholds, ← hkept]

/-- A trigger works with the nominal thresholds of the threshold DACs. -/
lemma ready_of_nominal (hnominal : detector.randomThresholds = false)
    (hcoherent : detector.Coherent) :
    detector.ready =
      { detector with
        thresholds := some (.uniform (.ofRegisters detector.registers))
        generator := detector.restartGenerator.generator } := by
  unfold ready
  rw [restartGenerator_eq]
  exact refreshThresholds_of_nominal hnominal hcoherent

/-- **A trigger does not see whether thresholds were kept**, unless they are random. -/
lemma ready_withoutThresholds (hnominal : detector.randomThresholds = false)
    (hcoherent : detector.Coherent) : detector.withoutThresholds.ready = detector.ready := by
  have hthrown : detector.withoutThresholds.ready = _ :=
    ready_of_nominal hnominal (coherent_of_none rfl)
  have hgenerator : detector.withoutThresholds.restartGenerator.generator =
      detector.restartGenerator.generator := by
    have hseeded : detector.withoutThresholds.seeded = detector.seeded := rfl
    unfold restartGenerator
    rw [hseeded]
    split <;> rfl
  rw [hthrown, hgenerator, ready_of_nominal hnominal hcoherent]
  rfl

lemma trigger_withoutThresholds (hnominal : detector.randomThresholds = false)
    (hcoherent : detector.Coherent) (trigger : Trigger) :
    detector.withoutThresholds.trigger trigger = detector.trigger trigger := by
  rw [trigger_eq, trigger_eq, ready_withoutThresholds hnominal hcoherent]

/-- The threshold that a trigger uses for a pixel, before noise and trim. -/
def usedThreshold (detector : Detector G) (col row : Nat) : Float :=
  detector.ready.baseThreshold col row

/-- **Without random thresholds** it is that of the threshold DAC as it stands. -/
lemma usedThreshold_of_nominal (hnominal : detector.randomThresholds = false)
    (hcoherent : detector.Coherent) {col row : Nat} (hcol : col < 400) (hrow : row < 192) :
    detector.usedThreshold col row =
      Calibration.chargeOfThreshold
        (.ofNat (detector.registers.field (thresholdField (.ofCol col))).toNat) (.ofCol col) := by
  have huniform := Thresholds.charge_uniform (.ofRegisters detector.registers) hcol hrow
  unfold usedThreshold baseThreshold
  rw [ready_of_nominal hnominal hcoherent, Option.elim_some, huniform]
  unfold ThresholdSettings.nominal
  simp only [dac_ofRegisters]

lemma ready_randomThresholds (detector : Detector G) :
    detector.ready.randomThresholds = detector.randomThresholds := by
  have hrestart : detector.restartGenerator.randomThresholds = detector.randomThresholds := by
    rw [restartGenerator_eq]
  rw [← hrestart]
  unfold ready refreshThresholds
  split
  · rfl
  · generalize Thresholds.compute (.ofRegisters detector.restartGenerator.registers)
      detector.restartGenerator.randomThresholds detector.restartGenerator.generator = computed
    rfl

/-- The thresholds that a trigger leaves behind are those that it used. -/
lemma Coherent.trigger (h : detector.Coherent) (trigger : Trigger) :
    (detector.trigger trigger).2.Coherent := by
  intro hnominal thresholds hkept
  have hbefore : detector.randomThresholds = false := by
    rw [← ready_randomThresholds]
    exact hnominal
  have hready : detector.ready.thresholds = some thresholds := hkept
  rw [ready_of_nominal hbefore h] at hready
  obtain rfl := Option.some.inj hready
  rfl

/-! ## Commands -/

/-- **What is kept stays right**, whatever is executed. -/
lemma Coherent.execute (h : detector.Coherent) (command : Command) :
    (detector.execute command).Coherent := by
  cases command with
  | read read => exact (ignoresThresholds_convert read.address).coherent h
  | write write => exact (ignoresThresholds_write write).coherent h
  | trigger trigger => exact h.trigger trigger
  | _ => exact h

lemma Coherent.executeAll (h : detector.Coherent) (commands : List Command) :
    (detector.executeAll commands).Coherent := by
  induction commands generalizing detector with
  | nil => exact h
  | cons command commands ih => exact ih (h.execute command)

/-- Commands do not switch random thresholds on or off. -/
lemma executeAll_randomThresholds (detector : Detector G) (commands : List Command) :
    (detector.executeAll commands).randomThresholds = detector.randomThresholds := by
  induction commands generalizing detector with
  | nil => rfl
  | cons command commands ih =>
      refine (ih _).trans ?_
      cases command with
      | read read => exact (ignoresThresholds_convert read.address).randomThresholds detector
      | write write => exact (ignoresThresholds_write write).randomThresholds detector
      | trigger trigger => exact ready_randomThresholds detector
      | _ => rfl

lemma SameButKept.trigger_eq (h : SameButKept detector lossy) (trigger : Trigger) :
    lossy.trigger trigger = detector.trigger trigger := by
  cases h with
  | same => rfl
  | lost hnominal hcoherent => exact trigger_withoutThresholds hnominal hcoherent trigger

/-- **One command** asks both for the same, and does the same to both. -/
lemma SameButKept.execute (h : SameButKept detector lossy) (command : Command) :
    SameButKept (detector.execute command) (lossy.execute command) ∧
      lossy.demands command = detector.demands command := by
  cases command with
  | read read => exact ⟨h.change (ignoresThresholds_convert read.address), rfl⟩
  | write write => exact ⟨h.change (ignoresThresholds_write write), rfl⟩
  | trigger trigger =>
      have htrigger := h.trigger_eq trigger
      have hafter : lossy.execute (.trigger trigger) = detector.execute (.trigger trigger) :=
        congrArg Prod.snd htrigger
      refine ⟨?_, ?_⟩
      · rw [hafter]
        exact .same _
      · unfold demands
        simp only [htrigger]
  | _ => exact ⟨h, rfl⟩

/-- **Commands in a row** ask both for the same. -/
lemma SameButKept.executeAll (h : SameButKept detector lossy) (commands : List Command) :
    SameButKept (detector.executeAll commands) (lossy.executeAll commands) ∧
      lossy.demandsAll commands = detector.demandsAll commands := by
  induction commands generalizing detector lossy with
  | nil => exact ⟨h, rfl⟩
  | cons command commands ih =>
      obtain ⟨hstep, hdemands⟩ := h.execute command
      obtain ⟨hrest, hdemandsAll⟩ := ih hstep
      refine ⟨hrest, ?_⟩
      rw [demandsAll, demandsAll, hdemands, hdemandsAll]

end Detector

/-! ## Chips -/

namespace Chip

variable {G : Type}

/-- The chip without the thresholds that it kept. -/
def withoutThresholds (chip : Chip G) : Chip G :=
  { chip with detector := chip.detector.withoutThresholds }

variable {chip lossy : Chip G}

/-- Two chips are the same, or one of them lost thresholds that it can compute again. -/
structure SameButKept (chip lossy : Chip G) : Prop where
  id_eq : lossy.id = chip.id
  queue_eq : lossy.queue = chip.queue
  readout_eq : lossy.readout = chip.readout
  detector : Detector.SameButKept chip.detector lossy.detector

lemma SameButKept.inlet_eq (h : SameButKept chip lossy) : lossy.inlet = chip.inlet := by
  unfold inlet
  rw [h.id_eq]

lemma SameButKept.frames_eq (h : SameButKept chip lossy) : lossy.frames = chip.frames := by
  unfold frames
  rw [h.readout_eq]

lemma SameButKept.bytes_eq (h : SameButKept chip lossy) : lossy.bytes = chip.bytes := by
  unfold bytes
  rw [h.readout_eq]

/-- A change that ignores thresholds does not bring the loss to light. -/
lemma SameButKept.changeDetector (h : SameButKept chip lossy)
    {change : Detector G → Detector G} (hignores : Detector.IgnoresThresholds change) :
    SameButKept { chip with detector := change chip.detector }
      { lossy with detector := change lossy.detector } :=
  { h with detector := h.detector.change hignores }

/-- Nor does a change of the readout. -/
lemma SameButKept.changeReadout (h : SameButKept chip lossy) (change : Readout → Readout) :
    SameButKept { chip with readout := change chip.readout }
      { lossy with readout := change lossy.readout } :=
  { h with readout_eq := congrArg change h.readout_eq }

variable [Generator G]

lemma SameButKept.demands_eq (h : SameButKept chip lossy) : lossy.demands = chip.demands := by
  obtain ⟨hdetector, hdemands⟩ := h.detector.executeAll chip.queue
  unfold demands
  rw [h.queue_eq, hdemands, hdetector.read_eq]

lemma SameButKept.process (h : SameButKept chip lossy) :
    SameButKept chip.process lossy.process := by
  obtain ⟨hdetector, -⟩ := h.detector.executeAll chip.queue
  rw [process_eq, process_eq, h.demands_eq, h.queue_eq, h.readout_eq]
  exact ⟨h.id_eq, rfl, rfl, hdetector.change Detector.ignoresThresholds_drained⟩

/-- **One operation** does the same to both chips. -/
lemma SameButKept.apply (h : SameButKept chip lossy) (operation : Operation) :
    SameButKept (operation.apply chip) (operation.apply lossy) := by
  cases operation with
  | receive bytes =>
      have hqueue : lossy.queue ++ lossy.inlet.admitted bytes =
          chip.queue ++ chip.inlet.admitted bytes := by rw [h.queue_eq, h.inlet_eq]
      exact { h with queue_eq := hqueue }
  | push command =>
      show SameButKept (chip.push command).2 (lossy.push command).2
      rw [push_snd, push_snd, h.inlet_eq, h.queue_eq]
      exact { h with queue_eq := rfl }
  | process => exact h.process
  | takeFrames => exact h.changeReadout Readout.fresh
  | clear =>
      have hreadout := h.changeReadout fun readout => { readout.fresh with pending := [] }
      exact { hreadout with queue_eq := rfl }
  | setId id => exact { h with id_eq := rfl }
  | setMode mode => exact h.changeReadout fun readout => { readout with mode }
  | setInterval interval => exact h.changeReadout fun readout => readout.setInterval interval
  | setRandomThresholds on =>
      -- Both throw away what they kept.
      have hsame : Detector.SameButKept
          { chip.detector.withoutThresholds with randomThresholds := on }
          { lossy.detector.withoutThresholds with randomThresholds := on } := by
        rw [h.detector.withoutThresholds_eq]
        exact .same _
      exact { h with detector := hsame }
  | setPixelNoise on =>
      have hignores : Detector.IgnoresThresholds fun d : Detector G =>
          { d with pixelNoise := on } := ⟨fun _ => rfl, fun _ => rfl, fun _ => rfl⟩
      exact h.changeDetector hignores
  | setSeed seed =>
      have hignores : Detector.IgnoresThresholds fun d : Detector G =>
          { d with generator := Generator.ofSeed seed, seeded := true } :=
        ⟨fun _ => rfl, fun _ => rfl, fun _ => rfl⟩
      exact h.changeDetector hignores
  | changeRegisters change =>
      have hignores : Detector.IgnoresThresholds fun d : Detector G =>
          { d with registers := change d.registers } :=
        ⟨fun _ => rfl, fun _ => rfl, fun _ => rfl⟩
      exact h.changeDetector hignores
  | changeMatrix change =>
      have hignores : Detector.IgnoresThresholds fun d : Detector G =>
          { d with matrix := change d.matrix } := ⟨fun _ => rfl, fun _ => rfl, fun _ => rfl⟩
      exact h.changeDetector hignores

/-- **Along every run** the two chips stay the same but for what they keep. -/
lemma SameButKept.run (h : SameButKept chip lossy) (operations : List Operation) :
    SameButKept (chip.run operations) (lossy.run operations) := by
  induction operations generalizing chip lossy with
  | nil => exact h
  | cons operation operations ih => exact ih (h.apply operation)

/-- What the calls of `process` show along a run is the same if each of them shows the same. -/
lemma SameButKept.collected_eq {α : Type} {observe : Chip G → List α}
    (hobserve : ∀ chip lossy : Chip G, SameButKept chip lossy → observe lossy = observe chip)
    (h : SameButKept chip lossy) (operations : List Operation) :
    lossy.collected observe operations = chip.collected observe operations := by
  induction operations generalizing chip lossy with
  | nil => rfl
  | cons operation operations ih =>
      have hshown : operation.shown observe lossy = operation.shown observe chip := by
        cases operation with
        | process => exact hobserve chip lossy h
        | _ => rfl
      rw [collected, collected, hshown, ih (h.apply operation)]

lemma SameButKept.emitted_eq (h : SameButKept chip lossy) (operations : List Operation) :
    lossy.emitted operations = chip.emitted operations :=
  h.collected_eq (fun _ _ hsame => hsame.process.frames_eq) operations

lemma SameButKept.sent_eq (h : SameButKept chip lossy) (operations : List Operation) :
    lossy.sent operations = chip.sent operations :=
  h.collected_eq (fun _ _ hsame => hsame.process.bytes_eq) operations

/-! ## Runs -/

/-- **What a chip keeps stays right**, whatever is done to it. -/
lemma coherent_apply (h : chip.detector.Coherent) (operation : Operation) :
    (operation.apply chip).detector.Coherent := by
  cases operation with
  | process =>
      show chip.process.detector.Coherent
      rw [process_detector]
      exact Detector.ignoresThresholds_drained.coherent (h.executeAll chip.queue)
  | push command =>
      show (chip.push command).2.detector.Coherent
      rw [push_snd]
      exact h
  | setRandomThresholds on => exact Detector.coherent_of_none rfl
  | _ => exact h

lemma coherent_run (h : chip.detector.Coherent) (operations : List Operation) :
    (chip.run operations).detector.Coherent := by
  induction operations generalizing chip with
  | nil => exact h
  | cons operation operations ih => exact ih (coherent_apply h operation)

/-- **Lost thresholds do not show.**  A chip went through any operations and has no random
thresholds.  Whatever is done from there on, it makes no difference whether it still has the
thresholds that it kept: the same frames are made and the same bytes sent, and what waits, the
readout with its counters, the registers, the pixels and the generator are the same.  Each trigger
in the queue uses for every pixel the nominal threshold of the DAC of its front end as it stands
at that moment. -/
theorem lost_thresholds_do_not_show (id : UInt8) (mode : OutputMode) (generator : G)
    (before : List Operation)
    (hnominal : ((powerOn id mode generator).run before).detector.randomThresholds = false) :
    let chip := (powerOn id mode generator).run before
    let lossy := chip.withoutThresholds
    (∀ operations : List Operation,
      lossy.emitted operations = chip.emitted operations ∧
      lossy.sent operations = chip.sent operations ∧
      (lossy.run operations).queue = (chip.run operations).queue ∧
      (lossy.run operations).readout = (chip.run operations).readout ∧
      (lossy.run operations).detector.withoutThresholds =
        (chip.run operations).detector.withoutThresholds) ∧
    ∀ (earlier later : List Command) (trigger : Trigger),
      chip.queue = earlier ++ .trigger trigger :: later →
      let detector := (executeAll earlier chip.detector chip.readout.fresh).1
      ∀ col < 400, ∀ row < 192,
        detector.usedThreshold col row =
          Calibration.chargeOfThreshold
            (.ofNat (detector.registers.field
              (Detector.thresholdField (FrontEnd.ofCol col))).toNat) (FrontEnd.ofCol col) := by
  intro chip lossy
  have hcoherent : chip.detector.Coherent := coherent_run (Detector.coherent_of_none rfl) before
  have hsame : SameButKept chip lossy := ⟨rfl, rfl, rfl, .lost hnominal hcoherent⟩
  refine ⟨?_, ?_⟩
  · intro operations
    have hrun := hsame.run operations
    exact ⟨hsame.emitted_eq operations, hsame.sent_eq operations, hrun.queue_eq, hrun.readout_eq,
      hrun.detector.withoutThresholds_eq⟩
  · intro earlier later trigger _ detector col hcol row hrow
    have hdetector : detector = chip.detector.executeAll earlier :=
      congrArg Prod.fst (executeAll_eq earlier chip.detector chip.readout.fresh)
    have hstill : detector.randomThresholds = false := by
      rw [hdetector, Detector.executeAll_randomThresholds]
      exact hnominal
    have hright : detector.Coherent := by
      rw [hdetector]
      exact hcoherent.executeAll earlier
    exact Detector.usedThreshold_of_nominal hstill hright hcol hrow

/-- A first trigger keeps thresholds.  Then commands enable the first pixel, set up an analog charge
and change the threshold DAC of its front end: a second trigger works with the changed one. -/
theorem lost_thresholds_do_not_show_after_trigger :
    let trigger (tag : Fin 32) : Command := .trigger (Trigger.ofPattern 7 tag)
    let setup : List Command :=
      [.write ⟨0, 0, .single 1⟩, .write ⟨0, 32, .single 1⟩, .write ⟨0, 41, .single 500⟩,
        .write ⟨0, 12, .single 100⟩]
    let before : List Operation :=
      [.setSeed 7, .changeRegisters fun registers => { registers with values := .replicate 138 0 },
        .push (trigger 3), .process] ++ setup.map .push ++ [.push (trigger 4)]
    let chip := (powerOn 0 .all (ChaCha.ofSeed 0)).run before
    let detector := (executeAll setup chip.detector chip.readout.fresh).1
    chip.detector.randomThresholds = false ∧ chip.detector.thresholds.isSome = true ∧
      Detector.enabledCoreCols detector.registers = [0] ∧
      detector.matrix.pixel? 0 0 = some ⟨1⟩ ∧
      chip.withoutThresholds.emitted [.process] = chip.emitted [.process] ∧
      detector.usedThreshold 0 0 = Calibration.chargeOfThreshold (.ofNat 100) .sync := by
  intro trigger setup before chip detector
  have hnominal : chip.detector.randomThresholds = false := by decide +kernel
  have hkept : chip.detector.thresholds.isSome = true := by decide +kernel
  have hqueue : chip.queue = setup ++ trigger 4 :: [] := by decide +kernel
  have hcolumns : Detector.enabledCoreCols detector.registers = [0] := by decide +kernel
  have hpixel : detector.matrix.pixel? 0 0 = some ⟨1⟩ := by decide +kernel
  have hdac : (detector.registers.field .vthSync).toNat = 100 := by decide +kernel
  obtain ⟨hsame, hused⟩ := lost_thresholds_do_not_show 0 .all (ChaCha.ofSeed 0) before hnominal
  refine ⟨hnominal, hkept, hcolumns, hpixel, (hsame [.process]).1, ?_⟩
  have hthreshold := hused setup [] (Trigger.ofPattern 7 4) hqueue 0 (by decide) 0 (by decide)
  rw [← hdac]
  exact hthreshold

end Chip
end PixelChip

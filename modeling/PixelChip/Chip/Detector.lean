import PixelChip.Chip.Scan
import PixelChip.Chip.Threshold
import PixelChip.Link.Command

/-!
# The detector

The part of a chip that commands configure and triggers read: registers, pixels, thresholds and
the generator of random values. Nothing here depends on how frames are sent.

Thresholds are computed at a trigger, and again only when a threshold DAC has changed since.
-/

namespace PixelChip

/-- What commands configure and triggers read. -/
structure Detector (G : Type) where
  registers : RegisterFile
  matrix : Matrix
  /-- The thresholds of the last trigger, if it had any that still hold. -/
  thresholds : Option Thresholds
  /-- Whether pixels deviate from the nominal threshold. -/
  randomThresholds : Bool
  /-- Whether the threshold of a pixel deviates at each event. -/
  pixelNoise : Bool
  generator : G
  /-- Whether a seed was set. Without one, the generator starts anew at every trigger. -/
  seeded : Bool

/-- How a trigger stimulates the pixels. -/
inductive Injection where
  /-- Every pixel answers with the same time. -/
  | digital
  /-- A charge in electrons goes into every pixel. -/
  | analog (charge : Float)

namespace Detector

variable {G : Type}

/-- The detector at power-on. -/
def powerOn (generator : G) : Detector G where
  registers := .powerOn
  matrix := .cleared
  thresholds := none
  randomThresholds := false
  pixelNoise := false
  generator := generator
  seeded := false

/-! ## Registers and pixels -/

/-- Double column and row that the region registers select. -/
def selectedPair (detector : Detector G) : Nat × Nat :=
  ((detector.registers.field .regionCol).toNat, (detector.registers.field .regionRow).toNat)

/-- The value that the chip reports for an address. Address 0 stands for the selected pixel pair,
and reads as 0 when that lies outside of the matrix. -/
def read (detector : Detector G) (address : UInt16) : UInt16 :=
  if address.toNat = Field.pixPortal.address then
    let (doubleCol, row) := detector.selectedPair
    (detector.matrix.pair doubleCol row).toOption.getD 0
  else detector.registers.get address.toNat

/-- Writes values to consecutive rows of a double column, up to the first that is outside of the
matrix. -/
def writeRows (doubleCol : Nat) : (row : Nat) → List UInt16 → Matrix → Matrix
  | _, [], matrix => matrix
  | row, value :: values, matrix =>
    match matrix.setPair doubleCol row value with
    | .ok matrix => writeRows doubleCol (row + 1) values matrix
    | .error _ => matrix

/-- Executes a register write. At address 0 the values go to the selected pixel pair and the rows
after it; any other address takes the first value. A write outside of the registers or the matrix
has no effect. -/
def write (detector : Detector G) (write : RegisterWrite) : Detector G :=
  if write.address.toNat = Field.pixPortal.address then
    let (doubleCol, row) := detector.selectedPair
    { detector with matrix := writeRows doubleCol row write.data.values detector.matrix }
  else
    match detector.registers.set write.address.toNat write.data.first with
    | .ok registers => { detector with registers }
    | .error _ => detector

/-- Converts with the monitoring ADC, if the address is that of its result. -/
def convert [Generator G] (detector : Detector G) (address : UInt16) : Detector G :=
  if address.toNat = Field.adcRead.address then
    let (reading, generator) := Generator.reading detector.generator
    match detector.registers.set address.toNat reading with
    | .ok registers => { detector with registers, generator }
    | .error _ => { detector with generator }
  else detector

/-! ## Triggers -/

/-- The field that holds the enable bit of a core column, and the place of the bit. -/
def enableBit (coreCol : Nat) : Field × Nat :=
  if coreCol ≤ 15 then (.enCoreColSync, coreCol)
  else if coreCol ≤ 31 then (.enCoreColLin1, coreCol - 16)
  else if coreCol ≤ 32 then (.enCoreColLin2, coreCol - 32)
  else if coreCol ≤ 48 then (.enCoreColDiff1, coreCol - 33)
  else (.enCoreColDiff2, coreCol - 49)

/-- Whether a core column takes part in triggers. -/
def coreColEnabled (registers : RegisterFile) (coreCol : Nat) : Bool :=
  let (field, place) := enableBit coreCol
  (registers.field field).toNat.testBit place

/-- The core columns that take part in triggers. -/
def enabledCoreCols (registers : RegisterFile) : List Nat :=
  (List.range 50).filter (coreColEnabled registers)

/-- The field of the feedback DAC of a front end. -/
def feedbackField : FrontEnd → Field
  | .sync => .ibiasKrumSync
  | .lin => .krumCurrLin
  | .diff => .vffDiff

/-- The stimulus that the registers select. A difference of levels that is not positive injects
nothing. -/
def injection (registers : RegisterFile) : Injection :=
  if registers.field .injModeDig = 1 then .digital
  else
    let difference := (registers.field .vcalHigh).toNat - (registers.field .vcalMed).toNat
    .analog (Calibration.positivePart (Calibration.chargeOfInjection (.ofNat difference)))

/-- Limits a time over threshold to what the chip reports of a pixel above threshold. -/
def clampTot (tot : Float) : UInt8 :=
  (if tot < 1.0 then 1.0 else if tot > 15.0 then 15.0 else tot).toUInt8

/-- The threshold of a pixel before noise and trim. -/
def baseThreshold (detector : Detector G) (col row : Nat) : Float :=
  detector.thresholds.elim 0.0 (·.charge col row)

/-- The time over threshold of a pixel for an analog charge: 0 unless the charge is positive and
exceeds the threshold, trimmed and with noise if there is any. -/
def analogTot [Generator G] (detector : Detector G) (injected : Float) (col row : Nat)
    (pixel : Pixel) (generator : G) : UInt8 × G :=
  if injected ≤ 0.0 then (0, generator)
  else
    let (noise, generator) :=
      if detector.pixelNoise then
        let (z, generator) := Generator.normal generator
        (Calibration.pixelNoise * z, generator)
      else (0.0, generator)
    let trim := Float.ofNat pixel.tdac.toNat * 10.0 - 80.0
    let threshold := detector.baseThreshold col row + noise + trim
    if injected ≤ threshold then (0, generator)
    else
      let frontEnd := FrontEnd.ofCol col
      let dac := Float.ofNat (detector.registers.field (feedbackField frontEnd)).toNat
      (clampTot (Calibration.totOfCharge dac (injected - threshold).floor frontEnd), generator)

/-- How the pixels answer to a stimulus. -/
def respond [Generator G] (detector : Detector G) : Injection → Scan.Response G
  | .digital => fun _ _ _ generator => (4, generator)
  | .analog charge => detector.analogTot charge

/-- Starts the generator anew from the clock, unless a seed was set. -/
def restartGenerator [Generator G] (detector : Detector G) : Detector G :=
  if detector.seeded then detector
  else { detector with generator := Generator.restart detector.generator }

/-- Whether there are thresholds and they are those of the threshold DACs. -/
def thresholdsHold (detector : Detector G) : Bool :=
  detector.thresholds.any (·.settings = ThresholdSettings.ofRegisters detector.registers)

/-- Brings the thresholds in step with the threshold DACs. -/
def refreshThresholds [Generator G] (detector : Detector G) : Detector G :=
  if detector.thresholdsHold then detector
  else
    let (thresholds, generator) :=
      Thresholds.compute (.ofRegisters detector.registers) detector.randomThresholds
        detector.generator
    { detector with thresholds := some thresholds, generator }

/-- The detector that a trigger reads: its generator is started anew if no seed was set, and its
thresholds are in step with the threshold DACs. -/
def ready [Generator G] (detector : Detector G) : Detector G :=
  detector.restartGenerator.refreshThresholds

/-- The header that starts the data of a trigger. -/
def header (trigger : Trigger) : DataFrame :=
  .synced (.header { triggerId := 0, triggerTag := trigger.tag, bcid := 0 })

/-- The data frames of a trigger: its header and the hits. -/
def trigger [Generator G] (detector : Detector G) (trigger : Trigger) :
    List DataFrame × Detector G :=
  let detector := detector.ready
  let (hits, generator) :=
    Scan.hits (detector.respond (injection detector.registers)) detector.matrix
      (enabledCoreCols detector.registers) detector.generator
  (header trigger :: hits.map fun hit => .synced (.hit hit), { detector with generator })

end Detector
end PixelChip

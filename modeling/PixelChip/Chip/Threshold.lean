import PixelChip.Chip.Calibration
import PixelChip.Chip.Matrix
import PixelChip.Chip.Register
import PixelChip.Random.Generator

/-!
# Thresholds of the pixels

The threshold of a pixel follows from the threshold DAC of its front end. With random thresholds
each pixel deviates from that nominal value by a draw of its own, and never falls below 0.
-/

namespace PixelChip

/-- Settings of the threshold DACs, one for each front end. -/
structure ThresholdSettings where
  sync : UInt16
  lin : UInt16
  diff : UInt16
  deriving DecidableEq, Repr

namespace ThresholdSettings

/-- The settings that the registers hold. -/
def ofRegisters (registers : RegisterFile) : ThresholdSettings where
  sync := registers.field .vthSync
  lin := registers.field .vthLin
  diff := registers.field .vth1Diff

/-- The setting of a front end. -/
def dac (settings : ThresholdSettings) : FrontEnd → UInt16
  | .sync => settings.sync
  | .lin => settings.lin
  | .diff => settings.diff

/-- The threshold, in electrons, of the pixels of a column when none deviates. -/
def nominal (settings : ThresholdSettings) (col : Nat) : Float :=
  let frontEnd := FrontEnd.ofCol col
  Calibration.chargeOfThreshold (.ofNat (settings.dac frontEnd).toNat) frontEnd

end ThresholdSettings

/-- Thresholds of all pixels, in electrons, with the settings that they were computed for. The
order is that of the matrix. -/
structure Thresholds where
  settings : ThresholdSettings
  charges : Vector Float 76800

namespace Thresholds

/-- The threshold of the pixel at a column and row. -/
def charge (thresholds : Thresholds) (col row : Nat) : Float :=
  thresholds.charges[Matrix.index col row]?.getD 0.0

/-- Thresholds without deviations. -/
def uniform (settings : ThresholdSettings) : Thresholds where
  settings := settings
  charges := Vector.ofFn fun place => settings.nominal (place.val / 192)

/-- Thresholds that deviate by the given draws, one for each pixel. -/
def dispersed (settings : ThresholdSettings) (draws : Array Float) : Thresholds where
  settings := settings
  charges := Vector.ofFn fun place =>
    let col := place.val / 192
    let dispersion := Calibration.thresholdDispersion (FrontEnd.ofCol col)
    Calibration.positivePart (settings.nominal col + dispersion * draws[place.val]?.getD 0.0)

/-- Thresholds for some settings. Random ones draw one deviation for each pixel, column by column
and by ascending row. -/
def compute {G : Type} [Generator G] (settings : ThresholdSettings) (random : Bool)
    (generator : G) : Thresholds × G :=
  if random then
    let (draws, generator) := Generator.normals 76800 generator
    (dispersed settings draws, generator)
  else (uniform settings, generator)

section

variable {G : Type} [Generator G] (settings : ThresholdSettings)

/-- Thresholds that are not random draw nothing. -/
theorem compute_of_not_random (generator : G) :
    compute settings false generator = (uniform settings, generator) := by
  rw [compute, if_neg Bool.false_ne_true]

theorem compute_of_random {generator generator' : G} {draws : Array Float}
    (h : Generator.normals 76800 generator = (draws, generator')) :
    compute settings true generator = (dispersed settings draws, generator') := by
  rw [compute, if_pos rfl, h]

end

end Thresholds
end PixelChip

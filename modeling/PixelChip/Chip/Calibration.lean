import PixelChip.Chip.FrontEnd

/-!
# Analog response of the front ends

Linear fits that relate DAC settings to charge in electrons. Each formula is evaluated in the order
in which it is written, since floating-point results depend on it.
-/

namespace PixelChip
namespace Calibration

/-- Injection capacitance in fF. -/
def injectionCapacitance : Float := 8.2

/-- Electrons for one fF times one mV. -/
def electrons : Float := 10.0 / 1.6

/-- The number itself where it is positive, otherwise 0. -/
def positivePart (x : Float) : Float :=
  if x > 0.0 then x else 0.0

/-- Injected charge for a difference of calibration levels. -/
def chargeOfInjection (vcal : Float) : Float :=
  let millivolts := -1.0 + 0.215 * vcal
  injectionCapacitance * millivolts * electrons

/-- Difference of calibration levels that injects a charge, rounded down and limited to 32 bits. -/
def injectionOfCharge (charge : Float) : UInt32 :=
  let millivolts := charge / injectionCapacitance / electrons + 1.0
  (positivePart (millivolts / 0.215)).toUInt32

/-- Slope of the threshold over its DAC setting. -/
def thresholdSlope : FrontEnd → Float
  | .sync => 10.3
  | .lin => 45.7
  | .diff => 3.2

/-- Threshold at DAC setting 0. -/
def thresholdOffset : FrontEnd → Float
  | .sync => -241.6
  | .lin => -15910.0
  | .diff => 298.0

/-- Threshold in electrons for a threshold DAC setting. -/
def chargeOfThreshold (vth : Float) (frontEnd : FrontEnd) : Float :=
  thresholdOffset frontEnd + thresholdSlope frontEnd * vth

/-- Threshold DAC setting for a threshold in electrons, rounded down and limited to 32 bits. -/
def thresholdOfCharge (charge : Float) (frontEnd : FrontEnd) : UInt32 :=
  (positivePart ((charge - thresholdOffset frontEnd) / thresholdSlope frontEnd)).toUInt32

/-- Time over threshold for a charge above threshold, with the feedback DAC at `dac`. Not limited
to the range that the chip reports. -/
def totOfCharge (dac charge : Float) (frontEnd : FrontEnd) : Float :=
  match frontEnd with
  | .sync => (-0.07 * dac + 15.6 + 0.0008 * charge + 0.03) / 2.0
  | .lin => (-0.17 * dac + 17.2 + 0.0008 * charge + 0.2) / 2.0
  | .diff => (-0.12 * dac + 18.5 + 0.0004 * charge + 3.6) / 2.0

/-- Standard deviation of the thresholds of different pixels, in electrons. -/
def thresholdDispersion : FrontEnd → Float
  | .sync => 30.0
  | .lin => 100.0
  | .diff => 240.0

/-- Standard deviation of the threshold of one pixel from event to event, in electrons. -/
def pixelNoise : Float := 150.0

end Calibration
end PixelChip

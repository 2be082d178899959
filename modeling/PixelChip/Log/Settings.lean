import PixelChip.Config.Settings
import PixelChip.Log.Record

/-!
# What reading the settings logs

A variable whose text denotes no value is warned of and otherwise treated as if it were unset.
-/

namespace PixelChip

/-- The record of a setting whose text is refused, if it is. -/
def Reading.refusedRecord? {α : Type} (reading : Reading α) (name message : String)
    (shown : String → String) : Option LogRecord :=
  reading.refused?.map fun text =>
    { level := .warn
      part := "config"
      message := message
      values := [("var", name), ("value", shown text)] }

namespace Settings

/-- The records of reading all variables, in the order in which they are read. -/
def refusedRecords (environment : Environment) : List LogRecord :=
  let r := readings environment
  let setting := "Ignoring unparsable setting"
  let switch := "Ignoring unparsable flag"
  let mode := "Ignoring unknown output mode"
  let trimmed (text : String) := String.ofList (Text.trim text.toList)
  [r.listen.refusedRecord? "RD53_LISTEN" setting id,
   r.chipId.refusedRecord? "RD53_CHIP_ID" setting id,
   r.outputMode.refusedRecord? "RD53_OUTPUT_MODE" mode trimmed,
   r.serviceInterval.refusedRecord? "RD53_SERVICE_INTERVAL" setting id,
   r.randomThresholds.refusedRecord? "RD53_RANDOM_THRESHOLDS" switch id,
   r.pixelNoise.refusedRecord? "RD53_PIXEL_NOISE" switch id,
   r.processPeriod.refusedRecord? "RD53_PROCESS_PERIOD_MS" setting id,
   r.seed.refusedRecord? "RD53_SEED" setting id].filterMap id

end Settings
end PixelChip

import PixelChip.Chip
import PixelChip.Log.Record

/-!
# What a chip logs

A chip logs what it executes, what that changes and what it refuses. The records are functions of
the states of the chip, so that the chip itself need not keep them.
-/

namespace PixelChip
namespace Execution

/-- A record of the chip. -/
def record (level : LogLevel) (message : String) (values : List (String × String)) : LogRecord where
  level := level
  part := "emulator"
  message := message
  values := values

/-- The record of a command that is executed. -/
def executingRecord (command : Command) : LogRecord :=
  record .trace "Executing" [("cmd", command.text)]

/-- The record of a reading of the monitoring ADC. -/
def conversionRecord (reading : UInt16) : LogRecord :=
  record .debug "Simulated ADC conversion" [("reading", Text.decimal reading.toNat)]

/-- A switch in words. -/
def switchText (on : Bool) : String :=
  if on then "true" else "false"

/-- The record of thresholds that are computed for some settings. -/
def thresholdsRecord (settings : ThresholdSettings) (random : Bool) : LogRecord :=
  record .debug "Initialized pixel thresholds"
    [("vth_sync", Text.decimal settings.sync.toNat), ("vth_lin", Text.decimal settings.lin.toNat),
     ("vth_diff", Text.decimal settings.diff.toNat), ("random", switchText random)]

/-- The record of a write that is refused, if one is: of a register outside of the file, or of the
first row outside of the matrix. -/
def refusedRecord? {G : Type} (detector : Detector G) (write : RegisterWrite) : Option LogRecord :=
  if write.address.toNat = Field.pixPortal.address then
    let (doubleCol, row) := detector.selectedPair
    write.data.values.zipIdx.findSome? fun (value, i) =>
      match detector.matrix.setPair doubleCol (row + i) value with
      | .ok _ => none
      | .error error => some (record .warn ("Pixel write rejected: " ++ error.message) [])
  else
    match detector.registers.set write.address.toNat write.data.first with
    | .ok _ => none
    | .error error =>
      some (record .warn ("Register write rejected: " ++ error.message)
        [("address", Text.decimal write.address.toNat)])

/-- The text of a reported register. -/
def slotText (slot : RegisterSlot) : String :=
  "RegisterSlot \x7b address: " ++ Text.decimal slot.address.toNat ++ ", value: "
    ++ Text.decimal slot.value.toNat ++ ", auto_read: " ++ switchText slot.autoRead ++ " \x7d"

/-- The record of a frame that is sent, if it is a service frame. -/
def serviceRecord? : Frame → Option LogRecord
  | .register frame =>
    some (record .trace "Service frame"
      [("slots", "[" ++ slotText frame.first ++ ", " ++ slotText frame.second ++ "]")])
  | .blank | .data _ => none

/-- The records of the frames that one readout has put out and an earlier one had not. -/
def sentRecords (earlier later : Readout) : List LogRecord :=
  (later.output.items.toList.drop earlier.output.items.size).filterMap serviceRecord?

variable {G : Type}

/-- The records of the effect that a command has on the detector. -/
def effectRecords (before after : Detector G) : Command → List LogRecord
  | .read read =>
    if read.address.toNat = Field.adcRead.address then
      [conversionRecord (after.registers.field .adcRead)]
    else []
  | .write write => (refusedRecord? before write).toList
  | .trigger _ =>
    if before.thresholdsHold then []
    else [thresholdsRecord (.ofRegisters before.registers) before.randomThresholds]
  | .ecr | .bcr | .noop | .sync | .pulse _ | .cal _ => []

/-- The records of commands that are executed in order, with the states they lead to. -/
def commandRecords [Generator G] :
    List Command → Detector G → Readout → List LogRecord × Detector G × Readout
  | [], detector, readout => ([], detector, readout)
  | command :: commands, detector, readout =>
    let (detector', readout') := Chip.execute detector readout command
    let (records, last) := commandRecords commands detector' readout'
    (executingRecord command :: effectRecords detector detector' command
      ++ sentRecords readout readout' ++ records, last)

/-- The records of processing the queue of a chip. -/
def processRecords [Generator G] (chip : Chip G) : List LogRecord :=
  let (records, detector, readout) :=
    commandRecords chip.queue chip.detector { chip.readout with output := .empty }
  let processed := chip.process
  let updated := detector.registers.drain.1
  let frames := Text.decimal processed.frames.length
  let bytes := Text.decimal processed.bytes.length
  records ++ sentRecords readout processed.readout
    ++ (if updated.isEmpty then []
      else [record .debug "Registers updated"
        [("registers", "[" ++ ", ".intercalate (updated.map Text.decimal) ++ "]")]])
    ++ [{ level := .trace, part := "protocol::channel", message := "Encoded channel"
          values := [("kind", Packet.kind Frame), ("items", frames), ("bytes", bytes)] }]
    ++ (if chip.queue.isEmpty then []
      else [record .debug "Processed command queue"
        [("commands", Text.decimal chip.queue.length), ("frames", frames), ("bytes", bytes)]])

/-- The record of clearing a chip. -/
def clearedRecord (chip : Chip G) : LogRecord :=
  record .debug "Cleared emulator queues" [("dropped", Text.decimal chip.queue.length)]

/-- The records of commands that do not get through an inlet. A command for another chip is not
looked at any further. -/
def droppedRecords (inlet : Inlet) (commands : List Command) : List LogRecord :=
  commands.filterMap fun command =>
    if !command.addresses inlet.chipId then
      some (record .trace "Dropping command for another chip"
        [("chip_id", Text.decimal inlet.chipId.toNat), ("cmd", command.text)])
    else if !inlet.connected then some (record .debug "Emulator gone, command dropped" [])
    else none

end Execution
end PixelChip

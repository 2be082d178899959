import PixelChip.Chip.Detector
import PixelChip.Chip.Readout

/-!
# The chip

A chip takes commands into a queue and executes all of them, in order, when it is told to process
the queue. The frames of one call replace those of the call before. A call that uses no slot
counts as one, so that requests are answered even when no trigger arrives.

Commands reach the queue through an inlet, which drops those that are for other chips.
-/

namespace PixelChip

/-- Where commands enter a chip. -/
structure Inlet where
  /-- ID of the chip behind the inlet. -/
  chipId : UInt8
  /-- Whether there still is a chip behind it. -/
  connected : Bool

namespace Inlet

/-- Whether a command gets through. -/
def admits (inlet : Inlet) (command : Command) : Bool :=
  command.addresses inlet.chipId && inlet.connected

/-- The commands that get through of those that a buffer decodes to. -/
def admitted (inlet : Inlet) (bytes : List UInt8) : List Command :=
  (Channel.ofBytes bytes).items.toList.filter inlet.admits

/-- The inlet after its chip is gone. -/
def disconnected (inlet : Inlet) : Inlet :=
  { inlet with connected := false }

end Inlet

/-- A chip with its queue of commands. -/
structure Chip (G : Type) where
  id : UInt8
  /-- Commands not executed yet, in order. -/
  queue : List Command
  detector : Detector G
  readout : Readout

namespace Chip

variable {G : Type}

/-- A chip at power-on. -/
def powerOn (id : UInt8) (mode : OutputMode) (generator : G) : Chip G where
  id := id
  queue := []
  detector := .powerOn generator
  readout := .powerOn mode

/-- The inlet of the chip. -/
def inlet (chip : Chip G) : Inlet where
  chipId := chip.id
  connected := true

/-- The frames of the last call of `process` that were not taken. -/
def frames (chip : Chip G) : List Frame :=
  chip.readout.output.items.toList

/-- The wire encoding of the frames. -/
def bytes (chip : Chip G) : List UInt8 :=
  chip.readout.output.bytes

/-! ## Settings -/

def setId (chip : Chip G) (id : UInt8) : Chip G :=
  { chip with id }

def setMode (chip : Chip G) (mode : OutputMode) : Chip G :=
  { chip with readout := { chip.readout with mode } }

def setInterval (chip : Chip G) (interval : UInt32) : Chip G :=
  { chip with readout := chip.readout.setInterval interval }

/-- Makes thresholds deviate or not. They are computed anew at the next trigger either way. -/
def setRandomThresholds (chip : Chip G) (on : Bool) : Chip G :=
  { chip with detector := { chip.detector with randomThresholds := on, thresholds := none } }

def setPixelNoise (chip : Chip G) (on : Bool) : Chip G :=
  { chip with detector := { chip.detector with pixelNoise := on } }

/-- Starts the generator anew from a seed. From then on triggers leave it running. -/
def setSeed [Generator G] (chip : Chip G) (seed : UInt64) : Chip G :=
  { chip with
    detector := { chip.detector with generator := Generator.ofSeed seed, seeded := true } }

/-! ## Commands -/

/-- Queues a command if the inlet admits it, and says whether it did. -/
def push (chip : Chip G) (command : Command) : Bool × Chip G :=
  if chip.inlet.admits command then (true, { chip with queue := chip.queue ++ [command] })
  else (false, chip)

/-- Queues the commands in a buffer that the inlet admits, and says how many they are. -/
def receive (chip : Chip G) (bytes : List UInt8) : Nat × Chip G :=
  let commands := chip.inlet.admitted bytes
  (commands.length, { chip with queue := chip.queue ++ commands })

/-- Executes one command. -/
def execute [Generator G] (detector : Detector G) (readout : Readout) :
    Command → Detector G × Readout
  | .read read => (detector.convert read.address, readout.request read.address)
  | .write write => (detector.write write, readout)
  | .trigger trigger =>
    let (frames, detector) := detector.trigger trigger
    (detector, frames.foldl (Readout.emit detector.read) readout)
  | .ecr | .bcr | .noop | .sync | .pulse _ | .cal _ => (detector, readout)

/-- Executes commands in order. -/
def executeAll [Generator G] : List Command → Detector G → Readout → Detector G × Readout
  | [], detector, readout => (detector, readout)
  | command :: commands, detector, readout =>
    let (detector, readout) := execute detector readout command
    executeAll commands detector readout

/-- Executes the queue. -/
def process [Generator G] (chip : Chip G) : Chip G :=
  let (detector, readout) :=
    executeAll chip.queue chip.detector { chip.readout with output := .empty }
  let readout :=
    if readout.slots = chip.readout.slots then readout.useSlot detector.read else readout
  { chip with
    queue := []
    detector := { detector with registers := detector.registers.drain.2 }
    readout := { readout with output := readout.output.encode } }

/-- Takes the frames out and leaves the output empty. -/
def takeFrames (chip : Chip G) : List Frame × Chip G :=
  (chip.frames, { chip with readout := { chip.readout with output := .empty } })

/-- Drops queued commands, requests and output. -/
def clear (chip : Chip G) : Chip G :=
  { chip with
    queue := []
    readout := { chip.readout with pending := [], output := .empty } }

end Chip
end PixelChip

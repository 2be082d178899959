import PixelChip.Chip
import PixelChip.Proofs.Command.RoundTrip

/-!
# Runs of a chip

Everything that a host, a configuration or a caller with access to registers and pixels can do to
a chip is an `Operation`.  A chip is `Reachable` if some sequence of them leads to it from
power-on, with any generator.

A caller gets hold of registers and pixels as a whole, so that direct writes are arbitrary changes
of them.  Of the commands that are pushed without decoding, only such count as a checking
constructor builds.
-/

namespace PixelChip
namespace Chip

/-- One thing that can be done to a chip. -/
inductive Operation where
  | receive (bytes : List UInt8)
  | push (command : Command)
  | process
  | takeFrames
  | clear
  | setId (id : UInt8)
  | setMode (mode : OutputMode)
  | setInterval (interval : UInt32)
  | setRandomThresholds (on : Bool)
  | setPixelNoise (on : Bool)
  | setSeed (seed : UInt64)
  /-- Direct writes to registers. -/
  | changeRegisters (change : RegisterFile → RegisterFile)
  /-- Direct writes to pixels. -/
  | changeMatrix (change : Matrix → Matrix)

/-- A command that is pushed was built by a checking constructor. -/
def Operation.Valid : Operation → Prop
  | push command => command.Checked
  | _ => True

variable {G : Type} [Generator G]

/-- The chip after an operation. -/
def Operation.apply (chip : Chip G) : Operation → Chip G
  | receive bytes => (chip.receive bytes).2
  | push command => (chip.push command).2
  | process => chip.process
  | takeFrames => chip.takeFrames.2
  | clear => chip.clear
  | setId id => chip.setId id
  | setMode mode => chip.setMode mode
  | setInterval interval => chip.setInterval interval
  | setRandomThresholds on => chip.setRandomThresholds on
  | setPixelNoise on => chip.setPixelNoise on
  | setSeed seed => chip.setSeed seed
  | changeRegisters change =>
    { chip with detector := { chip.detector with registers := change chip.detector.registers } }
  | changeMatrix change =>
    { chip with detector := { chip.detector with matrix := change chip.detector.matrix } }

/-- The chip after some operations, in order. -/
def run (chip : Chip G) (operations : List Operation) : Chip G :=
  operations.foldl Operation.apply chip

/-- Some valid operations lead to the chip from power-on. -/
inductive Reachable : Chip G → Prop where
  | powerOn (id : UInt8) (mode : OutputMode) (generator : G) :
      Reachable (.powerOn id mode generator)
  | step {chip : Chip G} (operation : Operation) (hvalid : operation.Valid)
      (h : Reachable chip) : Reachable (operation.apply chip)

/-- Valid operations lead from a reachable chip to a reachable chip. -/
lemma Reachable.run {chip : Chip G} (h : Reachable chip) {operations : List Operation}
    (hvalid : ∀ operation ∈ operations, operation.Valid) : Reachable (chip.run operations) := by
  induction operations generalizing chip with
  | nil => exact h
  | cons operation operations ih =>
      refine ih (h.step operation (hvalid operation List.mem_cons_self)) ?_
      exact fun other hother => hvalid other (List.mem_cons_of_mem operation hother)

end Chip
end PixelChip

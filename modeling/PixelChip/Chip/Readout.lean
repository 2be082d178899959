import PixelChip.Chip.OutputMode
import PixelChip.Link.Channel

/-!
# Sending frames

Frames leave a chip in slots. Every data frame of a trigger uses a slot, whether the output mode
lets it out or not, and after every `interval` slots a service frame is due, which reports two
registers: first those that were asked for, then those under a cursor that goes round all
addresses. A service frame uses no slot, and one that the output mode suppresses reports nothing,
so that requests wait for the next.
-/

namespace PixelChip

/-- What decides on the next frames, and the frames made so far. -/
structure Readout where
  /-- Addresses asked for and not reported yet, in order. -/
  pending : List UInt16
  /-- Address that the next slot without a request reports. -/
  cursor : Nat
  /-- Slots from one service frame to the next, at least 1. -/
  interval : UInt32
  /-- Slots used since the last service frame was due. -/
  sinceService : Nat
  /-- Slots used since power-on. -/
  slots : Nat
  mode : OutputMode
  output : Channel Frame

namespace Readout

/-- The cursor goes back to 0 when it reaches this address. -/
def cursorEnd : Nat := 511

/-- Slots between service frames unless set otherwise. -/
def defaultInterval : UInt32 := 10

/-- The readout at power-on. -/
def powerOn (mode : OutputMode) : Readout where
  pending := []
  cursor := 0
  interval := defaultInterval
  sinceService := 0
  slots := 0
  mode := mode
  output := .empty

/-- Sets the interval, raised to 1 if it is 0. -/
def setInterval (readout : Readout) (interval : UInt32) : Readout :=
  { readout with interval := max interval 1 }

/-- Asks for a register. -/
def request (readout : Readout) (address : UInt16) : Readout :=
  { readout with pending := readout.pending ++ [address] }

/-- The next report: the oldest request, or else the register under the cursor. `look` gives the
value at an address. -/
def nextSlot (look : UInt16 → UInt16) (readout : Readout) : RegisterSlot × Readout :=
  match readout.pending with
  | address :: pending =>
    ({ address, value := look address, autoRead := false }, { readout with pending })
  | [] =>
    let address := UInt16.ofNat readout.cursor
    let next := readout.cursor + 1
    ({ address, value := look address, autoRead := true },
     { readout with cursor := if next < cursorEnd then next else 0 })

/-- The service frame that is due. -/
def serviceFrame (look : UInt16 → UInt16) (readout : Readout) : RegisterFrame × Readout :=
  let (first, readout) := readout.nextSlot look
  let (second, readout) := readout.nextSlot look
  ({ status := 0, first, second, error := false }, readout)

/-- Puts a frame out. -/
def push (readout : Readout) (frame : Frame) : Readout :=
  { readout with output := readout.output.push frame }

/-- Uses a slot, and sends a service frame if that makes one due. -/
def useSlot (look : UInt16 → UInt16) (readout : Readout) : Readout :=
  let used := readout.sinceService + 1
  let readout := { readout with slots := readout.slots + 1 }
  if used < readout.interval.toNat then { readout with sinceService := used }
  else
    let readout := { readout with sinceService := 0 }
    if readout.mode.sendsService then
      let (frame, readout) := readout.serviceFrame look
      readout.push (.register frame)
    else readout

/-- Sends a data frame in a slot of its own. -/
def emit (look : UInt16 → UInt16) (readout : Readout) (frame : DataFrame) : Readout :=
  let readout := if readout.mode.sendsData then readout.push (.data frame) else readout
  readout.useSlot look

end Readout
end PixelChip

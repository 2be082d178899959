import PixelChip.Chip
import PixelChip.Link.StreamDecoder

/-!
# Sessions

A session is the time during which one host is connected to a chip. The bytes that the host sends
arrive in pieces, commands go to the chip as they are decoded, and at every tick of the processing
period the chip executes its queue and the frames go to the host. When the host hangs up, what it
sent before is answered.

The chip is cleared when a session starts and keeps its registers and pixels from one to the next.
-/

namespace PixelChip

/-- A host that is connected to a chip. -/
structure Session (G : Type) where
  chip : Chip G
  /-- What has arrived from the host and is not decoded yet. -/
  commands : StreamDecoder Command
  /-- Frames sent to the host so far, in order. -/
  sent : List Frame

/-- What happens in a session. -/
inductive SessionEvent where
  /-- A piece of what the host sends arrives. -/
  | arrive (bytes : List UInt8)
  /-- The next command, if one has arrived completely, goes to the chip. -/
  | handOver
  /-- The processing period is over. -/
  | tick
  deriving DecidableEq, Repr

/-- Queues those of some commands that the inlet admits. -/
def Chip.pushAll {G : Type} (chip : Chip G) (commands : List Command) : Chip G :=
  commands.foldl (fun chip command => (chip.push command).2) chip

namespace Session

variable {G : Type}

/-- A host connects. -/
def start (chip : Chip G) : Session G where
  chip := chip.clear
  commands := .empty
  sent := []

/-- The chip executes its queue, and the frames go to the host. -/
def answer [Generator G] (session : Session G) : Session G :=
  let (frames, chip) := session.chip.process.takeFrames
  { session with chip, sent := session.sent ++ frames }

/-- One event. -/
def step [Generator G] (session : Session G) : SessionEvent → Session G
  | .arrive bytes => { session with commands := session.commands.feed bytes }
  | .handOver =>
    let (command, commands) := session.commands.next
    { session with chip := session.chip.pushAll command.toList, commands }
  | .tick => session.answer

/-- Several events, one after another. -/
def run [Generator G] (session : Session G) (events : List SessionEvent) : Session G :=
  events.foldl step session

/-- The host hangs up: all that arrived is decoded, the beginning of a command is discarded, and
the chip answers for the last time. -/
def hangUp [Generator G] (session : Session G) : Session G :=
  let (commands, rest) := session.commands.drain
  let (_, rest) := rest.finish
  answer { session with chip := session.chip.pushAll commands, commands := rest }

end Session

/-! ## Visits -/

/-- What a host receives that sends its commands at once and hangs up before the processing period
is over. -/
structure Visit where
  /-- Frames of the tick at which the session starts. -/
  greeting : List Frame
  /-- Frames that answer the commands. -/
  answers : List Frame

namespace Visit

variable {G : Type} [Generator G]

/-- The visit of a host that sends some bytes, and the chip after it. -/
def ofStream (chip : Chip G) (stream : List UInt8) : Visit × Chip G :=
  let greeted := (Session.start chip).step .tick
  let left := (greeted.step (.arrive stream)).hangUp
  ({ greeting := greeted.sent, answers := left.sent.drop greeted.sent.length }, left.chip)

/-- The visits of hosts that come one after another, and the chip after the last. -/
def ofStreams (chip : Chip G) : List (List UInt8) → List Visit × Chip G
  | [] => ([], chip)
  | stream :: streams =>
    let (visit, chip) := ofStream chip stream
    let (visits, chip) := ofStreams chip streams
    (visit :: visits, chip)

end Visit
end PixelChip

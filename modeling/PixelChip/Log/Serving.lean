import PixelChip.Host.Session
import PixelChip.Log.Decoding
import PixelChip.Log.Execution

/-!
# What serving a host logs
-/

namespace PixelChip
namespace Serving

/-- A record of the service that hosts connect to. -/
def record (level : LogLevel) (message : String) (values : List (String × String)) : LogRecord where
  level := level
  part := "server"
  message := message
  values := values

variable {G : Type}

/-- The record of a chip that waits for its host at an address. -/
def listeningRecord (address : String) (chip : Chip G) : LogRecord :=
  record .info "Listening for host."
    [("addr", address), ("chip_id", Text.decimal chip.id.toNat),
     ("mode", chip.readout.mode.name)]

/-- The records of a chip that executes its queue and sends the frames to its host. -/
def answerRecords [Generator G] (chip : Chip G) : List LogRecord :=
  Execution.processRecords chip ++ chip.process.frames.map Decoding.sentRecord

/-- The records of the visit of a host with a given address that sends some bytes. -/
def visitRecords [Generator G] (peer : String) (chip : Chip G) (stream : List UInt8) :
    List LogRecord :=
  let session := Session.start chip
  let greeted := session.step .tick
  let (commands, rest) := (greeted.commands.feed stream).drain
  let skipped := rest.finish.2.skipped
  [record .info "Host connected." [("peer", peer)], Execution.clearedRecord chip]
    ++ answerRecords session.chip
    ++ Decoding.streamRecords Command stream
    ++ Execution.droppedRecords greeted.chip.inlet commands
    ++ answerRecords (greeted.chip.pushAll commands)
    ++ (if skipped = 0 then []
      else [record .warn "Skipped undecodable command link bytes"
        [("bytes", Text.decimal skipped)]])
    ++ [record .info "Host disconnected." [("peer", peer)]]

/-- The records of visits one after another. -/
def visitsRecords [Generator G] (peer : String) (chip : Chip G) :
    List (List UInt8) → List LogRecord
  | [] => []
  | stream :: streams =>
    visitRecords peer chip stream ++ visitsRecords peer (Visit.ofStream chip stream).2 streams

end Serving
end PixelChip

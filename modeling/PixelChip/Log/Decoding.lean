import PixelChip.Link.Channel
import PixelChip.Link.StreamDecoder
import PixelChip.Log.Record

/-!
# What decoding logs

A complete buffer logs every item that it decodes to and warns of every byte that it skips. A
stream logs the items that it yields, the bytes that it skips, and what it discards at its end.
-/

namespace PixelChip
namespace Decoding

variable {α : Type} [Packet α]

/-- The record of a segment of a complete buffer. -/
def segmentRecord : Segment α → LogRecord
  | .item offset raw packet =>
    { level := .trace
      part := "protocol::channel"
      message := "RX " ++ Packet.kind α
      values := [("offset", Text.decimal offset), ("item", Packet.text packet),
        ("bytes", hexBytes raw)] }
  | .skipped offset byte reason =>
    { level := .warn
      part := "protocol::channel"
      message := "Skipping undecodable " ++ Packet.kind α ++ " byte"
      values := [("offset", Text.decimal offset), ("byte", hexBytes [byte]),
        ("reason", reason.message)] }

/-- The records of decoding a complete buffer. -/
def bufferRecords (α : Type) [Packet α] (src : List UInt8) : List LogRecord :=
  (Segment.segments 0 src : List (Segment α)).map segmentRecord

/-- The record of an item that a stream yields. -/
def receivedRecord (packet : α) (raw : List UInt8) : LogRecord where
  level := .trace
  part := "protocol::codec"
  message := "RX " ++ Packet.kind α
  values := [("item", Packet.text packet), ("bytes", Text.decimal raw.length),
    ("frame", hexBytes raw)]

/-- The record of an item that is put into a stream. -/
def sentRecord (packet : α) : LogRecord where
  level := .trace
  part := "protocol::codec"
  message := "TX " ++ Packet.kind α
  values := [("item", Packet.text packet),
    ("bytes", Text.decimal (Packet.encode packet).length),
    ("frame", hexBytes (Packet.encode packet))]

/-- The record of a byte that a stream skips. -/
def resynchronizingRecord (α : Type) [Packet α] (byte : UInt8) (reason : ParseError) :
    LogRecord where
  level := .debug
  part := "protocol::codec"
  message := "Resynchronizing " ++ Packet.kind α ++ " stream"
  values := [("byte", hexBytes [byte]), ("reason", reason.message)]

/-- The record of what a stream discards at its end. -/
def discardedRecord (α : Type) [Packet α] (rest : List UInt8) : LogRecord where
  level := .warn
  part := "protocol::codec"
  message := "Discarding partial " ++ Packet.kind α ++ " at end of stream"
  values := [("bytes", Text.decimal rest.length), ("data", hexBytes rest)]

/-- The records of a stream that carries some bytes and then ends. Inside of an item, `inside`
bytes are still to pass. -/
def streamRecordsFrom (α : Type) [Packet α] : (inside : Nat) → List UInt8 → List LogRecord
  | _, [] => []
  | inside + 1, _ :: rest => streamRecordsFrom α inside rest
  | 0, byte :: rest =>
    match (Packet.parse (byte :: rest) : Except ParseError (α × Nat)) with
    | .ok (packet, length) =>
      receivedRecord packet ((byte :: rest).take length) :: streamRecordsFrom α (length - 1) rest
    | .error reason =>
      if reason.isTruncated then [discardedRecord α (byte :: rest)]
      else resynchronizingRecord α byte reason :: streamRecordsFrom α 0 rest

/-- The records of a stream that carries some bytes and then ends. -/
def streamRecords (α : Type) [Packet α] (src : List UInt8) : List LogRecord :=
  streamRecordsFrom α 0 src

end Decoding
end PixelChip

import PixelChip.Link.Packet

/-!
# Decoding a byte stream

A stream decoder sees a link in pieces of any size. It takes one item at a time from the front of
what has arrived, skips bytes at which no item starts, and waits when it holds the beginning of an
item. At the end of the stream such a beginning is discarded.

`length_scan` says that every item taken makes the buffer shorter, so that `drain` ends.
-/

namespace PixelChip

/-- What has arrived of a stream of items and is not decoded yet. -/
structure StreamDecoder (α : Type) where
  /-- Number of bytes skipped so far. -/
  skipped : Nat
  buffer : List UInt8
  deriving DecidableEq, Repr

namespace StreamDecoder

variable {α : Type}

/-- A decoder to which nothing has arrived. -/
def empty : StreamDecoder α where
  skipped := 0
  buffer := []

/-- Bytes arrive. -/
def feed (decoder : StreamDecoder α) (bytes : List UInt8) : StreamDecoder α :=
  { decoder with buffer := decoder.buffer ++ bytes }

variable [Packet α]

/-- Skips bytes until an item parses or the beginning of one is left. -/
def scan (skipped : Nat) : List UInt8 → Option α × StreamDecoder α
  | [] => (none, { skipped, buffer := [] })
  | byte :: rest =>
    match Packet.parse (byte :: rest) with
    | .ok (item, length) => (some item, { skipped, buffer := rest.drop (length - 1) })
    | .error cause =>
      if cause.isTruncated then (none, { skipped, buffer := byte :: rest })
      else scan (skipped + 1) rest

/-- The next item, if one has arrived completely. -/
def next (decoder : StreamDecoder α) : Option α × StreamDecoder α :=
  scan decoder.skipped decoder.buffer

/-- Taking an item makes the buffer shorter. -/
theorem length_scan {skipped : Nat} {src : List UInt8} {item : α} {decoder : StreamDecoder α}
    (h : scan skipped src = (some item, decoder)) : decoder.buffer.length < src.length := by
  induction src generalizing skipped with
  | nil => simp [scan] at h
  | cons byte rest ih =>
    simp only [scan] at h
    split at h
    · simp only [Prod.mk.injEq] at h
      rw [← h.2]
      simp only [List.length_drop, List.length_cons]
      omega
    · split at h
      · simp at h
      · exact Nat.lt_succ_of_lt (ih h)

/-- Takes items until none is left that has arrived completely. -/
def drain (decoder : StreamDecoder α) : List α × StreamDecoder α :=
  match h : decoder.next with
  | (some item, rest) =>
    have : rest.buffer.length < decoder.buffer.length := length_scan h
    let (items, last) := rest.drain
    (item :: items, last)
  | (none, rest) => ([], rest)
termination_by decoder.buffer.length

/-- The next item at the end of the stream. When there is none, what is left is discarded and
counted as skipped. -/
def finish (decoder : StreamDecoder α) : Option α × StreamDecoder α :=
  match decoder.next with
  | (some item, rest) => (some item, rest)
  | (none, rest) => (none, { skipped := rest.skipped + rest.buffer.length, buffer := [] })

end StreamDecoder
end PixelChip

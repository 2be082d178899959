import PixelChip.Link.Segment

/-!
# Channels

A channel holds a list of items and the bytes that they encode to. The two are in step only after
`encode` or `ofBytes`: adding or taking items leaves the bytes alone. A buffer that does not
decode completely leaves a report of every skipped byte.
-/

namespace PixelChip

/-- A byte at which no item starts. -/
structure SkippedByte where
  offset : Nat
  byte : UInt8
  reason : ParseError
  deriving DecidableEq, Repr

/-- Items of a link in order, and their bytes. -/
structure Channel (α : Type) where
  items : Array α
  /-- What the last decoding skipped. -/
  skipped : List SkippedByte
  /-- What the last encoding produced or the last decoding was given. -/
  bytes : List UInt8

namespace Channel

variable {α : Type}

/-- A channel without items, bytes or reports. -/
def empty : Channel α where
  items := #[]
  skipped := []
  bytes := []

/-- Adds an item at the end. -/
def push (channel : Channel α) (item : α) : Channel α :=
  { channel with items := channel.items.push item }

/-- Takes the items out and leaves the rest. -/
def takeItems (channel : Channel α) : List α × Channel α :=
  (channel.items.toList, { channel with items := #[] })

/-- Brings the bytes in step with the items. -/
def encode [Packet α] (channel : Channel α) : Channel α :=
  { channel with bytes := encodeAll channel.items.toList }

/-- The item of a segment that is one. -/
def itemOf? : Segment α → Option α
  | .item _ _ item => some item
  | .skipped .. => none

/-- The report of a segment that is a skipped byte. -/
def skippedOf? : Segment α → Option SkippedByte
  | .item .. => none
  | .skipped offset byte reason => some { offset, byte, reason }

/-- The channel that a complete buffer decodes to. -/
def ofBytes [Packet α] (src : List UInt8) : Channel α :=
  let segments := Segment.segments 0 src
  { items := (segments.filterMap itemOf?).toArray
    skipped := segments.filterMap skippedOf?
    bytes := src }

end Channel
end PixelChip

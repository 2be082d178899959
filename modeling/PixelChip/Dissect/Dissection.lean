import PixelChip.Link.Channel

/-!
# Dissecting a capture

A capture of a link is cut into the items that it carries and the runs of bytes that carry none.
Together the pieces are the whole capture, in order.

The channel that decodes a capture does not say where its items stand. `locate` finds their places
again from the offsets of the skipped bytes and from the length of what each item encodes to.
-/

namespace PixelChip

/-- The link that a capture was taken on. -/
inductive Link where
  /-- From the host to the chip. -/
  | command
  /-- From the chip to the host. -/
  | data
  deriving DecidableEq, Repr

/-- What a piece of a capture holds. -/
inductive Content where
  | command (command : Command)
  | frame (frame : Frame)
  /-- Bytes that decode to nothing. The reason is that of the first byte. -/
  | skipped (reason : ParseError)
  deriving DecidableEq, Repr

/-- Whether a piece holds no item. -/
def Content.isSkipped : Content → Bool
  | skipped _ => true
  | _ => false

/-- A piece of a capture. -/
structure Piece where
  offset : Nat
  raw : List UInt8
  content : Content
  deriving DecidableEq, Repr

namespace Dissection

/-- The next skipped byte, if it stands at this offset, and those behind it. -/
def skippedAt? (offset : Nat) : List SkippedByte → Option (SkippedByte × List SkippedByte)
  | [] => none
  | skip :: others => if skip.offset = offset then some (skip, others) else none

theorem length_of_skippedAt? {offset : Nat} {skipped others : List SkippedByte}
    {skip : SkippedByte} (h : skippedAt? offset skipped = some (skip, others)) :
    others.length < skipped.length := by
  cases skipped with
  | nil => simp [skippedAt?] at h
  | cons first rest =>
    simp only [skippedAt?] at h
    split at h
    · simp only [Option.some.injEq, Prod.mk.injEq] at h
      rw [← h.2]
      exact Nat.lt_succ_self rest.length
    · simp at h

/-- Finds the segments of a buffer again from its items and its skipped bytes. `rest` is what is
left of the buffer from `offset` on. Where the next skipped byte stands it is taken, and anywhere
else the next item, which is as long as its encoding if the buffer does not end before. -/
def locate {α : Type} [Packet α] (found : Array (Segment α)) (offset : Nat) (rest : List UInt8)
    (items : List α) (skipped : List SkippedByte) : Array (Segment α) :=
  match rest with
  | [] => found
  | _ :: behind =>
    match h : skippedAt? offset skipped with
    | some (skip, others) =>
      have := length_of_skippedAt? h
      locate (found.push (.skipped offset skip.byte skip.reason)) (offset + 1) behind items others
    | none =>
      match items with
      | [] => found
      | item :: items =>
        let raw := rest.take (Packet.encode item).length
        locate (found.push (.item offset raw item)) (offset + raw.length) (rest.drop raw.length)
          items skipped
termination_by items.length + skipped.length

@[simp]
theorem locate_nil {α : Type} [Packet α] (found : Array (Segment α)) (offset : Nat)
    (items : List α) (skipped : List SkippedByte) :
    locate found offset [] items skipped = found := by
  rw [locate.eq_def]

/-- Where the next skipped byte stands, it is the next segment. -/
theorem locate_skipped {α : Type} [Packet α] {found : Array (Segment α)} {offset : Nat}
    {byte : UInt8} {rest : List UInt8} {items : List α} {skipped others : List SkippedByte}
    {skip : SkippedByte} (h : skippedAt? offset skipped = some (skip, others)) :
    locate found offset (byte :: rest) items skipped =
      locate (found.push (.skipped offset skip.byte skip.reason)) (offset + 1) rest items
        others := by
  rw [locate.eq_def]
  simp only
  split
  · next h' =>
    rw [h, Option.some.injEq, Prod.mk.injEq] at h'
    rw [h'.1, h'.2]
  · next h' =>
    rw [h] at h'
    simp at h'

/-- Anywhere else, the next item is the next segment. -/
theorem locate_item {α : Type} [Packet α] {found : Array (Segment α)} {offset : Nat}
    {rest : List UInt8} {item : α} {items : List α} {skipped : List SkippedByte}
    (hrest : rest ≠ []) (h : skippedAt? offset skipped = none) :
    locate found offset rest (item :: items) skipped =
      let raw := rest.take (Packet.encode item).length
      locate (found.push (.item offset raw item)) (offset + raw.length) (rest.drop raw.length)
        items skipped := by
  cases rest with
  | nil => exact absurd rfl hrest
  | cons byte behind =>
    rw [locate.eq_def]
    simp only
    split
    · next h' =>
      rw [h] at h'
      simp at h'
    · rfl

/-- Puts a segment in front of the pieces that follow it: a skipped byte joins the run of skipped
bytes right behind it, if there is one, and gives it its offset and reason. -/
def addSegment {α : Type} (wrap : α → Content) (segment : Segment α) (pieces : List Piece) :
    List Piece :=
  match segment with
  | .item offset raw packet => { offset, raw, content := wrap packet } :: pieces
  | .skipped offset byte reason =>
    match pieces with
    | [] => [{ offset, raw := [byte], content := .skipped reason }]
    | next :: others =>
      if next.content.isSkipped ∧ next.offset = offset + 1 then
        { offset, raw := byte :: next.raw, content := .skipped reason } :: others
      else { offset, raw := [byte], content := .skipped reason } :: next :: others

/-- The pieces of a capture of one kind of items. The channel tells which items it holds, but not
where they stand. -/
def pieces {α : Type} [Packet α] (wrap : α → Content) (capture : List UInt8) : List Piece :=
  let channel := Channel.ofBytes capture
  (locate #[] 0 capture channel.items.toList channel.skipped).toList.foldr (addSegment wrap) []

/-- The pieces of a capture of a link, in order. -/
def ofCapture (link : Link) (capture : List UInt8) : List Piece :=
  match link with
  | .command => pieces .command capture
  | .data => pieces .frame capture

end Dissection

/-- How much of a capture decodes. -/
structure Summary where
  items : Nat
  skippedBytes : Nat
  deriving DecidableEq, Repr

/-- Counts the items and skipped bytes of a dissection. -/
def Summary.ofPieces (pieces : List Piece) : Summary where
  items := (pieces.filter fun piece => !piece.content.isSkipped).length
  skippedBytes := ((pieces.filter (·.content.isSkipped)).flatMap (·.raw)).length

end PixelChip

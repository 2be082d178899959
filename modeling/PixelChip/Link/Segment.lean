import PixelChip.Link.Packet

/-!
# Cutting a buffer into segments

A complete buffer is cut from its first byte to its last into items and skipped bytes: where an
item parses it is taken, and where none does one byte is skipped and the next tried.

`segments_nil`, `segments_item` and `segments_skipped` are the equations of this procedure. The
walk itself collects the segments in an array, so that a long buffer needs no deep recursion.
-/

namespace PixelChip

/-- A stretch of a decoded buffer. -/
inductive Segment (α : Type) where
  /-- An item and the bytes that it was read from. -/
  | item (offset : Nat) (raw : List UInt8) (packet : α)
  /-- A byte at which no item starts, and why. -/
  | skipped (offset : Nat) (byte : UInt8) (reason : ParseError)

namespace Segment

variable {α : Type} [Packet α]

/-- Walks over a buffer whose first byte has the given offset. The first `inside` bytes belong to
an item that is already among the segments found. -/
def walk (found : Array (Segment α)) : (inside offset : Nat) → List UInt8 → Array (Segment α)
  | _, _, [] => found
  | inside + 1, offset, _ :: rest => walk found inside (offset + 1) rest
  | 0, offset, byte :: rest =>
    match Packet.parse (byte :: rest) with
    | .ok (packet, length) =>
      walk (found.push (.item offset ((byte :: rest).take length) packet)) (length - 1) (offset + 1)
        rest
    | .error reason => walk (found.push (.skipped offset byte reason)) 0 (offset + 1) rest

/-- The segments of a buffer whose first byte has the given offset, in order. -/
def segments (offset : Nat) (src : List UInt8) : List (Segment α) :=
  (walk #[] 0 offset src).toList

/-- What was found before comes first and does not matter otherwise. -/
theorem toList_walk (found : Array (Segment α)) (inside offset : Nat) (src : List UInt8) :
    (walk found inside offset src).toList
      = found.toList ++ (walk #[] inside offset src).toList := by
  induction src generalizing found inside offset with
  | nil => simp [walk]
  | cons byte rest ih =>
    cases inside with
    | succ inside => exact ih found inside (offset + 1)
    | zero =>
      simp only [walk]
      split
      · rw [ih, ih (#[].push _)]
        simp
      · rw [ih, ih (#[].push _)]
        simp

/-- The bytes inside an item are passed over. -/
theorem walk_inside (found : Array (Segment α)) (inside offset : Nat) (src : List UInt8) :
    walk found inside offset src = walk found 0 (offset + inside) (src.drop inside) := by
  induction inside generalizing offset src with
  | zero => rfl
  | succ inside ih =>
    cases src with
    | nil => simp [walk]
    | cons byte rest =>
      rw [walk, ih, List.drop_succ_cons, Nat.add_assoc, Nat.add_comm 1 inside]

@[simp]
theorem segments_nil (offset : Nat) : segments (α := α) offset [] = [] := rfl

/-- Where an item parses, it is the next segment. -/
theorem segments_item {offset : Nat} {src : List UInt8} {packet : α} {length : Nat}
    (hsrc : src ≠ []) (hlength : 0 < length) (h : Packet.parse src = .ok (packet, length)) :
    segments offset src =
      .item offset (src.take length) packet :: segments (offset + length) (src.drop length) := by
  cases src with
  | nil => exact absurd rfl hsrc
  | cons byte rest =>
    obtain ⟨length, rfl⟩ := Nat.exists_eq_succ_of_ne_zero (Nat.ne_of_gt hlength)
    rw [segments, walk, h]
    simp only [Nat.succ_eq_add_one, Nat.add_sub_cancel]
    rw [toList_walk, walk_inside, segments, List.drop_succ_cons, Nat.add_assoc,
      Nat.add_comm 1 length]
    rfl

/-- Where no item parses, the next segment is one skipped byte. -/
theorem segments_skipped {offset : Nat} {byte : UInt8} {rest : List UInt8} {reason : ParseError}
    (h : Packet.parse (α := α) (byte :: rest) = .error reason) :
    segments (α := α) offset (byte :: rest) =
      .skipped offset byte reason :: segments (offset + 1) rest := by
  rw [segments, walk, h]
  simp only
  rw [toList_walk, segments]
  rfl

end Segment
end PixelChip

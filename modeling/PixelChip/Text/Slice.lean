/-!
# Places in a text

A place in a text is counted in the bytes of its UTF-8 form. Cutting a text at the end of its own
beginning gives that beginning (`takeBytes_byteLength`) and the rest (`dropBytes_byteLength`).
-/

namespace PixelChip
namespace Text

/-- The number of bytes of a text. -/
def byteLength : List Char → Nat
  | [] => 0
  | c :: text => c.utf8Size + byteLength text

/-- The characters of a text that begin before a place. -/
def takeBytes (place : Nat) : List Char → List Char
  | [] => []
  | c :: text => if place = 0 then [] else c :: takeBytes (place - c.utf8Size) text

/-- The characters of a text that do not begin before a place. -/
def dropBytes (place : Nat) : List Char → List Char
  | [] => []
  | c :: text => if place = 0 then c :: text else dropBytes (place - c.utf8Size) text

theorem takeBytes_zero (text : List Char) : takeBytes 0 text = [] := by
  cases text <;> simp [takeBytes]

theorem dropBytes_zero (text : List Char) : dropBytes 0 text = text := by
  cases text <;> simp [dropBytes]

/-- A text cut where its beginning ends is that beginning. -/
theorem takeBytes_byteLength (first rest : List Char) :
    takeBytes (byteLength first) (first ++ rest) = first := by
  induction first with
  | nil => exact takeBytes_zero rest
  | cons c first ih =>
    have positive : c.utf8Size + byteLength first ≠ 0 := by
      have := c.utf8Size_pos
      omega
    rw [byteLength, List.cons_append, takeBytes, if_neg positive, Nat.add_sub_cancel_left, ih]

/-- What is left of a text after its beginning is the rest. -/
theorem dropBytes_byteLength (first rest : List Char) :
    dropBytes (byteLength first) (first ++ rest) = rest := by
  induction first with
  | nil => exact dropBytes_zero rest
  | cons c first ih =>
    have positive : c.utf8Size + byteLength first ≠ 0 := by
      have := c.utf8Size_pos
      omega
    rw [byteLength, List.cons_append, dropBytes, if_neg positive, Nat.add_sub_cancel_left, ih]

end Text
end PixelChip

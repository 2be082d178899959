/-!
# Numbers in text

Numbers are printed in decimal, or in base 16 or 2 filled with zeros to a least width; a number
that is wider keeps all its digits. A decimal setting is read as an optional `+` followed by one
or more ASCII digits, and must be below the limit of its type.
-/

namespace PixelChip
namespace Text

/-- The decimal digits of a number, without leading zeros. -/
def decimal (n : Nat) : String :=
  String.ofList (Nat.toDigits 10 n)

/-- The digits of a number in `base`, lower case, at least `width` of them. -/
def padded (base width n : Nat) : String :=
  String.ofList ((Nat.toDigits base n).leftpad width '0')

/-- Hexadecimal digits, lower case, at least `width` of them. -/
def hex (width n : Nat) : String :=
  padded 16 width n

/-- Binary digits, at least `width` of them. -/
def binary (width n : Nat) : String :=
  padded 2 width n

/-- The value of an ASCII decimal digit. -/
def digit? (c : Char) : Option Nat :=
  if '0' ≤ c ∧ c ≤ '9' then some (c.toNat - '0'.toNat) else none

/-- Reads on with the number read so far. -/
def digits? (seen : Nat) : List Char → Option Nat
  | [] => some seen
  | c :: rest => (digit? c).bind fun d => digits? (10 * seen + d) rest

/-- A number below `limit` written as an optional `+` and one or more ASCII digits. -/
def unsigned? (limit : Nat) (text : List Char) : Option Nat :=
  let digits := match text with
    | '+' :: rest => rest
    | _ => text
  match digits with
  | [] => none
  | _ => (digits? 0 digits).filter (· < limit)

end Text
end PixelChip

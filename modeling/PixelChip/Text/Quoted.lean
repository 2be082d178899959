import PixelChip.Text.Invisible
import PixelChip.Text.Number

/-!
# Quoted text

How a report shows text that somebody else wrote: between delimiters, with a backslash in front of
a delimiter or a backslash, short forms for the usual controls, and the code point in hexadecimal
for a character that does not show by itself.
-/

namespace PixelChip
namespace Text

/-- One character of a quoted text. A backslash and the delimiter take a backslash. -/
def escape (delimiter : Char) (c : Char) : List Char :=
  if c = '\x00' then ['\\', '0']
  else if c = '\t' then ['\\', 't']
  else if c = '\r' then ['\\', 'r']
  else if c = '\n' then ['\\', 'n']
  else if c = '\\' ∨ c = delimiter then ['\\', c]
  else if isInvisible c then ['\\', 'u', '\x7b'] ++ Nat.toDigits 16 c.toNat ++ ['\x7d']
  else [c]

/-- A text in double quotes. -/
def quoted (text : List Char) : String :=
  String.ofList (['"'] ++ text.flatMap (escape '"') ++ ['"'])

/-- A character in single quotes. -/
def quotedChar (c : Char) : String :=
  String.ofList (['\''] ++ escape '\'' c ++ ['\''])

end Text
end PixelChip

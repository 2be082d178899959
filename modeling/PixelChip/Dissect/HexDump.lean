import PixelChip.Dissect.HexDecoder
import PixelChip.Text.Utf8

/-!
# Hex dumps

A hex dump is text: bytes in hexadecimal, separated by blanks or commas, each token optionally with
`0x` in front; digits without separators are cut into pairs, and `#` starts a comment that runs to
the end of the line. The first token that is no run of pairs of digits is reported with its line.
-/

namespace PixelChip

/-- The first faulty token of a hex dump. -/
structure HexDumpError where
  /-- Line of the token, counted from 1. -/
  line : Nat
  /-- The token as it is written. -/
  token : List Char
  fault : HexFault
  deriving DecidableEq, Repr

/-- What failed, and why. -/
def HexDumpError.causes (error : HexDumpError) : List String :=
  ["line " ++ Text.decimal error.line ++ ": invalid hex " ++ Text.quoted error.token,
   error.fault.message]

namespace HexDump

/-- Cuts a text at every character for which `p` holds. -/
def splitWhere (p : Char → Bool) : List Char → List (List Char)
  | [] => [[]]
  | c :: rest =>
    if p c then [] :: splitWhere p rest
    else match splitWhere p rest with
      | [] => [[c]]
      | piece :: pieces => (c :: piece) :: pieces

/-- Whether a character separates tokens. -/
def isSeparator (c : Char) : Bool :=
  Text.isBlank c || c = ','

/-- The tokens of a line, some of which may be empty. -/
def tokens (line : List Char) : List (List Char) :=
  splitWhere isSeparator (line.takeWhile (· ≠ '#'))

/-- A token without the marker of hexadecimal numbers. -/
def digitsOf : List Char → List Char
  | '0' :: 'x' :: rest => rest
  | '0' :: 'X' :: rest => rest
  | token => token

variable [HexDecoder]

/-- The bytes of a token. One without digits has none, and is not decoded. -/
def parseToken (token : List Char) : Except HexFault (List UInt8) :=
  match digitsOf token with
  | [] => .ok []
  | digits => HexDecoder.decode (Text.encodeUtf8 digits)

/-- The bytes of the tokens of a line with the given number. -/
def parseTokens (line : Nat) : List (List Char) → Except HexDumpError (List UInt8)
  | [] => .ok []
  | token :: rest =>
    match parseToken token with
    | .error fault => .error { line, token, fault }
    | .ok bytes => (parseTokens line rest).map (bytes ++ ·)

/-- The bytes of the lines from the given number on. -/
def parseLines (line : Nat) : List (List Char) → Except HexDumpError (List UInt8)
  | [] => .ok []
  | text :: rest => do
    let bytes ← parseTokens line (tokens text)
    let others ← parseLines (line + 1) rest
    return bytes ++ others

/-- The bytes of a hex dump. -/
def parse (text : List Char) : Except HexDumpError (List UInt8) :=
  parseLines 1 (splitWhere (· = '\n') text)

end HexDump
end PixelChip

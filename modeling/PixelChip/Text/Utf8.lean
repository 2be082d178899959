import PixelChip.Text.Number

/-!
# Text in bytes

Reading UTF-8. Bytes that are no text are refused at the first sequence that cannot be completed;
the report says where that sequence starts and how many of its bytes already rule it out, or that
the bytes end inside of it.
-/

namespace PixelChip
namespace Text

/-- Where and why bytes are not UTF-8. -/
structure Utf8Error where
  /-- Offset of the first byte of the offending sequence. -/
  start : Nat
  /-- Bytes that rule the sequence out, or nothing if it only lacks its end. -/
  length? : Option Nat
  deriving DecidableEq, Repr

/-- The text that reports the error. -/
def Utf8Error.message (error : Utf8Error) : String :=
  match error.length? with
  | some length =>
    "invalid utf-8 sequence of " ++ decimal length ++ " bytes from index " ++ decimal error.start
  | none => "incomplete utf-8 byte sequence from index " ++ decimal error.start

/-- A sequence of which some bytes were read. -/
structure Utf8Sequence where
  start : Nat
  /-- Bytes read so far. -/
  seen : Nat
  /-- Bytes still missing, less one. -/
  missing : Nat
  /-- Bounds of the next byte. -/
  low : UInt8
  high : UInt8
  /-- The bits of the code point read so far. -/
  code : Nat

/-- The sequence that a byte of 0x80 or above starts, if it starts one. The bounds of the byte after
it rule out long forms, surrogates and code points past the last. -/
def Utf8Sequence.ofLead? (start : Nat) (byte : UInt8) : Option Utf8Sequence :=
  let b := byte.toNat
  if 0xC2 ≤ b ∧ b ≤ 0xDF then some ⟨start, 1, 0, 0x80, 0xBF, b - 0xC0⟩
  else if b = 0xE0 then some ⟨start, 1, 1, 0xA0, 0xBF, 0⟩
  else if b = 0xED then some ⟨start, 1, 1, 0x80, 0x9F, 0xD⟩
  else if 0xE1 ≤ b ∧ b ≤ 0xEF then some ⟨start, 1, 1, 0x80, 0xBF, b - 0xE0⟩
  else if b = 0xF0 then some ⟨start, 1, 2, 0x90, 0xBF, 0⟩
  else if 0xF1 ≤ b ∧ b ≤ 0xF3 then some ⟨start, 1, 2, 0x80, 0xBF, b - 0xF0⟩
  else if b = 0xF4 then some ⟨start, 1, 2, 0x80, 0x8F, 4⟩
  else none

/-- Reads on from a byte with the given offset, possibly inside of a sequence. The characters
found come in reverse order. -/
def decodeFrom (found : List Char) (index : Nat) :
    Option Utf8Sequence → List UInt8 → Except Utf8Error (List Char)
  | none, [] => .ok found.reverse
  | some sequence, [] => .error ⟨sequence.start, none⟩
  | none, byte :: rest =>
    if byte < 0x80 then decodeFrom (Char.ofNat byte.toNat :: found) (index + 1) none rest
    else match Utf8Sequence.ofLead? index byte with
      | none => .error ⟨index, some 1⟩
      | some sequence => decodeFrom found (index + 1) (some sequence) rest
  | some sequence, byte :: rest =>
    if sequence.low ≤ byte ∧ byte ≤ sequence.high then
      let code := 64 * sequence.code + byte.toNat % 64
      match sequence.missing with
      | 0 => decodeFrom (Char.ofNat code :: found) (index + 1) none rest
      | missing + 1 =>
        decodeFrom found (index + 1)
          (some ⟨sequence.start, sequence.seen + 1, missing, 0x80, 0xBF, code⟩) rest
    else .error ⟨sequence.start, some sequence.seen⟩

/-- The characters of a text in UTF-8. -/
def decodeUtf8 (bytes : List UInt8) : Except Utf8Error (List Char) :=
  decodeFrom [] 0 none bytes

/-- The bytes of a character in UTF-8. -/
def encodeChar (c : Char) : List UInt8 :=
  let n := c.toNat
  let tail (shift : Nat) : UInt8 := .ofNat (0x80 + n >>> shift % 64)
  if n < 0x80 then [.ofNat n]
  else if n < 0x800 then [.ofNat (0xC0 + n / 64), tail 0]
  else if n < 0x10000 then [.ofNat (0xE0 + n / 4096), tail 6, tail 0]
  else [.ofNat (0xF0 + n / 262144), tail 12, tail 6, tail 0]

/-- The bytes of a text in UTF-8. -/
def encodeUtf8 (text : List Char) : List UInt8 :=
  text.flatMap encodeChar

end Text
end PixelChip

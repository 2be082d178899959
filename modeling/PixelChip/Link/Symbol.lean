/-!
# Line-code symbols

The payload of a command is sent as symbols: 8-bit words with four ones and four zeros, each
carrying a value of five bits. There are 32 symbols, and every other byte is corrupt payload.

`decode?_encode` and `encode_of_decode?` say that the code is a bijection between the values
below 32 and the symbols.
-/

namespace PixelChip
namespace Symbol

/-- The symbols in the order of the values that they carry. -/
def alphabet : List UInt8 :=
  [0x6A, 0x6C, 0x71, 0x72, 0x74, 0x8B, 0x8D, 0x8E,
   0x93, 0x95, 0x96, 0x99, 0x9A, 0x9C, 0xA3, 0xA5,
   0xA6, 0xA9, 0xAA, 0xAC, 0xB1, 0xB2, 0xB4, 0xC3,
   0xC5, 0xC6, 0xC9, 0xCA, 0xCC, 0xD1, 0xD2, 0xD4]

/-- The symbol of the low five bits of a value. -/
def encode (value : Nat) : UInt8 :=
  alphabet.get ⟨value % 32, Nat.mod_lt value (by decide)⟩

/-- The value that a byte carries, or nothing if it is no symbol. -/
def decode? (byte : UInt8) : Option (Fin 32) :=
  alphabet.finIdxOf? byte

/-- Whether a byte is one of the 32 symbols. -/
def isSymbol (byte : UInt8) : Bool :=
  (decode? byte).isSome

/-- Every value of five bits survives the code. -/
theorem decode?_encode_fin (value : Fin 32) : decode? (encode value) = some value := by
  revert value
  decide

/-- Encoding keeps the low five bits of any value. -/
theorem decode?_encode (value : Nat) :
    decode? (encode value) = some ⟨value % 32, Nat.mod_lt value (by decide)⟩ := by
  have h : encode value = encode (value % 32) :=
    congrArg alphabet.get (Fin.ext (Nat.mod_mod value 32).symm)
  rw [h]
  exact decode?_encode_fin ⟨value % 32, Nat.mod_lt value (by decide)⟩

/-- A symbol is the encoding of the value that it carries. -/
theorem encode_of_decode? {byte : UInt8} {value : Fin 32} (h : decode? byte = some value) :
    encode value = byte := by
  have hall : ∀ n : Fin 256, ∀ v : Fin 32,
      decode? (UInt8.ofNat n) = some v → encode v = UInt8.ofNat n := by
    decide +kernel
  have hb : UInt8.ofNat byte.toNat = byte := UInt8.ofNat_toNat
  have := hall ⟨byte.toNat, byte.toNat_lt⟩ value
  rw [hb] at this
  exact this h

end Symbol
end PixelChip

/-!
# The ChaCha stream with twelve rounds

A stream of 32-bit words that a key of eight words determines. The stream is cut into blocks of
sixteen words; block `n` is a mixture of fixed constants, the key and `n`. A seed of 64 bits is
stretched to a key by a linear congruential generator with permuted output.
-/

namespace PixelChip

/-- Four words side by side, which the rounds treat alike. -/
structure Lanes where
  w0 : UInt32
  w1 : UInt32
  w2 : UInt32
  w3 : UInt32

namespace Lanes

def zipWith (f : UInt32 → UInt32 → UInt32) (a b : Lanes) : Lanes :=
  ⟨f a.w0 b.w0, f a.w1 b.w1, f a.w2 b.w2, f a.w3 b.w3⟩

/-- The words moved one place to the left, around the end. -/
def turn (a : Lanes) : Lanes :=
  ⟨a.w1, a.w2, a.w3, a.w0⟩

def toList (a : Lanes) : List UInt32 :=
  [a.w0, a.w1, a.w2, a.w3]

end Lanes

/-- Rotates a word to the left. -/
def rotateLeft (word amount : UInt32) : UInt32 :=
  word <<< amount ||| word >>> (32 - amount)

/-- Rotates a word to the right. -/
def rotateRight (word amount : UInt32) : UInt32 :=
  word >>> amount ||| word <<< (32 - amount)

namespace ChaCha

/-- The sixteen words of a block, as four rows. -/
structure Block where
  a : Lanes
  b : Lanes
  c : Lanes
  d : Lanes

namespace Block

/-- Adds one row to another and folds the sum, rotated, into a third. -/
def fold (amount : UInt32) (target source sink : Lanes) : Lanes × Lanes :=
  let sum := target.zipWith (· + ·) source
  (sum, sink.zipWith (fun x y => rotateLeft (x ^^^ y) amount) sum)

/-- Mixes the four words of every column. -/
def mixColumns (block : Block) : Block :=
  let (a, d) := fold 16 block.a block.b block.d
  let (c, b) := fold 12 block.c d block.b
  let (a, d) := fold 8 a b d
  let (c, b) := fold 7 c d b
  ⟨a, b, c, d⟩

/-- Mixes the four words of every diagonal: the rows are turned until the diagonals are columns,
and back. -/
def mixDiagonals (block : Block) : Block :=
  let turned : Block := ⟨block.a, block.b.turn, block.c.turn.turn, block.d.turn.turn.turn⟩
  let mixed := turned.mixColumns
  ⟨mixed.a, mixed.b.turn.turn.turn, mixed.c.turn.turn, mixed.d.turn⟩

/-- Several pairs of rounds. -/
def mix : Nat → Block → Block
  | 0, block => block
  | pairs + 1, block => mix pairs block.mixColumns.mixDiagonals

/-- Adds two blocks word by word. -/
def add (x y : Block) : Block :=
  ⟨x.a.zipWith (· + ·) y.a, x.b.zipWith (· + ·) y.b, x.c.zipWith (· + ·) y.c,
   x.d.zipWith (· + ·) y.d⟩

def toList (block : Block) : List UInt32 :=
  block.a.toList ++ block.b.toList ++ block.c.toList ++ block.d.toList

end Block

/-- The words of one block of the stream. -/
def words (low high : Lanes) (number : UInt64) : List UInt32 :=
  let start : Block :=
    { a := ⟨0x61707865, 0x3320646E, 0x79622D32, 0x6B206574⟩
      b := low
      c := high
      d := ⟨number.toUInt32, (number >>> 32).toUInt32, 0, 0⟩ }
  ((start.mix 6).add start).toList

end ChaCha

/-- A position in a ChaCha stream. -/
structure ChaCha where
  /-- The key, its first half in `low`. -/
  low : Lanes
  high : Lanes
  /-- Number of the next block. -/
  block : UInt64
  /-- Words of the current block that have not been read. -/
  unread : List UInt32

namespace ChaCha

/-- Stretches a seed to the words of a key, as many as asked for. -/
def keyWords : Nat → UInt64 → List UInt32
  | 0, _ => []
  | count + 1, state =>
    let state := state * 6364136223846793005 + 11634580027462260723
    let folded := ((state >>> 18 ^^^ state) >>> 27).toUInt32
    rotateRight folded (state >>> 59).toUInt32 :: keyWords count state

/-- The start of the stream for a seed. -/
def ofSeed (seed : UInt64) : ChaCha :=
  match keyWords 8 seed with
  | [k0, k1, k2, k3, k4, k5, k6, k7] =>
    { low := ⟨k0, k1, k2, k3⟩, high := ⟨k4, k5, k6, k7⟩, block := 0, unread := [] }
  | _ => { low := ⟨0, 0, 0, 0⟩, high := ⟨0, 0, 0, 0⟩, block := 0, unread := [] }

/-- Reads a word. -/
def next32 (stream : ChaCha) : UInt32 × ChaCha :=
  match stream.unread with
  | word :: unread => (word, { stream with unread })
  | [] =>
    match words stream.low stream.high stream.block with
    | word :: unread => (word, { stream with block := stream.block + 1, unread })
    | [] => (0, stream)

/-- Reads two words as one number, the low half first. -/
def next64 (stream : ChaCha) : UInt64 × ChaCha :=
  let (low, stream) := stream.next32
  let (high, stream) := stream.next32
  (high.toUInt64 <<< 32 ||| low.toUInt64, stream)

end ChaCha
end PixelChip

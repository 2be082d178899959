import PixelChip.Random.Generator
import PixelChip.Random.ChaCha
import PixelChip.Random.Ziggurat

/-!
# Drawing from the ChaCha stream

Readings are uniform in 1 to 5000 and deviations standard normal. Both are drawn by rejection: a
draw that is refused is repeated with the next words of the stream. The number of repetitions is
limited to `maxAttempts`, far beyond what a run can reach, and the answer past it is the least
reading or no deviation.
-/

namespace PixelChip
namespace ChaCha

/-- Limit of repetitions of one draw. -/
def maxAttempts : Nat := 10000

/-- Draws a number from 1 to 5000: the high half of a 32-bit word times 5000, refused where the
low half would favour some results. -/
def uniform : Nat → ChaCha → UInt16 × ChaCha
  | 0, stream => (1, stream)
  | attempts + 1, stream =>
    let (word, stream) := stream.next32
    let product := word.toNat * 5000
    if product % UInt32.size ≤ 4294967295 - (4294967295 - 5000 + 1) % 5000 then
      (.ofNat (1 + product / UInt32.size), stream)
    else uniform attempts stream

/-- A number strictly between 0 and 1 from 52 random bits. -/
def openUnit (bits : UInt64) : Float :=
  Float.ofBits (bits >>> 12 ||| 0x3FF0000000000000) - Float.ofBits 0x3FEFFFFFFFFFFFFF

/-- A multiple of `2 ^ -53` below 1 from 53 random bits. -/
def unit (bits : UInt64) : Float :=
  (bits >>> 11).toFloat * Float.ofBits 0x3CA0000000000000

/-- Draws how far beyond the start of the tail a deviation lies, as a number below 0. -/
def tailExcess : Nat → ChaCha → Float × ChaCha
  | 0, stream => (0.0, stream)
  | attempts + 1, stream =>
    let (bits, stream) := stream.next64
    let x := (openUnit bits).log / Ziggurat.tailStart
    let (bits, stream) := stream.next64
    let y := (openUnit bits).log
    if -2.0 * y < x * x then tailExcess attempts stream else (x, stream)

/-- Draws a standard normal deviation: a layer of the ziggurat and a point across it, accepted at
once inside of the next layer and by comparison with the curve otherwise. -/
def normal : Nat → ChaCha → Float × ChaCha
  | 0, stream => (0.0, stream)
  | attempts + 1, stream =>
    let (bits, stream) := stream.next64
    let layer := (bits &&& 255).toNat
    let u := Float.ofBits (bits >>> 12 ||| 0x4000000000000000) - 3.0
    let x := u * Ziggurat.edge layer
    if x.abs < Ziggurat.edge (layer + 1) then (x, stream)
    else if layer = 0 then
      let (excess, stream) := tailExcess maxAttempts stream
      (if u < 0.0 then excess - Ziggurat.tailStart else Ziggurat.tailStart - excess, stream)
    else
      let (bits, stream) := stream.next64
      let low := Ziggurat.height (layer + 1)
      if low + (Ziggurat.height layer - low) * unit bits < (-x * x / 2.0).exp then (x, stream)
      else normal attempts stream

instance : Generator ChaCha where
  ofSeed := ofSeed
  -- The clock of this generator stands at 0.
  restart _ := ofSeed 0
  reading := uniform maxAttempts
  normal := normal maxAttempts

end ChaCha
end PixelChip

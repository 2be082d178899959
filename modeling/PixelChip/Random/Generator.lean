/-!
# Sources of randomness

A chip draws two kinds of random values: readings of its monitoring ADC and deviations of analog
thresholds. The chip model works with any deterministic generator that answers these draws, and
nothing in it depends on how the values are made.
-/

namespace PixelChip

/-- A deterministic generator of the random values that a chip draws. -/
class Generator (G : Type) where
  /-- The generator in its state for a seed. -/
  ofSeed : UInt64 → G
  /-- The generator started anew from the clock. What the clock shows is part of the state. -/
  restart : G → G
  /-- Draws a reading of the monitoring ADC. -/
  reading : G → UInt16 × G
  /-- Draws a standard normal deviation. -/
  normal : G → Float × G

namespace Generator

variable {G : Type} [Generator G]

/-- Draws several standard normal deviations. -/
def normals (count : Nat) (generator : G) : Array Float × G :=
  Nat.fold count (fun _ _ (drawn, generator) =>
    let (z, generator) := normal generator
    (drawn.push z, generator)) (#[], generator)

end Generator
end PixelChip

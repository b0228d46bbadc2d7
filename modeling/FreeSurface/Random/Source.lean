import FreeSurface.Number.Scalar

/-!
# Random sources

What the solver asks of chance: a state that starts from a seed, and two kinds of draws.
-/

namespace FreeSurface

/-- A source `R` of random numbers of a carrier `S`. -/
class RandomSource (R : Type) (S : outParam Type) where
  /-- The source of a seed. -/
  ofSeed : Nat → R
  /-- A number in `[0, 1)`, and the source after the draw. -/
  unit : R → S × R
  /-- A number in `[-1, 1]`, and the source after the draw. -/
  symmetric : R → S × R

namespace RandomSource

variable {R S : Type} [RandomSource R S]

/-- Draws three numbers. -/
@[inline] def three (draw : R → S × R) (r : R) : (S × S × S) × R :=
  let (x, r) := draw r
  let (y, r) := draw r
  let (z, r) := draw r
  ((x, y, z), r)

end RandomSource

end FreeSurface

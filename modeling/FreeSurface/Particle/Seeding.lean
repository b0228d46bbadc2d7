import FreeSurface.Field.Interpolation
import FreeSurface.Particle.Basic
import FreeSurface.Random.Source

/-!
# Seeding

Fills the liquid with particles: every cell near or in the liquid is divided into equal parts, and
each part gets a particle near its centre if the liquid reaches that point.
-/

namespace FreeSurface

open scoped Literals

namespace Seeding

/-- Seeds and source so far. -/
abbrev Progress (S R : Type) : Type := Particles S × R

variable {d : Dims} {S R : Type} [Scalar S] [RandomSource R S]

/-- The centre of a part of a cell; the parts are `step` wide. -/
@[inline] def partCenter (c part : Coords) (step : S) : Vec3 S :=
  ⟨Scalar.ofNat c.i + (Scalar.ofNat part.i + Scalar.half) * step,
    Scalar.ofNat c.j + (Scalar.ofNat part.j + Scalar.half) * step,
    Scalar.ofNat c.k + (Scalar.ofNat part.k + Scalar.half) * step⟩

/-- Displaces a point by up to half of `randomness` along each axis, but not out of the plane. -/
def jitter (d : Dims) (p : Vec3 S) (randomness : S) (r : R) : Vec3 S × R :=
  let ((x, y, z), r) := RandomSource.three RandomSource.symmetric r
  let moved := p + (⟨x, y, z⟩ : Vec3 S) * (randomness * Scalar.half)
  (if d.isPlanar then { moved with z := Scalar.half } else moved, r)

/-- The parts of a cell divided into `n` along each axis of motion, row by row. -/
def parts (d : Dims) (n : Nat) : List Coords :=
  (List.range (if d.isPlanar then 1 else n)).flatMap fun k =>
    (List.range n).flatMap fun j => (List.range n).map fun i => ⟨i, j, k⟩

/-- Seeds one part of a cell. -/
def seedPart (phi : ScalarField d S) (step randomness : S) (c : Coords)
    (progress : Progress S R) (part : Coords) : Progress S R :=
  let (p, r) := jitter d (partCenter c part step) randomness progress.2
  (if ScalarField.sample phi p < 0 then progress.1.push (Particle.atRest p) else progress.1, r)

/-- The cell may hold liquid: it is not solid, and the liquid is at most a cell away. -/
@[inline] def isCandidate (phi : ScalarField d S) (g : Flags d) (c : d.Cell) : Bool :=
  !g.isObstacle c && !(1 < phi.get c : Bool)

/-- Adds particles at rest throughout the liquid. -/
def seed (phi : ScalarField d S) (g : Flags d) (discretization : Nat) (randomness : S)
    (start : Progress S R) : Progress S R :=
  let n := Nat.max discretization 1
  let step : S := 1 / Scalar.ofNat n
  let cellParts := parts d n
  d.cells.nodes.foldl
    (fun progress c =>
      if isCandidate phi g c then
        cellParts.foldl (seedPart phi step randomness (d.cells.coords c)) progress
      else progress)
    start

end Seeding

end FreeSurface

import FreeSurface.Particle.Buckets
import FreeSurface.Random.Source
import FreeSurface.Transfer.Sampling

/-!
# Density of particles

Keeps the number of particles per cell within bounds.  Cells at the surface are left alone.

* `Density.isValid` — particles that have left the liquid, or the band below its surface, are
  removed.
* `Density.excess` — a cell keeps the first particles it has, up to the maximum.
* `Density.deficits` — cells with too few particles, and how many they lack.
* `Density.adjust` — all of this; no particle is added if that would exceed the total allowed.

**Counts.**  What is lacking, and how many particles there would be with it, are natural numbers
here.  Added up in words of 64 bits they are the same as long as the greatest of them is a word
(`Density.toNat_wordSum`): that is so of all particles that can be stored, but not of every number
that can be asked for in `minPerCell`.
-/

namespace FreeSurface

open scoped Literals

/-- Bounds on the number of particles, and where they hold. -/
structure DensitySettings (S : Type) where
  minPerCell : Nat
  maxPerCell : Nat
  /-- Particles live down to this depth; zero or less means everywhere in the liquid. -/
  band : S
  /-- Cells less deep than this are at the surface. -/
  surface : S
  maxTotal : Nat
  /-- How a new particle takes its velocity from the grid. -/
  kernel : Kernel
deriving BEq

/-- What an adjustment did. -/
structure DensityReport where
  removedInvalid : Nat
  removedExcess : Nat
  added : Nat
  /-- Particles were lacking, but there are too many in total. -/
  capped : Bool
deriving DecidableEq, Repr

namespace Density

variable {d : Dims} {S R : Type} [Scalar S] [RandomSource R S]

/-- The depth lies in the band. -/
@[inline] def inBand (s : DensitySettings S) (phi : S) : Bool := s.band ≤ 0 || -s.band ≤ phi

/-- The depth belongs to the surface. -/
@[inline] def atSurface (s : DensitySettings S) (phi : S) : Bool := -s.surface < phi

/-- A finite particle of the liquid, in the band and in a cell that is not solid. -/
def isValid (s : DensitySettings S) (g : Flags d) (phi : ScalarField d S) (p : Particle S) : Bool :=
  if p.isFinite then
    match d.cellAt? p.position with
    | none => false
    | some c =>
      if g.isObstacle c then false
      else
        let value := ScalarField.sample phi p.position
        value ≤ 0 && inBand s value
  else false

/-- The particles of a cell beyond the maximum; none at the surface. -/
def excess (s : DensitySettings S) (phi : ScalarField d S) {n : Nat} (buckets : Buckets d n)
    (c : d.Cell) : List (Fin n) :=
  if atSurface s (phi.get c) then [] else (buckets.members c).drop s.maxPerCell

/-- All particles beyond the maximum of their cell. -/
def allExcess (s : DensitySettings S) (phi : ScalarField d S) {n : Nat} (buckets : Buckets d n) :
    List (Fin n) :=
  d.cells.nodes.flatMap (excess s phi buckets)

/-- The particles that are not listed, in order. -/
def without (ps : Particles S) (dropped : List (Fin ps.size)) : Particles S :=
  let kept : Vector Bool ps.size :=
    dropped.foldl (fun kept p => kept.setIfInBounds p.val false) (Vector.replicate ps.size true)
  (((List.finRange ps.size).filter kept.get).map (Particles.get ps)).toArray

/-- The cells of liquid in the band and below the surface that have too few particles, with the
number they lack. -/
def deficits (s : DensitySettings S) (g : Flags d) (phi : ScalarField d S) {n : Nat}
    (buckets : Buckets d n) : List (d.Cell × Nat) :=
  d.cells.nodes.filterMap fun c =>
    if g.isFluid c && inBand s (phi.get c) && !atSurface s (phi.get c)
        && buckets.count c < s.minPerCell then
      some (c, s.minPerCell - buckets.count c)
    else none

/-- How often a place for a new particle is drawn before the centre of the cell is taken. -/
def placementAttempts : Nat := 8

/-- Draws a place in a cell until one lies in the liquid, in the band and in the cell. -/
def place (s : DensitySettings S) (phi : ScalarField d S) (c : d.Cell) :
    (attempts : Nat) → R → Vec3 S × R
  | 0, r => (d.center c, r)
  | attempts + 1, r =>
    let ((x, y, z), r) := RandomSource.three RandomSource.unit r
    let drawn := Dims.cornerAt (d.cells.coords c) + (⟨x, y, z⟩ : Vec3 S)
    let p := if d.isPlanar then { drawn with z := Scalar.half } else drawn
    let value := ScalarField.sample phi p
    if value < 0 && inBand s value && d.cellAt? p == some c then (p, r)
    else place s phi c attempts r

/-- Adds particles to a cell; they take the velocity of the grid. -/
def fill (s : DensitySettings S) (phi : ScalarField d S) (v : Staggered d S) (c : d.Cell) :
    (missing : Nat) → Particles S × R → Particles S × R
  | 0, progress => progress
  | missing + 1, (ps, r) =>
    let (p, r) := place s phi c placementAttempts r
    fill s phi v c missing (ps.push ⟨p, Transfer.sampleVelocity v p s.kernel⟩, r)

/-- Particles and source after an adjustment, its report, and how many particles were lacking. -/
structure Outcome (S R : Type) where
  particles : Particles S
  random : R
  report : DensityReport
  wanted : Nat

/-- Removes invalid particles and those in excess, then adds to cells that lack particles.  What is
lacking is counted before any particle is added. -/
def adjust (ps : Particles S) (g : Flags d) (phi : ScalarField d S) (v : Staggered d S)
    (s : DensitySettings S) (r : R) : Outcome S R :=
  let valid := ps.filter (isValid s g phi)
  let removedInvalid := ps.size - valid.size
  let buckets := Buckets.build d valid
  let dropped := allExcess s phi buckets
  let kept := without valid dropped
  let lacking := deficits s g phi buckets
  let wanted := lacking.foldl (fun total u => total + u.2) 0
  let report (added : Nat) (capped : Bool) : DensityReport :=
    ⟨removedInvalid, dropped.length, added, capped⟩
  if wanted = 0 then ⟨kept, r, report 0 false, 0⟩
  else if s.maxTotal < kept.size + wanted then ⟨kept, r, report 0 true, wanted⟩
  else
    let (filled, r) := lacking.foldl (fun progress u => fill s phi v u.1 u.2 progress) (kept, r)
    ⟨filled, r, report wanted false, wanted⟩

end Density

end FreeSurface

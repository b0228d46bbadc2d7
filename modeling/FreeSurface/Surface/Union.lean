import FreeSurface.Particle.Buckets
import FreeSurface.Surface.Extension

/-!
# The surface of the particles

The level set of a union of equal spheres, one around each particle.  Far from all particles it is
cut off at the radius of a sphere, so only the particles of nearby cells have to be looked at.
-/

namespace FreeSurface

open scoped Literals

namespace Surface

variable {d : Dims} {S : Type} [Scalar S]

/-- The radius of the sphere around a particle: half the diagonal of a cell, times a factor. -/
def particleRadius (d : Dims) (radiusFactor : S) : S :=
  radiusFactor * Scalar.sqrt (Scalar.ofNat d.dimension) * Scalar.half

/-- Cells less than this deep belong to the surface: the diameter of a particle. -/
def surfaceDistance (d : Dims) (radiusFactor : S) : S := 2 * particleRadius d radiusFactor

/-- The distance between a cell centre and a position, within the plane of a planar domain. -/
@[inline] def separation (planar : Bool) (center p : Vec3 S) : S :=
  let delta := center - p
  (if planar then { delta with z := 0 } else delta).length

/-- The signed distance of every cell to the nearest sphere, at most the radius of a sphere.  Only
particles within the next whole number of cells are looked at, and that number is a word. -/
def unionOfSpheres (d : Dims) (ps : Particles S) (buckets : Buckets d ps.size) (radius : S) :
    ScalarField d S :=
  let reach := wrap (Scalar.toInt32 radius + 1)
  Field.tabulate fun c =>
    let here := d.cells.coords c
    let center : Vec3 S := Dims.centerAt here
    (buckets.near (word here.i) (word here.j) (word here.k) reach).foldl
      (fun best p =>
        Scalar.min best (separation d.isPlanar center (Particles.get ps p).position - radius))
      radius

/-- The level set of the particles, carried into the obstacles. -/
def unionLevelSet (ps : Particles S) (buckets : Buckets d ps.size) (g : Flags d)
    (radiusFactor : S) : ScalarField d S :=
  extendIntoObstacles (unionOfSpheres d ps buckets (particleRadius d radiusFactor)) g

end Surface

end FreeSurface

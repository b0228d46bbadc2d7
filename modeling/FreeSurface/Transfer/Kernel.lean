import FreeSurface.Vec3

/-!
# Kernels

How much a particle and a face weigh for each other, by the vector between them.  In a planar domain
only the vector within the plane counts.
-/

namespace FreeSurface

open scoped Literals

/-- A weighting of particles around a face. -/
inductive Kernel where
  /-- The product of a tent along each axis; it reaches one cell far. -/
  | dLinear
  /-- The cubic bump `(1 - r²/4)³`; it reaches two cells far. -/
  | smooth
deriving DecidableEq, Repr, Inhabited

namespace Kernel

variable {S : Type} [Scalar S]

/-- How many cells away from a face a particle can have weight. -/
def support : Kernel → Nat
  | .dLinear => 1
  | .smooth => 2

/-- The tent of height one over `[-1, 1]`. -/
@[inline] def tent (r : S) : S := Scalar.max (1 - Scalar.abs r) 0

/-- The product of the tents along each axis. -/
@[inline] def dLinearWeight (delta : Vec3 S) (planar : Bool) : S :=
  tent delta.x * tent delta.y * (if planar then 1 else tent delta.z)

/-- The cubic bump of the distance. -/
@[inline] def smoothWeight (delta : Vec3 S) (planar : Bool) : S :=
  let inside := if planar then { delta with z := 0 } else delta
  let r2 := inside.lengthSquared
  if (4 : S) ≤ r2 then 0
  else
    let t := 1 - r2 * Scalar.ofDecimal 25 2
    t * t * t

@[inline] def weight (kernel : Kernel) (delta : Vec3 S) (planar : Bool) : S :=
  match kernel with
  | .dLinear => dLinearWeight delta planar
  | .smooth => smoothWeight delta planar

end Kernel

end FreeSurface

import FreeSurface.Field.Front
import FreeSurface.Field.Staggered

/-!
# Velocities in the air

Carries velocities from the faces of liquid cells into the air, layer by layer, each new face taking
the mean of the known faces around it.  Walls take no part.
-/

namespace FreeSurface

open scoped Literals

namespace Velocity

variable {d : Dims} {S : Type} [Scalar S]

/-- Spreads every component of motion from the faces of liquid cells over `distance` layers. -/
def extrapolate (g : Flags d) (v : Staggered d S) (distance : Nat) : Staggered d S :=
  v.updateActive fun a component =>
    let rule : Front.Rule (d.faces a) S := fun f values =>
      if g.isWallFace a f then none else Front.mean? values
    let start : Front (d.faces a) S := ⟨component, Field.tabulate (g.isFluidFace a)⟩
    (start.spread rule distance).values

/-- How many layers of air a step at a given speed needs. -/
def extrapolationDistance (speed : S) : Nat :=
  Scalar.toNat (speed * Scalar.ofDecimal 125 2 + 2)

end Velocity

end FreeSurface

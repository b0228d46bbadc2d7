import FreeSurface.Field.Staggered

/-!
# Measures

The volume and the energy of the liquid.
-/

namespace FreeSurface

open scoped Literals

namespace Measure

variable {d : Dims} {S D : Type} [Scalar S] [Scalar D] [Precision S D]

/-- The kinetic energy of a cell, less the work of gravity on it. -/
def cellEnergy (v : Staggered d S) (pull : Vec3 S) (c : d.Cell) : D :=
  Scalar.half * widen (v.centered c).lengthSquared - widen (pull.dot (d.center c))

/-- The energy of the liquid, summed in the order of the cells. -/
def energy (g : Flags d) (v : Staggered d S) (gravity : Vec3 S) : D :=
  let pull := gravity * (Scalar.ofNat d.maxResolution : S)
  d.cells.nodes.foldl
    (fun sum c => if g.isFluid c then sum + cellEnergy v pull c else sum) 0

/-- The uniform source that steers a volume towards a target: the relative deviation times a gain,
zero when there is no liquid. -/
def volumeCorrection (gain : S) (target : D) (volume : Nat) : S :=
  if volume = 0 then 0
  else narrow (widen gain * (target - Scalar.ofNat volume) / Scalar.ofNat volume)

end Measure

end FreeSurface

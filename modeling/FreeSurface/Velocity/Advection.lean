import FreeSurface.Particle.Basic
import FreeSurface.Field.Staggered

/-!
# Advection

Fields and particles carried along by a velocity for a time.

* `Advection.scalar`, `Advection.velocity` — a field takes the value found by going back along the
  flow.  At second order that value is corrected by half the error of going forth and back, unless
  the correction leaves the range of the values around the point of departure.
* `Advection.particles` — particles move along the flow by the classical Runge–Kutta rule of fourth
  order, and are brought back inside the walls.
-/

namespace FreeSurface

open scoped Literals

namespace Advection

variable {d : Dims} {S : Type} [Scalar S]

/-- Where the flow through a position came from. -/
@[inline] def departure (v : Staggered d S) (p : Vec3 S) (dt : S) : Vec3 S := p - v.sample p * dt

/-- The corrected value, unless it leaves the range. -/
@[inline] def limited (forward source backward : S) (range : S × S) : S :=
  let corrected := forward + Scalar.half * (source - backward)
  if corrected < range.1 || range.2 < corrected then forward else corrected

/-- Every cell but the solid ones takes the value of a field at the point of departure. -/
def carryScalar (g : Flags d) (v : Staggered d S) (field : ScalarField d S) (dt : S) :
    ScalarField d S :=
  field.update fun c old =>
    if g.isObstacle c then old else ScalarField.sample field (departure v (d.center c) dt)

/-- Carries a field of cells along a velocity, at first or second order. -/
def scalar (g : Flags d) (v : Staggered d S) (field : ScalarField d S) (dt : S) (order : Nat) :
    ScalarField d S :=
  let forward := carryScalar g v field dt
  if order < 2 then forward
  else
    let backward := carryScalar g v forward (-dt)
    field.update fun c old =>
      if g.isObstacle c then old
      else limited (forward.get c) old (backward.get c)
        (ScalarField.sampleBounds field (departure v (d.center c) dt))

/-- Every face takes the velocity of a field at the point from which a carrier departs. -/
def carryVelocity (carrier field : Staggered d S) (dt : S) : Staggered d S :=
  field.updateActive fun a _ =>
    Field.tabulate fun f => field.sampleComponent a (departure carrier (d.facePosition a f) dt)

/-- Carries a velocity along itself, at first or second order. -/
def velocity (v : Staggered d S) (dt : S) (order : Nat) : Staggered d S :=
  let forward := carryVelocity v v dt
  if order < 2 then forward
  else
    let backward := carryVelocity v forward (-dt)
    v.updateActive fun a component =>
      component.update fun f old =>
        limited ((forward.component a).get f) old ((backward.component a).get f)
          (v.sampleComponentBounds a (departure v (d.facePosition a f) dt))

/-- Particles are kept this far from the walls. -/
@[inline] def wallMargin : S := Scalar.ofDecimal 1 3

/-- The end of a trajectory, before walls are considered. -/
def trajectoryEnd (v : Staggered d S) (x : Vec3 S) (dt : S) : Vec3 S :=
  let k1 := v.sample x
  let k2 := v.sample (x + k1 * (Scalar.half * dt))
  let k3 := v.sample (x + k2 * (Scalar.half * dt))
  let k4 := v.sample (x + k3 * dt)
  x + (k1 + k2 * (2 : S) + k3 * (2 : S) + k4) * (dt / 6)

/-- Moves particles along a velocity and back inside the walls. -/
def particles (ps : Particles S) (g : Flags d) (v : Staggered d S) (dt : S) : Particles S :=
  ps.map fun p =>
    { p with position := g.clampToInterior (trajectoryEnd v p.position dt) wallMargin }

end Advection

end FreeSurface

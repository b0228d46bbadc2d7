import FreeSurface.Field.Staggered

/-!
# Walls and gravity

* `Velocity.closeWalls` — stops the flow through walls, and in a planar domain along the third axis.
* `Velocity.accelerate` — gravity acts on the faces of liquid cells that are no walls.
-/

namespace FreeSurface

open scoped Literals

namespace Velocity

variable {d : Dims} {S : Type} [Scalar S]

/-- Stops the flow through every wall. -/
def closeWalls (g : Flags d) (v : Staggered d S) : Staggered d S :=
  let close (a : Axis) (component : Field (d.faces a) S) : Field (d.faces a) S :=
    component.update fun f old => if g.isWallFace a f then 0 else old
  ⟨close .x v.x, close .y v.y,
    if d.isPlanar then Field.constant (d.faces .z) 0 else close .z v.z⟩

/-- Adds what gravity does in a time.  Gravity is given in domains per unit of time squared; an axis
along which it adds nothing is left alone. -/
def accelerate (g : Flags d) (v : Staggered d S) (gravity : Vec3 S) (dt : S) : Staggered d S :=
  let gain := gravity * (Scalar.ofNat d.maxResolution : S) * dt
  v.updateActive fun a component =>
    let delta := gain.get a
    if delta == 0 then component
    else component.update fun f old =>
      if g.isFluidFace a f && !g.isWallFace a f then old + delta else old

end Velocity

end FreeSurface

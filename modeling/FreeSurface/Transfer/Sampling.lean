import FreeSurface.Field.Staggered
import FreeSurface.Particle.Basic
import FreeSurface.Transfer.Kernel

/-!
# From faces to particles

* `Transfer.sampleVelocity` — the velocity of the grid at a position, by a kernel.
* `Transfer.takeVelocity` — every particle takes the velocity of the grid.
* `Transfer.blendVelocity` — every particle takes the change of the grid velocity, blended with the
  velocity itself.
-/

namespace FreeSurface

open scoped Literals

namespace Transfer

variable {d : Dims} {S : Type} [Scalar S]

/-- The position on a side of `n` nodes that a word stands for, where there is one. -/
@[inline] def onSide? (n : Nat) (i : Int) : Option (Fin n) :=
  if h : 0 ≤ i ∧ i < word n then some ⟨i.toNat, by have := word_le n; omega⟩ else none

/-- Coordinates from one below to two above a coordinate, as far as they lie on a side of `n`
nodes. -/
def aroundSmooth (n : Nat) (base : Int) : List (Fin n) :=
  ([base - 1, base, base + 1, base + 2].map wrap).filterMap (onSide? n)

/-- The faces around a position within the reach of the smooth kernel. -/
def facesAround (d : Dims) (a : Axis) (p : Vec3 S) : List (d.Face a) :=
  let L := d.faces a
  let (i, j, k) := Dims.cellOf (p - Dims.faceOffset a)
  let columns := aroundSmooth L.nx i
  let rows := aroundSmooth L.ny j
  let layers : List (Fin L.nz) := if d.isPlanar then [⟨0, L.nz_pos⟩] else aroundSmooth L.nz k
  layers.flatMap fun k => rows.flatMap fun j => columns.map fun i => L.nodeOf i j k

/-- One component at a position as the mean of the faces around it, weighted by the smooth kernel.
Where no face has weight it is interpolated. -/
def sampleSmooth (v : Staggered d S) (a : Axis) (p : Vec3 S) : S :=
  let (sum, total) := (facesAround d a p).foldl
    (fun (sum, total) f =>
      let w := Kernel.smoothWeight (p - d.facePosition a f) d.isPlanar
      if 0 < w then (sum + w * (v.component a).get f, total + w) else (sum, total))
    ((0, 0) : S × S)
  if 0 < total then sum / total else v.sampleComponent a p

/-- The velocity of the grid at a position, by a kernel. -/
def sampleVelocity (v : Staggered d S) (p : Vec3 S) : Kernel → Vec3 S
  | .dLinear => v.sample p
  | .smooth => Staggered.activeVector d fun a => sampleSmooth v a p

/-- Every particle takes the velocity of the grid. -/
def takeVelocity (ps : Particles S) (v : Staggered d S) (kernel : Kernel) : Particles S :=
  ps.map fun p => { p with velocity := sampleVelocity v p.position kernel }

/-- Every particle adds the change of the grid velocity to its own; of the result it keeps the
share `ratio`, and takes the rest from the grid. -/
def blendVelocity (ps : Particles S) (v old : Staggered d S) (ratio : S) (kernel : Kernel) :
    Particles S :=
  ps.map fun p =>
    let now := sampleVelocity v p.position kernel
    let before := sampleVelocity old p.position kernel
    { p with velocity := (p.velocity + now - before) * ratio + now * (1 - ratio) }

end Transfer

end FreeSurface

import FreeSurface.Field.Staggered
import FreeSurface.Particle.Buckets
import FreeSurface.Transfer.Kernel

/-!
# From particles to faces

Every face takes the weighted mean of the particles around it.

* `Transfer.gather` — the mean velocities and the total weights.
* `Transfer.replaceFluid` — takes the mean on every face of a liquid cell.
* `Transfer.combine` — takes it near the surface only, where enough weight supports it.
-/

namespace FreeSurface

open scoped Literals

namespace Transfer

variable {d : Dims} {S : Type} [Scalar S]

/-- Velocities taken from particles, and the weight behind each. -/
structure Gathered (d : Dims) (S : Type) where
  velocity : Staggered d S
  weight : Staggered d S

/-- The sum of weight times velocity and the sum of weights over some particles, at a face. -/
def weigh (kernel : Kernel) (planar : Bool) (ps : Particles S) (a : Axis) (node : Vec3 S)
    (nearby : List (Fin ps.size)) : S × S :=
  nearby.foldl
    (fun (sum, total) p =>
      let w := kernel.weight ((Particles.get ps p).position - node) planar
      if 0 < w then (sum + w * (Particles.get ps p).velocity.get a, total + w) else (sum, total))
    (0, 0)

/-- The weighted mean velocity at a face and the total weight; zeros where no particle has
weight. -/
def gatherAt (ps : Particles S) (buckets : Buckets d ps.size) (kernel : Kernel) (a : Axis)
    (f : d.Face a) : S × S :=
  let here := (d.faces a).coords f
  let nearby := buckets.near (word here.i) (word here.j) (word here.k) kernel.support
  let (sum, total) := weigh kernel d.isPlanar ps a (Dims.facePositionAt a here) nearby
  if 0 < total then (sum / total, total) else (0, 0)

/-- The weighted mean velocity and the total weight at every face across an axis of motion. -/
def gather (ps : Particles S) (buckets : Buckets d ps.size) (kernel : Kernel) : Gathered d S :=
  let along (a : Axis) : Field (d.faces a) (S × S) :=
    if d.isActive a then Field.tabulate (gatherAt ps buckets kernel a)
    else Field.constant (d.faces a) (0, 0)
  let x := along .x
  let y := along .y
  let z := along .z
  ⟨⟨x.map (·.1), y.map (·.1), z.map (·.1)⟩, ⟨x.map (·.2), y.map (·.2), z.map (·.2)⟩⟩

/-- Gives every face of a liquid cell the velocity taken from particles. -/
def replaceFluid (v : Staggered d S) (parts : Staggered d S) (g : Flags d) : Staggered d S :=
  v.updateActive fun a component =>
    component.update fun f old => if g.isFluidFace a f then (parts.component a).get f else old

/-- The level set at a face: the mean of its cells, or the value of its only one. -/
def facePhi (phi : ScalarField d S) (a : Axis) (f : d.Face a) : S :=
  match d.faceCells a f with
  | (some lo, some hi) => Scalar.half * (phi.get lo + phi.get hi)
  | (some c, none) => phi.get c
  | (none, some c) => phi.get c
  | (none, none) => Scalar.infinity

/-- The face lies within the band below the surface, or any depth will do, and particles of more
than the threshold weight support it. -/
@[inline] def isSupported (weight : Staggered d S) (phi : ScalarField d S) (band threshold : S)
    (a : Axis) (f : d.Face a) : Bool :=
  (band ≤ 0 || -band ≤ facePhi phi a f) && threshold < (weight.component a).get f

/-- Gives every supported face the velocity taken from particles. -/
def combine (v : Staggered d S) (parts : Gathered d S) (phi : ScalarField d S)
    (band threshold : S) : Staggered d S :=
  v.updateActive fun a component =>
    component.update fun f old =>
      if isSupported parts.weight phi band threshold a f then (parts.velocity.component a).get f
      else old

/-- The number of supported faces. -/
def countSupported (weight : Staggered d S) (phi : ScalarField d S) (band threshold : S) : Nat :=
  d.activeAxes.foldl
    (fun total a => total + (d.faces a).nodes.countP (isSupported weight phi band threshold a)) 0

end Transfer

end FreeSurface

import FreeSurface.Field.Interpolation
import FreeSurface.Field.Flags

/-!
# Staggered velocities

A velocity field keeps each component on the faces across its axis: what flows through a face is
stored at the face.

* `Staggered.component` — the component along an axis, a field on the faces across it.
* `Staggered.updateActive` — rewrites the components along which the liquid moves; in a planar
  domain the third is left as it is.
* `Staggered.sample`, `Staggered.centered` — the velocity at a position and at the centre of a
  cell; the third entry is zero in a planar domain.
-/

namespace FreeSurface

open scoped Literals

/-- A velocity field: one component on the faces across each axis. -/
structure Staggered (d : Dims) (S : Type) where
  x : Field (d.faces .x) S
  y : Field (d.faces .y) S
  z : Field (d.faces .z) S

namespace Staggered

variable {d : Dims} {S : Type}

@[inline] def ofComponents (f : (a : Axis) → Field (d.faces a) S) : Staggered d S :=
  ⟨f .x, f .y, f .z⟩

@[inline] def component (v : Staggered d S) : (a : Axis) → Field (d.faces a) S
  | .x => v.x
  | .y => v.y
  | .z => v.z

/-- Rewrites the component along every axis of motion. -/
@[inline] def updateActive (v : Staggered d S)
    (f : (a : Axis) → Field (d.faces a) S → Field (d.faces a) S) : Staggered d S :=
  ⟨f .x v.x, f .y v.y, if d.isPlanar then v.z else f .z v.z⟩

variable [Scalar S]

/-- The same number on every face. -/
def constant (d : Dims) (s : S) : Staggered d S :=
  ofComponents fun a => Field.constant (d.faces a) s

/-- No motion. -/
def zero (d : Dims) : Staggered d S := constant d 0

def allFinite (v : Staggered d S) : Bool :=
  Field.allFinite v.x && Field.allFinite v.y && Field.allFinite v.z

/-- The vector of a number for each axis of motion, zero along the others. -/
@[inline] def activeVector (d : Dims) (f : Axis → S) : Vec3 S :=
  ⟨f .x, f .y, if d.isPlanar then 0 else f .z⟩

/-- One component at a position. -/
def sampleComponent (v : Staggered d S) (a : Axis) (p : Vec3 S) : S :=
  Field.interpolate (v.component a) (p - Dims.faceOffset a)

/-- The bounds of the values blended for one component at a position. -/
def sampleComponentBounds (v : Staggered d S) (a : Axis) (p : Vec3 S) : S × S :=
  Field.boundsAt (v.component a) (p - Dims.faceOffset a)

/-- The velocity at a position. -/
def sample (v : Staggered d S) (p : Vec3 S) : Vec3 S :=
  activeVector d fun a => v.sampleComponent a p

/-- The velocity at the centre of a cell: along each axis the mean of the two faces. -/
def centered (v : Staggered d S) (c : d.Cell) : Vec3 S :=
  activeVector d fun a =>
    let component := v.component a
    Scalar.half *
      (component.get (d.cellFace a c .lower) + component.get (d.cellFace a c .upper))

/-- The largest speed at the centre of a cell.  A speed that is no number counts as none. -/
def maxMagnitude (v : Staggered d S) : S :=
  d.cells.nodes.foldl (fun m c => Scalar.max m (v.centered c).length) 0

end Staggered

end FreeSurface

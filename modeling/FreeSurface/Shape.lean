import FreeSurface.Field.Staggered

/-!
# Shapes

Boxes and spheres, from which a scene is put together.  A scene gives them in units of the domain;
`Shape.scaled` turns them into cells.

* `Shape.signedDistance` — negative inside, zero on the boundary, positive outside.  In a planar
  domain only the cross-section counts.
* `Shape.levelSet` — the distance at every cell centre.
* `Shape.paint`, `Shape.impose` — flags the cells, and sets the velocity on the faces, whose
  midpoints the shape contains.
-/

namespace FreeSurface

open scoped Literals

/-- A solid of which every point has a signed distance. -/
inductive Shape (S : Type) where
  /-- The points between two corners. -/
  | box (min max : Vec3 S)
  /-- The points around a centre. -/
  | sphere (center : Vec3 S) (radius : S)
deriving BEq, Inhabited

namespace Shape

variable {S : Type} [Scalar S]

/-- A shape given in units of the domain, in cells.  Corners and centres scale with each side, a
radius with the longest. -/
def scaled (d : Dims) : Shape S → Shape S
  | box min max => box (min * d.extent) (max * d.extent)
  | sphere center radius => sphere (center * d.extent) (radius * Scalar.ofNat d.maxResolution)

/-- One along the axes that count. -/
@[inline] def mask (planar : Bool) : Vec3 S := if planar then ⟨1, 1, 0⟩ else Vec3.splat 1

/-- The signed distance of a point to the boundary of a shape. -/
def signedDistance (shape : Shape S) (p : Vec3 S) (planar : Bool) : S :=
  match shape with
  | box min max =>
    let center := (min + max) * (Scalar.half : S)
    let halfSides := (max - min) * (Scalar.half : S)
    let q := ((p - center).map Scalar.abs - halfSides) * mask planar
    let outside := (q.map fun s => Scalar.max s 0).length
    let inside := Scalar.min (if planar then Scalar.max q.x q.y else q.maxEntry) 0
    outside + inside
  | sphere center radius => ((p - center) * mask planar).length - radius

/-- The shape contains a point; it contains its boundary. -/
@[inline] def contains (shape : Shape S) (p : Vec3 S) (planar : Bool) : Bool :=
  shape.signedDistance p planar ≤ 0

/-- The signed distance at the centre of every cell. -/
def levelSet (shape : Shape S) (d : Dims) : ScalarField d S :=
  Field.tabulate fun c => shape.signedDistance (d.center c) d.isPlanar

variable {d : Dims}

/-- Flags every cell whose centre the shape contains. -/
def paint (shape : Shape S) (g : Flags d) (f : Flag) : Flags d :=
  { g with
    cells := g.cells.update fun c old => if shape.contains (d.center c) d.isPlanar then f else old }

/-- Sets the velocity on every face whose midpoint the shape contains. -/
def impose (shape : Shape S) (v : Staggered d S) (value : Vec3 S) : Staggered d S :=
  v.updateActive fun a component =>
    component.update fun f old =>
      if shape.contains (d.facePosition a f) d.isPlanar then value.get a else old

end Shape

end FreeSurface

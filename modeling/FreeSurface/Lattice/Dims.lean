import FreeSurface.Lattice.Basic
import FreeSurface.Vec3

/-!
# Domains

The extent of a simulated domain, in cells.  Lengths are measured in cells throughout: cell
`(i, j, k)` covers `[i, i+1) × [j, j+1) × [k, k+1)`, and a domain one cell deep is **planar**.

* `Dims.cells` — the lattice of cells; `Dims.faces a` — the lattice of the faces across axis `a`,
  which has one more node along `a`.
* `Dims.faceCells` — the cells a face lies between.
* `Dims.cellAt?` — the cell that holds a position.
* `Dims.clampPosition` — moves a position away from the border of the domain.
-/

namespace FreeSurface

open scoped Literals

/-- The number of cells along each axis. -/
structure Dims where
  width : Nat
  height : Nat
  depth : Nat
  width_pos : 0 < width
  height_pos : 0 < height
  depth_pos : 0 < depth
deriving DecidableEq

/-- A domain without cells was asked for. -/
structure EmptyDomain where
  width : Nat
  height : Nat
  depth : Nat
deriving DecidableEq, Repr

/-- What is reported about a domain without cells. -/
def EmptyDomain.message (e : EmptyDomain) : String :=
  "grid dimensions must be positive, got "
    ++ toString e.width ++ "x" ++ toString e.height ++ "x" ++ toString e.depth

namespace Dims

/-- The domain of given sides, none of which may be zero. -/
def ofSides (width height depth : Nat) : Except EmptyDomain Dims :=
  if h : 0 < width ∧ 0 < height ∧ 0 < depth then
    .ok ⟨width, height, depth, h.1, h.2.1, h.2.2⟩
  else .error ⟨width, height, depth⟩

/-- A square of the given side for dimension two, else a cube. -/
def cubic (dimension resolution : Nat) : Except EmptyDomain Dims :=
  ofSides resolution resolution (if dimension = 2 then 1 else resolution)

/-! ## Shape -/

/-- One cell deep. -/
@[inline] def isPlanar (d : Dims) : Bool := d.depth == 1

/-- Two for a planar domain, else three. -/
def dimension (d : Dims) : Nat := if d.isPlanar then 2 else 3

/-- Axes along which the liquid moves. -/
def activeAxes (d : Dims) : List Axis := if d.isPlanar then [.x, .y] else Axis.all

/-- Whether the liquid moves along an axis. -/
@[inline] def isActive (d : Dims) : Axis → Bool
  | .z => !d.isPlanar
  | _ => true

/-- The number of cells along the longest side: one unit of length of a scene. -/
def maxResolution (d : Dims) : Nat := Nat.max (Nat.max d.width d.height) d.depth

/-! ## Cells and faces -/

def cells (d : Dims) : Lattice :=
  ⟨d.width, d.height, d.depth, d.width_pos, d.height_pos, d.depth_pos⟩

/-- The lattice of faces across an axis: below each cell and above the last. -/
def faces (d : Dims) : Axis → Lattice
  | .x => ⟨d.width + 1, d.height, d.depth, Nat.succ_pos _, d.height_pos, d.depth_pos⟩
  | .y => ⟨d.width, d.height + 1, d.depth, d.width_pos, Nat.succ_pos _, d.depth_pos⟩
  | .z => ⟨d.width, d.height, d.depth + 1, d.width_pos, d.height_pos, Nat.succ_pos _⟩

/-- A cell of the domain. -/
abbrev Cell (d : Dims) : Type := d.cells.Node

/-- A face of the domain across an axis. -/
abbrev Face (d : Dims) (a : Axis) : Type := (d.faces a).Node

abbrev cellCount (d : Dims) : Nat := d.cells.size

/-- The cells below and above the face at given coordinates, where there are any. -/
@[inline] def cellsAtFace (d : Dims) (a : Axis) (c : Coords) : Option d.Cell × Option d.Cell :=
  (d.cells.neighbor? c a .lower, d.cells.nodeAt? c)

/-- The cells below and above a face; none beyond the border of the domain. -/
@[inline] def faceCells (d : Dims) (a : Axis) (f : d.Face a) : Option d.Cell × Option d.Cell :=
  d.cellsAtFace a ((d.faces a).coords f)

/-- Coordinates of a cell are coordinates of the face below it and, one step up, of the face above
it. -/
theorem contains_faces_of_contains_cells (d : Dims) (a : Axis) {c : Coords}
    (h : d.cells.Contains c) : (d.faces a).Contains c ∧ (d.faces a).Contains (c.succ a) := by
  obtain ⟨hi, hj, hk⟩ := h
  simp only [cells] at hi hj hk
  cases a <;> simp only [Lattice.Contains, faces, Coords.succ] <;> omega

/-- The face on a side of a cell, across an axis. -/
@[inline] def cellFace (d : Dims) (a : Axis) (c : d.Cell) : Side → d.Face a
  | .lower => (d.faces a).node (d.cells.coords c)
      (d.contains_faces_of_contains_cells a (d.cells.contains_coords c.isLt)).1
  | .upper => (d.faces a).node ((d.cells.coords c).succ a)
      (d.contains_faces_of_contains_cells a (d.cells.contains_coords c.isLt)).2

/-! ## Positions -/

section Positions

variable {S : Type} [Scalar S]

def extent (d : Dims) : Vec3 S :=
  ⟨Scalar.ofNat d.width, Scalar.ofNat d.height, Scalar.ofNat d.depth⟩

/-- The centre of the cell at given coordinates. -/
@[inline] def centerAt (c : Coords) : Vec3 S :=
  ⟨Scalar.ofNat c.i + Scalar.half, Scalar.ofNat c.j + Scalar.half, Scalar.ofNat c.k + Scalar.half⟩

@[inline] def center (d : Dims) (c : d.Cell) : Vec3 S := centerAt (d.cells.coords c)

/-- A face lies half a cell from the corner of its cell along every axis but its own. -/
@[inline] def faceOffset : Axis → Vec3 S
  | .x => ⟨0, Scalar.half, Scalar.half⟩
  | .y => ⟨Scalar.half, 0, Scalar.half⟩
  | .z => ⟨Scalar.half, Scalar.half, 0⟩

/-- The lower corner of the cell at given coordinates. -/
@[inline] def cornerAt (c : Coords) : Vec3 S :=
  ⟨Scalar.ofNat c.i, Scalar.ofNat c.j, Scalar.ofNat c.k⟩

@[inline] def facePositionAt (a : Axis) (c : Coords) : Vec3 S := cornerAt c + faceOffset a

@[inline] def facePosition (d : Dims) (a : Axis) (f : d.Face a) : Vec3 S :=
  facePositionAt a ((d.faces a).coords f)

/-- The signed coordinates of the cell around a position, inside the domain or not. -/
@[inline] def cellOf (p : Vec3 S) : Int × Int × Int :=
  (Scalar.toInt32 (Scalar.floor p.x), Scalar.toInt32 (Scalar.floor p.y),
    Scalar.toInt32 (Scalar.floor p.z))

/-- The cell that holds a position, where it lies in the domain. -/
@[inline] def cellAt? (d : Dims) (p : Vec3 S) : Option d.Cell :=
  let (i, j, k) := cellOf p
  d.cells.node? i j k

/-- The range left along a side of the given extent when `inset` is kept from either end.  Where
that leaves nothing the range is the single point at which the ends meet, or `inset` itself. -/
@[inline] def insetRange (extent inset : S) : S × S :=
  let lo := Scalar.min inset (Scalar.half * extent)
  (lo, Scalar.max (extent - inset) lo)

/-- Moves a position to at least `inset` from the border of the domain, and into the middle of the
only layer of a planar domain. -/
def clampPosition (d : Dims) (p : Vec3 S) (inset : S) : Vec3 S :=
  let along (x : S) (side : Nat) : S :=
    let range := insetRange (Scalar.ofNat side) inset
    Scalar.clamp x range.1 range.2
  ⟨along p.x d.width, along p.y d.height,
    if d.isPlanar then Scalar.half else along p.z d.depth⟩

end Positions

end Dims

end FreeSurface

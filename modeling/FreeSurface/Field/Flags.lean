import FreeSurface.Field.Basic

/-!
# Flags

Every cell is liquid, solid or air.  Solid cells come from the walls of the domain and the
obstacles of the scene and stay; liquid and air are read off the sign of the level set.

* `Flags.walled` — a domain closed by solid layers, one more than the boundary width.
* `Flags.reclassify` — liquid where the level set is negative, air elsewhere, solid as before.
* `Flags.isWallFace` — a face of a solid cell or of the border of the domain: nothing flows
  through it.
* `Flags.isFluidFace` — a face of a liquid cell.
-/

namespace FreeSurface

/-- What a cell holds. -/
inductive Flag where
  | fluid
  | obstacle
  | empty
deriving DecidableEq, Repr, Inhabited

/-- What every cell of a domain holds, and how many solid layers close the domain. -/
structure Flags (d : Dims) where
  cells : Field d.cells Flag
  wallLayers : Nat

namespace Flags

variable {d : Dims}

/-- Air in every cell, and no walls. -/
def empty (d : Dims) : Flags d := ⟨Field.constant d.cells .empty, 0⟩

@[inline] def isFluid (g : Flags d) (c : d.Cell) : Bool := g.cells[c] == .fluid

@[inline] def isObstacle (g : Flags d) (c : d.Cell) : Bool := g.cells[c] == .obstacle

def set (g : Flags d) (c : d.Cell) (f : Flag) : Flags d := { g with cells := Field.put g.cells c f }

/-- One of the outer `width + 1` layers of a side of `n` cells. -/
@[inline] def inWall (width n i : Nat) : Bool := i ≤ width || n ≤ i + 1 + width

/-- The cell at given coordinates belongs to the walls of a domain.  A planar domain has none in
front of and behind its only layer. -/
def isWall (d : Dims) (width : Nat) (c : Coords) : Bool :=
  inWall width d.width c.i || inWall width d.height c.j
    || (!d.isPlanar && inWall width d.depth c.k)

/-- Solid walls of the given boundary width around air. -/
def walled (d : Dims) (width : Nat) : Flags d where
  cells := Field.tabulate fun c =>
    if isWall d width (d.cells.coords c) then .obstacle else .empty
  wallLayers := width + 1

/-- The number of liquid cells. -/
def fluidCount (g : Flags d) : Nat := g.cells.count .fluid

section Scalars

variable {S : Type} [Scalar S]

/-- Liquid where the level set is negative and air elsewhere; solid cells stay. -/
def reclassify (g : Flags d) (phi : ScalarField d S) : Flags d :=
  { g with
    cells := g.cells.update fun c f =>
      if f == .obstacle then f else if phi.get c < surfaceThreshold then .fluid else .empty }

/-- Moves a position to at least `margin` from the walls of the domain. -/
def clampToInterior (g : Flags d) (p : Vec3 S) (margin : S) : Vec3 S :=
  d.clampPosition p (Scalar.ofNat g.wallLayers + margin)

end Scalars

/-- The face at given coordinates touches a solid cell or the outside. -/
@[inline] def isWallAt (g : Flags d) (a : Axis) (c : Coords) : Bool :=
  match d.cellsAtFace a c with
  | (some l, some u) => g.isObstacle l || g.isObstacle u
  | _ => true

/-- The face at given coordinates touches a liquid cell. -/
@[inline] def isFluidAt (g : Flags d) (a : Axis) (c : Coords) : Bool :=
  match d.cellsAtFace a c with
  | (l, u) => l.any g.isFluid || u.any g.isFluid

/-- Some cell at the face is solid, or there is none on one side. -/
@[inline] def isWallFace (g : Flags d) (a : Axis) (f : d.Face a) : Bool :=
  g.isWallAt a ((d.faces a).coords f)

@[inline] def isFluidFace (g : Flags d) (a : Axis) (f : d.Face a) : Bool :=
  g.isFluidAt a ((d.faces a).coords f)

end Flags

end FreeSurface

import FreeSurface.Field.Staggered

/-!
# The pressure equation

The discrete Poisson equation for the pressure in the liquid.  Solid neighbours and the outside do
not appear in it; a neighbour that holds air has pressure zero, reached where the level set crosses
the surface rather than at its centre.

* `Poisson.isOpen` — liquid cells with a neighbour that is not solid have a pressure; they are the
  unknowns, in the order of the cells.
* `Poisson.surfaceFraction` — how far towards an air cell the surface lies.
* `Poisson.build` — the system over the unknowns: a diagonal, and `-1` for each liquid neighbour.
* `divergence` — what flows out of every liquid cell.
-/

namespace FreeSurface

open scoped Literals

/-- What flows out of every liquid cell per unit of time; zero elsewhere. -/
def divergence {d : Dims} {S : Type} [Scalar S] (g : Flags d) (v : Staggered d S) :
    ScalarField d S :=
  Field.tabulate fun c =>
    if g.isFluid c then
      d.activeAxes.foldl
        (fun sum a =>
          let component := v.component a
          sum + (component.get (d.cellFace a c .upper) - component.get (d.cellFace a c .lower)))
        0
    else 0

/-- A pressure equation with `n` unknowns. -/
structure Poisson (d : Dims) (D : Type) (n : Nat) where
  /-- The cell of each unknown. -/
  cells : Vector d.Cell n
  diagonal : Vector D n
  /-- The unknowns next to each unknown. -/
  adjacent : Vector (List (Fin n)) n
  /-- Some unknown lies next to air. -/
  hasFreeSurface : Bool

namespace Poisson

variable {d : Dims} {S D : Type} [Scalar S] [Scalar D] [Precision S D]

/-- The surface is taken to lie at least this fraction of the way to an air cell. -/
@[inline] def minSurfaceFraction : S := Scalar.ofDecimal 1 2

/-- The fraction of the way from a liquid cell to an air cell at which the level set crosses zero:
all the way without a level set, or where it does not cross. -/
def surfaceFraction (phi : Option (ScalarField d S)) (fluid empty : d.Cell) : S :=
  match phi with
  | some phi =>
    let inside := phi.get fluid
    let drop := inside - phi.get empty
    if inside < 0 ∧ drop < 0 then Scalar.clamp (inside / drop) minSurfaceFraction 1 else 1
  | none => 1

/-- A liquid cell with a neighbour that is not solid. -/
def isOpen (g : Flags d) (c : d.Cell) : Bool :=
  g.isFluid c && (d.cells.neighbors c).any fun n => !g.isObstacle n

/-- The cells with a pressure, in order. -/
def unknowns (g : Flags d) : Array d.Cell := (d.cells.nodes.filter (isOpen g)).toArray

/-- The unknown of each cell that has one. -/
def numbering {n : Nat} (cells : Vector d.Cell n) : Field d.cells (Option (Fin n)) :=
  (List.finRange n).foldl (fun numbers u => Field.put numbers (cells.get u) (some u))
    (Field.constant d.cells none)

/-- What a neighbour adds to the diagonal of an unknown. -/
def diagonalTerm (g : Flags d) (phi : Option (ScalarField d S)) (c n : d.Cell) (sum : D) : D :=
  match g.cells.get n with
  | .obstacle => sum
  | .fluid => sum + 1
  | .empty => sum + 1 / widen (surfaceFraction phi c n)

/-- The pressure equation of the liquid. -/
def build (g : Flags d) (phi : Option (ScalarField d S)) : Poisson d D (unknowns g).size :=
  let cells : Vector d.Cell (unknowns g).size := ⟨unknowns g, rfl⟩
  let numbers := numbering cells
  { cells := cells
    diagonal := cells.map fun c =>
      (d.cells.neighbors c).foldl (fun sum n => diagonalTerm g phi c n sum) 0
    adjacent := cells.map fun c =>
      (d.cells.neighbors c).filterMap fun n => if g.isFluid n then numbers.get n else none
    hasFreeSurface := cells.any fun c =>
      (d.cells.neighbors c).any fun n => g.cells.get n == .empty }

/-- The left side of the equation. -/
def apply {n : Nat} (system : Poisson d D n) (x : Vector D n) : Vector D n :=
  Vector.ofFn fun u =>
    (system.adjacent.get u).foldl (fun sum w => sum - x.get w) (system.diagonal.get u * x.get u)

end Poisson

end FreeSurface

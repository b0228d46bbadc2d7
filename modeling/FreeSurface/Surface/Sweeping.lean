import FreeSurface.Surface.Eikonal

/-!
# Reinitialization by sweeping

Turns a level set into a signed distance without moving a sign.  Cells at the surface are frozen at
their estimated distance; every other cell repeatedly takes the distance that its own side allows,
in sweeps over the domain from every corner.
-/

namespace FreeSurface

open scoped Literals

namespace Surface

variable {d : Dims} {S : Type} [Scalar S]

/-- A sweep runs up (`true`) or down each axis. -/
structure Sweep where
  i : Bool
  j : Bool
  k : Bool
deriving DecidableEq, Repr

namespace Sweep

/-- The positions along a side of `n` cells, in the direction of a sweep. -/
def along (n : Nat) (up : Bool) : List (Fin n) :=
  if up then List.finRange n else (List.finRange n).reverse

/-- All cells in the order of a sweep: `x` runs fastest. -/
def cells (s : Sweep) (d : Dims) : List d.Cell :=
  (along d.depth s.k).flatMap fun k =>
    (along d.height s.j).flatMap fun j =>
      (along d.width s.i).map fun i => d.cells.nodeOf i j k

/-- The four sweeps of a layer. -/
def ofLayer (k : Bool) : List Sweep :=
  [⟨true, true, k⟩, ⟨false, true, k⟩, ⟨true, false, k⟩, ⟨false, false, k⟩]

/-- One sweep from each corner; a planar domain has four. -/
def all (d : Dims) : List Sweep :=
  if d.isPlanar then ofLayer true else ofLayer true ++ ofLayer false

end Sweep

/-- Lowers the distance of a cell to what its neighbours on the same side allow. -/
def relax (inside frozen : Field d.cells Bool) (dist : ScalarField d S) (c : d.Cell) :
    ScalarField d S :=
  if frozen.get c then dist
  else
    let known (n : d.Cell) : Bool := inside.get n == inside.get c
    let x := leastAlong dist known c .x
    let y := leastAlong dist known c .y
    let z := leastAlong dist known c .z
    if Scalar.isFinite x || Scalar.isFinite y || Scalar.isFinite z then
      Field.put dist c (Scalar.min (dist.get c) (solveEikonal x y z))
    else dist

/-- How often the sweeps are repeated. -/
def sweepPasses : Nat := 2

/-- The signed distance of a level set.  A cell that no sweep reaches keeps the sum of the sides,
which is farther than any cell can be. -/
def reinitExact (phi : ScalarField d S) : ScalarField d S :=
  let inside : Field d.cells Bool := phi.map isInside
  let estimate : Field d.cells (Option S) :=
    Field.tabulate fun c => interfaceDistance? phi (fun _ => true) c
  let frozen : Field d.cells Bool := estimate.map (·.isSome)
  let farthest : S := Scalar.ofNat (d.width + d.height + d.depth)
  let start : ScalarField d S := estimate.map (·.getD farthest)
  let orders := (Sweep.all d).map (·.cells d)
  let pass (dist : ScalarField d S) : ScalarField d S :=
    orders.foldl (fun dist cells => cells.foldl (relax inside frozen) dist) dist
  let dist := (List.range sweepPasses).foldl (fun dist _ => pass dist) start
  Field.tabulate fun c => signOf (inside.get c) * dist.get c

end Surface

end FreeSurface

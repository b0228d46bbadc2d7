import FreeSurface.Surface.Layers

/-!
# Distances near the surface

The two local rules of reinitialization.

* `Surface.interfaceDistance?` — the distance of a cell to the surface, estimated from where the
  level set changes sign on the way to its neighbours.
* `Surface.solveEikonal` — the distance that has unit slope, given the least known distance along
  each axis; infinity where nothing is known.
-/

namespace FreeSurface

open scoped Literals

namespace Surface

variable {d : Dims} {S : Type} [Scalar S]

/-- A crossing is taken to be at least this fraction of the way to the neighbour. -/
@[inline] def minInterfaceFraction : S := Scalar.ofDecimal 1 3

/-- The sign of a side as a factor. -/
@[inline] def signOf (inside : Bool) : S := if inside then -(1 : S) else 1

/-- The fraction of the way to a neighbour at which the surface is crossed: the least over both
neighbours along an axis, infinity where there is no crossing. -/
def crossingFraction (phi : ScalarField d S) (active : d.Cell → Bool) (c : d.Cell) (a : Axis) : S :=
  (d.cells.neighborsAlong (d.cells.coords c) a).foldl
    (fun theta n =>
      if active n && isInside (phi.get n) != isInside (phi.get c) then
        let t := Scalar.max (Scalar.abs (phi.get c / (phi.get c - phi.get n))) minInterfaceFraction
        Scalar.min theta t
      else theta)
    Scalar.infinity

/-- The distance of a cell to the surface, if the surface is crossed on the way to some active
neighbour: `1 / √(Σ 1/θ²)` over the axes with a crossing at `θ`. -/
def interfaceDistance? (phi : ScalarField d S) (active : d.Cell → Bool) (c : d.Cell) : Option S :=
  let fractions := (Axis.all.map (crossingFraction phi active c)).filter Scalar.isFinite
  if fractions.isEmpty then none
  else some (1 / Scalar.sqrt (fractions.foldl (fun sum t => sum + 1 / (t * t)) 0))

/-- Three values in ascending order. -/
@[inline] def sortThree (a b c : S) : S × S × S :=
  if a ≤ b then
    if b ≤ c then (a, b, c) else if a ≤ c then (a, c, b) else (c, a, b)
  else if a ≤ c then (b, a, c)
  else if b ≤ c then (b, c, a) else (c, b, a)

/-- The solution of `max(x-a, 0)² + max(x-b, 0)² + max(x-c, 0)² = 1`, found by letting in one value
after the other as long as the solution lies above it. -/
def solveEikonal (phiX phiY phiZ : S) : S :=
  let (a, b, c) := sortThree phiX phiY phiZ
  let one := a + 1
  let two :=
    if b < one then
      let discriminant := 2 - (a - b) * (a - b)
      if 0 ≤ discriminant then (a + b + Scalar.sqrt discriminant) / 2 else one
    else one
  if c < two then
    let sum := a + b + c
    let squares := a * a + b * b + c * c
    let discriminant := sum * sum - 3 * (squares - 1)
    if 0 ≤ discriminant then (sum + Scalar.sqrt discriminant) / 3 else two
  else two

/-- The least known distance along an axis next to a cell, infinity where none is known. -/
def leastAlong (dist : ScalarField d S) (known : d.Cell → Bool) (c : d.Cell) (a : Axis) : S :=
  (d.cells.neighborsAlong (d.cells.coords c) a).foldl
    (fun least n => if known n then Scalar.min least (dist.get n) else least) Scalar.infinity

end Surface

end FreeSurface

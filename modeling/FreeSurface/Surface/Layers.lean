import FreeSurface.Field.Front

/-!
# Layers away from the surface

Rewrites one side of a level set so that it grows by one per cell.  The cells at the surface keep
their values; the layers behind them follow; what lies behind the last layer gets its distance.
-/

namespace FreeSurface

open scoped Literals

namespace Surface

variable {d : Dims} {S : Type} [Scalar S]

/-- The value belongs to a point in the liquid. -/
@[inline] def isInside (s : S) : Bool := s < 0

/-- Some neighbour of the cell lies on the other side of the surface. -/
def touchesOtherSide (phi : ScalarField d S) (c : d.Cell) : Bool :=
  (d.cells.neighbors c).any fun n => isInside (phi.get n) != isInside (phi.get c)

/-- Rewrites the liquid side (`inside`) or the air side of a level set: a layer takes the mean of
the layer before it, one deeper or one higher, for `distance` layers counting the cells at the
surface; the rest of the side is set to that distance. -/
def extrapolate (phi : ScalarField d S) (distance : Nat) (inside : Bool) : ScalarField d S :=
  let direction : S := if inside then -(1 : S) else 1
  let onSide (c : d.Cell) : Bool := isInside (phi.get c) == inside
  let start : Front d.cells S :=
    ⟨phi, Field.tabulate fun c => onSide c && touchesOtherSide phi c⟩
  let rule (c : d.Cell) (values : List S) : Option S :=
    if onSide c then (Front.mean? values).map (· + direction) else none
  let front := start.spread rule (distance - 1)
  let far := direction * Scalar.ofNat distance
  front.values.update fun c s => if onSide c && !(front.settled.get c) then far else s

end Surface

end FreeSurface

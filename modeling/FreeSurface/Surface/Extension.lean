import FreeSurface.Field.Flags
import FreeSurface.Field.Front

/-!
# Extension into obstacles

The level set is carried from liquid and air into solid cells, each taking the least value next to
it, so that a wall never looks like a surface.
-/

namespace FreeSurface

open scoped Literals

namespace Surface

variable {d : Dims} {S : Type} [Scalar S]

/-- The least of some values, where it is finite. -/
def leastFinite? (_ : d.Cell) (values : List S) : Option S :=
  let least := values.foldl Scalar.min Scalar.infinity
  if Scalar.isFinite least then some least else none

/-- Gives solid cells, layer by layer, the least value among their neighbours that have one. -/
def extendIntoObstacles (phi : ScalarField d S) (g : Flags d) : ScalarField d S :=
  let start : Front d.cells S := ⟨phi, g.cells.map (· != .obstacle)⟩
  (start.spread leastFinite? d.cellCount).values

end Surface

end FreeSurface

import FreeSurface.Lattice.Dims

/-!
# Fields

A field holds one value for each node of a lattice.  The size is part of the type, so reading at a
node is total and two fields on one lattice can be combined node by node.

* `Field.tabulate` — the field of a function on nodes.
* `ScalarField` — a number in every cell; a *level set* is a scalar field that is negative inside
  the liquid.
* `Field.join` — the smaller of two values at each node: the level set of a union.
-/

namespace FreeSurface

open scoped Literals

/-- One value for each node of a lattice. -/
abbrev Field (L : Lattice) (α : Type) : Type := Vector α L.size

namespace Field

variable {L : Lattice} {α : Type}

/-- The field with the same value everywhere. -/
def constant (L : Lattice) (a : α) : Field L α := Vector.replicate L.size a

/-- The field of a function on nodes. -/
@[inline] def tabulate (f : L.Node → α) : Field L α := Vector.ofFn f

/-- Changes every value by its node. -/
@[inline] def update (v : Field L α) (f : L.Node → α → α) : Field L α :=
  Vector.ofFn fun n => f n (v.get n)

/-- The field of the given values in the order of the nodes, if there are as many. -/
def ofArray? (L : Lattice) (values : Array α) : Option (Field L α) :=
  if h : values.size = L.size then some ⟨values, h⟩ else none

/-- Changes the value at one node. -/
@[inline] def put (v : Field L α) (n : L.Node) (a : α) : Field L α := v.set n a

section Scalars

variable {S : Type} [Scalar S]

def allFinite (v : Field L S) : Bool := v.all Scalar.isFinite

/-- Adds the same number everywhere. -/
def addConstant (v : Field L S) (s : S) : Field L S := v.map (· + s)

/-- The smaller of two values at each node. -/
def join (v w : Field L S) : Field L S := tabulate fun n => Scalar.min (v.get n) (w.get n)

end Scalars

end Field

/-- A number in every cell of a domain. -/
abbrev ScalarField (d : Dims) (S : Type) : Type := Field d.cells S

/-- The liquid is where a level set is below this value. -/
@[inline] def surfaceThreshold {S : Type} [Scalar S] : S := 0

end FreeSurface

import FreeSurface.Lattice.Axis
import FreeSurface.Number.Word

/-!
# Lattices

A box of nodes numbered row by row: along `x` first, then `y`, then `z`.  Cells of a domain and the
faces that carry one velocity component are both nodes of such a box, so numbering and incidence
are settled here once for all of them.

* `Lattice.index`, `Lattice.coords` — the number of a node and its coordinates.
* `Lattice.holds` — whether signed coordinates lie in a lattice; `Lattice.node?` is the node there.
* `Lattice.neighbor?` — the node one step along an axis; `Lattice.neighbors` lists the nodes around
  a node, lower before upper, axis by axis.

**Coordinates out of range.**  `index`, `coords` and `neighbor?` are arithmetic and defined for any
coordinates; only `node?` and what is built on it promise a node.

**Long sides.**  Signed coordinates are words, and a side is compared with them as a word.  So a
lattice with a side of `2 ^ 31` nodes holds no signed coordinates: that side is a negative word.
Steps from node to node, `neighbor?` and `neighbors`, are taken on natural numbers instead and know
no such limit.  Both agree in a lattice whose sides are words, and only there does `neighbors` stand
for the six slots of `Lattice.slots` (`Lattice.map_val_neighbors`).
-/

namespace FreeSurface

/-- Coordinates of a node. -/
structure Coords where
  i : Nat
  j : Nat
  k : Nat
deriving DecidableEq, Repr, Inhabited

namespace Coords

def get (c : Coords) : Axis → Nat
  | .x => c.i
  | .y => c.j
  | .z => c.k

/-- One step up along an axis. -/
@[inline] def succ (c : Coords) : Axis → Coords
  | .x => { c with i := c.i + 1 }
  | .y => { c with j := c.j + 1 }
  | .z => { c with k := c.k + 1 }

/-- One step along an axis, unless it leads below zero. -/
@[inline] def step? (c : Coords) : Axis → Side → Option Coords
  | a, .upper => some (c.succ a)
  | .x, .lower => if c.i = 0 then none else some { c with i := c.i - 1 }
  | .y, .lower => if c.j = 0 then none else some { c with j := c.j - 1 }
  | .z, .lower => if c.k = 0 then none else some { c with k := c.k - 1 }

end Coords

/-- A box of nodes with at least one node along each axis. -/
structure Lattice where
  nx : Nat
  ny : Nat
  nz : Nat
  nx_pos : 0 < nx
  ny_pos : 0 < ny
  nz_pos : 0 < nz

namespace Lattice

/-- The number of nodes. -/
def size (L : Lattice) : Nat := L.nx * L.ny * L.nz

/-- A node, by its number. -/
abbrev Node (L : Lattice) : Type := Fin L.size

/-- The number of the node at given coordinates. -/
@[inline] def index (L : Lattice) (c : Coords) : Nat :=
  c.k * L.nx * L.ny + c.j * L.nx + c.i

/-- The coordinates of the node of a given number. -/
@[inline] def coords (L : Lattice) (n : Nat) : Coords :=
  ⟨n % L.nx, (n / L.nx) % L.ny, n / (L.nx * L.ny)⟩

/-- Coordinates of a node of the lattice. -/
def Contains (L : Lattice) (c : Coords) : Prop :=
  c.i < L.nx ∧ c.j < L.ny ∧ c.k < L.nz

instance (L : Lattice) (c : Coords) : Decidable (L.Contains c) :=
  inferInstanceAs (Decidable (_ ∧ _ ∧ _))

/-- Coordinates in range have a number in range. -/
theorem index_lt_size (L : Lattice) {c : Coords} (h : L.Contains c) : L.index c < L.size := by
  obtain ⟨hi, hj, hk⟩ := h
  unfold index size
  have row : c.j * L.nx + c.i < L.nx * L.ny := by
    calc c.j * L.nx + c.i < c.j * L.nx + L.nx := Nat.add_lt_add_left hi _
      _ = (c.j + 1) * L.nx := (Nat.succ_mul _ _).symm
      _ ≤ L.ny * L.nx := Nat.mul_le_mul_right _ hj
      _ = L.nx * L.ny := Nat.mul_comm _ _
  calc c.k * L.nx * L.ny + c.j * L.nx + c.i
      = c.k * (L.nx * L.ny) + (c.j * L.nx + c.i) := by rw [Nat.mul_assoc, Nat.add_assoc]
    _ < c.k * (L.nx * L.ny) + L.nx * L.ny := Nat.add_lt_add_left row _
    _ = (c.k + 1) * (L.nx * L.ny) := (Nat.succ_mul _ _).symm
    _ ≤ L.nz * (L.nx * L.ny) := Nat.mul_le_mul_right _ hk
    _ = L.nx * L.ny * L.nz := Nat.mul_comm _ _

/-- A number in range has coordinates in range. -/
theorem contains_coords (L : Lattice) {n : Nat} (h : n < L.size) : L.Contains (L.coords n) := by
  refine ⟨Nat.mod_lt _ L.nx_pos, Nat.mod_lt _ L.ny_pos, ?_⟩
  exact Nat.div_lt_of_lt_mul h

@[inline] def node (L : Lattice) (c : Coords) (h : L.Contains c) : L.Node :=
  ⟨L.index c, L.index_lt_size h⟩

/-- The node at coordinates that are bounded one by one. -/
@[inline] def nodeOf (L : Lattice) (i : Fin L.nx) (j : Fin L.ny) (k : Fin L.nz) : L.Node :=
  L.node ⟨i.val, j.val, k.val⟩ ⟨i.isLt, j.isLt, k.isLt⟩

@[inline] def nodeAt? (L : Lattice) (c : Coords) : Option L.Node :=
  if h : L.Contains c then some (L.node c h) else none

/-- Signed coordinates that lie in a lattice, as far as words can tell. -/
@[inline] def holds (L : Lattice) (i j k : Int) : Bool :=
  0 ≤ i && i < word L.nx && 0 ≤ j && j < word L.ny && 0 ≤ k && k < word L.nz

/-- The node at given signed coordinates, where there is one. -/
@[inline] def node? (L : Lattice) (i j k : Int) : Option L.Node :=
  if L.holds i j k then L.nodeAt? ⟨i.toNat, j.toNat, k.toNat⟩ else none

/-- The node one step away along an axis, where there is one. -/
@[inline] def neighbor? (L : Lattice) (c : Coords) (a : Axis) (s : Side) : Option L.Node :=
  match c.step? a s with
  | some c' => L.nodeAt? c'
  | none => none

/-- The nodes one step away along an axis, the lower one first. -/
@[inline] def neighborsAlong (L : Lattice) (c : Coords) (a : Axis) : List L.Node :=
  match L.neighbor? c a .lower, L.neighbor? c a .upper with
  | some l, some u => [l, u]
  | some l, none => [l]
  | none, some u => [u]
  | none, none => []

/-- The nodes one step away, axis by axis and the lower one first. -/
def neighbors (L : Lattice) (n : L.Node) : List L.Node :=
  let c := L.coords n
  L.neighborsAlong c .x ++ L.neighborsAlong c .y ++ L.neighborsAlong c .z

/-- All nodes in the order of their numbers. -/
def nodes (L : Lattice) : List L.Node := List.finRange L.size

end Lattice

end FreeSurface

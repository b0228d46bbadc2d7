import FreeSurface.Lattice.Dims

/-!
# Slots

What lies around a node, as callers outside of the library ask for it: by number, and with an empty
slot where there is nothing.

* `Lattice.slots` — six slots, two for each axis, the lower one first.
* `Dims.cellsBeside` — the cells below and above a face.

A step is taken and tested in signed words, so nothing lies around the nodes of a lattice with a
side of `2 ^ 31` nodes.
-/

namespace FreeSurface

/-- Down or up. -/
def Side.sign : Side → Int
  | .lower => -1
  | .upper => 1

/-- The entries of a step along an axis. -/
def Axis.step (a b : Axis) : Int := if a = b then 1 else 0

namespace Lattice

/-- The number of the node at signed coordinates, where there is one. -/
def numberAt? (L : Lattice) (i j k : Int) : Option Nat :=
  if L.holds i j k then some (L.index ⟨i.toNat, j.toNat, k.toNat⟩) else none

/-- The number of the node one step away along an axis, where there is one. -/
def slot (L : Lattice) (c : Coords) (a : Axis) (s : Side) : Option Nat :=
  L.numberAt? (word c.i + s.sign * a.step .x) (word c.j + s.sign * a.step .y)
    (word c.k + s.sign * a.step .z)

/-- The numbers of the nodes one step away, axis by axis and the lower one first. -/
def slots (L : Lattice) (c : Coords) : List (Option Nat) :=
  Axis.all.flatMap fun a => Side.all.map fun s => L.slot c a s

end Lattice

/-- The numbers of the cells below and above the face at given coordinates, where there are any. -/
def Dims.cellsBeside (d : Dims) (a : Axis) (c : Coords) : Option Nat × Option Nat :=
  (d.cells.slot c a .lower,
    if d.cells.holds (word c.i) (word c.j) (word c.k) then some (d.cells.index c) else none)

end FreeSurface

import FreeSurface.Field.Basic

/-!
# Interpolation

Values of a field between its nodes.

* `Field.interpolate` — the trilinear blend of the eight nodes around a point.  A point off the
  lattice is first moved onto it, so sampling outside gives the nearest border value.
* `Field.boundsAt` — the least and greatest of the node values around a point, between which every
  blend of them lies.
* `ScalarField.sample`, `ScalarField.sampleBounds` — the same for a field with its nodes at the
  centres of cells.
-/

namespace FreeSurface

open scoped Literals

namespace Field

variable {L : Lattice} {S : Type} [Scalar S]

/-- Where a point lies along one side of a lattice: between the nodes `lo` and `hi`, at the
fraction `t` of the way. -/
structure Bracket (n : Nat) (S : Type) where
  lo : Fin n
  hi : Fin n
  t : S

/-- The part of a coordinate that lies on a side of `n` nodes. -/
@[inline] def onSide (n : Nat) (x : S) : S := Scalar.clamp x 0 (Scalar.ofNat (n - 1))

/-- The nodes around a coordinate on a side of `n` nodes.  The last node ends an interval and begins
none, unless it is the only one. -/
@[inline] def bracket (n : Nat) (hn : 0 < n) (x : S) : Bracket n S :=
  let c := onSide n x
  let lo := Nat.min (Scalar.toNat (Scalar.floor c)) (n - 2)
  have hlo : lo < n := Nat.lt_of_le_of_lt (Nat.min_le_right _ _) (by omega)
  let hi := Nat.min (lo + 1) (n - 1)
  have hhi : hi < n := Nat.lt_of_le_of_lt (Nat.min_le_right _ _) (by omega)
  ⟨⟨lo, hlo⟩, ⟨hi, hhi⟩, Scalar.clamp (c - Scalar.ofNat lo) 0 1⟩

/-- The blend of two values at the fraction `t` of the way. -/
@[inline] def blend (a b t : S) : S := a * (1 - t) + b * t

/-- The trilinear blend of the nodes around a point, given in node coordinates. -/
def interpolate (v : Field L S) (p : Vec3 S) : S :=
  let x := bracket L.nx L.nx_pos p.x
  let y := bracket L.ny L.ny_pos p.y
  let z := bracket L.nz L.nz_pos p.z
  let value (i : Fin L.nx) (j : Fin L.ny) (k : Fin L.nz) : S :=
    v.get (L.nodeOf i j k)
  let row (j : Fin L.ny) (k : Fin L.nz) : S := blend (value x.lo j k) (value x.hi j k) x.t
  let layer (k : Fin L.nz) : S := blend (row y.lo k) (row y.hi k) y.t
  blend (layer z.lo) (layer z.hi) z.t

/-- The one or two nodes around a coordinate on a side of `n` nodes. -/
def around (n : Nat) (x : S) : List (Fin n) :=
  let lo := Scalar.toNat (Scalar.floor (onSide n x))
  if h : lo + 1 < n then [⟨lo, Nat.lt_of_succ_lt h⟩, ⟨lo + 1, h⟩]
  else if h : lo < n then [⟨lo, h⟩] else []

/-- The values at the nodes around a point, given in node coordinates. -/
def valuesAround (v : Field L S) (p : Vec3 S) : List S :=
  (around L.nz p.z).flatMap fun k =>
    (around L.ny p.y).flatMap fun j =>
      (around L.nx p.x).map fun i => v.get (L.nodeOf i j k)

/-- The least and the greatest of the values at the nodes around a point. -/
def boundsAt (v : Field L S) (p : Vec3 S) : S × S :=
  (valuesAround v p).foldl (fun (lo, hi) s => (Scalar.min lo s, Scalar.max hi s))
    (Scalar.infinity, -Scalar.infinity)

end Field

namespace ScalarField

variable {d : Dims} {S : Type} [Scalar S]

/-- The value of a field of cells at a position. -/
def sample (v : ScalarField d S) (p : Vec3 S) : S :=
  Field.interpolate v (p - Vec3.splat Scalar.half)

/-- The bounds of the values blended at a position. -/
def sampleBounds (v : ScalarField d S) (p : Vec3 S) : S × S :=
  Field.boundsAt v (p - Vec3.splat Scalar.half)

end ScalarField

end FreeSurface

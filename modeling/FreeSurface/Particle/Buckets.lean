import FreeSurface.Particle.Basic

/-!
# Particles by cell

A counting sort of particles by the cell that holds them.

* `Buckets.build` — `starts` holds where the bucket of each cell begins in `order`, and at the end
  the number of particles; `order` lists the particles bucket by bucket, each bucket in the order of
  the particles.  A particle outside the domain goes to the nearest cell of its border.
* `Buckets.members` — the particles of a cell.
* `Buckets.near` — the particles of all cells within a distance of given coordinates.
-/

namespace FreeSurface

/-- The particles `0 … n-1`, sorted by cell. -/
structure Buckets (d : Dims) (n : Nat) where
  starts : Vector Nat (d.cellCount + 1)
  order : Vector (Fin n) n

namespace Buckets

variable {d : Dims} {n : Nat}

/-- Moves a signed coordinate onto a side of `m` cells, the last of which has a word for its
number. -/
@[inline] def clampIndex (m : Nat) (hm : 0 < m) (i : Int) : Fin m :=
  ⟨Nat.min i.toNat (word m - 1).toNat,
    Nat.lt_of_le_of_lt (Nat.min_le_right _ _) (by have := word_le m; omega)⟩

/-- The cell in whose bucket a position belongs. -/
def bucketOf {S : Type} [Scalar S] (d : Dims) (p : Vec3 S) : d.Cell :=
  let (i, j, k) := Dims.cellOf p
  let i := clampIndex d.width d.width_pos i
  let j := clampIndex d.height d.height_pos j
  let k := clampIndex d.depth d.depth_pos k
  d.cells.nodeOf i j k

/-- How many of the given cells are each cell. -/
def occupancy (cells : Vector d.Cell n) : Field d.cells Nat :=
  cells.foldl (fun counts c => Field.put counts c (counts.get c + 1)) (Field.constant d.cells 0)

/-- Running totals of some counts, beginning with zero. -/
def runningTotals (counts : Array Nat) : Array Nat :=
  counts.foldl (fun totals count => totals.push (totals.back?.getD 0 + count)) #[0]

/-- Where each bucket begins. -/
def startsOf (counts : Field d.cells Nat) : Vector Nat (d.cellCount + 1) :=
  let totals := runningTotals counts.toArray
  Vector.ofFn fun i => totals.getD i.val 0

/-- Writes every particle behind those that are in its bucket already. -/
def fill (starts : Vector Nat (d.cellCount + 1)) (cells : Vector d.Cell n) : Vector (Fin n) n :=
  ((List.finRange n).foldl
    (fun (order, cursor) p =>
      let c : d.Cell := cells.get p
      have hc : c.val < d.cellCount + 1 := Nat.lt_succ_of_lt c.isLt
      let place := cursor.get ⟨c.val, hc⟩
      (order.setIfInBounds place p, cursor.set c.val (place + 1) hc))
    (Vector.ofFn id, starts)).1

/-- Sorts particles into the buckets of the given cells. -/
def ofCells (cells : Vector d.Cell n) : Buckets d n :=
  let starts := startsOf (occupancy cells)
  ⟨starts, fill starts cells⟩

/-- Sorts particles by cell. -/
def build {S : Type} [Scalar S] (d : Dims) (ps : Particles S) : Buckets d ps.size :=
  ofCells (Vector.ofFn fun p => bucketOf d (Particles.get ps p).position)

/-- Where the bucket of a cell begins. -/
@[inline] def first (b : Buckets d n) (c : d.Cell) : Nat :=
  b.starts.get ⟨c.val, Nat.lt_succ_of_lt c.isLt⟩

/-- Where the bucket of a cell ends. -/
@[inline] def last (b : Buckets d n) (c : d.Cell) : Nat :=
  b.starts.get ⟨c.val + 1, Nat.succ_lt_succ c.isLt⟩

@[inline] def count (b : Buckets d n) (c : d.Cell) : Nat := b.last c - b.first c

/-- The particles at the places `start, start + 1, …`, of which there are `count`. -/
def slice (order : Vector (Fin n) n) (start : Nat) : (count : Nat) → List (Fin n)
  | 0 => []
  | count + 1 =>
    if h : start < n then order.get ⟨start, h⟩ :: slice order (start + 1) count else []

/-- The particles of a cell, in order. -/
@[inline] def members (b : Buckets d n) (c : d.Cell) : List (Fin n) :=
  slice b.order (b.first c) (b.count c)

/-- The positions on a side of `m` cells within `radius` of a signed coordinate.  Both ends are
words: where one of them wraps around, the window is another one. -/
def window (m : Nat) (center radius : Int) : List (Fin m) :=
  let first := (wrap (center - radius)).toNat
  let behind := (Min.min (wrap (center + radius) + 1) (word m)).toNat
  (List.range' first (behind - first)).filterMap fun i => if h : i < m then some ⟨i, h⟩ else none

/-- The cells within `radius` cells of signed coordinates along every axis of motion, row by row. -/
def cellsNear (d : Dims) (i j k radius : Int) : List d.Cell :=
  let columns := window d.width i radius
  let rows := window d.height j radius
  (window d.depth k (if d.isPlanar then 0 else radius)).flatMap fun k =>
    rows.flatMap fun j =>
      columns.map fun i => d.cells.nodeOf i j k

/-- The particles of the cells within `radius` cells of signed coordinates. -/
def near (b : Buckets d n) (i j k radius : Int) : List (Fin n) :=
  (cellsNear d i j k radius).flatMap b.members

end Buckets

end FreeSurface

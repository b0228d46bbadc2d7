import Mathlib.Data.Fintype.EquivFin
import Mathlib.Data.List.FinRange
import FreeSurface.Proofs.Lattice.Steps
import FreeSurface.Proofs.Particle.Buckets

/-!
# Nothing is lost in sorting

Whatever positions particles have, those that are infinite or no numbers among them, the counting
sort gives every particle one place of its own.  The place lies in the bucket of the particle's cell
(`Buckets.exists_place`); there are as many places as particles, so no place is left over
(`Buckets.bijective_order`).

* `Buckets.cursor_lt` — no particle is written past the end.
* `Buckets.perm_order`, `Buckets.mem_bucket` — the sorted list holds every particle once, bucket by
  bucket.
* `Buckets.lossless_build` — all of it together, and what a search around coordinates visits.
-/

namespace FreeSurface

namespace Buckets

variable {d : Dims} {n : ℕ} {cells : Vector d.Cell n} {c : d.Cell}

/-! ## Bounds of buckets -/

lemma first_ofCells (cells : Vector d.Cell n) (c : d.Cell) :
    (ofCells cells).first c = below cells c.val :=
  get_startsOf cells _

lemma last_ofCells (cells : Vector d.Cell n) (c : d.Cell) :
    (ofCells cells).last c = below cells (c.val + 1) :=
  get_startsOf cells _

lemma below_cellCount (cells : Vector d.Cell n) : below cells d.cellCount = n := by
  have hall : ∀ p ∈ List.finRange n, decide ((cells.get p).val < d.cellCount) = true := fun p _ =>
    decide_eq_true (cells.get p).isLt
  rw [below, List.countP_eq_length.mpr hall, List.length_finRange]

/-- Buckets begin in the order of their cells, the first at zero; behind the last one all particles
are counted. -/
lemma starts_ofCells (cells : Vector d.Cell n) :
    (ofCells cells).starts.get 0 = 0 ∧ (ofCells cells).starts.get (Fin.last _) = n ∧
      Monotone (ofCells cells).starts.get := by
  refine ⟨(get_startsOf cells 0).trans below_zero,
    (get_startsOf cells (Fin.last _)).trans (below_cellCount cells), fun i j hij => ?_⟩
  have hi : (ofCells cells).starts.get i = below cells i.val := get_startsOf cells i
  have hj : (ofCells cells).starts.get j = below cells j.val := get_startsOf cells j
  rw [hi, hj]
  exact below_mono cells hij

/-! ## Places -/

/-- What the sort has written, and where its cursors stand, when it is done with some particles. -/
def written (cells : Vector d.Cell n) (done : List (Fin n)) :
    Vector (Fin n) n × Vector ℕ (d.cellCount + 1) :=
  done.foldl (write cells) (Vector.ofFn id, startsOf (occupancy cells))

lemma filled_written (cells : Vector d.Cell n) {done rest : List (Fin n)}
    (hsplit : done ++ rest = List.finRange n) : Filled cells done (written cells done) :=
  filled_foldl (Vector.ofFn id) hsplit

/-- **No particle is written past the end**: whenever one is about to be written, the cursor of its
bucket stands before the end of the bucket. -/
theorem cursor_lt {done rest : List (Fin n)} {p : Fin n}
    (hsplit : done ++ p :: rest = List.finRange n) :
    (written cells done).2.get (cells.get p).castSucc < (ofCells cells).last (cells.get p) := by
  have hlot : lot cells (cells.get p) (List.finRange n) =
      lot cells (cells.get p) done ++ p :: lot cells (cells.get p) rest := by
    rw [← hsplit, lot_append]
    simp [lot]
  rw [last_ofCells, below_succ, hlot, List.length_append, List.length_cons]
  have hcursor := (filled_written cells hsplit).cursor (cells.get p)
  omega

/-- Every particle has a place in the bucket of its cell. -/
lemma exists_place (cells : Vector d.Cell n) (p : Fin n) :
    ∃ i : Fin n, (ofCells cells).order.get i = p ∧
      (ofCells cells).first (cells.get p) ≤ i ∧ i < (ofCells cells).last (cells.get p) := by
  have hfilled := filled_written cells (List.append_nil (List.finRange n))
  have hmem : p ∈ lot cells (cells.get p) (List.finRange n) := by simp [lot]
  obtain ⟨j, hj⟩ := List.mem_iff_getElem?.mp hmem
  obtain ⟨hplace, hp⟩ := Vector.getElem?_eq_some_iff.mp (hfilled.placed (cells.get p) j p hj)
  have hlt := lt_below_succ (List.append_nil (List.finRange n)) (List.getElem?_eq_some_iff.mp hj).1
  rw [first_ofCells, last_ofCells]
  exact ⟨⟨_, hplace⟩, hp, Nat.le_add_right _ _, hlt⟩

/-- There are as many places as particles, so the particles fill them all. -/
lemma bijective_order (cells : Vector d.Cell n) : Function.Bijective (ofCells cells).order.get := by
  rw [← Finite.surjective_iff_bijective]
  intro p
  obtain ⟨i, hi, -⟩ := exists_place cells p
  exact ⟨i, hi⟩

/-- **Every particle is listed once.** -/
theorem perm_order (cells : Vector d.Cell n) :
    (ofCells cells).order.toList.Perm (List.finRange n) := by
  rw [toList_eq_map]
  exact Equiv.Perm.map_finRange_perm (Equiv.ofBijective _ (bijective_order cells))

/-- **What stands at a place belongs in the bucket of the place.** -/
theorem mem_bucket (cells : Vector d.Cell n) (i : Fin n) :
    (ofCells cells).first (cells.get ((ofCells cells).order.get i)) ≤ i ∧
      i < (ofCells cells).last (cells.get ((ofCells cells).order.get i)) := by
  obtain ⟨j, hj, hbounds⟩ := exists_place cells ((ofCells cells).order.get i)
  rwa [(bijective_order cells).injective hj] at hbounds

lemma pairwise_members (cells : Vector d.Cell n) (c : d.Cell) :
    ((ofCells cells).members c).Pairwise (· < ·) := by
  rw [members_ofCells]
  exact (List.pairwise_lt_finRange n).filter _

/-! ## Particles by position -/

section Positions

variable {S : Type} [Scalar S]

lemma get_coords_bucketOf (hd : d.cells.IsShort) (p : Vec3 S) (a : Axis) :
    ((d.cells.coords (bucketOf d p).val).get a : ℤ) =
      max 0 (min (Scalar.toInt32 (Scalar.floor (p.get a))) (d.cells.side a - 1)) := by
  rw [coords_bucketOf]
  cases a
  · exact val_clampIndex d.width_pos (hd .x) _
  · exact val_clampIndex d.height_pos (hd .y) _
  · exact val_clampIndex d.depth_pos (hd .z) _

/-- The cell of every particle. -/
def cellsOf (d : Dims) (ps : Particles S) : Vector d.Cell ps.size :=
  Vector.ofFn fun p => bucketOf d (Particles.get ps p).position

/-- A cell is at most `radius` cells from given coordinates along each axis, and in a planar domain
in the same layer. -/
def Within (i j k radius : ℤ) (c : d.Cell) : Prop :=
  |(d.cells.coords c.val).i - i| ≤ radius ∧ |(d.cells.coords c.val).j - j| ≤ radius ∧
    |(d.cells.coords c.val).k - k| ≤ if d.isPlanar then 0 else radius

lemma mem_cellsNear_iff_within (hd : d.cells.IsShort) {i j k radius : ℤ}
    (h : Fits d i j k radius) :
    c ∈ cellsNear d i j k radius ↔ Within i j k radius c := by
  have habs : ∀ x y r : ℤ, |x - y| ≤ r ↔ y - r ≤ x ∧ x ≤ y + r := by
    intro x y r
    rw [abs_le]
    omega
  rw [mem_cellsNear hd h, Within, habs, habs, habs]

/-- The index of particles by cell is complete and free of repetitions. -/
structure Lossless (d : Dims) (ps : Particles S) : Prop where
  /-- The cell of a position is found axis by axis: rounded down, and moved onto the side. -/
  cell : ∀ (p : Fin ps.size) (a : Axis),
    ((d.cells.coords ((cellsOf d ps).get p).val).get a : ℤ) =
      max 0 (min (Scalar.toInt32 (Scalar.floor ((Particles.get ps p).position.get a)))
        (d.cells.side a - 1))
  /-- The particles are written one by one, in their order. -/
  order : (build d ps).order = (written (cellsOf d ps) (List.finRange ps.size)).1
  /-- Whenever one is about to be written, there is a place where its cursor stands. -/
  inRange : ∀ done p rest, done ++ p :: rest = List.finRange ps.size →
    (written (cellsOf d ps) done).2.get ((cellsOf d ps).get p).castSucc < ps.size
  /-- Buckets begin one after the other, from zero on up to the number of particles. -/
  starts : (build d ps).starts.get 0 = 0 ∧ (build d ps).starts.get (Fin.last _) = ps.size ∧
    Monotone (build d ps).starts.get
  /-- Every particle stands at one place. -/
  once : (build d ps).order.toList.Perm (List.finRange ps.size)
  /-- The place is in the bucket of its cell. -/
  bucket : ∀ i : Fin ps.size,
    (build d ps).first ((cellsOf d ps).get ((build d ps).order.get i)) ≤ i ∧
      i < (build d ps).last ((cellsOf d ps).get ((build d ps).order.get i))
  /-- The bucket of a cell lists the particles of the cell in their order. -/
  members : ∀ c : d.Cell, ((build d ps).members c).Pairwise (· < ·) ∧
    ∀ p, p ∈ (build d ps).members c ↔ (cellsOf d ps).get p = c
  /-- A search whose windows fit visits the particles of the cells within its reach, each of them
  once. -/
  near : ∀ i j k radius : ℤ, Fits d i j k radius → ((build d ps).near i j k radius).Nodup ∧
    ∀ p, p ∈ (build d ps).near i j k radius ↔ Within i j k radius ((cellsOf d ps).get p)

/-- **Nothing is lost in sorting**, wherever the particles are, nor in a search whose windows end at
words. -/
theorem lossless_build (hd : d.cells.IsShort) (ps : Particles S) : Lossless d ps where
  cell p a := by
    have hget : (cellsOf d ps).get p = bucketOf d (Particles.get ps p).position :=
      get_bucketsOf ps p
    rw [hget, get_coords_bucketOf hd]
  order := rfl
  inRange done p rest hsplit := by
    refine (cursor_lt hsplit).trans_le ?_
    rw [last_ofCells]
    exact below_le _
  starts := starts_ofCells _
  once := perm_order _
  bucket := mem_bucket _
  members c := ⟨pairwise_members _ c, fun _ => mem_members⟩
  near i j k radius hfits :=
    ⟨nodup_near _ i j k radius, fun _ => mem_near.trans (mem_cellsNear_iff_within hd hfits)⟩

end Positions

/-! ## A search that wraps around -/

/-- A window whose upper end wraps around is empty, for its lower end is not below. -/
lemma window_eq_nil {m : ℕ} {center radius : ℤ} (hlo : 2 ^ 31 ≤ center + radius)
    (hhi : center + radius < 2 ^ 32) : window m center radius = [] := by
  have hend : wrap (center + radius) = center + radius - 2 ^ 32 := by
    rw [wrap_eq_ite (by omega) hhi, if_neg (by omega), if_neg (by omega)]
  have hbehind : (min (wrap (center + radius) + 1) (word m)).toNat = 0 := by
    rw [hend]
    omega
  rw [window, hbehind, Nat.zero_sub, List.range'_zero, List.filterMap_nil]

/-- A search that goes past the greatest word visits nothing. -/
lemma near_eq_nil (b : Buckets d n) {i j k radius : ℤ} (hlo : 2 ^ 31 ≤ i + radius)
    (hhi : i + radius < 2 ^ 32) : b.near i j k radius = [] := by
  have hcells : cellsNear d i j k radius = [] := by
    rw [cellsNear, window_eq_nil hlo hhi]
    exact List.flatMap_eq_nil_iff.mpr fun k _ => List.flatMap_eq_nil_iff.mpr fun j _ => List.map_nil
  rw [near, hcells, List.flatMap_nil]

/-- A particle in the middle of the only cell of a domain. -/
noncomputable def lone : Particles Exact := #[.atRest (Vec3.splat Scalar.half)]

lemma isShort_lone : (Dims.block 0 0 0).cells.IsShort := by
  rintro (_ | _ | _) <;> decide

lemma within_lone {i j radius : ℤ} (hi : |i| ≤ radius) (hj : |j| ≤ radius)
    (c : (Dims.block 0 0 0).Cell) : Within i j 0 radius c := by
  have hcoords : ∀ c : Fin 1, (Dims.block 0 0 0).cells.coords c.val = ⟨0, 0, 0⟩ := by decide
  have hplanar : (Dims.block 0 0 0).isPlanar = true := rfl
  have hc := hcoords c
  rw [Within, hc, hplanar]
  simp only [Nat.cast_zero, zero_sub, abs_neg, sub_zero, abs_zero, if_true]
  exact ⟨hi, hj, le_rfl⟩

/-- A search around its cell visits the particle. -/
theorem lossless_build_lone :
    (Dims.block 0 0 0).cells.IsShort ∧ Lossless (Dims.block 0 0 0) lone ∧
      Fits (Dims.block 0 0 0) 0 0 0 1 ∧
      (0 : Fin 1) ∈ (build (Dims.block 0 0 0) lone).near 0 0 0 1 := by
  have hlossless := lossless_build isShort_lone lone
  have hfits : Fits (Dims.block 0 0 0) 0 0 0 1 := by
    constructor <;> constructor <;> decide
  exact ⟨isShort_lone, hlossless, hfits,
    ((hlossless.near 0 0 0 1 hfits).2 _).mpr (within_lone (by decide) (by decide) _)⟩

/-- Around coordinates `2 ^ 30` cells beyond the domain a search over as many cells visits nothing,
although the cell of the particle is within its reach: the upper ends of its windows wrap around. -/
theorem near_lone_eq_nil :
    (Dims.block 0 0 0).cells.IsShort ∧ IsWord (2 ^ 30) ∧
      Within (2 ^ 30) (2 ^ 30) 0 (2 ^ 30) ((cellsOf (Dims.block 0 0 0) lone).get (0 : Fin 1)) ∧
      (build (Dims.block 0 0 0) lone).near (2 ^ 30) (2 ^ 30) 0 (2 ^ 30) = [] := by
  exact ⟨isShort_lone, by decide, within_lone (by norm_num) (by norm_num) _,
    near_eq_nil _ (by norm_num) (by norm_num)⟩

end Buckets

end FreeSurface

import FreeSurface.Proofs.Field.Interpolation
import FreeSurface.Proofs.Lattice.Positions
import FreeSurface.Proofs.Particle.Buckets
import FreeSurface.Surface.Union

/-!
# The liquid of the particles

A cell is inside the surface of the particles exactly if its centre is less than a radius from one
of them (`Surface.unionOfSpheres_lt_zero_iff`).  The level set looks at the particles of nearby
buckets only; a particle within the radius is in one of them, also when it lies outside the domain
and its bucket is that of the border (`Buckets.clampIndex_near`).
-/

namespace FreeSurface

open Exact Dims

variable {d : Dims}

/-! ## Buckets near a cell -/

namespace Buckets

/-- Along a side of cells, the bucket of a coordinate is within reach of a cell if the coordinate is
less than half a cell farther from its middle than the search reaches.  Moving the coordinate onto
the side moves it towards the cell. -/
lemma clampIndex_near {m i : ℕ} (hpos : 0 < m) (hm : m < 2 ^ 31) (hi : i < m) {x r : ℝ}
    (hr : 0 ≤ r) (h : |i + 1 / 2 - x| < ⌊r⌋ + 3 / 2) :
    i - (⌊r⌋ + 1) ≤ (clampIndex m hpos (Scalar.toInt32 (Scalar.floor (real x)))).val ∧
      ((clampIndex m hpos (Scalar.toInt32 (Scalar.floor (real x)))).val : ℤ) ≤ i + (⌊r⌋ + 1) := by
  obtain ⟨hlo, hhi⟩ := abs_lt.mp h
  have hlower : (i : ℤ) - (⌊r⌋ + 1) ≤ ⌊x⌋ := by
    rw [Int.le_floor]
    push_cast
    linarith
  have hupper : ⌊x⌋ < (i : ℤ) + ⌊r⌋ + 2 := by
    rw [Int.floor_lt]
    push_cast
    linarith
  have hfloor : 0 ≤ ⌊r⌋ := Int.floor_nonneg.mpr hr
  rw [val_clampIndex_floor hpos hm]
  omega

end Buckets

/-! ## Distances -/

/-- The distance of a position from the centre of a cell, within the plane of a planar domain. -/
noncomputable def Dims.distance (d : Dims) (c : d.Cell) (p : Vec3 Exact) : ℝ :=
  let center : Vec3 Exact := d.center c
  √((center.x.toReal - p.x.toReal) ^ 2 + (center.y.toReal - p.y.toReal) ^ 2 +
    if d.isPlanar then 0 else (center.z.toReal - p.z.toReal) ^ 2)

lemma Dims.distance_eq (c : d.Cell) (x y z : ℝ) :
    d.distance c ⟨real x, real y, real z⟩ =
      √(((d.cells.coords c.val).i + 1 / 2 - x) ^ 2 + ((d.cells.coords c.val).j + 1 / 2 - y) ^ 2 +
        if d.isPlanar then 0 else ((d.cells.coords c.val).k + 1 / 2 - z) ^ 2) := by
  simp only [distance, center, centerAt, half_eq, scalar_ofNat, real_add_real, toReal_real]

namespace Surface

lemma particleRadius_eq (d : Dims) (ρ : ℝ) :
    particleRadius d (real ρ) = real (ρ * √d.dimension / 2) := by
  rw [particleRadius, scalar_ofNat, sqrt_real (Nat.cast_nonneg _), half_eq, real_mul_real,
    real_mul_real]
  congr 1
  ring

lemma separation_eq (c : d.Cell) {p : Vec3 Exact} (hp : p.isFinite = true) :
    separation d.isPlanar (d.center c) p = real (d.distance c p) := by
  obtain ⟨x, y, z, rfl⟩ := Vec3.isFinite_iff.mp hp
  rw [distance_eq, separation, center, centerAt, half_eq]
  simp only [Vec3.mk_sub_mk, scalar_ofNat, real_add_real, real_sub_real]
  split_ifs
  · rw [literal, Vec3.length_real, Nat.cast_zero, zero_pow two_ne_zero]
  · exact Vec3.length_real _ _ _

/-! ## Unions -/

variable {ι : Type}

lemma foldl_min_real (l : List ι) (f : ι → ℝ) (x : ℝ) :
    l.foldl (fun best i => Scalar.min best (real (f i))) (real x) =
      real (l.foldl (fun best i => min best (f i)) x) := by
  induction l generalizing x with
  | nil => rfl
  | cons i l ih => rw [List.foldl_cons, List.foldl_cons, min_real, ih]

lemma foldl_min_lt_iff (l : List ι) (f : ι → ℝ) (x t : ℝ) :
    l.foldl (fun best i => min best (f i)) x < t ↔ x < t ∨ ∃ i ∈ l, f i < t := by
  induction l generalizing x with
  | nil => simp
  | cons i l ih => rw [List.foldl_cons, ih, min_lt_iff, List.exists_mem_cons_iff, or_assoc]

variable {ps : Particles Exact} {r : ℝ}

/-- The particles that are looked at from a cell. -/
noncomputable def search (d : Dims) (ps : Particles Exact) (r : ℝ) (c : d.Cell) :
    List (Fin ps.size) :=
  let here := d.cells.coords c.val
  (Buckets.build d ps).near (word here.i) (word here.j) (word here.k)
    (wrap (Scalar.toInt32 (real r) + 1))

lemma get_unionOfSpheres (hps : ∀ p ∈ ps, p.position.isFinite = true)
    (c : d.Cell) :
    (unionOfSpheres d ps (Buckets.build d ps) (real r)).get c =
      real ((search d ps r c).foldl
        (fun best p => min best (d.distance c (Particles.get ps p).position - r)) r) := by
  rw [unionOfSpheres, Field.get_tabulate, ← foldl_min_real]
  refine List.foldl_ext _ _ _ fun best p _ => ?_
  have hp : (Particles.get ps p).position.isFinite = true := hps _ (Array.getElem_mem p.isLt)
  rw [← real_sub_real, ← separation_eq c hp]
  rfl

/-- With room for the radius around the domain the search around each cell fits. -/
lemma fits_search (hd : d.Addressable ⌊r⌋₊) (hr : 0 ≤ r) (c : d.Cell) :
    Buckets.Fits d (d.cells.coords c.val).i (d.cells.coords c.val).j (d.cells.coords c.val).k
      (⌊r⌋ + 1) := by
  have hi : (d.cells.coords c.val).i < d.width := (d.cells.contains_coords c.isLt).1
  have hj : (d.cells.coords c.val).j < d.height := (d.cells.contains_coords c.isLt).2.1
  have hk : (d.cells.coords c.val).k < d.depth := (d.cells.contains_coords c.isLt).2.2
  have hfloor : (⌊r⌋₊ : ℤ) = ⌊r⌋ := Int.natCast_floor_eq_floor hr
  exact .of_addressable hd (by omega) (by omega) (by omega) (by omega)

/-- Then it reaches one cell farther than the whole part of the radius. -/
lemma search_eq (hd : d.Addressable ⌊r⌋₊) (hr : 0 ≤ r) (c : d.Cell) :
    search d ps r c = (Buckets.build d ps).near (d.cells.coords c.val).i (d.cells.coords c.val).j
      (d.cells.coords c.val).k (⌊r⌋ + 1) := by
  have hfloor : (⌊r⌋₊ : ℤ) = ⌊r⌋ := Int.natCast_floor_eq_floor hr
  have hwidth := hd.width
  have hpos := d.width_pos
  have hreach : Scalar.toInt32 (real r) = ⌊r⌋ := by
    rw [toInt32_of_nonneg hr]
    omega
  have hwrap : wrap (⌊r⌋ + 1) = ⌊r⌋ + 1 := IsWord.wrap_eq ⟨by omega, by omega⟩
  obtain ⟨hi, hj, hk⟩ := (hd.isShort.coords c).words
  simp only [search, hi, hj, hk, hreach, hwrap]

/-- The particles that are looked at from a cell include all those less than half a cell farther
than the search reaches. -/
lemma mem_search_of_distance_lt (hd : d.Addressable ⌊r⌋₊) (hr : 0 ≤ r) {c : d.Cell}
    {p : Fin ps.size} (hp : (Particles.get ps p).position.isFinite = true)
    (h : d.distance c (Particles.get ps p).position < ⌊r⌋ + 3 / 2) : p ∈ search d ps r c := by
  obtain ⟨x, y, z, hxyz⟩ := Vec3.isFinite_iff.mp hp
  obtain ⟨hi, hj, hk⟩ := d.cells.contains_coords c.isLt
  have hside := hd.mono (Nat.zero_le _)
  rw [hxyz, distance_eq] at h
  rw [search_eq hd hr, Buckets.mem_near_build, hxyz,
    Buckets.mem_cellsNear hd.isShort (fits_search hd hr c), Buckets.coords_bucketOf]
  refine ⟨?_, ?_, ?_⟩
  · refine Buckets.clampIndex_near d.width_pos hside.width hi hr (lt_of_le_of_lt ?_ h)
    refine Real.abs_le_sqrt ?_
    split_ifs <;> nlinarith
  · refine Buckets.clampIndex_near d.height_pos hside.height hj hr (lt_of_le_of_lt ?_ h)
    refine Real.abs_le_sqrt ?_
    split_ifs <;> nlinarith
  · split_ifs at h ⊢ with hplanar
    -- A planar domain has one layer only.
    · have hdepth : d.depth = 1 := by simpa [isPlanar] using hplanar
      have hlayer := (Buckets.clampIndex d.depth d.depth_pos
        (Scalar.toInt32 (Scalar.floor (real z)))).isLt
      have hk' : (d.cells.coords c.val).k < d.depth := hk
      simp only
      omega
    · refine Buckets.clampIndex_near d.depth_pos hside.depth hk hr (lt_of_le_of_lt ?_ h)
      refine Real.abs_le_sqrt ?_
      nlinarith

/-- **Exactly the cells less than the radius from a particle are inside.** -/
theorem unionOfSpheres_lt_zero_iff (hd : d.Addressable ⌊r⌋₊) (hr : 0 < r)
    (hps : ∀ p ∈ ps, p.position.isFinite = true) (c : d.Cell) :
    (unionOfSpheres d ps (Buckets.build d ps) (real r)).get c < real 0 ↔
      ∃ p ∈ ps, d.distance c p.position < r := by
  rw [get_unionOfSpheres hps, real_lt_real, foldl_min_lt_iff]
  constructor
  · rintro (h | ⟨p, -, h⟩)
    · exact absurd h hr.not_gt
    · exact ⟨Particles.get ps p, Array.getElem_mem p.isLt, by linarith⟩
  · rintro ⟨_, hp, h⟩
    obtain ⟨i, hi, rfl⟩ := Array.mem_iff_getElem.mp hp
    have hreach : d.distance c ps[i].position < ⌊r⌋ + 3 / 2 :=
      h.trans ((Int.lt_floor_add_one r).trans (by linarith))
    exact .inr ⟨⟨i, hi⟩, mem_search_of_distance_lt hd hr.le (hps _ hp) hreach, sub_neg.mpr h⟩

end Surface

end FreeSurface

import Mathlib.Algebra.BigOperators.Fin
import Mathlib.Algebra.Order.BigOperators.Group.Finset
import FreeSurface.Proofs.Particle.Buckets
import FreeSurface.Proofs.Transfer.Kernel
import FreeSurface.Transfer.Gather
import FreeSurface.Transfer.Sampling

/-!
# Windows

A face takes its velocity from the particles in the cells around it, and a particle from the faces
around it.  What is outside of such a window has no weight, and what is inside is looked at once, so
the mean over the window is the mean over everything.

* `Transfer.IsMean` — a weighted mean, and the weight behind it.
* `Transfer.mem_nearby_of_weight_pos`, `Transfer.mem_facesAround_of_weight_pos` — **the windows
  reach as far as the kernels.**
* `Transfer.isMean_gather`, `Transfer.gather_perm` — a face takes the mean of all particles, in
  whatever order they are.
* `Transfer.windows_complete` — **the windows miss nothing.**
-/

namespace FreeSurface

open Exact Dims

namespace Transfer

/-! ## Means over a window -/

section Means

variable {ι : Type} {w u : ι → Exact} {W U : ι → ℝ}

open scoped Literals in
/-- Weight times value and weight are added up; what has no weight is left out, but would add
nothing. -/
lemma foldl_weighted_from (hw : ∀ i, w i = real (W i)) (hW : ∀ i, 0 ≤ W i)
    (hu : ∀ i, u i = real (U i)) (l : List ι) (s t : ℝ) :
    l.foldl (fun (sum, total) i =>
        if 0 < w i then (sum + w i * u i, total + w i) else (sum, total)) (real s, real t) =
      (real (s + (l.map fun i => W i * U i).sum), real (t + (l.map W).sum)) := by
  induction l generalizing s t with
  | nil => simp
  | cons i l ih =>
      simp only [List.foldl_cons, List.map_cons, List.sum_cons, ← add_assoc]
      rw [← ih]
      congr 1
      simp only [hw, hu, literal, Nat.cast_zero, real_lt_real, real_mul_real, real_add_real]
      split_ifs with hpos
      · rfl
      · have hzero : W i = 0 := le_antisymm (not_lt.mp hpos) (hW i)
        rw [hzero, zero_mul, add_zero, add_zero]

open scoped Literals in
lemma foldl_weighted (hw : ∀ i, w i = real (W i)) (hW : ∀ i, 0 ≤ W i) (hu : ∀ i, u i = real (U i))
    (l : List ι) :
    l.foldl (fun (sum, total) i =>
        if 0 < w i then (sum + w i * u i, total + w i) else (sum, total)) ((0, 0) : Exact × Exact) =
      (real (l.map fun i => W i * U i).sum, real (l.map W).sum) := by
  have hfold := foldl_weighted_from hw hW hu l 0 0
  rwa [zero_add, zero_add, ← Nat.cast_zero, ← literal] at hfold

variable [Fintype ι]

/-- A list that holds everything that counts, once, adds up to the sum of all. -/
lemma sum_map_eq_sum {l : List ι} (hl : l.Nodup) {F : ι → ℝ} (h : ∀ i, i ∉ l → F i = 0) :
    (l.map F).sum = ∑ i, F i := by
  classical
  rw [← List.sum_toFinset F hl]
  exact Finset.sum_subset (Finset.subset_univ _) fun i _ hi => h i (mt List.mem_toFinset.mpr hi)

open scoped Literals in
/-- A window that holds everything that has weight, once, yields the sums over everything. -/
lemma foldl_window (hw : ∀ i, w i = real (W i)) (hW : ∀ i, 0 ≤ W i) (hu : ∀ i, u i = real (U i))
    {l : List ι} (hl : l.Nodup) (hall : ∀ i, real 0 < w i → i ∈ l) :
    l.foldl (fun (sum, total) i =>
        if 0 < w i then (sum + w i * u i, total + w i) else (sum, total)) ((0, 0) : Exact × Exact) =
      (real (∑ i, W i * U i), real (∑ i, W i)) := by
  have hout : ∀ i, i ∉ l → W i = 0 := by
    intro i hi
    have hnot := mt (hall i) hi
    rw [hw, real_lt_real] at hnot
    exact le_antisymm (not_lt.mp hnot) (hW i)
  rw [foldl_weighted hw hW hu, sum_map_eq_sum hl hout,
    sum_map_eq_sum hl fun i hi => by rw [hout i hi, zero_mul]]

/-- A mean lies between two of the values that have weight. -/
lemma exists_le_mean (hW : ∀ i, 0 ≤ W i) (hpos : 0 < ∑ i, W i) :
    ∃ i, 0 < W i ∧ U i ≤ (∑ i, W i * U i) / ∑ i, W i := by
  by_contra! habove
  obtain ⟨i, -, hi⟩ := Finset.exists_lt_of_sum_lt (s := Finset.univ) (f := fun _ : ι => (0 : ℝ))
    (g := W) (by simpa using hpos)
  have hlt : ∑ i, W i * ((∑ i, W i * U i) / ∑ i, W i) < ∑ i, W i * U i := by
    refine Finset.sum_lt_sum (fun j _ => ?_)
      ⟨i, Finset.mem_univ i, mul_lt_mul_of_pos_left (habove i hi) hi⟩
    rcases (hW j).eq_or_lt with hzero | hj
    · rw [← hzero, zero_mul, zero_mul]
    · exact mul_le_mul_of_nonneg_left (habove j hj).le (hW j)
  rw [← Finset.sum_mul, mul_div_cancel₀ _ hpos.ne'] at hlt
  exact lt_irrefl _ hlt

lemma exists_mean_le (hW : ∀ i, 0 ≤ W i) (hpos : 0 < ∑ i, W i) :
    ∃ i, 0 < W i ∧ (∑ i, W i * U i) / ∑ i, W i ≤ U i := by
  obtain ⟨i, hi, hle⟩ := exists_le_mean (U := fun i => -U i) hW hpos
  refine ⟨i, hi, ?_⟩
  simp only [mul_neg, Finset.sum_neg_distrib, neg_div] at hle
  exact neg_le_neg_iff.mp hle

open scoped Exact.Sums in
/-- The weighted mean of some values, and the weight behind it; both are zero where nothing has
weight.  The mean lies between two values that have weight. -/
structure IsMean (w u : ι → Exact) (mean total : Exact) : Prop where
  total_eq : total = ∑ i, w i
  mean_eq : mean = if real 0 < ∑ i, w i then (∑ i, w i * u i) / ∑ i, w i else real 0
  between : real 0 < ∑ i, w i →
    ∃ i j, real 0 < w i ∧ real 0 < w j ∧ u i ≤ mean ∧ mean ≤ u j

open scoped Exact.Sums in
lemma isMean_real (hw : ∀ i, w i = real (W i)) (hW : ∀ i, 0 ≤ W i) (hu : ∀ i, u i = real (U i)) :
    IsMean w u (real ((∑ i, W i * U i) / ∑ i, W i)) (real (∑ i, W i)) := by
  have htotal : ∑ i, w i = real (∑ i, W i) := by
    simp only [hw, Sums.sum_real]
  have hsum : ∑ i, w i * u i = real (∑ i, W i * U i) := by
    simp only [hw, hu, real_mul_real, Sums.sum_real]
  refine ⟨htotal.symm, ?_, ?_⟩
  · rw [htotal, hsum]
    split_ifs with hpos
    · rw [real_div_real (real_lt_real.mp hpos).ne']
    · rw [real_lt_real] at hpos
      have hzero : ∑ i, W i = 0 :=
        le_antisymm (not_lt.mp hpos) (Finset.sum_nonneg fun i _ => hW i)
      rw [hzero, div_zero]
  · intro hpos
    rw [htotal, real_lt_real] at hpos
    obtain ⟨i, hi, hle⟩ := exists_le_mean (U := U) hW hpos
    obtain ⟨j, hj, hge⟩ := exists_mean_le (U := U) hW hpos
    refine ⟨i, j, ?_, ?_, ?_, ?_⟩
    · rwa [hw, real_lt_real]
    · rwa [hw, real_lt_real]
    · rwa [hu, real_le_real]
    · rwa [hu, real_le_real]

end Means

/-! ## Particles around a face -/

variable {d : Dims}

section

variable {S : Type} [Scalar S]

/-- The weight that a position and a face have for each other. -/
def weightAt (kernel : Kernel) (a : Axis) (f : d.Face a) (p : Vec3 S) : S :=
  kernel.weight (p - d.facePosition a f) d.isPlanar

/-- The particles that a face looks at. -/
def nearby (d : Dims) (ps : Particles S) (kernel : Kernel) (a : Axis) (f : d.Face a) :
    List (Fin ps.size) :=
  let here := (d.faces a).coords f
  (Buckets.build d ps).near (word here.i) (word here.j) (word here.k) kernel.support

lemma nodup_nearby (ps : Particles S) (kernel : Kernel) (a : Axis) (f : d.Face a) :
    (nearby d ps kernel a f).Nodup :=
  Buckets.nodup_near _ _ _ _ _

open scoped Literals in
lemma gatherAt_of_weigh {ps : Particles S} {kernel : Kernel} {a : Axis} {f : d.Face a}
    {sum total : S}
    (h : weigh kernel d.isPlanar ps a (d.facePosition a f) (nearby d ps kernel a f) =
      (sum, total)) :
    gatherAt ps (Buckets.build d ps) kernel a f =
      if 0 < total then (sum / total, total) else (0, 0) := by
  have hat : gatherAt ps (Buckets.build d ps) kernel a f =
      let sums := weigh kernel d.isPlanar ps a (d.facePosition a f) (nearby d ps kernel a f)
      if 0 < sums.2 then (sums.1 / sums.2, sums.2) else (0, 0) := rfl
  rw [hat, h]

open scoped Literals in
/-- Across an axis without motion nothing is gathered. -/
lemma get_gather (ps : Particles S) (buckets : Buckets d ps.size) (kernel : Kernel) (a : Axis)
    (f : d.Face a) :
    let gathered := if d.isActive a then gatherAt ps buckets kernel a f else (0, 0)
    ((gather ps buckets kernel).velocity.component a).get f = gathered.1 ∧
      ((gather ps buckets kernel).weight.component a).get f = gathered.2 := by
  cases a <;> simp only [gather, Staggered.component, Field.get_map] <;> split_ifs <;>
    simp only [Field.get_tabulate, Field.get_constant, and_self]

end

lemma isFinite_sub_facePosition {p : Vec3 Exact} (hp : p.isFinite = true) (a : Axis)
    (f : d.Face a) : (p - d.facePosition a f).isFinite = true :=
  Vec3.isFinite_sub hp (d.isFinite_facePosition a f)

lemma weightAt_of_isFinite (kernel : Kernel) (a : Axis) (f : d.Face a) {p : Vec3 Exact}
    (hp : p.isFinite = true) : ∃ w, 0 ≤ w ∧ weightAt kernel a f p = real w :=
  kernel.weight_of_isFinite (isFinite_sub_facePosition hp a f) _

/-- Where a position has weight it is near the face along every axis of motion. -/
lemma near_of_weightAt_pos {kernel : Kernel} {a : Axis} {f : d.Face a} {x y z : ℝ}
    (h : real 0 < weightAt kernel a f ⟨real x, real y, real z⟩) :
    |x - (((d.faces a).coords f.val).i + shift a .x)| < kernel.support ∧
      |y - (((d.faces a).coords f.val).j + shift a .y)| < kernel.support ∧
      (d.isPlanar = false →
        |z - (((d.faces a).coords f.val).k + shift a .z)| < kernel.support) := by
  rw [weightAt, facePosition, facePositionAt_eq, Vec3.mk_sub_mk] at h
  simp only [real_sub_real] at h
  exact Kernel.near_of_weight_pos h

/-- Along a side of cells the bucket of a coordinate that has weight is in the window of the face.
A face lies up to half a cell above the corner of its cell, so the window reaches half a cell
farther down than there is weight. -/
lemma clampIndex_near_face {m i s : ℕ} (hpos : 0 < m) (hm : m < 2 ^ 31) (hi : i ≤ m) (hs : 0 < s)
    {x o : ℝ} (ho : 0 ≤ o) (ho' : o ≤ 1 / 2) (h : |x - (i + o)| < s) :
    (i : ℤ) - s ≤ (Buckets.clampIndex m hpos (Scalar.toInt32 (Scalar.floor (real x)))).val ∧
      ((Buckets.clampIndex m hpos (Scalar.toInt32 (Scalar.floor (real x)))).val : ℤ) ≤ i + s := by
  obtain ⟨hlo, hhi⟩ := abs_lt.mp h
  have hlower : (i : ℤ) - s ≤ ⌊x⌋ := by
    rw [Int.le_floor]
    push_cast
    linarith
  have hupper : ⌊x⌋ < (i : ℤ) + s + 1 := by
    rw [Int.floor_lt]
    push_cast
    linarith
  rw [Buckets.val_clampIndex_floor hpos hm]
  omega

/-- **A face looks at all particles that have weight there.** -/
theorem mem_nearby_of_weight_pos {ps : Particles Exact} {kernel : Kernel}
    (hd : d.Addressable kernel.support) {a : Axis} (ha : a ∈ d.activeAxes) {f : d.Face a}
    {p : Fin ps.size} (hp : (Particles.get ps p).position.isFinite = true)
    (h : real 0 < weightAt kernel a f (Particles.get ps p).position) :
    p ∈ nearby d ps kernel a f := by
  obtain ⟨x, y, z, hxyz⟩ := Vec3.isFinite_iff.mp hp
  rw [hxyz] at h
  obtain ⟨hx, hy, hz⟩ := near_of_weightAt_pos h
  obtain ⟨hi, hj, hk⟩ := coords_face_le f
  have hs := kernel.support_pos
  have hside := hd.mono kernel.support.zero_le
  have hfits : Buckets.Fits d ((d.faces a).coords f.val).i ((d.faces a).coords f.val).j
      ((d.faces a).coords f.val).k kernel.support :=
    .of_addressable hd (Int.natCast_nonneg _) (by omega) (by omega) (by omega)
  have hnear := fun {m i x b} (hpos : 0 < m) hm hi =>
    clampIndex_near_face (m := m) (i := i) (x := x) hpos hm hi hs (shift_nonneg a b)
      (shift_le_half a b)
  simp only [nearby]
  rw [word_of_lt (hi.trans_lt hside.width), word_of_lt (hj.trans_lt hside.height),
    word_of_lt (hk.trans_lt hside.depth), Buckets.mem_near_build, hxyz,
    Buckets.mem_cellsNear hd.isShort hfits, Buckets.coords_bucketOf]
  refine ⟨hnear d.width_pos hside.width hi hx, hnear d.height_pos hside.height hj hy, ?_⟩
  split_ifs with hplanar
  · -- A planar domain has one layer only.
    have hlayer := ((d.faces a).contains_coords f.isLt).2.2
    have hcell := (Buckets.clampIndex d.depth d.depth_pos
      (Scalar.toInt32 (Scalar.floor (real z)))).isLt
    have hdepth : d.depth = 1 := beq_iff_eq.mp hplanar
    rw [nz_faces_of_isPlanar hplanar ha] at hlayer
    simp only
    omega
  · exact hnear d.depth_pos hside.depth hk (hz (Bool.eq_false_iff.mpr hplanar))

/-- **A face takes the mean of all particles**, and what has weight there is looked at. -/
theorem isMean_gather {kernel : Kernel} (hd : d.Addressable kernel.support) {ps : Particles Exact}
    (hps : ∀ p ∈ ps, p.position.isFinite = true) {a : Axis} (ha : a ∈ d.activeAxes)
    (hv : ∀ p ∈ ps, Scalar.isFinite (p.velocity.get a) = true) (f : d.Face a) :
    IsMean (fun p => weightAt kernel a f (Particles.get ps p).position)
      (fun p => (Particles.get ps p).velocity.get a)
      (((gather ps (Buckets.build d ps) kernel).velocity.component a).get f)
      (((gather ps (Buckets.build d ps) kernel).weight.component a).get f) := by
  have hfinite : ∀ p, (Particles.get ps p).position.isFinite = true := fun p =>
    hps _ (Array.getElem_mem p.isLt)
  choose W hW hw using fun p => weightAt_of_isFinite kernel a f (hfinite p)
  have hu := fun p => eq_real_toReal (hv (Particles.get ps p) (Array.getElem_mem p.isLt))
  have hsums : weigh kernel d.isPlanar ps a (d.facePosition a f) (nearby d ps kernel a f) = _ :=
    foldl_window hw hW hu (nodup_nearby ps kernel a f) fun p =>
      mem_nearby_of_weight_pos hd ha (hfinite p)
  have hat : gatherAt ps (Buckets.build d ps) kernel a f =
      (real ((∑ p, W p * ((Particles.get ps p).velocity.get a).toReal) / ∑ p, W p),
        real (∑ p, W p)) := by
    rw [gatherAt_of_weigh hsums]
    simp only [literal, Nat.cast_zero, real_lt_real]
    split_ifs with hpos
    · rw [real_div_real hpos.ne']
    · have hzero : ∑ p, W p = 0 :=
        le_antisymm (not_lt.mp hpos) (Finset.sum_nonneg fun p _ => hW p)
      rw [hzero, div_zero]
  obtain ⟨hvelocity, hweight⟩ := get_gather ps (Buckets.build d ps) kernel a f
  rw [hvelocity, hweight, if_pos (mem_activeAxes.mp ha), hat]
  exact isMean_real hw hW hu

/-! ### The order of particles -/

lemma sum_particles {S M : Type} [AddCommMonoid M] (ps : Particles S) (F : Particle S → M) :
    ∑ p, F (Particles.get ps p) = (ps.toList.map F).sum :=
  Fin.sum_univ_fun_getElem ps.toList F

open scoped Exact.Sums in
lemma IsMean.eq_of_sums {ι κ : Type} [Fintype ι] [Fintype κ] {w u : ι → Exact} {w' u' : κ → Exact}
    {mean total mean' total' : Exact} (h : IsMean w u mean total) (h' : IsMean w' u' mean' total')
    (hw : ∑ i, w i = ∑ i, w' i) (hwu : ∑ i, w i * u i = ∑ i, w' i * u' i) :
    mean = mean' ∧ total = total' := by
  rw [h.mean_eq, h'.mean_eq, h.total_eq, h'.total_eq, hw, hwu]
  exact ⟨rfl, rfl⟩

open scoped Exact.Sums in
/-- **The order of the particles does not matter.** -/
theorem gather_perm {kernel : Kernel} (hd : d.Addressable kernel.support) {ps qs : Particles Exact}
    (hps : ∀ p ∈ ps, p.position.isFinite = true) (hv : ∀ p ∈ ps, p.velocity.isFinite = true)
    (hperm : qs.toList.Perm ps.toList) :
    gather qs (Buckets.build d qs) kernel = gather ps (Buckets.build d ps) kernel := by
  have hmem : ∀ p, p ∈ qs → p ∈ ps := fun p hp =>
    Array.mem_toList_iff.mp (hperm.mem_iff.mp (Array.mem_toList_iff.mpr hp))
  have hcomponents : ∀ a f,
      ((gather qs (Buckets.build d qs) kernel).velocity.component a).get f =
          ((gather ps (Buckets.build d ps) kernel).velocity.component a).get f ∧
        ((gather qs (Buckets.build d qs) kernel).weight.component a).get f =
          ((gather ps (Buckets.build d ps) kernel).weight.component a).get f := by
    intro a f
    by_cases ha : a ∈ d.activeAxes
    · have hget := fun p hp => Vec3.isFinite_get (hv p hp) a
      have hsum : ∀ F : Particle Exact → Exact,
          ∑ p, F (Particles.get qs p) = ∑ p, F (Particles.get ps p) := by
        intro F
        rw [sum_particles, sum_particles]
        exact (hperm.map F).sum_eq
      exact (isMean_gather hd (fun p hp => hps p (hmem p hp)) ha
        (fun p hp => hget p (hmem p hp)) f).eq_of_sums (isMean_gather hd hps ha hget f)
        (hsum fun p => weightAt kernel a f p.position)
        (hsum fun p => weightAt kernel a f p.position * p.velocity.get a)
    · obtain ⟨hvelocity, hweight⟩ := get_gather ps (Buckets.build d ps) kernel a f
      obtain ⟨hvelocity', hweight'⟩ := get_gather qs (Buckets.build d qs) kernel a f
      simp only [hvelocity, hweight, hvelocity', hweight', if_neg (mt mem_activeAxes.mpr ha),
        and_self]
  rw [Gathered.mk.injEq]
  exact ⟨Staggered.ext_component fun a f => (hcomponents a f).1,
    Staggered.ext_component fun a f => (hcomponents a f).2⟩

/-! ## Faces around a position -/

lemma onSide?_eq_some {n : ℕ} (hn : n < 2 ^ 31) {x : ℤ} {i : Fin n} :
    onSide? n x = some i ↔ x = i.val := by
  have hword := word_of_lt hn
  have hi := i.isLt
  rw [onSide?]
  split_ifs with h
  · rw [Option.some.injEq, Fin.ext_iff]
    simp only
    omega
  · refine iff_of_false (by simp) ?_
    rintro rfl
    exact h ⟨by omega, by omega⟩

lemma mem_aroundSmooth {n : ℕ} (hn : n < 2 ^ 31) {base : ℤ} (hbase : IsWord base) {i : Fin n} :
    i ∈ aroundSmooth n base ↔ base - 1 ≤ i.val ∧ (i.val : ℤ) ≤ base + 2 := by
  have hi := i.isLt
  obtain ⟨hlo, hhi⟩ := hbase
  have hsome : ∀ j, -2 ^ 31 - 1 ≤ j → j ≤ 2 ^ 31 + 1 →
      (onSide? n (wrap j) = some i ↔ j = i.val) := by
    intro j hlo hhi
    rw [onSide?_eq_some hn, wrap_eq_ite (by omega) (by omega)]
    split_ifs <;> omega
  simp only [aroundSmooth, List.mem_filterMap, List.map_cons, List.map_nil, List.mem_cons,
    List.not_mem_nil, or_false, or_and_right, exists_or, exists_eq_left]
  rw [hsome _ (by omega) (by omega), hsome _ (by omega) (by omega), hsome _ (by omega) (by omega),
    hsome _ (by omega) (by omega)]
  omega

lemma nodup_aroundSmooth (n : ℕ) (base : ℤ) : (aroundSmooth n base).Nodup := by
  have hbases : ([base - 1, base, base + 1, base + 2].map wrap).Nodup := by
    unfold wrap
    simp only [Int32.toInt_ofInt, Int32.size, List.map_cons, List.map_nil, List.nodup_cons,
      List.mem_cons, List.not_mem_nil, List.nodup_nil, or_false, not_false_eq_true, and_true,
      Int.bmod_def]
    omega
  refine List.Nodup.filterMap ?_ hbases
  intro i j x hi hj
  simp only [onSide?, Option.mem_def] at hi hj
  split_ifs at hi hj
  rw [← Option.some.inj hi, Option.some.injEq, Fin.mk.injEq] at hj
  omega

lemma nodup_facesAround (d : Dims) (a : Axis) (p : Vec3 Exact) : (facesAround d a p).Nodup := by
  simp only [facesAround]
  refine Lattice.nodup_box (nodup_aroundSmooth _ _) (nodup_aroundSmooth _ _) ?_
  split_ifs
  · exact List.nodup_singleton _
  · exact nodup_aroundSmooth _ _

/-- Along a side the nodes less than two away from a coordinate are around the one below it. -/
lemma near_floor {i : ℕ} (hi : i < 2 ^ 31) {x o : ℝ} (h : |x - (i + o)| < (2 : ℕ)) :
    Scalar.toInt32 (Scalar.floor (real (x - o))) - 1 ≤ i ∧
      (i : ℤ) ≤ Scalar.toInt32 (Scalar.floor (real (x - o))) + 2 := by
  obtain ⟨hlo, hhi⟩ := abs_lt.mp h
  push_cast at hlo hhi
  have hlower : (i : ℤ) - 2 ≤ ⌊x - o⌋ := by
    rw [Int.le_floor]
    push_cast
    linarith
  have hupper : ⌊x - o⌋ < (i : ℤ) + 2 := by
    rw [Int.floor_lt]
    push_cast
    linarith
  rw [toInt32_floor]
  omega

/-- **The faces around a position are all that have weight there.** -/
theorem mem_facesAround_of_weight_pos (hd : d.Addressable 1) {a : Axis} (ha : a ∈ d.activeAxes)
    {f : d.Face a} {p : Vec3 Exact} (hp : p.isFinite = true)
    (h : real 0 < weightAt .smooth a f p) : f ∈ facesAround d a p := by
  obtain ⟨x, y, z, rfl⟩ := Vec3.isFinite_iff.mp hp
  obtain ⟨hx, hy, hz⟩ := near_of_weightAt_pos h
  obtain ⟨hi, hj, hk⟩ := coords_face_le f
  obtain ⟨i, j, k, rfl⟩ := Lattice.exists_nodeOf f
  rw [Lattice.coords_nodeOf] at hx hy hz hi hj hk
  have haround := fun {n : ℕ} {x o : ℝ} (hn : n < 2 ^ 31) {i : Fin n}
      (hx : |x - (i.val + o)| < (2 : ℕ)) =>
    (mem_aroundSmooth hn (isWord_toInt32_floor (x - o))).mpr (near_floor (i.isLt.trans hn) hx)
  have hshort := hd.isShort_faces a
  simp only [facesAround, faceOffset_eq, Vec3.mk_sub_mk, real_sub_real, cellOf]
  refine Lattice.mem_box.mpr ⟨haround (hshort .x) hx, haround (hshort .y) hy, ?_⟩
  split_ifs with hplanar
  · have hlayer : k.val < 1 := k.isLt.trans_eq (nz_faces_of_isPlanar hplanar ha)
    exact List.mem_singleton.mpr (Fin.ext (by simp only; omega))
  · exact haround (hshort .z) (hz (Bool.eq_false_iff.mpr hplanar))

section

variable {S : Type} [Scalar S]

open scoped Literals in
/-- Weight times velocity and weight, added up over the faces around a position. -/
def weighAround (v : Staggered d S) (a : Axis) (p : Vec3 S) : S × S :=
  (facesAround d a p).foldl
    (fun (sum, total) f =>
      let w := weightAt .smooth a f p
      if 0 < w then (sum + w * (v.component a).get f, total + w) else (sum, total))
    (0, 0)

open scoped Literals in
lemma sampleSmooth_of_weighAround {v : Staggered d S} {a : Axis} {p : Vec3 S} {sum total : S}
    (h : weighAround v a p = (sum, total)) :
    sampleSmooth v a p = if 0 < total then sum / total else v.sampleComponent a p := by
  have hsample : sampleSmooth v a p = if 0 < (weighAround v a p).2 then
      (weighAround v a p).1 / (weighAround v a p).2 else v.sampleComponent a p := rfl
  rw [hsample, h]

end

open scoped Exact.Sums in
/-- Where faces have weight, a particle takes their mean. -/
theorem sampleSmooth_eq (hd : d.Addressable 1) {a : Axis} (ha : a ∈ d.activeAxes)
    {v : Staggered d Exact} (hv : ∀ f, Scalar.isFinite ((v.component a).get f) = true)
    {p : Vec3 Exact} (hp : p.isFinite = true)
    (hpos : ∃ f : d.Face a, real 0 < weightAt .smooth a f p) :
    sampleSmooth v a p = (∑ f : d.Face a, weightAt .smooth a f p * (v.component a).get f) /
      ∑ f : d.Face a, weightAt .smooth a f p := by
  choose W hW hw using fun f : d.Face a => weightAt_of_isFinite .smooth a f hp
  have hu := fun f => eq_real_toReal (hv f)
  have hsums : weighAround v a p = _ :=
    foldl_window hw hW hu (nodup_facesAround d a p) fun f =>
      mem_facesAround_of_weight_pos hd ha hp
  have htotal : 0 < ∑ f, W f := by
    obtain ⟨f, hf⟩ := hpos
    rw [hw, real_lt_real] at hf
    exact Finset.sum_pos' (fun f _ => hW f) ⟨f, Finset.mem_univ f, hf⟩
  have hvalue : ∀ f, weightAt .smooth a f p * (v.component a).get f =
      real (W f * ((v.component a).get f).toReal) := by
    intro f
    rw [hw, ← real_mul_real, ← hu]
  rw [sampleSmooth_of_weighAround hsums, literal, Nat.cast_zero, if_pos (real_lt_real.mpr htotal)]
  simp only [hvalue]
  simp only [hw, Sums.sum_real]

/-! ## Everything that counts -/

/-- The transfer to faces leaves nothing out.  Across every axis of motion a face looks once at each
particle that has weight there, and takes the mean of all particles, in whatever order they are. -/
structure GathersAll (d : Dims) (ps : Particles Exact) (kernel : Kernel) : Prop where
  once : ∀ a ∈ d.activeAxes, ∀ (f : d.Face a) (p : Fin ps.size),
    real 0 < weightAt kernel a f (Particles.get ps p).position →
      (nearby d ps kernel a f).count p = 1
  mean : (∀ p ∈ ps, p.velocity.isFinite = true) → ∀ a ∈ d.activeAxes, ∀ f : d.Face a,
    IsMean (fun p => weightAt kernel a f (Particles.get ps p).position)
      (fun p => (Particles.get ps p).velocity.get a)
      (((gather ps (Buckets.build d ps) kernel).velocity.component a).get f)
      (((gather ps (Buckets.build d ps) kernel).weight.component a).get f)
  order : (∀ p ∈ ps, p.velocity.isFinite = true) → ∀ qs : Particles Exact,
    qs.toList.Perm ps.toList →
      gather qs (Buckets.build d qs) kernel = gather ps (Buckets.build d ps) kernel

open scoped Exact.Sums in
/-- The smooth transfer to particles leaves nothing out.  Along every axis of motion a position
looks once at each face that has weight there, and takes the mean of all faces if one has. -/
structure SamplesAll (v : Staggered d Exact) : Prop where
  once : ∀ a ∈ d.activeAxes, ∀ p : Vec3 Exact, p.isFinite = true → ∀ f : d.Face a,
    real 0 < weightAt .smooth a f p → (facesAround d a p).count f = 1
  mean : ∀ a ∈ d.activeAxes, (∀ f, Scalar.isFinite ((v.component a).get f) = true) →
    ∀ p : Vec3 Exact, p.isFinite = true → (∃ f : d.Face a, real 0 < weightAt .smooth a f p) →
      sampleSmooth v a p = (∑ f : d.Face a, weightAt .smooth a f p * (v.component a).get f) /
        ∑ f : d.Face a, weightAt .smooth a f p

/-- **The windows miss nothing**, wherever the particles are, at every face of every domain around
which the windows of the kernel end at words of 32 bits. -/
theorem windows_complete {kernel : Kernel} (hd : d.Addressable kernel.support)
    {ps : Particles Exact} (hps : ∀ p ∈ ps, p.position.isFinite = true) (v : Staggered d Exact) :
    GathersAll d ps kernel ∧ SamplesAll v := by
  have hface := hd.mono kernel.support_pos
  refine ⟨⟨fun a ha f p hpos => ?_, fun hv a ha f => ?_, fun hv qs hperm => ?_⟩,
    fun a ha p hp f hpos => ?_, fun a ha hv p hp hpos => ?_⟩
  · exact List.count_eq_one_of_mem (nodup_nearby ps kernel a f)
      (mem_nearby_of_weight_pos hd ha (hps _ (Array.getElem_mem p.isLt)) hpos)
  · exact isMean_gather hd hps ha (fun p hp => Vec3.isFinite_get (hv p hp) a) f
  · exact gather_perm hd hps hv hperm
  · exact List.count_eq_one_of_mem (nodup_facesAround d a p)
      (mem_facesAround_of_weight_pos hface ha hp hpos)
  · exact sampleSmooth_eq hface ha hv hp hpos

/-- A particle half a cell to the left of the domain, on its way in. -/
noncomputable def stray : Particle Exact :=
  ⟨⟨-Scalar.half, Scalar.half, Scalar.half⟩, ⟨real 1, real 0, real 0⟩⟩

/-- The face at the left end of two cells side by side. -/
def leftmost : (planar 1 0).Face .x := ⟨0, by decide⟩

/-- The outermost face does not miss the particle. -/
theorem windows_complete_stray :
    (planar 1 0).Addressable Kernel.dLinear.support ∧ (∀ p ∈ #[stray], p.position.isFinite = true) ∧
      real 0 < weightAt .dLinear .x leftmost stray.position ∧
      GathersAll (planar 1 0) #[stray] .dLinear ∧ SamplesAll (Staggered.zero (planar 1 0)) := by
  have hd : (planar 1 0).Addressable Kernel.dLinear.support := ⟨by decide, by decide, by decide⟩
  have hps : ∀ p ∈ #[stray], p.position.isFinite = true := by
    simp only [List.mem_toArray, List.mem_singleton, forall_eq, stray, half_eq]
    rfl
  refine ⟨hd, hps, ?_, windows_complete hd hps (Staggered.zero (planar 1 0))⟩
  have hcoords : ((planar 1 0).faces .x).coords leftmost.val = ⟨0, 0, 0⟩ := rfl
  have hplanar : (planar 1 0).isPlanar = true := rfl
  rw [weightAt, facePosition, hcoords, facePositionAt_eq, stray, half_eq, neg_real, Vec3.mk_sub_mk,
    hplanar]
  simp only [real_sub_real, Kernel.weight, Kernel.dLinearWeight_real, real_lt_real, Kernel.hats,
    shift_eq, Kernel.hat, reduceCtorEq, if_true, if_false]
  norm_num

end Transfer

end FreeSurface

import FreeSurface.Proofs.Surface.Extension
import FreeSurface.Proofs.Surface.Union

/-!
# How far the surface of the particles looks

The level set of the particles is cut off at the radius `r`, so a particle can lower the level of a
cell up to a distance of `2 * r`.  The search for particles reaches `⌊r⌋ + 1` cells, which takes in
all that are less than `⌊r⌋ + 3 / 2` away, and perhaps some more.

* `Surface.unionLevelSet_eq` — **the level of a cell is that of the particles within reach**.  It is
  that of all particles where this is below `⌊r⌋ + 3 / 2 - r`, and everywhere if the search reaches
  as far as a particle can matter.
* `Surface.unionLevelSet_slab` — in space, with the standard radius, it does not reach that far.
-/

namespace FreeSurface

open Exact

variable {d : Dims}

/-! ## Cells within reach -/

/-- Along every axis of motion the cells are at most so many cells apart. -/
def Dims.Near (d : Dims) (reach : ℤ) (c c' : d.Cell) : Prop :=
  ∀ a ∈ d.activeAxes,
    |((d.cells.coords c'.val).get a : ℤ) - (d.cells.coords c.val).get a| ≤ reach

instance (reach : ℤ) (c c' : d.Cell) : Decidable (d.Near reach c c') :=
  inferInstanceAs (Decidable (∀ a ∈ d.activeAxes, _))

lemma Buckets.mem_cellsNear_iff (hd : d.cells.IsShort) {reach : ℤ} {c c' : d.Cell}
    (hfits : Fits d (d.cells.coords c.val).i (d.cells.coords c.val).j (d.cells.coords c.val).k
      reach) :
    c' ∈ cellsNear d (d.cells.coords c.val).i (d.cells.coords c.val).j (d.cells.coords c.val).k
      reach ↔ d.Near reach c c' := by
  rw [mem_cellsNear hd hfits, Dims.Near, Dims.activeAxes]
  split_ifs with hplanar
  · -- A planar domain has one layer only, so nothing is asked of the third coordinate.
    have hdepth : d.depth = 1 := beq_iff_eq.mp hplanar
    have hlayer : ∀ n : d.Cell, (d.cells.coords n.val).k < d.depth := fun n =>
      (d.cells.contains_coords n.isLt).2.2
    have hc := hlayer c
    have hc' := hlayer c'
    simp only [List.forall_mem_cons, List.not_mem_nil, false_implies, implies_true, and_true,
      Coords.get, abs_le]
    omega
  · simp only [Axis.all, List.forall_mem_cons, List.not_mem_nil, false_implies, implies_true,
      and_true, Coords.get, abs_le]
    omega

namespace Surface

/-! ## Levels -/

/-- The level of the spheres around some particles at the centre of a cell, at most the radius. -/
noncomputable def sphereLevel (d : Dims) (r : ℝ) (c : d.Cell) (ps : List (Particle Exact)) : ℝ :=
  ps.foldl (fun level p => min level (d.distance c p.position - r)) r

variable {r : ℝ} {c : d.Cell}

lemma sphereLevel_lt_iff {ps : List (Particle Exact)} {t : ℝ} :
    sphereLevel d r c ps < t ↔ r < t ∨ ∃ p ∈ ps, d.distance c p.position - r < t :=
  foldl_min_lt_iff ps _ r t

/-- Of more particles the level is lower. -/
lemma sphereLevel_anti {ps qs : List (Particle Exact)} (h : ∀ p ∈ ps, p ∈ qs) :
    sphereLevel d r c qs ≤ sphereLevel d r c ps := by
  refine le_of_forall_gt fun t ht => ?_
  rw [sphereLevel_lt_iff] at ht ⊢
  exact ht.imp_right fun ⟨p, hp, hlt⟩ => ⟨p, h p hp, hlt⟩

/-- Particles that are so far away that they do not matter can be left out. -/
lemma sphereLevel_filter_eq {ps : List (Particle Exact)} {reaches : Particle Exact → Bool} {t : ℝ}
    (hreaches : ∀ p ∈ ps, d.distance c p.position < t + r → reaches p = true)
    (h : sphereLevel d r c ps < t ∨ r ≤ t) :
    sphereLevel d r c (ps.filter reaches) = sphereLevel d r c ps := by
  refine le_antisymm (le_of_forall_gt fun s hs => ?_)
    (sphereLevel_anti fun p hp => (List.mem_filter.mp hp).1)
  rcases lt_or_ge t s with hts | hst
  · -- Either all levels are at most `t`, or a particle within reach takes this one below `t`.
    refine lt_of_le_of_lt ?_ hts
    rcases h with hlow | hall
    · refine (sphereLevel_lt_iff.mpr ?_).le
      exact (sphereLevel_lt_iff.mp hlow).imp_right fun ⟨p, hp, hlt⟩ =>
        ⟨p, List.mem_filter.mpr ⟨hp, hreaches p hp (by linarith)⟩, hlt⟩
    · have hnone : sphereLevel d r c [] ≤ t := hall
      exact (sphereLevel_anti fun _ hp => absurd hp List.not_mem_nil).trans hnone
  · refine sphereLevel_lt_iff.mpr ?_
    exact (sphereLevel_lt_iff.mp hs).imp_right fun ⟨p, hp, hlt⟩ =>
      ⟨p, List.mem_filter.mpr ⟨hp, hreaches p hp (by linarith)⟩, hlt⟩

variable {ps : Particles Exact}

/-- The particle is in the bucket of a cell that the search from a cell reaches. -/
noncomputable def withinReach (d : Dims) (r : ℝ) (c : d.Cell) (p : Particle Exact) : Bool :=
  decide (d.Near (⌊r⌋ + 1) c (Buckets.bucketOf d p.position))

lemma mem_search_iff (hd : d.Addressable ⌊r⌋₊) (hr : 0 ≤ r) {p : Fin ps.size} :
    p ∈ search d ps r c ↔ withinReach d r c (Particles.get ps p) = true := by
  rw [search_eq hd hr, Buckets.mem_near_build,
    Buckets.mem_cellsNear_iff hd.isShort (fits_search hd hr c), withinReach, decide_eq_true_eq]

/-- The particles are looked at bucket by bucket, but their order does not matter. -/
lemma get_unionOfSpheres_eq (hd : d.Addressable ⌊r⌋₊) (hr : 0 ≤ r)
    (hps : ∀ p ∈ ps, p.position.isFinite = true) (c : d.Cell) :
    (unionOfSpheres d ps (Buckets.build d ps) (real r)).get c =
      real (sphereLevel d r c (ps.toList.filter (withinReach d r c))) := by
  rw [get_unionOfSpheres hps]
  refine congrArg real (eq_of_forall_gt_iff fun t => ?_)
  rw [foldl_min_lt_iff, sphereLevel_lt_iff]
  refine or_congr_right ⟨?_, ?_⟩
  · rintro ⟨p, hp, hlt⟩
    exact ⟨Particles.get ps p, List.mem_filter.mpr
      ⟨Array.getElem_mem_toList p.isLt, (mem_search_iff hd hr).mp hp⟩, hlt⟩
  · rintro ⟨p, hp, hlt⟩
    obtain ⟨hmem, hreach⟩ := List.mem_filter.mp hp
    obtain ⟨i, hi, rfl⟩ := List.mem_iff_getElem.mp hmem
    exact ⟨⟨i, hi⟩, (mem_search_iff hd hr).mpr hreach, hlt⟩

/-- Out of reach are only particles that do not take the level below `⌊r⌋ + 3 / 2 - r`. -/
lemma sphereLevel_withinReach_eq (hd : d.Addressable ⌊r⌋₊) (hr : 0 ≤ r)
    (hps : ∀ p ∈ ps, p.position.isFinite = true)
    (h : sphereLevel d r c ps.toList < ⌊r⌋ + 3 / 2 - r ∨ 2 * r ≤ ⌊r⌋ + 3 / 2) :
    sphereLevel d r c (ps.toList.filter (withinReach d r c)) = sphereLevel d r c ps.toList := by
  refine sphereLevel_filter_eq (t := ⌊r⌋ + 3 / 2 - r) (fun p hp hnear => ?_)
    (h.imp_right fun hall => by linarith)
  rw [sub_add_cancel] at hnear
  obtain ⟨i, hi, rfl⟩ := List.mem_iff_getElem.mp hp
  exact (mem_search_iff (p := ⟨i, hi⟩) hd hr).mp
    (mem_search_of_distance_lt hd hr (hps _ (Array.getElem_mem hi)) hnear)

/-! ## Level sets -/

variable {ρ : ℝ}

/-- **The level of a cell is that of the particles within reach of it**, as long as the search ends
at words.  It is that of all particles where this is low, and everywhere if no sphere that matters
is out of reach. -/
theorem unionLevelSet_eq (hd : d.Addressable ⌊ρ * √d.dimension / 2⌋₊) (hρ : 0 < ρ)
    (hps : ∀ p ∈ ps, p.position.isFinite = true) {g : Flags d} {c : d.Cell}
    (hc : g.isObstacle c = false) :
    let r := ρ * √d.dimension / 2
    let level := (unionLevelSet ps (Buckets.build d ps) g (real ρ)).get c
    level = real (sphereLevel d r c (ps.toList.filter (withinReach d r c))) ∧
      (sphereLevel d r c ps.toList < ⌊r⌋ + 3 / 2 - r ∨ 2 * r ≤ ⌊r⌋ + 3 / 2 →
        level = real (sphereLevel d r c ps.toList)) := by
  intro r level
  have hr : 0 ≤ r := by positivity
  have hlevel : level = real (sphereLevel d r c (ps.toList.filter (withinReach d r c))) := by
    rw [← get_unionOfSpheres_eq hd hr hps, ← particleRadius_eq]
    exact get_extendIntoObstacles_of_open _ g hc
  exact ⟨hlevel, fun h => hlevel.trans (congrArg real (sphereLevel_withinReach_eq hd hr hps h))⟩

/-! ## A search that does not reach far enough -/

/-- Three cells wide, one high and two deep. -/
def slab : Dims := ⟨3, 1, 2, by decide, by decide, by decide⟩

lemma addressable_slab : slab.Addressable 0 := ⟨by decide, by decide, by decide⟩

/-- A particle in the last of the slab's cells in front. -/
noncomputable def drop : Particles Exact :=
  #[.atRest ⟨Scalar.ofDecimal 2125 3, Scalar.half, Scalar.half⟩]

lemma toList_drop : drop.toList = [.atRest ⟨real (17 / 8), real (1 / 2), real (1 / 2)⟩] := by
  have hx : (Scalar.ofDecimal 2125 3 : Exact) = real (17 / 8) := by norm_num
  have hy : (Scalar.half : Exact) = real (1 / 2) := by norm_num [Scalar.half]
  rw [drop, hx, hy]

lemma isFinite_drop : ∀ p ∈ drop, p.position.isFinite = true := by
  intro p hp
  obtain rfl := Array.mem_singleton.mp hp
  rfl

lemma cellAt?_drop : ∀ p ∈ drop, slab.cellAt? p.position = some (2 : Fin 6) := by
  intro p hp
  rw [← Array.mem_toList_iff, toList_drop, List.mem_singleton] at hp
  subst hp
  have hcoords : slab.cells.coords 2 = ⟨2, 0, 0⟩ := by decide
  have hwithin : Dims.Within ⟨2, 0, 0⟩ (⟨real (17 / 8), real (1 / 2), real (1 / 2)⟩ : Vec3 Exact) :=
    ⟨_, _, _, rfl, by norm_num⟩
  exact Dims.cellAt?_of_within (d := slab) (c := (2 : Fin 6)) addressable_slab (hcoords ▸ hwithin)

/-- The particle is in line with the cells in front. -/
lemma sphereLevel_drop (r : ℝ) {c : Fin 6} (hc : slab.cells.coords c.val = ⟨c.val, 0, 0⟩)
    (hleft : c.val < 2) :
    sphereLevel slab r c drop.toList = min r (17 / 8 - (c.val + 1 / 2) - r) := by
  have hspace : slab.isPlanar = false := rfl
  have hle : (c.val : ℝ) ≤ 1 := mod_cast Nat.le_of_lt_succ hleft
  have hdistance : slab.distance c ⟨real (17 / 8), real (1 / 2), real (1 / 2)⟩ =
      17 / 8 - (c.val + 1 / 2) := by
    refine (Dims.distance_eq (d := slab) c _ _ _).trans ?_
    simp only [hc, hspace, Bool.false_eq_true, if_false, Nat.cast_zero]
    refine Eq.trans (congrArg Real.sqrt ?_) (Real.sqrt_sq (by linarith : (0 : ℝ) ≤ _))
    ring
  rw [toList_drop, ← hdistance]
  rfl

lemma floor_sqrt_three : ⌊√3 / 2⌋ = 0 := by
  rw [Int.floor_eq_zero_iff, Set.mem_Ico]
  have htwo : √3 < 2 := (Real.sqrt_lt' two_pos).mpr (by norm_num)
  constructor
  · positivity
  · linarith

lemma radius_slab : 1 * √(slab.dimension : ℝ) / 2 = √3 / 2 := by
  rw [one_mul]
  rfl

lemma addressable_slab_radius : slab.Addressable ⌊√3 / 2⌋₊ := by
  have hfloor : ⌊√3 / 2⌋₊ = 0 := by
    rw [← Int.floor_toNat, floor_sqrt_three, Int.toNat_zero]
  rw [hfloor]
  exact addressable_slab

/-- The middle cell in front is inside the surface. -/
theorem unionLevelSet_inside :
    slab.Addressable ⌊1 * √(slab.dimension : ℝ) / 2⌋₊ ∧ (0 : ℝ) < 1 ∧
    (∀ p ∈ drop, p.position.isFinite = true) ∧
    (Flags.empty slab).isObstacle (1 : Fin 6) = false ∧
    sphereLevel slab (√3 / 2) (1 : Fin 6) drop.toList = 5 / 8 - √3 / 2 ∧
    (unionLevelSet drop (Buckets.build slab drop) (.empty slab) (real 1)).get (1 : Fin 6) =
      real (5 / 8 - √3 / 2) := by
  have hopen : (Flags.empty slab).isObstacle (1 : Fin 6) = false := by decide
  have hroot : √3 ^ 2 = 3 := Real.sq_sqrt (by norm_num)
  have hpos : 0 ≤ √3 := Real.sqrt_nonneg 3
  have hlevel : sphereLevel slab (√3 / 2) (1 : Fin 6) drop.toList = 5 / 8 - √3 / 2 := by
    rw [sphereLevel_drop _ (by decide) (by decide)]
    norm_num
    nlinarith
  have hd : slab.Addressable ⌊1 * √(slab.dimension : ℝ) / 2⌋₊ :=
    radius_slab ▸ addressable_slab_radius
  refine ⟨hd, one_pos, isFinite_drop, hopen, hlevel, ?_⟩
  have hall := (unionLevelSet_eq hd one_pos isFinite_drop hopen).2
  rw [radius_slab, hlevel, floor_sqrt_three] at hall
  refine hall (.inl ?_)
  norm_num

/-- In space, with the standard radius, the first cell in front does not see a particle two cells
away that would lower its level. -/
theorem unionLevelSet_slab :
    slab.Addressable ⌊√3 / 2⌋₊ ∧ (0 : ℝ) < 1 ∧ (Flags.empty slab).isObstacle (0 : Fin 6) = false ∧
    (∀ p ∈ drop, slab.cellAt? p.position = some (2 : Fin 6)) ∧
    particleRadius slab (real 1) = real (√3 / 2) ∧
    (unionLevelSet drop (Buckets.build slab drop) (.empty slab) (real 1)).get (0 : Fin 6) =
      real (√3 / 2) ∧
    sphereLevel slab (√3 / 2) (0 : Fin 6) drop.toList = 13 / 8 - √3 / 2 ∧
    13 / 8 - √3 / 2 < √3 / 2 := by
  have hopen : (Flags.empty slab).isObstacle (0 : Fin 6) = false := by decide
  have hroot : √3 ^ 2 = 3 := Real.sq_sqrt (by norm_num)
  have hpos : 0 ≤ √3 := Real.sqrt_nonneg 3
  have hlower : 13 / 8 - √3 / 2 < √3 / 2 := by nlinarith
  have hradius : particleRadius slab (real 1) = real (√3 / 2) := by
    rw [particleRadius_eq, radius_slab]
  -- The search from the first cell reaches the second one, but the particle is in the third.
  have hmissed : drop.toList.filter (withinReach slab (√3 / 2) (0 : Fin 6)) = [] := by
    refine List.filter_eq_nil_iff.mpr fun p hp => ?_
    have hbucket : Buckets.bucketOf slab p.position = (2 : Fin 6) :=
      Buckets.bucketOf_of_cellAt? (cellAt?_drop p (Array.mem_def.mpr hp))
    simp only [withinReach, decide_eq_true_eq, floor_sqrt_three, hbucket]
    exact fun hnear => absurd (hnear .x (by decide)) (by decide)
  refine ⟨addressable_slab_radius, one_pos, hopen, cellAt?_drop, hradius, ?_, ?_, hlower⟩
  · have hr : 0 ≤ √3 / 2 := div_nonneg hpos zero_le_two
    refine (get_extendIntoObstacles_of_open _ _ hopen).trans ?_
    rw [hradius]
    refine (get_unionOfSpheres_eq addressable_slab_radius hr isFinite_drop (0 : Fin 6)).trans ?_
    rw [hmissed]
    rfl
  · rw [sphereLevel_drop _ (by decide) (by decide)]
    norm_num
    linarith

end Surface

end FreeSurface

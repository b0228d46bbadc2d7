import Mathlib.Analysis.InnerProductSpace.PiL2
import FreeSurface.Proofs.Field.Interpolation
import FreeSurface.Proofs.Lattice.Positions
import FreeSurface.Proofs.Scene
import FreeSurface.Proofs.Shape.Quadrant

/-!
# Shapes as distance fields

In exact arithmetic the signed distance to a box or a sphere is negative exactly inside, zero
exactly on the boundary, and changes by no more than the position does.  In a planar domain all of
this is about the cross-section: positions count by their shadow in the plane (`Shape.shadow`).

* `Shape.signedDistance_box` — the distance from a box is that from a quadrant.
* `Shape.isDistanceField` — signs and slope of a single shape.
* `Scene.exists_lipschitz_liquid` — the level set of a scene has no greater slope, however many
  shapes make it up.
* `Scene.isFluid_build_iff_interior` — the liquid is the inside of these shapes, where it is open.

A box whose corners are given the wrong way round has no points, and all distances to it are
positive; they have no greater slope either.
-/

namespace FreeSurface

open Exact
open scoped Literals

/-! ## Axes that count -/

instance : Fintype Axis := ⟨⟨Axis.all, by decide⟩, Axis.mem_all⟩

/-- The axes along which positions count: all of them, or those of the plane. -/
abbrev Counted (planar : Bool) : Type := {a : Axis // planar = true → a ≠ .z}

namespace Counted

instance (planar : Bool) : Nonempty (Counted planar) := ⟨⟨.x, fun _ => Axis.noConfusion⟩⟩

lemma univ_planar :
    (Finset.univ : Finset (Counted true)) = {⟨.x, by decide⟩, ⟨.y, by decide⟩} := by
  decide

lemma univ_spatial :
    (Finset.univ : Finset (Counted false)) =
      {⟨.x, by decide⟩, ⟨.y, by decide⟩, ⟨.z, by decide⟩} := by
  decide

variable {M : Type} [AddCommMonoid M]

lemma sum_planar (f : Counted true → M) :
    ∑ a, f a = f ⟨.x, by decide⟩ + f ⟨.y, by decide⟩ := by
  rw [univ_planar, Finset.sum_pair (by decide)]

lemma sum_spatial (f : Counted false → M) :
    ∑ a, f a = f ⟨.x, by decide⟩ + f ⟨.y, by decide⟩ + f ⟨.z, by decide⟩ := by
  rw [univ_spatial, Finset.sum_insert (by decide), Finset.sum_pair (by decide), add_assoc]

lemma forall_planar {P : Counted true → Prop} :
    (∀ a, P a) ↔ P ⟨.x, by decide⟩ ∧ P ⟨.y, by decide⟩ := by
  refine ⟨fun h => ⟨h _, h _⟩, ?_⟩
  rintro ⟨hx, hy⟩ ⟨a, ha⟩
  cases a
  exacts [hx, hy, absurd rfl (ha rfl)]

lemma forall_spatial {P : Counted false → Prop} :
    (∀ a, P a) ↔ P ⟨.x, by decide⟩ ∧ P ⟨.y, by decide⟩ ∧ P ⟨.z, by decide⟩ := by
  refine ⟨fun h => ⟨h _, h _, h _⟩, ?_⟩
  rintro ⟨hx, hy, hz⟩ ⟨a, ha⟩
  cases a
  exacts [hx, hy, hz]

end Counted

namespace Shape

variable {planar : Bool} {lo hi p center : Vec3 Exact} {radius : Exact}

/-- Corners, centre and radius are numbers. -/
def IsFinite : Shape Exact → Prop
  | box lo hi => lo.isFinite = true ∧ hi.isFinite = true
  | sphere center radius => center.isFinite = true ∧ Scalar.isFinite radius = true

/-- Space, or the plane. -/
abbrev Space (planar : Bool) : Type := EuclideanSpace ℝ (Counted planar)

/-- A position as far as it counts. -/
noncomputable def shadow (planar : Bool) (p : Vec3 Exact) : Space planar :=
  WithLp.toLp _ fun a => (p.get a).toReal

/-- The points of a shape, its boundary among them. -/
def solid (planar : Bool) : Shape Exact → Set (Space planar)
  | box lo hi => {s | ∀ a : Counted planar, s a ∈ Set.Icc (lo.get a).toReal (hi.get a).toReal}
  | sphere center radius => Metric.closedBall (shadow planar center) radius.toReal

/-- A function on space or the plane tells the signed distances to a shape.  They are negative
inside, zero on the boundary and positive outside, and differ by no more than the points are
apart. -/
structure IsDistanceField (planar : Bool) (shape : Shape Exact) (f : Space planar → ℝ) :
    Prop where
  signedDistance_eq : ∀ p : Vec3 Exact, p.isFinite = true →
    shape.signedDistance p planar = real (f (shadow planar p))
  nonpos_iff : ∀ s, f s ≤ 0 ↔ s ∈ shape.solid planar
  neg_iff : ∀ s, f s < 0 ↔ s ∈ interior (shape.solid planar)
  lipschitz : LipschitzWith 1 f

/-! ## Boxes -/

/-- How far a point is beyond the sides of a box, axis by axis; between them no entry is positive. -/
noncomputable def beyond (lo hi : Vec3 Exact) (s : Space planar) (a : Counted planar) : ℝ :=
  max ((lo.get a).toReal - s a) (s a - (hi.get a).toReal)

/-- Seen from the middle between two sides, either of them is half as far as they are apart. -/
lemma abs_sub_middle (x lo hi : ℝ) :
    Scalar.abs (real x - (real lo + real hi) * (Scalar.half : Exact)) -
        (real hi - real lo) * (Scalar.half : Exact) = real (max (lo - x) (x - hi)) := by
  simp only [half_eq, real_add_real, real_sub_real, real_mul_real, abs_real]
  rw [abs_eq_max_neg, ← max_sub_sub_right, max_comm]
  congr 2 <;> ring

lemma greatest_planar (f : Counted true → ℝ) :
    Quadrant.greatest f = max (f ⟨.x, by decide⟩) (f ⟨.y, by decide⟩) := by
  refine eq_of_forall_ge_iff fun c => ?_
  rw [Quadrant.greatest_le_iff, Counted.forall_planar, max_le_iff]

lemma greatest_spatial (f : Counted false → ℝ) :
    Quadrant.greatest f =
      max (f ⟨.x, by decide⟩) (max (f ⟨.y, by decide⟩) (f ⟨.z, by decide⟩)) := by
  refine eq_of_forall_ge_iff fun c => ?_
  rw [Quadrant.greatest_le_iff, Counted.forall_spatial, max_le_iff, max_le_iff]

/-- **A position is as far from a box as its entries beyond the sides are from a quadrant.** -/
theorem signedDistance_box (hlo : lo.isFinite = true) (hhi : hi.isFinite = true)
    (hp : p.isFinite = true) :
    (box lo hi).signedDistance p planar =
      real (Quadrant.distance (beyond lo hi (shadow planar p))) := by
  obtain ⟨x, y, z, rfl⟩ := Vec3.isFinite_iff.mp hp
  obtain ⟨x₀, y₀, z₀, rfl⟩ := Vec3.isFinite_iff.mp hlo
  obtain ⟨x₁, y₁, z₁, rfl⟩ := Vec3.isFinite_iff.mp hhi
  simp only [signedDistance, Vec3.mk_add_mk, Vec3.mk_sub_mk, Vec3.mk_scale, Vec3.map,
    abs_sub_middle]
  cases planar with
  | true =>
      simp [mask, Vec3.mk_mul_mk, Vec3.length_real, Quadrant.distance, Quadrant.excess,
        Counted.sum_planar, greatest_planar, beyond, shadow, Vec3.get]
  | false =>
      simp [mask, Vec3.splat, Vec3.mk_mul_mk, Vec3.length_real, Vec3.maxEntry, Quadrant.distance,
        Quadrant.excess, Counted.sum_spatial, greatest_spatial, beyond, shadow, Vec3.get]

/-- An entry is at most zero between the two sides of the box. -/
lemma beyond_nonpos_iff {s : Space planar} {a : Counted planar} :
    beyond lo hi s a ≤ 0 ↔ s a ∈ Set.Icc (lo.get a).toReal (hi.get a).toReal := by
  rw [beyond, max_le_iff, sub_nonpos, sub_nonpos, Set.mem_Icc]

lemma beyond_neg_iff {s : Space planar} {a : Counted planar} :
    beyond lo hi s a < 0 ↔ s a ∈ Set.Ioo (lo.get a).toReal (hi.get a).toReal := by
  rw [beyond, max_lt_iff, sub_neg, sub_neg, Set.mem_Ioo]

lemma abs_beyond_sub_le (s t : Space planar) (a : Counted planar) :
    |beyond lo hi s a - beyond lo hi t a| ≤ |s a - t a| := by
  refine (abs_max_sub_max_le_max _ _ _ _).trans_eq ?_
  rw [sub_sub_sub_cancel_left, sub_sub_sub_cancel_right, abs_sub_comm, max_self]

lemma lipschitzWith_distance_beyond :
    LipschitzWith 1 fun s : Space planar => Quadrant.distance (beyond lo hi s) := by
  refine LipschitzWith.of_dist_le_mul fun s t => ?_
  rw [NNReal.coe_one, one_mul, Real.dist_eq, EuclideanSpace.dist_eq]
  refine (Quadrant.abs_distance_sub_le _ _).trans (Real.sqrt_le_sqrt ?_)
  refine Finset.sum_le_sum fun a _ => ?_
  rw [Real.dist_eq]
  exact sq_le_sq.mpr ((abs_beyond_sub_le s t a).trans_eq (abs_abs _).symm)

/-- The inside of a box lies strictly between its sides. -/
lemma interior_solid_box : interior ((box lo hi).solid planar) =
    {s | ∀ a : Counted planar, s a ∈ Set.Ioo (lo.get a).toReal (hi.get a).toReal} := by
  have hsolid : (box lo hi).solid planar =
      Set.preimage (PiLp.homeomorph 2 fun _ : Counted planar => ℝ)
        (Set.univ.pi fun a => Set.Icc (lo.get a.1).toReal (hi.get a.1).toReal) := by
    ext s
    rw [Set.mem_preimage, Set.mem_univ_pi]
    rfl
  rw [hsolid, ← Homeomorph.preimage_interior, interior_pi_set Set.finite_univ]
  ext s
  simp only [interior_Icc, Set.mem_preimage, Set.mem_univ_pi]
  rfl

lemma isDistanceField_box (hlo : lo.isFinite = true) (hhi : hi.isFinite = true) :
    (box lo hi).IsDistanceField planar fun s => Quadrant.distance (beyond lo hi s) where
  signedDistance_eq p hp := signedDistance_box hlo hhi hp
  nonpos_iff s := Quadrant.distance_nonpos_iff.trans (forall_congr' fun _ => beyond_nonpos_iff)
  neg_iff s := by
    rw [interior_solid_box]
    exact Quadrant.distance_neg_iff.trans (forall_congr' fun _ => beyond_neg_iff)
  lipschitz := lipschitzWith_distance_beyond

/-! ## Spheres -/

lemma signedDistance_sphere (hcenter : center.isFinite = true)
    (hradius : Scalar.isFinite radius = true) (hp : p.isFinite = true) :
    (sphere center radius).signedDistance p planar =
      real (dist (shadow planar p) (shadow planar center) - radius.toReal) := by
  obtain ⟨x, y, z, rfl⟩ := Vec3.isFinite_iff.mp hp
  obtain ⟨x₀, y₀, z₀, rfl⟩ := Vec3.isFinite_iff.mp hcenter
  obtain ⟨r, rfl⟩ := Exact.isFinite_iff.mp hradius
  cases planar with
  | true =>
      simp [signedDistance, mask, Vec3.mk_sub_mk, Vec3.mk_mul_mk, Vec3.length_real,
        EuclideanSpace.dist_eq, Real.dist_eq, Counted.sum_planar, shadow, Vec3.get]
  | false =>
      simp [signedDistance, mask, Vec3.mk_sub_mk, Vec3.mk_mul_mk, Vec3.length_real,
        EuclideanSpace.dist_eq, Real.dist_eq, Counted.sum_spatial, shadow, Vec3.get, Vec3.splat]

lemma isDistanceField_sphere (hcenter : center.isFinite = true)
    (hradius : Scalar.isFinite radius = true) :
    (sphere center radius).IsDistanceField planar fun s =>
      dist s (shadow planar center) - radius.toReal where
  signedDistance_eq p hp := signedDistance_sphere hcenter hradius hp
  nonpos_iff s := by rw [sub_nonpos, solid, Metric.mem_closedBall]
  neg_iff s := by rw [sub_neg, solid, interior_closedBall', Metric.mem_ball]
  lipschitz := LipschitzWith.of_dist_le_mul fun s t => by
    rw [NNReal.coe_one, one_mul, Real.dist_eq, sub_sub_sub_cancel_right]
    exact abs_dist_sub_le s t _

/-- **A finite shape has a field of signed distances.** -/
theorem isDistanceField (shape : Shape Exact) (planar : Bool) (h : shape.IsFinite) :
    ∃ f, shape.IsDistanceField planar f := by
  cases shape with
  | box lo hi => exact ⟨_, isDistanceField_box h.1 h.2⟩
  | sphere center radius => exact ⟨_, isDistanceField_sphere h.1 h.2⟩

lemma IsFinite.scaled {shape : Shape Exact} (h : shape.IsFinite) (d : Dims) :
    (shape.scaled d).IsFinite := by
  have hmul : ∀ {p : Vec3 Exact}, p.isFinite = true → (p * d.extent).isFinite = true := by
    intro p hp
    obtain ⟨x, y, z, rfl⟩ := Vec3.isFinite_iff.mp hp
    rfl
  cases shape with
  | box lo hi => exact ⟨hmul h.1, hmul h.2⟩
  | sphere center radius =>
      exact ⟨hmul h.1, Exact.isFinite_mul.mpr ⟨h.2, rfl⟩⟩

end Shape

/-! ## Several shapes -/

namespace Scene

open Shape

variable {d : Dims}

/-- Taking in further shapes makes no slope greater. -/
lemma exists_lipschitz_foldl_min {shapes : List (Shape Exact)}
    (hshapes : ∀ shape ∈ shapes, shape.IsFinite) {g : Space d.isPlanar → ℝ}
    (hg : LipschitzWith 1 g) :
    ∃ f : Space d.isPlanar → ℝ, LipschitzWith 1 f ∧ ∀ c : d.Cell,
      (shapes.map (distance c)).foldl Scalar.min (real (g (shadow d.isPlanar (d.center c)))) =
        real (f (shadow d.isPlanar (d.center c))) := by
  induction shapes generalizing g with
  | nil => exact ⟨g, hg, fun _ => rfl⟩
  | cons shape shapes ih =>
      obtain ⟨hshape, hrest⟩ := List.forall_mem_cons.mp hshapes
      obtain ⟨u, hu⟩ := isDistanceField (shape.scaled d) d.isPlanar (hshape.scaled d)
      have hmin : LipschitzWith 1 fun s => min (g s) (u s) := by
        simpa using hg.min hu.lipschitz
      obtain ⟨f, hf, heq⟩ := ih hrest hmin
      refine ⟨f, hf, fun c => ?_⟩
      rw [List.map_cons, List.foldl_cons, ← heq c, distance,
        hu.signedDistance_eq _ (d.isFinite_center c), min_real]

/-- **The level set of a scene has no greater slope than that of a shape.** -/
theorem exists_lipschitz_liquid {scene : Scene Exact}
    (h : ∀ shape ∈ scene.fluid, shape.IsFinite) (d : Dims) :
    ∃ f : Space d.isPlanar → ℝ, LipschitzWith 1 f ∧
      ∀ c, (scene.liquid d).get c = real (f (shadow d.isPlanar (d.center c))) := by
  have hconst : LipschitzWith 1 fun _ : Space d.isPlanar => (d.maxResolution : ℝ) :=
    (LipschitzWith.const _).weaken zero_le_one
  obtain ⟨f, hf, heq⟩ := exists_lipschitz_foldl_min h hconst
  refine ⟨f, hf, fun c => ?_⟩
  rw [get_liquid, ← heq c, scalar_ofNat]

/-- Taking in further shapes adds what is inside them. -/
lemma foldl_min_distance_lt_zero_iff {shapes : List (Shape Exact)}
    (h : ∀ shape ∈ shapes, shape.IsFinite) (c : d.Cell) (x : ℝ) :
    (shapes.map (distance c)).foldl Scalar.min (real x) < real 0 ↔
      x < 0 ∨ ∃ shape ∈ shapes, shadow d.isPlanar (d.center c) ∈
        interior ((shape.scaled d).solid d.isPlanar) := by
  induction shapes generalizing x with
  | nil => simp
  | cons shape shapes ih =>
      obtain ⟨hshape, hrest⟩ := List.forall_mem_cons.mp h
      obtain ⟨f, hf⟩ := isDistanceField (shape.scaled d) d.isPlanar (hshape.scaled d)
      rw [List.map_cons, List.foldl_cons, distance, hf.signedDistance_eq _ (d.isFinite_center c),
        min_real, ih hrest, min_lt_iff, hf.neg_iff, List.exists_mem_cons_iff, or_assoc]

/-- **Liquid is what lies inside some body of liquid**, among the cells that are not solid. -/
theorem isFluid_build_iff_interior {scene : Scene Exact}
    (h : ∀ shape ∈ scene.fluid, shape.IsFinite) {c : d.Cell}
    (hc : (scene.build d).1.isObstacle c = false) :
    (scene.build d).1.isFluid c = true ↔ ∃ shape ∈ scene.fluid,
      shadow d.isPlanar (d.center c) ∈ interior ((shape.scaled d).solid d.isPlanar) := by
  rw [build, Flags.isObstacle_reclassify] at hc
  rw [build, Flags.isFluid_reclassify _ _ hc, surfaceThreshold, literal, Nat.cast_zero, get_liquid,
    scalar_ofNat, foldl_min_distance_lt_zero_iff h, or_iff_right]
  exact (Nat.cast_nonneg _).not_gt

/-- **Shapes are distance fields, and a scene keeps their slope.**  For every finite shape, in space
and in the plane, the signed distance is at most zero exactly on the shape and negative exactly in
its interior, and changes by no more than the position does.  So the level set of any number of
finite bodies of liquid differs between the centres of two cells by no more than these are apart. -/
theorem isDistanceField_and_abs_liquid_sub_le :
    (∀ (shape : Shape Exact) (planar : Bool), shape.IsFinite →
      ∃ f, shape.IsDistanceField planar f) ∧
    ∀ (scene : Scene Exact) (d : Dims), (∀ shape ∈ scene.fluid, shape.IsFinite) →
      ∀ c c' : d.Cell, ∃ x y, (scene.liquid d).get c = real x ∧ (scene.liquid d).get c' = real y ∧
        |x - y| ≤ dist (shadow d.isPlanar (d.center c)) (shadow d.isPlanar (d.center c')) := by
  refine ⟨isDistanceField, fun scene d h c c' => ?_⟩
  obtain ⟨f, hf, heq⟩ := exists_lipschitz_liquid h d
  refine ⟨_, _, heq c, heq c', ?_⟩
  simpa [Real.dist_eq] using hf.dist_le_mul (shadow d.isPlanar (d.center c)) _

/-- A box with its corners the wrong way round has a field of distances, and makes a level set. -/
theorem isDistanceField_and_abs_liquid_sub_le_inverted :
    (∃ f, (box (Vec3.splat 1) Vec3.zero : Shape Exact).IsDistanceField true f) ∧
    ∃ x y : ℝ,
      ((⟨0, [.box (Vec3.splat 1) Vec3.zero], [], none⟩ : Scene Exact).liquid
        (Dims.planar 4 4)).get ⟨0, by decide⟩ = real x ∧
      ((⟨0, [.box (Vec3.splat 1) Vec3.zero], [], none⟩ : Scene Exact).liquid
        (Dims.planar 4 4)).get ⟨5, by decide⟩ = real y ∧
      |x - y| ≤ dist (shadow true ((Dims.planar 4 4).center ⟨0, by decide⟩))
        (shadow true ((Dims.planar 4 4).center ⟨5, by decide⟩)) := by
  have hbox : (box (Vec3.splat 1) Vec3.zero : Shape Exact).IsFinite := ⟨rfl, rfl⟩
  refine ⟨isDistanceField_and_abs_liquid_sub_le.1 _ _ hbox,
    isDistanceField_and_abs_liquid_sub_le.2 _ (Dims.planar 4 4) ?_ _ _⟩
  exact List.forall_mem_singleton.mpr hbox

end Scene

end FreeSurface

import Mathlib.Analysis.Convex.Combination
import FreeSurface.Field.Front
import FreeSurface.Field.Staggered
import FreeSurface.Proofs.Field.Basic
import FreeSurface.Proofs.Number.Exact

/-!
# Interpolated values

A blend of the values of a field lies where they lie: if the values on all nodes belong to a convex
set of numbers, so does what is sampled at any finite point (`Field.interpolate_mem`), and so does
their mean (`Front.in_of_mean?`).  For the set of all numbers this says that sampling finite values
gives a finite one, for a single number that a constant is sampled exactly.
-/

namespace FreeSurface

open Exact
open scoped Literals

/-- The value is a number of the set. -/
def Exact.In (s : Set ℝ) (a : Exact) : Prop := ∃ x ∈ s, a = real x

namespace Exact

lemma in_univ {a : Exact} : a.In Set.univ ↔ Scalar.isFinite a = true := by
  rw [isFinite_iff]
  simp only [In, Set.mem_univ, true_and]

lemma in_singleton {a : Exact} {x : ℝ} : a.In {x} ↔ a = real x := by
  simp only [In, Set.mem_singleton_iff, exists_eq_left]

end Exact

/-! ## Means -/

namespace Front

/-- The mean of numbers. -/
lemma mean?_eq {values : List Exact} {a : Exact}
    (hvalues : ∀ b ∈ values, Scalar.isFinite b = true) (h : mean? values = some a) :
    a = real ((values.map toReal).sum / values.length) := by
  rw [mean?] at h
  split_ifs at h with hempty
  have hlength : (values.length : ℝ) ≠ 0 := by simpa using hempty
  have hsum : values.foldl (· + ·) (real 0) = real (0 + (values.map toReal).sum) :=
    foldl_add values id 0 hvalues
  rw [← Option.some.inj h, literal, Nat.cast_zero, hsum, scalar_ofNat, real_div_real hlength,
    zero_add]

/-- The mean of numbers of a convex set. -/
lemma in_of_mean? {s : Set ℝ} (hs : Convex ℝ s) {values : List Exact}
    (hvalues : ∀ b ∈ values, b.In s) {x : Exact} (h : mean? values = some x) : x.In s := by
  have hfinite : ∀ b ∈ values, Scalar.isFinite b = true := by
    intro b hb
    obtain ⟨y, -, rfl⟩ := hvalues b hb
    rfl
  have hlength : (values.length : ℝ) ≠ 0 := by
    rintro hzero
    rw [mean?, List.length_eq_zero_iff.mp (Nat.cast_eq_zero.mp hzero)] at h
    cases h
  refine ⟨_, ?_, mean?_eq hfinite h⟩
  have hmean : (values.map toReal).sum / values.length =
      ∑ i : Fin values.length, (values.length : ℝ)⁻¹ • toReal values[i] := by
    rw [← Finset.smul_sum, smul_eq_mul, div_eq_inv_mul, ← Fin.sum_univ_fun_getElem]
    rfl
  rw [hmean]
  refine hs.sum_mem (fun _ _ => inv_nonneg.mpr (Nat.cast_nonneg _)) ?_ fun i _ => ?_
  · rw [Finset.sum_const, Finset.card_univ, Fintype.card_fin, nsmul_eq_mul, mul_inv_cancel₀ hlength]
  · obtain ⟨y, hy, heq⟩ := hvalues values[i] (List.getElem_mem _)
    rwa [heq]

end Front

/-! ## Blends -/

namespace Field

variable {L : Lattice} {s : Set ℝ}

lemma blend_real (x y t : ℝ) : blend (real x) (real y) (real t) = real (x * (1 - t) + y * t) := by
  simp only [blend, literal, Nat.cast_one, real_sub_real, real_mul_real, real_add_real]

/-- The blend of two numbers of a convex set. -/
lemma blend_mem (hs : Convex ℝ s) {a b t : Exact} (ha : a.In s) (hb : b.In s)
    (ht : t.In (Set.Icc 0 1)) : (blend a b t).In s := by
  obtain ⟨x, hx, rfl⟩ := ha
  obtain ⟨y, hy, rfl⟩ := hb
  obtain ⟨z, ⟨hlo, hhi⟩, rfl⟩ := ht
  refine ⟨x * (1 - z) + y * z, ?_, blend_real x y z⟩
  have h := hs hx hy (sub_nonneg.mpr hhi) hlo (sub_add_cancel 1 z)
  simpa only [smul_eq_mul, mul_comm] using h

lemma onSide_eq (n : ℕ) (x : ℝ) :
    onSide n (real x) = real (min (max x 0) ((n - 1 : ℕ) : ℝ)) := by
  rw [onSide, literal, scalar_ofNat, Nat.cast_zero, clamp_real (Nat.cast_nonneg _)]

/-- A point of finite coordinates lies a proper fraction of the way between two nodes. -/
lemma bracket_t_mem {n : ℕ} (hn : 0 < n) {x : Exact} (hx : Scalar.isFinite x = true) :
    (bracket n hn x).t.In (Set.Icc 0 1) := by
  obtain ⟨y, rfl⟩ := isFinite_iff.mp hx
  rw [bracket]
  simp only [onSide_eq, scalar_ofNat, real_sub_real, literal, Nat.cast_zero, Nat.cast_one]
  rw [clamp_real zero_le_one]
  exact ⟨_, ⟨le_min (le_max_right _ _) zero_le_one, min_le_right _ _⟩, rfl⟩

/-- **Interpolated values lie where the values of the field lie.** -/
theorem interpolate_mem (hs : Convex ℝ s) {v : Field L Exact} (hv : ∀ n, (v.get n).In s)
    {p : Vec3 Exact} (hp : p.isFinite = true) : (interpolate v p).In s := by
  simp only [Vec3.isFinite, Bool.and_eq_true] at hp
  obtain ⟨⟨hx, hy⟩, hz⟩ := hp
  have row : ∀ j k, (blend (v.get (L.nodeOf (bracket L.nx L.nx_pos p.x).lo j k))
      (v.get (L.nodeOf (bracket L.nx L.nx_pos p.x).hi j k))
      (bracket L.nx L.nx_pos p.x).t).In s :=
    fun j k => blend_mem hs (hv _) (hv _) (bracket_t_mem _ hx)
  exact blend_mem hs
    (blend_mem hs (row _ _) (row _ _) (bracket_t_mem _ hy))
    (blend_mem hs (row _ _) (row _ _) (bracket_t_mem _ hy)) (bracket_t_mem _ hz)

end Field

/-! ## Points -/

lemma Vec3.isFinite_iff {p : Vec3 Exact} :
    p.isFinite = true ↔ ∃ x y z, p = ⟨real x, real y, real z⟩ := by
  obtain ⟨x, y, z⟩ := p
  simp only [Vec3.isFinite, Bool.and_eq_true, Exact.isFinite_iff, Vec3.mk.injEq]
  constructor
  · rintro ⟨⟨⟨x, rfl⟩, y, rfl⟩, z, rfl⟩
    exact ⟨x, y, z, rfl, rfl, rfl⟩
  · rintro ⟨x, y, z, rfl, rfl, rfl⟩
    exact ⟨⟨⟨x, rfl⟩, y, rfl⟩, z, rfl⟩

lemma Vec3.isFinite_get {p : Vec3 Exact} (hp : p.isFinite = true) (a : Axis) :
    Scalar.isFinite (p.get a) = true := by
  obtain ⟨x, y, z, rfl⟩ := isFinite_iff.mp hp
  cases a <;> rfl

lemma Vec3.isFinite_sub {p q : Vec3 Exact} (hp : p.isFinite = true) (hq : q.isFinite = true) :
    (p - q).isFinite = true := by
  obtain ⟨x, y, z, rfl⟩ := isFinite_iff.mp hp
  obtain ⟨x', y', z', rfl⟩ := isFinite_iff.mp hq
  exact isFinite_iff.mpr ⟨x - x', y - y', z - z', by
    show (⟨real x - real x', real y - real y', real z - real z'⟩ : Vec3 Exact) = _
    simp only [real_sub_real]⟩

lemma Vec3.isFinite_add {p q : Vec3 Exact} (hp : p.isFinite = true) (hq : q.isFinite = true) :
    (p + q).isFinite = true := by
  obtain ⟨x, y, z, rfl⟩ := isFinite_iff.mp hp
  obtain ⟨x', y', z', rfl⟩ := isFinite_iff.mp hq
  rfl

lemma Vec3.isFinite_scale {p : Vec3 Exact} (hp : p.isFinite = true) {s : Exact}
    (hs : Scalar.isFinite s = true) : (p * s).isFinite = true := by
  obtain ⟨x, y, z, rfl⟩ := isFinite_iff.mp hp
  obtain ⟨t, rfl⟩ := Exact.isFinite_iff.mp hs
  rfl

lemma Vec3.isFinite_splat_half : (Vec3.splat (Scalar.half : Exact)).isFinite = true := by
  rw [half_eq]
  rfl

lemma Dims.isFinite_center (d : Dims) (c : d.Cell) : (d.center c : Vec3 Exact).isFinite = true := by
  rw [Dims.center, Dims.centerAt, half_eq]
  rfl

/-- What is moved away from the walls is finite, as the walls are. -/
lemma Dims.isFinite_clampPosition (d : Dims) {p : Vec3 Exact} (hp : p.isFinite = true)
    {inset : Exact} (hinset : Scalar.isFinite inset = true) :
    (d.clampPosition p inset).isFinite = true := by
  obtain ⟨x, y, z, rfl⟩ := Vec3.isFinite_iff.mp hp
  obtain ⟨i, rfl⟩ := Exact.isFinite_iff.mp hinset
  have halong : ∀ (x : ℝ) (side : ℕ),
      Scalar.isFinite (Scalar.clamp (real x) (insetRange (Scalar.ofNat side) (real i)).1
        (insetRange (Scalar.ofNat side) (real i)).2) = true := by
    intro x side
    simp only [insetRange, half_eq, scalar_ofNat, real_mul_real, real_sub_real, min_real, max_real]
    rw [clamp_real (le_max_right _ _)]
    rfl
  rw [clampPosition]
  simp only [Vec3.isFinite, Bool.and_eq_true]
  refine ⟨⟨halong x _, halong y _⟩, ?_⟩
  split_ifs
  · rw [half_eq]
    rfl
  · exact halong z _

lemma Dims.isFinite_faceOffset (a : Axis) : (Dims.faceOffset a : Vec3 Exact).isFinite = true := by
  cases a <;> simp only [Dims.faceOffset, half_eq] <;> rfl

lemma Dims.isFinite_facePosition (d : Dims) (a : Axis) (f : d.Face a) :
    (d.facePosition a f : Vec3 Exact).isFinite = true := by
  rw [Dims.facePosition, Dims.facePositionAt, Dims.cornerAt]
  cases a <;> simp only [Dims.faceOffset, half_eq] <;> rfl

/-! ## Samples -/

variable {d : Dims} {s : Set ℝ}

lemma ScalarField.sample_mem (hs : Convex ℝ s) {v : ScalarField d Exact}
    (hv : ∀ c, (v.get c).In s) {p : Vec3 Exact} (hp : p.isFinite = true) :
    (ScalarField.sample v p).In s :=
  Field.interpolate_mem hs hv (Vec3.isFinite_sub hp Vec3.isFinite_splat_half)

lemma Staggered.sampleComponent_mem (hs : Convex ℝ s) {v : Staggered d Exact} {a : Axis}
    (hv : ∀ f, ((v.component a).get f).In s) {p : Vec3 Exact} (hp : p.isFinite = true) :
    (v.sampleComponent a p).In s :=
  Field.interpolate_mem hs hv (Vec3.isFinite_sub hp (Dims.isFinite_faceOffset a))

end FreeSurface

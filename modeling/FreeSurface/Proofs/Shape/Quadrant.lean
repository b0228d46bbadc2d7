import Mathlib.Algebra.BigOperators.Field
import Mathlib.Analysis.Real.Sqrt
import Mathlib.Tactic.NormNum

/-!
# The distance from a quadrant

The points without a positive entry make up a quadrant.  Outside of it a point is as far from it as
its positive entries are long; inside, its greatest entry says how far it is to the border
(`Quadrant.distance`).  Both are greatest values: no direction with entries of one sign leads
farther out, and one leads exactly that far (`Quadrant.isGreatest_distance`).  So the distance
changes by no more than the point does (`Quadrant.abs_distance_sub_le`).
-/

namespace FreeSurface

namespace Quadrant

variable {ι : Type} [Fintype ι] [Nonempty ι] {q q' w : ι → ℝ}

/-- The greatest entry of a point. -/
noncomputable def greatest (q : ι → ℝ) : ℝ := Finset.univ.sup' Finset.univ_nonempty q

/-- The length of the positive entries of a point. -/
noncomputable def excess (q : ι → ℝ) : ℝ := √(∑ a, max (q a) 0 ^ 2)

/-- The signed distance of a point from the quadrant, negative inside. -/
noncomputable def distance (q : ι → ℝ) : ℝ := excess q + min (greatest q) 0

omit [Fintype ι] [Nonempty ι] in
lemma max_mul_self (x : ℝ) : max x 0 * x = max x 0 ^ 2 := by
  rcases le_total x 0 with h | h
  · rw [max_eq_right h, zero_mul, zero_pow two_ne_zero]
  · rw [max_eq_left h, sq]

lemma le_greatest (q : ι → ℝ) (a : ι) : q a ≤ greatest q := Finset.le_sup' q (Finset.mem_univ a)

lemma greatest_le_iff {c : ℝ} : greatest q ≤ c ↔ ∀ a, q a ≤ c := by
  simp [greatest]

lemma exists_eq_greatest (q : ι → ℝ) : ∃ a, q a = greatest q := by
  obtain ⟨a, -, ha⟩ := Finset.exists_mem_eq_sup' Finset.univ_nonempty q
  exact ⟨a, ha.symm⟩

omit [Nonempty ι] in
lemma le_excess (q : ι → ℝ) (a : ι) : q a ≤ excess q := by
  refine (le_max_left (q a) 0).trans (Real.le_sqrt_of_sq_le ?_)
  exact Finset.single_le_sum (f := fun a => max (q a) 0 ^ 2) (fun _ _ => sq_nonneg _)
    (Finset.mem_univ a)

omit [Nonempty ι] in
lemma excess_of_nonpos (h : ∀ a, q a ≤ 0) : excess q = 0 := by
  simp [excess, fun a => max_eq_right (h a)]

/-- Inside the quadrant the greatest entry tells the distance. -/
lemma distance_of_nonpos (h : ∀ a, q a ≤ 0) : distance q = greatest q := by
  obtain ⟨a, ha⟩ := exists_eq_greatest q
  rw [distance, excess_of_nonpos h, zero_add, min_eq_left (ha ▸ h a)]

/-- Outside of it the positive entries tell the distance. -/
lemma distance_of_pos {a : ι} (h : 0 < q a) : distance q = excess q := by
  rw [distance, min_eq_right (h.le.trans (le_greatest q a)), add_zero]

lemma distance_pos {a : ι} (h : 0 < q a) : 0 < distance q :=
  distance_of_pos h ▸ h.trans_le (le_excess q a)

lemma distance_nonpos_iff : distance q ≤ 0 ↔ ∀ a, q a ≤ 0 := by
  constructor
  · intro h a
    exact not_lt.mp fun ha => (distance_pos ha).not_ge h
  · intro h
    obtain ⟨a, ha⟩ := exists_eq_greatest q
    rw [distance_of_nonpos h, ← ha]
    exact h a

lemma distance_neg_iff : distance q < 0 ↔ ∀ a, q a < 0 := by
  constructor
  · intro h a
    have hle := distance_nonpos_iff.mp h.le
    rw [distance_of_nonpos hle] at h
    exact (le_greatest q a).trans_lt h
  · intro h
    obtain ⟨a, ha⟩ := exists_eq_greatest q
    rw [distance_of_nonpos fun a => (h a).le, ← ha]
    exact h a

/-! ## Directions -/

/-- A direction of length one without negative entries. -/
structure IsOutward (w : ι → ℝ) : Prop where
  nonneg : ∀ a, 0 ≤ w a
  unit : ∑ a, w a ^ 2 = 1

omit [Nonempty ι] in
lemma IsOutward.one_le_sum (hw : IsOutward w) : 1 ≤ ∑ a, w a := by
  rw [← hw.unit]
  refine Finset.sum_le_sum fun a _ => ?_
  have hle : w a ^ 2 ≤ 1 := hw.unit ▸
    Finset.single_le_sum (f := fun a => w a ^ 2) (fun _ _ => sq_nonneg _) (Finset.mem_univ a)
  exact pow_le_of_le_one (hw.nonneg a) ((sq_le_one_iff₀ (hw.nonneg a)).mp hle) two_ne_zero

omit [Nonempty ι] in
/-- Along a direction of length one a point goes no farther than it is long. -/
lemma IsOutward.sum_mul_le (hw : IsOutward w) (q : ι → ℝ) : ∑ a, w a * q a ≤ √(∑ a, q a ^ 2) := by
  have h := Real.sum_mul_le_sqrt_mul_sqrt Finset.univ w q
  rwa [hw.unit, Real.sqrt_one, one_mul] at h

/-- No outward direction leads farther out than the distance. -/
lemma IsOutward.sum_mul_le_distance (hw : IsOutward w) (q : ι → ℝ) :
    ∑ a, w a * q a ≤ distance q := by
  by_cases h : ∀ a, q a ≤ 0
  · obtain ⟨b, hb⟩ := exists_eq_greatest q
    have hneg : greatest q ≤ 0 := hb ▸ h b
    rw [distance_of_nonpos h]
    calc ∑ a, w a * q a ≤ ∑ a, w a * greatest q :=
          Finset.sum_le_sum fun a _ => mul_le_mul_of_nonneg_left (le_greatest q a) (hw.nonneg a)
      _ = (∑ a, w a) * greatest q := (Finset.sum_mul _ _ _).symm
      _ ≤ 1 * greatest q := mul_le_mul_of_nonpos_right hw.one_le_sum hneg
      _ = greatest q := one_mul _
  · push Not at h
    obtain ⟨b, hb⟩ := h
    rw [distance_of_pos hb]
    calc ∑ a, w a * q a ≤ ∑ a, w a * max (q a) 0 :=
          Finset.sum_le_sum fun a _ => mul_le_mul_of_nonneg_left (le_max_left _ _) (hw.nonneg a)
      _ ≤ excess q := hw.sum_mul_le _

/-- Some outward direction leads as far out as the distance. -/
lemma exists_isOutward (q : ι → ℝ) : ∃ w, IsOutward w ∧ ∑ a, w a * q a = distance q := by
  classical
  by_cases h : ∀ a, q a ≤ 0
  · obtain ⟨b, hb⟩ := exists_eq_greatest q
    refine ⟨Pi.single b 1, ⟨fun a => ?_, ?_⟩, ?_⟩
    · rw [Pi.single_apply]
      split_ifs <;> norm_num
    · simp [Pi.single_apply]
    · simp [Pi.single_apply, distance_of_nonpos h, hb]
  · push Not at h
    obtain ⟨b, hb⟩ := h
    have hpos : 0 < excess q := hb.trans_le (le_excess q b)
    have hsq : ∑ a, max (q a) 0 ^ 2 = excess q ^ 2 :=
      (Real.sq_sqrt (Finset.sum_nonneg fun _ _ => sq_nonneg _)).symm
    refine ⟨fun a => max (q a) 0 / excess q, ⟨fun a => ?_, ?_⟩, ?_⟩
    · exact div_nonneg (le_max_right _ _) hpos.le
    · simp only [div_pow]
      rw [← Finset.sum_div, hsq, div_self (pow_pos hpos 2).ne']
    · simp only [div_mul_eq_mul_div, max_mul_self]
      rw [← Finset.sum_div, hsq, distance_of_pos hb, sq, mul_div_cancel_right₀ _ hpos.ne']

/-- **The distance is the farthest that outward directions lead.** -/
theorem isGreatest_distance (q : ι → ℝ) :
    IsGreatest {x | ∃ w, IsOutward w ∧ ∑ a, w a * q a = x} (distance q) := by
  refine ⟨exists_isOutward q, ?_⟩
  rintro x ⟨w, hw, rfl⟩
  exact hw.sum_mul_le_distance q

lemma distance_sub_le (q q' : ι → ℝ) : distance q - distance q' ≤ √(∑ a, (q a - q' a) ^ 2) := by
  obtain ⟨w, hw, hq⟩ := (isGreatest_distance q).1
  have hq' : ∑ a, w a * q' a ≤ distance q' := (isGreatest_distance q').2 ⟨w, hw, rfl⟩
  calc distance q - distance q' ≤ ∑ a, w a * q a - ∑ a, w a * q' a := by
        rw [hq]
        exact sub_le_sub_left hq' _
    _ = ∑ a, w a * (q a - q' a) := by simp only [mul_sub, Finset.sum_sub_distrib]
    _ ≤ √(∑ a, (q a - q' a) ^ 2) := hw.sum_mul_le _

/-- **The distance changes by no more than the point does.** -/
theorem abs_distance_sub_le (q q' : ι → ℝ) :
    |distance q - distance q'| ≤ √(∑ a, (q a - q' a) ^ 2) := by
  refine abs_sub_le_iff.mpr ⟨distance_sub_le q q', ?_⟩
  simpa only [sub_sq_comm] using distance_sub_le q' q

end Quadrant

end FreeSurface

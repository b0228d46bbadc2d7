import Mathlib.Tactic.Ring
import FreeSurface.Proofs.Field.Interpolation
import FreeSurface.Proofs.Lattice.Positions
import FreeSurface.Transfer.Kernel

/-!
# Kernels on numbers

The two kernels in exact arithmetic: a product of tents (`Kernel.hats`) and a bump of the distance
(`Kernel.bump`).  Between any two points both are numbers that are not negative
(`Kernel.weight_of_isFinite`).  Where a kernel is positive, the points are less than its support
apart along every axis that counts (`Kernel.near_of_weight_pos`).
-/

namespace FreeSurface

open Exact
open scoped Literals

namespace Kernel

/-! ## The kernel of tents -/

/-- The tent of height one over `[-1, 1]`. -/
noncomputable def hat (x : ℝ) : ℝ := max (1 - |x|) 0

lemma tent_real (x : ℝ) : tent (real x) = real (hat x) := by
  simp [tent, hat]

lemma hat_nonneg (x : ℝ) : 0 ≤ hat x := le_max_right _ _

lemma hat_of_one_le {x : ℝ} (h : 1 ≤ |x|) : hat x = 0 :=
  max_eq_right (by linarith)

lemma abs_lt_one_of_hat_ne_zero {x : ℝ} (h : hat x ≠ 0) : |x| < 1 :=
  not_le.mp (mt hat_of_one_le h)

lemma hat_of_abs_le_one {x : ℝ} (h : |x| ≤ 1) : hat x = 1 - |x| :=
  max_eq_left (by linarith)

lemma hat_zero : hat 0 = 1 := by
  rw [hat_of_abs_le_one (by simp), abs_zero, sub_zero]

/-- The tent around a node does not reach another node. -/
lemma hat_sub_of_ne {i j : ℕ} (h : i ≠ j) : hat ((i : ℝ) - j) = 0 := by
  have hone : (1 : ℤ) ≤ |(i : ℤ) - j| := Int.one_le_abs (sub_ne_zero.mpr (mod_cast h))
  exact hat_of_one_le (mod_cast hone)

/-- The weight of an offset under the tents along the axes of motion. -/
noncomputable def hats (planar : Bool) (x y z : ℝ) : ℝ :=
  hat x * hat y * if planar then 1 else hat z

lemma dLinearWeight_real (planar : Bool) (x y z : ℝ) :
    dLinearWeight ⟨real x, real y, real z⟩ planar = real (hats planar x y z) := by
  simp only [dLinearWeight, tent_real, literal, Nat.cast_one, hats]
  cases planar <;> rfl

/-! ## The smooth kernel -/

/-- The square of the distance that counts. -/
def distanceSquared (planar : Bool) (x y z : ℝ) : ℝ :=
  x * x + y * y + if planar then 0 else z * z

/-- The weight of an offset under the bump of radius two. -/
noncomputable def bump (planar : Bool) (x y z : ℝ) : ℝ :=
  if 4 ≤ distanceSquared planar x y z then 0 else (1 - distanceSquared planar x y z / 4) ^ 3

lemma smoothWeight_real (planar : Bool) (x y z : ℝ) :
    smoothWeight ⟨real x, real y, real z⟩ planar = real (bump planar x y z) := by
  have hsquare : (if planar then (⟨real x, real y, 0⟩ : Vec3 Exact)
      else ⟨real x, real y, real z⟩).lengthSquared = real (distanceSquared planar x y z) := by
    cases planar <;> simp [Vec3.lengthSquared, Vec3.dot, distanceSquared]
  simp only [smoothWeight]
  rw [hsquare]
  simp only [literal, scalar_ofDecimal, Nat.cast_ofNat, Nat.cast_one, Nat.cast_zero, real_le_real,
    real_mul_real, real_sub_real, bump]
  split_ifs
  · rfl
  · refine congrArg real ?_
    ring

/-! ## Either kernel -/

/-- Between points the weight is a number, and not a negative one. -/
lemma weight_of_isFinite (kernel : Kernel) {delta : Vec3 Exact} (h : delta.isFinite = true)
    (planar : Bool) : ∃ w, 0 ≤ w ∧ kernel.weight delta planar = real w := by
  obtain ⟨x, y, z, rfl⟩ := Vec3.isFinite_iff.mp h
  cases kernel with
  | dLinear =>
      refine ⟨_, ?_, dLinearWeight_real planar x y z⟩
      refine mul_nonneg (mul_nonneg (hat_nonneg x) (hat_nonneg y)) ?_
      split_ifs
      · exact zero_le_one
      · exact hat_nonneg z
  | smooth =>
      refine ⟨_, ?_, smoothWeight_real planar x y z⟩
      rw [bump]
      split_ifs with hfar
      · exact le_rfl
      · exact pow_nonneg (by linarith) 3

lemma support_pos (kernel : Kernel) : 0 < kernel.support := by
  cases kernel <;> decide

/-- **Weight is confined to the support**, along every axis that counts. -/
lemma near_of_weight_pos {kernel : Kernel} {planar : Bool} {x y z : ℝ}
    (h : real 0 < kernel.weight ⟨real x, real y, real z⟩ planar) :
    |x| < kernel.support ∧ |y| < kernel.support ∧ (planar = false → |z| < kernel.support) := by
  cases kernel with
  | dLinear =>
      rw [weight, dLinearWeight_real, real_lt_real, hats] at h
      obtain ⟨hxy, hz⟩ := mul_ne_zero_iff.mp h.ne'
      obtain ⟨hx, hy⟩ := mul_ne_zero_iff.mp hxy
      rw [support, Nat.cast_one]
      refine ⟨abs_lt_one_of_hat_ne_zero hx, abs_lt_one_of_hat_ne_zero hy, ?_⟩
      rintro rfl
      exact abs_lt_one_of_hat_ne_zero hz
  | smooth =>
      rw [weight, smoothWeight_real, real_lt_real, bump] at h
      split_ifs at h with hfar
      · exact absurd h (lt_irrefl 0)
      · have hnear := not_le.mp hfar
        rw [distanceSquared] at hnear
        rw [support, Nat.cast_ofNat]
        refine ⟨abs_lt_of_sq_lt_sq ?_ zero_le_two, abs_lt_of_sq_lt_sq ?_ zero_le_two, ?_⟩
        · split_ifs at hnear <;> nlinarith [mul_self_nonneg y, mul_self_nonneg z]
        · split_ifs at hnear <;> nlinarith [mul_self_nonneg x, mul_self_nonneg z]
        · rintro rfl
          refine abs_lt_of_sq_lt_sq ?_ zero_le_two
          rw [if_neg Bool.false_ne_true] at hnear
          nlinarith [mul_self_nonneg x, mul_self_nonneg y]

end Kernel

end FreeSurface

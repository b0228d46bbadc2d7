import FreeSurface.Proofs.Number.Bounds
import FreeSurface.Proofs.Surface.Distance

/-!
# Distances on machine numbers

Half of the smallest machine number is rounded to zero, so a distance that is merely positive need
not stay so.  The distances of reinitialization stay away from zero by far more than rounding can
take: a crossing is at least a thousandth of the way to a neighbour, so no estimate at the surface
is below `2 ^ (-13)` (`Surface.isDistance_interfaceDistance_single`), and the local solver does not
go below that either (`Surface.isDistance_solveEikonal_single`).
-/

namespace FreeSurface

open Float.Model Float.Model.UnpackedFloat
open scoped Literals

namespace Single

variable {x y : Float32} {c : ℝ} {j : ℤ}

/-- Infinity, or a machine number that is not small. -/
def IsDistance (x : Float32) : Prop := AtLeast (size 1 (-13)) (value x)

lemma size_one (e : ℤ) : size 1 e = 2 ^ e := by rw [size_eq, Nat.cast_one, one_mul]

lemma isDistance_infinity : IsDistance Scalar.infinity := .infinity

lemma IsDistance.isNaN (h : IsDistance x) : Scalar.isNaN x = false := AtLeast.isNaN h

lemma IsDistance.pos (h : IsDistance x) : 0 < x := AtLeast.pos h (size_pos Nat.one_pos _)

lemma inFormat_two_pow (hj : -126 ≤ j) : InFormat (2 ^ j) := by
  refine ⟨2 ^ 23, j - 23, ⟨by norm_num, by omega, .inr le_rfl⟩, ?_⟩
  rw [size_two_pow]
  congr 1
  push_cast
  omega

lemma AtLeast.min (hx : AtLeast c (value x)) (hy : AtLeast c (value y)) :
    AtLeast c (value (Scalar.min x y)) := by
  rw [Scalar.min]
  split_ifs
  · exact hy
  · exact hy
  · exact hx

lemma AtMost.mono {d : ℝ} {u : UnpackedFloat} (h : AtMost c u) (hle : c ≤ d) : AtMost d u := by
  cases h with
  | zero h => exact .zero (h.trans hle)
  | finite hm hcanonical h => exact .finite hm hcanonical (h.trans hle)

/-! ## Small whole numbers -/

lemma value_ofNat_one :
    value (Scalar.ofNat 1) = .finite .positive (2 ^ 23) (-23) (by decide) := rfl

lemma value_ofNat_two :
    value (Scalar.ofNat 2) = .finite .positive (2 ^ 23) (-22) (by decide) := rfl

lemma value_ofNat_three :
    value (Scalar.ofNat 3) = .finite .positive (3 * 2 ^ 22) (-22) (by decide) := rfl

lemma atMost_one : AtMost 1 (value (Scalar.ofNat 1)) := by
  rw [value_ofNat_one]
  exact .finite _ ⟨by norm_num, by norm_num, .inr le_rfl⟩ (by rw [size_eq]; norm_num)

lemma atMost_two : AtMost 2 (value (Scalar.ofNat 2)) := by
  rw [value_ofNat_two]
  exact .finite _ ⟨by norm_num, by norm_num, .inr le_rfl⟩ (by rw [size_eq]; norm_num)

lemma atMost_three : AtMost 3 (value (Scalar.ofNat 3)) := by
  rw [value_ofNat_three]
  exact .finite _ ⟨by norm_num, by norm_num, .inr (by norm_num)⟩ (by rw [size_eq]; norm_num)

lemma atLeast_one : AtLeast 1 (value (Scalar.ofNat 1)) :=
  atLeast_ofNat inFormat_one (by norm_num)

end Single

namespace Surface

open Single

variable {d : Dims} {phi : ScalarField d Float32} {active : d.Cell → Bool} {c : d.Cell}

/-! ## At the surface -/

lemma atLeast_minInterfaceFraction :
    AtLeast (2 ^ (-10 : ℤ)) (value (minInterfaceFraction : Float32)) := by
  have hvalue : value (minInterfaceFraction : Float32) =
      .finite .positive 8589935 (-33) (by decide) := rfl
  rw [hvalue]
  exact .finite _ ⟨by norm_num, by norm_num, .inr (by norm_num)⟩ (by rw [size_eq]; norm_num)

lemma atLeast_crossingFraction (phi : ScalarField d Float32) (active : d.Cell → Bool)
    (c : d.Cell) (a : Axis) :
    AtLeast (2 ^ (-10 : ℤ)) (value (crossingFraction phi active c a)) := by
  rw [crossingFraction]
  refine List.foldlRecOn _ _ (motive := fun theta => AtLeast (2 ^ (-10 : ℤ)) (value theta))
    .infinity fun theta htheta n _ => ?_
  split_ifs
  · refine htheta.min (atLeast_minInterfaceFraction.trans_le (Scalar.le_max_right ?_))
    exact atLeast_minInterfaceFraction.isNaN
  · exact htheta

/-- Three inverse squares of fractions are not large. -/
lemma atMost_foldl_inverse_squares {fractions : List Float32}
    (h : ∀ t ∈ fractions, AtLeast (2 ^ (-10 : ℤ)) (value t)) {j : ℤ} (hlo : 22 ≤ j)
    (hhi : j + fractions.length ≤ 127) {sum : Float32} (hsum : AtMost (2 ^ j) (value sum)) :
    AtMost (2 ^ (j + fractions.length))
      (value (fractions.foldl (fun sum t => sum + 1 / (t * t)) sum)) := by
  induction fractions generalizing j sum with
  | nil =>
      rw [List.length_nil, Nat.cast_zero, add_zero]
      exact hsum
  | cons t fractions ih =>
      obtain ⟨ht, h⟩ := List.forall_mem_cons.mp h
      rw [List.length_cons, Nat.cast_succ] at hhi ⊢
      have hsquare : AtLeast (2 ^ (-20 : ℤ)) (value (t * t)) :=
        ht.mul ht (by positivity) (by positivity) (inFormat_two_pow (by norm_num)) (by norm_num)
      have hinverse : AtMost (2 ^ (21 : ℤ)) (value (1 / (t * t))) :=
        atMost_one.div hsquare (by positivity) (by norm_num) (by norm_num) (by norm_num)
      have hlt : (2 : ℝ) ^ j + 2 ^ (21 : ℤ) < 2 ^ (j + 1) := by
        have hless : (2 : ℝ) ^ (21 : ℤ) < 2 ^ j := zpow_lt_zpow_right₀ one_lt_two (by omega)
        rw [zpow_add₀ two_ne_zero, zpow_one]
        linarith
      have hnext := hsum.add hinverse hlt (by omega) (by omega)
      rw [← add_assoc, add_right_comm]
      exact ih h (by omega) (by omega) hnext

theorem isDistance_interfaceDistance_single {s : Float32}
    (h : interfaceDistance? phi active c = some s) : IsDistance s := by
  rw [interfaceDistance?, ← crossings] at h
  simp only [List.isEmpty_iff] at h
  split_ifs at h
  rw [← Option.some.inj h]
  have hfractions : ∀ t ∈ crossings phi active c, AtLeast (2 ^ (-10 : ℤ)) (value t) := by
    intro t ht
    obtain ⟨a, -, rfl⟩ := List.mem_map.mp (List.mem_filter.mp ht).1
    exact atLeast_crossingFraction phi active c a
  have hlength : (crossings phi active c).length ≤ 3 := List.length_filter_le _ _
  have hzero : AtMost (2 ^ (22 : ℤ)) (value (Scalar.ofNat 0)) := .zero (by positivity)
  have hsum := (atMost_foldl_inverse_squares hfractions le_rfl (by omega) hzero).mono
    (zpow_le_zpow_right₀ one_le_two (by omega : (22 : ℤ) + (crossings phi active c).length ≤ 25))
  have hroot : AtMost (2 ^ (13 : ℤ)) (value (Scalar.sqrt ((crossings phi active c).foldl
      (fun sum t => sum + 1 / (t * t)) 0))) :=
    hsum.sqrt (by norm_num) (by norm_num) (by norm_num)
  refine (atLeast_one.div hroot one_pos (inFormat_two_pow (j := -13) (by norm_num)) ?_).mono ?_
  · norm_num
  · rw [size_one]

/-! ## Away from it -/

/-- The update ends in one of three forms. -/
lemma solveEikonal_of_forms {S : Type} [Scalar S] {P : S → Prop} {x y z a b c : S}
    (hsorted : sortThree x y z = (a, b, c)) (hone : P (a + 1))
    (htwo : ∀ s, 0 ≤ s → P ((a + b + Scalar.sqrt s) / 2))
    (hthree : ∀ s, 0 ≤ s → P ((a + b + c + Scalar.sqrt s) / 3)) : P (solveEikonal x y z) := by
  rw [solveEikonal, hsorted]
  simp only
  split_ifs <;> first | exact hone | exact htwo _ ‹_› | exact hthree _ ‹_›

lemma exists_sorted {x y z : Float32} (hx : IsDistance x) (hy : IsDistance y) (hz : IsDistance z) :
    ∃ a b c, sortThree x y z = (a, b, c) ∧ IsDistance a ∧ IsDistance b ∧ IsDistance c := by
  have hall : ∀ a ∈ [x, y, z], IsDistance a := by
    simp only [List.forall_mem_cons, List.not_mem_nil, false_implies, implies_true, and_true]
    exact ⟨hx, hy, hz⟩
  simp only [← (sortThree_perm x y z).mem_iff, List.forall_mem_cons, List.not_mem_nil,
    false_implies, implies_true, and_true] at hall
  exact ⟨_, _, _, rfl, hall⟩

/-- Sums of distances are multiples of the bound, and a root adds nothing negative. -/
theorem isDistance_solveEikonal_single {x y z : Float32} (hx : IsDistance x) (hy : IsDistance y)
    (hz : IsDistance z) : IsDistance (solveEikonal x y z) := by
  obtain ⟨a, b, c, hsorted, ha, hb, hc⟩ := exists_sorted hx hy hz
  simp only [IsDistance, size_one] at ha hb hc ⊢
  have hbound : InFormat (2 ^ (-13 : ℤ)) := inFormat_two_pow (by norm_num)
  have htwice : InFormat (2 ^ (-12 : ℤ)) := inFormat_two_pow (by norm_num)
  have hthrice : InFormat (3 * 2 ^ (-13 : ℤ)) :=
    ⟨3 * 2 ^ 22, -35, ⟨by norm_num, by norm_num, .inr (by norm_num)⟩, by rw [size_eq]; norm_num⟩
  have hsum : AtLeast (2 ^ (-12 : ℤ)) (value (a + b)) := ha.add hb htwice (by norm_num)
  have hsums : AtLeast (3 * 2 ^ (-13 : ℤ)) (value (a + b + c)) := hsum.add hc hthrice (by norm_num)
  refine solveEikonal_of_forms (P := fun s => AtLeast (2 ^ (-13 : ℤ)) (value s)) hsorted ?_
    (fun s hs => ?_) (fun s hs => ?_)
  · exact ha.add atLeast_one hbound (by norm_num)
  · have hroot := (atLeast_zero_of_le hs).sqrt
    have htotal : AtLeast (2 ^ (-12 : ℤ)) (value (a + b + Scalar.sqrt s)) :=
      hsum.add hroot htwice (by norm_num)
    exact htotal.div atMost_two (by positivity) hbound (by norm_num)
  · have hroot := (atLeast_zero_of_le hs).sqrt
    have htotal : AtLeast (3 * 2 ^ (-13 : ℤ)) (value (a + b + c + Scalar.sqrt s)) :=
      hsums.add hroot hthrice (by norm_num)
    exact htotal.div atMost_three (by positivity) hbound (by norm_num)

end Surface

end FreeSurface

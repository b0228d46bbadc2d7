import FreeSurface.Proofs.Number.Order
import FreeSurface.Surface.Eikonal

/-!
# The solution of the Eikonal equation

The distance of a cell is found from the least known distance along each axis, infinity where none
is known.  In exact arithmetic it rises by one above them (`Surface.solves_solveEikonal`): the
squares of what it rises above each add up to one, and nothing rises above infinity.  The update
lets in one value after the other, in ascending order, and whichever it stops at, the equation holds
for all three.

* `Surface.Solves` — the equation, for any number of levels.
* `Surface.Solves.le_add_one`, `Surface.Solves.exists_lt` — a solution is at most one above each
  level, and above one of them.
* `Surface.Solves.unique` — there is one solution, so the update finds it.
-/

namespace FreeSurface

open scoped Literals

namespace Exact

/-- A number, or the infinity above all numbers. -/
def IsLevel (a : Exact) : Prop := a = posInf ∨ ∃ x, a = real x

lemma isLevel_real (x : ℝ) : (real x).IsLevel := .inr ⟨x, rfl⟩

lemma IsLevel.isNaN {a : Exact} (h : a.IsLevel) : Scalar.isNaN a = false := by
  rcases h with rfl | ⟨x, rfl⟩ <;> rfl

lemma IsLevel.le_of_not_le {a b : Exact} (ha : a.IsLevel) (hb : b.IsLevel) (h : ¬a ≤ b) : b ≤ a :=
  le_of_not_lt hb.isNaN ha.isNaN fun hlt => h (.inl hlt)

/-- What is at most a number is one. -/
lemma IsLevel.exists_of_le {a : Exact} (h : a.IsLevel) {v : ℝ} (hle : a ≤ real v) :
    ∃ u ≤ v, a = real u := by
  rcases h with rfl | ⟨u, rfl⟩
  · exact absurd hle (not_le_of_lt (real_lt_posInf v))
  · exact ⟨u, real_le_real.mp hle, rfl⟩

lemma IsLevel.eq_posInf_of_le {a : Exact} (h : a.IsLevel) (hle : posInf ≤ a) : a = posInf := by
  rcases h with rfl | ⟨u, rfl⟩
  · rfl
  · exact absurd hle (not_le_of_lt (real_lt_posInf u))

end Exact

namespace Surface

open Exact

/-! ## Sorting -/

section Sorting

variable {S : Type} [Scalar S]

lemma sortThree_perm (x y z : S) :
    [(sortThree x y z).1, (sortThree x y z).2.1, (sortThree x y z).2.2].Perm [x, y, z] := by
  rw [sortThree]
  split_ifs
  · exact .refl _
  · exact .cons x (.swap y z [])
  · exact (List.perm_append_comm : ([z] ++ [x, y]).Perm ([x, y] ++ [z]))
  · exact .swap x y [z]
  · exact (List.perm_append_comm : ([y, z] ++ [x]).Perm ([x] ++ [y, z]))
  · exact List.reverse_perm [x, y, z]

end Sorting

lemma sortThree_sorted {x y z : Exact} (hx : x.IsLevel) (hy : y.IsLevel) (hz : z.IsLevel) :
    (sortThree x y z).1 ≤ (sortThree x y z).2.1 ∧
      (sortThree x y z).2.1 ≤ (sortThree x y z).2.2 := by
  rw [sortThree]
  split_ifs with hxy hyz hxz hxz hyz
  · exact ⟨hxy, hyz⟩
  · exact ⟨hxz, hy.le_of_not_le hz hyz⟩
  · exact ⟨hx.le_of_not_le hz hxz, hxy⟩
  · exact ⟨hx.le_of_not_le hy hxy, hxz⟩
  · exact ⟨hyz, hx.le_of_not_le hz hxz⟩
  · exact ⟨hy.le_of_not_le hz hyz, hx.le_of_not_le hy hxy⟩

/-! ## The equation -/

/-- The square of what a number rises above a level. -/
noncomputable def rise (x : ℝ) : Exact → ℝ
  | real v => max (x - v) 0 ^ 2
  | _ => 0

/-- The number rises by one above the levels. -/
def Solves (x : ℝ) (levels : List Exact) : Prop := (levels.map (rise x)).sum = 1

variable {x u v w t : ℝ} {levels : List Exact}

lemma rise_nonneg (x : ℝ) (a : Exact) : 0 ≤ rise x a := by
  cases a with
  | real v => exact sq_nonneg _
  | posInf => exact le_rfl
  | negInf => exact le_rfl
  | nan => exact le_rfl

lemma rise_of_le (h : x ≤ v) : rise x (real v) = 0 := by
  rw [rise, max_eq_right (sub_nonpos.mpr h), sq, mul_zero]

lemma rise_of_ge (h : v ≤ x) : rise x (real v) = (x - v) ^ 2 := by
  rw [rise, max_eq_left (sub_nonneg.mpr h)]

/-- A solution is at most one above every level. -/
lemma Solves.le_add_one (h : Solves x levels) (hv : real v ∈ levels) : x ≤ v + 1 := by
  have hle : rise x (real v) ≤ 1 := h ▸ List.single_le_sum
    (fun b hb => by obtain ⟨a, -, rfl⟩ := List.mem_map.mp hb; exact rise_nonneg x a) _
    (List.mem_map_of_mem hv)
  have hmax : max (x - v) 0 ≤ 1 := (sq_le_one_iff₀ (le_max_right _ _)).mp hle
  linarith [(le_max_left _ _).trans hmax]

/-- What rises at all lies above some level. -/
lemma exists_lt_of_sum_pos (h : 0 < (levels.map (rise x)).sum) : ∃ v, real v ∈ levels ∧ v < x := by
  by_contra hnone
  push Not at hnone
  refine h.ne' (List.sum_eq_zero fun b hb => ?_)
  obtain ⟨a, ha, rfl⟩ := List.mem_map.mp hb
  cases a with
  | real v => exact rise_of_le (hnone v ha)
  | posInf => rfl
  | negInf => rfl
  | nan => rfl

/-- A solution lies above some level. -/
lemma Solves.exists_lt (h : Solves x levels) : ∃ v, real v ∈ levels ∧ v < x :=
  exists_lt_of_sum_pos (zero_lt_one.trans_eq (Eq.symm h))

lemma rise_mono (h : x ≤ u) (a : Exact) : rise x a ≤ rise u a := by
  cases a with
  | real v => exact pow_le_pow_left₀ (le_max_right _ _) (max_le_max_right 0 (by linarith)) 2
  | posInf => exact le_rfl
  | negInf => exact le_rfl
  | nan => exact le_rfl

lemma rise_lt_rise (h : x < u) (hv : v < x) : rise x (real v) < rise u (real v) := by
  rw [rise_of_ge hv.le, rise_of_ge (hv.trans h).le]
  exact pow_lt_pow_left₀ (by linarith) (by linarith) two_ne_zero

/-- A solution is at most whatever rises by one or more. -/
lemma Solves.le_of_one_le (h : Solves x levels) (hu : 1 ≤ (levels.map (rise u)).sum) : x ≤ u := by
  by_contra hlt
  rw [not_le] at hlt
  obtain ⟨v, hv, hvu⟩ := exists_lt_of_sum_pos (zero_lt_one.trans_le hu)
  have hsum := List.sum_lt_sum (rise u) (rise x) (fun a _ => rise_mono hlt.le a)
    ⟨real v, hv, rise_lt_rise hlt hvu⟩
  exact hu.not_gt (hsum.trans_eq h)

/-- **There is one solution.** -/
theorem Solves.unique (hx : Solves x levels) (hu : Solves u levels) : x = u :=
  le_antisymm (hx.le_of_one_le (Eq.ge hu)) (hu.le_of_one_le (Eq.ge hx))

/-- A level that is not below a number changes nothing. -/
lemma rise_of_not_lt {a : Exact} (h : ¬a < real x) : rise x a = 0 := by
  cases a with
  | real v => exact rise_of_le (not_lt.mp fun hv => h (real_lt_real.mpr hv))
  | posInf => rfl
  | negInf => rfl
  | nan => rfl

/-! ## One value after the other -/

lemma solves_one (u : ℝ) : Solves (u + 1) [real u] := by
  have hu : u ≤ u + 1 := by linarith
  simp [Solves, rise_of_ge hu]

/-- A level that a solution does not reach changes nothing. -/
lemma Solves.append (h : Solves x levels) {a : Exact} (ha : rise x a = 0) :
    Solves x (levels ++ [a]) := by
  rw [Solves, List.map_append, List.sum_append, List.map_singleton, List.sum_singleton, ha,
    add_zero]
  exact h

/-- The larger root of the equation for two levels. -/
lemma solves_two (huv : u ≤ v) (hv : v < u + 1) :
    0 ≤ 2 - (u - v) * (u - v) ∧
      Solves ((u + v + √(2 - (u - v) * (u - v))) / 2) [real u, real v] := by
  have hdisc : 1 < 2 - (u - v) * (u - v) := by nlinarith
  set root := √(2 - (u - v) * (u - v)) with hroot
  have hsq : root ^ 2 = 2 - (u - v) * (u - v) := Real.sq_sqrt (by linarith)
  have hone : 1 < root := Real.lt_sqrt_of_sq_lt (by linarith)
  have hv' : v ≤ (u + v + root) / 2 := by linarith
  refine ⟨by linarith, ?_⟩
  rw [Solves, List.map_cons, List.map_singleton, List.sum_cons, List.sum_singleton,
    rise_of_ge hv', rise_of_ge (huv.trans hv')]
  linarith

/-- The larger root of the equation for three levels, where the solution for two of them lies above
the third one. -/
lemma solves_three (huv : u ≤ v) (hvw : v ≤ w) (h : Solves t [real u, real v]) (hw : w < t) :
    0 ≤ (u + v + w) * (u + v + w) - 3 * (u * u + v * v + w * w - 1) ∧
      Solves ((u + v + w + √((u + v + w) * (u + v + w) - 3 * (u * u + v * v + w * w - 1))) / 3)
        [real u, real v, real w] := by
  rw [Solves, List.map_cons, List.map_singleton, List.sum_cons, List.sum_singleton,
    rise_of_ge (by linarith), rise_of_ge (by linarith)] at h
  -- The third level is below the solution for the other two, so it is below the larger root.
  have hu : (w - u) ^ 2 < (t - u) ^ 2 :=
    pow_lt_pow_left₀ (by linarith) (by linarith) two_ne_zero
  have hv : (w - v) ^ 2 < (t - v) ^ 2 :=
    pow_lt_pow_left₀ (by linarith) (by linarith) two_ne_zero
  have hdisc : (3 * w - (u + v + w)) ^ 2 <
      (u + v + w) * (u + v + w) - 3 * (u * u + v * v + w * w - 1) := by linarith
  set disc := (u + v + w) * (u + v + w) - 3 * (u * u + v * v + w * w - 1) with hdef
  have hsq : √disc ^ 2 = disc := Real.sq_sqrt ((sq_nonneg _).trans hdisc.le)
  have hroot : 3 * w - (u + v + w) < √disc := Real.lt_sqrt_of_sq_lt hdisc
  have hw' : w ≤ (u + v + w + √disc) / 3 := by linarith
  refine ⟨(sq_nonneg _).trans hdisc.le, ?_⟩
  simp only [Solves, List.map_cons, List.map_nil, List.sum_cons, List.sum_nil, rise_of_ge hw',
    rise_of_ge (hvw.trans hw'), rise_of_ge (huv.trans (hvw.trans hw'))]
  linarith

/-! ## The update -/

/-- What the update has found when it has let in the second of two numbers. -/
lemma exists_solves_two (huv : u ≤ v) :
    ∃ t, (if real v < real u + 1 then
        if 0 ≤ 2 - (real u - real v) * (real u - real v) then
          (real u + real v + Scalar.sqrt (2 - (real u - real v) * (real u - real v))) / 2
        else real u + 1
      else real u + 1) = real t ∧ Solves t [real u, real v] := by
  by_cases hv : v < u + 1
  · obtain ⟨hdisc, hsolves⟩ := solves_two huv hv
    refine ⟨_, ?_, hsolves⟩
    simp only [literal, real_add_real, real_sub_real, real_mul_real, real_lt_real, real_le_real,
      Nat.cast_ofNat, Nat.cast_one, Nat.cast_zero, if_pos hv, if_pos hdisc, sqrt_real hdisc,
      real_div_real two_ne_zero]
  · refine ⟨u + 1, ?_, (solves_one u).append (rise_of_le (not_lt.mp hv))⟩
    simp only [literal, real_add_real, real_lt_real, Nat.cast_one, if_neg hv]

/-- What the update has found when it has let in the third of three numbers. -/
lemma exists_solves_three (huv : u ≤ v) (hvw : v ≤ w) (h : Solves t [real u, real v]) :
    ∃ r, (if real w < real t then
        if 0 ≤ (real u + real v + real w) * (real u + real v + real w) -
            3 * (real u * real u + real v * real v + real w * real w - 1) then
          (real u + real v + real w + Scalar.sqrt ((real u + real v + real w) *
            (real u + real v + real w) -
              3 * (real u * real u + real v * real v + real w * real w - 1))) / 3
        else real t
      else real t) = real r ∧ Solves r [real u, real v, real w] := by
  by_cases hw : w < t
  · obtain ⟨hdisc, hsolves⟩ := solves_three huv hvw h hw
    refine ⟨_, ?_, hsolves⟩
    simp only [literal, real_add_real, real_sub_real, real_mul_real, real_lt_real, real_le_real,
      Nat.cast_ofNat, Nat.cast_one, Nat.cast_zero, if_pos hw, if_pos hdisc, sqrt_real hdisc,
      real_div_real three_ne_zero]
  · exact ⟨t, if_neg (mt real_lt_real.mp hw), h.append (rise_of_le (not_lt.mp hw))⟩

/-- Among three levels is a number, or they are all infinite. -/
lemma exists_real_or_unknown {x y z : Exact} (hx : x.IsLevel) (hy : y.IsLevel) (hz : z.IsLevel) :
    (∃ v, real v ∈ [x, y, z]) ∨ x = posInf ∧ y = posInf ∧ z = posInf := by
  simp only [List.mem_cons, List.not_mem_nil, or_false]
  rcases hx with rfl | ⟨v, rfl⟩
  · rcases hy with rfl | ⟨v, rfl⟩
    · rcases hz with rfl | ⟨v, rfl⟩
      · exact .inr ⟨rfl, rfl, rfl⟩
      · exact .inl ⟨v, .inr (.inr rfl)⟩
    · exact .inl ⟨v, .inr (.inl rfl)⟩
  · exact .inl ⟨v, .inl rfl⟩

/-- Where nothing is known, nothing is found. -/
lemma solveEikonal_posInf : solveEikonal posInf posInf posInf = posInf := by
  simp [solveEikonal, sortThree, not_posInf_lt]

/-- If there is a number among levels in ascending order, the first is one. -/
lemma exists_first {a b c : Exact} (ha : a.IsLevel) (hb : b.IsLevel) (hab : a ≤ b) (hbc : b ≤ c)
    (h : ∃ v, real v ∈ [a, b, c]) : ∃ u, a = real u := by
  obtain ⟨v, hv⟩ := h
  simp only [List.mem_cons, List.not_mem_nil, or_false] at hv
  rcases hv with rfl | rfl | rfl
  · exact ⟨v, rfl⟩
  · obtain ⟨u, -, hu⟩ := ha.exists_of_le hab
    exact ⟨u, hu⟩
  · obtain ⟨w, -, rfl⟩ := hb.exists_of_le hbc
    obtain ⟨u, -, hu⟩ := ha.exists_of_le hab
    exact ⟨u, hu⟩

/-- **The update solves the Eikonal equation**, wherever something is known. -/
theorem solves_solveEikonal {x y z : Exact} (hx : x.IsLevel) (hy : y.IsLevel) (hz : z.IsLevel)
    (h : ∃ v, real v ∈ [x, y, z]) : ∃ r, solveEikonal x y z = real r ∧ Solves r [x, y, z] := by
  have hperm := sortThree_perm x y z
  obtain ⟨hab, hbc⟩ := sortThree_sorted hx hy hz
  have hlevel : ∀ a ∈ [x, y, z], a.IsLevel := by
    simp only [List.forall_mem_cons, List.not_mem_nil, false_implies, implies_true, and_true]
    exact ⟨hx, hy, hz⟩
  have hsolves : ∀ r, Solves r [x, y, z] ↔ Solves r [(sortThree x y z).1, (sortThree x y z).2.1,
      (sortThree x y z).2.2] := fun r => by rw [Solves, Solves, (hperm.map _).sum_eq]
  simp only [← hperm.mem_iff] at hlevel h
  simp only [hsolves, solveEikonal]
  generalize sortThree x y z = sorted at *
  obtain ⟨a, b, c⟩ := sorted
  simp only [List.forall_mem_cons, List.not_mem_nil, false_implies, implies_true, and_true]
    at hlevel
  obtain ⟨ha, hb, hc⟩ := hlevel
  obtain ⟨u, rfl⟩ := exists_first ha hb hab hbc h
  -- Only numbers are let in, and from the first infinity on there are none.
  rcases hb with rfl | ⟨v, rfl⟩
  · obtain rfl := hc.eq_posInf_of_le hbc
    refine ⟨u + 1, ?_, ((solves_one u).append rfl).append rfl⟩
    simp
  · obtain ⟨t, htwo, ht⟩ := exists_solves_two (real_le_real.mp hab)
    simp only [htwo]
    rcases hc with rfl | ⟨w, rfl⟩
    · exact ⟨t, if_neg (not_posInf_lt _), ht.append rfl⟩
    · exact exists_solves_three (real_le_real.mp hab) (real_le_real.mp hbc) ht

/-- Whatever solves the equation is what the update finds. -/
lemma Solves.solveEikonal_eq {x y z : Exact} {r : ℝ} (h : Solves r [x, y, z]) (hx : x.IsLevel)
    (hy : y.IsLevel) (hz : z.IsLevel) : solveEikonal x y z = real r := by
  obtain ⟨v, hv, -⟩ := h.exists_lt
  obtain ⟨s, hs, hsolves⟩ := solves_solveEikonal hx hy hz ⟨v, hv⟩
  rw [hs, hsolves.unique h]

/-! ## What a cell sees -/

section Known

variable {d : Dims} {S : Type} [Scalar S]

lemma mem_neighbors_iff_exists_along {n c : d.Cell} :
    n ∈ d.cells.neighbors c ↔ ∃ a, n ∈ d.cells.neighborsAlong (d.cells.coords c) a := by
  simp only [Lattice.neighbors, List.mem_append]
  constructor
  · rintro ((h | h) | h)
    exacts [⟨.x, h⟩, ⟨.y, h⟩, ⟨.z, h⟩]
  · rintro ⟨a, h⟩
    cases a
    exacts [.inl (.inl h), .inl (.inr h), .inr h]

lemma leastAlong_eq (dist : ScalarField d S) (known : d.Cell → Bool) (c : d.Cell) (a : Axis) :
    leastAlong dist known c a = (((d.cells.neighborsAlong (d.cells.coords c) a).filter known).map
      dist.get).foldl Scalar.min Scalar.infinity := by
  rw [leastAlong, List.foldl_map, List.foldl_filter]

/-- What a cell sees depends on what is known around it alone. -/
lemma leastAlong_congr {dist dist' : ScalarField d S} {known known' : d.Cell → Bool} {c : d.Cell}
    (hknown : ∀ n ∈ d.cells.neighbors c, known n = known' n)
    (h : ∀ n, known n = true → dist.get n = dist'.get n) (a : Axis) :
    leastAlong dist known c a = leastAlong dist' known' c a := by
  rw [leastAlong_eq, leastAlong_eq, ← List.filter_congr fun n hn =>
    hknown n (mem_neighbors_iff_exists_along.mpr ⟨a, hn⟩)]
  congr 1
  exact List.map_congr_left fun n hn => h n (List.of_mem_filter hn)

end Known

end Surface

end FreeSurface

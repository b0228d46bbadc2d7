import FreeSurface.Proofs.Number.Least
import FreeSurface.Proofs.Surface.Eikonal

/-!
# The update as a function of what is known

What the equation determines, the update has: its order of arguments does not matter, it rises with
each of them, and it is found from those it lies above (`Surface.isUpwindSolution_solveEikonal`).
Everything is read off the equation (`Surface.Solves`), none of it off the cases of the update.

* `Surface.Solves.eq_largerRoot` — a solution is the larger root of the quadratic equation for the
  levels below it.
* `Surface.Solves.add_le` — it lies at least `1 / √3` above the lowest of three levels.
* `Surface.Solves.le_solveEikonal` — higher levels have a higher solution.
-/

namespace FreeSurface

open Exact

namespace Surface

variable {x y z : Exact} {levels : List Exact} {used : List ℝ} {r m : ℝ}

/-! ## The levels below a solution -/

/-- The larger root of `∑ (r - v)² = 1`. -/
noncomputable def largerRoot (used : List ℝ) : ℝ :=
  (used.sum + √(used.sum ^ 2 - used.length * ((used.map (· ^ 2)).sum - 1))) / used.length

lemma sum_sub_sq (used : List ℝ) (r : ℝ) :
    (used.map fun v => (r - v) ^ 2).sum =
      used.length * r ^ 2 - 2 * r * used.sum + (used.map (· ^ 2)).sum := by
  induction used with
  | nil => simp
  | cons v used ih =>
      simp only [List.map_cons, List.sum_cons, ih, List.length_cons, Nat.cast_succ]
      ring

lemma sum_lt_length_mul (hne : used ≠ []) (hlt : ∀ v ∈ used, v < r) :
    used.sum < used.length * r := by
  have hsum := List.sum_lt_sum_of_ne_nil hne id (fun _ => r) hlt
  simpa using hsum

/-- A number above some levels, from which the squares of the distances add up to one, is the larger
root of the equation for them. -/
lemma eq_largerRoot (hlt : ∀ v ∈ used, v < r) (h : (used.map fun v => (r - v) ^ 2).sum = 1) :
    r = largerRoot used := by
  have hne : used ≠ [] := by
    rintro rfl
    exact zero_ne_one h
  have hlength : (0 : ℝ) < used.length := by exact_mod_cast List.length_pos_iff.mpr hne
  have hsum := sum_lt_length_mul hne hlt
  have hdisc : used.sum ^ 2 - used.length * ((used.map (· ^ 2)).sum - 1) =
      (used.length * r - used.sum) ^ 2 := by
    rw [sum_sub_sq] at h
    linear_combination -(used.length : ℝ) * h
  rw [largerRoot, hdisc, Real.sqrt_sq (by linarith), add_sub_cancel,
    mul_div_cancel_left₀ _ hlength.ne']

open Classical in
/-- **A solution is the larger root for the levels below it**; the others make no difference. -/
lemma Solves.exists_used (h : Solves r levels) (hlevels : ∀ a ∈ levels, a.IsLevel) :
    ∃ used rest, (used.map real ++ rest).Perm levels ∧ r = largerRoot used ∧
      (∀ v ∈ used, v < r) ∧ ∀ a ∈ rest, ¬a < real r := by
  set low := levels.filter fun a => a < real r with hlow
  set rest := levels.filter fun a => ¬a < real r with hrest
  have hperm : (low ++ rest).Perm levels := by
    simpa only [hlow, hrest, decide_not] using List.filter_append_perm _ levels
  have hfar : ∀ a ∈ rest, ¬a < real r := fun a ha =>
    of_decide_eq_true (List.mem_filter.mp ha).2
  obtain ⟨used, hused⟩ : low ∈ Set.range (List.map real) := by
    rw [Set.range_list_map]
    intro a ha
    obtain ⟨hmem, hlt⟩ := List.mem_filter.mp ha
    rcases hlevels a hmem with rfl | ⟨v, rfl⟩
    · exact absurd (of_decide_eq_true hlt) (not_posInf_lt _)
    · exact Set.mem_range_self v
  have hbelow : ∀ v ∈ used, v < r := by
    intro v hv
    have hv' : real v ∈ low := hused ▸ List.mem_map_of_mem hv
    exact real_lt_real.mp (of_decide_eq_true (List.mem_filter.mp hv').2)
  have hsquares : (used.map fun v => (r - v) ^ 2) = low.map (rise r) := by
    rw [← hused, List.map_map]
    exact List.map_congr_left fun v hv => (rise_of_ge (hbelow v hv).le).symm
  have hzero : (rest.map (rise r)).sum = 0 := List.sum_eq_zero fun b hb => by
    obtain ⟨a, ha, rfl⟩ := List.mem_map.mp hb
    exact rise_of_not_lt (hfar a ha)
  refine ⟨used, rest, by rwa [hused], eq_largerRoot hbelow ?_, hbelow, hfar⟩
  calc (used.map fun v => (r - v) ^ 2).sum
      = (low.map (rise r)).sum + (rest.map (rise r)).sum := by rw [hsquares, hzero, add_zero]
    _ = (levels.map (rise r)).sum := by
        rw [← List.sum_append, ← List.map_append, (hperm.map _).sum_eq]
    _ = 1 := h

/-! ## Bounds -/

lemma solves_iff : Solves r [x, y, z] ↔ rise r x + rise r y + rise r z = 1 := by
  simp [Solves, add_assoc]

/-- A solution for at most three levels is at least `1 / √3` above the lowest. -/
lemma Solves.add_le (h : Solves r [x, y, z]) (hm : ∀ a ∈ [x, y, z], real m ≤ a) :
    m + 1 / √3 ≤ r := by
  obtain ⟨v, hv, hvr⟩ := h.exists_lt
  have hmr : m < r := (real_le_real.mp (hm _ hv)).trans_lt hvr
  have hrise : ∀ a ∈ [x, y, z], rise r a ≤ (r - m) ^ 2 := by
    intro a ha
    cases a with
    | real w =>
        have hw := real_le_real.mp (hm _ ha)
        rw [rise]
        exact pow_le_pow_left₀ (le_max_right _ _) (max_le (by linarith) (by linarith)) 2
    | posInf => exact sq_nonneg _
    | negInf => exact sq_nonneg _
    | nan => exact sq_nonneg _
  simp only [List.forall_mem_cons, List.not_mem_nil, false_implies, implies_true, and_true]
    at hrise
  obtain ⟨hx, hy, hz⟩ := hrise
  have hthree : 1 ≤ ((r - m) * √3) ^ 2 := by
    rw [mul_pow, Real.sq_sqrt (by norm_num)]
    linarith [solves_iff.mp h]
  have hone : 1 ≤ (r - m) * √3 :=
    (one_le_sq_iff₀ (mul_nonneg (by linarith) (Real.sqrt_nonneg 3))).mp hthree
  have hdiv : 1 / √3 ≤ r - m := (div_le_iff₀ (Real.sqrt_pos.mpr (by norm_num))).mpr hone
  linarith

/-! ## Higher levels -/

lemma rise_anti {a b : Exact} (ha : a.IsLevel) (hb : b.IsLevel) (hab : a ≤ b) (u : ℝ) :
    rise u b ≤ rise u a := by
  rcases hb with rfl | ⟨w, rfl⟩
  · exact rise_nonneg u a
  · obtain ⟨v, hvw, rfl⟩ := ha.exists_of_le hab
    exact pow_le_pow_left₀ (le_max_right _ _) (max_le_max_right 0 (by linarith)) 2

/-- **Higher levels have a higher solution.** -/
lemma Solves.le_solveEikonal (h : Solves r [x, y, z]) {x' y' z' : Exact}
    (hlevels : ∀ a ∈ [x, y, z, x', y', z'], a.IsLevel) (hx : x ≤ x') (hy : y ≤ y') (hz : z ≤ z') :
    real r ≤ solveEikonal x' y' z' := by
  simp only [List.forall_mem_cons, List.not_mem_nil, false_implies, implies_true, and_true]
    at hlevels
  obtain ⟨hx₀, hy₀, hz₀, hx₁, hy₁, hz₁⟩ := hlevels
  obtain hknown | ⟨rfl, rfl, rfl⟩ := exists_real_or_unknown hx₁ hy₁ hz₁
  · obtain ⟨u, hu, hsolves⟩ := solves_solveEikonal hx₁ hy₁ hz₁ hknown
    rw [hu, real_le_real]
    refine h.le_of_one_le ?_
    simp only [List.map_cons, List.map_nil, List.sum_cons, List.sum_nil, add_zero]
    linarith [solves_iff.mp hsolves, rise_anti hx₀ hx₁ hx u, rise_anti hy₀ hy₁ hy u,
      rise_anti hz₀ hz₁ hz u]
  · rw [solveEikonal_posInf]
    exact .inl (real_lt_posInf r)

/-! ## The update -/

/-- A number is the upwind solution of the Eikonal equation for the levels along three axes. -/
structure IsUpwindSolution (x y z : Exact) (r : ℝ) : Prop where
  /-- The squares of what it rises above the levels add up to one. -/
  solves : Solves r [x, y, z]
  /-- No other number does that. -/
  unique : ∀ s, Solves s [x, y, z] → s = r
  /-- It is found from the levels in any order. -/
  symmetric : ∀ x' y' z', [x', y', z'].Perm [x, y, z] → solveEikonal x' y' z' = real r
  /-- From higher levels nothing lower is found. -/
  monotone : ∀ x' y' z', x'.IsLevel → y'.IsLevel → z'.IsLevel → x ≤ x' → y ≤ y' → z ≤ z' →
    real r ≤ solveEikonal x' y' z'
  /-- It is the root for some of the levels, which it lies above; it lies above no other. -/
  used : ∃ used rest, (used.map real ++ rest).Perm [x, y, z] ∧ r = largerRoot used ∧
    (∀ v ∈ used, v < r) ∧ ∀ a ∈ rest, ¬a < real r
  /-- It is neither close to the lowest level nor far above it. -/
  bounds : ∀ m, real m ∈ [x, y, z] → (∀ a ∈ [x, y, z], real m ≤ a) →
    m + 1 / √3 ≤ r ∧ r ≤ m + 1

/-- **The update finds the upwind solution**, wherever something is known. -/
theorem isUpwindSolution_solveEikonal (hx : x.IsLevel) (hy : y.IsLevel) (hz : z.IsLevel)
    (hknown : ∃ v, real v ∈ [x, y, z]) :
    ∃ r, solveEikonal x y z = real r ∧ IsUpwindSolution x y z r := by
  obtain ⟨r, hr, hsolves⟩ := solves_solveEikonal hx hy hz hknown
  have hlevels : ∀ a ∈ [x, y, z], a.IsLevel := by
    simp only [List.forall_mem_cons, List.not_mem_nil, false_implies, implies_true, and_true]
    exact ⟨hx, hy, hz⟩
  refine ⟨r, hr, hsolves, fun s hs => hs.unique hsolves, fun x' y' z' hperm => ?_,
    fun x' y' z' hx' hy' hz' => hsolves.le_solveEikonal ?_, hsolves.exists_used hlevels,
    fun m hm hleast => ⟨hsolves.add_le hleast, hsolves.le_add_one hm⟩⟩
  · have hlevels' : ∀ a ∈ [x', y', z'], a.IsLevel := fun a ha => hlevels a (hperm.mem_iff.mp ha)
    have hsolves' : Solves r [x', y', z'] := (hperm.map _).sum_eq.trans hsolves
    exact hsolves'.solveEikonal_eq (hlevels' _ (by simp)) (hlevels' _ (by simp))
      (hlevels' _ (by simp))
  · simp only [List.forall_mem_cons, List.not_mem_nil, false_implies, implies_true, and_true]
    exact ⟨hx, hy, hz, hx', hy', hz'⟩

/-- Two axes with the same level, and one along which nothing is known. -/
theorem isUpwindSolution_tie :
    (real 1).IsLevel ∧ posInf.IsLevel ∧ (∃ v, real v ∈ [real 1, posInf, real 1]) ∧
      ∃ r, solveEikonal (real 1) posInf (real 1) = real r ∧
        IsUpwindSolution (real 1) posInf (real 1) r :=
  have hone := isLevel_real 1
  have hinfinite : posInf.IsLevel := .inl rfl
  have hknown : ∃ v, real v ∈ [real 1, posInf, real 1] := ⟨1, List.mem_cons_self⟩
  ⟨hone, hinfinite, hknown, isUpwindSolution_solveEikonal hone hinfinite hone hknown⟩

end Surface

end FreeSurface

import FreeSurface.Proofs.Surface.Eikonal

/-!
# Distances are positive

In exact arithmetic every distance that reinitialization works with is a positive number, or the
infinity that stands for "nothing known".  Both local rules keep to that: the estimate at the
surface (`Surface.isPositive_interfaceDistance`) and the solution of the Eikonal equation
(`Surface.isPositive_solveEikonal`).
-/

namespace FreeSurface

open scoped Literals

namespace Exact

/-- A positive number. -/
def IsPositive (a : Exact) : Prop := ∃ x : ℝ, 0 < x ∧ a = real x

/-- A positive number, or infinity. -/
def IsDistance (a : Exact) : Prop := a = posInf ∨ a.IsPositive

lemma isPositive_real {x : ℝ} (h : 0 < x) : (real x).IsPositive := ⟨x, h, rfl⟩

lemma IsPositive.isFinite {a : Exact} (h : a.IsPositive) : Scalar.isFinite a = true := by
  obtain ⟨x, -, rfl⟩ := h
  rfl

lemma IsPositive.isDistance {a : Exact} (h : a.IsPositive) : a.IsDistance := .inr h

lemma IsDistance.isPositive {a : Exact} (h : a.IsDistance) (hf : Scalar.isFinite a = true) :
    a.IsPositive := by
  rcases h with rfl | h
  · simp at hf
  · exact h

lemma IsDistance.min {a b : Exact} (ha : a.IsDistance) (hb : b.IsDistance) :
    (Scalar.min a b).IsDistance := by
  rw [Scalar.min]
  split_ifs
  · exact hb
  · exact hb
  · exact ha

/-- Of a number and an infinity the smaller is the number. -/
lemma IsPositive.min {a b : Exact} (ha : a.IsPositive) (hb : b.IsDistance) :
    (Scalar.min a b).IsPositive := by
  obtain ⟨x, hx, rfl⟩ := ha
  rcases hb with rfl | ⟨y, hy, rfl⟩
  · exact ⟨x, hx, by simp [Scalar.min]⟩
  · exact ⟨Min.min x y, lt_min hx hy, by simp⟩

lemma IsDistance.isLevel {a : Exact} (h : a.IsDistance) : a.IsLevel := by
  rcases h with rfl | ⟨x, -, rfl⟩
  · exact .inl rfl
  · exact isLevel_real x

end Exact

namespace Surface

open Exact

variable {d : Dims}

/-! ## At the surface -/

lemma isDistance_crossing (a : Exact) :
    (Scalar.max (Scalar.abs a) (minInterfaceFraction : Exact)).IsDistance := by
  have hm : (minInterfaceFraction : Exact) = real (1 / 10 ^ 3) := by
    simp [minInterfaceFraction]
  have hpos : (0 : ℝ) < 1 / 10 ^ 3 := by positivity
  rw [hm]
  cases a with
  | real x => exact .inr ⟨_, lt_max_of_lt_right hpos, by rw [abs_real, max_real]⟩
  | posInf => exact .inl (by simp [Scalar.max])
  | negInf => exact .inl (by simp [Scalar.max])
  | nan => exact .inr (isPositive_real hpos)

lemma isDistance_crossingFraction (phi : ScalarField d Exact) (active : d.Cell → Bool)
    (c : d.Cell) (a : Axis) : (crossingFraction phi active c a).IsDistance := by
  rw [crossingFraction]
  refine List.foldlRecOn _ _ (.inl rfl) fun theta htheta n _ => ?_
  split_ifs
  · exact htheta.min (isDistance_crossing _)
  · exact htheta

/-- The fractions along the axes on which the surface is crossed. -/
def crossings {S : Type} [Scalar S] (phi : ScalarField d S) (active : d.Cell → Bool)
    (c : d.Cell) : List S :=
  (Axis.all.map (crossingFraction phi active c)).filter Scalar.isFinite

lemma isPositive_of_mem_crossings {phi : ScalarField d Exact} {active : d.Cell → Bool} {c : d.Cell}
    {t : Exact} (h : t ∈ crossings phi active c) : t.IsPositive := by
  obtain ⟨hmem, hfinite⟩ := List.mem_filter.mp h
  obtain ⟨a, -, rfl⟩ := List.mem_map.mp hmem
  exact (isDistance_crossingFraction phi active c a).isPositive hfinite

/-- The squared slope of the plane that rises by one from the crossings to the cell. -/
noncomputable def steepness (fractions : List Exact) : ℝ :=
  (fractions.map fun t => 1 / (t.toReal * t.toReal)).sum

lemma one_div_mul_self {t : Exact} (h : t.IsPositive) :
    (1 / (t * t) : Exact) = real (1 / (t.toReal * t.toReal)) := by
  obtain ⟨x, hx, rfl⟩ := h
  rw [literal, real_mul_real, real_div_real (by positivity), Nat.cast_one, toReal_real]

lemma foldl_inverse_squares {fractions : List Exact} (h : ∀ t ∈ fractions, t.IsPositive) :
    fractions.foldl (fun sum t => sum + 1 / (t * t)) 0 = real (steepness fractions) := by
  have hfinite : ∀ t ∈ fractions, Scalar.isFinite (1 / (t * t) : Exact) = true := by
    intro t ht
    rw [one_div_mul_self (h t ht)]
    rfl
  have hterms : (fractions.map fun t => (1 / (t * t) : Exact).toReal) =
      fractions.map fun t => 1 / (t.toReal * t.toReal) :=
    List.map_congr_left fun t ht => by rw [one_div_mul_self (h t ht), toReal_real]
  rw [literal 0, Nat.cast_zero, foldl_add _ _ _ hfinite, zero_add, hterms, steepness]

/-- One crossing bounds the sum over all. -/
lemma le_steepness {fractions : List Exact} {t : Exact} (h : t ∈ fractions) :
    1 / (t.toReal * t.toReal) ≤ steepness fractions := by
  refine List.single_le_sum (fun x hx => ?_) _ (List.mem_map_of_mem h)
  obtain ⟨u, -, rfl⟩ := List.mem_map.mp hx
  exact one_div_nonneg.mpr (mul_self_nonneg _)

lemma steepness_crossings_pos {phi : ScalarField d Exact} {active : d.Cell → Bool} {c : d.Cell}
    (h : crossings phi active c ≠ []) : 0 < steepness (crossings phi active c) := by
  obtain ⟨t, ht⟩ := List.exists_mem_of_ne_nil _ h
  obtain ⟨x, hx, rfl⟩ := isPositive_of_mem_crossings ht
  have hle := le_steepness ht
  rw [toReal_real] at hle
  exact (by positivity : 0 < 1 / (x * x)).trans_le hle

/-- **The estimate at the surface** exists where the surface is crossed, and is what the fractions
say. -/
theorem interfaceDistance?_eq (phi : ScalarField d Exact) (active : d.Cell → Bool) (c : d.Cell) :
    interfaceDistance? phi active c =
      if crossings phi active c = [] then none
      else some (real (1 / √(steepness (crossings phi active c)))) := by
  rw [interfaceDistance?, ← crossings]
  simp only [List.isEmpty_iff]
  split_ifs with hempty
  · rfl
  · have hpos := steepness_crossings_pos hempty
    rw [foldl_inverse_squares fun _ => isPositive_of_mem_crossings, sqrt_real hpos.le, literal,
      Nat.cast_one, real_div_real (Real.sqrt_pos.mpr hpos).ne']

theorem isPositive_interfaceDistance {phi : ScalarField d Exact} {active : d.Cell → Bool}
    {c : d.Cell} {s : Exact} (h : interfaceDistance? phi active c = some s) : s.IsPositive := by
  rw [interfaceDistance?_eq] at h
  split_ifs at h with hempty
  obtain rfl := Option.some.inj h
  exact isPositive_real (one_div_pos.mpr (Real.sqrt_pos.mpr (steepness_crossings_pos hempty)))

/-! ## Away from it -/

lemma exists_real_mem {x y z : Exact}
    (h : Scalar.isFinite x = true ∨ Scalar.isFinite y = true ∨ Scalar.isFinite z = true) :
    ∃ v, real v ∈ [x, y, z] := by
  simp only [isFinite_iff] at h
  simp only [List.mem_cons, List.not_mem_nil, or_false]
  rcases h with ⟨v, rfl⟩ | ⟨v, rfl⟩ | ⟨v, rfl⟩
  · exact ⟨v, .inl rfl⟩
  · exact ⟨v, .inr (.inl rfl)⟩
  · exact ⟨v, .inr (.inr rfl)⟩

/-- The solution of the Eikonal equation from known distances is a positive number: it is above one
of them. -/
theorem isPositive_solveEikonal {x y z : Exact} (hx : x.IsDistance) (hy : y.IsDistance)
    (hz : z.IsDistance)
    (h : Scalar.isFinite x = true ∨ Scalar.isFinite y = true ∨ Scalar.isFinite z = true) :
    (solveEikonal x y z).IsPositive := by
  obtain ⟨r, hr, hsolves⟩ :=
    solves_solveEikonal hx.isLevel hy.isLevel hz.isLevel (exists_real_mem h)
  obtain ⟨v, hv, hlt⟩ := hsolves.exists_lt
  have hpos : (real v).IsDistance := by
    simp only [List.mem_cons, List.not_mem_nil, or_false] at hv
    rcases hv with rfl | rfl | rfl <;> assumption
  obtain ⟨w, hw, heq⟩ := hpos.isPositive rfl
  obtain rfl := real_injective heq
  exact ⟨r, hw.trans hlt, hr⟩

end Surface

end FreeSurface

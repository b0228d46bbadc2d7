import FreeSurface.Proofs.Field.Front
import FreeSurface.Proofs.Field.Interpolation
import FreeSurface.Surface.Layers

/-!
# Layers keep their side

Carrying one side of a level set away from the surface, layer by layer, makes no cell change sides
(`Surface.onSide_extrapolate`): on the side of the liquid every new value lies a unit below the
mean of values below zero, on the side of the air a unit above the mean of values that are not.
-/

namespace FreeSurface

open Exact
open scoped Literals

variable {d : Dims} {inside : Bool}

namespace Surface

lemma isInside_iff {a : Exact} : isInside a = true ↔ a < real 0 := by
  rw [isInside, decide_eq_true_iff, literal, Nat.cast_zero]

/-- A number on a given side of the surface. -/
def OnSide (inside : Bool) (a : Exact) : Prop :=
  Scalar.isFinite a = true ∧ isInside a = inside

lemma onSide_real {x : ℝ} : OnSide inside (real x) ↔ decide (x < 0) = inside := by
  simp only [OnSide, isInside, literal, Nat.cast_zero, isFinite_real, real_lt_real, true_and]

/-- One unit away from the surface. -/
def away {S : Type} [Scalar S] (inside : Bool) : S := if inside then -(1 : S) else 1

lemma away_eq : (away inside : Exact) = real (if inside then -1 else 1) := by
  rw [away]
  cases inside <;> simp

lemma onSide_iff {a : Exact} : OnSide inside a ↔ a.In {x | decide (x < 0) = inside} := by
  constructor
  · rintro ⟨hfinite, hside⟩
    rw [eq_real_toReal hfinite] at hside
    exact ⟨toReal a, onSide_real.mp ⟨rfl, hside⟩, eq_real_toReal hfinite⟩
  · rintro ⟨x, hx, rfl⟩
    exact onSide_real.mpr hx

lemma convex_side (inside : Bool) : Convex ℝ {x : ℝ | decide (x < 0) = inside} := by
  cases inside with
  | true =>
      rw [show {x : ℝ | decide (x < 0) = true} = Set.Iio 0 by ext; simp]
      exact convex_Iio 0
  | false =>
      rw [show {x : ℝ | decide (x < 0) = false} = Set.Ici 0 by ext; simp]
      exact convex_Ici 0

/-- A unit away from the mean of numbers on a side is a number on that side. -/
lemma onSide_mean? {values : List Exact} {a : Exact} (hvalues : ∀ b ∈ values, OnSide inside b)
    (h : Front.mean? values = some a) : OnSide inside (a + away inside) := by
  obtain ⟨x, hx, rfl⟩ := Front.in_of_mean? (convex_side inside)
    (fun b hb => onSide_iff.mp (hvalues b hb)) h
  rw [away_eq, real_add_real, onSide_real]
  cases inside with
  | true =>
      have hneg : x < 0 := of_decide_eq_true hx
      exact decide_eq_true (by simpa using hneg.trans one_pos)
  | false =>
      have hnonneg : 0 ≤ x := not_lt.mp (of_decide_eq_false hx)
      exact decide_eq_false (not_lt.mpr (add_nonneg hnonneg zero_le_one))

/-- The distance given to what lies behind the last layer. -/
lemma onSide_far {distance : ℕ} (h : 0 < distance) :
    OnSide inside (away inside * Scalar.ofNat distance : Exact) := by
  rw [away_eq, scalar_ofNat, real_mul_real, onSide_real]
  cases inside with
  | true => simpa using h
  | false => simp

section Layers

variable {S : Type} [Scalar S]

/-- The cells of a side that lie at the surface. -/
def layerStart (phi : ScalarField d S) (inside : Bool) : Front d.cells S :=
  ⟨phi, Field.tabulate fun c => isInside (phi.get c) == inside && touchesOtherSide phi c⟩

/-- Cells of a side go a unit away from the mean of the layer before. -/
def layerRule (phi : ScalarField d S) (inside : Bool) : Front.Rule d.cells S := fun c values =>
  if isInside (phi.get c) == inside then (Front.mean? values).map (· + away inside) else none

lemma get_extrapolate (phi : ScalarField d S) (distance : ℕ) (inside : Bool) (c : d.Cell) :
    (extrapolate phi distance inside).get c =
      let front := (layerStart phi inside).spread (layerRule phi inside) (distance - 1)
      if isInside (phi.get c) == inside && !front.settled.get c then
        away inside * Scalar.ofNat distance
      else front.values.get c :=
  Field.get_update _ _ _

end Layers

/-- **No cell changes sides.** -/
theorem onSide_extrapolate {phi : ScalarField d Exact}
    (hphi : ∀ c, Scalar.isFinite (phi.get c) = true) {distance : ℕ} (h : 0 < distance)
    (inside : Bool) (c : d.Cell) :
    OnSide (isInside (phi.get c)) ((extrapolate phi distance inside).get c) := by
  set front := (layerStart phi inside).spread (layerRule phi inside) (distance - 1) with hfront
  -- Only cells of the side are ever settled, and at values of the side.
  have hsettled : ∀ c, front.settled.get c = true →
      isInside (phi.get c) = inside ∧ OnSide inside (front.values.get c) := by
    refine Front.forall_settled_spread
      (P := fun c b => isInside (phi.get c) = inside ∧ OnSide inside b) ?_ _ ?_
    · intro n values a hvalues ha
      rw [layerRule] at ha
      split_ifs at ha with hn
      obtain ⟨mean, hmean, rfl⟩ := Option.map_eq_some_iff.mp ha
      refine ⟨beq_iff_eq.mp hn, onSide_mean? (fun b hb => ?_) hmean⟩
      exact (hvalues b hb).choose_spec.2
    · intro n hn
      rw [layerStart, Field.get_tabulate, Bool.and_eq_true, beq_iff_eq] at hn
      exact ⟨hn.1, hphi n, hn.1⟩
  rw [get_extrapolate]
  simp only [← hfront]
  split_ifs with hfar
  · rw [Bool.and_eq_true, beq_iff_eq] at hfar
    rw [hfar.1]
    exact onSide_far h
  · cases hs : front.settled.get c with
    | true =>
        obtain ⟨hside, hvalue⟩ := hsettled c hs
        rw [hside]
        exact hvalue
    | false =>
        rw [hfront, Front.get_values_spread_of_not_settled _ _ _ hs]
        exact ⟨hphi c, rfl⟩

/-- Extrapolation on either side decides nothing anew. -/
lemma extrapolate_lt_zero_iff {phi : ScalarField d Exact}
    (hphi : ∀ c, Scalar.isFinite (phi.get c) = true) {distance : ℕ} (h : 0 < distance)
    (inside : Bool) (c : d.Cell) :
    (extrapolate phi distance inside).get c < real 0 ↔ phi.get c < real 0 := by
  rw [← isInside_iff, ← isInside_iff, (onSide_extrapolate hphi h inside c).2]

end Surface

end FreeSurface

import FreeSurface.Proofs.Field.Basic
import FreeSurface.Proofs.Lattice.Incidence
import FreeSurface.Proofs.Number.Exact
import FreeSurface.Projection.System

/-!
# What flows out of cells

* `outflow` — what flows out of a cell, a sum over its faces; the divergence of a liquid cell is its
  outflow (`divergence_eq_real`).
* `sum_outflow` — what flows out of a set of cells flows out through its border.
-/

namespace FreeSurface

open Exact Dims

variable {d : Dims}

namespace Staggered

/-- The numbers on the faces of a velocity. -/
noncomputable def speeds (v : Staggered d Exact) (a : Axis) (f : d.Face a) : ℝ :=
  ((v.component a).get f).toReal

/-- All faces of a cell across the axes of motion carry numbers. -/
def FiniteAt (v : Staggered d Exact) (c : d.Cell) : Prop :=
  ∀ a ∈ d.activeAxes, ∀ s, Scalar.isFinite ((v.component a).get (d.cellFace a c s)) = true

lemma finiteAt_of_allFinite {v : Staggered d Exact} (h : v.allFinite = true) (c : d.Cell) :
    v.FiniteAt c :=
  fun a _ s => isFinite_component h a (d.cellFace a c s)

lemma FiniteAt.eq_real {v : Staggered d Exact} {c : d.Cell} (h : v.FiniteAt c) {a : Axis}
    (ha : a ∈ d.activeAxes) (s : Side) :
    (v.component a).get (d.cellFace a c s) = real (v.speeds a (d.cellFace a c s)) :=
  eq_real_toReal (h a ha s)

lemma get_zero (a : Axis) (f : d.Face a) :
    ((zero d : Staggered d Exact).component a).get f = real 0 := by
  cases a <;> simp [zero, constant, ofComponents, component]

lemma allFinite_zero (d : Dims) : (zero d : Staggered d Exact).allFinite = true := by
  simp only [allFinite, Bool.and_eq_true, Field.allFinite_iff]
  refine ⟨⟨fun f => ?_, fun f => ?_⟩, fun f => ?_⟩
  · exact congrArg Scalar.isFinite (get_zero .x f)
  · exact congrArg Scalar.isFinite (get_zero .y f)
  · exact congrArg Scalar.isFinite (get_zero .z f)

end Staggered

/-- What flows out of a cell. -/
noncomputable def outflow (w : (a : Axis) → d.Face a → ℝ) (c : d.Cell) : ℝ :=
  (d.activeAxes.map fun a => w a (d.cellFace a c .upper) - w a (d.cellFace a c .lower)).sum

/-! ## Divergence -/

section Divergence

variable {g : Flags d} {v : Staggered d Exact} {c : d.Cell}

lemma get_divergence (hc : g.isFluid c = true) :
    (divergence g v).get c = d.activeAxes.foldl (fun sum a =>
      sum + ((v.component a).get (d.cellFace a c .upper) -
        (v.component a).get (d.cellFace a c .lower))) (real 0) := by
  rw [divergence, Field.get_tabulate, if_pos hc]
  simp only [literal, Nat.cast_zero]

lemma isFinite_divergence (hc : g.isFluid c = true) :
    Scalar.isFinite ((divergence g v).get c) = true ↔ v.FiniteAt c := by
  rw [get_divergence hc, isFinite_foldl_add]
  simp only [isFinite_real, true_and, isFinite_sub]
  constructor
  · rintro h a ha (_ | _)
    · exact (h a ha).2
    · exact (h a ha).1
  · exact fun h a ha => ⟨h a ha .upper, h a ha .lower⟩

/-- The divergence of a liquid cell is its outflow. -/
lemma divergence_eq_real (hc : g.isFluid c = true) (h : v.FiniteAt c) :
    (divergence g v).get c = real (outflow v.speeds c) := by
  rw [get_divergence hc, foldl_add]
  · rw [zero_add, outflow]
    refine congrArg (fun l => real (List.sum l)) (List.map_congr_left fun a ha => ?_)
    rw [h.eq_real ha .upper, h.eq_real ha .lower, real_sub_real, toReal_real]
  · exact fun a ha => isFinite_sub.mpr ⟨h a ha .upper, h a ha .lower⟩

end Divergence

/-! ## The theorem of Gauss -/

section Gauss

variable {w : (a : Axis) → d.Face a → ℝ} {K : Finset d.Cell}

/-- Nothing flows between a set of cells and the cells around it. -/
def Sealed (w : (a : Axis) → d.Face a → ℝ) (K : Finset d.Cell) : Prop :=
  ∀ c ∈ K, ∀ a ∈ d.activeAxes, ∀ s,
    w a (d.cellFace a c s) = 0 ∨ ∃ n ∈ K, next? c a s = some n

/-- What flows through a face of a sealed set flows to another cell of the set. -/
lemma Sealed.face_eq (h : Sealed w K) {c : d.Cell} (hc : c ∈ K) {a : Axis}
    (ha : a ∈ d.activeAxes) (s : Side) :
    w a (d.cellFace a c s) =
      ∑ n ∈ K, if next? c a s = some n then w a (d.cellFace a c s) else 0 := by
  obtain hw | ⟨n, hnK, hn⟩ := h c hc a ha s
  · simp only [hw, ite_self, Finset.sum_const_zero]
  · simp only [hn, Option.some.injEq, Finset.sum_ite_eq, if_pos hnK]

/-- Along one axis, what leaves the cells of a sealed set at their upper faces enters them at their
lower ones. -/
lemma Sealed.sum_upper (h : Sealed w K) {a : Axis} (ha : a ∈ d.activeAxes) :
    ∑ c ∈ K, w a (d.cellFace a c .upper) = ∑ c ∈ K, w a (d.cellFace a c .lower) := by
  calc ∑ c ∈ K, w a (d.cellFace a c .upper)
      = ∑ c ∈ K, ∑ n ∈ K,
          if next? c a .upper = some n then w a (d.cellFace a c .upper) else 0 :=
        Finset.sum_congr rfl fun c hc => h.face_eq hc ha .upper
    _ = ∑ n ∈ K, ∑ c ∈ K,
          if next? n a .lower = some c then w a (d.cellFace a n .lower) else 0 := by
        -- Summed over the cells above instead: both cells of a step share the face between them.
        rw [Finset.sum_comm]
        refine Finset.sum_congr rfl fun n _ => Finset.sum_congr rfl fun c _ => ?_
        by_cases hn : next? c a .upper = some n
        · rw [if_pos hn, if_pos (d.cells.neighbor?_symm.mp hn), cellFace_upper_eq hn]
        · rw [if_neg hn, if_neg (mt d.cells.neighbor?_symm.mpr hn)]
    _ = ∑ n ∈ K, w a (d.cellFace a n .lower) :=
        Finset.sum_congr rfl fun n hn => (h.face_eq hn ha .lower).symm

/-- **Nothing flows out of a sealed set of cells.** -/
theorem Sealed.sum_outflow (h : Sealed w K) : ∑ c ∈ K, outflow w c = 0 := by
  have hswap : ∀ l : List Axis, (∀ a ∈ l, a ∈ d.activeAxes) →
      ∑ c ∈ K, (l.map fun a =>
        w a (d.cellFace a c .upper) - w a (d.cellFace a c .lower)).sum = 0 := by
    intro l hl
    induction l with
    | nil => simp
    | cons a l ih =>
        simp only [List.map_cons, List.sum_cons, Finset.sum_add_distrib, Finset.sum_sub_distrib]
        rw [ih fun b hb => hl b (List.mem_cons_of_mem _ hb),
          h.sum_upper (hl a List.mem_cons_self), sub_self, zero_add]
  exact hswap d.activeAxes fun a ha => ha

end Gauss

end FreeSurface

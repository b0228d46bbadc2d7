import FreeSurface.Proofs.Projection.Gradient

/-!
# What a projection achieves

* `Projection.solveSystem_eq_ok` — when a projection succeeds, and with what.
* `Projection.outflow_solve` — after a projection every open cell gives off the source, up to the
  accuracy asked for.
-/

namespace FreeSurface

open Exact Dims Poisson

variable {d : Dims}

namespace Projection

section Success

variable {S D : Type} [Scalar S] [Scalar D] [Precision S D] {n : ℕ} {system : Poisson d D n}
  {v : Staggered d S} {g : Flags d} {phi : Option (ScalarField d S)} {source : S}
  {settings : SolverSettings D} {p : Projected d S D}

lemma any_not_isFinite {x : Vector D n} :
    x.any (!Scalar.isFinite ·) = false ↔ ∀ i, Scalar.isFinite (x.get i) = true := by
  rw [Vector.any_eq_false]
  simp only [Bool.not_eq_true, Bool.not_eq_false']
  exact ⟨fun h i => h i.val i.isLt, fun h i hi => h ⟨i, hi⟩⟩

/-- When a projection succeeds, everything on the way is finite and the search has converged. -/
lemma solveSystem_eq_ok (h : solveSystem system v g phi source settings = .ok p) :
    let found := ConjugateGradient.run system (rightSide system g v source) settings
    (∀ u, Scalar.isFinite ((rightSide system g v source).get u) = true) ∧
    (∀ u, Scalar.isFinite (found.solution.get u) = true) ∧
    found.status = .converged ∧
    p = ⟨subtractGradient v (scatter system found.solution) g phi, scatter system found.solution,
      ⟨.converged, found.iterations, found.residual, n⟩⟩ := by
  intro found
  rw [solveSystem] at h
  simp only at h
  split_ifs at h with hb hx
  rw [Bool.or_eq_true, not_or, Bool.not_eq_true, any_not_isFinite] at hx
  rw [Bool.not_eq_true, any_not_isFinite] at hb
  refine ⟨hb, hx.1, ?_⟩
  cases hstatus : (ConjugateGradient.run system (rightSide system g v source) settings).status with
  | maxIterations =>
      rw [hstatus] at h
      cases h
  | converged =>
      rw [hstatus] at h
      exact ⟨rfl, (Except.ok.inj h).symm⟩

end Success

variable {g : Flags d} {phi : Option (ScalarField d Exact)} {v : Staggered d Exact}
  {source : Exact} {settings : SolverSettings Exact} {p : Projected d Exact Exact}

/-! ## Pressures -/

lemma get_scatter_cellOf (x : Vector Exact (unknowns g).size) (u : Fin (unknowns g).size) :
    (scatter (build g phi : Poisson d Exact _) x : ScalarField d Exact).get (cellOf g u) =
      x.get u :=
  Field.get_foldl_put (fun u => narrow (x.get u)) _ (cellOf_injective g) (List.mem_finRange u)

/-- A cell without an unknown has no pressure. -/
lemma get_scatter_of_forall_ne {S D : Type} [Scalar S] [Scalar D] [Precision S D]
    {phi : Option (ScalarField d S)} (x : Vector D (unknowns g).size) {c : d.Cell}
    (h : ∀ u, cellOf g u ≠ c) :
    (scatter (build g phi : Poisson d D _) x : ScalarField d S).get c =
      (Literals.instOfNat 0).ofNat := by
  have hget : (scatter (build g phi : Poisson d D _) x : ScalarField d S).get c =
      (Field.constant d.cells (Literals.instOfNat 0).ofNat).get c :=
    Field.get_foldl_put_of_forall_ne _ _ _ _ fun u _ => h u
  rw [hget, Field.get_constant]

/-- A solution of numbers gives a pressure of numbers. -/
lemma holds_scatter {x : Vector Exact (unknowns g).size}
    (h : ∀ u, Scalar.isFinite (x.get u) = true) :
    let pressure : ScalarField d Exact := scatter (build g phi : Poisson d Exact _) x
    Holds pressure fun c => (pressure.get c).toReal := by
  intro pressure c
  refine eq_real_toReal ?_
  by_cases hc : ∃ u, cellOf g u = c
  · obtain ⟨u, rfl⟩ := hc
    rw [get_scatter_cellOf]
    exact h u
  · rw [get_scatter_of_forall_ne x fun u hu => hc ⟨u, hu⟩]
    rfl

/-! ## Right sides -/

/-- The right side of an unknown: the source, less what flows out of its cell. -/
lemma get_rightSide (u : Fin (unknowns g).size) {s : ℝ} (h : v.FiniteAt (cellOf g u)) :
    (rightSide (build g phi : Poisson d Exact _) g v (real s)).get u =
      real (s - outflow v.speeds (cellOf g u)) := by
  have hget : (rightSide (build g phi : Poisson d Exact _) g v (real s)).get u =
      -(divergence g v).get (cellOf g u) + real s := Vector.getElem_map _ u.isLt
  rw [hget, divergence_eq_real (isFluid_cellOf u) h, neg_real, real_add_real, neg_add_eq_sub]

lemma effectiveSource_eq {n : ℕ} (system : Poisson d Exact n) (s : ℝ) :
    effectiveSource system (real s) = real (if system.hasFreeSurface then s else 0) := by
  rw [effectiveSource]
  split_ifs
  · rfl
  · simp only [literal, Nat.cast_zero]

/-- The right side of an unknown is a number when the source and the flow around its cell are. -/
lemma isFinite_rightSide {u : Fin (unknowns g).size}
    (h : Scalar.isFinite ((rightSide (build g phi : Poisson d Exact _) g v source).get u) = true) :
    Scalar.isFinite source = true ∧ v.FiniteAt (cellOf g u) := by
  have hget : (rightSide (build g phi : Poisson d Exact _) g v source).get u =
      -(divergence g v).get (cellOf g u) + source := Vector.getElem_map _ u.isLt
  rw [hget, isFinite_add, isFinite_neg, isFinite_divergence (isFluid_cellOf u)] at h
  exact ⟨h.2, h.1⟩

/-- **After a projection every open cell gives off the source**, up to the accuracy asked for. -/
theorem outflow_solve (hphi : FinitePhi phi) (h : (solve v g phi source settings).result = .ok p)
    {c : d.Cell} (hc : isOpen g c = true) :
    (∃ pressure, p.velocity = subtractGradient v pressure g phi) ∧ p.velocity.FiniteAt c ∧
    ∃ s : ℝ, effectiveSource (build g phi : Poisson d Exact _) source = real s ∧
      real |outflow p.velocity.speeds c - s| < settings.accuracy := by
  obtain ⟨u, rfl⟩ := exists_unknown hc
  have hsome : ¬(unknowns g).size = 0 := fun hnone => (hnone ▸ u).elim0
  rw [solve, if_neg hsome] at h
  obtain ⟨hright, hsolution, hstatus, hp⟩ := solveSystem_eq_ok h
  have hvelocity : p.velocity = subtractGradient v (scatter _ _) g phi :=
    congrArg Projected.velocity hp
  obtain ⟨hsource, hv⟩ := isFinite_rightSide (hright u)
  obtain ⟨s, hs⟩ := isFinite_iff.mp hsource
  rw [hs] at hright hsolution hstatus hvelocity
  have hx := represents_of_isFinite hsolution
  have hb : Represents (rightSide (build g phi : Poisson d Exact _) g v (real s))
      fun u => s - outflow v.speeds (cellOf g u) :=
    fun w => get_rightSide w (isFinite_rightSide (hright w)).2
  have hlt := ConjugateGradient.abs_residual_lt (diagonalFinite_build hphi) hb hstatus hx u
  have hψ : Holds (scatter (build g phi : Poisson d Exact _) _) _ := holds_scatter hsolution
  obtain ⟨hfinite, hflow⟩ := outflow_subtractGradient hphi hψ u hv
  simp only [get_scatter_cellOf] at hflow
  refine ⟨⟨_, hvelocity⟩, hvelocity ▸ hfinite, s, hs, ?_⟩
  rw [hvelocity, hflow, abs_sub_comm]
  convert hlt using 3
  ring

end Projection

end FreeSurface

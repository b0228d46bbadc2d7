import Mathlib.Data.Fintype.Card
import FreeSurface.Number.Machine
import FreeSurface.Proofs.Projection.Solve

/-!
# How a projection ends

A projection succeeds or fails, with any numbers, infinities and values that are no numbers among
them.

* `Projection.Fails` — the ways in which it fails, each with the failure that tells of it.
* `Projection.Succeeds` — what holds when it succeeds: the search has converged, cells without an
  unknown have no pressure, and only faces that a pressure drives have changed.
* `Projection.solve_ends` — **there is no other ending**, and a failure changes nothing.
-/

namespace FreeSurface

open Dims Poisson
open scoped Literals

variable {d : Dims} {S D : Type} [Scalar S] [Scalar D] [Precision S D]

/-! ## The search -/

namespace ConjugateGradient

variable {n : ℕ} {system : Poisson d D n} {settings : SolverSettings D}

/-- A search converges in the rounds it has, with a residual below the accuracy. -/
lemma run_converged {b : Vector D n} (h : (run system b settings).status = .converged) :
    (run system b settings).iterations ≤ settings.maxIterations ∧
      (run system b settings).residual < settings.accuracy := by
  obtain ⟨k, hk, hsmall, hrun⟩ := exists_after_of_converged h
  rw [hrun]
  exact ⟨hk, hsmall⟩

end ConjugateGradient

/-! ## Cells with a pressure and faces that it drives -/

namespace Flags

/-- A cell of liquid with a neighbour that is not solid. -/
def HasPressure (g : Flags d) (c : d.Cell) : Prop :=
  g.isFluid c = true ∧ ∃ n ∈ d.cells.neighbors c, g.isObstacle n = false

instance (g : Flags d) (c : d.Cell) : Decidable (g.HasPressure c) :=
  inferInstanceAs (Decidable (_ ∧ ∃ n ∈ d.cells.neighbors c, _))

/-- A face between two cells of the domain along an axis of motion.  None of the cells is solid, and
one of them at least holds liquid. -/
def IsDriven (g : Flags d) (a : Axis) (f : d.Face a) : Prop :=
  a ∈ d.activeAxes ∧ ∃ lo hi, d.faceCells a f = (some lo, some hi) ∧
    g.isObstacle lo = false ∧ g.isObstacle hi = false ∧ (g.isFluid lo = true ∨ g.isFluid hi = true)

lemma not_isDriven_of_wall {g : Flags d} {a : Axis} {f : d.Face a}
    (h : g.isWallFace a f = true) : ¬g.IsDriven a f := by
  rintro ⟨-, lo, hi, hcells, hlo, hhi, -⟩
  rw [isWallFace, isWallAt, show d.cellsAtFace a _ = _ from hcells] at h
  simp [hlo, hhi] at h

lemma size_unknowns (g : Flags d) :
    (unknowns g).size = (Finset.univ.filter g.HasPressure).card := by
  have hcells : d.cells.nodes.filter (isOpen g) =
      d.cells.nodes.filter (fun c => decide (g.HasPressure c)) :=
    List.filter_congr fun c _ => Bool.eq_iff_iff.mpr (isOpen_iff.trans decide_eq_true_iff.symm)
  rw [unknowns, List.size_toArray, hcells]
  rfl

end Flags

namespace Projection

variable {g : Flags d} {phi : Option (ScalarField d S)} {v : Staggered d S}

omit [Scalar D] [Precision S D] in
/-- Subtracting a gradient changes faces that the pressure drives, and no others. -/
lemma get_subtractGradient_of_not_isDriven {pressure : ScalarField d S} {a : Axis} {f : d.Face a}
    (h : ¬g.IsDriven a f) :
    ((subtractGradient v pressure g phi).component a).get f = (v.component a).get f := by
  by_cases ha : a ∈ d.activeAxes
  · rw [get_subtractGradient ha]
    split
    · next lo hi hcells =>
        split_ifs with hsolid hdry
        · rfl
        · rfl
        · refine absurd ⟨ha, lo, hi, hcells, ?_⟩ h
          simpa [not_or, or_iff_not_imp_left, and_assoc] using And.intro hsolid hdry
    · rfl
  · rw [subtractGradient, Staggered.component_updateActive, if_neg (mt mem_activeAxes.mpr ha)]

omit [Scalar D] [Precision S D] in
/-- Closed walls stay closed when only driven faces change. -/
lemma closeWalls_eq_self {u w : Staggered d S}
    (h : ∀ a f, ¬g.IsDriven a f →
      (w.component a).get f = ((Velocity.closeWalls g u).component a).get f) :
    Velocity.closeWalls g w = w := by
  refine Staggered.ext_component fun a f => ?_
  by_cases ha : a ∈ d.activeAxes
  · rw [Velocity.get_closeWalls ha]
    split_ifs with hwall
    · rw [h a f (Flags.not_isDriven_of_wall hwall), Velocity.get_closeWalls_of_wall hwall]
    · rfl
  · have hstill : ¬d.isActive a = true := mt mem_activeAxes.mpr ha
    rw [h a f fun hdriven => ha hdriven.1, Velocity.component_closeWalls_of_not_active hstill,
      Velocity.component_closeWalls_of_not_active hstill]

/-! ## Endings -/

/-- The velocity after a projection of `v`; a failure leaves `v`. -/
def Outcome.velocity (o : Outcome d S D) (v : Staggered d S) : Staggered d S :=
  match o.result with
  | .ok p => p.velocity
  | .error _ => v

/-- The pressure after a projection that found `pressure` there; a failure leaves it. -/
def Outcome.pressure (o : Outcome d S D) (pressure : ScalarField d S) : ScalarField d S :=
  match o.result with
  | .ok p => p.pressure
  | .error _ => pressure

/-- The ways in which a projection fails: the right side of the equation is not finite, or else
what the search has found is not, or else the search was given up. -/
inductive Fails {n : ℕ} (system : Poisson d D n) (b : Vector D n) (settings : SolverSettings D) :
    NumericalFailure D → Prop
  | rightSide {u : Fin n} (h : Scalar.isFinite (b.get u) = false) :
      Fails system b settings (.nonFinite "pressure right-hand side")
  | solution {u : Fin n} (hb : ∀ u, Scalar.isFinite (b.get u) = true)
      (h : Scalar.isFinite ((ConjugateGradient.run system b settings).solution.get u) = false) :
      Fails system b settings (.nonFinite "pressure")
  | residual (hb : ∀ u, Scalar.isFinite (b.get u) = true)
      (h : Scalar.isFinite (ConjugateGradient.run system b settings).residual = false) :
      Fails system b settings (.nonFinite "pressure")
  | search (hb : ∀ u, Scalar.isFinite (b.get u) = true)
      (h : (ConjugateGradient.run system b settings).status = .maxIterations) :
      Fails system b settings
        (.notConverged (ConjugateGradient.run system b settings).iterations
          (ConjugateGradient.run system b settings).residual)

omit [Scalar S] [Precision S D] in
lemma exists_not_isFinite {n : ℕ} {x : Vector D n} (h : x.any (!Scalar.isFinite ·) = true) :
    ∃ u, Scalar.isFinite (x.get u) = false := by
  obtain ⟨i, hi, hx⟩ := Vector.any_eq_true.mp h
  exact ⟨⟨i, hi⟩, Bool.not_eq_true' _ ▸ hx⟩

lemma fails_of_solveSystem {n : ℕ} {system : Poisson d D n} {source : S}
    {settings : SolverSettings D} {e : NumericalFailure D}
    (h : solveSystem system v g phi source settings = .error e) :
    Fails system (rightSide system g v source) settings e := by
  rw [solveSystem] at h
  simp only at h
  split_ifs at h with hb hx
  · obtain rfl := Except.error.inj h
    obtain ⟨u, hu⟩ := exists_not_isFinite hb
    exact .rightSide hu
  · obtain rfl := Except.error.inj h
    rw [Bool.not_eq_true, any_not_isFinite] at hb
    rw [Bool.or_eq_true, Bool.not_eq_true'] at hx
    rcases hx with hx | hx
    · obtain ⟨u, hu⟩ := exists_not_isFinite hx
      exact .solution hb hu
    · exact .residual hb hx
  · rw [Bool.not_eq_true, any_not_isFinite] at hb
    cases hstatus :
        (ConjugateGradient.run system (rightSide system g v source) settings).status with
    | converged =>
        rw [hstatus] at h
        cases h
    | maxIterations =>
        rw [hstatus] at h
        obtain rfl := Except.error.inj h
        exact .search hb hstatus

/-- What holds when a projection of `v` succeeds. -/
structure Succeeds (g : Flags d) (v : Staggered d S) (settings : SolverSettings D)
    (p : Projected d S D) : Prop where
  status_eq : p.report.status = .converged
  iterations_le : p.report.iterations ≤ settings.maxIterations
  residual_lt : (∃ c, g.HasPressure c) → p.report.residual < settings.accuracy
  unknowns_eq : p.report.unknowns = (Finset.univ.filter g.HasPressure).card
  pressure_eq : ∀ c, ¬g.HasPressure c → p.pressure.get c = 0
  /-- Only driven faces have changed. -/
  isDriven_of_ne : ∀ a f, (p.velocity.component a).get f ≠ (v.component a).get f → g.IsDriven a f
  /-- Walls that were closed before the projection need not be closed again. -/
  closeWalls_eq : ∀ u, v = Velocity.closeWalls g u →
    Velocity.closeWalls g p.velocity = p.velocity

omit [Precision S D] in
/-- All that is promised about faces follows from which of them have changed. -/
lemma succeeds_of_driven {settings : SolverSettings D} {p : Projected d S D}
    (hstatus : p.report.status = .converged)
    (hiterations : p.report.iterations ≤ settings.maxIterations)
    (hresidual : (∃ c, g.HasPressure c) → p.report.residual < settings.accuracy)
    (hunknowns : p.report.unknowns = (unknowns g).size)
    (hpressure : ∀ c, ¬g.HasPressure c → p.pressure.get c = 0)
    (hvelocity : ∀ a f, ¬g.IsDriven a f →
      (p.velocity.component a).get f = (v.component a).get f) :
    Succeeds g v settings p where
  status_eq := hstatus
  iterations_le := hiterations
  residual_lt := hresidual
  unknowns_eq := hunknowns.trans (Flags.size_unknowns g)
  pressure_eq := hpressure
  isDriven_of_ne a f := not_imp_comm.mp (hvelocity a f)
  closeWalls_eq := by
    rintro u rfl
    exact closeWalls_eq_self hvelocity

/-- **How a projection ends.**  For any velocity, pressure, flags, level set, source and settings a
projection either fails and leaves velocity and pressure as they are, or it succeeds. -/
theorem solve_ends (v : Staggered d S) (pressure : ScalarField d S) (g : Flags d)
    (phi : Option (ScalarField d S)) (source : S) (settings : SolverSettings D) :
    let outcome := solve v g phi source settings
    let system : Poisson d D _ := build g phi
    (∀ e, outcome.result = .error e →
      outcome.velocity v = v ∧ outcome.pressure pressure = pressure ∧
      (∃ c, g.HasPressure c) ∧
      Fails system (rightSide system g v (effectiveSource system source)) settings e) ∧
    (∀ p, outcome.result = .ok p →
      outcome.velocity v = p.velocity ∧ outcome.pressure pressure = p.pressure ∧
      Succeeds g v settings p) := by
  intro outcome system
  have hresult : outcome.result = if (unknowns g).size = 0 then
      .ok ⟨v, Field.constant d.cells 0, ⟨.converged, 0, 0, 0⟩⟩
      else solveSystem system v g phi (effectiveSource system source) settings := by
    show (solve v g phi source settings).result = _
    rw [solve]
    split_ifs <;> rfl
  have hcells : (unknowns g).size ≠ 0 ↔ ∃ c, g.HasPressure c := by
    rw [Flags.size_unknowns, Finset.card_ne_zero]
    simp [Finset.filter_nonempty_iff]
  refine ⟨fun e h => ?_, fun p h => ?_⟩
  · refine ⟨by rw [Outcome.velocity, h], by rw [Outcome.pressure, h], ?_⟩
    rw [hresult] at h
    split_ifs at h with hnone
    exact ⟨hcells.mp hnone, fails_of_solveSystem h⟩
  · refine ⟨by rw [Outcome.velocity, h], by rw [Outcome.pressure, h], ?_⟩
    rw [hresult] at h
    split_ifs at h with hnone
    · obtain rfl := Except.ok.inj h
      exact succeeds_of_driven rfl (Nat.zero_le _) (fun hsome => absurd hnone (hcells.mpr hsome))
        hnone.symm (fun c _ => Field.get_constant _ c) fun _ _ _ => rfl
    · obtain ⟨-, -, hstatus, rfl⟩ := solveSystem_eq_ok h
      obtain ⟨hiterations, hresidual⟩ := ConjugateGradient.run_converged hstatus
      refine succeeds_of_driven rfl hiterations (fun _ => hresidual) rfl (fun c hc => ?_)
        fun a f hf => get_subtractGradient_of_not_isDriven hf
      refine get_scatter_of_forall_ne _ fun u hu => hc ?_
      exact isOpen_iff.mp (hu ▸ isOpen_cellOf u)

/-! ## A droplet -/

/-- A cell of liquid beside a cell of air. -/
def droplet : Flags (planar 1 0) :=
  ⟨Field.tabulate fun c => if c.val = 0 then .fluid else .empty, 0⟩

def breeze : Staggered (planar 1 0) Float32 := .constant _ 1

/-- The pressure of the droplet is found in one round, and not in none. -/
theorem solve_ends_droplet :
    let settings (rounds : ℕ) : SolverSettings Float := ⟨1e-3, rounds⟩
    let outcome (rounds : ℕ) := solve breeze droplet none 0.5 (settings rounds)
    (∃ p, (outcome 1).result = .ok p ∧ Succeeds droplet breeze (settings 1) p) ∧
    (∃ e, (outcome 0).result = .error e ∧ (outcome 0).velocity breeze = breeze) := by
  intro settings outcome
  have hends := fun rounds =>
    solve_ends breeze (Field.constant _ 0) droplet none (0.5 : Float32) (settings rounds)
  constructor
  · cases h : (outcome 1).result with
    | ok p => exact ⟨p, rfl, ((hends 1).2 p h).2.2⟩
    | error e =>
        have hsome : (outcome 1).result.toOption.isSome = true := by decide +kernel
        rw [h] at hsome
        cases hsome
  · cases h : (outcome 0).result with
    | error e => exact ⟨e, rfl, ((hends 0).1 e h).1⟩
    | ok p =>
        have hnone : (outcome 0).result.toOption.isSome = false := by decide +kernel
        rw [h] at hnone
        cases hnone

end Projection

end FreeSurface

import FreeSurface.Proofs.Run.Advance
import FreeSurface.Proofs.Surface.Extension
import FreeSurface.Proofs.Surface.Sweeping
import FreeSurface.Random.ChaCha

/-!
# Flags and level set agree

In every state that a run leads to, the level set and the flags describe the same liquid, between
the same solids.

* `State.Agrees` — the solid cells are those of the scene, the liquid is where the level set is
  negative, and the level set is extended into the solid cells.
* `State.Agrees.forced`, `State.Agrees.finished` — a step re-establishes this up to the projection,
  and keeps it afterwards: reinitialization moves no sign.
* `Simulation.Reachable.surface_consistent` — it holds in every run, whichever steps of it fail.
-/

namespace FreeSurface

open Surface

variable {d : Dims} {R : Type}

/-- The level set and the flags of a state describe the same liquid, with obstacles where `solids`
has them. -/
structure State.Agrees (solids : Flags d) (s : State d Exact Exact R) : Prop where
  isObstacle_eq : ∀ c, s.flags.isObstacle c = solids.isObstacle c
  isFluid_iff : ∀ c, s.flags.isObstacle c = false →
    (s.flags.isFluid c = true ↔ s.phi.get c < surfaceThreshold)
  extended : extendIntoObstacles s.phi s.flags = s.phi

namespace State.Agrees

variable {solids : Flags d} {s s' : State d Exact Exact R}

lemma congr (h : s.Agrees solids) (hflags : s'.flags = s.flags) (hphi : s'.phi = s.phi) :
    s'.Agrees solids where
  isObstacle_eq := by
    rw [hflags]
    exact h.isObstacle_eq
  isFluid_iff := by
    rw [hflags, hphi]
    exact h.isFluid_iff
  extended := by
    rw [hflags, hphi]
    exact h.extended

/-- Flagging the cells by a level set that has been extended makes a state agree. -/
lemma of_reclassify {g : Flags d} {phi : ScalarField d Exact}
    (hobstacle : ∀ c, g.isObstacle c = solids.isObstacle c)
    (hflags : s.flags = g.reclassify phi) (hphi : s.phi = phi)
    (hextended : extendIntoObstacles phi g = phi) : s.Agrees solids where
  isObstacle_eq c := by
    rw [hflags, Flags.isObstacle_reclassify]
    exact hobstacle c
  isFluid_iff c hc := by
    rw [hflags, Flags.isObstacle_reclassify] at hc
    rw [hflags, hphi]
    exact Flags.isFluid_reclassify g phi hc
  extended := by
    rw [hflags, hphi, extendIntoObstacles_congr phi (Flags.isObstacle_reclassify g phi)]
    exact hextended

/-- Moving no sign and extending anew keeps the agreement. -/
lemma of_signs {phi : ScalarField d Exact} (h : s.Agrees solids) (hflags : s'.flags = s.flags)
    (hsigns : ∀ c, isInside (phi.get c) = isInside (s.phi.get c))
    (hphi : s'.phi = extendIntoObstacles phi s.flags) : s'.Agrees solids where
  isObstacle_eq := by
    rw [hflags]
    exact h.isObstacle_eq
  isFluid_iff c hc := by
    rw [hflags] at hc ⊢
    -- An open cell keeps the value that moved no sign; the extension rewrites solid cells only.
    have hsign : phi.get c < surfaceThreshold ↔ s.phi.get c < surfaceThreshold := by
      have hiff := Bool.eq_iff_iff.mp (hsigns c)
      simp only [isInside, decide_eq_true_eq] at hiff
      exact hiff
    rw [hphi, get_extendIntoObstacles_of_open phi s.flags hc, hsign]
    exact h.isFluid_iff c hc
  extended := by
    rw [hflags, hphi]
    exact extendIntoObstacles_extendIntoObstacles phi s.flags

/-! ## Up to the projection -/

lemma advect (h : s.Agrees solids) (dt : Exact) : (Step.advect s dt).Agrees solids :=
  of_reclassify h.isObstacle_eq rfl rfl (extendIntoObstacles_extendIntoObstacles _ s.flags)

/-- Any level set will do: closing it makes the state agree. -/
lemma closeSurface (hobstacle : ∀ c, s.flags.isObstacle c = solids.isObstacle c) :
    (Variant.closeSurface s).Agrees solids :=
  of_reclassify hobstacle rfl rfl (extendIntoObstacles_extendIntoObstacles _ s.flags)

lemma rebuildSurface (h : s.Agrees solids) (c : Config Exact Exact) :
    (Variant.rebuildSurface c s).Agrees solids := by
  rw [Variant.rebuildSurface]
  cases c.mode with
  | levelset => exact of_reclassify h.isObstacle_eq rfl rfl h.extended
  | flip0 => exact closeSurface h.isObstacle_eq
  | flip => exact closeSurface h.isObstacle_eq
  | nbflip => exact closeSurface h.isObstacle_eq

lemma forced (h : s.Agrees solids) (c : Config Exact Exact) (dt : Exact) :
    (Step.forced c dt s).Agrees solids :=
  ((h.advect (narrow dt)).rebuildSurface c).congr (Step.flags_forced c dt s)
    (Step.phi_forced c dt s)

/-! ## After the projection -/

/-- Reinitialization comes after the cells were flagged for the last time, so it has to leave every
sign where it was. -/
lemma transportAndReinit (h : s.Agrees solids) : (Variant.transportAndReinit s).Agrees solids :=
  h.of_signs rfl (isInside_reinitExact s.phi) rfl

lemma finishVelocity (h : s.Agrees solids) (c : Config Exact Exact) (speed : Exact) :
    (Variant.finishVelocity c s speed).Agrees solids := by
  rw [Variant.finishVelocity]
  cases c.mode with
  | levelset => exact h.transportAndReinit
  | flip0 => exact h.transportAndReinit
  | flip => exact h.congr rfl rfl
  | nbflip => exact h.congr rfl rfl

lemma finished (h : s.Agrees solids) (c : Config Exact Exact) (speed : Exact) :
    (Step.finished c speed s).Agrees solids := by
  refine (h.finishVelocity c speed).congr ?_ (Step.phi_finished c speed s)
  rw [Step.finished, Variant.updateParticles]
  cases c.mode <;> rfl

lemma completed [RandomSource R Exact] {c : Config Exact Exact} {dt speed : Exact}
    {p : Projection.Projected d Exact Exact} {report : StepReport Exact Exact}
    (h : s.Agrees solids) (hstep : Step.Completed c dt speed s p s' report) :
    s'.Agrees solids := by
  have hprojected : (Step.withProjection (Step.forced c dt s) p).Agrees solids :=
    (h.forced c dt).congr rfl rfl
  rw [hstep.final_eq]
  exact (hprojected.finished c speed).congr rfl rfl

end State.Agrees

/-! ## Runs -/

variable [RandomSource R Exact]

/-- A scene starts with flags and level set in agreement: extending the level set of its liquid
leaves the open cells alone. -/
lemma State.agrees_initial (c : Config Exact Exact) (d : Dims) :
    (State.initial c d : State d Exact Exact R).Agrees (c.scene.build d).1 where
  isObstacle_eq _ := rfl
  isFluid_iff cell hcell := by
    have hphi : (State.initial c d : State d Exact Exact R).phi.get cell =
        (c.scene.liquid d).get cell :=
      get_extendIntoObstacles_of_open (c.scene.liquid d) (c.scene.build d).1 hcell
    rw [hphi]
    refine Flags.isFluid_reclassify (c.scene.solids d) (c.scene.liquid d) ?_
    rw [← Flags.isObstacle_reclassify (c.scene.solids d) (c.scene.liquid d)]
    exact hcell
  extended := extendIntoObstacles_extendIntoObstacles (c.scene.liquid d) (c.scene.build d).1

namespace Simulation

/-- **In every run, flags and level set agree.** -/
theorem Reachable.agrees {c : Config Exact Exact} {sim : Simulation Exact Exact R}
    (h : Reachable c sim) : sim.state.Agrees (sim.config.scene.build sim.dims).1 := by
  refine Reachable.invariant
    (P := fun sim => sim.state.Agrees (sim.config.scene.build sim.dims).1) ?_ ?_ ?_ h
  · exact State.agrees_initial c.normalized c.normalizedDims
  · exact fun sim clock h => h.congr rfl rfl
  · exact fun sim dt speed p final report h hstep => h.completed hstep

/-- A step reports the volume of the state it commits. -/
theorem volume_of_advance {sim : Simulation Exact Exact R} {report : StepReport Exact Exact}
    (h : sim.advance.result = .ok report) :
    report.volume = sim.advance.simulation.state.flags.fluidCount := by
  obtain ⟨prepared, dt, speed, p, final, first, clock, -, hstep, hafter, hreport⟩ :=
    completed_of_advance h
  rw [hafter, hreport]
  show first.volume = final.flags.fluidCount
  rw [hstep.report_eq, hstep.flags_eq]

/-- **The surface in a run.**  Whatever steps and frames lead to — successes, retries and failures
alike — the solid cells are those of the scene, an open cell is liquid exactly where the level set
is negative, the level set is extended into the solid cells, and a step that succeeds reports the
volume it commits. -/
theorem Reachable.surface_consistent {c : Config Exact Exact} {sim : Simulation Exact Exact R}
    (h : Reachable c sim) :
    (sim.config = c.normalized ∧ sim.dims = c.normalizedDims) ∧
    (∀ cell, sim.state.flags.isObstacle cell =
      (sim.config.scene.build sim.dims).1.isObstacle cell) ∧
    (∀ cell, sim.state.flags.isObstacle cell = false →
      (sim.state.flags.isFluid cell = true ↔ sim.state.phi.get cell < surfaceThreshold)) ∧
    extendIntoObstacles sim.state.phi sim.state.flags = sim.state.phi ∧
    ∀ report, sim.advance.result = .ok report →
      report.volume = sim.advance.simulation.state.flags.fluidCount := by
  have hagrees := h.agrees
  exact ⟨h.config_eq, hagrees.isObstacle_eq, hagrees.isFluid_iff, hagrees.extended,
    fun _ hreport => volume_of_advance hreport⟩

/-- The standard scene after one step. -/
theorem surface_consistent_standard :
    let sim : Simulation Exact Exact (Generator Exact) := (start Config.standard).advance.simulation
    Reachable Config.standard sim ∧
    (∀ cell, sim.state.flags.isObstacle cell =
      (sim.config.scene.build sim.dims).1.isObstacle cell) ∧
    (∀ cell, sim.state.flags.isObstacle cell = false →
      (sim.state.flags.isFluid cell = true ↔ sim.state.phi.get cell < surfaceThreshold)) ∧
    extendIntoObstacles sim.state.phi sim.state.flags = sim.state.phi := by
  intro sim
  have hreachable : Reachable Config.standard sim := Reachable.advance Reachable.start
  have h := Reachable.surface_consistent hreachable
  exact ⟨hreachable, h.2.1, h.2.2.1, h.2.2.2.1⟩

end Simulation

end FreeSurface

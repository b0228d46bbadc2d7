import FreeSurface.Proofs.Clock
import FreeSurface.Proofs.Lattice.Incidence
import FreeSurface.Proofs.Run.Advance
import FreeSurface.Random.ChaCha

/-!
# A step happens entirely or not at all

Every stage of a step changes the state, and any of them can fail.

* `Step.Completed.finite` — a step that succeeds leaves finite quantities.
* `Simulation.advance_atomic` — a step that fails twice leaves the state in which it was prepared;
  one that succeeds at the second attempt keeps nothing of the first; and what is committed is
  finite.
-/

namespace FreeSurface

/-! ## What is committed -/

namespace Step

variable {d : Dims} {S D R : Type} [Scalar S] [Scalar D] [Precision S D] [RandomSource R S]

/-- All that a state stores about the liquid is finite. -/
def IsFinite (s : State d S D R) : Prop :=
  Field.allFinite s.phi = true ∧ s.velocity.allFinite = true ∧ s.reference.allFinite = true ∧
    Particles.allFinite s.particles = true

/-- A step that succeeds leaves finite quantities: level set and velocity are checked at its end,
particles after the last of them were added, and the reference when it was set. -/
lemma Completed.finite {c : Config S D} {dt : D} {speed : S} {start final : State d S D R}
    {p : Projection.Projected d S D} {report : StepReport S D}
    (h : Completed c dt speed start p final report) : IsFinite final := by
  rw [h.final_eq]
  refine ⟨h.phi_last, h.velocity_last, ?_, h.particles_adjusted⟩
  have hreference : (finished c speed (withProjection (forced c dt start) p)).reference =
      (Variant.transferVelocity c
        (Variant.rebuildSurface c (advect start (narrow dt)))).1.velocity :=
    (reference_finished c speed _).trans (reference_forced c dt start)
  show (finished c speed (withProjection (forced c dt start) p)).reference.allFinite = true
  rw [hreference]
  exact h.velocity_transferred

end Step

/-! ## Success and failure -/

namespace Simulation

variable {S D R : Type} [Scalar S] [Scalar D] [Precision S D] [RandomSource R S]

lemma attempt_fst (sim : Simulation S D R) (dt : D) (speed : S) :
    ((Step.attempt sim.config dt speed sim.state).run.run []).1 = sim.outcome dt speed :=
  Step.attempt_settles sim.config dt speed sim.state []

lemma finite_of_advance {sim : Simulation S D R} {report : StepReport S D}
    (h : sim.advance.result = .ok report) : Step.IsFinite sim.advance.simulation.state := by
  obtain ⟨prepared, dt, speed, p, final, first, clock, -, hstep, hafter, -⟩ :=
    completed_of_advance h
  rw [hafter]
  exact hstep.finite

variable {sim : Simulation S D R} {clock : Clock D}

omit [RandomSource R S] in
lemma prepare_of_choose
    (h : sim.state.clock.rollover.choose? (widen sim.state.velocity.maxMagnitude) = .ok clock) :
    sim.prepare = .ok (sim.withClock clock) :=
  prepare_eq_ok.mpr ⟨clock, h, rfl⟩

/-- A step that fails leaves the simulation in which it was prepared. -/
lemma advance_error
    (h : sim.state.clock.rollover.choose? (widen sim.state.velocity.maxMagnitude) = .ok clock)
    {e : StepFailure D} (herror : sim.advance.result = .error e) :
    sim.advance.simulation = sim.withClock clock ∧
    ∃ second : StageFailure D,
      (sim.withClock clock).outcome clock.halve.dt sim.state.velocity.maxMagnitude
        = .error second ∧
      e = .aborted clock.frame clock.stepsInFrame second := by
  have hending := ending_advance sim
  have hprepare := prepare_of_choose h
  rw [herror] at hending
  generalize sim.advance.simulation = after at hending ⊢
  cases hending with
  | unprepared hnone =>
      rw [hprepare] at hnone
      cases hnone
  | failed hsome _ hsecond =>
      rw [hprepare] at hsome
      obtain rfl := Except.ok.inj hsome
      exact ⟨rfl, _, hsecond, rfl⟩

/-- A step that succeeds at its second attempt is that attempt and nothing else. -/
lemma advance_retried
    (h : sim.state.clock.rollover.choose? (widen sim.state.velocity.maxMagnitude) = .ok clock)
    {report : StepReport S D} (hok : sim.advance.result = .ok report)
    (hretried : report.retried = true) :
    ∃ (final : State sim.dims S D R) (half : StepReport S D),
      (sim.withClock clock).outcome clock.halve.dt sim.state.velocity.maxMagnitude
        = .ok (final, half) ∧
      sim.advance.simulation = (sim.withState final).withClock clock.halve.commit ∧
      report = { half with retried := true } := by
  have hending := ending_advance sim
  have hprepare := prepare_of_choose h
  rw [hok] at hending
  generalize sim.advance.simulation = after at hending ⊢
  cases hending with
  | chosen hsome hfirst =>
      obtain ⟨p, hp⟩ := Step.outcome_eq_ok.mp hfirst
      rw [hp.retried_eq] at hretried
      cases hretried
  | halved hsome _ hsecond =>
      rw [hprepare] at hsome
      obtain rfl := Except.ok.inj hsome
      exact ⟨_, _, hsecond, rfl, rfl⟩

/-- **A step happens entirely or not at all.**  Let `clock` be the clock as the step finds it, in a
frame that is not complete and with the size of the step chosen.

* A step that fails leaves everything as it was, up to that clock, and tells why the second attempt
  failed.
* A step that succeeds at the second attempt is a single attempt at half the size, from the state in
  which the step was prepared.
* Whatever is committed is finite. -/
theorem advance_atomic
    (h : sim.state.clock.rollover.choose? (widen sim.state.velocity.maxMagnitude) = .ok clock) :
    (∃ dt, clock = { sim.state.clock.rollover with dt := dt }) ∧
    (∀ e, sim.advance.result = .error e →
      sim.advance.simulation = sim.withClock clock ∧
      ∃ second : StageFailure D,
        ((Step.attempt sim.config clock.halve.dt sim.state.velocity.maxMagnitude
          (sim.withClock clock).state).run.run []).1 = .error second ∧
        e = .aborted clock.frame clock.stepsInFrame second) ∧
    (∀ report, sim.advance.result = .ok report → report.retried = true →
      ∃ (final : State sim.dims S D R) (half : StepReport S D),
        ((Step.attempt sim.config clock.halve.dt sim.state.velocity.maxMagnitude
          (sim.withClock clock).state).run.run []).1 = .ok (final, half) ∧
        sim.advance.simulation =
          { sim with state := { final with clock := clock.halve.commit } } ∧
        report = { half with retried := true }) ∧
    (∀ report, sim.advance.result = .ok report →
      Field.allFinite sim.advance.simulation.state.phi = true ∧
      sim.advance.simulation.state.velocity.allFinite = true ∧
      sim.advance.simulation.state.reference.allFinite = true ∧
      Particles.allFinite sim.advance.simulation.state.particles = true) := by
  have hattempt := attempt_fst (sim.withClock clock) clock.halve.dt sim.state.velocity.maxMagnitude
  refine ⟨Clock.choose?_eq_ok h, ?_, ?_, fun report hok => finite_of_advance hok⟩
  · intro e herror
    obtain ⟨hafter, second, hsecond, he⟩ := advance_error h herror
    exact ⟨hafter, second, hattempt.trans hsecond, he⟩
  · intro report hok hretried
    obtain ⟨final, half, hsecond, hafter, hreport⟩ := advance_retried h hok hretried
    exact ⟨final, half, hattempt.trans hsecond, hafter, hreport⟩

/-- The standard scene on a planar domain of eight by eight cells, before any step. -/
noncomputable def standardTank : Simulation Exact Exact (Generator Exact) :=
  let d : Dims := .planar 7 7
  ⟨Config.standard, d, State.initial Config.standard d⟩

/-- The bounds of the standard configuration are in order, so a step can always be prepared. -/
theorem advance_atomic_standardTank :
    ∃ clock, standardTank.state.clock.rollover.choose?
        (widen standardTank.state.velocity.maxMagnitude) = .ok clock ∧
      (∀ e, standardTank.advance.result = .error e →
        standardTank.advance.simulation = standardTank.withClock clock) ∧
      (∀ report, standardTank.advance.result = .ok report →
        standardTank.advance.simulation.state.velocity.allFinite = true) := by
  have hbounds : standardTank.state.clock.rollover.settings.timestepMin ≤
      standardTank.state.clock.rollover.settings.timestepMax := by
    rw [Clock.settings_rollover]
    show Exact.real (((2 : ℕ) : ℝ) / 10 ^ 1) ≤ Exact.real ((2 : ℕ) : ℝ)
    rw [Exact.real_le_real]
    norm_num
  obtain ⟨clock, hclock⟩ := Clock.exists_choose? hbounds
    (widen standardTank.state.velocity.maxMagnitude)
  have h := advance_atomic hclock
  exact ⟨clock, hclock, fun e he => (h.2.1 e he).1, fun report hok => (h.2.2.2 report hok).2.1⟩

end Simulation

end FreeSurface

import FreeSurface.Proofs.Config.Rules
import FreeSurface.Proofs.Particle.Density
import FreeSurface.Proofs.Particle.Seeding
import FreeSurface.Proofs.Run.Atomicity
import FreeSurface.Proofs.Run.Surface

/-!
# Particles in a run

Particles are carried without regard to obstacles, so it is the adjustment at the end of a step that
keeps them where they belong.  It can, because the state it finds agrees: an open cell is flagged as
liquid exactly where the level set is negative.

* `State.Keeps` — what every particle is like in a state that a step has committed.
* `Step.Completed.keeps` — **a step that succeeds keeps its particles in the liquid.**
* `Simulation.Reachable.particles_placed` — **in every run** no particle is misplaced, and from the
  first step that succeeds on all of them are kept.

Steps need not succeed for this: a step that fails leaves the particles where they were.
-/

namespace FreeSurface

open Exact
open scoped Literals

/-! ## Domains that can be stored -/

/-- A domain of which an array of single precision numbers, one for each cell, has a size that can
be addressed.  Of any other domain there is no state. -/
def Dims.IsStorable (d : Dims) : Prop := 4 * d.cellCount < 2 ^ 63

lemma Config.addressable_normalizedDims {S D : Type} [Scalar S] [Scalar D] (c : Config S D)
    (h : c.normalizedDims.IsStorable) : c.normalizedDims.Addressable 0 := by
  have hdepth := c.normalizedDims.depth_pos
  have hcount : 4 * (c.normalized.resolution * c.normalized.resolution *
    c.normalizedDims.depth) < 2 ^ 63 := h
  have hside : c.normalized.resolution < 2 ^ 31 := by
    by_contra hlarge
    have hsquare : 2 ^ 31 * 2 ^ 31 ≤ c.normalized.resolution * c.normalized.resolution :=
      Nat.mul_le_mul (by omega) (by omega)
    have hcube := Nat.le_mul_of_pos_right (c.normalized.resolution * c.normalized.resolution) hdepth
    omega
  refine ⟨hside, hside, ?_⟩
  show (if c.normalized.dimension = 2 then 1 else c.normalized.resolution) < 2 ^ 31
  split_ifs
  · norm_num
  · exact hside

/-- A resolution of up to about a million leaves room for the third dimension. -/
lemma Config.isStorable_normalizedDims {S D : Type} [Scalar S] [Scalar D] (c : Config S D)
    (h : c.resolution ≤ 2 ^ 20) : c.normalizedDims.IsStorable := by
  have hside : c.normalized.resolution ≤ 2 ^ 20 := by
    rw [resolution_normalized]
    exact Nat.max_le.mpr ⟨by decide, h⟩
  have hdepth : c.normalizedDims.depth ≤ 2 ^ 20 := by
    show (if c.normalized.dimension = 2 then 1 else c.normalized.resolution) ≤ 2 ^ 20
    split_ifs
    · norm_num
    · exact hside
  calc 4 * c.normalizedDims.cellCount
      = 4 * (c.normalized.resolution * c.normalized.resolution * c.normalizedDims.depth) := rfl
    _ ≤ 4 * (2 ^ 20 * 2 ^ 20 * 2 ^ 20) := by gcongr
    _ < 2 ^ 63 := by norm_num

/-! ## Particles of a committed state -/

variable {d : Dims} {R : Type}

/-- A particle is finite and in the liquid, and in narrow-band mode in the band. -/
structure State.Keeps (c : Config Exact Exact) (s : State d Exact Exact R) (p : Particle Exact) :
    Prop where
  finite : p.isFinite = true
  inside : ScalarField.sample s.phi p.position ≤ 0
  band : c.mode = .nbflip → 0 < c.narrowBand →
    -c.narrowBand ≤ ScalarField.sample s.phi p.position

/-- Only the level set matters. -/
lemma State.Keeps.congr {c : Config Exact Exact} {s s' : State d Exact Exact R}
    {p : Particle Exact} (h : s.Keeps c p) (hphi : s'.phi = s.phi) : s'.Keeps c p := by
  obtain ⟨hfinite, hinside, hband⟩ := h
  rw [← hphi] at hinside hband
  exact ⟨hfinite, hinside, hband⟩

variable [RandomSource R Exact]

namespace Step

variable {c : Config Exact Exact} {dt speed : Exact} {start final : State d Exact Exact R}
  {p : Projection.Projected d Exact Exact} {report : StepReport Exact Exact}

/-- Particles that a step leaves are settled. -/
lemma Completed.settled {solids : Flags d} (hd : d.Addressable 0)
    (h : Completed c dt speed start p final report) (hagrees : final.Agrees solids) :
    ∀ q ∈ final.particles,
      Density.Settled (densitySettings c d) final.flags final.phi q.position := by
  have hphi := Field.allFinite_iff.mp h.finite.1
  have hliquid : ∀ cell, final.flags.isFluid cell = true →
      final.flags.isObstacle cell = false ∧ final.phi.get cell < 0 := by
    intro cell hfluid
    have hopen : final.flags.isObstacle cell = false := by
      rw [Bool.eq_false_iff, ne_eq, Flags.isObstacle_iff, Flags.isFluid_iff.mp hfluid]
      decide
    exact ⟨hopen, (hagrees.isFluid_iff cell hopen).mp hfluid⟩
  have hfinal := h.final_eq
  generalize finished c speed (withProjection (forced c dt start) p) = last at hfinal
  subst hfinal
  exact Density.settled_adjust hd hphi hliquid last.particles last.velocity last.random

/-- **A step that succeeds keeps its particles in the liquid.** -/
theorem Completed.keeps {solids : Flags d} (hd : d.Addressable 0)
    (h : Completed c dt speed start p final report) (hagrees : final.Agrees solids) :
    ∀ q ∈ final.particles,
      Particles.isMisplaced final.flags q = false ∧ final.Keeps c q := by
  intro q hq
  have hsettled := h.settled hd hagrees q hq
  obtain ⟨cell, hcell, hopen⟩ := hsettled.cell
  refine ⟨Particles.isMisplaced_eq_false hcell hopen, ?_, hsettled.inside, fun hmode hband => ?_⟩
  · exact (Array.all_eq_true_iff_forall_mem.mp h.finite.2.2.2) q hq
  · have hbandwidth : (densitySettings c d).band = c.narrowBand := by
      rw [densitySettings, Variant.particleBand, hmode]
    have hin := hsettled.band
    rw [Density.inBand, hbandwidth, Bool.or_eq_true, decide_eq_true_eq, decide_eq_true_eq] at hin
    exact hin.resolve_left (not_le_of_lt hband)

end Step

/-! ## Runs -/

/-- The particles of a new simulation lie in open cells. -/
lemma State.placed_initial (hR : RandomSource.Centered R) (hd : d.Addressable 0)
    (c : Config Exact Exact) :
    ∀ q ∈ (State.initial c d : State d Exact Exact R).particles,
      Particles.isMisplaced (State.initial c d : State d Exact Exact R).flags q = false := by
  have hseeds := State.forall_seeds hR
    (P := fun q => Particles.isMisplaced (c.scene.build d).1 q = false)
    (Surface.extendIntoObstacles (c.scene.build d).2 (c.scene.build d).1)
    (RandomSource.ofSeed c.seed) fun hopen hwithin =>
      Particles.isMisplaced_eq_false (Dims.cellAt?_of_within hd hwithin) hopen
  intro q hq
  simp only [initial] at hq ⊢
  split_ifs at hq
  · exact hseeds q hq
  · -- Taking a velocity moves no particle.
    obtain ⟨seed, hseed, rfl⟩ := Array.mem_map.mp hq
    exact hseeds seed hseed

namespace Simulation

/-- What is kept about the particles of a run. -/
structure Tended (c : Config Exact Exact) (sim : Simulation Exact Exact R) : Prop where
  addressable : sim.dims.Addressable 0
  agrees : sim.state.Agrees (sim.config.scene.build sim.dims).1
  placed : ∀ q ∈ sim.state.particles, Particles.isMisplaced sim.state.flags q = false
  /-- Nothing but the clock has moved since the start, or a step has succeeded. -/
  kept : (∃ clock, sim = (start c).withClock clock) ∨
    ∀ q ∈ sim.state.particles, sim.state.Keeps sim.config q

variable {c : Config Exact Exact} {sim : Simulation Exact Exact R}

lemma Tended.withClock (h : sim.Tended c) (clock : Clock Exact) :
    (sim.withClock clock).Tended c where
  addressable := h.addressable
  agrees := h.agrees.congr rfl rfl
  placed := h.placed
  kept := h.kept.imp (fun ⟨_, hsim⟩ => ⟨clock, by rw [hsim]; rfl⟩) fun hkeeps q hq =>
    (hkeeps q hq).congr rfl

lemma Tended.step (h : sim.Tended c) {dt speed : Exact}
    {p : Projection.Projected sim.dims Exact Exact} {final : State sim.dims Exact Exact R}
    {report : StepReport Exact Exact}
    (hstep : Step.Completed sim.config dt speed sim.state p final report) :
    (sim.withState final).Tended c := by
  have hagrees := h.agrees.completed hstep
  have hkeeps := hstep.keeps h.addressable hagrees
  exact ⟨h.addressable, hagrees, fun q hq => (hkeeps q hq).1, .inr fun q hq => (hkeeps q hq).2⟩

lemma Reachable.tended (hR : RandomSource.Centered R) (hd : c.normalizedDims.IsStorable)
    (h : Reachable c sim) : sim.Tended c := by
  have haddressable := c.addressable_normalizedDims hd
  refine Reachable.invariant (P := fun sim => sim.Tended c) ?_ ?_ ?_ h
  · exact ⟨haddressable, State.agrees_initial c.normalized c.normalizedDims,
      State.placed_initial hR haddressable c.normalized, .inl ⟨_, rfl⟩⟩
  · exact fun sim clock h => h.withClock clock
  · exact fun sim dt speed p final report h hstep => h.step hstep

/-- **Particles in a run.**  If symmetric draws lie between `-1` and `1` and the domain can be
stored, then whatever steps lead to, successful, retried or failed, no particle lies in a solid cell
or outside the domain.  Once a step has succeeded, every particle is finite and in the liquid, and
in narrow-band mode no deeper than the band; so a simulation whose particles are not like this
differs from the start in its clock at most. -/
theorem Reachable.particles_placed (hR : RandomSource.Centered R)
    (hd : c.normalizedDims.IsStorable) (h : Reachable c sim) :
    Particles.countMisplaced sim.state.flags sim.state.particles = 0 ∧
    (∀ report, sim.advance.result = .ok report → ∀ q ∈ sim.advance.simulation.state.particles,
      sim.advance.simulation.state.Keeps sim.advance.simulation.config q) ∧
    ((∃ clock, sim = (Simulation.start c).withClock clock) ∨
      ∀ q ∈ sim.state.particles, sim.state.Keeps sim.config q) := by
  have htended := h.tended hR hd
  refine ⟨Particles.countMisplaced_eq_zero.mpr htended.placed, fun report hreport => ?_,
    htended.kept⟩
  obtain ⟨prepared, dt, speed, p, final, first, clock, hprepare, hstep, hafter, -⟩ :=
    completed_of_advance hreport
  obtain ⟨chosen, -, rfl⟩ := prepare_eq_ok.mp hprepare
  have hkeeps := hstep.keeps htended.addressable ((htended.withClock chosen).agrees.completed hstep)
  rw [hafter]
  exact fun q hq => (hkeeps q hq).2.congr rfl

/-- The standard scene after one step. -/
theorem particles_placed_standard :
    let sim : Simulation Exact Exact (Generator Exact) := (start Config.standard).advance.simulation
    RandomSource.Centered (Generator Exact) ∧
    (Config.standard : Config Exact Exact).normalizedDims.IsStorable ∧
    Reachable Config.standard sim ∧
    Particles.countMisplaced sim.state.flags sim.state.particles = 0 ∧
    (∀ report, sim.advance.result = .ok report → ∀ q ∈ sim.advance.simulation.state.particles,
      sim.advance.simulation.state.Keeps sim.advance.simulation.config q) ∧
    ((∃ clock, sim = (start Config.standard).withClock clock) ∨
      ∀ q ∈ sim.state.particles, sim.state.Keeps sim.config q) := by
  intro sim
  have hstorable := Config.isStorable_normalizedDims (Config.standard : Config Exact Exact)
    (by decide)
  have hreachable : Reachable Config.standard sim := Reachable.advance Reachable.start
  exact ⟨ChaCha.centered_generator, hstorable, hreachable,
    Reachable.particles_placed ChaCha.centered_generator hstorable hreachable⟩

end Simulation

end FreeSurface

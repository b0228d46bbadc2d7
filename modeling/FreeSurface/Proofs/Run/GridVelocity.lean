import FreeSurface.Number.Machine
import FreeSurface.Proofs.Config.Rules
import FreeSurface.Proofs.Particle.Density
import FreeSurface.Proofs.Run.Advance
import FreeSurface.Random.ChaCha

/-!
# Particles that follow the grid

In mode `flip0` particles keep nothing of their own: the velocity of a particle is that of the grid
at its place.  Every way to get a velocity ends there.

* Seeds take it from the grid by the kernel of the configuration, which normalization has made the
  linear one (`State.followsGrid_initial`).
* In a step all particles take it after the last change of the velocity of the grid; what follows
  removes particles, and adds some that take it by the kernel of the configuration again
  (`Step.Completed.followsGrid`).

`Simulation.Reachable.velocity_eq_sample` is what this makes of runs.
-/

namespace FreeSurface

variable {d : Dims} {S D R : Type} [Scalar S]

/-- Every particle has the velocity of the grid at its place. -/
def State.FollowsGrid (s : State d S D R) : Prop :=
  ∀ p ∈ s.particles, p.velocity = Transfer.sampleVelocity s.velocity p.position .dLinear

lemma Transfer.velocity_eq_of_mem_takeVelocity {ps : Particles S} {v : Staggered d S}
    {kernel : Kernel} {p : Particle S} (h : p ∈ takeVelocity ps v kernel) :
    p.velocity = sampleVelocity v p.position kernel := by
  obtain ⟨q, -, rfl⟩ := Array.mem_map.mp h
  rfl

variable [Scalar D] [RandomSource R S]

lemma State.followsGrid_initial {c : Config S D} (hmode : c.mode = .flip0)
    (hkernel : c.kernel = .dLinear) : (State.initial c d : State d S D R).FollowsGrid := by
  intro p hp
  simp only [initial, hmode, reduceCtorEq, if_false, hkernel] at hp
  exact Transfer.velocity_eq_of_mem_takeVelocity hp

variable [Precision S D]

/-- A step that succeeds ends with particles that follow the grid, whatever they did before. -/
lemma Step.Completed.followsGrid {c : Config S D} {dt : D} {speed : S} {start final : State d S D R}
    {p : Projection.Projected d S D} {report : StepReport S D}
    (h : Completed c dt speed start p final report) (hmode : c.mode = .flip0)
    (hkernel : c.kernel = .dLinear) : final.FollowsGrid := by
  have hlast : (finished c speed (withProjection (forced c dt start) p)).FollowsGrid := by
    intro q hq
    simp only [finished, Variant.updateParticles, hmode] at hq ⊢
    exact Transfer.velocity_eq_of_mem_takeVelocity hq
  rw [h.final_eq]
  generalize finished c speed (withProjection (forced c dt start) p) = last at hlast ⊢
  -- Particles that are kept are left as they are; new ones take the velocity of the grid.
  refine Density.forall_adjust last.velocity last.random (fun q hq _ => hlast q hq) fun _ r => ?_
  exact congrArg (Transfer.sampleVelocity last.velocity _) hkernel

namespace Simulation

/-- **In mode `flip0` particles follow the grid.**  Whatever kernel a configuration asks for, in all
that steps and frames lead to, successful, retried or failed, every particle has exactly the
velocity that the linear kernel samples from the grid at its place. -/
theorem Reachable.velocity_eq_sample {c : Config S D} (hmode : c.mode = .flip0)
    {sim : Simulation S D R} (h : Reachable c sim) :
    ∀ p ∈ sim.state.particles,
      p.velocity = Transfer.sampleVelocity sim.state.velocity p.position .dLinear := by
  have hmode' : c.normalized.mode = .flip0 := c.mode_normalized.trans hmode
  have hkernel : c.normalized.kernel = .dLinear := by
    rw [c.kernel_normalized, hmode]
    cases c.kernel <;> rfl
  refine (Reachable.invariant
    (P := fun sim => sim.config = c.normalized ∧ sim.state.FollowsGrid) ?_ ?_ ?_ h).2
  · exact ⟨rfl, State.followsGrid_initial hmode' hkernel⟩
  · exact fun sim clock h => h
  · rintro sim dt speed p final report ⟨hconfig, -⟩ hstep
    rw [← hconfig] at hmode' hkernel
    exact ⟨hconfig, hstep.followsGrid hmode' hkernel⟩

/-- The standard scene in this mode after one step, though the smooth kernel was asked for. -/
theorem velocity_eq_sample_standard :
    let c : Config Float32 Float := { Config.standard with mode := .flip0, kernel := .smooth }
    let sim : Simulation Float32 Float (Generator Float32) := (start c).advance.simulation
    c.mode = .flip0 ∧ Reachable c sim ∧
    ∀ p ∈ sim.state.particles,
      p.velocity = Transfer.sampleVelocity sim.state.velocity p.position .dLinear := by
  intro c sim
  have hreachable : Reachable c sim := Reachable.advance Reachable.start
  exact ⟨rfl, hreachable, Reachable.velocity_eq_sample rfl hreachable⟩

end Simulation

end FreeSurface

import FreeSurface.Proofs.Config.Idempotence
import FreeSurface.Proofs.Number.Single
import FreeSurface.Proofs.Particle.Density
import FreeSurface.Proofs.Particle.Seeding
import FreeSurface.Proofs.Run.Advance

/-!
# Planar simulations

In a domain one cell deep nothing ever leaves the plane, whatever gravity, scene and draws of the
random source say about the third axis.

* `Staggered.z_updateActive` — what rewrites a velocity along the axes of motion leaves the third
  component alone; all stages of a step do, but for the walls, which stop it.
* `Transfer.z_sampleVelocity`, `Dims.z_clampPosition`, `Density.z_place` — samples have no third
  component, and positions are in the middle of the only layer.
* `State.InPlane` — a velocity and particles that stay in the plane; a step that succeeds keeps it
  (`Step.Completed.inPlane`), and so does every run (`Simulation.Reachable.stays_planar`).

The numbers enter in two places only: the centre of the layer, and the blending of zeros
(`Transfer.KeepsRest`).
-/

namespace FreeSurface

open Dims
open scoped Literals

variable {d : Dims} {S D R : Type} [Scalar S]

/-! ## Samples and positions -/

section Planar

variable (hd : d.isPlanar = true)
include hd

omit [Scalar S] in
lemma Staggered.z_updateActive (v : Staggered d S)
    (f : (a : Axis) → Field (d.faces a) S → Field (d.faces a) S) : (v.updateActive f).z = v.z :=
  if_pos hd

lemma Staggered.z_activeVector (f : Axis → S) : (activeVector d f).z = 0 := if_pos hd

lemma Transfer.z_sampleVelocity (v : Staggered d S) (p : Vec3 S) (kernel : Kernel) :
    (sampleVelocity v p kernel).z = 0 := by
  cases kernel <;> exact Staggered.z_activeVector hd _

lemma Dims.z_clampPosition (p : Vec3 S) (inset : S) : (d.clampPosition p inset).z = Scalar.half :=
  if_pos hd

lemma Dims.z_center (hhalf : (Scalar.ofNat 0 + Scalar.half : S) = Scalar.half) (c : d.Cell) :
    (d.center c : Vec3 S).z = Scalar.half := by
  have hlayer : (coordsOf c).k = 0 := by
    have hdepth : d.depth = 1 := beq_iff_eq.mp hd
    have hlt : (coordsOf c).k < d.depth := (d.cells.contains_coords c.isLt).2.2
    omega
  show Scalar.ofNat (coordsOf c).k + Scalar.half = _
  rw [hlayer, hhalf]

lemma Seeding.z_jitter [RandomSource R S] (p : Vec3 S) (randomness : S) (r : R) :
    (jitter d p randomness r).1.z = Scalar.half := by
  rw [jitter]
  simp only [if_pos hd]

/-- A new particle is drawn in the plane, or put at the centre of its cell. -/
lemma Density.z_place [RandomSource R S]
    (hhalf : (Scalar.ofNat 0 + Scalar.half : S) = Scalar.half) (s : DensitySettings S)
    (phi : ScalarField d S) (c : d.Cell) (attempts : ℕ) (r : R) :
    (place s phi c attempts r).1.z = Scalar.half := by
  induction attempts generalizing r with
  | zero => exact z_center hd hhalf c
  | succ attempts ih =>
      rw [place]
      simp only [if_pos hd]
      split_ifs
      · rfl
      · exact ih _

end Planar

/-! ## States -/

/-- The particle is in the middle of the only layer and moves along the plane. -/
def Particle.InPlane (p : Particle S) : Prop := p.position.z = Scalar.half ∧ p.velocity.z = 0

/-- The velocity has no third component. -/
def Staggered.InPlane (v : Staggered d S) : Prop := ∀ f, v.z.get f = 0

lemma Staggered.InPlane.of_z_eq {v w : Staggered d S} (hv : v.InPlane) (h : w.z = v.z) :
    w.InPlane := by
  intro f
  rw [h]
  exact hv f

/-- Nothing in the state is out of the plane or on its way there. -/
structure State.InPlane (s : State d S D R) : Prop where
  velocity : s.velocity.InPlane
  reference : s.reference.InPlane
  particles : ∀ p ∈ s.particles, p.InPlane

/-- A particle without motion that finds none on the grid gets none from it. -/
def Transfer.KeepsRest (ratio : S) : Prop := (0 + 0 - 0) * ratio + 0 * (1 - ratio) = (0 : S)

section Planar

variable (hd : d.isPlanar = true)
include hd

lemma Transfer.inPlane_takeVelocity {ps : Particles S} (h : ∀ p ∈ ps, p.position.z = Scalar.half)
    (v : Staggered d S) (kernel : Kernel) : ∀ p ∈ takeVelocity ps v kernel, p.InPlane := by
  intro p hp
  obtain ⟨q, hq, rfl⟩ := Array.mem_map.mp hp
  exact ⟨h q hq, z_sampleVelocity hd v q.position kernel⟩

lemma Transfer.inPlane_blendVelocity {ps : Particles S} (h : ∀ p ∈ ps, p.InPlane)
    (v old : Staggered d S) {ratio : S} (hratio : KeepsRest ratio) (kernel : Kernel) :
    ∀ p ∈ blendVelocity ps v old ratio kernel, p.InPlane := by
  intro p hp
  obtain ⟨q, hq, rfl⟩ := Array.mem_map.mp hp
  obtain ⟨hplace, hrest⟩ := h q hq
  refine ⟨hplace, ?_⟩
  show (q.velocity.z + (sampleVelocity v q.position kernel).z -
    (sampleVelocity old q.position kernel).z) * ratio +
      (sampleVelocity v q.position kernel).z * (1 - ratio) = 0
  rw [hrest, z_sampleVelocity hd, z_sampleVelocity hd]
  exact hratio

/-- Transport brings particles back into the plane and lets them keep their velocity. -/
lemma Advection.inPlane_particles {ps : Particles S} (h : ∀ p ∈ ps, p.InPlane) (g : Flags d)
    (v : Staggered d S) (dt : S) : ∀ p ∈ particles ps g v dt, p.InPlane := by
  intro p hp
  obtain ⟨q, hq, rfl⟩ := Array.mem_map.mp hp
  exact ⟨z_clampPosition hd _ _, (h q hq).2⟩

/-! ## Stages -/

lemma Velocity.inPlane_closeWalls (g : Flags d) (v : Staggered d S) : (closeWalls g v).InPlane := by
  intro f
  simp only [closeWalls, if_pos hd, Field.get_constant]

lemma Advection.z_velocity (v : Staggered d S) (dt : S) (order : ℕ) :
    (velocity v dt order).z = v.z := by
  simp only [velocity]
  split_ifs <;> exact Staggered.z_updateActive hd v _

lemma Variant.z_transferVelocity (c : Config S D) (s : State d S D R) :
    (transferVelocity c s).1.velocity.z = s.velocity.z := by
  rw [transferVelocity]
  cases c.mode with
  | levelset => rfl
  | flip0 => exact Staggered.z_updateActive hd s.velocity _
  | flip => exact Staggered.z_updateActive hd s.velocity _
  | nbflip => exact Staggered.z_updateActive hd s.velocity _

lemma Variant.z_finishVelocity (c : Config S D) (s : State d S D R) (speed : S) :
    (finishVelocity c s speed).velocity.z = s.velocity.z := by
  rw [finishVelocity]
  cases c.mode <;> exact Staggered.z_updateActive hd s.velocity _

lemma Variant.inPlane_updateParticles {c : Config S D} (hratio : Transfer.KeepsRest c.flipRatio)
    {s : State d S D R} (h : ∀ p ∈ s.particles, p.InPlane) :
    ∀ p ∈ (updateParticles c s).particles, p.InPlane := by
  rw [updateParticles]
  cases c.mode with
  | levelset => exact h
  | flip0 => exact Transfer.inPlane_takeVelocity hd (fun p hp => (h p hp).1) _ _
  | flip => exact Transfer.inPlane_blendVelocity hd h _ _ hratio _
  | nbflip => exact Transfer.inPlane_blendVelocity hd h _ _ hratio _

lemma State.inPlane_initial [Scalar D] [RandomSource R S] (c : Config S D) :
    (State.initial c d : State d S D R).InPlane := by
  have hz : (c.scene.imposeVelocity (Staggered.zero d)).z = (Staggered.zero d).z := by
    rw [Scene.imposeVelocity]
    split
    · exact Staggered.z_updateActive hd _ _
    · rfl
  have hrest : (Staggered.zero d : Staggered d S).InPlane := fun f => Field.get_constant _ f
  have hzero : (c.scene.imposeVelocity (Staggered.zero d)).InPlane := hrest.of_z_eq hz
  refine ⟨hzero, hzero, fun p hp => ?_⟩
  have hseeds : ∀ q ∈ (Seeding.seed
      (Surface.extendIntoObstacles (c.scene.build d).2 (c.scene.build d).1) (c.scene.build d).1
      seedDiscretization seedRandomness (#[], (RandomSource.ofSeed c.seed : R))).1,
      Particle.InPlane q :=
    Seeding.forall_seed _ (fun _ hq => nomatch hq) fun _ _ r => ⟨Seeding.z_jitter hd _ _ r, rfl⟩
  simp only [initial] at hp
  split_ifs at hp
  · exact hseeds p hp
  · exact Transfer.inPlane_takeVelocity hd (fun p hp => (hseeds p hp).1) _ _ p hp

end Planar

/-! ## Steps and runs -/

variable [Scalar D] [Precision S D] [RandomSource R S]

/-- A step that succeeds stays in the plane. -/
lemma Step.Completed.inPlane {c : Config S D} {dt : D} {speed : S} {start final : State d S D R}
    {p : Projection.Projected d S D} {report : StepReport S D}
    (h : Completed c dt speed start p final report) (hd : d.isPlanar = true)
    (hhalf : (Scalar.ofNat 0 + Scalar.half : S) = Scalar.half)
    (hratio : Transfer.KeepsRest c.flipRatio) (hstart : start.InPlane) : final.InPlane := by
  rw [h.final_eq]
  refine ⟨?_, ?_, ?_⟩
  · -- The walls in front and behind were closed, and the air is completed along the plane.
    have hz : (finished c speed (withProjection (forced c dt start) p)).velocity.z =
        (Velocity.closeWalls (forced c dt start).flags p.velocity).z := by
      rw [velocity_finished, Variant.z_finishVelocity hd]
      rfl
    exact (Velocity.inPlane_closeWalls hd _ _).of_z_eq hz
  · have hz : (finished c speed (withProjection (forced c dt start) p)).reference.z =
        start.velocity.z := by
      rw [reference_finished]
      show (forced c dt start).reference.z = _
      rw [reference_forced, Variant.z_transferVelocity hd, velocity_rebuildSurface]
      exact Advection.z_velocity hd start.velocity _ _
    exact hstart.velocity.of_z_eq hz
  · have hforced : ∀ q ∈ (forced c dt start).particles, q.InPlane := by
      rw [particles_forced]
      exact Advection.inPlane_particles hd hstart.particles _ _ _
    have hlast : ∀ q ∈ (finished c speed (withProjection (forced c dt start) p)).particles,
        q.InPlane := by
      refine Variant.inPlane_updateParticles hd hratio ?_
      rw [particles_finishVelocity]
      exact hforced
    exact Density.forall_adjust _ _ (fun q hq _ => hlast q hq) fun _ r =>
      ⟨Density.z_place hd hhalf _ _ _ _ r, Transfer.z_sampleVelocity hd _ _ _⟩

omit [Precision S D] [RandomSource R S] in
lemma Config.isPlanar_normalizedDims {c : Config S D} (h : c.normalized.dimension = 2) :
    c.normalizedDims.isPlanar = true := by
  have hdepth : c.normalizedDims.depth = 1 := if_pos h
  rw [isPlanar, hdepth]
  rfl

/-- Singles leave zeros alone, since a share lies between zero and one. -/
lemma Transfer.keepsRest_share (x : Float32) : KeepsRest (Config.share x) :=
  Single.zero_blend (Config.share_unit x).1 (Config.share_unit x).2

namespace Simulation

/-- With any numbers that leave zeros alone when they are blended, runs stay in the plane. -/
lemma Reachable.inPlane_of_keepsRest
    (hhalf : (Scalar.ofNat 0 + Scalar.half : S) = Scalar.half)
    (hshare : ∀ x : S, Transfer.KeepsRest (Config.share x)) {c : Config S D}
    (hdimension : c.normalized.dimension = 2) {sim : Simulation S D R} (h : Reachable c sim) :
    sim.state.InPlane := by
  have hplanar := Config.isPlanar_normalizedDims hdimension
  have hratio : Transfer.KeepsRest c.normalized.flipRatio := by
    rw [c.flipRatio_normalized]
    exact hshare c.flipRatio
  refine (Reachable.invariant (P := fun sim => sim.config = c.normalized ∧
    sim.dims.isPlanar = true ∧ sim.state.InPlane) ?_ ?_ ?_ h).2.2
  · exact ⟨rfl, hplanar, State.inPlane_initial hplanar c.normalized⟩
  · exact fun sim clock ⟨hconfig, hd, hs⟩ => ⟨hconfig, hd, hs.velocity, hs.reference, hs.particles⟩
  · rintro sim dt speed p final report ⟨hconfig, hd, hs⟩ hstep
    rw [← hconfig] at hratio
    exact ⟨hconfig, hd, hstep.inPlane hd hhalf hratio hs⟩

/-- **A planar simulation stays planar.**  With machine numbers and for any configuration of
dimension two, in all that steps and frames lead to, successful, retried or failed, neither velocity
has a third component, and every particle is in the middle of the layer and has no velocity across
it. -/
theorem Reachable.stays_planar {R : Type} [RandomSource R Float32] {c : Config Float32 Float}
    (hdimension : c.normalized.dimension = 2) {sim : Simulation Float32 Float R}
    (h : Reachable c sim) :
    (∀ f, sim.state.velocity.z.get f = 0) ∧ (∀ f, sim.state.reference.z.get f = 0) ∧
      ∀ p ∈ sim.state.particles, p.position.z = 0.5 ∧ p.velocity.z = 0 := by
  have hplane := h.inPlane_of_keepsRest rfl Transfer.keepsRest_share hdimension
  exact ⟨hplane.velocity, hplane.reference, hplane.particles⟩

/-- The standard scene in the plane, under a gravity that pulls out of it, after two steps. -/
theorem stays_planar_standard :
    let c : Config Float32 Float :=
      { Config.standard with dimension := 2, kernel := .smooth, gravity := ⟨0, -1, 1⟩ }
    let sim : Simulation Float32 Float (Generator Float32) :=
      (start c).advance.simulation.advance.simulation
    c.normalized.dimension = 2 ∧ Reachable c sim ∧
    (∀ f, sim.state.velocity.z.get f = 0) ∧ (∀ f, sim.state.reference.z.get f = 0) ∧
      ∀ p ∈ sim.state.particles, p.position.z = 0.5 ∧ p.velocity.z = 0 := by
  intro c sim
  have hdimension : c.normalized.dimension = 2 := by
    rw [Config.normalized_eq]
    rfl
  have hreachable : Reachable c sim := Reachable.advance (Reachable.advance Reachable.start)
  exact ⟨hdimension, hreachable, Reachable.stays_planar hdimension hreachable⟩

end Simulation

end FreeSurface

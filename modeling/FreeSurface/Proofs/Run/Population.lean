import FreeSurface.Proofs.Config.Rules
import FreeSurface.Proofs.Particle.Count
import FreeSurface.Proofs.Run.Advance
import FreeSurface.Proofs.Surface.Extension
import FreeSurface.Random.ChaCha

/-!
# The number of particles in a run

Particles are seeded at the start and adjusted at the end of every step; no other stage adds or
removes one.  Adjustments respect the greatest number allowed, seeding does not ask for it.  So the
number of particles is bounded by the greater one of that number and the number of seeds, and the
configured bound holds in a run exactly if it holds at its start
(`Simulation.population_le_iff`).  It need not hold there (`Config.population_flooded`).
-/

namespace FreeSurface

open Exact
open scoped Literals

/-! ## Steps -/

namespace Step

variable {d : Dims} {S D R : Type} [Scalar S] [Scalar D] [Precision S D]

omit [Scalar D] in
lemma size_forced (c : Config S D) (dt : D) (s : State d S D R) :
    (forced c dt s).particles.size = s.particles.size := by
  rw [particles_forced]
  exact Array.size_map

omit [Scalar D] [Precision S D] in
lemma size_finished (c : Config S D) (speed : S) (s : State d S D R) :
    (finished c speed s).particles.size = s.particles.size := by
  rw [finished, Variant.finishVelocity, Variant.updateParticles]
  cases c.mode with
  | levelset => rfl
  | flip0 => exact Array.size_map
  | flip => exact Array.size_map
  | nbflip => exact Array.size_map

variable [RandomSource R S] {c : Config S D} {dt : D} {speed : S} {start final : State d S D R}
  {p : Projection.Projected d S D} {report : StepReport S D}

/-- A step that succeeds leaves no more particles than it found, or no more than are allowed. -/
lemma Completed.size_le (h : Completed c dt speed start p final report) :
    final.particles.size ≤ max start.particles.size c.maxParticleCount := by
  have hadjusted := Density.size_adjust_le
    (finished c speed (withProjection (forced c dt start) p)).particles
    (finished c speed (withProjection (forced c dt start) p)).flags
    (finished c speed (withProjection (forced c dt start) p)).phi
    (finished c speed (withProjection (forced c dt start) p)).velocity
    (densitySettings c d) (finished c speed (withProjection (forced c dt start) p)).random
  have hfound : (finished c speed (withProjection (forced c dt start) p)).particles.size =
      start.particles.size := (size_finished c speed _).trans (size_forced c dt start)
  rw [hfound] at hadjusted
  rw [h.final_eq]
  exact hadjusted

end Step

/-- Taking a velocity adds and removes none. -/
lemma State.size_initial {d : Dims} {S D R : Type} [Scalar S] [Scalar D] [RandomSource R S]
    (c : Config S D) :
    (State.initial c d : State d S D R).particles.size =
      (Seeding.seed (Surface.extendIntoObstacles (c.scene.build d).2 (c.scene.build d).1)
        (c.scene.build d).1 seedDiscretization seedRandomness
        ((#[], RandomSource.ofSeed c.seed) : Seeding.Progress S R)).1.size := by
  simp only [initial]
  split_ifs
  · rfl
  · exact Array.size_map

/-! ## Runs -/

namespace Simulation

variable {S D R : Type} [Scalar S] [Scalar D] [Precision S D] [RandomSource R S] {c : Config S D}

lemma Reachable.size_le {sim : Simulation S D R} (h : Reachable c sim) :
    sim.config.maxParticleCount = c.maxParticleCount ∧
      sim.state.particles.size ≤
        max (Simulation.start c : Simulation S D R).state.particles.size c.maxParticleCount := by
  refine Reachable.invariant (P := fun sim : Simulation S D R =>
    sim.config.maxParticleCount = c.maxParticleCount ∧
      sim.state.particles.size ≤
        max (Simulation.start c : Simulation S D R).state.particles.size c.maxParticleCount) ?_ ?_ ?_ h
  · exact ⟨c.maxParticleCount_normalized, Nat.le_max_left _ _⟩
  · exact fun sim clock h => h
  · intro sim dt speed p final report ⟨hconfig, hsize⟩ hstep
    refine ⟨hconfig, hstep.size_le.trans ?_⟩
    rw [hconfig]
    exact max_le hsize (Nat.le_max_right _ _)

/-- **The population of a run.**  In every run there are at most as many particles as were seeded,
or as many as are configured, whichever is more.  So the configured bound holds throughout exactly
if seeding keeps to it. -/
theorem population_le_iff (c : Config S D) :
    (∀ sim : Simulation S D R, Reachable c sim →
      sim.state.particles.size ≤
        max (Simulation.start c : Simulation S D R).state.particles.size c.maxParticleCount) ∧
    ((∀ sim : Simulation S D R, Reachable c sim →
        sim.state.particles.size ≤ c.maxParticleCount) ↔
      (Simulation.start c : Simulation S D R).state.particles.size ≤ c.maxParticleCount) := by
  refine ⟨fun sim h => h.size_le.2, fun h => h _ .start, fun hstart sim h => ?_⟩
  exact h.size_le.2.trans (max_le hstart le_rfl)

end Simulation

/-! ## Too many seeds -/

namespace Config

/-- A planar domain of eight by eight cells inside a drop of liquid, with so many particles
allowed. -/
noncomputable def flooded (allowed : ℕ) : Config Exact Exact :=
  { standard with
    resolution := 8
    maxParticleCount := allowed
    scene := ⟨0, [.sphere Vec3.zero 2], [], none⟩ }

variable (allowed : ℕ)

lemma normalizedDims_flooded : (flooded allowed).normalizedDims = .planar 7 7 := by
  apply normalizedDims_eq
  rw [normalized_eq]
  rfl

lemma signedDistance_sphere (x y z r : ℝ) :
    (Shape.sphere ⟨real 0, real 0, real 0⟩ (real r)).signedDistance ⟨real x, real y, real z⟩ true =
      real (√(x ^ 2 + y ^ 2) - r) := by
  have hsquares : (x - 0) * 1 * ((x - 0) * 1) + (y - 0) * 1 * ((y - 0) * 1) +
      (z - 0) * 0 * ((z - 0) * 0) = x ^ 2 + y ^ 2 := by ring
  have hmask : Shape.mask true = (⟨real 1, real 1, real 0⟩ : Vec3 Exact) := by
    simp [Shape.mask]
  rw [Shape.signedDistance, hmask]
  show Scalar.sqrt ((real x - real 0) * real 1 * ((real x - real 0) * real 1) +
    (real y - real 0) * real 1 * ((real y - real 0) * real 1) +
    (real z - real 0) * real 0 * ((real z - real 0) * real 0)) - real r = _
  simp only [real_sub_real, real_mul_real, real_add_real]
  rw [hsquares, sqrt_real (by positivity), real_sub_real]

/-- The drop reaches sixteen cells far, further than any point of the domain. -/
lemma liquid_flooded (c : (Dims.planar 7 7).Cell) :
    (((flooded allowed).scene.build (Dims.planar 7 7)).2.get c).In (Set.Iio 0) := by
  obtain ⟨x, y, z, hcenter, ⟨hx, hx'⟩, ⟨hy, hy'⟩, -⟩ := Dims.within_center c
  obtain ⟨hi, hj, -⟩ := (Dims.planar 7 7).cells.contains_coords c.isLt
  have hi' : (((Dims.planar 7 7).cells.coords c.val).i : ℝ) + 1 ≤ 8 := by exact_mod_cast hi
  have hj' : (((Dims.planar 7 7).cells.coords c.val).j : ℝ) + 1 ≤ 8 := by exact_mod_cast hj
  have hdistance : √(x ^ 2 + y ^ 2) < 16 := by
    rw [Real.sqrt_lt' (by norm_num)]
    have hx0 := (Nat.cast_nonneg _).trans hx
    have hy0 := (Nat.cast_nonneg _).trans hy
    nlinarith
  have hsphere : ((Shape.sphere Vec3.zero 2 : Shape Exact).scaled (Dims.planar 7 7)) =
      .sphere ⟨real 0, real 0, real 0⟩ (real 16) := by
    show Shape.sphere ⟨0 * Scalar.ofNat 8, 0 * Scalar.ofNat 8, 0 * Scalar.ofNat 1⟩
      (2 * Scalar.ofNat 8) = _
    simp only [literal, scalar_ofNat, real_mul_real, Nat.cast_zero, zero_mul]
    norm_num
  refine ⟨min 8 (√(x ^ 2 + y ^ 2) - 16), Set.mem_Iio.mpr (min_lt_of_right_lt (by linarith)), ?_⟩
  show (Field.join (Field.constant _ (Scalar.ofNat 8)) _).get c = _
  rw [Field.join, Field.get_tabulate, Field.get_constant, Shape.levelSet, Field.get_tabulate,
    hsphere, hcenter]
  show Scalar.min (Scalar.ofNat 8) (Shape.signedDistance _ _ true) = _
  rw [signedDistance_sphere, scalar_ofNat, min_real, Nat.cast_ofNat]

lemma flags_flooded (c : (Dims.planar 7 7).Cell) :
    ((flooded allowed).scene.build (Dims.planar 7 7)).1.isObstacle c =
      (Flags.walled (Dims.planar 7 7) 0).isObstacle c :=
  Flags.isObstacle_reclassify _ _ c

/-- Each of the 36 cells inside the walls gets four seeds. -/
lemma size_start_flooded :
    (Simulation.start (flooded allowed) : Simulation Exact Exact
      (Generator Exact)).state.particles.size = 144 := by
  have hphi := Surface.forall_extendIntoObstacles ((flooded allowed).scene.build (.planar 7 7)).1
    isFinite_posInf (liquid_flooded allowed)
  have hopen : (Dims.planar 7 7).cells.nodes.countP
      (fun c => !((flooded allowed).scene.build (Dims.planar 7 7)).1.isObstacle c) = 36 := by
    simp only [flags_flooded]
    decide +kernel
  show (State.initial (flooded allowed).normalized (flooded allowed).normalizedDims :
    State _ Exact Exact (Generator Exact)).particles.size = 144
  rw [normalizedDims_flooded, State.size_initial, scene_normalized,
    State.seedRandomness_eq, Seeding.size_seed_of_full ChaCha.centered_generator hphi _
      (by norm_num) State.seedRandomness_mul_lt, hopen]
  rfl

/-- Where as many particles are allowed as are seeded, there are never more. -/
theorem population_flooded_of_room :
    ∀ sim : Simulation Exact Exact (Generator Exact), Simulation.Reachable (flooded 144) sim →
      sim.state.particles.size ≤ 144 :=
  (Simulation.population_le_iff (flooded 144)).2.mpr (size_start_flooded 144).le

/-- Where a hundred are allowed, there are more from the start. -/
theorem population_flooded :
    let sim : Simulation Exact Exact (Generator Exact) := Simulation.start (flooded 100)
    Simulation.Reachable (flooded 100) sim ∧ sim.state.particles.size = 144 ∧
      ¬sim.state.particles.size ≤ (flooded 100).maxParticleCount := by
  refine ⟨.start, size_start_flooded 100, ?_⟩
  rw [size_start_flooded]
  show ¬144 ≤ 100
  norm_num

end Config

end FreeSurface

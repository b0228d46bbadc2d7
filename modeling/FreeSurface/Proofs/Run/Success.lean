import FreeSurface.Proofs.Clock.Progress
import FreeSurface.Proofs.Config.Timing
import FreeSurface.Proofs.Particle.Repetition
import FreeSurface.Proofs.Particle.Seeding
import FreeSurface.Proofs.Projection.Success
import FreeSurface.Proofs.Run.Advance
import FreeSurface.Proofs.Scene
import FreeSurface.Proofs.Shape.Distance
import FreeSurface.Proofs.Surface.Extension
import FreeSurface.Proofs.Surface.Sweeping
import FreeSurface.Proofs.Velocity.Advection
import FreeSurface.Proofs.Velocity.Completion

/-!
# Runs that succeed

On exact numbers a simulation in level-set mode never fails.  Every stage makes numbers of numbers,
and the projection finds its pressure: walls and liquid are in one piece, so no liquid is shut in
away from a surface, and there are as many rounds as cells.  Since every step succeeds at the first
attempt, each of them moves time on by a stride, and frames end.

* `Config.Solvable`, `State.IsFinite` — the settings and states this is about.
* `State.IsFinite.step` — a step of any finite size succeeds and leaves numbers.
* `Simulation.Ready` — such a simulation; `Ready.proceeds` — **its next step succeeds at the first
  attempt**; `Ready.exists_runFrame` — **its next frame is completed, without retries**.
* `Config.Feasible`, `Simulation.Reachable.ready` — scenes of finite shapes between walls alone lead
  to such simulations only.
* `Simulation.fallingDrop` — one of them: a drop in motion and a pool, with air between them.
-/

namespace FreeSurface

open Exact Dims
open scoped Literals

variable {d : Dims} {R : Type}

/-! ## States of numbers -/

/-- The relative deviation of a volume that is not zero is a number. -/
lemma Measure.isFinite_volumeCorrection {gain target : Exact} (hgain : Scalar.isFinite gain = true)
    (htarget : Scalar.isFinite target = true) (volume : ℕ) :
    Scalar.isFinite (volumeCorrection gain target volume) = true := by
  obtain ⟨x, rfl⟩ := isFinite_iff.mp hgain
  obtain ⟨t, rfl⟩ := isFinite_iff.mp htarget
  rw [volumeCorrection]
  split_ifs with hvolume
  · rfl
  · rw [widen_eq, narrow_eq, scalar_ofNat, real_sub_real, real_mul_real,
      real_div_real (Nat.cast_ne_zero.mpr hvolume)]
    rfl

/-- In level-set mode, with numbers for gravity and the gain of the volume, and with rounds enough
for the pressure to be found. -/
structure Config.Solvable (c : Config Exact Exact) (d : Dims) : Prop where
  mode : c.mode = .levelset
  gravity : c.gravity.isFinite = true
  volumeGain : Scalar.isFinite c.volumeGain = true
  accuracy : real 0 < c.pressure.accuracy
  rounds : d.cellCount ≤ c.pressure.maxIterations

/-- Everything in the state that a step reads is a number. -/
structure State.IsFinite (s : State d Exact Exact R) : Prop where
  velocity : s.velocity.allFinite = true
  phi : ∀ c, Scalar.isFinite (s.phi.get c) = true
  particles : Particles.allFinite s.particles = true
  targetVolume : Scalar.isFinite s.targetVolume = true

/-- No more cells are open than there are. -/
lemma Poisson.size_unknowns_le (g : Flags d) : (unknowns g).size ≤ d.cellCount := by
  simpa using Fintype.card_le_of_injective _ (cellOf_injective g)

namespace State.IsFinite

variable {c : Config Exact Exact} {s : State d Exact Exact R} {dt : Exact}

lemma allFinite_phi (h : s.IsFinite) : Field.allFinite s.phi = true := Field.allFinite_iff.mpr h.phi

section Forced

variable (hd : d.Indexable) (hdt : Scalar.isFinite dt = true)
include hd hdt

lemma advect (h : s.IsFinite) : (Step.advect s dt).IsFinite where
  velocity := Advection.allFinite_velocity hd h.velocity hdt 2
  phi := Surface.isFinite_extendIntoObstacles s.flags
    (Advection.isFinite_carryScalar hd h.velocity hdt h.phi)
  particles := Advection.allFinite_particles h.particles s.flags h.velocity hdt
  targetVolume := h.targetVolume

/-- In level-set mode the transported velocity is what gravity acts on. -/
lemma allFinite_reference (h : s.IsFinite) (hc : c.Solvable d) :
    (Step.forced c dt s).reference.allFinite = true := by
  rw [Step.reference_forced, Variant.transferVelocity, Variant.rebuildSurface, hc.mode]
  exact (h.advect hd hdt).velocity

lemma forced (h : s.IsFinite) (hc : c.Solvable d) : (Step.forced c dt s).IsFinite := by
  have hcarried := h.advect hd hdt
  refine ⟨?_, ?_, ?_, ?_⟩
  · rw [Step.velocity_forced]
    exact Velocity.allFinite_closeWalls
      (Velocity.allFinite_accelerate (h.allFinite_reference hd hdt hc) hc.gravity hdt)
  · rw [Step.phi_forced, Variant.rebuildSurface, hc.mode]
    exact hcarried.phi
  · rw [Step.particles_forced]
    exact hcarried.particles
  · rw [Step.targetVolume_forced]
    exact h.targetVolume

end Forced

/-- The projection of a state with closed walls, between obstacles that shut nothing in. -/
lemma solution (h : s.IsFinite) (hc : c.Solvable d) (hconnected : s.flags.Connected)
    (hwalls : ∀ a f, s.flags.isWallFace a f = true → (s.velocity.component a).get f = real 0) :
    ∃ p, Step.solution c s = .ok p ∧ (Step.withProjection s p).IsFinite := by
  have hphi : Poisson.FinitePhi (some s.phi) := by
    rintro field hfield
    exact Option.some.inj hfield ▸ h.phi
  obtain ⟨source, hsource⟩ := isFinite_iff.mp
    (Measure.isFinite_volumeCorrection hc.volumeGain h.targetVolume s.flags.fluidCount)
  obtain ⟨p, hp, hvelocity⟩ := Projection.exists_solve hphi h.velocity (s := source) hc.accuracy
    ((Poisson.size_unknowns_le s.flags).trans hc.rounds) hwalls
    fun _ hu => .inr (hconnected.hasFreeSurface_eq_false hu)
  refine ⟨p, ?_, Velocity.allFinite_closeWalls hvelocity, h.phi, h.particles, h.targetVolume⟩
  rw [Step.solution, hsource]
  exact hp

lemma finished (h : s.IsFinite) (hc : c.Solvable d) (speed : Exact) :
    (Step.finished c speed s).IsFinite := by
  have hstep : Step.finished c speed s = Variant.transportAndReinit s := by
    rw [Step.finished, Variant.updateParticles, Variant.finishVelocity, hc.mode]
  rw [hstep]
  exact ⟨Surface.allFinite_transportVelocity h.velocity _ s.phi,
    Surface.isFinite_extendIntoObstacles _ (Surface.isFinite_reinitExact s.phi), h.particles,
    h.targetVolume⟩

variable [RandomSource R Exact]

/-- **A step succeeds**, and leaves numbers and the same solid cells. -/
theorem step (hR : RandomSource.Fractional R) (hd : d.Indexable) (h : s.IsFinite)
    (hc : c.Solvable d) (hconnected : s.flags.Connected) (hdt : Scalar.isFinite dt = true)
    (speed : Exact) :
    ∃ final report, Step.outcome c dt speed s = .ok (final, report) ∧ final.IsFinite ∧
      final.flags.Connected := by
  have hcarried := h.advect hd hdt
  have hforced := h.forced hd hdt hc
  have hflags : (Step.forced c dt s).flags.Connected := by
    refine hconnected.congr fun cell => ?_
    rw [Step.flags_forced, Variant.rebuildSurface, hc.mode]
    simp only [Step.advect, Flags.isObstacle_reclassify]
  obtain ⟨p, hp, hprojected⟩ := hforced.solution hc hflags fun a f hf => by
    rw [Step.velocity_forced, Velocity.get_closeWalls_of_wall hf, literal, Nat.cast_zero]
  have hlast := hprojected.finished hc speed
  have hadjusted : Particles.allFinite (Step.density c (Step.finished c speed
      (Step.withProjection (Step.forced c dt s) p))).particles = true :=
    Density.allFinite_adjust hR hlast.velocity _ _
  refine ⟨_, _, Step.outcome_eq_ok.mpr ⟨p, ?_, ?_, ?_, ?_, ?_, hp, hlast.velocity,
    hlast.allFinite_phi, hlast.particles, hadjusted, rfl, rfl⟩,
    ⟨hlast.velocity, hlast.phi, hadjusted, hlast.targetVolume⟩, ?_⟩
  · exact hcarried.particles
  · exact hcarried.allFinite_phi
  · exact hcarried.velocity
  · rw [← Step.phi_forced]
    exact hforced.allFinite_phi
  · rw [← Step.reference_forced]
    exact h.allFinite_reference hd hdt hc
  · show (Step.finished c speed (Step.withProjection (Step.forced c dt s) p)).flags.Connected
    rw [Step.flags_finished]
    exact hflags

end State.IsFinite

/-! ## Steps and frames -/

namespace Simulation

/-- The simulation makes steps that succeed: its settings and its state are numbers, its solid cells
do not cut the domain, and its clock is within a frame. -/
structure Ready (sim : Simulation Exact Exact R) : Prop where
  solvable : sim.config.Solvable sim.dims
  indexable : sim.dims.Indexable
  finite : sim.state.IsFinite
  connected : sim.state.flags.Connected
  clock : sim.state.clock.Running

lemma Ready.withClock {sim : Simulation Exact Exact R} (h : sim.Ready) {clock : Clock Exact}
    (hclock : clock.Running) : (sim.withClock clock).Ready :=
  ⟨h.solvable, h.indexable,
    ⟨h.finite.velocity, h.finite.phi, h.finite.particles, h.finite.targetVolume⟩, h.connected,
    hclock⟩

variable [RandomSource R Exact]

/-- The next step succeeds at the first attempt, and brings the frame it is made in to its end or
forward by a stride. -/
structure Proceeds (sim : Simulation Exact Exact R) : Prop where
  first : ∃ prepared final report, sim.prepare = .ok prepared ∧
    prepared.outcome prepared.state.clock.dt sim.state.velocity.maxMagnitude = .ok (final, report)
  ready : sim.advance.simulation.Ready
  settings_eq : sim.advance.simulation.state.clock.settings = sim.state.clock.settings
  left_cases : sim.advance.simulation.state.clock.left = 0 ∨
    sim.advance.simulation.state.clock.left ≤
      sim.state.clock.rollover.left - Clock.stride sim.state.clock.settings

variable {sim : Simulation Exact Exact R}

lemma Proceeds.exists_report (h : sim.Proceeds) :
    ∃ report, sim.advance.result = .ok report ∧ report.retried = false := by
  obtain ⟨prepared, final, report, hprepare, hfirst⟩ := h.first
  obtain ⟨p, hp⟩ := Step.outcome_eq_ok.mp hfirst
  exact ⟨report, advance_of_outcome hprepare hfirst, hp.retried_eq⟩

variable (hR : RandomSource.Fractional R)
include hR

/-- **Steps succeed.** -/
theorem Ready.proceeds (h : sim.Ready) : sim.Proceeds := by
  have hsettings := Clock.settings_rollover sim.state.clock
  obtain ⟨clock, hchoose, hrunning, hdt, hcommit, hkept, hleft⟩ :=
    h.clock.rollover.exists_choose?_commit h.clock.left_rollover_pos
      (widen sim.state.velocity.maxMagnitude)
  have hprepare : sim.prepare = .ok (sim.withClock clock) := prepare_eq_ok.mpr ⟨_, hchoose, rfl⟩
  have hprepared := h.withClock hrunning
  obtain ⟨final, report, hstep, hfinite, hconnected⟩ := hprepared.finite.step hR h.indexable
    h.solvable h.connected hdt sim.state.velocity.maxMagnitude
  have hafter := (advance_of_ending (.chosen hprepare hstep)).2
  refine ⟨⟨sim.withClock clock, final, report, hprepare, hstep⟩, ?_, ?_, ?_⟩
  · rw [hafter]
    exact ⟨h.solvable, h.indexable,
      ⟨hfinite.velocity, hfinite.phi, hfinite.particles, hfinite.targetVolume⟩, hconnected,
      hcommit⟩
  · rw [hafter]
    exact hkept.trans hsettings
  · rw [hafter, ← hsettings]
    exact hleft

/-- A frame in progress is completed: every step either does so or brings it forward by a stride. -/
lemma Ready.exists_stepThrough (h : sim.Ready) {strides : ℕ}
    (hleft : sim.state.clock.left ≤ strides * Clock.stride sim.state.clock.settings)
    (tally : Tally) :
    ∃ run iterations, stepThrough tally sim = some run ∧
      run.result = .ok ⟨tally.retries, iterations⟩ ∧ run.simulation.Ready := by
  induction strides generalizing sim tally with
  | zero =>
      rw [Nat.cast_zero, zero_mul] at hleft
      have hcomplete := h.clock.isFrameComplete_iff.mpr (le_antisymm hleft h.clock.left_nonneg)
      rw [stepThrough, if_pos hcomplete]
      exact ⟨_, tally.iterations, rfl, rfl, h⟩
  | succ strides ih =>
      rw [stepThrough]
      split_ifs with hcomplete
      · exact ⟨_, tally.iterations, rfl, rfl, h⟩
      · have hopen := Bool.eq_false_iff.mpr hcomplete
        have hproceeds := h.proceeds hR
        obtain ⟨report, hreport, hretried⟩ := hproceeds.exists_report
        have hstride := Clock.stride_pos h.clock
        have hleft' : sim.advance.simulation.state.clock.left ≤
            strides * Clock.stride sim.advance.simulation.state.clock.settings := by
          have hcases := hproceeds.left_cases
          rw [Clock.rollover_of_open hopen] at hcases
          rw [hproceeds.settings_eq]
          rw [Nat.cast_add_one, add_one_mul] at hleft
          rcases hcases with hzero | hle
          · rw [hzero]
            positivity
          · linarith
        obtain ⟨run, iterations, hrun, hresult, hready⟩ :=
          ih hproceeds.ready hleft' (tally.count report)
        have hretries : (tally.count report).retries = tally.retries := by
          rw [Tally.count, hretried]
          exact UInt32.add_zero _
        rw [hretries] at hresult
        refine ⟨{ run with events := sim.advance.events ++ run.events }, iterations, ?_, hresult,
          hready⟩
        simp only [hreport, hrun]
        rfl

/-- **Frames are completed**, without retries. -/
theorem Ready.exists_runFrame (h : sim.Ready) :
    ∃ run record, sim.runFrame = some run ∧ run.result = .ok record ∧ record.retries = 0 ∧
      run.simulation.Ready := by
  have hrolled := h.withClock h.clock.rollover
  have hstride := Clock.stride_pos hrolled.clock
  obtain ⟨strides, hstrides⟩ := exists_nat_ge
    ((sim.withClock sim.state.clock.rollover).state.clock.left /
      Clock.stride (sim.withClock sim.state.clock.rollover).state.clock.settings)
  obtain ⟨run, iterations, hrun, hresult, hready⟩ :=
    hrolled.exists_stepThrough hR ((div_le_iff₀ hstride).mp hstrides) ⟨0, 0⟩
  refine ⟨run.summarize, run.simulation.frameRecord ⟨0, iterations⟩,
    runFrame_eq_some.mpr ⟨run, hrun, rfl⟩, ?_, rfl, ?_⟩
  · rw [FrameRun.summarize, hresult]
  · rw [simulation_summarize]
    exact hready

end Simulation

/-! ## Starts -/

/-- Walls alone do not cut the domain: what they leave open is a box. -/
lemma Scene.connected_build {S : Type} [Scalar S] {scene : Scene S} (h : scene.obstacles = [])
    (d : Dims) : (scene.build d).1.Connected := by
  refine Flags.connected_of_between fun {c n c'} hbetween hc hc' => ?_
  rw [isObstacle_build_eq_false_iff scene _ h] at hc hc' ⊢
  intro a ha
  have := hbetween a
  have := hc a ha
  have := hc' a ha
  omega

/-- A level set of numbers for any finite bodies of liquid. -/
lemma Scene.isFinite_liquid {scene : Scene Exact} (h : ∀ shape ∈ scene.fluid, shape.IsFinite)
    (c : d.Cell) : Scalar.isFinite ((scene.liquid d).get c) = true := by
  obtain ⟨f, -, hf⟩ := exists_lipschitz_liquid h d
  rw [hf c]
  rfl

lemma Scene.allFinite_imposeVelocity {scene : Scene Exact}
    (h : ∀ region, scene.motion = some region → region.velocity.isFinite = true)
    {v : Staggered d Exact} (hv : v.allFinite = true) :
    (scene.imposeVelocity v).allFinite = true := by
  rw [imposeVelocity]
  split
  · next region hregion =>
    refine Staggered.allFinite_updateActive hv fun a _ f => ?_
    rw [Field.get_update]
    split_ifs
    · exact Vec3.isFinite_get (Vec3.isFinite_scale (h region hregion) rfl) a
    · exact Staggered.isFinite_component hv a f
  · exact hv

/-- A volume that is aimed at is a number. -/
lemma Config.isFinite_of_aim {limit t : Exact} {target : Option Exact}
    (hlimit : Scalar.isFinite limit = true) (h : aim limit target = some t) :
    Scalar.isFinite t = true := by
  obtain ⟨x, rfl⟩ := isFinite_iff.mp hlimit
  obtain ⟨y, hy, rfl⟩ := Option.map_eq_some_iff.mp h
  split_ifs with hle
  · rfl
  · have hpos := (Option.filter_eq_some_iff.mp hy).2
    cases y with
    | real y => rfl
    | posInf => exact absurd (real_lt_posInf x) hle
    | negInf => cases of_decide_eq_true hpos
    | nan => exact absurd (of_decide_eq_true hpos) (not_lt_nan _)

variable [RandomSource R Exact]

/-- A scene of finite shapes and speeds starts with numbers. -/
lemma State.isFinite_initial (hR : RandomSource.Centered R) {c : Config Exact Exact}
    (hmode : c.mode = .levelset) (hfluid : ∀ shape ∈ c.scene.fluid, shape.IsFinite)
    (hmotion : ∀ region, c.scene.motion = some region → region.velocity.isFinite = true)
    (htarget : ∀ t, c.targetVolume = some t → Scalar.isFinite t = true) (d : Dims) :
    (State.initial c d : State d Exact Exact R).IsFinite where
  velocity := Scene.allFinite_imposeVelocity hmotion (Staggered.allFinite_zero d)
  phi := Surface.isFinite_extendIntoObstacles _ (Scene.isFinite_liquid hfluid)
  particles := by
    rw [Particles.allFinite, Array.all_eq_true_iff_forall_mem]
    simp only [initial, if_pos hmode]
    refine forall_seeds hR _ _ fun _ hwithin => ?_
    obtain ⟨x, y, z, rfl, -⟩ := hwithin
    rfl
  targetVolume := by
    show Scalar.isFinite (c.targetVolume.getD _) = true
    cases h : c.targetVolume with
    | none => rfl
    | some t => exact htarget t h

/-- A configuration in level-set mode, with numbers throughout, no obstacles but the walls, and a
round of the pressure for every cell. -/
structure Config.Feasible (c : Config Exact Exact) : Prop where
  mode : c.mode = .levelset
  clock : c.clock.IsFinite
  gravity : c.gravity.isFinite = true
  volumeGain : Scalar.isFinite c.volumeGain = true
  fluid : ∀ shape ∈ c.scene.fluid, shape.IsFinite
  obstacles : c.scene.obstacles = []
  motion : ∀ region, c.scene.motion = some region → region.velocity.isFinite = true
  indexable : c.normalizedDims.Indexable
  rounds : c.normalizedDims.cellCount ≤ c.pressure.maxIterations

lemma Config.Feasible.solvable {c : Config Exact Exact} (h : c.Feasible) :
    c.normalized.Solvable c.normalizedDims := by
  have haccuracy : real 0 < positiveOr c.pressure.accuracy
      (SolverSettings.standard (D := Exact)).accuracy := by
    rw [positiveOr]
    split_ifs with hpos
    · rw [literal, Nat.cast_zero] at hpos
      exact hpos
    · exact real_lt_real.mpr (by norm_num)
  have hrounds : c.normalizedDims.cellCount ≤ nonzeroOr c.pressure.maxIterations
      (SolverSettings.standard (D := Exact)).maxIterations := by
    have hcells : 0 < c.normalizedDims.cellCount :=
      Nat.mul_pos (Nat.mul_pos (width_pos _) (height_pos _)) (depth_pos _)
    rw [nonzeroOr, if_neg (hcells.trans_le h.rounds).ne']
    exact h.rounds
  rw [normalized_eq]
  exact ⟨h.mode, h.gravity, h.volumeGain, haccuracy, hrounds⟩

namespace Simulation

variable {c : Config Exact Exact}

lemma Ready.start (hR : RandomSource.Centered R) (hc : c.Feasible) :
    (start c : Simulation Exact Exact R).Ready := by
  obtain ⟨hsound, hnumbers⟩ := Config.clock_normalized_sound hc.clock
  refine ⟨hc.solvable, hc.indexable, State.isFinite_initial hR hc.solvable.mode ?_ ?_ ?_ _, ?_,
    Clock.Running.start hsound hnumbers⟩
  · rw [c.scene_normalized]
    exact hc.fluid
  · rw [c.scene_normalized]
    exact hc.motion
  · intro t ht
    rw [Config.normalized_eq] at ht
    exact Config.isFinite_of_aim rfl ht
  · exact Scene.connected_build (c.scene_normalized ▸ hc.obstacles) c.normalizedDims

/-- **Nothing fails.**  In every run of such a configuration the next step succeeds at the first
attempt, and the next frame is completed. -/
theorem Reachable.ready (hcentered : RandomSource.Centered R) (hR : RandomSource.Fractional R)
    (hc : c.Feasible) {sim : Simulation Exact Exact R} (h : Reachable c sim) : sim.Ready := by
  induction h with
  | start => exact .start hcentered hc
  | advance _ ih => exact (ih.proceeds hR).ready
  | runFrame _ hrun ih =>
      obtain ⟨run, record, hrun', -, -, hready⟩ := ih.exists_runFrame hR
      obtain rfl := Option.some.inj (hrun.symm.trans hrun')
      exact hready

end Simulation

/-! ## A falling drop -/

/-- The standard scene, a drop that falls into a pool, in level-set mode and on fewer cells. -/
noncomputable def Config.fallingDrop : Config Exact Exact :=
  { Config.standard with mode := .levelset, resolution := 24 }

namespace Config

open Shape

lemma normalizedDims_fallingDrop : fallingDrop.normalizedDims = .planar 23 23 := by
  apply normalizedDims_eq
  rw [normalized_eq]
  rfl

lemma feasible_fallingDrop : fallingDrop.Feasible where
  mode := rfl
  clock := ClockSettings.standard_isFinite
  gravity := rfl
  volumeGain := rfl
  fluid := List.forall_mem_cons.mpr ⟨⟨rfl, rfl⟩, List.forall_mem_singleton.mpr ⟨rfl, rfl⟩⟩
  obstacles := rfl
  motion region hregion := by
    rw [← Option.some.inj hregion]
    rfl
  indexable := by
    rw [normalizedDims_fallingDrop]
    exact ⟨by decide, by decide, by decide⟩
  rounds := by
    rw [normalizedDims_fallingDrop]
    decide

section Surface

variable {c : (Dims.planar 23 23).Cell}

lemma shadow_center (c : (Dims.planar 23 23).Cell) :
    (shadow true ((Dims.planar 23 23).center c) : Space true) =
      WithLp.toLp 2 fun a => (((Dims.planar 23 23).cells.coords c.val).get a.1 : ℝ) + 1 / 2 := by
  rw [shadow]
  congr 1
  funext a
  obtain ⟨a, -⟩ := a
  rw [center, centerAt, half_eq]
  cases a <;> rfl

/-- The pool covers the lowest five rows of cells. -/
lemma mem_interior_pool_iff :
    shadow true ((Dims.planar 23 23).center c) ∈
        interior (((box Vec3.zero ⟨1, 0.2, 1⟩).scaled (Dims.planar 23 23)).solid true) ↔
      ((Dims.planar 23 23).cells.coords c.val).j < 5 := by
  have hscaled : (box Vec3.zero ⟨1, 0.2, 1⟩).scaled (Dims.planar 23 23) =
      box ⟨real 0, real 0, real 0⟩ ⟨real 24, real (24 / 5), real 1⟩ := by
    show box ⟨0 * Scalar.ofNat 24, 0 * Scalar.ofNat 24, 0 * Scalar.ofNat 1⟩
      ⟨1 * Scalar.ofNat 24, Scalar.ofDecimal 2 1 * Scalar.ofNat 24, 1 * Scalar.ofNat 1⟩ = _
    simp only [literal, scalar_ofNat, scalar_ofDecimal, real_mul_real]
    norm_num
  have hi : (((Dims.planar 23 23).cells.coords c.val).i : ℝ) + 1 ≤ 24 := by
    exact_mod_cast ((Dims.planar 23 23).cells.contains_coords c.isLt).1
  rw [hscaled, interior_solid_box, shadow_center, Set.mem_ofPred_eq, Counted.forall_planar]
  simp only [Vec3.get, Coords.get, toReal_real, Set.mem_Ioo]
  constructor
  · rintro ⟨-, -, hj⟩
    by_contra hbeyond
    have hge : (5 : ℝ) ≤ ((Dims.planar 23 23).cells.coords c.val).j := by
      exact_mod_cast not_lt.mp hbeyond
    linarith
  · intro hj
    have hle : (((Dims.planar 23 23).cells.coords c.val).j : ℝ) + 1 ≤ 5 := by exact_mod_cast hj
    refine ⟨⟨?_, ?_⟩, ?_, ?_⟩
    · positivity
    · linarith
    · positivity
    · linarith

/-- The drop stays above the lower half of the domain. -/
lemma not_mem_interior_drop (h : ((Dims.planar 23 23).cells.coords c.val).j < 12) :
    shadow true ((Dims.planar 23 23).center c) ∉
      interior (((sphere ⟨0.5, 0.8, 0.5⟩ 0.075).scaled (Dims.planar 23 23)).solid true) := by
  have hscaled : (sphere ⟨0.5, 0.8, 0.5⟩ 0.075).scaled (Dims.planar 23 23) =
      sphere ⟨real 12, real (96 / 5), real (1 / 2)⟩ (real (9 / 5)) := by
    show sphere ⟨Scalar.ofDecimal 5 1 * Scalar.ofNat 24, Scalar.ofDecimal 8 1 * Scalar.ofNat 24,
      Scalar.ofDecimal 5 1 * Scalar.ofNat 1⟩ (Scalar.ofDecimal 75 3 * Scalar.ofNat 24) = _
    simp only [scalar_ofNat, scalar_ofDecimal, real_mul_real]
    norm_num
  have hj : (((Dims.planar 23 23).cells.coords c.val).j : ℝ) + 1 ≤ 12 := by exact_mod_cast h
  rw [hscaled, solid, interior_closedBall', Metric.mem_ball, not_lt, toReal_real, shadow_center]
  refine le_trans ?_ (PiLp.dist_apply_le _ _ (⟨.y, by decide⟩ : Counted true))
  show 9 / 5 ≤ dist (((Dims.planar 23 23).cells.coords c.val).j + 1 / 2 : ℝ) (96 / 5)
  rw [dist_comm, Real.dist_eq]
  exact le_trans (by linarith) (le_abs_self _)

/-- Above a cell of the fifth row there is air. -/
lemma hasSurface_fallingDrop : (fallingDrop.scene.build (.planar 23 23)).1.HasSurface := by
  let c : (Dims.planar 23 23).Cell := ⟨101, by decide⟩
  let n : (Dims.planar 23 23).Cell := ⟨125, by decide⟩
  have hfinite := feasible_fallingDrop.fluid
  have hc : (fallingDrop.scene.build (.planar 23 23)).1.isObstacle c = false :=
    (Scene.isObstacle_build_eq_false_iff _ c rfl).mpr (by decide)
  have hn : (fallingDrop.scene.build (.planar 23 23)).1.isObstacle n = false :=
    (Scene.isObstacle_build_eq_false_iff _ n rfl).mpr (by decide)
  have hliquid : (fallingDrop.scene.build (.planar 23 23)).1.isFluid c = true := by
    rw [Scene.isFluid_build_iff_interior hfinite hc]
    exact ⟨_, List.mem_cons_self, mem_interior_pool_iff.mpr (by decide)⟩
  have hair : (fallingDrop.scene.build (.planar 23 23)).1.cells.get n = .empty := by
    by_contra hne
    obtain ⟨shape, hshape, hinside⟩ :=
      (Scene.isFluid_build_iff_interior hfinite hn).mp (Flags.isFluid_of_ne hn hne)
    rcases List.mem_pair.mp hshape with rfl | rfl
    · exact absurd (mem_interior_pool_iff.mp hinside) (by decide)
    · exact not_mem_interior_drop (by decide) hinside
  have hnext : n ∈ (Dims.planar 23 23).cells.neighbors c :=
    (Dims.planar 23 23).cells.mem_neighbors.mpr ⟨.y, .upper, by decide⟩
  exact ⟨c, Poisson.isOpen_iff.mpr ⟨hliquid, n, hnext, hn⟩, n, hnext, hair⟩

end Surface

end Config

namespace Simulation

lemma flags_start (c : Config Exact Exact) :
    (start c : Simulation Exact Exact R).state.flags =
      (c.normalized.scene.build c.normalizedDims).1 := rfl

/-- The drop at the start, already in motion. -/
noncomputable def fallingDrop : Simulation Exact Exact (Generator Exact) :=
  start Config.fallingDrop

lemma ready_fallingDrop : fallingDrop.Ready :=
  .start ChaCha.centered_generator Config.feasible_fallingDrop

lemma hasSurface_fallingDrop : fallingDrop.state.flags.HasSurface := by
  have hsurface := Config.hasSurface_fallingDrop
  rw [← Config.normalizedDims_fallingDrop] at hsurface
  rw [fallingDrop, flags_start, Config.scene_normalized]
  exact hsurface

end Simulation

end FreeSurface

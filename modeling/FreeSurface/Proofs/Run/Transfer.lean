import FreeSurface.Proofs.Transfer.Windows
import FreeSurface.Proofs.Velocity.Agreement
import FreeSurface.Run.Variant

/-!
# Transfer near the surface and everywhere

In narrow-band mode a face takes the velocity of particles when it is near the surface and enough
weight supports it; in full mode when it belongs to the liquid.  Without a limit of depth, and with
enough weight on every face of the liquid, the two differ in the air only.  That difference never
gets into the liquid: `Variant.projection_band_eq_full`.
-/

namespace FreeSurface

open Dims Staggered
open scoped Literals

variable {d : Dims} {S D R : Type} [Scalar S]

/-! ## Faces of the liquid -/

namespace Transfer

variable {g : Flags d} {v w : Staggered d S} {parts : Gathered d S} {phi : ScalarField d S}
  {band threshold : S}

/-- More than the threshold weight lies on every face of the liquid. -/
def Supports (g : Flags d) (weight : Staggered d S) (threshold : S) : Prop :=
  ∀ a ∈ d.activeAxes, ∀ f : d.Face a, g.isFluidFace a f = true →
    threshold < (weight.component a).get f

omit [Scalar S] in
lemma agreeOnLiquid_replaceFluid (v parts : Staggered d S) (g : Flags d) :
    AgreeOnLiquid g (replaceFluid v parts g) parts := by
  intro a ha f hf
  rw [replaceFluid, component_updateActive_of_mem _ _ ha, Field.get_update, if_pos hf]

/-- Where no depth is excluded, weight alone decides. -/
lemma agreeOnLiquid_combine (hband : band ≤ 0) (hweight : Supports g parts.weight threshold)
    (v : Staggered d S) (phi : ScalarField d S) :
    AgreeOnLiquid g (combine v parts phi band threshold) parts.velocity := by
  intro a ha f hf
  have hsupported : isSupported parts.weight phi band threshold a f = true := by
    simp only [isSupported, decide_eq_true hband, Bool.true_or, Bool.true_and]
    exact decide_eq_true (hweight a ha f hf)
  rw [combine, component_updateActive_of_mem _ _ ha, Field.get_update, if_pos hsupported]

end Transfer

/-! ## From the transfer to the air -/

namespace Variant

/-- The projection of a state, after gravity has acted and the walls are closed. -/
def projection [Scalar D] [Precision S D] (s : State d S D R) (phi : Option (ScalarField d S))
    (gravity : Vec3 S) (dt source : S) (settings : SolverSettings D) : Projection.Outcome d S D :=
  Projection.solve
    (Velocity.closeWalls s.flags (Velocity.accelerate s.flags s.velocity gravity dt)) s.flags phi
    source settings

/-- A projected velocity, stopped at the walls once more and carried into the air. -/
def carried (g : Flags d) (v : Staggered d S) (distance : ℕ) : Staggered d S :=
  Velocity.extrapolate g (Velocity.closeWalls g v) distance

variable {c : Config S D} {s : State d S D R}

/-- Both transfers give the liquid the velocities of the particles, whatever the velocity was. -/
lemma agreeOnLiquid_transferVelocity (hband : c.combineBand ≤ 0)
    (hweight : Transfer.Supports s.flags (gathered s c.kernel).weight c.combineWeightThreshold)
    (air : Staggered d S) :
    AgreeOnLiquid s.flags (transferVelocity { c with mode := .nbflip } s).1.velocity
      (transferVelocity { c with mode := .flip } { s with velocity := air }).1.velocity := by
  intro a ha f hf
  have hcombined := Transfer.agreeOnLiquid_combine hband hweight s.velocity s.phi a ha f hf
  have hreplaced := Transfer.agreeOnLiquid_replaceFluid air (gathered s c.kernel).velocity s.flags
    a ha f hf
  exact hcombined.trans hreplaced.symm

/-- **Without a limit of depth the narrow band is the whole liquid.**  A transfer near the surface
and a transfer to all of the liquid, the latter from any velocity at all, lead to the same failure
or report and to the same pressure, and to the same velocities on the faces of the liquid and all
faces that the extrapolation reaches.  Neither the velocities in the air nor what the transfer makes
of them gets into the projection. -/
theorem projection_band_eq_full [Scalar D] [Precision S D] (c : Config S D) (s : State d S D R)
    (air : Staggered d S) (phi : Option (ScalarField d S)) (gravity : Vec3 S) (dt source : S)
    (settings : SolverSettings D) (hband : c.combineBand ≤ 0)
    (hweight : Transfer.Supports s.flags (gathered s c.kernel).weight c.combineWeightThreshold) :
    let band := projection (transferVelocity { c with mode := .nbflip } s).1 phi gravity dt source
      settings
    let full := projection (transferVelocity { c with mode := .flip } { s with velocity := air }).1
      phi gravity dt source settings
    band.dropped = full.dropped ∧
    band.result.map (·.report) = full.result.map (·.report) ∧
    ∀ p q, band.result = .ok p → full.result = .ok q →
      p.pressure = q.pressure ∧
      ∀ (distance : ℕ) (a : Axis) (f : d.Face a),
        s.flags.isFluidFace a f = true ∨ Velocity.Reached s.flags a distance f →
        ((carried s.flags p.velocity distance).component a).get f =
          ((carried s.flags q.velocity distance).component a).get f := by
  intro band full
  have hagree := Velocity.agreeOnLiquid_closeWalls (Velocity.agreeOnLiquid_accelerate
    (agreeOnLiquid_transferVelocity hband hweight air) gravity dt)
  obtain ⟨hdropped, hresult⟩ := Projection.solve_congr hagree phi source settings
  change Projection.SameResult s.flags band.result full.result at hresult
  refine ⟨hdropped, hresult.map_report, fun p q hp hq => ?_⟩
  rw [hp, hq] at hresult
  obtain ⟨hvelocity, hpressure, -⟩ := hresult.agree
  refine ⟨hpressure, fun distance a f hf => ?_⟩
  have hreached : Velocity.Reached s.flags a distance f :=
    hf.elim (fun h => Front.reached_of_source h distance) id
  exact Velocity.get_extrapolate_closeWalls_congr hvelocity hreached

end Variant

/-! ## A puddle -/

open Exact

/-- Two cells side by side, the left one of liquid. -/
def Flags.puddle : Flags (planar 1 0) where
  cells := Field.tabulate fun c => if c.val = 0 then .fluid else .empty
  wallLayers := 0

/-- A puddle at rest, with a particle in the middle of its liquid. -/
noncomputable def State.puddle : State (planar 1 0) Exact Exact Unit where
  flags := .puddle
  phi := Field.constant _ 0
  velocity := Staggered.zero _
  reference := Staggered.zero _
  pressure := Field.constant _ 0
  particles := #[Particle.atRest ⟨Scalar.half, Scalar.half, Scalar.half⟩]
  clock := Clock.start .standard
  targetVolume := 1
  random := ()

namespace Transfer

/-- The faces around the liquid of the puddle, by axis and coordinates. -/
def puddleFaces : List (Axis × Coords) :=
  [(.x, ⟨0, 0, 0⟩), (.x, ⟨1, 0, 0⟩), (.y, ⟨0, 0, 0⟩), (.y, ⟨0, 1, 0⟩)]

lemma mem_puddleFaces : ∀ a ∈ (planar 1 0).activeAxes, ∀ f : (planar 1 0).Face a,
    Flags.puddle.isFluidFace a f = true →
      (a, ((planar 1 0).faces a).coords f.val) ∈ puddleFaces := by
  intro a ha
  cases a with
  | x => decide
  | y => decide
  | z => exact absurd ha (by decide)

/-- The particle lies half a cell from every face of the liquid. -/
lemma weight_puddle : ∀ e ∈ puddleFaces,
    Kernel.dLinear.weight ((⟨Scalar.half, Scalar.half, Scalar.half⟩ : Vec3 Exact) -
      facePositionAt e.1 e.2) true = real (1 / 2) := by
  have hweight : ∀ x y z : ℝ, Kernel.dLinear.weight (⟨real x, real y, real z⟩ : Vec3 Exact) true =
      real (Kernel.hats true x y z) := Kernel.dLinearWeight_real true
  simp only [puddleFaces, List.forall_mem_cons, half_eq, facePositionAt_eq, Vec3.mk_sub_mk,
    real_sub_real, hweight, Kernel.hats, Kernel.hat, shift_eq, reduceCtorEq, if_true, if_false]
  norm_num

open scoped Exact.Sums in
lemma weight_gathered_puddle {a : Axis} (ha : a ∈ (planar 1 0).activeAxes)
    {f : (planar 1 0).Face a} (hf : Flags.puddle.isFluidFace a f = true) :
    ((Variant.gathered State.puddle .dLinear).weight.component a).get f = real (1 / 2) := by
  have hd : (planar 1 0).Addressable Kernel.dLinear.support := ⟨by decide, by decide, by decide⟩
  have hps : ∀ p ∈ State.puddle.particles, p.position.isFinite = true := by
    simp only [State.puddle, List.mem_toArray, List.mem_singleton, forall_eq]
    exact Vec3.isFinite_splat_half
  have hv : ∀ p ∈ State.puddle.particles, Scalar.isFinite (p.velocity.get a) = true := by
    simp only [State.puddle, List.mem_toArray, List.mem_singleton, forall_eq]
    exact Vec3.isFinite_get rfl a
  have htotal : ((Variant.gathered State.puddle .dLinear).weight.component a).get f =
      ∑ p, weightAt .dLinear a f (Particles.get State.puddle.particles p).position :=
    (isMean_gather hd hps ha hv f).total_eq
  have honly : State.puddle.particles.toList =
      [Particle.atRest ⟨Scalar.half, Scalar.half, Scalar.half⟩] := rfl
  rw [htotal, sum_particles State.puddle.particles fun p => weightAt .dLinear a f p.position, honly,
    List.map_singleton, List.sum_singleton]
  exact weight_puddle (a, ((planar 1 0).faces a).coords f.val) (mem_puddleFaces a ha f hf)

/-- The standard threshold is a tenth. -/
lemma supports_puddle :
    Supports State.puddle.flags (Variant.gathered State.puddle .dLinear).weight
      (Config.standard : Config Exact Exact).combineWeightThreshold := by
  intro a ha f hf
  rw [weight_gathered_puddle ha hf, Config.standard]
  simp only [scalar_ofDecimal, real_lt_real]
  norm_num

end Transfer

/-- A puddle at rest and a puddle in a wind get the same projection. -/
theorem Variant.projection_puddle :
    let c : Config Exact Exact := { Config.standard with combineBand := 0 }
    let wind : Staggered (planar 1 0) Exact := Staggered.constant _ 1
    c.combineBand ≤ 0 ∧
    Transfer.Supports State.puddle.flags (gathered State.puddle c.kernel).weight
      c.combineWeightThreshold ∧
    (projection (transferVelocity { c with mode := .nbflip } State.puddle).1
      (some State.puddle.phi) c.gravity 1 0 .standard).result.map (·.report) =
    (projection (transferVelocity { c with mode := .flip }
      { State.puddle with velocity := wind }).1
      (some State.puddle.phi) c.gravity 1 0 .standard).result.map (·.report) := by
  intro c wind
  have hband : c.combineBand ≤ 0 := by
    simp only [c, literal, real_le_real, le_refl]
  exact ⟨hband, Transfer.supports_puddle,
    (projection_band_eq_full c State.puddle wind (some State.puddle.phi) c.gravity 1 0 .standard
      hband Transfer.supports_puddle).2.1⟩

end FreeSurface

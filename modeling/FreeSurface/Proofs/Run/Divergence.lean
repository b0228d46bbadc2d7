import FreeSurface.Proofs.Run.Success
import FreeSurface.Proofs.Velocity.Completion

/-!
# The divergence that a step commits

The projection gives every open cell of the liquid the divergence of the source.  What follows it —
closing the walls once more, and carrying velocities into the air — leaves the faces of liquid cells
alone, so the state that is committed still has that divergence.

* `State.source` — the source that the liquid of a state can follow.
* `Step.Completed.face_eq` — after the projection no stage changes a face of an open cell.
* `Simulation.divergence_of_advance` — the divergence after a step that succeeds.
-/

namespace FreeSurface

open Exact Dims Poisson
open scoped Literals

variable {d : Dims} {R : Type}

/-! ## The source -/

/-- The source that steers the volume of a state, none without a surface. -/
def State.source {S D : Type} [Scalar S] [Scalar D] [Precision S D] (s : State d S D R) (gain : S) :
    S :=
  if s.flags.HasSurface then Measure.volumeCorrection gain s.targetVolume s.flags.fluidCount else 0

lemma State.source_eq (s : State d Exact Exact R) (gain : Exact)
    (phi : Option (ScalarField d Exact)) :
    s.source gain = Projection.effectiveSource (build s.flags phi : Poisson d Exact _)
      (Measure.volumeCorrection gain s.targetVolume s.flags.fluidCount) := by
  rw [State.source, Projection.effectiveSource]
  exact if_congr Flags.hasSurface_iff.symm rfl rfl

/-! ## After the projection -/

/-- Only the faces of a cell count for what flows out of it. -/
lemma outflow_congr {v w : Staggered d Exact} {c : d.Cell}
    (h : ∀ a ∈ d.activeAxes, ∀ s, (v.component a).get (d.cellFace a c s) =
      (w.component a).get (d.cellFace a c s)) : outflow v.speeds c = outflow w.speeds c := by
  simp only [outflow, Staggered.speeds]
  refine congrArg List.sum (List.map_congr_left fun a ha => ?_)
  rw [h a ha .upper, h a ha .lower]

/-- Completing a velocity in the air leaves the faces of the liquid alone. -/
lemma Variant.get_finishVelocity (c : Config Exact Exact) (s : State d Exact Exact R)
    (speed : Exact) {a : Axis} (ha : a ∈ d.activeAxes) {f : d.Face a}
    (hf : s.flags.isFluidFace a f = true) :
    ((finishVelocity c s speed).velocity.component a).get f = (s.velocity.component a).get f := by
  rw [finishVelocity]
  cases c.mode with
  | levelset => exact Surface.get_transportVelocity_of_fluid ha hf _ _
  | flip0 => exact Surface.get_transportVelocity_of_fluid ha hf _ _
  | flip => exact Velocity.get_extrapolate_of_fluid ha hf _
  | nbflip => exact Velocity.get_extrapolate_of_fluid ha hf _

namespace Step

variable [RandomSource R Exact] {c : Config Exact Exact} {dt speed : Exact}
  {start final : State d Exact Exact R} {p : Projection.Projected d Exact Exact}
  {report : StepReport Exact Exact}

lemma Completed.finitePhi (h : Completed c dt speed start p final report) :
    FinitePhi (some (forced c dt start).phi) := by
  rintro field hfield cell
  obtain rfl := Option.some.inj hfield
  rw [phi_forced]
  exact Field.allFinite_iff.mp h.phi_surfaced cell

/-- After the projection no stage changes a face of an open cell: a wall was closed before it, and
every other face of the cell is a face of liquid. -/
lemma Completed.face_eq (h : Completed c dt speed start p final report) {cell : d.Cell}
    (hcell : isOpen final.flags cell = true) {a : Axis} (ha : a ∈ d.activeAxes) (s : Side) :
    (final.velocity.component a).get (d.cellFace a cell s) =
      (p.velocity.component a).get (d.cellFace a cell s) := by
  rw [h.flags_eq] at hcell
  obtain ⟨⟨pressure, hvelocity⟩, -⟩ := Projection.outflow_solve h.finitePhi h.solved hcell
  have hfluid : (withProjection (forced c dt start) p).flags.isFluidFace a
      (d.cellFace a cell s) = true := Flags.isFluidFace_cellFace (isOpen_iff.mp hcell).1
  have hfinal : final.velocity =
      (Variant.finishVelocity c (withProjection (forced c dt start) p) speed).velocity := by
    rw [h.final_eq]
    exact velocity_finished c speed _
  rw [hfinal, Variant.get_finishVelocity c _ speed ha hfluid]
  show ((Velocity.closeWalls (forced c dt start).flags p.velocity).component a).get _ = _
  rw [Velocity.get_closeWalls ha]
  -- A wall of the cell was closed before the projection, and the gradient leaves walls alone.
  split_ifs with hwall
  · rw [hvelocity, Projection.get_subtractGradient_of_wall ha hwall, velocity_forced,
      Velocity.get_closeWalls ha, if_pos hwall]
  · rfl

/-- A step that succeeds gives every open cell the divergence of the source. -/
lemma Completed.divergence_lt (h : Completed c dt speed start p final report) {cell : d.Cell}
    (hcell : isOpen final.flags cell = true) :
    Scalar.abs ((divergence final.flags final.velocity).get cell - final.source c.volumeGain) <
      c.pressure.accuracy := by
  have hface := fun a ha s => h.face_eq hcell (a := a) ha s
  have hopen : isOpen (forced c dt start).flags cell = true := by
    rw [← h.flags_eq]
    exact hcell
  obtain ⟨-, hfinite, s, hs, hlt⟩ := Projection.outflow_solve h.finitePhi h.solved hopen
  have hsource : final.source c.volumeGain = real s := by
    rw [← hs, State.source_eq final c.volumeGain (some (forced c dt start).phi), h.flags_eq,
      h.targetVolume_eq, targetVolume_forced]
  have hfinal : final.velocity.FiniteAt cell := by
    intro a ha s
    rw [hface a ha s]
    exact hfinite a ha s
  rw [divergence_eq_real (isOpen_iff.mp hcell).1 hfinal, hsource, real_sub_real, abs_real,
    outflow_congr hface]
  exact hlt

end Step

/-! ## Steps -/

namespace Simulation

variable [RandomSource R Exact]

/-- **The divergence after a step.**  In the state that a successful step commits, every liquid cell
with a neighbour that is not solid has the divergence of the source, up to the accuracy of the
pressure. -/
theorem divergence_of_advance {sim : Simulation Exact Exact R} {report : StepReport Exact Exact}
    (h : sim.advance.result = .ok report) :
    let next := sim.advance.simulation
    ∀ cell, next.state.flags.isFluid cell = true →
      (∃ n ∈ next.dims.cells.neighbors cell, next.state.flags.isObstacle n = false) →
      Scalar.abs ((divergence next.state.flags next.state.velocity).get cell -
        next.state.source sim.config.volumeGain) < sim.config.pressure.accuracy := by
  obtain ⟨prepared, dt, speed, p, final, first, clock, hprepare, hstep, hafter, -⟩ :=
    completed_of_advance h
  obtain ⟨clock', -, rfl⟩ := prepare_eq_ok.mp hprepare
  rw [hafter]
  intro next cell hfluid hneighbor
  exact hstep.divergence_lt (isOpen_iff.mpr ⟨hfluid, hneighbor⟩)

/-- The falling drop and its pool, which has a surface, make a step, after which the liquid has the
divergence of the source. -/
theorem divergence_fallingDrop :
    fallingDrop.state.flags.HasSurface ∧ ∃ report, fallingDrop.advance.result = .ok report ∧
      let next := fallingDrop.advance.simulation
      ∀ cell, next.state.flags.isFluid cell = true →
        (∃ n ∈ next.dims.cells.neighbors cell, next.state.flags.isObstacle n = false) →
        Scalar.abs ((divergence next.state.flags next.state.velocity).get cell -
          next.state.source fallingDrop.config.volumeGain) <
            fallingDrop.config.pressure.accuracy := by
  obtain ⟨report, h, -⟩ := (ready_fallingDrop.proceeds ChaCha.fractional_generator).exists_report
  exact ⟨hasSurface_fallingDrop, report, h, divergence_of_advance h⟩

end Simulation

end FreeSurface

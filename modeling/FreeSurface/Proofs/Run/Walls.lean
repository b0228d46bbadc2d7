import FreeSurface.Proofs.Run.Divergence

/-!
# Nothing flows through walls

Advection, transfer and gravity write the faces of walls like any other, and the projection is
followed by one more change of the velocity.  The walls are closed before that last change, and it
takes no face of a wall into account (`Variant.get_finishVelocity_of_wall`).

* `Flags.TouchesSolid`, `Dims.OnBorder` — the faces through which nothing may flow, told by cells
  and by place; `Flags.isWallFace_iff` says that the solver means the same ones.
* `State.WallsClosed` — the velocity on each of them is zero.
* `Simulation.wallsClosed_of_advance` — from a step that succeeds on, the walls stay closed.
-/

namespace FreeSurface

open Dims
open scoped Literals

variable {d : Dims}

/-! ## The faces of walls -/

/-- The number of cells along an axis. -/
def Dims.side (d : Dims) : Axis → ℕ
  | .x => d.width
  | .y => d.height
  | .z => d.depth

/-- The face lies on the border of the domain. -/
def Dims.OnBorder (d : Dims) (a : Axis) (f : d.Face a) : Prop :=
  ((d.faces a).coords f).get a = 0 ∨ ((d.faces a).coords f).get a = d.side a

/-- The face is one of a solid cell. -/
def Flags.TouchesSolid (g : Flags d) (a : Axis) (f : d.Face a) : Prop :=
  ∃ c s, d.cellFace a c s = f ∧ g.isObstacle c = true

/-- Above the last layer of cells there is none. -/
lemma Dims.nodeAt?_eq_none_iff {a : Axis} (f : d.Face a) :
    d.cells.nodeAt? ((d.faces a).coords f) = none ↔ ((d.faces a).coords f).get a = d.side a := by
  obtain ⟨hi, hj, hk⟩ := (d.faces a).contains_coords f.isLt
  rw [Lattice.nodeAt?, dite_eq_right_iff]
  simp only [reduceCtorEq, imp_false, Lattice.Contains, cells]
  cases a <;> simp only [faces] at hi hj hk <;> simp only [Coords.get, side, faces] <;> omega

/-- Below the first layer of cells there is none. -/
lemma Dims.neighbor?_lower_eq_none_iff {a : Axis} (f : d.Face a) :
    d.cells.neighbor? ((d.faces a).coords f) a .lower = none ↔
      ((d.faces a).coords f).get a = 0 := by
  constructor
  · intro h
    by_contra hne
    obtain ⟨c, hc⟩ := Coords.exists_succ hne
    have hcontains : d.cells.Contains c := by
      obtain ⟨hi, hj, hk⟩ := (d.faces a).contains_coords f.isLt
      rw [hc] at hi hj hk
      cases a <;> simp only [faces, Coords.succ] at hi hj hk <;>
        exact ⟨by simp only [cells]; omega, by simp only [cells]; omega,
          by simp only [cells]; omega⟩
    rw [hc, Lattice.neighbor?_succ_lower, Lattice.nodeAt?, dif_pos hcontains] at h
    cases h
  · exact Lattice.neighbor?_lower_eq_none

namespace Flags

variable {g : Flags d} {a : Axis} {f : d.Face a}

/-- The faces that are treated as walls are those of solid cells and of the border. -/
theorem isWallFace_iff : g.isWallFace a f = true ↔ g.TouchesSolid a f ∨ d.OnBorder a f := by
  constructor
  · intro h
    rw [isWallFace, isWallAt, cellsAtFace] at h
    cases hl : d.cells.neighbor? ((d.faces a).coords f) a .lower with
    | none => exact .inr (.inl ((neighbor?_lower_eq_none_iff f).mp hl))
    | some l =>
        cases hu : d.cells.nodeAt? ((d.faces a).coords f) with
        | none => exact .inr (.inr ((nodeAt?_eq_none_iff f).mp hu))
        | some u =>
            rw [hl, hu] at h
            simp only [Bool.or_eq_true] at h
            rcases h with h | h
            · have hupper := cellFace_upper_eq_iff.mpr ((Lattice.neighbor?_lower_eq_some _).mp hl)
              exact .inl ⟨l, .upper, hupper, h⟩
            · have hlower := cellFace_lower_eq_iff.mpr ((Lattice.nodeAt?_eq_some _).mp hu)
              exact .inl ⟨u, .lower, hlower, h⟩
  · rintro (⟨c, s, rfl, hc⟩ | h | h)
    · cases hn : next? c a s with
      | none => exact isWallFace_of_border hn
      | some n => rw [isWallFace_of_next hn, hc, Bool.true_or]
    · rw [isWallFace, isWallAt, cellsAtFace, (neighbor?_lower_eq_none_iff f).mpr h]
    · rw [isWallFace, isWallAt, cellsAtFace, (nodeAt?_eq_none_iff f).mpr h]
      cases d.cells.neighbor? ((d.faces a).coords f) a .lower <;> rfl

end Flags

/-! ## Steps -/

variable {S D R : Type} [Scalar S]

/-- Nothing flows through the walls of a state. -/
def State.WallsClosed (s : State d S D R) : Prop :=
  ∀ a (f : d.Face a), s.flags.TouchesSolid a f ∨ d.OnBorder a f → (s.velocity.component a).get f = 0

/-- Completing the velocity in the air leaves walls alone. -/
lemma Variant.get_finishVelocity_of_wall (c : Config S D) (s : State d S D R) (speed : S)
    {a : Axis} {f : d.Face a} (hf : s.flags.isWallFace a f = true) :
    ((finishVelocity c s speed).velocity.component a).get f = (s.velocity.component a).get f := by
  rw [finishVelocity]
  cases c.mode with
  | levelset => exact Surface.get_transportVelocity_of_wall hf _ _
  | flip0 => exact Surface.get_transportVelocity_of_wall hf _ _
  | flip => exact Velocity.get_extrapolate_of_wall hf _
  | nbflip => exact Velocity.get_extrapolate_of_wall hf _

variable [Scalar D] [Precision S D] [RandomSource R S]

/-- A step that succeeds closes the walls of the state it commits: after they were closed no cell is
flagged, and no face of a wall is written. -/
lemma Step.Completed.wallsClosed {c : Config S D} {dt : D} {speed : S} {start final : State d S D R}
    {p : Projection.Projected d S D} {report : StepReport S D}
    (h : Completed c dt speed start p final report) : final.WallsClosed := by
  intro a f hf
  rw [← Flags.isWallFace_iff, h.flags_eq] at hf
  have hfinal : final.velocity =
      (Variant.finishVelocity c (withProjection (forced c dt start) p) speed).velocity := by
    rw [h.final_eq]
    exact velocity_finished c speed _
  have hwall : (withProjection (forced c dt start) p).flags.isWallFace a f = true := hf
  rw [hfinal, Variant.get_finishVelocity_of_wall c _ speed hwall]
  exact Velocity.get_closeWalls_of_wall hf

namespace Simulation

/-- **Nothing flows through walls.**  Once a step has succeeded, the velocity on every face of a
solid cell and on every face of the border is zero, in the state that is committed and in all that
steps and frames lead to from there, whether they succeed or fail. -/
theorem wallsClosed_of_advance {sim later : Simulation S D R} {report : StepReport S D}
    (h : sim.advance.result = .ok report) (hlater : sim.advance.simulation.LeadsTo later) :
    later.state.WallsClosed := by
  obtain ⟨prepared, dt, speed, p, final, first, clock, -, hstep, hafter, -⟩ :=
    completed_of_advance h
  refine hlater.invariant (P := fun sim => sim.state.WallsClosed) (fun _ _ h => h)
    (fun _ _ _ _ _ _ _ hstep => hstep.wallsClosed) ?_
  rw [hafter]
  exact hstep.wallsClosed

/-- The falling drop makes a step, and its walls are closed after the frame that follows. -/
theorem wallsClosed_fallingDrop :
    ∃ report run, fallingDrop.advance.result = .ok report ∧
      fallingDrop.advance.simulation.runFrame = some run ∧ run.simulation.state.WallsClosed := by
  have hproceeds := ready_fallingDrop.proceeds ChaCha.fractional_generator
  obtain ⟨report, h, -⟩ := hproceeds.exists_report
  obtain ⟨run, -, hrun, -⟩ := hproceeds.ready.exists_runFrame ChaCha.fractional_generator
  exact ⟨report, run, h, hrun, wallsClosed_of_advance h (.runFrame .refl hrun)⟩

end Simulation

end FreeSurface

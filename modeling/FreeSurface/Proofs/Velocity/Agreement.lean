import FreeSurface.Projection.Solve
import FreeSurface.Proofs.Velocity.Completion
import FreeSurface.Proofs.Velocity.Walls

/-!
# Velocities that agree on the liquid

What happens between the transfer from particles and the next step never reads a face of air before
it has written it.  Two velocities that agree on the faces of the liquid keep doing so under
gravity, walls and projection, and the projection finds the same pressure for both; carried into the
air, they agree wherever they are carried.

* `Staggered.AgreeOnLiquid` — the relation; each operation has one lemma that keeps it.
* `divergence_congr` — what flows out of the liquid depends on the faces of the liquid alone.
* `Projection.solve_congr` — so do the pressure, the report and the failure of a projection.
* `Velocity.get_extrapolate_closeWalls_congr` — the velocities that a run ends with.
-/

namespace FreeSurface

open Dims
open scoped Literals

variable {d : Dims} {S D : Type} {g : Flags d} {v w : Staggered d S}

namespace Staggered

/-- Two velocities agree on the faces of the liquid, along the axes of motion. -/
def AgreeOnLiquid (g : Flags d) (v w : Staggered d S) : Prop :=
  ∀ a ∈ d.activeAxes, ∀ f : d.Face a, g.isFluidFace a f = true →
    (v.component a).get f = (w.component a).get f

/-- Changes that read one face each keep agreement. -/
lemma AgreeOnLiquid.updateActive (h : AgreeOnLiquid g v w)
    {change : (a : Axis) → d.Face a → S → S} :
    AgreeOnLiquid g (v.updateActive fun a component => component.update (change a))
      (w.updateActive fun a component => component.update (change a)) := by
  intro a ha f hf
  rw [component_updateActive_of_mem _ _ ha, component_updateActive_of_mem _ _ ha,
    Field.get_update, Field.get_update, h a ha f hf]

end Staggered

open Staggered

variable [Scalar S]

/-! ## Gravity and walls -/

namespace Velocity

lemma agreeOnLiquid_accelerate (h : AgreeOnLiquid g v w) (gravity : Vec3 S) (dt : S) :
    AgreeOnLiquid g (accelerate g v gravity dt) (accelerate g w gravity dt) := by
  intro a ha f hf
  rw [accelerate, accelerate, component_updateActive_of_mem _ _ ha,
    component_updateActive_of_mem _ _ ha]
  simp only
  split_ifs
  · exact h a ha f hf
  · rw [Field.get_update, Field.get_update, h a ha f hf]

lemma agreeOnLiquid_closeWalls (h : AgreeOnLiquid g v w) :
    AgreeOnLiquid g (closeWalls g v) (closeWalls g w) := by
  intro a ha f hf
  rw [get_closeWalls ha, get_closeWalls ha, h a ha f hf]

end Velocity

/-! ## Projection -/

/-- What flows out of the liquid passes its faces. -/
theorem divergence_congr (h : AgreeOnLiquid g v w) : divergence g v = divergence g w := by
  refine Field.ext_get fun c => ?_
  rw [divergence, divergence, Field.get_tabulate, Field.get_tabulate]
  split_ifs with hc
  · refine List.foldl_ext _ _ _ fun sum a ha => ?_
    simp only
    rw [h a ha _ (Flags.isFluidFace_cellFace hc), h a ha _ (Flags.isFluidFace_cellFace hc)]
  · rfl

namespace Projection

variable [Scalar D] [Precision S D]

omit [Scalar D] [Precision S D] in
lemma agreeOnLiquid_subtractGradient (h : AgreeOnLiquid g v w) (pressure : ScalarField d S)
    (phi : Option (ScalarField d S)) :
    AgreeOnLiquid g (subtractGradient v pressure g phi) (subtractGradient w pressure g phi) :=
  h.updateActive

/-- The same projection, but for velocities that agree on the liquid only. -/
structure Projected.Agree (g : Flags d) (p q : Projected d S D) : Prop where
  velocity : AgreeOnLiquid g p.velocity q.velocity
  pressure : p.pressure = q.pressure
  report : p.report = q.report

/-- Two projections fail alike, or succeed alike. -/
inductive SameResult (g : Flags d) :
    Except (NumericalFailure D) (Projected d S D) →
    Except (NumericalFailure D) (Projected d S D) → Prop
  | error (e : NumericalFailure D) : SameResult g (.error e) (.error e)
  | ok {p q : Projected d S D} (h : p.Agree g q) : SameResult g (.ok p) (.ok q)

omit [Scalar S] [Scalar D] [Precision S D] in
lemma SameResult.map_report {r r' : Except (NumericalFailure D) (Projected d S D)}
    (h : SameResult g r r') : r.map (·.report) = r'.map (·.report) := by
  cases h with
  | error e => rfl
  | ok h => exact congrArg Except.ok h.report

omit [Scalar S] [Scalar D] [Precision S D] in
lemma SameResult.agree {p q : Projected d S D} (h : SameResult g (.ok p) (.ok q)) : p.Agree g q := by
  cases h with
  | ok h => exact h

lemma sameResult_solveSystem {n : ℕ} (system : Poisson d D n) (h : AgreeOnLiquid g v w)
    (phi : Option (ScalarField d S)) (source : S) (settings : SolverSettings D) :
    SameResult g (solveSystem system v g phi source settings)
      (solveSystem system w g phi source settings) := by
  have hright : rightSide system g v source = rightSide system g w source := by
    rw [rightSide, rightSide, divergence_congr h]
  rw [solveSystem, solveSystem, hright]
  simp only
  split_ifs
  · exact .error _
  · exact .error _
  · split
    · exact .error _
    · exact .ok ⟨agreeOnLiquid_subtractGradient h _ phi, rfl, rfl⟩

/-- **A projection reads the faces of the liquid and no others.** -/
theorem solve_congr (h : AgreeOnLiquid g v w) (phi : Option (ScalarField d S)) (source : S)
    (settings : SolverSettings D) :
    (solve v g phi source settings).dropped = (solve w g phi source settings).dropped ∧
      SameResult g (solve v g phi source settings).result
        (solve w g phi source settings).result := by
  rw [solve, solve]
  split_ifs
  · exact ⟨rfl, .ok ⟨h, rfl, rfl⟩⟩
  · exact ⟨rfl, sameResult_solveSystem _ h phi _ settings⟩

end Projection

/-! ## Air -/

namespace Velocity

/-- Carried into the air, velocities that agree on the liquid agree wherever they get. -/
lemma get_extrapolate_congr (h : AgreeOnLiquid g v w) {a : Axis} (ha : a ∈ d.activeAxes)
    {distance : ℕ} {f : d.Face a} (hf : Reached g a distance f) :
    ((extrapolate g v distance).component a).get f =
      ((extrapolate g w distance).component a).get f := by
  have hstart : Front.Agree (liquidFront g v a) (liquidFront g w a) := by
    refine ⟨rfl, fun e he => h a ha e ?_⟩
    simpa [liquidFront] using he
  rw [component_extrapolate ha, component_extrapolate ha]
  exact (hstart.spread (meanRule g a) distance).values f
    ((settled_liquidFront_spread distance f).mpr hf)

/-- The same after closing the walls, which leave nothing to differ along an axis without motion. -/
theorem get_extrapolate_closeWalls_congr (h : AgreeOnLiquid g v w) {a : Axis} {distance : ℕ}
    {f : d.Face a} (hf : Reached g a distance f) :
    ((extrapolate g (closeWalls g v) distance).component a).get f =
      ((extrapolate g (closeWalls g w) distance).component a).get f := by
  by_cases ha : d.isActive a = true
  · exact get_extrapolate_congr (agreeOnLiquid_closeWalls h) (mem_activeAxes.mpr ha) hf
  · rw [extrapolate, extrapolate, component_updateActive, component_updateActive, if_neg ha,
      if_neg ha, component_closeWalls_of_not_active ha, component_closeWalls_of_not_active ha]

end Velocity

end FreeSurface

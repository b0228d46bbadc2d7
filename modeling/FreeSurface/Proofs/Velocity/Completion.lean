import FreeSurface.Proofs.Field.Front
import FreeSurface.Proofs.Field.Interpolation
import FreeSurface.Surface.Marching
import FreeSurface.Velocity.Extrapolation

/-!
# Completing a velocity

Velocities are carried into the air from the faces of liquid cells, which are settled from the
start: neither way of doing so changes a velocity on the face of a liquid cell.

* `Velocity.Reached` — the faces that spreading layer by layer gets to, along faces that are no
  walls.
* `Velocity.get_extrapolate_of_not_reached` — it writes no others.
* `Surface.foldl_carry_rel` — carrying velocities from cell to cell settles face after face.
* `Velocity.get_extrapolate_of_wall`, `Surface.get_transportVelocity_of_wall` — walls keep their
  velocity.
-/

namespace FreeSurface

open Dims

variable {d : Dims} {S : Type} [Scalar S] {g : Flags d} {v : Staggered d S} {a : Axis}
  {f : d.Face a}

/-- The face belongs to the liquid, or some layers of faces that are no walls lead to it from the
liquid. -/
def Velocity.Reached (g : Flags d) (a : Axis) : ℕ → d.Face a → Prop :=
  Front.Reached (fun f => g.isFluidFace a f = true) fun f => g.isWallFace a f = false

/-- The velocity along an axis, and the faces of the liquid as the only ones settled. -/
def Velocity.liquidFront (g : Flags d) (v : Staggered d S) (a : Axis) : Front (d.faces a) S :=
  ⟨v.component a, Field.tabulate (g.isFluidFace a)⟩

/-- The mean of what is settled around a face, unless it is a wall. -/
def Velocity.meanRule (g : Flags d) (a : Axis) : Front.Rule (d.faces a) S :=
  fun f values => if g.isWallFace a f then none else Front.mean? values

lemma Velocity.component_extrapolate (ha : a ∈ d.activeAxes) (distance : ℕ) :
    (extrapolate g v distance).component a =
      ((liquidFront g v a).spread (meanRule g a) distance).values :=
  Staggered.component_updateActive_of_mem _ _ ha

lemma Velocity.isSome_meanRule (f : d.Face a) (values : List S) :
    (meanRule g a f values).isSome = true ↔ g.isWallFace a f = false ∧ values ≠ [] := by
  rw [meanRule, Front.mean?]
  cases g.isWallFace a f <;> cases values <;> simp

/-- A rule that takes means stays within a convex set. -/
lemma Velocity.in_of_meanRule {s : Set ℝ} (hs : Convex ℝ s) (f : d.Face a) {values : List Exact}
    (hvalues : ∀ b ∈ values, b.In s) {x : Exact} (h : meanRule g a f values = some x) : x.In s := by
  rw [meanRule] at h
  split_ifs at h
  exact Front.in_of_mean? hs hvalues h

lemma Velocity.settled_liquidFront_spread (distance : ℕ) (f : d.Face a) :
    ((liquidFront g v a).spread (meanRule g a) distance).settled.get f = true ↔
      Reached g a distance f := by
  rw [Front.settled_spread_iff isSome_meanRule]
  simp only [liquidFront, Field.get_tabulate]
  rfl

/-- Spreading writes no face that it does not reach. -/
theorem Velocity.get_extrapolate_of_not_reached (ha : a ∈ d.activeAxes) {distance : ℕ}
    (hf : ¬Reached g a distance f) :
    ((extrapolate g v distance).component a).get f = (v.component a).get f := by
  rw [← settled_liquidFront_spread (v := v), Bool.not_eq_true] at hf
  rw [component_extrapolate ha]
  exact Front.get_values_spread_of_not_settled _ _ _ hf

/-- Spreading layer by layer leaves the faces of the liquid alone. -/
lemma Velocity.get_extrapolate_of_fluid (ha : a ∈ d.activeAxes) (hf : g.isFluidFace a f = true)
    (distance : ℕ) :
    ((extrapolate g v distance).component a).get f = (v.component a).get f := by
  rw [component_extrapolate ha]
  refine Front.get_values_spread_of_settled _ _ _ ?_
  show (Field.tabulate (g.isFluidFace a)).get f = true
  rw [Field.get_tabulate]
  exact hf

namespace Surface

/-- The faces of an air cell along an axis, settled from the mean of what is settled around them. -/
def carry (phi : ScalarField d S) (g : Flags d) (a : Axis) (front : Front (d.faces a) S)
    (c : d.Cell) : Front (d.faces a) S :=
  if isInside (phi.get c) then front
  else (front.settle (Velocity.meanRule g a) (d.cellFace a c .lower)).settle
    (Velocity.meanRule g a) (d.cellFace a c .upper)

lemma component_transportVelocity (ha : a ∈ d.activeAxes) (order : List d.Cell)
    (phi : ScalarField d S) :
    (transportVelocity order phi g v).component a =
      (order.foldl (carry phi g a) (Velocity.liquidFront g v a)).values :=
  Staggered.component_updateActive_of_mem _ _ ha

/-- What holds between two fronts and goes on to hold when a face is settled in both of them still
holds after velocities have been carried from cell to cell, in whatever order. -/
lemma foldl_carry_rel {R : Front (d.faces a) S → Front (d.faces a) S → Prop}
    (hsettle : ∀ front front' e, R front front' →
      R (front.settle (Velocity.meanRule g a) e) (front'.settle (Velocity.meanRule g a) e))
    (phi : ScalarField d S) (order : List d.Cell) {front front' : Front (d.faces a) S}
    (h : R front front') :
    R (order.foldl (carry phi g a) front) (order.foldl (carry phi g a) front') := by
  induction order generalizing front front' with
  | nil => exact h
  | cons c order ih =>
      refine ih ?_
      rw [carry, carry]
      split_ifs
      · exact h
      · exact hsettle _ _ _ (hsettle _ _ _ h)

/-- The same of a single front. -/
lemma foldl_carry {P : Front (d.faces a) S → Prop}
    (hsettle : ∀ front e, P front → P (front.settle (Velocity.meanRule g a) e))
    (phi : ScalarField d S) (order : List d.Cell) {front : Front (d.faces a) S} (h : P front) :
    P (order.foldl (carry phi g a) front) := by
  refine (foldl_carry_rel (R := fun front front' => P front ∧ front = front') ?_ phi order
    ⟨h, rfl⟩).1
  rintro front _ e ⟨hfront, rfl⟩
  exact ⟨hsettle front e hfront, rfl⟩

/-- So does carrying velocities from cell to cell, in whatever order. -/
lemma get_transportVelocity_of_fluid (ha : a ∈ d.activeAxes) (hf : g.isFluidFace a f = true)
    (order : List d.Cell) (phi : ScalarField d S) :
    ((transportVelocity order phi g v).component a).get f = (v.component a).get f := by
  rw [component_transportVelocity ha]
  refine (foldl_carry (P := fun front =>
    front.settled.get f = true ∧ front.values.get f = (v.component a).get f) ?_ phi order ?_).2
  · rintro front e ⟨hsettled, hvalue⟩
    exact ⟨Front.settled_settle_of_settled _ _ _ hsettled,
      (Front.get_values_settle_of_settled _ _ _ hsettled).trans hvalue⟩
  · refine ⟨?_, rfl⟩
    rw [Velocity.liquidFront, Field.get_tabulate]
    exact hf

/-- What is carried into the air are means of numbers. -/
lemma allFinite_transportVelocity {v : Staggered d Exact} (hv : v.allFinite = true)
    (order : List d.Cell) (phi : ScalarField d Exact) :
    (transportVelocity order phi g v).allFinite = true := by
  refine Staggered.allFinite_updateActive hv fun a _ f => Exact.in_univ.mp ?_
  refine foldl_carry (P := fun front : Front (d.faces a) Exact =>
    ∀ e, (front.values.get e).In Set.univ) ?_ phi order ?_ f
  · exact fun front e h => Front.forall_values_settle
      (fun n values x hvalues hx => Velocity.in_of_meanRule convex_univ n hvalues hx) h e
  · exact fun e => Exact.in_univ.mpr (Staggered.isFinite_component hv a e)

end Surface

/-! ## Walls -/

/-- Neither way of completing a velocity writes a wall, along whatever axis. -/
lemma Velocity.get_extrapolate_of_wall (hf : g.isWallFace a f = true) (distance : ℕ) :
    ((extrapolate g v distance).component a).get f = (v.component a).get f := by
  by_cases ha : d.isActive a = true
  · rw [component_extrapolate (mem_activeAxes.mpr ha)]
    exact Front.get_values_spread_of_refused (fun _ => if_pos hf) distance (liquidFront g v a)
  · rw [extrapolate, Staggered.component_updateActive, if_neg ha]

lemma Surface.get_transportVelocity_of_wall (hf : g.isWallFace a f = true) (order : List d.Cell)
    (phi : ScalarField d S) :
    ((transportVelocity order phi g v).component a).get f = (v.component a).get f := by
  by_cases ha : d.isActive a = true
  · rw [component_transportVelocity (mem_activeAxes.mpr ha)]
    refine foldl_carry (P := fun front => front.values.get f = (v.component a).get f) ?_ phi order
      rfl
    intro front e hvalue
    rw [Front.get_values_settle_of_refused (fun _ => if_pos hf), hvalue]
  · rw [transportVelocity, Staggered.component_updateActive, if_neg ha]

end FreeSurface

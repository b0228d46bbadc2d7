import FreeSurface.Proofs.Field.Interpolation
import FreeSurface.Proofs.Lattice.Incidence
import FreeSurface.Velocity.Walls

/-!
# Walls

Which faces of a cell are walls, and what closing the walls does to a velocity
(`Velocity.get_closeWalls`).
-/

namespace FreeSurface

open Dims

variable {d : Dims}

namespace Flags

variable {g : Flags d} {a : Axis} {c : d.Cell} {s : Side}

/-- The faces of a cell on the border of the domain are walls. -/
lemma isWallFace_of_border (h : next? c a s = none) :
    g.isWallFace a (d.cellFace a c s) = true := by
  rw [isWallFace, isWallAt]
  cases s with
  | lower =>
      have hcells := faceCells_cellFace_lower a c
      rw [h] at hcells
      rw [show d.cellsAtFace a _ = _ from hcells]
  | upper =>
      have hcells := faceCells_cellFace_upper a c
      rw [h] at hcells
      rw [show d.cellsAtFace a _ = _ from hcells]

/-- A face between two cells is a wall when one of them is solid. -/
lemma isWallFace_of_next {n : d.Cell} (h : next? c a s = some n) :
    g.isWallFace a (d.cellFace a c s) = (g.isObstacle c || g.isObstacle n) := by
  rw [isWallFace, isWallAt]
  cases s with
  | lower =>
      have hcells := faceCells_cellFace_lower a c
      rw [h] at hcells
      rw [show d.cellsAtFace a _ = _ from hcells]
      exact Bool.or_comm _ _
  | upper =>
      have hcells := faceCells_cellFace_upper a c
      rw [h] at hcells
      rw [show d.cellsAtFace a _ = _ from hcells]

/-- The faces of a liquid cell are faces of liquid. -/
lemma isFluidFace_cellFace (hc : g.isFluid c = true) :
    g.isFluidFace a (d.cellFace a c s) = true := by
  rw [isFluidFace, isFluidAt]
  cases s with
  | lower =>
      rw [show d.cellsAtFace a _ = _ from faceCells_cellFace_lower a c]
      simp [hc]
  | upper =>
      rw [show d.cellsAtFace a _ = _ from faceCells_cellFace_upper a c]
      simp [hc]

end Flags

namespace Velocity

variable {S : Type} [Scalar S] {g : Flags d} {v : Staggered d S}

/-- No velocity goes through a wall, and every other face keeps its own. -/
lemma get_closeWalls {a : Axis} (ha : a ∈ d.activeAxes) (f : d.Face a) :
    ((closeWalls g v).component a).get f =
      if g.isWallFace a f then (Literals.instOfNat 0).ofNat else (v.component a).get f := by
  cases a with
  | x => exact Field.get_update _ _ _
  | y => exact Field.get_update _ _ _
  | z =>
      have hplanar : ¬d.isPlanar = true := by
        simpa [Dims.isActive] using Dims.mem_activeAxes.mp ha
      simp only [closeWalls, Staggered.component, if_neg hplanar, Field.get_update]

/-- Along an axis without motion nothing moves. -/
lemma component_closeWalls_of_not_active {a : Axis} (ha : ¬d.isActive a = true) :
    (closeWalls g v).component a = Field.constant (d.faces a) (Literals.instOfNat 0).ofNat := by
  cases a with
  | x => exact absurd rfl ha
  | y => exact absurd rfl ha
  | z =>
      have hplanar : d.isPlanar = true := by simpa [Dims.isActive] using ha
      simp only [closeWalls, Staggered.component, if_pos hplanar]

/-- No velocity goes through a wall, whatever its axis. -/
lemma get_closeWalls_of_wall {a : Axis} {f : d.Face a} (hf : g.isWallFace a f = true) :
    ((closeWalls g v).component a).get f = (Literals.instOfNat 0).ofNat := by
  by_cases ha : d.isActive a = true
  · rw [get_closeWalls (Dims.mem_activeAxes.mpr ha), if_pos hf]
  · rw [component_closeWalls_of_not_active ha, Field.get_constant]

/-! ## Finite velocities -/

lemma allFinite_closeWalls {v : Staggered d Exact} (hv : v.allFinite = true) :
    (closeWalls g v).allFinite = true := by
  refine Staggered.allFinite_of_component fun a f => ?_
  by_cases ha : d.isActive a = true
  · rw [get_closeWalls (Dims.mem_activeAxes.mpr ha)]
    split_ifs
    · rfl
    · exact Staggered.isFinite_component hv a f
  · rw [component_closeWalls_of_not_active ha, Field.get_constant]
    rfl

/-- Gravity of numbers acts by numbers. -/
lemma allFinite_accelerate {v : Staggered d Exact} (hv : v.allFinite = true) {gravity : Vec3 Exact}
    (hgravity : gravity.isFinite = true) {dt : Exact} (hdt : Scalar.isFinite dt = true) :
    (accelerate g v gravity dt).allFinite = true := by
  have hgain : (gravity * (Scalar.ofNat d.maxResolution : Exact) * dt).isFinite = true :=
    Vec3.isFinite_scale (Vec3.isFinite_scale hgravity rfl) hdt
  refine Staggered.allFinite_updateActive hv fun a _ f => ?_
  have hold := Staggered.isFinite_component hv a f
  simp only
  split_ifs
  · exact hold
  · rw [Field.get_update]
    split_ifs
    · exact Exact.isFinite_add.mpr ⟨hold, Vec3.isFinite_get hgain a⟩
    · exact hold

end Velocity

end FreeSurface

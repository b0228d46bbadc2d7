import Mathlib.Logic.Relation
import FreeSurface.Proofs.Projection.Solve

/-!
# Liquid without a surface

Unknowns that are joined through adjacent ones form a component.  A component without air next to it
can only exchange liquid with itself, so its equations add up to zero on the left, and they can be
solved only if the right side does too.

* `Poisson.component` — the unknowns joined to an unknown.
* `Projection.sum_rightSide_component` — the right side adds up to the source in every cell of the
  component: the source is dropped for the domain as a whole and not for the component.
-/

namespace FreeSurface

open Exact Dims
open scoped Exact.Sums

variable {d : Dims}

namespace Poisson

/-- A chain of adjacent unknowns leads from one unknown to another. -/
def Joined {D : Type} {n : ℕ} (system : Poisson d D n) : Fin n → Fin n → Prop :=
  Relation.ReflTransGen fun u w => w ∈ system.adjacent.get u

open Classical in
/-- The unknowns that are joined to an unknown. -/
noncomputable def component {D : Type} {n : ℕ} (system : Poisson d D n) (u : Fin n) :
    Finset (Fin n) :=
  Finset.univ.filter fun w => system.Joined u w

section Component

variable {D : Type} {n : ℕ} {system : Poisson d D n} {u w : Fin n}

lemma mem_component : w ∈ system.component u ↔ system.Joined u w := by
  simp only [component, Finset.mem_filter, Finset.mem_univ, true_and]

lemma self_mem_component : u ∈ system.component u :=
  mem_component.mpr .refl

lemma mem_component_of_adjacent {w' : Fin n} (h : w ∈ system.component u)
    (hw : w' ∈ system.adjacent.get w) : w' ∈ system.component u :=
  mem_component.mpr ((mem_component.mp h).tail hw)

end Component

/-! ## Sealed components -/

section Sealed

variable {g : Flags d} {phi : Option (ScalarField d Exact)} {v : Staggered d Exact}
  {u₀ : Fin (unknowns g).size}

/-- The cells of a component. -/
noncomputable def componentCells (g : Flags d) (phi : Option (ScalarField d Exact))
    (u₀ : Fin (unknowns g).size) : Finset d.Cell :=
  ((build g phi : Poisson d Exact _).component u₀).map ⟨cellOf g, cellOf_injective g⟩

/-- A component without air next to it is sealed: around it are only walls. -/
lemma sealed_componentCells
    (hwalls : ∀ a f, g.isWallFace a f = true → (v.component a).get f = real 0)
    (hairless : ∀ u ∈ (build g phi : Poisson d Exact _).component u₀,
      ∀ n ∈ d.cells.neighbors (cellOf g u), g.cells.get n ≠ .empty) :
    Sealed v.speeds (componentCells g phi u₀) := by
  intro c hc a _ s
  obtain ⟨u, hu, rfl⟩ := Finset.mem_map.mp hc
  have hzero : g.isWallFace a (d.cellFace a (cellOf g u) s) = true →
      v.speeds a (d.cellFace a (cellOf g u) s) = 0 := by
    intro hwall
    rw [Staggered.speeds, hwalls a _ hwall, toReal_real]
  -- Beyond the face lies the border, a solid cell, or liquid that belongs to the component.
  cases hn : next? (cellOf g u) a s with
  | none => exact .inl (hzero (Flags.isWallFace_of_border hn))
  | some n =>
      have hmem : n ∈ d.cells.neighbors (cellOf g u) := d.cells.mem_neighbors.mpr ⟨a, s, hn⟩
      cases hobstacle : g.isObstacle n with
      | true => exact .inl (hzero (by rw [Flags.isWallFace_of_next hn, hobstacle, Bool.or_true]))
      | false =>
          have hfluid := Flags.isFluid_of_ne hobstacle (hairless u hu n hmem)
          obtain ⟨w, rfl⟩ := exists_unknown_of_mem_neighbors hmem hfluid
          have hw := mem_component_of_adjacent hu (mem_adjacent.mpr hmem)
          exact .inr ⟨cellOf g w, Finset.mem_map_of_mem _ hw, rfl⟩

end Sealed

end Poisson

namespace Projection

open Poisson

variable {g : Flags d} {phi : Option (ScalarField d Exact)} {v : Staggered d Exact}

/-- Inside a sealed component all flows cancel, and the sources are left. -/
lemma sum_source_sub_outflow
    (hwalls : ∀ a f, g.isWallFace a f = true → (v.component a).get f = real 0)
    {u₀ : Fin (unknowns g).size}
    (hairless : ∀ u ∈ (build g phi : Poisson d Exact _).component u₀,
      ∀ n ∈ d.cells.neighbors (cellOf g u), g.cells.get n ≠ .empty) (s : ℝ) :
    ∑ u ∈ (build g phi : Poisson d Exact _).component u₀,
        (s - outflow v.speeds (cellOf g u)) =
      ((build g phi : Poisson d Exact _).component u₀).card * s := by
  have hcells : ∑ u ∈ (build g phi : Poisson d Exact _).component u₀,
      outflow v.speeds (cellOf g u) = 0 := by
    have hsum := (sealed_componentCells hwalls hairless).sum_outflow
    rw [componentCells, Finset.sum_map] at hsum
    exact hsum
  rw [Finset.sum_sub_distrib, hcells, sub_zero, Finset.sum_const, nsmul_eq_mul]

lemma sum_rightSide_eq (hfinite : v.allFinite = true)
    (hwalls : ∀ a f, g.isWallFace a f = true → (v.component a).get f = real 0)
    {u₀ : Fin (unknowns g).size}
    (hairless : ∀ u ∈ (build g phi : Poisson d Exact _).component u₀,
      ∀ n ∈ d.cells.neighbors (cellOf g u), g.cells.get n ≠ .empty) (s : ℝ) :
    ∑ u ∈ (build g phi : Poisson d Exact _).component u₀,
        (rightSide (build g phi : Poisson d Exact _) g v (real s)).get u =
      real (((build g phi : Poisson d Exact _).component u₀).card * s) := by
  calc ∑ u ∈ (build g phi : Poisson d Exact _).component u₀,
        (rightSide (build g phi : Poisson d Exact _) g v (real s)).get u
      = ∑ u ∈ (build g phi : Poisson d Exact _).component u₀,
          real (s - outflow v.speeds (cellOf g u)) :=
        Finset.sum_congr rfl fun u _ =>
          get_rightSide u (Staggered.finiteAt_of_allFinite hfinite (cellOf g u))
    _ = real (∑ u ∈ (build g phi : Poisson d Exact _).component u₀,
          (s - outflow v.speeds (cellOf g u))) := Sums.sum_real _ _
    _ = real (((build g phi : Poisson d Exact _).component u₀).card * s) := by
        rw [sum_source_sub_outflow hwalls hairless]

/-- **The right side of a sealed component.**  For a velocity that is zero on the walls, and a
component without air next to it, the right side adds up to zero exactly when there is no source or
the liquid has no surface anywhere.  A surface elsewhere in the domain keeps the source, which the
component cannot follow. -/
theorem sum_rightSide_component (hfinite : v.allFinite = true)
    (hwalls : ∀ a f, g.isWallFace a f = true → (v.component a).get f = real 0)
    (u₀ : Fin (unknowns g).size)
    (hairless : ∀ u ∈ (build g phi : Poisson d Exact _).component u₀,
      ∀ n ∈ d.cells.neighbors ((build g phi : Poisson d Exact _).cells.get u),
        g.cells.get n ≠ .empty) (s : ℝ) :
    let system : Poisson d Exact _ := build g phi
    ∑ u ∈ system.component u₀, (rightSide system g v (effectiveSource system (real s))).get u
        = real 0 ↔
      s = 0 ∨ system.hasFreeSurface = false := by
  intro system
  rw [effectiveSource_eq, sum_rightSide_eq hfinite hwalls hairless]
  have hcard : ((system.component u₀).card : ℝ) ≠ 0 :=
    Nat.cast_ne_zero.mpr (Finset.card_ne_zero_of_mem self_mem_component)
  rw [real_injective.eq_iff, mul_eq_zero, or_iff_right hcard]
  cases system.hasFreeSurface <;> simp

/-! ## A pocket beside open liquid -/

section Pocket

def pocketDims : Dims := .planar 6 2

/-- In the middle row two liquid cells between solid ones, and beyond those a liquid cell next to
air; every other cell is solid. -/
def pocketFlags : Flags pocketDims where
  cells := Field.tabulate fun c => match coordsOf c with
    | ⟨1, 1, 0⟩ | ⟨2, 1, 0⟩ | ⟨4, 1, 0⟩ => .fluid
    | ⟨5, 1, 0⟩ => .empty
    | _ => .obstacle
  wallLayers := 1

def pocketUnknown : Fin (unknowns pocketFlags).size := ⟨0, by decide⟩

/-- The equation of the pocket and its surroundings, without a level set. -/
noncomputable def pocketSystem : Poisson pocketDims Exact (unknowns pocketFlags).size :=
  build (S := Exact) pocketFlags none

/-- The pocket has two unknowns, and the third one is not joined to them. -/
lemma lt_two_of_mem_component {u : Fin (unknowns pocketFlags).size}
    (h : u ∈ pocketSystem.component pocketUnknown) : u.val < 2 := by
  have hstep : ∀ u w : Fin (unknowns pocketFlags).size, u.val < 2 →
      cellOf pocketFlags w ∈ pocketDims.cells.neighbors (cellOf pocketFlags u) → w.val < 2 := by
    decide +kernel
  have hjoined := mem_component.mp h
  induction hjoined with
  | refl => decide
  | tail hmiddle hlast ih =>
      exact hstep _ _ (ih (mem_component.mpr hmiddle)) (mem_adjacent.mp hlast)

lemma airless_pocket : ∀ u ∈ pocketSystem.component pocketUnknown,
    ∀ n ∈ pocketDims.cells.neighbors (cellOf pocketFlags u), pocketFlags.cells.get n ≠ .empty := by
  have hsmall : ∀ u : Fin (unknowns pocketFlags).size, u.val < 2 →
      ∀ n ∈ pocketDims.cells.neighbors (cellOf pocketFlags u),
        pocketFlags.cells.get n ≠ .empty := by
    decide +kernel
  exact fun u hu => hsmall u (lt_two_of_mem_component hu)

lemma hasFreeSurface_pocket : pocketSystem.hasFreeSurface = true :=
  hasFreeSurface_iff.mpr (by decide +kernel)

/-- The pocket at rest: without a source its right side adds up to zero. -/
theorem sum_rightSide_component_pocket :
    ∑ u ∈ pocketSystem.component pocketUnknown,
      (rightSide pocketSystem pocketFlags (Staggered.zero pocketDims)
        (effectiveSource pocketSystem (real 0))).get u = real 0 :=
  (sum_rightSide_component (Staggered.allFinite_zero pocketDims)
    (fun a f _ => Staggered.get_zero a f) pocketUnknown airless_pocket 0).mpr (.inl rfl)

/-- With a source of half a cell per unit of time it does not, although the velocity is zero
everywhere and no cell of the pocket has air next to it. -/
theorem sum_rightSide_pocket_ne_zero :
    (Staggered.zero pocketDims : Staggered pocketDims Exact).allFinite = true ∧
    (∀ a f, pocketFlags.isWallFace a f = true →
      ((Staggered.zero pocketDims : Staggered pocketDims Exact).component a).get f = real 0) ∧
    (∀ u ∈ pocketSystem.component pocketUnknown,
      ∀ n ∈ pocketDims.cells.neighbors (pocketSystem.cells.get u),
        pocketFlags.cells.get n ≠ .empty) ∧
    ∑ u ∈ pocketSystem.component pocketUnknown,
      (rightSide pocketSystem pocketFlags (Staggered.zero pocketDims)
        (effectiveSource pocketSystem (real (1 / 2)))).get u ≠ real 0 := by
  have hwalls : ∀ a f, pocketFlags.isWallFace a f = true →
      ((Staggered.zero pocketDims : Staggered pocketDims Exact).component a).get f = real 0 :=
    fun a f _ => Staggered.get_zero a f
  refine ⟨Staggered.allFinite_zero pocketDims, hwalls, airless_pocket, ?_⟩
  have hcard : ((pocketSystem.component pocketUnknown).card : ℝ) ≠ 0 :=
    Nat.cast_ne_zero.mpr (Finset.card_ne_zero_of_mem self_mem_component)
  have hsum : ∑ u ∈ pocketSystem.component pocketUnknown,
      (rightSide pocketSystem pocketFlags (Staggered.zero pocketDims) (real (1 / 2))).get u =
        real ((pocketSystem.component pocketUnknown).card * (1 / 2)) :=
    sum_rightSide_eq (Staggered.allFinite_zero pocketDims) hwalls airless_pocket (1 / 2)
  rw [effectiveSource_eq, if_pos hasFreeSurface_pocket, hsum, ne_eq, real_injective.eq_iff]
  exact mul_ne_zero hcard (by norm_num)

end Pocket

end Projection

end FreeSurface

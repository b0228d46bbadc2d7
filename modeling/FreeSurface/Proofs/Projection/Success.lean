import FreeSurface.Proofs.Lattice.Steps
import FreeSurface.Proofs.Projection.Sealed
import FreeSurface.Proofs.Projection.Termination

/-!
# Projections that succeed

On exact numbers a projection has one way to fail when it is given enough rounds: liquid that is
shut in is asked to change its volume.  It is never asked to where solid cells do not cut the domain
in two, since then a surface anywhere is one that all of the liquid reaches.

* `Flags.HasSurface` — liquid with air next to it, for which the volume can change.
* `Flags.Connected` — chains of neighbours lead between any two cells that are not solid.
* `Flags.connected_of_between` — so it is when what lies between two such cells is not solid.
* `Flags.Connected.hasFreeSurface_eq_false` — liquid that is shut in is then the only liquid.
* `Projection.exists_solve` — **a projection succeeds and leaves numbers** unless shut-in liquid is
  given a source.
-/

namespace FreeSurface

open Exact Dims Poisson

variable {d : Dims} {g : Flags d}

/-! ## Surfaces -/

/-- Some open cell of the liquid has air next to it. -/
def Flags.HasSurface (g : Flags d) : Prop :=
  ∃ c, isOpen g c = true ∧ ∃ n ∈ d.cells.neighbors c, g.cells.get n = .empty

instance (g : Flags d) : Decidable g.HasSurface :=
  inferInstanceAs (Decidable (∃ c, _ ∧ ∃ n ∈ d.cells.neighbors c, _))

lemma Flags.hasSurface_iff {phi : Option (ScalarField d Exact)} :
    (build g phi : Poisson d Exact _).hasFreeSurface = true ↔ g.HasSurface := by
  rw [hasFreeSurface_iff]
  constructor
  · rintro ⟨u, h⟩
    exact ⟨cellOf g u, isOpen_cellOf u, h⟩
  · rintro ⟨c, hc, h⟩
    obtain ⟨u, rfl⟩ := exists_unknown hc
    exact ⟨u, h⟩

/-! ## Connected domains -/

namespace Flags

/-- A step to a neighbour that is not solid. -/
def OpenStep (g : Flags d) (c n : d.Cell) : Prop :=
  n ∈ d.cells.neighbors c ∧ g.isObstacle n = false

/-- Steps lead from every cell that is not solid to every other. -/
def Connected (g : Flags d) : Prop :=
  ∀ c c', g.isObstacle c = false → g.isObstacle c' = false → Relation.ReflTransGen g.OpenStep c c'

lemma Connected.congr {h : Flags d} (hg : g.Connected)
    (hobstacle : ∀ c, h.isObstacle c = g.isObstacle c) : h.Connected := by
  have hsteps : h.OpenStep = g.OpenStep := by
    funext c n
    rw [OpenStep, OpenStep, hobstacle]
  intro c c' hc hc'
  rw [hsteps]
  rw [hobstacle] at hc hc'
  exact hg c c' hc hc'

/-- A step towards a cell does not leave what lies between. -/
lemma connected_of_between
    (h : ∀ {c n c'}, d.cells.Between c n c' → g.isObstacle c = false → g.isObstacle c' = false →
      g.isObstacle n = false) : g.Connected := by
  intro c c' hc hc'
  induction hsteps : d.cells.steps c c' generalizing c with
  | zero =>
      obtain rfl := Lattice.steps_eq_zero_iff.mp hsteps
      exact .refl
  | succ k ih =>
      have hne : c ≠ c' := by
        rintro rfl
        rw [Lattice.steps_eq_zero_iff.mpr rfl] at hsteps
        cases hsteps
      obtain ⟨n, hmem, hcloser, hbetween⟩ := Lattice.exists_toward hne
      have hopen := h hbetween hc hc'
      exact .head ⟨hmem, hopen⟩ (ih n hopen (by omega))

variable {phi : Option (ScalarField d Exact)} {u : Fin (unknowns g).size}

/-- Around a component without vents is no air. -/
lemma airless_of_not_vented (hu : ¬(build g phi : Poisson d Exact _).Vented g u) :
    ∀ w ∈ (build g phi : Poisson d Exact _).component u,
      ∀ n ∈ d.cells.neighbors (cellOf g w), g.cells.get n ≠ .empty :=
  fun w hw n hn hempty => hu ⟨w, hw, n, mem_vents.mpr ⟨hn, hempty⟩⟩

/-- In a connected domain a component without vents takes up everything that is not solid, so there
is no air that liquid could be next to. -/
lemma Connected.hasFreeSurface_eq_false (hg : g.Connected)
    (hu : ¬(build g phi : Poisson d Exact _).Vented g u) :
    (build g phi : Poisson d Exact _).hasFreeSurface = false := by
  have hairless := airless_of_not_vented hu
  have hreach : ∀ c, Relation.ReflTransGen g.OpenStep (cellOf g u) c →
      ∃ w ∈ (build g phi : Poisson d Exact _).component u, cellOf g w = c := by
    intro c hc
    induction hc with
    | refl => exact ⟨u, self_mem_component, rfl⟩
    | tail _ hstep ih =>
        obtain ⟨w, hw, rfl⟩ := ih
        obtain ⟨hmem, hopen⟩ := hstep
        have hfluid := isFluid_of_ne hopen (hairless w hw _ hmem)
        obtain ⟨w', hw', hcell⟩ := exists_adjacent hmem hfluid
        exact ⟨w', mem_component_of_adjacent hw hw', hcell⟩
  rw [← Bool.not_eq_true, hasFreeSurface_iff]
  rintro ⟨w, n, hn, hempty⟩
  obtain ⟨w', hw', hcell⟩ := hreach _ (hg (cellOf g u) (cellOf g w)
    (isObstacle_eq_false_of_isFluid (isFluid_cellOf u))
    (isObstacle_eq_false_of_isFluid (isFluid_cellOf w)))
  obtain rfl := cellOf_injective g hcell
  exact hairless w' hw' n hn hempty

end Flags

/-! ## Success -/

namespace Projection

variable {phi : Option (ScalarField d Exact)} {v : Staggered d Exact}
  {settings : SolverSettings Exact}

section Gradient

variable {pressure : ScalarField d Exact} {ψ : d.Cell → ℝ}

lemma isFinite_sidePressure (hphi : FinitePhi phi) (hp : Holds pressure ψ) (c n : d.Cell) :
    Scalar.isFinite (sidePressure g phi pressure c n) = true := by
  rw [sidePressure]
  split_ifs
  · rw [hp c]
    rfl
  · rw [hp n, literal, Nat.cast_one, one_div_surfaceFraction hphi, real_sub_real, real_mul_real]
    rfl

/-- The gradient of a pressure of numbers leaves a velocity of numbers. -/
lemma allFinite_subtractGradient (hphi : FinitePhi phi) (hp : Holds pressure ψ)
    (hv : v.allFinite = true) : (subtractGradient v pressure g phi).allFinite = true := by
  refine Staggered.allFinite_updateActive hv fun a _ f => ?_
  have hold := Staggered.isFinite_component hv a f
  rw [Field.get_update]
  split
  · split_ifs
    · exact hold
    · exact hold
    · exact isFinite_sub.mpr ⟨hold, isFinite_sub.mpr
        ⟨isFinite_sidePressure hphi hp _ _, isFinite_sidePressure hphi hp _ _⟩⟩
  · exact hold

end Gradient

variable (hphi : FinitePhi phi) (hv : v.allFinite = true) {s : ℝ}
  (haccuracy : real 0 < settings.accuracy)
  (hrounds : (unknowns g).size ≤ settings.maxIterations)
include hphi hv haccuracy hrounds

/-- When the right side adds up to zero on every component without air next to it, the projection
succeeds. -/
lemma exists_solveSystem
    (hsum : ∀ u, ¬(build g phi : Poisson d Exact _).Vented g u →
      ∑ w ∈ (build g phi : Poisson d Exact _).component u,
        (s - outflow v.speeds (cellOf g w)) = 0) :
    ∃ p, solveSystem (build g phi : Poisson d Exact _) v g phi (real s) settings = .ok p ∧
      p.velocity.allFinite = true := by
  have hb : Represents (rightSide (build g phi : Poisson d Exact _) g v (real s))
      fun u => s - outflow v.speeds (cellOf g u) :=
    fun u => get_rightSide u (Staggered.finiteAt_of_allFinite hv _)
  obtain ⟨hstatus, hsolution, hresidual⟩ :=
    ConjugateGradient.isFinite_run hphi hb hsum haccuracy hrounds
  rw [solveSystem]
  simp only [any_not_isFinite.mpr hb.isFinite, any_not_isFinite.mpr hsolution, hresidual, hstatus,
    Bool.not_true, Bool.or_false, Bool.false_eq_true, if_false]
  exact ⟨_, rfl, allFinite_subtractGradient hphi (holds_scatter hsolution) hv⟩

/-- **A projection succeeds and leaves numbers.**  It is given a velocity of numbers with closed
walls, some error that is allowed, and as many rounds as there are unknowns.  Where liquid is shut
in, it asks for no change of volume: there is no source, or no surface that would let it act. -/
theorem exists_solve
    (hwalls : ∀ a f, g.isWallFace a f = true → (v.component a).get f = real 0)
    (hshut : ∀ u, ¬(build g phi : Poisson d Exact _).Vented g u →
      s = 0 ∨ (build g phi : Poisson d Exact _).hasFreeSurface = false) :
    ∃ p, (solve v g phi (real s) settings).result = .ok p ∧ p.velocity.allFinite = true := by
  rw [solve]
  split_ifs with hnone
  · exact ⟨_, rfl, hv⟩
  · simp only [effectiveSource_eq]
    refine exists_solveSystem hphi hv haccuracy hrounds fun u hu => ?_
    rw [sum_source_sub_outflow hwalls (Flags.airless_of_not_vented hu)]
    -- Whatever the reason is, the source that acts is zero.
    rcases hshut u hu with rfl | hsurface
    · rw [ite_self, mul_zero]
    · rw [hsurface, if_neg Bool.false_ne_true, mul_zero]

end Projection

end FreeSurface

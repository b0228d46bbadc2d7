import FreeSurface.Proofs.Projection.Conjugacy
import FreeSurface.Proofs.Projection.Energy

/-!
# The search ends

In exact arithmetic a search goes through the rounds of `ConjugateGradient.walk`
(`ConjugateGradient.follows_after`).  So it converges for every right side that the equation can
have, after no more rounds than there are unknowns, although the matrix is singular when some
component has no air next to it (`ConjugateGradient.run_converges`).
-/

namespace FreeSurface

open Exact Matrix Poisson

variable {d : Dims} {n : ℕ}

namespace ConjugateGradient

/-! ## Rounds of numbers -/

variable {system : Poisson d Exact n} {w β : Fin n → ℝ} {b : Vector Exact n}

lemma dot_eq {x y : Vector Exact n} {ξ υ : Fin n → ℝ} (hx : Represents x ξ) (hy : Represents y υ) :
    dot x y = real (ξ ⬝ᵥ υ) := by
  have hterm : ∀ i, x.get i * y.get i = real (ξ i * υ i) := fun i => by
    rw [hx i, hy i, real_mul_real]
  rw [dot, Fin.foldl_eq_finRange_foldl, literal, Nat.cast_zero]
  simp only [hterm]
  rw [foldl_add _ _ _ fun i _ => isFinite_real _, zero_add, dotProduct, Fin.sum_univ_def]
  rfl

/-- A search holds the numbers of a walk. -/
structure Follows (w : Fin n → ℝ) (s : Search Exact n) (t : Walk n) : Prop where
  x : ∀ i, Scalar.isFinite (s.x.get i) = true
  r : Represents s.r t.r
  p : Represents s.p t.p
  rz : s.rz = real (t.square w)

lemma Follows.curvature_eq (hdiag : system.DiagonalFinite) {s : Search Exact n} {t : Walk n}
    (h : Follows w s t) : curvature system s = real (t.curvature system.matrix) :=
  dot_eq h.p (represents_mulVec hdiag h.p)

lemma represents_weighted {x : Vector Exact n} {ξ : Fin n → ℝ} (hx : Represents x ξ)
    (hw : Represents (inverse system) w) :
    Represents (weighted system x) (w * ξ) := by
  rw [weighted, represents_ofFn]
  intro i
  rw [hx i, hw i, real_mul_real, Pi.mul_apply, mul_comm]

/-- A round without a division by zero is one of the walk. -/
lemma Follows.next (hdiag : system.DiagonalFinite) (hw : Represents (inverse system) w)
    {s : Search Exact n} {t : Walk n} (h : Follows w s t) (hsquare : t.square w ≠ 0)
    (hcurvature : t.curvature system.matrix ≠ 0) :
    Follows w (round system s) (t.next system.matrix w) := by
  have halpha : s.rz / curvature system s =
      real (t.square w / t.curvature system.matrix) := by
    rw [h.rz, h.curvature_eq hdiag, real_div_real hcurvature]
  have happly := represents_mulVec hdiag h.p
  have hr : Represents (round system s).r (t.next system.matrix w).r := by
    refine represents_ofFn.mpr fun i => ?_
    rw [halpha, h.r i, happly i, real_mul_real, real_sub_real]
    rfl
  have hz := represents_weighted hr hw
  have hrz : (round system s).rz = real ((t.next system.matrix w).square w) := dot_eq hr hz
  refine ⟨fun i => ?_, hr, fun i => ?_, hrz⟩
  · have hx : (round system s).x.get i =
        s.x.get i + s.rz / curvature system s * s.p.get i := Vector.getElem_ofFn i.isLt
    rw [hx, isFinite_add, halpha, h.p i, real_mul_real]
    exact ⟨h.x i, rfl⟩
  · have hp : (round system s).p.get i = (weighted system (round system s).r).get i +
        (round system s).rz / s.rz * s.p.get i := Vector.getElem_ofFn i.isLt
    rw [hp, hz i, hrz, h.rz, real_div_real hsquare, h.p i, real_mul_real, real_add_real]
    rfl

lemma follows_start (hw : Represents (inverse system) w) (hb : Represents b β) :
    Follows w (start system b) (walk system.matrix w β 0) where
  x := by
    rw [x_start]
    exact (represents_replicate 0).isFinite
  r := hb
  p := represents_weighted hb hw
  rz := dot_eq hb (represents_weighted hb hw)

/-- **The search is the walk**, as long as there is a residual. -/
theorem follows_after (hdiag : system.DiagonalFinite) (hw : Represents (inverse system) w)
    (hb : Represents b β) (hsolvable : Solvable system.matrix w β) {k : ℕ}
    (hr : ∀ i < k, (walk system.matrix w β i).r ≠ 0) :
    Follows w (after system b k) (walk system.matrix w β k) := by
  induction k with
  | zero => exact follows_start hw hb
  | succ k ih =>
      have hconjugate := conjugate_walk hsolvable hr
      rw [after_succ]
      exact (ih fun i hi => hr i (hi.trans k.lt_succ_self)).next hdiag hw
        (hconjugate.square_pos k k.lt_succ_self).ne' (hconjugate.curvature_pos k k.lt_succ_self).ne'

/-- A search for a right side that the equation can have reaches a small residual, and divides by
positive numbers until then. -/
lemma exists_after (hdiag : system.DiagonalFinite) (hw : Represents (inverse system) w)
    (hb : Represents b β) (hsolvable : Solvable system.matrix w β) {accuracy : Exact}
    (haccuracy : real 0 < accuracy) :
    ∃ k ≤ n, Follows w (after system b k) (walk system.matrix w β k) ∧
      (after system b k).residual < accuracy ∧ ∀ j < k,
      ¬(after system b j).residual < accuracy ∧
      (∃ x > 0, (after system b j).rz = real x) ∧
      ∃ x > 0, curvature system (after system b j) = real x := by
  classical
  obtain ⟨K, hK, hzero, hr⟩ := exists_residual_eq_zero hsolvable
  have hfollows : ∀ j ≤ K, Follows w (after system b j) (walk system.matrix w β j) :=
    fun j hj => follows_after hdiag hw hb hsolvable fun i hi => hr i (hi.trans_le hj)
  have hend : (after system b K).residual < accuracy := by
    have hr : Represents (after system b K).r fun _ => 0 := fun i => by
      rw [(hfollows K le_rfl).r i, hzero, Pi.zero_apply]
    rw [residual_after, maxAbs_eq_zero hr]
    exact haccuracy
  have hsmall : ∃ k, (after system b k).residual < accuracy := ⟨K, hend⟩
  have hle : Nat.find hsmall ≤ K := Nat.find_min' hsmall hend
  have hconjugate := conjugate_walk hsolvable hr
  refine ⟨Nat.find hsmall, hle.trans hK, hfollows _ hle, Nat.find_spec hsmall, fun j hj => ?_⟩
  have hjK : j < K := hj.trans_le hle
  have hj' := hfollows j hjK.le
  exact ⟨Nat.find_min hsmall hj, ⟨_, hconjugate.square_pos j hjK, hj'.rz⟩,
    ⟨_, hconjugate.curvature_pos j hjK, hj'.curvature_eq hdiag⟩⟩

/-- The residual of a search is that of its solution. -/
lemma residual_after_eq (hdiag : system.DiagonalFinite) (hb : Represents b β) {k : ℕ}
    (h : ∀ i, Scalar.isFinite ((after system b k).x.get i) = true) :
    (after system b k).residual =
      maxAbs (Vector.ofFn fun i => b.get i - (system.apply (after system b k).x).get i) := by
  have hx := represents_of_isFinite h
  rw [residual_after]
  refine congrArg maxAbs (Vector.ext fun i hi => ?_)
  have happly := represents_apply hdiag hx ⟨i, hi⟩
  have hr := faithful_after hdiag hb k _ hx ⟨i, hi⟩
  rw [Vector.getElem_ofFn, hb, happly, real_sub_real]
  exact hr

/-! ## Pressure equations -/

variable {g : Flags d} {phi : Option (ScalarField d Exact)}

lemma represents_inverse (h : FinitePhi phi) :
    Represents (inverse (build g phi : Poisson d Exact _))
      fun u => 1 / (build g phi : Poisson d Exact _).matrix u u := by
  intro u
  have hget : (inverse (build g phi : Poisson d Exact _)).get u =
      (Literals.instOfNat 1).ofNat / (build g phi : Poisson d Exact _).diagonal.get u :=
    Vector.getElem_map _ u.isLt
  rw [hget, literal, Nat.cast_one, one_div_diagonal h]

/-- A pressure equation can be solved when the components without air have right sides that add up
to zero. -/
lemma solvable_build (h : FinitePhi phi) {β : Fin (unknowns g).size → ℝ}
    (hsum : ∀ u, ¬(build g phi : Poisson d Exact _).Vented g u →
      ∑ w ∈ (build g phi : Poisson d Exact _).component u, β w = 0) :
    Solvable (build g phi : Poisson d Exact _).matrix
      (fun u => 1 / (build g phi : Poisson d Exact _).matrix u u) β where
  posSemidef := posSemidef_matrix_build h
  pos u := one_div_pos.mpr (zero_lt_one.trans_le (one_le_diag h u))
  orthogonal _ hξ := dotProduct_eq_zero_of_energy h hsum hξ

section Convergence

variable {b : Vector Exact (unknowns g).size} {β : Fin (unknowns g).size → ℝ}
  {settings : SolverSettings Exact}

/-- When the right side adds up to zero on every component without air next to it, the search ends
in some round of its walk, and divides by positive numbers until then. -/
lemma exists_run_eq (h : FinitePhi phi) (hb : Represents b β)
    (hsum : ∀ u, ¬(build g phi : Poisson d Exact _).Vented g u →
      ∑ w ∈ (build g phi : Poisson d Exact _).component u, β w = 0)
    (haccuracy : real 0 < settings.accuracy)
    (hrounds : (unknowns g).size ≤ settings.maxIterations) :
    let system : Poisson d Exact _ := build g phi
    ∃ k ≤ (unknowns g).size,
      run system b settings = ⟨.converged, k, (after system b k).residual, (after system b k).x⟩ ∧
      Follows (fun u => 1 / system.matrix u u) (after system b k)
        (walk system.matrix (fun u => 1 / system.matrix u u) β k) ∧
      (after system b k).residual < settings.accuracy ∧
      ∀ j < k, ¬(after system b j).residual < settings.accuracy ∧
        (∃ x > 0, (after system b j).rz = real x) ∧
        ∃ x > 0, curvature system (after system b j) = real x := by
  intro system
  obtain ⟨k, hk, hfollows, hsmall, hrest⟩ := exists_after (diagonalFinite_build h)
    (represents_inverse h) hb (solvable_build h hsum) haccuracy
  have hcurvature : ∀ j < k, ¬Scalar.vanishes (curvature system (after system b j)) = true := by
    intro j hj
    obtain ⟨-, -, x, hx, hcurvature⟩ := hrest j hj
    rw [hcurvature, vanishes_real]
    exact hx.ne'
  exact ⟨k, hk, run_eq_after (hk.trans hrounds) hcurvature (fun j hj => (hrest j hj).1) hsmall,
    hfollows, hsmall, hrest⟩

/-- What the search then finds are numbers, its residual as well. -/
lemma isFinite_run (h : FinitePhi phi) (hb : Represents b β)
    (hsum : ∀ u, ¬(build g phi : Poisson d Exact _).Vented g u →
      ∑ w ∈ (build g phi : Poisson d Exact _).component u, β w = 0)
    (haccuracy : real 0 < settings.accuracy)
    (hrounds : (unknowns g).size ≤ settings.maxIterations) :
    let found := run (build g phi : Poisson d Exact _) b settings
    found.status = .converged ∧ (∀ u, Scalar.isFinite (found.solution.get u) = true) ∧
      Scalar.isFinite found.residual = true := by
  intro found
  obtain ⟨k, -, hfound, hfollows, -, -⟩ := exists_run_eq h hb hsum haccuracy hrounds
  obtain ⟨m, hm, -⟩ := exists_maxAbs hfollows.r
  have hresidual : found.residual = real m := by
    rw [← hm, ← residual_after]
    exact congrArg Result.residual hfound
  refine ⟨congrArg Result.status hfound, ?_, hresidual ▸ isFinite_real m⟩
  rw [show found = _ from hfound]
  exact hfollows.x

end Convergence

/-- **The search ends with the solution.**  When the right side adds up to zero on every component
without air next to it, the search converges after at most as many rounds as there are unknowns.
It divides by positive numbers only, and its residual is the largest one of the solution. -/
theorem run_converges (h : FinitePhi phi) {b : Vector Exact (unknowns g).size}
    {β : Fin (unknowns g).size → ℝ} (hb : Represents b β)
    (hsum : ∀ u, ¬(build g phi : Poisson d Exact _).Vented g u →
      ∑ w ∈ (build g phi : Poisson d Exact _).component u, β w = 0)
    {settings : SolverSettings Exact} (haccuracy : real 0 < settings.accuracy)
    (hrounds : (unknowns g).size ≤ settings.maxIterations) :
    let system : Poisson d Exact _ := build g phi
    let found := run system b settings
    ∃ k ≤ (unknowns g).size,
      found = ⟨.converged, k, (after system b k).residual, (after system b k).x⟩ ∧
      (∀ j < k, ¬(after system b j).residual < settings.accuracy ∧
        (∃ x > 0, (after system b j).rz = real x) ∧
        ∃ x > 0, curvature system (after system b j) = real x) ∧
      (∀ u, Scalar.isFinite (found.solution.get u) = true) ∧
      found.residual =
        maxAbs (Vector.ofFn fun u => b.get u - (system.apply found.solution).get u) ∧
      found.residual < settings.accuracy := by
  intro system found
  obtain ⟨k, hk, hfound, hfollows, hsmall, hrest⟩ := exists_run_eq h hb hsum haccuracy hrounds
  have hrun : found = ⟨.converged, k, (after system b k).residual, (after system b k).x⟩ := hfound
  refine ⟨k, hk, hrun, hrest, ?_⟩
  rw [hrun]
  exact ⟨hfollows.x, residual_after_eq (diagonalFinite_build h) hb hfollows.x, hsmall⟩

/-! ## The pocket beside open liquid -/

section Pocket

open Projection

/-- The second cell of the pocket takes in what the first one gives off, and the open cell gives off
as much. -/
noncomputable def pocketFlow (u : Fin (unknowns pocketFlags).size) : ℝ :=
  if u.val = 1 then -1 else 1

noncomputable def pocketSettings : SolverSettings Exact := ⟨Scalar.ofDecimal 1 2, 3⟩

lemma eq_of_lt_two {u : Fin (unknowns pocketFlags).size} (h : u.val < 2) :
    u = pocketUnknown ∨ u = ⟨1, by decide⟩ := by
  rcases Nat.le_one_iff_eq_zero_or_eq_one.mp (Nat.lt_succ_iff.mp h) with h | h
  · exact .inl (Fin.ext h)
  · exact .inr (Fin.ext h)

lemma component_pocket : pocketSystem.component pocketUnknown = {pocketUnknown, ⟨1, by decide⟩} := by
  ext w
  rw [Finset.mem_insert, Finset.mem_singleton]
  constructor
  · exact fun hw => eq_of_lt_two (lt_two_of_mem_component hw)
  · rintro (rfl | rfl)
    · exact self_mem_component
    · exact mem_component_of_adjacent self_mem_component (mem_adjacent.mpr (by decide +kernel))

lemma sum_pocketFlow (u : Fin (unknowns pocketFlags).size) (hu : ¬pocketSystem.Vented pocketFlags u) :
    ∑ w ∈ pocketSystem.component u, pocketFlow w = 0 := by
  have hair : ∀ u : Fin (unknowns pocketFlags).size, 2 ≤ u.val →
      (vents pocketFlags (cellOf pocketFlags u)).Nonempty := by
    decide +kernel
  have hmem : u ∈ pocketSystem.component pocketUnknown := by
    have hval : u.val < 2 := by
      by_contra hval
      exact hu ⟨u, self_mem_component, hair u (not_lt.mp hval)⟩
    rw [component_pocket, Finset.mem_insert, Finset.mem_singleton]
    exact eq_of_lt_two hval
  have hcomponent : pocketSystem.component u = pocketSystem.component pocketUnknown :=
    component_eq_of_mem hmem
  rw [hcomponent, component_pocket, Finset.sum_pair (by decide)]
  norm_num [pocketFlow, pocketUnknown]

/-- The pocket has no air next to it and its matrix is singular, but the search ends. -/
theorem run_converges_pocket :
    let b : Vector Exact _ := Vector.ofFn fun u => real (pocketFlow u)
    let found := run pocketSystem b pocketSettings
    found.status = .converged ∧ found.iterations ≤ 3 ∧ found.residual < pocketSettings.accuracy := by
  intro b found
  have hphi : FinitePhi (none : Option (ScalarField pocketDims Exact)) := fun _ h => by cases h
  have haccuracy : real 0 < pocketSettings.accuracy :=
    real_lt_real.mpr (by positivity)
  have hsize : (unknowns pocketFlags).size ≤ pocketSettings.maxIterations := by decide +kernel
  obtain ⟨k, hk, hfound, -, -, -, hsmall⟩ := run_converges hphi (represents_ofFn.mpr fun _ => rfl)
    sum_pocketFlow haccuracy hsize
  have hiterations : found.iterations = k := congrArg Result.iterations hfound
  exact ⟨congrArg Result.status hfound, hiterations ▸ hk.trans hsize, hsmall⟩

end Pocket

end ConjugateGradient

end FreeSurface

import FreeSurface.Projection.ConjugateGradient
import FreeSurface.Proofs.Number.Exact
import Mathlib.Tactic.Ring

/-!
# What a converged search has found

A search is so many rounds from its start (`ConjugateGradient.after`), and it converges in one of
those whose residual is small (`ConjugateGradient.exists_after_of_converged`).  It updates its
residual vector instead of computing it anew.  In exact arithmetic the two agree, so the largest
entry that ends the search bounds the true residual.

* `Poisson.value` — the left side of the equation for real pressures; it is linear.
* `ConjugateGradient.round` — one round of a search.
* `ConjugateGradient.Faithful` — the residual vector of a search is that of its solution.
* `ConjugateGradient.abs_residual_lt` — a search that converges solves every equation up to the
  accuracy.

That every quantity on the way is a number is read backwards off the solution.
-/

namespace FreeSurface

open Exact

variable {d : Dims} {n : ℕ}

/-- A vector holds the given numbers. -/
def Represents (x : Vector Exact n) (ξ : Fin n → ℝ) : Prop := ∀ i, x.get i = real (ξ i)

lemma represents_of_isFinite {x : Vector Exact n} (h : ∀ i, Scalar.isFinite (x.get i) = true) :
    Represents x fun i => (x.get i).toReal :=
  fun i => eq_real_toReal (h i)

lemma Represents.isFinite {x : Vector Exact n} {ξ : Fin n → ℝ} (h : Represents x ξ) (i : Fin n) :
    Scalar.isFinite (x.get i) = true := by
  rw [h i]
  rfl

lemma represents_replicate (x : ℝ) : Represents (Vector.replicate n (real x)) fun _ => x :=
  fun i => Vector.getElem_replicate i.isLt

lemma represents_ofFn {f : Fin n → Exact} {ξ : Fin n → ℝ} :
    Represents (Vector.ofFn f) ξ ↔ ∀ i, f i = real (ξ i) := by
  have hget : ∀ i, (Vector.ofFn f).get i = f i := fun i => Vector.getElem_ofFn i.isLt
  rw [Represents]
  simp only [hget]

/-! ## The left side -/

namespace Poisson

/-- All diagonal entries are numbers. -/
def DiagonalFinite (system : Poisson d Exact n) : Prop :=
  ∀ u, Scalar.isFinite (system.diagonal.get u) = true

/-- The left side of the equation of an unknown, for real pressures. -/
noncomputable def value (system : Poisson d Exact n) (ξ : Fin n → ℝ) (u : Fin n) : ℝ :=
  (system.diagonal.get u).toReal * ξ u - ((system.adjacent.get u).map ξ).sum

lemma value_zero (system : Poisson d Exact n) (u : Fin n) : system.value (fun _ => 0) u = 0 := by
  simp [value]

/-- The left side is linear. -/
lemma value_add_mul (system : Poisson d Exact n) (ξ π : Fin n → ℝ) (a : ℝ) (u : Fin n) :
    system.value (fun i => ξ i + a * π i) u = system.value ξ u + a * system.value π u := by
  have hsum : ∀ l : List (Fin n),
      (l.map fun i => ξ i + a * π i).sum = (l.map ξ).sum + a * (l.map π).sum := by
    intro l
    rw [List.sum_map_add, List.sum_map_mul_left]
  simp only [value]
  rw [hsum]
  ring

lemma foldl_sub {x : Vector Exact n} {ξ : Fin n → ℝ} (h : Represents x ξ) (l : List (Fin n))
    (y : ℝ) : l.foldl (fun sum w => sum - x.get w) (real y) = real (y - (l.map ξ).sum) := by
  induction l generalizing y with
  | nil => simp
  | cons w l ih =>
      rw [List.foldl_cons, h w, real_sub_real, ih, List.map_cons, List.sum_cons, sub_sub]

lemma represents_apply {system : Poisson d Exact n} (hdiag : system.DiagonalFinite)
    {x : Vector Exact n} {ξ : Fin n → ℝ} (h : Represents x ξ) :
    Represents (system.apply x) (system.value ξ) := by
  rw [apply, represents_ofFn]
  intro u
  rw [eq_real_toReal (hdiag u), h u, real_mul_real, foldl_sub h]
  rfl

end Poisson

namespace ConjugateGradient

/-! ## Rounds -/

section Rounds

open scoped Literals

variable {D : Type} [Scalar D] (system : Poisson d D n)

/-- The preconditioner. -/
def inverse : Vector D n := system.diagonal.map fun a => 1 / a

/-- The energy of the next direction. -/
def curvature (s : Search D n) : D := dot s.p (system.apply s.p)

/-- A residual vector, seen through the preconditioner. -/
def weighted (r : Vector D n) : Vector D n := Vector.ofFn fun i => r.get i * (inverse system).get i

/-- The search before its first round. -/
def start (b : Vector D n) : Search D n :=
  ⟨Vector.replicate n 0, b, weighted system b, dot b (weighted system b), maxAbs b⟩

/-- What a round makes of a search. -/
def round (s : Search D n) : Search D n :=
  let alpha := s.rz / curvature system s
  let r := Vector.ofFn fun i => s.r.get i - alpha * (system.apply s.p).get i
  let rz := dot r (weighted system r)
  { x := Vector.ofFn fun i => s.x.get i + alpha * s.p.get i
    r := r
    p := Vector.ofFn fun i => (weighted system r).get i + rz / s.rz * s.p.get i
    rz := rz
    residual := maxAbs r }

/-- The search after some rounds. -/
def after (b : Vector D n) (k : ℕ) : Search D n := (round system)^[k] (start system b)

variable {system} {accuracy : D}

lemma iterate_succ (rounds done : ℕ) (s : Search D n) :
    iterate system (inverse system) accuracy (rounds + 1) done s =
      if Scalar.vanishes (curvature system s) then ⟨.maxIterations, done + 1, s.residual, s.x⟩
      else if (round system s).residual < accuracy then
        ⟨.converged, done + 1, (round system s).residual, (round system s).x⟩
      else iterate system (inverse system) accuracy rounds (done + 1) (round system s) := rfl

/-- A search that converges has come to a small residual. -/
lemma exists_iterate_of_converged {rounds done : ℕ} {s : Search D n}
    (h : (iterate system (inverse system) accuracy rounds done s).status = .converged) :
    ∃ k < rounds, ((round system)^[k + 1] s).residual < accuracy ∧
      iterate system (inverse system) accuracy rounds done s =
        ⟨.converged, done + (k + 1), ((round system)^[k + 1] s).residual,
          ((round system)^[k + 1] s).x⟩ := by
  induction rounds generalizing done s with
  | zero => cases h
  | succ rounds ih =>
      rw [iterate_succ] at h ⊢
      split_ifs at h ⊢ with hvanishes hsmall
      · exact ⟨0, rounds.succ_pos, hsmall, rfl⟩
      · obtain ⟨k, hk, hresidual, heq⟩ := ih h
        refine ⟨k + 1, Nat.succ_lt_succ hk, hresidual, heq.trans ?_⟩
        rw [Nat.add_assoc, Nat.add_comm 1]
        rfl

/-- **A search that converges** has done so after some rounds, with a small residual. -/
lemma exists_after_of_converged {b : Vector D n} {settings : SolverSettings D}
    (h : (run system b settings).status = .converged) :
    ∃ k ≤ settings.maxIterations, (after system b k).residual < settings.accuracy ∧
      run system b settings =
        ⟨.converged, k, (after system b k).residual, (after system b k).x⟩ := by
  have hrun : run system b settings = if (start system b).residual < settings.accuracy then
      ⟨.converged, 0, (start system b).residual, (start system b).x⟩
      else iterate system (inverse system) settings.accuracy settings.maxIterations 0
        (start system b) := rfl
  rw [hrun] at h ⊢
  split_ifs at h ⊢ with hsmall
  · exact ⟨0, Nat.zero_le _, hsmall, rfl⟩
  · obtain ⟨k, hk, hresidual, heq⟩ := exists_iterate_of_converged h
    exact ⟨k + 1, hk, hresidual, heq.trans (by rw [zero_add]; rfl)⟩

/-- The rounds go on until the residual is small enough. -/
lemma iterate_eq (k rounds done : ℕ) {s : Search D n}
    (hcurvature : ∀ j ≤ k, ¬Scalar.vanishes (curvature system ((round system)^[j] s)) = true)
    (hlarge : ∀ j < k, ¬((round system)^[j + 1] s).residual < accuracy)
    (hsmall : ((round system)^[k + 1] s).residual < accuracy) :
    iterate system (inverse system) accuracy (rounds + (k + 1)) done s =
      ⟨.converged, done + (k + 1), ((round system)^[k + 1] s).residual,
        ((round system)^[k + 1] s).x⟩ := by
  induction k generalizing s done with
  | zero =>
      have hgoes : ¬Scalar.vanishes (curvature system s) = true := hcurvature 0 le_rfl
      rw [iterate_succ, if_neg hgoes]
      exact if_pos hsmall
  | succ k ih =>
      have hgoes : ¬Scalar.vanishes (curvature system s) = true := hcurvature 0 (Nat.zero_le _)
      have hnext : ¬(round system s).residual < accuracy := hlarge 0 k.succ_pos
      rw [← Nat.add_assoc, iterate_succ, if_neg hgoes, if_neg hnext,
        ih (done + 1) (fun j hj => hcurvature (j + 1) (by omega))
          (fun j hj => hlarge (j + 1) (by omega)) hsmall, Nat.add_assoc, Nat.add_comm 1]
      rfl

/-- When the residual is small enough for the first time, the search has converged. -/
lemma run_eq_after {b : Vector D n} {settings : SolverSettings D} {k : ℕ}
    (hk : k ≤ settings.maxIterations)
    (hcurvature : ∀ j < k, ¬Scalar.vanishes (curvature system (after system b j)) = true)
    (hlarge : ∀ j < k, ¬(after system b j).residual < settings.accuracy)
    (hsmall : (after system b k).residual < settings.accuracy) :
    run system b settings =
      ⟨.converged, k, (after system b k).residual, (after system b k).x⟩ := by
  cases k with
  | zero => exact if_pos hsmall
  | succ k =>
      have hrun : run system b settings = iterate system (inverse system) settings.accuracy
          settings.maxIterations 0 (start system b) := if_neg (hlarge 0 k.succ_pos)
      obtain ⟨rounds, hrounds⟩ := Nat.exists_eq_add_of_le' hk
      rw [hrun, hrounds, iterate_eq k rounds 0 (fun j hj => hcurvature j (by omega))
        (fun j hj => hlarge (j + 1) (by omega)) hsmall, zero_add]
      rfl

lemma after_succ (b : Vector D n) (k : ℕ) :
    after system b (k + 1) = round system (after system b k) :=
  Function.iterate_succ_apply' ..

/-- The residual is the largest entry of its vector. -/
lemma residual_after (b : Vector D n) (k : ℕ) :
    (after system b k).residual = maxAbs (after system b k).r := by
  cases k with
  | zero => rfl
  | succ k =>
      rw [after_succ]
      rfl

end Rounds

/-! ## Residuals -/

/-- The largest magnitude bounds every entry. -/
lemma exists_maxAbs {r : Vector Exact n} {ρ : Fin n → ℝ} (h : Represents r ρ) :
    ∃ m, maxAbs r = real m ∧ ∀ i, |ρ i| ≤ m := by
  have hlist : ∀ (l : List (Fin n)) (y : ℝ),
      ∃ m, l.foldl (fun m i => Scalar.max m (Scalar.abs (r.get i))) (real y) = real m ∧
        y ≤ m ∧ ∀ i ∈ l, |ρ i| ≤ m := by
    intro l
    induction l with
    | nil => exact fun y => ⟨y, rfl, le_rfl, by simp⟩
    | cons i l ih =>
        intro y
        obtain ⟨m, hm, hle, hall⟩ := ih (max y |ρ i|)
        refine ⟨m, ?_, (le_max_left _ _).trans hle, ?_⟩
        · rw [List.foldl_cons, h i, abs_real, max_real]
          exact hm
        · exact List.forall_mem_cons.mpr ⟨(le_max_right _ _).trans hle, hall⟩
  obtain ⟨m, hm, -, hall⟩ := hlist (List.finRange n) 0
  refine ⟨m, ?_, fun i => hall i (List.mem_finRange i)⟩
  rw [maxAbs, Fin.foldl_eq_finRange_foldl]
  simpa only [literal, Nat.cast_zero] using hm

lemma abs_lt_of_maxAbs_lt {r : Vector Exact n} {ρ : Fin n → ℝ} (h : Represents r ρ)
    {accuracy : Exact} (hlt : maxAbs r < accuracy) (i : Fin n) : real |ρ i| < accuracy := by
  obtain ⟨m, hm, hall⟩ := exists_maxAbs h
  rw [hm] at hlt
  cases accuracy with
  | real y => exact real_lt_real.mpr ((hall i).trans_lt (real_lt_real.mp hlt))
  | posInf => exact real_lt_posInf _
  | negInf => exact hlt.elim
  | nan => exact (not_lt_nan _ hlt).elim

lemma maxAbs_eq_zero {r : Vector Exact n} (h : Represents r fun _ => 0) : maxAbs r = real 0 := by
  rw [maxAbs, Fin.foldl_eq_finRange_foldl, literal, Nat.cast_zero]
  refine List.foldlRecOn _ _ (motive := fun m => m = real 0) rfl ?_
  rintro m rfl i -
  rw [h i, abs_real, abs_zero, max_real, max_self]

variable {system : Poisson d Exact n} {β : Fin n → ℝ} {accuracy : Exact}

/-- The residual vector of a search is that of its solution. -/
def Faithful (system : Poisson d Exact n) (β : Fin n → ℝ) (x r : Vector Exact n) : Prop :=
  ∀ ξ, Represents x ξ → ∀ i, r.get i = real (β i - system.value ξ i)

/-- A search starts from zero with the right side for its residual vector. -/
lemma Faithful.start {b : Vector Exact n} (hb : Represents b β) :
    Faithful system β (Vector.replicate n (real 0)) b := by
  intro ξ hzero u
  have hxi : ξ = fun _ => 0 := by
    funext j
    exact real_injective ((hzero j).symm.trans (represents_replicate 0 j))
  rw [hxi, Poisson.value_zero, sub_zero]
  exact hb u

/-- One round keeps the residual vector faithful.  A new solution that holds numbers was built from
numbers, so the update of the residual is that of the solution, seen through a linear map. -/
lemma Faithful.step (hdiag : system.DiagonalFinite) {x r p : Vector Exact n} {alpha : Exact}
    (h : Faithful system β x r) :
    Faithful system β (Vector.ofFn fun i => x.get i + alpha * p.get i)
      (Vector.ofFn fun i => r.get i - alpha * (system.apply p).get i) := by
  intro ξ' hξ' u
  rw [represents_ofFn] at hξ'
  have hr : (Vector.ofFn fun i => r.get i - alpha * (system.apply p).get i).get u =
      r.get u - alpha * (system.apply p).get u := Vector.getElem_ofFn u.isLt
  have hfinite : ∀ i, Scalar.isFinite (x.get i) = true ∧ Scalar.isFinite alpha = true ∧
      Scalar.isFinite (p.get i) = true := by
    intro i
    have hi : Scalar.isFinite (x.get i + alpha * p.get i) = true := by
      rw [hξ' i]
      rfl
    rw [isFinite_add, isFinite_mul] at hi
    exact hi
  have hx := represents_of_isFinite fun i => (hfinite i).1
  have hp := represents_of_isFinite fun i => (hfinite i).2.2
  have halpha := eq_real_toReal (hfinite u).2.1
  have hsolution : ξ' = fun i => (x.get i).toReal + alpha.toReal * (p.get i).toReal := by
    funext i
    have hi := hξ' i
    rw [hx i, hp i, halpha, real_mul_real, real_add_real] at hi
    exact (real_injective hi).symm
  rw [hr, h _ hx u, Poisson.represents_apply hdiag hp u, halpha, real_mul_real, real_sub_real,
    hsolution, Poisson.value_add_mul, sub_sub]

lemma x_start {b : Vector Exact n} : (start system b).x = Vector.replicate n (real 0) := by
  rw [start, literal, Nat.cast_zero]

lemma faithful_after (hdiag : system.DiagonalFinite) {b : Vector Exact n} (hb : Represents b β)
    (k : ℕ) : Faithful system β (after system b k).x (after system b k).r := by
  induction k with
  | zero =>
      have hstart : Faithful system β (start system b).x b := x_start ▸ Faithful.start hb
      exact hstart
  | succ k ih =>
      rw [after_succ]
      exact ih.step hdiag

/-- **A search that converges solves every equation up to the accuracy.** -/
theorem abs_residual_lt (hdiag : system.DiagonalFinite) {b : Vector Exact n}
    (hb : Represents b β) {settings : SolverSettings Exact}
    (hstatus : (run system b settings).status = .converged) {ξ : Fin n → ℝ}
    (hξ : Represents (run system b settings).solution ξ) (i : Fin n) :
    real |β i - system.value ξ i| < settings.accuracy := by
  obtain ⟨k, -, hsmall, hrun⟩ := exists_after_of_converged hstatus
  rw [hrun] at hξ
  rw [residual_after] at hsmall
  exact abs_lt_of_maxAbs_lt (faithful_after hdiag hb k ξ hξ) hsmall i

end ConjugateGradient

end FreeSurface

import Mathlib.Analysis.Matrix.Order
import Mathlib.LinearAlgebra.Matrix.SesquilinearForm

/-!
# Conjugate directions

The rounds of a search in real numbers.  For a positive semidefinite matrix, as long as the residual
vectors are not zero, each direction is conjugate to those before it, and each residual vector is
orthogonal to those before it in the product of the preconditioner (`ConjugateGradient.Conjugate`).
There is no room for more than `n` such vectors, so one of the first `n + 1` is zero
(`ConjugateGradient.exists_residual_eq_zero`).

The matrix may be singular: a right side that is orthogonal to its kernel has residual vectors that
are, so no direction falls into the kernel (`ConjugateGradient.Conjugate.curvature_pos_self`).
-/

namespace FreeSurface.ConjugateGradient

open Matrix

variable {n : ℕ}

/-! ## The rounds -/

/-- The residual vector of a search and the direction of its next step, in real numbers. -/
structure Walk (n : ℕ) where
  r : Fin n → ℝ
  p : Fin n → ℝ

namespace Walk

/-- The preconditioned square of the residual vector. -/
def square (w : Fin n → ℝ) (s : Walk n) : ℝ := s.r ⬝ᵥ (w * s.r)

/-- The energy of the direction. -/
def curvature (A : Matrix (Fin n) (Fin n) ℝ) (s : Walk n) : ℝ := s.p ⬝ᵥ A *ᵥ s.p

/-- One round. -/
noncomputable def next (A : Matrix (Fin n) (Fin n) ℝ) (w : Fin n → ℝ) (s : Walk n) : Walk n :=
  let r := s.r - (s.square w / s.curvature A) • A *ᵥ s.p
  ⟨r, w * r + (r ⬝ᵥ (w * r) / s.square w) • s.p⟩

end Walk

variable {A : Matrix (Fin n) (Fin n) ℝ} {w β : Fin n → ℝ} {k : ℕ}

/-- The walk of a search for the given right side. -/
noncomputable def walk (A : Matrix (Fin n) (Fin n) ℝ) (w β : Fin n → ℝ) : ℕ → Walk n
  | 0 => ⟨β, w * β⟩
  | k + 1 => (walk A w β k).next A w

lemma r_walk_succ : (walk A w β (k + 1)).r = (walk A w β k).r -
    ((walk A w β k).square w / (walk A w β k).curvature A) • A *ᵥ (walk A w β k).p := rfl

lemma p_walk_succ : (walk A w β (k + 1)).p = w * (walk A w β (k + 1)).r +
    ((walk A w β (k + 1)).square w / (walk A w β k).square w) • (walk A w β k).p := rfl

/-! ## Solvable equations -/

/-- An equation that a search solves: the right side is orthogonal to the kernel of the matrix, and
the preconditioner is positive. -/
structure Solvable (A : Matrix (Fin n) (Fin n) ℝ) (w β : Fin n → ℝ) : Prop where
  posSemidef : A.PosSemidef
  pos : ∀ i, 0 < w i
  orthogonal : ∀ ξ, ξ ⬝ᵥ A *ᵥ ξ = 0 → β ⬝ᵥ ξ = 0

lemma dotProduct_weighted_comm (w a b : Fin n → ℝ) : a ⬝ᵥ (w * b) = b ⬝ᵥ (w * a) := by
  simp only [dotProduct, Pi.mul_apply]
  exact Finset.sum_congr rfl fun i _ => by ring

namespace Solvable

lemma dotProduct_mulVec_comm (h : Solvable A w β) (a b : Fin n → ℝ) :
    a ⬝ᵥ A *ᵥ b = b ⬝ᵥ A *ᵥ a := by
  have hsymm : Aᵀ = A := (conjTranspose_eq_transpose_of_trivial A).symm.trans h.posSemidef.1
  rw [dotProduct_comm, ← hsymm, mulVec_transpose, ← dotProduct_mulVec, hsymm]

/-- A vector other than zero has a positive square. -/
lemma square_pos (h : Solvable A w β) {s : Walk n} (hs : s.r ≠ 0) : 0 < s.square w := by
  obtain ⟨i, hi⟩ := Function.ne_iff.mp hs
  have hterm : ∀ j, s.r j * (w * s.r) j = w j * s.r j ^ 2 := fun j => by
    rw [Pi.mul_apply]
    ring
  rw [Walk.square, dotProduct]
  simp only [hterm]
  exact Finset.sum_pos' (fun j _ => mul_nonneg (h.pos j).le (sq_nonneg _))
    ⟨i, Finset.mem_univ i, mul_pos (h.pos i) (sq_pos_of_ne_zero hi)⟩

/-- The residual vectors stay orthogonal to the kernel. -/
lemma residual_orthogonal (h : Solvable A w β) (k : ℕ) {ξ : Fin n → ℝ}
    (hξ : ξ ⬝ᵥ A *ᵥ ξ = 0) : (walk A w β k).r ⬝ᵥ ξ = 0 := by
  have hker : A *ᵥ ξ = 0 := (h.posSemidef.dotProduct_mulVec_zero_iff ξ).mp hξ
  induction k with
  | zero => exact h.orthogonal ξ hξ
  | succ k ih =>
      rw [r_walk_succ, sub_dotProduct, smul_dotProduct, ih, dotProduct_comm,
        h.dotProduct_mulVec_comm, hker, dotProduct_zero, smul_zero, sub_zero]

end Solvable

/-! ## Conjugacy -/

/-- What holds after a number of rounds with residual vectors other than zero. -/
structure Conjugate (A : Matrix (Fin n) (Fin n) ℝ) (w β : Fin n → ℝ) (k : ℕ) : Prop where
  square_pos : ∀ i < k, 0 < (walk A w β i).square w
  curvature_pos : ∀ i < k, 0 < (walk A w β i).curvature A
  /-- The residual vector is orthogonal to all former directions. -/
  residual : ∀ i < k, (walk A w β k).r ⬝ᵥ (walk A w β i).p = 0
  /-- The direction is conjugate to all former ones. -/
  direction : ∀ i < k, (walk A w β k).p ⬝ᵥ A *ᵥ (walk A w β i).p = 0
  square_eq : (walk A w β k).r ⬝ᵥ (walk A w β k).p = (walk A w β k).square w

/-- The residual vector is orthogonal to the former ones, seen through the preconditioner: these are
made of two directions each. -/
lemma dotProduct_weighted_residual
    (h : ∀ i < k, (walk A w β k).r ⬝ᵥ (walk A w β i).p = 0) {i : ℕ} (hi : i < k) :
    (walk A w β k).r ⬝ᵥ (w * (walk A w β i).r) = 0 := by
  cases i with
  | zero => exact h 0 hi
  | succ i =>
      have hz : w * (walk A w β (i + 1)).r = (walk A w β (i + 1)).p -
          ((walk A w β (i + 1)).square w / (walk A w β i).square w) • (walk A w β i).p := by
        rw [p_walk_succ, add_sub_cancel_right]
      rw [hz, dotProduct_sub, dotProduct_smul, h _ hi, h i (by omega), smul_zero, sub_zero]

namespace Conjugate

/-- The direction of a residual vector other than zero is not in the kernel. -/
lemma curvature_pos_self (h : Conjugate A w β k) (hsolvable : Solvable A w β)
    (hr : (walk A w β k).r ≠ 0) : 0 < (walk A w β k).curvature A := by
  refine lt_of_le_of_ne (hsolvable.posSemidef.dotProduct_mulVec_nonneg (walk A w β k).p) ?_
  intro hzero
  have hsquare := hsolvable.square_pos hr
  rw [← h.square_eq, hsolvable.residual_orthogonal k hzero.symm] at hsquare
  exact hsquare.false

/-- One more round. -/
lemma succ (h : Conjugate A w β k) (hsolvable : Solvable A w β) (hr : (walk A w β k).r ≠ 0) :
    Conjugate A w β (k + 1) := by
  have hsquare : ∀ i < k + 1, 0 < (walk A w β i).square w :=
    Nat.forall_lt_succ_right.mpr ⟨h.square_pos, hsolvable.square_pos hr⟩
  have hcurvature : ∀ i < k + 1, 0 < (walk A w β i).curvature A :=
    Nat.forall_lt_succ_right.mpr ⟨h.curvature_pos, h.curvature_pos_self hsolvable hr⟩
  have hk := (hcurvature k k.lt_succ_self).ne'
  have hresidual : ∀ i < k + 1, (walk A w β (k + 1)).r ⬝ᵥ (walk A w β i).p = 0 := by
    refine Nat.forall_lt_succ_right.mpr ⟨fun i hi => ?_, ?_⟩
    · rw [r_walk_succ, sub_dotProduct, smul_dotProduct, h.residual i hi, dotProduct_comm,
        hsolvable.dotProduct_mulVec_comm, h.direction i hi, smul_zero, sub_zero]
    · rw [r_walk_succ, sub_dotProduct, smul_dotProduct, h.square_eq, dotProduct_comm,
        ← Walk.curvature, smul_eq_mul, div_mul_cancel₀ _ hk, sub_self]
  -- The image of a direction is the difference of two residual vectors.
  have himage : ∀ i < k + 1, A *ᵥ (walk A w β i).p =
      ((walk A w β i).curvature A / (walk A w β i).square w) •
        ((walk A w β i).r - (walk A w β (i + 1)).r) := by
    intro i hi
    rw [r_walk_succ, sub_sub_cancel, smul_smul, div_mul_div_cancel₀ (hsquare i hi).ne',
      div_self (hcurvature i hi).ne', one_smul]
  have hweighted : ∀ i < k + 1, (w * (walk A w β (k + 1)).r) ⬝ᵥ (walk A w β i).r = 0 := by
    intro i hi
    rw [dotProduct_comm, dotProduct_weighted_comm]
    exact dotProduct_weighted_residual hresidual hi
  have hself : (w * (walk A w β (k + 1)).r) ⬝ᵥ (walk A w β (k + 1)).r =
      (walk A w β (k + 1)).square w := dotProduct_comm _ _
  refine ⟨hsquare, hcurvature, hresidual, Nat.forall_lt_succ_right.mpr ⟨fun i hi => ?_, ?_⟩, ?_⟩
  · rw [p_walk_succ, add_dotProduct, smul_dotProduct, h.direction i hi, himage i (by omega),
      dotProduct_smul, dotProduct_sub, hweighted i (by omega), hweighted (i + 1) (by omega),
      sub_self, smul_zero, smul_zero, add_zero]
  · rw [p_walk_succ, add_dotProduct, smul_dotProduct, ← Walk.curvature, himage k k.lt_succ_self,
      dotProduct_smul, dotProduct_sub, hweighted k k.lt_succ_self, hself, smul_eq_mul, smul_eq_mul]
    ring
  · rw [p_walk_succ, dotProduct_add, dotProduct_smul, hresidual k k.lt_succ_self, smul_zero,
      add_zero, Walk.square]

end Conjugate

/-- **Conjugacy.**  As long as there is a residual, the directions are conjugate. -/
theorem conjugate_walk (h : Solvable A w β) (hr : ∀ i < k, (walk A w β i).r ≠ 0) :
    Conjugate A w β k := by
  induction k with
  | zero =>
      exact ⟨fun i hi => absurd hi i.not_lt_zero, fun i hi => absurd hi i.not_lt_zero,
        fun i hi => absurd hi i.not_lt_zero, fun i hi => absurd hi i.not_lt_zero, rfl⟩
  | succ k ih =>
      exact (ih fun i hi => hr i (hi.trans k.lt_succ_self)).succ h (hr k k.lt_succ_self)

/-! ## The end -/

/-- Residual vectors other than zero are linearly independent. -/
lemma linearIndependent_residuals (h : Solvable A w β) (hr : ∀ i < k, (walk A w β i).r ≠ 0) :
    LinearIndependent ℝ fun i : Fin k => (walk A w β i).r := by
  have hproduct : ∀ a b, toLinearMap₂' ℝ (diagonal w) a b = a ⬝ᵥ (w * b) := by
    intro a b
    rw [toLinearMap₂'_apply']
    exact congrArg (a ⬝ᵥ ·) (funext fun i => mulVec_diagonal w b i)
  have hlt : ∀ i j : Fin k, i < j → (walk A w β j).r ⬝ᵥ (w * (walk A w β i).r) = 0 :=
    fun i j hij => dotProduct_weighted_residual
      (conjugate_walk h fun m hm => hr m (hm.trans j.isLt)).residual hij
  refine LinearMap.linearIndependent_of_isOrthoᵢ (B := toLinearMap₂' ℝ (diagonal w)) ?_ fun i => ?_
  · intro i j hij
    show toLinearMap₂' ℝ (diagonal w) _ _ = 0
    rw [hproduct]
    rcases lt_or_gt_of_ne hij with hij | hij
    · rw [dotProduct_weighted_comm]
      exact hlt i j hij
    · exact hlt j i hij
  · show ¬toLinearMap₂' ℝ (diagonal w) _ _ = 0
    rw [hproduct]
    exact (h.square_pos (hr i i.isLt)).ne'

/-- **The residual vanishes** after at most as many rounds as there are unknowns. -/
theorem exists_residual_eq_zero (h : Solvable A w β) :
    ∃ k ≤ n, (walk A w β k).r = 0 ∧ ∀ i < k, (walk A w β i).r ≠ 0 := by
  classical
  have hexists : ∃ k, k ≤ n ∧ (walk A w β k).r = 0 := by
    by_contra hnone
    have hr : ∀ i < n + 1, (walk A w β i).r ≠ 0 :=
      fun i hi hzero => hnone ⟨i, Nat.lt_succ_iff.mp hi, hzero⟩
    have hcard := (linearIndependent_residuals h hr).fintype_card_le_finrank
    rw [Fintype.card_fin, Module.finrank_fin_fun] at hcard
    omega
  obtain ⟨hle, hzero⟩ := Nat.find_spec hexists
  exact ⟨Nat.find hexists, hle, hzero, fun i hi hi0 =>
    Nat.find_min hexists hi ⟨hi.le.trans hle, hi0⟩⟩

end FreeSurface.ConjugateGradient

import Mathlib.Analysis.Real.Sqrt
import Mathlib.Algebra.Order.Floor.Semiring
import Mathlib.Algebra.BigOperators.Group.Finset.Basic
import Mathlib.Tactic.NormNum
import Mathlib.Tactic.Linarith
import Mathlib.Tactic.Positivity
import FreeSurface.Number.Scalar

/-!
# Exact numbers

The carrier on which no operation rounds: the reals, with the two infinities that the solver uses as
"nothing known yet" and a value for operations without a meaning.  A statement in exact arithmetic
is a statement about the library's definitions read on this carrier, narrow and wide alike.

* `Exact` — the carrier, a `Scalar`; `Exact.real` embeds the reals.
* `Exact.toReal` — the number itself; `Exact.eq_real_toReal` says that a finite value is one.
* `Exact.isFinite_add`, `Exact.isFinite_sub`, `Exact.isFinite_mul` — a finite result has finite
  operands, so finiteness can be read backwards through a computation.

Zero has no sign.  A number other than zero divided by zero is an infinity, as it would be for a
positive zero.
-/

namespace FreeSurface

open scoped Literals

/-- A real number, one of two infinities, or the result of an operation without a meaning. -/
inductive Exact where
  | real (x : ℝ)
  | posInf
  | negInf
  | nan

namespace Exact

noncomputable section

/-! ## Operations -/

/-- The infinity with the sign of a number; there is none for zero. -/
def infinityOf (x : ℝ) : Exact := if 0 < x then posInf else if x < 0 then negInf else nan

instance : Neg Exact where
  neg
    | real x => real (-x)
    | posInf => negInf
    | negInf => posInf
    | nan => nan

instance : Add Exact where
  add
    | real x, real y => real (x + y)
    | posInf, real _ | real _, posInf | posInf, posInf => posInf
    | negInf, real _ | real _, negInf | negInf, negInf => negInf
    | _, _ => nan

instance : Sub Exact := ⟨fun a b => a + -b⟩

instance : Mul Exact where
  mul
    | real x, real y => real (x * y)
    | real x, posInf | posInf, real x => infinityOf x
    | real x, negInf | negInf, real x => infinityOf (-x)
    | posInf, posInf | negInf, negInf => posInf
    | posInf, negInf | negInf, posInf => negInf
    | _, _ => nan

instance : Div Exact where
  div
    | real x, real y => if y = 0 then infinityOf x else real (x / y)
    | real _, posInf | real _, negInf => real 0
    | posInf, real y => if y < 0 then negInf else posInf
    | negInf, real y => if y < 0 then posInf else negInf
    | _, _ => nan

/-- The strict order; nothing compares with `nan`. -/
def Lt : Exact → Exact → Prop
  | real x, real y => x < y
  | negInf, real _ | real _, posInf | negInf, posInf => True
  | _, _ => False

instance : LT Exact := ⟨Lt⟩

instance : LE Exact := ⟨fun a b => a < b ∨ a = b ∧ a ≠ nan⟩

open Classical in
instance : BEq Exact := ⟨fun a b => decide (a = b ∧ a ≠ nan)⟩

/-- A value that is a number. -/
def finite : Exact → Bool
  | real _ => true
  | _ => false

/-- The number of a value, zero for a value that is none. -/
def toReal : Exact → ℝ
  | real x => x
  | _ => 0

open Classical in
instance : Scalar Exact where
  decLt := Classical.decRel _
  decLe := Classical.decRel _
  ofNat n := real n
  ofDecimal mantissa places := real (mantissa / 10 ^ places)
  infinity := posInf
  sqrt
    | real x => if x < 0 then nan else real (√x)
    | posInf => posInf
    | _ => nan
  abs
    | real x => real |x|
    | nan => nan
    | _ => posInf
  floor
    | real x => real ⌊x⌋
    | a => a
  toNat
    | real x => Nat.min ⌊x⌋₊ (2 ^ 64 - 1)
    | posInf => 2 ^ 64 - 1
    | _ => 0
  isFinite := finite
  isNaN
    | nan => true
    | _ => false
  vanishes
    | real x => decide (x = 0)
    | _ => false

instance : Precision Exact Exact := ⟨id, id⟩

/-! ## Numbers among the values -/

lemma real_injective : Function.Injective real := fun _ _ h => Exact.real.inj h

@[simp] lemma toReal_real (x : ℝ) : (real x).toReal = x := rfl

@[simp] lemma isFinite_real (x : ℝ) : Scalar.isFinite (real x) = true := rfl

@[simp] lemma isFinite_posInf : Scalar.isFinite posInf = false := rfl

@[simp] lemma isFinite_negInf : Scalar.isFinite negInf = false := rfl

@[simp] lemma isFinite_nan : Scalar.isFinite nan = false := rfl

/-- A finite value is a number. -/
lemma eq_real_toReal {a : Exact} (h : Scalar.isFinite a = true) : a = real a.toReal := by
  cases a with
  | real x => rfl
  | posInf => simp at h
  | negInf => simp at h
  | nan => simp at h

lemma isFinite_iff {a : Exact} : Scalar.isFinite a = true ↔ ∃ x, a = real x := by
  constructor
  · intro h
    exact ⟨_, eq_real_toReal h⟩
  · rintro ⟨x, rfl⟩
    rfl

@[simp] lemma literal (n : ℕ) :
    @OfNat.ofNat Exact n (Literals.instOfNat n) = real (n : ℝ) := rfl

@[simp] lemma scalar_ofNat (n : ℕ) : (Scalar.ofNat n : Exact) = real (n : ℝ) := rfl

@[simp] lemma scalar_ofDecimal (m k : ℕ) :
    (Scalar.ofDecimal m k : Exact) = real ((m : ℝ) / 10 ^ k) := rfl

lemma half_eq : (Scalar.half : Exact) = real (1 / 2) := by
  simp only [Scalar.half, scalar_ofDecimal]
  norm_num

@[simp] lemma widen_eq (a : Exact) : (widen a : Exact) = a := rfl

@[simp] lemma narrow_eq (a : Exact) : (narrow a : Exact) = a := rfl

/-! ## Arithmetic of numbers -/

@[simp] lemma neg_real (x : ℝ) : -real x = real (-x) := rfl

@[simp] lemma real_add_real (x y : ℝ) : real x + real y = real (x + y) := rfl

@[simp] lemma real_sub_real (x y : ℝ) : real x - real y = real (x - y) := by
  show real (x + -y) = real (x - y)
  rw [sub_eq_add_neg]

@[simp] lemma real_mul_real (x y : ℝ) : real x * real y = real (x * y) := rfl

@[simp] lemma mul_real_one (a : Exact) : a * real 1 = a := by
  cases a with
  | real x => rw [real_mul_real, mul_one]
  | posInf => exact if_pos one_pos
  | negInf => exact (if_neg (by norm_num)).trans (if_pos (by norm_num))
  | nan => rfl

lemma real_div_real {x y : ℝ} (h : y ≠ 0) : real x / real y = real (x / y) := if_neg h

@[simp] lemma real_add_posInf (x : ℝ) : real x + posInf = posInf := rfl

@[simp] lemma posInf_add_real (x : ℝ) : posInf + real x = posInf := rfl

@[simp] lemma posInf_sub_real (x : ℝ) : posInf - real x = posInf := rfl

@[simp] lemma posInf_sub_posInf : posInf - posInf = nan := rfl

@[simp] lemma posInf_mul_posInf : posInf * posInf = posInf := rfl

open Classical in
@[simp] lemma real_beq_real {x y : ℝ} : (real x == real y) = true ↔ x = y := by
  show decide (real x = real y ∧ real x ≠ nan) = true ↔ x = y
  simp

@[simp] lemma real_lt_real {x y : ℝ} : real x < real y ↔ x < y := Iff.rfl

@[simp] lemma real_lt_posInf (x : ℝ) : real x < posInf := trivial

@[simp] lemma not_posInf_lt (a : Exact) : ¬posInf < a := by
  cases a <;> exact id

@[simp] lemma not_lt_nan (a : Exact) : ¬a < nan := by
  cases a <;> exact id

@[simp] lemma real_le_real {x y : ℝ} : real x ≤ real y ↔ x ≤ y := by
  show (real x < real y ∨ real x = real y ∧ real x ≠ nan) ↔ x ≤ y
  simp [le_iff_lt_or_eq]

@[simp] lemma not_le_nan (a : Exact) : ¬a ≤ nan := by
  rintro (h | ⟨h, hne⟩)
  · exact not_lt_nan a h
  · exact hne h

lemma not_le_of_lt {a b : Exact} (h : a < b) : ¬b ≤ a := by
  rintro (hlt | ⟨rfl, -⟩)
  · cases a <;> cases b <;> first | exact h | exact hlt | exact lt_asymm (real_lt_real.mp h) hlt
  · cases b <;> first | exact h | exact lt_irrefl _ (real_lt_real.mp h)

@[simp] lemma abs_real (x : ℝ) : Scalar.abs (real x) = real |x| := rfl

@[simp] lemma abs_posInf : Scalar.abs posInf = posInf := rfl

@[simp] lemma abs_negInf : Scalar.abs negInf = posInf := rfl

@[simp] lemma sqrt_real {x : ℝ} (h : 0 ≤ x) : Scalar.sqrt (real x) = real (√x) :=
  if_neg (not_lt.mpr h)

@[simp] lemma isNaN_real (x : ℝ) : Scalar.isNaN (real x) = false := rfl

@[simp] lemma isNaN_posInf : Scalar.isNaN posInf = false := rfl

@[simp] lemma isNaN_nan : Scalar.isNaN nan = true := rfl

@[simp] lemma vanishes_real {x : ℝ} : Scalar.vanishes (real x) = true ↔ x = 0 :=
  decide_eq_true_iff

@[simp] lemma min_real (x y : ℝ) : Scalar.min (real x) (real y) = real (min x y) := by
  simp only [Scalar.min, isNaN_real, real_lt_real, Bool.false_eq_true, if_false]
  split_ifs with h
  · rw [min_eq_right h.le]
  · rw [min_eq_left (not_lt.mp h)]

@[simp] lemma max_real (x y : ℝ) : Scalar.max (real x) (real y) = real (max x y) := by
  simp only [Scalar.max, isNaN_real, real_lt_real, Bool.false_eq_true, if_false]
  split_ifs with h
  · rw [max_eq_right h.le]
  · rw [max_eq_left (not_lt.mp h)]

@[simp] lemma clamp_real {x lo hi : ℝ} (h : lo ≤ hi) :
    Scalar.clamp (real x) (real lo) (real hi) = real (min (max x lo) hi) := by
  simp only [Scalar.clamp, real_lt_real]
  split_ifs with h₁ h₂ h₂
  · exact absurd h₂ (not_lt.mpr h)
  · rw [max_eq_right h₁.le, min_eq_left h]
  · rw [max_eq_left (not_lt.mp h₁), min_eq_right (real_lt_real.mp h₂).le]
  · rw [max_eq_left (not_lt.mp h₁), min_eq_left (not_lt.mp (mt real_lt_real.mpr h₂))]

/-! ## Finiteness read backwards -/

lemma isFinite_infinityOf (x : ℝ) : Scalar.isFinite (infinityOf x) = false := by
  rw [infinityOf]
  split_ifs <;> rfl

lemma isFinite_add {a b : Exact} :
    Scalar.isFinite (a + b) = true ↔ Scalar.isFinite a = true ∧ Scalar.isFinite b = true := by
  cases a <;> cases b <;> simp <;> rfl

lemma isFinite_neg {a : Exact} : Scalar.isFinite (-a) = Scalar.isFinite a := by
  cases a <;> rfl

lemma isFinite_sub {a b : Exact} :
    Scalar.isFinite (a - b) = true ↔ Scalar.isFinite a = true ∧ Scalar.isFinite b = true := by
  show Scalar.isFinite (a + -b) = true ↔ _
  rw [isFinite_add, isFinite_neg]

lemma isFinite_mul {a b : Exact} :
    Scalar.isFinite (a * b) = true ↔ Scalar.isFinite a = true ∧ Scalar.isFinite b = true := by
  cases a <;> cases b <;> simp <;> first | rfl | exact isFinite_infinityOf _

/-! ## Sums -/

/-- Adding up finite values one by one. -/
lemma foldl_add {ι : Type} (l : List ι) (f : ι → Exact) (x : ℝ)
    (h : ∀ i ∈ l, Scalar.isFinite (f i) = true) :
    l.foldl (fun sum i => sum + f i) (real x) = real (x + (l.map fun i => (f i).toReal).sum) := by
  induction l generalizing x with
  | nil => simp
  | cons i l ih =>
      have hi := eq_real_toReal (h i List.mem_cons_self)
      rw [List.foldl_cons, hi, real_add_real, ih _ fun j hj => h j (List.mem_cons_of_mem _ hj)]
      simp only [List.map_cons, List.sum_cons, add_assoc]

lemma isFinite_foldl_add {ι : Type} (l : List ι) (f : ι → Exact) (a : Exact) :
    Scalar.isFinite (l.foldl (fun sum i => sum + f i) a) = true ↔
      Scalar.isFinite a = true ∧ ∀ i ∈ l, Scalar.isFinite (f i) = true := by
  induction l generalizing a with
  | nil => simp
  | cons i l ih => simp only [List.foldl_cons, ih, isFinite_add, List.forall_mem_cons, and_assoc]

namespace Sums

-- Scoped: where these are not open, a literal zero is that of `Literals`.
scoped instance : Zero Exact := ⟨real 0⟩

scoped instance : AddCommMonoid Exact where
  add_assoc a b c := by
    cases a <;> cases b <;> cases c <;> first | rfl | exact congrArg real (add_assoc _ _ _)
  zero_add a := by
    cases a <;> first | rfl | exact congrArg real (zero_add _)
  add_zero a := by
    cases a <;> first | rfl | exact congrArg real (add_zero _)
  add_comm a b := by
    cases a <;> cases b <;> first | rfl | exact congrArg real (add_comm _ _)
  nsmul := nsmulRec

lemma sum_real {ι : Type} (s : Finset ι) (f : ι → ℝ) :
    ∑ i ∈ s, real (f i) = real (∑ i ∈ s, f i) := by
  classical
  induction s using Finset.induction_on with
  | empty => rfl
  | insert i s hi ih => rw [Finset.sum_insert hi, Finset.sum_insert hi, ih, real_add_real]

end Sums

end

end Exact

end FreeSurface

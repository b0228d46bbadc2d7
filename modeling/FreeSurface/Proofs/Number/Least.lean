import Mathlib.Data.Prod.Lex
import Mathlib.Order.Bounds.Defs
import FreeSurface.Proofs.Number.Order

/-!
# Least values

The least of some finite values, found one by one starting from infinity, is one of them, and at
most each of them (`Scalar.foldl_min`).  This takes no exact arithmetic, only an order: it holds of
every carrier on which `≤` is transitive and infinity is above the finite values
(`Scalar.Linear`), and so of machine numbers too.
-/

namespace FreeSurface

open Float.Model Float.Model.UnpackedFloat

/-- The order of the numbers is linear, and the finite ones are below infinity. -/
class Scalar.Linear (S : Type) [Scalar S] : Prop extends Scalar.Ordered S where
  le_of_lt {a b : S} : a < b → a ≤ b
  le_trans {a b c : S} : a ≤ b → b ≤ c → a ≤ c
  isNaN_of_isFinite {a : S} : isFinite a = true → isNaN a = false
  isFinite_infinity : isFinite (infinity : S) = false
  lt_infinity {a : S} : isFinite a = true → a < infinity

/-! ## Exact numbers -/

namespace Exact

protected lemma lt_trans {a b c : Exact} (hab : a < b) (hbc : b < c) : a < c := by
  cases a <;> cases b <;> cases c <;>
    first
    | exact (real_lt_real.mp hab).trans hbc
    | exact hab.elim
    | exact hbc.elim
    | trivial

protected lemma le_trans {a b c : Exact} (hab : a ≤ b) (hbc : b ≤ c) : a ≤ c := by
  rcases hab with hab | ⟨rfl, ha⟩
  · rcases hbc with hbc | ⟨rfl, -⟩
    · exact .inl (Exact.lt_trans hab hbc)
    · exact .inl hab
  · exact hbc

instance : Scalar.Linear Exact where
  le_of_lt := .inl
  le_trans := Exact.le_trans
  isNaN_of_isFinite {a} h := by
    rw [eq_real_toReal h]
    rfl
  isFinite_infinity := rfl
  lt_infinity {a} h := by
    rw [eq_real_toReal h]
    exact real_lt_posInf _

end Exact

/-! ## Singles -/

namespace Single

/-- Where a value stands: by its size if it is infinite or zero, else by its sign, its exponent and
its significand. -/
def place : UnpackedFloat → ℤ ×ₗ ℤ ×ₗ ℤ
  | .infinity .negative => toLex (-2, toLex (0, 0))
  | .finite .negative m e _ => toLex (-1, toLex (-e, -m))
  | .finite .positive m e _ => toLex (1, toLex (e, m))
  | .infinity .positive => toLex (2, toLex (0, 0))
  | _ => toLex (0, toLex (0, 0))

lemma isLE_then_iff {e f : ℤ} {m n : ℕ} :
    ((compare e f).then (compare m n)).isLE = true ↔ e < f ∨ e = f ∧ m ≤ n := by
  rw [Ordering.isLE_then_iff_or, compare_lt_iff_lt, compare_eq_iff_eq, Nat.isLE_compare]

lemma isLE_compare_iff {a b : UnpackedFloat} :
    (a.compare b).any (·.isLE) = true ↔ a.isNaN = false ∧ b.isNaN = false ∧ place a ≤ place b := by
  rcases a with (_ | _) | _ | s | ⟨_ | _, m, e, hm⟩ <;>
    rcases b with (_ | _) | _ | t | ⟨_ | _, n, f, hn⟩ <;>
    simp [UnpackedFloat.compare, UnpackedFloat.isNaN, place, Prod.Lex.toLex_le_toLex,
      Ordering.swap_then, Int.compare_swap, Nat.compare_swap, isLE_then_iff, -Ordering.isLE_swap]
  case infinity.negative.infinity.negative => rfl
  case infinity.negative.infinity.positive => rfl
  case infinity.positive.infinity.negative => rfl
  case infinity.positive.infinity.positive => rfl
  case finite.negative.finite.negative => omega

protected lemma le_of_lt {x y : Float32} (h : x < y) : x ≤ y := by
  rw [le_iff, lt_iff.mp h]
  rfl

protected lemma le_trans {x y z : Float32} (hxy : x ≤ y) (hyz : y ≤ z) : x ≤ z := by
  rw [le_iff, isLE_compare_iff] at hxy hyz ⊢
  exact ⟨hxy.1, hyz.2.1, hxy.2.2.trans hyz.2.2⟩

lemma value_infinity : value Scalar.infinity = .infinity .positive := rfl

lemma lt_infinity {x : Float32} (h : Scalar.isFinite x = true) : x < Scalar.infinity := by
  have hfinite : (value x).isFinite = true := h
  rw [lt_iff, value_infinity]
  generalize value x = a at hfinite ⊢
  rcases a with s | _ | s | ⟨_ | _, m, e, hm⟩
  · exact (Bool.false_ne_true hfinite).elim
  · exact (Bool.false_ne_true hfinite).elim
  · rfl
  · rfl
  · rfl

lemma isNaN_of_isFinite {x : Float32} (h : Scalar.isFinite x = true) : Scalar.isNaN x = false :=
  Double.isNaN_of_isFinite_value h

instance : Scalar.Linear Float32 where
  le_of_lt := Single.le_of_lt
  le_trans := Single.le_trans
  isNaN_of_isFinite := isNaN_of_isFinite
  isFinite_infinity := rfl
  lt_infinity := lt_infinity

end Single

/-! ## The least of some values -/

namespace Scalar

variable {S : Type} [Scalar S] [Linear S] {a b : S} {l : List S}

lemma le_rfl_of_isNaN (h : isNaN a = false) : a ≤ a :=
  Ordered.le_of_not_lt h h fun hlt => Ordered.not_le_of_lt hlt (Linear.le_of_lt hlt)

lemma le_rfl_of_isFinite (h : isFinite a = true) : a ≤ a :=
  le_rfl_of_isNaN (Linear.isNaN_of_isFinite h)

omit [Linear S] in
/-- The smaller of two operands is a number if the second is. -/
lemma isNaN_min (hb : isNaN b = false) : isNaN (min a b) = false := by
  rw [min]
  split_ifs with ha hlt
  · exact hb
  · exact hb
  · exact Bool.not_eq_true _ ▸ ha

/-- The larger of two operands is at least the second, if that one is a number. -/
lemma le_max_right (hb : isNaN b = false) : b ≤ max a b := by
  rw [max]
  split_ifs with ha hlt
  · exact le_rfl_of_isNaN hb
  · exact le_rfl_of_isNaN hb
  · exact Ordered.le_of_not_lt hb (Bool.not_eq_true _ ▸ ha) hlt

/-- What is at most two numbers is at most the smaller one. -/
lemma le_min_iff {x : S} (ha : isNaN a = false) (hb : isNaN b = false) :
    x ≤ min a b ↔ x ≤ a ∧ x ≤ b := by
  rw [min, if_neg (by rw [ha]; exact Bool.false_ne_true)]
  split_ifs with hlt
  · exact ⟨fun h => ⟨Linear.le_trans h (Linear.le_of_lt hlt), h⟩, And.right⟩
  · exact ⟨fun h => ⟨h, Linear.le_trans h (Ordered.le_of_not_lt ha hb hlt)⟩, And.left⟩

lemma le_foldl_min_iff {x : S} (ha : isNaN a = false) (hl : ∀ b ∈ l, isNaN b = false) :
    x ≤ l.foldl min a ↔ x ≤ a ∧ ∀ b ∈ l, x ≤ b := by
  induction l generalizing a with
  | nil => simp
  | cons b l ih =>
      obtain ⟨hb, hl⟩ := List.forall_mem_cons.mp hl
      rw [List.foldl_cons, ih (isNaN_min hb) hl, le_min_iff ha hb, List.forall_mem_cons, and_assoc]

lemma min_infinity (h : isFinite a = true) : min infinity a = a := by
  rw [min, if_pos (Linear.lt_infinity h), ite_self]

/-- The smaller of two finite values. -/
lemma isLeast_min (ha : isFinite a = true) (hb : isFinite b = true) :
    IsLeast {c | c ∈ [a, b]} (min a b) := by
  have hnumber := Linear.isNaN_of_isFinite ha
  rw [min, if_neg (by rw [hnumber]; exact Bool.false_ne_true)]
  split_ifs with hlt
  · refine ⟨List.mem_cons_of_mem a List.mem_cons_self, ?_⟩
    exact List.forall_mem_cons.mpr
      ⟨Linear.le_of_lt hlt, List.forall_mem_singleton.mpr (le_rfl_of_isFinite hb)⟩
  · have hle := Ordered.le_of_not_lt hnumber (Linear.isNaN_of_isFinite hb) hlt
    refine ⟨List.mem_cons_self, ?_⟩
    exact List.forall_mem_cons.mpr ⟨le_rfl_of_isFinite ha, List.forall_mem_singleton.mpr hle⟩

lemma foldl_min_cons (ha : isFinite a = true) (hl : ∀ b ∈ l, isFinite b = true) :
    IsLeast {b | b ∈ a :: l} (l.foldl min a) := by
  induction l generalizing a with
  | nil => exact ⟨List.mem_singleton_self a, List.forall_mem_singleton.mpr (le_rfl_of_isFinite ha)⟩
  | cons b l ih =>
      obtain ⟨hb, hl⟩ := List.forall_mem_cons.mp hl
      -- The smaller of the first two stands for both.
      obtain ⟨hmin, hle⟩ := isLeast_min ha hb
      have hpair : ∀ c ∈ [a, b], isFinite c = true :=
        List.forall_mem_cons.mpr ⟨ha, List.forall_mem_singleton.mpr hb⟩
      obtain ⟨hmem, hleast⟩ := ih (hpair _ hmin) hl
      constructor
      · rcases List.mem_cons.mp hmem with heq | hmem
        · exact List.mem_append_left l (heq ▸ hmin)
        · exact List.mem_append_right [a, b] hmem
      · intro c hc
        rcases (List.mem_append.mp hc : c ∈ [a, b] ∨ c ∈ l) with hc | hc
        · exact Linear.le_trans (hleast List.mem_cons_self) (hle hc)
        · exact hleast (List.mem_cons_of_mem _ hc)

/-- **The least of some finite values is found from infinity on.** -/
theorem foldl_min (hne : l ≠ []) (hl : ∀ a ∈ l, isFinite a = true) :
    IsLeast {a | a ∈ l} (l.foldl min infinity) := by
  cases l with
  | nil => exact absurd rfl hne
  | cons a l =>
      obtain ⟨ha, hl⟩ := List.forall_mem_cons.mp hl
      rw [List.foldl_cons, min_infinity ha]
      exact foldl_min_cons ha hl

end Scalar

end FreeSurface

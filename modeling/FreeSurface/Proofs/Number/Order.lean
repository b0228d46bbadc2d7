import FreeSurface.Proofs.Number.Exact
import FreeSurface.Proofs.Number.Single

/-!
# The order of numbers

On every carrier the two orders agree about numbers, and nothing else is below or at most anything.
-/

namespace FreeSurface

/-- Of two numbers the first is at most the second exactly if the second is not below the first. -/
class Scalar.Ordered (S : Type) [Scalar S] : Prop where
  not_le_of_lt {a b : S} : a < b → ¬b ≤ a
  le_of_not_lt {a b : S} : isNaN a = false → isNaN b = false → ¬b < a → a ≤ b

lemma Scalar.not_lt_iff {S : Type} [Scalar S] [Ordered S] {a b : S} (ha : isNaN a = false)
    (hb : isNaN b = false) : ¬b < a ↔ a ≤ b :=
  ⟨Ordered.le_of_not_lt ha hb, fun hle hlt => Ordered.not_le_of_lt hlt hle⟩

lemma Exact.le_of_not_lt {a b : Exact} (ha : Scalar.isNaN a = false)
    (hb : Scalar.isNaN b = false) (h : ¬b < a) : a ≤ b := by
  cases a <;> cases b
  case real.real => exact real_le_real.mpr (not_lt.mp h)
  all_goals
    first
    | exact absurd ha (by decide)
    | exact absurd hb (by decide)
    | exact absurd trivial h
    | exact .inl trivial
    | exact .inr ⟨rfl, by simp⟩

instance : Scalar.Ordered Exact where
  not_le_of_lt := Exact.not_le_of_lt
  le_of_not_lt := Exact.le_of_not_lt

instance : Scalar.Ordered Float32 where
  not_le_of_lt h := by
    rw [Single.le_iff, ← Double.compare_swap, Single.lt_iff.mp h]
    exact Bool.false_ne_true
  le_of_not_lt := Single.le_of_not_lt

end FreeSurface

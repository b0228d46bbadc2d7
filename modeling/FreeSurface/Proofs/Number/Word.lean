import Mathlib.Tactic.Ring
import FreeSurface.Number.Word

/-!
# Signed words

Words are the integers that wrapping leaves alone (`IsWord.wrap_eq`).  The least number that is no
word turns into the least word (`word_two_pow`).
-/

namespace FreeSurface

/-- An integer that is a signed word of 32 bits. -/
def IsWord (x : ℤ) : Prop := -2 ^ 31 ≤ x ∧ x < 2 ^ 31

instance (x : ℤ) : Decidable (IsWord x) := inferInstanceAs (Decidable (_ ∧ _))

lemma IsWord.wrap_eq {x : ℤ} (h : IsWord x) : wrap x = x :=
  Int32.toInt_ofInt_of_le h.1 h.2

/-- Slightly beyond the words wrapping leads to the other end. -/
lemma wrap_eq_ite {x : ℤ} (hlo : -2 ^ 32 ≤ x) (hhi : x < 2 ^ 32) :
    wrap x = if x < -2 ^ 31 then x + 2 ^ 32 else if x < 2 ^ 31 then x else x - 2 ^ 32 := by
  rw [wrap, Int32.toInt_ofInt, Int.bmod_def]
  unfold Int32.size
  split_ifs <;> omega

lemma word_of_lt {n : ℕ} (h : n < 2 ^ 31) : word n = n :=
  IsWord.wrap_eq ⟨by omega, by omega⟩

lemma word_two_pow : word (2 ^ 31) = -2 ^ 31 := by
  rw [word, wrap, Int32.toInt_ofInt]
  rfl

end FreeSurface

/-!
# Signed words

Coordinates are counted in words of 32 bits with a sign, from `-2 ^ 31` to `2 ^ 31 - 1`.  What does
not fit wraps around: the sum of two words is a word again, but not always their sum.
-/

namespace FreeSurface

/-- An integer as a signed word of 32 bits; what does not fit wraps around. -/
def wrap (x : Int) : Int := (Int32.ofInt x).toInt

/-- A number as a signed word of 32 bits. -/
def word (n : Nat) : Int := wrap n

/-- A number that is too large for a word gives a smaller one. -/
theorem word_le (n : Nat) : word n ≤ n := by
  rw [word, wrap, Int32.toInt_ofInt, Int.bmod_def]
  unfold Int32.size
  split <;> omega

end FreeSurface

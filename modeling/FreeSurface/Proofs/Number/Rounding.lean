import FreeSurface.Proofs.Number.Positive
import FreeSurface.Proofs.Number.Single

/-!
# How singles round

What an operation on singles returns lies on the same side of every number of the format as the
exact result does.  This takes no rule for ties: of the bits a shift drops only that they amount to
less than one in the last place (`Single.Truncates`).

* `Single.size`, `Single.Canonical` — the number that a significand and an exponent stand for, and
  the ones the format has; `Single.unpack_pack` reads them back.
* `Single.Rounds` — a number of the format, and an exact one it may have been rounded from;
  `Single.exists_rounds` says that rounding ends in one.
* `Single.exists_rounds_add`, `Single.exists_rounds_mul`, `Single.exists_rounds_div`,
  `Single.exists_rounds_sqrt` — the operations round the exact result.
-/

namespace FreeSurface

open Float.Model Float.Model.UnpackedFloat

namespace Single

/-! ## Numbers of the format -/

/-- The number that a significand and an exponent stand for. -/
noncomputable def size (m : ℕ) (e : ℤ) : ℝ := m * (2 : ℕ) ^ e

lemma size_eq (m : ℕ) (e : ℤ) : size m e = m * 2 ^ e := by rw [size, Nat.cast_ofNat]

/-- A significand and an exponent as the format writes them.  Those with too large an exponent are
packed as infinity. -/
structure Canonical (m : ℕ) (e : ℤ) : Prop where
  lt : m < 2 ^ 24
  exponent_ge : -149 ≤ e
  normal : e = -149 ∨ 2 ^ 23 ≤ m

variable {m n : ℕ} {e f : ℤ} {r c d p : ℝ}

lemma size_nonneg (m : ℕ) (e : ℤ) : 0 ≤ size m e := by
  simp only [size_eq]
  positivity

lemma size_pos (hm : 0 < m) (e : ℤ) : 0 < size m e := by
  have : (0 : ℝ) < m := Nat.cast_pos.mpr hm
  simp only [size_eq]
  positivity

lemma size_zero (e : ℤ) : size 0 e = 0 := by rw [size_eq, Nat.cast_zero, zero_mul]

lemma size_le_size (h : m ≤ n) (e : ℤ) : size m e ≤ size n e := by
  have : (m : ℝ) ≤ n := Nat.cast_le.mpr h
  simp only [size_eq]
  gcongr

/-- A factor of the significand that is a power of two may as well stand in the exponent. -/
lemma size_mul_two_pow (m k : ℕ) (e : ℤ) : size (m * 2 ^ k) e = size m (e + k) := by
  rw [size_eq, size_eq, Nat.cast_mul, Nat.cast_pow, Nat.cast_ofNat, zpow_add₀ two_ne_zero,
    zpow_natCast]
  ring

lemma size_two_pow (k : ℕ) (e : ℤ) : size (2 ^ k) e = 2 ^ (e + k) := by
  rw [← one_mul (2 ^ k), size_mul_two_pow, size_eq, Nat.cast_one, one_mul]

lemma size_lt_of_lt {k : ℕ} (h : m < 2 ^ k) (e : ℤ) : size m e < 2 ^ (e + k) := by
  have : (m : ℝ) < (2 ^ k : ℕ) := Nat.cast_lt.mpr h
  rw [← size_two_pow]
  simp only [size_eq]
  gcongr

lemma le_size_of_le {k : ℕ} (h : 2 ^ k ≤ m) (e : ℤ) : 2 ^ (e + k) ≤ size m e :=
  size_two_pow k e ▸ size_le_size h e

lemma canonical_zero : Canonical 0 (-149) := ⟨by decide, le_rfl, .inl rfl⟩

lemma Canonical.packed (h : Canonical m e) : Packing.Canonical Format.binary32 m e :=
  ⟨h.lt, h.exponent_ge, h.normal⟩

lemma canonical_unpack (b : BitVec 32) {s : Sign} {hm : 0 < m}
    (h : UnpackedFloat.unpack Format.binary32 b = .finite s m e hm) : Canonical m e ∧ e ≤ 104 := by
  obtain ⟨hcanonical, hsmall⟩ := Packing.canonical_unpack Format.binary32 (by decide) h
  have hle : e + (127 : ℕ) + (23 : ℕ) + 1 < (2 ^ 8 : ℕ) := hsmall
  exact ⟨⟨hcanonical.lt, hcanonical.exponent_ge, hcanonical.normal⟩, by omega⟩

lemma canonical_value {x : Float32} {s : Sign} {hm : 0 < m} (h : value x = .finite s m e hm) :
    Canonical m e := (canonical_unpack _ h).1

/-- What is packed is read back, unless it is so large that infinity is. -/
lemma unpack_pack {s : Sign} (hm : 0 < m) (h : Canonical m e) :
    UnpackedFloat.unpack Format.binary32 (UnpackedFloat.pack Format.binary32 (.finite s m e hm)) =
      if e ≤ 104 then .finite s m e hm else .infinity s := by
  rw [Packing.unpack_pack hm h.packed]
  refine if_congr ?_ rfl rfl
  show e + (127 : ℕ) + (23 : ℕ) + 1 < (2 ^ 8 : ℕ) ↔ e ≤ 104
  omega

/-! ## Rounding -/

/-- An extended significand leaves out less than one in its last place. -/
structure Truncates (em : ExtendedMantissa) (e : ℤ) (r : ℝ) : Prop where
  le : size em.mantissa e ≤ r
  lt : r < size (em.mantissa + 1) e

lemma mantissa_ofMantissaAndAccuracy (m : ℕ) (accuracy : Accuracy) :
    (ExtendedMantissa.ofMantissaAndAccuracy m accuracy).mantissa = m := by
  cases accuracy with
  | exact => rfl
  | inexact o => cases o <;> rfl

lemma truncates_size (m : ℕ) (e : ℤ) :
    Truncates (ExtendedMantissa.ofMantissaAndAccuracy m .exact) e (size m e) :=
  ⟨le_rfl, by
    show size m e < size (m + 1) e
    simp only [size_eq]
    push_cast
    gcongr
    exact lt_add_one _⟩

lemma Truncates.shiftRightOne {em : ExtendedMantissa} (h : Truncates em e r) :
    Truncates em.shiftRightOne (e + 1) r := by
  have hsize : ∀ k, size k (e + 1) = size (k * 2) e := fun k => (size_mul_two_pow k 1 e).symm
  have hshift : em.shiftRightOne.mantissa = em.mantissa / 2 := rfl
  constructor
  · rw [hsize, hshift]
    exact (size_le_size (by omega) e).trans h.le
  · rw [hsize, hshift]
    exact h.lt.trans_le (size_le_size (by omega) e)

lemma Truncates.shiftRight {em : ExtendedMantissa} (h : Truncates em e r) (k : ℕ) :
    Truncates (em >>> k) (e + k) r := by
  induction k with
  | zero =>
      rw [Nat.cast_zero, add_zero]
      exact h
  | succ k ih =>
      rw [Nat.cast_succ, ← add_assoc]
      exact ih.shiftRightOne

/-- A shift halves the significand again and again, whatever the bits behind it are. -/
lemma mantissa_shiftRight (em : ExtendedMantissa) (k : ℕ) :
    (em >>> k).mantissa = em.mantissa / 2 ^ k := by
  induction k with
  | zero => exact (Nat.div_one _).symm
  | succ k ih =>
      show (em >>> k).mantissa / 2 = _
      rw [ih, Nat.div_div_eq_div_mul, pow_succ]

/-- The number of a sign, a significand and an exponent: a zero if the significand is zero. -/
def ofParts (s : Sign) (m : ℕ) (e : ℤ) : UnpackedFloat :=
  if h : m = 0 then .zero s else .finite s m e (Nat.pos_of_ne_zero h)

/-- A number of the format that an exact one may have been rounded to: it lies on the same side of
every number of the format, and of every power of two above. -/
structure Rounds (r : ℝ) (m : ℕ) (e : ℤ) : Prop where
  canonical : Canonical m e
  ge {n : ℕ} {f : ℤ} : Canonical n f → size n f ≤ r → size n f ≤ size m e
  le {j : ℤ} : -149 ≤ j → r < 2 ^ j → size m e ≤ 2 ^ j

/-- The shift to the exponent at which a number is written leaves 24 bits, unless there are no
smaller exponents. -/
lemma exists_shifted_truncates {M : ℕ} {E : ℤ} {accuracy : Accuracy}
    (htruncates : Truncates (ExtendedMantissa.ofMantissaAndAccuracy M accuracy) E r)
    (hfits : E ≤ max (M.log2 + E - 23) (-149)) :
    ∃ em t, shiftToTargetExponent Format.binary32 M E accuracy = (em, t) ∧ Truncates em t r ∧
      em.mantissa < 2 ^ 24 ∧ -149 ≤ t ∧ (t = -149 ∨ 2 ^ 23 ≤ em.mantissa) := by
  obtain ⟨t, ht⟩ : ∃ t, t = max ((M.log2 : ℤ) + E - 23) (-149) := ⟨_, rfl⟩
  obtain ⟨a, ha⟩ : ∃ a : ℕ, t - E = a := Int.eq_ofNat_of_zero_le (by omega)
  have hE : E + a = t := by omega
  have hmantissa : (ExtendedMantissa.ofMantissaAndAccuracy M accuracy >>> a).mantissa =
      M / 2 ^ a := by rw [mantissa_shiftRight, mantissa_ofMantissaAndAccuracy]
  refine ⟨ExtendedMantissa.ofMantissaAndAccuracy M accuracy >>> a, t, ?_, ?_, ?_, by omega, ?_⟩
  · rw [shiftToTargetExponent, targetExponent_eq, shiftToExponent, ← ht, ha, Int.toNat_natCast, hE]
  · rw [← hE]
    exact htruncates.shiftRight a
  · rw [hmantissa, Nat.div_lt_iff_lt_mul (by positivity), ← pow_add]
    rcases Nat.eq_zero_or_pos M with rfl | hM
    · positivity
    · exact (Nat.log2_lt hM.ne').mp (by omega)
  · refine or_iff_not_imp_left.mpr fun hnot => ?_
    rw [hmantissa, Nat.le_div_iff_mul_le (by positivity), ← pow_add]
    have hlog : 23 + a ≤ M.log2 := by omega
    have hM : M ≠ 0 := by
      rintro rfl
      exact absurd hlog (by simp)
    exact (Nat.le_log2 hM).mp hlog

/-- No number of the format lies strictly between a number and what is left of it when it is written
with 24 bits. -/
lemma Truncates.ge {em : ExtendedMantissa} {t : ℤ} (h : Truncates em t r)
    (hnormal : t = -149 ∨ 2 ^ 23 ≤ em.mantissa) (hc : Canonical n f) (hle : size n f ≤ r) :
    size n f ≤ size em.mantissa t := by
  rcases le_or_gt t f with htf | hft
  · obtain ⟨k, hk⟩ : ∃ k : ℕ, f = t + k := ⟨(f - t).toNat, by omega⟩
    rw [hk, ← size_mul_two_pow] at hle ⊢
    refine size_le_size (Nat.lt_succ_iff.mp ?_) t
    by_contra hge
    exact absurd (hle.trans_lt h.lt) (not_lt.mpr (size_le_size (not_lt.mp hge) t))
  · -- A smaller exponent goes with a smaller number.
    have hfull : 2 ^ 23 ≤ em.mantissa := hnormal.resolve_left fun heq => by
      have := hc.exponent_ge
      omega
    calc size n f ≤ 2 ^ (f + (24 : ℕ)) := (size_lt_of_lt hc.lt f).le
      _ ≤ 2 ^ (t + (23 : ℕ)) := zpow_le_zpow_right₀ one_le_two (by push_cast; omega)
      _ ≤ size em.mantissa t := le_size_of_le hfull t

/-- Below a power of two there is room for one more in the last place. -/
lemma Truncates.succ_le {em : ExtendedMantissa} {t j : ℤ} (h : Truncates em t r)
    (hnormal : t = -149 ∨ 2 ^ 23 ≤ em.mantissa) (hj : -149 ≤ j) (hlt : r < 2 ^ j) :
    size (em.mantissa + 1) t ≤ 2 ^ j := by
  have hbelow := h.le.trans_lt hlt
  rcases le_or_gt t j with htj | hjt
  · obtain ⟨k, rfl⟩ : ∃ k : ℕ, j = t + k := ⟨(j - t).toNat, by omega⟩
    rw [← size_two_pow] at hbelow ⊢
    refine size_le_size (Nat.succ_le_of_lt ?_) t
    by_contra hge
    exact absurd hbelow (not_lt.mpr (size_le_size (not_lt.mp hge) t))
  · have hfull : 2 ^ 23 ≤ em.mantissa := hnormal.resolve_left (by omega)
    have hle : (2 : ℝ) ^ j ≤ 2 ^ (t + (23 : ℕ)) :=
      zpow_le_zpow_right₀ one_le_two (by push_cast; omega)
    exact absurd (hle.trans (le_size_of_le hfull t)) (not_le.mpr hbelow)

lemma shiftToTargetExponent_of_lt {N : ℕ} {t : ℤ} (hN : N < 2 ^ 24) (ht : -149 ≤ t) :
    shiftToTargetExponent Format.binary32 N t .exact =
      (ExtendedMantissa.ofMantissaAndAccuracy N .exact, t) :=
  Packing.shiftToTargetExponent_of_lt Format.binary32 hN ht

lemma shiftToTargetExponent_overflow {t : ℤ} (ht : -149 ≤ t) :
    shiftToTargetExponent Format.binary32 (2 ^ 24) t .exact = (⟨2 ^ 23, false, false⟩, t + 1) :=
  Packing.shiftToTargetExponent_overflow Format.binary32 ht

lemma roundWithAccuracy_eq {M N : ℕ} {E t f : ℤ} {accuracy : Accuracy} {em em' : ExtendedMantissa}
    (s : Sign) (hfirst : shiftToTargetExponent Format.binary32 M E accuracy = (em, t))
    (hN : em.roundedMantissa = N)
    (hsecond : shiftToTargetExponent Format.binary32 N t .exact = (em', f)) :
    roundWithAccuracy Format.binary32 s M E accuracy = ofParts s em'.mantissa f := by
  subst hN
  rw [roundWithAccuracy]
  simp only [hfirst, hsecond]
  rfl

/-- **Rounding ends in a number of the format on the same side of the others.** -/
lemma exists_rounds {M : ℕ} {E : ℤ} {accuracy : Accuracy} (s : Sign)
    (htruncates : Truncates (ExtendedMantissa.ofMantissaAndAccuracy M accuracy) E r)
    (hfits : E ≤ max (M.log2 + E - 23) (-149)) :
    ∃ m e, Rounds r m e ∧
      roundWithAccuracy Format.binary32 s M E accuracy = ofParts s m e := by
  obtain ⟨em, t, hfirst, hem, h24, ht, hnormal⟩ := exists_shifted_truncates htruncates hfits
  have hlo := Packing.le_roundedMantissa em
  have hhi := Packing.roundedMantissa_le em
  obtain ⟨N, hN⟩ : ∃ N, N = em.roundedMantissa := ⟨_, rfl⟩
  rw [← hN] at hlo hhi
  have hge : ∀ {n f}, Canonical n f → size n f ≤ r → size n f ≤ size N t := fun hc hle =>
    (hem.ge hnormal hc hle).trans (size_le_size hlo t)
  have hle : ∀ {j : ℤ}, -149 ≤ j → r < 2 ^ j → size N t ≤ 2 ^ j := fun hj hlt =>
    (size_le_size hhi t).trans (hem.succ_le hnormal hj hlt)
  rcases (hhi.trans h24).eq_or_lt with rfl | hlt
  · -- Rounding has carried into one bit more.
    have hsize : size (2 ^ 24) t = size (2 ^ 23) (t + 1) := by
      rw [size_two_pow, size_two_pow]
      congr 1
      omega
    rw [hsize] at hge hle
    refine ⟨2 ^ 23, t + 1, ⟨⟨by norm_num, by omega, .inr le_rfl⟩, hge, hle⟩, ?_⟩
    rw [roundWithAccuracy_eq s hfirst hN.symm (shiftToTargetExponent_overflow ht)]
  · refine ⟨N, t, ⟨⟨hlt, ht, hnormal.imp_right hlo.trans'⟩, hge, hle⟩, ?_⟩
    rw [roundWithAccuracy_eq s hfirst hN.symm (shiftToTargetExponent_of_lt hlt ht)]
    rfl

lemma shiftLeft_fits {M : ℕ} (hM : 0 < M) (E : ℤ) {k : ℕ}
    (hk : k = (E - max (M.log2 + E - 23) (-149)).toNat) :
    E - k ≤ max ((M <<< k).log2 + (E - k) - 23) (-149) := by
  rw [Packing.log2_shiftLeft hM]
  omega

lemma size_shiftLeft (M k : ℕ) (E : ℤ) : size (M <<< k) (E - k) = size M E := by
  rw [Nat.shiftLeft_eq, size_mul_two_pow, sub_add_cancel]

lemma exists_rounds_round {M : ℕ} (hM : 0 < M) (s : Sign) (E : ℤ) :
    ∃ m e, Rounds (size M E) m e ∧ UnpackedFloat.round Format.binary32 s M E = ofParts s m e := by
  obtain ⟨k, hk⟩ : ∃ k, k = (E - max (M.log2 + E - 23) (-149)).toNat := ⟨_, rfl⟩
  have htruncates := truncates_size (M <<< k) (E - k)
  rw [size_shiftLeft] at htruncates
  obtain ⟨m, e, hrounds, heq⟩ := exists_rounds s htruncates (shiftLeft_fits hM E hk)
  refine ⟨m, e, hrounds, ?_⟩
  rw [UnpackedFloat.round]
  simp only [targetExponent_eq, decreaseExponent, ← hk]
  exact heq

/-- **A number of the format is rounded to itself**, with however many zeros behind it. -/
lemma roundWithAccuracy_exact (s : Sign) (hm : 0 < m) (h : Canonical m e) (k : ℕ) :
    roundWithAccuracy Format.binary32 s (2 ^ k * m) (e - k) .exact = .finite s m e hm := by
  have hlog : (2 ^ k * m).log2 = m.log2 + k := by
    rw [mul_comm, ← Nat.shiftLeft_eq, Packing.log2_shiftLeft hm]
  have htop : m.log2 ≤ 23 := Nat.lt_succ_iff.mp ((Nat.log2_lt hm.ne').mpr h.lt)
  have htarget : max (((2 ^ k * m).log2 : ℤ) + (e - k) - 23) (-149) = e := by
    have he := h.exponent_ge
    rcases h.normal with hleast | hfull
    · omega
    · have := (Nat.le_log2 hm.ne').mpr hfull
      omega
  obtain ⟨hmantissa, hlost⟩ := Packing.shiftRight_spec (2 ^ k * m) k
  have hrounded : (ExtendedMantissa.ofMantissaAndAccuracy (2 ^ k * m) .exact >>> k).roundedMantissa
      = m := by
    rw [Packing.roundedMantissa_of_exact, hmantissa, Nat.mul_div_cancel_left m (by positivity)]
    exact Bool.eq_false_iff.mpr fun hbits => hlost hbits (Nat.dvd_mul_right _ m)
  have hfirst : shiftToTargetExponent Format.binary32 (2 ^ k * m) (e - k) .exact =
      (ExtendedMantissa.ofMantissaAndAccuracy (2 ^ k * m) .exact >>> k, e) := by
    rw [shiftToTargetExponent, targetExponent_eq, shiftToExponent, htarget, sub_sub_cancel,
      Int.toNat_natCast, sub_add_cancel]
  rw [roundWithAccuracy_eq s hfirst hrounded (shiftToTargetExponent_of_lt h.lt h.exponent_ge)]
  exact dif_neg hm.ne'

/-! ## Operations -/

lemma value_add (x y : Float32) :
    value (x + y) = UnpackedFloat.unpack Format.binary32
      (UnpackedFloat.pack Format.binary32 ((value x).add Format.binary32 (value y))) := rfl

lemma value_mul (x y : Float32) :
    value (x * y) = UnpackedFloat.unpack Format.binary32
      (UnpackedFloat.pack Format.binary32 ((value x).mul Format.binary32 (value y))) := rfl

lemma value_div (x y : Float32) :
    value (x / y) = UnpackedFloat.unpack Format.binary32
      (UnpackedFloat.pack Format.binary32 ((value x).div Format.binary32 (value y))) := rfl

lemma value_sqrt (x : Float32) :
    value (Scalar.sqrt x) = UnpackedFloat.unpack Format.binary32
      (UnpackedFloat.pack Format.binary32 ((value x).sqrt Format.binary32)) := rfl

lemma exists_rounds_add (hm : 0 < m) (hn : 0 < n) :
    ∃ k g, Rounds (size m e + size n f) k g ∧
      (UnpackedFloat.finite .positive m e hm).add Format.binary32 (.finite .positive n f hn) =
        ofParts .positive k g := by
  obtain ⟨a, ha⟩ : ∃ a, a = (e - min e f).toNat := ⟨_, rfl⟩
  obtain ⟨b, hb⟩ : ∃ b, b = (f - min e f).toNat := ⟨_, rfl⟩
  have hsum : size (m <<< a + n <<< b) (min e f) = size m e + size n f := by
    have hme := size_shiftLeft m a e
    have hnf := size_shiftLeft n b f
    rw [show e - a = min e f by omega] at hme
    rw [show f - b = min e f by omega] at hnf
    rw [← hme, ← hnf, size_eq, size_eq, size_eq, Nat.cast_add, add_mul]
  have hpos : 0 < m <<< a + n <<< b := Nat.add_pos_left (Nat.shiftLeft_pos_iff.mpr hm) _
  obtain ⟨k, g, hrounds, hround⟩ := exists_rounds_round hpos .positive (min e f)
  refine ⟨k, g, hsum ▸ hrounds, hround.symm ▸ ?_⟩
  simp only [UnpackedFloat.add, decreaseExponent, ← ha, ← hb]
  show UnpackedFloat.normalize Format.binary32 ((m <<< a : ℕ) + (n <<< b : ℕ)) (min e f) .positive = _
  rw [UnpackedFloat.normalize, Int.compare_eq_gt.mpr (by omega)]
  rfl

/-- Of two factors one has a full significand, or the product is too small to need one. -/
lemma mul_fits (hm : 0 < m) (hn : 0 < n) (hme : Canonical m e) (hnf : Canonical n f) :
    e + f ≤ max ((m * n).log2 + (e + f) - 23) (-149) := by
  by_cases hlong : 2 ^ 23 ≤ m * n
  · have hlog : 23 ≤ (m * n).log2 := (Nat.le_log2 (Nat.mul_pos hm hn).ne').mpr hlong
    omega
  · have he := hme.normal.resolve_right fun h => hlong (h.trans (Nat.le_mul_of_pos_right m hn))
    have hf := hnf.normal.resolve_right fun h => hlong (h.trans (Nat.le_mul_of_pos_left n hm))
    omega

lemma exists_rounds_mul (s t : Sign) (hm : 0 < m) (hn : 0 < n) (hme : Canonical m e)
    (hnf : Canonical n f) :
    ∃ k g, Rounds (size m e * size n f) k g ∧
      (UnpackedFloat.finite s m e hm).mul Format.binary32 (.finite t n f hn) =
        ofParts (s * t) k g := by
  have hproduct : size (m * n) (e + f) = size m e * size n f := by
    rw [size_eq, size_eq, size_eq, Nat.cast_mul, zpow_add₀ two_ne_zero]
    ring
  have htruncates := truncates_size (m * n) (e + f)
  rw [hproduct] at htruncates
  exact exists_rounds (s * t) htruncates (mul_fits hm hn hme hnf)

/-- The whole part of a quotient leaves out less than one. -/
lemma truncates_div {q k : ℕ} {t : ℤ} {accuracy : Accuracy} (hn : 0 < n) (hk : t + k = e - f)
    (hq : q = (m <<< k) / n) :
    Truncates (ExtendedMantissa.ofMantissaAndAccuracy q accuracy) t (size m e / size n f) := by
  have hsize : size m e = size (m <<< k) t * 2 ^ f := by
    rw [Nat.shiftLeft_eq, size_mul_two_pow, hk, size_eq, size_eq, mul_assoc, ← zpow_add₀ two_ne_zero,
      sub_add_cancel]
  have hnf := size_pos hn f
  have hcast : (0 : ℝ) < n := Nat.cast_pos.mpr hn
  constructor
  · rw [mantissa_ofMantissaAndAccuracy, le_div_iff₀ hnf, hsize, size_eq, size_eq, size_eq]
    have hle : (q : ℝ) * n ≤ (m <<< k : ℕ) := by
      rw [hq]
      exact_mod_cast Nat.div_mul_le_self _ _
    calc (q : ℝ) * 2 ^ t * (n * 2 ^ f) = q * n * (2 ^ t * 2 ^ f) := by ring
      _ ≤ (m <<< k : ℕ) * (2 ^ t * 2 ^ f) := by gcongr
      _ = (m <<< k : ℕ) * 2 ^ t * 2 ^ f := by ring
  · rw [mantissa_ofMantissaAndAccuracy, div_lt_iff₀ hnf, hsize, size_eq, size_eq, size_eq]
    have hlt : ((m <<< k : ℕ) : ℝ) < (q + 1 : ℕ) * n := by
      rw [hq, mul_comm]
      exact_mod_cast Nat.lt_mul_div_succ _ hn
    calc ((m <<< k : ℕ) : ℝ) * 2 ^ t * 2 ^ f = (m <<< k : ℕ) * (2 ^ t * 2 ^ f) := by ring
      _ < (q + 1 : ℕ) * n * (2 ^ t * 2 ^ f) := by gcongr
      _ = (q + 1 : ℕ) * 2 ^ t * (n * 2 ^ f) := by ring

/-- A quotient is computed with enough bits. -/
lemma div_fits {k : ℕ} {t : ℤ} (hm : 0 < m) (hn : 0 < n)
    (ht : t = min (e - f) (max (m.log2 + e - (n.log2 + f) - 24) (-149))) (hk : t + k = e - f) :
    t ≤ max (((m <<< k) / n).log2 + t - 23) (-149) := by
  rcases le_or_gt t (-149) with hle | hgt
  · omega
  · have hbits : 23 + (n.log2 + 1) ≤ (m <<< k).log2 := by
      rw [Packing.log2_shiftLeft hm]
      omega
    have hlong : 2 ^ 23 ≤ (m <<< k) / n := by
      rw [Nat.le_div_iff_mul_le hn]
      calc 2 ^ 23 * n ≤ 2 ^ 23 * 2 ^ (n.log2 + 1) :=
            Nat.mul_le_mul_left _ (Nat.lt_log2_self).le
        _ = 2 ^ (23 + (n.log2 + 1)) := (pow_add 2 23 (n.log2 + 1)).symm
        _ ≤ m <<< k := (Nat.le_log2 (Nat.shiftLeft_pos_iff.mpr hm).ne').mp hbits
    have hlog : 23 ≤ ((m <<< k) / n).log2 := (Nat.le_log2 (by omega)).mpr hlong
    omega

lemma exists_rounds_div (hm : 0 < m) (hn : 0 < n) :
    ∃ k g, Rounds (size m e / size n f) k g ∧
      (UnpackedFloat.finite .positive m e hm).div Format.binary32 (.finite .positive n f hn) =
        ofParts .positive k g := by
  obtain ⟨t, ht⟩ : ∃ t, t = min (e - f) (max (m.log2 + e - (n.log2 + f) - 24) (-149)) := ⟨_, rfl⟩
  have htarget : min (e - f)
      (Format.binary32.targetExponent (totalExponent m e - totalExponent n f)) = t := by
    show min (e - f) (max ((m.log2 : ℤ) + 1 + e - (n.log2 + 1 + f) - (24 : ℕ)) (-149)) = t
    omega
  obtain ⟨k, hk⟩ : ∃ k, k = (e - f - t).toNat := ⟨_, rfl⟩
  have hsum : t + k = e - f := by omega
  simp only [UnpackedFloat.div, divCore, htarget, ← hk]
  exact exists_rounds _ (truncates_div hn hsum rfl) (div_fits hm hn ht hsum)

/-- The whole part of a root leaves out less than one. -/
lemma truncates_sqrt {root k : ℕ} {t : ℤ} {accuracy : Accuracy} (hk : 2 * t + k = e)
    (hroot : root = Nat.sqrt (m <<< k)) :
    Truncates (ExtendedMantissa.ofMantissaAndAccuracy root accuracy) t √(size m e) := by
  have hsize : size m e = (m <<< k : ℕ) * (2 ^ t) ^ 2 := by
    have hsq : ((2 : ℝ) ^ t) ^ 2 = 2 ^ (2 * t) := by rw [two_mul, zpow_add₀ two_ne_zero, sq]
    rw [hsq, ← size_eq, Nat.shiftLeft_eq, size_mul_two_pow, hk]
  constructor
  · rw [mantissa_ofMantissaAndAccuracy, hsize]
    refine Real.le_sqrt_of_sq_le ?_
    have hle : (root : ℝ) ^ 2 ≤ (m <<< k : ℕ) := by
      rw [hroot]
      exact_mod_cast Nat.sqrt_le' _
    rw [size_eq, mul_pow]
    gcongr
  · rw [mantissa_ofMantissaAndAccuracy, hsize, Real.sqrt_lt' (size_pos (Nat.succ_pos _) _)]
    have hlt : ((m <<< k : ℕ) : ℝ) < (root + 1 : ℕ) ^ 2 := by
      rw [hroot]
      exact_mod_cast Nat.lt_succ_sqrt' _
    rw [size_eq, mul_pow]
    gcongr

/-- A root is computed with enough bits. -/
lemma sqrt_fits {k : ℕ} {t : ℤ} (hm : 0 < m)
    (ht : t = min (e / 2) (max ((m.log2 + 1 + e + 1) / 2 - 24) (-149)))
    (hk : 2 * t + k = e) : t ≤ max ((Nat.sqrt (m <<< k)).log2 + t - 23) (-149) := by
  rcases le_or_gt t (-149) with hle | hgt
  · omega
  · have hbits : 46 ≤ (m <<< k).log2 := by
      rw [Packing.log2_shiftLeft hm]
      omega
    have hlong : 2 ^ 46 ≤ m <<< k := (Nat.le_log2 (Nat.shiftLeft_pos_iff.mpr hm).ne').mp hbits
    have hroot : 2 ^ 23 ≤ Nat.sqrt (m <<< k) := Nat.le_sqrt'.mpr (le_trans (by norm_num) hlong)
    have hlog : 23 ≤ (Nat.sqrt (m <<< k)).log2 := (Nat.le_log2 (by omega)).mpr hroot
    omega

lemma exists_rounds_sqrt (hm : 0 < m) :
    ∃ k g, Rounds √(size m e) k g ∧
      (UnpackedFloat.finite .positive m e hm).sqrt Format.binary32 = ofParts .positive k g := by
  obtain ⟨t, ht⟩ : ∃ t, t = min (e / 2) (max ((m.log2 + 1 + e + 1) / 2 - 24) (-149)) := ⟨_, rfl⟩
  have htarget : min (e.ediv 2)
      (Format.binary32.targetExponent ((totalExponent m e + 1).ediv 2)) = t := ht.symm
  obtain ⟨k, hk⟩ : ∃ k, k = (e - 2 * t).toNat := ⟨_, rfl⟩
  have hsum : 2 * t + k = e := by omega
  simp only [UnpackedFloat.sqrt, sqrtCore, htarget, ← hk]
  exact exists_rounds _ (truncates_sqrt hsum rfl) (sqrt_fits hm ht hsum)

end Single

end FreeSurface

import FreeSurface.Proofs.Number.Least
import FreeSurface.Proofs.Number.Rounding

/-!
# Bounds on singles

Sums, products, quotients and roots of positive singles keep the bounds that the exact results have,
as far as these bounds are numbers of the format or, from above, powers of two.  None of them ends in
a value that is no number.

* `Single.AtLeast` — infinity, or a number that is at least a bound.
* `Single.AtMost` — plus zero, or a positive finite number that is at most a bound.
-/

namespace FreeSurface

open Float.Model Float.Model.UnpackedFloat
open scoped Literals

namespace Single

/-- A number that some finite single has. -/
def InFormat (p : ℝ) : Prop := ∃ m e, Canonical m e ∧ p = size m e

/-- Infinity, or a number of the format that is at least a bound.  For a bound that is not positive,
zeros of both signs count. -/
inductive AtLeast (c : ℝ) : UnpackedFloat → Prop
  | infinity : AtLeast c (.infinity .positive)
  | zero (s : Sign) (h : c ≤ 0) : AtLeast c (.zero s)
  | finite {m : ℕ} {e : ℤ} (hm : 0 < m) (hcanonical : Canonical m e) (h : c ≤ size m e) :
      AtLeast c (.finite .positive m e hm)

/-- Plus zero, or a positive finite number of the format that is at most a bound. -/
inductive AtMost (c : ℝ) : UnpackedFloat → Prop
  | zero (h : 0 ≤ c) : AtMost c (.zero .positive)
  | finite {m : ℕ} {e : ℤ} (hm : 0 < m) (hcanonical : Canonical m e) (h : size m e ≤ c) :
      AtMost c (.finite .positive m e hm)

variable {m n : ℕ} {e f j : ℤ} {c d p : ℝ} {u v : UnpackedFloat} {x y : Float32}

lemma inFormat_zero : InFormat 0 := ⟨0, -149, canonical_zero, (size_zero _).symm⟩

lemma inFormat_one : InFormat 1 :=
  ⟨2 ^ 23, -23, ⟨by norm_num, by norm_num, .inr le_rfl⟩, by rw [size_two_pow]; norm_num⟩

lemma AtLeast.mono (h : AtLeast c u) (hle : d ≤ c) : AtLeast d u := by
  cases h with
  | infinity => exact .infinity
  | zero s h => exact .zero s (hle.trans h)
  | finite hm hcanonical h => exact .finite hm hcanonical (hle.trans h)

lemma AtLeast.isNaN (h : AtLeast c (value x)) : Scalar.isNaN x = false := by
  show (value x).isNaN = false
  generalize value x = u at h
  cases h <;> rfl

lemma AtLeast.pos (h : AtLeast c (value x)) (hc : 0 < c) : 0 < x := by
  rw [lt_iff, value_zero]
  generalize value x = u at h
  cases h with
  | infinity => rfl
  | zero s h => exact absurd h (not_le.mpr hc)
  | finite => rfl

lemma AtLeast.ne_zero (h : AtLeast c u) (hc : 0 < c) (s : Sign) : u ≠ .zero s := by
  rintro rfl
  cases h with
  | zero _ h => exact absurd h (not_le.mpr hc)

lemma atLeast_zero_of_le (h : 0 ≤ x) : AtLeast 0 (value x) := by
  rw [le_iff, value_zero] at h
  have hcanonical : ∀ {s m e hm}, value x = .finite s m e hm → Canonical m e := canonical_value
  generalize value x = u at h hcanonical
  rcases u with (_ | _) | _ | s | ⟨_ | _, m, e, hm⟩
  · exact absurd h Bool.false_ne_true
  · exact .infinity
  · exact absurd h Bool.false_ne_true
  · exact .zero s le_rfl
  · exact absurd h Bool.false_ne_true
  · exact .finite hm (hcanonical rfl) (size_nonneg m e)

/-- Of two numbers of the format the one with the larger exponent is the larger one. -/
lemma size_le_size_of_place (hm : Canonical m e) (hn : Canonical n f)
    (h : e < f ∨ e = f ∧ m ≤ n) : size m e ≤ size n f := by
  rcases h with hlt | ⟨rfl, hle⟩
  · have hfull : 2 ^ 23 ≤ n := hn.normal.resolve_left fun heq => by
      have := hm.exponent_ge
      omega
    calc size m e ≤ 2 ^ (e + (24 : ℕ)) := (size_lt_of_lt hm.lt e).le
      _ ≤ 2 ^ (f + (23 : ℕ)) := zpow_le_zpow_right₀ one_le_two (by push_cast; omega)
      _ ≤ size n f := le_size_of_le hfull f
  · exact size_le_size hle e

/-- What is not below a number that is at least a bound is at least the bound too. -/
lemma AtLeast.trans_le (h : AtLeast c (value x)) (hle : x ≤ y) : AtLeast c (value y) := by
  have hcanonical : ∀ {s m e hm}, value y = .finite s m e hm → Canonical m e := canonical_value
  rw [le_iff, isLE_compare_iff] at hle
  obtain ⟨-, hnumber, hplace⟩ := hle
  generalize value x = u at h hplace
  generalize value y = v at hcanonical hplace hnumber ⊢
  rcases v with (_ | _) | _ | t | ⟨_ | _, n, f, hn⟩
  · cases h <;> simp [place, Prod.Lex.toLex_le_toLex] at hplace
  · exact .infinity
  · exact absurd hnumber (by decide)
  · cases h with
    | zero s h => exact .zero t h
    | infinity => simp [place, Prod.Lex.toLex_le_toLex] at hplace
    | finite => simp [place, Prod.Lex.toLex_le_toLex] at hplace
  · cases h <;> simp [place, Prod.Lex.toLex_le_toLex] at hplace
  · refine .finite hn (hcanonical rfl) ?_
    cases h with
    | infinity => simp [place, Prod.Lex.toLex_le_toLex] at hplace
    | zero s h => exact h.trans (size_nonneg n f)
    | finite hm hcanonical' h =>
      simp only [place, Prod.Lex.toLex_le_toLex, lt_irrefl, false_or, true_and] at hplace
      exact h.trans (size_le_size_of_place hcanonical' (hcanonical rfl) (by simpa using hplace))

/-! ## Packing -/

lemma unpack_pack_infinity (s : Sign) :
    UnpackedFloat.unpack Format.binary32 (UnpackedFloat.pack Format.binary32 (.infinity s)) =
      .infinity s := by
  cases s <;> rfl

lemma unpack_pack_zero (s : Sign) :
    UnpackedFloat.unpack Format.binary32 (UnpackedFloat.pack Format.binary32 (.zero s)) =
      .zero s := by
  cases s <;> rfl

lemma AtLeast.packed (h : AtLeast c u) :
    AtLeast c (UnpackedFloat.unpack Format.binary32 (UnpackedFloat.pack Format.binary32 u)) := by
  cases h with
  | infinity =>
      rw [unpack_pack_infinity]
      exact .infinity
  | zero s h =>
      rw [unpack_pack_zero]
      exact .zero s h
  | finite hm hcanonical h =>
      rw [unpack_pack hm hcanonical]
      split_ifs
      · exact .finite hm hcanonical h
      · exact .infinity

lemma AtMost.packed (h : AtMost (2 ^ j) u) (hj : j ≤ 127) : AtMost (2 ^ j)
    (UnpackedFloat.unpack Format.binary32 (UnpackedFloat.pack Format.binary32 u)) := by
  cases h with
  | zero h =>
      rw [unpack_pack_zero]
      exact .zero h
  | @finite m e hm hcanonical h =>
      rw [unpack_pack hm hcanonical]
      split_ifs with hsmall
      · exact .finite hm hcanonical h
      · -- What is packed as infinity is larger than any power of two that is not.
        have hfull : 2 ^ 23 ≤ m := hcanonical.normal.resolve_left (by omega)
        have hlt : (2 : ℝ) ^ j < 2 ^ (e + (23 : ℕ)) :=
          zpow_lt_zpow_right₀ one_lt_two (by push_cast; omega)
        exact absurd (hlt.trans_le (le_size_of_le hfull e)) (not_lt.mpr h)

lemma Rounds.atLeast {r : ℝ} (h : Rounds r m e) (hp : InFormat p) (hle : p ≤ r) :
    AtLeast p (ofParts .positive m e) := by
  obtain ⟨n, f, hnf, rfl⟩ := hp
  have hsize := h.ge hnf hle
  rw [ofParts]
  split_ifs with hzero
  · rw [hzero, size_zero] at hsize
    exact .zero _ hsize
  · exact .finite _ h.canonical hsize

lemma Rounds.atMost {r : ℝ} (h : Rounds r m e) (hlt : r < 2 ^ j) (hj : -149 ≤ j) :
    AtMost (2 ^ j) (ofParts .positive m e) := by
  rw [ofParts]
  split_ifs with hzero
  · exact .zero (zpow_pos two_pos j).le
  · exact .finite _ h.canonical (h.le hj hlt)

/-! ## Operations -/

/-- A sum is at least a number of the format that the exact sum is at least. -/
lemma AtLeast.add (hx : AtLeast c (value x)) (hy : AtLeast d (value y)) (hp : InFormat p)
    (hle : p ≤ c + d) : AtLeast p (value (x + y)) := by
  rw [value_add]
  generalize value x = u at hx
  generalize value y = v at hy
  refine AtLeast.packed ?_
  cases hx with
  | infinity => cases hy <;> exact .infinity
  | zero s hc =>
    cases hy with
    | infinity => exact .infinity
    | zero t hd => cases s <;> cases t <;> exact .zero _ (hle.trans (add_nonpos hc hd))
    | finite hn hcanonical hd => exact .finite hn hcanonical (by linarith)
  | finite hm hcanonical hc =>
    cases hy with
    | infinity => exact .infinity
    | zero t hd => exact .finite hm hcanonical (by linarith)
    | finite hn _ hd =>
      obtain ⟨k, g, hrounds, hadd⟩ := exists_rounds_add hm hn
      rw [hadd]
      exact hrounds.atLeast hp (hle.trans (add_le_add hc hd))

lemma AtMost.add (hx : AtMost c (value x)) (hy : AtMost d (value y)) (hlt : c + d < 2 ^ j)
    (hlo : -149 ≤ j) (hhi : j ≤ 127) : AtMost (2 ^ j) (value (x + y)) := by
  rw [value_add]
  generalize value x = u at hx
  generalize value y = v at hy
  refine AtMost.packed ?_ hhi
  cases hx with
  | zero hc =>
    cases hy with
    | zero hd => exact .zero ((add_nonneg hc hd).trans hlt.le)
    | finite hn hcanonical hd => exact .finite hn hcanonical (by linarith)
  | @finite m e hm hcanonical hc =>
    cases hy with
    | zero hd => exact .finite hm hcanonical (by linarith)
    | finite hn _ hd =>
      obtain ⟨k, g, hrounds, hadd⟩ := exists_rounds_add hm hn
      rw [hadd]
      exact hrounds.atMost ((add_le_add hc hd).trans_lt hlt) hlo

lemma AtLeast.mul (hx : AtLeast c (value x)) (hy : AtLeast d (value y)) (hc : 0 < c) (hd : 0 < d)
    (hp : InFormat p) (hle : p ≤ c * d) : AtLeast p (value (x * y)) := by
  rw [value_mul]
  generalize value x = u at hx
  generalize value y = v at hy
  refine AtLeast.packed ?_
  cases hx with
  | zero s hc' => exact absurd hc' (not_le.mpr hc)
  | infinity =>
    cases hy with
    | zero s hd' => exact absurd hd' (not_le.mpr hd)
    | infinity => exact .infinity
    | finite => exact .infinity
  | finite hm hme hmc =>
    cases hy with
    | zero s hd' => exact absurd hd' (not_le.mpr hd)
    | infinity => exact .infinity
    | finite hn hnf hnd =>
      obtain ⟨k, g, hrounds, hmul⟩ := exists_rounds_mul .positive .positive hm hn hme hnf
      rw [hmul]
      exact hrounds.atLeast hp (hle.trans (mul_le_mul hmc hnd hd.le (size_nonneg _ _)))

/-- A quotient is at least a number of the format whose product with the divisor is not above the
dividend. -/
lemma AtLeast.div (hx : AtLeast c (value x)) (hy : AtMost d (value y)) (hc : 0 < c)
    (hp : InFormat p) (hle : p * d ≤ c) : AtLeast p (value (x / y)) := by
  rw [value_div]
  generalize value x = u at hx
  generalize value y = v at hy
  refine AtLeast.packed ?_
  cases hx with
  | zero s hc' => exact absurd hc' (not_le.mpr hc)
  | infinity => cases hy <;> exact .infinity
  | finite hm _ hmc =>
    cases hy with
    | zero => exact .infinity
    | @finite n f hn _ hnd =>
      obtain ⟨k, g, hrounds, hdiv⟩ := exists_rounds_div hm hn
      rw [hdiv]
      refine hrounds.atLeast hp ((le_div_iff₀ (size_pos hn f)).mpr ?_)
      have hp0 : 0 ≤ p := by
        obtain ⟨k, g, -, rfl⟩ := hp
        exact size_nonneg k g
      exact (mul_le_mul_of_nonneg_left hnd hp0).trans (hle.trans hmc)

lemma AtMost.div (hx : AtMost c (value x)) (hy : AtLeast d (value y)) (hd : 0 < d)
    (hlt : c / d < 2 ^ j) (hlo : -149 ≤ j) (hhi : j ≤ 127) : AtMost (2 ^ j) (value (x / y)) := by
  have hj : (0 : ℝ) ≤ 2 ^ j := (zpow_pos two_pos j).le
  rw [value_div]
  generalize value x = u at hx
  generalize value y = v at hy
  refine AtMost.packed ?_ hhi
  cases hy with
  | zero s hd' => exact absurd hd' (not_le.mpr hd)
  | infinity => cases hx <;> exact .zero hj
  | finite hn _ hnd =>
    cases hx with
    | zero => exact .zero hj
    | @finite m e hm _ hmc =>
      obtain ⟨k, g, hrounds, hdiv⟩ := exists_rounds_div hm hn
      rw [hdiv]
      refine hrounds.atMost (lt_of_le_of_lt ?_ hlt) hlo
      exact div_le_div₀ ((size_nonneg m e).trans hmc) hmc hd hnd

lemma AtLeast.sqrt (hx : AtLeast 0 (value x)) : AtLeast 0 (value (Scalar.sqrt x)) := by
  rw [value_sqrt]
  generalize value x = u at hx
  refine AtLeast.packed ?_
  cases hx with
  | infinity => exact .infinity
  | zero s => exact .zero s le_rfl
  | finite hm =>
    obtain ⟨k, g, hrounds, hsqrt⟩ := exists_rounds_sqrt hm
    rw [hsqrt]
    exact hrounds.atLeast inFormat_zero (Real.sqrt_nonneg _)

lemma AtMost.sqrt (hx : AtMost c (value x)) (hlt : c < (2 ^ j) ^ 2) (hlo : -149 ≤ j)
    (hhi : j ≤ 127) : AtMost (2 ^ j) (value (Scalar.sqrt x)) := by
  have hj : (0 : ℝ) < 2 ^ j := zpow_pos two_pos j
  rw [value_sqrt]
  generalize value x = u at hx
  refine AtMost.packed ?_ hhi
  cases hx with
  | zero => exact .zero hj.le
  | finite hm _ hc =>
    obtain ⟨k, g, hrounds, hsqrt⟩ := exists_rounds_sqrt hm
    rw [hsqrt]
    exact hrounds.atMost ((Real.sqrt_lt' hj).mpr (hc.trans_lt hlt)) hlo

/-- A positive factor leaves infinity and zero what they are. -/
lemma AtLeast.finite_mul {hm : 0 < m} (hx : value x = .finite .positive m e hm)
    (hy : AtLeast 0 (value y)) : AtLeast 0 (value (x * y)) := by
  have hme := canonical_value hx
  rw [value_mul, hx]
  generalize value y = v at hy
  refine AtLeast.packed ?_
  cases hy with
  | infinity => exact .infinity
  | zero s => exact .zero _ le_rfl
  | finite hn hnf =>
    obtain ⟨k, g, hrounds, hmul⟩ := exists_rounds_mul .positive .positive hm hn hme hnf
    rw [hmul]
    exact hrounds.atLeast inFormat_zero (mul_nonneg (size_nonneg _ _) (size_nonneg _ _))

/-! ## Whole numbers -/

lemma size_natCast (k : ℕ) : size k 0 = k := by rw [size_eq, zpow_zero, mul_one]

lemma exists_rounds_ofNat {k : ℕ} (hk : 0 < k) :
    ∃ m e, Rounds k m e ∧ UnpackedFloat.ofNat Format.binary32 k = ofParts .positive m e := by
  obtain ⟨m, e, hrounds, hround⟩ := exists_rounds_round hk .positive 0
  rw [size_natCast] at hrounds
  refine ⟨m, e, hrounds, ?_⟩
  rw [Packing.ofNat_eq Format.binary32 hk, hround]

lemma exists_rounds_ofScientific {k : ℕ} (hk : 0 < k) :
    ∃ m e, Rounds k m e ∧
      UnpackedFloat.ofScientific Format.binary32 k 0 = ofParts .positive m e := by
  have hsize : size (k <<< 24) (0 - (24 : ℕ)) = k := by rw [size_shiftLeft, size_natCast]
  have htruncates := truncates_size (k <<< 24) (0 - (24 : ℕ))
  rw [hsize] at htruncates
  have hlog := Packing.log2_shiftLeft hk 24
  obtain ⟨m, e, hrounds, hround⟩ := exists_rounds .positive htruncates (by omega)
  refine ⟨m, e, hrounds, ?_⟩
  rw [Packing.ofScientific_eq Format.binary32 hk, ← hround]
  rfl

/-- Rounding a natural number does not fall below a number of the format. -/
lemma atLeast_ofNat {k : ℕ} (hp : InFormat p) (hle : p ≤ k) :
    AtLeast p (value (Scalar.ofNat k)) := by
  rcases Nat.eq_zero_or_pos k with rfl | hk
  · exact .zero .positive (by simpa using hle)
  show AtLeast p (value (if k < UInt64.size then k.toUInt64.toFloat32
    else Float32.ofScientific k false 0))
  split_ifs with hsmall
  · have hword : k.toUInt64.toNat = k := Nat.mod_eq_of_lt hsmall
    have hvalue : value k.toUInt64.toFloat32 = UnpackedFloat.unpack Format.binary32
        (UnpackedFloat.pack Format.binary32
          (UnpackedFloat.ofNat Format.binary32 k.toUInt64.toNat)) := rfl
    obtain ⟨m, e, hrounds, hround⟩ := exists_rounds_ofNat hk
    rw [hvalue, hword, hround]
    exact (hrounds.atLeast hp hle).packed
  · have hlarge : ¬(k < 2 ^ 23 ∧ 0 ≤ 10) := fun h => hsmall (h.1.trans (by decide))
    have hvalue : value (Float32.ofScientific k false 0) = UnpackedFloat.unpack Format.binary32
        (UnpackedFloat.pack Format.binary32 (UnpackedFloat.ofScientific Format.binary32 k 0)) := by
      rw [Float32.ofScientific, dif_neg hlarge]
      rfl
    obtain ⟨m, e, hrounds, hround⟩ := exists_rounds_ofScientific hk
    rw [hvalue, hround]
    exact (hrounds.atLeast hp hle).packed

/-- Half a natural number is a number. -/
lemma isNaN_half_mul_ofNat (k : ℕ) : Scalar.isNaN (Scalar.half * Scalar.ofNat k : Float32) = false :=
  have hhalf : value Scalar.half = .finite .positive (2 ^ 23) (-24) (by norm_num) := rfl
  (AtLeast.finite_mul hhalf (atLeast_ofNat inFormat_zero k.cast_nonneg)).isNaN

end Single

end FreeSurface

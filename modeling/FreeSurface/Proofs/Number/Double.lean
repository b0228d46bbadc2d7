import FreeSurface.Number.Machine
import FreeSurface.Proofs.Number.Packing

/-!
# Double precision

Laws of doubles that hold of every bit pattern, infinities, zeros and values that are no number
among them.  They are read off the values that the bits stand for, on which the library's model of
doubles computes: a sign, a significand and an exponent, rounded and packed again after each
operation.

* `Double.value` — what the bits of a double stand for; `Double.lt_iff`, `Double.le_iff`,
  `Double.pos_iff` say when doubles compare.
* `Double.le_of_not_lt`, `Double.pos_of_pos_of_le`, `Double.lt_of_not_pos` — the order is total
  apart from values that are no number.
* `Double.Canonical` — the significands and exponents the format has; `Double.unpack_pack` reads
  them back, and every value of a double has them (`Double.canonical_value`).
* `Double.roundWithAccuracy_atMost` — **rounding does not get past a number of the format**, so that
  a hundredth of a positive double is not larger than it (`Double.mul_hundredth_le`).
* `Double.isNaN_div` — a finite double divided by a positive finite one is a number.
-/

namespace FreeSurface

open Float.Model Float.Model.UnpackedFloat
open scoped Literals

namespace Double

/-- What the bits of a double stand for. -/
def value (x : Float) : UnpackedFloat := x.toModel.unpack

lemma value_zero : value 0 = .zero .positive := rfl

lemma isNaN_eq (x : Float) : Scalar.isNaN x = (value x).isNaN := rfl

lemma isFinite_eq (x : Float) : Scalar.isFinite x = (value x).isFinite := rfl

/-! ## Order -/

lemma lt_iff {x y : Float} : x < y ↔ (value x).compare (value y) = some .lt := by
  show decide ((value x).lt (value y) = true) = true ↔ _
  rw [decide_eq_true_iff, UnpackedFloat.lt, beq_iff_eq]

lemma le_iff {x y : Float} : x ≤ y ↔ ((value x).compare (value y)).any (·.isLE) = true := by
  show decide ((value x).le (value y) = true) = true ↔ _
  rw [decide_eq_true_iff, UnpackedFloat.le]

lemma compare_swap (a b : UnpackedFloat) : (a.compare b).map Ordering.swap = b.compare a := by
  rcases a with (_ | _) | _ | (_ | _) | ⟨_ | _, m, e, hm⟩ <;>
    rcases b with (_ | _) | _ | (_ | _) | ⟨_ | _, n, f, hn⟩ <;>
    first
    | rfl
    | simp only [UnpackedFloat.compare, Option.map_some, Ordering.swap_then, Int.compare_swap,
        Nat.compare_swap]

lemma compare_ne_none {a b : UnpackedFloat} (ha : a.isNaN = false) (hb : b.isNaN = false) :
    a.compare b ≠ none := by
  rcases a with (_ | _) | _ | s | ⟨_ | _, m, e, hm⟩ <;>
    rcases b with (_ | _) | _ | t | ⟨_ | _, n, f, hn⟩ <;>
    first
    | exact Option.some_ne_none _
    | exact (Bool.false_ne_true ha.symm).elim
    | exact (Bool.false_ne_true hb.symm).elim

lemma isLE_compare {a b : UnpackedFloat} (ha : a.isNaN = false) (hb : b.isNaN = false)
    (h : b.compare a ≠ some .lt) : (a.compare b).any (·.isLE) = true := by
  rw [← compare_swap]
  cases ho : b.compare a with
  | none => exact absurd ho (compare_ne_none hb ha)
  | some o =>
      cases o with
      | lt => exact absurd ho h
      | eq => rfl
      | gt => rfl

lemma le_of_not_lt {x y : Float} (hx : Scalar.isNaN x = false) (hy : Scalar.isNaN y = false)
    (h : ¬y < x) : x ≤ y :=
  le_iff.mpr (isLE_compare hx hy fun hlt => h (lt_iff.mpr hlt))

/-- A finite value is a number. -/
lemma isNaN_of_isFinite_value {a : UnpackedFloat} (h : a.isFinite = true) : a.isNaN = false := by
  rcases a with s | _ | s | ⟨s, m, e, hm⟩
  · rfl
  · exact h.symm
  · rfl
  · rfl

lemma isNaN_of_isFinite {x : Float} (h : Scalar.isFinite x = true) : Scalar.isNaN x = false := by
  rw [isFinite_eq] at h
  rw [isNaN_eq]
  exact isNaN_of_isFinite_value h

/-- What is below something is a number. -/
lemma isNaN_of_lt {x y : Float} (h : x < y) : Scalar.isNaN x = false := by
  rw [lt_iff] at h
  rw [isNaN_eq]
  generalize value x = a at h ⊢
  rcases a with s | _ | s | ⟨s, m, e, hm⟩
  · rfl
  · exact (Option.some_ne_none _ h.symm).elim
  · rfl
  · rfl

lemma le_of_lt {x y : Float} (h : x < y) : x ≤ y := by
  rw [le_iff, lt_iff.mp h]
  rfl

lemma not_le_of_lt {x y : Float} (h : x < y) : ¬y ≤ x := by
  rw [le_iff, ← compare_swap, lt_iff.mp h]
  exact Bool.false_ne_true

/-- What is not at most zero, but a number, is positive. -/
lemma pos_of_not_le_zero {x : Float} (hx : Scalar.isFinite x = true) (h : ¬x ≤ 0) : 0 < x := by
  by_contra hnot
  exact h (le_of_not_lt (isNaN_of_isFinite hx) rfl hnot)

/-- A value above zero. -/
def IsPositive : UnpackedFloat → Prop
  | .infinity .positive | .finite .positive .. => True
  | _ => False

lemma pos_iff {x : Float} : 0 < x ↔ IsPositive (value x) := by
  rw [lt_iff, value_zero]
  rcases value x with (_ | _) | _ | s | ⟨_ | _, m, e, hm⟩ <;>
    simp [UnpackedFloat.compare, IsPositive]

/-- What is positive is a number. -/
lemma isNaN_of_pos {x : Float} (h : 0 < x) : Scalar.isNaN x = false := by
  rw [pos_iff] at h
  rw [isNaN_eq]
  generalize value x = a at h ⊢
  rcases a with s | _ | s | ⟨s, m, e, hm⟩
  · rfl
  · exact h.elim
  · rfl
  · rfl

lemma pos_of_pos_of_le {x y : Float} (hx : 0 < x) (h : x ≤ y) : 0 < y := by
  rw [pos_iff] at hx ⊢
  rw [le_iff] at h
  generalize value x = a at hx h
  generalize value y = b at h ⊢
  rcases a with (_ | _) | _ | s | ⟨_ | _, m, e, hm⟩ <;>
    rcases b with (_ | _) | _ | t | ⟨_ | _, n, f, hn⟩ <;>
    trivial

/-- A number that is not positive is below every positive one. -/
lemma lt_of_not_pos {x y : Float} (hx : Scalar.isNaN x = false) (hnot : ¬0 < x) (hy : 0 < y) :
    x < y := by
  rw [pos_iff] at hnot hy
  rw [isNaN_eq] at hx
  rw [lt_iff]
  generalize value x = a at hx hnot ⊢
  generalize value y = b at hy ⊢
  rcases a with (_ | _) | _ | s | ⟨_ | _, m, e, hm⟩ <;>
    rcases b with (_ | _) | _ | t | ⟨_ | _, n, f, hn⟩ <;>
    first
    | rfl
    | exact hy.elim
    | exact absurd trivial hnot
    | exact (Bool.false_ne_true hx.symm).elim

/-! ## Packing -/

/-- A significand and an exponent as the format writes them. -/
structure Canonical (m : ℕ) (e : ℤ) : Prop where
  lt : m < 2 ^ 53
  exponent_ge : -1074 ≤ e
  exponent_le : e ≤ 971
  normal : e = -1074 ∨ 2 ^ 52 ≤ m

lemma Canonical.packed {m : ℕ} {e : ℤ} (h : Canonical m e) :
    Packing.Canonical Format.binary64 m e := ⟨h.lt, h.exponent_ge, h.normal⟩

lemma canonical_unpack (b : BitVec 64) {s : Sign} {m : ℕ} {e : ℤ} {hm : 0 < m}
    (h : UnpackedFloat.unpack Format.binary64 b = .finite s m e hm) : Canonical m e := by
  obtain ⟨hcanonical, hsmall⟩ := Packing.canonical_unpack Format.binary64 (by decide) h
  have hle : e + (1023 : ℕ) + (52 : ℕ) + 1 < (2 ^ 11 : ℕ) := hsmall
  exact ⟨hcanonical.lt, hcanonical.exponent_ge, by omega, hcanonical.normal⟩

lemma unpack_pack {s : Sign} {m : ℕ} {e : ℤ} (hm : 0 < m) (h : Canonical m e) :
    UnpackedFloat.unpack Format.binary64 (UnpackedFloat.pack Format.binary64 (.finite s m e hm)) =
      .finite s m e hm := by
  rw [Packing.unpack_pack hm h.packed, if_pos]
  show e + (1023 : ℕ) + (52 : ℕ) + 1 < (2 ^ 11 : ℕ)
  have := h.exponent_le
  omega

/-! ## Rounding -/

/-- The exponent at which a number is written. -/
lemma targetExponent_eq (M : ℕ) (E : ℤ) :
    Format.binary64.targetExponent (totalExponent M E) = max (M.log2 + E - 52) (-1074) :=
  Packing.targetExponent_eq Format.binary64 M E

lemma shiftToTargetExponent_of_lt {R : ℕ} {t : ℤ} (hR : R < 2 ^ 53) (ht : -1074 ≤ t) :
    shiftToTargetExponent Format.binary64 R t .exact =
      (ExtendedMantissa.ofMantissaAndAccuracy R .exact, t) :=
  Packing.shiftToTargetExponent_of_lt Format.binary64 hR ht

lemma shiftToTargetExponent_overflow {t : ℤ} (ht : -1074 ≤ t) :
    shiftToTargetExponent Format.binary64 (2 ^ 53) t .exact = (⟨2 ^ 52, false, false⟩, t + 1) :=
  Packing.shiftToTargetExponent_overflow Format.binary64 ht

/-- A value that is no number, zero, or one written as the format does, not above `m * 2 ^ e`. -/
def AtMost (m : ℕ) (e : ℤ) : UnpackedFloat → Prop
  | .zero _ => True
  | .finite .positive m' e' _ => Canonical m' e' ∧ (e' < e ∨ e' = e ∧ m' ≤ m)
  | _ => False

/-- The first of the two shifts of a rounding, and the bounds on the significand it rounds to. -/
lemma exists_rounded {M m k : ℕ} {E e : ℤ} (hM : 0 < M) (hcanonical : Canonical m e)
    (hE : E = e - k) (hle : M ≤ m * 2 ^ k) (hwide : e = -1074 ∨ 2 ^ 52 ≤ M) :
    ∃ (em : ExtendedMantissa) (t : ℤ) (j : ℕ),
      shiftToTargetExponent Format.binary64 M E .exact = (em, t) ∧ -1074 ≤ t ∧ t + j = e ∧
      em.roundedMantissa ≤ m * 2 ^ j ∧ em.roundedMantissa ≤ 2 ^ 53 ∧
      (t = -1074 ∨ 2 ^ 52 ≤ em.roundedMantissa) := by
  obtain ⟨hlt, hge, -, -⟩ := hcanonical
  have hlog : M.log2 < 53 + k := (Nat.log2_lt hM.ne').mpr (by
    rw [pow_add]
    exact hle.trans_lt (Nat.mul_lt_mul_of_pos_right hlt (by positivity)))
  have hwide' : e = -1074 ∨ 52 ≤ M.log2 := hwide.imp_right (Nat.le_log2 hM.ne').mpr
  obtain ⟨t, ht⟩ : ∃ t, t = max (M.log2 + E - 52) (-1074) := ⟨_, rfl⟩
  obtain ⟨a, ha⟩ : ∃ a : ℕ, t - E = a := Int.eq_ofNat_of_zero_le (by omega)
  obtain ⟨j, rfl⟩ : ∃ j, k = j + a := Nat.exists_eq_add_of_le' (by omega)
  refine ⟨ExtendedMantissa.ofMantissaAndAccuracy M .exact >>> a, t, j, ?_, by omega, by omega,
    Packing.roundedMantissa_shiftRight_le ?_, Packing.roundedMantissa_shiftRight_le ?_, ?_⟩
  · rw [shiftToTargetExponent, targetExponent_eq, shiftToExponent, ← ht, ha, Int.toNat_natCast]
    exact congrArg _ (by omega)
  · rwa [mul_assoc, ← pow_add]
  · rw [← pow_add]
    exact ((Nat.log2_lt hM.ne').mp (by omega)).le
  · refine or_iff_not_imp_left.mpr fun hnot => ?_
    have hbits : 52 + a ≤ M.log2 := by omega
    refine le_trans ?_ (Packing.le_roundedMantissa _)
    rw [(Packing.shiftRight_spec M a).1, Nat.le_div_iff_mul_le (by positivity), ← pow_add]
    exact (Nat.le_log2 hM.ne').mp hbits

/-- **Rounding does not get past a number of the format.** -/
lemma roundWithAccuracy_atMost {M m k : ℕ} {E e : ℤ} (hM : 0 < M) (hcanonical : Canonical m e)
    (hE : E = e - k) (hle : M ≤ m * 2 ^ k) (hwide : e = -1074 ∨ 2 ^ 52 ≤ M) :
    AtMost m e (roundWithAccuracy Format.binary64 .positive M E .exact) := by
  obtain ⟨em, t, j, hfirst, hge, hj, hN, h53, hnormal⟩ := exists_rounded hM hcanonical hE hle hwide
  have hle := hcanonical.exponent_le
  rw [roundWithAccuracy]
  simp only [hfirst]
  rcases h53.lt_or_eq with hlt | heq
  · simp only [shiftToTargetExponent_of_lt hlt hge]
    split_ifs with hzero
    · trivial
    · refine ⟨⟨hlt, hge, by omega, hnormal⟩, ?_⟩
      rcases Nat.eq_zero_or_pos j with rfl | hpos
      · rw [pow_zero, mul_one] at hN
        exact .inr ⟨by omega, hN⟩
      · exact .inl (by omega)
  · simp only [heq, shiftToTargetExponent_overflow hge]
    rw [heq] at hN
    rw [dif_neg (by norm_num)]
    -- The bound is a longer number, so it stands at a larger exponent.
    have hpos : 0 < j := by
      refine Nat.pos_of_ne_zero ?_
      rintro rfl
      have := hcanonical.lt
      omega
    refine ⟨⟨by norm_num, by omega, by omega, .inr le_rfl⟩, ?_⟩
    rcases (Nat.succ_le_of_lt hpos).eq_or_lt with rfl | hlong
    · exact .inr ⟨by omega, by omega⟩
    · exact .inl (by omega)

lemma compare_of_atMost {m : ℕ} {e : ℤ} {u : UnpackedFloat} (hm : 0 < m) (h : AtMost m e u) :
    (u.compare (.finite .positive m e hm)).any (·.isLE) = true := by
  rcases u with s | _ | s | ⟨_ | _, m', e', hm'⟩
  · exact h.elim
  · exact h.elim
  · cases s <;> rfl
  · exact h.elim
  · obtain ⟨-, hlt | ⟨rfl, hle⟩⟩ := h
    · simp [UnpackedFloat.compare, compare_lt_iff_lt.mpr hlt]
    · rcases hle.lt_or_eq with hlt | rfl
      · simp [UnpackedFloat.compare, compare_lt_iff_lt.mpr hlt]
      · simp [UnpackedFloat.compare]

/-- What is packed within the format is read back. -/
lemma unpack_pack_of_atMost {m : ℕ} {e : ℤ} {u : UnpackedFloat} (h : AtMost m e u) :
    UnpackedFloat.unpack Format.binary64 (UnpackedFloat.pack Format.binary64 u) = u := by
  rcases u with s | _ | s | ⟨_ | _, m', e', hm'⟩
  · exact h.elim
  · exact h.elim
  · cases s <;> rfl
  · exact h.elim
  · exact unpack_pack hm' h.1

lemma value_mul (x y : Float) :
    value (x * y) = UnpackedFloat.unpack Format.binary64
      (UnpackedFloat.pack Format.binary64 ((value x).mul Format.binary64 (value y))) := rfl

lemma value_div (x y : Float) :
    value (x / y) = UnpackedFloat.unpack Format.binary64
      (UnpackedFloat.pack Format.binary64 ((value x).div Format.binary64 (value y))) := rfl

lemma value_hundredth :
    value (Scalar.ofDecimal 1 2) = .finite .positive 5764607523034235 (-59) (by decide) := rfl

/-! ## Operations -/

lemma canonical_value {x : Float} {s : Sign} {m : ℕ} {e : ℤ} {hm : 0 < m}
    (h : value x = .finite s m e hm) : Canonical m e := canonical_unpack _ h

/-- A positive number below one times a positive number is not larger than the latter. -/
lemma mul_le_of_lt_one {x y : Float} {n : ℕ} {f : ℤ} {hn : 0 < n} (hx : 0 < x)
    (hy : value y = .finite .positive n f hn) (hf : f ≤ -53) : x * y ≤ x := by
  rw [pos_iff] at hx
  rw [le_iff, value_mul, hy]
  generalize hvalue : value x = a at hx ⊢
  rcases a with (_ | _) | _ | s | ⟨_ | _, m, e, hm⟩
  · exact hx.elim
  · rw [show (UnpackedFloat.infinity .positive).mul Format.binary64 (.finite .positive n f hn) =
      .infinity .positive from rfl]
    decide +kernel
  · exact hx.elim
  · exact hx.elim
  · exact hx.elim
  · have hm' := canonical_value hvalue
    have hn' := canonical_value hy
    obtain ⟨k, hk⟩ : ∃ k : ℕ, -f = k := Int.eq_ofNat_of_zero_le (by omega)
    have hn2 : n ≤ 2 ^ k := hn'.lt.le.trans (Nat.pow_le_pow_right (by norm_num) (by omega))
    have hround : AtMost m e
        (roundWithAccuracy Format.binary64 .positive (m * n) (e + f) .exact) :=
      roundWithAccuracy_atMost (Nat.mul_pos hm hn) hm' (by omega) (Nat.mul_le_mul_left m hn2)
        (hm'.normal.imp_right fun hnormal => hnormal.trans (Nat.le_mul_of_pos_right m hn))
    rw [show (UnpackedFloat.finite .positive m e hm).mul Format.binary64 (.finite .positive n f hn) =
      roundWithAccuracy Format.binary64 .positive (m * n) (e + f) .exact from rfl,
      unpack_pack_of_atMost hround]
    exact compare_of_atMost hm hround

/-- A hundredth of a positive number is not larger than the number. -/
lemma mul_hundredth_le {x : Float} (h : 0 < x) : x * Scalar.ofDecimal 1 2 ≤ x :=
  mul_le_of_lt_one h value_hundredth (by norm_num)

/-- A finite number divided by a positive finite one is a number. -/
lemma isNaN_div {x y : Float} (hx : Scalar.isFinite x = true) (hy : Scalar.isFinite y = true)
    (hpos : 0 < y) : Scalar.isNaN (x / y) = false := by
  rw [isFinite_eq] at hx hy
  rw [pos_iff] at hpos
  rw [isNaN_eq, value_div]
  refine Packing.isNaN_unpack_pack ?_
  generalize value x = a at hx ⊢
  generalize value y = b at hy hpos ⊢
  rcases b with t | _ | t | ⟨t, n, f, hn⟩
  · exact (Bool.false_ne_true hy).elim
  · exact (Bool.false_ne_true hy).elim
  · exact hpos.elim
  · rcases a with s | _ | s | ⟨s, m, e, hm⟩
    · exact (Bool.false_ne_true hx).elim
    · exact (Bool.false_ne_true hx).elim
    · rfl
    · exact Packing.isNaN_roundWithAccuracy _ _ _ _ _

/-- A number moved within positive bounds is positive. -/
lemma clamp_pos {x lo hi : Float} (hx : Scalar.isNaN x = false) (hlo : 0 < lo) (hhi : 0 < hi) :
    0 < Scalar.clamp x lo hi := by
  rw [Scalar.clamp]
  split_ifs with hbelow habove habove
  · exact hhi
  · exact hlo
  · exact hhi
  · exact pos_of_pos_of_le hlo (le_of_not_lt (isNaN_of_pos hlo) hx hbelow)

end Double

/-! ## Single precision -/

namespace Single

/-- What the bits of a single stand for. -/
def value (x : Float32) : UnpackedFloat := x.toModel.unpack

lemma lt_iff {x y : Float32} : x < y ↔ (value x).compare (value y) = some .lt := by
  show decide ((value x).lt (value y) = true) = true ↔ _
  rw [decide_eq_true_iff, UnpackedFloat.lt, beq_iff_eq]

lemma le_iff {x y : Float32} : x ≤ y ↔ ((value x).compare (value y)).any (·.isLE) = true := by
  show decide ((value x).le (value y) = true) = true ↔ _
  rw [decide_eq_true_iff, UnpackedFloat.le]

lemma le_of_not_lt {x y : Float32} (hx : Scalar.isNaN x = false) (hy : Scalar.isNaN y = false)
    (h : ¬y < x) : x ≤ y :=
  le_iff.mpr (Double.isLE_compare hx hy fun hlt => h (lt_iff.mpr hlt))

end Single

end FreeSurface

import FreeSurface.Proofs.Number.Double

/-!
# Products that do not vanish

A product of positive doubles can be too small for the format and vanish.  It cannot when the
exponents leave room: rounding never shortens a full significand (`Double.full_roundWithAccuracy`),
so numbers with full significands stay positive as long as no exponent falls below the least one.
Natural numbers are rounded to such numbers (`Double.full_ofNat`), and so nine tenths of one are
positive (`Double.fraction_mul_ofNat_pos`).
-/

namespace FreeSurface

open Float.Model Float.Model.UnpackedFloat

namespace Double

/-- Positive infinity, or a positive number with a significand of full length and an exponent that
is not below `least`. -/
def Full (least : ℤ) : UnpackedFloat → Prop
  | .infinity .positive => True
  | .finite .positive m e _ => 2 ^ 52 ≤ m ∧ m < 2 ^ 53 ∧ least ≤ e
  | _ => False

variable {least : ℤ} {u : UnpackedFloat}

lemma Full.isPositive (h : Full least u) : IsPositive u := by
  rcases u with (_ | _) | _ | s | ⟨_ | _, m, e, hm⟩ <;> trivial

/-- A significand that is long enough is rounded to a full one. -/
lemma full_roundWithAccuracy {M : ℕ} {E : ℤ} (hM : 2 ^ 52 ≤ M) (hleast : -1074 ≤ least)
    (hE : least + 52 ≤ M.log2 + E) :
    Full least (roundWithAccuracy Format.binary64 .positive M E .exact) := by
  have hne : M ≠ 0 := by
    rintro rfl
    exact absurd hM (by norm_num)
  have hlog : 52 ≤ M.log2 := (Nat.le_log2 hne).mpr hM
  obtain ⟨a, ha⟩ : ∃ a, M.log2 = 52 + a := Nat.exists_eq_add_of_le hlog
  have hlower : 2 ^ 52 * 2 ^ a ≤ M := by
    rw [← pow_add]
    exact (Nat.le_log2 hne).mp ha.ge
  have hupper : M ≤ 2 ^ 53 * 2 ^ a := by
    rw [← pow_add]
    exact ((Nat.log2_lt hne).mp (by omega)).le
  -- The first shift leaves 53 bits, and rounding may carry into the next one.
  obtain ⟨em, hem⟩ : ∃ em, em = ExtendedMantissa.ofMantissaAndAccuracy M .exact >>> a := ⟨_, rfl⟩
  have hfirst : shiftToTargetExponent Format.binary64 M E .exact = (em, E + a) := by
    have hamount : (max (M.log2 + E - 52) (-1074) - E).toNat = a := by omega
    rw [shiftToTargetExponent, targetExponent_eq, shiftToExponent, hamount, hem]
  have hbelow : em.roundedMantissa ≤ 2 ^ 53 := hem ▸ Packing.roundedMantissa_shiftRight_le hupper
  have habove : 2 ^ 52 ≤ em.roundedMantissa := by
    refine le_trans ?_ (Packing.le_roundedMantissa em)
    rw [hem, (Packing.shiftRight_spec M a).1]
    exact (Nat.le_div_iff_mul_le (by positivity)).mpr hlower
  rw [roundWithAccuracy]
  simp only [hfirst]
  rcases hbelow.lt_or_eq with hlt | heq
  · simp only [shiftToTargetExponent_of_lt hlt (by omega : -1074 ≤ E + a)]
    split_ifs with hzero
    · exact absurd habove (by rw [show em.roundedMantissa = 0 from hzero]; norm_num)
    · exact ⟨habove, hlt, by omega⟩
  · simp only [heq, shiftToTargetExponent_overflow (by omega : -1074 ≤ E + a)]
    rw [dif_neg (by norm_num)]
    exact ⟨le_rfl, by norm_num, by omega⟩

/-- A full number is read back, unless it is so large that infinity is. -/
lemma Full.unpack_pack (hleast : -1074 ≤ least) (h : Full least u) :
    Full least (UnpackedFloat.unpack Format.binary64 (UnpackedFloat.pack Format.binary64 u)) := by
  rcases u with (_ | _) | _ | s | ⟨_ | _, m, e, hm⟩
  · exact h.elim
  · trivial
  · exact h.elim
  · exact h.elim
  · exact h.elim
  · obtain ⟨hlo, hhi, he⟩ := h
    rcases le_or_gt e 971 with hle | hgt
    · rw [Double.unpack_pack hm ⟨hhi, by omega, hle, .inr hlo⟩]
      exact ⟨hlo, hhi, he⟩
    · have hover : 2 ^ 11 ≤ (e + (1023 : ℕ) + (52 : ℕ)).toNat + 1 := by omega
      simp only [UnpackedFloat.pack]
      split_ifs with hlarge
      · trivial
      · exact absurd hover hlarge
      · exact absurd hover hlarge

lemma mul_finite {m n : ℕ} (e f : ℤ) (hm : 0 < m) (hn : 0 < n) :
    (UnpackedFloat.finite .positive m e hm).mul Format.binary64 (.finite .positive n f hn) =
      roundWithAccuracy Format.binary64 .positive (m * n) (e + f) .exact := rfl

lemma Full.mul {v : UnpackedFloat} {low : ℤ} (hu : Full least u) (hv : Full low v)
    (hsum : -1126 ≤ least + low) : Full (least + low + 52) (u.mul Format.binary64 v) := by
  rcases u with (_ | _) | _ | s | ⟨_ | _, m, e, hm⟩ <;>
    rcases v with (_ | _) | _ | t | ⟨_ | _, n, f, hn⟩ <;>
    first
    | exact hu.elim
    | exact hv.elim
    | trivial
    | skip
  obtain ⟨hm52, -, he⟩ := hu
  obtain ⟨hn52, -, hf⟩ := hv
  have hproduct : 2 ^ 104 ≤ m * n := by
    calc 2 ^ 104 = 2 ^ 52 * 2 ^ 52 := by norm_num
      _ ≤ m * n := Nat.mul_le_mul hm52 hn52
  have hlog : 104 ≤ (m * n).log2 := (Nat.le_log2 (Nat.mul_pos hm hn).ne').mpr hproduct
  rw [mul_finite]
  exact full_roundWithAccuracy (le_trans (by norm_num) hproduct) (by omega) (by omega)

/-! ## Whole numbers -/

/-- The significand of a whole number is filled up to full length before it is rounded. -/
lemma full_round {n : ℕ} (hn : 0 < n) :
    Full (-52) (UnpackedFloat.round Format.binary64 .positive n 0) := by
  rw [UnpackedFloat.round]
  simp only [targetExponent_eq, decreaseExponent]
  obtain ⟨k, hk⟩ : ∃ k, k = (0 - max ((n.log2 : ℤ) + 0 - 52) (-1074)).toNat := ⟨_, rfl⟩
  rw [← hk]
  have hlog := Packing.log2_shiftLeft hn k
  have hlarge : 2 ^ 52 ≤ n <<< k := (Nat.le_log2 (Nat.shiftLeft_pos_iff.mpr hn).ne').mp (by omega)
  exact full_roundWithAccuracy hlarge (by norm_num) (by omega)

lemma full_ofScientific {n : ℕ} (hn : 0 < n) :
    Full (-52) (UnpackedFloat.ofScientific Format.binary64 n 0) := by
  rw [Packing.ofScientific_eq Format.binary64 hn]
  show Full (-52) (roundWithAccuracy Format.binary64 .positive (n <<< 53) (-53) .exact)
  have hlog := Packing.log2_shiftLeft hn 53
  have hpos : 0 < n <<< 53 := Nat.shiftLeft_pos_iff.mpr hn
  generalize n <<< 53 = M at hlog hpos ⊢
  exact full_roundWithAccuracy ((Nat.le_log2 hpos.ne').mp (by omega)) (by norm_num) (by omega)

/-- A natural number that is not zero is rounded to a full number. -/
lemma full_ofNat {n : ℕ} (hn : 0 < n) : Full (-52) (value (Scalar.ofNat n)) := by
  show Full (-52) (value (if n < UInt64.size then n.toUInt64.toFloat else Float.ofScientific n false 0))
  split_ifs with hsmall
  · have hword : n.toUInt64.toNat = n := Nat.mod_eq_of_lt hsmall
    have hvalue : value n.toUInt64.toFloat = UnpackedFloat.unpack Format.binary64
        (UnpackedFloat.pack Format.binary64 (UnpackedFloat.ofUInt64 Format.binary64 n.toUInt64)) := rfl
    rw [hvalue, UnpackedFloat.ofUInt64, hword, Packing.ofNat_eq Format.binary64 hn]
    exact (full_round hn).unpack_pack (by norm_num)
  · have hlarge : ¬(n < 2 ^ 53 ∧ 0 ≤ 22) := fun h => hsmall (h.1.trans (by decide))
    have hvalue : value (Float.ofScientific n false 0) = UnpackedFloat.unpack Format.binary64
        (UnpackedFloat.pack Format.binary64 (UnpackedFloat.ofScientific Format.binary64 n 0)) := by
      rw [Float.ofScientific, dif_neg hlarge]
      rfl
    rw [hvalue]
    exact (full_ofScientific hn).unpack_pack (by norm_num)

lemma fraction_mul_ofNat_pos {n : ℕ} (hn : 0 < n) :
    (0 : Float) < Scalar.ofDecimal 9 1 * Scalar.ofNat n := by
  have hfraction : Full (-53) (value (Scalar.ofDecimal 9 1)) := by
    show (2 ^ 52 ≤ 8106479329266893 ∧ 8106479329266893 < 2 ^ 53 ∧ (-53 : ℤ) ≤ -53)
    norm_num
  rw [pos_iff, value_mul]
  exact ((hfraction.mul (full_ofNat hn) (by norm_num)).unpack_pack (by norm_num)).isPositive

end Double

end FreeSurface

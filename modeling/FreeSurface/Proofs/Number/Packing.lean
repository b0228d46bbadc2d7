import Mathlib

/-!
# Binary formats

How a format of binary numbers packs a sign, a significand and an exponent and reads them back, and
how it shifts a significand when it rounds.  Nothing here depends on the widths of its fields, so it
holds of single and of double precision alike.

* `Packing.Canonical` — the significands and exponents that a format has.
* `Packing.unpack_pack` — **what is packed is read back**, unless its exponent is too large;
  `Packing.isNaN_unpack_pack` says that a number stays one.
* `Packing.roundedMantissa_shiftRight_le` — rounding does not get past a whole number.
* `Packing.shiftToTargetExponent_of_lt`, `Packing.shiftToTargetExponent_overflow` — the second of
  the two shifts of a rounding.
* `Packing.ofNat_eq`, `Packing.ofScientific_eq` — how whole numbers enter a format.
-/

namespace FreeSurface

open Float.Model Float.Model.UnpackedFloat

namespace Packing

variable {spec : Format} {s : Sign} {m : ℕ} {e : ℤ}

/-! ## Widths -/

lemma two_pow_exponentBits (spec : Format) :
    2 ^ spec.exponentBits = 2 * (spec.exponentBias + 1) := by
  have hpos : 0 < 2 ^ (spec.exponentBits - 1) := Nat.two_pow_pos _
  rw [Format.exponentBias, Nat.sub_add_cancel hpos, mul_comm, ← pow_succ,
    Nat.sub_add_cancel spec.he]

lemma two_pow_mantissaBits (spec : Format) :
    2 ^ spec.mantissaBits = 2 * 2 ^ spec.mantissaBitsWithoutImplicit := by
  rw [Format.mantissaBits, add_comm, pow_succ, mul_comm]

lemma minExponent_eq (spec : Format) :
    spec.minExponent = 1 - spec.exponentBias - spec.mantissaBitsWithoutImplicit := by
  have hpos : 0 < 2 ^ (spec.exponentBits - 1) := Nat.two_pow_pos _
  have hcast : (2 : ℤ) ^ (spec.exponentBits - 1) = (2 ^ (spec.exponentBits - 1) : ℕ) := by
    push_cast
    rfl
  simp only [Format.minExponent, Format.exponentBias, Format.mantissaBits, hcast]
  omega

/-- A significand and an exponent as a format writes them.  Those with too large an exponent are
packed as infinity. -/
structure Canonical (spec : Format) (m : ℕ) (e : ℤ) : Prop where
  lt : m < 2 ^ spec.mantissaBits
  exponent_ge : spec.minExponent ≤ e
  normal : e = spec.minExponent ∨ 2 ^ spec.mantissaBitsWithoutImplicit ≤ m

/-- The exponent as it is packed. -/
def biased (spec : Format) (e : ℤ) : ℤ :=
  e + spec.exponentBias + spec.mantissaBitsWithoutImplicit

/-! ## Unpacking -/

lemma toNat_implicit_append {w : ℕ} (v : BitVec w) : (1#1 ++ v).toNat = 2 ^ w + v.toNat := by
  rw [BitVec.toNat_append, ← Nat.shiftLeft_add_eq_or_of_lt v.isLt, Nat.shiftLeft_eq]
  simp

lemma unpackSign_packComponents (exponent) (mantissa) :
    unpackSign (packComponents spec s exponent mantissa) = s.toBitVec := by
  ext i hi
  obtain rfl : i = 0 := by omega
  simp [unpackSign, packComponents, BitVec.getElem_append, BitVec.getLsbD_append]

lemma ofBitVec_toBitVec (s : Sign) : Sign.ofBitVec s.toBitVec = s := by
  cases s <;> rfl

lemma toNat_neg_one (w : ℕ) : (-1#w).toNat = 2 ^ w - 1 := by
  rw [BitVec.neg_one_eq_allOnes, BitVec.toNat_allOnes]

lemma ofNat_ne_neg_one {w k : ℕ} (h : k + 1 < 2 ^ w) : BitVec.ofNat w k ≠ -1#w := fun heq => by
  have htoNat := congrArg BitVec.toNat heq
  rw [toNat_neg_one, BitVec.toNat_ofNat, Nat.mod_eq_of_lt (by omega)] at htoNat
  omega

lemma zero_ne_neg_one (spec : Format) : (0#_ : BitVec spec.exponentBits) ≠ -1#_ :=
  ofNat_ne_neg_one (by
    rw [two_pow_exponentBits]
    omega)

/-- What is unpacked is as the format writes it. -/
lemma canonical_unpack (spec : Format) (hbits : 1 < spec.exponentBits)
    {b : BitVec spec.numBits} {hm : 0 < m}
    (h : UnpackedFloat.unpack spec b = .finite s m e hm) :
    Canonical spec m e ∧ biased spec e + 1 < (2 ^ spec.exponentBits : ℕ) := by
  have hmantissa := (@unpackMantissa spec b).isLt
  have hexponent := (@unpackExponent spec b).isLt
  have hdouble := two_pow_exponentBits spec
  have hmore := two_pow_mantissaBits spec
  have hleast := minExponent_eq spec
  have hfour : 2 ^ 2 ≤ 2 ^ spec.exponentBits := Nat.pow_le_pow_right two_pos hbits
  rw [biased]
  simp only [UnpackedFloat.unpack] at h
  split_ifs at h with hones hinfinite hzeros hzero
  · obtain ⟨-, rfl, rfl⟩ := h
    rw [hzeros, BitVec.toNat_zero]
    exact ⟨⟨by omega, by omega, .inl (by omega)⟩, by omega⟩
  · obtain ⟨-, rfl, rfl⟩ := h
    have hlt : (@unpackExponent spec b).toNat ≠ 2 ^ spec.exponentBits - 1 := fun heq =>
      hones (BitVec.eq_of_toNat_eq (by rw [heq, toNat_neg_one]))
    have hpos : (@unpackExponent spec b).toNat ≠ 0 := fun heq =>
      hzeros (BitVec.eq_of_toNat_eq (by rw [heq, BitVec.toNat_zero]))
    rw [toNat_implicit_append]
    exact ⟨⟨by omega, by omega, .inr (by omega)⟩, by omega⟩

section Fields

variable {exponent : BitVec spec.exponentBits} {mantissa : BitVec spec.mantissaBitsWithoutImplicit}

/-- The fields of a packed number, read back. -/
lemma unpack_normal (s : Sign) (hones : exponent ≠ -1#_) (hzero : exponent ≠ 0#_) :
    UnpackedFloat.unpack spec (packComponents spec s exponent mantissa) =
      .finite s (2 ^ spec.mantissaBitsWithoutImplicit + mantissa.toNat)
        (exponent.toNat - (spec.exponentBias + spec.mantissaBitsWithoutImplicit))
        (by positivity) := by
  simp only [UnpackedFloat.unpack, unpackExponent_packComponents, unpackMantissa_packComponents,
    unpackSign_packComponents, ofBitVec_toBitVec, if_neg hones, if_neg hzero,
    toNat_implicit_append]

lemma unpack_subnormal (s : Sign) (h : 0 < mantissa.toNat) :
    UnpackedFloat.unpack spec (packComponents spec s 0#_ mantissa) =
      .finite s mantissa.toNat spec.minExponent h := by
  have hne : mantissa ≠ 0#_ := by
    rintro rfl
    rw [BitVec.toNat_zero] at h
    exact lt_irrefl _ h
  have hleast := minExponent_eq spec
  simp only [UnpackedFloat.unpack, unpackExponent_packComponents, unpackMantissa_packComponents,
    unpackSign_packComponents, ofBitVec_toBitVec, if_neg (zero_ne_neg_one spec), if_true,
    dif_neg hne, BitVec.toNat_zero]
  congr 1
  omega

lemma unpack_infinity (s : Sign) :
    UnpackedFloat.unpack spec (packedInfinity spec s) = .infinity s := by
  simp only [packedInfinity, UnpackedFloat.unpack, unpackExponent_packComponents,
    unpackMantissa_packComponents, unpackSign_packComponents, ofBitVec_toBitVec, if_true]
  exact if_pos rfl

lemma isNaN_unpack_packComponents (s : Sign) (h : exponent ≠ -1#_) :
    (UnpackedFloat.unpack spec (packComponents spec s exponent mantissa)).isNaN = false := by
  simp only [UnpackedFloat.unpack, unpackExponent_packComponents, if_neg h]
  split_ifs <;> rfl

end Fields

/-- **What is packed is read back**, unless it is so large that infinity is. -/
lemma unpack_pack (hm : 0 < m) (h : Canonical spec m e) :
    UnpackedFloat.unpack spec (UnpackedFloat.pack spec (.finite s m e hm)) =
      if biased spec e + 1 < (2 ^ spec.exponentBits : ℕ) then .finite s m e hm
      else .infinity s := by
  obtain ⟨hlt, hge, hnormal⟩ := h
  have hleast := minExponent_eq spec
  have hmore := two_pow_mantissaBits spec
  have hdouble := two_pow_exponentBits spec
  obtain ⟨k, hk⟩ : ∃ k : ℕ, biased spec e = k :=
    Int.eq_ofNat_of_zero_le (by rw [biased]; omega)
  have htoNat : (e + spec.exponentBias + spec.mantissaBitsWithoutImplicit).toNat = k := by
    rw [← Int.toNat_natCast k, ← hk, biased]
  have hlog : m.log2 + 1 = spec.mantissaBits ↔ 2 ^ spec.mantissaBitsWithoutImplicit ≤ m := by
    rw [Format.mantissaBits, add_comm 1, Nat.succ_inj, Nat.log2_eq_iff hm.ne',
      and_iff_left (by rwa [Format.mantissaBits, add_comm] at hlt)]
  simp only [UnpackedFloat.pack, htoNat, hlog, hk]
  rw [biased] at hk
  norm_cast
  by_cases hsmall : k + 1 < 2 ^ spec.exponentBits
  · rw [if_neg (not_le.mpr hsmall), if_pos hsmall]
    split_ifs with hbits
    · -- A normal number: the leading bit is left out, and put back.
      have hzero : BitVec.ofNat spec.exponentBits k ≠ 0#_ := fun heq => by
        have htoNat := congrArg BitVec.toNat heq
        rw [BitVec.toNat_ofNat, Nat.mod_eq_of_lt (by omega), BitVec.toNat_zero] at htoNat
        omega
      rw [unpack_normal s (ofNat_ne_neg_one hsmall) hzero]
      congr 1
      · rw [BitVec.toNat_ofNat, Nat.mod_eq_sub_mod hbits, Nat.mod_eq_of_lt (by omega)]
        omega
      · rw [BitVec.toNat_ofNat, Nat.mod_eq_of_lt (by omega)]
        omega
    · have hmantissa : (BitVec.ofNat spec.mantissaBitsWithoutImplicit m).toNat = m := by
        rw [BitVec.toNat_ofNat, Nat.mod_eq_of_lt (by omega)]
      rw [unpack_subnormal s (by omega)]
      congr 1
      exact (hnormal.resolve_right hbits).symm
  · rw [if_pos (not_lt.mp hsmall), if_neg hsmall, unpack_infinity]

/-- Packing makes a value that is no number of none that is one. -/
lemma isNaN_unpack_pack {u : UnpackedFloat} (h : u.isNaN = false) :
    (UnpackedFloat.unpack spec (UnpackedFloat.pack spec u)).isNaN = false := by
  rcases u with s | _ | s | ⟨s, m, e, hm⟩
  · simp only [UnpackedFloat.pack, unpack_infinity]
    rfl
  · exact absurd h.symm Bool.false_ne_true
  · exact isNaN_unpack_packComponents s (zero_ne_neg_one spec)
  · simp only [UnpackedFloat.pack]
    split_ifs with hover hbits
    · rw [unpack_infinity]
      rfl
    · exact isNaN_unpack_packComponents s (ofNat_ne_neg_one (not_le.mp hover))
    · exact isNaN_unpack_packComponents s (zero_ne_neg_one spec)

/-! ## Rounding -/

/-- What a shift leaves of a significand, and when it has lost something. -/
lemma shiftRight_spec (M k : ℕ) :
    (ExtendedMantissa.ofMantissaAndAccuracy M .exact >>> k).mantissa = M / 2 ^ k ∧
      (((ExtendedMantissa.ofMantissaAndAccuracy M .exact >>> k).roundBit ||
        (ExtendedMantissa.ofMantissaAndAccuracy M .exact >>> k).stickyBit) = true → ¬2 ^ k ∣ M) := by
  induction k with
  | zero => exact ⟨(Nat.div_one M).symm, fun h => absurd h Bool.false_ne_true⟩
  | succ k ih =>
      obtain ⟨hmantissa, hlost⟩ := ih
      have hstep : ExtendedMantissa.ofMantissaAndAccuracy M .exact >>> (k + 1) =
          (ExtendedMantissa.ofMantissaAndAccuracy M .exact >>> k).shiftRightOne := rfl
      rw [hstep]
      refine ⟨?_, fun h hdvd => ?_⟩
      · show (ExtendedMantissa.ofMantissaAndAccuracy M .exact >>> k).mantissa / 2 = _
        rw [hmantissa, Nat.div_div_eq_div_mul, pow_succ]
      · rcases (Bool.or_eq_true _ _).mp h with hround | hsticky
        · -- The bit shifted out last was set.
          have hodd : M / 2 ^ k % 2 ≠ 0 := by
            rw [← hmantissa]
            exact bne_iff_ne.mp hround
          obtain ⟨n, rfl⟩ := hdvd
          rw [pow_succ, mul_assoc, Nat.mul_div_cancel_left _ (by positivity),
            Nat.mul_mod_right] at hodd
          exact hodd rfl
        · exact hlost hsticky ((pow_dvd_pow 2 k.le_succ).trans hdvd)

lemma roundedMantissa_le (em : ExtendedMantissa) : em.roundedMantissa ≤ em.mantissa + 1 := by
  obtain ⟨m, _ | _, _ | _⟩ := em <;>
    simp [ExtendedMantissa.roundedMantissa, ExtendedMantissa.accuracy, Accuracy.roundToNearestEven]
  omega

lemma le_roundedMantissa (em : ExtendedMantissa) : em.mantissa ≤ em.roundedMantissa := by
  obtain ⟨m, _ | _, _ | _⟩ := em <;>
    simp [ExtendedMantissa.roundedMantissa, ExtendedMantissa.accuracy, Accuracy.roundToNearestEven]

lemma roundedMantissa_of_exact {em : ExtendedMantissa} (h : (em.roundBit || em.stickyBit) = false) :
    em.roundedMantissa = em.mantissa := by
  obtain ⟨m, _ | _, _ | _⟩ := em <;> first | rfl | cases h

/-- Rounding does not get past a whole number. -/
lemma roundedMantissa_shiftRight_le {M N k : ℕ} (h : M ≤ N * 2 ^ k) :
    (ExtendedMantissa.ofMantissaAndAccuracy M .exact >>> k).roundedMantissa ≤ N := by
  obtain ⟨hmantissa, hlost⟩ := shiftRight_spec M k
  generalize ExtendedMantissa.ofMantissaAndAccuracy M .exact >>> k = em at hmantissa hlost ⊢
  have hle : M / 2 ^ k ≤ N := Nat.div_le_of_le_mul (by rwa [mul_comm])
  cases hbits : em.roundBit || em.stickyBit with
  | false => rwa [roundedMantissa_of_exact hbits, hmantissa]
  | true =>
      have hne : M ≠ N * 2 ^ k := fun heq => hlost hbits ⟨N, by rw [heq, mul_comm]⟩
      have hlt : M / 2 ^ k < N := Nat.div_lt_of_lt_mul (by rw [mul_comm]; omega)
      have := roundedMantissa_le em
      omega

/-- The exponent at which a number is written. -/
lemma targetExponent_eq (spec : Format) (M : ℕ) (E : ℤ) :
    spec.targetExponent (totalExponent M E) =
      max (M.log2 + E - spec.mantissaBitsWithoutImplicit) spec.minExponent := by
  rw [Format.targetExponent, totalExponent, Format.mantissaBits]
  congr 1
  push_cast
  ring

/-- Significands that fit are not shifted. -/
lemma shiftToTargetExponent_of_lt (spec : Format) {R : ℕ} {t : ℤ}
    (hR : R < 2 ^ spec.mantissaBits) (ht : spec.minExponent ≤ t) :
    shiftToTargetExponent spec R t .exact =
      (ExtendedMantissa.ofMantissaAndAccuracy R .exact, t) := by
  have hlog : R.log2 ≤ spec.mantissaBitsWithoutImplicit := by
    rcases Nat.eq_zero_or_pos R with rfl | hpos
    · exact Nat.zero_le _
    · rw [Format.mantissaBits, add_comm] at hR
      exact Nat.lt_succ_iff.mp ((Nat.log2_lt hpos.ne').mpr hR)
  have hamount : (max (R.log2 + t - spec.mantissaBitsWithoutImplicit) spec.minExponent - t).toNat =
      0 := by omega
  rw [shiftToTargetExponent, targetExponent_eq, shiftToExponent, hamount]
  exact congrArg _ (add_zero t)

/-- A significand that has become too long is halved. -/
lemma shiftToTargetExponent_overflow (spec : Format) {t : ℤ} (ht : spec.minExponent ≤ t) :
    shiftToTargetExponent spec (2 ^ spec.mantissaBits) t .exact =
      (⟨2 ^ spec.mantissaBitsWithoutImplicit, false, false⟩, t + 1) := by
  have hamount : (max (((2 ^ spec.mantissaBits : ℕ).log2 : ℤ) + t -
      spec.mantissaBitsWithoutImplicit) spec.minExponent - t).toNat = 1 := by
    rw [Nat.log2_two_pow, Format.mantissaBits]
    omega
  have hhalf : (ExtendedMantissa.ofMantissaAndAccuracy (2 ^ spec.mantissaBits) .exact).shiftRightOne =
      ⟨2 ^ spec.mantissaBitsWithoutImplicit, false, false⟩ := by
    rw [two_pow_mantissaBits]
    simp [ExtendedMantissa.ofMantissaAndAccuracy, ExtendedMantissa.shiftRightOne]
  rw [shiftToTargetExponent, targetExponent_eq, shiftToExponent, hamount, ← hhalf]
  rfl

lemma isNaN_roundWithAccuracy (spec : Format) (s : Sign) (m : ℕ) (e : ℤ) (accuracy : Accuracy) :
    (roundWithAccuracy spec s m e accuracy).isNaN = false := by
  rw [roundWithAccuracy]
  simp only
  split_ifs <;> rfl

/-! ## Whole numbers -/

lemma log2_shiftLeft {n : ℕ} (hn : 0 < n) (k : ℕ) : (n <<< k).log2 = n.log2 + k := by
  rw [Nat.shiftLeft_eq, Nat.log2_eq_iff (Nat.mul_pos hn (by positivity)).ne']
  have hlog := (Nat.log2_eq_iff hn.ne').mp rfl
  constructor
  · rw [pow_add]
    exact Nat.mul_le_mul_right _ hlog.1
  · rw [show n.log2 + k + 1 = n.log2 + 1 + k by omega, pow_add]
    exact Nat.mul_lt_mul_of_pos_right hlog.2 (by positivity)

lemma ofNat_eq (spec : Format) {n : ℕ} (hn : 0 < n) :
    UnpackedFloat.ofNat spec n = UnpackedFloat.round spec .positive n 0 := by
  rw [UnpackedFloat.ofNat, UnpackedFloat.ofInt, UnpackedFloat.normalize,
    Int.compare_eq_gt.mpr (by omega)]
  rfl

/-- The significand of a whole number is given as many zeros as a significand has bits. -/
lemma ofScientific_eq (spec : Format) {n : ℕ} (hn : 0 < n) :
    UnpackedFloat.ofScientific spec n 0 =
      roundWithAccuracy spec .positive (n <<< spec.mantissaBits) (-spec.mantissaBits) .exact := by
  have hpos : (0 : ℤ) < 2 ^ spec.exponentBits := by positivity
  have htiny : ¬(0 : ℤ) < -((2 ^ spec.exponentBits : ℤ) + n.log2) := by omega
  rw [UnpackedFloat.ofScientific, dif_neg hn.ne', if_neg hpos.not_gt, if_neg htiny, if_pos le_rfl]
  show roundWithAccuracy spec .positive (n <<< spec.mantissaBits * 10 ^ 0)
    (-spec.mantissaBits + 0) .exact = _
  rw [pow_zero, mul_one, add_zero]

end Packing
end FreeSurface

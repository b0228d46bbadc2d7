import FreeSurface.Proofs.Number.Double

/-!
# Single precision

Zero times a share is zero, and so is zero times what is left of one.  With exact numbers this is
arithmetic; with singles the share must not be infinite or no number, what is left of one must not
be either, and no sign may turn the zero of the sum into a negative one.

* `Single.AtMostOne` — plus zero and the positive values that are not above one; rounding stays
  among them (`Single.atMostOne_roundWithAccuracy`).
* `Single.Tame` — plus zero and the positive finite values, which is what packing makes of those.
* `Single.zero_blend` — nothing, blended with nothing, is nothing.
-/

namespace FreeSurface

open Float.Model Float.Model.UnpackedFloat

namespace Single

/-! ## Values -/

lemma value_zero : value 0 = .zero .positive := rfl

lemma value_one : value 1 = .finite .positive (2 ^ 23) (-23) (by decide) := rfl

lemma value_sub (x y : Float32) :
    value (x - y) = UnpackedFloat.unpack Format.binary32
      (UnpackedFloat.pack Format.binary32 ((value x).sub Format.binary32 (value y))) := rfl

lemma significand_lt {b : BitVec 32} {s : Sign} {m : ℕ} {e : ℤ} {hm : 0 < m}
    (h : UnpackedFloat.unpack Format.binary32 b = .finite s m e hm) : m < 2 ^ 24 :=
  (Packing.canonical_unpack Format.binary32 (by decide) h).1.lt

/-- Plus zero, or a positive finite value. -/
def Tame : UnpackedFloat → Prop
  | .zero .positive | .finite .positive .. => True
  | _ => False

/-- Plus zero, or a positive value that is not above one. -/
def AtMostOne : UnpackedFloat → Prop
  | .zero .positive => True
  | .finite .positive m e _ => ∃ k : ℕ, e = -k ∧ m ≤ 2 ^ k
  | _ => False

/-! ## Rounding -/

lemma targetExponent_eq (M : ℕ) (E : ℤ) :
    Format.binary32.targetExponent (totalExponent M E) = max (M.log2 + E - 23) (-149) :=
  Packing.targetExponent_eq Format.binary32 M E

/-- A significand that is not above one stays so when it is shifted, and when it is rounded
after that. -/
lemma exists_shifted {M k : ℕ} (hM : M ≤ 2 ^ k) :
    ∃ (em : ExtendedMantissa) (j : ℕ),
      shiftToTargetExponent Format.binary32 M (-k) .exact = (em, -(j : ℤ)) ∧
      em.roundedMantissa ≤ 2 ^ j := by
  have hlog : M.log2 ≤ k := by
    rcases Nat.eq_zero_or_pos M with rfl | hpos
    · exact Nat.zero_le k
    · exact (Nat.pow_le_pow_iff_right Nat.one_lt_two).mp
        (((Nat.le_log2 hpos.ne').mp le_rfl).trans hM)
  obtain ⟨a, ha⟩ : ∃ a, a = (max ((M.log2 : ℤ) + -k - 23) (-149) - -k).toNat := ⟨_, rfl⟩
  obtain ⟨j, rfl⟩ : ∃ j, k = j + a := Nat.exists_eq_add_of_le' (by omega)
  refine ⟨ExtendedMantissa.ofMantissaAndAccuracy M .exact >>> a, j, ?_,
    Packing.roundedMantissa_shiftRight_le (by rwa [← pow_add])⟩
  rw [shiftToTargetExponent, targetExponent_eq, shiftToExponent, ← ha]
  exact congrArg _ (by push_cast; ring)

/-- **Rounding does not get past one.** -/
lemma atMostOne_roundWithAccuracy {M k : ℕ} (hM : M ≤ 2 ^ k) :
    AtMostOne (roundWithAccuracy Format.binary32 .positive M (-k) .exact) := by
  obtain ⟨em, j, hfirst, hrounded⟩ := exists_shifted hM
  obtain ⟨em', i, hsecond, hfinal⟩ := exists_shifted hrounded
  rw [roundWithAccuracy]
  simp only [hfirst, hsecond]
  split_ifs
  · trivial
  · exact ⟨i, rfl, (Packing.le_roundedMantissa em').trans hfinal⟩

lemma atMostOne_round {M k : ℕ} (hM : M ≤ 2 ^ k) :
    AtMostOne (UnpackedFloat.round Format.binary32 .positive M (-k)) := by
  rw [UnpackedFloat.round]
  simp only [decreaseExponent]
  generalize (-(k : ℤ) - _).toNat = a
  have hexponent : -(k : ℤ) - a = -(k + a : ℕ) := by omega
  rw [hexponent]
  refine atMostOne_roundWithAccuracy ?_
  rw [Nat.shiftLeft_eq, pow_add]
  exact Nat.mul_le_mul_right _ hM

/-! ## Packing -/

lemma tame_unpack_packComponents {exponent : BitVec 8} (mantissa : BitVec 23)
    (h : exponent ≠ -1#8) :
    Tame (UnpackedFloat.unpack Format.binary32
      (packComponents Format.binary32 .positive exponent mantissa)) := by
  simp only [UnpackedFloat.unpack, unpackExponent_packComponents, unpackMantissa_packComponents,
    Packing.unpackSign_packComponents, Packing.ofBitVec_toBitVec, if_neg h]
  split_ifs <;> trivial

lemma AtMostOne.tame {u : UnpackedFloat} (h : AtMostOne u) :
    Tame (UnpackedFloat.unpack Format.binary32 (UnpackedFloat.pack Format.binary32 u)) := by
  rcases u with s | _ | (_ | _) | ⟨_ | _, m, e, hm⟩
  · exact h.elim
  · exact h.elim
  · exact h.elim
  · trivial
  · exact h.elim
  · obtain ⟨k, rfl, -⟩ := h
    have hbiased : (-(k : ℤ) + (127 : ℕ) + (23 : ℕ)).toNat ≤ 150 := by omega
    have hbias : Format.exponentBias Format.binary32 = 127 := rfl
    simp only [UnpackedFloat.pack, hbias]
    rw [if_neg (by omega : ¬2 ^ 8 ≤ _)]
    split_ifs
    · exact tame_unpack_packComponents _ (Packing.ofNat_ne_neg_one (by omega))
    · exact tame_unpack_packComponents _ (by decide)

/-! ## Shares -/

/-- The values of the numbers from zero to one. -/
lemma value_of_share {x : Float32} (hzero : 0 ≤ x) (hone : x ≤ 1) :
    (∃ s, value x = .zero s) ∨
      ∃ m e hm, value x = .finite .positive m e hm ∧ (e < -23 ∨ e = -23 ∧ m ≤ 2 ^ 23) := by
  rw [le_iff, value_zero] at hzero
  rw [le_iff, value_one] at hone
  generalize value x = a at hzero hone ⊢
  rcases a with (_ | _) | _ | s | ⟨_ | _, m, e, hm⟩
  · exact absurd hzero Bool.false_ne_true
  · exact absurd hone Bool.false_ne_true
  · exact absurd hzero Bool.false_ne_true
  · exact .inl ⟨s, rfl⟩
  · exact absurd hzero Bool.false_ne_true
  · refine .inr ⟨m, e, hm, rfl, ?_⟩
    simp only [UnpackedFloat.compare, Option.any_some] at hone
    rcases lt_trichotomy e (-23) with hlt | rfl | hgt
    · exact .inl hlt
    · refine .inr ⟨rfl, ?_⟩
      rw [compare_eq_iff_eq.mpr rfl] at hone
      exact Nat.isLE_compare.mp hone
    · rw [compare_gt_iff_gt.mpr hgt] at hone
      exact absurd hone Bool.false_ne_true

/-- A share in units of its last place is not above one. -/
lemma exists_share {x : Float32} {m : ℕ} {e : ℤ} {hm : 0 < m}
    (h : value x = .finite .positive m e hm) (hone : e < -23 ∨ e = -23 ∧ m ≤ 2 ^ 23) :
    ∃ k : ℕ, e = -(23 + k : ℕ) ∧ m ≤ 2 ^ (23 + k) := by
  have hlt : m < 2 ^ 24 := significand_lt h
  obtain ⟨k, rfl⟩ : ∃ k : ℕ, e = -(23 + k : ℕ) := ⟨(-23 - e).toNat, by omega⟩
  refine ⟨k, rfl, ?_⟩
  rcases hone with hlong | ⟨hshort, hle⟩
  · exact hlt.le.trans (Nat.pow_le_pow_right Nat.two_pos (by omega))
  · obtain rfl : k = 0 := by omega
    exact hle

/-- What is left of one, in units of the last place of what is taken. -/
lemma one_sub_finite {m k : ℕ} (hm : 0 < m) :
    (UnpackedFloat.finite .positive (2 ^ 23) (-23) (by decide)).sub Format.binary32
        (.finite .positive m (-(23 + k : ℕ)) hm) =
      UnpackedFloat.normalize Format.binary32 ((2 ^ (23 + k) : ℕ) - (m : ℤ)) (-(23 + k : ℕ))
        .positive := by
  have hmin : min (-23 : ℤ) (-(23 + k : ℕ)) = -(23 + k : ℕ) := by omega
  have hshift : (-23 - -((23 + k : ℕ) : ℤ)).toNat = k := by omega
  simp only [UnpackedFloat.sub, decreaseExponent, hmin, hshift, sub_self, Int.toNat_zero,
    Nat.shiftLeft_eq, pow_zero, mul_one, ← pow_add]
  rfl

lemma atMostOne_normalize {m k : ℕ} (h : m ≤ 2 ^ k) :
    AtMostOne (UnpackedFloat.normalize Format.binary32 ((2 ^ k : ℕ) - (m : ℤ)) (-k) .positive) := by
  rw [UnpackedFloat.normalize]
  split
  · next hneg =>
    have := compare_lt_iff_lt.mp hneg
    omega
  · trivial
  · exact atMostOne_round (by omega)

/-- What a share leaves of one is plus zero or a positive finite number. -/
lemma tame_one_sub {x : Float32} (hzero : 0 ≤ x) (hone : x ≤ 1) : Tame (value (1 - x)) := by
  rw [value_sub, value_one]
  refine AtMostOne.tame ?_
  rcases value_of_share hzero hone with ⟨s, hx⟩ | ⟨m, e, hm, hx, hshare⟩
  · rw [hx]
    exact ⟨23, rfl, le_rfl⟩
  · obtain ⟨k, rfl, hle⟩ := exists_share hx hshare
    rw [hx, one_sub_finite]
    exact atMostOne_normalize hle

/-- Zero times a share is a zero, of whatever sign. -/
lemma exists_zero_mul {x : Float32} (hzero : 0 ≤ x) (hone : x ≤ 1) :
    ∃ s, 0 * x = ⟨Float32.Model.pack (.zero s)⟩ := by
  have hmul : 0 * x = ⟨Float32.Model.pack ((value 0).mul Format.binary32 (value x))⟩ := rfl
  rw [hmul, value_zero]
  rcases value_of_share hzero hone with ⟨s, hx⟩ | ⟨m, e, hm, hx, -⟩ <;>
    exact ⟨_, by rw [hx]; rfl⟩

lemma zero_mul_of_tame {x : Float32} (h : Tame (value x)) : 0 * x = 0 := by
  have hmul : 0 * x = ⟨Float32.Model.pack ((value 0).mul Format.binary32 (value x))⟩ := rfl
  rw [hmul, value_zero]
  generalize value x = a at h ⊢
  rcases a with s | _ | (_ | _) | ⟨_ | _, m, e, hm⟩
  · exact h.elim
  · exact h.elim
  · exact h.elim
  · rfl
  · exact h.elim
  · rfl

/-- **Nothing, blended with nothing, is nothing**, down to the sign of the zero. -/
theorem zero_blend {x : Float32} (hzero : 0 ≤ x) (hone : x ≤ 1) : 0 * x + 0 * (1 - x) = 0 := by
  obtain ⟨s, hs⟩ := exists_zero_mul hzero hone
  rw [hs, zero_mul_of_tame (tame_one_sub hzero hone)]
  cases s <;> rfl

end Single

end FreeSurface

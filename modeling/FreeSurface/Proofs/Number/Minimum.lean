import FreeSurface.Proofs.Number.Bounds
import FreeSurface.Vec3

/-!
# The least of some singles

Singles have two zeros that are at most each other, and a value that is no number, so the least of
some of them could depend on the order in which they are compared.  It does not if none of them is
the negative zero: then what is at most each other is equal (`Single.eq_of_le_of_le`), and what is no
number gives way to any other operand (`Single.isLeast_foldl_min`).

The negative zero is no sum of a number without a sign and any other one, and no difference of such
two (`Single.Unsigned.add`, `Single.Unsigned.sub`): a length, for one, has no sign
(`Single.unsigned_length`).
-/

namespace FreeSurface

open Float.Model Float.Model.UnpackedFloat
open scoped Literals

namespace Single

variable {m n : ℕ} {e f : ℤ} {u v : UnpackedFloat} {x y z : Float32}

/-! ## Order -/

lemma isNaN_eq (x : Float32) : Scalar.isNaN x = (value x).isNaN := rfl

/-- What is below something is a number. -/
lemma isNaN_of_lt (h : x < y) : Scalar.isNaN x = false := by
  rw [lt_iff] at h
  rw [isNaN_eq]
  generalize value x = u at h ⊢
  rcases u with s | _ | s | ⟨s, m, e, hm⟩
  · rfl
  · exact (Option.some_ne_none _ h.symm).elim
  · rfl
  · rfl

lemma isNaN_of_le_left (h : x ≤ y) : Scalar.isNaN x = false :=
  (isLE_compare_iff.mp (le_iff.mp h)).1

lemma value_injective : Function.Injective value := by
  rintro ⟨a⟩ ⟨b⟩ h
  have hbits : a.toBits.toBitVec = b.toBits.toBitVec :=
    (unpack_inj_of_valid a.valid b.valid).mp h
  obtain ⟨a, ha⟩ := a
  obtain ⟨b, hb⟩ := b
  obtain rfl : a = b := UInt32.toBitVec_inj.mp hbits
  rfl

/-- Values in the same place are equal, except for the two zeros and what is no number. -/
lemma eq_of_place_eq (hu : u.isNaN = false) (hv : v.isNaN = false) (hu0 : u ≠ .zero .negative)
    (hv0 : v ≠ .zero .negative) (h : place u = place v) : u = v := by
  rcases u with (_ | _) | _ | (_ | _) | ⟨_ | _, m, e, hm⟩ <;>
    rcases v with (_ | _) | _ | (_ | _) | ⟨_ | _, n, f, hn⟩ <;>
    simp_all [place, UnpackedFloat.isNaN]

/-- **What is at most each other is equal**, where no negative zero is involved. -/
theorem eq_of_le_of_le (hxy : x ≤ y) (hyx : y ≤ x) (hx : value x ≠ .zero .negative)
    (hy : value y ≠ .zero .negative) : x = y := by
  obtain ⟨hxn, hyn, hle⟩ := isLE_compare_iff.mp (le_iff.mp hxy)
  obtain ⟨-, -, hge⟩ := isLE_compare_iff.mp (le_iff.mp hyx)
  exact value_injective (eq_of_place_eq hxn hyn hx hy (le_antisymm hle hge))

/-! ## The least -/

/-- The smaller of a number and any other operand. -/
lemma isLeast_min (hx : Scalar.isNaN x = false) (y : Float32) :
    IsLeast {z | z = x ∨ z = y ∧ Scalar.isNaN y = false} (Scalar.min x y) := by
  rw [Scalar.min, hx, if_neg Bool.false_ne_true]
  split_ifs with hlt
  · refine ⟨.inr ⟨rfl, isNaN_of_lt hlt⟩, ?_⟩
    rintro z (rfl | ⟨rfl, hy⟩)
    · exact Single.le_of_lt hlt
    · exact Scalar.le_rfl_of_isNaN hy
  · refine ⟨.inl rfl, ?_⟩
    rintro z (rfl | ⟨rfl, hy⟩)
    · exact Scalar.le_rfl_of_isNaN hx
    · exact Scalar.Ordered.le_of_not_lt hx hy hlt

/-- **The least of a number and some operands** is found one by one, and is the least of those that
are numbers. -/
theorem isLeast_foldl_min (hx : Scalar.isNaN x = false) (l : List Float32) :
    IsLeast {z | z = x ∨ z ∈ l ∧ Scalar.isNaN z = false} (l.foldl Scalar.min x) := by
  induction l generalizing x with
  | nil =>
      refine ⟨.inl rfl, ?_⟩
      rintro z (rfl | ⟨hz, -⟩)
      · exact Scalar.le_rfl_of_isNaN hx
      · exact absurd hz List.not_mem_nil
  | cons y l ih =>
      obtain ⟨hmin, hle⟩ := isLeast_min hx y
      have hnumber : Scalar.isNaN (Scalar.min x y) = false := by
        rcases hmin with heq | ⟨heq, hy⟩
        · rw [heq, hx]
        · rw [heq, hy]
      obtain ⟨hmem, hleast⟩ := ih hnumber
      rw [List.foldl_cons]
      constructor
      · rcases hmem with heq | ⟨hmem, hz⟩
        · rw [heq]
          exact hmin.imp_right fun ⟨heq, _⟩ => ⟨List.mem_cons.mpr (.inl heq), hnumber⟩
        · exact .inr ⟨List.mem_cons_of_mem y hmem, hz⟩
      · rintro z (rfl | ⟨hz, hnan⟩)
        · exact Single.le_trans (hleast (.inl rfl)) (hle (.inl rfl))
        · rcases List.mem_cons.mp hz with rfl | hz
          · exact Single.le_trans (hleast (.inl rfl)) (hle (.inr ⟨rfl, hnan⟩))
          · exact hleast (.inr ⟨hz, hnan⟩)

/-! ## Signs of zeros -/

/-- A value without a sign, as squares and roots are, or none that is a number. -/
inductive Unsigned : UnpackedFloat → Prop
  | notANumber : Unsigned .notANumber
  | infinity : Unsigned (.infinity .positive)
  | zero : Unsigned (.zero .positive)
  | finite {m : ℕ} {e : ℤ} (hm : 0 < m) (hcanonical : Canonical m e) :
      Unsigned (.finite .positive m e hm)

lemma Unsigned.packed (h : Unsigned u) :
    Unsigned (UnpackedFloat.unpack Format.binary32 (UnpackedFloat.pack Format.binary32 u)) := by
  cases h with
  | notANumber => exact .notANumber
  | infinity => exact .infinity
  | zero => exact .zero
  | finite hm hcanonical =>
      rw [unpack_pack hm hcanonical]
      split_ifs
      · exact .finite hm hcanonical
      · exact .infinity

lemma Rounds.unsigned {r : ℝ} (h : Rounds r m e) : Unsigned (ofParts .positive m e) := by
  rw [ofParts]
  split_ifs
  · exact .zero
  · exact .finite _ h.canonical

lemma unsigned_mul_self (x : Float32) : Unsigned (value (x * x)) := by
  have hcanonical : ∀ {s m e hm}, value x = .finite s m e hm → Canonical m e := canonical_value
  rw [value_mul]
  generalize value x = u at hcanonical
  refine Unsigned.packed ?_
  rcases u with s | _ | s | ⟨s, m, e, hm⟩
  · cases s <;> exact .infinity
  · exact .notANumber
  · cases s <;> exact .zero
  · obtain ⟨k, g, hrounds, hmul⟩ := exists_rounds_mul s s hm hm (hcanonical rfl) (hcanonical rfl)
    rw [hmul]
    cases s <;> exact hrounds.unsigned

/-- Adding nothing below zero leaves no sign. -/
lemma Unsigned.add_unsigned (hx : Unsigned (value x)) (hy : Unsigned (value y)) :
    Unsigned (value (x + y)) := by
  rw [value_add]
  generalize value x = u at hx
  generalize value y = v at hy
  refine Unsigned.packed ?_
  cases hx with
  | notANumber => exact .notANumber
  | infinity => cases hy <;> first | exact .notANumber | exact .infinity
  | zero =>
    cases hy with
    | notANumber => exact .notANumber
    | infinity => exact .infinity
    | zero => exact .zero
    | finite hn hnf => exact .finite hn hnf
  | finite hm hme =>
    cases hy with
    | notANumber => exact .notANumber
    | infinity => exact .infinity
    | zero => exact .finite hm hme
    | finite hn =>
      obtain ⟨k, g, hrounds, hadd⟩ := exists_rounds_add hm hn
      rw [hadd]
      exact hrounds.unsigned

lemma Unsigned.sqrt (hx : Unsigned (value x)) : Unsigned (value (Scalar.sqrt x)) := by
  rw [value_sqrt]
  generalize value x = u at hx
  refine Unsigned.packed ?_
  cases hx with
  | notANumber => exact .notANumber
  | infinity => exact .infinity
  | zero => exact .zero
  | finite hm =>
    obtain ⟨k, g, hrounds, hsqrt⟩ := exists_rounds_sqrt hm
    rw [hsqrt]
    exact hrounds.unsigned

/-- A length has no sign. -/
lemma unsigned_length (p : Vec3 Float32) : Unsigned (value p.length) :=
  (((unsigned_mul_self p.x).add_unsigned (unsigned_mul_self p.y)).add_unsigned
    (unsigned_mul_self p.z)).sqrt

/-! ## No negative zero -/

lemma canonical_least : Canonical 1 (-149) := ⟨by norm_num, le_rfl, .inl rfl⟩

lemma unpack_pack_ne_zero {t : Sign} (hu : u ≠ .zero t)
    (hcanonical : ∀ {s m e hm}, u = .finite s m e hm → Canonical m e) :
    UnpackedFloat.unpack Format.binary32 (UnpackedFloat.pack Format.binary32 u) ≠ .zero t := by
  rcases u with s | _ | s | ⟨s, m, e, hm⟩
  · rw [unpack_pack_infinity]
    exact hu
  · rw [UnpackedFloat.pack, unpack_packedNaN]
    exact hu
  · rw [unpack_pack_zero]
    exact hu
  · rw [unpack_pack hm (hcanonical rfl)]
    split_ifs <;> simp

/-- Rounding does not make a zero of a multiple of the least positive number. -/
lemma unpack_pack_round_ne_zero {M : ℕ} {E : ℤ} (hM : 0 < M) (hE : -149 ≤ E) (s t : Sign) :
    UnpackedFloat.unpack Format.binary32 (UnpackedFloat.pack Format.binary32
      (UnpackedFloat.round Format.binary32 s M E)) ≠ .zero t := by
  obtain ⟨m, e, hrounds, hround⟩ := exists_rounds_round hM s E
  have hleast : size 1 (-149) ≤ size M E :=
    calc size 1 (-149) ≤ size 1 E := by
          simp only [size_eq]
          exact mul_le_mul_of_nonneg_left (zpow_le_zpow_right₀ one_le_two hE) (Nat.cast_nonneg 1)
      _ ≤ size M E := size_le_size hM E
  have hm : m ≠ 0 := by
    rintro rfl
    have hle := hrounds.ge canonical_least hleast
    rw [size_zero] at hle
    exact absurd (size_pos Nat.one_pos (-149)) (not_lt.mpr hle)
  rw [hround, ofParts, dif_neg hm, unpack_pack _ hrounds.canonical]
  split_ifs <;> simp

/-- A sum or difference of numbers of the format is no negative zero. -/
lemma unpack_pack_normalize_ne_zero (k : ℤ) {E : ℤ} (hE : -149 ≤ E) :
    UnpackedFloat.unpack Format.binary32 (UnpackedFloat.pack Format.binary32
      (UnpackedFloat.normalize Format.binary32 k E .positive)) ≠ .zero .negative := by
  rw [UnpackedFloat.normalize]
  split
  · next hneg =>
    have := compare_lt_iff_lt.mp hneg
    exact unpack_pack_round_ne_zero (by omega) hE _ _
  · rw [unpack_pack_zero]
    simp
  · next hpos =>
    have := compare_gt_iff_gt.mp hpos
    exact unpack_pack_round_ne_zero (by omega) hE _ _

lemma Unsigned.add_ne_zero (hu : Unsigned u)
    (hv : ∀ {s m e hm}, v = .finite s m e hm → Canonical m e) :
    UnpackedFloat.unpack Format.binary32 (UnpackedFloat.pack Format.binary32
      (u.add Format.binary32 v)) ≠ .zero .negative := by
  cases hu with
  | notANumber => exact unpack_pack_ne_zero (u := .notANumber) (by simp) (by simp)
  | infinity =>
    refine unpack_pack_ne_zero ?_ ?_ <;>
      rcases v with (_ | _) | _ | t | ⟨t, n, f, hn⟩ <;> simp [UnpackedFloat.add]
  | zero =>
    rcases v with t | _ | t | ⟨t, n, f, hn⟩
    · exact unpack_pack_ne_zero (u := .infinity t) (by simp) (by simp)
    · exact unpack_pack_ne_zero (u := .notANumber) (by simp) (by simp)
    · cases t <;> exact unpack_pack_ne_zero (u := .zero .positive) (by simp) (by simp)
    · exact unpack_pack_ne_zero (u := .finite t n f hn) (by simp) hv
  | finite hm hme =>
    rcases v with t | _ | t | ⟨t, n, f, hn⟩
    · exact unpack_pack_ne_zero (u := .infinity t) (by simp) (by simp)
    · exact unpack_pack_ne_zero (u := .notANumber) (by simp) (by simp)
    · refine unpack_pack_ne_zero (u := .finite .positive _ _ hm) (by simp) ?_
      rintro _ _ _ _ ⟨⟩
      exact hme
    · exact unpack_pack_normalize_ne_zero _ (le_min hme.exponent_ge (hv rfl).exponent_ge)

lemma sub_eq_add_neg (u v : UnpackedFloat) :
    u.sub Format.binary32 v = u.add Format.binary32 v.neg := by
  rcases u with (_ | _) | _ | (_ | _) | ⟨s, m, e, hm⟩ <;>
    rcases v with (_ | _) | _ | (_ | _) | ⟨t, n, f, hn⟩ <;>
    first
    | rfl
    | skip
  have hsign : ∀ k : ℤ, (-t).apply k = -t.apply k := fun k => by
    cases t with
    | negative => exact (neg_neg k).symm
    | positive => rfl
  simp only [UnpackedFloat.sub, UnpackedFloat.add, UnpackedFloat.neg, hsign, ← Int.sub_eq_add_neg]

/-- **A sum with a number without a sign is no negative zero.** -/
theorem Unsigned.add (hx : Unsigned (value x)) (y : Float32) :
    value (x + y) ≠ .zero .negative :=
  hx.add_ne_zero canonical_value

/-- **A difference from a number without a sign is no negative zero.** -/
theorem Unsigned.sub (hx : Unsigned (value x)) (y : Float32) :
    value (x - y) ≠ .zero .negative := by
  have hy : ∀ {s m e hm}, value y = .finite s m e hm → Canonical m e := canonical_value
  rw [value_sub, sub_eq_add_neg]
  refine hx.add_ne_zero fun {s m e hm} h => ?_
  generalize value y = v at h hy
  rcases v with t | _ | t | ⟨t, n, f, hn⟩
  · exact UnpackedFloat.noConfusion h
  · exact UnpackedFloat.noConfusion h
  · exact UnpackedFloat.noConfusion h
  · obtain ⟨-, rfl, rfl⟩ := UnpackedFloat.finite.inj h
    exact hy rfl

end Single

end FreeSurface

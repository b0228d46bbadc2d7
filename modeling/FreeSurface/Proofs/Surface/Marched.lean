import FreeSurface.Proofs.Number.Minimum
import FreeSurface.Proofs.Surface.Causality
import FreeSurface.Proofs.Surface.Layers
import FreeSurface.Proofs.Surface.SingleDistance
import FreeSurface.Proofs.Surface.Sweeping

/-!
# What marching leaves

Reinitialization by marching gives every cell that is not solid its distance, cut off at the limit,
with the sign of its side.  On machine numbers as on exact ones the sign is kept, since no distance
is lost to rounding and a sign is multiplied without any.

* `Surface.Kind` — what a carrier's distances have to provide.
* `Surface.Marched` — what holds of the level set and of the order of acceptance.
* `Surface.marched_reinitMarching` — **it holds on both carriers, and in exact arithmetic cells are
  accepted from the surface outwards.**
-/

namespace FreeSurface

open Float.Model Float.Model.UnpackedFloat
open scoped Literals

namespace Surface

variable {d : Dims} {S : Type} [Scalar S]

/-- The march of a level set around solid cells, at its end. -/
def march (phi : ScalarField d S) (g : Flags d) : Marching d S :=
  Marching.run (fun c => !g.isObstacle c) (Marching.start phi fun c => !g.isObstacle c)

/-- What holds of the level set and of the order that marching leaves. -/
structure Marched (phi : ScalarField d S) (g : Flags d) : Prop where
  /-- The march has ended after at most seven turns for each cell. -/
  ends : ∃ k ≤ 7 * d.cells.size,
    Marching.Turns (fun c => !g.isObstacle c) k (Marching.start phi fun c => !g.isObstacle c)
      (march phi g) ∧ (march phi g).queue = []
  /-- No cell is accepted twice. -/
  nodup : (reinitMarching phi g).2.Nodup
  /-- No solid cell is accepted. -/
  free : ∀ c ∈ (reinitMarching phi g).2, g.isObstacle c = false
  solid : ∀ c, g.isObstacle c = true → (reinitMarching phi g).1.get c = phi.get c
  side : ∀ c, isInside ((reinitMarching phi g).1.get c) = isInside (phi.get c)
  /-- The magnitude is the distance, cut off at the limit. -/
  magnitude : ∀ c, g.isObstacle c = false →
    Scalar.abs ((reinitMarching phi g).1.get c) =
      Scalar.min ((march phi g).dist.get c) marchingLimit
  pos : ∀ c, g.isObstacle c = false → 0 < Scalar.abs ((reinitMarching phi g).1.get c)
  le : ∀ c, g.isObstacle c = false →
    Scalar.abs ((reinitMarching phi g).1.get c) ≤ marchingLimit
  /-- A cell that no front has reached is at the limit. -/
  far : ∀ c, g.isObstacle c = false → c ∉ (reinitMarching phi g).2 →
    Scalar.abs ((reinitMarching phi g).1.get c) = marchingLimit

/-- A kind of values that marching can take for distances. -/
structure Kind (P : S → Prop) : Prop where
  infinity : P Scalar.infinity
  limit : P marchingLimit
  isFinite_limit : Scalar.isFinite (marchingLimit : S) = true
  seed : ∀ {d : Dims} {phi : ScalarField d S} {active : d.Cell → Bool} {c : d.Cell} {s : S},
    interfaceDistance? phi active c = some s → P s
  solve : ∀ {a b c : S}, P a → P b → P c → P (solveEikonal a b c)
  isNaN : ∀ {x : S}, P x → Scalar.isNaN x = false
  pos : ∀ {x : S}, P x → 0 < x
  /-- A sign is a side and nothing else. -/
  sign : ∀ {x : S}, P x → x ≤ marchingLimit → ∀ inside,
    isInside (signOf inside * x) = inside ∧ Scalar.abs (signOf inside * x) = x

section Any

variable {P : S → Prop} {phi : ScalarField d S} {g : Flags d} {c : d.Cell}

lemma get_reinitMarching (phi : ScalarField d S) (g : Flags d) (c : d.Cell) :
    (reinitMarching phi g).1.get c =
      if g.isObstacle c then phi.get c
      else signOf (isInside (phi.get c)) *
        Scalar.min ((march phi g).dist.get c) marchingLimit := by
  rw [reinitMarching, Field.get_update]
  cases hc : g.isObstacle c <;> simp [hc, march]

lemma mem_order_reinitMarching : c ∈ (reinitMarching phi g).2 ↔ c ∈ (march phi g).order :=
  List.mem_reverse

lemma Kind.min_limit (hP : Kind P) {x : S} (hx : P x) : P (Scalar.min x marchingLimit) := by
  rw [Scalar.min]
  split_ifs
  · exact hP.limit
  · exact hP.limit
  · exact hx

/-- **What marching leaves**, on any carrier with a kind of distances. -/
theorem Kind.marched [Scalar.Linear S] (hP : Kind P) (phi : ScalarField d S) (g : Flags d) :
    Marched phi g := by
  have hdist : ∀ c, P ((march phi g).dist.get c) :=
    (Marching.measured_run phi _ hP.infinity (fun _ _ => hP.seed) fun _ _ _ => hP.solve).dist
  have hcut : ∀ c, P (Scalar.min ((march phi g).dist.get c) marchingLimit) := fun c =>
    hP.min_limit (hdist c)
  have hle : ∀ c, Scalar.min ((march phi g).dist.get c) marchingLimit ≤ marchingLimit := fun c =>
    ((Scalar.le_min_iff (hP.isNaN (hdist c)) (hP.isNaN hP.limit)).mp
      (Scalar.le_rfl_of_isNaN (hP.isNaN (hcut c)))).2
  have hmagnitude : ∀ c, g.isObstacle c = false →
      Scalar.abs ((reinitMarching phi g).1.get c) =
        Scalar.min ((march phi g).dist.get c) marchingLimit := by
    intro c hc
    rw [get_reinitMarching, hc, if_neg Bool.false_ne_true]
    exact (hP.sign (hcut c) (hle c) _).2
  have horder := Marching.orderly_run phi fun c => !g.isObstacle c
  refine ⟨?_, List.nodup_reverse.mpr horder.nodup, fun c hc => ?_, fun c hc => ?_, fun c => ?_,
    hmagnitude, fun c hc => ?_, fun c hc => ?_, fun c hc hnot => ?_⟩
  · obtain ⟨k, hk, hturns, hempty⟩ := Marching.exists_turns (fun c => !g.isObstacle c)
      (Marching.start phi fun c => !g.isObstacle c)
    exact ⟨k, hk.trans Marching.work_start_le, hturns, hempty⟩
  · have hfree := horder.free c (mem_order_reinitMarching.mp hc)
    rwa [Bool.not_eq_true'] at hfree
  · rw [get_reinitMarching, if_pos hc]
  · rw [get_reinitMarching]
    split_ifs
    · rfl
    · exact (hP.sign (hcut c) (hle c) _).1
  · rw [hmagnitude c hc]
    exact hP.pos (hcut c)
  · rw [hmagnitude c hc]
    exact hle c
  · have hfar := Marching.dist_run_of_notMem phi (fun c => !g.isObstacle c)
      (mt mem_order_reinitMarching.mpr hnot)
    rw [hmagnitude c hc, march, hfar, Scalar.min_infinity hP.isFinite_limit]

end Any

/-! ## Machine numbers -/

section Single

open Single

lemma value_marchingLimit :
    value marchingLimit = .finite .positive (2 ^ 23) (-21) (by decide) := rfl

lemma value_signOf (inside : Bool) : value (signOf inside) =
    .finite (if inside then .negative else .positive) (2 ^ 23) (-23) (by decide) := by
  cases inside <;> rfl

/-- Up to the limit a distance is a finite number. -/
lemma exists_value_eq {x : Float32} (hx : IsDistance x) (hle : x ≤ marchingLimit) :
    ∃ m e hm, value x = .finite .positive m e hm := by
  rw [le_iff, value_marchingLimit] at hle
  have hcases : AtLeast (size 1 (-13)) (value x) := hx
  generalize value x = u at hcases hle
  cases hcases with
  | infinity => exact absurd hle (by decide)
  | zero s h => exact absurd h (not_le.mpr (size_pos Nat.one_pos _))
  | finite hm _ _ => exact ⟨_, _, hm, rfl⟩

/-- Multiplication by a sign does not round. -/
lemma value_signOf_mul {x : Float32} {m : ℕ} {e : ℤ} {hm : 0 < m}
    (hx : value x = .finite .positive m e hm) (inside : Bool) :
    value (signOf inside * x) = .finite (if inside then .negative else .positive) m e hm := by
  obtain ⟨hcanonical, hsmall⟩ := canonical_unpack _ hx
  have hsign : (if inside then Sign.negative else .positive) * .positive =
      if inside then .negative else .positive := by cases inside <;> rfl
  rw [value_mul, value_signOf, hx]
  simp only [UnpackedFloat.mul, hsign]
  have hexact := roundWithAccuracy_exact (if inside then .negative else .positive) hm hcanonical 23
  rw [show (-23 : ℤ) + e = e - (23 : ℕ) by push_cast; ring, hexact, unpack_pack hm hcanonical,
    if_pos hsmall]

lemma sign_single {x : Float32} (hx : IsDistance x) (hle : x ≤ marchingLimit) (inside : Bool) :
    isInside (signOf inside * x) = inside ∧ Scalar.abs (signOf inside * x) = x := by
  obtain ⟨m, e, hm, hvalue⟩ := exists_value_eq hx hle
  have hproduct := value_signOf_mul hvalue inside
  obtain ⟨hcanonical, hsmall⟩ := canonical_unpack _ hvalue
  constructor
  · have hzero : value (Scalar.ofNat 0) = .zero .positive := rfl
    rw [Bool.eq_iff_iff, isInside, decide_eq_true_iff, lt_iff, hproduct]
    show UnpackedFloat.compare _ (value (Scalar.ofNat 0)) = _ ↔ _
    rw [hzero]
    cases inside <;> simp [UnpackedFloat.compare]
  · refine value_injective ?_
    have habs : value (Scalar.abs (signOf inside * x)) =
        UnpackedFloat.unpack Format.binary32 (UnpackedFloat.pack Format.binary32
          ((value (signOf inside * x)).abs)) := rfl
    rw [habs, hproduct]
    show UnpackedFloat.unpack Format.binary32 (UnpackedFloat.pack Format.binary32
      (.finite .positive m e hm)) = value x
    rw [unpack_pack hm hcanonical, if_pos hsmall, hvalue]

lemma kind_single : Kind IsDistance where
  infinity := isDistance_infinity
  limit := by
    rw [IsDistance, value_marchingLimit]
    exact .finite _ ⟨by norm_num, by norm_num, .inr le_rfl⟩ (by simp only [size_eq]; norm_num)
  isFinite_limit := rfl
  seed := isDistance_interfaceDistance_single
  solve := isDistance_solveEikonal_single
  isNaN := IsDistance.isNaN
  pos := IsDistance.pos
  sign := sign_single

end Single

/-! ## Exact numbers -/

section Exact

open Exact

lemma marchingLimit_eq : (marchingLimit : Exact) = real 4 := by
  rw [marchingLimit, literal]
  norm_num

lemma sign_exact {x : Exact} (hx : x.IsDistance) (hle : x ≤ marchingLimit) (inside : Bool) :
    isInside (signOf inside * x) = inside ∧ Scalar.abs (signOf inside * x) = x := by
  rw [marchingLimit_eq] at hle
  rcases hx with rfl | ⟨x, hpos, rfl⟩
  · exact absurd hle (not_le_of_lt (real_lt_posInf 4))
  · refine ⟨isInside_signed inside (isPositive_real hpos), ?_⟩
    cases inside <;> simp [signOf, abs_of_pos hpos]

lemma kind_exact : Kind IsDistance where
  infinity := .inl rfl
  limit := marchingLimit_eq ▸ (isPositive_real four_pos).isDistance
  isFinite_limit := rfl
  seed := fun h => (isPositive_interfaceDistance h).isDistance
  solve := isDistance_solveEikonal
  isNaN := IsDistance.isNaN
  pos := by
    intro x hx
    rw [literal, Nat.cast_zero]
    rcases hx with rfl | ⟨x, hpos, rfl⟩
    · exact real_lt_posInf 0
    · exact real_lt_real.mpr hpos
  sign := sign_exact

end Exact

/-- **Marching ends**, accepts no cell twice and no solid cell, leaves solid cells as they are and
gives every other one a distance of at most the limit with the sign of its side, the limit itself
where no front has come.  In exact arithmetic it accepts cells in the order of their distance. -/
theorem marched_reinitMarching (g : Flags d) :
    (∀ phi : ScalarField d Float32, Marched phi g) ∧
      ∀ phi : ScalarField d Exact, Marched phi g ∧
        (reinitMarching phi g).2.Pairwise fun c c' =>
          (march phi g).dist.get c ≤ (march phi g).dist.get c' :=
  ⟨fun phi => kind_single.marched phi g, fun phi =>
    ⟨kind_exact.marched phi g, List.pairwise_reverse.mpr (Marching.order_run phi _)⟩⟩

end Surface

end FreeSurface

import FreeSurface.Proofs.Clock.Choice
import FreeSurface.Proofs.Config.Rules
import FreeSurface.Proofs.Number.Double

/-!
# Timing of a repaired configuration

When the clock can work with the settings that normalization leads to.

* `Config.clock_normalized_sound_iff` — **on doubles they are sound except in two cases**: the upper
  bound is no number while the lower one is longer than a frame, or there is no positive lower bound
  and a hundredth of the upper one is too small for a double.
* `Config.clock_normalized_sound` — on exact numbers they always are.
-/

namespace FreeSurface

open Double
open scoped Literals

namespace ClockSettings

variable (s : ClockSettings Float)

lemma frame_pos : 0 < s.frame := by
  rw [frame]
  split_ifs with h
  · exact h
  · decide +kernel

lemma upper_pos : 0 < s.upper := by
  rw [upper]
  split_ifs with h
  · exact h
  · exact s.frame_pos

lemma repaired_timestep_pos : 0 < s.repaired.timestep := by
  show 0 < if 0 < s.timestep then s.timestep else s.upper
  split_ifs with h
  · exact h
  · exact s.upper_pos

lemma repaired_cfl_finite : Scalar.isFinite s.repaired.cfl = true := by
  show Scalar.isFinite (if Scalar.isFinite s.cfl then s.cfl else 0) = true
  split_ifs with h
  · exact h
  · decide +kernel

/-- There is a lower bound unless a hundredth of the upper one is needed and vanishes. -/
lemma lower_pos_iff : 0 < s.lower ↔ 0 < s.lesser ∨ 0 < s.upper * Scalar.ofDecimal 1 2 := by
  rw [lower]
  split_ifs with h
  · exact ⟨.inl, fun _ => h⟩
  · exact ⟨.inr, fun hor => hor.resolve_left h⟩

/-- Bounds that are both positive are in order. -/
lemma lesser_le_greater (hlesser : 0 < s.lesser) (hgreater : 0 < s.greater) :
    s.lesser ≤ s.greater := by
  rw [lesser] at hlesser ⊢
  rw [greater] at hgreater ⊢
  split_ifs at hlesser hgreater ⊢ with hswap
  · exact le_of_lt hswap
  · exact le_of_not_lt (isNaN_of_pos hlesser) (isNaN_of_pos hgreater) hswap

/-- If only the lower bound is positive, the upper one is no number, and so they are not swapped. -/
lemma isNaN_of_lesser_pos (hlesser : 0 < s.lesser) (hgreater : ¬0 < s.greater) :
    Scalar.isNaN s.timestepMax = true ∧ s.lesser = s.timestepMin := by
  rw [lesser] at hlesser ⊢
  rw [greater] at hgreater
  split_ifs at hlesser hgreater ⊢ with hswap
  · exact absurd (pos_of_pos_of_le hlesser (le_of_lt hswap)) hgreater
  · refine ⟨?_, rfl⟩
    by_contra hnumber
    exact hswap (lt_of_not_pos (Bool.eq_false_iff.mpr hnumber) hgreater hlesser)

/-- An upper bound that is no number is never swapped. -/
lemma bounds_of_isNaN (h : Scalar.isNaN s.timestepMax = true) :
    s.lesser = s.timestepMin ∧ s.greater = s.timestepMax := by
  have hnot : ¬s.timestepMax < s.timestepMin := fun hlt => by
    rw [isNaN_of_lt hlt] at h
    exact Bool.false_ne_true h
  exact ⟨if_neg hnot, if_neg hnot⟩

/-- The bounds are in order unless the upper one is no number while the lower one is longer than a
frame. -/
lemma lower_le_upper_iff :
    s.lower ≤ s.upper ↔ ¬(Scalar.isNaN s.timestepMax = true ∧ s.frame < s.timestepMin) := by
  by_cases hlesser : 0 < s.lesser
  · have hlower : s.lower = s.lesser := if_pos hlesser
    rw [hlower, upper]
    split_ifs with hgreater
    · refine ⟨fun _ hnan => ?_, fun _ => s.lesser_le_greater hlesser hgreater⟩
      have hnumber := isNaN_of_pos hgreater
      rw [(s.bounds_of_isNaN hnan.1).2, hnan.1] at hnumber
      exact Bool.false_ne_true hnumber.symm
    · obtain ⟨hnan, hmin⟩ := s.isNaN_of_lesser_pos hlesser hgreater
      rw [hmin] at hlesser ⊢
      rw [and_iff_right hnan]
      exact ⟨fun hle hlt => not_le_of_lt hlt hle,
        le_of_not_lt (isNaN_of_pos hlesser) (isNaN_of_pos s.frame_pos)⟩
  · have hlower : s.lower = s.upper * Scalar.ofDecimal 1 2 := if_neg hlesser
    rw [hlower]
    refine ⟨fun _ hnan => hlesser ?_, fun _ => mul_hundredth_le s.upper_pos⟩
    rw [(s.bounds_of_isNaN hnan.1).1]
    exact pos_of_pos_of_le s.frame_pos (le_of_lt hnan.2)

end ClockSettings

/-- On sound settings a positive size is proposed for every speed. -/
lemma Clock.proposal?_pos {c : Clock Float} (h : c.settings.Sound) (speed : Float) :
    ∃ dt, c.proposal? speed = .ok dt ∧ 0 < dt := by
  have hmax := pos_of_pos_of_le h.timestepMin_pos h.bounds_le
  rw [Clock.proposal?]
  simp only [if_pos h.bounds_le]
  split_ifs with hfixed
  · exact ⟨_, rfl, h.timestep_pos⟩
  · simp only [not_or, Bool.not_eq_false] at hfixed
    obtain ⟨-, hfinite, hspeed⟩ := hfixed
    have hpos := pos_of_not_le_zero hfinite hspeed
    exact ⟨_, rfl, clamp_pos (isNaN_div h.cfl_finite hfinite hpos) h.timestepMin_pos hmax⟩

/-- **The settings of a repaired configuration are sound except in two cases**, and on sound
settings a positive size is proposed for every speed.  The exceptions are an upper bound that is no
number beside a lower one longer than a frame, and a hundredth of the upper bound that vanishes when
the lower one has to be replaced by it. -/
theorem Config.clock_normalized_sound_iff (c : Config Float32 Float) :
    (c.normalized.clock.Sound ↔
      ¬(Scalar.isNaN c.clock.timestepMax = true ∧
          c.normalized.clock.frameLength < c.clock.timestepMin) ∧
        (0 < c.clock.lesser ∨
          0 < c.normalized.clock.timestepMax * Scalar.ofDecimal 1 2)) ∧
      (c.normalized.clock.Sound →
        ∀ clock : Clock Float, clock.settings = c.normalized.clock →
          ∀ speed : Float32, ∃ dt, clock.proposal? (widen speed) = .ok dt ∧ 0 < dt) := by
  rw [clock_normalized]
  refine ⟨⟨fun h => ⟨c.clock.lower_le_upper_iff.mp h.bounds_le,
    c.clock.lower_pos_iff.mp h.timestepMin_pos⟩, fun ⟨hbounds, hmin⟩ => ?_⟩, ?_⟩
  · exact ⟨c.clock.frame_pos, c.clock.repaired_timestep_pos, c.clock.lower_pos_iff.mpr hmin,
      c.clock.lower_le_upper_iff.mpr hbounds, c.clock.repaired_cfl_finite⟩
  · rintro h clock hsettings speed
    rw [← hsettings] at h
    exact Clock.proposal?_pos h _

theorem Config.clock_normalized_sound_iff_standard :
    (standard : Config Float32 Float).normalized.clock.Sound ∧
      ∃ dt, (Clock.start (standard : Config Float32 Float).normalized.clock).proposal?
        (widen (1 : Float32)) = .ok dt ∧ 0 < dt := by
  have h := clock_normalized_sound_iff (standard : Config Float32 Float)
  have hsound := h.1.mpr (by rw [clock_normalized]; decide +kernel)
  have hstart : ∀ s : ClockSettings Float, (Clock.start s).settings = s := fun _ => rfl
  exact ⟨hsound, h.2 hsound _ (hstart _) 1⟩

/-- With an upper bound that is no number, a lower bound of five is kept beside an upper one of two,
and there is no size for a step of a liquid that moves. -/
theorem Config.clock_normalized_unordered :
    ¬({ standard with clock.timestepMin := 5, clock.timestepMax := 0 / 0 } :
        Config Float32 Float).normalized.clock.Sound ∧
      (Clock.start ({ standard with clock.timestepMin := 5, clock.timestepMax := 0 / 0 } :
        Config Float32 Float).normalized.clock).proposal? (widen (1 : Float32)) = .error ⟨⟩ := by
  rw [clock_normalized]
  refine ⟨fun h => absurd h.bounds_le (by decide +kernel), ?_⟩
  rw [Clock.proposal?]
  rw [if_neg (by decide +kernel), if_neg (by decide +kernel)]

/-! ## Exact numbers -/

namespace ClockSettings

open Exact

variable {s : ClockSettings Exact}

/-- Whatever is given, a frame has a length. -/
lemma exists_frame (h : s.IsFinite) : ∃ x, s.frame = real x ∧ 0 < x := by
  obtain ⟨x, hx⟩ := isFinite_iff.mp h.frameLength
  rw [frame, hx, literal, Nat.cast_zero]
  split_ifs with hpos
  · exact ⟨x, rfl, hpos⟩
  · exact ⟨2, congrArg real Nat.cast_two, two_pos⟩

/-- Bounds are positive and in order. -/
lemma exists_bounds (h : s.IsFinite) :
    ∃ x y, s.lower = real x ∧ s.upper = real y ∧ 0 < x ∧ x ≤ y := by
  obtain ⟨z, hz, hzpos⟩ := exists_frame h
  obtain ⟨lo, hlo⟩ := isFinite_iff.mp h.timestepMin
  obtain ⟨hi, hhi⟩ := isFinite_iff.mp h.timestepMax
  have hlesser : s.lesser = real (min lo hi) := by
    rw [lesser, hlo, hhi]
    split_ifs with hswap
    · rw [min_eq_right (real_lt_real.mp hswap).le]
    · rw [min_eq_left (not_lt.mp hswap)]
  have hgreater : s.greater = real (max lo hi) := by
    rw [greater, hlo, hhi]
    split_ifs with hswap
    · rw [max_eq_left (real_lt_real.mp hswap).le]
    · rw [max_eq_right (not_lt.mp hswap)]
  have hupper : ∃ y, s.upper = real y ∧ 0 < y ∧ (0 < min lo hi → min lo hi ≤ y) := by
    rw [upper, hgreater, hz, literal, Nat.cast_zero]
    split_ifs with hpos
    · exact ⟨_, rfl, hpos, fun _ => min_le_max⟩
    · exact ⟨z, rfl, hzpos, fun hmin => absurd (hmin.trans_le min_le_max) hpos⟩
  obtain ⟨y, hy, hypos, hle⟩ := hupper
  rw [lower, hlesser, hy, literal, Nat.cast_zero, scalar_ofDecimal, real_mul_real]
  split_ifs with hpos
  · exact ⟨_, y, rfl, rfl, hpos, hle hpos⟩
  · refine ⟨_, y, rfl, rfl, by positivity, ?_⟩
    norm_num
    linarith

lemma repaired_sound (h : s.IsFinite) : s.repaired.Sound ∧ s.repaired.IsFinite := by
  obtain ⟨z, hz, hzpos⟩ := exists_frame h
  obtain ⟨x, y, hx, hy, hxpos, hxy⟩ := exists_bounds h
  obtain ⟨t, ht⟩ := isFinite_iff.mp h.timestep
  have hstep : ∃ w, (if 0 < s.timestep then s.timestep else s.upper) = real w ∧ 0 < w := by
    rw [ht, hy, literal, Nat.cast_zero]
    split_ifs with hpos
    · exact ⟨t, rfl, hpos⟩
    · exact ⟨y, rfl, hxpos.trans_le hxy⟩
  obtain ⟨w, hw, hwpos⟩ := hstep
  have hcfl : Scalar.isFinite (if Scalar.isFinite s.cfl then s.cfl else 0) = true := by
    split_ifs with hfinite
    · exact hfinite
    · rfl
  have hpositive : ∀ {a : ℝ}, 0 < a → (0 : Exact) < real a := by
    intro a ha
    rw [literal, Nat.cast_zero]
    exact ha
  rw [repaired, hz, hw, hx, hy]
  exact ⟨⟨hpositive hzpos, hpositive hwpos, hpositive hxpos, real_le_real.mpr hxy, hcfl⟩,
    ⟨rfl, rfl, rfl, rfl⟩⟩

end ClockSettings

/-- On exact numbers the settings of a repaired configuration are sound. -/
theorem Config.clock_normalized_sound {c : Config Exact Exact} (h : c.clock.IsFinite) :
    c.normalized.clock.Sound ∧ c.normalized.clock.IsFinite := by
  rw [clock_normalized]
  exact ClockSettings.repaired_sound h

end FreeSurface

import FreeSurface.Proofs.Clock

/-!
# Sizes of steps

What the clock can choose and what it then does, in exact numbers.

* `ClockSettings.Sound` — settings on which there is a positive size for every speed.
* `Clock.InFrame.fit_eq` — what is made of a proposed size, whatever the settings are.
* `Clock.choose?_cases` — **the only three choices**: all that is left of the frame, half of it, or
  the proposed size, which then fits in twice.
* `Clock.commit_of_le` — a size that fits in is what time moves on by.
-/

namespace FreeSurface

open Exact
open scoped Literals

namespace ClockSettings

/-- On these settings there is a positive size for every speed. -/
structure Sound {D : Type} [Scalar D] (s : ClockSettings D) : Prop where
  frameLength_pos : 0 < s.frameLength
  timestep_pos : 0 < s.timestep
  timestepMin_pos : 0 < s.timestepMin
  bounds_le : s.timestepMin ≤ s.timestepMax
  cfl_finite : Scalar.isFinite s.cfl = true

/-- The length of a frame, the nominal size of steps and their bounds are numbers. -/
structure IsFinite (s : ClockSettings Exact) : Prop where
  frameLength : Scalar.isFinite s.frameLength = true
  timestep : Scalar.isFinite s.timestep = true
  timestepMin : Scalar.isFinite s.timestepMin = true
  timestepMax : Scalar.isFinite s.timestepMax = true

/-- The least size that is ever proposed. -/
noncomputable def pace (s : ClockSettings Exact) : ℝ := min s.timestep.toReal s.timestepMin.toReal

variable {s : ClockSettings Exact}

lemma toReal_frameLength_pos (hs : s.Sound) (hn : s.IsFinite) : 0 < s.frameLength.toReal := by
  have h := hs.frameLength_pos
  rw [eq_real_toReal hn.frameLength, literal, Nat.cast_zero, real_lt_real] at h
  exact h

lemma pace_pos (hs : s.Sound) (hn : s.IsFinite) : 0 < s.pace := by
  have hstep := hs.timestep_pos
  have hmin := hs.timestepMin_pos
  rw [eq_real_toReal hn.timestep, literal, Nat.cast_zero, real_lt_real] at hstep
  rw [eq_real_toReal hn.timestepMin, literal, Nat.cast_zero, real_lt_real] at hmin
  exact lt_min hstep hmin

lemma standard_sound : (standard : ClockSettings Exact).Sound where
  frameLength_pos := real_lt_real.mpr (by norm_num)
  timestep_pos := real_lt_real.mpr (by norm_num)
  timestepMin_pos := real_lt_real.mpr (by norm_num)
  bounds_le := real_le_real.mpr (by norm_num)
  cfl_finite := rfl

lemma standard_isFinite : (standard : ClockSettings Exact).IsFinite := ⟨rfl, rfl, rfl, rfl⟩

end ClockSettings

namespace Clock

/-- The time that has passed in the frame. -/
noncomputable def elapsed (c : Clock Exact) : ℝ := c.timeInFrame.toReal

/-- The time that is left of the frame. -/
noncomputable def left (c : Clock Exact) : ℝ := c.settings.frameLength.toReal - c.elapsed

lemma frameEndSlack_eq : (frameEndSlack : Exact) = real (21 / 20) := by
  rw [frameEndSlack, scalar_ofDecimal]
  norm_num

/-! ## Clocks within a frame -/

/-- A clock that is not past the end of its frame, whatever sizes its settings propose. -/
structure InFrame (c : Clock Exact) : Prop where
  frameLength : Scalar.isFinite c.settings.frameLength = true
  timeInFrame : Scalar.isFinite c.timeInFrame = true
  left_nonneg : 0 ≤ c.left

namespace InFrame

variable {c : Clock Exact}

lemma frameLength_eq (h : c.InFrame) :
    c.settings.frameLength = real c.settings.frameLength.toReal :=
  eq_real_toReal h.frameLength

lemma timeInFrame_eq (h : c.InFrame) : c.timeInFrame = real c.elapsed :=
  eq_real_toReal h.timeInFrame

lemma remaining_eq (h : c.InFrame) : c.remaining = real c.left := by
  rw [remaining, h.frameLength_eq, h.timeInFrame_eq, real_sub_real, literal, Nat.cast_zero,
    max_real]
  exact congrArg real (max_eq_left h.left_nonneg)

lemma isFrameComplete_eq_false (h : c.InFrame) : c.isFrameComplete = false ↔ 0 < c.left := by
  rw [isFrameComplete, decide_eq_false_iff_not, h.frameLength_eq, h.timeInFrame_eq, real_le_real,
    not_le]
  exact sub_pos.symm

lemma isFrameComplete_iff (h : c.InFrame) : c.isFrameComplete = true ↔ c.left = 0 := by
  rw [← Bool.not_eq_false, h.isFrameComplete_eq_false, not_lt]
  exact ⟨fun hle => le_antisymm hle h.left_nonneg, le_of_eq⟩

/-- The last step takes all that is left, the last two share it, and any other size is taken as it
is. -/
lemma fit_eq (h : c.InFrame) (p : ℝ) :
    c.fit (real p) =
      real (if c.left < 21 / 20 * p then c.left else if c.left < 2 * p then c.left / 2 else p) := by
  have hexceeds : ∀ t : ℝ, c.settings.frameLength < c.timeInFrame + real t ↔ c.left < t := by
    intro t
    rw [h.frameLength_eq, h.timeInFrame_eq, real_add_real, real_lt_real]
    exact sub_lt_iff_lt_add'.symm
  rw [fit, h.remaining_eq, half_eq, frameEndSlack_eq, literal, Nat.cast_two]
  simp only [real_mul_real, mul_one_div, hexceeds, apply_ite real]

/-- A size that fits in is what time moves on by, also when it takes all that is left. -/
lemma commit_of_le (h : c.InFrame) {dt : ℝ} (hdt : c.dt = real dt) (hle : dt ≤ c.left) :
    c.commit =
      { c with
        timeInFrame := c.timeInFrame + c.dt
        totalTime := c.totalTime + c.dt
        stepsInFrame := c.stepsInFrame + 1 } := by
  rw [commit]
  simp only [h.remaining_eq, hdt, real_le_real]
  split_ifs with hall
  · obtain rfl := le_antisymm hle hall
    have hend : c.settings.frameLength = c.timeInFrame + real c.left := by
      rw [h.frameLength_eq, h.timeInFrame_eq, real_add_real]
      exact congrArg real (add_sub_cancel _ _).symm
    rw [← hend]
  · rfl

lemma commit (h : c.InFrame) {dt : ℝ} (hdt : c.dt = real dt) (hle : dt ≤ c.left) :
    c.commit.InFrame ∧ c.commit.left = c.left - dt := by
  have htime : c.timeInFrame + c.dt = real (c.elapsed + dt) := by
    rw [h.timeInFrame_eq, hdt, real_add_real]
  rw [h.commit_of_le hdt hle]
  have hleft : c.settings.frameLength.toReal - (c.elapsed + dt) = c.left - dt :=
    (sub_sub _ _ _).symm
  simp only [htime]
  refine ⟨⟨h.frameLength, rfl, ?_⟩, hleft⟩
  show 0 ≤ c.settings.frameLength.toReal - (c.elapsed + dt)
  rw [hleft]
  exact sub_nonneg.mpr hle

end InFrame

/-! ## Clocks of sound settings -/

/-- A clock of sound settings that is not past the end of its frame. -/
structure Running (c : Clock Exact) : Prop where
  sound : c.settings.Sound
  numbers : c.settings.IsFinite
  timeInFrame : Scalar.isFinite c.timeInFrame = true
  left_nonneg : 0 ≤ c.left

namespace Running

variable {c : Clock Exact}

lemma inFrame (h : c.Running) : c.InFrame := ⟨h.numbers.frameLength, h.timeInFrame, h.left_nonneg⟩

lemma frameLength_eq (h : c.Running) :
    c.settings.frameLength = real c.settings.frameLength.toReal :=
  h.inFrame.frameLength_eq

lemma timeInFrame_eq (h : c.Running) : c.timeInFrame = real c.elapsed := h.inFrame.timeInFrame_eq

lemma remaining_eq (h : c.Running) : c.remaining = real c.left := h.inFrame.remaining_eq

lemma isFrameComplete_eq_false (h : c.Running) : c.isFrameComplete = false ↔ 0 < c.left :=
  h.inFrame.isFrameComplete_eq_false

lemma isFrameComplete_iff (h : c.Running) : c.isFrameComplete = true ↔ c.left = 0 :=
  h.inFrame.isFrameComplete_iff

/-- Only the time in the frame matters. -/
lemma congr {c' : Clock Exact} (h : c.Running) (hsettings : c'.settings = c.settings)
    (htime : c'.timeInFrame = c.timeInFrame) : c'.Running := by
  obtain ⟨settings, frame, timeInFrame, dt, stepsInFrame, totalTime⟩ := c
  obtain ⟨settings', frame', timeInFrame', dt', stepsInFrame', totalTime'⟩ := c'
  obtain rfl : settings' = settings := hsettings
  obtain rfl : timeInFrame' = timeInFrame := htime
  exact ⟨h.sound, h.numbers, h.timeInFrame, h.left_nonneg⟩

/-- So is the clock at the start. -/
lemma start {s : ClockSettings Exact} (hs : s.Sound) (hn : s.IsFinite) :
    (Clock.start s).Running := by
  have hlength := (ClockSettings.toReal_frameLength_pos hs hn).le
  refine ⟨hs, hn, rfl, ?_⟩
  show (0 : ℝ) ≤ s.frameLength.toReal - ((0 : ℕ) : ℝ)
  rwa [Nat.cast_zero, sub_zero]

lemma rollover (h : c.Running) : c.rollover.Running := by
  rw [Clock.rollover]
  split_ifs
  · refine ⟨h.sound, h.numbers, rfl, ?_⟩
    show (0 : ℝ) ≤ c.settings.frameLength.toReal - ((0 : ℕ) : ℝ)
    rw [Nat.cast_zero, sub_zero]
    exact (ClockSettings.toReal_frameLength_pos h.sound h.numbers).le
  · exact h

/-- After a rollover there is time left. -/
lemma left_rollover_pos (h : c.Running) : 0 < c.rollover.left := by
  rw [Clock.rollover]
  split_ifs with hcomplete
  · show 0 < c.settings.frameLength.toReal - ((0 : ℕ) : ℝ)
    rw [Nat.cast_zero, sub_zero]
    exact ClockSettings.toReal_frameLength_pos h.sound h.numbers
  · exact h.isFrameComplete_eq_false.mp (Bool.eq_false_iff.mpr hcomplete)

end Running

/-! ## Choosing -/

variable {c : Clock Exact}

/-- A size is proposed for every speed, and it is not less than the pace. -/
lemma proposal?_cases (hs : c.settings.Sound) (hn : c.settings.IsFinite) (speed : Exact) :
    ∃ p, c.proposal? speed = .ok (real p) ∧ c.settings.pace ≤ p := by
  rw [proposal?]
  split_ifs with hfixed hbounds
  · exact ⟨_, congrArg _ (eq_real_toReal hn.timestep), min_le_left _ _⟩
  · -- The speed is a positive number, and the bounds are in order.
    simp only [not_or, Bool.not_eq_false] at hfixed
    obtain ⟨-, hfinite, hspeed⟩ := hfixed
    obtain ⟨v, rfl⟩ := isFinite_iff.mp hfinite
    have hv : v ≠ 0 := by
      rintro rfl
      rw [literal, Nat.cast_zero, real_le_real] at hspeed
      exact hspeed le_rfl
    have hlo := eq_real_toReal hn.timestepMin
    have hhi := eq_real_toReal hn.timestepMax
    have hle : c.settings.timestepMin.toReal ≤ c.settings.timestepMax.toReal := by
      rw [hlo, hhi, real_le_real] at hbounds
      exact hbounds
    rw [eq_real_toReal hs.cfl_finite, real_div_real hv, hlo, hhi, clamp_real hle]
    refine ⟨_, rfl, (min_le_right _ _).trans ?_⟩
    exact le_min (le_max_right _ _) hle
  · exact absurd hs.bounds_le hbounds

/-- The last step takes all that is left, the last two share it, and any other size fits in
twice. -/
lemma fit_cases (h : c.Running) (p : ℝ) :
    ∃ dt, c.fit (real p) = real dt ∧
      (dt = c.left ∨ dt = c.left / 2 ∧ 21 / 20 * p ≤ c.left ∨ dt = p ∧ 2 * p ≤ c.left) := by
  refine ⟨_, h.inFrame.fit_eq p, ?_⟩
  split_ifs with hlast htwo
  · exact .inl rfl
  · exact .inr (.inl ⟨rfl, not_lt.mp hlast⟩)
  · exact .inr (.inr ⟨rfl, not_lt.mp htwo⟩)

/-- What is proposed is fitted. -/
lemma choose?_of_proposal {D : Type} [Scalar D] {c : Clock D} {speed dt : D}
    (h : c.proposal? speed = .ok dt) : c.choose? speed = .ok { c with dt := c.fit dt } := by
  rw [choose?, h]
  rfl

/-- **The only three choices.**  For every speed a size is chosen, and nothing but the size: all
that is left of the frame, half of that, or the proposed size `p`. -/
theorem choose?_cases (h : c.Running) (speed : Exact) :
    ∃ p dt, c.choose? speed = .ok { c with dt := real dt } ∧ c.settings.pace ≤ p ∧
      (dt = c.left ∨ dt = c.left / 2 ∧ 21 / 20 * p ≤ c.left ∨ dt = p ∧ 2 * p ≤ c.left) := by
  obtain ⟨p, hp, hpace⟩ := proposal?_cases h.sound h.numbers speed
  obtain ⟨dt, hdt, hcases⟩ := fit_cases h p
  refine ⟨p, dt, ?_, hpace, hcases⟩
  rw [choose?_of_proposal hp, hdt]

/-- While the frame lasts, the size that is chosen is positive and fits in. -/
lemma choose?_mem (h : c.Running) (hleft : 0 < c.left) (speed : Exact) :
    ∃ dt, c.choose? speed = .ok { c with dt := real dt } ∧ 0 < dt ∧ dt ≤ c.left := by
  obtain ⟨p, dt, hchoose, hpace, hcases⟩ := choose?_cases h speed
  have hp : 0 < p := (ClockSettings.pace_pos h.sound h.numbers).trans_le hpace
  refine ⟨dt, hchoose, ?_⟩
  rcases hcases with rfl | ⟨rfl, -⟩ | ⟨rfl, hfits⟩
  · exact ⟨hleft, le_rfl⟩
  · exact ⟨half_pos hleft, half_le_self hleft.le⟩
  · exact ⟨hp, by linarith⟩

/-! ## Committing -/

/-- A size that fits in is what time moves on by. -/
lemma commit_of_le (h : c.Running) {dt : ℝ} (hdt : c.dt = real dt) (hle : dt ≤ c.left) :
    c.commit =
      { c with
        timeInFrame := c.timeInFrame + c.dt
        totalTime := c.totalTime + c.dt
        stepsInFrame := c.stepsInFrame + 1 } :=
  h.inFrame.commit_of_le hdt hle

lemma Running.commit (h : c.Running) {dt : ℝ} (hdt : c.dt = real dt) (hle : dt ≤ c.left) :
    c.commit.Running ∧ c.commit.left = c.left - dt := by
  obtain ⟨hin, hleft⟩ := h.inFrame.commit hdt hle
  have hsettings : c.commit.settings = c.settings := by rw [commit_of_le h hdt hle]
  refine ⟨⟨?_, ?_, hin.timeInFrame, hin.left_nonneg⟩, hleft⟩
  · rw [hsettings]
    exact h.sound
  · rw [hsettings]
    exact h.numbers

end Clock

end FreeSurface

import FreeSurface.Proofs.Clock.Choice

/-!
# The accounts of a clock

However steps are chosen, tried again and committed, the clock keeps its accounts: time in the frame
is the sum of the sizes of the steps made in it, and a complete frame is exactly as long as a frame.

* `Clock.Pends` — the sizes a step may be tried at: the chosen one, and half of it.
* `Clock.Run` — the clocks that steps lead to, each with the number of frames before its own and
  the sizes committed in its frame.
* `Clock.Accounts` — what a clock has to do with this number and these sizes.
* `Clock.Run.accounts` — **every run keeps them**, and a step can always be made.

The clock counts in words of 32 bits, so what it counts is the number of frames or steps up to
multiples of `2 ^ 32`, and the number itself as long as that is less.
-/

namespace FreeSurface

open Exact
open scoped Literals

namespace Clock

/-! ## Runs -/

section Runs

variable {D : Type} [Scalar D]

/-- The step that pends may be the chosen one, for some speed, or the chosen one halved. -/
inductive Pends (c : Clock D) : Clock D → Prop
  | chosen {speed : D} {clock : Clock D} : c.choose? speed = .ok clock → Pends c clock
  | halved {speed : D} {clock : Clock D} : c.choose? speed = .ok clock → Pends c clock.halve

/-- The clocks that steps lead to, with the number of frames before the one in progress and the
sizes of the steps committed in it, oldest first.  A step is chosen while the frame lasts; it is
committed, or given up as one that failed twice.  The next frame begins when this one is
complete. -/
inductive Run (s : ClockSettings D) : Clock D → ℕ → List D → Prop
  | start : Run s (Clock.start s) 0 []
  | nextFrame {c : Clock D} {frames : ℕ} {sizes : List D} :
      Run s c frames sizes → c.isFrameComplete = true → Run s c.nextFrame (frames + 1) []
  | pend {c pending : Clock D} {frames : ℕ} {sizes : List D} :
      Run s c frames sizes → c.isFrameComplete = false → c.Pends pending →
        Run s pending frames sizes
  | commit {c pending : Clock D} {frames : ℕ} {sizes : List D} :
      Run s c frames sizes → c.isFrameComplete = false → c.Pends pending →
        Run s pending.commit frames (sizes ++ [pending.dt])

/-- A step that pends only sets the size. -/
lemma Pends.exists_eq {c pending : Clock D} (h : c.Pends pending) :
    ∃ dt, pending = { c with dt := dt } := by
  cases h with
  | chosen hchoose => exact choose?_eq_ok hchoose
  | halved hchoose =>
      obtain ⟨dt, rfl⟩ := choose?_eq_ok hchoose
      exact ⟨_, rfl⟩

end Runs

/-! ## Accounts -/

/-- Time is within the frame, it is the sum of the steps made in the frame, and the time since the
start is that of all the frames before and of this one so far.  Both are counted in words. -/
structure Accounts (c : Clock Exact) (frames : ℕ) (sizes : List Exact) : Prop where
  timeInFrame_nonneg : 0 ≤ c.timeInFrame
  timeInFrame_le : c.timeInFrame ≤ c.settings.frameLength
  totalTime_eq : c.totalTime = Scalar.ofNat frames * c.settings.frameLength + c.timeInFrame
  frame_eq : c.frame = .ofNat frames
  stepsInFrame_eq : c.stepsInFrame = .ofNat sizes.length
  sum_eq : sizes.foldl (· + ·) 0 = c.timeInFrame

variable {c pending : Clock Exact} {frames : ℕ} {sizes : List Exact} {s : ClockSettings Exact}

namespace Accounts

/-- The size of a step that pends is in no account. -/
lemma pend (h : c.Accounts frames sizes) (hpends : c.Pends pending) :
    pending.Accounts frames sizes := by
  obtain ⟨dt, rfl⟩ := hpends.exists_eq
  exact ⟨h.1, h.2, h.3, h.4, h.5, h.6⟩

/-- Frames are counted as they are as long as a word holds their number. -/
lemma toNat_frame (h : c.Accounts frames sizes) (hfits : frames < UInt32.size) :
    c.frame.toNat = frames := by
  rw [h.frame_eq, UInt32.toNat_ofNat_of_lt' hfits]

/-- So are the steps of a frame. -/
lemma toNat_stepsInFrame (h : c.Accounts frames sizes) (hfits : sizes.length < UInt32.size) :
    c.stepsInFrame.toNat = sizes.length := by
  rw [h.stepsInFrame_eq, UInt32.toNat_ofNat_of_lt' hfits]

end Accounts

namespace Running

/-- While the frame lasts, a step that pends is positive and fits in. -/
lemma pend (h : c.Running) (hleft : 0 < c.left) (hpends : c.Pends pending) :
    pending.Running ∧ pending.left = c.left ∧
      ∃ dt, pending.dt = real dt ∧ 0 < dt ∧ dt ≤ c.left := by
  cases hpends with
  | @chosen speed _ hchoose =>
      obtain ⟨dt, hdt, hpos, hle⟩ := choose?_mem h hleft speed
      obtain rfl := Except.ok.inj (hchoose.symm.trans hdt)
      exact ⟨h.congr rfl rfl, rfl, dt, rfl, hpos, hle⟩
  | @halved speed _ hchoose =>
      obtain ⟨dt, hdt, hpos, hle⟩ := choose?_mem h hleft speed
      obtain rfl := Except.ok.inj (hchoose.symm.trans hdt)
      refine ⟨h.congr rfl rfl, rfl, dt / 2, ?_, half_pos hpos, (half_le_self hpos.le).trans hle⟩
      show real dt * Scalar.half = real (dt / 2)
      rw [half_eq, real_mul_real, mul_one_div]

lemma timeInFrame_le (h : c.Running) : c.timeInFrame ≤ c.settings.frameLength := by
  rw [h.timeInFrame_eq, h.frameLength_eq, real_le_real]
  exact sub_nonneg.mp h.left_nonneg

/-- Committing a step enters its size in the accounts. -/
lemma accounts_commit (h : pending.Running) (haccounts : pending.Accounts frames sizes) {dt : ℝ}
    (hdt : pending.dt = real dt) (hpos : 0 < dt) (hle : dt ≤ pending.left) :
    pending.commit.Accounts frames (sizes ++ [pending.dt]) := by
  have hwithin := (h.commit hdt hle).1.timeInFrame_le
  have hnonneg := haccounts.timeInFrame_nonneg
  rw [commit_of_le h hdt hle] at hwithin ⊢
  refine ⟨?_, hwithin, ?_, haccounts.frame_eq, ?_, ?_⟩
  · show 0 ≤ pending.timeInFrame + pending.dt
    rw [h.timeInFrame_eq, literal, Nat.cast_zero, real_le_real] at hnonneg
    rw [h.timeInFrame_eq, hdt, literal, Nat.cast_zero, real_add_real, real_le_real]
    exact (add_pos_of_nonneg_of_pos hnonneg hpos).le
  · show pending.totalTime + pending.dt =
      Scalar.ofNat frames * pending.settings.frameLength + (pending.timeInFrame + pending.dt)
    rw [haccounts.totalTime_eq, h.frameLength_eq, h.timeInFrame_eq, hdt, scalar_ofNat,
      real_mul_real, real_add_real, real_add_real, real_add_real, real_add_real, add_assoc]
  · rw [List.length_append, UInt32.ofNat_add, ← haccounts.stepsInFrame_eq]
    rfl
  · rw [List.foldl_append, haccounts.sum_eq]
    rfl

/-- The next frame starts with empty accounts. -/
lemma accounts_nextFrame (h : c.Running) (haccounts : c.Accounts frames sizes)
    (hcomplete : c.isFrameComplete = true) : c.nextFrame.Accounts (frames + 1) [] := by
  have hleft := h.isFrameComplete_iff.mp hcomplete
  have htime : c.elapsed = c.settings.frameLength.toReal := (sub_eq_zero.mp hleft).symm
  refine ⟨?_, ?_, ?_, ?_, rfl, rfl⟩
  · exact real_le_real.mpr le_rfl
  · show (0 : Exact) ≤ c.settings.frameLength
    rw [h.frameLength_eq, literal, Nat.cast_zero, real_le_real]
    exact (ClockSettings.toReal_frameLength_pos h.sound h.numbers).le
  · show c.totalTime = Scalar.ofNat (frames + 1) * c.settings.frameLength + 0
    rw [haccounts.totalTime_eq, h.frameLength_eq, h.timeInFrame_eq, htime, scalar_ofNat,
      scalar_ofNat, literal, real_mul_real, real_mul_real, real_add_real, real_add_real]
    exact congrArg real (by push_cast; ring)
  · rw [UInt32.ofNat_add, ← haccounts.frame_eq]
    rfl

end Running

/-! ## Every run -/

namespace Run

lemma start_accounts (hs : s.Sound) (hn : s.IsFinite) : (Clock.start s).Accounts 0 [] := by
  refine ⟨real_le_real.mpr le_rfl, (Running.start hs hn).timeInFrame_le, ?_, rfl, rfl, rfl⟩
  show (0 : Exact) = Scalar.ofNat 0 * s.frameLength + 0
  rw [eq_real_toReal hn.frameLength, scalar_ofNat, literal, real_mul_real, real_add_real]
  exact congrArg real (by simp)

/-- A run keeps its settings, stays within its frames and keeps its accounts. -/
lemma keeps (hs : s.Sound) (hn : s.IsFinite) (h : Run s c frames sizes) :
    c.settings = s ∧ c.Running ∧ c.Accounts frames sizes := by
  induction h with
  | start => exact ⟨rfl, Running.start hs hn, start_accounts hs hn⟩
  | nextFrame _ hcomplete ih =>
      obtain ⟨hsettings, hrunning, haccounts⟩ := ih
      refine ⟨hsettings, ?_, hrunning.accounts_nextFrame haccounts hcomplete⟩
      have hroll := hrunning.rollover
      rwa [Clock.rollover, if_pos hcomplete] at hroll
  | pend _ hlasts hpends ih =>
      obtain ⟨rfl, hrunning, haccounts⟩ := ih
      have hleft := hrunning.isFrameComplete_eq_false.mp hlasts
      refine ⟨?_, (hrunning.pend hleft hpends).1, haccounts.pend hpends⟩
      obtain ⟨dt, rfl⟩ := hpends.exists_eq
      rfl
  | commit _ hlasts hpends ih =>
      obtain ⟨rfl, hrunning, haccounts⟩ := ih
      have hleft := hrunning.isFrameComplete_eq_false.mp hlasts
      obtain ⟨hpending, hsame, dt, hdt, hpos, hle⟩ := hrunning.pend hleft hpends
      rw [← hsame] at hle
      refine ⟨?_, (hpending.commit hdt hle).1,
        hpending.accounts_commit (haccounts.pend hpends) hdt hpos hle⟩
      rw [commit_of_le hpending hdt hle]
      obtain ⟨dt, rfl⟩ := hpends.exists_eq
      rfl

/-- A slow liquid takes the whole of a standard frame in one step. -/
lemma choose?_start_slow :
    (Clock.start .standard : Clock Exact).choose? (real (1 / 2)) =
      .ok { Clock.start .standard with dt := real 2 } := by
  have hclamp : Scalar.clamp (real 1 / real (1 / 2)) (real (1 / 5)) (real 2) = real 2 := by
    rw [real_div_real (by norm_num), clamp_real (by norm_num)]
    norm_num
  have hproposal :
      (Clock.start .standard : Clock Exact).proposal? (real (1 / 2)) = .ok (real 2) := by
    simp only [proposal?, Clock.start, ClockSettings.standard, literal, isFinite_real, real_le_real,
      scalar_ofDecimal]
    norm_num [hclamp]
  have hfit : (Clock.start .standard : Clock Exact).fit (real 2) = real 2 := by
    simp only [fit, remaining, frameEndSlack, Clock.start, ClockSettings.standard, literal,
      scalar_ofDecimal, real_mul_real, real_add_real, real_lt_real, real_sub_real, max_real]
    norm_num
  rw [choose?_of_proposal hproposal, hfit]

lemma standard_single :
    Run .standard ({ Clock.start .standard with dt := real 2 } : Clock Exact).commit 0
      [real 2] := by
  refine .commit .start ?_ (.chosen choose?_start_slow)
  rw [isFrameComplete, decide_eq_false_iff_not]
  simp only [Clock.start, ClockSettings.standard, literal, real_le_real]
  norm_num

/-- **Runs keep their accounts.**  On sound settings of numbers, at every point of every run time is
within the frame and is the sum of the sizes of the steps made in it, so that the steps of a
complete frame sum to the length of a frame.  Frames and steps are counted as they are as long as a
word holds their number.  While the frame lasts there is a step for every speed, and whether chosen
or halved it is positive and no longer than what is left. -/
theorem accounts (hs : s.Sound) (hn : s.IsFinite) (h : Run s c frames sizes) :
    c.Accounts frames sizes ∧
      (frames < UInt32.size → c.frame.toNat = frames) ∧
      (sizes.length < UInt32.size → c.stepsInFrame.toNat = sizes.length) ∧
      (c.isFrameComplete = true → sizes.foldl (· + ·) 0 = s.frameLength) ∧
      (c.isFrameComplete = false →
        (∀ speed, ∃ pending, c.choose? speed = .ok pending) ∧
        ∀ pending, c.Pends pending → 0 < pending.dt ∧ pending.dt ≤ c.remaining) := by
  obtain ⟨rfl, hrunning, haccounts⟩ := keeps hs hn h
  refine ⟨haccounts, haccounts.toNat_frame, haccounts.toNat_stepsInFrame, fun hcomplete => ?_,
    fun hlasts => ⟨fun speed => ?_, fun pending hpends => ?_⟩⟩
  · have hleft := hrunning.isFrameComplete_iff.mp hcomplete
    rw [haccounts.sum_eq, hrunning.timeInFrame_eq, hrunning.frameLength_eq]
    exact congrArg real (sub_eq_zero.mp hleft).symm
  · exact exists_choose? hs.bounds_le speed
  · have hleft := hrunning.isFrameComplete_eq_false.mp hlasts
    obtain ⟨-, -, dt, hdt, hpos, hle⟩ := hrunning.pend hleft hpends
    rw [hdt, hrunning.remaining_eq, literal, Nat.cast_zero, real_lt_real, real_le_real]
    exact ⟨hpos, hle⟩

theorem accounts_standard_single :
    (ClockSettings.standard : ClockSettings Exact).Sound ∧
      (ClockSettings.standard : ClockSettings Exact).IsFinite ∧
      Run .standard ({ Clock.start .standard with dt := real 2 } : Clock Exact).commit 0 [real 2] ∧
      ({ Clock.start .standard with dt := real 2 } : Clock Exact).commit.Accounts 0 [real 2] ∧
      ({ Clock.start .standard with dt := real 2 } : Clock Exact).commit.stepsInFrame.toNat = 1 :=
  have haccounts :=
    accounts ClockSettings.standard_sound ClockSettings.standard_isFinite standard_single
  ⟨ClockSettings.standard_sound, ClockSettings.standard_isFinite, standard_single, haccounts.1,
    haccounts.2.2.1 (by decide)⟩

end Run

end Clock

end FreeSurface

import Mathlib.Algebra.Order.Floor.Semiring
import FreeSurface.Proofs.Clock.Choice

/-!
# Even steps

A frame has no tiny last step.  A size that would leave less than a twentieth of a step is stretched
to the end of the frame, and what is left by less than two steps is halved, so what a step leaves of
a frame is nothing or again enough for a step.

* `Clock.steps?` — steps at given speeds, none of which is retried.
* `Clock.Even` — what holds between steps: nothing is left of the frame, or no less than the least
  size.  `Clock.Even.step` is what one step keeps of it.
* `Clock.WithinFrame` — steps in a row none of which, but the last, completes a frame.
* `Clock.steps_close_to_proposals` — **sizes stay close to what is proposed**, and the number of
  steps of a frame is bounded.

The settings need not be sound: it is only asked that there are proposals for the speeds that occur,
and that none of them is less than a positive number.
-/

namespace FreeSurface

open Exact
open scoped Literals

namespace Clock

/-! ## Steps without retries -/

/-- Steps at some speeds, with the clock right before each commit.  A complete frame is followed by
the next one. -/
def steps? {D : Type} [Scalar D] : List D → Clock D → Except UnorderedBounds (List (Clock D))
  | [], _ => .ok []
  | speed :: speeds, c => do
    let pending ← c.rollover.choose? speed
    let later ← steps? speeds pending.commit
    return pending :: later

/-- The clocks right before some commits, none of which, but the last, completes a frame. -/
def WithinFrame {D : Type} [Scalar D] (pending : List (Clock D)) : Prop :=
  ∀ clock ∈ pending.dropLast, clock.commit.isFrameComplete = false

/-- At the beginning of a frame, which has a length. -/
structure AtBeginning (c : Clock Exact) : Prop where
  frameLength_finite : Scalar.isFinite c.settings.frameLength = true
  frameLength_pos : 0 < c.settings.frameLength
  timeInFrame_eq : c.timeInFrame = 0
  stepsInFrame_eq : c.stepsInFrame = 0

/-- How much longer than proposed a step may be. -/
noncomputable def slack : ℝ := (frameEndSlack : Exact).toReal

lemma slack_eq : slack = 21 / 20 := by
  rw [slack, frameEndSlack_eq, toReal_real]

/-- Half as much.  A step that is half of what is left of a frame is at least that long. -/
noncomputable def halfSlack : ℝ := (Scalar.half * frameEndSlack : Exact).toReal

lemma halfSlack_eq : halfSlack = 21 / 40 := by
  rw [halfSlack, half_eq, frameEndSlack_eq, real_mul_real, toReal_real]
  norm_num

/-- The least size of a step if no proposal is less than `m`. -/
noncomputable def leastSize (s : ClockSettings Exact) (m : ℝ) : ℝ :=
  min s.frameLength.toReal (halfSlack * m)

/-- The most steps of a frame if no proposal is less than `m`. -/
noncomputable def mostSteps (s : ClockSettings Exact) (m : ℝ) : ℝ :=
  s.frameLength.toReal / (halfSlack * m) + 1

/-- The size of the step is at least the given one and at most the proposal with its slack. -/
def IsClose (least : ℝ) (speed : Exact) (pending : Clock Exact) : Prop :=
  ∃ p dt, pending.proposal? speed = .ok (real p) ∧ pending.dt = real dt ∧
    least ≤ dt ∧ dt ≤ slack * p

variable {c : Clock Exact} {m : ℝ}

/-- Proposals depend on the settings only. -/
lemma proposal?_congr {D : Type} [Scalar D] {c c' : Clock D} (h : c'.settings = c.settings)
    (speed : D) : c'.proposal? speed = c.proposal? speed := by
  rw [proposal?, proposal?, h]

/-! ## What one step keeps -/

/-- Nothing is left of the frame or no less than the least size, and no step made in it was less. -/
structure Even (m : ℝ) (c : Clock Exact) : Prop where
  inFrame : c.InFrame
  frameLength_pos : 0 < c.settings.frameLength.toReal
  left_cases : c.left = 0 ∨ leastSize c.settings m ≤ c.left
  paced : leastSize c.settings m * c.stepsInFrame.toNat + c.left ≤ c.settings.frameLength.toReal

lemma AtBeginning.even (h : c.AtBeginning) : c.Even m := by
  have hpos := h.frameLength_pos
  rw [eq_real_toReal h.frameLength_finite, literal, Nat.cast_zero, real_lt_real] at hpos
  have hleft : c.left = c.settings.frameLength.toReal := by
    rw [left, elapsed, h.timeInFrame_eq, literal, toReal_real, Nat.cast_zero, sub_zero]
  refine ⟨⟨h.frameLength_finite, ?_, ?_⟩, hpos, .inr ?_, ?_⟩
  · rw [h.timeInFrame_eq, literal, isFinite_real]
  · rw [hleft]
    exact hpos.le
  · rw [hleft]
    exact min_le_left _ _
  · rw [hleft, h.stepsInFrame_eq, UInt32.toNat_zero, Nat.cast_zero, mul_zero, zero_add]

lemma Even.zero_lt_frameLength (h : c.Even m) : 0 < c.settings.frameLength := by
  rw [h.inFrame.frameLength_eq, literal, Nat.cast_zero, real_lt_real]
  exact h.frameLength_pos

lemma leastSize_pos {s : ClockSettings Exact} (hframe : 0 < s.frameLength.toReal) (hm : 0 < m) :
    0 < leastSize s m := by
  rw [leastSize, halfSlack_eq]
  exact lt_min hframe (by positivity)

/-- No more is left of a frame than its length. -/
lemma Even.left_le (h : c.Even m) (hm : 0 < m) : c.left ≤ c.settings.frameLength.toReal := by
  have hpaced := h.paced
  have := mul_nonneg (leastSize_pos h.frameLength_pos hm).le (Nat.cast_nonneg c.stepsInFrame.toNat)
  linarith

/-- A complete frame is followed by the beginning of one. -/
lemma Even.atBeginning_rollover (h : c.Even m) (hcomplete : c.isFrameComplete = true) :
    c.rollover.AtBeginning := by
  rw [Clock.rollover, if_pos hcomplete]
  exact ⟨h.inFrame.frameLength, h.zero_lt_frameLength, rfl, rfl⟩

lemma Even.rollover (h : c.Even m) : c.rollover.Even m := by
  by_cases hcomplete : c.isFrameComplete = true
  · exact (h.atBeginning_rollover hcomplete).even
  · rwa [Clock.rollover, if_neg hcomplete]

/-- While the frame lasts, what is left of it is no less than the least size. -/
lemma Even.leastSize_le (h : c.Even m) (hlasts : c.isFrameComplete = false) :
    leastSize c.settings m ≤ c.left :=
  h.left_cases.resolve_left (h.inFrame.isFrameComplete_eq_false.mp hlasts).ne'

lemma isFrameComplete_rollover (hpos : 0 < c.settings.frameLength) :
    c.rollover.isFrameComplete = false := by
  rw [rollover]
  split_ifs with h
  · rw [isFrameComplete, decide_eq_false_iff_not]
    exact not_le_of_lt hpos
  · exact Bool.eq_false_iff.mpr h

/-- The size that is made of a proposal is close to it, and what it leaves is nothing or no less
than the least size. -/
lemma fitted_close {frame left p : ℝ} (hm : 0 < m) (hp : m ≤ p)
    (hleft : min frame (halfSlack * m) ≤ left) :
    let dt := if left < 21 / 20 * p then left else if left < 2 * p then left / 2 else p
    min frame (halfSlack * m) ≤ dt ∧ dt ≤ slack * p ∧ dt ≤ left ∧
      (left - dt = 0 ∨ min frame (halfSlack * m) ≤ left - dt) := by
  intro dt
  have hleast : min frame (halfSlack * m) ≤ halfSlack * m := min_le_right _ _
  rw [halfSlack_eq] at *
  rw [slack_eq]
  simp only [dt]
  split_ifs with hlast htwo
  · exact ⟨hleft, hlast.le, le_rfl, .inl (sub_self _)⟩
  · refine ⟨?_, ?_, ?_, .inr ?_⟩ <;> linarith
  · refine ⟨?_, ?_, ?_, .inr ?_⟩ <;> linarith

/-- Committing a size no less than the least one. -/
lemma Even.commit (h : c.Even m) (hm : 0 < m) {dt : ℝ} (hdt : c.dt = real dt)
    (hleast : leastSize c.settings m ≤ dt) (hle : dt ≤ c.left)
    (hleft : c.left - dt = 0 ∨ leastSize c.settings m ≤ c.left - dt) :
    c.commit.Even m ∧ c.commit.settings = c.settings ∧
      leastSize c.settings m + c.commit.left ≤ c.left := by
  obtain ⟨hcommitted, hcommit⟩ := h.inFrame.commit hdt hle
  have heq := h.inFrame.commit_of_le hdt hle
  have hsettings : c.commit.settings = c.settings := by rw [heq]
  refine ⟨⟨hcommitted, ?_, ?_, ?_⟩, hsettings, ?_⟩
  · rw [hsettings]
    exact h.frameLength_pos
  · rw [hcommit, hsettings]
    exact hleft
  · -- The count may start anew, but does not grow by more than one.
    have hsteps : c.commit.stepsInFrame.toNat ≤ c.stepsInFrame.toNat + 1 := by
      rw [heq, UInt32.toNat_add]
      exact Nat.mod_le _ _
    have hcast : (c.commit.stepsInFrame.toNat : ℝ) ≤ c.stepsInFrame.toNat + 1 := by
      exact_mod_cast hsteps
    have hpaced := h.paced
    have := mul_le_mul_of_nonneg_left hcast (leastSize_pos h.frameLength_pos hm).le
    rw [mul_add_one] at this
    rw [hcommit, hsettings]
    linarith
  · rw [hcommit]
    linarith

/-- **What one step keeps.** -/
lemma Even.step (h : c.Even m) (hlasts : c.isFrameComplete = false) (hm : 0 < m) {speed : Exact}
    {p : ℝ} (hproposal : c.proposal? speed = .ok (real p)) (hp : m ≤ p) :
    ∃ pending, c.choose? speed = .ok pending ∧
      IsClose (leastSize c.settings m) speed pending ∧ pending.commit.Even m ∧
      pending.commit.settings = c.settings ∧
      leastSize c.settings m + pending.commit.left ≤ c.left := by
  obtain ⟨hleast, hmost, hle, hleft⟩ := fitted_close hm hp (h.leastSize_le hlasts)
  have hfit := h.inFrame.fit_eq p
  generalize
    (if c.left < 21 / 20 * p then c.left else if c.left < 2 * p then c.left / 2 else p) = dt
      at hfit hleast hmost hle hleft
  have hpending : ({ c with dt := real dt } : Clock Exact).Even m :=
    ⟨⟨h.inFrame.frameLength, h.inFrame.timeInFrame, h.inFrame.left_nonneg⟩, h.frameLength_pos,
      h.left_cases, h.paced⟩
  refine ⟨{ c with dt := real dt }, ?_, ⟨p, dt, hproposal, rfl, hleast, hmost⟩,
    hpending.commit hm rfl hleast hle hleft⟩
  rw [choose?_of_proposal hproposal, hfit]

/-! ## Every run -/

/-- The frame in progress, or the next one if that is complete, has room for a step. -/
lemma Even.room (h : c.Even m) (hm : 0 < m) :
    c.rollover.isFrameComplete = false ∧ leastSize c.settings m ≤ c.rollover.left ∧
      c.rollover.left ≤ c.settings.frameLength.toReal := by
  have hlasts := isFrameComplete_rollover h.zero_lt_frameLength
  have hleast := h.rollover.leastSize_le hlasts
  have hframe := h.rollover.left_le hm
  rw [settings_rollover] at hleast hframe
  exact ⟨hlasts, hleast, hframe⟩

/-- What is left of a frame is enough for these steps, as many as do not complete it, and one
more. -/
def Spaced (least left : ℝ) (pending : List (Clock Exact)) : Prop :=
  ∀ steps, steps <+: pending → (∀ clock ∈ steps, clock.commit.isFrameComplete = false) →
    least * (steps.length + 1 : ℕ) ≤ left

lemma Spaced.nil {least left : ℝ} (h : least ≤ left) : Spaced least left [] := by
  intro steps hsteps _
  rw [List.prefix_nil.mp hsteps]
  simpa using h

lemma Spaced.cons {least left : ℝ} {pending : Clock Exact} {later : List (Clock Exact)}
    (h : least ≤ left) (hstep : least + pending.commit.left ≤ left)
    (hlater : Spaced least pending.commit.rollover.left later) :
    Spaced least left (pending :: later) := by
  intro steps hsteps hopen
  cases steps with
  | nil => simpa using h
  | cons first steps =>
      obtain ⟨rfl, htail⟩ := List.cons_prefix_cons.mp hsteps
      obtain ⟨hfirst, hopen⟩ := List.forall_mem_cons.mp hopen
      have hrest := hlater steps htail hopen
      rw [Clock.rollover, if_neg (Bool.eq_false_iff.mp hfirst)] at hrest
      rw [List.length_cons, Nat.cast_add_one, mul_add_one]
      linarith

/-- The last of the steps may complete the frame. -/
lemma Spaced.of_withinFrame {least left : ℝ} {pending steps : List (Clock Exact)}
    (h : Spaced least left pending) (hleft : 0 ≤ left) (hsteps : steps <+: pending)
    (hwithin : WithinFrame steps) : least * steps.length ≤ left := by
  by_cases hempty : steps = []
  · rw [hempty, List.length_nil, Nat.cast_zero, mul_zero]
    exact hleft
  · have hroom := h steps.dropLast ((List.dropLast_prefix steps).trans hsteps) hwithin
    rwa [List.length_dropLast, Nat.sub_add_cancel (List.length_pos_iff.mpr hempty)] at hroom

/-- What steps keep, and how many of them a frame has room for. -/
lemma Even.exists_steps? (hm : 0 < m) (speeds : List Exact) (h : c.Even m)
    (hspeeds : ∀ speed ∈ speeds, ∃ p, c.proposal? speed = .ok (real p) ∧ m ≤ p) :
    ∃ pending, steps? speeds c = .ok pending ∧
      List.Forall₂ (IsClose (leastSize c.settings m)) speeds pending ∧
      (∀ clock ∈ pending, clock.commit.Even m ∧ clock.commit.settings = c.settings) ∧
      Spaced (leastSize c.settings m) c.rollover.left pending ∧
      ∀ steps, steps <:+: pending → WithinFrame steps →
        leastSize c.settings m * steps.length ≤ c.settings.frameLength.toReal := by
  induction speeds generalizing c with
  | nil =>
      refine ⟨[], rfl, .nil, fun _ hclock => absurd hclock List.not_mem_nil,
        .nil (h.room hm).2.1, fun steps hsteps _ => ?_⟩
      rw [List.infix_nil.mp hsteps, List.length_nil, Nat.cast_zero, mul_zero]
      exact h.frameLength_pos.le
  | cons speed speeds ih =>
      obtain ⟨⟨p, hproposal, hp⟩, hlater⟩ := List.forall_mem_cons.mp hspeeds
      obtain ⟨hlasts, hleast, hframe⟩ := h.room hm
      have hsettings := settings_rollover c
      rw [← proposal?_congr hsettings] at hproposal
      obtain ⟨pending, hchoose, hclose, heven, hsame, hstep⟩ :=
        h.rollover.step hlasts hm hproposal hp
      rw [hsettings] at hclose hsame hstep
      obtain ⟨later, hrun, hcloses, hevens, hspaced, hwithin⟩ := ih heven fun speed hspeed => by
        rw [proposal?_congr hsame]
        exact hlater speed hspeed
      rw [hsame] at hcloses hevens hspaced hwithin
      have hspaced := hspaced.cons hleast hstep
      refine ⟨pending :: later, ?_, .cons hclose hcloses,
        List.forall_mem_cons.mpr ⟨⟨heven, hsame⟩, hevens⟩, hspaced, fun steps hsteps hopen => ?_⟩
      · rw [steps?, hchoose]
        show (steps? speeds pending.commit >>= fun later => Except.ok (pending :: later)) = _
        rw [hrun]
        rfl
      · rcases List.infix_cons_iff.mp hsteps with hsteps | hsteps
        · have hleft := h.rollover.inFrame.left_nonneg
          exact (hspaced.of_withinFrame hleft hsteps hopen).trans hframe
        · exact hwithin steps hsteps hopen

/-- As many steps of the least size as a frame has room for are no more than `mostSteps`. -/
lemma cast_le_mostSteps {s : ClockSettings Exact} (hframe : 0 < s.frameLength.toReal) (hm : 0 < m)
    {n : ℕ} (h : leastSize s m * n ≤ s.frameLength.toReal) : (n : ℝ) ≤ mostSteps s m := by
  have hstep : 0 < halfSlack * m := by
    rw [halfSlack_eq]
    positivity
  rw [mostSteps]
  rcases min_choice s.frameLength.toReal (halfSlack * m) with hmin | hmin
  · rw [leastSize, hmin, mul_le_iff_le_one_right hframe] at h
    have := div_pos hframe hstep
    linarith
  · rw [leastSize, hmin, ← le_div_iff₀' hstep] at h
    linarith

/-- **Sizes stay close to what is proposed.**  From the beginning of a frame on, at any speeds for
which no less than `m` is proposed, there is a size for every step.  It is at most the proposal with
its slack, and at least half the slack times `m` or a whole frame.  So no frame takes more than so
many steps, and the clock counts no more; after as many the first one is complete, and a complete
frame is followed by the beginning of another one. -/
theorem steps_close_to_proposals (hc : c.AtBeginning) (hm : 0 < m) {speeds : List Exact}
    (hspeeds : ∀ speed ∈ speeds, ∃ p, c.proposal? speed = .ok (real p) ∧ m ≤ p) :
    ∃ pending, steps? speeds c = .ok pending ∧
      List.Forall₂ (IsClose (leastSize c.settings m)) speeds pending ∧
      (∀ steps, steps <:+: pending → WithinFrame steps → steps.length ≤ mostSteps c.settings m) ∧
      (∀ clock ∈ pending, clock.commit.stepsInFrame.toNat ≤ mostSteps c.settings m) ∧
      (⌊mostSteps c.settings m⌋₊ ≤ speeds.length →
        ∃ clock ∈ pending, clock.commit.isFrameComplete = true) ∧
      ∀ clock ∈ pending, clock.commit.isFrameComplete = true →
        clock.commit.rollover.AtBeginning ∧ clock.commit.rollover.settings = c.settings := by
  have heven : c.Even m := hc.even
  have hframe := heven.frameLength_pos
  obtain ⟨pending, hrun, hcloses, hevens, hspaced, hwithin⟩ :=
    heven.exists_steps? hm speeds hspeeds
  refine ⟨pending, hrun, hcloses, fun steps hsteps hopen => ?_, fun clock hclock => ?_,
    fun hmany => ?_, fun clock hclock hcomplete => ?_⟩
  · exact cast_le_mostSteps hframe hm (hwithin steps hsteps hopen)
  · obtain ⟨hclock, hsettings⟩ := hevens clock hclock
    have hpaced := hclock.paced
    have hleft := hclock.inFrame.left_nonneg
    rw [hsettings] at hpaced
    exact cast_le_mostSteps hframe hm (by linarith)
  · -- Otherwise the first frame has room for all the steps and one more.
    by_contra! hopen
    have hroom := hspaced pending List.prefix_rfl fun clock hclock =>
      Bool.eq_false_iff.mpr (hopen clock hclock)
    have hmost := Nat.le_floor (cast_le_mostSteps hframe hm (hroom.trans (heven.room hm).2.2))
    rw [← hcloses.length_eq] at hmost
    omega
  · obtain ⟨hclock, hsettings⟩ := hevens clock hclock
    exact ⟨hclock.atBeginning_rollover hcomplete, (settings_rollover _).trans hsettings⟩

lemma proposal?_standard_five_fourths :
    (Clock.start .standard : Clock Exact).proposal? (real (5 / 4)) = .ok (real (4 / 5)) := by
  have hclamp : Scalar.clamp (real 1 / real (5 / 4)) (real (1 / 5)) (real 2) = real (4 / 5) := by
    rw [real_div_real (by norm_num), clamp_real (by norm_num)]
    norm_num
  simp only [proposal?, Clock.start, ClockSettings.standard, literal, isFinite_real, real_le_real,
    scalar_ofDecimal]
  norm_num [hclamp]

/-- A standard frame at a steady speed is complete after five steps or less. -/
theorem steps_close_to_proposals_standard :
    (Clock.start .standard : Clock Exact).AtBeginning ∧ (0 : ℝ) < 4 / 5 ∧
    (∀ speed ∈ List.replicate 5 (real (5 / 4)), ∃ p,
      (Clock.start .standard : Clock Exact).proposal? speed = .ok (real p) ∧ 4 / 5 ≤ p) ∧
    leastSize .standard (4 / 5) = 21 / 50 ∧
    ∃ pending, steps? (List.replicate 5 (real (5 / 4))) (Clock.start .standard) = .ok pending ∧
      List.Forall₂ (IsClose (leastSize .standard (4 / 5))) (List.replicate 5 (real (5 / 4)))
        pending ∧
      (∀ clock ∈ pending, clock.commit.stepsInFrame.toNat ≤ mostSteps .standard (4 / 5)) ∧
      ∃ clock ∈ pending, clock.commit.isFrameComplete = true := by
  have hlength : (ClockSettings.standard : ClockSettings Exact).frameLength.toReal = 2 :=
    Nat.cast_two
  have hbeginning : (Clock.start .standard : Clock Exact).AtBeginning :=
    ⟨rfl, ClockSettings.standard_sound.frameLength_pos, rfl, rfl⟩
  have hspeeds : ∀ speed ∈ List.replicate 5 (real (5 / 4)), ∃ p,
      (Clock.start .standard : Clock Exact).proposal? speed = .ok (real p) ∧ 4 / 5 ≤ p := by
    intro speed hspeed
    rw [List.eq_of_mem_replicate hspeed]
    exact ⟨_, proposal?_standard_five_fourths, le_rfl⟩
  have hmost : ⌊mostSteps .standard (4 / 5)⌋₊ = 5 := by
    rw [mostSteps, hlength, halfSlack_eq, Nat.floor_eq_iff (by norm_num)]
    norm_num
  obtain ⟨pending, hrun, hcloses, -, hbound, hend, -⟩ :=
    steps_close_to_proposals hbeginning (by norm_num : (0 : ℝ) < 4 / 5) hspeeds
  refine ⟨hbeginning, by norm_num, hspeeds, ?_, pending, hrun, hcloses, hbound, hend ?_⟩
  · rw [leastSize, hlength, halfSlack_eq]
    norm_num
  · exact hmost.le

end Clock

end FreeSurface

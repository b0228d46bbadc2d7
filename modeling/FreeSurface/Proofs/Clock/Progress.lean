import Mathlib.Algebra.Order.Floor.Semiring
import FreeSurface.Proofs.Clock.Choice

/-!
# Progress through a frame

How many steps a frame takes when any of them may succeed at half its size only.  A step that is
committed as chosen, or that was not chosen to be the last, moves time on by a fixed part of the
least size that can be proposed.  A last step that is cut to its half does not: it is proportional
to what is left, and a frame all of whose last steps are cut short never ends.

* `Clock.Beat` — what a step depends on besides the clock.
* `Clock.passage?` — the steps of a frame, counted, with those cut short counted apart.
* `Clock.exists_passage?` — **the number of steps of a frame is bounded**, up to those cut short.
* `Clock.not_bounded_of_retries` — and not otherwise.
-/

namespace FreeSurface

open Exact
open scoped Literals

namespace Clock

/-- What a step depends on besides the clock: the largest speed at its start, and whether it
succeeds at half its size only. -/
structure Beat (D : Type) where
  speed : D
  retried : Bool

/-- A way through a frame: where it leads, the steps committed on it, and those among them that were
chosen to take all that was left of the frame but were committed at half that size. -/
structure Passage (D : Type) where
  clock : Clock D
  commits : Nat
  cutShort : Nat

section Passages

variable {D : Type} [Scalar D]

/-- The step in progress is committed, at half its size if it is retried. -/
def settle (c : Clock D) (retried : Bool) : Clock D := (if retried then c.halve else c).commit

/-- A step chosen to take all that is left, but retried. -/
def isCutShort (c : Clock D) (retried : Bool) : Bool := retried && decide (c.remaining ≤ c.dt)

/-- One step. -/
def Passage.step? (p : Passage D) (b : Beat D) : Except UnorderedBounds (Passage D) :=
  (p.clock.choose? b.speed).map fun chosen =>
    ⟨chosen.settle b.retried, p.commits + 1, p.cutShort + (chosen.isCutShort b.retried).toNat⟩

/-- Steps until the frame is complete, or there are no more. -/
def passage? : List (Beat D) → Passage D → Except UnorderedBounds (Passage D)
  | [], p => .ok p
  | b :: beats, p =>
    if p.clock.isFrameComplete then .ok p else p.step? b >>= passage? beats

end Passages

/-! ## What a step does -/

variable {c : Clock Exact}

/-- The part of the pace by which a step that is not cut short moves time on. -/
noncomputable def stride (s : ClockSettings Exact) : ℝ := 21 / 80 * s.pace

lemma stride_pos (h : c.Running) : 0 < stride c.settings :=
  mul_pos (by norm_num) (ClockSettings.pace_pos h.sound h.numbers)

/-- Settling a positive step that fits in moves time on by it, or by half of it. -/
lemma Running.settle {dt : ℝ} (h : c.Running) (hpos : 0 < dt) (hle : dt ≤ c.left)
    (retried : Bool) :
    ({ c with dt := real dt }.settle retried).Running ∧
      ({ c with dt := real dt }.settle retried).settings = c.settings ∧
      ({ c with dt := real dt }.settle retried).left =
        c.left - if retried then dt / 2 else dt := by
  have hpending : ({ c with dt := real dt } : Clock Exact).Running := h.congr rfl rfl
  cases retried with
  | false =>
      obtain ⟨hrunning, hleft⟩ := hpending.commit rfl hle
      refine ⟨hrunning, ?_, hleft⟩
      rw [Clock.settle, if_neg Bool.false_ne_true, commit_of_le hpending rfl hle]
  | true =>
      have hhalf : ({ c with dt := real dt } : Clock Exact).halve =
          { c with dt := real (dt / 2) } := by
        rw [halve, half_eq, real_mul_real, mul_one_div]
      have hfits : dt / 2 ≤ c.left := (half_le_self hpos.le).trans hle
      have hhalved : ({ c with dt := real (dt / 2) } : Clock Exact).Running := h.congr rfl rfl
      obtain ⟨hrunning, hleft⟩ := hhalved.commit rfl hfits
      rw [Clock.settle, if_pos rfl, hhalf]
      refine ⟨hrunning, ?_, hleft⟩
      rw [commit_of_le hhalved rfl hfits]

/-- A step from a clock in the middle of a frame. -/
structure Passage.Advances (p : Passage Exact) (b : Beat Exact) (q : Passage Exact) : Prop where
  running : q.clock.Running
  settings_eq : q.clock.settings = p.clock.settings
  commits_eq : q.commits = p.commits + 1
  left_lt : q.clock.left < p.clock.left
  /-- A retried step leaves some of the frame. -/
  left_pos : b.retried = true → 0 < q.clock.left
  /-- A step is cut short, ends the frame, or moves time on by a stride. -/
  cases : q.cutShort = p.cutShort + 1 ∨
    q.cutShort = p.cutShort ∧
      (q.clock.left = 0 ∨ q.clock.left ≤ p.clock.left - stride p.clock.settings)

lemma isCutShort_iff (h : c.Running) (dt : ℝ) (retried : Bool) :
    ({ c with dt := real dt } : Clock Exact).isCutShort retried = true ↔
      retried = true ∧ c.left ≤ dt := by
  rw [isCutShort, Bool.and_eq_true, decide_eq_true_iff]
  show retried = true ∧ c.remaining ≤ real dt ↔ _
  rw [h.remaining_eq, real_le_real]

/-- A size that was not chosen to end the frame leaves it, and is worth two strides or, where it is
half of what is left, even if it is halved once more, one. -/
lemma left_settle_cases {left size dt stride : ℝ} (hleft : 0 < left) (hstride : 0 < stride)
    (hsize : 80 / 21 * stride ≤ size)
    (hcases : dt = left ∨ dt = left / 2 ∧ 21 / 20 * size ≤ left ∨ dt = size ∧ 2 * size ≤ left) :
    0 < dt ∧ (dt = left ∨ dt < left ∧ 2 * stride ≤ dt) := by
  rcases hcases with rfl | ⟨rfl, hlast⟩ | ⟨rfl, htwo⟩
  · exact ⟨hleft, .inl rfl⟩
  · exact ⟨half_pos hleft, .inr ⟨half_lt_self hleft, by linarith⟩⟩
  · exact ⟨by linarith, .inr ⟨by linarith, by linarith⟩⟩

/-- The size that is chosen takes all that is left of the frame, or leaves some of it and is worth
two strides. -/
lemma exists_choose?_stride (h : c.Running) (hleft : 0 < c.left) (speed : Exact) :
    ∃ dt, c.choose? speed = .ok { c with dt := real dt } ∧ 0 < dt ∧
      (dt = c.left ∨ dt < c.left ∧ 2 * stride c.settings ≤ dt) := by
  obtain ⟨size, dt, hchoose, hpace, hcases⟩ := choose?_cases h speed
  have hsize : 80 / 21 * stride c.settings ≤ size := by
    rw [stride]
    linarith
  exact ⟨dt, hchoose, left_settle_cases hleft (stride_pos h) hsize hcases⟩

/-- Committing the size that is chosen ends the frame or moves time on by a stride. -/
lemma Running.exists_choose?_commit (h : c.Running) (hleft : 0 < c.left) (speed : Exact) :
    ∃ clock, c.choose? speed = .ok clock ∧ clock.Running ∧ Scalar.isFinite clock.dt = true ∧
      clock.commit.Running ∧ clock.commit.settings = c.settings ∧
      (clock.commit.left = 0 ∨ clock.commit.left ≤ c.left - stride c.settings) := by
  obtain ⟨dt, hchoose, hpos, hdt⟩ := exists_choose?_stride h hleft speed
  have hle : dt ≤ c.left := hdt.elim le_of_eq fun hlt => hlt.1.le
  obtain ⟨hrunning, hsettings, hsettled⟩ := h.settle hpos hle false
  rw [if_neg Bool.false_ne_true] at hsettled
  refine ⟨_, hchoose, h.congr rfl rfl, isFinite_real dt, hrunning, hsettings, ?_⟩
  have hstride := stride_pos h
  exact hdt.imp (fun hall => hsettled.trans (sub_eq_zero.mpr hall.symm)) fun hlt =>
    hsettled.trans_le (by linarith)

/-- **What one step does.** -/
lemma exists_step? (p : Passage Exact) (h : p.clock.Running) (hleft : 0 < p.clock.left)
    (b : Beat Exact) : ∃ q, p.step? b = .ok q ∧ p.Advances b q := by
  obtain ⟨dt, hchoose, hpos, hdt⟩ := exists_choose?_stride h hleft b.speed
  have hle : dt ≤ p.clock.left := hdt.elim le_of_eq fun hlt => hlt.1.le
  obtain ⟨hrunning, hsettings, hsettled⟩ := h.settle hpos hle b.retried
  have hcut := isCutShort_iff h dt b.retried
  refine ⟨⟨({ p.clock with dt := real dt } : Clock Exact).settle b.retried, p.commits + 1,
    p.cutShort + (({ p.clock with dt := real dt } : Clock Exact).isCutShort b.retried).toNat⟩,
    ?_, hrunning, hsettings, rfl, ?_, fun hretried => ?_, ?_⟩
  · rw [Passage.step?, hchoose]
    rfl
  · show Clock.left _ < _
    rw [hsettled]
    split_ifs <;> linarith
  · show 0 < Clock.left _
    rw [hsettled, if_pos hretried]
    linarith
  · show p.cutShort + Bool.toNat _ = _ ∨
      p.cutShort + Bool.toNat _ = _ ∧ (Clock.left _ = 0 ∨ Clock.left _ ≤ _)
    rw [hsettled]
    by_cases hshort : b.retried = true ∧ p.clock.left ≤ dt
    · rw [hcut.mpr hshort]
      exact .inl rfl
    · rw [Bool.eq_false_iff.mpr (mt hcut.mp hshort)]
      refine .inr ⟨rfl, ?_⟩
      rcases hdt with rfl | ⟨hlt, hstrides⟩
      · -- Chosen to end the frame, and not retried.
        rw [if_neg fun hretried => hshort ⟨hretried, le_rfl⟩]
        exact .inl (sub_self _)
      · refine .inr ?_
        have := stride_pos h
        split_ifs <;> linarith

/-! ## What the steps of a frame do -/

/-- The steps made since time `c`, without those cut short and the one that ended the frame, have
moved time on by a stride each. -/
structure Passage.Paced (c : Clock Exact) (p : Passage Exact) : Prop where
  running : p.clock.Running
  settings_eq : p.clock.settings = c.settings
  paced : stride c.settings * p.commits + p.clock.left ≤
    c.left + stride c.settings * p.cutShort + if p.clock.left = 0 then stride c.settings else 0

lemma Passage.paced_start (h : c.Running) : (⟨c, 0, 0⟩ : Passage Exact).Paced c := by
  refine ⟨h, rfl, ?_⟩
  have := stride_pos h
  rw [Nat.cast_zero, mul_zero]
  split_ifs <;> linarith

lemma Passage.Paced.step {p q : Passage Exact} {b : Beat Exact} (h : p.Paced c)
    (hleft : 0 < p.clock.left) (hstep : p.Advances b q) : q.Paced c := by
  refine ⟨hstep.running, hstep.settings_eq.trans h.settings_eq, ?_⟩
  have hpaced := h.paced
  have hpos := stride_pos h.running
  have hcases := hstep.cases
  have hlt := hstep.left_lt
  rw [h.settings_eq] at hpos hcases
  rw [if_neg hleft.ne'] at hpaced
  rw [hstep.commits_eq, Nat.cast_add_one, mul_add_one]
  rcases hcases with hcut | ⟨hcut, hend | hstride⟩
  · rw [hcut, Nat.cast_add_one, mul_add_one]
    split_ifs <;> linarith
  · rw [hcut, if_pos hend]
    linarith
  · rw [hcut]
    split_ifs <;> linarith

lemma Passage.Paced.passage? (beats : List (Beat Exact)) {p : Passage Exact} (h : p.Paced c) :
    ∃ q, Clock.passage? beats p = .ok q ∧ q.Paced c ∧
      (q.clock.isFrameComplete = true ∨ q.commits = p.commits + beats.length) := by
  induction beats generalizing p with
  | nil => exact ⟨p, rfl, h, .inr rfl⟩
  | cons b beats ih =>
      rw [Clock.passage?]
      split_ifs with hcomplete
      · exact ⟨p, rfl, h, .inl hcomplete⟩
      · have hleft := h.running.isFrameComplete_eq_false.mp (Bool.eq_false_iff.mpr hcomplete)
        obtain ⟨q, hstep, hadvances⟩ := exists_step? p h.running hleft b
        obtain ⟨r, hrest, hpaced, hend⟩ := ih (h.step hleft hadvances)
        refine ⟨r, ?_, hpaced, hend.imp_right fun hcommits => ?_⟩
        · rw [hstep]
          exact hrest
        · rw [hcommits, hadvances.commits_eq, List.length_cons]
          omega

/-! ## The number of steps -/

/-- The most steps that a stretch of time takes, apart from those cut short. -/
noncomputable def stepBound (s : ClockSettings Exact) (time : Exact) : ℕ :=
  ⌊80 * time.toReal / (21 * s.pace)⌋₊ + 1

lemma Passage.Paced.commits_le {p : Passage Exact} (hc : c.Running) (h : p.Paced c) :
    p.commits ≤ stepBound c.settings c.remaining + p.cutShort := by
  have hpos := stride_pos hc
  have hleft := h.running.left_nonneg
  have hquot : 80 * c.remaining.toReal / (21 * c.settings.pace) = c.left / stride c.settings := by
    rw [hc.remaining_eq, toReal_real, stride]
    field_simp
  have hfloor := Nat.lt_floor_add_one (c.left / stride c.settings)
  rw [div_lt_iff₀ hpos] at hfloor
  have hpaced : stride c.settings * p.commits ≤
      c.left + stride c.settings * p.cutShort + stride c.settings := by
    have := h.paced
    split_ifs at this <;> linarith
  rw [stepBound, hquot]
  have hlt : (p.commits : ℝ) < ⌊c.left / stride c.settings⌋₊ + 1 + p.cutShort + 1 := by
    by_contra hge
    have := mul_le_mul_of_nonneg_left (not_lt.mp hge) hpos.le
    linarith
  exact Nat.lt_succ_iff.mp (by exact_mod_cast hlt)

/-- What is left of a frame is no longer than a frame. -/
lemma stepBound_remaining_le (hs : c.settings.Sound) (hn : c.settings.IsFinite)
    (htime : Scalar.isFinite c.timeInFrame = true) (hnonneg : 0 ≤ c.timeInFrame) :
    stepBound c.settings c.remaining ≤ stepBound c.settings c.settings.frameLength := by
  have hpace := ClockSettings.pace_pos hs hn
  have hlength := ClockSettings.toReal_frameLength_pos hs hn
  have hle : c.remaining.toReal ≤ c.settings.frameLength.toReal := by
    rw [eq_real_toReal htime, literal, Nat.cast_zero, real_le_real] at hnonneg
    rw [remaining, eq_real_toReal hn.frameLength, eq_real_toReal htime, real_sub_real, literal,
      Nat.cast_zero, max_real, toReal_real, toReal_real]
    exact max_le (by linarith) hlength.le
  exact Nat.add_le_add_right (Nat.floor_le_floor (by gcongr)) 1

/-- **Frames end.**  From any time on, whatever the speeds are and whichever steps are retried, a
size is found for every step.  The number of steps until the frame is complete is bounded by what is
left of it, so by the length of a frame, and by the least size that is proposed, apart from the
steps that were chosen to take all that was left and then cut short. -/
theorem exists_passage? (hs : c.settings.Sound) (hn : c.settings.IsFinite)
    (htime : Scalar.isFinite c.timeInFrame = true) (beats : List (Beat Exact)) :
    ∃ p, passage? beats ⟨c, 0, 0⟩ = .ok p ∧
      p.commits ≤ stepBound c.settings c.remaining + p.cutShort ∧
      (stepBound c.settings c.remaining + p.cutShort < beats.length →
        p.clock.isFrameComplete = true) ∧
      (0 ≤ c.timeInFrame →
        stepBound c.settings c.remaining ≤ stepBound c.settings c.settings.frameLength) := by
  have hframe := stepBound_remaining_le hs hn htime
  by_cases hleft : 0 ≤ c.left
  · have h : c.Running := ⟨hs, hn, htime, hleft⟩
    obtain ⟨p, hp, hpaced, hend⟩ := (Passage.paced_start h).passage? beats
    have hle := hpaced.commits_le h
    exact ⟨p, hp, hle, fun hmany => hend.resolve_right fun hcommits => by omega, hframe⟩
  · -- The frame is already over.
    have hcomplete : c.isFrameComplete = true := by
      rw [isFrameComplete, decide_eq_true_iff, eq_real_toReal hn.frameLength, eq_real_toReal htime,
        real_le_real]
      exact (sub_neg.mp (not_le.mp hleft)).le
    refine ⟨⟨c, 0, 0⟩, ?_, Nat.zero_le _, fun _ => hcomplete, hframe⟩
    cases beats with
    | nil => rfl
    | cons b beats => exact if_pos hcomplete

theorem exists_passage?_standard :
    (ClockSettings.standard : ClockSettings Exact).Sound ∧
      (ClockSettings.standard : ClockSettings Exact).IsFinite ∧
      Scalar.isFinite (Clock.start .standard : Clock Exact).timeInFrame = true ∧
      ∃ p, passage? [⟨real 5, true⟩, ⟨real 0, false⟩] ⟨Clock.start .standard, 0, 0⟩ = .ok p ∧
        p.commits ≤
          stepBound .standard (Clock.start .standard : Clock Exact).remaining + p.cutShort :=
  have hs := ClockSettings.standard_sound
  have hn := ClockSettings.standard_isFinite
  have ⟨p, hp, hcommits, _⟩ :=
    exists_passage? (c := Clock.start .standard) hs hn rfl [⟨real 5, true⟩, ⟨real 0, false⟩]
  ⟨hs, hn, rfl, p, hp, hcommits⟩

/-! ## Last steps cut short -/

/-- As long as every step is retried, the frame lasts. -/
lemma left_pos_of_retried {p q : Passage Exact} (h : p.clock.Running) (hleft : 0 < p.clock.left)
    {beats : List (Beat Exact)} (hall : ∀ b ∈ beats, b.retried = true)
    (hq : passage? beats p = .ok q) : q.clock.Running ∧ 0 < q.clock.left := by
  induction beats generalizing p with
  | nil =>
      obtain rfl := Except.ok.inj hq
      exact ⟨h, hleft⟩
  | cons b beats ih =>
      obtain ⟨r, hstep, hadvances⟩ := exists_step? p h hleft b
      rw [passage?, h.isFrameComplete_eq_false.mpr hleft, if_neg Bool.false_ne_true, hstep] at hq
      obtain ⟨hb, hbeats⟩ := List.forall_mem_cons.mp hall
      exact ih hadvances.running (hadvances.left_pos hb) hbeats hq

/-- Frames shorter than a step: each step is chosen to take all that is left. -/
noncomputable def shortFrames : ClockSettings Exact :=
  { ClockSettings.standard with frameLength := Scalar.ofDecimal 3 1 }

lemma frameLength_shortFrames : shortFrames.frameLength = real (3 / 10) := by
  rw [shortFrames, scalar_ofDecimal]
  norm_num

lemma sound_shortFrames : shortFrames.Sound where
  frameLength_pos := by
    rw [frameLength_shortFrames, literal, Nat.cast_zero, real_lt_real]
    norm_num
  timestep_pos := ClockSettings.standard_sound.timestep_pos
  timestepMin_pos := ClockSettings.standard_sound.timestepMin_pos
  bounds_le := ClockSettings.standard_sound.bounds_le
  cfl_finite := rfl

lemma isFinite_shortFrames : shortFrames.IsFinite := ⟨rfl, rfl, rfl, rfl⟩

/-- A frame shorter than a step never ends if all its steps are retried, however many are made. -/
theorem not_bounded_of_retries :
    shortFrames.frameLength = real (3 / 10) ∧ shortFrames.Sound ∧
    ¬∃ n, ∀ p, passage? (List.replicate n ⟨real 0, true⟩) ⟨Clock.start shortFrames, 0, 0⟩ = .ok p →
      p.clock.isFrameComplete = true := by
  refine ⟨frameLength_shortFrames, sound_shortFrames, ?_⟩
  rintro ⟨n, hends⟩
  have h := Running.start sound_shortFrames isFinite_shortFrames
  have hleft : 0 < (Clock.start shortFrames).left := by
    have hstart : (Clock.start shortFrames).left = 3 / 10 - ((0 : ℕ) : ℝ) :=
      congrArg (·.toReal - ((0 : ℕ) : ℝ)) frameLength_shortFrames
    rw [hstart]
    norm_num
  obtain ⟨p, hp, -⟩ := (Passage.paced_start h).passage? (List.replicate n ⟨real 0, true⟩)
  have hretried : ∀ b ∈ List.replicate n (⟨real 0, true⟩ : Beat Exact), b.retried = true :=
    fun b hb => by rw [List.eq_of_mem_replicate hb]
  obtain ⟨hrunning, hlasts⟩ := left_pos_of_retried h hleft hretried hp
  exact hlasts.ne' (hrunning.isFrameComplete_iff.mp (hends p hp))

end Clock

end FreeSurface

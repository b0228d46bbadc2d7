import FreeSurface.Proofs.Run.Timekeeping

/-!
# Steps that are told

A step tells that it is done exactly if it succeeds, once, and with the frame that it belongs to.
So the clock counts the steps of the frame in progress that have been told since the start,
whichever calls made them.

* `stepsTold` — how many steps of a frame are told.
* `Step.attempt_quiet` — the stages of a step tell of no step.
* `Simulation.tellsItself_advance` — **a step that succeeds is told once**, one that fails is not.
* `Clock.HasRoom` — the frame that a step will belong to has a number of its own.
* `Simulation.History` — the simulations that steps and frames lead to, with what they tell, as long
  as frames have numbers of their own.
* `Simulation.History.counts` — the clock counts what is told.
-/

namespace FreeSurface

variable {S D : Type}

/-- The event tells of a step of a frame. -/
def Event.isStepOf (frame : UInt32) : Event S D → Bool
  | .stepped k .. => k == frame
  | _ => false

/-- How many steps of a frame are told. -/
def stepsTold (frame : UInt32) (events : List (Event S D)) : ℕ := events.countP (·.isStepOf frame)

lemma stepsTold_append (frame : UInt32) (events more : List (Event S D)) :
    stepsTold frame (events ++ more) = stepsTold frame events + stepsTold frame more :=
  List.countP_append

/-! ## Stages -/

namespace Attempt

variable {α β : Type}

/-- The attempt tells of no step. -/
def Quiet (x : Attempt S D α) : Prop :=
  ∀ log, ∃ more, (x.run.run log).2 = log ++ more ∧ ∀ frame, stepsTold frame more = 0

lemma quiet_of_state {x : Attempt S D α} (h : ∀ log, (x.run.run log).2 = log) : Quiet x :=
  fun log => ⟨[], by rw [h, List.append_nil], fun _ => rfl⟩

lemma quiet_pure (a : α) : Quiet (pure a : Attempt S D α) := quiet_of_state fun _ => rfl

lemma Quiet.bind {x : Attempt S D α} {f : α → Attempt S D β} (hx : Quiet x)
    (hf : ∀ a, Quiet (f a)) : Quiet (x >>= f) := by
  intro log
  obtain ⟨more, hmore, hnone⟩ := hx log
  rw [run_bind]
  rcases h : x.run.run log with ⟨e | a, log'⟩ <;> rw [h] at hmore
  · exact ⟨more, hmore, hnone⟩
  · obtain rfl := hmore
    obtain ⟨rest, hrest, hnone'⟩ := hf a (log ++ more)
    refine ⟨more ++ rest, by rw [← List.append_assoc]; exact hrest, fun frame => ?_⟩
    rw [stepsTold_append, hnone, hnone']

lemma quiet_tell {events : List (Event S D)} (h : ∀ frame, stepsTold frame events = 0) :
    Quiet (Step.tell events) :=
  fun _ => ⟨events, rfl, h⟩

end Attempt

namespace Step

open Attempt

lemma requireFinite_quiet (stage : Stage) (quantity : String) (finite : Bool) :
    Quiet (requireFinite stage quantity finite : Attempt S D Unit) :=
  quiet_of_state fun _ => by cases finite <;> rfl

lemma inStage_quiet {α : Type} (stage : Stage) (r : Except (NumericalFailure D) α) :
    Quiet (inStage stage r : Attempt S D α) :=
  quiet_of_state fun _ => by cases r <;> rfl

variable {d : Dims} {R : Type} [Scalar S]

lemma adjustDensity_quiet [RandomSource R S] (c : Config S D) (s : State d S D R) :
    Quiet (adjustDensity c s) := by
  rw [adjustDensity]
  simp only
  split
  · exact (quiet_tell fun _ => rfl).bind fun _ => quiet_pure _
  · exact quiet_pure _

lemma transferVelocity_quiet (c : Config S D) (s : State d S D R) (frame : UInt32) :
    stepsTold frame (Variant.transferVelocity c s).2 = 0 := by
  rw [Variant.transferVelocity]
  cases c.mode <;> rfl

variable [Scalar D] [Precision S D]

lemma project_quiet (c : Config S D) (s : State d S D R) : Quiet (project c s) := by
  rw [project]
  refine Quiet.bind (quiet_tell fun frame => ?_) fun _ =>
    (inStage_quiet _ _).bind fun _ => quiet_pure _
  refine List.countP_eq_zero.mpr fun event h => ?_
  obtain ⟨_, -, rfl⟩ := List.mem_map.mp h
  exact Bool.false_ne_true

/-- The stages of a step tell of no step. -/
lemma attempt_quiet [RandomSource R S] (c : Config S D) (dt : D) (speed : S)
    (start : State d S D R) : Quiet (attempt c dt speed start) := by
  rw [attempt]
  refine (requireFinite_quiet _ _ _).bind fun _ => ?_
  refine (requireFinite_quiet _ _ _).bind fun _ => ?_
  refine (requireFinite_quiet _ _ _).bind fun _ => ?_
  refine (requireFinite_quiet _ _ _).bind fun _ => ?_
  refine Quiet.bind (quiet_tell (transferVelocity_quiet c _)) fun _ => ?_
  refine (requireFinite_quiet _ _ _).bind fun _ => ?_
  refine (project_quiet c _).bind fun _ => ?_
  refine (requireFinite_quiet _ _ _).bind fun _ => ?_
  refine (requireFinite_quiet _ _ _).bind fun _ => ?_
  refine (requireFinite_quiet _ _ _).bind fun _ => ?_
  refine (adjustDensity_quiet c _).bind fun _ => ?_
  refine (requireFinite_quiet _ _ _).bind fun _ => ?_
  exact quiet_pure _

end Step

namespace Simulation

variable {R : Type} [Scalar S] [Scalar D] [Precision S D] [RandomSource R S]

/-! ## Steps -/

lemma stepsTold_attemptStep (sim : Simulation S D R) (speed : S) (frame : UInt32) :
    stepsTold frame (sim.attemptStep speed).2 = 0 := by
  obtain ⟨more, hmore, hnone⟩ :=
    Step.attempt_quiet sim.config sim.state.clock.dt speed sim.state []
  have hevents : (sim.attemptStep speed).2 = more := hmore
  rw [hevents, hnone]

omit [Scalar S] [Scalar D] [Precision S D] [RandomSource R S] in
lemma stepsTold_stepEvent (sim : Simulation S D R) (report : StepReport S D) (frame : UInt32) :
    stepsTold frame [sim.stepEvent report] = if sim.state.clock.frame = frame then 1 else 0 := by
  rw [stepsTold, List.countP_singleton, stepEvent, Event.isStepOf]
  simp only [beq_iff_eq]

/-- What is told of steps is that one is done, if it is. -/
def Advance.TellsItself (a : Advance S D R) : Prop :=
  ∀ frame, stepsTold frame a.events =
    if a.result.isOk = true ∧ a.simulation.state.clock.frame = frame then 1 else 0

lemma tellsItself_advancePrepared (sim : Simulation S D R) (speed : S) :
    (sim.advancePrepared speed).TellsItself := by
  have hchosen := stepsTold_attemptStep sim speed
  have hhalved := stepsTold_attemptStep (sim.withClock sim.state.clock.halve) speed
  rw [advancePrepared]
  simp only
  rcases hx : sim.attemptStep speed with ⟨first | ⟨done, report⟩, events⟩ <;> rw [hx] at hchosen
  · have hretrying : ∀ dt frame, stepsTold frame [(.retrying sim.state.clock.frame
        sim.state.clock.stepsInFrame first dt : Event S D)] = 0 := fun _ _ => rfl
    rcases hy : (sim.withClock sim.state.clock.halve).attemptStep speed with
      ⟨second | ⟨done, report⟩, more⟩ <;> rw [hy] at hhalved <;> intro frame
    · simp only [stepsTold_append, hchosen, hhalved, hretrying]
      rfl
    · simp only [stepsTold_append, hchosen, hhalved, hretrying, stepsTold_stepEvent, Except.isOk,
        Except.toBool, true_and, Nat.zero_add]
  · intro frame
    simp only [stepsTold_append, hchosen, stepsTold_stepEvent, Except.isOk, Except.toBool,
      true_and, Nat.zero_add]

/-- **A step that succeeds is told once**, and one that fails is not. -/
theorem tellsItself_advance (sim : Simulation S D R) : sim.advance.TellsItself := by
  rw [advance]
  cases sim.prepare with
  | error e => exact fun _ => rfl
  | ok prepared => exact tellsItself_advancePrepared prepared sim.state.velocity.maxMagnitude

end Simulation

/-! ## Frames -/

namespace Clock

variable [Scalar D]

/-- How many frames are complete, by the count of the clock. -/
def completed (c : Clock D) : ℕ := c.frame.toNat + c.isFrameComplete.toNat

lemma completed_of_complete {c : Clock D} (h : c.isFrameComplete = true) :
    c.completed = c.frame.toNat + 1 := by
  rw [completed, h, Bool.toNat_true]

lemma completed_of_open {c : Clock D} (h : c.isFrameComplete = false) :
    c.completed = c.frame.toNat := by
  rw [completed, h, Bool.toNat_false, Nat.add_zero]

/-- A word holds the number of the frame in progress, or of the next one if that is complete. -/
def HasRoom (c : Clock D) : Prop := c.completed < UInt32.size

lemma hasRoom_of_open {c : Clock D} (h : c.isFrameComplete = false) : c.HasRoom := by
  rw [HasRoom, completed_of_open h]
  exact c.frame.toNat_lt_size

lemma HasRoom.toNat_add_one {c : Clock D} (hroom : c.HasRoom) (h : c.isFrameComplete = true) :
    (c.frame + 1).toNat = c.frame.toNat + 1 := by
  rw [HasRoom, completed_of_complete h] at hroom
  rw [UInt32.toNat_add, UInt32.toNat_one, Nat.mod_eq_of_lt hroom]

/-- The frame in progress, or the next one if that is complete. -/
lemma HasRoom.toNat_frame_rollover {c : Clock D} (hroom : c.HasRoom) :
    c.rollover.frame.toNat = c.completed := by
  cases h : c.isFrameComplete with
  | true =>
      rw [rollover, if_pos h, completed_of_complete h]
      exact hroom.toNat_add_one h
  | false => rw [rollover_of_open h, completed_of_open h]

lemma frame_commit (c : Clock D) : c.commit.frame = c.frame := by
  rw [commit]
  split_ifs <;> rfl

lemma stepsInFrame_commit (c : Clock D) : c.commit.stepsInFrame = c.stepsInFrame + 1 := by
  rw [commit]
  split_ifs <;> rfl

/-- The clock has counted, in a word, what is told: the steps of its frame, and none of a later
one. -/
structure Counts {S : Type} (c : Clock D) (events : List (Event S D)) : Prop where
  stepsInFrame_eq : c.stepsInFrame = .ofNat (stepsTold c.frame events)
  later : ∀ frame, c.frame < frame → stepsTold frame events = 0

lemma Counts.rollover {c : Clock D} {events : List (Event S D)} (h : c.Counts events)
    (hroom : c.HasRoom) : c.rollover.Counts events := by
  rw [Clock.rollover]
  split_ifs with hcomplete
  · have hnext : c.frame < c.frame + 1 := by
      rw [UInt32.lt_iff_toNat_lt, hroom.toNat_add_one hcomplete]
      exact Nat.lt_succ_self _
    refine ⟨?_, fun frame hlater => h.later frame (UInt32.lt_trans hnext hlater)⟩
    show 0 = UInt32.ofNat (stepsTold (c.frame + 1) events)
    rw [h.later _ hnext]
    rfl
  · exact h

end Clock

namespace Simulation

variable {R : Type} [Scalar S] [Scalar D] [Precision S D] [RandomSource R S]

/-- A step belongs to the frame in progress, and is counted if it succeeds. -/
lemma clock_advance (sim : Simulation S D R) :
    sim.advance.simulation.state.clock.frame = sim.state.clock.rollover.frame ∧
      sim.advance.simulation.state.clock.stepsInFrame = sim.state.clock.rollover.stepsInFrame +
        if sim.advance.result.isOk = true then 1 else 0 := by
  cases hresult : sim.advance.result with
  | ok report =>
      obtain ⟨pending, hpends, hclock, -⟩ := clock_of_advance_ok hresult
      obtain ⟨dt, rfl⟩ := hpends.exists_eq
      rw [hclock, Clock.frame_commit, Clock.stepsInFrame_commit]
      exact ⟨rfl, rfl⟩
  | error e =>
      rcases clock_of_advance_error hresult with hclock | hpends
      · rw [hclock]
        exact ⟨rfl, (UInt32.add_zero _).symm⟩
      · obtain ⟨dt, hclock⟩ := hpends.exists_eq
        rw [hclock]
        exact ⟨rfl, (UInt32.add_zero _).symm⟩

/-- A step that fails completes no frame. -/
lemma isFrameComplete_advance_error {sim : Simulation S D R} {e : StepFailure D}
    (h : sim.advance.result = .error e) :
    sim.advance.simulation.state.clock.isFrameComplete =
      sim.state.clock.rollover.isFrameComplete := by
  rcases clock_of_advance_error h with hclock | hpends
  · rw [hclock]
  · obtain ⟨dt, hclock⟩ := hpends.exists_eq
    rw [hclock]
    rfl

lemma counts_advance {sim : Simulation S D R} {events : List (Event S D)}
    (h : sim.state.clock.Counts events) (hroom : sim.state.clock.HasRoom) :
    sim.advance.simulation.state.clock.Counts (events ++ sim.advance.events) := by
  obtain ⟨hframe, hsteps⟩ := clock_advance sim
  have hrolled := h.rollover hroom
  constructor
  · rw [hsteps, stepsTold_append, tellsItself_advance, hframe, hrolled.stepsInFrame_eq,
      UInt32.ofNat_add]
    simp only [and_true, apply_ite UInt32.ofNat]
    rfl
  · intro frame hlater
    rw [hframe] at hlater
    rw [stepsTold_append, tellsItself_advance, hrolled.later frame hlater, hframe,
      if_neg fun h => (UInt32.ne_of_lt hlater) h.2]

/-- No step of a complete frame is told any more. -/
lemma stepsTold_advance_of_completed {sim : Simulation S D R} {frame : UInt32}
    (h : frame.toNat < sim.state.clock.completed) (hroom : sim.state.clock.HasRoom) :
    stepsTold frame sim.advance.events = 0 := by
  rw [← hroom.toNat_frame_rollover, ← (clock_advance sim).1] at h
  rw [tellsItself_advance, if_neg fun hown => h.ne' (congrArg UInt32.toNat hown.2)]

/-! ## Runs of steps -/

/-- What is kept by a step within a frame, and by telling of a frame, is kept by a frame that comes
to an end. -/
lemma runFrame_tells {P : Simulation S D R → List (Event S D) → Prop}
    (hadvance : ∀ sim events, sim.state.clock.isFrameComplete = false → P sim events →
      P sim.advance.simulation (events ++ sim.advance.events))
    (hdone : ∀ sim events record, P sim events → P sim (events ++ [frameEvent record]))
    {sim : Simulation S D R} {run : FrameRun (FrameRecord S D) S D R}
    (hrun : sim.runFrame = some run) {events : List (Event S D)}
    (h : P (sim.withClock sim.state.clock.rollover) events) :
    P run.simulation (events ++ run.events) := by
  obtain ⟨steps, hsteps, rfl⟩ := runFrame_eq_some.mp hrun
  have hstepped : ∀ events, P (sim.withClock sim.state.clock.rollover) events →
      P steps.simulation (events ++ steps.events) := by
    refine stepThrough_induction
      (motive := fun _ sim run => ∀ events, P sim events → P run.simulation (events ++ run.events))
      (fun _ sim _ events h => ?_) (fun _ sim _ hopen _ events h => hadvance sim events hopen h)
      (fun _ sim _ rest hopen _ ih events h => ?_) hsteps
    · rwa [List.append_nil]
    · rw [← List.append_assoc]
      exact ih _ (hadvance sim events hopen h)
  rw [FrameRun.summarize]
  split
  · exact hstepped events h
  · rw [← List.append_assoc]
    exact hdone _ _ _ (hstepped events h)

lemma counts_runFrame {sim : Simulation S D R} {run : FrameRun (FrameRecord S D) S D R}
    (hrun : sim.runFrame = some run) {events : List (Event S D)}
    (h : sim.state.clock.Counts events) (hroom : sim.state.clock.HasRoom) :
    run.simulation.state.clock.Counts (events ++ run.events) := by
  refine runFrame_tells (P := fun sim events => sim.state.clock.Counts events)
    (fun _ _ hopen h => counts_advance h (Clock.hasRoom_of_open hopen))
    (fun sim events record h => ?_) hrun (h.rollover hroom)
  have hnone : ∀ frame, stepsTold frame [frameEvent record] = 0 := fun _ => rfl
  refine ⟨?_, fun frame hlater => ?_⟩
  · rw [stepsTold_append, hnone]
    exact h.stepsInFrame_eq
  · rw [stepsTold_append, hnone]
    exact h.later frame hlater

/-- What is told, on the way, of the simulations that steps and frames lead to, as long as no two
frames have the same number. -/
inductive History (c : Config S D) : Simulation S D R → List (Event S D) → Prop
  | start : History c (Simulation.start c) []
  | advance {sim : Simulation S D R} {events : List (Event S D)} :
      History c sim events → sim.state.clock.HasRoom →
        History c sim.advance.simulation (events ++ sim.advance.events)
  | runFrame {sim : Simulation S D R} {run : FrameRun (FrameRecord S D) S D R}
      {events : List (Event S D)} :
      History c sim events → sim.state.clock.HasRoom → sim.runFrame = some run →
        History c run.simulation (events ++ run.events)

namespace History

variable {c : Config S D} {sim : Simulation S D R} {events : List (Event S D)}

lemma reachable (h : History c sim events) : Reachable c sim := by
  induction h with
  | start => exact .start
  | advance _ _ ih => exact ih.advance
  | runFrame _ _ hrun ih => exact ih.runFrame hrun

/-- **The clock counts what is told.** -/
theorem counts (h : History c sim events) : sim.state.clock.Counts events := by
  induction h with
  | start => exact ⟨rfl, fun _ _ => rfl⟩
  | advance _ hroom ih => exact counts_advance ih hroom
  | runFrame _ hroom hrun ih => exact counts_runFrame hrun ih hroom

/-- On exact numbers the clock has counted all frames before the one in progress. -/
lemma clock_run {R : Type} [RandomSource R Exact] {c : Config Exact Exact}
    {sim : Simulation Exact Exact R} {events : List (Event Exact Exact)}
    (hs : c.normalized.clock.Sound) (hn : c.normalized.clock.IsFinite) (h : History c sim events) :
    ∃ sizes, Clock.Run c.normalized.clock sim.state.clock sim.state.clock.frame.toNat sizes := by
  have hadvance : ∀ sim : Simulation Exact Exact R, sim.state.clock.HasRoom →
      (∃ sizes, Clock.Run c.normalized.clock sim.state.clock sim.state.clock.frame.toNat sizes) →
      ∃ sizes, Clock.Run c.normalized.clock sim.advance.simulation.state.clock
        sim.advance.simulation.state.clock.frame.toNat sizes := by
    rintro sim hroom ⟨sizes, hrun⟩
    rw [(clock_advance sim).1, hroom.toNat_frame_rollover]
    exact exists_run_advance hs hn hrun
  induction h with
  | start => exact ⟨[], .start⟩
  | advance _ hroom ih => exact hadvance _ hroom ih
  | runFrame _ hroom hrun ih =>
      obtain ⟨sizes, hclock⟩ := ih
      have hrolled := hclock.exists_rollover
      rw [← Clock.completed, ← hroom.toNat_frame_rollover] at hrolled
      exact runFrame_keeps (P := fun sim : Simulation Exact Exact R => ∃ sizes,
          Clock.Run c.normalized.clock sim.state.clock sim.state.clock.frame.toNat sizes)
        (fun sim hopen => hadvance sim (Clock.hasRoom_of_open hopen)) hrun hrolled

end History

end Simulation

end FreeSurface

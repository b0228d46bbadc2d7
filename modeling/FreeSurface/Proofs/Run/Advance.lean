import FreeSurface.Proofs.Run.Attempt
import FreeSurface.Run.Frame

/-!
# Advancing by a step

`Simulation.advance` makes at most two attempts.  How it can end is said once, in
`Simulation.ending_advance`; everything about runs is derived from it.

* `Simulation.LeadsTo`, `Simulation.Reachable` — the simulations that steps and frames lead to, from
  another one or from a start.
* `Simulation.LeadsTo.invariant`, `Simulation.Reachable.invariant` — what is kept by setting the
  clock and by a step that succeeds is kept by every run.
-/

namespace FreeSurface

namespace Simulation

variable {S D R : Type} [Scalar S] [Scalar D] [Precision S D] [RandomSource R S]

omit [Scalar S] [Scalar D] [Precision S D] [RandomSource R S] in
def withState (sim : Simulation S D R) (s : State sim.dims S D R) : Simulation S D R :=
  { sim with state := s }

/-- The outcome of a step of size `dt` from the state of a simulation. -/
def outcome (sim : Simulation S D R) (dt : D) (speed : S) :
    Except (StageFailure D) (State sim.dims S D R × StepReport S D) :=
  Step.outcome sim.config dt speed sim.state

lemma attemptStep_fst (sim : Simulation S D R) (speed : S) :
    (sim.attemptStep speed).1 =
      (sim.outcome sim.state.clock.dt speed).map fun r => (sim.withState r.1, r.2) := by
  have h := Step.attempt_settles sim.config sim.state.clock.dt speed sim.state []
  rw [outcome, ← h]
  rfl

omit [RandomSource R S] in
/-- Preparing a step only sets the clock. -/
lemma prepare_eq_ok {sim prepared : Simulation S D R} :
    sim.prepare = .ok prepared ↔
      ∃ clock,
        sim.state.clock.rollover.choose? (widen sim.state.velocity.maxMagnitude) = .ok clock ∧
        prepared = sim.withClock clock := by
  rw [prepare]
  cases sim.state.clock.rollover.choose? (widen sim.state.velocity.maxMagnitude) with
  | error e => simp [Except.map]
  | ok clock => simp [Except.map, eq_comm]

/-- The ways in which a step can end, with its result and the simulation after it. -/
inductive Ending (sim : Simulation S D R) :
    Except (StepFailure D) (StepReport S D) → Simulation S D R → Prop
  /-- No size can be chosen for the step. -/
  | unprepared {e : UnorderedBounds} : sim.prepare = .error e →
      Ending sim (.error .unorderedBounds) (sim.withClock sim.state.clock.rollover)
  /-- It succeeds at the chosen size. -/
  | chosen {prepared : Simulation S D R} {final : State prepared.dims S D R}
      {report : StepReport S D} :
      sim.prepare = .ok prepared →
      prepared.outcome prepared.state.clock.dt sim.state.velocity.maxMagnitude
        = .ok (final, report) →
      Ending sim (.ok report) ((prepared.withState final).withClock prepared.state.clock.commit)
  /-- It succeeds at half that size. -/
  | halved {prepared : Simulation S D R} {first : StageFailure D}
      {final : State prepared.dims S D R} {report : StepReport S D} :
      sim.prepare = .ok prepared →
      prepared.outcome prepared.state.clock.dt sim.state.velocity.maxMagnitude = .error first →
      prepared.outcome prepared.state.clock.halve.dt sim.state.velocity.maxMagnitude
        = .ok (final, report) →
      Ending sim (.ok { report with retried := true })
        ((prepared.withState final).withClock prepared.state.clock.halve.commit)
  /-- It fails at both. -/
  | failed {prepared : Simulation S D R} {first second : StageFailure D} :
      sim.prepare = .ok prepared →
      prepared.outcome prepared.state.clock.dt sim.state.velocity.maxMagnitude = .error first →
      prepared.outcome prepared.state.clock.halve.dt sim.state.velocity.maxMagnitude
        = .error second →
      Ending sim
        (.error (.aborted prepared.state.clock.frame prepared.state.clock.stepsInFrame second))
        prepared

/-- The clock does not decide the outcome, so an attempt at half the size can be read from the state
in which the step was prepared. -/
lemma attemptStep_halve (sim : Simulation S D R) (speed : S) :
    ((sim.withClock sim.state.clock.halve).attemptStep speed).1 =
      (sim.outcome sim.state.clock.halve.dt speed).map fun r =>
        ((sim.withState r.1).withClock sim.state.clock.halve, r.2) := by
  rw [attemptStep_fst]
  show Except.map _ (Step.outcome sim.config sim.state.clock.halve.dt speed
    (Step.withClock sim.state sim.state.clock.halve)) = _
  rw [Step.outcome_withClock]
  rw [outcome]
  cases Step.outcome sim.config sim.state.clock.halve.dt speed sim.state <;> rfl

/-- A step that succeeds hands the clock on, so what is committed afterwards is the one it was
given. -/
lemma commit_withState {sim : Simulation S D R} {dt : D} {speed : S}
    {final : State sim.dims S D R} {report : StepReport S D}
    (h : sim.outcome dt speed = .ok (final, report)) :
    (sim.withState final).commit = (sim.withState final).withClock sim.state.clock.commit := by
  obtain ⟨p, hp⟩ := Step.outcome_eq_ok.mp h
  show (sim.withState final).withClock final.clock.commit = _
  rw [hp.clock_eq]

/-- **A step ends in one of four ways.** -/
theorem ending_advance (sim : Simulation S D R) :
    Ending sim sim.advance.result sim.advance.simulation := by
  rw [advance]
  cases hprepare : sim.prepare with
  | error e => exact .unprepared hprepare
  | ok prepared =>
      -- Both attempts are read off outcomes, so from here on only those are told apart.
      have hchosen := attemptStep_fst prepared sim.state.velocity.maxMagnitude
      have hhalved := attemptStep_halve prepared sim.state.velocity.maxMagnitude
      simp only [advancePrepared]
      rcases hx : prepared.attemptStep sim.state.velocity.maxMagnitude with ⟨x, events⟩
      rcases hy : (prepared.withClock prepared.state.clock.halve).attemptStep
        sim.state.velocity.maxMagnitude with ⟨y, more⟩
      rw [hx] at hchosen
      rw [hy] at hhalved
      cases hfirst : prepared.outcome prepared.state.clock.dt sim.state.velocity.maxMagnitude with
      | ok r =>
          rw [hfirst] at hchosen
          obtain rfl := hchosen
          show Ending sim (.ok r.2) (prepared.withState r.1).commit
          rw [commit_withState hfirst]
          exact .chosen hprepare hfirst
      | error first =>
          rw [hfirst] at hchosen
          obtain rfl := hchosen
          cases hsecond : prepared.outcome prepared.state.clock.halve.dt
              sim.state.velocity.maxMagnitude with
          | ok r =>
              rw [hsecond] at hhalved
              obtain rfl := hhalved
              show Ending sim (.ok { r.2 with retried := true })
                ((prepared.withState r.1).withClock prepared.state.clock.halve.commit)
              exact .halved hprepare hfirst hsecond
          | error second =>
              rw [hsecond] at hhalved
              obtain rfl := hhalved
              exact .failed hprepare hfirst hsecond

/-- How a step ends, told from the outcomes of its attempts. -/
def settled (sim : Simulation S D R) : Except (StepFailure D) (StepReport S D) × Simulation S D R :=
  match sim.prepare with
  | .error _ => (.error .unorderedBounds, sim.withClock sim.state.clock.rollover)
  | .ok prepared =>
    match prepared.outcome prepared.state.clock.dt sim.state.velocity.maxMagnitude with
    | .ok (final, report) =>
      (.ok report, (prepared.withState final).withClock prepared.state.clock.commit)
    | .error _ =>
      match prepared.outcome prepared.state.clock.halve.dt sim.state.velocity.maxMagnitude with
      | .ok (final, report) =>
        (.ok { report with retried := true },
          (prepared.withState final).withClock prepared.state.clock.halve.commit)
      | .error second =>
        (.error (.aborted prepared.state.clock.frame prepared.state.clock.stepsInFrame second),
          prepared)

lemma Ending.eq_settled {sim after : Simulation S D R}
    {result : Except (StepFailure D) (StepReport S D)} (h : Ending sim result after) :
    (result, after) = sim.settled := by
  cases h with
  | unprepared hprepare => simp only [settled, hprepare]
  | chosen hprepare hfirst => simp only [settled, hprepare, hfirst]
  | halved hprepare hfirst hsecond => simp only [settled, hprepare, hfirst, hsecond]
  | failed hprepare hfirst hsecond => simp only [settled, hprepare, hfirst, hsecond]

/-- A step ends in one way only. -/
lemma advance_of_ending {sim after : Simulation S D R}
    {result : Except (StepFailure D) (StepReport S D)} (h : Ending sim result after) :
    sim.advance.result = result ∧ sim.advance.simulation = after :=
  Prod.mk.inj ((ending_advance sim).eq_settled.trans h.eq_settled.symm)

lemma advance_of_outcome {sim prepared : Simulation S D R} {final : State prepared.dims S D R}
    {report : StepReport S D} (hprepare : sim.prepare = .ok prepared)
    (h : prepared.outcome prepared.state.clock.dt sim.state.velocity.maxMagnitude
      = .ok (final, report)) : sim.advance.result = .ok report :=
  (advance_of_ending (.chosen hprepare h)).1

/-- What a step that succeeds is made of, whether at the first attempt or at the second. -/
lemma completed_of_advance {sim : Simulation S D R} {report : StepReport S D}
    (h : sim.advance.result = .ok report) :
    ∃ prepared dt speed p final, ∃ first : StepReport S D, ∃ clock : Clock D,
      sim.prepare = .ok prepared ∧
      Step.Completed prepared.config dt speed prepared.state p final first ∧
      sim.advance.simulation = (prepared.withState final).withClock clock ∧
      report = { first with retried := report.retried } := by
  have hending := ending_advance sim
  rw [h] at hending
  generalize sim.advance.simulation = after at hending
  cases hending with
  | chosen hprepare hfirst =>
      obtain ⟨p, hp⟩ := Step.outcome_eq_ok.mp hfirst
      exact ⟨_, _, _, p, _, _, _, hprepare, hp, rfl, rfl⟩
  | halved hprepare _ hsecond =>
      obtain ⟨p, hp⟩ := Step.outcome_eq_ok.mp hsecond
      exact ⟨_, _, _, p, _, _, _, hprepare, hp, rfl, rfl⟩

/-! ## Runs -/

/-- The simulations that steps and frames lead to, whether they succeed or fail. -/
inductive Reachable (c : Config S D) : Simulation S D R → Prop
  | start : Reachable c (Simulation.start c)
  | advance {sim : Simulation S D R} : Reachable c sim → Reachable c sim.advance.simulation
  | runFrame {sim : Simulation S D R} {run : FrameRun (FrameRecord S D) S D R} :
      Reachable c sim → sim.runFrame = some run → Reachable c run.simulation

/-- Steps and frames lead from one simulation to another, whether they succeed or fail. -/
inductive LeadsTo (sim : Simulation S D R) : Simulation S D R → Prop
  | refl : LeadsTo sim sim
  | advance {later : Simulation S D R} : LeadsTo sim later → LeadsTo sim later.advance.simulation
  | runFrame {later : Simulation S D R} {run : FrameRun (FrameRecord S D) S D R} :
      LeadsTo sim later → later.runFrame = some run → LeadsTo sim run.simulation

lemma Reachable.leadsTo {c : Config S D} {sim : Simulation S D R} (h : Reachable c sim) :
    LeadsTo (Simulation.start c) sim := by
  induction h with
  | start => exact .refl
  | advance _ ih => exact ih.advance
  | runFrame _ hrun ih => exact ih.runFrame hrun

/-! ## The steps of a frame -/

/-- Induction on the steps of a frame that come to an end: it is complete, a step fails, or a step
succeeds and others follow. -/
lemma stepThrough_induction
    {motive : Tally → Simulation S D R → FrameRun Tally S D R → Prop}
    (complete : ∀ tally sim, sim.state.clock.isFrameComplete = true →
      motive tally sim ⟨.ok tally, sim, []⟩)
    (failure : ∀ tally sim e, sim.state.clock.isFrameComplete = false →
      sim.advance.result = .error e →
      motive tally sim ⟨.error e, sim.advance.simulation, sim.advance.events⟩)
    (step : ∀ tally sim report rest, sim.state.clock.isFrameComplete = false →
      sim.advance.result = .ok report →
      motive (tally.count report) sim.advance.simulation rest →
      motive tally sim { rest with events := sim.advance.events ++ rest.events })
    {tally : Tally} {sim : Simulation S D R} {run : FrameRun Tally S D R}
    (h : stepThrough tally sim = some run) : motive tally sim run := by
  refine stepThrough.partial_correctness motive (fun rec ih tally sim run hrun => ?_) tally sim run
    h
  by_cases hcomplete : sim.state.clock.isFrameComplete = true
  · rw [if_pos hcomplete] at hrun
    obtain rfl := Option.some.inj hrun
    exact complete tally sim hcomplete
  · have hopen := Bool.eq_false_iff.mpr hcomplete
    rw [if_neg hcomplete] at hrun
    cases hresult : sim.advance.result with
    | error e =>
        simp only [hresult] at hrun
        obtain rfl := Option.some.inj hrun
        exact failure tally sim e hopen hresult
    | ok report =>
        simp only [hresult, Option.bind_eq_bind, Option.bind_eq_some_iff] at hrun
        obtain ⟨rest, hrest, hrun⟩ := hrun
        obtain rfl := Option.some.inj hrun
        exact step tally sim report rest hopen hresult (ih _ _ rest hrest)

/-- A frame that comes to an end rolls the clock over and steps through. -/
lemma runFrame_eq_some {sim : Simulation S D R} {run : FrameRun (FrameRecord S D) S D R} :
    sim.runFrame = some run ↔
      ∃ steps, stepThrough ⟨0, 0⟩ (sim.withClock sim.state.clock.rollover) = some steps ∧
        steps.summarize = run :=
  Option.map_eq_some_iff

omit [RandomSource R S] in
lemma simulation_summarize (steps : FrameRun Tally S D R) :
    steps.summarize.simulation = steps.simulation := by
  rw [FrameRun.summarize]
  split <;> rfl

section Invariant

variable {P : Simulation S D R → Prop}

/-- What is kept by setting the clock and by a step that succeeds is kept by a step. -/
lemma advance_keeps (hclock : ∀ sim clock, P sim → P (sim.withClock clock))
    (hstep : ∀ (sim : Simulation S D R) (dt : D) (speed : S) p final report, P sim →
      Step.Completed sim.config dt speed sim.state p final report → P (sim.withState final))
    {sim : Simulation S D R} (h : P sim) : P sim.advance.simulation := by
  have hending := ending_advance sim
  have hprepared : ∀ {prepared}, sim.prepare = .ok prepared → P prepared := by
    intro prepared hprepare
    obtain ⟨clock, -, rfl⟩ := prepare_eq_ok.mp hprepare
    exact hclock sim clock h
  generalize sim.advance.simulation = after at hending ⊢
  generalize sim.advance.result = result at hending
  cases hending with
  | unprepared _ => exact hclock sim _ h
  | chosen hprepare hfirst =>
      obtain ⟨p, hp⟩ := Step.outcome_eq_ok.mp hfirst
      exact hclock _ _ (hstep _ _ _ p _ _ (hprepared hprepare) hp)
  | halved hprepare _ hsecond =>
      obtain ⟨p, hp⟩ := Step.outcome_eq_ok.mp hsecond
      exact hclock _ _ (hstep _ _ _ p _ _ (hprepared hprepare) hp)
  | failed hprepare _ _ => exact hprepared hprepare

/-- A frame rolls the clock over before its first step and makes steps within it after that. -/
lemma runFrame_keeps
    (hadvance : ∀ sim : Simulation S D R, sim.state.clock.isFrameComplete = false → P sim →
      P sim.advance.simulation)
    {sim : Simulation S D R} {run : FrameRun (FrameRecord S D) S D R}
    (hrun : sim.runFrame = some run) (h : P (sim.withClock sim.state.clock.rollover)) :
    P run.simulation := by
  obtain ⟨steps, hsteps, rfl⟩ := runFrame_eq_some.mp hrun
  rw [simulation_summarize]
  exact stepThrough_induction (motive := fun _ sim run => P sim → P run.simulation)
    (fun _ _ _ h => h) (fun _ sim _ hopen _ h => hadvance sim hopen h)
    (fun _ sim _ _ hopen _ ih h => ih (hadvance sim hopen h)) hsteps h

/-- **What is kept by setting the clock and by a step that succeeds is kept by every run.** -/
theorem LeadsTo.invariant (hclock : ∀ sim clock, P sim → P (sim.withClock clock))
    (hstep : ∀ (sim : Simulation S D R) (dt : D) (speed : S) p final report, P sim →
      Step.Completed sim.config dt speed sim.state p final report → P (sim.withState final))
    {sim later : Simulation S D R} (h : sim.LeadsTo later) (hsim : P sim) : P later := by
  have hadvance : ∀ sim : Simulation S D R, P sim → P sim.advance.simulation :=
    fun sim hsim => advance_keeps hclock hstep hsim
  induction h with
  | refl => exact hsim
  | advance _ ih => exact hadvance _ ih
  | runFrame _ hrun ih => exact runFrame_keeps (fun sim _ => hadvance sim) hrun (hclock _ _ ih)

/-- What holds at the start, too, holds in every run of a configuration. -/
theorem Reachable.invariant {c : Config S D} (hstart : P (Simulation.start c))
    (hclock : ∀ sim clock, P sim → P (sim.withClock clock))
    (hstep : ∀ (sim : Simulation S D R) (dt : D) (speed : S) p final report, P sim →
      Step.Completed sim.config dt speed sim.state p final report → P (sim.withState final))
    {sim : Simulation S D R} (h : Reachable c sim) : P sim :=
  h.leadsTo.invariant hclock hstep hstart

end Invariant

/-- No step changes configuration or domain. -/
lemma Reachable.config_eq {c : Config S D} {sim : Simulation S D R} (h : Reachable c sim) :
    sim.config = c.normalized ∧ sim.dims = c.normalizedDims :=
  Reachable.invariant (P := fun sim => sim.config = c.normalized ∧ sim.dims = c.normalizedDims)
    ⟨rfl, rfl⟩ (fun _ _ h => h) (fun _ _ _ _ _ _ h _ => h) h

end Simulation

end FreeSurface

import FreeSurface.Proofs.Clock.Accounts
import FreeSurface.Proofs.Run.Advance

/-!
# The clock in a run

A step rolls the clock over, chooses a size and commits the chosen one or half of it, so the clock
of a simulation is one that runs of clocks lead to (`Simulation.Reachable.clock_run`).  What it
accounts for are the sizes that steps report: `Simulation.Reachable.accounts_advance`.
-/

namespace FreeSurface

namespace Clock.Run

lemma exists_rollover {D : Type} [Scalar D] {s : ClockSettings D} {c : Clock D} {frames : ℕ}
    {sizes : List D} (h : Run s c frames sizes) :
    ∃ sizes, Run s c.rollover (frames + c.isFrameComplete.toNat) sizes := by
  rw [Clock.rollover]
  cases hcomplete : c.isFrameComplete with
  | true => exact ⟨_, h.nextFrame hcomplete⟩
  | false => exact ⟨_, h⟩

lemma isFrameComplete_rollover {s : ClockSettings Exact} {c : Clock Exact} {frames : ℕ}
    {sizes : List Exact} (hs : s.Sound) (hn : s.IsFinite) (h : Run s c frames sizes) :
    c.rollover.isFrameComplete = false :=
  have hrunning := (h.keeps hs hn).2.1
  hrunning.rollover.isFrameComplete_eq_false.mpr hrunning.left_rollover_pos

end Clock.Run

namespace Simulation

section Advance

variable {S D R : Type} [Scalar S] [Scalar D] [Precision S D] [RandomSource R S]

/-- A step that succeeds commits the size that it reports. -/
lemma clock_of_advance_ok {sim : Simulation S D R} {report : StepReport S D}
    (h : sim.advance.result = .ok report) :
    ∃ pending, sim.state.clock.rollover.Pends pending ∧
      sim.advance.simulation.state.clock = pending.commit ∧ report.dt = pending.dt := by
  have hending := ending_advance sim
  rw [h] at hending
  generalize sim.advance.simulation = after at hending ⊢
  cases hending with
  | chosen hprepare hfirst =>
      obtain ⟨clock, hchoose, rfl⟩ := prepare_eq_ok.mp hprepare
      obtain ⟨p, hp⟩ := Step.outcome_eq_ok.mp hfirst
      exact ⟨clock, .chosen hchoose, rfl, by rw [hp.report_eq]; rfl⟩
  | halved hprepare _ hsecond =>
      obtain ⟨clock, hchoose, rfl⟩ := prepare_eq_ok.mp hprepare
      obtain ⟨p, hp⟩ := Step.outcome_eq_ok.mp hsecond
      exact ⟨clock.halve, .halved hchoose, rfl, by rw [hp.report_eq]; rfl⟩

/-- A step that fails commits nothing. -/
lemma clock_of_advance_error {sim : Simulation S D R} {e : StepFailure D}
    (h : sim.advance.result = .error e) :
    sim.advance.simulation.state.clock = sim.state.clock.rollover ∨
      sim.state.clock.rollover.Pends sim.advance.simulation.state.clock := by
  have hending := ending_advance sim
  rw [h] at hending
  generalize sim.advance.simulation = after at hending ⊢
  cases hending with
  | unprepared _ => exact .inl rfl
  | failed hprepare _ _ =>
      obtain ⟨clock, hchoose, rfl⟩ := prepare_eq_ok.mp hprepare
      exact .inr (.chosen hchoose)

end Advance

/-! ## Runs -/

variable {R : Type} [RandomSource R Exact] {c : Config Exact Exact} {sim : Simulation Exact Exact R}
  {s : ClockSettings Exact} {frames : ℕ} {sizes : List Exact}

/-- A step that succeeds enters the size that it reports. -/
lemma run_of_advance_ok (hs : s.Sound) (hn : s.IsFinite)
    (h : Clock.Run s sim.state.clock frames sizes)
    {report : StepReport Exact Exact} (hreport : sim.advance.result = .ok report) :
    ∃ before, Clock.Run s sim.state.clock.rollover
        (frames + sim.state.clock.isFrameComplete.toNat) before ∧
      Clock.Run s sim.advance.simulation.state.clock
        (frames + sim.state.clock.isFrameComplete.toNat) (before ++ [report.dt]) := by
  obtain ⟨before, hroll⟩ := h.exists_rollover
  obtain ⟨pending, hpends, hclock, hdt⟩ := clock_of_advance_ok hreport
  rw [hclock, hdt]
  exact ⟨before, hroll, hroll.commit (h.isFrameComplete_rollover hs hn) hpends⟩

/-- A step begins the next frame if the one in progress is complete. -/
lemma exists_run_advance (hs : s.Sound) (hn : s.IsFinite)
    (h : Clock.Run s sim.state.clock frames sizes) :
    ∃ sizes, Clock.Run s sim.advance.simulation.state.clock
      (frames + sim.state.clock.isFrameComplete.toNat) sizes := by
  cases hresult : sim.advance.result with
  | ok report =>
      obtain ⟨before, -, hafter⟩ := run_of_advance_ok hs hn h hresult
      exact ⟨_, hafter⟩
  | error e =>
      obtain ⟨before, hroll⟩ := h.exists_rollover
      rcases clock_of_advance_error hresult with hclock | hpends
      · exact ⟨before, by rw [hclock]; exact hroll⟩
      · exact ⟨before, hroll.pend (h.isFrameComplete_rollover hs hn) hpends⟩

/-- **The clock of a simulation is one that runs of clocks lead to.** -/
theorem Reachable.clock_run (hs : c.normalized.clock.Sound) (hn : c.normalized.clock.IsFinite)
    (h : Reachable c sim) :
    ∃ frames sizes, Clock.Run c.normalized.clock sim.state.clock frames sizes := by
  have hadvance : ∀ sim : Simulation Exact Exact R,
      (∃ frames sizes, Clock.Run c.normalized.clock sim.state.clock frames sizes) →
      ∃ frames sizes,
        Clock.Run c.normalized.clock sim.advance.simulation.state.clock frames sizes :=
    fun _ ⟨_, _, hrun⟩ => ⟨_, exists_run_advance hs hn hrun⟩
  induction h with
  | start => exact ⟨0, [], .start⟩
  | advance _ ih => exact hadvance _ ih
  | runFrame _ hrun ih =>
      obtain ⟨_, _, hclock⟩ := ih
      exact runFrame_keeps (P := fun sim : Simulation Exact Exact R =>
          ∃ frames sizes, Clock.Run c.normalized.clock sim.state.clock frames sizes)
        (fun sim _ => hadvance sim) hrun ⟨_, hclock.exists_rollover⟩

/-- **What the clock accounts for are the sizes that steps report.**  On sound settings of numbers,
a step that succeeds in a run enters the size that it reports after those of the frame so far. -/
theorem Reachable.accounts_advance (hs : c.normalized.clock.Sound)
    (hn : c.normalized.clock.IsFinite) (h : Reachable c sim) {report : StepReport Exact Exact}
    (hreport : sim.advance.result = .ok report) :
    ∃ frames before, sim.state.clock.rollover.Accounts frames before ∧
      sim.advance.simulation.state.clock.Accounts frames (before ++ [report.dt]) := by
  obtain ⟨frames, sizes, hrun⟩ := h.clock_run hs hn
  obtain ⟨before, hroll, hafter⟩ := run_of_advance_ok hs hn hrun hreport
  exact ⟨_, before, (hroll.keeps hs hn).2.2, (hafter.keeps hs hn).2.2⟩

end Simulation

end FreeSurface

import FreeSurface.Proofs.Run.Stages

/-!
# What a step does

`Step.attempt` fails in a stage or goes on, and tells events on the way.  The events never decide
anything, so the attempt is settled by a computation that tells none, `Step.outcome`
(`Step.attempt_settles`).

* `Step.Completed` — all that holds of a step that succeeds: every check was passed, and the
  equation was solved.
* `Step.outcome_eq_ok` — a step succeeds exactly like this.
* `Step.outcome_withClock` — a step neither reads nor writes the clock.
-/

namespace FreeSurface

/-! ## Computations that tell events -/

namespace Attempt

variable {S D α β : Type}

/-- The attempt ends in `r`, whatever has been told before. -/
def Settles (x : Attempt S D α) (r : Except (StageFailure D) α) : Prop :=
  ∀ log, (x.run.run log).1 = r

lemma run_bind (x : Attempt S D α) (f : α → Attempt S D β) (log : List (Event S D)) :
    (x >>= f).run.run log =
      match x.run.run log with
      | (.ok a, log') => (f a).run.run log'
      | (.error e, log') => (.error e, log') := by
  show StateT.bind (m := Id) x (ExceptT.bindCont f) log = _
  rw [StateT.bind]
  rcases h : x.run.run log with ⟨e | a, log'⟩
  · have h' : x log = (.error e, log') := h
    simp only [h']
    rfl
  · have h' : x log = (.ok a, log') := h
    simp only [h']
    rfl

lemma settles_pure (a : α) : Settles (pure a : Attempt S D α) (.ok a) := fun _ => rfl

lemma Settles.bind_ok {x : Attempt S D α} {a : α} {f : α → Attempt S D β}
    {r : Except (StageFailure D) β} (hx : Settles x (.ok a)) (hf : Settles (f a) r) :
    Settles (x >>= f) r := by
  intro log
  rw [run_bind]
  have hr := hx log
  rcases h : x.run.run log with ⟨e | b, log'⟩ <;> rw [h] at hr
  · cases hr
  · obtain rfl := Except.ok.inj hr
    exact hf log'

lemma Settles.bind_error {x : Attempt S D α} {e : StageFailure D} {f : α → Attempt S D β}
    (hx : Settles x (.error e)) : Settles (x >>= f) (.error e) := by
  intro log
  rw [run_bind]
  have hr := hx log
  rcases h : x.run.run log with ⟨e' | b, log'⟩ <;> rw [h] at hr
  · obtain rfl := Except.error.inj hr
    rfl
  · cases hr

lemma Settles.bind {x : Attempt S D α} {r : Except (StageFailure D) α} {f : α → Attempt S D β}
    {g : α → Except (StageFailure D) β} (hx : Settles x r) (hf : ∀ a, Settles (f a) (g a)) :
    Settles (x >>= f) (r >>= g) := by
  cases r with
  | error e => exact hx.bind_error
  | ok a => exact hx.bind_ok (hf a)

/-- What is told does not settle anything. -/
lemma Settles.tell (events : List (Event S D)) {f : Unit → Attempt S D α}
    {r : Except (StageFailure D) α} (h : Settles (f ()) r) :
    Settles (Step.tell events >>= f) r :=
  fun log => h (log ++ events)

end Attempt

namespace Step

open Attempt

/-- Fails in a stage when a quantity is not finite. -/
def ensure {D : Type} (stage : Stage) (quantity : String) (finite : Bool) :
    Except (StageFailure D) Unit :=
  if finite then .ok () else .error ⟨stage, .nonFinite quantity⟩

lemma requireFinite_settles {S D : Type} (stage : Stage) (quantity : String) (finite : Bool) :
    Settles (requireFinite stage quantity finite : Attempt S D Unit)
      (ensure stage quantity finite) := by
  intro log
  cases finite <;> rfl

lemma ensure_bind_eq_ok {D α : Type} {stage : Stage} {quantity : String} {finite : Bool}
    {f : Unit → Except (StageFailure D) α} {a : α} :
    (ensure stage quantity finite >>= f) = .ok a ↔ finite = true ∧ f () = .ok a := by
  cases finite <;> simp [ensure, bind, Except.bind]

lemma map_ensure_bind {D α β : Type} (stage : Stage) (quantity : String) (finite : Bool)
    (x : Except (StageFailure D) α) (f : α → β) :
    (ensure stage quantity finite >>= fun _ => x).map f =
      ensure stage quantity finite >>= fun _ => x.map f := by
  cases finite <;> rfl

variable {d : Dims} {S D R : Type} [Scalar S]

lemma adjustDensity_settles [RandomSource R S] (c : Config S D) (s : State d S D R) :
    Settles (adjustDensity c s)
      (.ok (withParticles s (density c s), (density c s).report)) := by
  intro log
  simp only [adjustDensity]
  split <;> rfl

variable [Scalar D] [Precision S D]

/-- The solution of the pressure equation of a state. -/
def solution (c : Config S D) (s : State d S D R) :
    Except (NumericalFailure D) (Projection.Projected d S D) :=
  (Projection.solve s.velocity s.flags (some s.phi)
    (Measure.volumeCorrection c.volumeGain s.targetVolume s.flags.fluidCount) c.pressure).result

lemma project_settles (c : Config S D) (s : State d S D R) :
    Settles (project c s)
      (match solution c s with
        | .error cause => .error ⟨.projection, cause⟩
        | .ok p => .ok (withProjection s p, p.report)) := by
  refine Settles.tell _ ?_
  simp only [inStage, solution]
  split <;> next h => rw [h]; exact fun _ => rfl

/-! ## The outcome -/

variable [RandomSource R S]

/-- The outcome of the stages after the projection of `s`, without what they tell. -/
def conclusion (c : Config S D) (dt : D) (speed : S) (s : State d S D R)
    (p : Projection.Projected d S D) :
    Except (StageFailure D) (State d S D R × StepReport S D) := do
  let last := finished c speed (withProjection s p)
  ensure .extrapolation "velocity" last.velocity.allFinite
  ensure .extrapolation "level set" (Field.allFinite last.phi)
  ensure .extrapolation "particles" (Particles.allFinite last.particles)
  let adjusted := density c last
  ensure .density "particles" (Particles.allFinite adjusted.particles)
  return (withParticles last adjusted,
    ⟨dt, false, speed, s.flags.fluidCount, p.report, adjusted.report⟩)

/-- The outcome of the stages of a step, without what they tell. -/
def outcome (c : Config S D) (dt : D) (speed : S) (start : State d S D R) :
    Except (StageFailure D) (State d S D R × StepReport S D) := do
  let carried := advect start (narrow dt)
  ensure .advection "particles" (Particles.allFinite carried.particles)
  ensure .advection "level set" (Field.allFinite carried.phi)
  ensure .advection "velocity" carried.velocity.allFinite
  let surfaced := Variant.rebuildSurface c carried
  ensure .surface "level set" (Field.allFinite surfaced.phi)
  let transferred := (Variant.transferVelocity c surfaced).1
  ensure .transfer "velocity" transferred.velocity.allFinite
  match solution c (forced c dt start) with
  | .error cause => .error ⟨.projection, cause⟩
  | .ok p => conclusion c dt speed (forced c dt start) p

/-- What a step tells does not decide how it ends. -/
theorem attempt_settles (c : Config S D) (dt : D) (speed : S) (start : State d S D R) :
    Settles (attempt c dt speed start) (outcome c dt speed start) := by
  rw [attempt, outcome]
  -- Stage by stage: a check that fails settles the attempt, one that is passed changes nothing.
  refine (requireFinite_settles _ _ _).bind fun _ => ?_
  refine (requireFinite_settles _ _ _).bind fun _ => ?_
  refine (requireFinite_settles _ _ _).bind fun _ => ?_
  refine (requireFinite_settles _ _ _).bind fun _ => ?_
  refine Settles.tell _ ?_
  refine (requireFinite_settles _ _ _).bind fun _ => ?_
  have hproject := project_settles c (forced c dt start)
  cases hp : solution c (forced c dt start) with
  | error cause =>
      rw [hp] at hproject
      exact hproject.bind_error
  | ok p =>
      rw [hp] at hproject
      refine hproject.bind_ok ?_
      refine (requireFinite_settles _ _ _).bind fun _ => ?_
      refine (requireFinite_settles _ _ _).bind fun _ => ?_
      refine (requireFinite_settles _ _ _).bind fun _ => ?_
      refine (adjustDensity_settles c _).bind_ok ?_
      refine (requireFinite_settles _ _ _).bind fun _ => ?_
      exact settles_pure _

/-- A step neither reads nor writes the clock. -/
theorem outcome_withClock (c : Config S D) (dt : D) (speed : S) (s : State d S D R)
    (clock : Clock D) :
    outcome c dt speed (withClock s clock) =
      (outcome c dt speed s).map fun r => (withClock r.1 clock, r.2) := by
  have hcarried : advect (withClock s clock) (narrow dt) =
      withClock (advect s (narrow dt)) clock := rfl
  have hsolution : solution c (withClock (forced c dt s) clock) =
      solution c (forced c dt s) := rfl
  simp only [outcome]
  -- The checks look at no clock, so the new one can be put in behind them.
  simp only [map_ensure_bind]
  rw [hcarried, rebuildSurface_withClock, transferVelocity_withClock, forced_withClock, hsolution]
  cases solution c (forced c dt s) with
  | error cause => rfl
  | ok p =>
      have hprojection : withProjection (withClock (forced c dt s) clock) p =
          withClock (withProjection (forced c dt s) p) clock := rfl
      simp only [conclusion, map_ensure_bind, hprojection, finished_withClock]
      rfl

/-! ## Steps that succeed -/

/-- All that holds of a step that succeeds.  `p` is what its projection finds. -/
structure Completed (c : Config S D) (dt : D) (speed : S) (start : State d S D R)
    (p : Projection.Projected d S D) (final : State d S D R) (report : StepReport S D) : Prop where
  particles_carried : Particles.allFinite (advect start (narrow dt)).particles = true
  phi_carried : Field.allFinite (advect start (narrow dt)).phi = true
  velocity_carried : (advect start (narrow dt)).velocity.allFinite = true
  phi_surfaced :
    Field.allFinite (Variant.rebuildSurface c (advect start (narrow dt))).phi = true
  velocity_transferred :
    (Variant.transferVelocity c
      (Variant.rebuildSurface c (advect start (narrow dt)))).1.velocity.allFinite = true
  solved : solution c (forced c dt start) = .ok p
  velocity_last :
    (finished c speed (withProjection (forced c dt start) p)).velocity.allFinite = true
  phi_last :
    Field.allFinite (finished c speed (withProjection (forced c dt start) p)).phi = true
  particles_last :
    Particles.allFinite (finished c speed (withProjection (forced c dt start) p)).particles = true
  particles_adjusted :
    Particles.allFinite
      (density c (finished c speed (withProjection (forced c dt start) p))).particles = true
  final_eq :
    final = withParticles (finished c speed (withProjection (forced c dt start) p))
      (density c (finished c speed (withProjection (forced c dt start) p)))
  report_eq :
    report = ⟨dt, false, speed, (forced c dt start).flags.fluidCount, p.report,
      (density c (finished c speed (withProjection (forced c dt start) p))).report⟩

/-- **A step succeeds exactly by passing every check and solving its equation.** -/
theorem outcome_eq_ok {c : Config S D} {dt : D} {speed : S} {start final : State d S D R}
    {report : StepReport S D} :
    outcome c dt speed start = .ok (final, report) ↔
      ∃ p, Completed c dt speed start p final report := by
  rw [outcome]
  simp only [ensure_bind_eq_ok]
  constructor
  · rintro ⟨h1, h2, h3, h4, h5, h⟩
    cases hp : solution c (forced c dt start) with
    | error cause =>
        rw [hp] at h
        cases h
    | ok p =>
        rw [hp] at h
        simp only [conclusion, ensure_bind_eq_ok] at h
        obtain ⟨h6, h7, h8, h9, h⟩ := h
        obtain ⟨hfinal, hreport⟩ := Prod.mk.inj (Except.ok.inj h)
        exact ⟨p, h1, h2, h3, h4, h5, hp, h6, h7, h8, h9, hfinal.symm, hreport.symm⟩
  · rintro ⟨p, h⟩
    refine ⟨h.particles_carried, h.phi_carried, h.velocity_carried, h.phi_surfaced,
      h.velocity_transferred, ?_⟩
    rw [h.solved]
    simp only [conclusion, ensure_bind_eq_ok]
    refine ⟨h.velocity_last, h.phi_last, h.particles_last, h.particles_adjusted, ?_⟩
    rw [h.final_eq, h.report_eq]
    rfl

section Completed

variable {c : Config S D} {dt : D} {speed : S} {start final : State d S D R}
  {p : Projection.Projected d S D} {report : StepReport S D}

lemma Completed.retried_eq (h : Completed c dt speed start p final report) :
    report.retried = false := by
  rw [h.report_eq]

lemma Completed.clock_eq (h : Completed c dt speed start p final report) :
    final.clock = start.clock := by
  rw [h.final_eq]
  exact (clock_finished c speed _).trans (clock_forced c dt start)

lemma Completed.targetVolume_eq (h : Completed c dt speed start p final report) :
    final.targetVolume = start.targetVolume := by
  rw [h.final_eq]
  exact (targetVolume_finished c speed _).trans (targetVolume_forced c dt start)

/-- After the projection no stage flags a cell. -/
lemma Completed.flags_eq (h : Completed c dt speed start p final report) :
    final.flags = (forced c dt start).flags := by
  rw [h.final_eq]
  exact flags_finished c speed _

end Completed

end Step

end FreeSurface

import FreeSurface.Proofs.Config.Rules
import FreeSurface.Proofs.Run.Divergence

/-!
# The liquid in level-set mode

In level-set mode particles are carried along, checked and counted, but the liquid never asks for
them.  Two runs whose states differ in particles and random source, and whose configurations differ
in the settings for particles, therefore do the same to the liquid, step after step, as long as
neither run loses particles to values that are no finite numbers.

* `Config.SameLiquid`, `State.SameLiquid`, `Simulation.SameLiquid` — the runs that are compared;
  each stage of a step has one lemma that keeps the relation.
* `Step.outcome_alike` — two attempts end alike, unless one of them loses its particles.
* `Simulation.SameLiquid.advance` — so do two steps, with their retries.
* `Simulation.alike_of_sameLiquid` — so do any number of steps.
-/

namespace FreeSurface

variable {d : Dims} {S D R : Type}

/-! ## Runs that are compared -/

/-- The configurations agree on everything except the settings for particles. -/
def Config.SameLiquid (c c' : Config S D) : Prop :=
  c' = { c with
    seed := c'.seed
    flipRatio := c'.flipRatio
    radiusFactor := c'.radiusFactor
    narrowBand := c'.narrowBand
    combineBand := c'.combineBand
    combineWeightThreshold := c'.combineWeightThreshold
    minParticles? := c'.minParticles?
    maxParticles? := c'.maxParticles?
    maxParticleCount := c'.maxParticleCount }

/-- The states agree on everything except particles and random source. -/
structure State.SameLiquid (s s' : State d S D R) : Prop where
  flags : s'.flags = s.flags
  phi : s'.phi = s.phi
  velocity : s'.velocity = s.velocity
  reference : s'.reference = s.reference
  pressure : s'.pressure = s.pressure
  clock : s'.clock = s.clock
  targetVolume : s'.targetVolume = s.targetVolume

/-- The simulations have the same domain, and their configurations and states agree. -/
inductive Simulation.SameLiquid : Simulation S D R → Simulation S D R → Prop
  | intro {d : Dims} {c c' : Config S D} {s s' : State d S D R} (config : c.SameLiquid c')
      (state : s.SameLiquid s') : SameLiquid ⟨c, d, s⟩ ⟨c', d, s'⟩

/-- The reports agree on everything except what was done about the density of particles. -/
def StepReport.SameLiquid (r r' : StepReport S D) : Prop := r' = { r with density := r'.density }

lemma StepReport.SameLiquid.retried {r r' : StepReport S D} (h : r.SameLiquid r') (b : Bool) :
    StepReport.SameLiquid { r with retried := b } { r' with retried := b } := by
  rw [h]
  rfl

/-- Two computations fail alike, or succeed with results that are related. -/
inductive Alike {ε α β : Type} (ok : α → β → Prop) : Except ε α → Except ε β → Prop
  | error (e : ε) : Alike ok (.error e) (.error e)
  | ok {a : α} {b : β} (h : ok a b) : Alike ok (.ok a) (.ok b)

lemma Alike.elim {ε α β : Type} {ok : α → β → Prop} {r : Except ε α} {r' : Except ε β}
    (h : Alike ok r r') :
    (∃ e, r = .error e ∧ r' = .error e) ∨ ∃ a b, r = .ok a ∧ r' = .ok b ∧ ok a b := by
  cases h with
  | error e => exact .inl ⟨e, rfl, rfl⟩
  | ok h => exact .inr ⟨_, _, rfl, rfl, h⟩

/-! ## Stages -/

variable {c c' : Config S D} {s s' : State d S D R}

lemma Config.SameLiquid.mode_eq (h : c.SameLiquid c') : c'.mode = c.mode := by
  rw [h]

lemma Config.SameLiquid.normalizedDims_eq [Scalar S] [Scalar D] (h : c.SameLiquid c') :
    c'.normalizedDims = c.normalizedDims := by
  refine normalizedDims_congr ?_ ?_
  · rw [c.dimension_normalized, c'.dimension_normalized, h]
  · rw [c.resolution_normalized, c'.resolution_normalized, h]

/-- Whether steps can fail does not depend on the settings for particles. -/
lemma Config.SameLiquid.feasible {c c' : Config Exact Exact} (h : c.SameLiquid c')
    (hc : c.Feasible) : c'.Feasible := by
  have hdims := h.normalizedDims_eq
  obtain ⟨hmode, hclock, hgravity, hgain, hfluid, hobstacles, hmotion, hindexable, hrounds⟩ := hc
  rw [← hdims] at hindexable hrounds
  rw [h] at hindexable hrounds ⊢
  exact ⟨hmode, hclock, hgravity, hgain, hfluid, hobstacles, hmotion, hindexable, hrounds⟩

namespace State

/-- States that agree on the liquid are made from each other by other particles and another random
source. -/
lemma SameLiquid.exists_eq (h : s.SameLiquid s') :
    ∃ ps r, s' = { s with particles := ps, random := r } := by
  refine ⟨s'.particles, s'.random, ?_⟩
  rw [← h.flags, ← h.phi, ← h.velocity, ← h.reference, ← h.pressure, ← h.clock, ← h.targetVolume]

lemma SameLiquid.withClock (h : s.SameLiquid s') (clock : Clock D) :
    (Step.withClock s clock).SameLiquid (Step.withClock s' clock) := by
  obtain ⟨ps, r, rfl⟩ := h.exists_eq
  exact ⟨rfl, rfl, rfl, rfl, rfl, rfl, rfl⟩

variable [Scalar S]

lemma SameLiquid.advect (h : s.SameLiquid s') (dt : S) :
    (Step.advect s dt).SameLiquid (Step.advect s' dt) := by
  obtain ⟨ps, r, rfl⟩ := h.exists_eq
  exact ⟨rfl, rfl, rfl, rfl, rfl, rfl, rfl⟩

section LevelSet

variable (hc : c.SameLiquid c') (hmode : c.mode = .levelset)
include hc hmode

lemma SameLiquid.rebuildSurface (h : s.SameLiquid s') :
    (Variant.rebuildSurface c s).SameLiquid (Variant.rebuildSurface c' s') := by
  obtain ⟨ps, r, rfl⟩ := h.exists_eq
  rw [Variant.rebuildSurface, Variant.rebuildSurface, hc.mode_eq, hmode]
  exact ⟨rfl, rfl, rfl, rfl, rfl, rfl, rfl⟩

lemma SameLiquid.transferVelocity (h : s.SameLiquid s') :
    (Variant.transferVelocity c s).1.SameLiquid (Variant.transferVelocity c' s').1 := by
  obtain ⟨ps, r, rfl⟩ := h.exists_eq
  rw [Variant.transferVelocity, Variant.transferVelocity, hc.mode_eq, hmode]
  exact ⟨rfl, rfl, rfl, rfl, rfl, rfl, rfl⟩

lemma SameLiquid.finished (h : s.SameLiquid s') (speed : S) :
    (Step.finished c speed s).SameLiquid (Step.finished c' speed s') := by
  obtain ⟨ps, r, rfl⟩ := h.exists_eq
  rw [Step.finished, Step.finished, Variant.updateParticles, Variant.updateParticles,
    Variant.finishVelocity, Variant.finishVelocity, hc.mode_eq, hmode]
  exact ⟨rfl, rfl, rfl, rfl, rfl, rfl, rfl⟩

variable [Precision S D]

lemma SameLiquid.forced (h : s.SameLiquid s') (dt : D) :
    (Step.forced c dt s).SameLiquid (Step.forced c' dt s') := by
  have htransferred := ((h.advect (narrow dt)).rebuildSurface hc hmode).transferVelocity hc hmode
  rw [Step.forced, Step.forced]
  generalize (Variant.transferVelocity c _).1 = t at htransferred ⊢
  generalize (Variant.transferVelocity c' _).1 = t' at htransferred ⊢
  obtain ⟨ps, r, rfl⟩ := htransferred.exists_eq
  rw [hc]
  exact ⟨rfl, rfl, rfl, rfl, rfl, rfl, rfl⟩

end LevelSet

omit [Scalar S] in
lemma SameLiquid.withParticles (h : s.SameLiquid s') (o o' : Density.Outcome S R) :
    (Step.withParticles s o).SameLiquid (Step.withParticles s' o') :=
  ⟨h.flags, h.phi, h.velocity, h.reference, h.pressure, h.clock, h.targetVolume⟩

lemma SameLiquid.withProjection (h : s.SameLiquid s') (p : Projection.Projected d S D) :
    (Step.withProjection s p).SameLiquid (Step.withProjection s' p) := by
  obtain ⟨ps, r, rfl⟩ := h.exists_eq
  exact ⟨rfl, rfl, rfl, rfl, rfl, rfl, rfl⟩

lemma SameLiquid.solution_eq [Scalar D] [Precision S D] (hc : c.SameLiquid c')
    (h : s.SameLiquid s') : Step.solution c' s' = Step.solution c s := by
  obtain ⟨ps, r, rfl⟩ := h.exists_eq
  rw [hc]
  rfl

end State

/-! ## Attempts -/

namespace Step

/-- The computation fails because a particle has a value that is no finite number. -/
def LosesParticles {α : Type} (r : Except (StageFailure D) α) : Prop :=
  ∃ stage, r = .error ⟨stage, .nonFinite "particles"⟩

/-- Two computations end alike unless one of them loses its particles. -/
def AlikeUnlessLost {α β : Type} (ok : α → β → Prop) (r : Except (StageFailure D) α)
    (r' : Except (StageFailure D) β) : Prop :=
  ¬LosesParticles r → ¬LosesParticles r' → Alike ok r r'

section Checks

variable {α β : Type} {ok : α → β → Prop} {r : Except (StageFailure D) α}
  {r' : Except (StageFailure D) β} {b b' : Bool} {stage : Stage}

/-- A check of the liquid has the same outcome on both sides. -/
lemma AlikeUnlessLost.ensure {quantity : String} (hb : b' = b) (h : AlikeUnlessLost ok r r') :
    AlikeUnlessLost ok (ensure stage quantity b >>= fun _ => r)
      (ensure stage quantity b' >>= fun _ => r') := by
  subst hb
  cases b' with
  | false => exact fun _ _ => .error _
  | true => exact h

/-- A check of the particles may have another outcome on either side, but a failure is a loss. -/
lemma AlikeUnlessLost.ensure_particles (h : AlikeUnlessLost ok r r') :
    AlikeUnlessLost ok (Step.ensure stage "particles" b >>= fun _ => r)
      (Step.ensure stage "particles" b' >>= fun _ => r') := by
  cases b with
  | false => exact fun hkept _ => absurd ⟨stage, rfl⟩ hkept
  | true =>
      cases b' with
      | false => exact fun _ hkept => absurd ⟨stage, rfl⟩ hkept
      | true => exact h

end Checks

variable [Scalar S] [Scalar D] [Precision S D] [RandomSource R S]

/-- The attempts leave states that agree on the liquid, and report the same about it. -/
def SameStep (x x' : State d S D R × StepReport S D) : Prop :=
  x.1.SameLiquid x'.1 ∧ x.2.SameLiquid x'.2

omit [Scalar D] [Precision S D] in
lemma conclusion_alike (hc : c.SameLiquid c') (hmode : c.mode = .levelset) (h : s.SameLiquid s')
    (dt : D) (speed : S) (p : Projection.Projected d S D) :
    AlikeUnlessLost SameStep (conclusion c dt speed s p) (conclusion c' dt speed s' p) := by
  have hlast := (h.withProjection p).finished hc hmode speed
  rw [conclusion, conclusion]
  refine .ensure (by rw [hlast.velocity]) (.ensure (by rw [hlast.phi]) ?_)
  refine .ensure_particles (.ensure_particles fun _ _ => .ok ⟨hlast.withParticles _ _, ?_⟩)
  show _ = StepReport.mk _ _ _ _ _ _
  rw [h.flags]

/-- **Two attempts on the same liquid end alike**, unless one of them loses its particles. -/
theorem outcome_alike (hc : c.SameLiquid c') (hmode : c.mode = .levelset) (h : s.SameLiquid s')
    (dt : D) (speed : S) :
    AlikeUnlessLost SameStep (outcome c dt speed s) (outcome c' dt speed s') := by
  have hcarried := h.advect (narrow dt)
  have hsurfaced := hcarried.rebuildSurface hc hmode
  have htransferred := hsurfaced.transferVelocity hc hmode
  have hforced := h.forced hc hmode dt
  rw [outcome, outcome]
  refine .ensure_particles (.ensure (by rw [hcarried.phi]) (.ensure (by rw [hcarried.velocity]) ?_))
  refine .ensure (by rw [hsurfaced.phi]) (.ensure (by rw [htransferred.velocity]) ?_)
  rw [hforced.solution_eq hc]
  cases solution c (forced c dt s) with
  | error cause => exact fun _ _ => .error _
  | ok p => exact conclusion_alike hc hmode hforced dt speed p

end Step

/-! ## Steps -/

namespace Simulation

variable [Scalar S] [Scalar D] [Precision S D] [RandomSource R S] {sim sim' : Simulation S D R}

/-- An attempt of the next step, the chosen one or the one at half the size, fails because a
particle has a value that is no finite number. -/
def LosesParticles (sim : Simulation S D R) : Prop :=
  ∃ prepared, sim.prepare = .ok prepared ∧
    (Step.LosesParticles (prepared.attemptStep sim.state.velocity.maxMagnitude).1 ∨
      (∃ first, (prepared.attemptStep sim.state.velocity.maxMagnitude).1 = .error first) ∧
        Step.LosesParticles ((prepared.withClock prepared.state.clock.halve).attemptStep
          sim.state.velocity.maxMagnitude).1)

omit [Scalar S] [Scalar D] [Precision S D] [RandomSource R S] in
lemma losesParticles_map {α β : Type} (f : α → β) (r : Except (StageFailure D) α) :
    Step.LosesParticles (r.map f) ↔ Step.LosesParticles r := by
  cases r with
  | error e => simp only [Step.LosesParticles, Except.map, Except.error.injEq]
  | ok a => exact ⟨fun ⟨_, h⟩ => (nomatch h), fun ⟨_, h⟩ => (nomatch h)⟩

/-- What is kept, told by the outcomes of the attempts. -/
lemma kept_of_not_losesParticles (h : ¬sim.LosesParticles) {prepared : Simulation S D R}
    (hprepare : sim.prepare = .ok prepared) :
    ¬Step.LosesParticles
        (prepared.outcome prepared.state.clock.dt sim.state.velocity.maxMagnitude) ∧
      ∀ first, prepared.outcome prepared.state.clock.dt sim.state.velocity.maxMagnitude
          = .error first →
        ¬Step.LosesParticles
          (prepared.outcome prepared.state.clock.halve.dt sim.state.velocity.maxMagnitude) := by
  refine ⟨fun hlost => h ⟨prepared, hprepare, .inl ?_⟩,
    fun first hfirst hlost => h ⟨prepared, hprepare, .inr ⟨⟨first, ?_⟩, ?_⟩⟩⟩
  · rwa [attemptStep_fst, losesParticles_map]
  · rw [attemptStep_fst, hfirst]
    rfl
  · rwa [attemptStep_halve, losesParticles_map]

omit [RandomSource R S] in
/-- The size of a step is chosen by the liquid alone. -/
lemma SameLiquid.prepare {d : Dims} {s s' : State d S D R} (hs : s.SameLiquid s')
    (c c' : Config S D) :
    (∃ e, (⟨c, d, s⟩ : Simulation S D R).prepare = .error e ∧
      (⟨c', d, s'⟩ : Simulation S D R).prepare = .error e) ∨
    ∃ clock, (⟨c, d, s⟩ : Simulation S D R).prepare = .ok ⟨c, d, Step.withClock s clock⟩ ∧
      (⟨c', d, s'⟩ : Simulation S D R).prepare = .ok ⟨c', d, Step.withClock s' clock⟩ := by
  simp only [Simulation.prepare, hs.velocity, hs.clock]
  cases s.clock.rollover.choose? (widen s.velocity.maxMagnitude) with
  | error e => exact .inl ⟨e, rfl, rfl⟩
  | ok clock => exact .inr ⟨clock, rfl, rfl⟩

/-- **Two steps on the same liquid end alike**, with the same retry or the same failure, unless one
of them loses its particles. -/
theorem SameLiquid.advance (h : sim.SameLiquid sim') (hmode : sim.config.mode = .levelset)
    (hkept : ¬sim.LosesParticles) (hkept' : ¬sim'.LosesParticles) :
    Alike StepReport.SameLiquid sim.advance.result sim'.advance.result ∧
      sim.advance.simulation.SameLiquid sim'.advance.simulation := by
  obtain @⟨d, c, c', s, s', hc, hs⟩ := h
  suffices ∃ r a r' a', Ending ⟨c, d, s⟩ r a ∧ Ending ⟨c', d, s'⟩ r' a' ∧
      Alike StepReport.SameLiquid r r' ∧ a.SameLiquid a' by
    obtain ⟨r, a, r', a', h, h', hresult, hafter⟩ := this
    rw [(advance_of_ending h).1, (advance_of_ending h').1, (advance_of_ending h).2,
      (advance_of_ending h').2]
    exact ⟨hresult, hafter⟩
  rcases SameLiquid.prepare hs c c' with ⟨e, hnone, hnone'⟩ | ⟨clock, hprepare, hprepare'⟩
  · refine ⟨_, _, _, _, .unprepared hnone, .unprepared hnone', .error _, .intro hc ?_⟩
    rw [hs.clock]
    exact hs.withClock _
  · obtain ⟨hfirst, hsecond⟩ := kept_of_not_losesParticles hkept hprepare
    obtain ⟨hfirst', hsecond'⟩ := kept_of_not_losesParticles hkept' hprepare'
    rw [hs.velocity] at hfirst' hsecond'
    have halike := fun dt => Step.outcome_alike hc hmode (hs.withClock clock) dt
      s.velocity.maxMagnitude
    rcases (halike clock.dt hfirst hfirst').elim with
      ⟨e, h₁, h₁'⟩ | ⟨⟨final, report⟩, ⟨final', report'⟩, h₁, h₁', hfinal, hreport⟩
    · rcases (halike clock.halve.dt (hsecond e h₁) (hsecond' e h₁')).elim with
        ⟨e₂, h₂, h₂'⟩ | ⟨⟨final, report⟩, ⟨final', report'⟩, h₂, h₂', hfinal, hreport⟩
      · rw [← hs.velocity] at h₁' h₂'
        exact ⟨_, _, _, _, .failed hprepare h₁ h₂, .failed hprepare' h₁' h₂', .error _,
          .intro hc (hs.withClock clock)⟩
      · rw [← hs.velocity] at h₁' h₂'
        exact ⟨_, _, _, _, .halved hprepare h₁ h₂, .halved hprepare' h₁' h₂',
          .ok (hreport.retried true), .intro hc (hfinal.withClock clock.halve.commit)⟩
    · rw [← hs.velocity] at h₁'
      exact ⟨_, _, _, _, .chosen hprepare h₁, .chosen hprepare' h₁', .ok hreport,
        .intro hc (hfinal.withClock clock.commit)⟩

/-! ## Runs -/

/-- The simulation after so many steps, whether they succeed or fail. -/
def after (sim : Simulation S D R) : ℕ → Simulation S D R
  | 0 => sim
  | n + 1 => (sim.after n).advance.simulation

lemma config_after (sim : Simulation S D R) (n : ℕ) : (sim.after n).config = sim.config := by
  induction n with
  | zero => rfl
  | succ n ih =>
      exact advance_keeps (P := fun later => later.config = sim.config) (fun _ _ h => h)
        (fun _ _ _ _ _ _ h _ => h) ih

/-- **In level-set mode particles never influence the liquid.**  Take two simulations in this mode
whose states agree on everything but particles and random source, and whose configurations agree on
everything but the settings for particles.  While no attempt in either run fails because of
particles that are not finite, their states go on to agree after any number of steps, and all steps
have the same outcome: the same failure, or reports that agree on everything but the density of
particles. -/
theorem alike_of_sameLiquid (h : sim.SameLiquid sim') (hmode : sim.config.mode = .levelset) (n : ℕ)
    (hkept : ∀ k < n, ¬(sim.after k).LosesParticles ∧ ¬(sim'.after k).LosesParticles) :
    (sim.after n).SameLiquid (sim'.after n) ∧
      ∀ k < n, Alike StepReport.SameLiquid (sim.after k).advance.result
        (sim'.after k).advance.result := by
  have hstep : ∀ k < n, (sim.after k).SameLiquid (sim'.after k) →
      Alike StepReport.SameLiquid (sim.after k).advance.result (sim'.after k).advance.result ∧
        (sim.after (k + 1)).SameLiquid (sim'.after (k + 1)) := fun k hk hsame =>
    hsame.advance ((congrArg Config.mode (sim.config_after k)).trans hmode) (hkept k hk).1
      (hkept k hk).2
  have hsame : ∀ k ≤ n, (sim.after k).SameLiquid (sim'.after k) := by
    intro k
    induction k with
    | zero => exact fun _ => h
    | succ k ih => exact fun hk => (hstep k hk (ih (Nat.le_of_lt hk))).2
  exact ⟨hsame n le_rfl, fun k hk => (hstep k hk (hsame k hk.le)).1⟩

omit [Precision S D] in
lemma sameLiquid_initial {c c' : Config S D} (h : c.SameLiquid c') (d : Dims) :
    (State.initial c d : State d S D R).SameLiquid (State.initial c' d) := by
  rw [h]
  exact ⟨rfl, rfl, rfl, rfl, rfl, rfl, rfl⟩

omit [Precision S D] in
/-- Configurations that agree on everything but the settings for particles start such runs. -/
theorem sameLiquid_start {c c' : Config S D} (h : c.SameLiquid c') :
    (start c : Simulation S D R).SameLiquid (start c') := by
  have hdims := h.normalizedDims_eq
  have hnormalized : c.normalized.SameLiquid c'.normalized := by
    rw [Config.SameLiquid, c.normalized_eq, c'.normalized_eq, Config.repaired, Config.repaired,
      hdims, h]
    rfl
  rw [start, start, hdims]
  exact .intro hnormalized (sameLiquid_initial hnormalized _)

/-! ## A drop with many particles and with few -/

/-- A step that succeeds at its first attempt has lost no particles. -/
lemma not_losesParticles_of_outcome {prepared : Simulation S D R}
    {final : State prepared.dims S D R} {report : StepReport S D}
    (hprepare : sim.prepare = .ok prepared)
    (h : prepared.outcome prepared.state.clock.dt sim.state.velocity.maxMagnitude
      = .ok (final, report)) : ¬sim.LosesParticles := by
  rintro ⟨prepared', hprepare', hlost⟩
  obtain rfl := Except.ok.inj (hprepare.symm.trans hprepare')
  rw [attemptStep_fst, h] at hlost
  rcases hlost with ⟨_, hlost⟩ | ⟨⟨_, hlost⟩, -⟩ <;> cases hlost

lemma Ready.not_losesParticles {R : Type} [RandomSource R Exact]
    (hR : RandomSource.Fractional R) {sim : Simulation Exact Exact R} (h : sim.Ready) :
    ¬sim.LosesParticles := by
  obtain ⟨prepared, final, report, hprepare, hstep⟩ := (h.proceeds hR).first
  exact not_losesParticles_of_outcome hprepare hstep

lemma Reachable.after {c : Config S D} (h : Reachable c sim) (n : ℕ) :
    Reachable c (sim.after n) := by
  induction n with
  | zero => exact h
  | succ n ih => exact ih.advance

/-- The falling drop with other draws, fewer particles in a cell, and no more of them than a
hundred. -/
noncomputable def sparseDrop : Config Exact Exact :=
  { Config.fallingDrop with
    seed := 2
    flipRatio := .real 0
    radiusFactor := .real 2
    minParticles? := some 1
    maxParticles? := some 2
    maxParticleCount := 100 }

/-- Neither drop loses its particles in three steps, so the liquid in both does the same. -/
theorem alike_fallingDrop_sparseDrop :
    let sim := fallingDrop
    let sim' : Simulation Exact Exact (Generator Exact) := start sparseDrop
    (∀ k < 3, ¬(sim.after k).LosesParticles ∧ ¬(sim'.after k).LosesParticles) ∧
    (sim.after 3).SameLiquid (sim'.after 3) ∧
      ∀ k < 3, Alike StepReport.SameLiquid (sim.after k).advance.result
        (sim'.after k).advance.result := by
  intro sim sim'
  have hkept : ∀ {c : Config Exact Exact}, c.Feasible → ∀ k,
      ¬((start c : Simulation Exact Exact (Generator Exact)).after k).LosesParticles :=
    fun hc k => (Reachable.ready ChaCha.centered_generator ChaCha.fractional_generator hc
      (Reachable.start.after k)).not_losesParticles ChaCha.fractional_generator
  have hsame : Config.fallingDrop.SameLiquid sparseDrop := rfl
  have hkept' : ∀ k < 3, ¬(sim.after k).LosesParticles ∧ ¬(sim'.after k).LosesParticles :=
    fun k _ => ⟨hkept Config.feasible_fallingDrop k,
      hkept (hsame.feasible Config.feasible_fallingDrop) k⟩
  exact ⟨hkept', alike_of_sameLiquid (sameLiquid_start hsame)
    (Config.mode_normalized Config.fallingDrop) 3 hkept'⟩

end Simulation

end FreeSurface

import Mathlib.Tactic.Common
import FreeSurface.Run.Step

/-!
# The states between the stages of a step

A step is a chain of states, each a function of the one before it:

* `Step.forced` — the state in which the projection finds the liquid;
* `Step.withProjection`, `Step.finished` — the velocity is projected and completed;
* `Step.density`, `Step.withParticles` — the number of particles is looked after.

For each of them this module says what it leaves alone.  In particular flags and level set are
settled before forces act (`Step.flags_forced`, `Step.phi_forced`), no later stage flags a cell
(`Step.flags_finished`), and the clock plays no part (`Step.forced_withClock`,
`Step.finished_withClock`).
-/

namespace FreeSurface

namespace Step

variable {d : Dims} {S D R : Type} [Scalar S]

def withClock (s : State d S D R) (clock : Clock D) : State d S D R := { s with clock := clock }

/-! ## Up to the projection -/

lemma rebuildSurface_withClock (c : Config S D) (s : State d S D R) (clock : Clock D) :
    Variant.rebuildSurface c (withClock s clock) =
      withClock (Variant.rebuildSurface c s) clock := by
  simp only [Variant.rebuildSurface]
  cases c.mode <;> rfl

lemma transferVelocity_withClock (c : Config S D) (s : State d S D R) (clock : Clock D) :
    (Variant.transferVelocity c (withClock s clock)).1 =
      withClock (Variant.transferVelocity c s).1 clock := by
  simp only [Variant.transferVelocity]
  cases c.mode <;> rfl

lemma velocity_rebuildSurface (c : Config S D) (s : State d S D R) :
    (Variant.rebuildSurface c s).velocity = s.velocity := by
  rw [Variant.rebuildSurface]
  cases c.mode <;> rfl

section Forced

variable [Precision S D]

/-- The state in which the projection finds the liquid. -/
def forced (c : Config S D) (dt : D) (s : State d S D R) : State d S D R :=
  applyForces c (Variant.transferVelocity c (Variant.rebuildSurface c (advect s (narrow dt)))).1
    (narrow dt)

lemma forced_withClock (c : Config S D) (dt : D) (s : State d S D R) (clock : Clock D) :
    forced c dt (withClock s clock) = withClock (forced c dt s) clock := by
  have hcarried : advect (withClock s clock) (narrow dt) =
      withClock (advect s (narrow dt)) clock := rfl
  rw [forced, hcarried, rebuildSurface_withClock, transferVelocity_withClock]
  rfl

lemma clock_forced (c : Config S D) (dt : D) (s : State d S D R) :
    (forced c dt s).clock = s.clock := by
  rw [forced, applyForces, Variant.transferVelocity, Variant.rebuildSurface]
  cases c.mode <;> rfl

lemma targetVolume_forced (c : Config S D) (dt : D) (s : State d S D R) :
    (forced c dt s).targetVolume = s.targetVolume := by
  rw [forced, applyForces, Variant.transferVelocity, Variant.rebuildSurface]
  cases c.mode <;> rfl

lemma flags_forced (c : Config S D) (dt : D) (s : State d S D R) :
    (forced c dt s).flags = (Variant.rebuildSurface c (advect s (narrow dt))).flags := by
  rw [forced, applyForces, Variant.transferVelocity]
  cases c.mode <;> rfl

lemma phi_forced (c : Config S D) (dt : D) (s : State d S D R) :
    (forced c dt s).phi = (Variant.rebuildSurface c (advect s (narrow dt))).phi := by
  rw [forced, applyForces, Variant.transferVelocity]
  cases c.mode <;> rfl

/-- After their transport particles are left alone until the projection is done. -/
lemma particles_forced (c : Config S D) (dt : D) (s : State d S D R) :
    (forced c dt s).particles =
      Advection.particles s.particles s.flags s.velocity (narrow dt) := by
  rw [forced, applyForces, Variant.transferVelocity, Variant.rebuildSurface]
  cases c.mode <;> rfl

/-- Later changes of the velocity are measured from what the transfer of particles left. -/
lemma reference_forced (c : Config S D) (dt : D) (s : State d S D R) :
    (forced c dt s).reference =
      (Variant.transferVelocity c
        (Variant.rebuildSurface c (advect s (narrow dt)))).1.velocity := by
  rw [forced, applyForces, Variant.transferVelocity]
  cases c.mode <;> rfl

/-- The walls are closed when the projection begins. -/
lemma velocity_forced (c : Config S D) (dt : D) (s : State d S D R) :
    (forced c dt s).velocity =
      Velocity.closeWalls (forced c dt s).flags
        (Velocity.accelerate (forced c dt s).flags (forced c dt s).reference c.gravity
          (narrow dt)) := by
  rw [forced, applyForces, Variant.transferVelocity]
  cases c.mode <;> rfl

end Forced

/-! ## After the projection -/

/-- The state after its velocity was projected. -/
def withProjection (s : State d S D R) (p : Projection.Projected d S D) : State d S D R :=
  { s with velocity := Velocity.closeWalls s.flags p.velocity, pressure := p.pressure }

lemma particles_finishVelocity (c : Config S D) (s : State d S D R) (speed : S) :
    (Variant.finishVelocity c s speed).particles = s.particles := by
  rw [Variant.finishVelocity]
  cases c.mode <;> rfl

/-- The state in which the density of particles is looked after. -/
def finished (c : Config S D) (speed : S) (s : State d S D R) : State d S D R :=
  Variant.updateParticles c (Variant.finishVelocity c s speed)

lemma finished_withClock (c : Config S D) (speed : S) (s : State d S D R) (clock : Clock D) :
    finished c speed (withClock s clock) = withClock (finished c speed s) clock := by
  simp only [finished, Variant.finishVelocity, Variant.updateParticles]
  cases c.mode <;> rfl

lemma clock_finished (c : Config S D) (speed : S) (s : State d S D R) :
    (finished c speed s).clock = s.clock := by
  rw [finished, Variant.finishVelocity, Variant.updateParticles]
  cases c.mode <;> rfl

lemma targetVolume_finished (c : Config S D) (speed : S) (s : State d S D R) :
    (finished c speed s).targetVolume = s.targetVolume := by
  rw [finished, Variant.finishVelocity, Variant.updateParticles]
  cases c.mode <;> rfl

lemma flags_finished (c : Config S D) (speed : S) (s : State d S D R) :
    (finished c speed s).flags = s.flags := by
  rw [finished, Variant.finishVelocity, Variant.updateParticles]
  cases c.mode <;> rfl

lemma reference_finished (c : Config S D) (speed : S) (s : State d S D R) :
    (finished c speed s).reference = s.reference := by
  rw [finished, Variant.finishVelocity, Variant.updateParticles]
  cases c.mode <;> rfl

/-- Particles are updated after everything else, and nothing else is. -/
lemma velocity_finished (c : Config S D) (speed : S) (s : State d S D R) :
    (finished c speed s).velocity = (Variant.finishVelocity c s speed).velocity := by
  rw [finished, Variant.updateParticles]
  cases c.mode <;> rfl

lemma phi_finished (c : Config S D) (speed : S) (s : State d S D R) :
    (finished c speed s).phi = (Variant.finishVelocity c s speed).phi := by
  rw [finished, Variant.updateParticles]
  cases c.mode <;> rfl

variable [RandomSource R S]

def density (c : Config S D) (s : State d S D R) : Density.Outcome S R :=
  Density.adjust s.particles s.flags s.phi s.velocity (densitySettings c d) s.random

omit [Scalar S] [RandomSource R S] in
def withParticles (s : State d S D R) (o : Density.Outcome S R) : State d S D R :=
  { s with particles := o.particles, random := o.random }

end Step

end FreeSurface

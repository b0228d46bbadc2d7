import FreeSurface.Particle.Density
import FreeSurface.Projection.Solve
import FreeSurface.Run.Variant
import FreeSurface.Velocity.Advection
import FreeSurface.Velocity.Walls

/-!
# Steps

One step moves particles, surface and velocity, projects the velocity, and looks after the
particles.

* `Simulation` — a repaired configuration and a state.
* `Step.attempt` — the stages of a step of a given size; it fails when a stage does.
* `Simulation.advance` — chooses a step size and attempts it; a step that fails is attempted once
  more at half its size, from the same state; a step that fails twice changes nothing.
-/

namespace FreeSurface

open scoped Literals

/-- What a step did. -/
structure StepReport (S D : Type) where
  dt : D
  /-- The step succeeded at half its size only. -/
  retried : Bool
  /-- The largest speed at its start. -/
  maxVelocity : S
  volume : Nat
  pressure : SolveReport D
  density : DensityReport
deriving BEq

/-- Computations that may fail in a stage and tell what happens. -/
abbrev Attempt (S D : Type) : Type → Type := ExceptT (StageFailure D) (StateM (List (Event S D)))

namespace Step

variable {d : Dims} {S D R : Type} [Scalar S] [Scalar D] [Precision S D] [RandomSource R S]

def tell (events : List (Event S D)) : Attempt S D Unit := modify (· ++ events)

/-- Fails in a stage when a quantity is not finite. -/
def requireFinite (stage : Stage) (quantity : String) (finite : Bool) : Attempt S D Unit :=
  if finite then pure () else throw ⟨stage, .nonFinite quantity⟩

/-- Fails in a stage when the computation fails. -/
def inStage {α : Type} (stage : Stage) (r : Except (NumericalFailure D) α) : Attempt S D α :=
  match r with
  | .ok a => pure a
  | .error cause => throw ⟨stage, cause⟩

/-- Particles, surface and velocity move along the velocity. -/
def advect (s : State d S D R) (dt : S) : State d S D R :=
  let particles := Advection.particles s.particles s.flags s.velocity dt
  let carried := Advection.scalar s.flags s.velocity s.phi dt 1
  let phi := Surface.extendIntoObstacles carried s.flags
  { s with
    particles := particles
    phi := phi
    flags := s.flags.reclassify phi
    velocity := Advection.velocity s.velocity dt 2 }

/-- Gravity acts, and walls stop the flow. -/
def applyForces (c : Config S D) (s : State d S D R) (dt : S) : State d S D R :=
  { s with
    velocity := Velocity.closeWalls s.flags (Velocity.accelerate s.flags s.velocity c.gravity dt) }

/-- The bounds on the number of particles that a configuration sets. -/
def densitySettings (c : Config S D) (d : Dims) : DensitySettings S where
  minPerCell := c.minParticles
  maxPerCell := c.maxParticles
  band := Variant.particleBand c
  surface := Surface.surfaceDistance d c.radiusFactor
  maxTotal := c.maxParticleCount
  kernel := c.kernel

/-- The pressure makes the velocity of the liquid free of divergence, up to the source that steers
the volume. -/
def project (c : Config S D) (s : State d S D R) :
    Attempt S D (State d S D R × SolveReport D) := do
  let source := Measure.volumeCorrection c.volumeGain s.targetVolume s.flags.fluidCount
  let outcome := Projection.solve s.velocity s.flags (some s.phi) source c.pressure
  tell (outcome.dropped.toList.map .sourceDropped)
  let projected ← inStage .projection outcome.result
  return ({ s with
    velocity := Velocity.closeWalls s.flags projected.velocity
    pressure := projected.pressure }, projected.report)

/-- The number of particles is brought within its bounds. -/
def adjustDensity (c : Config S D) (s : State d S D R) :
    Attempt S D (State d S D R × DensityReport) := do
  let settings := densitySettings c d
  let outcome := Density.adjust s.particles s.flags s.phi s.velocity settings s.random
  if outcome.report.capped then
    tell [.capReached settings.maxTotal outcome.particles.size outcome.wanted]
  return ({ s with particles := outcome.particles, random := outcome.random }, outcome.report)

/-- The stages of a step of size `dt`; `speed` is the largest one at its start. -/
def attempt (c : Config S D) (dt : D) (speed : S) (start : State d S D R) :
    Attempt S D (State d S D R × StepReport S D) := do
  let s := advect start (narrow dt)
  requireFinite .advection "particles" (Particles.allFinite s.particles)
  requireFinite .advection "level set" (Field.allFinite s.phi)
  requireFinite .advection "velocity" s.velocity.allFinite
  let s := Variant.rebuildSurface c s
  requireFinite .surface "level set" (Field.allFinite s.phi)
  let (s, events) := Variant.transferVelocity c s
  tell events
  requireFinite .transfer "velocity" s.velocity.allFinite
  let s := applyForces c s (narrow dt)
  let volume := s.flags.fluidCount
  let (s, pressure) ← project c s
  let s := Variant.updateParticles c (Variant.finishVelocity c s speed)
  requireFinite .extrapolation "velocity" s.velocity.allFinite
  requireFinite .extrapolation "level set" (Field.allFinite s.phi)
  requireFinite .extrapolation "particles" (Particles.allFinite s.particles)
  let (s, density) ← adjustDensity c s
  requireFinite .density "particles" (Particles.allFinite s.particles)
  return (s, ⟨dt, false, speed, volume, pressure, density⟩)

end Step

/-- A repaired configuration and the state of its simulation. -/
structure Simulation (S D R : Type) where
  config : Config S D
  dims : Dims
  state : State dims S D R

/-- Why a simulation does not go on. -/
inductive StepFailure (D : Type) where
  /-- A step failed twice. -/
  | aborted (frame step : UInt32) (failure : StageFailure D)
  /-- No step size could be chosen. -/
  | unorderedBounds
deriving BEq

namespace Simulation

variable {S D R : Type} [Scalar S] [Scalar D] [Precision S D] [RandomSource R S]

omit [Precision S D] in
/-- Repairs a configuration and sets up its scene. -/
def start (c : Config S D) : Simulation S D R :=
  let config := c.normalized
  ⟨config, c.normalizedDims, State.initial config c.normalizedDims⟩

omit [Precision S D] in
/-- What is told about a start. -/
def startEvents (c : Config S D) (sim : Simulation S D R) : List (Event S D) :=
  c.normalize.2.map .repaired ++ [sim.state.initialEvent sim.config.mode]

omit [Scalar S] [Scalar D] [Precision S D] [RandomSource R S] in
def withClock (sim : Simulation S D R) (clock : Clock D) : Simulation S D R :=
  { sim with state := { sim.state with clock := clock } }

omit [RandomSource R S] in
/-- The simulation as a step finds it: in a frame that is not complete, with the size of the step
chosen. -/
def prepare (sim : Simulation S D R) : Except UnorderedBounds (Simulation S D R) :=
  (sim.state.clock.rollover.choose? (widen sim.state.velocity.maxMagnitude)).map sim.withClock

/-- Attempts the step in progress. -/
def attemptStep (sim : Simulation S D R) (speed : S) :
    Except (StageFailure D) (Simulation S D R × StepReport S D) × List (Event S D) :=
  let (result, events) := (Step.attempt sim.config sim.state.clock.dt speed sim.state).run.run []
  (result.map fun (state, report) => ({ sim with state := state }, report), events)

omit [Scalar S] [Precision S D] [RandomSource R S] in
/-- The step in progress is done. -/
def commit (sim : Simulation S D R) : Simulation S D R := sim.withClock sim.state.clock.commit

omit [Scalar S] [Scalar D] [Precision S D] [RandomSource R S] in
/-- What is told about a step that is done. -/
def stepEvent (sim : Simulation S D R) (report : StepReport S D) : Event S D :=
  .stepped sim.state.clock.frame sim.state.clock.stepsInFrame report.dt report.maxVelocity
    report.volume report.pressure.iterations sim.state.particles.size report.density.added
    (report.density.removedInvalid + report.density.removedExcess)

/-- The outcome of a step, the simulation after it, and what is told about it. -/
structure Advance (S D R : Type) where
  result : Except (StepFailure D) (StepReport S D)
  simulation : Simulation S D R
  events : List (Event S D)

/-- Makes a prepared step, with at most one retry. -/
def advancePrepared (sim : Simulation S D R) (speed : S) : Advance S D R :=
  let frame := sim.state.clock.frame
  let step := sim.state.clock.stepsInFrame
  match sim.attemptStep speed with
  | (.ok (done, report), events) =>
    let done := done.commit
    ⟨.ok report, done, events ++ [done.stepEvent report]⟩
  | (.error first, events) =>
    let halved := sim.withClock sim.state.clock.halve
    let events := events ++ [.retrying frame step first halved.state.clock.dt]
    match halved.attemptStep speed with
    | (.ok (done, report), more) =>
      let done := done.commit
      let report := { report with retried := true }
      ⟨.ok report, done, events ++ more ++ [done.stepEvent report]⟩
    | (.error second, more) =>
      ⟨.error (.aborted frame step second), sim, events ++ more ++ [.aborting frame step second]⟩

def advance (sim : Simulation S D R) : Advance S D R :=
  match sim.prepare with
  | .error _ => ⟨.error .unorderedBounds, sim.withClock sim.state.clock.rollover, []⟩
  | .ok prepared => advancePrepared prepared sim.state.velocity.maxMagnitude

end Simulation

end FreeSurface

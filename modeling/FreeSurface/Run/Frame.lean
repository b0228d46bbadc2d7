import FreeSurface.Run.Step

/-!
# Frames

A frame is a series of steps that ends on its boundary, and is summed up in a record.

* `Simulation.runFrame` — steps until the frame is complete.
* `Simulation.run` — frame after frame, each record going to a sink before the next frame starts.

Nothing bounds the number of steps of a frame: each of them may be made as small as it takes.  A
frame whose steps never complete it has no outcome, `none`.
-/

namespace FreeSurface

/-- What a frame was like. -/
structure FrameRecord (S D : Type) where
  mode : Mode
  frame : UInt32
  /-- Time since the start. -/
  time : D
  steps : UInt32
  /-- Steps that succeeded at half their size only. -/
  retries : UInt32
  volume : Nat
  energy : D
  particles : Nat
  maxVelocity : S
  /-- The most rounds that a pressure took. -/
  pressureIterations : Nat
deriving BEq

/-- Takes the records of frames as they are completed.  `ε` is how it may fail. -/
structure Sink (m : Type → Type) (ε S D : Type) where
  record : FrameRecord S D → Particles S → m (Except ε Unit)
  tell : List (Event S D) → m Unit

namespace Simulation

variable {S D R : Type} [Scalar S] [Scalar D] [Precision S D] [RandomSource R S]

/-- What has been counted in a frame so far. -/
structure Tally where
  retries : UInt32
  iterations : Nat

/-- Counts a step. -/
def Tally.count (tally : Tally) (report : StepReport S D) : Tally where
  retries := tally.retries + if report.retried then 1 else 0
  iterations := Nat.max tally.iterations report.pressure.iterations

/-- The steps of a frame and what is told about them. -/
structure FrameRun (α S D R : Type) where
  result : Except (StepFailure D) α
  simulation : Simulation S D R
  events : List (Event S D)

/-- Steps until the frame is complete. -/
def stepThrough (tally : Tally) (sim : Simulation S D R) : Option (FrameRun Tally S D R) :=
  if sim.state.clock.isFrameComplete then some ⟨.ok tally, sim, []⟩
  else
    let step := sim.advance
    match step.result with
    | .error failure => some ⟨.error failure, step.simulation, step.events⟩
    | .ok report => do
      let rest ← step.simulation |>.stepThrough (tally.count report)
      return { rest with events := step.events ++ rest.events }
partial_fixpoint

omit [RandomSource R S] in
def frameRecord (sim : Simulation S D R) (tally : Tally) : FrameRecord S D where
  mode := sim.config.mode
  frame := sim.state.clock.frame
  time := sim.state.clock.totalTime
  steps := sim.state.clock.stepsInFrame
  retries := tally.retries
  volume := sim.state.flags.fluidCount
  energy := Measure.energy sim.state.flags sim.state.velocity sim.config.gravity
  particles := sim.state.particles.size
  maxVelocity := sim.state.velocity.maxMagnitude
  pressureIterations := tally.iterations

/-- What is told about a frame. -/
def frameEvent (record : FrameRecord S D) : Event S D :=
  .frameDone record.frame record.time record.steps record.volume record.energy record.particles

/-- Sums up steps in a record if they completed their frame. -/
def FrameRun.summarize (run : FrameRun Tally S D R) : FrameRun (FrameRecord S D) S D R :=
  match run.result with
  | .error failure => ⟨.error failure, run.simulation, run.events⟩
  | .ok tally =>
    let record := run.simulation.frameRecord tally
    ⟨.ok record, run.simulation, run.events ++ [frameEvent record]⟩

/-- Completes the frame in progress, or the next one if it is complete. -/
def runFrame (sim : Simulation S D R) : Option (FrameRun (FrameRecord S D) S D R) :=
  (stepThrough ⟨0, 0⟩ (sim.withClock sim.state.clock.rollover)).map FrameRun.summarize

/-- Why a run ends early: a frame was not completed, or its record was refused. -/
inductive RunFailure (ε D : Type) where
  | frame (failure : StepFailure D)
  | sink (failure : ε)

/-- Runs a number of frames. -/
def run {m : Type → Type} [Monad m] {ε : Type} (sink : Sink m ε S D) : (frames : Nat) →
    Simulation S D R → m (Option (Except (RunFailure ε D) Unit × Simulation S D R))
  | 0, sim => pure (some (.ok (), sim))
  | frames + 1, sim =>
    match sim.runFrame with
    | none => pure none
    | some done => do
      sink.tell done.events
      match done.result with
      | .error failure => pure (some (.error (.frame failure), done.simulation))
      | .ok record =>
        match ← sink.record record done.simulation.state.particles with
        | .error failure => pure (some (.error (.sink failure), done.simulation))
        | .ok () => run sink frames done.simulation

end Simulation

end FreeSurface

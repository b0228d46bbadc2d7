import FreeSurface.Config.Normalize
import FreeSurface.Failure

/-!
# Events

What is worth telling about a simulation while it runs.  Computations return the events they give
rise to; how an event reads is settled in `Report/EventText.lean`.
-/

namespace FreeSurface

/-- How much an event matters. -/
inductive Severity where
  | error
  | warn
  | info
  | debug
deriving DecidableEq, Repr

/-- The rank of a severity, the gravest first. -/
def Severity.rank : Severity → Nat
  | .error => 0
  | .warn => 1
  | .info => 2
  | .debug => 3

/-- Something worth telling. -/
inductive Event (S D : Type) where
  /-- A setting was replaced. -/
  | repaired (repair : Repair S D)
  /-- A scene was set up. -/
  | initialized (mode : Mode) (dims : Dims) (fluid particles : Nat) (target : D)
  /-- Near the surface, faces took the velocity of particles. -/
  | combined (faces : Nat)
  /-- Particles were lacking but may not be added. -/
  | capReached (limit present wanted : Nat)
  /-- Liquid without a surface cannot follow a source. -/
  | sourceDropped (source : S)
  /-- A step failed and is tried again at half its size. -/
  | retrying (frame step : UInt32) (failure : StageFailure D) (dt : D)
  /-- A step failed twice. -/
  | aborting (frame step : UInt32) (failure : StageFailure D)
  | stepped (frame step : UInt32) (dt : D) (maxVelocity : S)
      (volume iterations particles added removed : Nat)
  | frameDone (frame : UInt32) (time : D) (steps : UInt32) (volume : Nat) (energy : D)
      (particles : Nat)
  /-- A file was written. -/
  | wrote (path : String)
  | running (frames : Nat) (mode : Mode) (resolution : Nat)

/-- How much an event matters. -/
def Event.severity {S D : Type} : Event S D → Severity
  | .repaired _ | .capReached .. | .sourceDropped _ | .retrying .. => .warn
  | .aborting .. => .error
  | .initialized .. | .frameDone .. | .running .. => .info
  | .combined _ | .stepped .. | .wrote _ => .debug

end FreeSurface

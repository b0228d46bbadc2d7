import FreeSurface.Particle.Basic
import FreeSurface.Run.Frame
import FreeSurface.Written.Configuration

/-!
# Written clocks, frame records and particles

* `Written.clock`, `Written.clock?` — a clock with its settings.
* `Written.frameRecord`, `Written.frameRecord?` — the record of a frame.
* `Written.snapshot`, `Written.snapshot?` — all particles at the end of a frame.
-/

namespace FreeSurface

namespace Written

/-- A count in a word of 32 bits. -/
def count (n : UInt32) : Json := Json.nat n.toNat

def count? (j : Json) : Option UInt32 := (Json.nat? Json.word32 j).map UInt32.ofNat

/-! ## Clocks -/

section Clocks

variable {D : Type} [JsonScalar D]

def clockSettings (s : ClockSettings D) : Json :=
  Json.ofFields [("frame_length", number s.frameLength), ("timestep", number s.timestep),
    ("timestep_min", number s.timestepMin), ("timestep_max", number s.timestepMax),
    ("cfl", number s.cfl)]

/-- The settings of a clock; all of them must be present. -/
def clockSettings? (j : Json) : Option (ClockSettings D) := do
  let fields ← j.record? ["frame_length", "timestep", "timestep_min", "timestep_max", "cfl"]
  let frameLength ← Json.required fields "frame_length" number?
  let timestep ← Json.required fields "timestep" number?
  let timestepMin ← Json.required fields "timestep_min" number?
  let timestepMax ← Json.required fields "timestep_max" number?
  let cfl ← Json.required fields "cfl" number?
  return ⟨frameLength, timestep, timestepMin, timestepMax, cfl⟩

def clock (c : Clock D) : Json :=
  Json.ofFields [("settings", clockSettings c.settings), ("frame", count c.frame),
    ("time_in_frame", number c.timeInFrame), ("dt", number c.dt),
    ("steps_in_frame", count c.stepsInFrame), ("total_time", number c.totalTime)]

/-- A clock; all of its fields must be present. -/
def clock? (j : Json) : Option (Clock D) := do
  let fields ← j.record?
    ["settings", "frame", "time_in_frame", "dt", "steps_in_frame", "total_time"]
  let settings ← Json.required fields "settings" clockSettings?
  let frame ← Json.required fields "frame" count?
  let timeInFrame ← Json.required fields "time_in_frame" number?
  let dt ← Json.required fields "dt" number?
  let stepsInFrame ← Json.required fields "steps_in_frame" count?
  let totalTime ← Json.required fields "total_time" number?
  return ⟨settings, frame, timeInFrame, dt, stepsInFrame, totalTime⟩

end Clocks

/-! ## Frame records -/

section Frames

variable {S D : Type} [JsonScalar S] [JsonScalar D]

def frameRecord (r : FrameRecord S D) : Json :=
  Json.ofFields [("mode", Json.text r.mode.name), ("frame", count r.frame),
    ("time", number r.time), ("steps", count r.steps), ("retries", count r.retries),
    ("volume", Json.nat r.volume), ("energy", number r.energy),
    ("particles", Json.nat r.particles), ("max_velocity", number r.maxVelocity),
    ("pressure_iterations", Json.nat r.pressureIterations)]

/-- The record of a frame; all of its fields must be present. -/
def frameRecord? (j : Json) : Option (FrameRecord S D) := do
  let fields ← j.record? ["mode", "frame", "time", "steps", "retries", "volume", "energy",
    "particles", "max_velocity", "pressure_iterations"]
  let mode ← Json.required fields "mode" mode?
  let frame ← Json.required fields "frame" count?
  let time ← Json.required fields "time" number?
  let steps ← Json.required fields "steps" count?
  let retries ← Json.required fields "retries" count?
  let volume ← Json.required fields "volume" (Json.nat? Json.word64)
  let energy ← Json.required fields "energy" number?
  let particles ← Json.required fields "particles" (Json.nat? Json.word64)
  let maxVelocity ← Json.required fields "max_velocity" number?
  let pressureIterations ← Json.required fields "pressure_iterations" (Json.nat? Json.word64)
  return ⟨mode, frame, time, steps, retries, volume, energy, particles, maxVelocity,
    pressureIterations⟩

/-- The line of a record in a file of records. -/
def frameLine (r : FrameRecord S D) : String := (frameRecord r).compact ++ "\n"

end Frames

/-! ## Particles -/

section Particles

variable {S : Type} [JsonScalar S]

def particle (p : Particle S) : Json :=
  Json.ofFields [("position", vector p.position), ("velocity", vector p.velocity)]

def particle? (room : Nat) (j : Json) : Option (Particle S) := do
  let fields ← j.record? ["position", "velocity"]
  let position ← Json.required fields "position" (vector? (room - 1))
  let velocity ← Json.required fields "velocity" (vector? (room - 1))
  return ⟨position, velocity⟩

/-- Particles as an object with a list. -/
def particles (ps : Particles S) : Json :=
  Json.ofFields [("list", .array (ps.toList.map particle))]

def particles? (room : Nat) (j : Json) : Option (Particles S) := do
  let fields ← j.record? ["list"]
  let list ← Json.required fields "list" fun j => do (← j.items?).mapM (particle? (room - 2))
  return list.toArray

end Particles

end Written

/-- The particles at the end of a frame. -/
structure Snapshot (S : Type) where
  frame : UInt32
  particles : Particles S
deriving BEq

namespace Written

variable {S : Type} [JsonScalar S]

def snapshot (s : Snapshot S) : Json :=
  Json.ofFields [("frame", count s.frame), ("particles", particles s.particles)]

def snapshot? (room : Nat) (j : Json) : Option (Snapshot S) := do
  let fields ← j.record? ["frame", "particles"]
  let frame ← Json.required fields "frame" count?
  let particles ← Json.required fields "particles" (particles? (room - 1))
  return ⟨frame, particles⟩

def snapshotText (s : Snapshot S) : String := (snapshot s).compact

def snapshotOfText? (text : String) : Except Malformed (Snapshot S) :=
  match (Json.parse? text).bind (snapshot? Json.maxDepth) with
  | some s => .ok s
  | none => .error ⟨⟩

def clockOfText? {D : Type} [JsonScalar D] (text : String) : Except Malformed (Clock D) :=
  match (Json.parse? text).bind clock? with
  | some c => .ok c
  | none => .error ⟨⟩

end Written

end FreeSurface

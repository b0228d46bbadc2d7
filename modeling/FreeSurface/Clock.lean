import FreeSurface.Number.Scalar

/-!
# Clock

Time is divided into frames of equal length and each frame into steps.  The clock knows the frame,
the time in it, and the size of the step in progress; it chooses step sizes so that every frame ends
exactly on its boundary.

* `Clock.proposal?` — the step size for a speed, before the end of the frame is considered.
* `Clock.choose?` — the step size for the next step: a last step takes what is left of the frame,
  and two last steps share it.
* `Clock.halve` — a step that failed is tried again at half its size.
* `Clock.commit` — the step is done.

Frames and the steps of a frame are counted in words of 32 bits, which start anew after the last.
-/

namespace FreeSurface

open scoped Literals

/-- How time is divided. -/
structure ClockSettings (D : Type) where
  frameLength : D
  /-- The step size for fixed stepping and for a liquid at rest. -/
  timestep : D
  timestepMin : D
  timestepMax : D
  /-- How many cells the liquid may travel in a step; zero or less asks for fixed stepping. -/
  cfl : D
deriving BEq

/-- Frame, time in the frame, size of the step in progress, steps made in the frame, and the time
since the start. -/
structure Clock (D : Type) where
  settings : ClockSettings D
  frame : UInt32
  timeInFrame : D
  dt : D
  stepsInFrame : UInt32
  totalTime : D
deriving BEq

/-- The bounds of the step size are not in order. -/
structure UnorderedBounds where

namespace ClockSettings

variable {D : Type} [Scalar D]

/-- Frames of length two, steps of about one. -/
def standard : ClockSettings D where
  frameLength := 2
  timestep := 1
  timestepMin := Scalar.ofDecimal 2 1
  timestepMax := 2
  cfl := 1

end ClockSettings

namespace Clock

variable {D : Type} [Scalar D]

/-- The clock at the start of the first frame. -/
def start (settings : ClockSettings D) : Clock D where
  settings := settings
  frame := 0
  timeInFrame := 0
  dt := settings.timestep
  stepsInFrame := 0
  totalTime := 0

/-- What is left of the frame. -/
def remaining (c : Clock D) : D := Scalar.max (c.settings.frameLength - c.timeInFrame) 0

def isFrameComplete (c : Clock D) : Bool := c.settings.frameLength ≤ c.timeInFrame

/-- The step size at which the given speed travels the allowed number of cells, within the bounds.
With fixed stepping, without motion, and for a speed that is no finite number, it is the nominal
one.  There is none if it has to be moved within bounds that are not in order. -/
def proposal? (c : Clock D) (speed : D) : Except UnorderedBounds D :=
  let s := c.settings
  if s.cfl ≤ 0 ∨ Scalar.isFinite speed = false ∨ speed ≤ 0 then .ok s.timestep
  else if s.timestepMin ≤ s.timestepMax then
    .ok (Scalar.clamp (s.cfl / speed) s.timestepMin s.timestepMax)
  else .error ⟨⟩

/-- A step takes all that is left of a frame when less than this many steps are left. -/
@[inline] def frameEndSlack : D := Scalar.ofDecimal 105 2

/-- A proposed step size, fitted to the end of the frame. -/
def fit (c : Clock D) (dt : D) : D :=
  if c.settings.frameLength < c.timeInFrame + frameEndSlack * dt then c.remaining
  else if c.settings.frameLength < c.timeInFrame + 2 * dt then c.remaining * Scalar.half
  else dt

/-- Chooses the size of the next step. -/
def choose? (c : Clock D) (speed : D) : Except UnorderedBounds (Clock D) :=
  (c.proposal? speed).map fun dt => { c with dt := c.fit dt }

/-- Halves the step in progress. -/
def halve (c : Clock D) : Clock D := { c with dt := c.dt * Scalar.half }

/-- Moves on by the step in progress, at most to the end of the frame. -/
def commit (c : Clock D) : Clock D :=
  let left := c.remaining
  if left ≤ c.dt then
    { c with
      timeInFrame := c.settings.frameLength
      totalTime := c.totalTime + left
      stepsInFrame := c.stepsInFrame + 1 }
  else
    { c with
      timeInFrame := c.timeInFrame + c.dt
      totalTime := c.totalTime + c.dt
      stepsInFrame := c.stepsInFrame + 1 }

def nextFrame (c : Clock D) : Clock D :=
  { c with frame := c.frame + 1, timeInFrame := 0, stepsInFrame := 0 }

/-- Begins the next frame if this one is complete. -/
def rollover (c : Clock D) : Clock D := if c.isFrameComplete then c.nextFrame else c

end Clock

end FreeSurface

import FreeSurface.Config.Normalize
import FreeSurface.Measure
import FreeSurface.Particle.Seeding
import FreeSurface.Run.Event
import FreeSurface.Surface.Extension
import FreeSurface.Transfer.Sampling

/-!
# The state of a simulation

Everything a step reads and writes, and how it starts from a scene.
-/

namespace FreeSurface

/-- Everything a step reads and writes. -/
structure State (d : Dims) (S D R : Type) where
  flags : Flags d
  /-- Negative inside the liquid. -/
  phi : ScalarField d S
  velocity : Staggered d S
  /-- The velocity right after particles were transferred to the grid. -/
  reference : Staggered d S
  pressure : ScalarField d S
  particles : Particles S
  clock : Clock D
  /-- The volume that is steered to, in cells. -/
  targetVolume : D
  random : R

namespace State

variable {d : Dims} {S D R : Type} [Scalar S] [Scalar D] [RandomSource R S]

/-- Parts of a cell along each axis when particles are seeded. -/
def seedDiscretization : Nat := 2

/-- How far seeds are displaced, in cells. -/
def seedRandomness : S := Scalar.ofDecimal 5 2

/-- The state in which a scene starts. -/
def initial (c : Config S D) (d : Dims) : State d S D R :=
  let (flags, liquid) := c.scene.build d
  let phi := Surface.extendIntoObstacles liquid flags
  let (seeds, random) :=
    Seeding.seed phi flags seedDiscretization seedRandomness (#[], RandomSource.ofSeed c.seed)
  let velocity := c.scene.imposeVelocity (Staggered.zero d)
  { flags := flags
    phi := phi
    velocity := velocity
    reference := velocity
    pressure := Field.constant d.cells (Scalar.ofNat 0)
    particles :=
      if c.mode = .levelset then seeds else Transfer.takeVelocity seeds velocity c.kernel
    clock := Clock.start c.clock
    targetVolume := c.targetVolume.getD (Scalar.ofNat flags.fluidCount)
    random := random }

omit [Scalar S] [Scalar D] [RandomSource R S] in
/-- What is told about a start. -/
def initialEvent (s : State d S D R) (mode : Mode) : Event S D :=
  .initialized mode d s.flags.fluidCount s.particles.size s.targetVolume

end State

end FreeSurface

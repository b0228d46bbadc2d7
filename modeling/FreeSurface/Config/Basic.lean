import FreeSurface.Clock
import FreeSurface.Projection.ConjugateGradient
import FreeSurface.Scene
import FreeSurface.Transfer.Kernel

/-!
# Configurations

Everything that can be chosen about a simulation.

* `Mode` — what particles are used for.
* `Config.standard` — the configuration that every other one starts from.
* `Config.ofPreset`, `Config.ofPresetName?` — a configuration for each scene of the solver.
-/

namespace FreeSurface

open scoped Literals

/-- The variants of the method. -/
inductive Mode where
  /-- The level set alone; particles ride along. -/
  | levelset
  /-- Particles define the surface and take their velocity from the grid. -/
  | flip0
  /-- Particles carry velocity throughout the liquid. -/
  | flip
  /-- Particles carry velocity in a band below the surface. -/
  | nbflip
deriving DecidableEq, Repr, Inhabited

namespace Mode

/-- The name by which a mode is chosen and reported. -/
def name : Mode → String
  | .levelset => "levelset"
  | .flip0 => "flip0"
  | .flip => "flip"
  | .nbflip => "nbflip"

def all : List Mode := [.levelset, .flip0, .flip, .nbflip]

def ofName? (s : String) : Option Mode := all.find? (·.name == s)

end Mode

/-- What can be chosen about a simulation. -/
structure Config (S D : Type) where
  mode : Mode
  /-- Two or three. -/
  dimension : Nat
  /-- Cells along each side. -/
  resolution : Nat
  /-- Particles live down to this depth. -/
  narrowBand : S
  /-- Down to this depth particle velocities replace those of the grid. -/
  combineBand : S
  /-- They do so where particles have more than this weight. -/
  combineWeightThreshold : S
  kernel : Kernel
  clock : ClockSettings D
  /-- In domains per unit of time squared. -/
  gravity : Vec3 S
  /-- The volume to steer to, in cells; without one, the volume at the start. -/
  targetVolume : Option D
  /-- How strongly the volume is steered. -/
  volumeGain : S
  /-- The share of their own velocity that particles keep. -/
  flipRatio : S
  /-- The radius of a particle, in half diagonals of a cell. -/
  radiusFactor : S
  minParticles? : Option Nat
  maxParticles? : Option Nat
  /-- No more particles than this in total. -/
  maxParticleCount : Nat
  pressure : SolverSettings D
  seed : Nat
  scene : Scene S
deriving BEq

/-- A scene that the solver does not have was asked for. -/
structure UnknownPreset where
  name : String
deriving DecidableEq, Repr

namespace SolverSettings

/-- A thousandth of a cell per unit of time, within a thousand rounds. -/
def standard {D : Type} [Scalar D] : SolverSettings D := ⟨Scalar.ofDecimal 1 3, 1000⟩

end SolverSettings

namespace Config

variable {S D : Type} [Scalar S] [Scalar D]

/-- The share of their own velocity that particles keep unless told otherwise. -/
def standardFlipRatio : S := Scalar.ofDecimal 95 2

/-- A planar drop into a pool, in narrow-band mode. -/
def standard : Config S D where
  mode := .nbflip
  dimension := 2
  resolution := 64
  narrowBand := 4
  combineBand := 3
  combineWeightThreshold := Scalar.ofDecimal 1 1
  kernel := .dLinear
  clock := .standard
  gravity := ⟨0, -(Scalar.ofDecimal 3 3), 0⟩
  targetVolume := none
  volumeGain := Scalar.ofDecimal 1 2
  flipRatio := standardFlipRatio
  radiusFactor := 1
  minParticles? := none
  maxParticles? := none
  maxParticleCount := 2000000
  pressure := .standard
  seed := 1
  scene := .dropIntoPool

def ofPreset : Preset → Config S D
  | .dropIntoPool => { standard with targetVolume := some 800, scene := .dropIntoPool }
  | .breakingDam => { standard with scene := .breakingDam }

def ofPresetName? (name : String) : Except UnknownPreset (Config S D) :=
  if name == "drop_into_pool" then .ok (ofPreset .dropIntoPool)
  else if name == "breaking_dam" then .ok (ofPreset .breakingDam)
  else .error ⟨name⟩

omit [Scalar S] [Scalar D] in
def dims? (c : Config S D) : Except EmptyDomain Dims := Dims.cubic c.dimension c.resolution

/-- A cell has as many corners as this; exponents count modulo the width of a word. -/
def corners (dimension : Nat) : Nat := Nat.pow 2 (dimension % 64)

omit [Scalar S] [Scalar D] in
/-- The least number of particles per cell: one for each corner unless told otherwise. -/
def minParticles (c : Config S D) : Nat := c.minParticles?.getD (corners c.dimension)

omit [Scalar S] [Scalar D] in
/-- The greatest number of particles per cell: twice the least unless told otherwise. -/
def maxParticles (c : Config S D) : Nat := c.maxParticles?.getD (2 * c.minParticles)

end Config

end FreeSurface

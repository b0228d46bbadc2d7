import FreeSurface.Config.Basic
import FreeSurface.Text.Json.Parser
import FreeSurface.Text.Json.Printer
import FreeSurface.Written.Geometry

/-!
# Written configurations

A configuration is written as an object with a field for every setting.  When it is read, settings
that are left out are those of the standard configuration, and unknown fields are passed over.

* `Written.configuration`, `Written.configuration?` — as documents.
* `Written.configurationText`, `Written.configurationOfText?` — as texts.
-/

namespace FreeSurface

namespace Written

/-- A text that is no document of the kind asked for. -/
structure Malformed where
deriving DecidableEq, Repr

def kernelName : Kernel → String
  | .dLinear => "d_linear"
  | .smooth => "smooth"

def kernelOfName? (name : String) : Option Kernel :=
  [Kernel.dLinear, .smooth].find? (kernelName · == name)

def mode? (j : Json) : Option Mode := j.name?.bind Mode.ofName?

def kernel? (j : Json) : Option Kernel := j.name?.bind kernelOfName?

def configurationFields : List String :=
  ["mode", "dim", "resolution", "narrow_band", "combine_band", "combine_weight_threshold", "kernel",
    "frame_length", "timestep", "timestep_min", "timestep_max", "cfl", "gravity", "target_volume",
    "volume_gain", "flip_ratio", "radius_factor", "min_particles", "max_particles",
    "max_particle_count", "pressure_accuracy", "pressure_max_iterations", "seed", "scene"]

variable {S D : Type} [JsonScalar S] [JsonScalar D]

def configuration (c : Config S D) : Json :=
  Json.ofFields (configurationFields.zip
    [Json.text c.mode.name, Json.nat c.dimension, Json.nat c.resolution, number c.narrowBand,
      number c.combineBand, number c.combineWeightThreshold, Json.text (kernelName c.kernel),
      number c.clock.frameLength, number c.clock.timestep, number c.clock.timestepMin,
      number c.clock.timestepMax, number c.clock.cfl, vector c.gravity,
      optional number c.targetVolume, number c.volumeGain, number c.flipRatio,
      number c.radiusFactor, optional Json.nat c.minParticles?, optional Json.nat c.maxParticles?,
      Json.nat c.maxParticleCount, number c.pressure.accuracy, Json.nat c.pressure.maxIterations,
      Json.nat c.seed, scene c.scene])

def configuration? [Scalar S] [Scalar D] (room : Nat) (j : Json) : Option (Config S D) := do
  let base : Config S D := .standard
  let fields ← j.record? configurationFields
  let size := Json.nat? Json.word64
  let mode ← Json.withDefault fields "mode" mode? base.mode
  let dimension ← Json.withDefault fields "dim" (Json.nat? Json.word32) base.dimension
  let resolution ← Json.withDefault fields "resolution" size base.resolution
  let narrowBand ← Json.withDefault fields "narrow_band" number? base.narrowBand
  let combineBand ← Json.withDefault fields "combine_band" number? base.combineBand
  let combineWeightThreshold ←
    Json.withDefault fields "combine_weight_threshold" number? base.combineWeightThreshold
  let kernel ← Json.withDefault fields "kernel" kernel? base.kernel
  let frameLength ← Json.withDefault fields "frame_length" number? base.clock.frameLength
  let timestep ← Json.withDefault fields "timestep" number? base.clock.timestep
  let timestepMin ← Json.withDefault fields "timestep_min" number? base.clock.timestepMin
  let timestepMax ← Json.withDefault fields "timestep_max" number? base.clock.timestepMax
  let cfl ← Json.withDefault fields "cfl" number? base.clock.cfl
  let gravity ← Json.withDefault fields "gravity" (vector? (room - 1)) base.gravity
  let targetVolume ←
    Json.withDefault fields "target_volume" (Json.optional? number?) base.targetVolume
  let volumeGain ← Json.withDefault fields "volume_gain" number? base.volumeGain
  let flipRatio ← Json.withDefault fields "flip_ratio" number? base.flipRatio
  let radiusFactor ← Json.withDefault fields "radius_factor" number? base.radiusFactor
  let minParticles? ←
    Json.withDefault fields "min_particles" (Json.optional? size) base.minParticles?
  let maxParticles? ←
    Json.withDefault fields "max_particles" (Json.optional? size) base.maxParticles?
  let maxParticleCount ← Json.withDefault fields "max_particle_count" size base.maxParticleCount
  let accuracy ← Json.withDefault fields "pressure_accuracy" number? base.pressure.accuracy
  let maxIterations ←
    Json.withDefault fields "pressure_max_iterations" size base.pressure.maxIterations
  let seed ← Json.withDefault fields "seed" size base.seed
  let scene ← Json.withDefault fields "scene" (scene? (room - 1)) base.scene
  return {
    mode := mode
    dimension := dimension
    resolution := resolution
    narrowBand := narrowBand
    combineBand := combineBand
    combineWeightThreshold := combineWeightThreshold
    kernel := kernel
    clock := ⟨frameLength, timestep, timestepMin, timestepMax, cfl⟩
    gravity := gravity
    targetVolume := targetVolume
    volumeGain := volumeGain
    flipRatio := flipRatio
    radiusFactor := radiusFactor
    minParticles? := minParticles?
    maxParticles? := maxParticles?
    maxParticleCount := maxParticleCount
    pressure := ⟨accuracy, maxIterations⟩
    seed := seed
    scene := scene }

def configurationText (c : Config S D) : String := (configuration c).pretty

def configurationOfText? [Scalar S] [Scalar D] (text : String) : Except Malformed (Config S D) :=
  match (Json.parse? text).bind (configuration? Json.maxDepth) with
  | some c => .ok c
  | none => .error ⟨⟩

end Written

end FreeSurface

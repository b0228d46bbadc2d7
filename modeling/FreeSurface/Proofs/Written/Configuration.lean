import FreeSurface.Proofs.Written.Geometry
import FreeSurface.Written.Configuration

/-!
# Configurations read back

* `Config.over` — some settings of a configuration, with the others taken from a second one.
* `Written.configuration?_eq` — a document that tells some settings of a configuration is read as
  those over the standard configuration.
-/

namespace FreeSurface

/-- The given settings of a configuration, with the others taken from a second one. -/
def Config.over {S D : Type} (given : String → Bool) (c base : Config S D) : Config S D where
  mode := if given "mode" then c.mode else base.mode
  dimension := if given "dim" then c.dimension else base.dimension
  resolution := if given "resolution" then c.resolution else base.resolution
  narrowBand := if given "narrow_band" then c.narrowBand else base.narrowBand
  combineBand := if given "combine_band" then c.combineBand else base.combineBand
  combineWeightThreshold :=
    if given "combine_weight_threshold" then c.combineWeightThreshold
    else base.combineWeightThreshold
  kernel := if given "kernel" then c.kernel else base.kernel
  clock := {
    frameLength := if given "frame_length" then c.clock.frameLength else base.clock.frameLength
    timestep := if given "timestep" then c.clock.timestep else base.clock.timestep
    timestepMin := if given "timestep_min" then c.clock.timestepMin else base.clock.timestepMin
    timestepMax := if given "timestep_max" then c.clock.timestepMax else base.clock.timestepMax
    cfl := if given "cfl" then c.clock.cfl else base.clock.cfl }
  gravity := if given "gravity" then c.gravity else base.gravity
  targetVolume := if given "target_volume" then c.targetVolume else base.targetVolume
  volumeGain := if given "volume_gain" then c.volumeGain else base.volumeGain
  flipRatio := if given "flip_ratio" then c.flipRatio else base.flipRatio
  radiusFactor := if given "radius_factor" then c.radiusFactor else base.radiusFactor
  minParticles? := if given "min_particles" then c.minParticles? else base.minParticles?
  maxParticles? := if given "max_particles" then c.maxParticles? else base.maxParticles?
  maxParticleCount :=
    if given "max_particle_count" then c.maxParticleCount else base.maxParticleCount
  pressure := {
    accuracy := if given "pressure_accuracy" then c.pressure.accuracy else base.pressure.accuracy
    maxIterations :=
      if given "pressure_max_iterations" then c.pressure.maxIterations
      else base.pressure.maxIterations }
  seed := if given "seed" then c.seed else base.seed
  scene := if given "scene" then c.scene else base.scene

lemma Config.over_all {S D : Type} (c base : Config S D) : c.over (fun _ => true) base = c := rfl

namespace Written

/-! ## Names -/

lemma mode?_eq (m : Mode) {told : Json} (ht : Json.Respelled (Json.text m.name) told) :
    mode? told = some m := by
  rw [text_of_respelled ht]
  simp only [mode?, Json.name?, Json.text, JsonString.text?_ofText, Option.bind_some]
  cases m <;> decide

lemma kernel?_eq (k : Kernel) {told : Json} (ht : Json.Respelled (Json.text (kernelName k)) told) :
    kernel? told = some k := by
  rw [text_of_respelled ht]
  simp only [kernel?, Json.name?, Json.text, JsonString.text?_ofText, Option.bind_some]
  cases k <;> decide

/-! ## Configurations -/

/-- Reading goes on with a value that was found. -/
lemma bind_of_eq_some {α β : Type} {o : Option α} {a : α} (h : o = some a) (f : α → Option β) :
    (o >>= f) = f a := by
  rw [h]
  rfl

variable {S D : Type} [JsonScalar S] [JsonScalar D]

/-- All numbers of a configuration are read back: no count is greater than its word, and the others
are faithful. -/
structure FaithfulConfig (c : Config S D) : Prop where
  dimension : c.dimension ≤ Json.word32
  resolution : c.resolution ≤ Json.word64
  narrowBand : Faithful c.narrowBand
  combineBand : Faithful c.combineBand
  combineWeightThreshold : Faithful c.combineWeightThreshold
  frameLength : Faithful c.clock.frameLength
  timestep : Faithful c.clock.timestep
  timestepMin : Faithful c.clock.timestepMin
  timestepMax : Faithful c.clock.timestepMax
  cfl : Faithful c.clock.cfl
  gravity : FaithfulVector c.gravity
  targetVolume : ∀ v ∈ c.targetVolume, Faithful v
  volumeGain : Faithful c.volumeGain
  flipRatio : Faithful c.flipRatio
  radiusFactor : Faithful c.radiusFactor
  minParticles? : ∀ n ∈ c.minParticles?, n ≤ Json.word64
  maxParticles? : ∀ n ∈ c.maxParticles?, n ≤ Json.word64
  maxParticleCount : c.maxParticleCount ≤ Json.word64
  accuracy : Faithful c.pressure.accuracy
  maxIterations : c.pressure.maxIterations ≤ Json.word64
  seed : c.seed ≤ Json.word64
  scene : FaithfulScene c.scene

variable {c : Config S D}

lemma FaithfulConfig.isProper (h : FaithfulConfig c) : (configuration c).IsProper := by
  have mode : (Json.text c.mode.name).IsProper := by
    cases c.mode <;> exact isProper_text (by decide)
  have kernel : (Json.text (kernelName c.kernel)).IsProper := by
    cases c.kernel <;> exact isProper_text (by decide)
  refine Json.isProper_ofFields (show ∀ name ∈ configurationFields, _ by decide) ?_
  simp [configurationFields, mode, kernel, isProper_nat, h.narrowBand.isProper,
    h.combineBand.isProper, h.combineWeightThreshold.isProper, h.frameLength.isProper,
    h.timestep.isProper,
    h.timestepMin.isProper, h.timestepMax.isProper, h.cfl.isProper, h.gravity.isProper,
    isProper_optional fun v hv => (h.targetVolume v hv).isProper, h.volumeGain.isProper,
    h.flipRatio.isProper, h.radiusFactor.isProper,
    isProper_optional fun (n : ℕ) _ => isProper_nat n, h.accuracy.isProper, h.scene.isProper]

/-- A document that tells some settings of a configuration is read as those, with the others taken
from the standard configuration. -/
lemma configuration?_eq [Scalar S] [Scalar D] (h : FaithfulConfig c) {room : ℕ} (hr : 5 ≤ room)
    {given : String → Bool} {told : Json} (ht : Json.Excerpt given (configuration c) told) :
    configuration? room told = some (c.over given .standard) := by
  obtain ⟨found, record, fields⟩ := ht.record? (show configurationFields.Nodup by decide)
  have known := record configurationFields (List.Subset.refl configurationFields)
  simp only [configurationFields, List.zip_cons_cons, List.forall_mem_cons] at fields
  obtain ⟨mode, dimension, resolution, narrowBand, combineBand, threshold, kernel, frameLength,
    timestep, timestepMin, timestepMax, cfl, gravity, targetVolume, volumeGain, flipRatio,
    radiusFactor, minParticles, maxParticles, maxParticleCount, accuracy, maxIterations, seed, body,
    -⟩ := fields
  unfold configuration?
  dsimp only
  rw [bind_of_eq_some known,
    bind_of_eq_some (mode.withDefault (fun _ => mode?_eq c.mode) _),
    bind_of_eq_some (dimension.withDefault (fun _ => nat?_eq h.dimension) _),
    bind_of_eq_some (resolution.withDefault (fun _ => nat?_eq h.resolution) _),
    bind_of_eq_some (narrowBand.withDefault (fun _ => number?_eq h.narrowBand) _),
    bind_of_eq_some (combineBand.withDefault (fun _ => number?_eq h.combineBand) _),
    bind_of_eq_some (threshold.withDefault (fun _ => number?_eq h.combineWeightThreshold) _),
    bind_of_eq_some (kernel.withDefault (fun _ => kernel?_eq c.kernel) _),
    bind_of_eq_some (frameLength.withDefault (fun _ => number?_eq h.frameLength) _),
    bind_of_eq_some (timestep.withDefault (fun _ => number?_eq h.timestep) _),
    bind_of_eq_some (timestepMin.withDefault (fun _ => number?_eq h.timestepMin) _),
    bind_of_eq_some (timestepMax.withDefault (fun _ => number?_eq h.timestepMax) _),
    bind_of_eq_some (cfl.withDefault (fun _ => number?_eq h.cfl) _),
    bind_of_eq_some (gravity.withDefault (fun _ => vector?_eq h.gravity (by omega)) _),
    bind_of_eq_some (targetVolume.withDefault (fun _ => optional?_eq rfl fun v hv _ =>
      number?_eq (h.targetVolume v hv)) _),
    bind_of_eq_some (volumeGain.withDefault (fun _ => number?_eq h.volumeGain) _),
    bind_of_eq_some (flipRatio.withDefault (fun _ => number?_eq h.flipRatio) _),
    bind_of_eq_some (radiusFactor.withDefault (fun _ => number?_eq h.radiusFactor) _),
    bind_of_eq_some (minParticles.withDefault (fun _ => optional?_eq rfl fun n hn _ =>
      nat?_eq (h.minParticles? n hn)) _),
    bind_of_eq_some (maxParticles.withDefault (fun _ => optional?_eq rfl fun n hn _ =>
      nat?_eq (h.maxParticles? n hn)) _),
    bind_of_eq_some (maxParticleCount.withDefault (fun _ => nat?_eq h.maxParticleCount) _),
    bind_of_eq_some (accuracy.withDefault (fun _ => number?_eq h.accuracy) _),
    bind_of_eq_some (maxIterations.withDefault (fun _ => nat?_eq h.maxIterations) _),
    bind_of_eq_some (seed.withDefault (fun _ => nat?_eq h.seed) _),
    bind_of_eq_some (body.withDefault (fun _ => scene?_eq_of_respelled h.scene (by omega)) _)]
  rfl

end Written

end FreeSurface

import FreeSurface.Number.MachineText
import FreeSurface.Proofs.Written.Configuration
import FreeSurface.Written.Records

/-!
# What is written is read back

Configurations, scenes, clocks, frame records and particles are read back from every text of a
document that tells them.  Of a configuration or a scene, a document may tell a part; what it leaves
out has its standard value.

* `Written.IsReadAs` — every text of a document is read in one way.
* `Written.read_told` — **what is written is read back**, for all five formats.
-/

namespace FreeSurface

namespace Written

lemma isProper_count (n : UInt32) : (count n).IsProper := isProper_nat n.toNat

lemma count?_eq (n : UInt32) {told : Json} (ht : Json.Respelled (count n) told) :
    count? told = some n := by
  have hfits : n.toNat ≤ Json.word32 := Nat.le_sub_one_of_lt n.toNat_lt_size
  rw [count?, nat?_eq hfits ht, Option.map_some, UInt32.ofNat_toNat]

/-! ## Clocks -/

section Clocks

variable {D : Type} [JsonScalar D]

structure FaithfulSettings (s : ClockSettings D) : Prop where
  frameLength : Faithful s.frameLength
  timestep : Faithful s.timestep
  timestepMin : Faithful s.timestepMin
  timestepMax : Faithful s.timestepMax
  cfl : Faithful s.cfl

/-- All numbers of a clock are read back. -/
structure FaithfulClock (c : Clock D) : Prop where
  settings : FaithfulSettings c.settings
  timeInFrame : Faithful c.timeInFrame
  dt : Faithful c.dt
  totalTime : Faithful c.totalTime

lemma FaithfulSettings.isProper {s : ClockSettings D} (h : FaithfulSettings s) :
    (clockSettings s).IsProper := by
  refine Json.isProper_ofFields
    (show ∀ name ∈ ["frame_length", "timestep", "timestep_min", "timestep_max", "cfl"], _ by decide)
    ?_
  simp [h.frameLength.isProper, h.timestep.isProper, h.timestepMin.isProper,
    h.timestepMax.isProper, h.cfl.isProper]

lemma FaithfulClock.isProper {c : Clock D} (h : FaithfulClock c) : (clock c).IsProper := by
  refine Json.isProper_ofFields
    (show ∀ name ∈ ["settings", "frame", "time_in_frame", "dt", "steps_in_frame", "total_time"], _
      by decide) ?_
  simp [h.settings.isProper, isProper_count, h.timeInFrame.isProper, h.dt.isProper,
    h.totalTime.isProper]

lemma clockSettings?_eq {s : ClockSettings D} (h : FaithfulSettings s) {told : Json}
    (ht : Json.Respelled (clockSettings s) told) : clockSettings? told = some s := by
  obtain ⟨found, record, fields⟩ := ht.excerpt.record? (by simp)
  simp only [List.forall_mem_cons] at fields
  obtain ⟨frameLength, timestep, timestepMin, timestepMax, cfl, -⟩ := fields
  simp [clockSettings?,
    record ["frame_length", "timestep", "timestep_min", "timestep_max", "cfl"] (by simp),
    frameLength.required rfl fun _ => number?_eq h.frameLength,
    timestep.required rfl fun _ => number?_eq h.timestep,
    timestepMin.required rfl fun _ => number?_eq h.timestepMin,
    timestepMax.required rfl fun _ => number?_eq h.timestepMax,
    cfl.required rfl fun _ => number?_eq h.cfl]

lemma clock?_eq {c : Clock D} (h : FaithfulClock c) {told : Json}
    (ht : Json.Excerpt (fun _ => true) (clock c) told) : clock? told = some c := by
  obtain ⟨found, record, fields⟩ := ht.record? (by simp)
  simp only [List.forall_mem_cons] at fields
  obtain ⟨settings, frame, timeInFrame, dt, stepsInFrame, totalTime, -⟩ := fields
  simp [clock?,
    record ["settings", "frame", "time_in_frame", "dt", "steps_in_frame", "total_time"] (by simp),
    settings.required rfl fun _ => clockSettings?_eq h.settings,
    frame.required rfl fun _ => count?_eq _,
    timeInFrame.required rfl fun _ => number?_eq h.timeInFrame,
    dt.required rfl fun _ => number?_eq h.dt,
    stepsInFrame.required rfl fun _ => count?_eq _,
    totalTime.required rfl fun _ => number?_eq h.totalTime]

end Clocks

/-! ## Frame records -/

section Frames

variable {S D : Type} [JsonScalar S] [JsonScalar D] {r : FrameRecord S D}

/-- All numbers of the record of a frame are read back. -/
structure FaithfulRecord (r : FrameRecord S D) : Prop where
  time : Faithful r.time
  volume : r.volume ≤ Json.word64
  energy : Faithful r.energy
  particles : r.particles ≤ Json.word64
  maxVelocity : Faithful r.maxVelocity
  pressureIterations : r.pressureIterations ≤ Json.word64

lemma FaithfulRecord.isProper (h : FaithfulRecord r) : (frameRecord r).IsProper := by
  have mode : (Json.text r.mode.name).IsProper := by
    cases r.mode <;> exact isProper_text (by decide)
  refine Json.isProper_ofFields (show ∀ name ∈ ["mode", "frame", "time", "steps", "retries",
    "volume", "energy", "particles", "max_velocity", "pressure_iterations"], _ by decide) ?_
  simp [mode, isProper_count, isProper_nat, h.time.isProper, h.energy.isProper,
    h.maxVelocity.isProper]

lemma frameRecord?_eq (h : FaithfulRecord r) {told : Json}
    (ht : Json.Excerpt (fun _ => true) (frameRecord r) told) : frameRecord? told = some r := by
  obtain ⟨found, record, fields⟩ := ht.record? (by simp)
  simp only [List.forall_mem_cons] at fields
  obtain ⟨mode, frame, time, steps, retries, volume, energy, particles, maxVelocity, iterations,
    -⟩ := fields
  simp [frameRecord?, record ["mode", "frame", "time", "steps", "retries", "volume", "energy",
      "particles", "max_velocity", "pressure_iterations"] (by simp),
    mode.required rfl fun _ => mode?_eq r.mode,
    frame.required rfl fun _ => count?_eq _,
    time.required rfl fun _ => number?_eq h.time,
    steps.required rfl fun _ => count?_eq _,
    retries.required rfl fun _ => count?_eq _,
    volume.required rfl fun _ => nat?_eq h.volume,
    energy.required rfl fun _ => number?_eq h.energy,
    particles.required rfl fun _ => nat?_eq h.particles,
    maxVelocity.required rfl fun _ => number?_eq h.maxVelocity,
    iterations.required rfl fun _ => nat?_eq h.pressureIterations]

end Frames

/-! ## Particles -/

section Snapshots

variable {S : Type} [JsonScalar S]

def FaithfulParticle (p : Particle S) : Prop :=
  FaithfulVector p.position ∧ FaithfulVector p.velocity

/-- All numbers of a snapshot are read back. -/
def FaithfulSnapshot (s : Snapshot S) : Prop := ∀ p ∈ s.particles, FaithfulParticle p

lemma FaithfulParticle.isProper {p : Particle S} (h : FaithfulParticle p) :
    (particle p).IsProper := by
  refine Json.isProper_ofFields (show ∀ name ∈ ["position", "velocity"], _ by decide) ?_
  simp [h.1.isProper, h.2.isProper]

lemma particle?_eq {p : Particle S} (h : FaithfulParticle p) {room : ℕ} (hr : 2 ≤ room)
    {told : Json} (ht : Json.Respelled (particle p) told) : particle? room told = some p := by
  obtain ⟨found, record, fields⟩ := ht.excerpt.record? (by simp)
  simp only [List.forall_mem_cons] at fields
  obtain ⟨position, velocity, -⟩ := fields
  simp [particle?, record ["position", "velocity"] (by simp),
    position.required rfl fun _ => vector?_eq h.1 (by omega : 1 ≤ room - 1),
    velocity.required rfl fun _ => vector?_eq h.2 (by omega : 1 ≤ room - 1)]

lemma isProper_particles {ps : Particles S} (h : ∀ p ∈ ps, FaithfulParticle p) :
    (particles ps).IsProper := by
  refine Json.isProper_ofFields (show ∀ name ∈ ["list"], _ by decide) ?_
  simp only [List.forall_mem_cons]
  refine ⟨Json.areProper_iff.mpr fun j hj => ?_, by simp⟩
  obtain ⟨p, hp, rfl⟩ := List.mem_map.mp hj
  exact (h p (Array.mem_toList_iff.mp hp)).isProper

lemma particles?_eq {ps : Particles S} (h : ∀ p ∈ ps, FaithfulParticle p) {room : ℕ}
    (hr : 4 ≤ room) {told : Json} (ht : Json.Respelled (particles ps) told) :
    particles? room told = some ps := by
  obtain ⟨found, record, fields⟩ := ht.excerpt.record? (by simp)
  simp only [List.forall_mem_cons] at fields
  obtain ⟨list, -⟩ := fields
  have read := list.required rfl fun _ => items?_eq (fun p => ⟨_, rfl⟩)
    fun p hp _ => particle?_eq (h p (Array.mem_toList_iff.mp hp)) (by omega : 2 ≤ room - 2)
  simp [particles?, record ["list"] (by simp), read]

lemma FaithfulSnapshot.isProper {s : Snapshot S} (h : FaithfulSnapshot s) :
    (snapshot s).IsProper := by
  refine Json.isProper_ofFields (show ∀ name ∈ ["frame", "particles"], _ by decide) ?_
  simp [isProper_count, isProper_particles h]

lemma snapshot?_eq {s : Snapshot S} (h : FaithfulSnapshot s) {room : ℕ} (hr : 5 ≤ room)
    {told : Json} (ht : Json.Excerpt (fun _ => true) (snapshot s) told) :
    snapshot? room told = some s := by
  obtain ⟨found, record, fields⟩ := ht.record? (by simp)
  simp only [List.forall_mem_cons] at fields
  obtain ⟨frame, list, -⟩ := fields
  simp [snapshot?, record ["frame", "particles"] (by simp),
    frame.required rfl fun _ => count?_eq _,
    list.required rfl fun _ => particles?_eq h (by omega : 4 ≤ room - 1)]

end Snapshots

/-! ## All formats -/

/-- A document can be printed, and every text of it is read in one way. -/
def IsReadAs {α : Type} (read : String → α) (a : α) (told : Json) : Prop :=
  told.Spells told.pretty ∧ told.Spells told.compact ∧ ∀ text, told.Spells text → read text = a

lemma isReadAs {α : Type} {read : String → α} {a : α} {told : Json} (proper : told.IsProper)
    (h : ∀ text, Json.parse? text = some told → read text = a) : IsReadAs read a told :=
  ⟨Json.spells_pretty proper, Json.spells_compact proper,
    fun text spells => h text (Json.parse?_of_spells spells)⟩

variable {S D : Type} [Scalar S] [JsonScalar S] [Scalar D] [JsonScalar D]

/-- **What is written is read back**, from every text of a document that tells it: the fields in any
order, vectors as arrays or as objects, fields of other names among them, and any blanks between the
parts.  Of a configuration and of a scene, fields may be missing; those are as in the standard
configuration and in the drop into a pool. -/
theorem read_told :
    (∀ (c : Config S D) (given : String → Bool) (told : Json), FaithfulConfig c →
      Json.Excerpt given (configuration c) told →
      IsReadAs configurationOfText? (.ok (c.over given .standard)) told) ∧
    (∀ c : Config S D, FaithfulConfig c → configurationOfText? (configurationText c) = .ok c) ∧
    (∀ (s : Scene S) (given : String → Bool) (told : Json), FaithfulScene s →
      Json.Excerpt given (scene s) told →
      IsReadAs (fun text => (Json.parse? text).bind (scene? Json.maxDepth))
        (some (s.over given .dropIntoPool)) told) ∧
    (∀ (c : Clock D) (told : Json), FaithfulClock c →
      Json.Excerpt (fun _ => true) (clock c) told → IsReadAs clockOfText? (.ok c) told) ∧
    (∀ (r : FrameRecord S D) (told : Json), FaithfulRecord r →
      Json.Excerpt (fun _ => true) (frameRecord r) told →
      IsReadAs (fun text => (Json.parse? text).bind frameRecord?) (some r) told) ∧
    (∀ (s : Snapshot S) (told : Json), FaithfulSnapshot s →
      Json.Excerpt (fun _ => true) (snapshot s) told → IsReadAs snapshotOfText? (.ok s) told) := by
  have configurations : ∀ (c : Config S D) (given : String → Bool) (told : Json),
      FaithfulConfig c → Json.Excerpt given (configuration c) told →
      IsReadAs configurationOfText? (.ok (c.over given .standard)) told := by
    intro c given told h ht
    refine isReadAs (ht.isProper h.isProper) fun text parsed => ?_
    simp [configurationOfText?, parsed, configuration?_eq h (by decide : 5 ≤ Json.maxDepth) ht]
  refine ⟨configurations, fun c h => ?_, fun s given told h ht => ?_, fun c told h ht => ?_,
    fun r told h ht => ?_, fun s told h ht => ?_⟩
  · have whole := configurations c (fun _ => true) _ h (Json.Respelled.refl _).excerpt
    rw [Config.over_all] at whole
    exact whole.2.2 _ whole.1
  · refine isReadAs (ht.isProper h.isProper) fun text parsed => ?_
    simp [parsed, scene?_eq h (by decide : 4 ≤ Json.maxDepth) ht]
  · refine isReadAs (ht.isProper h.isProper) fun text parsed => ?_
    simp [clockOfText?, parsed, clock?_eq h ht]
  · refine isReadAs (ht.isProper h.isProper) fun text parsed => ?_
    simp [parsed, frameRecord?_eq h ht]
  · refine isReadAs (ht.isProper h.isProper) fun text parsed => ?_
    simp [snapshotOfText?, parsed, snapshot?_eq h (by decide : 5 ≤ Json.maxDepth) ht]

/-- The breaking dam under a stronger gravity. -/
def steepDam : Config Float32 Float :=
  { Config.ofPreset .breakingDam with gravity := ⟨0, -(Scalar.ofDecimal 5 3), 0⟩ }

/-- Two settings of the steep dam in reverse order, after a comment; the gravity is an object. -/
def steepDamExcerpt : Json :=
  .object [(JsonString.ofText "comment", Json.text "steep"),
    (JsonString.ofText "scene", scene steepDam.scene),
    (JsonString.ofText "gravity", coordinates steepDam.gravity)]

lemma faithful_steepDam : FaithfulConfig steepDam where
  dimension := by decide
  resolution := by decide
  narrowBand := by decide +kernel
  combineBand := by decide +kernel
  combineWeightThreshold := by decide +kernel
  frameLength := by decide +kernel
  timestep := by decide +kernel
  timestepMin := by decide +kernel
  timestepMax := by decide +kernel
  cfl := by decide +kernel
  gravity := by decide +kernel
  targetVolume := by decide +kernel
  volumeGain := by decide +kernel
  flipRatio := by decide +kernel
  radiusFactor := by decide +kernel
  minParticles? := by decide
  maxParticles? := by decide
  maxParticleCount := by decide
  accuracy := by decide +kernel
  maxIterations := by decide
  seed := by decide
  scene := ⟨by decide, by decide +kernel, by decide +kernel, by decide +kernel⟩

lemma excerpt_steepDam :
    Json.Excerpt (fun name => name == "gravity" || name == "scene") (configuration steepDam)
      steepDamExcerpt := by
  have gravity := FaithfulVector.respelled_coordinates faithful_steepDam.gravity
  have kept : List.Forall₂ Json.RespelledField
      [(JsonString.ofText "gravity", vector steepDam.gravity),
        (JsonString.ofText "scene", scene steepDam.scene)]
      [(JsonString.ofText "gravity", coordinates steepDam.gravity),
        (JsonString.ofText "scene", scene steepDam.scene)] :=
    .cons (.value _ gravity) (.cons (.value _ (.refl _)) .nil)
  refine @Json.Excerpt.mk _ _ _ [(JsonString.ofText "comment", Json.text "steep")] _ kept ?_
    (List.reverse_perm _).symm
  intro e he
  rw [List.mem_singleton.mp he]
  refine ⟨by decide, isProper_text (by decide), "comment", by simp, ?_⟩
  simp [configurationFields]

/-- The steep dam, a clock, the record of a frame and a snapshot with a single particle. -/
theorem read_told_steepDam :
    let start : Clock Float := Clock.start steepDam.clock
    let record : FrameRecord Float32 Float := ⟨.flip, 3, 6, 2, 0, 800, 25, 3200, 1, 40⟩
    let single : Snapshot Float32 := ⟨3, #[⟨Vec3.splat Scalar.half, steepDam.gravity⟩]⟩
    configurationOfText? steepDamExcerpt.pretty
        = .ok { (Config.standard : Config Float32 Float) with
            gravity := steepDam.gravity, scene := steepDam.scene } ∧
      configurationOfText? (configurationText steepDam) = .ok steepDam ∧
      (Json.parse? (scene steepDam.scene).pretty).bind (scene? Json.maxDepth)
        = some steepDam.scene ∧
      clockOfText? (clock start).pretty = .ok start ∧
      (Json.parse? (frameRecord record).compact).bind frameRecord? = some record ∧
      snapshotOfText? (snapshotText single) = .ok single := by
  intro start record single
  obtain ⟨configurations, whole, scenes, clocks, records, snapshots⟩ :=
    read_told (S := Float32) (D := Float)
  have startFaithful : FaithfulClock start :=
    ⟨⟨by decide +kernel, by decide +kernel, by decide +kernel, by decide +kernel,
      by decide +kernel⟩, by decide +kernel, by decide +kernel, by decide +kernel⟩
  have recordFaithful : FaithfulRecord record :=
    ⟨by decide +kernel, by decide, by decide +kernel, by decide, by decide +kernel, by decide⟩
  have singleFaithful : FaithfulSnapshot single := by
    intro p hp
    rw [Array.mem_singleton.mp hp]
    exact ⟨by decide +kernel, by decide +kernel⟩
  have excerpt := configurations _ _ _ faithful_steepDam excerpt_steepDam
  have body := scenes _ _ _ faithful_steepDam.scene (Json.Respelled.refl _).excerpt
  have ticking := clocks start _ startFaithful (Json.Respelled.refl _).excerpt
  have told := records record _ recordFaithful (Json.Respelled.refl _).excerpt
  have particles := snapshots single _ singleFaithful (Json.Respelled.refl _).excerpt
  exact ⟨excerpt.2.2 _ excerpt.1, whole _ faithful_steepDam, body.2.2 _ body.1,
    ticking.2.2 _ ticking.1, told.2.2 _ told.2.1, particles.2.2 _ particles.2.1⟩

end Written

end FreeSurface

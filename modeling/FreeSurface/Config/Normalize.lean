import FreeSurface.Config.Basic

/-!
# Normalization

Makes a configuration consistent.  It never fails: what cannot stand is replaced, and every
replacement is recorded.

* `Repair` — what was replaced, and by what.
* `Config.rules` — the repairs in the order in which they are tried; later ones see the outcome of
  earlier ones.
* `Config.normalize` — the repaired configuration and the repairs that were needed.
-/

namespace FreeSurface

open scoped Literals

/-- A setting that was replaced. -/
inductive Repair (S D : Type) where
  | dimension (was now : Nat)
  | resolution (was now : Nat)
  | bandsIgnored (narrow combine : S) (mode : Mode)
  | narrowBand (was : S)
  | combineBand (was : S)
  | kernelIgnored (was : Kernel) (mode : Mode)
  | frameLength (was now : D)
  | boundsSwapped (min max : D)
  | timestepMax (was : D)
  | timestepMin (was now : D)
  | timestep (was : D)
  | cfl (was : D)
  | flipRatio (was now : S)
  | radiusFactor (was : S)
  | targetVolume (was : D)
  | targetTooLarge (was : D) (openCells : Nat) (now : D)
  | minParticles (now : Nat)
  | maxParticles (was min now : Nat)
  | pressureAccuracy (was now : D)
  | pressureIterations (now : Nat)
deriving BEq

namespace Config

variable {S D : Type} [Scalar S] [Scalar D]

/-- A rule gives the repair that is needed and its outcome, if one is needed. -/
abbrev Rule (S D : Type) : Type := Config S D → Option (Repair S D × Config S D)

/-- The least number of cells along a side. -/
def minResolution : Nat := 8

/-- Only two and three dimensions are simulated. -/
def repairDimension : Rule S D := fun c =>
  if c.dimension = 2 ∨ c.dimension = 3 then none
  else
    let now := if 3 < c.dimension then 3 else 2
    some (.dimension c.dimension now, { c with dimension := now })

/-- A domain has some room inside its walls. -/
def repairResolution : Rule S D := fun c =>
  if c.resolution < minResolution then
    some (.resolution c.resolution minResolution, { c with resolution := minResolution })
  else none

/-- Only narrow-band mode has bands. -/
def repairBands : Rule S D := fun c =>
  if c.mode ≠ .nbflip ∧ ¬(c.narrowBand == 0 ∧ c.combineBand == 0) then
    some (.bandsIgnored c.narrowBand c.combineBand c.mode,
      { c with narrowBand := 0, combineBand := 0 })
  else none

/-- A band is not negative. -/
def repairNarrowBand : Rule S D := fun c =>
  if 0 ≤ c.narrowBand then none else some (.narrowBand c.narrowBand, { c with narrowBand := 0 })

/-- A band is not negative. -/
def repairCombineBand : Rule S D := fun c =>
  if 0 ≤ c.combineBand then none
  else some (.combineBand c.combineBand, { c with combineBand := 0 })

/-- Modes that never take velocities from particles to the grid by a kernel have none to choose. -/
def repairKernel : Rule S D := fun c =>
  if (c.mode = .levelset ∨ c.mode = .flip0) ∧ c.kernel ≠ .dLinear then
    some (.kernelIgnored c.kernel c.mode, { c with kernel := .dLinear })
  else none

/-- A frame takes time. -/
def repairFrameLength : Rule S D := fun c =>
  if 0 < c.clock.frameLength then none
  else
    let now := (ClockSettings.standard (D := D)).frameLength
    some (.frameLength c.clock.frameLength now, { c with clock.frameLength := now })

/-- Bounds given the wrong way round are swapped. -/
def repairBounds : Rule S D := fun c =>
  let min := c.clock.timestepMin
  let max := c.clock.timestepMax
  if max < min then
    some (.boundsSwapped min max,
      { c with clock.timestepMin := max, clock.timestepMax := min })
  else none

/-- The upper bound is positive, else the length of a frame. -/
def repairTimestepMax : Rule S D := fun c =>
  if 0 < c.clock.timestepMax then none
  else
    some (.timestepMax c.clock.timestepMax,
      { c with clock.timestepMax := c.clock.frameLength })

/-- The lower bound is positive, else a hundredth of the upper one. -/
def repairTimestepMin : Rule S D := fun c =>
  if 0 < c.clock.timestepMin then none
  else
    let now := c.clock.timestepMax * Scalar.ofDecimal 1 2
    some (.timestepMin c.clock.timestepMin now, { c with clock.timestepMin := now })

/-- The nominal step size is positive, else the upper bound. -/
def repairTimestep : Rule S D := fun c =>
  if 0 < c.clock.timestep then none
  else
    some (.timestep c.clock.timestep, { c with clock.timestep := c.clock.timestepMax })

/-- The number of cells travelled is finite, else steps are fixed. -/
def repairCfl : Rule S D := fun c =>
  if Scalar.isFinite c.clock.cfl then none
  else some (.cfl c.clock.cfl, { c with clock.cfl := 0 })

/-- A share lies between zero and one. -/
def repairFlipRatio : Rule S D := fun c =>
  if 0 ≤ c.flipRatio ∧ c.flipRatio ≤ 1 then none
  else
    let now := if Scalar.isNaN c.flipRatio then standardFlipRatio else Scalar.clamp c.flipRatio 0 1
    some (.flipRatio c.flipRatio now, { c with flipRatio := now })

/-- Particles have a radius. -/
def repairRadiusFactor : Rule S D := fun c =>
  if 0 < c.radiusFactor then none
  else some (.radiusFactor c.radiusFactor, { c with radiusFactor := 1 })

/-- A volume is positive, else that of the start is kept. -/
def repairTargetVolume : Rule S D := fun c =>
  match c.targetVolume with
  | some target =>
    if 0 < target then none else some (.targetVolume target, { c with targetVolume := none })
  | none => none

/-- A volume has room in the scene, else most of what there is room for is aimed at. -/
def repairTargetFill : Rule S D := fun c =>
  match c.targetVolume, c.dims? with
  | some target, .ok d =>
    let flags := (c.scene.build d).1
    let room := d.cells.nodes.countP fun cell => !flags.isObstacle cell
    let now := Scalar.ofDecimal 9 1 * Scalar.ofNat room
    if now < target then
      some (.targetTooLarge target room now, { c with targetVolume := some now })
    else none
  | _, _ => none

/-- Cells hold particles. -/
def repairMinParticles : Rule S D := fun c =>
  if c.minParticles = 0 then
    some (.minParticles (corners c.dimension), { c with minParticles? := none })
  else none

/-- Cells may hold at least as many particles as they must. -/
def repairMaxParticles : Rule S D := fun c =>
  if c.maxParticles < c.minParticles then
    let now := 2 * c.minParticles
    some (.maxParticles c.maxParticles c.minParticles now, { c with maxParticles? := some now })
  else none

/-- Some error in the pressure is allowed. -/
def repairPressureAccuracy : Rule S D := fun c =>
  if 0 < c.pressure.accuracy then none
  else
    let now := (SolverSettings.standard (D := D)).accuracy
    some (.pressureAccuracy c.pressure.accuracy now, { c with pressure.accuracy := now })

/-- The pressure gets some rounds. -/
def repairPressureIterations : Rule S D := fun c =>
  if c.pressure.maxIterations = 0 then
    let now := (SolverSettings.standard (D := D)).maxIterations
    some (.pressureIterations now, { c with pressure.maxIterations := now })
  else none

def rules : List (Rule S D) :=
  [repairDimension, repairResolution, repairBands, repairNarrowBand, repairCombineBand,
    repairKernel, repairFrameLength, repairBounds, repairTimestepMax, repairTimestepMin,
    repairTimestep, repairCfl, repairFlipRatio, repairRadiusFactor, repairTargetVolume,
    repairTargetFill, repairMinParticles, repairMaxParticles, repairPressureAccuracy,
    repairPressureIterations]

/-- Tries a rule on a configuration that some repairs have led to. -/
def applyRule (progress : Config S D × List (Repair S D)) (rule : Rule S D) :
    Config S D × List (Repair S D) :=
  match rule progress.1 with
  | some (repair, c) => (c, progress.2 ++ [repair])
  | none => progress

/-- The repaired configuration, and the repairs in order. -/
def normalize (c : Config S D) : Config S D × List (Repair S D) := rules.foldl applyRule (c, [])

def normalized (c : Config S D) : Config S D := c.normalize.1

/-! ## Room -/

/-- A rule that does not make a domain smaller than the least one. -/
def KeepsRoom (rule : Rule S D) : Prop :=
  ∀ c repair c', rule c = some (repair, c') → minResolution ≤ c.resolution →
    minResolution ≤ c'.resolution

/-- No rule makes a domain smaller than the least one. -/
theorem keepsRoom_of_mem_rules {rule : Rule S D} (h : rule ∈ rules) : KeepsRoom rule := by
  intro c repair c' hrule hroom
  simp only [rules, List.mem_cons, List.not_mem_nil, or_false] at h
  rcases h with h | h | h | h | h | h | h | h | h | h | h | h | h | h | h | h | h | h | h | h <;>
  · subst h
    simp only [repairDimension, repairResolution, repairBands, repairNarrowBand, repairCombineBand,
      repairKernel, repairFrameLength, repairBounds, repairTimestepMax, repairTimestepMin,
      repairTimestep, repairCfl, repairFlipRatio, repairRadiusFactor, repairTargetVolume,
      repairTargetFill, repairMinParticles, repairMaxParticles, repairPressureAccuracy,
      repairPressureIterations] at hrule
    repeat' split at hrule
    all_goals simp only [Option.some.injEq, Prod.mk.injEq, reduceCtorEq] at hrule
    all_goals
      obtain ⟨_, rfl⟩ := hrule
      first | exact hroom | exact Nat.le_refl _

omit [Scalar S] [Scalar D] in
/-- Rules applied one after the other keep the room there is. -/
theorem minResolution_le_foldl (rs : List (Rule S D)) (hrs : ∀ rule ∈ rs, KeepsRoom rule)
    (progress : Config S D × List (Repair S D)) (h : minResolution ≤ progress.1.resolution) :
    minResolution ≤ (rs.foldl applyRule progress).1.resolution := by
  induction rs generalizing progress with
  | nil => exact h
  | cons rule rest ih =>
    refine ih (fun r hr => hrs r (List.mem_cons_of_mem _ hr)) _ ?_
    unfold applyRule
    split
    · next hrule => exact hrs rule List.mem_cons_self _ _ _ hrule h
    · exact h

omit [Scalar S] [Scalar D] in
/-- The rule for the resolution makes room. -/
theorem minResolution_le_applyRule (progress : Config S D × List (Repair S D)) :
    minResolution ≤ (applyRule progress repairResolution).1.resolution := by
  unfold applyRule repairResolution
  by_cases h : progress.1.resolution < minResolution
  · simp [h]
  · simpa [h] using Nat.le_of_not_lt h

/-- A repaired configuration has room inside its walls. -/
theorem minResolution_le_resolution_normalized (c : Config S D) :
    minResolution ≤ c.normalized.resolution := by
  have h := minResolution_le_foldl (S := S) (D := D) (rules.drop 2)
    (fun rule hr => keepsRoom_of_mem_rules (List.mem_of_mem_drop hr))
    (applyRule (applyRule (c, []) repairDimension) repairResolution)
    (minResolution_le_applyRule _)
  exact h

/-- The domain of a repaired configuration. -/
def normalizedDims (c : Config S D) : Dims :=
  let resolution := c.normalized.resolution
  have h : 0 < resolution :=
    Nat.lt_of_lt_of_le (by decide) (minResolution_le_resolution_normalized c)
  { width := resolution
    height := resolution
    depth := if c.normalized.dimension = 2 then 1 else resolution
    width_pos := h
    height_pos := h
    depth_pos := by split <;> first | exact Nat.one_pos | exact h }

/-- A repaired configuration has a domain. -/
theorem dims?_normalized (c : Config S D) : c.normalized.dims? = .ok c.normalizedDims := by
  have h : 0 < c.normalized.resolution :=
    Nat.lt_of_lt_of_le (by decide) (minResolution_le_resolution_normalized c)
  have hdepth : 0 < if c.normalized.dimension = 2 then 1 else c.normalized.resolution := by
    split <;> first | exact Nat.one_pos | exact h
  unfold dims? Dims.cubic Dims.ofSides
  rw [dif_pos ⟨h, h, hdepth⟩]
  rfl

end Config

end FreeSurface

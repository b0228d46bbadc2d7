import Mathlib.Order.Basic
import FreeSurface.Config.Normalize

/-!
# What the rules lead to

Each rule leaves a configuration alone or replaces a setting.  What all of them together make of a
configuration is read off the given one, setting by setting (`Config.normalized_eq`); nothing else
in the library looks at a single rule.

* `ClockSettings.repaired`, `Config.repaired` — the settings that normalization leads to.
* `Config.after` — what one rule makes of a configuration, with an equation for each rule.
-/

namespace FreeSurface

open scoped Literals

/-! ## The clock -/

namespace ClockSettings

variable {D : Type} [Scalar D]

/-- The length of a frame, if it is positive, or the standard one. -/
def frame (s : ClockSettings D) : D :=
  if 0 < s.frameLength then s.frameLength else (standard : ClockSettings D).frameLength

/-- The lower one of the given bounds. -/
def lesser (s : ClockSettings D) : D :=
  if s.timestepMax < s.timestepMin then s.timestepMax else s.timestepMin

/-- The upper one of the given bounds. -/
def greater (s : ClockSettings D) : D :=
  if s.timestepMax < s.timestepMin then s.timestepMin else s.timestepMax

/-- The upper bound, if it is positive, or the length of a frame. -/
def upper (s : ClockSettings D) : D := if 0 < s.greater then s.greater else s.frame

/-- The lower bound, if it is positive, or a hundredth of the upper one. -/
def lower (s : ClockSettings D) : D :=
  if 0 < s.lesser then s.lesser else s.upper * Scalar.ofDecimal 1 2

/-- The settings that normalization leads to. -/
def repaired (s : ClockSettings D) : ClockSettings D where
  frameLength := s.frame
  timestep := if 0 < s.timestep then s.timestep else s.upper
  timestepMin := s.lower
  timestepMax := s.upper
  cfl := if Scalar.isFinite s.cfl then s.cfl else 0

end ClockSettings

namespace Config

variable {S D : Type} [Scalar S] [Scalar D]

/-! ## The other settings -/

/-- Two or three, whichever is nearer. -/
def knownDimension (n : Nat) : Nat := if n = 2 ∨ n = 3 then n else if 3 < n then 3 else 2

/-- A band as far as it counts: in a mode that has none, bands that are given are zero. -/
def bandOf (mode : Mode) (narrow combine b : S) : S :=
  if mode ≠ .nbflip ∧ ¬(narrow == 0 ∧ combine == 0) then 0 else b

/-- A number that is not negative, or zero. -/
def orZero (b : S) : S := if 0 ≤ b then b else 0

/-- A positive number, or another one. -/
def positiveOr (x other : D) : D := if 0 < x then x else other

/-- A number that is not zero, or another one. -/
def nonzeroOr (n other : Nat) : Nat := if n = 0 then other else n

/-- Modes that never take velocities from particles to the grid by a kernel have none to choose. -/
def kernelOf (mode : Mode) (kernel : Kernel) : Kernel :=
  if (mode = .levelset ∨ mode = .flip0) ∧ kernel ≠ .dLinear then .dLinear else kernel

/-- A number moved between zero and one. -/
def share (x : S) : S :=
  if 0 ≤ x ∧ x ≤ 1 then x
  else if Scalar.isNaN x then standardFlipRatio else Scalar.clamp x 0 1

/-- The number of cells of a scene that are not solid. -/
def room (scene : Scene S) (d : Dims) : Nat :=
  d.cells.nodes.countP fun cell => !(scene.build d).1.isObstacle cell

/-- The largest volume that is aimed at in so many open cells. -/
def capacity (room : Nat) : D := Scalar.ofDecimal 9 1 * Scalar.ofNat room

/-- A positive volume, but not more than there is a capacity for. -/
def aim (limit : D) (target : Option D) : Option D :=
  (target.filter (0 < ·)).map fun t => if limit < t then limit else t

/-- A greatest number of particles that is not below the least one, else twice that one. -/
def atLeast (least : Nat) (greatest : Option Nat) : Option Nat :=
  greatest.map fun m => if m < least then 2 * least else m

/-- The settings that normalization leads to, in a domain of which the scene leaves open so much. -/
def repairedFor (c : Config S D) (room : Nat) : Config S D :=
  let dimension := knownDimension c.dimension
  let least := c.minParticles?.filter (0 < ·)
  { c with
    dimension := dimension
    resolution := Nat.max minResolution c.resolution
    narrowBand := orZero (bandOf c.mode c.narrowBand c.combineBand c.narrowBand)
    combineBand := orZero (bandOf c.mode c.narrowBand c.combineBand c.combineBand)
    kernel := kernelOf c.mode c.kernel
    clock := c.clock.repaired
    flipRatio := share c.flipRatio
    radiusFactor := positiveOr c.radiusFactor 1
    targetVolume := aim (capacity room) c.targetVolume
    minParticles? := least
    maxParticles? := atLeast (least.getD (corners dimension)) c.maxParticles?
    pressure :=
      { accuracy := positiveOr c.pressure.accuracy (SolverSettings.standard (D := D)).accuracy
        maxIterations :=
          nonzeroOr c.pressure.maxIterations (SolverSettings.standard (D := D)).maxIterations } }

def repaired (c : Config S D) : Config S D := c.repairedFor (room c.scene c.normalizedDims)

/-! ## Rule by rule -/

/-- What a rule makes of a configuration. -/
def after (rule : Rule S D) (c : Config S D) : Config S D := (rule c).elim c (·.2)

omit [Scalar S] [Scalar D] in
lemma foldl_applyRule (rs : List (Rule S D)) (progress : Config S D × List (Repair S D)) :
    (rs.foldl applyRule progress).1 = rs.foldl (fun c rule => after rule c) progress.1 := by
  induction rs generalizing progress with
  | nil => rfl
  | cons rule rest ih =>
      rw [List.foldl_cons, List.foldl_cons, ih, applyRule, after]
      cases rule progress.1 <;> rfl

variable (c : Config S D)

omit [Scalar S] [Scalar D] in
lemma after_repairDimension :
    after repairDimension c = { c with dimension := knownDimension c.dimension } := by
  rw [after, repairDimension, knownDimension]
  split_ifs <;> rfl

omit [Scalar S] [Scalar D] in
lemma after_repairResolution :
    after repairResolution c = { c with resolution := Nat.max minResolution c.resolution } := by
  rw [after, repairResolution]
  split_ifs with h
  · have hmax : Nat.max minResolution c.resolution = minResolution :=
      Nat.max_eq_left (Nat.le_of_lt h)
    rw [hmax]
    rfl
  · have hmax : Nat.max minResolution c.resolution = c.resolution :=
      Nat.max_eq_right (Nat.le_of_not_lt h)
    rw [hmax]
    rfl

omit [Scalar D] in
lemma after_repairBands :
    after repairBands c =
      { c with
        narrowBand := bandOf c.mode c.narrowBand c.combineBand c.narrowBand
        combineBand := bandOf c.mode c.narrowBand c.combineBand c.combineBand } := by
  rw [after, repairBands, bandOf, bandOf]
  split_ifs <;> rfl

omit [Scalar D] in
lemma after_repairNarrowBand :
    after repairNarrowBand c = { c with narrowBand := orZero c.narrowBand } := by
  rw [after, repairNarrowBand, orZero]
  split_ifs <;> rfl

omit [Scalar D] in
lemma after_repairCombineBand :
    after repairCombineBand c = { c with combineBand := orZero c.combineBand } := by
  rw [after, repairCombineBand, orZero]
  split_ifs <;> rfl

omit [Scalar S] [Scalar D] in
lemma after_repairKernel :
    after repairKernel c = { c with kernel := kernelOf c.mode c.kernel } := by
  rw [after, repairKernel, kernelOf]
  split_ifs <;> rfl

omit [Scalar S] in
lemma after_repairFrameLength :
    after repairFrameLength c = { c with clock.frameLength := c.clock.frame } := by
  rw [after, repairFrameLength, ClockSettings.frame]
  split_ifs <;> rfl

omit [Scalar S] in
lemma after_repairBounds :
    after repairBounds c =
      { c with clock.timestepMin := c.clock.lesser, clock.timestepMax := c.clock.greater } := by
  rw [after, repairBounds, ClockSettings.lesser, ClockSettings.greater]
  split_ifs <;> rfl

omit [Scalar S] in
lemma after_repairTimestepMax :
    after repairTimestepMax c =
      { c with
        clock.timestepMax :=
          if 0 < c.clock.timestepMax then c.clock.timestepMax else c.clock.frameLength } := by
  rw [after, repairTimestepMax]
  split_ifs <;> rfl

omit [Scalar S] in
lemma after_repairTimestepMin :
    after repairTimestepMin c =
      { c with
        clock.timestepMin :=
          if 0 < c.clock.timestepMin then c.clock.timestepMin
          else c.clock.timestepMax * Scalar.ofDecimal 1 2 } := by
  rw [after, repairTimestepMin]
  split_ifs <;> rfl

omit [Scalar S] in
lemma after_repairTimestep :
    after repairTimestep c =
      { c with
        clock.timestep :=
          if 0 < c.clock.timestep then c.clock.timestep else c.clock.timestepMax } := by
  rw [after, repairTimestep]
  split_ifs <;> rfl

omit [Scalar S] in
lemma after_repairCfl :
    after repairCfl c =
      { c with clock.cfl := if Scalar.isFinite c.clock.cfl then c.clock.cfl else 0 } := by
  rw [after, repairCfl]
  split_ifs <;> rfl

omit [Scalar D] in
lemma after_repairFlipRatio :
    after repairFlipRatio c = { c with flipRatio := share c.flipRatio } := by
  rw [after, repairFlipRatio, share]
  split_ifs <;> rfl

omit [Scalar D] in
lemma after_repairRadiusFactor :
    after repairRadiusFactor c = { c with radiusFactor := positiveOr c.radiusFactor 1 } := by
  rw [after, repairRadiusFactor, positiveOr]
  split_ifs <;> rfl

omit [Scalar S] [Scalar D] in
lemma with_targetVolume {target : Option D} (h : target = c.targetVolume) :
    { c with targetVolume := target } = c := by
  rw [h]

omit [Scalar S] in
lemma after_repairTargetVolume :
    after repairTargetVolume c = { c with targetVolume := c.targetVolume.filter (0 < ·) } := by
  rw [after, repairTargetVolume]
  cases h : c.targetVolume with
  | none => exact (with_targetVolume c h.symm).symm
  | some t =>
      simp only [Option.filter_some, decide_eq_true_eq]
      split_ifs
      · exact (with_targetVolume c h.symm).symm
      · rfl

lemma after_repairTargetFill {d : Dims} (hd : c.dims? = .ok d) :
    after repairTargetFill c =
      { c with
        targetVolume :=
          c.targetVolume.map fun t =>
            if capacity (room c.scene d) < t then capacity (room c.scene d) else t } := by
  rw [after, repairTargetFill, hd]
  cases h : c.targetVolume with
  | none => exact (with_targetVolume c h.symm).symm
  | some t =>
      simp only [Option.map_some]
      by_cases hlarge : capacity (room c.scene d) < t
      · rw [if_pos hlarge]
        exact congrArg (fun o : Option (Repair S D × Config S D) => o.elim c (·.2)) (if_pos hlarge)
      · rw [if_neg hlarge, with_targetVolume c h.symm]
        exact congrArg (fun o : Option (Repair S D × Config S D) => o.elim c (·.2)) (if_neg hlarge)

lemma dims?_after_repairTargetFill : (after repairTargetFill c).dims? = c.dims? := by
  rw [after, repairTargetFill]
  split
  · simp only
    split_ifs <;> rfl
  · rfl

omit [Scalar S] [Scalar D] in
/-- Every cell has corners. -/
lemma corners_pos (dimension : Nat) : 0 < corners dimension := Nat.pow_pos Nat.two_pos

omit [Scalar S] [Scalar D] in
lemma after_repairMinParticles :
    after repairMinParticles c = { c with minParticles? := c.minParticles?.filter (0 < ·) } := by
  rw [after, repairMinParticles, minParticles]
  cases h : c.minParticles? with
  | none =>
      rw [Option.getD_none, if_neg (Nat.ne_of_gt (corners_pos c.dimension))]
      rw [Option.filter_none, ← h]
      rfl
  | some n =>
      simp only [Option.getD_some, Option.filter_some, decide_eq_true_eq]
      split_ifs with hzero hpos
      · omega
      · rfl
      · rw [← h]
        rfl
      · omega

omit [Scalar S] [Scalar D] in
lemma after_repairMaxParticles :
    after repairMaxParticles c =
      { c with maxParticles? := atLeast c.minParticles c.maxParticles? } := by
  rw [after, repairMaxParticles, maxParticles, atLeast]
  cases h : c.maxParticles? with
  | none =>
      rw [Option.getD_none, if_neg (by omega), Option.map_none, ← h]
      rfl
  | some n =>
      simp only [Option.getD_some, Option.map_some]
      split_ifs
      · rfl
      · rw [← h]
        rfl

omit [Scalar S] in
lemma after_repairPressureAccuracy :
    after repairPressureAccuracy c =
      { c with
        pressure.accuracy :=
          positiveOr c.pressure.accuracy (SolverSettings.standard (D := D)).accuracy } := by
  rw [after, repairPressureAccuracy, positiveOr]
  split_ifs <;> rfl

omit [Scalar S] in
lemma after_repairPressureIterations :
    after repairPressureIterations c =
      { c with
        pressure.maxIterations :=
          nonzeroOr c.pressure.maxIterations (SolverSettings.standard (D := D)).maxIterations } := by
  rw [after, repairPressureIterations, nonzeroOr]
  split_ifs <;> rfl

/-! ## All rules -/

/-- What is left of a configuration when room has to be found for its target volume. -/
def beforeFill : Config S D := (rules.take 15).foldl (fun c rule => after rule c) c

lemma normalized_eq_foldl :
    c.normalized =
      (rules.drop 16).foldl (fun c rule => after rule c) (after repairTargetFill c.beforeFill) :=
  foldl_applyRule rules (c, [])

lemma dims?_beforeFill : c.beforeFill.dims? = .ok c.normalizedDims := by
  rw [← dims?_normalized, normalized_eq_foldl]
  simp only [rules, List.drop_succ_cons, List.drop_zero, List.foldl_cons, List.foldl_nil,
    after_repairMinParticles, after_repairMaxParticles, after_repairPressureAccuracy,
    after_repairPressureIterations]
  exact (dims?_after_repairTargetFill c.beforeFill).symm

/-- **The repaired configuration**, read off the given one. -/
theorem normalized_eq : c.normalized = c.repaired := by
  rw [normalized_eq_foldl, after_repairTargetFill c.beforeFill c.dims?_beforeFill]
  simp only [beforeFill, rules, List.take_succ_cons, List.take_zero, List.drop_succ_cons,
    List.drop_zero, List.foldl_cons, List.foldl_nil, after_repairDimension, after_repairResolution,
    after_repairBands, after_repairNarrowBand, after_repairCombineBand, after_repairKernel,
    after_repairFrameLength, after_repairBounds, after_repairTimestepMax, after_repairTimestepMin,
    after_repairTimestep, after_repairCfl, after_repairFlipRatio, after_repairRadiusFactor,
    after_repairTargetVolume, after_repairMinParticles, after_repairMaxParticles,
    after_repairPressureAccuracy, after_repairPressureIterations]
  rfl

theorem normalizedDims_eq {c : Config S D} {d : Dims} (h : c.normalized.dims? = .ok d) :
    c.normalizedDims = d :=
  (Except.ok.inj (h.symm.trans (dims?_normalized c))).symm

/-- The domain depends on dimension and resolution only. -/
theorem normalizedDims_congr {c c' : Config S D}
    (hdimension : c'.normalized.dimension = c.normalized.dimension)
    (hresolution : c'.normalized.resolution = c.normalized.resolution) :
    c'.normalizedDims = c.normalizedDims := by
  have h := dims?_normalized c
  rw [dims?, ← hdimension, ← hresolution] at h
  exact normalizedDims_eq h

/-- A resolution is only ever raised to the least one. -/
theorem resolution_normalized : c.normalized.resolution = Nat.max minResolution c.resolution := by
  rw [normalized_eq]
  rfl

/-- The mode is as given. -/
theorem mode_normalized : c.normalized.mode = c.mode := by
  rw [normalized_eq]
  rfl

/-- So is the scene. -/
theorem scene_normalized : c.normalized.scene = c.scene := by
  rw [normalized_eq]
  rfl

/-- So is the cap on the number of particles. -/
theorem maxParticleCount_normalized : c.normalized.maxParticleCount = c.maxParticleCount := by
  rw [normalized_eq]
  rfl

theorem dimension_normalized : c.normalized.dimension = knownDimension c.dimension := by
  rw [normalized_eq]
  rfl

theorem kernel_normalized : c.normalized.kernel = kernelOf c.mode c.kernel := by
  rw [normalized_eq]
  rfl

theorem flipRatio_normalized : c.normalized.flipRatio = share c.flipRatio := by
  rw [normalized_eq]
  rfl

/-- The clock of a repaired configuration depends on the given clock only. -/
theorem clock_normalized : c.normalized.clock = c.clock.repaired := by
  rw [normalized_eq]
  rfl

end Config

end FreeSurface

import FreeSurface.Proofs.Config.Timing
import FreeSurface.Proofs.Number.Positive
import FreeSurface.Run.Step

/-!
# Normalizing twice

Setting by setting, what normalization leads to is left alone by normalizing again, with two
exceptions (`Config.normalized_normalized_iff`).

* Bounds of the step size that are in the wrong order because the upper one was no number
  (`ClockSettings.repaired_repaired_iff`): the second time they are swapped.
* A target volume in a scene without an open cell (`Config.aim_aim_iff`): it is reduced to zero,
  which the second time is found not to be positive and given up.
-/

namespace FreeSurface

open Double
open scoped Literals

/-! ## The clock -/

namespace ClockSettings

variable (s : ClockSettings Float)

lemma frame_repaired : s.repaired.frame = s.frame := if_pos s.frame_pos

lemma not_upper_lt_lower (h : s.lower ≤ s.upper) : ¬s.repaired.timestepMax < s.repaired.timestepMin :=
  fun hlt => not_le_of_lt hlt h

lemma upper_repaired (h : s.lower ≤ s.upper) : s.repaired.upper = s.upper := by
  rw [upper, greater, if_neg (s.not_upper_lt_lower h)]
  exact if_pos s.upper_pos

lemma lower_repaired (h : s.lower ≤ s.upper) : s.repaired.lower = s.lower := by
  rw [lower, lesser, if_neg (s.not_upper_lt_lower h), s.upper_repaired h]
  by_cases hpos : 0 < s.lower
  · exact if_pos hpos
  · -- A lower bound that is not positive was made from the upper one, and is made so again.
    have hlesser : ¬0 < s.lesser := fun hlesser => by
      have hlower : s.lower = s.lesser := if_pos hlesser
      exact hpos (hlower ▸ hlesser)
    have hlower : s.lower = s.upper * Scalar.ofDecimal 1 2 := if_neg hlesser
    exact (if_neg hpos).trans hlower.symm

lemma cfl_repaired : (if Scalar.isFinite s.repaired.cfl then s.repaired.cfl else 0) = s.repaired.cfl :=
  if_pos s.repaired_cfl_finite

/-- Repaired settings are left alone exactly if their bounds are in order. -/
lemma repaired_repaired_iff : s.repaired.repaired = s.repaired ↔ s.lower ≤ s.upper := by
  constructor
  · intro h
    by_contra hdisorder
    obtain ⟨hnan, hlong⟩ := not_not.mp (mt s.lower_le_upper_iff.mpr hdisorder)
    obtain ⟨hlesser, hgreater⟩ := s.bounds_of_isNaN hnan
    have hmin : 0 < s.timestepMin := pos_of_pos_of_le s.frame_pos (le_of_lt hlong)
    have hlower : s.lower = s.lesser := if_pos (hlesser ▸ hmin)
    have hupper : s.upper = s.frame := if_neg fun hpos => by
      rw [← hgreater, isNaN_of_pos hpos] at hnan
      exact Bool.false_ne_true hnan
    rw [← hlesser, ← hlower] at hlong
    -- The second time the bounds are swapped.
    have hswapped : s.repaired.lesser = s.frame := by
      show (if s.upper < s.lower then s.upper else s.lower) = s.frame
      rw [hupper, if_pos hlong]
    have hframe : s.repaired.lower = s.repaired.lesser := if_pos (hswapped ▸ s.frame_pos)
    have hsame : s.repaired.lower = s.lower := congrArg timestepMin h
    rw [← hsame, hframe, hswapped] at hlong
    exact not_le_of_lt hlong (le_of_lt hlong)
  · intro h
    have htimestep : (if 0 < s.repaired.timestep then s.repaired.timestep else s.repaired.upper) =
        s.repaired.timestep := if_pos s.repaired_timestep_pos
    have hsettings : s.repaired.repaired = ⟨s.repaired.frame,
        if 0 < s.repaired.timestep then s.repaired.timestep else s.repaired.upper,
        s.repaired.lower, s.repaired.upper,
        if Scalar.isFinite s.repaired.cfl then s.repaired.cfl else 0⟩ := rfl
    rw [hsettings, s.frame_repaired, htimestep, s.lower_repaired h, s.upper_repaired h,
      s.cfl_repaired]
    rfl

end ClockSettings

namespace Config

/-! ## The other settings -/

lemma knownDimension_knownDimension (n : ℕ) :
    knownDimension (knownDimension n) = knownDimension n := by
  rw [knownDimension, knownDimension]
  split_ifs <;> omega

lemma kernelOf_kernelOf (mode : Mode) (kernel : Kernel) :
    kernelOf mode (kernelOf mode kernel) = kernelOf mode kernel := by
  cases mode <;> cases kernel <;> rfl

lemma atLeast_atLeast (least : ℕ) (greatest : Option ℕ) :
    atLeast least (atLeast least greatest) = atLeast least greatest := by
  cases greatest with
  | none => rfl
  | some m =>
      simp only [atLeast, Option.map_some, Option.some.injEq]
      split_ifs <;> omega

lemma nonzeroOr_nonzeroOr (n other : ℕ) :
    nonzeroOr (nonzeroOr n other) other = nonzeroOr n other := by
  rw [nonzeroOr, nonzeroOr]
  split_ifs <;> rfl

lemma filter_pos_filter_pos (n : Option ℕ) :
    (n.filter (0 < ·)).filter (0 < ·) = n.filter (0 < ·) := by
  cases n with
  | none => rfl
  | some n =>
      cases n <;> rfl

section Generic

variable {S : Type} [Scalar S]

lemma positiveOr_positiveOr (x other : S) :
    positiveOr (positiveOr x other) other = positiveOr x other := by
  rw [positiveOr, positiveOr]
  split_ifs <;> rfl

lemma orZero_orZero (b : S) : orZero (orZero b) = orZero b := by
  rw [orZero, orZero]
  split_ifs <;> rfl

lemma aim_of_not_pos {limit t : S} (h : ¬0 < t) : aim limit (some t) = none := by
  rw [aim, Option.filter_some, if_neg (by rwa [decide_eq_true_eq]), Option.map_none]

lemma aim_of_pos {limit t : S} (h : 0 < t) :
    aim limit (some t) = some (if limit < t then limit else t) := by
  rw [aim, Option.filter_some, if_pos (by rwa [decide_eq_true_eq]), Option.map_some]

end Generic

lemma zero_beq_zero : ((0 : Float32) == 0) = true := by decide +kernel

lemma beq_zero_orZero {b : Float32} (h : (b == 0) = true) : (orZero b == 0) = true := by
  rw [orZero]
  split_ifs
  · exact h
  · exact zero_beq_zero

/-- Bands that do not count are zero, and zero bands are left alone. -/
lemma bandOf_repaired (mode : Mode) (narrow combine b : Float32) :
    bandOf mode (orZero (bandOf mode narrow combine narrow))
      (orZero (bandOf mode narrow combine combine)) b = b := by
  rw [bandOf, if_neg]
  rintro ⟨hmode, hzero⟩
  refine hzero ?_
  by_cases hignored : mode ≠ .nbflip ∧ ¬(narrow == 0 ∧ combine == 0)
  · have hband : ∀ b, bandOf mode narrow combine b = 0 := fun _ => if_pos hignored
    rw [hband, hband]
    exact ⟨beq_zero_orZero zero_beq_zero, beq_zero_orZero zero_beq_zero⟩
  · have hband : ∀ b, bandOf mode narrow combine b = b := fun _ => if_neg hignored
    obtain ⟨hnarrow, hcombine⟩ := not_not.mp (not_and.mp hignored hmode)
    rw [hband, hband]
    exact ⟨beq_zero_orZero hnarrow, beq_zero_orZero hcombine⟩

/-- A number that is neither below zero nor above one lies between them. -/
lemma share_unit (x : Float32) : 0 ≤ share x ∧ share x ≤ 1 := by
  have hzero : (0 : Float32) ≤ 0 ∧ (0 : Float32) ≤ 1 := by decide +kernel
  have hone : (0 : Float32) ≤ 1 ∧ (1 : Float32) ≤ 1 := by decide +kernel
  rw [share]
  split_ifs with hin hnan
  · exact hin
  · show (0 : Float32) ≤ standardFlipRatio ∧ standardFlipRatio ≤ (1 : Float32)
    decide +kernel
  · rw [Scalar.clamp]
    have hnumber := Bool.eq_false_iff.mpr hnan
    split_ifs with hbelow habove habove
    · exact hone
    · exact hzero
    · exact hone
    · exact ⟨Single.le_of_not_lt rfl hnumber hbelow, Single.le_of_not_lt hnumber rfl habove⟩

lemma share_share (x : Float32) : share (share x) = share x := if_pos (share_unit x)

/-! ## The target volume -/

lemma capacity_pos {room : ℕ} (h : room ≠ 0) : (0 : Float) < capacity room :=
  fraction_mul_ofNat_pos (Nat.pos_of_ne_zero h)

/-- In a scene without an open cell there is room for nothing. -/
lemma not_capacity_zero_pos : ¬(0 : Float) < capacity 0 := by decide +kernel

lemma aim_aim_iff (room : ℕ) (target : Option Float) :
    aim (capacity room) (aim (capacity room) target) = aim (capacity room) target ↔
      ¬((∃ t, target = some t ∧ 0 < t) ∧ room = 0) := by
  cases target with
  | none =>
      refine ⟨fun _ h => ?_, fun _ => rfl⟩
      obtain ⟨⟨t, ht, -⟩, -⟩ := h
      cases ht
  | some t =>
      by_cases hpos : 0 < t
      · rw [aim_of_pos hpos]
        by_cases hroom : room = 0
        · have hlimit : (capacity room : Float) < t := by
            rw [hroom]
            exact hpos
          rw [if_pos hlimit, aim_of_not_pos (by rw [hroom]; exact not_capacity_zero_pos)]
          exact ⟨fun h => absurd h (Option.some_ne_none _).symm,
            fun h => absurd ⟨⟨t, rfl, hpos⟩, hroom⟩ h⟩
        · refine ⟨fun _ h => hroom h.2, fun _ => ?_⟩
          split_ifs with hlimit
          · rw [aim_of_pos (capacity_pos hroom), ite_self]
          · rw [aim_of_pos hpos, if_neg hlimit]
      · rw [aim_of_not_pos hpos]
        refine ⟨fun _ h => ?_, fun _ => rfl⟩
        obtain ⟨⟨_, ⟨⟩, hpos'⟩, -⟩ := h
        exact hpos hpos'

/-! ## All settings -/

variable (c : Config Float32 Float)

lemma normalizedDims_normalized : c.normalized.normalizedDims = c.normalizedDims := by
  refine normalizedDims_congr ?_ ?_
  · rw [dimension_normalized, dimension_normalized, knownDimension_knownDimension]
  · rw [resolution_normalized, resolution_normalized]
    exact Nat.max_eq_right (Nat.le_max_left _ _)

/-- The number of open cells that a repaired configuration leaves. -/
def openCells : ℕ := room c.scene c.normalizedDims

lemma target_normalized : c.normalized.targetVolume = aim (capacity c.openCells) c.targetVolume := by
  rw [normalized_eq]
  rfl

lemma normalized_normalized_eq :
    c.normalized.normalized = { c.normalized with
      clock := c.clock.repaired.repaired
      targetVolume := aim (capacity c.openCells) (aim (capacity c.openCells) c.targetVolume) } := by
  have hmax : Nat.max minResolution (Nat.max minResolution c.resolution) =
      Nat.max minResolution c.resolution := Nat.max_eq_right (Nat.le_max_left _ _)
  rw [normalized_eq c.normalized, repaired, normalizedDims_normalized, normalized_eq c]
  simp only [repaired, repairedFor, hmax, knownDimension_knownDimension, bandOf_repaired,
    orZero_orZero, kernelOf_kernelOf, share_share, positiveOr_positiveOr, atLeast_atLeast,
    nonzeroOr_nonzeroOr, filter_pos_filter_pos, openCells]

lemma target_normalized_normalized :
    c.normalized.normalized.targetVolume = aim (capacity c.openCells) c.normalized.targetVolume := by
  rw [target_normalized c, normalized_normalized_eq]

lemma start_normalized_iff {R : Type} [RandomSource R Float32] :
    (Simulation.start c.normalized : Simulation Float32 Float R) = Simulation.start c ↔
      c.normalized.normalized = c.normalized := by
  refine ⟨congrArg Simulation.config, fun h => ?_⟩
  exact congrArg₂ (fun config dims =>
    (⟨config, dims, State.initial config dims⟩ : Simulation Float32 Float R)) h
      c.normalizedDims_normalized

/-- **When normalizing twice is normalizing once.**  The second time nothing changes, and a
simulation of the repaired configuration starts like one of the given configuration, unless the
upper bound of the step size is no number while the lower one is longer than a frame, or a volume is
aimed at in a scene without an open cell. -/
theorem normalized_normalized_iff :
    (c.normalized.normalized = c.normalized ↔
      ¬(Scalar.isNaN c.clock.timestepMax = true ∧
          c.normalized.clock.frameLength < c.clock.timestepMin) ∧
        ¬((∃ t, c.targetVolume = some t ∧ 0 < t) ∧ c.openCells = 0)) ∧
    ∀ (R : Type) [RandomSource R Float32],
      (Simulation.start c.normalized : Simulation Float32 Float R) = Simulation.start c ↔
        c.normalized.normalized = c.normalized := by
  refine ⟨?_, fun R _ => c.start_normalized_iff⟩
  have hclock : c.normalized.clock = c.clock.repaired := c.clock_normalized
  have htarget := c.target_normalized
  have hbounds := c.clock.repaired_repaired_iff.trans c.clock.lower_le_upper_iff
  rw [← aim_aim_iff, hclock]
  refine Iff.trans ?_ (and_congr hbounds Iff.rfl)
  rw [normalized_normalized_eq]
  constructor
  · intro h
    have hsame := congrArg Config.clock h
    have hsame' := congrArg Config.targetVolume h
    rw [hclock] at hsame
    rw [htarget] at hsame'
    exact ⟨hsame, hsame'⟩
  · rintro ⟨hsame, hsame'⟩
    rw [hsame, hsame', ← hclock, ← htarget]

/-- Eight by eight cells that all belong to the walls, and a volume of ten to aim at. -/
def walledIn : Config Float32 Float :=
  { standard with
    resolution := 8
    targetVolume := some 10
    scene := { Scene.dropIntoPool with boundaryWidth := 3 } }

/-- The volume is reduced to zero, and given up when the outcome is normalized again. -/
theorem normalized_walledIn :
    walledIn.normalized.targetVolume = some 0 ∧
      walledIn.normalized.normalized.targetVolume = none ∧
      walledIn.normalized.normalized ≠ walledIn.normalized := by
  have hroom : walledIn.openCells = 0 := by decide +kernel
  have htarget : walledIn.normalized.targetVolume = some 0 := by
    have hpos : (0 : Float) < 10 := by decide +kernel
    have haim : walledIn.targetVolume = some 10 := rfl
    rw [target_normalized, hroom, haim, aim_of_pos hpos]
    exact congrArg some (if_pos hpos)
  have hgivenUp : walledIn.normalized.normalized.targetVolume = none := by
    rw [target_normalized_normalized, htarget, hroom]
    exact aim_of_not_pos not_capacity_zero_pos
  refine ⟨htarget, hgivenUp, fun h => ?_⟩
  rw [h, htarget] at hgivenUp
  exact Option.some_ne_none _ hgivenUp

end Config

end FreeSurface

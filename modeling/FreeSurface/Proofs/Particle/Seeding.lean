import FreeSurface.Particle.Seeding
import FreeSurface.Proofs.Lattice.Positions
import FreeSurface.Random.ChaCha
import FreeSurface.Run.State

/-!
# Where particles are seeded

What holds of every seed of a part of an open cell holds of all seeds (`Seeding.forall_seed`).

A seed lies in the cell it was made for: the parts of a cell are inside it, and while a seed is
displaced by less than half a part it stays inside (`Seeding.within_jitter`).  Seeds are made for
open cells only, so what holds of particles at rest in open cells holds of all seeds
(`Seeding.forall_seed_within`), those of a scene among them (`State.forall_seeds`).

Displacements are numbers between `-1` and `1` of the random source (`RandomSource.Centered`), as
those of the generator are (`ChaCha.centered_generator`).
-/

namespace FreeSurface

open Exact
open scoped Literals

/-! ## Particles and cells -/

namespace Particles

variable {d : Dims} {g : Flags d}

lemma isMisplaced_eq_false {p : Particle Exact} {c : d.Cell} (hcell : d.cellAt? p.position = some c)
    (hopen : g.isObstacle c = false) : isMisplaced g p = false := by
  rw [isMisplaced, hcell]
  exact hopen

lemma countMisplaced_eq_zero {ps : Particles Exact} :
    countMisplaced g ps = 0 ↔ ∀ p ∈ ps, isMisplaced g p = false := by
  simp only [countMisplaced, Array.countP_eq_zero, Bool.not_eq_true]

end Particles

/-! ## Draws -/

/-- Symmetric draws are numbers between `-1` and `1`. -/
def RandomSource.Centered (R : Type) [RandomSource R Exact] : Prop :=
  ∀ r : R, ∃ x : ℝ, (RandomSource.symmetric r).1 = real x ∧ |x| ≤ 1

namespace ChaCha

lemma fraction_lt (w : UInt32) : (w >>> 9).toNat < 2 ^ 23 := by
  have hlt : w.toNat < 2 ^ 32 := w.toNat_lt
  rw [UInt32.toNat_shiftRight, Nat.shiftRight_eq_div_pow]
  exact Nat.div_lt_of_lt_mul hlt

lemma symmetricOfWord_eq (w : UInt32) :
    (symmetricOfWord w : Exact) = real ((w >>> 9).toNat * (2 / 8388607) - 1) := by
  have hstep : (fractionStep : Exact) = real (1 / 8388608) := by
    rw [fractionStep, literal, scalar_ofNat, real_div_real (by norm_num)]
    norm_num
  have hstretch : (2 / (1 - real (1 / 8388608)) : Exact) = real (2 * 8388608 / 8388607) := by
    rw [literal, literal, real_sub_real, real_div_real (by norm_num)]
    norm_num
  show Scalar.ofNat (w >>> 9).toNat * fractionStep * (2 / (1 - fractionStep)) + -1 = _
  rw [hstep, hstretch, scalar_ofNat, literal, Nat.cast_one, neg_real, real_mul_real, real_mul_real,
    real_add_real]
  exact congrArg real (by ring)

/-- The draws of the generator reach from `-1` to `1`. -/
lemma centered_generator : RandomSource.Centered (Generator Exact) := by
  intro g
  refine ⟨_, symmetricOfWord_eq g.stream.next.1, ?_⟩
  have hlt : ((g.stream.next.1 >>> 9).toNat : ℝ) + 1 ≤ 8388608 := by
    exact_mod_cast fraction_lt g.stream.next.1
  have hnonneg : (0 : ℝ) ≤ (g.stream.next.1 >>> 9).toNat := Nat.cast_nonneg _
  rw [abs_le]
  constructor <;> linarith

end ChaCha

namespace Seeding

variable {d : Dims}

section Common

variable {S R : Type} [Scalar S] [RandomSource R S] {P : Particle S → Prop}

lemma forall_seedPart (phi : ScalarField d S) {step randomness : S} {c part : Coords}
    (hnew : ∀ r : R, P (.atRest (jitter d (partCenter c part step) randomness r).1))
    {progress : Progress S R} (h : ∀ p ∈ progress.1, P p) :
    ∀ p ∈ (seedPart phi step randomness c progress part).1, P p := by
  intro p hp
  rw [seedPart] at hp
  simp only at hp
  split_ifs at hp
  · rcases Array.mem_push.mp hp with hold | rfl
    · exact h p hold
    · exact hnew progress.2
  · exact h p hp

/-- **What holds of every seed of a part of an open cell holds of all seeds.** -/
theorem forall_seed {g : Flags d} (phi : ScalarField d S) {discretization : ℕ} {randomness : S}
    {start : Progress S R} (hstart : ∀ p ∈ start.1, P p)
    (hnew : ∀ {c : d.Cell} {part : Coords}, g.isObstacle c = false →
      part ∈ parts d (Nat.max discretization 1) → ∀ r : R,
        P (.atRest (jitter d (partCenter (d.cells.coords c) part
          (1 / Scalar.ofNat (Nat.max discretization 1))) randomness r).1)) :
    ∀ p ∈ (seed phi g discretization randomness start).1, P p := by
  simp only [seed]
  refine List.foldlRecOn (motive := fun progress : Progress S R => ∀ p ∈ progress.1, P p) _ _ hstart
    fun progress hprogress c _ => ?_
  split_ifs with hcandidate
  · simp only [isCandidate, Bool.and_eq_true, Bool.not_eq_true'] at hcandidate
    exact List.foldlRecOn (motive := fun progress : Progress S R => ∀ p ∈ progress.1, P p) _ _
      hprogress fun progress hprogress part hpart =>
        forall_seedPart phi (hnew hcandidate.1 hpart) hprogress
  · exact hprogress

end Common

variable {R : Type} [RandomSource R Exact]

/-- The middle of a part, displaced by less than half a part, lies in the cell. -/
lemma mem_part {i a n : ℕ} {ρ x : ℝ} (ha : a < n) (hρ : ρ * n < 1) (hx : |x| ≤ ρ / 2) :
    (i : ℝ) ≤ i + (a + 1 / 2) * (1 / n) + x ∧ i + (a + 1 / 2) * (1 / n) + x < i + 1 := by
  have hn : (0 : ℝ) < n := by exact_mod_cast Nat.zero_lt_of_lt ha
  have ha' : (a : ℝ) + 1 ≤ n := by exact_mod_cast ha
  have hpart : ρ < 1 / n := (lt_div_iff₀ hn).mpr hρ
  have hnonneg : 0 ≤ (a : ℝ) * (1 / n) := by positivity
  have hlast : ((a : ℝ) + 1) * (1 / n) ≤ 1 := by
    rw [mul_one_div]
    exact (div_le_one hn).mpr ha'
  obtain ⟨hlo, hhi⟩ := abs_le.mp hx
  constructor <;> nlinarith

lemma exists_displaced (hR : RandomSource.Centered R) {i a n : ℕ} {ρ : ℝ} (ha : a < n)
    (hρ : 0 ≤ ρ) (hsmall : ρ * n < 1) (r : R) :
    ∃ x : ℝ, Scalar.ofNat i + (Scalar.ofNat a + Scalar.half) * real (1 / n) +
      (RandomSource.symmetric r).1 * (real ρ * Scalar.half) = real x ∧ i ≤ x ∧ x < i + 1 := by
  obtain ⟨y, hy, hle⟩ := hR r
  have hshift : |y * (ρ * (1 / 2))| ≤ ρ / 2 := by
    rw [abs_mul, abs_of_nonneg (by positivity : 0 ≤ ρ * (1 / 2))]
    nlinarith
  refine ⟨_, ?_, mem_part ha hsmall hshift⟩
  simp only [hy, half_eq, scalar_ofNat, real_add_real, real_mul_real]

lemma lt_of_mem_parts {n : ℕ} (hn : 0 < n) {part : Coords} (h : part ∈ parts d n) :
    part.i < n ∧ part.j < n ∧ part.k < n := by
  simp only [parts, List.mem_flatMap, List.mem_map, List.mem_range] at h
  obtain ⟨k, hk, j, hj, i, hi, rfl⟩ := h
  refine ⟨hi, hj, ?_⟩
  split_ifs at hk with hplanar
  · exact hk.trans_le hn
  · exact hk

/-- **Seeds stay in their cell.** -/
lemma within_jitter (hR : RandomSource.Centered R) (c : d.Cell) {n : ℕ} (hn : 0 < n) {ρ : ℝ}
    (hρ : 0 ≤ ρ) (hsmall : ρ * n < 1) {part : Coords} (hpart : part ∈ parts d n) (r : R) :
    Dims.Within (d.cells.coords c.val)
      (jitter d (partCenter (d.cells.coords c.val) part (real (1 / n))) (real ρ) r).1 := by
  obtain ⟨hi, hj, hk⟩ := lt_of_mem_parts hn hpart
  obtain ⟨x, hx, hx'⟩ := exists_displaced hR hi hρ hsmall r
  obtain ⟨y, hy, hy'⟩ := exists_displaced hR hj hρ hsmall (RandomSource.symmetric r).2
  obtain ⟨z, hz, hz'⟩ :=
    exists_displaced hR hk hρ hsmall (RandomSource.symmetric (RandomSource.symmetric r).2).2
  rw [jitter]
  simp only
  split_ifs with hplanar
  · -- In the plane the third coordinate is that of the middle of the only layer.
    have hlayer : (d.cells.coords c.val).k = 0 := by
      have hdepth : d.depth = 1 := beq_iff_eq.mp hplanar
      have hlt : (d.cells.coords c.val).k < d.depth := (d.cells.contains_coords c.isLt).2.2
      omega
    refine ⟨x, y, 1 / 2, ?_, hx', hy', ?_⟩
    · rw [← hx, ← hy, ← half_eq]
      rfl
    · rw [hlayer, Nat.cast_zero]
      constructor <;> norm_num
  · exact ⟨x, y, z, by rw [← hx, ← hy, ← hz]; rfl, hx', hy', hz'⟩

/-- **Seeds are at rest in open cells**: they are made for cells that are not solid, and stay in
them. -/
theorem forall_seed_within (hR : RandomSource.Centered R) (phi : ScalarField d Exact) {g : Flags d}
    {n : ℕ} {ρ : ℝ} (hρ : 0 ≤ ρ) (hsmall : ρ * (Nat.max n 1 : ℕ) < 1) {P : Particle Exact → Prop}
    {start : Progress Exact R} (hstart : ∀ p ∈ start.1, P p)
    (hnew : ∀ {c : d.Cell} {p : Vec3 Exact}, g.isObstacle c = false →
      Dims.Within (d.cells.coords c.val) p → P (.atRest p)) :
    ∀ p ∈ (seed phi g n (real ρ) start).1, P p := by
  have hn : 0 < Nat.max n 1 := Nat.lt_of_lt_of_le Nat.one_pos (Nat.le_max_right n 1)
  have hstep : (1 / Scalar.ofNat (Nat.max n 1) : Exact) = real (1 / (Nat.max n 1 : ℕ)) := by
    rw [literal, Nat.cast_one, scalar_ofNat]
    exact real_div_real (by exact_mod_cast hn.ne')
  refine forall_seed phi hstart fun hopen hpart r => ?_
  rw [hstep]
  exact hnew hopen (within_jitter hR _ hn hρ hsmall hpart r)

end Seeding

/-! ## The seeds of a scene -/

namespace State

variable {d : Dims} {R : Type} [RandomSource R Exact]

lemma seedRandomness_eq : (seedRandomness : Exact) = real (5 / 10 ^ 2) := by
  rw [seedRandomness, scalar_ofDecimal, Nat.cast_ofNat]

/-- Seeds are displaced by less than half a part. -/
lemma seedRandomness_mul_lt : (5 / 10 ^ 2 : ℝ) * (Nat.max seedDiscretization 1 : ℕ) < 1 := by
  show (5 / 10 ^ 2 : ℝ) * (2 : ℕ) < 1
  norm_num

lemma forall_seeds (hR : RandomSource.Centered R) (phi : ScalarField d Exact) {g : Flags d} (r : R)
    {P : Particle Exact → Prop}
    (hnew : ∀ {c : d.Cell} {p : Vec3 Exact}, g.isObstacle c = false →
      Dims.Within (d.cells.coords c.val) p → P (.atRest p)) :
    ∀ p ∈ (Seeding.seed phi g seedDiscretization seedRandomness (#[], r)).1, P p := by
  rw [seedRandomness_eq]
  exact Seeding.forall_seed_within hR phi (by norm_num) seedRandomness_mul_lt
    (fun _ hp => nomatch hp) hnew

end State

end FreeSurface

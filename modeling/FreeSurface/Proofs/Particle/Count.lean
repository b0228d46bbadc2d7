import FreeSurface.Particle.Density
import FreeSurface.Proofs.Field.Interpolation
import FreeSurface.Proofs.Particle.Seeding

/-!
# How many particles there are

Both ways in which particles enter a simulation are counted.

* `Density.size_adjust_le` — an adjustment does not add particles beyond the total allowed: either
  there are no more particles than before, or no more than that.
* `Seeding.size_seed_of_full` — seeding asks for no total: in a domain full of liquid every part of
  every open cell gets its seed.
-/

namespace FreeSurface

open Exact
open scoped Literals

/-- What grows by a known amount in every step of a fold grows by their sum. -/
lemma size_foldl {α β : Type} (size : β → ℕ) (grow : α → ℕ) {step : β → α → β} {l : List α}
    (h : ∀ b, ∀ a ∈ l, size (step b a) = size b + grow a) (b : β) :
    size (l.foldl step b) = size b + (l.map grow).sum := by
  induction l generalizing b with
  | nil => rfl
  | cons a rest ih =>
      rw [List.foldl_cons, ih fun b a ha => h b a (List.mem_cons_of_mem _ ha),
        h b a List.mem_cons_self, List.map_cons, List.sum_cons, Nat.add_assoc]

lemma foldl_add_snd {α : Type} (l : List (α × ℕ)) :
    l.foldl (fun total u => total + u.2) 0 = (l.map (·.2)).sum :=
  (size_foldl id (fun u : α × ℕ => u.2) (fun _ _ _ => rfl) 0).trans (Nat.zero_add _)

lemma sum_map_ite {α : Type} (p : α → Bool) (k : ℕ) (l : List α) :
    (l.map fun a => if p a then k else 0).sum = l.countP p * k := by
  induction l with
  | nil => simp
  | cons a rest ih =>
      rw [List.map_cons, List.sum_cons, ih, List.countP_cons]
      split_ifs <;> ring

/-! ## Adjustments -/

namespace Density

variable {d : Dims} {S R : Type} [Scalar S]

omit [Scalar S] in
lemma size_without_le (ps : Particles S) (dropped : List (Fin ps.size)) :
    (without ps dropped).size ≤ ps.size := by
  simp only [without, List.size_toArray, List.length_map]
  exact (List.length_filter_le _ _).trans_eq List.length_finRange

variable [RandomSource R S]

lemma size_fill (s : DensitySettings S) (phi : ScalarField d S) (v : Staggered d S) (c : d.Cell)
    (missing : ℕ) (progress : Particles S × R) :
    (fill s phi v c missing progress).1.size = progress.1.size + missing := by
  induction missing generalizing progress with
  | zero => rfl
  | succ missing ih =>
      rw [fill, ih, Array.size_push]
      omega

/-- **Nothing is added beyond the total allowed.** -/
theorem size_adjust_le (ps : Particles S) (g : Flags d) (phi : ScalarField d S)
    (v : Staggered d S) (s : DensitySettings S) (r : R) :
    (adjust ps g phi v s r).particles.size ≤ max ps.size s.maxTotal := by
  have hkept : ∀ dropped,
      (without (ps.filter (isValid s g phi)) dropped).size ≤ max ps.size s.maxTotal :=
    fun dropped => (size_without_le _ dropped).trans
      (Array.size_filter_le.trans (Nat.le_max_left _ _))
  rw [adjust]
  simp only
  split_ifs with hnone hcapped
  · exact hkept _
  · exact hkept _
  · -- As many are added as were found to be lacking.
    rw [size_foldl (fun progress : Particles S × R => progress.1.size) (·.2)
      fun progress u _ => size_fill s phi v u.1 u.2 progress]
    rw [foldl_add_snd] at hcapped
    exact (not_lt.mp hcapped).trans (Nat.le_max_right _ _)

end Density

/-! ## Seeds -/

namespace Seeding

variable {d : Dims} {R : Type} [RandomSource R Exact]

variable {phi : ScalarField d Exact} {n : ℕ} {ρ : ℝ}

lemma size_seedPart_of_full (hR : RandomSource.Centered R)
    (hphi : ∀ c, (phi.get c).In (Set.Iio 0)) (c : d.Cell) (hn : 0 < n) (hρ : 0 ≤ ρ)
    (hsmall : ρ * n < 1) {part : Coords} (hpart : part ∈ parts d n) (progress : Progress Exact R) :
    (seedPart phi (real (1 / n)) (real ρ) (d.cells.coords c.val) progress part).1.size =
      progress.1.size + 1 := by
  obtain ⟨x, y, z, hseed, -⟩ := within_jitter hR c hn hρ hsmall hpart progress.2
  have hfinite : (jitter d (partCenter (d.cells.coords c.val) part (real (1 / n))) (real ρ)
      progress.2).1.isFinite = true := Vec3.isFinite_iff.mpr ⟨x, y, z, hseed⟩
  obtain ⟨value, hneg, hvalue⟩ := ScalarField.sample_mem (convex_Iio 0) hphi hfinite
  rw [seedPart]
  simp only [hvalue]
  rw [if_pos, Array.size_push]
  rw [literal, Nat.cast_zero, real_lt_real]
  exact hneg

/-- In a domain full of liquid every part of every open cell gets a seed. -/
theorem size_seed_of_full (hR : RandomSource.Centered R)
    (hphi : ∀ c, (phi.get c).In (Set.Iio 0)) (g : Flags d) (hρ : 0 ≤ ρ)
    (hsmall : ρ * (Nat.max n 1 : ℕ) < 1) (start : Progress Exact R) :
    (seed phi g n (real ρ) start).1.size =
      start.1.size + d.cells.nodes.countP (fun c => !g.isObstacle c) *
        (parts d (Nat.max n 1)).length := by
  have hn : 0 < Nat.max n 1 := Nat.lt_of_lt_of_le Nat.one_pos (Nat.le_max_right n 1)
  have hstep : (1 / Scalar.ofNat (Nat.max n 1) : Exact) = real (1 / (Nat.max n 1 : ℕ)) := by
    rw [literal, Nat.cast_one, scalar_ofNat]
    exact real_div_real (by exact_mod_cast hn.ne')
  have hcandidate : ∀ c, isCandidate phi g c = !g.isObstacle c := by
    intro c
    obtain ⟨value, hneg, hvalue⟩ := hphi c
    have hnear : ¬(1 : Exact) < phi.get c := by
      rw [hvalue, literal, Nat.cast_one, real_lt_real]
      exact not_lt.mpr ((le_of_lt hneg).trans zero_le_one)
    rw [isCandidate, decide_eq_false hnear, Bool.not_false, Bool.and_true]
  simp only [seed, hstep, hcandidate]
  rw [← sum_map_ite]
  refine size_foldl (fun progress : Progress Exact R => progress.1.size) _ (fun progress c _ => ?_)
    start
  split_ifs with hopen
  · have hcell := size_foldl (fun progress : Progress Exact R => progress.1.size) (fun _ => 1)
      (fun progress part hpart => size_seedPart_of_full hR hphi c hn hρ hsmall hpart progress)
      progress
    rwa [List.map_const', List.sum_replicate, smul_eq_mul, mul_one] at hcell
  · rfl

end Seeding

end FreeSurface

import FreeSurface.Proofs.Particle.Adjustment
import FreeSurface.Proofs.Projection.Divergence
import FreeSurface.Proofs.Transfer.Windows

/-!
# Adjusting twice

An adjustment leaves nothing to adjust.  All its particles are valid, the new ones among them
(`Density.isValid_newcomer`), and no deep cell has too many; what the cells still lack is what the
cap withheld, and it is withheld again.

* `Density.Tidy` — particles that an adjustment takes nothing from.
* `Density.adjust_of_tidy` — tidy particles that lack nothing, or too much to be added, are left
  alone.
* `Density.adjust_adjust` — **a second adjustment does nothing.**

New particles are placed at random, so their places are numbers only if the draws are
(`RandomSource.Fractional`), as those of the generator are (`ChaCha.fractional_generator`).
-/

namespace FreeSurface

open Exact
open scoped Literals

variable {d : Dims}

/-! ## Draws -/

/-- Unit draws are numbers from zero on and below one. -/
def RandomSource.Fractional (R : Type) [RandomSource R Exact] : Prop :=
  ∀ r : R, ∃ x : ℝ, (RandomSource.unit r).1 = real x ∧ 0 ≤ x ∧ x < 1

lemma ChaCha.unitOfWord_eq (w : UInt32) :
    (unitOfWord w : Exact) = real ((w >>> 8).toNat / 2 ^ 24) := by
  rw [unitOfWord, literal, scalar_ofNat, scalar_ofNat, Nat.cast_one, real_div_real (by norm_num),
    real_mul_real]
  refine congrArg real ?_
  norm_num
  ring

/-- The draws of the generator are fractions of 24 bits. -/
lemma ChaCha.fractional_generator : RandomSource.Fractional (Generator Exact) := by
  intro g
  set w := g.stream.next.1
  have hlt : (w >>> 8).toNat < 2 ^ 24 := by
    rw [UInt32.toNat_shiftRight, Nat.shiftRight_eq_div_pow]
    exact Nat.div_lt_of_lt_mul w.toNat_lt
  refine ⟨(w >>> 8).toNat / 2 ^ 24, unitOfWord_eq w, by positivity, ?_⟩
  rw [div_lt_one (by norm_num)]
  exact_mod_cast hlt

/-! ## Velocities of new particles -/

namespace Transfer

/-- The mean of numbers on faces is a number: without weight nothing is divided. -/
lemma isFinite_sampleSmooth {v : Staggered d Exact} (hv : v.allFinite = true) (a : Axis)
    {p : Vec3 Exact} (hp : p.isFinite = true) :
    Scalar.isFinite (sampleSmooth v a p) = true := by
  have hfinite := Staggered.isFinite_component hv a
  choose W hW hw using fun f : d.Face a => weightAt_of_isFinite .smooth a f hp
  have hsums : weighAround v a p = _ :=
    foldl_weighted hw hW (fun f => eq_real_toReal (hfinite f)) (facesAround d a p)
  rw [sampleSmooth_of_weighAround hsums]
  split_ifs with hpos
  · rw [literal, Nat.cast_zero, real_lt_real] at hpos
    rw [real_div_real hpos.ne', isFinite_real]
  · exact in_univ.mp (Staggered.sampleComponent_mem convex_univ
      (fun f => in_univ.mpr (hfinite f)) hp)

/-- The velocity of a finite grid at a finite position is finite. -/
lemma isFinite_sampleVelocity {v : Staggered d Exact} (hv : v.allFinite = true)
    {p : Vec3 Exact} (hp : p.isFinite = true) (kernel : Kernel) :
    (sampleVelocity v p kernel).isFinite = true := by
  have hactive : ∀ f : Axis → Exact, (∀ a, Scalar.isFinite (f a) = true) →
      (Staggered.activeVector d f).isFinite = true := by
    intro f hf
    simp only [Staggered.activeVector, Vec3.isFinite, hf, Bool.true_and]
    split_ifs
    · rfl
    · exact hf .z
  cases kernel with
  | dLinear =>
      exact hactive _ fun a => in_univ.mp (Staggered.sampleComponent_mem convex_univ
        (fun f => in_univ.mpr (Staggered.isFinite_component hv a f)) hp)
  | smooth => exact hactive _ fun a => isFinite_sampleSmooth hv a hp

end Transfer

namespace Density

/-! ## New particles -/

section Newcomers

variable {R : Type} [RandomSource R Exact] {s : DensitySettings Exact} {g : Flags d}
  {phi : ScalarField d Exact}

lemma isFinite_place (hR : RandomSource.Fractional R) (c : d.Cell) (attempts : ℕ) (r : R) :
    (place s phi c attempts r).1.isFinite = true := by
  induction attempts generalizing r with
  | zero => exact d.isFinite_center c
  | succ attempts ih =>
      obtain ⟨x, hx, -⟩ := hR r
      obtain ⟨y, hy, -⟩ := hR (RandomSource.unit r).2
      obtain ⟨z, hz, -⟩ := hR (RandomSource.unit (RandomSource.unit r).2).2
      rw [place]
      simp only [RandomSource.three, hx, hy, hz]
      split_ifs
      · rw [half_eq]
        rfl
      · exact ih _
      · rfl
      · exact ih _

lemma isFinite_newcomer (hR : RandomSource.Fractional R) {v : Staggered d Exact}
    (hv : v.allFinite = true) (c : d.Cell) (r : R) : (newcomer s phi v c r).isFinite = true := by
  have hplace : (place s phi c placementAttempts r).1.isFinite = true := isFinite_place hR c _ r
  exact Bool.and_eq_true_iff.mpr ⟨hplace, Transfer.isFinite_sampleVelocity hv hplace s.kernel⟩

/-- All particles of an adjustment are finite. -/
lemma allFinite_adjust (hR : RandomSource.Fractional R) {v : Staggered d Exact}
    (hv : v.allFinite = true) (ps : Particles Exact) (r : R) :
    Particles.allFinite (adjust ps g phi v s r).particles = true := by
  rw [Particles.allFinite, Array.all_eq_true_iff_forall_mem]
  exact forall_adjust v r (fun _ _ hvalid => (isValid_iff.mp hvalid).1)
    fun _ => isFinite_newcomer hR hv _

/-- New particles are valid. -/
lemma isValid_newcomer (hd : d.Addressable 0) (hR : RandomSource.Fractional R)
    (hphi : ∀ c, Scalar.isFinite (phi.get c) = true) {v : Staggered d Exact}
    (hv : v.allFinite = true) {c : d.Cell} (hc : Fillable s g phi c) (r : R) :
    isValid s g phi (newcomer s phi v c r) = true := by
  obtain ⟨hcell, hinside, hband⟩ := settled_place hd hphi hc placementAttempts r
  exact isValid_iff.mpr ⟨isFinite_newcomer hR hv c r, hcell, hinside, hband⟩

/-- All particles of an adjustment are valid. -/
lemma isValid_of_mem_adjust (hd : d.Addressable 0) (hR : RandomSource.Fractional R)
    (hphi : ∀ c, Scalar.isFinite (phi.get c) = true) {v : Staggered d Exact}
    (hv : v.allFinite = true)
    (hliquid : ∀ c, g.isFluid c = true → g.isObstacle c = false ∧ phi.get c < 0)
    {ps : Particles Exact} {r : R} :
    ∀ p ∈ (adjust ps g phi v s r).particles, isValid s g phi p = true :=
  forall_adjust v r (fun _ _ h => h) fun hc =>
    isValid_newcomer hd hR hphi hv (fillable_of_mem_deficits hliquid hc)

end Newcomers

/-! ## Tidy particles -/

section Tidy

variable {S : Type} [Scalar S] {s : DensitySettings S} {g : Flags d} {phi : ScalarField d S}

/-- Particles that an adjustment takes nothing from: all are valid, and no deep cell has more of
them than it may keep. -/
structure Tidy (s : DensitySettings S) (g : Flags d) (phi : ScalarField d S) (ps : Particles S) :
    Prop where
  valid : ∀ p ∈ ps, isValid s g phi p = true
  le_max : ∀ c, IsDeep s phi c → population c ps.toList ≤ s.maxPerCell

lemma population_take_lt {ps : List (Particle S)} {i : Fin ps.length} {c : d.Cell}
    (h : d.cellAt? (ps.get i).position = some c) : population c (ps.take i) < population c ps := by
  have hsplit : ps = ps.take i ++ ps.get i :: ps.drop (i + 1) := by
    rw [List.get_eq_getElem, List.cons_getElem_drop_succ, List.take_append_drop]
  have hself : population c [ps.get i] = 1 := by
    rw [population, List.countP_singleton, if_pos (decide_eq_true h)]
  conv_rhs =>
    rw [hsplit, ← List.singleton_append, population_append, population_append, hself]
  omega

/-- Thinning keeps all of them where no deep cell has too many. -/
lemma survivors_eq_self {ps : List (Particle S)}
    (h : ∀ c : d.Cell, IsDeep s phi c → population c ps ≤ s.maxPerCell) :
    survivors s phi ps = ps := by
  have hkept : ∀ i ∈ List.finRange ps.length, isKept s phi ps i = true := by
    intro i _
    cases hcell : d.cellAt? (ps.get i).position with
    | none => rw [isKept, hcell]
    | some c =>
        exact (isKept_iff hcell).mpr fun hdeep => (population_take_lt hcell).trans_le (h c hdeep)
  rw [survivors, List.filter_eq_self.mpr hkept, List.map_get_finRange]

namespace Tidy

variable {ps : Particles S}

lemma exists_cellAt? (h : Tidy s g phi ps) : ∀ p ∈ ps, ∃ c, d.cellAt? p.position = some c := by
  intro p hp
  obtain ⟨-, ⟨c, hc, -⟩, -⟩ := isValid_iff.mp (h.valid p hp)
  exact ⟨c, hc⟩

lemma filter_eq (h : Tidy s g phi ps) : ps.filter (isValid s g phi) = ps :=
  Array.filter_eq_self.mpr h.valid

lemma allExcess_eq_nil (h : Tidy s g phi ps) : allExcess s phi (Buckets.build d ps) = [] := by
  have hlength : (survivors s phi ps.toList).length +
      (allExcess s phi (Buckets.build d ps)).length = ps.size :=
    length_allExcess h.exists_cellAt?
  rw [survivors_eq_self h.le_max, Array.length_toList] at hlength
  exact List.length_eq_zero_iff.mp (by omega)

lemma without_eq (h : Tidy s g phi ps) :
    without ps (allExcess s phi (Buckets.build d ps)) = ps := by
  apply Array.toList_inj.mp
  rw [toList_thinned h.exists_cellAt?, survivors_eq_self h.le_max]

end Tidy

/-- **Tidy particles are left alone** where no cell lacks any, or all together lack more than may
be added. -/
lemma adjust_of_tidy {R : Type} [RandomSource R S] {ps : Particles S} (h : Tidy s g phi ps)
    (v : Staggered d S) (r : R) {wanted : ℕ}
    (hwanted : ∑ c : d.Cell, shortage s g phi ps.toList c = wanted)
    (hnone : wanted = 0 ∨ s.maxTotal < ps.size + wanted) :
    adjust ps g phi v s r = ⟨ps, r, ⟨0, 0, 0, decide (0 < wanted)⟩, wanted⟩ := by
  have hlacking : (deficits s g phi (Buckets.build d ps)).foldl (fun n u => n + u.2) 0 = wanted :=
    (foldl_add_snd _).trans
      ((sum_deficits s phi h.exists_cellAt? g (fun _ n => n) fun _ => rfl).trans hwanted)
  have hremoved : ps.size - ps.size = 0 := Nat.sub_self _
  simp only [adjust]
  rw [h.filter_eq, h.without_eq, h.allExcess_eq_nil, hlacking, hremoved, List.length_nil]
  by_cases hzero : wanted = 0
  · rw [if_pos hzero, hzero]
    rfl
  · rw [if_neg hzero, if_pos (hnone.resolve_left hzero), decide_eq_true (Nat.pos_of_ne_zero hzero)]

lemma eq_nil_of_population {ps : List (Particle S)}
    (hcells : ∀ p ∈ ps, ∃ c : d.Cell, d.cellAt? p.position = some c)
    (h : ∀ c : d.Cell, population c ps = 0) : ps = [] := by
  refine List.eq_nil_iff_forall_not_mem.mpr fun p hp => ?_
  obtain ⟨c, hc⟩ := hcells p hp
  exact List.countP_eq_zero.mp (h c) p hp (decide_eq_true hc)

end Tidy

/-! ## The second adjustment -/

section Second

variable {R : Type} [RandomSource R Exact] {s : DensitySettings Exact} {g : Flags d}
  {phi : ScalarField d Exact} {v : Staggered d Exact} (hd : d.Addressable 0)
  (hR : RandomSource.Fractional R) (hphi : ∀ c, Scalar.isFinite (phi.get c) = true)
  (hv : v.allFinite = true)
  (hliquid : ∀ c, g.isFluid c = true ↔ g.isObstacle c = false ∧ phi.get c < 0)
  (hbounds : s.minPerCell ≤ s.maxPerCell)

include hd hR hphi hv hliquid hbounds

/-- **A second adjustment does nothing.**  It removes no particle, adds none and draws nothing; what
is still lacking is what the cap withheld from the first one. -/
theorem adjust_adjust (ps : Particles Exact) (r r' : R) :
    let first := adjust ps g phi v s r
    adjust first.particles g phi v s r' =
      ⟨first.particles, r', ⟨0, 0, 0, first.report.capped⟩,
        if first.report.capped then first.wanted else 0⟩ := by
  intro first
  have hcenter : ∀ c : d.Cell, d.cellAt? (d.center c : Vec3 Exact) = some c :=
    fun c => Dims.cellAt?_of_within hd (Dims.within_center c)
  obtain ⟨newcomers, hlist, hwanted, hreport, hcells, hpopulation⟩ :=
    exists_newcomers hbounds hcenter ps g phi v r
  set kept := survivors s phi (ps.filter (isValid s g phi)).toList
  have hcapped : first.report.capped =
      decide (0 < first.wanted ∧ s.maxTotal < kept.length + first.wanted) := by
    rw [hwanted, hreport]
  rw [← hwanted, ← hcapped] at hpopulation
  have htotal : ∀ c : d.Cell, population c first.particles.toList =
      population c kept + if first.report.capped then 0 else shortage s g phi kept c := by
    intro c
    rw [hlist, population_append, hpopulation]
  have htidy : Tidy s g phi first.particles := by
    refine ⟨isValid_of_mem_adjust hd hR hphi hv fun c => (hliquid c).mp, fun c hdeep => ?_⟩
    have hkept : population c kept ≤ s.maxPerCell :=
      population_survivors_le exists_cellAt?_of_mem_valid hdeep
    rw [htotal, shortage]
    split_ifs <;> omega
  -- Filled cells lack nothing more, and the others lack what they lacked.
  have hshortage : ∀ c : d.Cell, shortage s g phi first.particles.toList c =
      if first.report.capped then shortage s g phi kept c else 0 := by
    intro c
    rw [shortage, htotal, shortage]
    split_ifs <;> omega
  by_cases hcap : first.report.capped = true
  · obtain ⟨hpos, hmany⟩ := of_decide_eq_true (hcapped.symm.trans hcap)
    have hnew : newcomers = [] := eq_nil_of_population hcells fun c => by
      rw [hpopulation, if_pos hcap]
    have hsize : first.particles.size = kept.length := by
      rw [← Array.length_toList, hlist, hnew, List.append_nil]
    have hsum : ∑ c : d.Cell, shortage s g phi first.particles.toList c = first.wanted := by
      rw [hwanted]
      exact Finset.sum_congr rfl fun c _ => (hshortage c).trans (if_pos hcap)
    rw [adjust_of_tidy htidy v r' hsum (.inr (hsize.symm ▸ hmany)), hcap, if_pos rfl,
      decide_eq_true hpos]
  · rw [Bool.not_eq_true] at hcap
    have hsum : ∑ c : d.Cell, shortage s g phi first.particles.toList c = 0 :=
      Finset.sum_eq_zero fun c _ => (hshortage c).trans (if_neg (Bool.eq_false_iff.mp hcap))
    rw [adjust_of_tidy htidy v r' hsum (.inl rfl), hcap]
    rfl

end Second

/-- Liquid five cells deep in both cells of a puddle. -/
noncomputable def deepWater : ScalarField (Dims.planar 1 0) Exact := Field.constant _ (real (-5))

/-- One to two particles in every cell, drawn with the smooth kernel, and no more than three. -/
noncomputable def atMostThree : DensitySettings Exact := ⟨1, 2, real 0, real 1, 3, .smooth⟩

/-- Three particles in the first cell, one outside and one that is nowhere. -/
noncomputable def strays : Particles Exact :=
  #[.atRest ⟨Scalar.ofDecimal 25 2, Scalar.half, Scalar.half⟩,
    .atRest ⟨real (-1), Scalar.half, Scalar.half⟩,
    .atRest ⟨Scalar.half, Scalar.half, Scalar.half⟩,
    .atRest ⟨nan, Scalar.half, Scalar.half⟩,
    .atRest ⟨Scalar.ofDecimal 75 2, Scalar.half, Scalar.half⟩]

/-- After the strays are put in order, another source of draws has nothing to do. -/
theorem adjust_adjust_strays :
    let g := flooded
    let v : Staggered (Dims.planar 1 0) Exact := .zero _
    let r : Generator Exact := RandomSource.ofSeed 1
    let r' : Generator Exact := RandomSource.ofSeed 2
    let first := adjust strays g deepWater v atMostThree r
    (Dims.planar 1 0).Addressable 0 ∧ RandomSource.Fractional (Generator Exact) ∧
    (∀ c, Scalar.isFinite (deepWater.get c) = true) ∧ v.allFinite = true ∧
    (∀ c, g.isFluid c = true ↔ g.isObstacle c = false ∧ deepWater.get c < 0) ∧
    atMostThree.minPerCell ≤ atMostThree.maxPerCell ∧
    adjust first.particles g deepWater v atMostThree r' =
      ⟨first.particles, r', ⟨0, 0, 0, first.report.capped⟩,
        if first.report.capped then first.wanted else 0⟩ := by
  intro g v r r' first
  have hd : (Dims.planar 1 0).Addressable 0 := ⟨by decide, by decide, by decide⟩
  have hget : ∀ c, deepWater.get c = real (-5) := Field.get_constant _
  have hphi : ∀ c, Scalar.isFinite (deepWater.get c) = true := by
    intro c
    rw [hget]
    rfl
  have hv : v.allFinite = true := Staggered.allFinite_zero _
  have hliquid : ∀ c, g.isFluid c = true ↔ g.isObstacle c = false ∧ deepWater.get c < 0 := by
    intro c
    have hflag : g.isFluid c = true ∧ g.isObstacle c = false := by
      revert c
      decide
    have hinside : deepWater.get c < 0 := by
      rw [hget, literal, Nat.cast_zero, real_lt_real]
      norm_num
    exact iff_of_true hflag.1 ⟨hflag.2, hinside⟩
  have hbounds : atMostThree.minPerCell ≤ atMostThree.maxPerCell := Nat.le_succ 1
  exact ⟨hd, ChaCha.fractional_generator, hphi, hv, hliquid, hbounds,
    adjust_adjust hd ChaCha.fractional_generator hphi hv hliquid hbounds strays r r'⟩

end Density

end FreeSurface

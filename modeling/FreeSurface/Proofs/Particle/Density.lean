import FreeSurface.Particle.Density
import FreeSurface.Proofs.Field.Nodes

/-!
# Particles after an adjustment

What holds of the particles that were found valid and of the ones that are added holds of all
particles after an adjustment (`Density.forall_adjust`).

One such property is where they are.  An adjustment leaves settled particles only
(`Density.settled_adjust`): the ones it adds are drawn until one is, or else put at the centre of
their cell.  The centre will do because only cells of liquid in the band are filled, and the level
set is sampled exactly there.

* `Density.Settled` — a place in an open cell, in the liquid and in the band.
* `Density.settled_place` — every place for a new particle is such a place.
-/

namespace FreeSurface

open Exact
open scoped Literals

namespace Density

variable {d : Dims}

/-! ## What all particles have in common -/

section Common

variable {S R : Type} [Scalar S] {s : DensitySettings S} {g : Flags d} {phi : ScalarField d S}

lemma isValid_iff {p : Particle S} : isValid s g phi p = true ↔
    p.isFinite = true ∧ (∃ c, d.cellAt? p.position = some c ∧ g.isObstacle c = false) ∧
      ScalarField.sample phi p.position ≤ 0 ∧
        inBand s (ScalarField.sample phi p.position) = true := by
  rw [isValid]
  cases p.isFinite <;> cases hcell : d.cellAt? p.position with
  | none => simp
  | some c => cases hsolid : g.isObstacle c <;> simp [hsolid]

omit [Scalar S] in
lemma mem_of_mem_without {ps : Particles S} {dropped : List (Fin ps.size)} {p : Particle S}
    (h : p ∈ without ps dropped) : p ∈ ps := by
  simp only [without, List.mem_toArray, List.mem_map] at h
  obtain ⟨i, -, rfl⟩ := h
  exact Array.getElem_mem i.isLt

variable [RandomSource R S] {P : Particle S → Prop}

/-- A new particle of a cell, by the source that its place is drawn from. -/
def newcomer (s : DensitySettings S) (phi : ScalarField d S) (v : Staggered d S) (c : d.Cell)
    (r : R) : Particle S :=
  let p := (place s phi c placementAttempts r).1
  ⟨p, Transfer.sampleVelocity v p s.kernel⟩

/-- An attempt takes the drawn point if it lies where it should. -/
lemma place_succ (s : DensitySettings S) (phi : ScalarField d S) (c : d.Cell) (attempts : ℕ)
    (r : R) : ∃ p r', place s phi c (attempts + 1) r =
      if (decide (ScalarField.sample phi p < 0) && inBand s (ScalarField.sample phi p) &&
        d.cellAt? p == some c) = true then (p, r') else place s phi c attempts r' :=
  ⟨_, _, rfl⟩

lemma forall_fill (v : Staggered d S) {c : d.Cell} (hnew : ∀ r : R, P (newcomer s phi v c r))
    (missing : ℕ) {progress : Particles S × R} (h : ∀ p ∈ progress.1, P p) :
    ∀ p ∈ (fill s phi v c missing progress).1, P p := by
  induction missing generalizing progress with
  | zero => exact h
  | succ missing ih =>
      rw [fill]
      refine ih fun p hp => ?_
      rcases Array.mem_push.mp hp with hold | rfl
      · exact h p hold
      · exact hnew progress.2

/-- **What holds of valid particles and of new ones in cells that lack some holds of all particles
after an adjustment.** -/
theorem forall_adjust {ps : Particles S} (v : Staggered d S) (r : R)
    (hvalid : ∀ p ∈ ps, isValid s g phi p = true → P p)
    (hnew : ∀ {n m : ℕ} {buckets : Buckets d n} {c : d.Cell},
      (c, m) ∈ deficits s g phi buckets → ∀ r : R, P (newcomer s phi v c r)) :
    ∀ p ∈ (adjust ps g phi v s r).particles, P p := by
  have hkept : ∀ dropped, ∀ p ∈ without (ps.filter (isValid s g phi)) dropped, P p := by
    intro dropped p hp
    obtain ⟨hp, hv⟩ := Array.mem_filter.mp (mem_of_mem_without hp)
    exact hvalid p hp hv
  simp only [adjust]
  split_ifs
  · exact hkept _
  · exact hkept _
  · exact List.foldlRecOn (motive := fun progress : Particles S × R => ∀ p ∈ progress.1, P p) _ _
      (hkept _) fun progress hprogress u hu => forall_fill v (hnew hu) u.2 hprogress

end Common

/-! ## Particles that are kept -/

/-- A place in an open cell, in the liquid and in the band. -/
structure Settled (s : DensitySettings Exact) (g : Flags d) (phi : ScalarField d Exact)
    (p : Vec3 Exact) : Prop where
  cell : ∃ c, d.cellAt? p = some c ∧ g.isObstacle c = false
  inside : ScalarField.sample phi p ≤ 0
  band : inBand s (ScalarField.sample phi p) = true

variable {s : DensitySettings Exact} {g : Flags d} {phi : ScalarField d Exact}

lemma settled_of_isValid {p : Particle Exact} (h : isValid s g phi p = true) :
    Settled s g phi p.position := by
  obtain ⟨-, hcell, hinside, hband⟩ := isValid_iff.mp h
  exact ⟨hcell, hinside, hband⟩

/-! ## Particles that are added -/

variable {R : Type} [RandomSource R Exact]

/-- A cell that particles are added to. -/
structure Fillable (s : DensitySettings Exact) (g : Flags d) (phi : ScalarField d Exact)
    (c : d.Cell) : Prop where
  isOpen : g.isObstacle c = false
  inside : phi.get c < 0
  band : inBand s (phi.get c) = true

lemma settled_center (hd : d.Addressable 0) (hphi : ∀ c, Scalar.isFinite (phi.get c) = true)
    {c : d.Cell} (hc : Fillable s g phi c) : Settled s g phi (d.center c) := by
  have hsample := ScalarField.sample_center hd hphi c
  refine ⟨⟨c, Dims.cellAt?_of_within hd (Dims.within_center c), hc.isOpen⟩, ?_, ?_⟩
  · rw [hsample]
    exact .inl hc.inside
  · rw [hsample]
    exact hc.band

/-- Every place for a new particle is settled: it was drawn and found so, or is the centre of the
cell. -/
lemma settled_place (hd : d.Addressable 0) (hphi : ∀ c, Scalar.isFinite (phi.get c) = true)
    {c : d.Cell} (hc : Fillable s g phi c) (attempts : ℕ) (r : R) :
    Settled s g phi (place s phi c attempts r).1 := by
  induction attempts generalizing r with
  | zero => exact settled_center hd hphi hc
  | succ attempts ih =>
      obtain ⟨p, r', hplace⟩ := place_succ s phi c attempts r
      rw [hplace]
      split_ifs with haccepted
      · simp only [Bool.and_eq_true, decide_eq_true_eq, beq_iff_eq] at haccepted
        obtain ⟨⟨hinside, hband⟩, hcell⟩ := haccepted
        exact ⟨⟨c, hcell, hc.isOpen⟩, .inl hinside, hband⟩
      · exact ih r'

/-! ## The adjustment -/

lemma fillable_of_mem_deficits {n m : ℕ} {buckets : Buckets d n} {c : d.Cell}
    (hliquid : ∀ c, g.isFluid c = true → g.isObstacle c = false ∧ phi.get c < 0)
    (h : (c, m) ∈ deficits s g phi buckets) : Fillable s g phi c := by
  simp only [deficits, List.mem_filterMap, Option.ite_none_right_eq_some, Option.some.injEq,
    Prod.mk.injEq, Bool.and_eq_true] at h
  obtain ⟨c, -, ⟨⟨⟨hfluid, hband⟩, -⟩, -⟩, rfl, -⟩ := h
  obtain ⟨hopen, hinside⟩ := hliquid c hfluid
  exact ⟨hopen, hinside, hband⟩

/-- **After an adjustment all particles are settled.** -/
theorem settled_adjust (hd : d.Addressable 0) (hphi : ∀ c, Scalar.isFinite (phi.get c) = true)
    (hliquid : ∀ c, g.isFluid c = true → g.isObstacle c = false ∧ phi.get c < 0)
    (ps : Particles Exact) (v : Staggered d Exact) (r : R) :
    ∀ p ∈ (adjust ps g phi v s r).particles, Settled s g phi p.position :=
  forall_adjust v r (fun _ _ => settled_of_isValid) fun hc =>
    settled_place hd hphi (fillable_of_mem_deficits hliquid hc) placementAttempts

end Density

end FreeSurface

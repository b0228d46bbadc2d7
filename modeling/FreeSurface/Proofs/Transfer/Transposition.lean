import FreeSurface.Proofs.Transfer.Tents
import FreeSurface.Proofs.Transfer.Windows

/-!
# Transposition

The transfer to faces and the sampling of faces go by the same weights, so weighing the faces with
a field is weighing the particles with the samples of the field (`Transfer.sum_gathered_mul`).  With
the field that is one everywhere this is conservation: among the faces the tents around a particle
add up to one (`Transfer.sum_weightAt_eq_one`).

* `Transfer.sampling_by_tents` — **interpolation is the transpose of the transfer by tents.**
* `Transfer.gather_conserves` — **the transfer by tents conserves mass and momentum.**
-/

namespace FreeSurface

open Exact Dims
open scoped Exact.Sums

variable {d : Dims}

namespace Transfer

/-! ## Weighing the faces -/

/-- Weight times mean is the sum of weight times value, also where nothing has weight. -/
lemma IsMean.total_mul_mean {ι : Type} [Fintype ι] {w u : ι → Exact} {mean total : Exact}
    {W U : ι → ℝ} (h : IsMean w u mean total) (hw : ∀ i, w i = real (W i)) (hW : ∀ i, 0 ≤ W i)
    (hu : ∀ i, u i = real (U i)) : total * mean = real (∑ i, W i * U i) := by
  obtain ⟨hmean, htotal⟩ := h.eq_of_sums (isMean_real hw hW hu) rfl rfl
  rw [hmean, htotal, real_mul_real]
  refine congrArg real ?_
  rcases (Finset.sum_nonneg fun i _ => hW i : (0 : ℝ) ≤ ∑ i, W i).eq_or_lt with hzero | hpos
  · have hnone := fun i => (Finset.sum_eq_zero_iff_of_nonneg fun i _ => hW i).mp hzero.symm i
      (Finset.mem_univ i)
    simp only [hnone, zero_mul, Finset.sum_const_zero]
  · exact mul_div_cancel₀ _ hpos.ne'

variable {ps : Particles Exact} {a : Axis}

/-- **To weigh the faces with some values is to weigh the particles** with what the values around
them add up to, each by its weight. -/
theorem sum_gathered_mul {kernel : Kernel} (hd : d.Addressable kernel.support)
    (hps : ∀ p ∈ ps, p.isFinite = true) (ha : a ∈ d.activeAxes) {u : d.Face a → Exact}
    (hu : ∀ f, Scalar.isFinite (u f) = true) :
    ∑ f, ((gather ps (Buckets.build d ps) kernel).weight.component a).get f *
        ((gather ps (Buckets.build d ps) kernel).velocity.component a).get f * u f =
      ∑ p, (Particles.get ps p).velocity.get a *
        ∑ f, weightAt kernel a f (Particles.get ps p).position * u f := by
  have hfinite : ∀ p ∈ ps, p.position.isFinite = true ∧ p.velocity.isFinite = true := fun p hp =>
    Bool.and_eq_true_iff.mp (hps p hp)
  have hmem : ∀ p, Particles.get ps p ∈ ps := fun p => Array.getElem_mem p.isLt
  choose W hW hw using fun f p => weightAt_of_isFinite kernel a f (hfinite _ (hmem p)).1
  choose V hV using fun p => isFinite_iff.mp (Vec3.isFinite_get (hfinite _ (hmem p)).2 a)
  choose U hU using fun f => isFinite_iff.mp (hu f)
  have hface : ∀ f, ((gather ps (Buckets.build d ps) kernel).weight.component a).get f *
      ((gather ps (Buckets.build d ps) kernel).velocity.component a).get f * u f =
        real (∑ p, V p * (W f p * U f)) := by
    intro f
    have hmean := isMean_gather hd (fun p hp => (hfinite p hp).1) ha
      (fun p hp => Vec3.isFinite_get (hfinite p hp).2 a) f
    rw [hmean.total_mul_mean (hw f) (hW f) hV, hU, real_mul_real, Finset.sum_mul]
    exact congrArg real (Finset.sum_congr rfl fun p _ => by ring)
  have hparticle : ∀ p, (Particles.get ps p).velocity.get a *
      ∑ f, weightAt kernel a f (Particles.get ps p).position * u f =
        real (∑ f, V p * (W f p * U f)) := by
    intro p
    simp only [hw, hU, hV, real_mul_real, Sums.sum_real, Finset.mul_sum]
  simp only [hface, hparticle, Sums.sum_real]
  exact congrArg real Finset.sum_comm

end Transfer

/-! ## Half a cell inside the domain -/

namespace Dims

/-- Along every axis of motion the position is at least half a cell inside the domain. -/
def Inset (d : Dims) (p : Vec3 Exact) : Prop :=
  ∀ b ∈ d.activeAxes, Scalar.half ≤ p.get b ∧ p.get b ≤ d.extent.get b - Scalar.half

/-- The last of the faces across an axis are at most half a cell from the end of the domain. -/
lemma extent_le_last_face (d : Dims) (a : Axis) :
    (d.width : ℝ) - 1 / 2 ≤ ((d.faces a).nx - 1 : ℕ) + shift a .x ∧
      (d.height : ℝ) - 1 / 2 ≤ ((d.faces a).ny - 1 : ℕ) + shift a .y ∧
      (d.depth : ℝ) - 1 / 2 ≤ ((d.faces a).nz - 1 : ℕ) + shift a .z := by
  have hwidth := Nat.cast_pred (R := ℝ) d.width_pos
  have hheight := Nat.cast_pred (R := ℝ) d.height_pos
  have hdepth := Nat.cast_pred (R := ℝ) d.depth_pos
  cases a <;>
    simp only [faces, shift_eq, Nat.add_sub_cancel, reduceCtorEq, if_true, if_false] <;>
    refine ⟨?_, ?_, ?_⟩ <;> linarith

/-- Half a cell inside the domain a position is among the faces across every axis. -/
lemma Inset.spans {p : Vec3 Exact} (h : d.Inset p) (hp : p.isFinite = true) (a : Axis) :
    d.Spans (d.facePosition a) p := by
  obtain ⟨x, y, z, rfl⟩ := Vec3.isFinite_iff.mp hp
  have hlo := shift_le_half a
  obtain ⟨hx, hy, hz⟩ := d.extent_le_last_face a
  intro b hb
  have hb := h b hb
  refine ⟨(d.faces a).nodeOf ⟨0, Lattice.nx_pos _⟩ ⟨0, Lattice.ny_pos _⟩ ⟨0, Lattice.nz_pos _⟩,
    (d.faces a).nodeOf ⟨(d.faces a).nx - 1, Nat.sub_one_lt_of_lt (Lattice.nx_pos _)⟩
      ⟨(d.faces a).ny - 1, Nat.sub_one_lt_of_lt (Lattice.ny_pos _)⟩
      ⟨(d.faces a).nz - 1, Nat.sub_one_lt_of_lt (Lattice.nz_pos _)⟩, ?_⟩
  simp only [facePosition, facePositionAt_eq, Lattice.coords_nodeOf]
  cases b <;>
    simp only [Vec3.get, extent, half_eq, scalar_ofNat, real_sub_real, real_le_real, Nat.cast_zero,
      zero_add] at hb ⊢
  · exact ⟨(hlo .x).trans hb.1, hb.2.trans hx⟩
  · exact ⟨(hlo .y).trans hb.1, hb.2.trans hy⟩
  · exact ⟨(hlo .z).trans hb.1, hb.2.trans hz⟩

end Dims

namespace Transfer

variable {ps : Particles Exact} {a : Axis}

/-! ## The same weights both ways -/

/-- A velocity that grows along the first axis. -/
noncomputable def ramp : Staggered (planar 1 0) Exact :=
  Staggered.ofComponents fun a =>
    Field.tabulate fun f => real (((planar 1 0).faces a).coords f.val).i

/-- A level that grows along the first axis. -/
noncomputable def rampLevel : ScalarField (planar 1 0) Exact :=
  Field.tabulate fun c => real ((planar 1 0).cells.coords c.val).i

/-- Two particles in the two cells, one of them on the face between. -/
noncomputable def pair : Particles Exact :=
  #[⟨⟨real 1, Scalar.half, Scalar.half⟩, ⟨real 1, real 0, real 0⟩⟩,
    ⟨⟨Scalar.half, Scalar.half, Scalar.half⟩, ⟨real 1, real (-1), real 0⟩⟩]

lemma isFinite_pair : ∀ p ∈ pair, p.isFinite = true := by
  simp only [pair, List.mem_toArray, List.forall_mem_cons, List.not_mem_nil, false_implies,
    implies_true, and_true, half_eq]
  exact ⟨rfl, rfl⟩

lemma inset_pair : ∀ p ∈ pair, (planar 1 0).Inset p.position := by
  simp only [pair, List.mem_toArray, List.forall_mem_cons, List.not_mem_nil, false_implies,
    implies_true, and_true, Inset, activeAxes, isPlanar, planar, beq_self_eq_true, if_true,
    Vec3.get, extent, half_eq, scalar_ofNat, real_sub_real, real_le_real]
  norm_num

lemma spans_pair (a : Axis) : ∀ p ∈ pair,
    p.isFinite = true ∧ (planar 1 0).Spans ((planar 1 0).facePosition a) p.position := by
  intro p hp
  have hfinite := isFinite_pair p hp
  exact ⟨hfinite, (inset_pair p hp).spans (Bool.and_eq_true_iff.mp hfinite).1 a⟩

lemma addressable_pair : (planar 1 0).Addressable Kernel.dLinear.support :=
  ⟨by decide, by decide, by decide⟩

/-- **Particles and faces weigh each other by the same tents.**  Among the nodes of a component, or
the centres of cells, interpolation adds up all values, each weighted by the tents around its node,
and affine fields are sampled exactly.  So the faces that are gathered, weighed with a component,
are the particles, weighed with the component at their positions. -/
theorem sampling_by_tents (hd : d.Indexable) (ha : a ∈ d.activeAxes) {v : Staggered d Exact}
    (hv : ∀ f, Scalar.isFinite ((v.component a).get f) = true) {u : ScalarField d Exact}
    (hu : ∀ c, Scalar.isFinite (u.get c) = true) :
    SamplesByTents d (d.facePosition a) (v.component a) (v.sampleComponent a) ∧
      SamplesByTents d d.center u (ScalarField.sample u) ∧
      (d.Addressable Kernel.dLinear.support → ∀ ps : Particles Exact,
        (∀ p ∈ ps, p.isFinite = true ∧ d.Spans (d.facePosition a) p.position) →
          ∑ f, ((gather ps (Buckets.build d ps) .dLinear).weight.component a).get f *
              ((gather ps (Buckets.build d ps) .dLinear).velocity.component a).get f *
              (v.component a).get f =
            ∑ p, (Particles.get ps p).velocity.get a *
              v.sampleComponent a (Particles.get ps p).position) := by
  have hfaces : SamplesByTents d (d.facePosition a) (v.component a) (v.sampleComponent a) :=
    Field.samplesByTents (hd.faces a) (fun hplanar => nz_faces_of_isPlanar hplanar ha) hv
      (isFinite_faceOffset a)
  have hcells : SamplesByTents d d.center u (ScalarField.sample u) :=
    Field.samplesByTents hd.cells beq_iff_eq.mp hu Vec3.isFinite_splat_half
  refine ⟨hfaces, hcells, fun hd ps hps => ?_⟩
  rw [sum_gathered_mul hd (fun p hp => (hps p hp).1) ha hv]
  refine Finset.sum_congr rfl fun p _ => ?_
  obtain ⟨hp, hspan⟩ := hps _ (Array.getElem_mem p.isLt)
  exact congrArg (_ * ·)
    (hfaces.eq_sum _ (Bool.and_eq_true_iff.mp hp).1 hspan).symm

/-- The pair, gathered and weighed with a ramp, and the ramp sampled at the pair. -/
theorem sampling_by_tents_pair :
    SamplesByTents (planar 1 0) ((planar 1 0).facePosition .x) (ramp.component .x)
        (ramp.sampleComponent .x) ∧
      SamplesByTents (planar 1 0) (planar 1 0).center rampLevel (ScalarField.sample rampLevel) ∧
      (∀ p ∈ pair, p.isFinite = true ∧
        (planar 1 0).Spans ((planar 1 0).facePosition .x) p.position) ∧
      ∑ f, ((gather pair (Buckets.build (planar 1 0) pair) .dLinear).weight.component .x).get f *
          ((gather pair (Buckets.build (planar 1 0) pair) .dLinear).velocity.component .x).get f *
          (ramp.component .x).get f =
        ∑ p, (Particles.get pair p).velocity.get .x *
          ramp.sampleComponent .x (Particles.get pair p).position := by
  have hramp : ∀ f, Scalar.isFinite ((ramp.component .x).get f) = true := by
    intro f
    rw [ramp, Staggered.component, Staggered.ofComponents, Field.get_tabulate, isFinite_real]
  have hlevel : ∀ c, Scalar.isFinite (rampLevel.get c) = true := by
    intro c
    rw [rampLevel, Field.get_tabulate, isFinite_real]
  obtain ⟨hfaces, hcells, hgather⟩ := sampling_by_tents (d := planar 1 0) (a := .x)
    addressable_pair.indexable (mem_activeAxes.mpr rfl) hramp hlevel
  exact ⟨hfaces, hcells, spans_pair .x, hgather addressable_pair pair (spans_pair .x)⟩

/-! ## Conservation -/

/-- Among the faces the tents around a position add up to one. -/
lemma sum_weightAt_eq_one (hd : d.Indexable) (ha : a ∈ d.activeAxes) {p : Vec3 Exact}
    (hp : p.isFinite = true) (hspan : d.Spans (d.facePosition a) p) :
    ∑ f : d.Face a, weightAt .dLinear a f p = real 1 := by
  set one := Field.constant (d.faces a) (real 1)
  have hget : ∀ f, one.get f = real 1 := Field.get_constant (real 1)
  have haffine : ∀ q, d.affine 1 0 q = real 1 := by
    intro q
    simp [Dims.affine]
  have hsamples := Field.samplesByTents (hd.faces a)
    (fun hplanar => nz_faces_of_isPlanar hplanar ha) (fun f => by rw [hget f, isFinite_real])
    (isFinite_faceOffset a)
  calc ∑ f : d.Face a, weightAt .dLinear a f p
      = ∑ f, weightAt .dLinear a f p * one.get f := by simp only [hget, mul_real_one]
    _ = Field.interpolate one (p - faceOffset a) := (hsamples.eq_sum p hp hspan).symm
    _ = d.affine 1 0 p :=
        hsamples.eq_affine 1 0 (fun f => (hget f).trans (haffine _).symm) p hp hspan
    _ = real 1 := haffine p

/-- **The transfer by tents conserves mass and momentum.**  Of particles that are at least half a
cell inside the domain, the weights of all faces across an axis add up to their number, and the
weighted velocities to their velocities along the axis. -/
theorem gather_conserves (hd : d.Addressable Kernel.dLinear.support)
    (hps : ∀ p ∈ ps, p.isFinite = true) (hinset : ∀ p ∈ ps, d.Inset p.position)
    (ha : a ∈ d.activeAxes) :
    ∑ f, ((gather ps (Buckets.build d ps) .dLinear).weight.component a).get f = real ps.size ∧
      ∑ f, ((gather ps (Buckets.build d ps) .dLinear).weight.component a).get f *
          ((gather ps (Buckets.build d ps) .dLinear).velocity.component a).get f =
        ∑ p, (Particles.get ps p).velocity.get a := by
  have hfinite : ∀ p ∈ ps, p.position.isFinite = true ∧ p.velocity.isFinite = true := fun p hp =>
    Bool.and_eq_true_iff.mp (hps p hp)
  have hone : ∀ p,
      ∑ f : d.Face a, weightAt .dLinear a f (Particles.get ps p).position = real 1 := by
    intro p
    have hp : Particles.get ps p ∈ ps := Array.getElem_mem p.isLt
    exact sum_weightAt_eq_one hd.indexable ha (hfinite _ hp).1
      ((hinset _ hp).spans (hfinite _ hp).1 a)
  have hweight := fun f => (isMean_gather hd (fun p hp => (hfinite p hp).1) ha
    (fun p hp => Vec3.isFinite_get (hfinite p hp).2 a) f).total_eq
  constructor
  · simp only [hweight]
    rw [Finset.sum_comm]
    simp only [hone]
    rw [Sums.sum_real, Finset.sum_const, Finset.card_univ, Fintype.card_fin, nsmul_one]
  · have hsum := sum_gathered_mul hd hps ha (u := fun _ => real 1) fun _ => rfl
    simpa only [mul_real_one, hone] using hsum

/-- The pair has two particles, and together the velocity two along the first axis. -/
theorem gather_conserves_pair :
    (∀ p ∈ pair, p.isFinite = true) ∧ (∀ p ∈ pair, (planar 1 0).Inset p.position) ∧
      ∑ f, ((gather pair (Buckets.build (planar 1 0) pair) .dLinear).weight.component .x).get f =
        real 2 ∧
      ∑ f, ((gather pair (Buckets.build (planar 1 0) pair) .dLinear).weight.component .x).get f *
          ((gather pair (Buckets.build (planar 1 0) pair) .dLinear).velocity.component .x).get f =
        real 2 := by
  obtain ⟨hmass, hmomentum⟩ := gather_conserves (a := .x) addressable_pair isFinite_pair inset_pair
    (mem_activeAxes.mpr rfl)
  refine ⟨isFinite_pair, inset_pair, hmass.trans ?_, hmomentum.trans ?_⟩
  · exact congrArg real Nat.cast_ofNat
  · rw [sum_particles pair fun p => p.velocity.get .x]
    show real (1 + (1 + 0)) = real 2
    norm_num

end Transfer

end FreeSurface

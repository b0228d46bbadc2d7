import FreeSurface.Proofs.Field.Corners
import FreeSurface.Velocity.Advection

/-!
# Advection makes no new extremes

In exact arithmetic a field that is carried along takes no values but those between the values at
the corners around the point of departure, at second order as at first: a correction that would
leave their range is dropped.

* `Advection.liesAmong_limited` — what the limiter lets through.
* `Advection.liesAmong_scalar`, `Advection.liesAmong_velocity` — cells and faces.
-/

namespace FreeSurface

open Exact FreeSurface.Field
open scoped Literals

variable {d : Dims} {v : Staggered d Exact} {p : Vec3 Exact} {dt : Exact}

/-- A finite velocity field has a finite velocity everywhere. -/
lemma Staggered.isFinite_sample (hv : v.allFinite = true) (hp : p.isFinite = true) :
    (v.sample p).isFinite = true := by
  have hcomponent : ∀ a, Scalar.isFinite (v.sampleComponent a p) = true := fun a =>
    in_univ.mp (sampleComponent_mem convex_univ
      (fun f => in_univ.mpr (isFinite_component hv a f)) hp)
  simp only [sample, activeVector, Vec3.isFinite, Bool.and_eq_true]
  refine ⟨⟨hcomponent .x, hcomponent .y⟩, ?_⟩
  split_ifs
  · rfl
  · exact hcomponent .z

namespace Advection

lemma isFinite_departure (hv : v.allFinite = true) (hp : p.isFinite = true)
    (hdt : Scalar.isFinite dt = true) : (departure v p dt).isFinite = true :=
  Vec3.isFinite_sub hp (Vec3.isFinite_scale (Staggered.isFinite_sample hv hp) hdt)

/-- A trajectory ends at a finite point. -/
lemma isFinite_trajectoryEnd (hv : v.allFinite = true) (hp : p.isFinite = true)
    (hdt : Scalar.isFinite dt = true) : (trajectoryEnd v p dt).isFinite = true := by
  obtain ⟨t, rfl⟩ := Exact.isFinite_iff.mp hdt
  have hhalf : Scalar.isFinite (Scalar.half * real t : Exact) = true := by
    rw [half_eq]
    rfl
  have hsixth : Scalar.isFinite (real t / 6 : Exact) = true := by
    rw [literal, real_div_real (by norm_num)]
    rfl
  have hstage : ∀ {k : Vec3 Exact} {s : Exact}, k.isFinite = true → Scalar.isFinite s = true →
      (v.sample (p + k * s)).isFinite = true := fun hk hs =>
    Staggered.isFinite_sample hv (Vec3.isFinite_add hp (Vec3.isFinite_scale hk hs))
  have hk₁ := Staggered.isFinite_sample hv hp
  have hk₂ := hstage hk₁ hhalf
  have hk₃ := hstage hk₂ hhalf
  have hk₄ := hstage hk₃ (isFinite_real t)
  rw [trajectoryEnd]
  refine Vec3.isFinite_add hp (Vec3.isFinite_scale ?_ hsixth)
  exact Vec3.isFinite_add (Vec3.isFinite_add (Vec3.isFinite_add hk₁ (Vec3.isFinite_scale hk₂ rfl))
    (Vec3.isFinite_scale hk₃ rfl)) hk₄

/-! ## The limiter -/

/-- **What the limiter lets through lies among the values that bound it**, if the uncorrected value
does. -/
lemma liesAmong_limited {L : Lattice} (hL : L.Indexable) {field : Field L Exact}
    (hfield : ∀ n, Scalar.isFinite (field.get n) = true) (hp : p.isFinite = true)
    {forward source backward : Exact} (hforward : LiesAmong field p forward)
    (hsource : Scalar.isFinite source = true) (hbackward : Scalar.isFinite backward = true) :
    LiesAmong field p (limited forward source backward (boundsAt field p)) := by
  obtain ⟨m, n, hm, hn, hbounds⟩ := exists_boundsAt_eq hL hfield hp
  rw [limited, hbounds]
  simp only [Bool.or_eq_true, decide_eq_true_eq]
  split_ifs with hout
  · exact hforward
  · rw [not_or] at hout
    have hcorrected :
        Scalar.isFinite (forward + Scalar.half * (source - backward)) = true := by
      rw [isFinite_add, isFinite_mul, isFinite_sub, half_eq]
      exact ⟨hforward.isFinite hfield, rfl, hsource, hbackward⟩
    have hnumber := Scalar.Linear.isNaN_of_isFinite hcorrected
    exact ⟨m, n, hm, hn, le_of_not_lt (Scalar.Linear.isNaN_of_isFinite (hfield m)) hnumber hout.1,
      le_of_not_lt hnumber (Scalar.Linear.isNaN_of_isFinite (hfield n)) hout.2⟩

/-! ## Cells -/

section Cells

variable {g : Flags d} {field : ScalarField d Exact} {c : d.Cell}

lemma get_scalar_of_obstacle (hc : g.isObstacle c = true) (order : ℕ) :
    (scalar g v field dt order).get c = field.get c := by
  rw [scalar]
  split_ifs
  · rw [carryScalar, Field.get_update, if_pos hc]
  · rw [Field.get_update, if_pos hc]

variable (hd : d.Indexable) (hv : v.allFinite = true) (hdt : Scalar.isFinite dt = true)
  (hfield : ∀ c, Scalar.isFinite (field.get c) = true)
include hd hv hdt hfield

/-- Going back along the flow. -/
lemma liesAmong_carryScalar (hc : g.isObstacle c = false) :
    LiesAmong field (departure v (d.center c) dt - Vec3.splat Scalar.half)
      ((carryScalar g v field dt).get c) := by
  rw [carryScalar, Field.get_update, hc, if_neg Bool.false_ne_true]
  exact liesAmong_interpolate hd.cells hfield
    (Vec3.isFinite_sub (isFinite_departure hv (d.isFinite_center c) hdt) Vec3.isFinite_splat_half)

lemma isFinite_carryScalar (c : d.Cell) :
    Scalar.isFinite ((carryScalar g v field dt).get c) = true := by
  cases hc : g.isObstacle c with
  | true =>
      rw [carryScalar, Field.get_update, if_pos hc]
      exact hfield c
  | false => exact (liesAmong_carryScalar hd hv hdt hfield hc).isFinite hfield

/-- **A cell takes a value among those around its point of departure.** -/
theorem liesAmong_scalar (hc : g.isObstacle c = false) (order : ℕ) :
    LiesAmong field (departure v (d.center c) dt - Vec3.splat Scalar.half)
      ((scalar g v field dt order).get c) := by
  have hforward := liesAmong_carryScalar hd hv hdt hfield hc
  rw [scalar]
  split_ifs
  · exact hforward
  · rw [Field.get_update, hc, if_neg Bool.false_ne_true]
    refine liesAmong_limited hd.cells hfield ?_ hforward (hfield c) ?_
    · exact Vec3.isFinite_sub (isFinite_departure hv (d.isFinite_center c) hdt)
        Vec3.isFinite_splat_half
    · exact isFinite_carryScalar hd hv (isFinite_neg.trans hdt)
        (isFinite_carryScalar hd hv hdt hfield) c

end Cells

/-! ## Faces -/

section Faces

variable {a : Axis}

lemma component_velocity_of_not_active (ha : d.isActive a = false) (order : ℕ) :
    (velocity v dt order).component a = v.component a := by
  rw [velocity]
  split_ifs
  · rw [carryVelocity, Staggered.component_updateActive, ha, if_neg Bool.false_ne_true]
  · rw [Staggered.component_updateActive, ha, if_neg Bool.false_ne_true]

variable (hd : d.Indexable) {carrier : Staggered d Exact} (hcarrier : carrier.allFinite = true)
  (hv : v.allFinite = true) (hdt : Scalar.isFinite dt = true)
include hd hcarrier hv hdt

lemma liesAmong_carryVelocity (ha : d.isActive a = true) (f : d.Face a) :
    LiesAmong (v.component a) (departure carrier (d.facePosition a f) dt - Dims.faceOffset a)
      (((carryVelocity carrier v dt).component a).get f) := by
  rw [carryVelocity, Staggered.component_updateActive, if_pos ha, Field.get_tabulate]
  exact liesAmong_interpolate (hd.faces a) (Staggered.isFinite_component hv a)
    (Vec3.isFinite_sub (isFinite_departure hcarrier (d.isFinite_facePosition a f) hdt)
      (Dims.isFinite_faceOffset a))

lemma allFinite_carryVelocity : (carryVelocity carrier v dt).allFinite = true := by
  refine Staggered.allFinite_of_component fun a f => ?_
  cases ha : d.isActive a with
  | true =>
      exact (liesAmong_carryVelocity hd hcarrier hv hdt ha f).isFinite
        (Staggered.isFinite_component hv a)
  | false =>
      rw [carryVelocity, Staggered.component_updateActive, ha, if_neg Bool.false_ne_true]
      exact Staggered.isFinite_component hv a f

omit hcarrier in
/-- **A face takes a value among those around its point of departure.** -/
theorem liesAmong_velocity (ha : d.isActive a = true) (f : d.Face a) (order : ℕ) :
    LiesAmong (v.component a) (departure v (d.facePosition a f) dt - Dims.faceOffset a)
      (((velocity v dt order).component a).get f) := by
  have hforward := liesAmong_carryVelocity hd hv hv hdt ha f
  rw [velocity]
  split_ifs
  · exact hforward
  · rw [Staggered.component_updateActive, if_pos ha, Field.get_update]
    refine liesAmong_limited (hd.faces a) (Staggered.isFinite_component hv a) ?_ hforward
      (Staggered.isFinite_component hv a f) ?_
    · exact Vec3.isFinite_sub (isFinite_departure hv (d.isFinite_facePosition a f) hdt)
        (Dims.isFinite_faceOffset a)
    · exact Staggered.isFinite_component (allFinite_carryVelocity hd hv
        (allFinite_carryVelocity hd hv hv hdt) (isFinite_neg.trans hdt)) a f

omit hcarrier in
lemma allFinite_velocity (order : ℕ) : (velocity v dt order).allFinite = true := by
  refine Staggered.allFinite_of_component fun a f => ?_
  have hfinite := Staggered.isFinite_component hv a
  cases ha : d.isActive a with
  | true => exact (liesAmong_velocity hd hv hdt ha f order).isFinite hfinite
  | false =>
      rw [component_velocity_of_not_active ha]
      exact hfinite f

end Faces

/-! ## Particles -/

/-- Finite particles stay finite. -/
lemma allFinite_particles {ps : Particles Exact} (h : Particles.allFinite ps = true) (g : Flags d)
    (hv : v.allFinite = true) (hdt : Scalar.isFinite dt = true) :
    Particles.allFinite (particles ps g v dt) = true := by
  rw [Particles.allFinite, Array.all_eq_true_iff_forall_mem] at h ⊢
  intro p hp
  obtain ⟨q, hq, rfl⟩ := Array.mem_map.mp hp
  have hq := h q hq
  have hinset : Scalar.isFinite (Scalar.ofNat g.wallLayers + wallMargin : Exact) = true := by
    rw [wallMargin, scalar_ofDecimal]
    rfl
  rw [Particle.isFinite, Bool.and_eq_true] at hq ⊢
  exact ⟨d.isFinite_clampPosition (isFinite_trajectoryEnd hv hq.1 hdt) hinset, hq.2⟩

/-- **Advection makes no new extremes**, whatever the flow, the time and the order: solid cells keep
their values, and so does the component along which nothing moves; every other cell and face takes
a value between the least and the greatest at the corners around its point of departure. -/
theorem makes_no_extremes (hd : d.Indexable) (hv : v.allFinite = true) (t : ℝ) (order : ℕ) :
    (∀ (g : Flags d) (field : ScalarField d Exact),
      (∀ c, Scalar.isFinite (field.get c) = true) → ∀ c,
        if g.isObstacle c then (scalar g v field (real t) order).get c = field.get c
        else LiesAmong field (departure v (d.center c) (real t) - Vec3.splat Scalar.half)
          ((scalar g v field (real t) order).get c)) ∧
      ∀ a, if d.isActive a then
          ∀ f, LiesAmong (v.component a)
            (departure v (d.facePosition a f) (real t) - Dims.faceOffset a)
            (((velocity v (real t) order).component a).get f)
        else (velocity v (real t) order).component a = v.component a := by
  refine ⟨fun g field hfield c => ?_, fun a => ?_⟩
  · split_ifs with hc
    · exact get_scalar_of_obstacle hc order
    · exact liesAmong_scalar hd hv rfl hfield (Bool.eq_false_of_not_eq_true hc) order
  · split_ifs with ha
    · exact fun f => liesAmong_velocity hd hv rfl ha f order
    · exact component_velocity_of_not_active (Bool.eq_false_of_not_eq_true ha) order

/-- A ramp of three cells, carried for half a unit of time along a flow of unit speed. -/
theorem makes_no_extremes_ramp :
    let d : Dims := .planar 2 0
    let flow : Staggered d Exact := Staggered.constant d (real 1)
    let ramp : ScalarField d Exact := Field.tabulate fun c => real (c.val : ℝ)
    let c : d.Cell := ⟨1, by decide⟩
    d.Indexable ∧ flow.allFinite = true ∧ (∀ c, Scalar.isFinite (ramp.get c) = true) ∧
      ∃ r, 0 ≤ r ∧ r ≤ 1 ∧ (scalar (Flags.empty d) flow ramp (real (1 / 2)) 2).get c = real r := by
  intro d flow ramp c
  have hd : d.Indexable := ⟨by decide, by decide, by decide⟩
  have hflow : ∀ a f, (flow.component a).get f = real 1 := by
    intro a f
    cases a <;> exact Field.get_constant _ _
  have hfinite : flow.allFinite = true := Staggered.allFinite_of_component fun a f => by
    rw [hflow]
    rfl
  have hramp : ∀ c, ramp.get c = real (c.val : ℝ) := Field.get_tabulate _
  have hfield : ∀ c, Scalar.isFinite (ramp.get c) = true := fun c => by
    rw [hramp]
    rfl
  have hlies := (makes_no_extremes hd hfinite (1 / 2) 2).1 (Flags.empty d) ramp hfield c
  rw [if_neg (by decide)] at hlies
  have hspeed : flow.sampleComponent .x (d.center c) = real 1 :=
    in_singleton.mp (Staggered.sampleComponent_mem (convex_singleton 1)
      (fun f => in_singleton.mpr (hflow .x f)) (d.isFinite_center c))
  -- Half a cell upstream of its centre, the cell is half-way between the first two nodes.
  have hx : (departure flow (d.center c) (real (1 / 2)) - Vec3.splat Scalar.half).get .x =
      real (1 / 2) := by
    have hcenter : (d.center c : Vec3 Exact).x = Scalar.ofNat 1 + Scalar.half := rfl
    show (d.center c).x - flow.sampleComponent .x (d.center c) * real (1 / 2) - Scalar.half = _
    rw [hspeed, hcenter, half_eq, scalar_ofNat, real_add_real, real_mul_real, real_sub_real,
      real_sub_real]
    norm_num
  have hcorner : ∀ n, IsCorner d.cells
      (departure flow (d.center c) (real (1 / 2)) - Vec3.splat Scalar.half) n → n.val ≤ 1 := by
    intro n hn
    have hcoords : ∀ n : d.cells.Node, (d.cells.coords n.val).get .x = n.val := by decide
    have hle := (hn .x).le
    rw [hx, toReal_real, Nat.floor_eq_zero.mpr (by norm_num), hcoords] at hle
    exact hle
  obtain ⟨m, n, hmc, hnc, hm, hn⟩ := hlies
  rw [hramp] at hm hn
  obtain ⟨r, hr⟩ := isFinite_iff.mp
    (LiesAmong.isFinite hfield ⟨m, n, hmc, hnc, (hramp m).symm ▸ hm, (hramp n).symm ▸ hn⟩)
  rw [hr, real_le_real] at hm hn
  have hone : (n.val : ℝ) ≤ 1 := by exact_mod_cast hcorner n hnc
  exact ⟨hd, hfinite, hfield, r, (Nat.cast_nonneg _).trans hm, hn.trans hone, hr⟩

end Advection

end FreeSurface

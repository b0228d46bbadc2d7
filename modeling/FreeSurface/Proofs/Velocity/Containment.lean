import FreeSurface.Proofs.Lattice.Positions
import FreeSurface.Proofs.Lattice.Steps
import FreeSurface.Proofs.Number.Bounds
import FreeSurface.Proofs.Projection.Divergence
import FreeSurface.Proofs.Velocity.Advection

/-!
# Particles stay inside the walls

Walls are told by whole coordinates of cells, while a particle is brought back to a range of real
positions.  The two fit: as soon as the walls leave a cell between them, the range lies within the
cells that are left (`Dims.exists_cell_along`), whichever border a particle has left by.  A position
that keeps its distance from the walls is not moved.

* `Dims.le_insetRange` — the ends of the range to which a position is moved are in order, on machine
  numbers too, whatever distance is to be kept.
* `Advection.contained_particles` — **every particle ends up in a cell that is not in the walls.**
-/

namespace FreeSurface

open Exact
open scoped Literals

variable {d : Dims} {w n : ℕ} {r x : ℝ}

/-! ## The range -/

namespace Dims

/-- **The ends of the range are in order**, whatever is to be kept from the borders: even a negative
distance, one that is longer than the side, or one that is no number. -/
lemma le_insetRange (n : ℕ) (inset : Float32) :
    (insetRange (Scalar.ofNat n) inset).1 ≤ (insetRange (Scalar.ofNat n) inset).2 :=
  Scalar.le_max_right (Scalar.isNaN_min (Single.isNaN_half_mul_ofNat n))

/-- What a position is moved to along an axis, where both distances fit. -/
lemma clamp_insetRange (h : 2 * r ≤ n) (x : ℝ) :
    Scalar.clamp (real x) (insetRange (Scalar.ofNat n) (real r)).1
      (insetRange (Scalar.ofNat n) (real r)).2 = real (min (max x r) (n - r)) := by
  have hlo : min r (1 / 2 * n) = r := min_eq_left (by linarith)
  have hhi : max (n - r) r = n - r := max_eq_left (by linarith)
  simp only [insetRange, half_eq, scalar_ofNat, real_mul_real, real_sub_real, min_real, max_real,
    hlo, hhi]
  exact clamp_real (by linarith)

/-! ## One axis -/

/-- The distance at which particles are kept from the border of the domain: outside the walls. -/
noncomputable def keptInset (w : ℕ) : ℝ := (w + 1 : ℕ) + 1 / (10 ^ 3 : ℕ)

lemma ofNat_add_wallMargin (w : ℕ) :
    (Scalar.ofNat (w + 1) + Advection.wallMargin : Exact) = real (keptInset w) := by
  rw [Advection.wallMargin, scalar_ofNat, scalar_ofDecimal, real_add_real, keptInset, Nat.cast_one,
    Nat.cast_pow, Nat.cast_ofNat]

/-- Walls that leave a cell between them leave room for both distances. -/
lemma two_mul_keptInset_le (h : 2 * (w + 1) < n) : 2 * keptInset w ≤ n := by
  have hcast : (2 * (w + 1 : ℕ) + 1 : ℝ) ≤ n := by exact_mod_cast h
  rw [keptInset]
  linarith

/-- A position within the range lies in a cell between the walls. -/
lemma exists_cell_along (hlo : keptInset w ≤ x) (hhi : x ≤ n - keptInset w) :
    ∃ i < n, ((i : ℝ) ≤ x ∧ x < i + 1) ∧ Flags.inWall w n i = false := by
  have hmargin : (0 : ℝ) < 1 / 10 ^ 3 := by positivity
  rw [keptInset] at hlo hhi
  have hpos : 0 ≤ x := by
    have : (0 : ℝ) ≤ (w + 1 : ℕ) := Nat.cast_nonneg _
    linarith
  have hfloor := Nat.floor_le hpos
  have hlower : w + 1 ≤ ⌊x⌋₊ := Nat.le_floor (by linarith)
  have hupper : ⌊x⌋₊ + (w + 1) < n := by
    have hlt : ((⌊x⌋₊ + (w + 1) : ℕ) : ℝ) < n := by
      push_cast at hhi ⊢
      linarith
    exact_mod_cast hlt
  refine ⟨⌊x⌋₊, by omega, ⟨hfloor, Nat.lt_floor_add_one x⟩, ?_⟩
  simp only [Flags.inWall, Bool.or_eq_false_iff, decide_eq_false_iff_not]
  omega

lemma clamped_mem (h : 2 * keptInset w ≤ n) (x : ℝ) :
    keptInset w ≤ min (max x (keptInset w)) (n - keptInset w) ∧
      min (max x (keptInset w)) (n - keptInset w) ≤ n - keptInset w :=
  ⟨le_min (le_max_right _ _) (by linarith), min_le_right _ _⟩

/-! ## Positions -/

/-- The position keeps the walls' margin along every axis of motion. -/
def Kept (d : Dims) (w : ℕ) (p : Vec3 Exact) : Prop :=
  ∀ a ∈ d.activeAxes, real (keptInset w) ≤ p.get a ∧
    p.get a ≤ real (d.cells.side a - keptInset w)

/-- A position in a planar domain is moved to the middle of the only layer. -/
def inPlane {S : Type} [Scalar S] (d : Dims) (p : Vec3 S) : Vec3 S :=
  if d.isPlanar then ⟨p.x, p.y, Scalar.half⟩ else p

/-- Walls of the given boundary width leave a cell between them along every axis of motion. -/
def HasRoom (d : Dims) (w : ℕ) : Prop := ∀ a ∈ d.activeAxes, 2 * (w + 1) < d.cells.side a

instance (d : Dims) (w : ℕ) : Decidable (d.HasRoom w) :=
  inferInstanceAs (Decidable (∀ a ∈ d.activeAxes, _))

lemma HasRoom.two_mul_keptInset_le (h : d.HasRoom w) {a : Axis} (ha : d.isActive a = true) :
    2 * keptInset w ≤ d.cells.side a :=
  Dims.two_mul_keptInset_le (h a (mem_activeAxes.mpr ha))

lemma exists_coords {c : Coords} (h : d.cells.Contains c) :
    ∃ n : d.Cell, d.cells.coords n.val = c := ⟨d.cells.node c h, d.cells.coords_node h⟩

/-- **Between the walls there is a cell for every position that is brought back.** -/
lemma HasRoom.exists_cell (h : d.HasRoom w) {p : Vec3 Exact} (hp : p.isFinite = true) :
    ∃ c : d.Cell, Flags.isWall d w (d.cells.coords c.val) = false ∧
      Within (d.cells.coords c.val) (d.clampPosition p (real (keptInset w))) := by
  obtain ⟨x, y, z, rfl⟩ := Vec3.isFinite_iff.mp hp
  have halong : ∀ {a : Axis} (t : ℝ), d.isActive a = true →
      ∃ i < d.cells.side a, ∃ t', Scalar.clamp (real t)
        (insetRange (Scalar.ofNat (d.cells.side a)) (real (keptInset w))).1
        (insetRange (Scalar.ofNat (d.cells.side a)) (real (keptInset w))).2 = real t' ∧
          ((i : ℝ) ≤ t' ∧ t' < i + 1) ∧ Flags.inWall w (d.cells.side a) i = false := by
    intro a t ha
    have hroom := h.two_mul_keptInset_le ha
    obtain ⟨hlo, hhi⟩ := clamped_mem hroom t
    obtain ⟨i, hi, hwithin, hwall⟩ := exists_cell_along hlo hhi
    exact ⟨i, hi, _, clamp_insetRange hroom t, hwithin, hwall⟩
  obtain ⟨i, hi, x', hx', hxi, hwallx⟩ := halong (a := .x) x rfl
  obtain ⟨j, hj, y', hy', hyj, hwally⟩ := halong (a := .y) y rfl
  cases hplanar : d.isPlanar with
  | true =>
      obtain ⟨c, hc⟩ := exists_coords (d := d) (c := ⟨i, j, 0⟩) ⟨hi, hj, d.depth_pos⟩
      refine ⟨c, ?_, hc ▸ ⟨x', y', 1 / 2, ?_, hxi, hyj, by norm_num⟩⟩
      · rw [hc, Flags.isWall, hplanar]
        simp only [Bool.not_true, Bool.false_and, Bool.or_false, Bool.or_eq_false_iff]
        exact ⟨hwallx, hwally⟩
      · simp only [clampPosition, hplanar, if_true, half_eq]
        rw [Vec3.mk.injEq]
        exact ⟨hx', hy', rfl⟩
  | false =>
      obtain ⟨k, hk, z', hz', hzk, hwallz⟩ := halong (a := .z) z (by rw [isActive, hplanar]; rfl)
      obtain ⟨c, hc⟩ := exists_coords (d := d) (c := ⟨i, j, k⟩) ⟨hi, hj, hk⟩
      refine ⟨c, ?_, hc ▸ ⟨x', y', z', ?_, hxi, hyj, hzk⟩⟩
      · rw [hc, Flags.isWall, hplanar]
        simp only [Bool.not_false, Bool.true_and, Bool.or_eq_false_iff]
        exact ⟨⟨hwallx, hwally⟩, hwallz⟩
      · simp only [clampPosition, hplanar, Bool.false_eq_true, if_false]
        rw [Vec3.mk.injEq]
        exact ⟨hx', hy', hz'⟩

/-- What keeps its distance from the walls is not moved along an axis. -/
lemma clamp_eq_self {n : ℕ} {s : Exact} (hlo : real (keptInset w) ≤ s)
    (hhi : s ≤ real (n - keptInset w)) :
    Scalar.clamp s (insetRange (Scalar.ofNat n) (real (keptInset w))).1
      (insetRange (Scalar.ofNat n) (real (keptInset w))).2 = s := by
  obtain ⟨x, hx, rfl⟩ : ∃ x, x ≤ n - keptInset w ∧ s = real x := by
    cases s with
    | real x => exact ⟨x, real_le_real.mp hhi, rfl⟩
    | posInf => exact absurd hhi (not_le_of_lt (real_lt_posInf _))
    | negInf => exact absurd hlo (not_le_of_lt trivial)
    | nan => exact absurd hlo (by simp)
  have hlo := real_le_real.mp hlo
  rw [clamp_insetRange (by linarith), max_eq_left hlo, min_eq_left hx]

/-- **A position that keeps its distance from the walls is not moved**, but into the plane. -/
lemma Kept.clampPosition {p : Vec3 Exact} (h : d.Kept w p) :
    d.clampPosition p (real (keptInset w)) = d.inPlane p := by
  obtain ⟨x, y, z⟩ := p
  have halong : ∀ a, d.isActive a = true →
      Scalar.clamp ((⟨x, y, z⟩ : Vec3 Exact).get a)
        (insetRange (Scalar.ofNat (d.cells.side a)) (real (keptInset w))).1
        (insetRange (Scalar.ofNat (d.cells.side a)) (real (keptInset w))).2 =
          (⟨x, y, z⟩ : Vec3 Exact).get a := fun a ha =>
    clamp_eq_self (h a (mem_activeAxes.mpr ha)).1 (h a (mem_activeAxes.mpr ha)).2
  have hx := halong .x rfl
  have hy := halong .y rfl
  cases hplanar : d.isPlanar with
  | true =>
      simp only [Dims.clampPosition, inPlane, hplanar, if_true]
      rw [Vec3.mk.injEq]
      exact ⟨hx, hy, rfl⟩
  | false =>
      have hz := halong .z (by rw [isActive, hplanar]; rfl)
      simp only [Dims.clampPosition, inPlane, hplanar, Bool.false_eq_true, if_false]
      rw [Vec3.mk.injEq]
      exact ⟨hx, hy, hz⟩

end Dims

/-! ## Particles -/

namespace Advection

lemma isObstacle_walled (w : ℕ) (c : d.Cell) :
    (Flags.walled d w).isObstacle c = Flags.isWall d w (d.cells.coords c.val) := by
  rw [Bool.eq_iff_iff, Flags.isObstacle_iff, Flags.walled, Field.get_tabulate]
  split_ifs with h <;> simp [h]

/-- **Particles stay inside the walls.**  Where the walls leave a cell between them, each of the
particles keeps its velocity and ends up in a cell of the domain that is not in the walls, wherever
its trajectory leads.  The end of a trajectory that keeps its distance from the walls is where the
particle ends up.  On machine numbers the ends of the range to which positions are moved are in
order, whatever the domain and the distance that is to be kept. -/
theorem contained_particles {g : Flags d} (hwalls : g.wallLayers = w + 1) (hroom : d.HasRoom w)
    {v : Staggered d Exact} (hv : v.allFinite = true) (t : ℝ) {ps : Particles Exact}
    (hps : ∀ p ∈ ps, p.position.isFinite = true) :
    (particles ps g v (real t)).map Particle.velocity = ps.map Particle.velocity ∧
      (∀ (i : ℕ) (hi : i < ps.size) (hi' : i < (particles ps g v (real t)).size),
        (∃ c : d.Cell, (Flags.walled d w).isObstacle c = false ∧
          Dims.Within (d.cells.coords c.val) (particles ps g v (real t))[i].position ∧
          (d.Addressable 0 → d.cellAt? (particles ps g v (real t))[i].position = some c)) ∧
        (d.Kept w (trajectoryEnd v ps[i].position (real t)) →
          (particles ps g v (real t))[i].position =
            d.inPlane (trajectoryEnd v ps[i].position (real t)))) ∧
      ∀ (e : Dims) (inset : Float32) (a : Axis),
        (Dims.insetRange (Scalar.ofNat (e.cells.side a)) inset).1 ≤
          (Dims.insetRange (Scalar.ofNat (e.cells.side a)) inset).2 := by
  refine ⟨?_, fun i hi hi' => ?_, fun e inset a => Dims.le_insetRange _ inset⟩
  · rw [particles, Array.map_map]
    rfl
  · have hposition : (particles ps g v (real t))[i].position =
        d.clampPosition (trajectoryEnd v ps[i].position (real t)) (real (Dims.keptInset w)) := by
      simp only [particles, Array.getElem_map, Flags.clampToInterior, hwalls,
        Dims.ofNat_add_wallMargin]
    rw [hposition]
    have hend := isFinite_trajectoryEnd hv (hps _ (Array.getElem_mem hi)) (isFinite_real t)
    obtain ⟨c, hwall, hwithin⟩ := hroom.exists_cell hend
    exact ⟨⟨c, by rw [isObstacle_walled, hwall], hwithin,
      fun hd => Dims.cellAt?_of_within hd hwithin⟩, Dims.Kept.clampPosition⟩

/-- A particle far outside a square of five cells is brought back into the cell between walls of two
layers. -/
theorem contained_particles_escaped :
    ∃ c : (Dims.planar 4 4).Cell, (Flags.walled (Dims.planar 4 4) 1).isObstacle c = false ∧
      ∀ h : 0 < (particles #[⟨⟨real 100, real (-7), real 2⟩, Vec3.zero⟩]
          (Flags.walled (Dims.planar 4 4) 1) (Staggered.zero (Dims.planar 4 4)) (real 1)).size,
        (Dims.planar 4 4).cellAt? (particles #[⟨⟨real 100, real (-7), real 2⟩, Vec3.zero⟩]
          (Flags.walled (Dims.planar 4 4) 1) (Staggered.zero (Dims.planar 4 4))
          (real 1))[0].position = some c := by
  have hposition : ∀ p ∈ (#[⟨⟨real 100, real (-7), real 2⟩, Vec3.zero⟩] : Particles Exact),
      p.position.isFinite = true := by
    intro p hp
    obtain rfl := List.mem_singleton.mp (Array.mem_toList_iff.mpr hp)
    rfl
  obtain ⟨-, hmoved, -⟩ := contained_particles (g := Flags.walled (Dims.planar 4 4) 1) rfl
    (by decide) (Staggered.allFinite_zero _) 1 hposition
  obtain ⟨⟨c, hc, -, hcell⟩, -⟩ := hmoved 0 Nat.one_pos (by
    rw [particles, Array.size_map]
    exact Nat.one_pos)
  exact ⟨c, hc, fun _ => hcell ⟨by decide, by decide, by decide⟩⟩

end Advection

end FreeSurface

import FreeSurface.Lattice.Dims
import FreeSurface.Proofs.Lattice.Slots
import FreeSurface.Proofs.Number.Exact

/-!
# Positions in cells

Signed coordinates are words of 32 bits, and so are the sides they are compared with.  Where every
side is a word (`Dims.Addressable`), a position that lies in a cell is found there
(`Dims.cellAt?_of_within`), its centre among them (`Dims.within_center`).  A search that goes beyond
the border takes words for its ends as well and needs that much more room.

A face lies at the corner of its cell, moved by half a cell along every axis but its own
(`Dims.shift`).
-/

namespace FreeSurface

open Exact

namespace Exact

lemma toNat_real {x : ℝ} : Scalar.toNat (real x) = min ⌊x⌋₊ (2 ^ 64 - 1) := rfl

lemma toNat_natCast {i : ℕ} (h : i < 2 ^ 64) : Scalar.toNat (real (i : ℝ)) = i := by
  rw [toNat_real, Nat.floor_natCast]
  omega

/-- Rounding down within the unit interval from a word on. -/
lemma floor_eq {x : ℝ} {i : ℕ} (hlo : (i : ℝ) ≤ x) (hhi : x < i + 1) :
    Scalar.floor (real x) = real (i : ℝ) := by
  have hfloor : ⌊x⌋ = (i : ℤ) := Int.floor_eq_iff.mpr ⟨mod_cast hlo, mod_cast hhi⟩
  show real (⌊x⌋ : ℝ) = real (i : ℝ)
  rw [hfloor, Int.cast_natCast]

lemma toInt32_of_nonneg {x : ℝ} (h : 0 ≤ x) : Scalar.toInt32 (real x) = min ⌊x⌋ (2 ^ 31 - 1) := by
  have hfloor : (⌊x⌋₊ : ℤ) = ⌊x⌋ := Int.natCast_floor_eq_floor h
  rw [Scalar.toInt32, literal, Nat.cast_zero, if_neg (by simpa using h), toNat_real, ← hfloor]
  show ((min (min ⌊x⌋₊ _) _ : ℕ) : ℤ) = _
  omega

lemma toInt32_of_neg {x : ℝ} (h : x < 0) : Scalar.toInt32 (real x) = max ⌈x⌉ (-2 ^ 31) := by
  have hfloor : (⌊-x⌋₊ : ℤ) = -⌈x⌉ := by
    rw [Int.natCast_floor_eq_floor (by linarith), Int.floor_neg]
  rw [Scalar.toInt32, literal, Nat.cast_zero, if_pos (by simpa using h), neg_real, toNat_real]
  show -((min (min ⌊-x⌋₊ _) _ : ℕ) : ℤ) = _
  omega

/-- A whole number is moved to the nearer end of the words when it is none. -/
lemma toInt32_intCast (m : ℤ) :
    Scalar.toInt32 (real (m : ℝ)) = max (-2 ^ 31) (min m (2 ^ 31 - 1)) := by
  rcases lt_or_ge m 0 with h | h
  · rw [toInt32_of_neg (by exact_mod_cast h), Int.ceil_intCast]
    omega
  · rw [toInt32_of_nonneg (by exact_mod_cast h), Int.floor_intCast]
    omega

lemma toInt32_floor (x : ℝ) :
    Scalar.toInt32 (Scalar.floor (real x)) = max (-2 ^ 31) (min ⌊x⌋ (2 ^ 31 - 1)) :=
  toInt32_intCast ⌊x⌋

lemma isWord_toInt32_floor (x : ℝ) : IsWord (Scalar.toInt32 (Scalar.floor (real x))) := by
  rw [IsWord, toInt32_floor]
  omega

lemma toInt32_natCast {i : ℕ} (h : i < 2 ^ 31) : Scalar.toInt32 (real (i : ℝ)) = (i : ℤ) := by
  have hcast : (i : ℝ) = ((i : ℤ) : ℝ) := (Int.cast_natCast i).symm
  rw [hcast, toInt32_intCast]
  omega

end Exact

namespace Vec3

variable {S : Type} [Scalar S] (x y z x' y' z' s : S)

lemma mk_sub_mk : (⟨x, y, z⟩ : Vec3 S) - ⟨x', y', z'⟩ = ⟨x - x', y - y', z - z'⟩ := rfl

lemma mk_add_mk : (⟨x, y, z⟩ : Vec3 S) + ⟨x', y', z'⟩ = ⟨x + x', y + y', z + z'⟩ := rfl

lemma mk_mul_mk : (⟨x, y, z⟩ : Vec3 S) * ⟨x', y', z'⟩ = ⟨x * x', y * y', z * z'⟩ := rfl

lemma mk_scale : (⟨x, y, z⟩ : Vec3 S) * s = ⟨x * s, y * s, z * s⟩ := rfl

lemma length_real (u v w : ℝ) :
    (⟨real u, real v, real w⟩ : Vec3 Exact).length = real √(u ^ 2 + v ^ 2 + w ^ 2) := by
  simp only [length, dot, real_mul_real, real_add_real, ← pow_two]
  exact sqrt_real (by positivity)

end Vec3

namespace Dims

variable {d : Dims}

/-- Every side is a word of 32 bits, and there are `room` words more above it.  Without room this is
what it takes to compare coordinates with the sides.  A search over the nodes within `room` of a
face, or within `room + 1` of a cell, then ends at a word on either side. -/
structure Addressable (d : Dims) (room : ℕ) : Prop where
  width : d.width + room < 2 ^ 31
  height : d.height + room < 2 ^ 31
  depth : d.depth + room < 2 ^ 31

namespace Addressable

variable {room : ℕ}

lemma mono {less : ℕ} (h : d.Addressable room) (hless : less ≤ room) : d.Addressable less :=
  ⟨(Nat.add_le_add_left hless _).trans_lt h.width, (Nat.add_le_add_left hless _).trans_lt h.height,
    (Nat.add_le_add_left hless _).trans_lt h.depth⟩

lemma isShort (h : d.Addressable room) : d.cells.IsShort := by
  have hzero := h.mono room.zero_le
  rintro (_ | _ | _)
  exacts [hzero.width, hzero.height, hzero.depth]

/-- With room for one more node the numbers of the faces along each side are words too. -/
lemma isShort_faces (h : d.Addressable 1) (a : Axis) : (d.faces a).IsShort := by
  obtain ⟨hwidth, hheight, hdepth⟩ := h
  rintro (_ | _ | _) <;> cases a <;> simp only [Lattice.side, faces] <;> omega

end Addressable

/-- The position lies in the cell at the given coordinates. -/
def Within (c : Coords) (p : Vec3 Exact) : Prop :=
  ∃ x y z : ℝ, p = ⟨real x, real y, real z⟩ ∧ (c.i ≤ x ∧ x < c.i + 1) ∧ (c.j ≤ y ∧ y < c.j + 1) ∧
    (c.k ≤ z ∧ z < c.k + 1)

/-- A position is found in the cell that it lies in. -/
lemma cellAt?_of_within (hd : d.Addressable 0) {c : d.Cell} {p : Vec3 Exact}
    (h : Within (d.cells.coords c.val) p) : d.cellAt? p = some c := by
  obtain ⟨x, y, z, rfl, ⟨hx, hx'⟩, ⟨hy, hy'⟩, hz, hz'⟩ := h
  obtain ⟨hi, hj, hk⟩ := d.cells.contains_coords c.isLt
  have hcell : cellOf (⟨real x, real y, real z⟩ : Vec3 Exact) =
      (((d.cells.coords c.val).i : ℤ), ((d.cells.coords c.val).j : ℤ),
        ((d.cells.coords c.val).k : ℤ)) := by
    rw [cellOf, floor_eq hx hx', floor_eq hy hy', floor_eq hz hz',
      toInt32_natCast (hi.trans hd.width), toInt32_natCast (hj.trans hd.height),
      toInt32_natCast (hk.trans hd.depth)]
  rw [cellAt?, hcell]
  simp only
  rw [Lattice.node?, if_pos ((Lattice.holds_iff hd.isShort).mpr (d.cells.contains_coords c.isLt))]
  exact d.cells.nodeAt?_coords c

lemma within_center (c : d.Cell) : Within (d.cells.coords c.val) (d.center c : Vec3 Exact) := by
  refine ⟨_, _, _, by rw [center, centerAt, half_eq]; rfl, ?_, ?_, ?_⟩ <;>
    constructor <;> linarith

/-! ## Faces -/

/-- How far the faces across an axis lie from the corners of their cells, along another one. -/
noncomputable def shift (a b : Axis) : ℝ := if a = b then 0 else (Scalar.half : Exact).toReal

lemma shift_eq (a b : Axis) : shift a b = if a = b then 0 else 1 / 2 := by
  rw [shift, half_eq, toReal_real]

lemma shift_nonneg (a b : Axis) : 0 ≤ shift a b := by
  rw [shift_eq]
  split_ifs <;> norm_num

lemma shift_le_half (a b : Axis) : shift a b ≤ 1 / 2 := by
  rw [shift_eq]
  split_ifs <;> norm_num

lemma faceOffset_eq (a : Axis) : (faceOffset a : Vec3 Exact) =
    ⟨real (shift a .x), real (shift a .y), real (shift a .z)⟩ := by
  cases a <;> simp [faceOffset, half_eq, shift_eq]

lemma facePositionAt_eq (a : Axis) (c : Coords) : (facePositionAt a c : Vec3 Exact) =
    ⟨real (c.i + shift a .x), real (c.j + shift a .y), real (c.k + shift a .z)⟩ := by
  rw [facePositionAt, faceOffset_eq]
  rfl

/-- Along its own axis there is one face more than there are cells. -/
lemma coords_face_le {a : Axis} (f : d.Face a) :
    ((d.faces a).coords f.val).i ≤ d.width ∧ ((d.faces a).coords f.val).j ≤ d.height ∧
      ((d.faces a).coords f.val).k ≤ d.depth := by
  obtain ⟨hi, hj, hk⟩ := (d.faces a).contains_coords f.isLt
  cases a <;> simp only [faces] at hi hj hk ⊢ <;> omega

/-- The faces of a planar domain across an axis of motion make up a single layer. -/
lemma nz_faces_of_isPlanar (hplanar : d.isPlanar = true) {a : Axis} (ha : a ∈ d.activeAxes) :
    (d.faces a).nz = 1 := by
  have hdepth : d.depth = 1 := beq_iff_eq.mp hplanar
  rw [activeAxes, if_pos hplanar] at ha
  cases a with
  | x => exact hdepth
  | y => exact hdepth
  | z => simp at ha

end Dims

end FreeSurface

import FreeSurface.Proofs.Transfer.Tents

/-!
# Samples at nodes

At a node nothing is blended in, for it is under its own tent only: a field of finite values is
sampled exactly at its own nodes (`Field.interpolate_node`), so a field of cells at the centres of
cells (`ScalarField.sample_center`).
-/

namespace FreeSurface

open Exact

namespace Field

variable {L : Lattice}

/-- At a node of a side the blend is the value of the node. -/
lemma blend_node {n : ℕ} (hn : 0 < n) (i : Fin n) (hi : i.val < 2 ^ 64) {f : Fin n → Exact}
    (hf : ∀ i, Scalar.isFinite (f i) = true) :
    blend (f (bracket n hn (real (i.val : ℝ))).lo) (f (bracket n hn (real (i.val : ℝ))).hi)
      (bracket n hn (real (i.val : ℝ))).t = f i := by
  have hlast : (i.val : ℝ) + 1 ≤ n := mod_cast i.isLt
  have hword : ⌊(i.val : ℝ)⌋₊ < 2 ^ 64 := by rwa [Nat.floor_natCast]
  have hothers : ∀ j, j ≠ i → Kernel.hat (i.val - j.val) * (f j).toReal = 0 := by
    intro j hj
    rw [Kernel.hat_sub_of_ne (Fin.val_ne_of_ne (Ne.symm hj)), zero_mul]
  rw [blend_bracket hn hword (Nat.cast_nonneg _) hlast fun j => eq_real_toReal (hf j),
    Fintype.sum_eq_single i hothers, sub_self, Kernel.hat_zero, one_mul, ← eq_real_toReal (hf i)]

/-- **A field of finite values is sampled exactly at its nodes.** -/
theorem interpolate_node {v : Field L Exact} (hv : ∀ n, Scalar.isFinite (v.get n) = true)
    (i : Fin L.nx) (j : Fin L.ny) (k : Fin L.nz) (hi : i.val < 2 ^ 64) (hj : j.val < 2 ^ 64)
    (hk : k.val < 2 ^ 64) :
    interpolate v ⟨real (i.val : ℝ), real (j.val : ℝ), real (k.val : ℝ)⟩ =
      v.get (L.nodeOf i j k) := by
  have row := fun j k => blend_node L.nx_pos i hi fun i => hv (L.nodeOf i j k)
  have layer := fun k => blend_node L.ny_pos j hj fun j => hv (L.nodeOf i j k)
  have box := blend_node L.nz_pos k hk fun k => hv (L.nodeOf i j k)
  rw [interpolate]
  simp only [row, layer, box]

end Field

lemma ScalarField.sample_center {d : Dims} (hd : d.Addressable 0) {v : ScalarField d Exact}
    (hv : ∀ c, Scalar.isFinite (v.get c) = true) (c : d.Cell) :
    ScalarField.sample v (d.center c) = v.get c := by
  obtain ⟨hi, hj, hk⟩ := d.cells.contains_coords c.isLt
  have hcenter : (d.center c - Vec3.splat Scalar.half : Vec3 Exact) =
      ⟨real ((d.cells.coords c.val).i : ℝ), real ((d.cells.coords c.val).j : ℝ),
        real ((d.cells.coords c.val).k : ℝ)⟩ := by
    rw [Dims.center, Dims.centerAt, half_eq]
    show (⟨real _, real _, real _⟩ : Vec3 Exact) = _
    simp only [add_neg_cancel_right]
  have hnode : d.cells.nodeOf ⟨_, hi⟩ ⟨_, hj⟩ ⟨_, hk⟩ = c :=
    d.cells.coords_injective (d.cells.coords_node ⟨hi, hj, hk⟩)
  have hnodes := Field.interpolate_node hv ⟨_, hi⟩ ⟨_, hj⟩ ⟨_, hk⟩
    (hi.trans hd.indexable.width) (hj.trans hd.indexable.height) (hk.trans hd.indexable.depth)
  rw [ScalarField.sample, hcenter, hnodes, hnode]

end FreeSurface

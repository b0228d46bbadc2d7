import FreeSurface.Proofs.Lattice.Boxes
import FreeSurface.Proofs.Transfer.Kernel

/-!
# Tents

Interpolation looks at the nodes around a point, the kernel of tents at all nodes.  They agree: a
point between two nodes of a side is under the tents of these two only, and the tents are as high
there as the parts of the way (`Field.Straddles.sum_hat_mul`).

* `Dims.Spans` — the point lies among some nodes along every axis of motion.
* `Field.sum_hatsAt_affine` — among the nodes an affine field is the sum of its values under the
  tents.
* `Field.samplesByTents` — **among the nodes a sample is the sum of all values, each weighted by the
  tents around its node**, and an affine field is sampled exactly.
-/

namespace FreeSurface

open Exact Dims
open scoped Exact.Sums

/-! ## Tents along a side -/

namespace Field

open Kernel

/-- The coordinate `x` lies the part `t` of the way from a node to the next one, or at a node. -/
structure Straddles {n : ℕ} (lo hi : Fin n) (t x : ℝ) : Prop where
  eq_add : x = lo.val + t
  cases : hi.val = lo.val + 1 ∧ 0 ≤ t ∧ t ≤ 1 ∨ hi = lo ∧ t = 0

variable {n : ℕ} {lo hi : Fin n} {t x : ℝ}

/-- **The tents over a coordinate are those of the nodes around it.** -/
lemma Straddles.sum_hat_mul (h : Straddles lo hi t x) (g : Fin n → ℝ) :
    ∑ i, hat (x - i.val) * g i = g lo * (1 - t) + g hi * t := by
  obtain ⟨rfl, ⟨hnext, ht₀, ht₁⟩ | ⟨rfl, rfl⟩⟩ := h
  · have hhi : (hi.val : ℝ) = lo.val + 1 := by rw [hnext, Nat.cast_add_one]
    have hlo : hat (lo.val + t - lo.val) = 1 - t := by
      rw [add_sub_cancel_left, hat_of_abs_le_one (abs_le.mpr ⟨by linarith, ht₁⟩), abs_of_nonneg ht₀]
    have hhi' : hat (lo.val + t - hi.val) = t := by
      rw [hhi, add_sub_add_left_eq_sub, hat_of_abs_le_one (abs_le.mpr ⟨by linarith, by linarith⟩),
        abs_of_nonpos (by linarith)]
      ring
    rw [Fintype.sum_eq_add lo hi (Fin.ne_of_val_ne (by omega)) fun i hi' => ?_, hlo, hhi']
    · ring
    · -- Every other node is at least one away.
      rw [hat_of_one_le, zero_mul]
      have hne : i.val ≠ lo.val ∧ i.val ≠ hi.val := ⟨fun h => hi'.1 (Fin.ext h),
        fun h => hi'.2 (Fin.ext h)⟩
      rw [le_abs]
      rcases Nat.lt_or_ge i.val lo.val with hlt | hge
      · have : (i.val : ℝ) + 1 ≤ lo.val := mod_cast hlt
        exact .inl (by linarith)
      · have : (lo.val : ℝ) + 2 ≤ i.val := mod_cast (by omega : lo.val + 2 ≤ i.val)
        exact .inr (by linarith)
  · rw [Fintype.sum_eq_single hi fun i hi' => ?_]
    · rw [add_zero, sub_self, hat_zero]
      ring
    · rw [add_zero, hat_sub_of_ne (Fin.val_ne_of_ne (Ne.symm hi')), zero_mul]

/-- A coordinate on a side is straddled, the last node as the end of an interval. -/
lemma straddles_floor (hn : 0 < n) (h₀ : 0 ≤ x) (h₁ : x + 1 ≤ n) :
    Straddles (⟨min ⌊x⌋₊ (n - 2), by omega⟩ : Fin n) ⟨min (min ⌊x⌋₊ (n - 2) + 1) (n - 1), by omega⟩
      (x - (min ⌊x⌋₊ (n - 2) : ℕ)) x := by
  have hfloor := Nat.floor_le h₀
  have hlt := Nat.lt_floor_add_one x
  refine ⟨(add_sub_cancel _ _).symm, ?_⟩
  rcases Nat.lt_or_ge 1 n with hmany | hone
  · refine .inl ⟨?_, ?_⟩
    · show min (min ⌊x⌋₊ (n - 2) + 1) (n - 1) = min ⌊x⌋₊ (n - 2) + 1
      omega
    · rcases Nat.le_total ⌊x⌋₊ (n - 2) with hle | hge
      · rw [min_eq_left hle]
        constructor <;> linarith
      · have hcast : ((n - 2 : ℕ) : ℝ) = n - 2 := by
          rw [Nat.cast_sub hmany, Nat.cast_two]
        have : ((n - 2 : ℕ) : ℝ) ≤ ⌊x⌋₊ := mod_cast hge
        rw [min_eq_right hge]
        constructor <;> linarith
  · obtain rfl : n = 1 := by omega
    rw [Nat.cast_one] at h₁
    refine .inr ⟨Fin.ext (by simp), ?_⟩
    simp only [Nat.reduceSub, min_zero, Nat.cast_zero]
    linarith

/-- Among the nodes of a side an affine function is the sum of its values under the tents. -/
lemma sum_hat_affine (h₀ : 0 ≤ x) (h₁ : x + 1 ≤ n) (a b : ℝ) :
    ∑ i : Fin n, hat (x - i.val) * (a + b * i.val) = a + b * x := by
  have hn : 0 < n := by
    have : (0 : ℝ) < n := by linarith
    exact_mod_cast this
  have h := straddles_floor hn h₀ h₁
  rw [h.sum_hat_mul]
  obtain ⟨hx, ⟨hnext, -⟩ | ⟨hhi, ht⟩⟩ := h
  · rw [hnext, Nat.cast_add_one]
    linear_combination -b * hx
  · rw [hhi, ht]
    linear_combination -b * hx - b * ht

/-- The nodes around a coordinate on a side straddle it. -/
lemma straddles_bracket (hn : 0 < n) (hword : ⌊x⌋₊ < 2 ^ 64) (h₀ : 0 ≤ x) (h₁ : x + 1 ≤ n) :
    ∃ t, (bracket n hn (real x)).t = real t ∧
      Straddles (bracket n hn (real x)).lo (bracket n hn (real x)).hi t x := by
  have h := straddles_floor hn h₀ h₁
  have hlast : ((n - 1 : ℕ) : ℝ) = n - 1 := by rw [Nat.cast_sub hn, Nat.cast_one]
  have hside : onSide n (real x) = real x := by
    rw [onSide_eq, max_eq_left h₀, min_eq_left (by linarith)]
  have hfloor : Scalar.floor (real x) = real (⌊x⌋₊ : ℝ) :=
    floor_eq (Nat.floor_le h₀) (Nat.lt_floor_add_one x)
  refine ⟨x - (min ⌊x⌋₊ (n - 2) : ℕ), ?_, ?_⟩
  · have hpart : 0 ≤ x - (min ⌊x⌋₊ (n - 2) : ℕ) ∧ x - (min ⌊x⌋₊ (n - 2) : ℕ) ≤ 1 := by
      rcases h.cases with ⟨-, hpart⟩ | ⟨-, hzero⟩
      · exact hpart
      · rw [hzero]
        exact ⟨le_rfl, zero_le_one⟩
    simp only [bracket, hside, hfloor, toNat_natCast hword, scalar_ofNat, real_sub_real, literal,
      Nat.cast_zero, Nat.cast_one, clamp_real zero_le_one]
    exact congrArg real ((congrArg (min · 1) (max_eq_left hpart.1)).trans (min_eq_left hpart.2))
  · simp only [bracket, hside, hfloor, toNat_natCast hword]
    exact h

/-- What is blended from the nodes around a coordinate is the sum of all values under the tents. -/
lemma blend_bracket (hn : 0 < n) (hword : ⌊x⌋₊ < 2 ^ 64) (h₀ : 0 ≤ x) (h₁ : x + 1 ≤ n)
    {f : Fin n → Exact} {g : Fin n → ℝ} (hf : ∀ i, f i = real (g i)) :
    blend (f (bracket n hn (real x)).lo) (f (bracket n hn (real x)).hi) (bracket n hn (real x)).t =
      real (∑ i, hat (x - i.val) * g i) := by
  obtain ⟨t, ht, h⟩ := straddles_bracket hn hword h₀ h₁
  rw [ht, hf, hf, blend_real, h.sum_hat_mul]

/-- On a side whose size is a word, coordinates are words. -/
lemma floor_lt_word (hsize : n ≤ 2 ^ 64) (h₀ : 0 ≤ x) (h₁ : x + 1 ≤ n) : ⌊x⌋₊ < 2 ^ 64 :=
  ((Nat.floor_lt h₀).mpr (by linarith)).trans_le hsize

/-- On a side of one node every coordinate is moved to the node. -/
lemma blend_bracket_of_single (hn : 0 < n) (hone : n = 1) (x : ℝ) {f : Fin n → Exact}
    {g : Fin n → ℝ} (hf : ∀ i, f i = real (g i)) :
    blend (f (bracket n hn (real x)).lo) (f (bracket n hn (real x)).hi) (bracket n hn (real x)).t =
      real (∑ i, g i) := by
  subst hone
  have hside : onSide 1 (real x) = real (0 : ℕ) := by
    rw [onSide_eq, Nat.sub_self, Nat.cast_zero, min_eq_right (le_max_right _ _)]
  have hfloor : Scalar.floor (real (0 : ℕ)) = real (0 : ℕ) := floor_eq le_rfl (by norm_num)
  have ht : (bracket 1 hn (real x)).t = real 0 := by
    simp only [bracket, hside, hfloor, toNat_natCast (i := 0) (by norm_num)]
    simp
  rw [ht, hf, hf, blend_real, Fin.sum_univ_one, Subsingleton.elim (bracket 1 hn (real x)).lo 0]
  exact congrArg real (by ring)

end Field

/-! ## Tents around nodes -/

/-- A point, in the coordinates of the nodes, lies among them; along the third axis of a planar
domain, which has one layer of nodes, it may lie anywhere. -/
structure Lattice.Covers (L : Lattice) (planar : Bool) (x y z : ℝ) : Prop where
  x : 0 ≤ x ∧ x + 1 ≤ L.nx
  y : 0 ≤ y ∧ y + 1 ≤ L.ny
  z : planar = true ∧ L.nz = 1 ∨ planar = false ∧ 0 ≤ z ∧ z + 1 ≤ L.nz

/-- The numbers along the sides are words of 64 bits. -/
structure Lattice.Indexable (L : Lattice) : Prop where
  nx : L.nx ≤ 2 ^ 64
  ny : L.ny ≤ 2 ^ 64
  nz : L.nz ≤ 2 ^ 64

namespace Field

open Kernel

variable {L : Lattice} {planar : Bool} {x y z : ℝ}

/-- The weight of a node at a point, in the coordinates of the nodes. -/
noncomputable def hatsAt (planar : Bool) (x y z : ℝ) (n : L.Node) : ℝ :=
  hats planar (x - (L.coords n.val).i) (y - (L.coords n.val).j) (z - (L.coords n.val).k)

/-- The sum over all nodes, one axis after the other. -/
lemma sum_hatsAt_mul (g : L.Node → ℝ) :
    ∑ n, hatsAt planar x y z n * g n =
      ∑ k : Fin L.nz, (if planar then 1 else hat (z - k.val)) *
        ∑ j : Fin L.ny, hat (y - j.val) *
          ∑ i : Fin L.nx, hat (x - i.val) * g (L.nodeOf i j k) := by
  simp only [Lattice.sum_nodes, hatsAt, Lattice.coords_nodeOf, hats, Finset.mul_sum]
  refine Finset.sum_congr rfl fun k _ => Finset.sum_congr rfl fun j _ =>
    Finset.sum_congr rfl fun i _ => ?_
  ring

/-- **Among the nodes a blend is the sum of all values under the tents.** -/
lemma interpolate_eq_sum (hL : L.Indexable) (h : L.Covers planar x y z) {v : Field L Exact}
    {g : L.Node → ℝ} (hv : ∀ n, v.get n = real (g n)) :
    interpolate v ⟨real x, real y, real z⟩ = real (∑ n, hatsAt planar x y z n * g n) := by
  have row := fun j k => blend_bracket L.nx_pos (floor_lt_word hL.nx h.x.1 h.x.2) h.x.1 h.x.2
    fun i => hv (L.nodeOf i j k)
  have layer := fun k => blend_bracket L.ny_pos (floor_lt_word hL.ny h.y.1 h.y.2) h.y.1 h.y.2
    fun j => row j k
  rw [sum_hatsAt_mul, interpolate]
  rcases h.z with ⟨rfl, hone⟩ | ⟨rfl, h₀, h₁⟩
  · simp only [if_true, one_mul]
    exact blend_bracket_of_single L.nz_pos hone z layer
  · simp only [Bool.false_eq_true, if_false]
    exact blend_bracket L.nz_pos (floor_lt_word hL.nz h₀ h₁) h₀ h₁ layer

/-- **Among the nodes an affine field is the sum of its values under the tents.** -/
lemma sum_hatsAt_affine (h : L.Covers planar x y z) (α a b c : ℝ) :
    ∑ n : L.Node, hatsAt planar x y z n *
        (α + a * (L.coords n.val).i + b * (L.coords n.val).j + c * (L.coords n.val).k) =
      α + a * x + b * y + if planar then 0 else c * z := by
  have row : ∀ j k : ℕ, ∑ i : Fin L.nx, hat (x - i.val) * (α + a * i.val + b * j + c * k) =
      α + a * x + b * j + c * k := by
    intro j k
    calc ∑ i : Fin L.nx, hat (x - i.val) * (α + a * i.val + b * j + c * k)
        = ∑ i : Fin L.nx, hat (x - i.val) * (α + b * j + c * k + a * i.val) :=
          Finset.sum_congr rfl fun i _ => by ring
      _ = α + b * j + c * k + a * x := sum_hat_affine h.x.1 h.x.2 _ a
      _ = α + a * x + b * j + c * k := by ring
  have layer : ∀ k : ℕ, ∑ j : Fin L.ny, hat (y - j.val) * (α + a * x + b * j.val + c * k) =
      α + a * x + b * y + c * k := by
    intro k
    calc ∑ j : Fin L.ny, hat (y - j.val) * (α + a * x + b * j.val + c * k)
        = ∑ j : Fin L.ny, hat (y - j.val) * (α + a * x + c * k + b * j.val) :=
          Finset.sum_congr rfl fun j _ => by ring
      _ = α + a * x + c * k + b * y := sum_hat_affine h.y.1 h.y.2 _ b
      _ = α + a * x + b * y + c * k := by ring
  rw [sum_hatsAt_mul]
  simp only [Lattice.coords_nodeOf, row, layer]
  rcases h.z with ⟨rfl, hone⟩ | ⟨rfl, h₀, h₁⟩
  · have hlayer : ∀ k : Fin L.nz, k.val = 0 := fun k => by omega
    simp [hlayer, hone]
  · simp only [Bool.false_eq_true, if_false]
    exact sum_hat_affine h₀ h₁ _ c

end Field

/-! ## Points among nodes -/

/-- The node of a lattice that is moved by an offset. -/
def Lattice.position {S : Type} [Scalar S] (L : Lattice) (offset : Vec3 S) (n : L.Node) : Vec3 S :=
  cornerAt (L.coords n.val) + offset

namespace Dims

/-- The sides are words of 64 bits. -/
structure Indexable (d : Dims) : Prop where
  width : d.width < 2 ^ 64
  height : d.height < 2 ^ 64
  depth : d.depth < 2 ^ 64

lemma Addressable.indexable {d : Dims} {room : ℕ} (h : d.Addressable room) : d.Indexable := by
  obtain ⟨hwidth, hheight, hdepth⟩ := h
  constructor <;> omega

lemma Indexable.cells {d : Dims} (h : d.Indexable) : d.cells.Indexable :=
  ⟨h.width.le, h.height.le, h.depth.le⟩

lemma Indexable.faces {d : Dims} (h : d.Indexable) (a : Axis) : (d.faces a).Indexable := by
  cases a
  · exact ⟨h.width, h.height.le, h.depth.le⟩
  · exact ⟨h.width.le, h.height, h.depth.le⟩
  · exact ⟨h.width.le, h.height.le, h.depth⟩

/-- Along every axis of motion the point lies between two of the nodes, or at one. -/
def Spans {ι : Type} (d : Dims) (node : ι → Vec3 Exact) (p : Vec3 Exact) : Prop :=
  ∀ b ∈ d.activeAxes, ∃ m n, (node m).get b ≤ p.get b ∧ p.get b ≤ (node n).get b

/-- The field with the given slope along every axis of motion. -/
noncomputable def affine (d : Dims) (α : ℝ) (β : Axis → ℝ) (p : Vec3 Exact) : Exact :=
  real (α + (d.activeAxes.map fun b => β b * (p.get b).toReal).sum)

end Dims

/-- Among the nodes, a field is sampled as the sum of all its values, each weighted by the tents
around its node, and it is sampled exactly if it is affine. -/
structure SamplesByTents (d : Dims) {L : Lattice} (node : L.Node → Vec3 Exact) (v : Field L Exact)
    (sample : Vec3 Exact → Exact) : Prop where
  eq_sum : ∀ p, p.isFinite = true → d.Spans node p →
    sample p = ∑ n, Kernel.dLinearWeight (p - node n) d.isPlanar * v.get n
  eq_affine : ∀ α β, (∀ n, v.get n = d.affine α β (node n)) →
    ∀ p, p.isFinite = true → d.Spans node p → sample p = d.affine α β p

namespace Field

variable {d : Dims} {L : Lattice} {u v w x y z : ℝ}

lemma position_real (u v w : ℝ) (n : L.Node) :
    L.position ⟨real u, real v, real w⟩ n =
      ⟨real ((L.coords n.val).i + u), real ((L.coords n.val).j + v),
        real ((L.coords n.val).k + w)⟩ := rfl

/-- Between two nodes of a side, in the coordinates of the nodes. -/
lemma mem_side {i j n : ℕ} (hj : j < n) (hlo : real (i + u) ≤ real x)
    (hhi : real x ≤ real (j + u)) :
    0 ≤ x - u ∧ x - u + 1 ≤ n := by
  have hi : (0 : ℝ) ≤ i := Nat.cast_nonneg i
  have hn : (j : ℝ) + 1 ≤ n := mod_cast hj
  rw [real_le_real] at hlo hhi
  constructor <;> linarith

lemma covers_of_spans (hsingle : d.isPlanar = true → L.nz = 1)
    (h : d.Spans (L.position ⟨real u, real v, real w⟩) ⟨real x, real y, real z⟩) :
    L.Covers d.isPlanar (x - u) (y - v) (z - w) := by
  have hcontains := fun n : L.Node => L.contains_coords n.isLt
  refine ⟨?_, ?_, ?_⟩
  · obtain ⟨m, n, hm, hn⟩ := h .x (mem_activeAxes.mpr rfl)
    exact mem_side (hcontains n).1 hm hn
  · obtain ⟨m, n, hm, hn⟩ := h .y (mem_activeAxes.mpr rfl)
    exact mem_side (hcontains n).2.1 hm hn
  · cases hplanar : d.isPlanar with
    | true => exact .inl ⟨rfl, hsingle hplanar⟩
    | false =>
        obtain ⟨m, n, hm, hn⟩ := h .z (mem_activeAxes.mpr (by rw [isActive, hplanar]; rfl))
        exact .inr ⟨rfl, mem_side (hcontains n).2.2 hm hn⟩

/-- An affine field at a node, by the coordinates of the node. -/
lemma affine_position (α : ℝ) (β : Axis → ℝ) (n : L.Node)
    (hsingle : d.isPlanar = true → L.nz = 1) :
    d.affine α β (L.position ⟨real u, real v, real w⟩ n) =
      real (α + β .x * u + β .y * v + (if d.isPlanar then 0 else β .z * w) +
        β .x * (L.coords n.val).i + β .y * (L.coords n.val).j + β .z * (L.coords n.val).k) := by
  rw [position_real, affine, activeAxes]
  refine congrArg real ?_
  split_ifs with hplanar
  · have hlayer : (L.coords n.val).k = 0 := by
      have := (L.contains_coords n.isLt).2.2
      have := hsingle hplanar
      omega
    simp only [List.map_cons, List.map_nil, List.sum_cons, List.sum_nil, Vec3.get, toReal_real,
      hlayer, Nat.cast_zero]
    ring
  · simp only [Axis.all, List.map_cons, List.map_nil, List.sum_cons, List.sum_nil, Vec3.get,
      toReal_real]
    ring

lemma dLinearWeight_sub_position (planar : Bool) (n : L.Node) :
    Kernel.dLinearWeight ((⟨real x, real y, real z⟩ : Vec3 Exact) -
        L.position ⟨real u, real v, real w⟩ n) planar =
      real (hatsAt planar (x - u) (y - v) (z - w) n) := by
  rw [position_real, Vec3.mk_sub_mk, real_sub_real, real_sub_real, real_sub_real,
    Kernel.dLinearWeight_real, hatsAt]
  simp only [sub_sub, add_comm]

/-- **Among its nodes a field is sampled by tents.** -/
theorem samplesByTents (hL : L.Indexable) (hsingle : d.isPlanar = true → L.nz = 1)
    {field : Field L Exact} (hfield : ∀ n, Scalar.isFinite (field.get n) = true)
    {offset : Vec3 Exact} (hoffset : offset.isFinite = true) :
    SamplesByTents d (L.position offset) field fun p => interpolate field (p - offset) := by
  obtain ⟨u, v, w, rfl⟩ := Vec3.isFinite_iff.mp hoffset
  constructor
  · intro p hp hspan
    obtain ⟨x, y, z, rfl⟩ := Vec3.isFinite_iff.mp hp
    have hsum := interpolate_eq_sum hL (covers_of_spans hsingle hspan) fun n =>
      eq_real_toReal (hfield n)
    rw [← Sums.sum_real] at hsum
    refine hsum.trans (Finset.sum_congr rfl fun n _ => ?_)
    rw [dLinearWeight_sub_position, ← real_mul_real, ← eq_real_toReal (hfield n)]
  · intro α β haffine p hp hspan
    obtain ⟨x, y, z, rfl⟩ := Vec3.isFinite_iff.mp hp
    have hcovers := covers_of_spans hsingle hspan
    refine (interpolate_eq_sum hL hcovers fun n =>
      (haffine n).trans (affine_position α β n hsingle)).trans ?_
    rw [sum_hatsAt_affine hcovers, affine, activeAxes]
    refine congrArg real ?_
    split_ifs
    · simp only [List.map_cons, List.map_nil, List.sum_cons, List.sum_nil, Vec3.get, toReal_real]
      ring
    · simp only [Axis.all, List.map_cons, List.map_nil, List.sum_cons, List.sum_nil, Vec3.get,
        toReal_real]
      ring

end Field

end FreeSurface

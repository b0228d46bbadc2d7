import FreeSurface.Proofs.Lattice.Steps
import FreeSurface.Proofs.Number.Least
import FreeSurface.Proofs.Transfer.Tents

/-!
# The corners around a point

A point is moved onto the lattice and lies in a cell of nodes then; on a side it is the interval
that begins at the node below.  What is blended at the point lies among the values at the corners of
that cell (`Field.liesAmong_interpolate`), and so do the bounds that are taken there
(`Field.exists_boundsAt_eq`).  At the last node of a side the blend takes its interval from the node
before, which is no corner then, and gives it no weight.
-/

namespace FreeSurface

open Exact

namespace Field

/-! ## Along a side -/

/-- A coordinate moved onto a side of `n` nodes. -/
noncomputable def onto (n : ℕ) (x : ℝ) : ℝ := min (max x 0) ((n - 1 : ℕ) : ℝ)

/-- The position is an end of the interval that a coordinate lies in when it is moved onto a side:
the last whole number not above it, or the next one. -/
def IsEnd (n : ℕ) (x : ℝ) (i : ℕ) : Prop := ⌊onto n x⌋₊ ≤ i ∧ i ≤ ⌊onto n x⌋₊ + 1

variable {n : ℕ} {x : ℝ} {s : Set ℝ}

lemma onto_nonneg (n : ℕ) (x : ℝ) : 0 ≤ onto n x :=
  le_min (le_max_right _ _) (Nat.cast_nonneg _)

lemma onto_add_one_le (hn : 0 < n) (x : ℝ) : onto n x + 1 ≤ n := by
  have hlast : ((n - 1 : ℕ) : ℝ) = n - 1 := by rw [Nat.cast_sub hn, Nat.cast_one]
  have hle : onto n x ≤ n - 1 := (min_le_right _ _).trans_eq hlast
  linarith

lemma floor_onto_lt (hn : 0 < n) (x : ℝ) : ⌊onto n x⌋₊ < n := by
  rw [Nat.floor_lt (onto_nonneg n x)]
  linarith [onto_add_one_le hn x]

/-- No end is beyond the next whole number. -/
lemma IsEnd.le {i : ℕ} (h : IsEnd n x i) : i ≤ ⌊x⌋₊ + 1 := by
  have honto : onto n x ≤ max x 0 := min_le_left _ _
  have hfloor : ⌊onto n x⌋₊ ≤ ⌊x⌋₊ := by
    rcases le_total 0 x with hx | hx
    · exact Nat.floor_mono (honto.trans_eq (max_eq_left hx))
    · rw [Nat.floor_of_nonpos (honto.trans_eq (max_eq_right hx))]
      exact Nat.zero_le _
  exact h.2.trans (Nat.succ_le_succ hfloor)

lemma bracket_onto (hn : 0 < n) (x : ℝ) :
    bracket n hn (real x) = bracket n hn (real (onto n x)) := by
  have hside : onSide n (real (onto n x)) = onSide n (real x) := by
    have hlast : onto n x ≤ ((n - 1 : ℕ) : ℝ) := min_le_right _ _
    rw [onSide_eq, onSide_eq, max_eq_left (onto_nonneg n x), min_eq_left hlast, onto]
  simp only [bracket, hside]

/-- **A blend along a side lies where the values at the ends of its interval lie.** -/
lemma blend_bracket_mem (hs : Convex ℝ s) (hn : 0 < n) (hsize : n ≤ 2 ^ 64) (x : ℝ)
    {f : Fin n → Exact} (hfinite : ∀ i, Scalar.isFinite (f i) = true)
    (hf : ∀ i, IsEnd n x i.val → (f i).In s) :
    (blend (f (bracket n hn (real x)).lo) (f (bracket n hn (real x)).hi)
      (bracket n hn (real x)).t).In s := by
  have h₀ := onto_nonneg n x
  have h₁ := onto_add_one_le hn x
  rw [bracket_onto]
  obtain ⟨t, ht, hstraddles⟩ := straddles_bracket hn (floor_lt_word hsize h₀ h₁) h₀ h₁
  generalize bracket n hn (real (onto n x)) = b at ht hstraddles
  obtain ⟨lo, hi, _⟩ := b
  obtain ⟨heq, hcases⟩ := hstraddles
  simp only at ht heq hcases ⊢
  have hpart : 0 ≤ t ∧ t ≤ 1 := by
    rcases hcases with ⟨-, hpart⟩ | ⟨-, rfl⟩
    · exact hpart
    · exact ⟨le_rfl, zero_le_one⟩
  have hnext : hi.val ≤ lo.val + 1 ∧ lo.val ≤ hi.val := by
    rcases hcases with ⟨hnext, -⟩ | ⟨rfl, -⟩ <;> omega
  rw [ht]
  rcases hpart.2.lt_or_eq with hlt | rfl
  · -- Before the next node the lower one is the whole part of the coordinate.
    have hfloor : ⌊onto n x⌋₊ = lo.val := by
      rw [Nat.floor_eq_iff h₀]
      constructor <;> linarith
    refine blend_mem hs (hf lo ?_) (hf hi ?_) ⟨t, hpart, rfl⟩ <;> constructor <;> omega
  · -- At the next node the lower one counts for nothing.
    have hnext : hi.val = lo.val + 1 := by
      rcases hcases with ⟨hnext, -⟩ | ⟨-, hone⟩
      · exact hnext
      · exact absurd hone one_ne_zero
    have hfloor : ⌊onto n x⌋₊ = hi.val := by
      rw [heq, hnext, ← Nat.cast_add_one, Nat.floor_natCast]
    obtain ⟨y, hy, hvalue⟩ := hf hi ⟨hfloor.le, by omega⟩
    refine ⟨y, hy, ?_⟩
    rw [eq_real_toReal (hfinite lo), hvalue, blend_real, sub_self, mul_zero, zero_add, mul_one]

lemma mem_around_iff (hsize : n ≤ 2 ^ 64) (hn : 0 < n) (x : ℝ) (i : Fin n) :
    i ∈ around n (real x) ↔ IsEnd n x i.val := by
  have h₀ := onto_nonneg n x
  have hword := floor_lt_word hsize h₀ (onto_add_one_le hn x)
  have hlo : Scalar.toNat (Scalar.floor (onSide n (real x))) = ⌊onto n x⌋₊ := by
    rw [onSide_eq, ← onto, floor_eq (Nat.floor_le h₀) (Nat.lt_floor_add_one _),
      toNat_natCast hword]
  have hlt := floor_onto_lt hn x
  rw [around, IsEnd]
  simp only [hlo]
  split_ifs with hnext
  · simp only [List.mem_cons, List.not_mem_nil, or_false, Fin.ext_iff]
    omega
  · simp only [List.mem_singleton, Fin.ext_iff]
    omega

/-! ## In a lattice -/

variable {L : Lattice} {p : Vec3 Exact} {v : Field L Exact}

/-- The node is a corner of the cell of nodes that a point, given in node coordinates, lies in when
it is moved onto the lattice. -/
def IsCorner (L : Lattice) (p : Vec3 Exact) (n : L.Node) : Prop :=
  ∀ a, IsEnd (L.side a) (p.get a).toReal ((L.coords n.val).get a)

/-- The value lies between the least and the greatest value at the corners around a point. -/
def LiesAmong (v : Field L Exact) (p : Vec3 Exact) (a : Exact) : Prop :=
  ∃ m n, IsCorner L p m ∧ IsCorner L p n ∧ v.get m ≤ a ∧ a ≤ v.get n

lemma isCorner_nodeOf {i : Fin L.nx} {j : Fin L.ny} {k : Fin L.nz} :
    IsCorner L p (L.nodeOf i j k) ↔ IsEnd L.nx p.x.toReal i.val ∧ IsEnd L.ny p.y.toReal j.val ∧
      IsEnd L.nz p.z.toReal k.val := by
  simp only [IsCorner, Lattice.coords_nodeOf]
  constructor
  · intro h
    exact ⟨h .x, h .y, h .z⟩
  · rintro ⟨hx, hy, hz⟩ a
    cases a <;> assumption

/-- **What is blended at a point lies where the values at its corners lie.** -/
theorem interpolate_mem_of_corners (hL : L.Indexable) (hs : Convex ℝ s)
    (hfinite : ∀ n, Scalar.isFinite (v.get n) = true)
    (hv : ∀ n, IsCorner L p n → (v.get n).In s) (hp : p.isFinite = true) :
    (interpolate v p).In s := by
  obtain ⟨x, y, z, rfl⟩ := Vec3.isFinite_iff.mp hp
  let row (j : Fin L.ny) (k : Fin L.nz) : Exact :=
    blend (v.get (L.nodeOf (bracket L.nx L.nx_pos (real x)).lo j k))
      (v.get (L.nodeOf (bracket L.nx L.nx_pos (real x)).hi j k)) (bracket L.nx L.nx_pos (real x)).t
  let layer (k : Fin L.nz) : Exact :=
    blend (row (bracket L.ny L.ny_pos (real y)).lo k) (row (bracket L.ny L.ny_pos (real y)).hi k)
      (bracket L.ny L.ny_pos (real y)).t
  have hrow : ∀ {s : Set ℝ}, Convex ℝ s → ∀ j k,
      (∀ i : Fin L.nx, IsEnd L.nx x i.val → (v.get (L.nodeOf i j k)).In s) → (row j k).In s :=
    fun hs j k h => blend_bracket_mem hs L.nx_pos hL.nx x (fun i => hfinite _) h
  have hlayer : ∀ {s : Set ℝ}, Convex ℝ s → ∀ k,
      (∀ j : Fin L.ny, IsEnd L.ny y j.val → (row j k).In s) → (layer k).In s :=
    fun hs k h => blend_bracket_mem hs L.ny_pos hL.ny y
      (fun j => in_univ.mp (hrow convex_univ j k fun i _ => in_univ.mpr (hfinite _))) h
  have hall := blend_bracket_mem hs L.nz_pos hL.nz z (f := layer)
    (fun k => in_univ.mp (hlayer convex_univ k fun j _ =>
      hrow convex_univ j k fun i _ => in_univ.mpr (hfinite _)))
  refine hall fun k hk => hlayer hs k fun j hj => hrow hs j k fun i hi => ?_
  exact hv _ (isCorner_nodeOf.mpr ⟨hi, hj, hk⟩)

lemma LiesAmong.isFinite (hfinite : ∀ n, Scalar.isFinite (v.get n) = true) {a : Exact}
    (h : LiesAmong v p a) : Scalar.isFinite a = true := by
  obtain ⟨m, n, -, -, hm, hn⟩ := h
  obtain ⟨x, hx⟩ := isFinite_iff.mp (hfinite m)
  obtain ⟨y, hy⟩ := isFinite_iff.mp (hfinite n)
  rw [hx] at hm
  rw [hy] at hn
  cases a with
  | real _ => rfl
  | posInf => exact absurd hn (not_le_of_lt (real_lt_posInf y))
  | negInf => exact absurd hm (not_le_of_lt trivial)
  | nan => exact absurd hm (not_le_nan _)

/-- The numbers between values at the corners. -/
def range (v : Field L Exact) (p : Vec3 Exact) : Set ℝ := {y | LiesAmong v p (real y)}

lemma convex_range (v : Field L Exact) (p : Vec3 Exact) : Convex ℝ (range v p) := by
  refine Set.OrdConnected.convex ⟨?_⟩
  rintro x ⟨m, -, hm, -, hmx, -⟩ y ⟨-, n, -, hn, -, hyn⟩ z ⟨hxz, hzy⟩
  exact ⟨m, n, hm, hn, Exact.le_trans hmx (real_le_real.mpr hxz),
    Exact.le_trans (real_le_real.mpr hzy) hyn⟩

/-- **What is blended at a point lies among the values at its corners.** -/
theorem liesAmong_interpolate (hL : L.Indexable)
    (hfinite : ∀ n, Scalar.isFinite (v.get n) = true) (hp : p.isFinite = true) :
    LiesAmong v p (interpolate v p) := by
  have hcorner : ∀ n, IsCorner L p n → (v.get n).In (range v p) := by
    intro n hn
    obtain ⟨y, hy⟩ := isFinite_iff.mp (hfinite n)
    have hle : v.get n ≤ real y := hy ▸ Scalar.le_rfl_of_isFinite (hfinite n)
    exact ⟨y, ⟨n, n, hn, hn, hle, hy ▸ Scalar.le_rfl_of_isFinite (hfinite n)⟩, hy⟩
  obtain ⟨y, hy, heq⟩ := interpolate_mem_of_corners hL (convex_range v p) hfinite hcorner hp
  rw [heq]
  exact hy

lemma mem_valuesAround (hL : L.Indexable) (hp : p.isFinite = true) {a : Exact} :
    a ∈ valuesAround v p ↔ ∃ n, IsCorner L p n ∧ v.get n = a := by
  obtain ⟨x, y, z, rfl⟩ := Vec3.isFinite_iff.mp hp
  simp only [valuesAround, List.mem_flatMap, List.mem_map, mem_around_iff hL.nx L.nx_pos,
    mem_around_iff hL.ny L.ny_pos, mem_around_iff hL.nz L.nz_pos]
  constructor
  · rintro ⟨k, hk, j, hj, i, hi, rfl⟩
    exact ⟨L.nodeOf i j k, isCorner_nodeOf.mpr ⟨hi, hj, hk⟩, rfl⟩
  · rintro ⟨n, hn, rfl⟩
    obtain ⟨i, j, k, rfl⟩ := Lattice.exists_nodeOf n
    obtain ⟨hi, hj, hk⟩ := isCorner_nodeOf.mp hn
    exact ⟨k, hk, j, hj, i, hi, rfl⟩

lemma exists_isCorner (L : Lattice) (p : Vec3 Exact) : ∃ n, IsCorner L p n := by
  have hend : ∀ {n : ℕ}, 0 < n → ∀ x, ∃ i : Fin n, IsEnd n x i.val := fun hn x =>
    ⟨⟨⌊onto _ x⌋₊, floor_onto_lt hn x⟩, le_rfl, Nat.le_succ _⟩
  obtain ⟨i, hi⟩ := hend L.nx_pos p.x.toReal
  obtain ⟨j, hj⟩ := hend L.ny_pos p.y.toReal
  obtain ⟨k, hk⟩ := hend L.nz_pos p.z.toReal
  exact ⟨L.nodeOf i j k, isCorner_nodeOf.mpr ⟨hi, hj, hk⟩⟩

/-- The bounds of finite values, found from the infinities on, are two of them. -/
lemma foldl_bounds_mem {values : List Exact} (hne : values ≠ [])
    (hfinite : ∀ a ∈ values, Scalar.isFinite a = true) :
    (values.foldl (fun (bounds : Exact × Exact) s =>
        (Scalar.min bounds.1 s, Scalar.max bounds.2 s))
      (Scalar.infinity, -Scalar.infinity)).1 ∈ values ∧
    (values.foldl (fun (bounds : Exact × Exact) s =>
        (Scalar.min bounds.1 s, Scalar.max bounds.2 s))
      (Scalar.infinity, -Scalar.infinity)).2 ∈ values := by
  have hmin : ∀ {l : List Exact} {a b : Exact}, a ∈ l → b ∈ l → Scalar.min a b ∈ l := by
    intro l a b ha hb
    rw [Scalar.min]
    split_ifs <;> assumption
  have hmax : ∀ {l : List Exact} {a b : Exact}, a ∈ l → b ∈ l → Scalar.max a b ∈ l := by
    intro l a b ha hb
    rw [Scalar.max]
    split_ifs <;> assumption
  cases values with
  | nil => exact absurd rfl hne
  | cons a values =>
      obtain ⟨x, rfl⟩ := isFinite_iff.mp (hfinite a List.mem_cons_self)
      have hfirst : (Scalar.min Scalar.infinity (real x), Scalar.max (-Scalar.infinity) (real x)) =
          (real x, real x) :=
        Prod.ext (Scalar.min_infinity (isFinite_real x)) (if_pos trivial)
      rw [List.foldl_cons, hfirst]
      refine List.foldlRecOn (motive := fun bounds : Exact × Exact =>
        bounds.1 ∈ real x :: values ∧ bounds.2 ∈ real x :: values) _ _
        ⟨List.mem_cons_self, List.mem_cons_self⟩ fun bounds hbounds b hb => ?_
      have hb := List.mem_cons_of_mem (real x) hb
      exact ⟨hmin hbounds.1 hb, hmax hbounds.2 hb⟩

/-- **The values that bound a sample are values at its corners.** -/
theorem exists_boundsAt_eq (hL : L.Indexable) (hfinite : ∀ n, Scalar.isFinite (v.get n) = true)
    (hp : p.isFinite = true) :
    ∃ m n, IsCorner L p m ∧ IsCorner L p n ∧ boundsAt v p = (v.get m, v.get n) := by
  obtain ⟨c, hc⟩ := exists_isCorner L p
  have hne := List.ne_nil_of_mem ((mem_valuesAround hL hp).mpr ⟨c, hc, rfl⟩ :
    v.get c ∈ valuesAround v p)
  obtain ⟨hlo, hhi⟩ := foldl_bounds_mem hne fun a ha => by
    obtain ⟨n, -, rfl⟩ := (mem_valuesAround hL hp).mp ha
    exact hfinite n
  obtain ⟨m, hm, hlo⟩ := (mem_valuesAround hL hp).mp hlo
  obtain ⟨n, hn, hhi⟩ := (mem_valuesAround hL hp).mp hhi
  exact ⟨m, n, hm, hn, (Prod.ext hlo hhi).symm⟩

end Field

end FreeSurface

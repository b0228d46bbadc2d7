import Mathlib.Data.Nat.Dist
import FreeSurface.Proofs.Lattice.Incidence

/-!
# Steps between nodes

A step leads from a node to one of the nodes around it.  As many steps are needed from one node to
another as they are apart along all the axes together (`Lattice.steps`).

* `Lattice.steps_le` — a step changes the number of steps to any node by one at most.
* `Lattice.exists_toward` — a step can always be made towards a node, along one axis and not past
  the node.
-/

namespace FreeSurface

/-! ## Coordinates axis by axis -/

namespace Coords

lemma ext_get {c c' : Coords} (h : ∀ a, c.get a = c'.get a) : c = c' := by
  obtain ⟨i, j, k⟩ := c
  obtain ⟨i', j', k'⟩ := c'
  rw [mk.injEq]
  exact ⟨h .x, h .y, h .z⟩

@[simp] lemma get_succ (c : Coords) (a b : Axis) :
    (c.succ a).get b = if a = b then c.get b + 1 else c.get b := by
  cases a <;> cases b <;> rfl

end Coords

namespace Lattice

variable {L : Lattice} {n m o : L.Node}

/-- The number of nodes along an axis. -/
def side (L : Lattice) : Axis → ℕ
  | .x => L.nx
  | .y => L.ny
  | .z => L.nz

lemma contains_iff {c : Coords} : L.Contains c ↔ ∀ a, c.get a < L.side a := by
  constructor
  · rintro ⟨hi, hj, hk⟩ a
    cases a <;> assumption
  · intro h
    exact ⟨h .x, h .y, h .z⟩

lemma get_coords_lt (n : L.Node) (a : Axis) : (L.coords n.val).get a < L.side a :=
  contains_iff.mp (L.contains_coords n.isLt) a

lemma mem_neighbors_iff :
    m ∈ L.neighbors n ↔ ∃ a, L.coords m.val = (L.coords n.val).succ a ∨
      L.coords n.val = (L.coords m.val).succ a := by
  rw [mem_neighbors]
  constructor
  · rintro ⟨a, s, h⟩
    cases s with
    | lower => exact ⟨a, .inr (L.neighbor?_lower_eq_some.mp h)⟩
    | upper => exact ⟨a, .inl (L.neighbor?_upper_eq_some.mp h)⟩
  · rintro ⟨a, h | h⟩
    · exact ⟨a, .upper, L.neighbor?_upper_eq_some.mpr h⟩
    · exact ⟨a, .lower, L.neighbor?_lower_eq_some.mpr h⟩

/-- The way down from a node that has been reached by a step up. -/
lemma neighbor?_succ_lower (c : Coords) (a : Axis) :
    L.neighbor? (c.succ a) a .lower = L.nodeAt? c := by
  refine Option.ext fun n => ?_
  rw [L.neighbor?_lower_eq_some, L.nodeAt?_eq_some]
  exact ⟨fun h => (Coords.succ_injective a h).symm, fun h => h ▸ rfl⟩

/-- There is no way down from the lowest layer. -/
lemma neighbor?_lower_eq_none {c : Coords} {a : Axis} (h : c.get a = 0) :
    L.neighbor? c a .lower = none := by
  rw [Option.eq_none_iff_forall_ne_some]
  intro n hn
  rw [L.neighbor?_lower_eq_some.mp hn, Coords.get_succ, if_pos rfl] at h
  omega

/-! ## Steps -/

/-- How many steps lead from one node to another. -/
def steps (L : Lattice) (n m : L.Node) : ℕ :=
  (Axis.all.map fun a => Nat.dist ((L.coords n.val).get a) ((L.coords m.val).get a)).sum

lemma steps_eq (n m : L.Node) :
    L.steps n m = Nat.dist ((L.coords n.val).get .x) ((L.coords m.val).get .x) +
      Nat.dist ((L.coords n.val).get .y) ((L.coords m.val).get .y) +
      Nat.dist ((L.coords n.val).get .z) ((L.coords m.val).get .z) := by
  simp only [steps, Axis.all, List.map_cons, List.map_nil, List.sum_cons, List.sum_nil, add_zero,
    add_assoc]

lemma steps_eq_zero_iff : L.steps n m = 0 ↔ n = m := by
  constructor
  · intro h
    rw [steps_eq, Nat.add_eq_zero_iff, Nat.add_eq_zero_iff] at h
    refine L.coords_injective (Coords.ext_get fun a => ?_)
    cases a with
    | x => exact Nat.eq_of_dist_eq_zero h.1.1
    | y => exact Nat.eq_of_dist_eq_zero h.1.2
    | z => exact Nat.eq_of_dist_eq_zero h.2
  · rintro rfl
    simp only [steps_eq, Nat.dist_self]

lemma steps_triangle (n m o : L.Node) : L.steps n o ≤ L.steps n m + L.steps m o := by
  have triangle := fun a => Nat.dist.triangle_inequality ((L.coords n.val).get a)
    ((L.coords m.val).get a) ((L.coords o.val).get a)
  have hx := triangle .x
  have hy := triangle .y
  have hz := triangle .z
  rw [steps_eq, steps_eq, steps_eq]
  omega

/-- Fewer steps than the sides have nodes are enough. -/
lemma steps_add_two_lt (n m : L.Node) : L.steps n m + 2 < L.nx + L.ny + L.nz := by
  have hlt : ∀ a, Nat.dist ((L.coords n.val).get a) ((L.coords m.val).get a) < L.side a := by
    intro a
    have hn := get_coords_lt n a
    have hm := get_coords_lt m a
    simp only [Nat.dist]
    omega
  have hx : _ < L.nx := hlt .x
  have hy : _ < L.ny := hlt .y
  have hz : _ < L.nz := hlt .z
  rw [steps_eq]
  omega

/-- Fewer steps than there are nodes are enough. -/
lemma steps_lt_size (n m : L.Node) : L.steps n m < L.size := by
  obtain ⟨i, hi⟩ := Nat.exists_eq_add_one.mpr L.nx_pos
  obtain ⟨j, hj⟩ := Nat.exists_eq_add_one.mpr L.ny_pos
  obtain ⟨k, hk⟩ := Nat.exists_eq_add_one.mpr L.nz_pos
  have hsize : L.size = i + j + k + 1 + (i * j + i * k + j * k + i * j * k) := by
    rw [size, hi, hj, hk]
    ring
  have := steps_add_two_lt n m
  omega

lemma steps_eq_one (h : m ∈ L.neighbors n) : L.steps n m = 1 := by
  obtain ⟨a, h | h⟩ := mem_neighbors_iff.mp h <;>
    cases a <;> simp [steps_eq, h, Nat.dist]

/-- A step changes the way to any node by one at most. -/
lemma steps_le (h : m ∈ L.neighbors n) (o : L.Node) : L.steps n o ≤ L.steps m o + 1 := by
  have := steps_triangle n m o
  rw [steps_eq_one h] at this
  omega

/-- Along every axis the node lies between two others. -/
def Between (L : Lattice) (n m o : L.Node) : Prop :=
  ∀ a, (L.coords n.val).get a ≤ (L.coords m.val).get a ∧
      (L.coords m.val).get a ≤ (L.coords o.val).get a ∨
    (L.coords o.val).get a ≤ (L.coords m.val).get a ∧
      (L.coords m.val).get a ≤ (L.coords n.val).get a

/-- A node between two others is on a shortest way from one to the other. -/
lemma Between.steps_eq_add (h : L.Between n m o) : L.steps n o = L.steps n m + L.steps m o := by
  have hdist : ∀ a, Nat.dist ((L.coords n.val).get a) ((L.coords o.val).get a) =
      Nat.dist ((L.coords n.val).get a) ((L.coords m.val).get a) +
        Nat.dist ((L.coords m.val).get a) ((L.coords o.val).get a) := by
    intro a
    have := h a
    simp only [Nat.dist]
    omega
  simp only [steps_eq, hdist]
  omega

lemma exists_above {a : Axis} (h : (L.coords n.val).get a < (L.coords o.val).get a) :
    ∃ m, L.coords m.val = (L.coords n.val).succ a ∧ L.Between n m o := by
  have hcontains : L.Contains ((L.coords n.val).succ a) := by
    refine contains_iff.mpr fun b => ?_
    rw [Coords.get_succ]
    split_ifs with hab
    · subst hab
      have := get_coords_lt o a
      omega
    · exact get_coords_lt n b
  have hm := L.coords_node hcontains
  refine ⟨L.node _ hcontains, hm, fun b => ?_⟩
  rw [hm, Coords.get_succ]
  split_ifs with hab
  · subst hab
    omega
  · omega

lemma exists_below {a : Axis} (h : (L.coords o.val).get a < (L.coords n.val).get a) :
    ∃ m, L.coords n.val = (L.coords m.val).succ a ∧ L.Between n m o := by
  obtain ⟨c, hc⟩ := Coords.exists_succ (Nat.ne_zero_of_lt h)
  have hget : ∀ b, (L.coords n.val).get b = if a = b then c.get b + 1 else c.get b := by
    intro b
    rw [hc, Coords.get_succ]
  have hcontains : L.Contains c := by
    refine contains_iff.mpr fun b => ?_
    have := get_coords_lt n b
    rw [hget] at this
    split_ifs at this <;> omega
  have hm := L.coords_node hcontains
  refine ⟨L.node _ hcontains, by rw [hm, hc], fun b => ?_⟩
  rw [hm, hget]
  split_ifs with hab
  · subst hab
    rw [hget, if_pos rfl] at h
    omega
  · omega

/-- From any other node a step can be made towards a node, and not past it. -/
lemma exists_toward (h : n ≠ o) :
    ∃ m ∈ L.neighbors n, L.steps n o = L.steps m o + 1 ∧ L.Between n m o := by
  obtain ⟨a, ha⟩ : ∃ a, (L.coords n.val).get a ≠ (L.coords o.val).get a := by
    by_contra hall
    push Not at hall
    exact h (L.coords_injective (Coords.ext_get hall))
  obtain ⟨m, hm, hbetween⟩ : ∃ m ∈ L.neighbors n, L.Between n m o := by
    rcases Nat.lt_or_gt_of_ne ha with hlt | hgt
    · obtain ⟨m, hm, hbetween⟩ := exists_above hlt
      exact ⟨m, mem_neighbors_iff.mpr ⟨a, .inl hm⟩, hbetween⟩
    · obtain ⟨m, hm, hbetween⟩ := exists_below hgt
      exact ⟨m, mem_neighbors_iff.mpr ⟨a, .inr hm⟩, hbetween⟩
  refine ⟨m, hm, ?_, hbetween⟩
  rw [hbetween.steps_eq_add, steps_eq_one hm, add_comm]

end Lattice

end FreeSurface

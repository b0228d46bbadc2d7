import Mathlib.Data.List.Nodup
import Mathlib.Tactic.Ring
import FreeSurface.Lattice.Dims

/-!
# Incidence

How the numbers of nodes, their coordinates, steps between them, and the faces between cells fit
together.

* `Lattice.coords_index`, `Lattice.index_coords` — numbers and coordinates determine each other.
* `Lattice.neighbor?_symm` — a step up is undone by a step down.
* `Lattice.neighbors_eq` — the nodes around a node, axis by axis and side by side; no node is listed
  twice (`Lattice.nodup_neighbors`).
* `Dims.faceCells_cellFace_lower`, `Dims.faceCells_cellFace_upper` — the cells on either side of the
  faces of a cell.
-/

namespace FreeSurface

/-! ## Coordinates -/

namespace Coords

lemma step?_upper (c : Coords) (a : Axis) : c.step? a .upper = some (c.succ a) := by
  cases a <;> rfl

lemma step?_lower_eq_some {c c' : Coords} {a : Axis} :
    c.step? a .lower = some c' ↔ c = c'.succ a := by
  obtain ⟨i, j, k⟩ := c
  obtain ⟨i', j', k'⟩ := c'
  cases a with
  | x =>
      simp only [step?, succ, mk.injEq]
      split_ifs <;> simp <;> omega
  | y =>
      simp only [step?, succ, mk.injEq]
      split_ifs <;> simp <;> omega
  | z =>
      simp only [step?, succ, mk.injEq]
      split_ifs <;> simp <;> omega

lemma succ_injective (a : Axis) : Function.Injective fun c : Coords => c.succ a := by
  rintro ⟨i, j, k⟩ ⟨i', j', k'⟩ h
  cases a <;> simp only [succ, mk.injEq] at h ⊢ <;> omega

lemma succ_ne_self (c : Coords) (a : Axis) : c.succ a ≠ c := by
  obtain ⟨i, j, k⟩ := c
  cases a <;> simp [succ]

/-- Steps up along different axes lead to different coordinates. -/
lemma axis_eq_of_succ_eq {c : Coords} {a b : Axis} (h : c.succ a = c.succ b) : a = b := by
  obtain ⟨i, j, k⟩ := c
  cases a <;> cases b <;> simp_all [succ]

/-- Two steps up lead away. -/
lemma succ_succ_ne_self (c : Coords) (a b : Axis) : (c.succ a).succ b ≠ c := by
  obtain ⟨i, j, k⟩ := c
  cases a <;> cases b <;> simp [succ] <;> omega

lemma exists_succ {c : Coords} {a : Axis} (h : c.get a ≠ 0) : ∃ c' : Coords, c = c'.succ a := by
  obtain ⟨i, j, k⟩ := c
  cases a with
  | x => exact ⟨⟨i - 1, j, k⟩, congrArg (mk · j k) (Nat.succ_pred_eq_of_ne_zero h).symm⟩
  | y => exact ⟨⟨i, j - 1, k⟩, congrArg (mk i · k) (Nat.succ_pred_eq_of_ne_zero h).symm⟩
  | z => exact ⟨⟨i, j, k - 1⟩, congrArg (mk i j ·) (Nat.succ_pred_eq_of_ne_zero h).symm⟩

end Coords

/-! ## Numbers of nodes -/

namespace Lattice

variable (L : Lattice)

lemma index_eq (c : Coords) : L.index c = c.i + L.nx * (c.j + L.ny * c.k) := by
  rw [index]
  ring

lemma coords_index {c : Coords} (h : L.Contains c) : L.coords (L.index c) = c := by
  obtain ⟨hi, hj, -⟩ := h
  have hrow : L.index c / L.nx = c.j + L.ny * c.k := by
    rw [index_eq, Nat.add_mul_div_left _ _ L.nx_pos, Nat.div_eq_of_lt hi, Nat.zero_add]
  have hi' : L.index c % L.nx = c.i := by
    rw [index_eq, Nat.add_mul_mod_self_left, Nat.mod_eq_of_lt hi]
  have hj' : L.index c / L.nx % L.ny = c.j := by
    rw [hrow, Nat.add_mul_mod_self_left, Nat.mod_eq_of_lt hj]
  have hk' : L.index c / (L.nx * L.ny) = c.k := by
    rw [← Nat.div_div_eq_div_mul, hrow, Nat.add_mul_div_left _ _ L.ny_pos, Nat.div_eq_of_lt hj,
      Nat.zero_add]
  simp only [coords, hi', hj', hk']

lemma index_coords (n : ℕ) : L.index (L.coords n) = n := by
  rw [index_eq]
  simp only [coords]
  rw [← Nat.div_div_eq_div_mul, Nat.mod_add_div, Nat.mod_add_div]

@[simp] lemma coords_node {c : Coords} (h : L.Contains c) : L.coords (L.node c h).val = c :=
  L.coords_index h

lemma coords_nodeOf (i : Fin L.nx) (j : Fin L.ny) (k : Fin L.nz) :
    L.coords (L.nodeOf i j k).val = ⟨i.val, j.val, k.val⟩ :=
  L.coords_index ⟨i.isLt, j.isLt, k.isLt⟩

/-- Coordinates tell nodes apart. -/
lemma coords_injective {n m : L.Node} (h : L.coords n.val = L.coords m.val) : n = m := by
  have hindex := congrArg L.index h
  rw [index_coords, index_coords] at hindex
  exact Fin.ext hindex

lemma nodeAt?_eq_some {c : Coords} {n : L.Node} : L.nodeAt? c = some n ↔ L.coords n.val = c := by
  rw [nodeAt?]
  split_ifs with h
  · rw [Option.some.injEq]
    constructor
    · rintro rfl
      exact L.coords_node h
    · intro hn
      exact L.coords_injective ((L.coords_node h).trans hn.symm)
  · simp only [false_iff]
    rintro rfl
    exact h (L.contains_coords n.isLt)

@[simp] lemma nodeAt?_coords (n : L.Node) : L.nodeAt? (L.coords n.val) = some n :=
  L.nodeAt?_eq_some.mpr rfl

/-! ## Steps -/

lemma neighbor?_upper (c : Coords) (a : Axis) :
    L.neighbor? c a .upper = L.nodeAt? (c.succ a) := by
  rw [neighbor?, Coords.step?_upper]

lemma neighbor?_lower_eq_some {c : Coords} {a : Axis} {n : L.Node} :
    L.neighbor? c a .lower = some n ↔ c = (L.coords n.val).succ a := by
  rw [neighbor?]
  cases h : c.step? a .lower with
  | none =>
      simp only [reduceCtorEq, false_iff]
      intro hc
      rw [Coords.step?_lower_eq_some.mpr hc] at h
      cases h
  | some c' =>
      rw [Coords.step?_lower_eq_some] at h
      simp only [nodeAt?_eq_some]
      rw [h]
      constructor
      · rintro rfl
        rfl
      · intro hc
        exact (Coords.succ_injective a hc).symm

lemma neighbor?_upper_eq_some {c : Coords} {a : Axis} {n : L.Node} :
    L.neighbor? c a .upper = some n ↔ L.coords n.val = c.succ a := by
  rw [neighbor?_upper, nodeAt?_eq_some]

/-- A step up is undone by a step down. -/
lemma neighbor?_symm {n m : L.Node} {a : Axis} :
    L.neighbor? (L.coords n.val) a .upper = some m ↔
      L.neighbor? (L.coords m.val) a .lower = some n := by
  rw [neighbor?_upper_eq_some, neighbor?_lower_eq_some]

/-- A step is undone by the step back. -/
lemma neighbor?_opposite {n m : L.Node} {a : Axis} {s : Side}
    (h : L.neighbor? (L.coords n.val) a s = some m) :
    L.neighbor? (L.coords m.val) a s.opposite = some n := by
  cases s with
  | lower => exact L.neighbor?_symm.mpr h
  | upper => exact L.neighbor?_symm.mp h

lemma neighborsAlong_eq (c : Coords) (a : Axis) :
    L.neighborsAlong c a = (L.neighbor? c a .lower).toList ++ (L.neighbor? c a .upper).toList := by
  rw [neighborsAlong]
  cases L.neighbor? c a .lower <;> cases L.neighbor? c a .upper <;> rfl

/-- The nodes around a node, axis by axis and side by side. -/
lemma neighbors_eq (n : L.Node) :
    L.neighbors n = Axis.all.flatMap fun a => Side.all.flatMap fun s =>
      (L.neighbor? (L.coords n.val) a s).toList := by
  simp only [neighbors, neighborsAlong_eq, Axis.all, Side.all, List.flatMap_cons, List.flatMap_nil,
    List.append_nil, List.append_assoc]

lemma mem_neighbors {n m : L.Node} :
    m ∈ L.neighbors n ↔ ∃ a s, L.neighbor? (L.coords n.val) a s = some m := by
  rw [neighbors_eq]
  simp only [List.mem_flatMap, Option.mem_toList]
  constructor
  · rintro ⟨a, -, s, -, h⟩
    exact ⟨a, s, h⟩
  · rintro ⟨a, s, h⟩
    exact ⟨a, a.mem_all, s, by cases s <;> simp [Side.all], h⟩

lemma mem_neighbors_symm {n m : L.Node} : m ∈ L.neighbors n ↔ n ∈ L.neighbors m := by
  have hsymm : ∀ {n m : L.Node}, m ∈ L.neighbors n → n ∈ L.neighbors m := by
    intro n m h
    obtain ⟨a, s, h⟩ := L.mem_neighbors.mp h
    exact L.mem_neighbors.mpr ⟨a, s.opposite, L.neighbor?_opposite h⟩
  exact ⟨hsymm, hsymm⟩

/-- A node has at most two neighbours along each axis. -/
lemma length_neighbors_le (n : L.Node) : (L.neighbors n).length ≤ 6 := by
  have htwo : ∀ a, (L.neighborsAlong (L.coords n.val) a).length ≤ 2 := by
    intro a
    rw [neighborsAlong_eq, List.length_append]
    exact Nat.add_le_add Option.length_toList_le Option.length_toList_le
  rw [neighbors, List.length_append, List.length_append]
  have hx := htwo .x
  have hy := htwo .y
  have hz := htwo .z
  omega

/-- No step leads back to where it starts. -/
lemma not_mem_neighbors_self (n : L.Node) : n ∉ L.neighbors n := by
  intro h
  obtain ⟨a, s, hn⟩ := L.mem_neighbors.mp h
  cases s with
  | lower => exact Coords.succ_ne_self _ a (L.neighbor?_lower_eq_some.mp hn).symm
  | upper => exact Coords.succ_ne_self _ a (L.neighbor?_upper_eq_some.mp hn).symm

/-- Different steps lead to different nodes. -/
lemma neighbor?_injective {n m : L.Node} {a b : Axis} {s t : Side}
    (h : L.neighbor? (L.coords n.val) a s = some m)
    (h' : L.neighbor? (L.coords n.val) b t = some m) : a = b ∧ s = t := by
  cases s with
  | lower =>
      rw [neighbor?_lower_eq_some] at h
      cases t with
      | lower =>
          rw [neighbor?_lower_eq_some, h] at h'
          exact ⟨Coords.axis_eq_of_succ_eq h', rfl⟩
      | upper =>
          rw [neighbor?_upper_eq_some, h] at h'
          exact absurd h'.symm (Coords.succ_succ_ne_self _ a b)
  | upper =>
      rw [neighbor?_upper_eq_some] at h
      cases t with
      | lower =>
          rw [neighbor?_lower_eq_some, h] at h'
          exact absurd h'.symm (Coords.succ_succ_ne_self _ a b)
      | upper =>
          rw [neighbor?_upper_eq_some, h] at h'
          exact ⟨Coords.axis_eq_of_succ_eq h', rfl⟩

/-- No node is listed twice around another one. -/
lemma nodup_neighbors (n : L.Node) : (L.neighbors n).Nodup := by
  have hsteps : L.neighbors n = (Axis.all.product Side.all).filterMap fun e =>
      L.neighbor? (L.coords n.val) e.1 e.2 := by
    rw [neighbors_eq, List.filterMap_eq_flatMap_toList, List.product, List.flatMap_assoc]
    simp only [List.flatMap_map]
  rw [hsteps]
  refine List.Nodup.filterMap ?_ (by decide)
  rintro ⟨a, s⟩ ⟨b, t⟩ m h h'
  obtain ⟨rfl, rfl⟩ := L.neighbor?_injective h h'
  rfl

end Lattice

/-! ## Faces -/

namespace Dims

/-- The planar domain with `m + 1` by `n + 1` cells. -/
def planar (m n : ℕ) : Dims := ⟨m + 1, n + 1, 1, m.succ_pos, n.succ_pos, Nat.one_pos⟩

variable {d : Dims}

abbrev coordsOf (c : d.Cell) : Coords := d.cells.coords c.val

/-- The cell one step away from a cell, where there is one. -/
abbrev next? (c : d.Cell) (a : Axis) (s : Side) : Option d.Cell :=
  d.cells.neighbor? (coordsOf c) a s

@[simp] lemma coords_cellFace_lower (a : Axis) (c : d.Cell) :
    (d.faces a).coords (d.cellFace a c .lower).val = coordsOf c :=
  (d.faces a).coords_index
    (d.contains_faces_of_contains_cells a (d.cells.contains_coords c.isLt)).1

@[simp] lemma coords_cellFace_upper (a : Axis) (c : d.Cell) :
    (d.faces a).coords (d.cellFace a c .upper).val = (coordsOf c).succ a :=
  (d.faces a).coords_index
    (d.contains_faces_of_contains_cells a (d.cells.contains_coords c.isLt)).2

lemma cellFace_upper_eq_iff {a : Axis} {c : d.Cell} {f : d.Face a} :
    d.cellFace a c .upper = f ↔ (d.faces a).coords f.val = (coordsOf c).succ a := by
  rw [← coords_cellFace_upper]
  exact ⟨fun h => h ▸ rfl, fun h => (d.faces a).coords_injective h.symm⟩

lemma cellFace_lower_eq_iff {a : Axis} {c : d.Cell} {f : d.Face a} :
    d.cellFace a c .lower = f ↔ coordsOf c = (d.faces a).coords f.val := by
  rw [← coords_cellFace_lower a c]
  exact ⟨fun h => h ▸ rfl, fun h => (d.faces a).coords_injective h⟩

/-- A face is on the given side of one cell only. -/
lemma cellFace_injective {a : Axis} (s : Side) :
    Function.Injective fun c : d.Cell => d.cellFace a c s := by
  intro c c' h
  cases s with
  | lower =>
      have hc := cellFace_lower_eq_iff.mp h
      rw [coords_cellFace_lower] at hc
      exact d.cells.coords_injective hc
  | upper =>
      have hc := cellFace_upper_eq_iff.mp h
      rw [coords_cellFace_upper] at hc
      exact d.cells.coords_injective (Coords.succ_injective a hc).symm

lemma cellFace_lower_ne_upper {a : Axis} (c : d.Cell) :
    d.cellFace a c .lower ≠ d.cellFace a c .upper := by
  intro h
  have hc := cellFace_lower_eq_iff.mp h
  rw [coords_cellFace_upper] at hc
  exact Coords.succ_ne_self _ a hc.symm

/-- Below a cell lies the cell one step down, above its lower face the cell itself. -/
lemma faceCells_cellFace_lower (a : Axis) (c : d.Cell) :
    d.faceCells a (d.cellFace a c .lower) = (next? c a .lower, some c) := by
  rw [faceCells, cellsAtFace, coords_cellFace_lower, Lattice.nodeAt?_coords]

lemma faceCells_cellFace_upper (a : Axis) (c : d.Cell) :
    d.faceCells a (d.cellFace a c .upper) = (some c, next? c a .upper) := by
  rw [faceCells, cellsAtFace]
  rw [coords_cellFace_upper, ← Lattice.neighbor?_upper,
    (Lattice.neighbor?_lower_eq_some _).mpr rfl]

/-- Two cells share the face between them. -/
lemma cellFace_upper_eq {a : Axis} {c n : d.Cell} (h : next? c a .upper = some n) :
    d.cellFace a c .upper = d.cellFace a n .lower := by
  rw [cellFace_upper_eq_iff, coords_cellFace_lower]
  exact (d.cells.neighbor?_upper_eq_some).mp h

/-- A planar domain has nothing in front of a cell and nothing behind it. -/
lemma next?_of_planar (h : d.isPlanar = true) (c : d.Cell) (s : Side) : next? c .z s = none := by
  have hdepth : d.depth = 1 := by simpa [isPlanar] using h
  have hlayer : ∀ n : d.Cell, (coordsOf n).k < d.depth := fun n =>
    (d.cells.contains_coords n.isLt).2.2
  rw [Option.eq_none_iff_forall_ne_some]
  intro n hn
  have hc := hlayer c
  have hn' := hlayer n
  cases s with
  | lower =>
      have hk : (coordsOf c).k = (coordsOf n).k + 1 :=
        congrArg Coords.k (d.cells.neighbor?_lower_eq_some.mp hn)
      omega
  | upper =>
      have hk : (coordsOf n).k = (coordsOf c).k + 1 :=
        congrArg Coords.k (d.cells.neighbor?_upper_eq_some.mp hn)
      omega

/-- All the cells around a cell lie along axes of motion. -/
lemma neighbors_eq_active (c : d.Cell) :
    d.cells.neighbors c = d.activeAxes.flatMap fun a => Side.all.flatMap fun s =>
      (next? c a s).toList := by
  rw [Lattice.neighbors_eq]
  rw [activeAxes]
  split_ifs with h
  · have hz : (Side.all.flatMap fun s => (next? c .z s).toList) = [] := by
      simp only [next?_of_planar h, Option.toList_none, Side.all, List.flatMap_cons,
        List.flatMap_nil, List.append_nil]
    simp only [Axis.all, List.flatMap_cons, List.flatMap_nil, List.append_nil, hz]
  · rfl

end Dims

end FreeSurface

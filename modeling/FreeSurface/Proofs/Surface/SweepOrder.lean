import FreeSurface.Proofs.Lattice.Boxes
import FreeSurface.Proofs.Lattice.Steps
import FreeSurface.Surface.Sweeping

/-!
# The order of a sweep

A sweep goes through all cells, and comes to a cell only after the cells that lie before it along
every axis (`Surface.Sweep.pairwise_cells`).  Away from any given cell some sweep goes in every
direction (`Surface.Sweep.exists_leadsAway`), so it meets the cells of a way that leads there from
the near end to the far one.
-/

namespace FreeSurface

namespace Surface

namespace Sweep

variable {d : Dims} {s : Sweep} {n m o c : d.Cell}

/-- The direction of a sweep along an axis. -/
def up (s : Sweep) : Axis → Bool
  | .x => s.i
  | .y => s.j
  | .z => s.k

/-- Positions in ascending order, in the direction of a sweep. -/
def rank (up : Bool) (i : ℕ) : ℤ := if up then i else -i

/-- Along some axis the sweep comes to the first cell before the second. -/
def Before (s : Sweep) (n m : d.Cell) : Prop :=
  ∃ a, rank (s.up a) ((d.cells.coords n.val).get a) < rank (s.up a) ((d.cells.coords m.val).get a)

/-- Along no axis does the sweep come nearer to the first cell on the way to the second. -/
def LeadsAway (s : Sweep) (o c : d.Cell) : Prop :=
  ∀ a, rank (s.up a) ((d.cells.coords o.val).get a) ≤ rank (s.up a) ((d.cells.coords c.val).get a)

/-! ## One sweep -/

lemma mem_along {k : ℕ} (up : Bool) (i : Fin k) : i ∈ along k up := by
  rw [along]
  split_ifs <;> simp

lemma pairwise_along (k : ℕ) (up : Bool) :
    (along k up).Pairwise fun i j => rank up i.val < rank up j.val := by
  have hlt := List.pairwise_lt_finRange k
  cases up with
  | true => exact hlt.imp fun h => Int.ofNat_lt.mpr h
  | false => exact List.pairwise_reverse.mpr (hlt.imp fun h => Int.neg_lt_neg (Int.ofNat_lt.mpr h))

lemma cells_eq_box (s : Sweep) (d : Dims) :
    s.cells d = Lattice.box (along d.width s.i) (along d.height s.j) (along d.depth s.k) := rfl

lemma mem_cells (s : Sweep) (c : d.Cell) : c ∈ s.cells d := by
  obtain ⟨i, j, k, rfl⟩ := Lattice.exists_nodeOf c
  rw [cells_eq_box]
  exact Lattice.mem_box.mpr ⟨mem_along _ i, mem_along _ j, mem_along _ k⟩

/-- Of two cells a sweep comes first to one that is before the other along some axis. -/
theorem pairwise_cells (s : Sweep) (d : Dims) : (s.cells d).Pairwise s.Before := by
  rw [cells_eq_box]
  refine Lattice.pairwise_box ?_ ?_ ?_
  · refine (pairwise_along _ _).imp fun h j j' k k' => ⟨.x, ?_⟩
    rwa [Lattice.coords_nodeOf, Lattice.coords_nodeOf]
  · refine (pairwise_along _ _).imp fun h i i' k k' => ⟨.y, ?_⟩
    rwa [Lattice.coords_nodeOf, Lattice.coords_nodeOf]
  · refine (pairwise_along _ _).imp fun h i i' j j' => ⟨.z, ?_⟩
    rwa [Lattice.coords_nodeOf, Lattice.coords_nodeOf]

/-! ## Away from a cell -/

lemma LeadsAway.of_between (h : s.LeadsAway o c) (hm : d.cells.Between c m o) :
    s.LeadsAway o m ∧ s.LeadsAway m c := by
  refine forall_and.mp fun a => ?_
  have ha := h a
  have hma := hm a
  cases hup : s.up a <;> simp only [hup, rank, if_true, if_false, Bool.false_eq_true] at ha ⊢ <;>
    omega

/-- A sweep that leads away from a cell to another does not come to the other first. -/
lemma LeadsAway.not_before (h : s.LeadsAway o c) : ¬s.Before c o := fun ⟨a, ha⟩ =>
  absurd (h a) (not_le.mpr ha)

/-- When a sweep comes to a cell, it has been at the cells that it leads away from. -/
lemma LeadsAway.mem_earlier (h : s.LeadsAway o c) (hne : o ≠ c) {earlier later : List d.Cell}
    (hcells : earlier ++ c :: later = s.cells d) : o ∈ earlier := by
  have ho := s.mem_cells o
  have hpairwise := s.pairwise_cells d
  rw [← hcells] at ho hpairwise
  rcases List.mem_append.mp ho with ho | ho
  · exact ho
  · have hlater := (List.mem_cons.mp ho).resolve_left hne
    have hbefore := (List.pairwise_cons.mp (List.pairwise_append.mp hpairwise).2.1).1 o hlater
    exact absurd hbefore h.not_before

lemma mem_all_of_isPlanar {i j : Bool} (h : d.isPlanar = true) : ⟨i, j, true⟩ ∈ all d := by
  rw [all, if_pos h]
  cases i <;> cases j <;> decide

lemma mem_all_of_not_isPlanar (s : Sweep) (h : ¬d.isPlanar = true) : s ∈ all d := by
  rw [all, if_neg h]
  obtain ⟨i, j, k⟩ := s
  cases i <;> cases j <;> cases k <;> decide

/-- **From any cell to any other some sweep leads away.** -/
theorem exists_leadsAway (o c : d.Cell) : ∃ s ∈ all d, s.LeadsAway o c := by
  set rises : Axis → Bool := fun a =>
    decide ((d.cells.coords o.val).get a ≤ (d.cells.coords c.val).get a) with hrises
  have hrank : ∀ a, rank (rises a) ((d.cells.coords o.val).get a) ≤
      rank (rises a) ((d.cells.coords c.val).get a) := by
    intro a
    simp only [hrises, rank, decide_eq_true_eq]
    split_ifs <;> omega
  by_cases hplanar : d.isPlanar = true
  · -- A planar domain has one layer only, so it does not matter that all sweeps go up there.
    refine ⟨⟨rises .x, rises .y, true⟩, mem_all_of_isPlanar hplanar, fun a => ?_⟩
    cases a with
    | x => exact hrank .x
    | y => exact hrank .y
    | z =>
        have hdepth : d.depth = 1 := beq_iff_eq.mp hplanar
        have ho : _ < d.depth := Lattice.get_coords_lt o .z
        have hc : _ < d.depth := Lattice.get_coords_lt c .z
        simp only [up, rank, if_true]
        omega
  · refine ⟨⟨rises .x, rises .y, rises .z⟩, mem_all_of_not_isPlanar _ hplanar, fun a => ?_⟩
    cases a with
    | x => exact hrank .x
    | y => exact hrank .y
    | z => exact hrank .z

end Sweep

end Surface

end FreeSurface

import Mathlib.Data.List.FinRange
import FreeSurface.Proofs.Field.Basic
import FreeSurface.Proofs.Lattice.Incidence
import FreeSurface.Projection.System

/-!
# Unknowns and their neighbours

The unknowns of the pressure equation are the open liquid cells, each once
(`Poisson.cellOf_injective`, `Poisson.exists_unknown`), and two unknowns are adjacent exactly when
their cells are (`Poisson.mem_adjacent`).
-/

namespace FreeSurface

open Dims

variable {d : Dims}

namespace Flags

lemma isObstacle_eq_false_of_isFluid {g : Flags d} {c : d.Cell} (h : g.isFluid c = true) :
    g.isObstacle c = false := by
  rw [← Bool.not_eq_true, isObstacle_iff, isFluid_iff.mp h]
  decide

/-- A cell that is neither solid nor air holds liquid. -/
lemma isFluid_of_ne {g : Flags d} {c : d.Cell} (hobstacle : g.isObstacle c = false)
    (hempty : g.cells.get c ≠ .empty) : g.isFluid c = true := by
  rw [← Bool.not_eq_true, isObstacle_iff] at hobstacle
  rw [isFluid_iff]
  cases hc : g.cells.get c with
  | fluid => rfl
  | obstacle => exact absurd hc hobstacle
  | empty => exact absurd hc hempty

end Flags

namespace Poisson

variable {g : Flags d}

/-! ## Unknowns -/

lemma isOpen_iff {c : d.Cell} :
    isOpen g c = true ↔
      g.isFluid c = true ∧ ∃ n ∈ d.cells.neighbors c, g.isObstacle n = false := by
  simp only [isOpen, Bool.and_eq_true, List.any_eq_true, Bool.not_eq_true']

/-- Liquid next to liquid is open. -/
lemma isOpen_of_mem_neighbors {c n : d.Cell} (hc : g.isObstacle c = false) (hn : g.isFluid n = true)
    (h : n ∈ d.cells.neighbors c) : isOpen g n = true :=
  isOpen_iff.mpr ⟨hn, c, d.cells.mem_neighbors_symm.mp h, hc⟩

/-- The cell of an unknown. -/
def cellOf (g : Flags d) (u : Fin (unknowns g).size) : d.Cell := (unknowns g)[u]

lemma isOpen_cellOf (u : Fin (unknowns g).size) : isOpen g (cellOf g u) = true := by
  have hmem : cellOf g u ∈ unknowns g := Array.getElem_mem u.isLt
  simp only [unknowns, List.mem_toArray, List.mem_filter] at hmem
  exact hmem.2

lemma isFluid_cellOf (u : Fin (unknowns g).size) : g.isFluid (cellOf g u) = true :=
  (isOpen_iff.mp (isOpen_cellOf u)).1

/-- No cell has two unknowns. -/
lemma cellOf_injective (g : Flags d) : Function.Injective (cellOf g) := by
  intro u w h
  have hnodup : (d.cells.nodes.filter (isOpen g)).Nodup := (List.nodup_finRange _).filter _
  exact Fin.ext ((List.Nodup.getElem_inj_iff hnodup).mp h)

/-- Every open cell has an unknown. -/
lemma exists_unknown {c : d.Cell} (h : isOpen g c = true) : ∃ u, cellOf g u = c := by
  have hmem : c ∈ unknowns g := by
    simp only [unknowns, List.mem_toArray, List.mem_filter]
    exact ⟨List.mem_finRange c, h⟩
  obtain ⟨i, hi, rfl⟩ := Array.mem_iff_getElem.mp hmem
  exact ⟨⟨i, hi⟩, rfl⟩

/-- All liquid next to an unknown has an unknown. -/
lemma exists_unknown_of_mem_neighbors {u : Fin (unknowns g).size} {c : d.Cell}
    (hc : c ∈ d.cells.neighbors (cellOf g u)) (hfluid : g.isFluid c = true) :
    ∃ w, cellOf g w = c :=
  exists_unknown (isOpen_of_mem_neighbors
    (Flags.isObstacle_eq_false_of_isFluid (isFluid_cellOf u)) hfluid hc)

/-! ## Numbers of unknowns -/

section Numbering

variable {n : ℕ} (cells : Vector d.Cell n)

lemma get_numbering (h : Function.Injective cells.get) (u : Fin n) :
    (numbering cells).get (cells.get u) = some u :=
  Field.get_foldl_put (fun u => some u) _ h (List.mem_finRange u)

lemma get_numbering_eq_some (h : Function.Injective cells.get) {c : d.Cell} {u : Fin n} :
    (numbering cells).get c = some u ↔ cells.get u = c := by
  constructor
  · intro hc
    by_cases hex : ∃ w, cells.get w = c
    · obtain ⟨w, rfl⟩ := hex
      rw [get_numbering cells h, Option.some.injEq] at hc
      rw [hc]
    · have hnone : (numbering cells).get c = none := by
        rw [numbering]
        rw [Field.get_foldl_put_of_forall_ne _ _ _ _ fun w _ hw => hex ⟨w, hw⟩,
          Field.get_constant]
      rw [hnone] at hc
      cases hc
  · rintro rfl
    exact get_numbering cells h u

end Numbering

/-! ## The system -/

variable {S D : Type} [Scalar S] [Scalar D] [Precision S D] {phi : Option (ScalarField d S)}

lemma get_numbering_build {n : d.Cell} {w : Fin (unknowns g).size} :
    (numbering (build g phi : Poisson d D _).cells).get n = some w ↔ cellOf g w = n :=
  get_numbering_eq_some (build g phi : Poisson d D _).cells (cellOf_injective g)

lemma get_adjacent (u : Fin (unknowns g).size) :
    (build g phi : Poisson d D _).adjacent.get u =
      (d.cells.neighbors (cellOf g u)).filterMap fun n =>
        if g.isFluid n then (numbering (build g phi : Poisson d D _).cells).get n else none :=
  Vector.getElem_map _ u.isLt

lemma get_diagonal (u : Fin (unknowns g).size) :
    (build g phi : Poisson d D _).diagonal.get u =
      (d.cells.neighbors (cellOf g u)).foldl
        (fun sum n => diagonalTerm g phi (cellOf g u) n sum) (Literals.instOfNat 0).ofNat :=
  Vector.getElem_map _ u.isLt

/-- Two unknowns are adjacent exactly when their cells are. -/
lemma mem_adjacent {u w : Fin (unknowns g).size} :
    w ∈ (build g phi : Poisson d D _).adjacent.get u ↔
      cellOf g w ∈ d.cells.neighbors (cellOf g u) := by
  rw [get_adjacent]
  simp only [List.mem_filterMap]
  constructor
  · rintro ⟨n, hn, hw⟩
    split_ifs at hw
    rw [get_numbering_build.mp hw]
    exact hn
  · intro h
    exact ⟨cellOf g w, h, by rw [if_pos (isFluid_cellOf w), get_numbering_build.mpr rfl]⟩

/-- No unknown is listed twice in a row. -/
lemma nodup_adjacent (u : Fin (unknowns g).size) :
    ((build g phi : Poisson d D _).adjacent.get u).Nodup := by
  rw [get_adjacent]
  refine (d.cells.nodup_neighbors _).filterMap fun n m w hn hm => ?_
  simp only [Option.mem_def, Option.ite_none_right_eq_some, get_numbering_build] at hn hm
  exact hn.2.symm.trans hm.2

lemma hasFreeSurface_iff :
    (build g phi : Poisson d D _).hasFreeSurface = true ↔
      ∃ u, ∃ n ∈ d.cells.neighbors (cellOf g u), g.cells.get n = .empty := by
  have hany : (build g phi : Poisson d D _).hasFreeSurface =
      (unknowns g).any fun c => (d.cells.neighbors c).any fun n => g.cells.get n == .empty := rfl
  rw [hany, Array.any_eq_true]
  simp only [List.any_eq_true, beq_iff_eq]
  constructor
  · rintro ⟨i, hi, h⟩
    exact ⟨⟨i, hi⟩, h⟩
  · rintro ⟨u, h⟩
    exact ⟨u.val, u.isLt, h⟩

end Poisson

end FreeSurface

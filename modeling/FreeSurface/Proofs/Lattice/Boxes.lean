import Mathlib.Data.Fintype.BigOperators
import Mathlib.Data.List.ProdSigma
import FreeSurface.Proofs.Lattice.Incidence

/-!
# Boxes of nodes

The nodes of a lattice are the triples of coordinates below its sides (`Lattice.nodeEquiv`), so a
sum over all nodes is a sum layer by layer, row by row (`Lattice.sum_nodes`).  The nodes whose
coordinates run through three lists are listed once each if the coordinates are
(`Lattice.mem_box`, `Lattice.nodup_box`), and in the order of the lists (`Lattice.pairwise_box`).
-/

namespace FreeSurface

namespace Lattice

variable {L : Lattice}

/-- Nodes as layer, row and column. -/
def nodeEquiv (L : Lattice) : Fin L.nz × Fin L.ny × Fin L.nx ≃ L.Node where
  toFun c := L.nodeOf c.2.2 c.2.1 c.1
  invFun n :=
    have h := L.contains_coords n.isLt
    (⟨_, h.2.2⟩, ⟨_, h.2.1⟩, ⟨_, h.1⟩)
  left_inv := by
    rintro ⟨k, j, i⟩
    simp only [coords_nodeOf]
  right_inv n := L.coords_injective (L.coords_nodeOf _ _ _)

lemma exists_nodeOf (n : L.Node) : ∃ i j k, L.nodeOf i j k = n := by
  obtain ⟨⟨k, j, i⟩, h⟩ := L.nodeEquiv.surjective n
  exact ⟨i, j, k, h⟩

/-- A sum over all nodes, layer by layer and row by row. -/
lemma sum_nodes {M : Type} [AddCommMonoid M] (F : L.Node → M) :
    ∑ n, F n = ∑ k, ∑ j, ∑ i, F (L.nodeOf i j k) := by
  rw [← L.nodeEquiv.sum_comp, Fintype.sum_prod_type]
  simp only [Fintype.sum_prod_type]
  rfl

/-- The nodes whose coordinates run through three lists. -/
def box (columns : List (Fin L.nx)) (rows : List (Fin L.ny)) (layers : List (Fin L.nz)) :
    List L.Node :=
  layers.flatMap fun k => rows.flatMap fun j => columns.map fun i => L.nodeOf i j k

variable {columns : List (Fin L.nx)} {rows : List (Fin L.ny)} {layers : List (Fin L.nz)}

lemma box_eq_map : box columns rows layers =
    (layers ×ˢ rows ×ˢ columns).map L.nodeEquiv := by
  simp only [box, SProd.sprod, List.product, List.map_flatMap, List.map_map]
  rfl

lemma mem_box {i : Fin L.nx} {j : Fin L.ny} {k : Fin L.nz} :
    L.nodeOf i j k ∈ box columns rows layers ↔ i ∈ columns ∧ j ∈ rows ∧ k ∈ layers := by
  have hnode : L.nodeOf i j k = L.nodeEquiv (k, j, i) := rfl
  rw [box_eq_map, hnode, List.mem_map_of_injective L.nodeEquiv.injective, List.mem_product,
    List.mem_product]
  tauto

lemma nodup_box (hcolumns : columns.Nodup) (hrows : rows.Nodup) (hlayers : layers.Nodup) :
    (box columns rows layers).Nodup := by
  rw [box_eq_map]
  exact (hlayers.product (hrows.product hcolumns)).map L.nodeEquiv.injective

/-- A box is in an order that each of its lists is in, whatever the other coordinates. -/
lemma pairwise_box {R : L.Node → L.Node → Prop}
    (hcolumns : columns.Pairwise fun i i' => ∀ j j' k k', R (L.nodeOf i j k) (L.nodeOf i' j' k'))
    (hrows : rows.Pairwise fun j j' => ∀ i i' k k', R (L.nodeOf i j k) (L.nodeOf i' j' k'))
    (hlayers : layers.Pairwise fun k k' => ∀ i i' j j', R (L.nodeOf i j k) (L.nodeOf i' j' k')) :
    (box columns rows layers).Pairwise R := by
  simp only [box, List.pairwise_flatMap, List.pairwise_map, List.mem_flatMap, List.mem_map]
  refine ⟨fun k _ => ⟨fun j _ => hcolumns.imp fun h => h j j k k, hrows.imp fun h => ?_⟩,
    hlayers.imp fun h => ?_⟩
  · rintro _ ⟨i, -, rfl⟩ _ ⟨i', -, rfl⟩
    exact h i i' k k
  · rintro _ ⟨j, -, i, -, rfl⟩ _ ⟨j', -, i', -, rfl⟩
    exact h i i' j j'

end Lattice

end FreeSurface

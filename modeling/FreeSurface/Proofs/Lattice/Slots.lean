import Mathlib.Data.Set.Card
import FreeSurface.Lattice.Slots
import FreeSurface.Proofs.Lattice.Steps
import FreeSurface.Proofs.Number.Word

/-!
# Incidence by number

Numbers, coordinates, slots and the cells beside a face fit together, as long as every side of the
lattice is a word and its nodes can be counted.

* `Lattice.isNumbered` — numbers and coordinates determine each other.
* `Lattice.slot_eq` — a slot holds the number of the node one step away, so the neighbours of a node
  are what its slots hold (`Lattice.map_val_neighbors`).
* `Lattice.listsNeighbors` — the slots of a node list the nodes around it, each of which lists it
  back.
* `Dims.facesMatch` — the cells beside a face are those that have it on their upper and lower side.

Across an axis there is one face more than there are cells along it, so the faces of the longest
domain whose sides are words make up a lattice that is too long: no face of it has a neighbour
(`Dims.listsNeighbors_faces_iff`).
-/

namespace FreeSurface

/-! ## Words -/

/-- Every coordinate is a word. -/
def Coords.IsShort (c : Coords) : Prop := ∀ a, c.get a < 2 ^ 31

lemma Coords.IsShort.words {c : Coords} (h : c.IsShort) :
    word c.i = c.i ∧ word c.j = c.j ∧ word c.k = c.k :=
  ⟨word_of_lt (h .x), word_of_lt (h .y), word_of_lt (h .z)⟩

namespace Lattice

variable {L : Lattice}

/-! ## Numbers -/

/-- Numbers and coordinates in range determine each other, and every number is a word of 64 bits. -/
structure IsNumbered (L : Lattice) : Prop where
  fits : ∀ c, L.Contains c → L.index c < 2 ^ 64
  index : Set.BijOn L.index {c | L.Contains c} (Set.Iio L.size)
  coords : Set.BijOn L.coords (Set.Iio L.size) {c | L.Contains c}
  inverse : Set.InvOn L.coords L.index {c | L.Contains c} (Set.Iio L.size)

theorem isNumbered (hcount : L.size < 2 ^ 64) : L.IsNumbered := by
  have hindex : Set.MapsTo L.index {c | L.Contains c} (Set.Iio L.size) :=
    fun _ h => L.index_lt_size h
  have hcoords : Set.MapsTo L.coords (Set.Iio L.size) {c | L.Contains c} :=
    fun _ h => L.contains_coords h
  have hinverse : Set.InvOn L.coords L.index {c | L.Contains c} (Set.Iio L.size) :=
    ⟨fun _ h => L.coords_index h, fun n _ => L.index_coords n⟩
  exact ⟨fun _ h => (L.index_lt_size h).trans hcount, hinverse.bijOn hindex hcoords,
    hinverse.symm.bijOn hcoords hindex, hinverse⟩

/-! ## Slots -/

/-- Every side of the lattice is a word. -/
def IsShort (L : Lattice) : Prop := ∀ a, L.side a < 2 ^ 31

lemma IsShort.coords (h : L.IsShort) (n : L.Node) : (L.coords n.val).IsShort :=
  fun a => (get_coords_lt n a).trans (h a)

/-- In a short lattice the comparison of words is that of numbers. -/
lemma holds_iff (h : L.IsShort) {c : Coords} :
    L.holds c.i c.j c.k = true ↔ L.Contains c := by
  have hx : word L.nx = L.nx := word_of_lt (h .x)
  have hy : word L.ny = L.ny := word_of_lt (h .y)
  have hz : word L.nz = L.nz := word_of_lt (h .z)
  simp only [holds, hx, hy, hz, Bool.and_eq_true, decide_eq_true_iff, Contains]
  omega

lemma numberAt?_eq (h : L.IsShort) (c : Coords) :
    L.numberAt? c.i c.j c.k = (L.nodeAt? c).map Fin.val := by
  rw [numberAt?, nodeAt?]
  by_cases hc : L.Contains c
  · rw [if_pos ((holds_iff h).mpr hc), dif_pos hc]
    rfl
  · rw [if_neg (mt (holds_iff h).mp hc), dif_neg hc]
    rfl

lemma numberAt?_below (i j k : ℤ) (h : i < 0 ∨ j < 0 ∨ k < 0) : L.numberAt? i j k = none := by
  rw [numberAt?, if_neg]
  simp only [holds, Bool.and_eq_true, decide_eq_true_iff]
  omega

/-- **A slot holds the number of the node one step away.** -/
theorem slot_eq (h : L.IsShort) {c : Coords} (hc : c.IsShort) (a : Axis) (s : Side) :
    L.slot c a s = (L.neighbor? c a s).map Fin.val := by
  obtain ⟨hi, hj, hk⟩ := hc.words
  rw [slot, hi, hj, hk]
  cases s with
  | upper =>
      rw [neighbor?_upper, ← numberAt?_eq h]
      cases a <;> simp [Side.sign, Axis.step, Coords.succ]
  | lower =>
      by_cases hzero : c.get a = 0
      · rw [neighbor?_lower_eq_none hzero, Option.map_none]
        refine numberAt?_below _ _ _ ?_
        cases a <;> simp_all [Side.sign, Axis.step, Coords.get]
      · obtain ⟨c', rfl⟩ := Coords.exists_succ hzero
        rw [neighbor?_succ_lower, ← numberAt?_eq h]
        cases a <;> simp [Side.sign, Axis.step, Coords.succ]

/-! ## Neighbours -/

/-- **In a short lattice the neighbours of a node are what its slots hold**, in the order of the
slots. -/
theorem map_val_neighbors (h : L.IsShort) (n : L.Node) :
    (L.neighbors n).map Fin.val = (L.slots (L.coords n.val)).filterMap id := by
  have hslot : ∀ a s, (L.slot (L.coords n.val) a s).toList =
      (L.neighbor? (L.coords n.val) a s).toList.map Fin.val := by
    intro a s
    rw [slot_eq h (h.coords n)]
    cases L.neighbor? (L.coords n.val) a s <;> rfl
  rw [neighbors_eq, List.filterMap_eq_flatMap_toList, slots, List.map_flatMap, List.flatMap_assoc]
  refine List.flatMap_congr fun a _ => ?_
  rw [List.map_flatMap, List.flatMap_map]
  exact List.flatMap_congr fun s _ => (hslot a s).symm

/-- The slots of every node list the nodes one step away, and each of these lists it back. -/
structure ListsNeighbors (L : Lattice) : Prop where
  length (n : L.Node) : (L.slots (L.coords n.val)).length = 6
  lower (n : L.Node) (a : Axis) (m : ℕ) :
    (L.slots (L.coords n.val))[2 * a.index]? = some (some m) ↔
      m < L.size ∧ L.coords n.val = (L.coords m).succ a
  upper (n : L.Node) (a : Axis) (m : ℕ) :
    (L.slots (L.coords n.val))[2 * a.index + 1]? = some (some m) ↔
      m < L.size ∧ L.coords m = (L.coords n.val).succ a
  symm (n m : L.Node) (a : Axis) :
    (L.slots (L.coords n.val))[2 * a.index + 1]? = some (some m.val) ↔
      (L.slots (L.coords m.val))[2 * a.index]? = some (some n.val)

lemma slots_lower (c : Coords) (a : Axis) :
    (L.slots c)[2 * a.index]? = some (L.slot c a .lower) := by
  cases a <;> rfl

lemma slots_upper (c : Coords) (a : Axis) :
    (L.slots c)[2 * a.index + 1]? = some (L.slot c a .upper) := by
  cases a <;> rfl

lemma slot_eq_some_iff (h : L.IsShort) {n : L.Node} {a : Axis} {s : Side} {m : ℕ} :
    L.slot (L.coords n.val) a s = some m ↔
      ∃ hm : m < L.size, L.neighbor? (L.coords n.val) a s = some ⟨m, hm⟩ := by
  rw [slot_eq h (h.coords n), Option.map_eq_some_iff]
  constructor
  · rintro ⟨o, ho, rfl⟩
    exact ⟨o.isLt, ho⟩
  · rintro ⟨hm, ho⟩
    exact ⟨_, ho, rfl⟩

/-- **In a short lattice the slots list the neighbours.** -/
theorem listsNeighbors (h : L.IsShort) : L.ListsNeighbors where
  length _ := rfl
  lower n a m := by
    rw [slots_lower, Option.some.injEq, slot_eq_some_iff h, ← exists_prop]
    exact exists_congr fun hm => L.neighbor?_lower_eq_some
  upper n a m := by
    rw [slots_upper, Option.some.injEq, slot_eq_some_iff h, ← exists_prop]
    exact exists_congr fun hm => L.neighbor?_upper_eq_some
  symm n m a := by
    rw [slots_lower, slots_upper, Option.some.injEq, Option.some.injEq, slot_eq_some_iff h,
      slot_eq_some_iff h]
    constructor
    · rintro ⟨_, hm⟩
      exact ⟨n.isLt, L.neighbor?_symm.mp hm⟩
    · rintro ⟨_, hn⟩
      exact ⟨m.isLt, L.neighbor?_symm.mpr hn⟩

/-- Nothing lies in a lattice with a side that is one too long. -/
lemma holds_eq_false {a : Axis} (h : L.side a = 2 ^ 31) (i j k : ℤ) : L.holds i j k = false := by
  have hword : word (L.side a) < 0 := by
    rw [h, word_two_pow]
    decide
  rw [← Bool.not_eq_true]
  simp only [holds, Bool.and_eq_true, decide_eq_true_iff]
  cases a <;> simp only [side] at hword <;> omega

lemma slots_eq_replicate {a : Axis} (h : L.side a = 2 ^ 31) (c : Coords) :
    L.slots c = List.replicate 6 none := by
  have hslot : ∀ b s, L.slot c b s = none := by
    intro b s
    rw [slot, numberAt?, holds_eq_false h, if_neg Bool.false_ne_true]
  simp only [slots, hslot]
  rfl

/-- So no node has a neighbour there. -/
lemma not_listsNeighbors {a : Axis} (h : L.side a = 2 ^ 31) : ¬L.ListsNeighbors := by
  intro hlists
  have hzero : L.Contains ⟨0, 0, 0⟩ := ⟨L.nx_pos, L.ny_pos, L.nz_pos⟩
  have hone : L.Contains ((⟨0, 0, 0⟩ : Coords).succ a) := by
    refine contains_iff.mpr fun b => ?_
    have hb := contains_iff.mp hzero b
    rw [Coords.get_succ]
    split_ifs with hab
    · subst hab
      rw [h]
      cases a <;> decide
    · exact hb
  have hlist := (hlists.upper (L.node _ hzero) a (L.node _ hone).val).mpr
    ⟨(L.node _ hone).isLt, by rw [L.coords_node, L.coords_node]⟩
  rw [slots_eq_replicate h] at hlist
  cases a <;> simp [Axis.index] at hlist

end Lattice

/-! ## Cells beside a face -/

namespace Dims

variable {d : Dims} {a : Axis}

/-- Across an axis there is one face more than there are cells along it. -/
lemma side_faces (a b : Axis) :
    (d.faces a).side b = if a = b then d.cells.side b + 1 else d.cells.side b := by
  cases a <;> cases b <;> rfl

/-- The coordinates of a face are words in a domain whose sides are. -/
lemma isShort_coords_face (h : d.cells.IsShort) (f : d.Face a) :
    ((d.faces a).coords f.val).IsShort := by
  intro b
  have hb := Lattice.get_coords_lt f b
  have hside := h b
  rw [side_faces] at hb
  split_ifs at hb <;> omega

lemma cellsBeside_eq (h : d.cells.IsShort) (f : d.Face a) :
    d.cellsBeside a ((d.faces a).coords f.val) =
      ((d.faceCells a f).1.map Fin.val, (d.faceCells a f).2.map Fin.val) := by
  have hf := isShort_coords_face h f
  obtain ⟨hi, hj, hk⟩ := hf.words
  rw [cellsBeside, Lattice.slot_eq h hf, hi, hj, hk, faceCells, cellsAtFace,
    ← Lattice.numberAt?_eq h, Lattice.numberAt?]
  simp only [Int.toNat_natCast]

/-- A cell is listed beside a face. -/
def Touches (d : Dims) (a : Axis) (f : d.Face a) (c : d.Cell) : Prop :=
  (d.cellsBeside a ((d.faces a).coords f.val)).1 = some c.val ∨
    (d.cellsBeside a ((d.faces a).coords f.val)).2 = some c.val

/-- The faces across an axis lie between the cells that are listed beside them. -/
structure FacesMatch (d : Dims) (a : Axis) : Prop where
  below (f : d.Face a) (m : ℕ) : (d.cellsBeside a ((d.faces a).coords f.val)).1 = some m ↔
    ∃ c : d.Cell, c.val = m ∧ d.cellFace a c .upper = f
  above (f : d.Face a) (m : ℕ) : (d.cellsBeside a ((d.faces a).coords f.val)).2 = some m ↔
    ∃ c : d.Cell, c.val = m ∧ d.cellFace a c .lower = f
  /-- A face has at most two cells beside it. -/
  shared (f : d.Face a) : {c | d.Touches a f c}.encard ≤ 2
  /-- If it has two, one is a step above the other. -/
  adjacent (f : d.Face a) (c c' : d.Cell) : d.Touches a f c → d.Touches a f c' → c ≠ c' →
    coordsOf c' = (coordsOf c).succ a ∨ coordsOf c = (coordsOf c').succ a
  /-- A cell has two faces. -/
  two (c : d.Cell) : {f | d.Touches a f c}.encard = 2

lemma cellsBeside_below_iff (h : d.cells.IsShort) {f : d.Face a} {m : ℕ} :
    (d.cellsBeside a ((d.faces a).coords f.val)).1 = some m ↔
      ∃ c : d.Cell, c.val = m ∧ d.cellFace a c .upper = f := by
  rw [cellsBeside_eq h, Option.map_eq_some_iff]
  refine exists_congr fun c => ?_
  rw [and_comm, cellFace_upper_eq_iff, faceCells, cellsAtFace]
  exact and_congr_right fun _ => d.cells.neighbor?_lower_eq_some

lemma cellsBeside_above_iff (h : d.cells.IsShort) {f : d.Face a} {m : ℕ} :
    (d.cellsBeside a ((d.faces a).coords f.val)).2 = some m ↔
      ∃ c : d.Cell, c.val = m ∧ d.cellFace a c .lower = f := by
  rw [cellsBeside_eq h, Option.map_eq_some_iff]
  refine exists_congr fun c => ?_
  rw [and_comm, cellFace_lower_eq_iff, faceCells, cellsAtFace]
  exact and_congr_right fun _ => d.cells.nodeAt?_eq_some

lemma touches_iff (h : d.cells.IsShort) {f : d.Face a} {c : d.Cell} :
    d.Touches a f c ↔ d.cellFace a c .upper = f ∨ d.cellFace a c .lower = f := by
  have hnode : ∀ P : d.Cell → Prop, (∃ n : d.Cell, n.val = c.val ∧ P n) ↔ P c := fun P =>
    ⟨fun ⟨n, hn, hP⟩ => Fin.ext hn ▸ hP, fun hP => ⟨c, rfl, hP⟩⟩
  rw [Touches, cellsBeside_below_iff h, cellsBeside_above_iff h, hnode, hnode]

/-- **In a domain whose sides are words the faces match the cells.** -/
theorem facesMatch (h : d.cells.IsShort) (a : Axis) : d.FacesMatch a where
  below _ _ := cellsBeside_below_iff h
  above _ _ := cellsBeside_above_iff h
  shared f := by
    have hsingle : ∀ s, {c | d.cellFace a c s = f}.encard ≤ 1 := fun s =>
      Set.encard_le_one_iff.mpr fun c c' hc hc' => cellFace_injective s (hc.trans hc'.symm)
    simp only [touches_iff h]
    exact (Set.encard_union_le _ _).trans (add_le_add (hsingle .upper) (hsingle .lower))
  adjacent f c c' hc hc' hne := by
    rw [touches_iff h] at hc hc'
    rcases hc with hc | hc <;> rcases hc' with hc' | hc'
    · exact absurd (cellFace_injective .upper (hc.trans hc'.symm)) hne
    · rw [cellFace_upper_eq_iff] at hc
      rw [cellFace_lower_eq_iff] at hc'
      exact .inl (hc'.trans hc)
    · rw [cellFace_lower_eq_iff] at hc
      rw [cellFace_upper_eq_iff] at hc'
      exact .inr (hc.trans hc')
    · exact absurd (cellFace_injective .lower (hc.trans hc'.symm)) hne
  two c := by
    have hpair : {f | d.Touches a f c} = {d.cellFace a c .upper, d.cellFace a c .lower} := by
      ext f
      rw [Set.mem_ofPred_eq, touches_iff h, Set.mem_insert_iff, Set.mem_singleton_iff,
        @eq_comm _ f, @eq_comm _ f]
    rw [hpair, Set.encard_pair (cellFace_lower_ne_upper c).symm]

/-- The slots of faces list their neighbours exactly if their lattice is short as well. -/
lemma listsNeighbors_faces_iff (h : d.cells.IsShort) (a : Axis) :
    (d.faces a).ListsNeighbors ↔ d.cells.side a + 1 < 2 ^ 31 := by
  constructor
  · intro hlists
    by_contra hlong
    have hside : (d.faces a).side a = 2 ^ 31 := by
      have := h a
      rw [side_faces, if_pos rfl]
      omega
    exact Lattice.not_listsNeighbors hside hlists
  · intro hside
    refine Lattice.listsNeighbors fun b => ?_
    rw [side_faces]
    split_ifs with hab
    · exact hab ▸ hside
    · exact h b

/-- Numbers, slots and faces of a domain fit together; the slots of faces are left out. -/
structure IsIncidence (d : Dims) : Prop where
  cells : d.cells.IsNumbered
  faces (a : Axis) : (d.faces a).IsNumbered
  neighbors : d.cells.ListsNeighbors
  faceCells (a : Axis) : d.FacesMatch a

/-- There are more faces than cells across every axis. -/
lemma size_cells_lt (d : Dims) (a : Axis) : d.cells.size < (d.faces a).size := by
  cases a with
  | x =>
      exact mul_lt_mul_of_pos_right (mul_lt_mul_of_pos_right d.width.lt_succ_self d.height_pos)
        d.depth_pos
  | y =>
      exact mul_lt_mul_of_pos_right (mul_lt_mul_of_pos_left d.height.lt_succ_self d.width_pos)
        d.depth_pos
  | z => exact mul_lt_mul_of_pos_left d.depth.lt_succ_self (mul_pos d.width_pos d.height_pos)

/-- **Incidence is consistent** in every domain whose sides are words and whose faces can be
counted.  Numbers and coordinates of cells and of faces determine each other, the slots of a cell
list the cells around it, and the faces across each axis lie between the cells that are listed
beside them.  The slots of the faces across an axis list the faces around them if the domain is
shorter along the axis than the greatest word, and only then. -/
theorem isIncidence_and_listsNeighbors_iff (d : Dims) (h : d.cells.IsShort)
    (hcount : ∀ a, (d.faces a).size < 2 ^ 64) :
    d.IsIncidence ∧ ∀ a, (d.faces a).ListsNeighbors ↔ d.cells.side a + 1 < 2 ^ 31 := by
  have hcells : d.cells.size < 2 ^ 64 := (d.size_cells_lt .x).trans (hcount .x)
  exact ⟨⟨Lattice.isNumbered hcells, fun a => Lattice.isNumbered (hcount a),
    Lattice.listsNeighbors h, facesMatch h⟩, listsNeighbors_faces_iff h⟩

/-- The domain with `l + 1` by `m + 1` by `n + 1` cells. -/
def block (l m n : ℕ) : Dims := ⟨l + 1, m + 1, n + 1, l.succ_pos, m.succ_pos, n.succ_pos⟩

/-- In a block of two by three by four cells all of it holds. -/
theorem isIncidence_and_listsNeighbors_iff_block :
    (block 1 2 3).cells.IsShort ∧ (∀ a, ((block 1 2 3).faces a).size < 2 ^ 64) ∧
      (block 1 2 3).IsIncidence ∧ ∀ a, ((block 1 2 3).faces a).ListsNeighbors := by
  have hshort : (block 1 2 3).cells.IsShort := by
    rintro (_ | _ | _) <;> decide
  have hcount : ∀ a, ((block 1 2 3).faces a).size < 2 ^ 64 := by
    rintro (_ | _ | _) <;> decide
  obtain ⟨hincidence, hfaces⟩ := isIncidence_and_listsNeighbors_iff (block 1 2 3) hshort hcount
  refine ⟨hshort, hcount, hincidence, fun a => (hfaces a).mpr ?_⟩
  cases a <;> decide

/-- The longest row of cells whose length is a word. -/
def longestRow : Dims := block (2 ^ 31 - 2) 0 0

/-- In the longest row there is a face next to the first one, but no slot of the first lists it. -/
theorem not_listsNeighbors_longestRow :
    longestRow.cells.IsShort ∧ (∀ a, (longestRow.faces a).size < 2 ^ 64) ∧
      1 < (longestRow.faces .x).size ∧
      (longestRow.faces .x).coords 1 = ((longestRow.faces .x).coords 0).succ .x ∧
      (longestRow.faces .x).slots ((longestRow.faces .x).coords 0) = List.replicate 6 none ∧
      ¬(longestRow.faces .x).ListsNeighbors := by
  have hshort : longestRow.cells.IsShort := by
    rintro (_ | _ | _) <;> decide
  have hside : (longestRow.faces .x).side .x = 2 ^ 31 := rfl
  have hcount : ∀ a, (longestRow.faces a).size < 2 ^ 64 := by
    rintro (_ | _ | _) <;> decide
  exact ⟨hshort, hcount, by decide, by decide, Lattice.slots_eq_replicate hside _,
    Lattice.not_listsNeighbors hside⟩

end Dims

end FreeSurface

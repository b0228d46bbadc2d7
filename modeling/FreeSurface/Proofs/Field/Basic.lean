import Mathlib.Tactic.Common
import FreeSurface.Field.Staggered
import FreeSurface.Field.Front

/-!
# Fields and flags, node by node

What every operation on fields, flags and staggered velocities does at a single node.  Later modules
read fields through these lemmas only.
-/

namespace FreeSurface

namespace Field

variable {L : Lattice} {α β : Type}

lemma ext_get {v w : Field L α} (h : ∀ n, v.get n = w.get n) : v = w := by
  apply Vector.ext
  intro i hi
  exact h ⟨i, hi⟩

@[simp] lemma get_constant (a : α) (n : L.Node) : (constant L a).get n = a :=
  Vector.getElem_replicate n.isLt

@[simp] lemma get_tabulate (f : L.Node → α) (n : L.Node) : (tabulate f).get n = f n :=
  Vector.getElem_ofFn n.isLt

@[simp] lemma get_update (v : Field L α) (f : L.Node → α → α) (n : L.Node) :
    (v.update f).get n = f n (v.get n) :=
  Vector.getElem_ofFn n.isLt

@[simp] lemma get_map (f : α → β) (v : Field L α) (n : L.Node) :
    Vector.get (Vector.map f v) n = f (v.get n) :=
  Vector.getElem_map f n.isLt

lemma get_put (v : Field L α) (m n : L.Node) (a : α) :
    (v.put m a).get n = if m = n then a else v.get n := by
  have h : (v.set m.val a m.isLt)[n.val] = if m.val = n.val then a else v[n.val] :=
    Vector.getElem_set m.isLt n.isLt
  simp only [Fin.val_inj] at h
  exact h

@[simp] lemma get_put_self (v : Field L α) (n : L.Node) (a : α) : (v.put n a).get n = a := by
  rw [get_put, if_pos rfl]

lemma get_put_of_ne (v : Field L α) {m n : L.Node} (a : α) (h : m ≠ n) :
    (v.put m a).get n = v.get n := by
  rw [get_put, if_neg h]

/-- Writing a list of entries leaves every node alone that none of them is about. -/
lemma get_foldl_put_of_forall_ne {ι : Type} (l : List ι) (node : ι → L.Node) (value : ι → α)
    (v : Field L α) {n : L.Node} (h : ∀ i ∈ l, node i ≠ n) :
    (l.foldl (fun v i => v.put (node i) (value i)) v).get n = v.get n := by
  induction l generalizing v with
  | nil => rfl
  | cons i l ih =>
      rw [List.foldl_cons, ih _ fun j hj => h j (List.mem_cons_of_mem _ hj),
        get_put_of_ne _ _ (h i List.mem_cons_self)]

/-- Entries about different nodes do not overwrite each other. -/
lemma get_foldl_put {ι : Type} {l : List ι} {node : ι → L.Node} (value : ι → α) (v : Field L α)
    (hnode : Function.Injective node) {i : ι} (h : i ∈ l) :
    (l.foldl (fun v i => v.put (node i) (value i)) v).get (node i) = value i := by
  induction l generalizing v with
  | nil => cases h
  | cons j l ih =>
      rw [List.foldl_cons]
      by_cases hi : i ∈ l
      · exact ih _ hi
      · obtain rfl : i = j := (List.mem_cons.mp h).resolve_right hi
        rw [get_foldl_put_of_forall_ne l node value, get_put_self]
        rintro k hk hki
        exact hi (hnode hki ▸ hk)

lemma allFinite_iff {S : Type} [Scalar S] {v : Field L S} :
    v.allFinite = true ↔ ∀ n, Scalar.isFinite (v.get n) = true := by
  simp only [allFinite, Vector.all_eq_true]
  exact ⟨fun h n => h n.val n.isLt, fun h i hi => h ⟨i, hi⟩⟩

end Field

namespace Dims

lemma mem_activeAxes {d : Dims} {a : Axis} : a ∈ d.activeAxes ↔ d.isActive a = true := by
  rw [activeAxes]
  split_ifs with h <;> cases a <;> simp [isActive, h, Axis.all]

end Dims

namespace Staggered

variable {d : Dims} {S : Type}

lemma ext_component {v w : Staggered d S}
    (h : ∀ a f, (v.component a).get f = (w.component a).get f) : v = w := by
  obtain ⟨x, y, z⟩ := v
  obtain ⟨x', y', z'⟩ := w
  rw [mk.injEq]
  exact ⟨Field.ext_get (h .x), Field.ext_get (h .y), Field.ext_get (h .z)⟩

/-- Components along which nothing moves are left as they are. -/
lemma component_updateActive (v : Staggered d S)
    (f : (a : Axis) → Field (d.faces a) S → Field (d.faces a) S) (a : Axis) :
    (v.updateActive f).component a =
      if d.isActive a then f a (v.component a) else v.component a := by
  cases a with
  | x => rfl
  | y => rfl
  | z =>
      show (if d.isPlanar then v.z else f .z v.z) = if (!d.isPlanar) = true then f .z v.z else v.z
      cases d.isPlanar <;> rfl

lemma component_updateActive_of_mem (v : Staggered d S)
    (f : (a : Axis) → Field (d.faces a) S → Field (d.faces a) S) {a : Axis}
    (h : a ∈ d.activeAxes) : (v.updateActive f).component a = f a (v.component a) := by
  rw [component_updateActive, if_pos (Dims.mem_activeAxes.mp h)]

lemma isFinite_component [Scalar S] {v : Staggered d S} (h : v.allFinite = true) (a : Axis)
    (f : d.Face a) : Scalar.isFinite ((v.component a).get f) = true := by
  simp only [allFinite, Bool.and_eq_true] at h
  cases a with
  | x => exact Field.allFinite_iff.mp h.1.1 f
  | y => exact Field.allFinite_iff.mp h.1.2 f
  | z => exact Field.allFinite_iff.mp h.2 f

lemma allFinite_of_component [Scalar S] {v : Staggered d S}
    (h : ∀ a f, Scalar.isFinite ((v.component a).get f) = true) : v.allFinite = true := by
  simp only [allFinite, Bool.and_eq_true, Field.allFinite_iff]
  exact ⟨⟨h .x, h .y⟩, h .z⟩

/-- Changes along the axes of motion keep a velocity finite when their outcome is. -/
lemma allFinite_updateActive [Scalar S] {v : Staggered d S} (hv : v.allFinite = true)
    {f : (a : Axis) → Field (d.faces a) S → Field (d.faces a) S}
    (h : ∀ a, d.isActive a = true → ∀ e, Scalar.isFinite ((f a (v.component a)).get e) = true) :
    (v.updateActive f).allFinite = true := by
  refine allFinite_of_component fun a e => ?_
  rw [component_updateActive]
  split_ifs with ha
  · exact h a ha e
  · exact isFinite_component hv a e

end Staggered

namespace Flags

variable {d : Dims} {S : Type} [Scalar S]

lemma isFluid_iff {g : Flags d} {c : d.Cell} : g.isFluid c = true ↔ g.cells.get c = .fluid :=
  beq_iff_eq

lemma isObstacle_iff {g : Flags d} {c : d.Cell} :
    g.isObstacle c = true ↔ g.cells.get c = .obstacle :=
  beq_iff_eq

@[simp] lemma cells_reclassify (g : Flags d) (phi : ScalarField d S) (c : d.Cell) :
    (g.reclassify phi).cells.get c =
      if g.cells.get c = .obstacle then .obstacle
      else if phi.get c < surfaceThreshold then .fluid else .empty := by
  simp only [reclassify, Field.get_update, beq_iff_eq]
  split_ifs with h <;> simp [h]

/-- Solid cells stay solid, and no other cell becomes solid. -/
@[simp] lemma isObstacle_reclassify (g : Flags d) (phi : ScalarField d S) (c : d.Cell) :
    (g.reclassify phi).isObstacle c = g.isObstacle c := by
  rw [Bool.eq_iff_iff, isObstacle_iff, isObstacle_iff, cells_reclassify]
  split_ifs <;> simp_all

lemma isFluid_reclassify (g : Flags d) (phi : ScalarField d S) {c : d.Cell}
    (h : g.isObstacle c = false) :
    (g.reclassify phi).isFluid c = true ↔ phi.get c < surfaceThreshold := by
  have hc : g.cells.get c ≠ .obstacle := by
    rw [← Bool.not_eq_true, isObstacle_iff] at h
    exact h
  rw [isFluid_iff, cells_reclassify, if_neg hc]
  split_ifs <;> simp_all

end Flags

end FreeSurface

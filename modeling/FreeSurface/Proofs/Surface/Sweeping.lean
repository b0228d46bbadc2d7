import FreeSurface.Proofs.Field.Basic
import FreeSurface.Proofs.Surface.Distance
import FreeSurface.Surface.Sweeping

/-!
# Reinitialization keeps signs

Sweeping works on unsigned distances and puts the signs back at the end.  In exact arithmetic no
distance is ever zero, so the side of a cell can be read off the result.

* `Surface.AllPositive.sweeps` — sweeping keeps every distance positive.
* `Surface.isInside_reinitExact` — no cell changes sides.
* `Surface.isFinite_reinitExact` — every cell gets a number.
-/

namespace FreeSurface

open scoped Literals

namespace Surface

open Exact

variable {d : Dims}

def AllPositive (dist : ScalarField d Exact) : Prop := ∀ c, (dist.get c).IsPositive

lemma AllPositive.leastAlong {dist : ScalarField d Exact} (h : AllPositive dist)
    (known : d.Cell → Bool) (c : d.Cell) (a : Axis) : (leastAlong dist known c a).IsDistance := by
  rw [Surface.leastAlong]
  refine List.foldlRecOn _ _ (.inl rfl) fun least hleast n _ => ?_
  split_ifs
  · exact hleast.min (h n).isDistance
  · exact hleast

lemma AllPositive.relax (inside frozen : Field d.cells Bool) {dist : ScalarField d Exact}
    (h : AllPositive dist) (m : d.Cell) : AllPositive (relax inside frozen dist m) := by
  intro c
  simp only [Surface.relax]
  split_ifs with hfrozen hfinite
  · exact h c
  · rw [Field.get_put]
    split_ifs with hc
    · refine (h m).min (isPositive_solveEikonal ?_ ?_ ?_ ?_).isDistance
      · exact h.leastAlong _ m .x
      · exact h.leastAlong _ m .y
      · exact h.leastAlong _ m .z
      · simpa only [Bool.or_eq_true, or_assoc] using hfinite
    · exact h c
  · exact h c

/-- Distances stay positive through any number of sweeps in any orders. -/
lemma AllPositive.sweeps (inside frozen : Field d.cells Bool) {dist : ScalarField d Exact}
    (h : AllPositive dist) (orders : List (List d.Cell)) (passes : List ℕ) :
    AllPositive (passes.foldl (fun dist _ =>
      orders.foldl (fun dist cells => cells.foldl (Surface.relax inside frozen) dist) dist)
      dist) := by
  refine List.foldlRecOn _ _ h fun dist h _ _ => ?_
  refine List.foldlRecOn _ _ h fun dist h cells _ => ?_
  exact List.foldlRecOn _ _ h fun dist h m _ => h.relax inside frozen m

lemma isInside_signed (side : Bool) {a : Exact} (h : a.IsPositive) :
    isInside (signOf side * a) = side := by
  obtain ⟨x, hx, rfl⟩ := h
  cases side
  · simp [isInside, signOf, hx.le]
  · simp [isInside, signOf, hx]

/-- A reinitialized value is a positive distance with the sign of its cell. -/
lemma exists_get_reinitExact (phi : ScalarField d Exact) (c : d.Cell) :
    ∃ a : Exact, a.IsPositive ∧ (reinitExact phi).get c = signOf (isInside (phi.get c)) * a := by
  rw [reinitExact]
  simp only [Field.get_tabulate, Field.get_map]
  refine ⟨_, AllPositive.sweeps _ _ (fun c => ?_) _ _ c, rfl⟩
  rw [Field.get_map, Field.get_tabulate]
  cases hs : interfaceDistance? phi (fun _ => true) c with
  | some s => exact isPositive_interfaceDistance hs
  | none =>
      have hpos : 0 < d.width + d.height + d.depth := Nat.add_pos_right _ d.depth_pos
      exact isPositive_real (by exact_mod_cast hpos)

/-- **Reinitialization moves no sign.** -/
theorem isInside_reinitExact (phi : ScalarField d Exact) (c : d.Cell) :
    isInside ((reinitExact phi).get c) = isInside (phi.get c) := by
  obtain ⟨a, ha, hget⟩ := exists_get_reinitExact phi c
  rw [hget]
  exact isInside_signed _ ha

/-- Whatever a level set holds, reinitialization leaves numbers. -/
lemma isFinite_reinitExact (phi : ScalarField d Exact) (c : d.Cell) :
    Scalar.isFinite ((reinitExact phi).get c) = true := by
  obtain ⟨a, ⟨x, -, rfl⟩, hget⟩ := exists_get_reinitExact phi c
  rw [hget, isFinite_mul]
  refine ⟨?_, rfl⟩
  cases isInside (phi.get c) <;> rfl

end Surface

end FreeSurface

import FreeSurface.Proofs.Field.Paths
import FreeSurface.Proofs.Surface.Layers

/-!
# Layers and depths

The depth of a cell is the length of the shortest path that leads to it, on its own side, from a
cell at the surface.  The layers of an extrapolation are the cells of one depth
(`Surface.layered_extrapolate`): what the loop numbers while it rewrites the level set is the
distance on the level set it was given, because no cell changes sides meanwhile.

* `Surface.AtSurface`, `Surface.AtDepth` — the cells of a side at the surface, and behind it.
* `Surface.Layered` — what the extrapolated level set is, cell by cell.
* `Surface.extrapolate_congr` — it depends on the sides and on the values at the surface alone.
-/

namespace FreeSurface

open Exact

namespace Surface

open Front

variable {d : Dims} {S : Type} [Scalar S] {inside : Bool} {distance k : ℕ} {c : d.Cell}

/-! ## Depths -/

/-- A cell of the side with a neighbour on the other one. -/
def AtSurface (phi : ScalarField d S) (inside : Bool) (c : d.Cell) : Prop :=
  isInside (phi.get c) = inside ∧ ∃ n ∈ d.cells.neighbors c, isInside (phi.get n) ≠ inside

/-- The shortest path on the side from its cells at the surface has so many steps. -/
def AtDepth (phi : ScalarField d S) (inside : Bool) : ℕ → d.Cell → Prop :=
  AtDistance (AtSurface phi inside) fun c => isInside (phi.get c) = inside

section Spread

variable {phi psi : ScalarField d S}

lemma AtDepth.isInside_eq (h : AtDepth phi inside k c) : isInside (phi.get c) = inside := by
  cases k with
  | zero => exact h.1
  | succ k => exact (h.1.resolve_left h.2).1

lemma settled_layerStart :
    (layerStart phi inside).settled.get c = true ↔ AtSurface phi inside c := by
  rw [layerStart, Field.get_tabulate, Bool.and_eq_true, beq_iff_eq, touchesOtherSide,
    List.any_eq_true, AtSurface]
  refine and_congr_right fun hc => ?_
  simp only [hc, bne_iff_ne]

lemma settled_layerStart_eq :
    (fun c => (layerStart phi inside).settled.get c = true) = AtSurface phi inside :=
  funext fun _ => propext settled_layerStart

lemma isSome_layerRule (c : d.Cell) (values : List S) :
    (layerRule phi inside c values).isSome = true ↔
      isInside (phi.get c) = inside ∧ values ≠ [] := by
  rw [layerRule, mean?]
  split_ifs with hside hempty <;> simp_all

/-- The layers hold the cells that are not too deep. -/
lemma settled_layers (limit : ℕ) :
    ((layerStart phi inside).spread (layerRule phi inside) limit).settled.get c = true ↔
      ∃ k ≤ limit, AtDepth phi inside k c := by
  rw [settled_spread_iff isSome_layerRule, settled_layerStart_eq]
  exact ⟨Reached.exists_atDistance, fun ⟨_, hle, hc⟩ => (AtDistance.reached hc).mono hle⟩

/-! ## Cells of each kind -/

lemma get_extrapolate_of_other_side (distance : ℕ) (h : isInside (phi.get c) ≠ inside) :
    (extrapolate phi distance inside).get c = phi.get c := by
  have hrefused : ∀ values, layerRule phi inside c values = none := fun values =>
    if_neg (by simpa using h)
  rw [get_extrapolate]
  simp only [beq_eq_false_iff_ne.mpr h, Bool.false_and, Bool.false_eq_true, if_false]
  exact get_values_spread_of_refused hrefused _ _

lemma get_extrapolate_of_layer (hk : k < distance) (h : AtDepth phi inside k c) :
    (extrapolate phi distance inside).get c =
      ((layerStart phi inside).spread (layerRule phi inside) (distance - 1)).values.get c := by
  have hsettled := (settled_layers (distance - 1)).mpr ⟨k, by omega, h⟩
  rw [get_extrapolate]
  simp only [hsettled, Bool.not_true, Bool.and_false, Bool.false_eq_true, if_false]

lemma get_extrapolate_of_surface (h : 0 < distance) (hc : AtSurface phi inside c) :
    (extrapolate phi distance inside).get c = phi.get c := by
  rw [get_extrapolate_of_layer (k := 0) h hc]
  exact get_values_spread_of_settled _ _ _ (settled_layerStart.mpr hc)

open Classical in
/-- A cell takes what the rule makes of the layer before it. -/
lemma layerRule_extrapolate (hk : k + 1 < distance) (h : AtDepth phi inside (k + 1) c) :
    layerRule phi inside c (((d.cells.neighbors c).filter (AtDepth phi inside k ·)).map
      (extrapolate phi distance inside).get) = some ((extrapolate phi distance inside).get c) := by
  have hlayer : ∀ m ∈ (d.cells.neighbors c).filter (AtDepth phi inside k ·),
      (extrapolate phi distance inside).get m =
        ((layerStart phi inside).spread (layerRule phi inside) (distance - 1)).values.get m := by
    intro m hm
    exact get_extrapolate_of_layer (by omega) (of_decide_eq_true (List.mem_filter.mp hm).2)
  have hc : AtDistance (fun m => (layerStart phi inside).settled.get m = true)
      (fun m => isInside (phi.get m) = inside) (k + 1) c := by
    rw [settled_layerStart_eq]
    exact h
  have hrule := rule_atDistance
    (fun n values (_ : ∀ b ∈ values, True) => isSome_layerRule n values)
    (fun _ _ _ _ _ => trivial) (fun _ _ => trivial) (show k < distance - 1 by omega) hc
  rw [get_extrapolate_of_layer hk h, List.map_congr_left hlayer]
  simp only [settled_layerStart_eq] at hrule
  exact hrule

lemma get_extrapolate_of_far (hside : isInside (phi.get c) = inside) (h : 0 < distance)
    (hfar : ∀ k < distance, ¬AtDepth phi inside k c) :
    (extrapolate phi distance inside).get c = away inside * Scalar.ofNat distance := by
  have hsettled : ((layerStart phi inside).spread (layerRule phi inside)
      (distance - 1)).settled.get c = false := by
    rw [← Bool.not_eq_true, settled_layers]
    rintro ⟨k, hk, hc⟩
    exact hfar k (by omega) hc
  rw [get_extrapolate]
  simp only [hside, hsettled, beq_self_eq_true, Bool.not_false, Bool.and_self, if_true]

/-! ## What the layers depend on -/

lemma atSurface_congr (hside : ∀ c, isInside (psi.get c) = isInside (phi.get c)) :
    AtSurface psi inside c ↔ AtSurface phi inside c := by
  simp only [AtSurface, hside]

lemma layerRule_congr (hside : ∀ c, isInside (psi.get c) = isInside (phi.get c)) :
    layerRule psi inside = layerRule phi inside := by
  funext c values
  rw [layerRule, layerRule, hside]

/-- **On a side, the sides of all cells and the values at the surface decide.**  No value behind
the surface matters. -/
theorem extrapolate_congr (hside : ∀ c, isInside (psi.get c) = isInside (phi.get c))
    (hsurface : ∀ c, AtSurface phi inside c → psi.get c = phi.get c)
    (hc : isInside (phi.get c) = inside) :
    (extrapolate psi distance inside).get c = (extrapolate phi distance inside).get c := by
  have hstart : Agree (layerStart phi inside) (layerStart psi inside) := by
    refine ⟨Field.ext_get fun c => ?_, fun c hc => (hsurface c (settled_layerStart.mp hc)).symm⟩
    rw [Bool.eq_iff_iff, settled_layerStart, settled_layerStart, atSurface_congr hside]
  have hagree := hstart.spread (layerRule phi inside) (distance - 1)
  rw [get_extrapolate, get_extrapolate, layerRule_congr hside, hside]
  simp only [hc, ← hagree.settled, beq_self_eq_true, Bool.true_and, Bool.not_eq_true']
  split_ifs with hs
  · rfl
  · exact (hagree.values c (Bool.eq_true_of_not_eq_false hs)).symm

end Spread

/-! ## The extrapolated level set -/

/-- The mean of some numbers. -/
noncomputable def mean (xs : List ℝ) : ℝ := xs.sum / xs.length

open Classical in
/-- One side of a level set has been made to grow by one per cell: no cell changes sides, the other
side and the cells at the surface keep their values, each layer lies a unit away from the mean of
the layer before it, and what is deeper than the last layer has one value. -/
structure Layered (phi result : ScalarField d Exact) (distance : ℕ) (inside : Bool) : Prop where
  side : ∀ c, isInside (result.get c) = isInside (phi.get c)
  other : ∀ c, isInside (phi.get c) ≠ inside → result.get c = phi.get c
  surface : ∀ c, AtSurface phi inside c → result.get c = phi.get c
  layer : ∀ k c, k + 1 < distance → AtDepth phi inside (k + 1) c →
    result.get c = real (mean (((d.cells.neighbors c).filter (AtDepth phi inside k ·)).map
      fun n => (result.get n).toReal) + if inside then -1 else 1)
  far : ∀ c, isInside (phi.get c) = inside → (∀ k < distance, ¬AtDepth phi inside k c) →
    result.get c = real (if inside then -distance else distance)

section Exact

variable {phi : ScalarField d Exact} (hphi : ∀ c, Scalar.isFinite (phi.get c) = true)
include hphi

lemma layered (h : 0 < distance) (inside : Bool) :
    Layered phi (extrapolate phi distance inside) distance inside where
  side c := (onSide_extrapolate hphi h inside c).2
  other c hc := get_extrapolate_of_other_side distance hc
  surface c hc := get_extrapolate_of_surface h hc
  layer k c hk hc := by
    have hrule := layerRule_extrapolate hk hc
    rw [layerRule, if_pos (beq_iff_eq.mpr hc.isInside_eq)] at hrule
    obtain ⟨a, ha, hvalue⟩ := Option.map_eq_some_iff.mp hrule
    rw [← hvalue, Front.mean?_eq ?_ ha, away_eq, real_add_real, List.map_map, List.length_map, mean,
      List.length_map]
    · rfl
    · intro b hb
      obtain ⟨n, -, rfl⟩ := List.mem_map.mp hb
      exact (onSide_extrapolate hphi h inside n).1
  far c hc hfar := by
    rw [get_extrapolate_of_far hc h hfar, away_eq, scalar_ofNat, real_mul_real]
    cases inside <;> simp

/-- Extrapolating twice is extrapolating once. -/
lemma extrapolate_extrapolate (h : 0 < distance) (inside : Bool) :
    extrapolate (extrapolate phi distance inside) distance inside =
      extrapolate phi distance inside := by
  have hlayered := layered hphi h inside
  refine Field.ext_get fun c => ?_
  by_cases hc : isInside (phi.get c) = inside
  · exact extrapolate_congr hlayered.side hlayered.surface hc
  · exact get_extrapolate_of_other_side distance (by rwa [hlayered.side])

/-- **An extrapolated side is layered by depth**, the sides of all cells and the values at the
surface decide what it becomes, and extrapolating it again changes nothing. -/
theorem layered_extrapolate (h : 0 < distance) (inside : Bool) :
    Layered phi (extrapolate phi distance inside) distance inside ∧
      (∀ psi : ScalarField d Exact, (∀ c, isInside (psi.get c) = isInside (phi.get c)) →
        (∀ c, AtSurface phi inside c → psi.get c = phi.get c) →
        ∀ c, isInside (phi.get c) = inside →
          (extrapolate psi distance inside).get c = (extrapolate phi distance inside).get c) ∧
      extrapolate (extrapolate phi distance inside) distance inside =
        extrapolate phi distance inside :=
  ⟨layered hphi h inside, fun _ hside hsurface _ hc => extrapolate_congr hside hsurface hc,
    extrapolate_extrapolate hphi h inside⟩

end Exact

/-! ## A shore -/

/-- A cell of air and three of liquid, all with the same level. -/
noncomputable def shore : ScalarField (Dims.planar 3 0) Exact := Field.tabulate fun c =>
  real (if c.val = 0 then 1 else -1)

lemma isInside_shore (c : (Dims.planar 3 0).Cell) :
    isInside (shore.get c) = decide (0 < c.val) := by
  rw [shore, Field.get_tabulate, Bool.eq_iff_iff, isInside_iff, real_lt_real, decide_eq_true_iff]
  split_ifs with h
  · simp [h]
  · simp [Nat.pos_of_ne_zero h]

lemma atSurface_shore (c : (Dims.planar 3 0).Cell) : AtSurface shore true c ↔ c.val = 1 := by
  simp only [AtSurface, isInside_shore]
  revert c
  decide

lemma isFinite_shore (c : (Dims.planar 3 0).Cell) : Scalar.isFinite (shore.get c) = true := by
  rw [shore, Field.get_tabulate]
  rfl

/-- The first cell behind the surface lies a unit below it. -/
theorem layered_extrapolate_shore :
    let c : (Dims.planar 3 0).Cell := ⟨2, by decide⟩
    (∀ c, Scalar.isFinite (shore.get c) = true) ∧ 0 < 2 ∧ AtDepth shore true 1 c ∧
      (extrapolate shore 2 true).get c = real (-2) := by
  classical
  intro c
  let c₁ : (Dims.planar 3 0).Cell := ⟨1, by decide⟩
  let c₃ : (Dims.planar 3 0).Cell := ⟨3, by decide⟩
  have hneighbors : (Dims.planar 3 0).cells.neighbors c = [c₁, c₃] := by decide
  have hc₁ : AtSurface shore true c₁ := (atSurface_shore c₁).mpr rfl
  have hc₃ : ¬AtSurface shore true c₃ := (atSurface_shore c₃).not.mpr (by decide)
  have hdepth : AtDepth shore true 1 c := by
    refine ⟨.inr ⟨isInside_shore c, c₁, ?_, hc₁⟩, (atSurface_shore c).not.mpr (by decide)⟩
    rw [hneighbors]
    exact List.mem_cons_self
  have hlayered := (layered_extrapolate isFinite_shore two_pos true).1
  have hvalue := hlayered.layer 0 c one_lt_two hdepth
  have hsurface : (extrapolate shore 2 true).get c₁ = real (-1) := hlayered.surface c₁ hc₁
  refine ⟨isFinite_shore, two_pos, hdepth, ?_⟩
  have hlayer : [c₁, c₃].filter (AtDepth shore true 0 ·) = [c₁] := by
    rw [List.filter_cons_of_pos, List.filter_cons_of_neg, List.filter_nil]
    · exact mt of_decide_eq_true hc₃
    · exact decide_eq_true hc₁
  rw [hvalue, hneighbors, hlayer, List.map_singleton, hsurface]
  norm_num [mean]

end Surface

end FreeSurface

import FreeSurface.Proofs.Surface.Depth
import FreeSurface.Proofs.Surface.Relaxation

/-!
# The signed distance of a level set

In exact arithmetic reinitialization leaves a signed distance
(`Surface.exists_isSurfaceDistance`): cells next to the other side have the distance that is
estimated there, and no cell is farther from the surface than its grid distance to the other side.
One sweep is enough for the latter: there is one that leads away from the nearest cell of the other
side, and no sweep before or after it raises a distance.

* `Surface.exists_interfaceDistance` — the estimate at the surface is at most one.
* `Surface.IsSurfaceDistance` — what is known of the distances.
* `Surface.reinitExact_congr` — they depend on the sides and on the values next to the other side.
-/

namespace FreeSurface

open scoped Literals

namespace Surface

open Exact

variable {d : Dims}

/-! ## At the surface -/

section Interface

variable {S : Type} [Scalar S]

/-- The fraction of the way to a neighbour at which the surface is crossed. -/
def fraction (phi : ScalarField d S) (c n : d.Cell) : S :=
  Scalar.max (Scalar.abs (phi.get c / (phi.get c - phi.get n))) minInterfaceFraction

/-- The neighbours along an axis on the other side. -/
def across (phi : ScalarField d S) (c : d.Cell) (a : Axis) : List d.Cell :=
  (d.cells.neighborsAlong (d.cells.coords c) a).filter fun n =>
    isInside (phi.get n) != isInside (phi.get c)

lemma crossingFraction_eq (phi : ScalarField d S) (c : d.Cell) (a : Axis) :
    crossingFraction phi (fun _ => true) c a =
      ((across phi c a).map (fraction phi c)).foldl Scalar.min Scalar.infinity := by
  rw [crossingFraction, List.foldl_map, across, List.foldl_filter]
  rfl

lemma touchesOtherSide_iff {phi : ScalarField d S} {c : d.Cell} :
    touchesOtherSide phi c = true ↔
      ∃ n ∈ d.cells.neighbors c, isInside (phi.get n) ≠ isInside (phi.get c) := by
  simp only [touchesOtherSide, List.any_eq_true, bne_iff_ne]

lemma touchesOtherSide_iff_exists_across {phi : ScalarField d S} {c : d.Cell} :
    touchesOtherSide phi c = true ↔ ∃ a, across phi c a ≠ [] := by
  rw [touchesOtherSide_iff]
  constructor
  · rintro ⟨n, hn, hside⟩
    obtain ⟨a, ha⟩ := mem_neighbors_iff_exists_along.mp hn
    exact ⟨a, List.ne_nil_of_mem (List.mem_filter.mpr ⟨ha, bne_iff_ne.mpr hside⟩)⟩
  · rintro ⟨a, ha⟩
    obtain ⟨n, hn⟩ := List.exists_mem_of_ne_nil _ ha
    obtain ⟨hn, hside⟩ := List.mem_filter.mp hn
    exact ⟨n, mem_neighbors_iff_exists_along.mpr ⟨a, hn⟩, bne_iff_ne.mp hside⟩

end Interface

section Estimate

variable {phi : ScalarField d Exact} (hphi : ∀ c, Scalar.isFinite (phi.get c) = true)
include hphi

/-- Between values on different sides the surface is crossed not beyond the second. -/
lemma exists_fraction {c n : d.Cell} (h : isInside (phi.get n) ≠ isInside (phi.get c)) :
    ∃ t, 0 < t ∧ t ≤ 1 ∧ fraction phi c n = real t := by
  obtain ⟨v, hv⟩ := isFinite_iff.mp (hphi c)
  obtain ⟨w, hw⟩ := isFinite_iff.mp (hphi n)
  have hsides : ¬(w < 0 ↔ v < 0) := by
    simpa only [hv, hw, isInside, literal, Nat.cast_zero, real_lt_real, ne_eq,
      decide_eq_decide] using h
  have hle : |v| ≤ |v - w| ∧ v - w ≠ 0 := by
    by_cases hneg : v < 0
    · have hw : 0 ≤ w := not_lt.mp fun hw => hsides ⟨fun _ => hneg, fun _ => hw⟩
      rw [abs_of_neg hneg, abs_of_neg (by linarith)]
      exact ⟨by linarith, by linarith⟩
    · have hw : w < 0 := by
        by_contra hw
        exact hsides ⟨fun h => absurd h hw, fun h => absurd h hneg⟩
      rw [abs_of_nonneg (not_lt.mp hneg), abs_of_pos (by linarith)]
      exact ⟨by linarith, by linarith⟩
  refine ⟨max |v / (v - w)| (1 / 10 ^ 3), by positivity, max_le ?_ (by norm_num), ?_⟩
  · rw [abs_div]
    exact div_le_one_of_le₀ hle.1 (abs_nonneg _)
  · rw [fraction, hv, hw, real_sub_real, real_div_real hle.2, abs_real, minInterfaceFraction,
      scalar_ofDecimal, max_real, Nat.cast_one]

lemma crossingFraction_of_across {c : d.Cell} {a : Axis} (h : across phi c a ≠ []) :
    ∃ t, 0 < t ∧ t ≤ 1 ∧ crossingFraction phi (fun _ => true) c a = real t := by
  have hfraction : ∀ t ∈ (across phi c a).map (fraction phi c),
      ∃ u, 0 < u ∧ u ≤ 1 ∧ t = real u := by
    intro t ht
    obtain ⟨n, hn, rfl⟩ := List.mem_map.mp ht
    exact exists_fraction hphi (bne_iff_ne.mp (List.mem_filter.mp hn).2)
  have hfinite : ∀ t ∈ (across phi c a).map (fraction phi c), Scalar.isFinite t = true := by
    intro t ht
    obtain ⟨u, -, -, rfl⟩ := hfraction t ht
    rfl
  rw [crossingFraction_eq]
  exact hfraction _ (Scalar.foldl_min (mt List.map_eq_nil_iff.mp h) hfinite).1

omit hphi in
lemma crossingFraction_of_across_nil {c : d.Cell} {a : Axis} (h : across phi c a = []) :
    crossingFraction phi (fun _ => true) c a = posInf := by
  rw [crossingFraction_eq, h]
  rfl

omit hphi in
/-- Away from the other side there is no estimate. -/
lemma interfaceDistance?_eq_none {c : d.Cell} (h : ¬touchesOtherSide phi c = true) :
    interfaceDistance? phi (fun _ => true) c = none := by
  rw [touchesOtherSide_iff_exists_across, not_exists] at h
  rw [interfaceDistance?_eq, if_pos]
  refine List.filter_eq_nil_iff.mpr fun t ht => ?_
  obtain ⟨a, -, rfl⟩ := List.mem_map.mp ht
  rw [crossingFraction_of_across_nil (not_not.mp (h a)), isFinite_posInf]
  exact Bool.false_ne_true

/-- **Next to the other side the estimate is at most one**: no fraction is above one. -/
theorem exists_interfaceDistance {c : d.Cell} (h : touchesOtherSide phi c = true) :
    ∃ r, r ≤ 1 ∧ interfaceDistance? phi (fun _ => true) c = some (real r) := by
  obtain ⟨a, ha⟩ := touchesOtherSide_iff_exists_across.mp h
  obtain ⟨t, hpos, hle, ht⟩ := crossingFraction_of_across hphi ha
  have hmem : real t ∈ crossings phi (fun _ => true) c :=
    List.mem_filter.mpr ⟨List.mem_map.mpr ⟨a, a.mem_all, ht⟩, rfl⟩
  have hone : 1 ≤ steepness (crossings phi (fun _ => true) c) := by
    refine le_trans ?_ (le_steepness hmem)
    rw [toReal_real, one_le_div (by positivity)]
    exact mul_le_one₀ hle hpos.le hle
  refine ⟨_, div_le_one_of_le₀ (Real.one_le_sqrt.mpr hone) (Real.sqrt_nonneg _), ?_⟩
  rw [interfaceDistance?_eq, if_neg (List.ne_nil_of_mem hmem)]

end Estimate

/-! ## The parts of reinitialization -/

section Parts

variable {S : Type} [Scalar S]

/-- The sides of the cells. -/
def sides (phi : ScalarField d S) : Field d.cells Bool := phi.map isInside

/-- The estimates at the surface. -/
def estimates (phi : ScalarField d S) : Field d.cells (Option S) :=
  Field.tabulate fun c => interfaceDistance? phi (fun _ => true) c

/-- The cells with an estimate. -/
def frozenCells (phi : ScalarField d S) : Field d.cells Bool := (estimates phi).map (·.isSome)

/-- The distances before the first sweep. -/
def startDistances (phi : ScalarField d S) : ScalarField d S :=
  (estimates phi).map (·.getD (Scalar.ofNat (d.width + d.height + d.depth)))

/-- The cells in the order in which they are relaxed, sweep after sweep. -/
def schedule (d : Dims) : List d.Cell :=
  (List.range sweepPasses).flatMap fun _ => (Sweep.all d).flatMap (·.cells d)

/-- The distances after the last sweep. -/
def distances (phi : ScalarField d S) : ScalarField d S :=
  (schedule d).foldl (relax (sides phi) (frozenCells phi)) (startDistances phi)

lemma get_reinitExact (phi : ScalarField d S) (c : d.Cell) :
    (reinitExact phi).get c = signOf (isInside (phi.get c)) * (distances phi).get c := by
  have hdistances : distances phi = (List.range sweepPasses).foldl (fun dist _ =>
      ((Sweep.all d).map (·.cells d)).foldl
        (fun dist cells => cells.foldl (relax (sides phi) (frozenCells phi)) dist) dist)
      (startDistances phi) := by
    simp only [distances, schedule, List.foldl_flatMap, List.foldl_map]
  rw [hdistances, reinitExact, Field.get_tabulate, Field.get_map]
  rfl

/-- Every sweep has its turn. -/
lemma exists_schedule_eq {s : Sweep} (h : s ∈ Sweep.all d) :
    ∃ earlier later, schedule d = earlier ++ s.cells d ++ later := by
  obtain ⟨before, after, hall⟩ := List.append_of_mem h
  refine ⟨before.flatMap (·.cells d), after.flatMap (·.cells d) ++
    (Sweep.all d).flatMap (·.cells d), ?_⟩
  have hrange : List.range sweepPasses = [0, 1] := rfl
  rw [schedule, hrange, List.flatMap_cons, List.flatMap_singleton]
  nth_rewrite 1 [hall]
  simp only [List.flatMap_append, List.flatMap_cons, List.append_assoc]

/-- The sides of all cells and the values next to the other side decide. -/
theorem reinitExact_congr {phi psi : ScalarField d S}
    (hside : ∀ c, isInside (psi.get c) = isInside (phi.get c))
    (hsurface : ∀ c, touchesOtherSide phi c = true → psi.get c = phi.get c) :
    reinitExact psi = reinitExact phi := by
  have hsides : sides psi = sides phi := Field.ext_get fun c => by
    rw [sides, sides, Field.get_map, Field.get_map, hside]
  have hfraction : ∀ c a, crossingFraction psi (fun _ => true) c a =
      crossingFraction phi (fun _ => true) c a := by
    intro c a
    have hacross : across psi c a = across phi c a := by
      simp only [across, hside]
    rw [crossingFraction_eq, crossingFraction_eq, hacross]
    congr 1
    refine List.map_congr_left fun n hn => ?_
    -- A cell and its neighbour on the other side both see the other side.
    obtain ⟨hn, hother⟩ := List.mem_filter.mp hn
    have hmem := mem_neighbors_iff_exists_along.mpr ⟨a, hn⟩
    have hother := bne_iff_ne.mp hother
    have hc := touchesOtherSide_iff.mpr ⟨n, hmem, hother⟩
    have hn := touchesOtherSide_iff.mpr ⟨c, d.cells.mem_neighbors_symm.mp hmem, hother.symm⟩
    rw [fraction, fraction, hsurface c hc, hsurface n hn]
  have hestimates : estimates psi = estimates phi := Field.ext_get fun c => by
    simp only [estimates, Field.get_tabulate, interfaceDistance?, funext (hfraction c)]
  refine Field.ext_get fun c => ?_
  rw [get_reinitExact, get_reinitExact, hside, distances, distances, frozenCells, frozenCells,
    startDistances, startDistances, hsides, hestimates]

end Parts

/-! ## Distances -/

section Distances

variable {phi : ScalarField d Exact}

lemma get_estimates (c : d.Cell) :
    (estimates phi).get c = interfaceDistance? phi (fun _ => true) c :=
  Field.get_tabulate _ _

lemma get_frozenCells (c : d.Cell) :
    (frozenCells phi).get c = (interfaceDistance? phi (fun _ => true) c).isSome := by
  rw [frozenCells, Field.get_map, get_estimates]

lemma get_startDistances (c : d.Cell) : (startDistances phi).get c =
    (interfaceDistance? phi (fun _ => true) c).getD
      (Scalar.ofNat (d.width + d.height + d.depth)) := by
  rw [startDistances, Field.get_map, get_estimates]

lemma get_startDistances_of_not_touchesOtherSide {c : d.Cell}
    (h : ¬touchesOtherSide phi c = true) :
    (startDistances phi).get c = real ((d.width + d.height + d.depth : ℕ) : ℝ) := by
  rw [get_startDistances, interfaceDistance?_eq_none h, Option.getD_none, scalar_ofNat]

variable (hphi : ∀ c, Scalar.isFinite (phi.get c) = true)
include hphi

lemma bounded_startDistances : Bounded (frozenCells phi) (startDistances phi) := by
  have hestimate : ∀ c, touchesOtherSide phi c = true → ∃ r, 0 < r ∧ r ≤ 1 ∧
      (startDistances phi).get c = real r := by
    intro c hc
    obtain ⟨r, hle, hr⟩ := exists_interfaceDistance hphi hc
    obtain ⟨x, hx, heq⟩ := isPositive_interfaceDistance hr
    refine ⟨r, real_injective heq ▸ hx, hle, ?_⟩
    rw [get_startDistances, hr, Option.getD_some]
  constructor
  · intro c
    by_cases hc : touchesOtherSide phi c = true
    · obtain ⟨r, hpos, -, hr⟩ := hestimate c hc
      exact ⟨r, hpos, hr⟩
    · have hfarthest : 0 < d.width + d.height + d.depth := Nat.add_pos_right _ d.depth_pos
      exact ⟨_, Nat.cast_pos.mpr hfarthest, get_startDistances_of_not_touchesOtherSide hc⟩
  · intro c hc
    by_cases htouches : touchesOtherSide phi c = true
    · obtain ⟨r, -, hle, hr⟩ := hestimate c htouches
      rwa [hr, toReal_real]
    · rw [get_frozenCells, interfaceDistance?_eq_none htouches] at hc
      cases hc

/-- **No cell is farther from the surface than its grid distance to the other side.** -/
theorem distances_le_steps {c o : d.Cell} (h : isInside (phi.get o) ≠ isInside (phi.get c)) :
    ((distances phi).get c).toReal ≤ d.cells.steps c o := by
  have hsides : ∀ n, (sides phi).get n = isInside (phi.get n) := fun n => Field.get_map _ _ n
  have hfrozen : ∀ m, ∀ n ∈ d.cells.neighbors m, (sides phi).get n ≠ (sides phi).get m →
      (frozenCells phi).get m = true := by
    intro m n hn hside
    rw [hsides, hsides] at hside
    obtain ⟨r, -, hr⟩ := exists_interfaceDistance hphi (touchesOtherSide_iff.mpr ⟨n, hn, hside⟩)
    rw [get_frozenCells, hr, Option.isSome_some]
  obtain ⟨o', ho', hnearest⟩ := Finset.exists_min_image
    (Finset.univ.filter fun o => (sides phi).get o ≠ (sides phi).get c) (d.cells.steps c)
    ⟨o, by rwa [Finset.mem_filter_univ, hsides, hsides]⟩
  simp only [Finset.mem_filter_univ] at ho' hnearest
  obtain ⟨s, hs, haway⟩ := Sweep.exists_leadsAway o' c
  obtain ⟨earlier, later, hschedule⟩ := exists_schedule_eq hs
  have hbounded := (bounded_startDistances hphi).foldl_relax (sides phi) earlier
  rw [distances, hschedule, List.foldl_append, List.foldl_append]
  calc _ ≤ _ := foldl_relax_le (hbounded.foldl_relax _ _) _ later c
    _ ≤ (d.cells.steps c o' : ℝ) := sweep_le hfrozen hbounded haway ⟨ho', hnearest⟩
    _ ≤ d.cells.steps c o := Nat.cast_le.mpr (hnearest o (by rwa [hsides, hsides]))

lemma get_distances_of_touchesOtherSide {c : d.Cell} (h : touchesOtherSide phi c = true) :
    ∃ r, r ≤ 1 ∧ interfaceDistance? phi (fun _ => true) c = some (real r) ∧
      (distances phi).get c = real r := by
  obtain ⟨r, hle, hr⟩ := exists_interfaceDistance hphi h
  refine ⟨r, hle, hr, ?_⟩
  rw [distances, get_foldl_relax_of_frozen (bounded_startDistances hphi), get_startDistances, hr,
    Option.getD_some]
  rw [get_frozenCells, hr, Option.isSome_some]

/-- On one side only, no cell has anything to take a distance from. -/
lemma get_distances_of_one_sided (h : ∀ c o, isInside (phi.get o) = isInside (phi.get c))
    (c : d.Cell) : (distances phi).get c = real ((d.width + d.height + d.depth : ℕ) : ℝ) := by
  have hstart : ∀ c, (startDistances phi).get c =
      real ((d.width + d.height + d.depth : ℕ) : ℝ) := by
    intro c
    refine get_startDistances_of_not_touchesOtherSide fun htouches => ?_
    obtain ⟨n, -, hside⟩ := touchesOtherSide_iff.mp htouches
    exact hside (h c n)
  rw [distances, foldl_relax_of_constant (bounded_startDistances hphi) _ _ hstart, hstart]

/-- What reinitialization knows of the distances of a level set. -/
structure IsSurfaceDistance (phi : ScalarField d Exact) (distance : d.Cell → ℝ) : Prop where
  pos : ∀ c, 0 < distance c
  surface : ∀ c, touchesOtherSide phi c = true → distance c ≤ 1 ∧
    interfaceDistance? phi (fun _ => true) c = some (real (distance c))
  le_steps : ∀ c o, isInside (phi.get o) ≠ isInside (phi.get c) → distance c ≤ d.cells.steps c o
  lt_farthest : ∀ c o, isInside (phi.get o) ≠ isInside (phi.get c) →
    distance c < (d.width + d.height + d.depth : ℕ)
  one_sided : (∀ c o, isInside (phi.get o) = isInside (phi.get c)) →
    ∀ c, distance c = (d.width + d.height + d.depth : ℕ)

lemma isSurfaceDistance_distances :
    IsSurfaceDistance phi fun c => ((distances phi).get c).toReal where
  pos c := by
    obtain ⟨x, hx, heq⟩ := ((bounded_startDistances hphi).foldl_relax _ _).positive c
    rwa [distances, heq, toReal_real]
  surface c hc := by
    obtain ⟨r, hle, hr, heq⟩ := get_distances_of_touchesOtherSide hphi hc
    rw [heq, toReal_real]
    exact ⟨hle, hr⟩
  le_steps c o h := distances_le_steps hphi h
  lt_farthest c o h := by
    have hlt := Lattice.steps_add_two_lt c o
    have hfarthest : d.cells.steps c o < d.width + d.height + d.depth :=
      (Nat.lt_add_of_pos_right two_pos).trans hlt
    exact (distances_le_steps hphi h).trans_lt (Nat.cast_lt.mpr hfarthest)
  one_sided h c := by
    rw [get_distances_of_one_sided hphi h, toReal_real]

/-- **Reinitialization leaves a signed distance**: it moves no sign and leaves no zero, the cells
next to the other side have the distance estimated there, and no other cell is farther than its grid
distance to that side.  The sides of all cells and the values next to the other side decide. -/
theorem exists_isSurfaceDistance :
    (∃ distance, IsSurfaceDistance phi distance ∧ ∀ c, (reinitExact phi).get c =
      real (if isInside (phi.get c) then -distance c else distance c)) ∧
    (∀ c, ((reinitExact phi).get c < real 0 ↔ phi.get c < real 0) ∧
      (reinitExact phi).get c ≠ real 0) ∧
    ∀ psi : ScalarField d Exact, (∀ c, isInside (psi.get c) = isInside (phi.get c)) →
      (∀ c, touchesOtherSide phi c = true → psi.get c = phi.get c) →
      reinitExact psi = reinitExact phi := by
  have hdistance := isSurfaceDistance_distances hphi
  have hget : ∀ c, (reinitExact phi).get c = real (if isInside (phi.get c)
      then -((distances phi).get c).toReal else ((distances phi).get c).toReal) := by
    intro c
    have hpositive := ((bounded_startDistances hphi).foldl_relax (sides phi) (schedule d)).positive
    rw [get_reinitExact, distances, hpositive.get_eq c, toReal_real]
    cases isInside (phi.get c) <;> simp [signOf]
  refine ⟨⟨_, hdistance, hget⟩, fun c => ⟨?_, fun hzero => ?_⟩, fun _ => reinitExact_congr⟩
  · rw [← isInside_iff, ← isInside_iff, isInside_reinitExact]
  · have hpos := hdistance.pos c
    have hzero := real_injective ((hget c).symm.trans hzero)
    split_ifs at hzero <;> linarith

end Distances

/-- At the deep end of the shore the liquid is at most three cells from the air. -/
theorem exists_isSurfaceDistance_shore :
    let c : (Dims.planar 3 0).Cell := ⟨3, by decide⟩
    (∀ c, Scalar.isFinite (shore.get c) = true) ∧
      ∃ r, 0 < r ∧ r ≤ 3 ∧ (reinitExact shore).get c = real (-r) := by
  intro c
  obtain ⟨⟨distance, hdistance, hget⟩, -⟩ := exists_isSurfaceDistance isFinite_shore
  have hother : isInside (shore.get ⟨0, by decide⟩) ≠ isInside (shore.get c) := by
    rw [isInside_shore, isInside_shore]
    decide
  have hle := hdistance.le_steps c _ hother
  have hsteps : (Dims.planar 3 0).cells.steps c ⟨0, by decide⟩ = 3 := by decide
  rw [hsteps] at hle
  refine ⟨isFinite_shore, distance c, hdistance.pos c, by exact_mod_cast hle, ?_⟩
  rw [hget, isInside_shore]
  rfl

end Surface

end FreeSurface

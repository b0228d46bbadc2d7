import FreeSurface.Proofs.Number.Least
import FreeSurface.Proofs.Surface.SweepOrder
import FreeSurface.Proofs.Surface.Sweeping

/-!
# What a sweep reaches

Relaxing a cell raises no distance (`Surface.relax_le`), and leaves a free cell at most one farther
than each neighbour on its side (`Surface.relax_le_add_one`).  A sweep that leads away from a cell
on the other side therefore brings every cell on its way to that cell's grid distance
(`Surface.sweep_le`): the way back, taken step by step, has been relaxed before, and where it comes
to the other side stands a frozen cell.
-/

namespace FreeSurface

namespace Surface

open Exact

variable {d : Dims} {inside frozen : Field d.cells Bool} {dist : ScalarField d Exact}
  {n m c o : d.Cell}

/-! ## What a cell sees -/

lemma AllPositive.get_eq (h : AllPositive dist) (c : d.Cell) :
    dist.get c = real (dist.get c).toReal :=
  eq_real_toReal (h c).isFinite

/-- The least distances on the side of a cell, axis by axis. -/
noncomputable def sideLevels (inside : Field d.cells Bool) (dist : ScalarField d Exact)
    (c : d.Cell) : List Exact :=
  Axis.all.map (leastAlong dist (fun n => inside.get n == inside.get c) c)

lemma AllPositive.isFinite_map (h : AllPositive dist) (l : List d.Cell) :
    ∀ a ∈ l.map dist.get, Scalar.isFinite a = true := by
  intro a ha
  obtain ⟨n, -, rfl⟩ := List.mem_map.mp ha
  exact (h n).isFinite

/-- Each neighbour on its side shows a cell a level at most its distance. -/
lemma AllPositive.exists_level (h : AllPositive dist) (hn : n ∈ d.cells.neighbors c)
    (hside : inside.get n = inside.get c) :
    ∃ v ≤ (dist.get n).toReal, real v ∈ sideLevels inside dist c := by
  obtain ⟨a, ha⟩ := mem_neighbors_iff_exists_along.mp hn
  have hmem : dist.get n ∈ ((d.cells.neighborsAlong (d.cells.coords c) a).filter
      (fun n => inside.get n == inside.get c)).map dist.get :=
    List.mem_map_of_mem (List.mem_filter.mpr ⟨ha, beq_iff_eq.mpr hside⟩)
  obtain ⟨hleast, hle⟩ := Scalar.foldl_min (List.ne_nil_of_mem hmem) (h.isFinite_map _)
  obtain ⟨v, hv⟩ := isFinite_iff.mp (h.isFinite_map _ _ hleast)
  have hvn := hle hmem
  rw [hv, h.get_eq n, real_le_real] at hvn
  exact ⟨v, hvn, List.mem_map.mpr ⟨a, a.mem_all, (leastAlong_eq _ _ _ _).trans hv⟩⟩

/-- What a cell sees are distances of its neighbours. -/
lemma AllPositive.exists_of_mem_sideLevels (h : AllPositive dist) {v : ℝ}
    (hv : real v ∈ sideLevels inside dist c) : ∃ n, dist.get n = real v := by
  obtain ⟨a, -, ha⟩ := List.mem_map.mp hv
  rw [leastAlong_eq] at ha
  by_cases hnil : ((d.cells.neighborsAlong (d.cells.coords c) a).filter
      (fun n => inside.get n == inside.get c)).map dist.get = []
  · rw [hnil] at ha
    cases ha
  · have hmem := (Scalar.foldl_min hnil (h.isFinite_map _)).1
    obtain ⟨n, -, hn⟩ := List.mem_map.mp hmem
    exact ⟨n, hn.trans ha⟩

/-! ## One cell -/

/-- What relaxing a cell can do: nothing, where the cell is frozen or sees nothing, or lower its
distance to the solution of the Eikonal equation. -/
lemma relax_cases (h : AllPositive dist) (inside frozen : Field d.cells Bool) (m : d.Cell) :
    relax inside frozen dist m = dist ∧
        (frozen.get m = true ∨ ∀ v, real v ∉ sideLevels inside dist m) ∨
      frozen.get m = false ∧ ∃ r, Solves r (sideLevels inside dist m) ∧
        relax inside frozen dist m = Field.put dist m (real (min (dist.get m).toReal r)) := by
  have hlevel : ∀ a, (leastAlong dist (fun n => inside.get n == inside.get m) m a).IsLevel :=
    fun a => (h.leastAlong _ m a).isLevel
  simp only [relax]
  split_ifs with hfrozen hfinite
  · exact .inl ⟨rfl, .inl hfrozen⟩
  · obtain ⟨r, hr, hsolves⟩ := solves_solveEikonal (hlevel .x) (hlevel .y) (hlevel .z)
      (exists_real_mem (by simpa only [Bool.or_eq_true, or_assoc] using hfinite))
    refine .inr ⟨Bool.eq_false_of_not_eq_true hfrozen, r, hsolves, ?_⟩
    rw [hr, h.get_eq m, min_real, toReal_real]
  · refine .inl ⟨rfl, .inr fun v hv => hfinite ?_⟩
    simp only [sideLevels, Axis.all, List.map_cons, List.map_nil, List.mem_cons, List.not_mem_nil,
      or_false] at hv
    rcases hv with hv | hv | hv <;> simp [← hv]

section Cell

variable (h : AllPositive dist)
include h

lemma get_relax_of_frozen (m : d.Cell) (hc : frozen.get c = true) :
    (relax inside frozen dist m).get c = dist.get c := by
  rcases relax_cases h inside frozen m with ⟨heq, -⟩ | ⟨hm, r, -, heq⟩
  · rw [heq]
  · rw [heq]
    refine Field.get_put_of_ne _ _ ?_
    rintro rfl
    rw [hc] at hm
    cases hm

/-- Relaxing a cell raises no distance. -/
lemma relax_le (inside frozen : Field d.cells Bool) (m c : d.Cell) :
    ((relax inside frozen dist m).get c).toReal ≤ (dist.get c).toReal := by
  rcases relax_cases h inside frozen m with ⟨heq, -⟩ | ⟨-, r, -, heq⟩
  · rw [heq]
  · rw [heq, Field.get_put]
    split_ifs with hc
    · subst hc
      exact min_le_left _ _
    · exact le_rfl

/-- A free cell that has been relaxed is at most one farther than each neighbour on its side. -/
lemma relax_le_add_one (hm : frozen.get m = false) (hn : n ∈ d.cells.neighbors m)
    (hside : inside.get n = inside.get m) :
    ((relax inside frozen dist m).get m).toReal ≤ (dist.get n).toReal + 1 := by
  obtain ⟨v, hv, hlevel⟩ := h.exists_level hn hside
  rcases relax_cases h inside frozen m with ⟨-, hfrozen | hnone⟩ | ⟨-, r, hsolves, heq⟩
  · rw [hm] at hfrozen
    cases hfrozen
  · exact absurd hlevel (hnone v)
  · rw [heq, Field.get_put_self, toReal_real]
    have := hsolves.le_add_one hlevel
    have := min_le_right (dist.get m).toReal r
    linarith

/-- Where all distances are the same, there is nothing to lower. -/
lemma relax_of_constant {x : ℝ} (hx : ∀ c, dist.get c = real x) (m : d.Cell) :
    relax inside frozen dist m = dist := by
  rcases relax_cases h inside frozen m with ⟨heq, -⟩ | ⟨-, r, hsolves, heq⟩
  · exact heq
  · obtain ⟨v, hv, hlt⟩ := hsolves.exists_lt
    obtain ⟨n, hn⟩ := h.exists_of_mem_sideLevels hv
    obtain rfl : x = v := real_injective ((hx n).symm.trans hn)
    refine heq.trans (Field.ext_get fun c => ?_)
    rw [Field.get_put, hx m, toReal_real, min_eq_left hlt.le]
    split_ifs with hc
    · rw [← hc, hx m]
    · rfl

end Cell

/-! ## Cell after cell -/

/-- What sweeps keep: all distances are positive, and those of frozen cells at most one. -/
structure Bounded (frozen : Field d.cells Bool) (dist : ScalarField d Exact) : Prop where
  positive : AllPositive dist
  frozen_le : ∀ c, frozen.get c = true → (dist.get c).toReal ≤ 1

lemma Bounded.relax (h : Bounded frozen dist) (inside : Field d.cells Bool) (m : d.Cell) :
    Bounded frozen (relax inside frozen dist m) where
  positive := h.positive.relax inside frozen m
  frozen_le c hc := by
    rw [get_relax_of_frozen h.positive m hc]
    exact h.frozen_le c hc

lemma Bounded.foldl_relax (h : Bounded frozen dist) (inside : Field d.cells Bool)
    (cells : List d.Cell) : Bounded frozen (cells.foldl (Surface.relax inside frozen) dist) :=
  List.foldlRecOn _ _ h fun _ h m _ => h.relax inside m

lemma foldl_relax_le (h : Bounded frozen dist) (inside : Field d.cells Bool) (cells : List d.Cell)
    (c : d.Cell) :
    ((cells.foldl (relax inside frozen) dist).get c).toReal ≤ (dist.get c).toReal := by
  induction cells generalizing dist with
  | nil => exact le_rfl
  | cons m cells ih =>
      rw [List.foldl_cons]
      exact (ih (h.relax inside m)).trans (relax_le h.positive inside frozen m c)

lemma get_foldl_relax_of_frozen (h : Bounded frozen dist) (inside : Field d.cells Bool)
    (cells : List d.Cell) (hc : frozen.get c = true) :
    (cells.foldl (relax inside frozen) dist).get c = dist.get c := by
  induction cells generalizing dist with
  | nil => rfl
  | cons m cells ih =>
      rw [List.foldl_cons, ih (h.relax inside m), get_relax_of_frozen h.positive m hc]

lemma foldl_relax_of_constant (h : Bounded frozen dist) (inside : Field d.cells Bool)
    (cells : List d.Cell) {x : ℝ} (hx : ∀ c, dist.get c = real x) :
    cells.foldl (relax inside frozen) dist = dist := by
  induction cells with
  | nil => rfl
  | cons m cells ih => rw [List.foldl_cons, relax_of_constant h.positive hx, ih]

/-- The cell lies on the other side, and no cell of that side is nearer. -/
def IsNearest (inside : Field d.cells Bool) (m o : d.Cell) : Prop :=
  inside.get o ≠ inside.get m ∧
    ∀ o', inside.get o' ≠ inside.get m → d.cells.steps m o ≤ d.cells.steps m o'

/-- On the way to the nearest cell of the other side all cells before it are on the own side. -/
lemma IsNearest.of_toward (h : IsNearest inside m o) (hn : n ∈ d.cells.neighbors m)
    (hsteps : d.cells.steps m o = d.cells.steps n o + 1) (hne : n ≠ o) :
    inside.get n = inside.get m ∧ IsNearest inside n o := by
  have hside : inside.get n = inside.get m := by
    by_contra hother
    have hle := h.2 n hother
    rw [Lattice.steps_eq_one hn] at hle
    exact hne (Lattice.steps_eq_zero_iff.mp (by omega))
  refine ⟨hside, hside ▸ h.1, fun o' ho' => ?_⟩
  have hle := h.2 o' (hside ▸ ho')
  have := Lattice.steps_le hn o'
  omega

/-! ## One sweep -/

section Sweep

variable (hfrozen : ∀ m, ∀ n ∈ d.cells.neighbors m, inside.get n ≠ inside.get m →
  frozen.get m = true)
include hfrozen

/-- A cell that is relaxed, or frozen, has the grid distance of the nearest cell of the other side
if the next cell on the way there has. -/
lemma relax_le_steps (h : Bounded frozen dist) (hm : IsNearest inside m o)
    (hn : n ∈ d.cells.neighbors m) (hsteps : d.cells.steps m o = d.cells.steps n o + 1)
    (hle : n ≠ o → (dist.get n).toReal ≤ d.cells.steps n o) :
    ((relax inside frozen dist m).get m).toReal ≤ d.cells.steps m o := by
  have hone : (1 : ℝ) ≤ d.cells.steps m o := by
    rw [hsteps]
    exact_mod_cast Nat.le_add_left 1 _
  cases hf : frozen.get m with
  | true => exact ((relax_le h.positive inside frozen m m).trans (h.frozen_le m hf)).trans hone
  | false =>
      have hne : n ≠ o := by
        rintro rfl
        rw [hfrozen m n hn hm.1] at hf
        cases hf
      have hrelaxed := relax_le_add_one h.positive hf hn (hm.of_toward hn hsteps hne).1
      have hle := hle hne
      rw [hsteps, Nat.cast_add_one]
      linarith

/-- After a part of a sweep that leads away from a cell, the cells of that part that have it as the
nearest one of the other side are at most at their grid distance from it. -/
def Reaches (s : Sweep) (inside : Field d.cells Bool) (o : d.Cell) (earlier : List d.Cell)
    (dist : ScalarField d Exact) : Prop :=
  ∀ m ∈ earlier, s.LeadsAway o m → IsNearest inside m o →
    (dist.get m).toReal ≤ d.cells.steps m o

lemma Reaches.relax {s : Sweep} {earlier later : List d.Cell} (h : Bounded frozen dist)
    (hcells : earlier ++ m :: later = s.cells d) (hreaches : Reaches s inside o earlier dist) :
    Reaches s inside o (earlier ++ [m]) (Surface.relax inside frozen dist m) := by
  intro c hc haway hnearest
  rcases List.mem_append.mp hc with hc | hc
  · exact (relax_le h.positive inside frozen m c).trans (hreaches c hc haway hnearest)
  · obtain rfl := List.mem_singleton.mp hc
    have hco : c ≠ o := by
      rintro rfl
      exact hnearest.1 rfl
    obtain ⟨n, hn, hsteps, hbetween⟩ := Lattice.exists_toward hco
    obtain ⟨hon, hnc⟩ := haway.of_between hbetween
    refine relax_le_steps hfrozen h hnearest hn hsteps fun hne => ?_
    have hnc' : n ≠ c := by
      rintro rfl
      exact d.cells.not_mem_neighbors_self n hn
    have hearlier := hnc.mem_earlier hnc' hcells
    exact hreaches n hearlier hon (hnearest.of_toward hn hsteps hne).2

lemma Reaches.foldl_relax {s : Sweep} {earlier later : List d.Cell} (h : Bounded frozen dist)
    (hcells : earlier ++ later = s.cells d) (hreaches : Reaches s inside o earlier dist) :
    Reaches s inside o (s.cells d) (later.foldl (Surface.relax inside frozen) dist) := by
  induction later generalizing earlier dist with
  | nil => rwa [← hcells, List.append_nil]
  | cons m later ih =>
      rw [List.foldl_cons]
      refine ih (h.relax inside m) ?_ (hreaches.relax hfrozen h hcells)
      rw [List.append_assoc, List.singleton_append, hcells]

/-- **A sweep that leads away from a cell brings every cell that has it as the nearest one of the
other side to its grid distance.** -/
theorem sweep_le (h : Bounded frozen dist) {s : Sweep} (hs : s.LeadsAway o m)
    (hm : IsNearest inside m o) :
    (((s.cells d).foldl (relax inside frozen) dist).get m).toReal ≤ d.cells.steps m o :=
  have hstart : Reaches s inside o [] dist := fun _ hm => by cases hm
  hstart.foldl_relax hfrozen h rfl m (s.mem_cells m) hs hm

end Sweep

end Surface

end FreeSurface

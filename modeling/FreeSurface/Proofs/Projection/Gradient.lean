import FreeSurface.Projection.Solve
import FreeSurface.Proofs.Projection.ConjugateGradient
import FreeSurface.Proofs.Projection.Divergence
import FreeSurface.Proofs.Projection.System
import FreeSurface.Proofs.Velocity.Walls

/-!
# The gradient undoes the equation

The rows of the pressure equation and the gradient that is subtracted from the velocity are written
apart from each other.  Both come down to what a pressure pushes from a cell to its neighbours.

* `Poisson.push` — that flow; the left side of an equation is the sum of it over all neighbours
  (`Poisson.value_eq_sum_push`).
* `Projection.outflow_subtractGradient` — subtracting the gradient adds the left side of its
  equation to what flows out of a cell.
-/

namespace FreeSurface

open Exact Dims

variable {d : Dims}

/-! ## The place of the surface -/

namespace Poisson

/-- A level set, if there is one, that holds numbers. -/
def FinitePhi (phi : Option (ScalarField d Exact)) : Prop :=
  ∀ field, phi = some field → ∀ c, Scalar.isFinite (field.get c) = true

/-- The fraction of the way at which the surface is met, as a number. -/
noncomputable def fraction (phi : Option (ScalarField d Exact)) (c n : d.Cell) : ℝ :=
  (surfaceFraction phi c n).toReal

lemma exists_surfaceFraction {phi : Option (ScalarField d Exact)} (h : FinitePhi phi)
    (c n : d.Cell) : ∃ t ∈ Set.Icc (1 / 100 : ℝ) 1, surfaceFraction phi c n = real t := by
  have hone : ∃ t ∈ Set.Icc (1 / 100 : ℝ) 1, real ((1 : ℕ) : ℝ) = real t :=
    ⟨1, ⟨by norm_num, le_rfl⟩, by rw [Nat.cast_one]⟩
  cases phi with
  | none => exact hone
  | some field =>
      have hc := eq_real_toReal (h field rfl c)
      have hn := eq_real_toReal (h field rfl n)
      simp only [surfaceFraction, minSurfaceFraction]
      rw [hc, hn]
      simp only [real_sub_real, literal, scalar_ofDecimal, real_lt_real, Nat.cast_zero]
      split_ifs with hdrop
      · rw [real_div_real hdrop.2.ne, clamp_real (by norm_num)]
        refine ⟨_, ⟨le_min (le_max_of_le_right (by norm_num)) (by norm_num), ?_⟩, rfl⟩
        exact (min_le_right _ _).trans_eq Nat.cast_one
      · exact hone

lemma surfaceFraction_eq {phi : Option (ScalarField d Exact)} (h : FinitePhi phi) (c n : d.Cell) :
    surfaceFraction phi c n = real (fraction phi c n) := by
  obtain ⟨t, -, ht⟩ := exists_surfaceFraction h c n
  rw [fraction, ht, toReal_real]

/-- The surface lies at a hundredth of the way or beyond, and before the end. -/
lemma fraction_mem {phi : Option (ScalarField d Exact)} (h : FinitePhi phi) (c n : d.Cell) :
    fraction phi c n ∈ Set.Icc (1 / 100 : ℝ) 1 := by
  obtain ⟨t, hmem, ht⟩ := exists_surfaceFraction h c n
  rw [fraction, ht, toReal_real]
  exact hmem

lemma fraction_pos {phi : Option (ScalarField d Exact)} (h : FinitePhi phi) (c n : d.Cell) :
    0 < fraction phi c n :=
  lt_of_lt_of_le (by norm_num) (fraction_mem h c n).1

lemma one_div_surfaceFraction {phi : Option (ScalarField d Exact)} (h : FinitePhi phi)
    (c n : d.Cell) : real 1 / surfaceFraction phi c n = real (1 / fraction phi c n) := by
  rw [surfaceFraction_eq h, real_div_real (fraction_pos h c n).ne']

/-! ## The rows of the equation -/

/-- What a pressure pushes from a cell to a neighbour. -/
noncomputable def push (g : Flags d) (phi : Option (ScalarField d Exact)) (ψ : d.Cell → ℝ)
    (c n : d.Cell) : ℝ :=
  match g.cells.get n with
  | .obstacle => 0
  | .fluid => ψ c - ψ n
  | .empty => ψ c / fraction phi c n

variable {g : Flags d} {phi : Option (ScalarField d Exact)}

noncomputable def diagonalShare (g : Flags d) (phi : Option (ScalarField d Exact))
    (c n : d.Cell) : ℝ :=
  match g.cells.get n with
  | .obstacle => 0
  | .fluid => 1
  | .empty => 1 / fraction phi c n

lemma diagonalTerm_eq (h : FinitePhi phi) (c n : d.Cell) (x : ℝ) :
    (diagonalTerm g phi c n (real x) : Exact) = real (x + diagonalShare g phi c n) := by
  rw [diagonalTerm, diagonalShare]
  cases g.cells.get n with
  | obstacle => simp
  | fluid => simp
  | empty =>
      simp only [literal, Nat.cast_one, widen_eq]
      rw [one_div_surfaceFraction h, real_add_real]

lemma foldl_diagonalTerm (h : FinitePhi phi) (c : d.Cell) (l : List d.Cell) (x : ℝ) :
    l.foldl (fun sum n => (diagonalTerm g phi c n sum : Exact)) (real x) =
      real (x + (l.map (diagonalShare g phi c)).sum) := by
  induction l generalizing x with
  | nil => simp
  | cons n l ih =>
      rw [List.foldl_cons, diagonalTerm_eq h, ih, List.map_cons, List.sum_cons, add_assoc]

lemma get_diagonal_eq (h : FinitePhi phi) (u : Fin (unknowns g).size) :
    (build g phi : Poisson d Exact _).diagonal.get u =
      real ((d.cells.neighbors (cellOf g u)).map (diagonalShare g phi (cellOf g u))).sum := by
  have hzero : (Literals.instOfNat 0).ofNat = real 0 := by
    show real ((0 : ℕ) : ℝ) = real 0
    rw [Nat.cast_zero]
  rw [get_diagonal, hzero, foldl_diagonalTerm h, zero_add]

lemma diagonalFinite_build (h : FinitePhi phi) :
    (build g phi : Poisson d Exact _).DiagonalFinite := by
  intro u
  rw [get_diagonal_eq h]
  rfl

/-- Adding up the adjacent unknowns is adding up the liquid around a cell. -/
lemma sum_adjacent (ψ : d.Cell → ℝ) (u : Fin (unknowns g).size) :
    (((build g phi : Poisson d Exact _).adjacent.get u).map fun w => ψ (cellOf g w)).sum =
      ((d.cells.neighbors (cellOf g u)).map fun n => if g.isFluid n then ψ n else 0).sum := by
  have hopen : ∀ n ∈ d.cells.neighbors (cellOf g u), g.isFluid n = true → isOpen g n = true :=
    fun n hn hfluid => isOpen_of_mem_neighbors
      (Flags.isObstacle_eq_false_of_isFluid (isFluid_cellOf u)) hfluid hn
  rw [get_adjacent]
  -- Of the row only that its liquid cells are open is needed, which every sublist inherits.
  generalize d.cells.neighbors (cellOf g u) = l at hopen ⊢
  induction l with
  | nil => rfl
  | cons n l ih =>
      have hrest := ih fun m hm => hopen m (List.mem_cons_of_mem _ hm)
      rw [List.filterMap_cons, List.map_cons, List.sum_cons, ← hrest]
      by_cases hn : g.isFluid n = true
      · obtain ⟨w, rfl⟩ := exists_unknown (hopen n List.mem_cons_self hn)
        rw [if_pos hn, if_pos hn, get_numbering_build.mpr rfl]
        rfl
      · rw [if_neg hn, if_neg hn, zero_add]

lemma push_eq (ψ : d.Cell → ℝ) (c n : d.Cell) :
    push g phi ψ c n = diagonalShare g phi c n * ψ c - if g.isFluid n then ψ n else 0 := by
  have hfluid := Flags.isFluid_iff (g := g) (c := n)
  rw [push, diagonalShare]
  cases hn : g.cells.get n with
  | obstacle => simp [hfluid, hn]
  | fluid => simp [hfluid, hn]
  | empty =>
      simp only [hfluid, hn, reduceCtorEq, if_false, sub_zero]
      ring

/-- The left side of an equation is what the pressure pushes to all neighbours. -/
theorem value_eq_sum_push (h : FinitePhi phi) (ψ : d.Cell → ℝ) (u : Fin (unknowns g).size) :
    (build g phi : Poisson d Exact _).value (fun w => ψ (cellOf g w)) u =
      ((d.cells.neighbors (cellOf g u)).map (push g phi ψ (cellOf g u))).sum := by
  rw [value, get_diagonal_eq h, toReal_real, sum_adjacent]
  induction d.cells.neighbors (cellOf g u) with
  | nil => simp
  | cons n l ih =>
      simp only [List.map_cons, List.sum_cons] at ih ⊢
      rw [← ih, push_eq]
      ring

/-- What the pressure pushes out of a cell on one side; nothing beyond the border. -/
noncomputable def pushOut (g : Flags d) (phi : Option (ScalarField d Exact)) (ψ : d.Cell → ℝ)
    (c : d.Cell) (a : Axis) (s : Side) : ℝ :=
  ((next? c a s).map (push g phi ψ c)).getD 0

lemma sum_push (ψ : d.Cell → ℝ) (c : d.Cell) :
    ((d.cells.neighbors c).map (push g phi ψ c)).sum =
      (d.activeAxes.map fun a => pushOut g phi ψ c a .lower + pushOut g phi ψ c a .upper).sum := by
  have hside : ∀ a s, ((next? c a s).toList.map (push g phi ψ c)).sum = pushOut g phi ψ c a s := by
    intro a s
    rw [pushOut]
    cases next? c a s <;> simp
  rw [neighbors_eq_active]
  induction d.activeAxes with
  | nil => rfl
  | cons a l ih =>
      rw [List.flatMap_cons, List.map_append, List.sum_append, ih, List.map_cons, List.sum_cons]
      simp only [Side.all, List.flatMap_cons, List.flatMap_nil, List.append_nil, List.map_append,
        List.sum_append, hside]

end Poisson

/-! ## The gradient -/

namespace Projection

open Poisson

section Faces

variable {S : Type} [Scalar S] {g : Flags d} {phi : Option (ScalarField d S)} {v : Staggered d S}
  {pressure : ScalarField d S}

lemma get_subtractGradient {a : Axis} (ha : a ∈ d.activeAxes) (f : d.Face a) :
    ((subtractGradient v pressure g phi).component a).get f =
      match d.faceCells a f with
      | (some lo, some hi) =>
        if g.isObstacle lo || g.isObstacle hi then (v.component a).get f
        else if !g.isFluid lo && !g.isFluid hi then (v.component a).get f
        else (v.component a).get f -
          (sidePressure g phi pressure hi lo - sidePressure g phi pressure lo hi)
      | _ => (v.component a).get f := by
  rw [subtractGradient, Staggered.component_updateActive_of_mem _ _ ha]
  exact Field.get_update _ _ _

/-- Walls keep their velocity. -/
lemma get_subtractGradient_of_wall {a : Axis} (ha : a ∈ d.activeAxes) {f : d.Face a}
    (hwall : g.isWallFace a f = true) :
    ((subtractGradient v pressure g phi).component a).get f = (v.component a).get f := by
  have hcells : g.isWallFace a f = match d.faceCells a f with
      | (some lo, some hi) => g.isObstacle lo || g.isObstacle hi
      | _ => true := rfl
  rw [hcells] at hwall
  rw [get_subtractGradient ha]
  split
  · next lo hi h =>
      rw [h] at hwall
      rw [if_pos hwall]
  · rfl

end Faces

variable {g : Flags d} {phi : Option (ScalarField d Exact)} {v : Staggered d Exact}
  {pressure : ScalarField d Exact} {ψ : d.Cell → ℝ}

/-- The pressure holds the given numbers. -/
def Holds (pressure : ScalarField d Exact) (ψ : d.Cell → ℝ) : Prop :=
  ∀ c, pressure.get c = real (ψ c)

lemma sidePressure_own (hp : Holds pressure ψ) {c : d.Cell} (hc : g.isFluid c = true)
    (n : d.Cell) : sidePressure g phi pressure c n = real (ψ c) := by
  rw [sidePressure, if_pos hc, hp c]

/-- Beyond the face counts what the pressure of a liquid cell has left after its push. -/
lemma sidePressure_other (hphi : FinitePhi phi) (hp : Holds pressure ψ) (c : d.Cell) {n : d.Cell}
    (hn : g.isObstacle n = false) :
    sidePressure g phi pressure n c = real (ψ c - push g phi ψ c n) := by
  have hfluid := Flags.isFluid_iff (g := g) (c := n)
  rw [sidePressure, push]
  cases hflag : g.cells.get n with
  | obstacle =>
      rw [Flags.isObstacle_iff.mpr hflag] at hn
      cases hn
  | fluid => rw [if_pos (hfluid.mpr hflag), hp n, sub_sub_cancel]
  | empty =>
      rw [if_neg (by rw [hfluid, hflag]; decide), hp c]
      simp only [literal, Nat.cast_one]
      rw [one_div_surfaceFraction hphi, real_sub_real, real_mul_real]
      congr 1
      ring

section Cell

variable {c : d.Cell} {a : Axis} (hphi : FinitePhi phi) (hp : Holds pressure ψ)
  (hc : g.isFluid c = true) (hv : v.FiniteAt c) (ha : a ∈ d.activeAxes)
include hphi hp hc hv ha

/-- Through the upper face of a liquid cell flows what the pressure pushes out there, on top of what
flowed before. -/
lemma get_subtractGradient_upper :
    ((subtractGradient v pressure g phi).component a).get (d.cellFace a c .upper) =
      real (v.speeds a (d.cellFace a c .upper) + pushOut g phi ψ c a .upper) := by
  have hobstacle := Flags.isObstacle_eq_false_of_isFluid hc
  rw [get_subtractGradient ha, faceCells_cellFace_upper, hv.eq_real ha .upper]
  rw [pushOut]
  cases hn : next? c a .upper with
  | none => simp
  | some n =>
      simp only [hobstacle, Bool.false_or, hc, Bool.not_true, Bool.false_and, Bool.false_eq_true,
        if_false, Option.map_some, Option.getD_some]
      -- Nothing is pushed through a wall; across any other face the pressures differ by the push.
      split_ifs with hsolid
      · rw [push, Flags.isObstacle_iff.mp hsolid, add_zero]
      · rw [sidePressure_other hphi hp c (by simpa using hsolid), sidePressure_own hp hc,
          real_sub_real, real_sub_real]
        congr 1
        ring

/-- Through the lower face it flows the other way. -/
lemma get_subtractGradient_lower :
    ((subtractGradient v pressure g phi).component a).get (d.cellFace a c .lower) =
      real (v.speeds a (d.cellFace a c .lower) - pushOut g phi ψ c a .lower) := by
  have hobstacle := Flags.isObstacle_eq_false_of_isFluid hc
  rw [get_subtractGradient ha, faceCells_cellFace_lower, hv.eq_real ha .lower]
  rw [pushOut]
  cases hn : next? c a .lower with
  | none => simp
  | some n =>
      simp only [hobstacle, Bool.or_false, hc, Bool.not_true, Bool.and_false, Bool.false_eq_true,
        if_false, Option.map_some, Option.getD_some]
      split_ifs with hsolid
      · rw [push, Flags.isObstacle_iff.mp hsolid, sub_zero]
      · rw [sidePressure_other hphi hp c (by simpa using hsolid), sidePressure_own hp hc,
          real_sub_real, real_sub_real]
        congr 1
        ring

end Cell

/-- **Subtracting the gradient adds the left side of its equation to the outflow of a cell.** -/
theorem outflow_subtractGradient (hphi : FinitePhi phi) (hp : Holds pressure ψ)
    (u : Fin (unknowns g).size) (hv : v.FiniteAt (cellOf g u)) :
    (subtractGradient v pressure g phi).FiniteAt (cellOf g u) ∧
    outflow (subtractGradient v pressure g phi).speeds (cellOf g u) =
      outflow v.speeds (cellOf g u) +
        (build g phi : Poisson d Exact _).value (fun w => ψ (cellOf g w)) u := by
  have hc := isFluid_cellOf u
  constructor
  · rintro a ha (_ | _)
    · rw [get_subtractGradient_lower hphi hp hc hv ha]
      rfl
    · rw [get_subtractGradient_upper hphi hp hc hv ha]
      rfl
  · rw [value_eq_sum_push hphi, sum_push]
    simp only [outflow]
    rw [← List.sum_map_add]
    refine congrArg List.sum (List.map_congr_left fun a ha => ?_)
    simp only [Staggered.speeds]
    rw [get_subtractGradient_lower hphi hp hc hv ha, get_subtractGradient_upper hphi hp hc hv ha]
    simp only [toReal_real, Staggered.speeds]
    ring

end Projection

end FreeSurface

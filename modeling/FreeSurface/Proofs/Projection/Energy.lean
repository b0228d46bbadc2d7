import Mathlib.Combinatorics.SimpleGraph.LapMatrix
import FreeSurface.Proofs.Projection.Sealed

/-!
# The energy of a pressure

The matrix of a pressure equation is the Laplacian of the graph of its unknowns, with the weights of
the air added to the diagonal (`Poisson.matrix_build`).  The energy of a pressure is therefore a sum
of squares (`Poisson.energy_eq`), and a pressure without energy is constant on every component and
zero on those with air next to them (`Poisson.energy_eq_zero_iff`).

* `Poisson.matrix` — the matrix of an equation, which its left side applies
  (`Poisson.represents_mulVec`).
* `Poisson.build_elliptic` — **symmetry, dominance of the diagonal and definiteness**, for all flags
  and all level sets of numbers.
* `Poisson.dotProduct_eq_zero_of_energy` — a right side that adds up to zero on the components
  without air is orthogonal to the pressures without energy.
-/

namespace FreeSurface

open Exact Dims Matrix

variable {d : Dims}

namespace Poisson

/-! ## The matrix of an equation -/

section Matrix

variable {n : ℕ}

/-- The matrix of an equation: a diagonal, less one for each adjacent unknown. -/
noncomputable def matrix (system : Poisson d Exact n) : Matrix (Fin n) (Fin n) ℝ :=
  Matrix.of fun u w =>
    (if u = w then (system.diagonal.get u).toReal else 0) - (system.adjacent.get u).count w

lemma sum_map_eq_sum_count (l : List (Fin n)) (ξ : Fin n → ℝ) :
    (l.map ξ).sum = ∑ w, l.count w * ξ w := by
  simp only [Finset.sum_list_map_count, nsmul_eq_mul]
  refine Finset.sum_subset (Finset.subset_univ _) fun w _ hw => ?_
  rw [List.count_eq_zero.mpr (mt List.mem_toFinset.mpr hw), Nat.cast_zero, zero_mul]

lemma value_eq_mulVec (system : Poisson d Exact n) (ξ : Fin n → ℝ) :
    system.value ξ = system.matrix *ᵥ ξ := by
  funext u
  simp only [value, matrix, mulVec, dotProduct, of_apply, sub_mul, ite_mul, zero_mul,
    Finset.sum_sub_distrib, Finset.sum_ite_eq, Finset.mem_univ, if_true, sum_map_eq_sum_count]

/-- The left side of an equation is that of its matrix. -/
lemma represents_mulVec {system : Poisson d Exact n} (hdiag : system.DiagonalFinite)
    {x : Vector Exact n} {ξ : Fin n → ℝ} (hx : Represents x ξ) :
    Represents (system.apply x) (system.matrix *ᵥ ξ) := by
  rw [← value_eq_mulVec]
  exact represents_apply hdiag hx

end Matrix

/-! ## The graph of the unknowns -/

/-- The unknowns, joined to those whose cells are next to theirs. -/
def graph (g : Flags d) : SimpleGraph (Fin (unknowns g).size) where
  Adj u w := cellOf g w ∈ d.cells.neighbors (cellOf g u)
  symm := ⟨fun _ _ h => d.cells.mem_neighbors_symm.mp h⟩
  loopless := ⟨fun _ h => d.cells.not_mem_neighbors_self _ h⟩

instance (g : Flags d) : DecidableRel (graph g).Adj :=
  fun u w => inferInstanceAs (Decidable (cellOf g w ∈ d.cells.neighbors (cellOf g u)))

/-- The cells of air next to a cell. -/
def vents (g : Flags d) (c : d.Cell) : Finset d.Cell :=
  (d.cells.neighbors c).toFinset.filter fun n => g.cells.get n = .empty

lemma mem_vents {g : Flags d} {c n : d.Cell} :
    n ∈ vents g c ↔ n ∈ d.cells.neighbors c ∧ g.cells.get n = .empty := by
  rw [vents, Finset.mem_filter, List.mem_toFinset]

/-- Somewhere in the component of an unknown there is air next to a cell. -/
def Vented {D : Type} {n : ℕ} (system : Poisson d D n) (g : Flags d) (u : Fin n) : Prop :=
  ∃ w ∈ system.component u, (vents g (system.cells.get w)).Nonempty

/-- What the air next to an unknown adds to the diagonal. -/
noncomputable def ventWeight (g : Flags d) (phi : Option (ScalarField d Exact))
    (u : Fin (unknowns g).size) : ℝ :=
  ∑ n ∈ vents g (cellOf g u), 1 / fraction phi (cellOf g u) n

variable {g : Flags d} {phi : Option (ScalarField d Exact)}

lemma joined_iff {u w : Fin (unknowns g).size} :
    (build g phi : Poisson d Exact _).Joined u w ↔ (graph g).Reachable u w := by
  rw [SimpleGraph.reachable_iff_reflTransGen, Joined]
  simp only [mem_adjacent]
  rfl

lemma degree_eq (phi : Option (ScalarField d Exact)) (u : Fin (unknowns g).size) :
    (graph g).degree u = ((build g phi : Poisson d Exact _).adjacent.get u).length := by
  rw [← List.toFinset_card_of_nodup (nodup_adjacent u), ← SimpleGraph.card_neighborFinset_eq_degree]
  refine congrArg _ (Finset.ext fun w => ?_)
  rw [SimpleGraph.mem_neighborFinset, List.mem_toFinset, mem_adjacent]
  rfl

/-- The diagonal counts the adjacent unknowns and weighs the air. -/
lemma get_diagonal_build (h : FinitePhi phi) (u : Fin (unknowns g).size) :
    (build g phi : Poisson d Exact _).diagonal.get u =
      real ((graph g).degree u + ventWeight g phi u) := by
  have hfluid : (((build g phi : Poisson d Exact _).adjacent.get u).length : ℝ) =
      ((d.cells.neighbors (cellOf g u)).map fun n => if g.isFluid n then 1 else 0).sum := by
    rw [← sum_adjacent (fun _ => 1) u, List.map_const', List.sum_replicate, nsmul_one]
  have hair : ventWeight g phi u = ((d.cells.neighbors (cellOf g u)).map fun n =>
      if g.cells.get n = .empty then 1 / fraction phi (cellOf g u) n else 0).sum := by
    rw [ventWeight, vents, Finset.sum_filter, List.sum_toFinset _ (d.cells.nodup_neighbors _)]
  have hshare : ∀ n, diagonalShare g phi (cellOf g u) n = (if g.isFluid n then 1 else 0) +
      if g.cells.get n = .empty then 1 / fraction phi (cellOf g u) n else 0 := by
    intro n
    have hn := Flags.isFluid_iff (g := g) (c := n)
    rw [diagonalShare]
    cases hflag : g.cells.get n <;> simp [hn, hflag]
  rw [get_diagonal_eq h, degree_eq phi, hfluid, hair, ← List.sum_map_add]
  exact congrArg (fun l => real (List.sum l)) (List.map_congr_left fun n _ => hshare n)

/-- **The matrix of a pressure equation** is that of a Laplacian and of the weights of the air. -/
theorem matrix_build (h : FinitePhi phi) :
    (build g phi : Poisson d Exact _).matrix =
      (graph g).lapMatrix ℝ + Matrix.diagonal (ventWeight g phi) := by
  ext u w
  have hcount : ((build g phi : Poisson d Exact _).adjacent.get u).count w =
      if (graph g).Adj u w then 1 else 0 := by
    rw [(nodup_adjacent u).count]
    exact if_congr mem_adjacent rfl rfl
  rw [matrix, of_apply, get_diagonal_build h, toReal_real, hcount, SimpleGraph.lapMatrix,
    Matrix.add_apply, Matrix.sub_apply, SimpleGraph.degMatrix, SimpleGraph.adjMatrix_apply,
    Matrix.diagonal_apply, Matrix.diagonal_apply]
  by_cases huw : u = w
  · simp [huw]
  · simp [huw]

/-! ## The diagonal -/

section Diagonal

lemma diag_matrix_build (h : FinitePhi phi) (u : Fin (unknowns g).size) :
    (build g phi : Poisson d Exact _).matrix u u = (graph g).degree u + ventWeight g phi u := by
  rw [matrix_build h, Matrix.add_apply, Matrix.diagonal_apply_eq, SimpleGraph.lapMatrix,
    Matrix.sub_apply, SimpleGraph.degMatrix, Matrix.diagonal_apply_eq, SimpleGraph.adjMatrix_apply,
    if_neg (SimpleGraph.irrefl _), sub_zero]

lemma matrix_build_of_ne (h : FinitePhi phi) {u w : Fin (unknowns g).size} (huw : u ≠ w) :
    (build g phi : Poisson d Exact _).matrix u w =
      if cellOf g w ∈ d.cells.neighbors (cellOf g u) then -1 else 0 := by
  rw [matrix_build h, Matrix.add_apply, Matrix.diagonal_apply_ne _ huw, SimpleGraph.lapMatrix,
    Matrix.sub_apply, SimpleGraph.degMatrix, Matrix.diagonal_apply_ne _ huw,
    SimpleGraph.adjMatrix_apply, add_zero, zero_sub, apply_ite Neg.neg, neg_zero]
  rfl

/-- Every cell of air next to an unknown weighs at least as much as an unknown does. -/
lemma card_vents_le (h : FinitePhi phi) (u : Fin (unknowns g).size) :
    ((vents g (cellOf g u)).card : ℝ) ≤ ventWeight g phi u := by
  rw [ventWeight, Finset.cast_card]
  exact Finset.sum_le_sum fun n _ =>
    (one_le_div (fraction_pos h _ n)).mpr (fraction_mem h _ n).2

lemma ventWeight_nonneg (h : FinitePhi phi) (u : Fin (unknowns g).size) : 0 ≤ ventWeight g phi u :=
  (Nat.cast_nonneg _).trans (card_vents_le h u)

/-- An unknown has another one or air next to it. -/
lemma one_le_degree_add_card_vents (u : Fin (unknowns g).size) :
    1 ≤ (graph g).degree u + (vents g (cellOf g u)).card := by
  obtain ⟨-, n, hn, hobstacle⟩ := isOpen_iff.mp (isOpen_cellOf u)
  by_cases hempty : g.cells.get n = .empty
  · exact le_add_left (Finset.card_pos.mpr ⟨n, mem_vents.mpr ⟨hn, hempty⟩⟩)
  · obtain ⟨w, rfl⟩ := exists_unknown_of_mem_neighbors hn (Flags.isFluid_of_ne hobstacle hempty)
    exact le_add_right ((graph g).degree_pos_iff_exists_adj u |>.mpr ⟨w, hn⟩)

lemma one_le_diag (h : FinitePhi phi) (u : Fin (unknowns g).size) :
    1 ≤ (build g phi : Poisson d Exact _).matrix u u := by
  have hcount : (1 : ℝ) ≤ (graph g).degree u + (vents g (cellOf g u)).card := by
    exact_mod_cast one_le_degree_add_card_vents u
  rw [diag_matrix_build h]
  linarith [card_vents_le h u]

/-- The diagonal entry is at least the number of other entries in its row. -/
lemma card_row_le_diag (h : FinitePhi phi) (u : Fin (unknowns g).size) :
    ((Finset.univ.filter fun w => w ≠ u ∧
      (build g phi : Poisson d Exact _).matrix u w ≠ 0).card : ℝ) ≤
      (build g phi : Poisson d Exact _).matrix u u := by
  have hrow : (Finset.univ.filter fun w => w ≠ u ∧
      (build g phi : Poisson d Exact _).matrix u w ≠ 0) ⊆ (graph g).neighborFinset u := by
    intro w hw
    obtain ⟨-, hne, hentry⟩ := Finset.mem_filter.mp hw
    rw [matrix_build_of_ne h hne.symm, ite_ne_right_iff] at hentry
    exact (graph g).mem_neighborFinset u w |>.mpr hentry.1
  have hcard : ((Finset.univ.filter fun w => w ≠ u ∧
      (build g phi : Poisson d Exact _).matrix u w ≠ 0).card : ℝ) ≤ (graph g).degree u :=
    Nat.cast_le.mpr (Finset.card_le_card hrow)
  rw [diag_matrix_build h]
  linarith [ventWeight_nonneg h u]

end Diagonal

/-! ## Energy -/

section Energy

variable {ξ : Fin (unknowns g).size → ℝ}

/-- Adding up over all pairs counts each pair from both ends. -/
lemma sum_sum_of_symm {n : ℕ} {f : Fin n → Fin n → ℝ} (hsame : ∀ u, f u u = 0)
    (hsymm : ∀ u w, f u w = f w u) :
    ∑ u, ∑ w, f u w = 2 * ∑ u, ∑ w ∈ Finset.Ioi u, f u w := by
  calc ∑ u, ∑ w, f u w
      = ∑ u, ∑ w ∈ {u}ᶜ, f w u := by
        refine Finset.sum_congr rfl fun u _ => ?_
        rw [Fintype.sum_eq_add_sum_compl u, hsame, zero_add]
        exact Finset.sum_congr rfl fun w _ => hsymm u w
    _ = ∑ u, ∑ w ∈ Finset.Ioi u, (f w u + f u w) :=
        (Finset.sum_sum_Ioi_add_eq_sum_sum_off_diag f).symm
    _ = 2 * ∑ u, ∑ w ∈ Finset.Ioi u, f u w := by
        simp only [Finset.mul_sum]
        exact Finset.sum_congr rfl fun u _ => Finset.sum_congr rfl fun w _ => by
          rw [hsymm w u, two_mul]

lemma energy_eq_add (h : FinitePhi phi) (ξ : Fin (unknowns g).size → ℝ) :
    ξ ⬝ᵥ (build g phi : Poisson d Exact _).matrix *ᵥ ξ =
      toLinearMap₂' ℝ ((graph g).lapMatrix ℝ) ξ ξ +
        ∑ u, ∑ n ∈ vents g (cellOf g u), ξ u ^ 2 / fraction phi (cellOf g u) n := by
  rw [matrix_build h, add_mulVec, dotProduct_add, toLinearMap₂'_apply', dotProduct]
  refine congrArg _ (Finset.sum_congr rfl fun u _ => ?_)
  rw [mulVec_diagonal, ventWeight, Finset.sum_mul, Finset.mul_sum]
  exact Finset.sum_congr rfl fun n _ => by ring

/-- **The energy of a pressure** is that of the differences between adjacent unknowns, each counted
once, and that of the unknowns next to air. -/
theorem energy_eq (h : FinitePhi phi) (ξ : Fin (unknowns g).size → ℝ) :
    ξ ⬝ᵥ (build g phi : Poisson d Exact _).matrix *ᵥ ξ =
      (∑ u, ∑ w ∈ Finset.Ioi u with w ∈ (build g phi : Poisson d Exact _).adjacent.get u,
        (ξ u - ξ w) ^ 2) +
      ∑ u, ∑ n ∈ vents g (cellOf g u), ξ u ^ 2 / fraction phi (cellOf g u) n := by
  rw [energy_eq_add h, SimpleGraph.lapMatrix_toLinearMap₂', sum_sum_of_symm,
    mul_div_cancel_left₀ _ two_ne_zero]
  · refine congrArg (· + _) (Finset.sum_congr rfl fun u _ => ?_)
    rw [Finset.sum_filter]
    exact Finset.sum_congr rfl fun w _ => if_congr mem_adjacent.symm rfl rfl
  · simp
  · exact fun u w => if_congr ((graph g).adj_comm u w) (by ring) rfl

lemma ventEnergy_nonneg (h : FinitePhi phi) (ξ : Fin (unknowns g).size → ℝ)
    (u : Fin (unknowns g).size) :
    ∀ n ∈ vents g (cellOf g u), 0 ≤ ξ u ^ 2 / fraction phi (cellOf g u) n :=
  fun n _ => div_nonneg (sq_nonneg _) (fraction_pos h _ n).le

lemma posSemidef_matrix_build (h : FinitePhi phi) :
    (build g phi : Poisson d Exact _).matrix.PosSemidef := by
  rw [matrix_build h]
  exact ((graph g).posSemidef_lapMatrix ℝ).add (.diagonal fun u => (ventWeight_nonneg h u))

/-- **A pressure without energy** is constant on every component, and zero on those with air next to
them. -/
theorem energy_eq_zero_iff (h : FinitePhi phi) :
    ξ ⬝ᵥ (build g phi : Poisson d Exact _).matrix *ᵥ ξ = 0 ↔
      (∀ u, ∀ w ∈ (build g phi : Poisson d Exact _).component u, ξ w = ξ u) ∧
      ∀ u, (build g phi : Poisson d Exact _).Vented g u → ξ u = 0 := by
  have hjoin : 0 ≤ toLinearMap₂' ℝ ((graph g).lapMatrix ℝ) ξ ξ := by
    rw [SimpleGraph.lapMatrix_toLinearMap₂']
    positivity
  have hvent := ventEnergy_nonneg h ξ
  rw [energy_eq_add h,
    add_eq_zero_iff_of_nonneg hjoin (Finset.sum_nonneg fun u _ => Finset.sum_nonneg (hvent u)),
    SimpleGraph.lapMatrix_toLinearMap₂'_apply'_eq_zero_iff_forall_reachable]
  have hconstant : (∀ u w, (graph g).Reachable u w → ξ u = ξ w) ↔
      ∀ u, ∀ w ∈ (build g phi : Poisson d Exact _).component u, ξ w = ξ u := by
    simp only [mem_component, joined_iff]
    exact forall₃_congr fun u w _ => eq_comm
  rw [hconstant]
  refine and_congr_right fun hsame => ?_
  rw [Finset.sum_eq_zero_iff_of_nonneg fun u _ => Finset.sum_nonneg (hvent u)]
  constructor
  · rintro hzero u ⟨w, hw, n, hn⟩
    have hterm := (Finset.sum_eq_zero_iff_of_nonneg (hvent w)).mp (hzero w (Finset.mem_univ w)) n hn
    rw [← hsame u w hw]
    exact pow_eq_zero_iff two_ne_zero |>.mp
      ((div_eq_zero_iff.mp hterm).resolve_right (fraction_pos h _ _).ne')
  · intro hzero u _
    refine Finset.sum_eq_zero fun n hn => ?_
    rw [hzero u ⟨u, self_mem_component, n, hn⟩, zero_pow two_ne_zero, zero_div]

end Energy

/-! ## Elliptic equations -/

/-- What the equation of a level set is like. -/
structure Elliptic (g : Flags d) (phi : Option (ScalarField d Exact)) {n : ℕ}
    (system : Poisson d Exact n) : Prop where
  /-- The left side is that of the matrix. -/
  apply_eq : ∀ x ξ, Represents x ξ → Represents (system.apply x) (system.matrix *ᵥ ξ)
  symm : system.matrix.IsSymm
  off_diagonal : ∀ u w, u ≠ w → system.matrix u w =
    if system.cells.get w ∈ d.cells.neighbors (system.cells.get u) then -1 else 0
  /-- All liquid next to an unknown has an unknown. -/
  complete : ∀ u, ∀ c ∈ d.cells.neighbors (system.cells.get u), g.isFluid c = true →
    ∃ w ∈ system.adjacent.get u, system.cells.get w = c
  diagonal_eq : ∀ u, system.diagonal.get u = real (system.matrix u u)
  one_le : ∀ u, 1 ≤ system.matrix u u
  /-- No row has more entries beside its diagonal than that counts. -/
  dominant : ∀ u, ((Finset.univ.filter fun w => w ≠ u ∧ system.matrix u w ≠ 0).card : ℝ) ≤
    system.matrix u u
  inverse_eq : ∀ u, real 1 / system.diagonal.get u = real (1 / system.matrix u u)
  /-- The surface lies between a hundredth of the way to a cell of air and its centre. -/
  fraction_mem : ∀ c n, surfaceFraction phi c n = real (fraction phi c n) ∧
    fraction phi c n ∈ Set.Icc (1 / 100 : ℝ) 1
  energy_eq : ∀ ξ, ξ ⬝ᵥ system.matrix *ᵥ ξ =
    (∑ u, ∑ w ∈ Finset.Ioi u with w ∈ system.adjacent.get u, (ξ u - ξ w) ^ 2) +
    ∑ u, ∑ n ∈ vents g (system.cells.get u), ξ u ^ 2 / fraction phi (system.cells.get u) n
  energy_nonneg : ∀ ξ, 0 ≤ ξ ⬝ᵥ system.matrix *ᵥ ξ
  /-- Without energy is what is constant on every component, and zero on those next to air. -/
  energy_eq_zero_iff : ∀ ξ, ξ ⬝ᵥ system.matrix *ᵥ ξ = 0 ↔
    (∀ u, ∀ w ∈ system.component u, ξ w = ξ u) ∧ ∀ u, system.Vented g u → ξ u = 0

lemma isSymm_matrix_build (h : FinitePhi phi) :
    (build g phi : Poisson d Exact _).matrix.IsSymm := by
  rw [matrix_build h]
  exact ((graph g).isSymm_lapMatrix ℝ).add (isSymm_diagonal _)

lemma exists_adjacent {u : Fin (unknowns g).size} {c : d.Cell}
    (hc : c ∈ d.cells.neighbors (cellOf g u)) (hfluid : g.isFluid c = true) :
    ∃ w ∈ (build g phi : Poisson d Exact _).adjacent.get u, cellOf g w = c := by
  obtain ⟨w, rfl⟩ := exists_unknown_of_mem_neighbors hc hfluid
  exact ⟨w, mem_adjacent.mpr hc, rfl⟩

lemma get_diagonal_eq_matrix (h : FinitePhi phi) (u : Fin (unknowns g).size) :
    (build g phi : Poisson d Exact _).diagonal.get u =
      real ((build g phi : Poisson d Exact _).matrix u u) := by
  rw [get_diagonal_build h, diag_matrix_build h]

lemma one_div_diagonal (h : FinitePhi phi) (u : Fin (unknowns g).size) :
    real 1 / (build g phi : Poisson d Exact _).diagonal.get u =
      real (1 / (build g phi : Poisson d Exact _).matrix u u) := by
  rw [get_diagonal_eq_matrix h, real_div_real (zero_lt_one.trans_le (one_le_diag h u)).ne']

/-- **The pressure equation of a finite level set is elliptic**: whatever the cells hold, its matrix
is symmetric and positive semidefinite, and dominated by its diagonal. -/
theorem build_elliptic (h : FinitePhi phi) :
    (build g phi : Poisson d Exact _).Elliptic g phi where
  apply_eq _ _ hx := represents_mulVec (diagonalFinite_build h) hx
  symm := isSymm_matrix_build h
  off_diagonal _ _ huw := matrix_build_of_ne h huw
  complete _ _ hc hfluid := exists_adjacent hc hfluid
  diagonal_eq := get_diagonal_eq_matrix h
  one_le := one_le_diag h
  dominant := card_row_le_diag h
  inverse_eq := one_div_diagonal h
  fraction_mem c n := ⟨surfaceFraction_eq h c n, Poisson.fraction_mem h c n⟩
  energy_eq := Poisson.energy_eq h
  energy_nonneg := (posSemidef_matrix_build h).dotProduct_mulVec_nonneg
  energy_eq_zero_iff _ := Poisson.energy_eq_zero_iff h

/-- The level set of the water beside the pocket, whose surface is halfway to the air. -/
noncomputable def pocketPhi : ScalarField Projection.pocketDims Exact :=
  Field.tabulate fun c => real (if (coordsOf c).i ≤ 4 then -1 else 1)

lemma finitePhi_pocket : FinitePhi (some pocketPhi) := by
  rintro field hfield c
  obtain rfl := Option.some.inj hfield
  rw [pocketPhi, Field.get_tabulate]
  rfl

theorem build_elliptic_pocket : FinitePhi (some pocketPhi) ∧
    (build Projection.pocketFlags (some pocketPhi) : Poisson _ Exact _).Elliptic
      Projection.pocketFlags (some pocketPhi) :=
  ⟨finitePhi_pocket, build_elliptic finitePhi_pocket⟩

/-! ## Right sides -/

lemma component_eq_of_mem {u w : Fin (unknowns g).size}
    (h : w ∈ (build g phi : Poisson d Exact _).component u) :
    (build g phi : Poisson d Exact _).component w = (build g phi : Poisson d Exact _).component u
    := by
  rw [mem_component, joined_iff] at h
  ext w'
  simp only [mem_component, joined_iff]
  exact ⟨h.trans, h.symm.trans⟩

/-- A right side that adds up to zero on the components without air next to them is orthogonal to
every pressure without energy. -/
lemma dotProduct_eq_zero_of_energy (h : FinitePhi phi) {β ξ : Fin (unknowns g).size → ℝ}
    (hβ : ∀ u, ¬(build g phi : Poisson d Exact _).Vented g u →
      ∑ w ∈ (build g phi : Poisson d Exact _).component u, β w = 0)
    (hξ : ξ ⬝ᵥ (build g phi : Poisson d Exact _).matrix *ᵥ ξ = 0) : β ⬝ᵥ ξ = 0 := by
  classical
  obtain ⟨hsame, hzero⟩ := (energy_eq_zero_iff h).mp hξ
  set system : Poisson d Exact _ := build g phi
  -- One component at a time.
  rw [dotProduct, ← Finset.sum_fiberwise_of_maps_to (t := Finset.univ.image system.component)
    fun u _ => Finset.mem_image_of_mem _ (Finset.mem_univ u)]
  refine Finset.sum_eq_zero fun C hC => ?_
  obtain ⟨u, -, rfl⟩ := Finset.mem_image.mp hC
  have hfiber : (Finset.univ.filter fun w => system.component w = system.component u) =
      system.component u := by
    ext w
    simp only [Finset.mem_filter, Finset.mem_univ, true_and]
    exact ⟨fun hw => hw ▸ self_mem_component, component_eq_of_mem⟩
  calc ∑ w with system.component w = system.component u, β w * ξ w
      = ∑ w ∈ system.component u, β w * ξ u := by
        rw [hfiber]
        exact Finset.sum_congr rfl fun w hw => by rw [hsame u w hw]
    _ = (∑ w ∈ system.component u, β w) * ξ u := (Finset.sum_mul ..).symm
    _ = 0 := by
        by_cases hvented : system.Vented g u
        · rw [hzero u hvented, mul_zero]
        · rw [hβ u hvented, zero_mul]

end Poisson

end FreeSurface

import FreeSurface.Proofs.Field.Paths
import FreeSurface.Proofs.Number.Least
import FreeSurface.Proofs.Surface.Extension

/-!
# What a solid cell takes from the open ones

Pass after pass, the extension of a level set fills the solid cells next to filled ones.  In the end
a solid cell has the least value among the open cells that are nearest to it
(`Surface.extension_of_nearest`): a pass fills the cells at one distance, and what they see one step
nearer comes from the open cells nearest to them.  Comparisons alone decide, so this holds of
machine numbers as it does of exact ones.
-/

namespace FreeSurface

namespace Surface

open Front Dims

variable {d : Dims} {S : Type} [Scalar S] {g : Flags d} {phi : ScalarField d S} {c m : d.Cell}

/-- The cell is not solid. -/
def IsOpen (g : Flags d) (c : d.Cell) : Prop := g.isObstacle c = false

/-- No open cell is nearer than this one. -/
def IsNearestOpen (g : Flags d) (c m : d.Cell) : Prop :=
  IsOpen g m ∧ ∀ m', IsOpen g m' → d.cells.steps c m ≤ d.cells.steps c m'

/-- The level set, of which the open cells have their values. -/
def openFront (phi : ScalarField d S) (g : Flags d) : Front d.cells S :=
  ⟨phi, g.cells.map (· != .obstacle)⟩

omit [Scalar S] in
lemma settled_openFront : (openFront phi g).settled.get c = true ↔ IsOpen g c := by
  rw [openFront, Field.get_map, IsOpen, Flags.isObstacle, bne, Bool.not_eq_true']
  exact Iff.rfl

omit [Scalar S] in
lemma settled_openFront_eq :
    (fun c => (openFront phi g).settled.get c = true) = IsOpen g :=
  funext fun _ => propext settled_openFront

section Least

variable [Scalar.Linear S]

lemma leastFinite?_eq_some {values : List S} {a : S}
    (hvalues : ∀ b ∈ values, Scalar.isFinite b = true) :
    leastFinite? c values = some a ↔ values ≠ [] ∧ values.foldl Scalar.min Scalar.infinity = a := by
  rw [leastFinite?]
  cases values with
  | nil => simp [Scalar.Linear.isFinite_infinity]
  | cons b values =>
      have hne := List.cons_ne_nil b values
      rw [if_pos (hvalues _ (Scalar.foldl_min hne hvalues).1), Option.some.injEq]
      exact ⟨fun h => ⟨hne, h⟩, And.right⟩

lemma isSome_leastFinite? (c : d.Cell) (values : List S)
    (hvalues : ∀ b ∈ values, Scalar.isFinite b = true) :
    (leastFinite? c values).isSome = true ↔ True ∧ values ≠ [] := by
  simp only [Option.isSome_iff_exists, leastFinite?_eq_some hvalues, exists_and_left,
    exists_eq', and_true, true_and]

lemma isLeast_leastFinite? {values : List S} {a : S}
    (hvalues : ∀ b ∈ values, Scalar.isFinite b = true) (h : leastFinite? c values = some a) :
    IsLeast {b | b ∈ values} a := by
  obtain ⟨hne, rfl⟩ := (leastFinite?_eq_some hvalues).mp h
  exact Scalar.foldl_min hne hvalues

variable (hphi : ∀ c, IsOpen g c → Scalar.isFinite (phi.get c) = true)
include hphi

omit [Scalar.Linear S] in
lemma isFinite_openFront (c : d.Cell) (hc : (openFront phi g).settled.get c = true) :
    Scalar.isFinite ((openFront phi g).values.get c) = true :=
  hphi c (settled_openFront.mp hc)

/-- A cell has the least of the values one step nearer to the open cells. -/
lemma isLeast_extension_nearer {k : ℕ} (h : AtDistance (IsOpen g) (fun _ => True) (k + 1) c)
    (hnearer : ∀ m, AtDistance (IsOpen g) (fun _ => True) k m →
      Scalar.isFinite ((extendIntoObstacles phi g).get m) = true) :
    IsLeast {a | ∃ m ∈ d.cells.neighbors c, AtDistance (IsOpen g) (fun _ => True) k m ∧
      (extendIntoObstacles phi g).get m = a} ((extendIntoObstacles phi g).get c) := by
  classical
  obtain ⟨⟨o, -, hsteps⟩, -⟩ := atDistance_iff_steps.mp h
  have hk : k < d.cells.size := by
    have := Lattice.steps_lt_size c o
    omega
  set nearer := ((d.cells.neighbors c).filter
    (AtDistance (IsOpen g) (fun _ => True) k ·)).map (extendIntoObstacles phi g).get with hlist
  have hmem : ∀ a, a ∈ nearer ↔ ∃ m ∈ d.cells.neighbors c,
      AtDistance (IsOpen g) (fun _ => True) k m ∧ (extendIntoObstacles phi g).get m = a := by
    intro a
    simp only [hlist, List.mem_map, List.mem_filter, decide_eq_true_eq, and_assoc]
  have hvalue : leastFinite? c nearer = some ((extendIntoObstacles phi g).get c) := by
    have hrule := rule_atDistance isSome_leastFinite?
      (fun _ _ _ hvalues h => hvalues _ (isLeast_leastFinite? hvalues h).1)
      (isFinite_openFront hphi) hk (by rwa [settled_openFront_eq])
    simp only [settled_openFront_eq] at hrule
    exact hrule
  simp only [← hmem]
  refine isLeast_leastFinite? (fun b hb => ?_) hvalue
  obtain ⟨m, -, hm, rfl⟩ := (hmem b).mp hb
  exact hnearer m hm

/-- A cell has the least value of the open cells at its distance from the open cells. -/
lemma isLeast_extension {k : ℕ} (h : AtDistance (IsOpen g) (fun _ => True) k c) :
    IsLeast {a | ∃ o, IsOpen g o ∧ d.cells.steps c o = k ∧ phi.get o = a}
      ((extendIntoObstacles phi g).get c) := by
  induction k generalizing c with
  | zero =>
      have hc : IsOpen g c := h
      rw [get_extendIntoObstacles_of_open phi g hc]
      refine ⟨⟨c, hc, Lattice.steps_eq_zero_iff.mpr rfl, rfl⟩, ?_⟩
      rintro _ ⟨o, -, ho, rfl⟩
      obtain rfl := Lattice.steps_eq_zero_iff.mp ho
      exact Scalar.le_rfl_of_isFinite (hphi c hc)
  | succ k ih =>
      obtain ⟨⟨m, hm, hnearer, hvalue⟩, hleast⟩ := isLeast_extension_nearer hphi h fun m hm => by
        obtain ⟨⟨o, ho, -, hvalue⟩, -⟩ := ih hm
        exact hvalue ▸ hphi o ho
      constructor
      · obtain ⟨⟨o, ho, hsteps, hget⟩, -⟩ := ih hnearer
        exact ⟨o, ho, (h.steps_eq_iff ho).mpr ⟨m, hm, hnearer, hsteps⟩, hget.trans hvalue⟩
      · rintro _ ⟨o, ho, hsteps, rfl⟩
        obtain ⟨m, hm, hnearer, hsteps⟩ := (h.steps_eq_iff ho).mp hsteps
        exact Scalar.Linear.le_trans (hleast ⟨m, hm, hnearer, rfl⟩)
          ((ih hnearer).2 ⟨o, ho, hsteps, rfl⟩)

/-- If there is an open cell, every cell gets the value of one. -/
lemma settled_extension {o : d.Cell} (ho : IsOpen g o) (c : d.Cell) :
    ((openFront phi g).spread leastFinite? d.cellCount).settled.get c = true := by
  refine (settled_spread_iff_of_forall isSome_leastFinite?
    (fun _ _ _ hvalues h => hvalues _ (isLeast_leastFinite? hvalues h).1) _
    (isFinite_openFront hphi) c).mpr ?_
  rw [settled_openFront_eq]
  exact reached_iff_steps.mpr ⟨o, ho, (Lattice.steps_lt_size c o).le⟩

/-- Of the solid cells no value matters. -/
lemma extension_congr {o : d.Cell} (ho : IsOpen g o) {psi : ScalarField d S}
    (h : ∀ c, IsOpen g c → psi.get c = phi.get c) :
    extendIntoObstacles psi g = extendIntoObstacles phi g := by
  have hagree : Agree (openFront phi g) (openFront psi g) :=
    ⟨rfl, fun c hc => (h c (settled_openFront.mp hc)).symm⟩
  refine Field.ext_get fun c => ?_
  exact ((hagree.spread leastFinite? d.cellCount).values c (settled_extension hphi ho c)).symm

/-- **The extension gives every cell the least value among the open cells nearest to it.**  Its
passes come to an end, it changes no open cell, no old value of a solid cell matters, and done twice
it does what it does once. -/
theorem extension_of_nearest :
    (∃ passes ≤ d.cellCount,
      ((next leastFinite?)^[passes] (openFront phi g)).nextLayer leastFinite? = [] ∧
        extendIntoObstacles phi g = ((next leastFinite?)^[passes] (openFront phi g)).values) ∧
    (∀ c, IsOpen g c → (extendIntoObstacles phi g).get c = phi.get c) ∧
    ((∃ c, IsOpen g c) →
      (∀ c, IsLeast (phi.get '' {m | IsNearestOpen g c m}) ((extendIntoObstacles phi g).get c)) ∧
      ∀ psi : ScalarField d S, (∀ c, IsOpen g c → psi.get c = phi.get c) →
        extendIntoObstacles psi g = extendIntoObstacles phi g) ∧
    extendIntoObstacles (extendIntoObstacles phi g) g = extendIntoObstacles phi g := by
  refine ⟨⟨d.cellCount, le_rfl, ?_⟩, fun c => get_extendIntoObstacles_of_open phi g, ?_,
    extendIntoObstacles_extendIntoObstacles phi g⟩
  · rw [← spread_eq_iterate]
    exact ⟨nextLayer_spread_eq_nil _ le_rfl _, rfl⟩
  · rintro ⟨o, ho⟩
    refine ⟨fun c => ?_, fun psi => extension_congr hphi ho⟩
    obtain ⟨k, -, hk⟩ := (reached_iff_steps.mpr ⟨o, ho, le_rfl⟩ :
      Reached (IsOpen g) (fun _ => True) (d.cells.steps c o) c).exists_atDistance
    obtain ⟨⟨o', ho', hsteps'⟩, hfar⟩ := atDistance_iff_steps.mp hk
    have hnearest : phi.get '' {m | IsNearestOpen g c m} =
        {a | ∃ m, IsOpen g m ∧ d.cells.steps c m = k ∧ phi.get m = a} := by
      ext a
      constructor
      · rintro ⟨m, ⟨hm, hle⟩, rfl⟩
        exact ⟨m, hm, le_antisymm (hsteps' ▸ hle o' ho') (hfar m hm), rfl⟩
      · rintro ⟨m, hm, hsteps, rfl⟩
        exact ⟨m, ⟨hm, fun m' hm' => hsteps.trans_le (hfar m' hm')⟩, rfl⟩
    rw [hnearest]
    exact isLeast_extension hphi hk

end Least

/-! ## A wall between two levels -/

/-- A solid cell between two open ones. -/
def post : Flags (planar 2 0) := (Flags.empty (planar 2 0)).set (1 : Fin 3) .obstacle

/-- Singles that rise from the last cell to the first one; the solid cell has no number. -/
def levels : ScalarField (planar 2 0) Float32 := Field.tabulate fun c =>
  if c.val = 0 then 2 else if c.val = 1 then 0 / 0 else 1

/-- The post is next to both levels. -/
theorem extension_of_nearest_post :
    (∀ c, IsOpen post c → Scalar.isFinite (levels.get c) = true) ∧
      (∃ c, IsOpen post c) ∧
      IsLeast (levels.get '' {m | IsNearestOpen post (1 : Fin 3) m})
        ((extendIntoObstacles levels post).get (1 : Fin 3)) := by
  have hfinite : ∀ c, IsOpen post c → Scalar.isFinite (levels.get c) = true := by
    unfold IsOpen
    decide
  have hopen : ∃ c, IsOpen post c := ⟨(0 : Fin 3), by unfold IsOpen; decide⟩
  exact ⟨hfinite, hopen, ((extension_of_nearest hfinite).2.2.1 hopen).1 (1 : Fin 3)⟩

end Surface

end FreeSurface

import Mathlib.Algebra.BigOperators.Fin
import FreeSurface.Particle.Density
import FreeSurface.Proofs.Number.Order
import FreeSurface.Proofs.Particle.Buckets

/-!
# Thinning

The particles that thinning leaves, told without buckets: of a deep cell the first ones, of any
other cell all of them.  What a cell lacks is found before thinning, but no cell that lacks
particles is thinned, for none is to have fewer particles than it may keep.

* `Density.population` — the number of particles in a cell.
* `Density.survivors` — the particles that are kept, each by what is before it.
* `Density.shortage` — how many particles a tended cell lacks.
* `Density.toList_thinned` — **thinning leaves the survivors**; `Density.population_survivors`
  counts them cell by cell.
* `Density.sum_deficits` — what is found to be lacking is the shortages of the cells.
-/

namespace FreeSurface

open scoped Literals

variable {d : Dims} {S : Type} [Scalar S]

namespace Density

/-! ## What is counted -/

/-- The number of particles in a cell. -/
def population (c : d.Cell) (ps : List (Particle S)) : ℕ :=
  ps.countP fun p => d.cellAt? p.position = some c

/-- The cell is below the surface. -/
def IsDeep (s : DensitySettings S) (phi : ScalarField d S) (c : d.Cell) : Prop :=
  ¬-s.surface < phi.get c

/-- A cell of liquid, in the band and below the surface. -/
def IsTended (s : DensitySettings S) (g : Flags d) (phi : ScalarField d S) (c : d.Cell) : Prop :=
  g.isFluid c = true ∧ inBand s (phi.get c) = true ∧ IsDeep s phi c

instance (s : DensitySettings S) (phi : ScalarField d S) (c : d.Cell) :
    Decidable (IsDeep s phi c) :=
  inferInstanceAs (Decidable ¬_)

instance (s : DensitySettings S) (g : Flags d) (phi : ScalarField d S) (c : d.Cell) :
    Decidable (IsTended s g phi c) :=
  inferInstanceAs (Decidable (_ ∧ _ ∧ _))

/-- A particle is kept unless its cell is deep and was full before it. -/
def isKept (s : DensitySettings S) (phi : ScalarField d S) (ps : List (Particle S))
    (i : Fin ps.length) : Bool :=
  match d.cellAt? (ps.get i).position with
  | some c => IsDeep s phi c → population c (ps.take i) < s.maxPerCell
  | none => true

/-- The particles that are kept, in order. -/
def survivors (s : DensitySettings S) (phi : ScalarField d S) (ps : List (Particle S)) :
    List (Particle S) :=
  ((List.finRange ps.length).filter (isKept s phi ps)).map ps.get

/-- How many particles a tended cell lacks. -/
def shortage (s : DensitySettings S) (g : Flags d) (phi : ScalarField d S)
    (ps : List (Particle S)) (c : d.Cell) : ℕ :=
  if IsTended s g phi c then s.minPerCell - population c ps else 0

variable {s : DensitySettings S} {g : Flags d} {phi : ScalarField d S} {c : d.Cell}

lemma isDeep_iff : IsDeep s phi c ↔ atSurface s (phi.get c) = false := by
  rw [IsDeep, atSurface, decide_eq_false_iff_not]

/-- The depth of a deep cell is a surface distance or more. -/
lemma isDeep_iff_le [Scalar.Ordered S] (hphi : Scalar.isNaN (phi.get c) = false)
    (hsurface : Scalar.isNaN (-s.surface) = false) : IsDeep s phi c ↔ phi.get c ≤ -s.surface :=
  Scalar.not_lt_iff hphi hsurface

/-- A cell that lacks particles is tended and holds too few. -/
lemma shortage_pos_iff {ps : List (Particle S)} :
    0 < shortage s g phi ps c ↔ IsTended s g phi c ∧ population c ps < s.minPerCell := by
  rw [shortage]
  split_ifs with htended
  · exact Nat.sub_pos_iff_lt.trans (iff_and_self.mpr fun _ => htended)
  · exact iff_of_false (Nat.lt_irrefl 0) fun h => htended h.1

lemma isKept_iff {ps : List (Particle S)} {i : Fin ps.length}
    (hcell : d.cellAt? (ps.get i).position = some c) :
    isKept s phi ps i = true ↔ (IsDeep s phi c → population c (ps.take i) < s.maxPerCell) := by
  rw [isKept, hcell, decide_eq_true_eq]

lemma survivors_sublist (s : DensitySettings S) (phi : ScalarField d S)
    (ps : List (Particle S)) : (survivors s phi ps).Sublist ps := by
  have hsublist : (survivors s phi ps).Sublist ((List.finRange ps.length).map ps.get) :=
    List.filter_sublist.map ps.get
  rwa [List.map_get_finRange] at hsublist

lemma population_append (ps qs : List (Particle S)) :
    population c (ps ++ qs) = population c ps + population c qs :=
  List.countP_append

lemma population_of_forall {ps : List (Particle S)} {c' : d.Cell}
    (h : ∀ p ∈ ps, d.cellAt? p.position = some c') :
    population c ps = if c' = c then ps.length else 0 := by
  split_ifs with heq
  · exact List.countP_eq_length.mpr fun p hp => decide_eq_true (heq ▸ h p hp)
  · refine List.countP_eq_zero.mpr fun p hp => ?_
    rw [h p hp, decide_eq_true_eq, Option.some.injEq]
    exact heq

/-! ## Thinning -/

lemma finRange_eq_append {n : ℕ} (i : Fin n) :
    List.finRange n = (List.finRange n).take i ++ i :: (List.finRange n).drop (i + 1) := by
  have hi : i.val < (List.finRange n).length := by simp
  have hget : (List.finRange n)[i.val] = i := by simp
  have hdrop := List.drop_eq_getElem_cons hi
  rw [hget] at hdrop
  rw [← hdrop, List.take_append_drop]

/-- The first `k` places with a property are left out; the others have `k` such places before. -/
lemma mem_drop_filter_finRange {n k : ℕ} {f : Fin n → Bool} {i : Fin n} :
    i ∈ ((List.finRange n).filter f).drop k ↔
      f i = true ∧ k ≤ ((List.finRange n).take i).countP f := by
  set before := (List.finRange n).take i
  set after := (List.finRange n).drop (i + 1)
  have hsplit : List.finRange n = before ++ i :: after := finRange_eq_append i
  have hnodup : (before ++ i :: after).Nodup := hsplit ▸ List.nodup_finRange n
  have hbefore : i ∉ before := fun h =>
    (List.nodup_append.mp hnodup).2.2 i h i List.mem_cons_self rfl
  have hafter : i ∉ after := (List.nodup_cons.mp (List.nodup_append.mp hnodup).2.1).1
  rw [hsplit, List.filter_append, List.countP_eq_length_filter]
  by_cases hf : f i = true
  · rw [List.filter_cons_of_pos hf]
    by_cases hk : k ≤ (before.filter f).length
    · rw [List.drop_append_of_le_length hk]
      simp [hf, hk]
    · obtain ⟨m, hm⟩ := Nat.exists_eq_add_of_lt (not_le.mp hk)
      have hdrop : (before.filter f ++ i :: after.filter f).drop k = (after.filter f).drop m := by
        rw [List.drop_append, List.drop_eq_nil_of_le (not_le.mp hk).le, List.nil_append,
          show k - (before.filter f).length = m + 1 by omega, List.drop_succ_cons]
      rw [hdrop]
      refine iff_of_false (fun h => ?_) fun h => hk h.2
      exact hafter (List.mem_of_mem_filter (List.mem_of_mem_drop h))
  · refine iff_of_false (fun h => ?_) fun h => hf h.1
    rw [← List.filter_append] at h
    exact hf (List.mem_filter.mp (List.mem_of_mem_drop h)).2

lemma filter_notMem_drop {α : Type} [DecidableEq α] {l : List α} (h : l.Nodup) (k : ℕ) :
    l.filter (· ∉ l.drop k) = l.take k := by
  have hparts : (l.take k ++ l.drop k).Nodup := (List.take_append_drop k l).symm ▸ h
  have htake : ∀ a ∈ l.take k, a ∉ l.drop k := fun a ha ha' =>
    (List.nodup_append.mp hparts).2.2 a ha a ha' rfl
  conv_lhs =>
    rw [← List.take_append_drop k l]
  rw [List.filter_append, List.take_append_drop, List.filter_eq_self.mpr (by simpa using htake),
    List.filter_eq_nil_iff.mpr (by simp), List.append_nil]

lemma get_foldl_drop {n : ℕ} (dropped : List (Fin n)) (kept : Vector Bool n) (i : Fin n) :
    (dropped.foldl (fun kept p => kept.setIfInBounds p.val false) kept).get i =
      (kept.get i && decide (i ∉ dropped)) := by
  induction dropped generalizing kept with
  | nil => simp
  | cons p dropped ih =>
      have hset : (kept.setIfInBounds p.val false).get i = (kept.get i && decide (i ≠ p)) := by
        show (kept.setIfInBounds p.val false)[i.val] = _
        rw [Vector.getElem_setIfInBounds]
        by_cases h : i = p
        · simp [h]
        · simp [h, Fin.val_ne_of_ne (Ne.symm h), Vector.get]
      rw [List.foldl_cons, ih, hset]
      simp [Bool.and_assoc]

omit [Scalar S] in
/-- The particles that are not listed stay. -/
lemma toList_without (ps : Particles S) (dropped : List (Fin ps.size)) :
    (without ps dropped).toList =
      ((List.finRange ps.size).filter (· ∉ dropped)).map (Particles.get ps) := by
  rw [without]
  refine congrArg (List.map _) (List.filter_congr fun i _ => ?_)
  rw [get_foldl_drop]
  simp [Vector.get]

omit [Scalar S] in
lemma toList_eq_map_get (ps : Particles S) :
    ps.toList = (List.finRange ps.size).map (Particles.get ps) :=
  (List.map_get_finRange ps.toList).symm

/-! ### Buckets of particles in the domain -/

section Thinning

variable {ps : Particles S} (hcells : ∀ p ∈ ps, ∃ c, d.cellAt? p.position = some c)

include hcells

lemma bucketOf_eq_iff {i : Fin ps.size} :
    (Vector.ofFn fun i => Buckets.bucketOf d (Particles.get ps i).position).get i = c ↔
      d.cellAt? (Particles.get ps i).position = some c := by
  obtain ⟨c', hc'⟩ := hcells (Particles.get ps i) (Array.getElem_mem i.isLt)
  rw [Buckets.get_bucketsOf, Buckets.bucketOf_of_cellAt? hc', hc', Option.some.injEq]

lemma members_build : (Buckets.build d ps).members c =
    (List.finRange ps.size).filter fun i => d.cellAt? (Particles.get ps i).position = some c := by
  rw [Buckets.build, Buckets.members_ofCells]
  exact List.filter_congr fun i _ => decide_eq_decide.mpr (bucketOf_eq_iff hcells)

lemma count_build : (Buckets.build d ps).count c = population c ps.toList := by
  rw [Buckets.build, Buckets.count_ofCells, population, toList_eq_map_get, List.countP_map]
  exact List.countP_congr fun i _ => by
    simp only [Function.comp_apply, decide_eq_true_eq]
    exact bucketOf_eq_iff hcells

lemma cellAt?_of_mem_excess {i : Fin ps.size}
    (h : i ∈ excess s phi (Buckets.build d ps) c) :
    d.cellAt? (Particles.get ps i).position = some c := by
  rw [excess] at h
  split_ifs at h
  · exact absurd h List.not_mem_nil
  · have hmem := List.mem_of_mem_drop h
    rw [members_build hcells, List.mem_filter, decide_eq_true_eq] at hmem
    exact hmem.2

/-- In excess are particles of deep cells. -/
lemma mem_allExcess {i : Fin ps.size} (hcell : d.cellAt? (Particles.get ps i).position = some c) :
    i ∈ allExcess s phi (Buckets.build d ps) ↔
      IsDeep s phi c ∧ i ∈ ((Buckets.build d ps).members c).drop s.maxPerCell := by
  simp only [allExcess, List.mem_flatMap]
  constructor
  · rintro ⟨c', -, h⟩
    obtain rfl : c' = c :=
      Option.some.inj ((cellAt?_of_mem_excess hcells h).symm.trans hcell)
    rw [excess] at h
    split_ifs at h with hsurface
    · exact absurd h List.not_mem_nil
    · exact ⟨isDeep_iff.mpr (Bool.eq_false_iff.mpr hsurface), h⟩
  · rintro ⟨hdeep, h⟩
    refine ⟨c, List.mem_finRange c, ?_⟩
    rw [excess, isDeep_iff.mp hdeep]
    exact h

/-- No particle is in excess twice. -/
lemma nodup_allExcess : (allExcess s phi (Buckets.build d ps)).Nodup := by
  refine List.nodup_flatMap.mpr ⟨fun c _ => ?_, ?_⟩
  · rw [excess]
    split_ifs
    · exact List.nodup_nil
    · exact (Buckets.nodup_members _ _).sublist (List.drop_sublist _ _)
  · refine (List.nodup_finRange d.cellCount).imp fun hne i hi hi' => hne ?_
    have hcell := cellAt?_of_mem_excess hcells hi
    exact Option.some.inj (hcell.symm.trans (cellAt?_of_mem_excess hcells hi'))

/-- **Thinning leaves the survivors.** -/
lemma toList_thinned :
    (without ps (allExcess s phi (Buckets.build d ps))).toList = survivors s phi ps.toList := by
  rw [toList_without]
  refine congrArg (List.map _) (List.filter_congr fun i _ => ?_)
  obtain ⟨c, hcell⟩ := hcells (Particles.get ps i) (Array.getElem_mem i.isLt)
  have hbefore : population c (ps.toList.take i) = ((List.finRange ps.size).take i).countP
      fun i => d.cellAt? (Particles.get ps i).position = some c := by
    rw [population, toList_eq_map_get, ← List.map_take, List.countP_map]
    rfl
  rw [Bool.eq_iff_iff, decide_eq_true_eq, mem_allExcess hcells hcell, members_build hcells,
    mem_drop_filter_finRange, ← hbefore]
  refine Iff.trans ?_ (isKept_iff (i := i) hcell).symm
  rw [not_and]
  refine forall_congr' fun _ => ?_
  rw [decide_eq_true_eq, not_and, not_le]
  exact ⟨fun h => h hcell, fun h _ => h⟩

/-- Of a deep cell the first particles survive, of any other cell all of them. -/
lemma population_survivors (c : d.Cell) :
    population c (survivors s phi ps.toList) =
      if IsDeep s phi c then min s.maxPerCell (population c ps.toList)
      else population c ps.toList := by
  have hmembers : (List.finRange ps.size).filter
      (fun i => d.cellAt? (Particles.get ps i).position = some c) =
        (Buckets.build d ps).members c := (members_build hcells).symm
  have hlength : ((Buckets.build d ps).members c).length = population c ps.toList := by
    rw [members_build hcells, population, toList_eq_map_get, List.countP_map,
      List.countP_eq_length_filter]
    rfl
  have hcount : population c (survivors s phi ps.toList) =
      (((Buckets.build d ps).members c).filter
        (· ∉ allExcess s phi (Buckets.build d ps))).length := by
    rw [← toList_thinned hcells, toList_without, population, List.countP_map,
      List.countP_eq_length_filter, ← hmembers, List.filter_filter, List.filter_filter]
    refine congrArg _ (List.filter_congr fun i _ => ?_)
    exact Bool.and_comm _ _
  have hexcess : ∀ i ∈ (Buckets.build d ps).members c,
      (i ∈ allExcess s phi (Buckets.build d ps) ↔
        IsDeep s phi c ∧ i ∈ ((Buckets.build d ps).members c).drop s.maxPerCell) := by
    intro i hi
    rw [members_build hcells, List.mem_filter, decide_eq_true_eq] at hi
    exact mem_allExcess hcells hi.2
  rw [hcount]
  split_ifs with hdeep
  · have hnodup : ((Buckets.build d ps).members c).Nodup := Buckets.nodup_members _ _
    rw [← hlength, ← List.length_take, ← filter_notMem_drop hnodup]
    refine congrArg _ (List.filter_congr fun i hi => ?_)
    rw [decide_eq_decide, hexcess i hi, and_iff_right hdeep]
  · rw [← hlength, List.filter_eq_self.mpr]
    intro i hi
    rw [decide_eq_true_eq, hexcess i hi]
    exact fun h => hdeep h.1

/-- What thinning removes and what it leaves are all particles. -/
lemma length_allExcess :
    (survivors s phi ps.toList).length + (allExcess s phi (Buckets.build d ps)).length =
      ps.size := by
  set dropped := allExcess s phi (Buckets.build d ps)
  have hdropped : dropped.length = ((List.finRange ps.size).filter (· ∈ dropped)).length := by
    refine List.Perm.length_eq ((List.perm_ext_iff_of_nodup (nodup_allExcess hcells)
      ((List.nodup_finRange _).filter _)).mpr fun i => ?_)
    rw [List.mem_filter, decide_eq_true_eq, and_iff_right (List.mem_finRange i)]
  have hleft : (survivors s phi ps.toList).length =
      ((List.finRange ps.size).filter fun i => !decide (i ∈ dropped)).length := by
    rw [← toList_thinned hcells, toList_without, List.length_map]
    refine congrArg _ (List.filter_congr fun i _ => ?_)
    exact decide_not
  rw [hleft, hdropped, Nat.add_comm, ← List.length_eq_length_filter_add, List.length_finRange]

lemma population_survivors_le (hdeep : IsDeep s phi c) :
    population c (survivors s phi ps.toList) ≤ s.maxPerCell := by
  rw [population_survivors hcells, if_pos hdeep]
  exact Nat.min_le_left _ _

/-- A cell that lacks particles was not thinned. -/
lemma shortage_survivors (hbounds : s.minPerCell ≤ s.maxPerCell) (c : d.Cell) :
    shortage s g phi (survivors s phi ps.toList) c = shortage s g phi ps.toList c := by
  rw [shortage, shortage, population_survivors hcells]
  split_ifs with htended hdeep
  · omega
  · rfl
  · rfl

lemma deficits_eq : deficits s g phi (Buckets.build d ps) =
    d.cells.nodes.filterMap fun c =>
      if shortage s g phi ps.toList c = 0 then none
      else some (c, shortage s g phi ps.toList c) := by
  refine List.filterMap_congr fun c _ => ?_
  have hlisted : (g.isFluid c && inBand s (phi.get c) && !atSurface s (phi.get c) &&
      decide (population c ps.toList < s.minPerCell)) = true ↔
        IsTended s g phi c ∧ population c ps.toList < s.minPerCell := by
    simp only [Bool.and_eq_true, Bool.not_eq_true', decide_eq_true_eq, IsTended, isDeep_iff,
      and_assoc]
  rw [count_build hcells]
  simp only [hlisted, shortage]
  by_cases htended : IsTended s g phi c
  · simp only [htended, true_and, if_true, Nat.sub_eq_zero_iff_le, ← not_lt, ite_not]
  · simp only [htended, false_and, if_false, if_true]

variable (s phi) in
/-- What the cells are found to lack is what they lack, cell by cell. -/
lemma sum_deficits (g : Flags d) (weigh : d.Cell → ℕ → ℕ) (hweigh : ∀ c, weigh c 0 = 0) :
    ((deficits s g phi (Buckets.build d ps)).map fun u => weigh u.1 u.2).sum =
      ∑ c : d.Cell, weigh c (shortage s g phi ps.toList c) := by
  rw [Fin.sum_univ_def, deficits_eq hcells, Lattice.nodes]
  induction List.finRange d.cellCount with
  | nil => rfl
  | cons c rest ih =>
      rw [List.map_cons, List.sum_cons, ← ih, List.filterMap_cons]
      split_ifs with hnone
      · rw [hnone, hweigh, Nat.zero_add]
      · rfl

end Thinning

end Density

end FreeSurface

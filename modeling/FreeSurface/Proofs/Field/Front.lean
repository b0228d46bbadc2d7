import Mathlib.Data.List.FinRange
import Mathlib.Logic.Function.Iterate
import FreeSurface.Proofs.Field.Basic

/-!
# Fronts, layer by layer

`Front.spread` stops at the first empty layer and writes each layer through a list.  Here one layer
becomes the function `Front.next`, known at every node (`Front.get_values_next`,
`Front.get_settled_next`), and spreading becomes its iteration (`Front.spread_eq_iterate`).

* `Front.get_values_spread_of_settled`, `Front.get_values_spread_of_refused` — a settled node keeps
  its value, and so does one that is never given another.
* `Front.spread_restart` — spreading again from the nodes that were settled at first changes
  nothing: a front only ever reads settled values.
* `Front.Agree.spread` — for the same reason fronts that agree where they are settled stay that way.
* `Front.settled_spread_iff` — what a front settles is what it can reach (`Front.Reached`).
-/

namespace FreeSurface

namespace Front

variable {L : Lattice} {α : Type}

/-- The front after one more layer. -/
def next (rule : Rule L α) (front : Front L α) : Front L α :=
  front.settleAll (front.nextLayer rule)

/-! ## One layer -/

lemma get_settleAll_of_notMem (layer : List (L.Node × α)) (front : Front L α) {n : L.Node}
    (h : ∀ a, (n, a) ∉ layer) :
    (front.settleAll layer).values.get n = front.values.get n ∧
      (front.settleAll layer).settled.get n = front.settled.get n := by
  induction layer generalizing front with
  | nil => exact ⟨rfl, rfl⟩
  | cons u rest ih =>
      have hu : u.1 ≠ n := fun hn => h u.2 (hn ▸ List.mem_cons_self)
      have hrest : ∀ a, (n, a) ∉ rest := fun a ha => h a (List.mem_cons_of_mem _ ha)
      have := ih ⟨Field.put front.values u.1 u.2, Field.put front.settled u.1 true⟩ hrest
      rw [Field.get_put_of_ne _ _ hu, Field.get_put_of_ne _ _ hu] at this
      exact this

lemma get_settleAll_of_mem (layer : List (L.Node × α)) (front : Front L α) {n : L.Node} {a : α}
    (hdistinct : layer.Pairwise fun u w => u.1 ≠ w.1) (h : (n, a) ∈ layer) :
    (front.settleAll layer).values.get n = a ∧
      (front.settleAll layer).settled.get n = true := by
  induction layer generalizing front with
  | nil => simp at h
  | cons u rest ih =>
      obtain ⟨hu, hrest⟩ := List.pairwise_cons.mp hdistinct
      rcases List.mem_cons.mp h with rfl | h
      · have hn : ∀ b, (n, b) ∉ rest := fun b hb => hu (n, b) hb rfl
        have := get_settleAll_of_notMem rest
          ⟨Field.put front.values n a, Field.put front.settled n true⟩ hn
        rw [Field.get_put_self, Field.get_put_self] at this
        exact this
      · exact ih _ hrest h

lemma mem_nextLayer {front : Front L α} {rule : Rule L α} {n : L.Node} {a : α} :
    (n, a) ∈ front.nextLayer rule ↔
      front.settled.get n = false ∧ rule n (front.around n) = some a := by
  simp only [nextLayer, List.mem_filterMap, Lattice.nodes, List.mem_finRange, true_and]
  constructor
  · rintro ⟨m, hm⟩
    split_ifs at hm with hs
    obtain ⟨b, hb, hba⟩ := Option.map_eq_some_iff.mp hm
    obtain ⟨rfl, rfl⟩ := Prod.mk.inj hba
    exact ⟨Bool.not_eq_true _ ▸ hs, hb⟩
  · rintro ⟨hs, hr⟩
    exact ⟨n, by simp [hs, hr]⟩

/-- A layer gives no node two values. -/
lemma pairwise_nextLayer (front : Front L α) (rule : Rule L α) :
    (front.nextLayer rule).Pairwise fun u w => u.1 ≠ w.1 := by
  refine List.Pairwise.filterMap _ ?_ (List.nodup_finRange L.size)
  intro m m' hne u hu w hw
  have node : ∀ {k : L.Node} {v : L.Node × α},
      (if front.settled.get k then none else (rule k (front.around k)).map (k, ·)) = some v →
        v.1 = k := by
    intro k v hv
    split_ifs at hv
    obtain ⟨b, -, rfl⟩ := Option.map_eq_some_iff.mp hv
    rfl
  rw [node hu, node hw]
  exact hne

lemma get_values_next (rule : Rule L α) (front : Front L α) (n : L.Node) :
    (front.next rule).values.get n =
      if front.settled.get n then front.values.get n
      else (rule n (front.around n)).getD (front.values.get n) := by
  by_cases hs : front.settled.get n = true
  · rw [if_pos hs]
    exact (get_settleAll_of_notMem _ _ fun a ha => by simp [mem_nextLayer, hs] at ha).1
  · rw [if_neg hs]
    cases hr : rule n (front.around n) with
    | none => exact (get_settleAll_of_notMem _ _ fun a ha => by simp [mem_nextLayer, hr] at ha).1
    | some a =>
        have ha : (n, a) ∈ front.nextLayer rule := mem_nextLayer.mpr ⟨by simpa using hs, hr⟩
        exact (get_settleAll_of_mem _ _ (pairwise_nextLayer front rule) ha).1

lemma get_settled_next (rule : Rule L α) (front : Front L α) (n : L.Node) :
    (front.next rule).settled.get n =
      (front.settled.get n || (rule n (front.around n)).isSome) := by
  by_cases hs : front.settled.get n = true
  · rw [hs, Bool.true_or]
    exact ((get_settleAll_of_notMem _ _ fun a ha => by simp [mem_nextLayer, hs] at ha).2).trans hs
  · cases hr : rule n (front.around n) with
    | none =>
        rw [Option.isSome_none, Bool.or_false]
        exact (get_settleAll_of_notMem _ _ fun a ha => by simp [mem_nextLayer, hr] at ha).2
    | some a =>
        rw [Option.isSome_some, Bool.or_true]
        have ha : (n, a) ∈ front.nextLayer rule := mem_nextLayer.mpr ⟨by simpa using hs, hr⟩
        exact (get_settleAll_of_mem _ _ (pairwise_nextLayer front rule) ha).2

/-! ## Layer after layer -/

/-- Spreading is the iteration of a layer: once a layer is empty, so are all later ones. -/
theorem spread_eq_iterate (rule : Rule L α) (limit : ℕ) (front : Front L α) :
    spread rule limit front = (next rule)^[limit] front := by
  induction limit generalizing front with
  | zero => rfl
  | succ limit ih =>
      rw [Function.iterate_succ_apply]
      rw [spread]
      split
      · next hempty =>
          have hfix : front.next rule = front := by
            rw [next, hempty]
            rfl
          rw [hfix]
          exact (Function.iterate_fixed hfix limit).symm
      · exact ih _

/-- A settled node keeps its value. -/
theorem get_values_spread_of_settled (rule : Rule L α) (limit : ℕ) (front : Front L α)
    {n : L.Node} (h : front.settled.get n = true) :
    (spread rule limit front).values.get n = front.values.get n := by
  rw [spread_eq_iterate]
  induction limit generalizing front with
  | zero => rfl
  | succ limit ih =>
      rw [Function.iterate_succ_apply, ih _ (by rw [get_settled_next, h, Bool.true_or]),
        get_values_next, if_pos h]

lemma settled_spread_of_settled (rule : Rule L α) (limit : ℕ) (front : Front L α) {n : L.Node}
    (h : front.settled.get n = true) : (spread rule limit front).settled.get n = true := by
  rw [spread_eq_iterate]
  induction limit generalizing front with
  | zero => exact h
  | succ limit ih =>
      rw [Function.iterate_succ_apply]
      exact ih _ (by rw [get_settled_next, h, Bool.true_or])

/-- What a node sees depends on the settled values alone. -/
lemma around_congr {front front' : Front L α} (hsettled : front.settled = front'.settled)
    (hvalues : ∀ n, front.settled.get n = true → front.values.get n = front'.values.get n)
    (n : L.Node) : front.around n = front'.around n := by
  simp only [around]
  rw [← hsettled]
  refine List.filterMap_congr fun m _ => ?_
  split_ifs with hs
  · rw [hvalues m hs]
  · rfl

lemma spread_succ (rule : Rule L α) (limit : ℕ) (front : Front L α) :
    spread rule (limit + 1) front = spread rule limit (front.next rule) := by
  rw [spread_eq_iterate, spread_eq_iterate, Function.iterate_succ_apply]

/-- Over values that its next layer has, a front settles the same nodes and changes no value. -/
lemma next_restart {rule : Rule L α} {front : Front L α} {final : Field L α}
    (hagree : ∀ n, (front.next rule).settled.get n = true →
      final.get n = (front.next rule).values.get n) :
    next rule ⟨final, front.settled⟩ = ⟨final, (front.next rule).settled⟩ := by
  have hsettled : ∀ n, front.settled.get n = true → final.get n = front.values.get n := by
    intro n hn
    have hnext := hagree n (by rw [get_settled_next, hn, Bool.true_or])
    rwa [get_values_next, if_pos hn] at hnext
  have haround : ∀ n, (⟨final, front.settled⟩ : Front L α).around n = front.around n :=
    around_congr rfl hsettled
  have hv : (next rule ⟨final, front.settled⟩).values = final := by
    refine Field.ext_get fun n => ?_
    rw [get_values_next, haround]
    split_ifs with hs
    · rfl
    · cases hr : rule n (front.around n) with
      | none => rfl
      | some a =>
          have hn : (front.next rule).settled.get n = true := by
            rw [get_settled_next, hr, Option.isSome_some, Bool.or_true]
          rw [hagree n hn, get_values_next, if_neg hs, hr]
          rfl
  have hset : (next rule ⟨final, front.settled⟩).settled = (front.next rule).settled := by
    refine Field.ext_get fun n => ?_
    rw [get_settled_next, get_settled_next, haround]
  calc next rule ⟨final, front.settled⟩
      = ⟨(next rule ⟨final, front.settled⟩).values,
          (next rule ⟨final, front.settled⟩).settled⟩ := rfl
    _ = ⟨final, (front.next rule).settled⟩ := by rw [hv, hset]

/-- Spreading again from the nodes settled at first, over values that a spread has left, changes
nothing. -/
theorem spread_restart (rule : Rule L α) (limit : ℕ) (front : Front L α) :
    (spread rule limit ⟨(spread rule limit front).values, front.settled⟩).values =
      (spread rule limit front).values := by
  set final := (spread rule limit front).values with hfinal
  rw [spread_eq_iterate]
  -- The restarted front has the settled nodes of the first run, layer for layer, and never moves.
  suffices h : ∀ (k : ℕ) (first : Front L α), (spread rule k first).values = final →
      ((next rule)^[k] ⟨final, first.settled⟩).values = final from h limit front hfinal.symm
  intro k
  induction k with
  | zero => exact fun _ _ => rfl
  | succ k ih =>
      intro first hend
      rw [spread_succ] at hend
      have hagree : ∀ n, (first.next rule).settled.get n = true →
          final.get n = (first.next rule).values.get n := by
        intro n hn
        rw [← hend, get_values_spread_of_settled rule k _ hn]
      rw [Function.iterate_succ_apply, next_restart hagree]
      exact ih _ hend

/-! ## Fronts that agree -/

/-- Two fronts have settled the same nodes, at the same values.  Elsewhere they may differ. -/
structure Agree (front front' : Front L α) : Prop where
  settled : front.settled = front'.settled
  values : ∀ n, front.settled.get n = true → front.values.get n = front'.values.get n

lemma Agree.next {front front' : Front L α} (h : Agree front front') (rule : Rule L α) :
    Agree (front.next rule) (front'.next rule) := by
  have haround := around_congr h.settled h.values
  refine ⟨Field.ext_get fun n => ?_, fun n hn => ?_⟩
  · rw [get_settled_next, get_settled_next, haround, h.settled]
  · rw [get_values_next, get_values_next, ← haround, ← h.settled]
    split_ifs with hs
    · exact h.values n hs
    · rw [get_settled_next, Bool.or_eq_true] at hn
      obtain ⟨a, ha⟩ := Option.isSome_iff_exists.mp (hn.resolve_left hs)
      rw [ha]
      rfl

/-- Fronts that agree go on to agree: neither reads what the other does not have. -/
theorem Agree.spread {front front' : Front L α} (h : Agree front front') (rule : Rule L α)
    (limit : ℕ) : Agree (front.spread rule limit) (front'.spread rule limit) := by
  induction limit generalizing front front' with
  | zero => exact h
  | succ limit ih =>
      rw [spread_succ, spread_succ]
      exact ih (h.next rule)

/-! ## How far a front gets -/

/-- A path from a source leads to the node in so many steps, through open nodes only. -/
def Reached (source : L.Node → Prop) (isOpen : L.Node → Prop) : ℕ → L.Node → Prop
  | 0, n => source n
  | limit + 1, n =>
    Reached source isOpen limit n ∨
      isOpen n ∧ ∃ m ∈ L.neighbors n, Reached source isOpen limit m

/-- Whether a node is reached can be decided by looking for paths. -/
@[reducible] def decidableReached {source isOpen : L.Node → Prop} [DecidablePred source]
    [DecidablePred isOpen] : ∀ limit, DecidablePred (Reached source isOpen limit)
  | 0, n => inferInstanceAs (Decidable (source n))
  | limit + 1, n =>
    have _ := @decidableReached source isOpen _ _ limit
    inferInstanceAs (Decidable (_ ∨ _ ∧ ∃ m ∈ L.neighbors n, _))

lemma reached_of_source {source isOpen : L.Node → Prop} {n : L.Node} (h : source n) (limit : ℕ) :
    Reached source isOpen limit n := by
  induction limit with
  | zero => exact h
  | succ limit ih => exact .inl ih

lemma around_ne_nil {front : Front L α} {n : L.Node} :
    front.around n ≠ [] ↔ ∃ m ∈ L.neighbors n, front.settled.get m = true := by
  constructor
  · intro h
    obtain ⟨a, ha⟩ := List.exists_mem_of_ne_nil _ h
    obtain ⟨m, hm, hma⟩ := List.mem_filterMap.mp ha
    split_ifs at hma with hs
    exact ⟨m, hm, hs⟩
  · rintro ⟨m, hm, hs⟩
    exact List.ne_nil_of_mem (List.mem_filterMap.mpr ⟨m, hm, if_pos hs⟩)

/-- What a front does not settle keeps its value. -/
theorem get_values_spread_of_not_settled (rule : Rule L α) (limit : ℕ) (front : Front L α)
    {n : L.Node} (h : (front.spread rule limit).settled.get n = false) :
    (front.spread rule limit).values.get n = front.values.get n := by
  induction limit generalizing front with
  | zero => rfl
  | succ limit ih =>
      rw [spread_succ] at h ⊢
      have hnext : (front.next rule).settled.get n = false := by
        by_contra hs
        rw [Bool.not_eq_false] at hs
        rw [settled_spread_of_settled rule limit _ hs] at h
        cases h
      rw [get_settled_next, Bool.or_eq_false_iff] at hnext
      have hnone : rule n (front.around n) = none := by simpa using hnext.2
      rw [ih _ h, get_values_next, if_neg (by simp [hnext.1]), hnone]
      rfl

/-- A node that its rule gives no value keeps the one it has. -/
theorem get_values_spread_of_refused {rule : Rule L α} {n : L.Node}
    (h : ∀ values, rule n values = none) (limit : ℕ) (front : Front L α) :
    (front.spread rule limit).values.get n = front.values.get n := by
  induction limit generalizing front with
  | zero => rfl
  | succ limit ih =>
      rw [spread_succ, ih, get_values_next, h, Option.getD_none, ite_self]

/-! ## What all values have in common -/

section Common

variable {P : α → Prop} {rule : Rule L α}
  (hrule : ∀ n values a, (∀ b ∈ values, P b) → rule n values = some a → P a)
include hrule

omit hrule in
lemma forall_mem_around {front : Front L α} (h : ∀ n, P (front.values.get n)) (n : L.Node) :
    ∀ b ∈ front.around n, P b := by
  intro b hb
  simp only [around, List.mem_filterMap] at hb
  obtain ⟨m, -, hm⟩ := hb
  split_ifs at hm
  exact Option.some.inj hm ▸ h m

/-- What a rule keeps is kept by spreading. -/
lemma forall_values_spread (limit : ℕ) {front : Front L α} (h : ∀ n, P (front.values.get n))
    (n : L.Node) : P ((spread rule limit front).values.get n) := by
  rw [spread_eq_iterate]
  induction limit generalizing front with
  | zero => exact h n
  | succ limit ih =>
      rw [Function.iterate_succ_apply]
      refine ih fun m => ?_
      rw [get_values_next]
      split_ifs
      · exact h m
      · cases hr : rule m (front.around m) with
        | none => exact h m
        | some a => exact hrule m _ a (forall_mem_around h m) hr

lemma forall_values_settle {front : Front L α} (h : ∀ n, P (front.values.get n)) (m n : L.Node) :
    P ((front.settle rule m).values.get n) := by
  rw [settle]
  split_ifs
  · exact h n
  · cases hr : rule m (front.around m) with
    | none => exact h n
    | some a =>
        show P ((Field.put front.values m a).get n)
        rw [Field.get_put]
        split_ifs
        · exact hrule m _ a (forall_mem_around h m) hr
        · exact h n

end Common

/-- What a rule keeps of settled values is kept by spreading, also where it depends on the node. -/
theorem forall_settled_spread {P : L.Node → α → Prop} {rule : Rule L α}
    (hrule : ∀ n values a, (∀ b ∈ values, ∃ m, P m b) → rule n values = some a → P n a)
    (limit : ℕ) {front : Front L α}
    (h : ∀ n, front.settled.get n = true → P n (front.values.get n)) (n : L.Node)
    (hn : (spread rule limit front).settled.get n = true) :
    P n ((spread rule limit front).values.get n) := by
  induction limit generalizing front with
  | zero => exact h n hn
  | succ limit ih =>
      rw [spread_succ] at hn ⊢
      refine ih (fun m hm => ?_) hn
      rw [get_settled_next, Bool.or_eq_true] at hm
      rw [get_values_next]
      split_ifs with hs
      · exact h m hs
      · obtain ⟨a, ha⟩ := Option.isSome_iff_exists.mp (hm.resolve_left hs)
        rw [ha]
        refine hrule m _ a (fun b hb => ?_) ha
        obtain ⟨k, -, hk⟩ := List.mem_filterMap.mp hb
        split_ifs at hk with hsettled
        exact ⟨k, Option.some.inj hk ▸ h k hsettled⟩

lemma forall_mem_around_of_settled {P : α → Prop} {front : Front L α}
    (h : ∀ n, front.settled.get n = true → P (front.values.get n)) (n : L.Node) :
    ∀ b ∈ front.around n, P b := by
  intro b hb
  obtain ⟨m, -, hm⟩ := List.mem_filterMap.mp hb
  split_ifs at hm with hs
  exact Option.some.inj hm ▸ h m hs

/-- Where open nodes take a value from whatever they see of values that count, and others none, a
front that starts with such values settles what it can reach. -/
theorem settled_spread_iff_of_forall {P : α → Prop} {rule : Rule L α} {isOpen : L.Node → Prop}
    (hrule : ∀ n values, (∀ b ∈ values, P b) →
      ((rule n values).isSome = true ↔ isOpen n ∧ values ≠ []))
    (hkeep : ∀ n values a, (∀ b ∈ values, P b) → rule n values = some a → P a)
    (limit : ℕ) {front : Front L α}
    (hfront : ∀ n, front.settled.get n = true → P (front.values.get n)) (n : L.Node) :
    (front.spread rule limit).settled.get n = true ↔
      Reached (fun m => front.settled.get m = true) isOpen limit n := by
  induction limit generalizing n with
  | zero => exact Iff.rfl
  | succ limit ih =>
      have hvalues : ∀ n, (front.spread rule limit).settled.get n = true →
          P ((front.spread rule limit).values.get n) :=
        forall_settled_spread (P := fun _ => P)
          (fun n values a hvalues => hkeep n values a fun b hb => (hvalues b hb).choose_spec)
          limit hfront
      have hspread : front.spread rule (limit + 1) = (front.spread rule limit).next rule := by
        rw [spread_eq_iterate, spread_eq_iterate, Function.iterate_succ_apply']
      rw [hspread, get_settled_next, Bool.or_eq_true,
        hrule n _ (forall_mem_around_of_settled hvalues n), around_ne_nil]
      simp only [ih, Reached]

/-- Where open nodes take a value from whatever they see, and others none, a front settles what it
can reach. -/
theorem settled_spread_iff {rule : Rule L α} {isOpen : L.Node → Prop}
    (hrule : ∀ n values, (rule n values).isSome = true ↔ isOpen n ∧ values ≠ []) (limit : ℕ)
    (front : Front L α) (n : L.Node) :
    (front.spread rule limit).settled.get n = true ↔
      Reached (fun m => front.settled.get m = true) isOpen limit n :=
  settled_spread_iff_of_forall (P := fun _ => True) (fun n values _ => hrule n values)
    (fun _ _ _ _ _ => trivial) limit (fun _ _ => trivial) n

/-! ## One node at a time -/

lemma get_values_settle_of_settled (rule : Rule L α) (front : Front L α) (m : L.Node) {n : L.Node}
    (h : front.settled.get n = true) : (front.settle rule m).values.get n = front.values.get n := by
  rw [settle]
  split_ifs with hm
  · rfl
  · cases rule m (front.around m) with
    | none => rfl
    | some a =>
        refine Field.get_put_of_ne _ _ ?_
        rintro rfl
        exact hm h

lemma get_values_settle_of_refused {rule : Rule L α} {n : L.Node}
    (h : ∀ values, rule n values = none) (front : Front L α) (m : L.Node) :
    (front.settle rule m).values.get n = front.values.get n := by
  rw [settle]
  split_ifs
  · rfl
  · cases hm : rule m (front.around m) with
    | none => rfl
    | some a =>
        refine Field.get_put_of_ne _ _ ?_
        rintro rfl
        rw [h] at hm
        cases hm

lemma settled_settle_of_settled (rule : Rule L α) (front : Front L α) (m : L.Node) {n : L.Node}
    (h : front.settled.get n = true) : (front.settle rule m).settled.get n = true := by
  rw [settle]
  split_ifs with hm
  · exact h
  · cases rule m (front.around m) with
    | none => exact h
    | some a =>
        show (Field.put front.settled m true).get n = true
        rw [Field.get_put, h, ite_self]

/-- What is not settled keeps its value. -/
lemma get_values_settle_of_not_settled (rule : Rule L α) (front : Front L α) {m n : L.Node}
    (h : (front.settle rule m).settled.get n = false) :
    (front.settle rule m).values.get n = front.values.get n := by
  rw [settle] at h ⊢
  split_ifs at h ⊢
  · rfl
  · cases hr : rule m (front.around m) with
    | none => rfl
    | some a =>
        rw [hr] at h
        refine Field.get_put_of_ne _ _ ?_
        rintro rfl
        rw [Field.get_put_self] at h
        cases h

/-- Where open nodes take a value from whatever they see, and others none, the settled nodes alone
tell whether one more is settled. -/
lemma settled_settle_iff {rule : Rule L α} {isOpen : L.Node → Prop}
    (hrule : ∀ n values, (rule n values).isSome = true ↔ isOpen n ∧ values ≠ [])
    (front : Front L α) (m n : L.Node) :
    (front.settle rule m).settled.get n = true ↔
      front.settled.get n = true ∨
        m = n ∧ isOpen m ∧ ∃ k ∈ L.neighbors m, front.settled.get k = true := by
  rw [← around_ne_nil, ← hrule, settle]
  split_ifs with hm
  · refine ⟨.inl, fun h => h.elim id ?_⟩
    rintro ⟨rfl, -⟩
    exact hm
  · cases hr : rule m (front.around m) with
    | none => simp
    | some a =>
        show (Field.put front.settled m true).get n = true ↔ _
        rw [Field.get_put, Option.isSome_some]
        split_ifs with hmn <;> simp [hmn]

lemma Agree.settle {front front' : Front L α} (h : Agree front front') (rule : Rule L α)
    (m : L.Node) : Agree (front.settle rule m) (front'.settle rule m) := by
  have haround := around_congr h.settled h.values m
  rw [Front.settle, Front.settle, ← haround, ← h.settled]
  split_ifs with hm
  · exact h
  · cases hr : rule m (front.around m) with
    | none => exact h
    | some a =>
        refine ⟨rfl, fun n hn => ?_⟩
        show (Field.put front.values m a).get n = (Field.put front'.values m a).get n
        rw [Field.get_put, Field.get_put]
        split_ifs with hmn
        · rfl
        · exact h.values n (by rwa [Field.get_put_of_ne _ _ hmn] at hn)

/-- What a rule keeps of settled values is kept when one more is settled. -/
lemma forall_settled_settle {P : α → Prop} {rule : Rule L α}
    (hrule : ∀ n values a, (∀ b ∈ values, P b) → rule n values = some a → P a)
    {front : Front L α} (h : ∀ n, front.settled.get n = true → P (front.values.get n))
    (m n : L.Node) (hn : (front.settle rule m).settled.get n = true) :
    P ((front.settle rule m).values.get n) := by
  rw [settle] at hn ⊢
  split_ifs at hn ⊢
  · exact h n hn
  · cases hr : rule m (front.around m) with
    | none =>
        rw [hr] at hn
        exact h n hn
    | some a =>
        rw [hr] at hn
        show P ((Field.put front.values m a).get n)
        rw [Field.get_put]
        split_ifs with hmn
        · exact hrule m _ a (forall_mem_around_of_settled h m) hr
        · exact h n (by rwa [Field.get_put_of_ne _ _ hmn] at hn)

end Front

end FreeSurface

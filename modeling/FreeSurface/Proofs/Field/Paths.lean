import Mathlib.Data.Fintype.Card
import FreeSurface.Proofs.Field.Front
import FreeSurface.Proofs.Lattice.Steps

/-!
# Fronts and paths

A front settles the nodes in the order of their distance: a layer holds the nodes whose shortest
path from the start has one length, and each of them takes its value from the nodes one step nearer.

* `Front.AtDistance` — the length of the shortest path from a source through open nodes.
* `Front.rule_atDistance` — **the value of a node is what its rule makes of the final values around
  it that are one step nearer**.
* `Front.nextLayer_spread_eq_nil` — as many layers as there are nodes leave nothing to settle.
* `Front.atDistance_iff_steps` — where every node is open, the shortest path from a source has as
  many steps as lead to the nearest one.
-/

namespace FreeSurface

namespace Front

variable {L : Lattice} {α : Type} {source isOpen : L.Node → Prop} {k : ℕ} {n m : L.Node}

/-! ## Distances -/

/-- The shortest path from a source to the node, through open nodes only, has so many steps. -/
def AtDistance (source isOpen : L.Node → Prop) : ℕ → L.Node → Prop
  | 0, n => source n
  | k + 1, n => Reached source isOpen (k + 1) n ∧ ¬Reached source isOpen k n

/-- A distance can be decided. -/
@[reducible] def decidableAtDistance [DecidablePred source] [DecidablePred isOpen] :
    ∀ k, DecidablePred (AtDistance source isOpen k)
  | 0, n => inferInstanceAs (Decidable (source n))
  | k + 1, n =>
    have _ := @decidableReached L source isOpen _ _
    inferInstanceAs (Decidable (Reached source isOpen (k + 1) n ∧ ¬Reached source isOpen k n))

lemma Reached.mono (h : Reached source isOpen k n) {limit : ℕ} (hle : k ≤ limit) :
    Reached source isOpen limit n := by
  induction limit, hle using Nat.le_induction with
  | base => exact h
  | succ limit _ ih => exact .inl ih

lemma AtDistance.reached (h : AtDistance source isOpen k n) : Reached source isOpen k n := by
  cases k with
  | zero => exact h
  | succ k => exact h.1

lemma AtDistance.le (h : AtDistance source isOpen k n) {limit : ℕ}
    (hn : Reached source isOpen limit n) : k ≤ limit := by
  cases k with
  | zero => exact Nat.zero_le _
  | succ k =>
      by_contra hlt
      exact h.2 (hn.mono (by omega))

/-- What can be reached has a distance. -/
lemma Reached.exists_atDistance (h : Reached source isOpen k n) :
    ∃ j ≤ k, AtDistance source isOpen j n := by
  induction k with
  | zero => exact ⟨0, le_rfl, h⟩
  | succ k ih =>
      by_cases hk : Reached source isOpen k n
      · obtain ⟨j, hj, hn⟩ := ih hk
        exact ⟨j, hj.trans (Nat.le_succ k), hn⟩
      · exact ⟨k + 1, le_rfl, h, hk⟩

/-- Of the nodes around a node those that can be reached before it are one step nearer. -/
lemma AtDistance.reached_iff (h : AtDistance source isOpen (k + 1) n) (hm : m ∈ L.neighbors n) :
    Reached source isOpen k m ↔ AtDistance source isOpen k m := by
  obtain ⟨hreached, hnot⟩ := h
  have hn : isOpen n := (hreached.resolve_left hnot).1
  cases k with
  | zero => exact Iff.rfl
  | succ k => exact ⟨fun hk => ⟨hk, fun hbefore => hnot (.inr ⟨hn, m, hm, hbefore⟩)⟩, And.left⟩

/-- **Where every node is open, a node is reached in as many steps as lead to it from a source.** -/
theorem reached_iff_steps :
    Reached source (fun _ => True) k n ↔ ∃ m, source m ∧ L.steps n m ≤ k := by
  induction k generalizing n with
  | zero =>
      simp only [Reached, Nat.le_zero, Lattice.steps_eq_zero_iff]
      constructor
      · intro h
        exact ⟨n, h, rfl⟩
      · rintro ⟨m, hm, rfl⟩
        exact hm
  | succ k ih =>
      simp only [Reached, ih, true_and]
      constructor
      · rintro (⟨m, hm, hle⟩ | ⟨n', hn', m, hm, hle⟩)
        · exact ⟨m, hm, hle.trans (Nat.le_succ _)⟩
        · exact ⟨m, hm, (Lattice.steps_le hn' m).trans (Nat.succ_le_succ hle)⟩
      · rintro ⟨m, hm, hle⟩
        by_cases hnm : n = m
        · subst hnm
          exact .inl ⟨n, hm, by rw [Lattice.steps_eq_zero_iff.mpr rfl]; exact Nat.zero_le _⟩
        · obtain ⟨n', hn', hsteps, -⟩ := Lattice.exists_toward hnm
          exact .inr ⟨n', hn', m, hm, by omega⟩

/-- Where every node is open, the distance is the number of steps from the nearest source. -/
lemma atDistance_iff_steps : AtDistance source (fun _ => True) k n ↔
    (∃ m, source m ∧ L.steps n m = k) ∧ ∀ m, source m → k ≤ L.steps n m := by
  constructor
  · intro h
    have hle : ∀ m, source m → k ≤ L.steps n m := fun m hm =>
      h.le (reached_iff_steps.mpr ⟨m, hm, le_rfl⟩)
    obtain ⟨m, hm, hk⟩ := reached_iff_steps.mp h.reached
    exact ⟨⟨m, hm, hk.antisymm (hle m hm)⟩, hle⟩
  · rintro ⟨⟨m, hm, rfl⟩, hle⟩
    obtain ⟨j, hj, hn⟩ := (reached_iff_steps.mpr ⟨m, hm, le_rfl⟩ :
      Reached source (fun _ => True) (L.steps n m) n).exists_atDistance
    obtain ⟨m', hm', hsteps⟩ := reached_iff_steps.mp hn.reached
    obtain rfl : j = L.steps n m := hj.antisymm ((hle m' hm').trans hsteps)
    exact hn

/-- A source at the distance of a node is at the distance of a node around it that is nearer. -/
lemma AtDistance.steps_eq_iff (h : AtDistance source (fun _ => True) (k + 1) n) {o : L.Node}
    (ho : source o) : L.steps n o = k + 1 ↔
      ∃ m ∈ L.neighbors n, AtDistance source (fun _ => True) k m ∧ L.steps m o = k := by
  have hfar := (atDistance_iff_steps.mp h).2
  constructor
  · intro hsteps
    have hne : n ≠ o := fun heq => by
      rw [Lattice.steps_eq_zero_iff.mpr heq] at hsteps
      exact Nat.succ_ne_zero k hsteps.symm
    obtain ⟨m, hm, htoward, -⟩ := Lattice.exists_toward hne
    refine ⟨m, hm, atDistance_iff_steps.mpr ⟨⟨o, ho, by omega⟩, fun o' ho' => ?_⟩, by omega⟩
    have := Lattice.steps_le hm o'
    have := hfar o' ho'
    omega
  · rintro ⟨m, hm, -, hsteps⟩
    have := Lattice.steps_le hm o
    have := hfar o ho
    omega

/-! ## Values -/

lemma spread_add (rule : Rule L α) (j k : ℕ) (front : Front L α) :
    front.spread rule (j + k) = (front.spread rule j).spread rule k := by
  simp only [spread_eq_iterate, ← Function.iterate_add_apply, Nat.add_comm]

/-- What is settled at some time keeps its value to the end. -/
lemma get_values_spread_of_settled_earlier (rule : Rule L α) (front : Front L α) {j limit : ℕ}
    (hj : j ≤ limit) (h : (front.spread rule j).settled.get n = true) :
    (front.spread rule limit).values.get n = (front.spread rule j).values.get n := by
  obtain ⟨k, rfl⟩ := Nat.exists_eq_add_of_le hj
  rw [spread_add]
  exact get_values_spread_of_settled rule k _ h

section Rule

variable {P : α → Prop} {rule : Rule L α} {front : Front L α}
  (hrule : ∀ n values, (∀ b ∈ values, P b) →
    ((rule n values).isSome = true ↔ isOpen n ∧ values ≠ []))
  (hkeep : ∀ n values a, (∀ b ∈ values, P b) → rule n values = some a → P a)
  (hfront : ∀ n, front.settled.get n = true → P (front.values.get n))
include hrule hkeep hfront

/-- **The value of a node is what its rule makes of the final values one step nearer.** -/
theorem rule_atDistance {limit : ℕ} (hk : k < limit)
    [DecidablePred (AtDistance (fun m => front.settled.get m = true) isOpen k)]
    (hn : AtDistance (fun m => front.settled.get m = true) isOpen (k + 1) n) :
    rule n (((L.neighbors n).filter
        (AtDistance (fun m => front.settled.get m = true) isOpen k ·)).map
          (front.spread rule limit).values.get) =
      some ((front.spread rule limit).values.get n) := by
  have hsettled := fun j m => settled_spread_iff_of_forall hrule hkeep j hfront m
  have hspread : front.spread rule (k + 1) = (front.spread rule k).next rule := by
    rw [spread_eq_iterate, spread_eq_iterate, Function.iterate_succ_apply']
  -- When the node is settled, it sees what is one step nearer, and that has its final value.
  have haround : (front.spread rule k).around n = ((L.neighbors n).filter
      (AtDistance (fun m => front.settled.get m = true) isOpen k ·)).map
        (front.spread rule limit).values.get := by
    rw [around, ← List.filterMap_eq_map, List.filterMap_filter]
    refine List.filterMap_congr fun m hm => ?_
    have hiff := (hsettled k m).trans (hn.reached_iff hm)
    simp only [decide_eq_true_eq, ← hiff, Function.comp_apply]
    split_ifs with hs
    · rw [get_values_spread_of_settled_earlier rule front hk.le hs]
    · rfl
  have hnow : (front.spread rule k).settled.get n = false := by
    rw [← Bool.not_eq_true, hsettled]
    exact hn.2
  have hthen : (front.spread rule (k + 1)).settled.get n = true := (hsettled (k + 1) n).mpr hn.1
  rw [get_values_spread_of_settled_earlier rule front hk hthen, ← haround]
  rw [hspread, get_settled_next, hnow, Bool.false_or] at hthen
  obtain ⟨a, ha⟩ := Option.isSome_iff_exists.mp hthen
  rw [hspread, get_values_next, hnow, if_neg Bool.false_ne_true, ha, Option.getD_some]

end Rule

/-! ## The last layer -/

/-- The nodes that are not settled yet. -/
def unsettled (front : Front L α) : Finset L.Node :=
  Finset.univ.filter fun n => front.settled.get n = false

lemma card_unsettled_next_lt {rule : Rule L α} {front : Front L α}
    (h : front.nextLayer rule ≠ []) :
    (front.next rule).unsettled.card < front.unsettled.card := by
  obtain ⟨⟨n, a⟩, hn⟩ := List.exists_mem_of_ne_nil _ h
  obtain ⟨hs, hr⟩ := mem_nextLayer.mp hn
  refine Finset.card_lt_card (Finset.ssubset_iff_of_subset ?_ |>.mpr ⟨n, ?_, ?_⟩)
  · intro m hm
    simp only [unsettled, Finset.mem_filter_univ, get_settled_next, Bool.or_eq_false_iff] at hm ⊢
    exact hm.1
  · simpa only [unsettled, Finset.mem_filter_univ] using hs
  · simp [unsettled, get_settled_next, hr]

lemma nextLayer_spread_of_card_le {rule : Rule L α} {limit : ℕ} {front : Front L α}
    (h : front.unsettled.card ≤ limit) : (front.spread rule limit).nextLayer rule = [] := by
  induction limit generalizing front with
  | zero =>
      rw [spread]
      by_contra hne
      exact absurd (card_unsettled_next_lt hne) (by omega)
  | succ limit ih =>
      by_cases hne : front.nextLayer rule = []
      · rw [spread]
        simp only [hne]
      · rw [spread_succ]
        have := card_unsettled_next_lt hne
        exact ih (by omega)

/-- **As many layers as there are nodes leave nothing to settle.** -/
theorem nextLayer_spread_eq_nil (rule : Rule L α) {limit : ℕ} (h : L.size ≤ limit)
    (front : Front L α) : (front.spread rule limit).nextLayer rule = [] := by
  refine nextLayer_spread_of_card_le (le_trans ?_ h)
  exact (Finset.card_le_univ _).trans_eq (Fintype.card_fin _)

end Front

end FreeSurface

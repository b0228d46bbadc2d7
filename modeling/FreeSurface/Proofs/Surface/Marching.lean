import FreeSurface.Proofs.Field.Basic
import FreeSurface.Proofs.Lattice.Incidence
import FreeSurface.Proofs.Surface.Eikonal
import FreeSurface.Surface.Marching

/-!
# Turns of a march

A march repeats one turn until no cell waits: it takes the nearest waiting cell and either passes it
over or accepts it.  Here a turn becomes a relation (`Marching.Turn`) that says all it can do, and
the march a sequence of turns (`Marching.exists_turns`), so that what one turn keeps holds at the
end.

* `Marching.allowed`, `Marching.Improves` — what an accepted cell offers its neighbours.
* `Marching.get_dist_accept`, `Marching.mem_queue_accept` — accepting a cell makes all its offers at
  once, since an offer only reads the distances of accepted cells and only lowers those of others.
* `Marching.get_dist_start`, `Marching.mem_queue_start` — how a march begins.
* `Marching.exists_turns` — **a march ends**: every turn takes a waiting cell away or, for at most
  six new ones, a cell that was not accepted yet.
-/

namespace FreeSurface

namespace Surface

namespace Marching

variable {d : Dims} {S : Type} [Scalar S] {active : d.Cell → Bool} {phi : ScalarField d S}
  {dist dist' : ScalarField d S} {accepted : Field d.cells Bool} {m m' : Marching d S}
  {t u : Trial d S} {rest : List (Trial d S)} {c n : d.Cell} {k : ℕ}

lemma perm_enqueue (t : Trial d S) (queue : List (Trial d S)) :
    (enqueue t queue).Perm (t :: queue) := by
  induction queue with
  | nil => exact .refl _
  | cons u queue ih =>
      rw [enqueue]
      split_ifs
      · exact .refl _
      · exact (ih.cons u).trans (.swap t u queue)

lemma mem_enqueue {queue : List (Trial d S)} : u ∈ enqueue t queue ↔ u = t ∨ u ∈ queue := by
  rw [(perm_enqueue t queue).mem_iff, List.mem_cons]

/-! ## Offers -/

/-- The distance that the accepted cells around a cell allow. -/
def allowed (dist : ScalarField d S) (accepted : Field d.cells Bool) (n : d.Cell) : S :=
  solveEikonal (leastAlong dist (accepted.get ·) n .x) (leastAlong dist (accepted.get ·) n .y)
    (leastAlong dist (accepted.get ·) n .z)

/-- The cell still takes part, and the distance it is allowed is less than the one it has. -/
def Improves (active : d.Cell → Bool) (accepted : Field d.cells Bool) (dist : ScalarField d S)
    (n : d.Cell) : Prop :=
  accepted.get n = false ∧ active n = true ∧ allowed dist accepted n < dist.get n

instance : Decidable (Improves active accepted dist n) :=
  inferInstanceAs (Decidable (_ ∧ _ ∧ _))

lemma allowed_congr (h : ∀ c, accepted.get c = true → dist.get c = dist'.get c) (n : d.Cell) :
    allowed dist accepted n = allowed dist' accepted n := by
  simp only [allowed, leastAlong_congr (fun _ _ => rfl) h]

lemma improves_congr (h : ∀ c, accepted.get c = true → dist.get c = dist'.get c)
    (hn : dist.get n = dist'.get n) :
    Improves active accepted dist n ↔ Improves active accepted dist' n := by
  rw [Improves, Improves, allowed_congr h, hn]

lemma offer_eq (s : ScalarField d S × List (Trial d S)) (n : d.Cell) :
    offer accepted active s n =
      if Improves active accepted s.1 n then
        (Field.put s.1 n (allowed s.1 accepted n), enqueue ⟨allowed s.1 accepted n, n⟩ s.2)
      else s := by
  show (if accepted.get n || !active n then s
    else if allowed s.1 accepted n < s.1.get n then
      (Field.put s.1 n (allowed s.1 accepted n), enqueue ⟨allowed s.1 accepted n, n⟩ s.2)
    else s) = _
  simp only [Bool.or_eq_true, Bool.not_eq_true']
  split_ifs with hout himproves hlt himproves himproves
  · rcases hout with haccepted | hactive
    · rw [himproves.1] at haccepted
      cases haccepted
    · rw [himproves.2.1] at hactive
      cases hactive
  · rfl
  · rfl
  · rw [not_or, Bool.not_eq_true, Bool.not_eq_false] at hout
    exact absurd ⟨hout.1, hout.2, hlt⟩ himproves
  · exact absurd himproves.2.2 hlt
  · rfl

section Offers

variable {s : ScalarField d S × List (Trial d S)} {cells : List d.Cell}

lemma get_offer_of_ne (accepted : Field d.cells Bool) (active : d.Cell → Bool)
    (s : ScalarField d S × List (Trial d S)) (h : c ≠ n) :
    (offer accepted active s n).1.get c = s.1.get c := by
  rw [offer_eq]
  split_ifs
  · exact Field.get_put_of_ne _ _ h.symm
  · rfl

/-- The distances of accepted cells stand. -/
lemma get_offer_of_accepted (active : d.Cell → Bool) (s : ScalarField d S × List (Trial d S))
    (n : d.Cell) (hc : accepted.get c = true) :
    (offer accepted active s n).1.get c = s.1.get c := by
  by_cases hcn : c = n
  · subst hcn
    rw [offer_eq, if_neg fun h => by rw [h.1] at hc; cases hc]
  · exact get_offer_of_ne accepted active s hcn

/-- **Offers to different cells do not disturb each other.** -/
lemma get_foldl_offer (hcells : cells.Nodup) (s : ScalarField d S × List (Trial d S))
    (c : d.Cell) :
    (cells.foldl (offer accepted active) s).1.get c =
      if c ∈ cells ∧ Improves active accepted s.1 c then allowed s.1 accepted c
      else s.1.get c := by
  induction cells generalizing s with
  | nil =>
      rw [if_neg fun h => List.not_mem_nil h.1]
      rfl
  | cons n cells ih =>
      obtain ⟨hn, hcells⟩ := List.nodup_cons.mp hcells
      rw [List.foldl_cons, ih hcells]
      by_cases hc : c = n
      · subst hc
        simp only [hn, false_and, if_false, List.mem_cons_self, true_and]
        rw [offer_eq]
        split_ifs
        · exact Field.get_put_self _ _ _
        · rfl
      · have hget := get_offer_of_ne accepted active s hc
        simp only [List.mem_cons, hc, false_or, hget,
          allowed_congr (fun c => get_offer_of_accepted active s n),
          improves_congr (fun c => get_offer_of_accepted active s n) hget]

lemma mem_offer (s : ScalarField d S × List (Trial d S)) (n : d.Cell) (t : Trial d S) :
    t ∈ (offer accepted active s n).2 ↔
      t ∈ s.2 ∨ t.cell = n ∧ Improves active accepted s.1 t.cell ∧
        t.distance = allowed s.1 accepted t.cell := by
  rw [offer_eq]
  split_ifs with h
  · rw [mem_enqueue, or_comm]
    refine or_congr_right ⟨?_, ?_⟩
    · rintro rfl
      exact ⟨rfl, h, rfl⟩
    · rintro ⟨rfl, -, hdistance⟩
      rw [← hdistance]
  · refine ⟨.inl, fun ht => ht.resolve_right ?_⟩
    rintro ⟨rfl, himproves, -⟩
    exact h himproves

lemma mem_foldl_offer (hcells : cells.Nodup) (s : ScalarField d S × List (Trial d S))
    (t : Trial d S) :
    t ∈ (cells.foldl (offer accepted active) s).2 ↔
      t ∈ s.2 ∨ t.cell ∈ cells ∧ Improves active accepted s.1 t.cell ∧
        t.distance = allowed s.1 accepted t.cell := by
  induction cells generalizing s with
  | nil => simp
  | cons n cells ih =>
      obtain ⟨hn, hcells⟩ := List.nodup_cons.mp hcells
      rw [List.foldl_cons, ih hcells, mem_offer, List.mem_cons, or_assoc, or_and_right]
      refine or_congr_right (or_congr_right (and_congr_right fun hmem => ?_))
      have hne : t.cell ≠ n := fun heq => hn (heq ▸ hmem)
      rw [allowed_congr (fun c => get_offer_of_accepted active s n),
        improves_congr (fun c => get_offer_of_accepted active s n) (get_offer_of_ne accepted active s hne)]

lemma length_foldl_offer (s : ScalarField d S × List (Trial d S)) :
    (cells.foldl (offer accepted active) s).2.length ≤ s.2.length + cells.length := by
  induction cells generalizing s with
  | nil => exact le_rfl
  | cons n cells ih =>
      refine (ih _).trans ?_
      have hone : (offer accepted active s n).2.length ≤ s.2.length + 1 := by
        rw [offer_eq]
        split_ifs
        · exact (perm_enqueue _ _).length_eq.le
        · exact Nat.le_succ _
      rw [List.length_cons]
      omega

end Offers

/-! ## Acceptance -/

/-- A cell that is accepted offers a neighbour a better distance. -/
def Offers (active : d.Cell → Bool) (m : Marching d S) (t : Trial d S) (n : d.Cell) : Prop :=
  ¬marchingLimit ≤ t.distance ∧ n ∈ d.cells.neighbors t.cell ∧
    Improves active (Field.put m.accepted t.cell true) m.dist n

instance (active : d.Cell → Bool) (m : Marching d S) (t : Trial d S) :
    DecidablePred (Offers active m t) := fun _ =>
  inferInstanceAs (Decidable (_ ∧ _ ∧ _))

/-- Below the limit all neighbours are offered what they are allowed, above it none is. -/
lemma accept_eq (active : d.Cell → Bool) (m : Marching d S) (t : Trial d S)
    (rest : List (Trial d S)) :
    ((m.accept active t rest).dist, (m.accept active t rest).queue) =
      if marchingLimit ≤ t.distance then (m.dist, rest)
      else (d.cells.neighbors t.cell).foldl (offer (Field.put m.accepted t.cell true) active)
        (m.dist, rest) := rfl

lemma get_dist_accept (m : Marching d S) (t : Trial d S) (rest : List (Trial d S)) (c : d.Cell) :
    (m.accept active t rest).dist.get c =
      if Offers active m t c then allowed m.dist (Field.put m.accepted t.cell true) c
      else m.dist.get c := by
  have heq := congrArg (fun s => s.1.get c) (accept_eq active m t rest)
  simp only at heq
  rw [heq]
  by_cases hlimit : marchingLimit ≤ t.distance
  · rw [if_pos hlimit, if_neg fun h => h.1 hlimit]
  · rw [if_neg hlimit, get_foldl_offer (d.cells.nodup_neighbors t.cell)]
    simp only [Offers, hlimit, not_false_eq_true, true_and]

lemma mem_queue_accept :
    u ∈ (m.accept active t rest).queue ↔ u ∈ rest ∨ Offers active m t u.cell ∧
      u.distance = allowed m.dist (Field.put m.accepted t.cell true) u.cell := by
  have heq := congrArg (fun s => u ∈ s.2) (accept_eq active m t rest)
  simp only at heq
  rw [heq]
  by_cases hlimit : marchingLimit ≤ t.distance
  · rw [if_pos hlimit]
    exact ⟨.inl, fun h => h.resolve_right fun hoffers => hoffers.1.1 hlimit⟩
  · rw [if_neg hlimit, mem_foldl_offer (d.cells.nodup_neighbors t.cell)]
    simp only [Offers, hlimit, not_false_eq_true, true_and, and_assoc]

/-- The cells that have been accepted, and this one. -/
lemma accepted_accept :
    (m.accept active t rest).accepted.get c = true ↔ t.cell = c ∨ m.accepted.get c = true := by
  show (Field.put m.accepted t.cell true).get c = true ↔ _
  rw [Field.get_put]
  split_ifs with h <;> simp [h]

/-- A distance that has been accepted stands. -/
lemma get_dist_accept_of_accepted (hc : (m.accept active t rest).accepted.get c = true) :
    (m.accept active t rest).dist.get c = m.dist.get c := by
  rw [get_dist_accept, if_neg]
  rintro ⟨-, -, haccepted, -⟩
  rw [show (Field.put m.accepted t.cell true).get c = true from hc] at haccepted
  cases haccepted

/-- At most six cells are offered a distance. -/
lemma length_queue_accept (active : d.Cell → Bool) (m : Marching d S) (t : Trial d S)
    (rest : List (Trial d S)) : (m.accept active t rest).queue.length ≤ rest.length + 6 := by
  have heq := congrArg (fun s => s.2.length) (accept_eq active m t rest)
  simp only at heq
  rw [heq]
  split_ifs
  · exact Nat.le_add_right _ 6
  · exact (length_foldl_offer _).trans
      (Nat.add_le_add_left (d.cells.length_neighbors_le t.cell) _)

/-! ## The start -/

/-- The distance at which a cell waits from the start on, if it does. -/
def seed? (phi : ScalarField d S) (active : d.Cell → Bool) (c : d.Cell) : Option S :=
  if active c then interfaceDistance? phi active c else none

/-- A march with one more cell that waits from the start on. -/
def sow (phi : ScalarField d S) (active : d.Cell → Bool) (m : Marching d S) (c : d.Cell) :
    Marching d S :=
  match seed? phi active c with
  | some s => { m with dist := Field.put m.dist c s, queue := enqueue ⟨s, c⟩ m.queue }
  | none => m

lemma start_eq : start phi active = d.cells.nodes.foldl (sow phi active)
    ⟨Field.constant d.cells Scalar.infinity, Field.constant d.cells false, [], []⟩ := by
  rw [start]
  congr 1
  funext m c
  rw [sow, seed?]
  split_ifs <;> rfl

section Start

variable {cells : List d.Cell}

lemma get_dist_foldl_sow (m : Marching d S) (c : d.Cell) :
    (cells.foldl (sow phi active) m).dist.get c =
      if c ∈ cells then (seed? phi active c).getD (m.dist.get c) else m.dist.get c := by
  induction cells generalizing m with
  | nil => rfl
  | cons n cells ih =>
      rw [List.foldl_cons, ih]
      by_cases hc : c = n
      · subst hc
        simp only [List.mem_cons_self, if_true, sow]
        cases hseed : seed? phi active c with
        | none => simp only [Option.getD_none, ite_self]
        | some s => simp only [Option.getD_some, Field.get_put_self, ite_self]
      · have hget : (sow phi active m n).dist.get c = m.dist.get c := by
          rw [sow]
          cases seed? phi active n with
          | none => rfl
          | some s => exact Field.get_put_of_ne _ _ (Ne.symm hc)
        simp only [List.mem_cons, hc, false_or, hget]

lemma mem_queue_sow (m : Marching d S) (n : d.Cell) (t : Trial d S) :
    t ∈ (sow phi active m n).queue ↔
      t ∈ m.queue ∨ t.cell = n ∧ seed? phi active t.cell = some t.distance := by
  rw [sow]
  cases hseed : seed? phi active n with
  | none =>
      refine ⟨.inl, fun h => h.resolve_right ?_⟩
      rintro ⟨rfl, hsome⟩
      rw [hseed] at hsome
      cases hsome
  | some s =>
      show t ∈ enqueue ⟨s, n⟩ m.queue ↔ _
      rw [mem_enqueue, or_comm]
      refine or_congr_right ⟨?_, ?_⟩
      · rintro rfl
        exact ⟨rfl, hseed⟩
      · rintro ⟨rfl, hsome⟩
        rw [hseed] at hsome
        rw [← Option.some.inj hsome.symm]

lemma mem_queue_foldl_sow (m : Marching d S) (t : Trial d S) :
    t ∈ (cells.foldl (sow phi active) m).queue ↔
      t ∈ m.queue ∨ t.cell ∈ cells ∧ seed? phi active t.cell = some t.distance := by
  induction cells generalizing m with
  | nil => simp
  | cons n cells ih =>
      rw [List.foldl_cons, ih, mem_queue_sow, List.mem_cons, or_assoc, or_and_right]

lemma length_queue_foldl_sow (m : Marching d S) :
    (cells.foldl (sow phi active) m).queue.length ≤ m.queue.length + cells.length := by
  induction cells generalizing m with
  | nil => exact le_rfl
  | cons n cells ih =>
      refine (ih _).trans ?_
      have hone : (sow phi active m n).queue.length ≤ m.queue.length + 1 := by
        rw [sow]
        cases seed? phi active n with
        | none => exact Nat.le_succ _
        | some s => exact (perm_enqueue _ _).length_eq.le
      rw [List.length_cons]
      omega

lemma accepted_foldl_sow (m : Marching d S) :
    (cells.foldl (sow phi active) m).accepted = m.accepted ∧
      (cells.foldl (sow phi active) m).order = m.order := by
  induction cells generalizing m with
  | nil => exact ⟨rfl, rfl⟩
  | cons n cells ih =>
      rw [List.foldl_cons, (ih _).1, (ih _).2, sow]
      cases seed? phi active n <;> exact ⟨rfl, rfl⟩

end Start

lemma get_dist_start (phi : ScalarField d S) (active : d.Cell → Bool) (c : d.Cell) :
    (start phi active).dist.get c = (seed? phi active c).getD Scalar.infinity := by
  rw [start_eq, get_dist_foldl_sow, if_pos (show c ∈ d.cells.nodes from List.mem_finRange c),
    Field.get_constant]

lemma mem_queue_start :
    t ∈ (start phi active).queue ↔ seed? phi active t.cell = some t.distance := by
  rw [start_eq, mem_queue_foldl_sow]
  simp [Lattice.nodes]

lemma length_queue_start (phi : ScalarField d S) (active : d.Cell → Bool) :
    (start phi active).queue.length ≤ d.cells.size := by
  rw [start_eq]
  refine (length_queue_foldl_sow _).trans_eq ?_
  rw [List.length_nil, Nat.zero_add, Lattice.nodes, List.length_finRange]

lemma accepted_start (c : d.Cell) : (start phi active).accepted.get c = false := by
  rw [start_eq, (accepted_foldl_sow _).1, Field.get_constant]

lemma order_start : (start phi active).order = [] := by
  rw [start_eq, (accepted_foldl_sow _).2]

/-! ## Turns -/

/-- What one turn of a march can do. -/
inductive Turn (active : d.Cell → Bool) (m : Marching d S) : Marching d S → Prop
  /-- The nearest cell that waits has been accepted before or has a better offer. -/
  | pass {t : Trial d S} {rest : List (Trial d S)} (hqueue : m.queue = t :: rest)
      (hstale : m.accepted.get t.cell = true ∨ m.dist.get t.cell < t.distance) :
      Turn active m { m with queue := rest }
  /-- The nearest cell that waits is accepted. -/
  | accept {t : Trial d S} {rest : List (Trial d S)} (hqueue : m.queue = t :: rest)
      (haccepted : m.accepted.get t.cell = false) (hdist : ¬m.dist.get t.cell < t.distance) :
      Turn active m (m.accept active t rest)

/-- So many turns lead from one state of a march to another. -/
inductive Turns (active : d.Cell → Bool) : ℕ → Marching d S → Marching d S → Prop
  | none (m : Marching d S) : Turns active 0 m m
  | more {k : ℕ} {m m' m'' : Marching d S} (hturn : Turn active m m')
      (hturns : Turns active k m' m'') : Turns active (k + 1) m m''

/-- What a turn keeps, turns keep. -/
lemma Turns.keep {P : Marching d S → Prop} (hkeep : ∀ {m m'}, P m → Turn active m m' → P m')
    (hturns : Turns active k m m') (h : P m) : P m' := by
  induction hturns with
  | none => exact h
  | more hturn _ ih => exact ih (hkeep h hturn)

/-- Each turn of a march is one of the kinds above. -/
lemma exists_turn (active : d.Cell → Bool) (h : m.queue ≠ []) :
    ∃ m', Turn active m m' ∧ run active m = run active m' := by
  obtain ⟨t, rest, hqueue⟩ := List.exists_cons_of_ne_nil h
  have hrun : run active m =
      if m.accepted.get t.cell = true then run active { m with queue := rest }
      else if m.dist.get t.cell < t.distance then run active { m with queue := rest }
      else run active (m.accept active t rest) := by
    rw [run]
    split
    · next hnil =>
        rw [hqueue] at hnil
        cases hnil
    · next hcons =>
        obtain ⟨rfl, rfl⟩ := List.cons.inj (hqueue.symm.trans hcons)
        simp only [dite_eq_ite]
  rw [hrun]
  split_ifs with haccepted hdist
  · exact ⟨_, .pass hqueue (.inl haccepted), rfl⟩
  · exact ⟨_, .pass hqueue (.inr hdist), rfl⟩
  · exact ⟨_, .accept hqueue (Bool.eq_false_iff.mpr haccepted) hdist, rfl⟩

lemma run_of_nil (h : m.queue = []) : run active m = m := by
  rw [run]
  split
  · rfl
  · next hcons =>
      rw [h] at hcons
      cases hcons

/-- A bound on the turns that are left. -/
def work (m : Marching d S) : ℕ := m.queue.length + 6 * m.accepted.count false

/-- A march starts with less than seven turns for each cell ahead of it. -/
lemma work_start_le : (start phi active).work ≤ 7 * d.cells.size := by
  have hlength := length_queue_start phi active
  have hcount : (start phi active).accepted.count false ≤ d.cells.size := Vector.count_le_size
  rw [work]
  omega

lemma Turn.work_lt (h : Turn active m m') : m'.work < m.work := by
  cases h with
  | pass hqueue hstale =>
      simp only [work, hqueue, List.length_cons]
      omega
  | accept hqueue haccepted hdist =>
      rename_i t rest
      have hcount := count_accept_lt m active t rest haccepted
      have hlength := length_queue_accept active m t rest
      simp only [work, hqueue, List.length_cons]
      omega

/-- **A march ends**: after a bounded number of turns no cell waits. -/
theorem exists_turns (active : d.Cell → Bool) (m : Marching d S) :
    ∃ k ≤ m.work, Turns active k m (run active m) ∧ (run active m).queue = [] := by
  induction hwork : m.work using Nat.strong_induction_on generalizing m with
  | _ w ih =>
      by_cases hqueue : m.queue = []
      · rw [run_of_nil hqueue]
        exact ⟨0, Nat.zero_le _, .none m, hqueue⟩
      · obtain ⟨m', hturn, hrun⟩ := exists_turn active hqueue
        obtain ⟨k, hk, hturns, hempty⟩ := ih m'.work (hwork ▸ hturn.work_lt) m' rfl
        rw [hrun]
        exact ⟨k + 1, hwork ▸ Nat.lt_of_le_of_lt hk hturn.work_lt, .more hturn hturns, hempty⟩

end Marching

end Surface

end FreeSurface

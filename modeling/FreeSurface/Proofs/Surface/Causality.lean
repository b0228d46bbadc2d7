import FreeSurface.Proofs.Surface.Acceptance
import FreeSurface.Proofs.Surface.Distance

/-!
# A march goes outwards

In exact arithmetic cells are accepted in the order of their final distance
(`Marching.order_run`).  What carries the argument is that no cell is offered less than the distance
that has just been accepted (`Marching.Advancing.le_allowed`): below that distance the accepted cell
makes no difference to the Eikonal equation, so an offer below it would solve the equation as it
stood before, and its solution had been offered already.

* `Marching.Advancing` — the invariant of a march.
* `Marching.Advancing.turn` — a turn keeps it.
-/

namespace FreeSurface

open scoped Literals

namespace Exact

protected lemma le_antisymm {a b : Exact} (hab : a ≤ b) (hba : b ≤ a) : a = b := by
  rcases hab with hab | ⟨rfl, -⟩
  · exact absurd hba (not_le_of_lt hab)
  · rfl

lemma IsLevel.le_posInf {a : Exact} (h : a.IsLevel) : a ≤ posInf := by
  rcases h with rfl | ⟨x, rfl⟩
  · exact Scalar.le_rfl_of_isNaN rfl
  · exact .inl (real_lt_posInf x)

lemma IsDistance.isNaN {a : Exact} (h : a.IsDistance) : Scalar.isNaN a = false := h.isLevel.isNaN

lemma IsDistance.le_rfl {a : Exact} (h : a.IsDistance) : a ≤ a := Scalar.le_rfl_of_isNaN h.isNaN

/-- Of two distances the first is at most the second, or the second is below the first. -/
lemma IsDistance.le_of_not_lt {a b : Exact} (ha : a.IsDistance) (hb : b.IsDistance)
    (h : ¬b < a) : a ≤ b := Exact.le_of_not_lt ha.isNaN hb.isNaN h

end Exact

namespace Surface

open Exact

variable {d : Dims} {dist : ScalarField d Exact} {known known' : d.Cell → Bool} {n c : d.Cell}
  {a : Axis}

/-! ## What a cell sees -/

lemma isDistance_solveEikonal {x y z : Exact} (hx : x.IsDistance) (hy : y.IsDistance)
    (hz : z.IsDistance) : (solveEikonal x y z).IsDistance := by
  rcases hx with rfl | hx
  · rcases hy with rfl | hy
    · rcases hz with rfl | hz
      · exact .inl solveEikonal_posInf
      · exact (isPositive_solveEikonal (.inl rfl) (.inl rfl) hz.isDistance
          (.inr (.inr hz.isFinite))).isDistance
    · exact (isPositive_solveEikonal (.inl rfl) hy.isDistance hz
        (.inr (.inl hy.isFinite))).isDistance
  · exact (isPositive_solveEikonal hx.isDistance hy hz (.inl hx.isFinite)).isDistance

/-- A number is found only from numbers, and then it solves the equation. -/
lemma solves_of_solveEikonal_eq {x y z : Exact} (hx : x.IsLevel) (hy : y.IsLevel) (hz : z.IsLevel)
    {r : ℝ} (h : solveEikonal x y z = real r) : Solves r [x, y, z] := by
  obtain hknown | ⟨rfl, rfl, rfl⟩ := exists_real_or_unknown hx hy hz
  · obtain ⟨s, hs, hsolves⟩ := solves_solveEikonal hx hy hz hknown
    rwa [← real_injective (hs.symm.trans h)]
  · rw [solveEikonal_posInf] at h
    cases h

section Levels

variable (h : ∀ c, (dist.get c).IsDistance)
include h

lemma isDistance_leastAlong (known : d.Cell → Bool) (c : d.Cell) (a : Axis) :
    (leastAlong dist known c a).IsDistance :=
  Marching.leastAlong_of_forall (.inl rfl) h known c a

/-- What is at most every known distance along an axis. -/
lemma le_leastAlong_iff {x : Exact} (hx : x.IsLevel) :
    x ≤ leastAlong dist known c a ↔
      ∀ n ∈ d.cells.neighborsAlong (d.cells.coords c) a, known n = true → x ≤ dist.get n := by
  rw [leastAlong_eq, Scalar.le_foldl_min_iff rfl]
  · simp only [List.forall_mem_map, List.mem_filter, and_imp]
    exact and_iff_right hx.le_posInf
  · simp only [List.forall_mem_map]
    exact fun n _ => (h n).isNaN

lemma leastAlong_le (hn : n ∈ d.cells.neighborsAlong (d.cells.coords c) a)
    (hknown : known n = true) : leastAlong dist known c a ≤ dist.get n := by
  have hleast := isDistance_leastAlong h known c a
  exact (le_leastAlong_iff h hleast.isLevel).mp hleast.le_rfl n hn hknown

/-- Knowing more lowers the least known distance, but not below what has become known. -/
lemma leastAlong_of_known (hknown : ∀ n, known n = true → known' n = true) {x : Exact}
    (hx : x.IsDistance) (hnew : ∀ n, known' n = true → known n = true ∨ x ≤ dist.get n) :
    leastAlong dist known' c a = leastAlong dist known c a ∨
      x ≤ leastAlong dist known' c a ∧ x ≤ leastAlong dist known c a := by
  have hold := isDistance_leastAlong h known c a
  have hnow := isDistance_leastAlong h known' c a
  have hle : leastAlong dist known' c a ≤ leastAlong dist known c a :=
    (le_leastAlong_iff h hnow.isLevel).mpr fun n hn hk => leastAlong_le h hn (hknown n hk)
  have hmin : Scalar.min (leastAlong dist known c a) x ≤ leastAlong dist known' c a := by
    refine (le_leastAlong_iff h (hold.min hx).isLevel).mpr fun n hn hk => ?_
    obtain ⟨hleft, hright⟩ := (Scalar.le_min_iff hold.isNaN hx.isNaN).mp (hold.min hx).le_rfl
    rcases hnew n hk with hk | hxn
    · exact Exact.le_trans hleft (leastAlong_le h hn hk)
    · exact Exact.le_trans hright hxn
  rw [Scalar.min, if_neg (by rw [hold.isNaN]; exact Bool.false_ne_true)] at hmin
  split_ifs at hmin
  · exact .inr ⟨hmin, Exact.le_trans hmin hle⟩
  · exact .inl (Exact.le_antisymm hle hmin)

end Levels

namespace Marching

variable {active : d.Cell → Bool} {phi : ScalarField d Exact} {m m' : Marching d Exact}
  {t u : Trial d Exact} {rest : List (Trial d Exact)} {accepted accepted' : Field d.cells Bool}

lemma isDistance_allowed (h : ∀ c, (dist.get c).IsDistance) (accepted : Field d.cells Bool)
    (n : d.Cell) : (allowed dist accepted n).IsDistance :=
  allowed_of_forall (.inl rfl) (fun _ _ _ => isDistance_solveEikonal) h accepted n

/-! ## Offers below an accepted distance -/

/-- **Cells that have become known make no difference to what lies below them.** -/
lemma allowed_eq_of_lt (h : ∀ c, (dist.get c).IsDistance)
    (hknown : ∀ c, accepted.get c = true → accepted'.get c = true) {x : Exact} (hx : x.IsDistance)
    (hnew : ∀ c, accepted'.get c = true → accepted.get c = true ∨ x ≤ dist.get c)
    (hlt : allowed dist accepted' n < x) : allowed dist accepted' n = allowed dist accepted n := by
  have hlevel := fun accepted : Field d.cells Bool => fun a =>
    (isDistance_leastAlong h (accepted.get ·) n a).isLevel
  obtain ⟨r, hr⟩ : ∃ r, allowed dist accepted' n = real r := by
    rcases isDistance_allowed h accepted' n with hinfinite | ⟨r, -, hr⟩
    · rw [hinfinite] at hlt
      exact absurd hlt (not_posInf_lt x)
    · exact ⟨r, hr⟩
  have hrise : ∀ a, rise r (leastAlong dist (accepted'.get ·) n a) =
      rise r (leastAlong dist (accepted.get ·) n a) := by
    intro a
    have hbelow : ∀ {y : Exact}, x ≤ y → ¬y < real r := fun hxy hyr =>
      not_le_of_lt (Exact.lt_trans hyr (hr ▸ hlt)) hxy
    rcases leastAlong_of_known (c := n) (a := a) h hknown hx hnew with heq | ⟨hnow, hold⟩
    · rw [heq]
    · rw [rise_of_not_lt (hbelow hnow), rise_of_not_lt (hbelow hold)]
  have hsolves := solves_of_solveEikonal_eq (hlevel accepted' .x) (hlevel accepted' .y)
    (hlevel accepted' .z) hr
  simp only [Solves, List.map_cons, List.map_nil, hrise] at hsolves
  rw [hr, allowed, Solves.solveEikonal_eq hsolves (hlevel accepted .x) (hlevel accepted .y)
    (hlevel accepted .z)]

/-! ## The queue -/

/-- The nearest cells wait in front. -/
def Sorted (queue : List (Trial d Exact)) : Prop :=
  queue.Pairwise fun t u => t.distance ≤ u.distance

lemma Sorted.enqueue {queue : List (Trial d Exact)} (h : Sorted queue) (ht : t.distance.IsDistance)
    (hqueue : ∀ u ∈ queue, u.distance.IsDistance) : Sorted (enqueue t queue) := by
  induction queue with
  | nil => exact List.pairwise_singleton _ t
  | cons u queue ih =>
      obtain ⟨hu, hsorted⟩ := List.pairwise_cons.mp h
      obtain ⟨hud, hqueue⟩ := List.forall_mem_cons.mp hqueue
      rw [Marching.enqueue]
      split_ifs with hprecedes
      · have htu : t.distance ≤ u.distance := by
          simp only [precedes, Bool.or_eq_true, Bool.and_eq_true, decide_eq_true_eq,
            Bool.not_eq_true', decide_eq_false_iff_not] at hprecedes
          rcases hprecedes with hlt | ⟨hge, -⟩
          · exact .inl hlt
          · exact ht.le_of_not_lt hud hge
        refine List.pairwise_cons.mpr ⟨List.forall_mem_cons.mpr ⟨htu, fun w hw => ?_⟩, h⟩
        exact Exact.le_trans htu (hu w hw)
      · have hut : u.distance ≤ t.distance := by
          simp only [precedes, Bool.or_eq_true, decide_eq_true_eq, not_or] at hprecedes
          exact hud.le_of_not_lt ht hprecedes.1
        refine List.pairwise_cons.mpr ⟨fun w hw => ?_, ih hsorted hqueue⟩
        rcases mem_enqueue.mp hw with rfl | hw
        · exact hut
        · exact hu w hw

lemma Sorted.accept (hkind : Measured IsDistance m) (t : Trial d Exact)
    (hrest : ∀ u ∈ rest, u ∈ m.queue) (h : Sorted rest) :
    Sorted (m.accept active t rest).queue := by
  have heq := congrArg (fun s => Sorted s.2) (accept_eq active m t rest)
  simp only at heq
  rw [heq]
  split_ifs
  · exact h
  · refine (List.foldlRecOn (d.cells.neighbors t.cell) _
      (motive := fun s : ScalarField d Exact × List (Trial d Exact) =>
        (∀ c, (s.1.get c).IsDistance) ∧ (∀ u ∈ s.2, u.distance.IsDistance) ∧ Sorted s.2)
      ⟨hkind.dist, fun u hu => hkind.waiting u (hrest u hu), h⟩ ?_).2.2
    rintro s ⟨hdist, hqueue, hsorted⟩ n -
    have hallowed := isDistance_allowed hdist (Field.put m.accepted t.cell true) n
    rw [offer_eq]
    split_ifs
    · refine ⟨fun c => ?_, fun u hu => ?_, hsorted.enqueue hallowed hqueue⟩
      · rw [Field.get_put]
        split_ifs
        · exact hallowed
        · exact hdist c
      · rcases mem_enqueue.mp hu with rfl | hu
        · exact hallowed
        · exact hqueue u hu
    · exact ⟨hdist, hqueue, hsorted⟩

lemma isPositive_seed {s : Exact} (h : seed? phi active c = some s) : s.IsPositive := by
  rw [seed?] at h
  split_ifs at h
  exact isPositive_interfaceDistance h

lemma sorted_nil : Sorted ([] : List (Trial d Exact)) := List.Pairwise.nil

lemma sorted_start (phi : ScalarField d Exact) (active : d.Cell → Bool) :
    Sorted (start phi active).queue := by
  rw [start_eq]
  refine (List.foldlRecOn d.cells.nodes _
    (motive := fun m : Marching d Exact =>
      (∀ u ∈ m.queue, u.distance.IsDistance) ∧ Sorted m.queue)
    ⟨fun u hu => absurd hu List.not_mem_nil, sorted_nil⟩ ?_).2
  rintro m ⟨hqueue, hsorted⟩ c -
  rw [sow]
  cases hseed : seed? phi active c with
  | none => exact ⟨hqueue, hsorted⟩
  | some s =>
      have hs := (isPositive_seed hseed).isDistance
      refine ⟨fun u hu => ?_, hsorted.enqueue hs hqueue⟩
      rcases mem_enqueue.mp hu with rfl | hu
      · exact hs
      · exact hqueue u hu

/-! ## The invariant -/

/-- A march that has gone outwards so far. -/
structure Advancing (active : d.Cell → Bool) (m : Marching d Exact) : Prop where
  /-- No cell waits at less than the distance it has. -/
  current : ∀ t ∈ m.queue, m.dist.get t.cell ≤ t.distance
  sorted : Sorted m.queue
  /-- No cell waits at less than what has been accepted. -/
  later : ∀ c, m.accepted.get c = true → ∀ t ∈ m.queue, m.dist.get c ≤ t.distance
  order : m.order.Pairwise fun c c' => m.dist.get c' ≤ m.dist.get c
  /-- Below the limit every cell has at most the distance that it is allowed. -/
  offered : (∀ c, m.accepted.get c = true → ¬marchingLimit ≤ m.dist.get c) →
    ∀ n, m.accepted.get n = false → active n = true →
      m.dist.get n ≤ allowed m.dist m.accepted n

lemma advancing_start (phi : ScalarField d Exact) (active : d.Cell → Bool) :
    Advancing active (start phi active) where
  current t ht := by
    rw [mem_queue_start] at ht
    rw [get_dist_start, ht, Option.getD_some]
    exact (isPositive_seed ht).isDistance.le_rfl
  sorted := sorted_start phi active
  later c hc := by
    rw [accepted_start] at hc
    cases hc
  order := by
    rw [order_start]
    exact List.Pairwise.nil
  offered _ n _ _ := by
    have hkind : Measured IsDistance (start phi active) :=
      measured_start (.inl rfl) fun c s hs => (isPositive_interfaceDistance hs).isDistance
    have hnone : ∀ a, leastAlong (start phi active).dist ((start phi active).accepted.get ·) n a =
        posInf := fun a =>
      (isDistance_leastAlong hkind.dist _ n a).isLevel.eq_posInf_of_le
        ((le_leastAlong_iff hkind.dist (.inl rfl)).mpr fun c _ hc => by
          rw [accepted_start] at hc
          cases hc)
    rw [allowed, hnone, hnone, hnone, solveEikonal_posInf]
    exact (hkind.dist n).isLevel.le_posInf

lemma Advancing.sorted_rest (h : Advancing active m) (hqueue : m.queue = t :: rest) :
    (∀ u ∈ rest, t.distance ≤ u.distance) ∧ Sorted rest := by
  have hsorted := h.sorted
  rw [hqueue] at hsorted
  exact List.pairwise_cons.mp hsorted

section Accept

variable (h : Advancing active m) (hkind : Measured IsDistance m) (hqueue : m.queue = t :: rest)
include h hkind hqueue

/-- What has been accepted lies below what is accepted next. -/
lemma Advancing.le_distance (hdist : m.dist.get t.cell = t.distance)
    (hc : (Field.put m.accepted t.cell true).get c = true) : m.dist.get c ≤ t.distance := by
  rw [Field.get_put] at hc
  split_ifs at hc with htc
  · rw [← htc, hdist]
    exact (hkind.waiting t (hqueue ▸ List.mem_cons_self)).le_rfl
  · exact h.later c hc t (hqueue ▸ List.mem_cons_self)

/-- **No cell is offered less than what has just been accepted.** -/
lemma Advancing.le_allowed (hdist : m.dist.get t.cell = t.distance) (hn : Offers active m t n) :
    t.distance ≤ allowed m.dist (Field.put m.accepted t.cell true) n := by
  obtain ⟨hlimit, -, haccepted, hactive, himproves⟩ := hn
  have ht : t.distance.IsDistance := hkind.waiting t (hqueue ▸ List.mem_cons_self)
  have hallowed := isDistance_allowed hkind.dist (Field.put m.accepted t.cell true) n
  have hput : ∀ c, (Field.put m.accepted t.cell true).get c =
      if t.cell = c then true else m.accepted.get c := fun c => Field.get_put _ _ _ _
  refine ht.le_of_not_lt hallowed fun hlt => ?_
  have heq := allowed_eq_of_lt hkind.dist (fun c hc => by rw [hput, hc, ite_self]) ht
    (fun c hc => by
      rw [hput] at hc
      split_ifs at hc with htc
      · rw [← htc, hdist]
        exact .inr ht.le_rfl
      · exact .inl hc) hlt
  have hnot : m.accepted.get n = false := by
    rw [hput] at haccepted
    split_ifs at haccepted
    exact haccepted
  have hoffered := h.offered (fun c hc hle => hlimit (Exact.le_trans hle
    (h.later c hc t (hqueue ▸ List.mem_cons_self)))) n hnot hactive
  rw [← heq] at hoffered
  exact not_le_of_lt himproves hoffered

omit h hqueue in
/-- Accepting a cell raises no distance. -/
lemma dist_accept_le (c : d.Cell) : (m.accept active t rest).dist.get c ≤ m.dist.get c := by
  rw [get_dist_accept]
  split_ifs with hoffers
  · exact .inl hoffers.2.2.2.2
  · exact (hkind.dist c).le_rfl

lemma Advancing.later_accept (hdist : m.dist.get t.cell = t.distance)
    (hu : u ∈ (m.accept active t rest).queue) : t.distance ≤ u.distance := by
  rcases mem_queue_accept.mp hu with hu | ⟨hoffers, hdistance⟩
  · exact (h.sorted_rest hqueue).1 u hu
  · rw [hdistance]
    exact h.le_allowed hkind hqueue hdist hoffers

omit hqueue in
lemma Advancing.offered_accept
    (hlimit : ∀ c, (m.accept active t rest).accepted.get c = true →
      ¬marchingLimit ≤ (m.accept active t rest).dist.get c)
    (hdist : m.dist.get t.cell = t.distance)
    (hn : (m.accept active t rest).accepted.get n = false) (hactive : active n = true) :
    (m.accept active t rest).dist.get n ≤
      allowed (m.accept active t rest).dist (m.accept active t rest).accepted n := by
  have hstands := fun c (hc : (m.accept active t rest).accepted.get c = true) =>
    get_dist_accept_of_accepted hc
  have hbefore : ∀ c, m.accepted.get c = true → (m.accept active t rest).accepted.get c = true :=
    fun c hc => accepted_accept.mpr (.inr hc)
  have ht : ¬marchingLimit ≤ t.distance := by
    have hcell : (m.accept active t rest).accepted.get t.cell = true :=
      accepted_accept.mpr (.inl rfl)
    have hnot := hlimit t.cell hcell
    rwa [hstands t.cell hcell, hdist] at hnot
  have hallowed := isDistance_allowed hkind.dist (Field.put m.accepted t.cell true) n
  rw [allowed_congr hstands, get_dist_accept]
  show _ ≤ allowed m.dist (Field.put m.accepted t.cell true) n
  split_ifs with hoffers
  · exact hallowed.le_rfl
  · by_cases hneighbor : n ∈ d.cells.neighbors t.cell
    · exact (hkind.dist n).le_of_not_lt hallowed fun himproves =>
        hoffers ⟨ht, hneighbor, hn, hactive, himproves⟩
    · -- A cell that is not next to the accepted one sees what it has seen before.
      have hseen : ∀ c ∈ d.cells.neighbors n,
          (Field.put m.accepted t.cell true).get c = m.accepted.get c := by
        intro c hc
        refine Field.get_put_of_ne _ _ ?_
        rintro rfl
        exact hneighbor (Lattice.mem_neighbors_symm _ |>.mp hc)
      have hold : m.accepted.get n = false := by
        refine Bool.eq_false_iff.mpr fun hacc => ?_
        rw [hbefore n hacc] at hn
        cases hn
      have hoffered := h.offered (fun c hc => hstands c (hbefore c hc) ▸ hlimit c (hbefore c hc)) n
        hold hactive
      simpa only [allowed, leastAlong_congr hseen fun _ _ => rfl] using hoffered

lemma Advancing.accept (horder : Orderly active m) (hnew : ¬m.dist.get t.cell < t.distance) :
    Advancing active (m.accept active t rest) := by
  have ht : t ∈ m.queue := hqueue ▸ List.mem_cons_self
  have hrest : ∀ u ∈ rest, u ∈ m.queue := fun u hu => hqueue ▸ List.mem_cons_of_mem t hu
  have hdist : m.dist.get t.cell = t.distance :=
    (h.current t ht).elim (fun hlt => absurd hlt hnew) And.left
  refine ⟨fun u hu => ?_, ?_, fun c hc u hu => ?_, ?_, fun hlimit n hn hactive => ?_⟩
  · rcases mem_queue_accept.mp hu with hu | ⟨hoffers, hdistance⟩
    · exact Exact.le_trans (dist_accept_le hkind u.cell) (h.current u (hrest u hu))
    · rw [get_dist_accept, if_pos hoffers, hdistance]
      exact (isDistance_allowed hkind.dist _ _).le_rfl
  · exact Sorted.accept hkind t hrest (h.sorted_rest hqueue).2
  · rw [get_dist_accept_of_accepted hc]
    exact Exact.le_trans (h.le_distance hkind hqueue hdist hc)
      (h.later_accept hkind hqueue hdist hu)
  · have hstands : ∀ c ∈ t.cell :: m.order,
        (m.accept active t rest).dist.get c = m.dist.get c := by
      intro c hc
      refine get_dist_accept_of_accepted (accepted_accept.mpr ?_)
      rw [horder.accepted_iff]
      exact (List.mem_cons.mp hc).imp_left Eq.symm
    refine List.pairwise_cons.mpr ⟨fun c hc => ?_, h.order.imp_of_mem fun hc hc' hle => ?_⟩
    · rw [hstands t.cell List.mem_cons_self, hstands c (List.mem_cons_of_mem _ hc), hdist]
      exact h.later c ((horder.accepted_iff c).mpr hc) t ht
    · rwa [hstands _ (List.mem_cons_of_mem _ hc), hstands _ (List.mem_cons_of_mem _ hc')]
  · exact h.offered_accept hkind hlimit hdist hn hactive

end Accept

lemma Advancing.turn (h : Advancing active m) (horder : Orderly active m)
    (hkind : Measured IsDistance m) (hturn : Turn active m m') : Advancing active m' := by
  cases hturn with
  | @pass t rest hqueue hstale =>
      have hrest : ∀ u ∈ rest, u ∈ m.queue := fun u hu => hqueue ▸ List.mem_cons_of_mem t hu
      exact ⟨fun u hu => h.current u (hrest u hu), (h.sorted_rest hqueue).2,
        fun c hc u hu => h.later c hc u (hrest u hu), h.order, h.offered⟩
  | accept hqueue _ hnew => exact h.accept hkind hqueue horder hnew

/-- **Cells are accepted in the order of their final distance.** -/
theorem order_run (phi : ScalarField d Exact) (active : d.Cell → Bool) :
    (run active (start phi active)).order.Pairwise fun c c' =>
      (run active (start phi active)).dist.get c' ≤ (run active (start phi active)).dist.get c := by
  obtain ⟨k, -, hturns, -⟩ := exists_turns active (start phi active)
  refine (hturns.keep (P := fun m => Orderly active m ∧ Measured IsDistance m ∧ Advancing active m)
    ?_ ⟨orderly_start phi active, ?_, advancing_start phi active⟩).2.2.order
  · rintro m m' ⟨horder, hkind, hadvancing⟩ hturn
    exact ⟨horder.turn hturn,
      hkind.turn (.inl rfl) (fun _ _ _ => isDistance_solveEikonal) hturn,
      hadvancing.turn horder hkind hturn⟩
  · exact measured_start (.inl rfl) fun c s hs => (isPositive_interfaceDistance hs).isDistance

end Marching

end Surface

end FreeSurface

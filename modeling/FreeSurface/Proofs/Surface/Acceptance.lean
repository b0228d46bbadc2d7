import FreeSurface.Proofs.Number.Least
import FreeSurface.Proofs.Surface.Marching

/-!
# Cells a march accepts

What holds of every march, whatever the carrier of its distances, turn by turn.

* `Marching.Orderly` — a cell is accepted at most once, and only if it takes part.
* `Marching.Pending` — a cell that is not accepted waits at the distance it has, unless that is
  still infinite; so when no cell waits, a cell without a place in the order is infinitely far away.
* `Marching.Measured` — distances are of one kind: of any kind that infinity and the estimates at
  the surface are of and that the local solver keeps.
-/

namespace FreeSurface

open scoped Literals

namespace Surface

namespace Marching

variable {d : Dims} {S : Type} [Scalar S] {active : d.Cell → Bool} {phi : ScalarField d S}
  {m m' : Marching d S}

/-! ## The order -/

/-- The accepted cells are those in the order; each of them stands there once and takes part. -/
structure Orderly (active : d.Cell → Bool) (m : Marching d S) : Prop where
  accepted_iff : ∀ c, m.accepted.get c = true ↔ c ∈ m.order
  nodup : m.order.Nodup
  free : ∀ c ∈ m.order, active c = true
  waiting : ∀ t ∈ m.queue, active t.cell = true

lemma orderly_start (phi : ScalarField d S) (active : d.Cell → Bool) :
    Orderly active (start phi active) where
  accepted_iff c := by
    rw [accepted_start, order_start]
    exact iff_of_false Bool.false_ne_true List.not_mem_nil
  nodup := by
    rw [order_start]
    exact List.nodup_nil
  free c hc := by
    rw [order_start] at hc
    exact absurd hc List.not_mem_nil
  waiting t ht := by
    rw [mem_queue_start, seed?] at ht
    split_ifs at ht with hactive
    exact hactive

lemma Orderly.turn (h : Orderly active m) (hturn : Turn active m m') : Orderly active m' := by
  cases hturn with
  | pass hqueue hstale =>
      exact ⟨h.accepted_iff, h.nodup, h.free, fun u hu =>
        h.waiting u (hqueue ▸ List.mem_cons_of_mem _ hu)⟩
  | @accept t rest hqueue haccepted hdist =>
      have hactive : active t.cell = true := h.waiting t (hqueue ▸ List.mem_cons_self)
      have hnew : t.cell ∉ m.order := by
        rw [← h.accepted_iff, haccepted]
        exact Bool.false_ne_true
      refine ⟨fun c => ?_, List.nodup_cons.mpr ⟨hnew, h.nodup⟩,
        List.forall_mem_cons.mpr ⟨hactive, h.free⟩, fun u hu => ?_⟩
      · rw [accepted_accept, h.accepted_iff]
        exact (or_congr_left eq_comm).trans List.mem_cons.symm
      · rcases mem_queue_accept.mp hu with hu | ⟨hoffers, -⟩
        · exact h.waiting u (hqueue ▸ List.mem_cons_of_mem _ hu)
        · exact hoffers.2.2.2.1

/-! ## Kinds of distances -/

/-- All distances are of one kind. -/
structure Measured (P : S → Prop) (m : Marching d S) : Prop where
  dist : ∀ c, P (m.dist.get c)
  waiting : ∀ t ∈ m.queue, P t.distance

section Kind

variable {P : S → Prop} (hinfinity : P Scalar.infinity)
include hinfinity

lemma leastAlong_of_forall {dist : ScalarField d S} (h : ∀ c, P (dist.get c))
    (known : d.Cell → Bool) (c : d.Cell) (a : Axis) : P (leastAlong dist known c a) := by
  rw [leastAlong]
  refine List.foldlRecOn _ _ hinfinity fun least hleast n _ => ?_
  rw [Scalar.min]
  split_ifs
  · exact h n
  · exact h n
  · exact hleast
  · exact hleast

lemma measured_start (hseed : ∀ c s, interfaceDistance? phi active c = some s → P s) :
    Measured P (start phi active) := by
  have hkind : ∀ {c s}, seed? phi active c = some s → P s := by
    intro c s hs
    rw [seed?] at hs
    split_ifs at hs
    exact hseed c s hs
  refine ⟨fun c => ?_, fun t ht => hkind (mem_queue_start.mp ht)⟩
  rw [get_dist_start]
  cases hc : seed? phi active c with
  | none => exact hinfinity
  | some s => exact hkind hc

variable (hsolve : ∀ a b c, P a → P b → P c → P (solveEikonal a b c))
include hsolve

lemma allowed_of_forall {dist : ScalarField d S} (h : ∀ c, P (dist.get c))
    (accepted : Field d.cells Bool) (n : d.Cell) : P (allowed dist accepted n) :=
  hsolve _ _ _ (leastAlong_of_forall hinfinity h _ n .x) (leastAlong_of_forall hinfinity h _ n .y)
    (leastAlong_of_forall hinfinity h _ n .z)

lemma Measured.turn (h : Measured P m) (hturn : Turn active m m') : Measured P m' := by
  cases hturn with
  | pass hqueue hstale =>
      exact ⟨h.dist, fun u hu => h.waiting u (hqueue ▸ List.mem_cons_of_mem _ hu)⟩
  | @accept t rest hqueue haccepted hdist =>
      have hallowed := allowed_of_forall hinfinity hsolve h.dist (Field.put m.accepted t.cell true)
      refine ⟨fun c => ?_, fun u hu => ?_⟩
      · rw [get_dist_accept]
        split_ifs
        · exact hallowed c
        · exact h.dist c
      · rcases mem_queue_accept.mp hu with hu | ⟨-, hdistance⟩
        · exact h.waiting u (hqueue ▸ List.mem_cons_of_mem _ hu)
        · exact hdistance ▸ hallowed u.cell

end Kind

/-! ## Cells that wait -/

/-- A cell that is not accepted waits at the distance it has, if it has one. -/
def Pending (m : Marching d S) : Prop :=
  ∀ c, m.accepted.get c = false → m.dist.get c = Scalar.infinity ∨ ⟨m.dist.get c, c⟩ ∈ m.queue

lemma pending_start (phi : ScalarField d S) (active : d.Cell → Bool) :
    Pending (start phi active) := by
  intro c _
  rw [mem_queue_start, get_dist_start]
  cases seed? phi active c with
  | none => exact .inl rfl
  | some s => exact .inr rfl

lemma Pending.turn [Scalar.Linear S] (h : Pending m) (hturn : Turn active m m') : Pending m' := by
  cases hturn with
  | @pass t rest hqueue hstale =>
      intro c hc
      refine (h c hc).imp_right fun hmem => ?_
      -- The entry that is passed over is out of date, so it is not the one of the cell.
      refine (List.mem_cons.mp (hqueue ▸ hmem)).resolve_left ?_
      rintro rfl
      rcases hstale with hstale | hstale
      · rw [hc] at hstale
        cases hstale
      · exact Scalar.Ordered.not_le_of_lt hstale (Scalar.Linear.le_of_lt hstale)
  | @accept t rest hqueue haccepted hdist =>
      intro c hc
      rw [Bool.eq_false_iff, ne_eq, accepted_accept, not_or, Bool.not_eq_true] at hc
      rw [get_dist_accept]
      split_ifs with hoffers
      · exact .inr (mem_queue_accept.mpr (.inr ⟨hoffers, rfl⟩))
      · refine (h c hc.2).imp_right fun hmem => mem_queue_accept.mpr (.inl ?_)
        refine (List.mem_cons.mp (hqueue ▸ hmem)).resolve_left ?_
        rintro rfl
        exact hc.1 rfl

/-! ## The end -/

section End

variable (phi : ScalarField d S) (active : d.Cell → Bool)

lemma orderly_run : Orderly active (run active (start phi active)) := by
  obtain ⟨k, -, hturns, -⟩ := exists_turns active (start phi active)
  exact hturns.keep Orderly.turn (orderly_start phi active)

/-- **No front has reached a cell that is not accepted in the end.** -/
lemma dist_run_of_notMem [Scalar.Linear S] {c : d.Cell}
    (hc : c ∉ (run active (start phi active)).order) :
    (run active (start phi active)).dist.get c = Scalar.infinity := by
  obtain ⟨k, -, hturns, hempty⟩ := exists_turns active (start phi active)
  have hpending := hturns.keep Pending.turn (pending_start phi active)
  rw [← (orderly_run phi active).accepted_iff, Bool.not_eq_true] at hc
  refine (hpending c hc).resolve_right fun hmem => ?_
  rw [hempty] at hmem
  exact absurd hmem List.not_mem_nil

lemma measured_run {P : S → Prop} (hinfinity : P Scalar.infinity)
    (hseed : ∀ c s, interfaceDistance? phi active c = some s → P s)
    (hsolve : ∀ a b c, P a → P b → P c → P (solveEikonal a b c)) :
    Measured P (run active (start phi active)) := by
  obtain ⟨k, -, hturns, -⟩ := exists_turns active (start phi active)
  exact hturns.keep (Measured.turn hinfinity hsolve) (measured_start hinfinity hseed)

end End

end Marching

end Surface

end FreeSurface

import Mathlib.Data.List.FinRange
import Mathlib.Data.List.Induction
import FreeSurface.Particle.Buckets
import FreeSurface.Proofs.Field.Basic
import FreeSurface.Proofs.Lattice.Boxes
import FreeSurface.Proofs.Lattice.Positions

/-!
# The counting sort finds what it sorted

Counting, running totals and filling together put the particles of a cell, in their own order, where
the bucket of the cell is looked up (`Buckets.members_ofCells`).  Every place is an earlier count:
the bucket of a cell begins after as many particles as lie in cells before it (`Buckets.below`).

* `Buckets.occupancy_eq`, `Buckets.get_startsOf` — the counts, and where the buckets begin.
* `Buckets.Filled` — what holds after some particles are written; `Buckets.Filled.write` adds one.
* `Buckets.mem_near` — a search around coordinates finds the particles of the cells in its window,
  and none of them twice (`Buckets.nodup_near`).
-/

namespace FreeSurface

namespace Buckets

variable {d : Dims} {n : ℕ} {cells : Vector d.Cell n} {c : d.Cell}

/-! ## Counts -/

/-- Of some particles those in a cell, in order. -/
def lot (cells : Vector d.Cell n) (c : d.Cell) (ps : List (Fin n)) : List (Fin n) :=
  ps.filter fun p => cells.get p = c

/-- How many particles lie in cells before the one of a given number. -/
def below (cells : Vector d.Cell n) (i : ℕ) : ℕ :=
  (List.finRange n).countP fun p => (cells.get p).val < i

lemma below_zero : below cells 0 = 0 := by
  simp [below]

lemma below_le (i : ℕ) : below cells i ≤ n :=
  List.countP_le_length.trans_eq List.length_finRange

lemma below_mono (cells : Vector d.Cell n) {i j : ℕ} (h : i ≤ j) : below cells i ≤ below cells j :=
  List.countP_mono_left fun p _ hp => by
    simp only [decide_eq_true_eq] at hp ⊢
    omega

lemma below_succ (cells : Vector d.Cell n) (c : d.Cell) :
    below cells (c.val + 1) = below cells c.val + (lot cells c (List.finRange n)).length := by
  rw [below, below, lot, ← List.countP_eq_length_filter]
  induction List.finRange n with
  | nil => rfl
  | cons p ps ih =>
      simp only [List.countP_cons, ih, decide_eq_true_eq, Fin.ext_iff]
      split_ifs <;> omega

lemma toList_eq_map {α : Type} (v : Vector α n) : v.toList = (List.finRange n).map v.get := by
  refine List.ext_getElem (by simp) fun i h h' => ?_
  simp [Vector.get]

lemma get_foldl_count (ps : List (Fin n)) (counts : Field d.cells ℕ) (c : d.Cell) :
    ((ps.map cells.get).foldl (fun counts c => Field.put counts c (counts.get c + 1)) counts).get c
      = counts.get c + (lot cells c ps).length := by
  induction ps generalizing counts with
  | nil => rfl
  | cons p ps ih =>
      rw [List.map_cons, List.foldl_cons, ih, Field.get_put, lot, lot, List.filter_cons]
      by_cases hp : cells.get p = c
      · simp only [hp, if_true, decide_true, List.length_cons]
        omega
      · simp only [hp, if_false, decide_false, Bool.false_eq_true]

/-- The count of a cell is the number of particles in it. -/
lemma occupancy_eq (cells : Vector d.Cell n) (c : d.Cell) :
    (occupancy cells).get c = (lot cells c (List.finRange n)).length := by
  have hfold : occupancy cells = ((List.finRange n).map cells.get).foldl
      (fun counts c => Field.put counts c (counts.get c + 1)) (Field.constant d.cells 0) := by
    rw [← toList_eq_map, Vector.foldl_toList]
    rfl
  rw [hfold, get_foldl_count, Field.get_constant, Nat.zero_add]

/-! ## Running totals -/

lemma runningTotals_append (counts : List ℕ) (count : ℕ) :
    (runningTotals (counts ++ [count]).toArray) =
      (runningTotals counts.toArray).push
        ((runningTotals counts.toArray).back?.getD 0 + count) := by
  simp [runningTotals]

lemma toList_runningTotals (counts : List ℕ) :
    (runningTotals counts.toArray).toList =
      (List.range (counts.length + 1)).map fun i => (counts.take i).sum := by
  induction counts using List.reverseRecOn with
  | nil => rfl
  | append_singleton counts count ih =>
      have hback : (runningTotals counts.toArray).back?.getD 0 = counts.sum := by
        rw [← Array.getLast?_toList, ih, List.range_succ, List.map_append]
        simp
      rw [runningTotals_append, Array.toList_push, ih, hback, List.length_append,
        List.length_singleton, List.range_succ (n := counts.length + 1), List.map_append]
      congr 1
      · refine List.map_congr_left fun i hi => ?_
        rw [List.take_append_of_le_length (by simpa [Nat.lt_succ_iff] using hi)]
      · simp [List.take_of_length_le]

/-- As many particles lie in the first cells as these were counted to hold. -/
lemma sum_take_occupancy (cells : Vector d.Cell n) {i : ℕ} (h : i ≤ d.cellCount) :
    ((occupancy cells).toList.take i).sum = below cells i := by
  induction i with
  | zero => rw [List.take_zero, List.sum_nil, below_zero]
  | succ i ih =>
      have hi : i < (occupancy cells).toList.length := by
        rw [Vector.length_toList]
        exact h
      have hcount : (occupancy cells).toList[i] = (occupancy cells).get ⟨i, h⟩ := rfl
      rw [List.take_succ_eq_append_getElem hi, List.sum_append, List.sum_singleton,
        ih (Nat.le_of_succ_le h), hcount, occupancy_eq, below_succ cells ⟨i, h⟩]

/-- A bucket begins behind the particles of all cells before it. -/
lemma get_startsOf (cells : Vector d.Cell n) (i : Fin (d.cellCount + 1)) :
    (startsOf (occupancy cells)).get i = below cells i.val := by
  have hi : i.val ≤ d.cellCount := Nat.lt_succ_iff.mp i.isLt
  have hget : (startsOf (occupancy cells)).get i =
      (runningTotals (occupancy cells).toArray).getD i.val 0 := Vector.getElem_ofFn i.isLt
  have harray : (occupancy cells).toArray = (occupancy cells).toList.toArray :=
    Array.toArray_toList.symm
  have hlength : i.val < (occupancy cells).toList.length + 1 := by
    rw [Vector.length_toList]
    exact i.isLt
  rw [hget, harray, Array.getD_eq_getD_getElem?, ← Array.getElem?_toList, toList_runningTotals,
    List.getElem?_map, List.getElem?_range hlength, ← sum_take_occupancy cells hi]
  rfl

/-! ## Filling -/

/-- Particles are written up to some point: every bucket holds those of its cell, and its cursor
stands behind them. -/
structure Filled (cells : Vector d.Cell n) (done : List (Fin n))
    (state : Vector (Fin n) n × Vector ℕ (d.cellCount + 1)) : Prop where
  placed : ∀ c j p, (lot cells c done)[j]? = some p → state.1[below cells c.val + j]? = some p
  cursor : ∀ c : d.Cell, state.2.get c.castSucc = below cells c.val + (lot cells c done).length

/-- Writes one particle at the cursor of its bucket, as `fill` does with each. -/
def write (cells : Vector d.Cell n) (state : Vector (Fin n) n × Vector ℕ (d.cellCount + 1))
    (p : Fin n) : Vector (Fin n) n × Vector ℕ (d.cellCount + 1) :=
  let slot : Fin (d.cellCount + 1) := (cells.get p).castSucc
  let place := state.2.get slot
  (state.1.setIfInBounds place p, state.2.set slot.val (place + 1) slot.isLt)

lemma lot_append (done rest : List (Fin n)) :
    lot cells c (done ++ rest) = lot cells c done ++ lot cells c rest :=
  List.filter_append _ _

lemma lot_concat_self (done : List (Fin n)) (p : Fin n) :
    lot cells (cells.get p) (done ++ [p]) = lot cells (cells.get p) done ++ [p] := by
  rw [lot_append]
  simp [lot]

lemma lot_concat_of_ne {p : Fin n} (h : cells.get p ≠ c) (done : List (Fin n)) :
    lot cells c (done ++ [p]) = lot cells c done := by
  rw [lot_append]
  simp [lot, h]

/-- The places of some of the particles lie in the buckets of their cells. -/
lemma lt_below_succ {done rest : List (Fin n)} (hsplit : done ++ rest = List.finRange n) {j : ℕ}
    (hj : j < (lot cells c done).length) : below cells c.val + j < below cells (c.val + 1) := by
  rw [below_succ, ← hsplit, lot_append, List.length_append]
  omega

/-- The buckets of different cells do not overlap. -/
lemma place_ne {c c' : d.Cell} (h : c ≠ c') {i j : ℕ}
    (hi : below cells c.val + i < below cells (c.val + 1))
    (hj : below cells c'.val + j < below cells (c'.val + 1)) :
    below cells c.val + i ≠ below cells c'.val + j := by
  rcases lt_or_gt_of_ne h with hlt | hlt
  · have := below_mono cells (show c.val + 1 ≤ c'.val from hlt)
    omega
  · have := below_mono cells (show c'.val + 1 ≤ c.val from hlt)
    omega

lemma Filled.write {done rest : List (Fin n)} {p : Fin n}
    {state : Vector (Fin n) n × Vector ℕ (d.cellCount + 1)}
    (hsplit : done ++ p :: rest = List.finRange n) (h : Filled cells done state) :
    Filled cells (done ++ [p]) (write cells state p) := by
  set c := cells.get p with hc
  set place := below cells c.val + (lot cells c done).length with hplace
  have hown : lot cells c (done ++ [p]) = lot cells c done ++ [p] := lot_concat_self done p
  have hother : ∀ c', c' ≠ c → lot cells c' (done ++ [p]) = lot cells c' done :=
    fun c' hc' => lot_concat_of_ne hc'.symm done
  have hlast : place < below cells (c.val + 1) := by
    have hsplit' : (done ++ [p]) ++ rest = List.finRange n := by
      rw [List.append_assoc]
      exact hsplit
    refine lt_below_succ hsplit' ?_
    rw [hown, List.length_append, List.length_singleton]
    exact Nat.lt_succ_self _
  have hstate : Buckets.write cells state p = (state.1.setIfInBounds place p,
      state.2.set c.val (place + 1) (Nat.lt_succ_of_lt c.isLt)) := by
    rw [Buckets.write]
    simp only [← hc, h.cursor c, ← hplace]
    rfl
  rw [hstate]
  constructor
  · intro c' j q hq
    by_cases hc' : c' = c
    · subst hc'
      rw [hown] at hq
      rcases Nat.lt_or_ge j (lot cells c done).length with hj | hj
      · rw [List.getElem?_append_left hj] at hq
        rw [Vector.getElem?_setIfInBounds_ne (by omega)]
        exact h.placed c j q hq
      · obtain ⟨hj', rfl⟩ : j - (lot cells c done).length = 0 ∧ p = q := by
          rw [List.getElem?_append_right hj, List.getElem?_singleton] at hq
          split_ifs at hq with hzero
          exact ⟨hzero, Option.some.inj hq⟩
        obtain rfl : (lot cells c done).length = j := by omega
        rw [Vector.getElem?_setIfInBounds_self, if_pos (hlast.trans_le (below_le _))]
    · rw [hother c' hc'] at hq
      have hplace' := lt_below_succ hsplit (List.getElem?_eq_some_iff.mp hq).1
      rw [Vector.getElem?_setIfInBounds_ne (place_ne (Ne.symm hc') hlast hplace')]
      exact h.placed c' j q hq
  · intro c'
    by_cases hc' : c' = c
    · subst hc'
      rw [hown, List.length_append, List.length_singleton]
      exact Vector.getElem_set_self _
    · rw [hother c' hc', ← h.cursor c']
      exact Vector.getElem_set_ne (Nat.lt_succ_of_lt c.isLt) _ fun heq => hc' (Fin.ext heq.symm)

/-- Before anything is written every cursor stands at the beginning of its bucket. -/
lemma filled_nil (order : Vector (Fin n) n) :
    Filled cells [] (order, startsOf (occupancy cells)) where
  placed c j p h := by cases h
  cursor c := get_startsOf cells _

/-- Every bucket holds the particles of its cell among those written so far. -/
lemma filled_foldl (order : Vector (Fin n) n) {done rest : List (Fin n)}
    (hsplit : done ++ rest = List.finRange n) :
    Filled cells done (done.foldl (Buckets.write cells) (order, startsOf (occupancy cells))) := by
  induction done using List.reverseRecOn generalizing rest with
  | nil => exact filled_nil order
  | append_singleton done p ih =>
      rw [List.append_assoc] at hsplit
      rw [List.foldl_append]
      exact (ih hsplit).write hsplit

/-! ## Buckets -/

lemma slice_eq {order : Vector (Fin n) n} {start : ℕ} {ps : List (Fin n)}
    (h : ∀ j p, ps[j]? = some p → order[start + j]? = some p) :
    slice order start ps.length = ps := by
  induction ps generalizing start with
  | nil => rfl
  | cons p ps ih =>
      obtain ⟨hstart, hp⟩ := Vector.getElem?_eq_some_iff.mp (h 0 p rfl)
      have hrest : ∀ j q, ps[j]? = some q → order[start + 1 + j]? = some q := by
        intro j q hq
        rw [Nat.add_assoc, Nat.add_comm 1 j]
        exact h (j + 1) q hq
      rw [List.length_cons, slice, dif_pos (show start < n from hstart), ih hrest]
      exact congrArg (· :: ps) hp

lemma count_ofCells (cells : Vector d.Cell n) (c : d.Cell) :
    (ofCells cells).count c = (List.finRange n).countP fun p => cells.get p = c := by
  have hfirst : (ofCells cells).first c = below cells c.val := get_startsOf cells _
  have hlast : (ofCells cells).last c = below cells (c.val + 1) := get_startsOf cells _
  rw [count, hfirst, hlast, below_succ, Nat.add_sub_cancel_left, List.countP_eq_length_filter]
  rfl

/-- **The bucket of a cell holds the particles of the cell, in their order.** -/
theorem members_ofCells (cells : Vector d.Cell n) (c : d.Cell) :
    (ofCells cells).members c = (List.finRange n).filter fun p => cells.get p = c := by
  have hfilled : Filled cells (List.finRange n) _ :=
    filled_foldl (Vector.ofFn id) (List.append_nil _)
  have hfirst : (ofCells cells).first c = below cells c.val := get_startsOf cells _
  rw [members, hfirst, count_ofCells, List.countP_eq_length_filter]
  exact slice_eq (hfilled.placed c)

lemma mem_members {p : Fin n} : p ∈ (ofCells cells).members c ↔ cells.get p = c := by
  simp [members_ofCells]

lemma clampIndex_toNat {m : ℕ} (hm : 0 < m) {i : ℤ} (hword : i < word m) (h : i.toNat < m) :
    clampIndex m hm i = ⟨i.toNat, h⟩ :=
  Fin.ext (Nat.min_eq_left (by omega))

/-- On a side that is a word a coordinate is moved to the nearer end. -/
lemma val_clampIndex {m : ℕ} (hpos : 0 < m) (hm : m < 2 ^ 31) (i : ℤ) :
    ((clampIndex m hpos i).val : ℤ) = max 0 (min i (m - 1)) := by
  have hval : (clampIndex m hpos i).val = min i.toNat (word m - 1).toNat := rfl
  rw [hval, word_of_lt hm]
  omega

/-- A position in the domain belongs in the bucket of the cell that holds it. -/
lemma bucketOf_of_cellAt? {S : Type} [Scalar S] {p : Vec3 S} (h : d.cellAt? p = some c) :
    bucketOf d p = c := by
  simp only [Dims.cellAt?, Lattice.node?, Lattice.nodeAt?] at h
  split_ifs at h with hholds hcontains
  obtain ⟨hi, hj, hk⟩ := hcontains
  simp only [Lattice.holds, Bool.and_eq_true, decide_eq_true_iff] at hholds
  obtain ⟨⟨⟨⟨⟨-, hi'⟩, -⟩, hj'⟩, -⟩, hk'⟩ := hholds
  rw [← Option.some.inj h]
  simp only [bucketOf]
  rw [clampIndex_toNat d.width_pos hi' hi, clampIndex_toNat d.height_pos hj' hj,
    clampIndex_toNat d.depth_pos hk' hk]
  rfl

/-! ## Search -/

/-- Both ends of a window are words. -/
def FitsAround (center radius : ℤ) : Prop := IsWord (center - radius) ∧ IsWord (center + radius)

/-- Both ends of the windows along every axis of motion are words. -/
structure Fits (d : Dims) (i j k radius : ℤ) : Prop where
  columns : FitsAround i radius
  rows : FitsAround j radius
  layers : FitsAround k (if d.isPlanar then 0 else radius)

/-- A window that fits holds the positions within its radius. -/
lemma mem_window {m : ℕ} (hm : m < 2 ^ 31) {center radius : ℤ} (h : FitsAround center radius)
    {i : Fin m} :
    i ∈ window m center radius ↔ center - radius ≤ i.val ∧ (i.val : ℤ) ≤ center + radius := by
  have hi := i.isLt
  simp only [window, List.mem_filterMap, List.mem_range'_1, h.1.wrap_eq, h.2.wrap_eq,
    word_of_lt hm]
  constructor
  · rintro ⟨k, hk, hki⟩
    split_ifs at hki with hm
    obtain rfl := Option.some.inj hki
    simp only
    omega
  · rintro ⟨hlo, hhi⟩
    exact ⟨i.val, by omega, dif_pos hi⟩

/-- The coordinates lie in a window along every axis of motion. -/
lemma mem_cellsNear (hd : d.cells.IsShort) {i j k radius : ℤ} (h : Fits d i j k radius) :
    c ∈ cellsNear d i j k radius ↔
      (i - radius ≤ (d.cells.coords c.val).i ∧ ((d.cells.coords c.val).i : ℤ) ≤ i + radius) ∧
      (j - radius ≤ (d.cells.coords c.val).j ∧ ((d.cells.coords c.val).j : ℤ) ≤ j + radius) ∧
      (k - (if d.isPlanar then 0 else radius) ≤ (d.cells.coords c.val).k ∧
        ((d.cells.coords c.val).k : ℤ) ≤ k + if d.isPlanar then 0 else radius) := by
  obtain ⟨x, y, z, rfl⟩ := Lattice.exists_nodeOf c
  rw [Lattice.coords_nodeOf]
  exact Lattice.mem_box.trans (and_congr (mem_window (hd .x) h.columns)
    (and_congr (mem_window (hd .y) h.rows) (mem_window (hd .z) h.layers)))

/-- Windows around coordinates of an addressable domain fit as far as its room goes. -/
lemma Fits.of_addressable {room i j k : ℕ} (hd : d.Addressable room) {radius : ℤ}
    (hradius : 0 ≤ radius) (hi : i + radius ≤ d.width + room) (hj : j + radius ≤ d.height + room)
    (hk : k + radius ≤ d.depth + room) : Fits d i j k radius := by
  have hx := hd.width
  have hy := hd.height
  have hz := hd.depth
  have hlayer : 0 ≤ (if d.isPlanar then 0 else radius) ∧
      (if d.isPlanar then 0 else radius) ≤ radius := by
    split_ifs <;> omega
  constructor <;> constructor <;> constructor <;> omega

lemma nodup_window (m : ℕ) (center radius : ℤ) : (window m center radius).Nodup := by
  refine List.Nodup.filterMap ?_ List.nodup_range'
  intro i j x hi hj
  simp only [Option.mem_def] at hi hj
  split_ifs at hi hj
  rw [← Option.some.inj hi, Option.some.injEq, Fin.mk.injEq] at hj
  exact hj.symm

lemma nodup_cellsNear (i j k radius : ℤ) : (cellsNear d i j k radius).Nodup :=
  Lattice.nodup_box (L := d.cells) (nodup_window _ _ _) (nodup_window _ _ _) (nodup_window _ _ _)

/-- **A search finds the particles of all cells in its window.** -/
theorem mem_near {p : Fin n} {i j k radius : ℤ} :
    p ∈ (ofCells cells).near i j k radius ↔ cells.get p ∈ cellsNear d i j k radius := by
  simp [near, mem_members]

lemma nodup_members (cells : Vector d.Cell n) (c : d.Cell) : ((ofCells cells).members c).Nodup :=
  (members_ofCells cells c) ▸ (List.nodup_finRange n).filter _

/-- No particle is found twice: it lies in one cell only. -/
theorem nodup_near (cells : Vector d.Cell n) (i j k radius : ℤ) :
    ((ofCells cells).near i j k radius).Nodup := by
  refine List.nodup_flatMap.mpr ⟨fun c _ => nodup_members cells c, ?_⟩
  refine (nodup_cellsNear i j k radius).imp fun hne p hp hp' => hne ?_
  exact (mem_members.mp hp).symm.trans (mem_members.mp hp')

/-! ## Particles sorted by position -/

section Positions

variable {S : Type} [Scalar S]

lemma get_bucketsOf (ps : Particles S) (p : Fin ps.size) :
    (Vector.ofFn fun q => bucketOf d (Particles.get ps q).position).get p =
      bucketOf d (Particles.get ps p).position :=
  Vector.getElem_ofFn p.isLt

lemma mem_near_build {ps : Particles S} {p : Fin ps.size} {i j k radius : ℤ} :
    p ∈ (build d ps).near i j k radius ↔
      bucketOf d (Particles.get ps p).position ∈ cellsNear d i j k radius := by
  rw [build, mem_near, get_bucketsOf]

lemma coords_bucketOf (p : Vec3 S) :
    d.cells.coords (bucketOf d p).val =
      ⟨(clampIndex d.width d.width_pos (Scalar.toInt32 (Scalar.floor p.x))).val,
        (clampIndex d.height d.height_pos (Scalar.toInt32 (Scalar.floor p.y))).val,
        (clampIndex d.depth d.depth_pos (Scalar.toInt32 (Scalar.floor p.z))).val⟩ :=
  Lattice.coords_nodeOf (L := d.cells) _ _ _

/-- The bucket of a coordinate is the cell that holds it, moved onto the side. -/
lemma val_clampIndex_floor {m : ℕ} (hpos : 0 < m) (hm : m < 2 ^ 31) (x : ℝ) :
    ((clampIndex m hpos (Scalar.toInt32 (Scalar.floor (Exact.real x)))).val : ℤ) =
      min (max ⌊x⌋ 0) (m - 1) := by
  have hfloor : Scalar.toInt32 (Scalar.floor (Exact.real x)) =
      max (-2 ^ 31) (min ⌊x⌋ (2 ^ 31 - 1)) := Exact.toInt32_floor x
  rw [val_clampIndex hpos hm, hfloor]
  omega

end Positions

end Buckets

end FreeSurface

import FreeSurface.Surface.Eikonal
import FreeSurface.Field.Staggered
import FreeSurface.Field.Front

/-!
# Reinitialization by marching

Turns a level set into a signed distance up to a few cells from the surface, by accepting cells in
the order of their distance.  Solid cells take no part.

* `Marching.run` — the accepted cells: those at the surface start the queue, an accepted cell offers
  a distance to its neighbours.  Every turn either accepts a cell or shortens the queue, so it ends.
* `reinitMarching` — the level set after marching, and the order in which cells were accepted.
* `transportVelocity` — carries velocities into the air in that order.
-/

namespace FreeSurface

open scoped Literals

namespace Surface

/-- Marching stops at cells this far from the surface. -/
@[inline] def marchingLimit {S : Type} [Scalar S] : S := 4

/-- A cell that waits to be accepted at a distance. -/
structure Trial (d : Dims) (S : Type) where
  distance : S
  cell : d.Cell

/-- The state of a march: the least distance offered to each cell, the accepted cells, the waiting
ones from the nearest on, and the order of acceptance, the last cell first. -/
structure Marching (d : Dims) (S : Type) where
  dist : ScalarField d S
  accepted : Field d.cells Bool
  queue : List (Trial d S)
  order : List d.Cell

namespace Marching

variable {d : Dims} {S : Type} [Scalar S]

/-- The nearer trial comes first; at equal distances, the cell of the smaller number. -/
@[inline] def precedes (t u : Trial d S) : Bool :=
  t.distance < u.distance || (!(u.distance < t.distance : Bool) && t.cell.val < u.cell.val)

/-- Puts a trial in its place. -/
def enqueue (t : Trial d S) : List (Trial d S) → List (Trial d S)
  | [] => [t]
  | u :: rest => if precedes t u then t :: u :: rest else u :: enqueue t rest

/-- Offers a cell the distance that the accepted cells around it allow. -/
def offer (accepted : Field d.cells Bool) (active : d.Cell → Bool)
    (s : ScalarField d S × List (Trial d S)) (n : d.Cell) :
    ScalarField d S × List (Trial d S) :=
  if accepted.get n || !active n then s
  else
    let known (c : d.Cell) : Bool := accepted.get c
    let candidate :=
      solveEikonal (leastAlong s.1 known n .x) (leastAlong s.1 known n .y)
        (leastAlong s.1 known n .z)
    if candidate < s.1.get n then (Field.put s.1 n candidate, enqueue ⟨candidate, n⟩ s.2) else s

/-- Accepts a cell; below the limit it offers distances to its neighbours. -/
def accept (m : Marching d S) (active : d.Cell → Bool) (t : Trial d S)
    (rest : List (Trial d S)) : Marching d S :=
  let accepted := Field.put m.accepted t.cell true
  let offered :=
    if marchingLimit ≤ t.distance then (m.dist, rest)
    else (d.cells.neighbors t.cell).foldl (offer accepted active) (m.dist, rest)
  ⟨offered.1, accepted, offered.2, t.cell :: m.order⟩

/-- Accepting a cell leaves one less to accept. -/
theorem count_accept_lt (m : Marching d S) (active : d.Cell → Bool) (t : Trial d S)
    (rest : List (Trial d S)) (h : m.accepted.get t.cell = false) :
    (m.accept active t rest).accepted.count false < m.accepted.count false := by
  have hpos : 0 < m.accepted.count false :=
    Vector.count_pos_iff.2 (h ▸ Vector.getElem_mem t.cell.isLt)
  have hnode : m.accepted[t.cell.val] = false := h
  simp only [accept, Field.put]
  rw [Vector.count_set, hnode, if_pos (by decide), if_neg (by decide), Nat.add_zero]
  exact Nat.sub_lt hpos Nat.one_pos

/-- Accepts waiting cells, the nearest first, until none waits.  A cell that was accepted before or
has a better offer is passed over. -/
def run (active : d.Cell → Bool) (m : Marching d S) : Marching d S :=
  match _hq : m.queue with
  | [] => m
  | t :: rest =>
    if _ha : m.accepted.get t.cell = true then run active { m with queue := rest }
    else if m.dist.get t.cell < t.distance then run active { m with queue := rest }
    else run active (m.accept active t rest)
termination_by (m.accepted.count false, m.queue.length)
decreasing_by
  all_goals first
    | (apply Prod.Lex.right; simp [_hq])
    | (apply Prod.Lex.left; exact count_accept_lt m active t rest (by simpa using _ha))

/-- The march at its start: cells at the surface wait at their estimated distance. -/
def start (phi : ScalarField d S) (active : d.Cell → Bool) : Marching d S :=
  d.cells.nodes.foldl
    (fun m c =>
      if active c then
        match interfaceDistance? phi active c with
        | some s => { m with dist := Field.put m.dist c s, queue := enqueue ⟨s, c⟩ m.queue }
        | none => m
      else m)
    ⟨Field.constant d.cells Scalar.infinity, Field.constant d.cells false, [], []⟩

end Marching

variable {d : Dims} {S : Type} [Scalar S]

/-- The level set with every cell but the solid ones at its signed distance to the surface, cut off
at the limit, and the accepted cells in order. -/
def reinitMarching (phi : ScalarField d S) (g : Flags d) : ScalarField d S × List d.Cell :=
  let active (c : d.Cell) : Bool := !g.isObstacle c
  let m := Marching.run active (Marching.start phi active)
  (phi.update fun c s =>
    if active c then signOf (isInside s) * Scalar.min (m.dist.get c) marchingLimit else s,
    m.order.reverse)

/-- Carries velocities into the air.  Faces of liquid cells are known at the start; then, cell by
cell in the given order, the faces of an air cell that are neither known nor at a wall take the mean
of the known faces around them, and are known from then on. -/
def transportVelocity (order : List d.Cell) (phi : ScalarField d S) (g : Flags d)
    (v : Staggered d S) : Staggered d S :=
  v.updateActive fun a component =>
    let rule : Front.Rule (d.faces a) S := fun f values =>
      if g.isWallFace a f then none else Front.mean? values
    let start : Front (d.faces a) S := ⟨component, Field.tabulate (g.isFluidFace a)⟩
    let front := order.foldl
      (fun front c =>
        if isInside (phi.get c) then front
        else (front.settle rule (d.cellFace a c .lower)).settle rule (d.cellFace a c .upper))
      start
    front.values

end Surface

end FreeSurface

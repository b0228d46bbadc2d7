import FreeSurface.Field.Basic

/-!
# Fronts

Values that spread from settled nodes to their neighbours.  Level sets are carried into obstacles
and away from the surface this way, and velocities into the air; they differ in where the front
starts, in the rule for a new value and in how far it goes.

* `Front.around` — what a node can see: the values of its settled neighbours.
* `Front.nextLayer` — new values for the unsettled nodes, all read off the same front.
* `Front.spread` — layer after layer, until none is left or the limit is reached.
* `Front.settle` — one node at once, for fronts that move in a given order.
-/

namespace FreeSurface

open scoped Literals

/-- A field of which some nodes have their final value. -/
structure Front (L : Lattice) (α : Type) where
  values : Field L α
  settled : Field L Bool

namespace Front

variable {L : Lattice} {α : Type}

/-- The values of the settled neighbours of a node. -/
def around (front : Front L α) (n : L.Node) : List α :=
  (L.neighbors n).filterMap fun m => if front.settled.get m then some (front.values.get m) else none

/-- How an unsettled node takes its value from its settled neighbours, if it can. -/
abbrev Rule (L : Lattice) (α : Type) : Type := L.Node → List α → Option α

/-- The unsettled nodes that get a value, with it. -/
def nextLayer (front : Front L α) (rule : Rule L α) : List (L.Node × α) :=
  L.nodes.filterMap fun n =>
    if front.settled.get n then none else (rule n (front.around n)).map (n, ·)

/-- Settles nodes at the given values. -/
def settleAll (front : Front L α) (layer : List (L.Node × α)) : Front L α :=
  layer.foldl
    (fun front u => ⟨Field.put front.values u.1 u.2, Field.put front.settled u.1 true⟩) front

/-- Settles layer after layer.  Each layer that is not empty settles a node, so as many layers as
there are nodes are enough to reach all that can be reached. -/
def spread (rule : Rule L α) : (limit : Nat) → Front L α → Front L α
  | 0, front => front
  | limit + 1, front =>
    match front.nextLayer rule with
    | [] => front
    | layer => spread rule limit (front.settleAll layer)

/-- Settles one node from its neighbours, if it is not settled yet and can be. -/
def settle (front : Front L α) (rule : Rule L α) (n : L.Node) : Front L α :=
  if front.settled.get n then front
  else match rule n (front.around n) with
    | some a => ⟨Field.put front.values n a, Field.put front.settled n true⟩
    | none => front

/-- The mean of some values, summed in order; there is none of no values. -/
def mean? {S : Type} [Scalar S] (values : List S) : Option S :=
  if values.isEmpty then none
  else some (values.foldl (· + ·) 0 / Scalar.ofNat values.length)

end Front

end FreeSurface

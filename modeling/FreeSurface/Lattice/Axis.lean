/-!
# Axes and sides

The three directions of a lattice, and the two ways to go along each.
-/

namespace FreeSurface

/-- A direction of the lattice, and the velocity component that points along it. -/
inductive Axis where
  | x
  | y
  | z
deriving DecidableEq, Repr, Inhabited

namespace Axis

/-- All axes, in order. -/
def all : List Axis := [.x, .y, .z]

/-- The position of an axis in the order. -/
def index : Axis → Nat
  | .x => 0
  | .y => 1
  | .z => 2

theorem mem_all (a : Axis) : a ∈ all := by
  cases a <;> simp [all]

end Axis

/-- The two ways to go along an axis. -/
inductive Side where
  | lower
  | upper
deriving DecidableEq, Repr, Inhabited

namespace Side

/-- Both sides, the lower one first. -/
def all : List Side := [.lower, .upper]

/-- The way back. -/
def opposite : Side → Side
  | .lower => .upper
  | .upper => .lower

end Side

end FreeSurface

import FreeSurface.Field.Flags

/-!
# Particles

Points of liquid that carry a velocity.  Their order matters: buckets, thinning and every sum over
particles go by it.
-/

namespace FreeSurface

open scoped Literals

/-- A point that carries a velocity. -/
structure Particle (S : Type) where
  position : Vec3 S
  velocity : Vec3 S
deriving BEq, Inhabited

/-- The particles of a simulation, in order. -/
abbrev Particles (S : Type) : Type := Array (Particle S)

namespace Particle

variable {S : Type} [Scalar S]

def atRest (position : Vec3 S) : Particle S := ⟨position, Vec3.zero⟩

/-- Position and velocity are finite. -/
@[inline] def isFinite (p : Particle S) : Bool := p.position.isFinite && p.velocity.isFinite

end Particle

namespace Particles

variable {S : Type} [Scalar S]

/-- A particle by its place in the list. -/
@[inline] def get {S : Type} (ps : Particles S) (p : Fin ps.size) : Particle S := ps[p]

def allFinite (ps : Particles S) : Bool := ps.all Particle.isFinite

/-- The particle lies in a solid cell or outside the domain. -/
def isMisplaced {d : Dims} (g : Flags d) (p : Particle S) : Bool :=
  match d.cellAt? p.position with
  | some c => g.isObstacle c
  | none => true

/-- The number of particles in solid cells or outside the domain. -/
def countMisplaced {d : Dims} (g : Flags d) (ps : Particles S) : Nat := ps.countP (isMisplaced g)

end Particles

end FreeSurface

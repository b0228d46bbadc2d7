import FreeSurface.Lattice.Axis
import FreeSurface.Number.Scalar

/-!
# Vectors

Points and velocities of the plane and of space.  In a planar domain the third coordinate of a
position is `1/2` and that of a velocity is `0`.
-/

namespace FreeSurface

open scoped Literals

/-- A triple of scalars, one for each axis. -/
structure Vec3 (S : Type) where
  x : S
  y : S
  z : S
deriving BEq, Inhabited

namespace Vec3

variable {S : Type} [Scalar S]

/-- The vector with three equal entries. -/
@[inline] def splat (s : S) : Vec3 S := ⟨s, s, s⟩

@[inline] def zero : Vec3 S := splat 0

@[inline] instance : Add (Vec3 S) := ⟨fun a b => ⟨a.x + b.x, a.y + b.y, a.z + b.z⟩⟩

@[inline] instance : Sub (Vec3 S) := ⟨fun a b => ⟨a.x - b.x, a.y - b.y, a.z - b.z⟩⟩

/-- Entry by entry. -/
@[inline] instance : Mul (Vec3 S) := ⟨fun a b => ⟨a.x * b.x, a.y * b.y, a.z * b.z⟩⟩

/-- Scaling. -/
@[inline] instance : HMul (Vec3 S) S (Vec3 S) := ⟨fun a s => ⟨a.x * s, a.y * s, a.z * s⟩⟩

@[inline] def get (v : Vec3 S) : Axis → S
  | .x => v.x
  | .y => v.y
  | .z => v.z

/-- The vector whose entry along each axis is given. -/
@[inline] def ofAxes (f : Axis → S) : Vec3 S := ⟨f .x, f .y, f .z⟩

/-- Applies a function to every entry. -/
@[inline] def map (f : S → S) (v : Vec3 S) : Vec3 S := ⟨f v.x, f v.y, f v.z⟩

/-- The inner product, summed from the first axis on. -/
@[inline] def dot (a b : Vec3 S) : S := a.x * b.x + a.y * b.y + a.z * b.z

@[inline] def lengthSquared (v : Vec3 S) : S := v.dot v

@[inline] def length (v : Vec3 S) : S := Scalar.sqrt (v.dot v)

@[inline] def maxEntry (v : Vec3 S) : S := Scalar.max v.x (Scalar.max v.y v.z)

@[inline] def isFinite (v : Vec3 S) : Bool :=
  Scalar.isFinite v.x && Scalar.isFinite v.y && Scalar.isFinite v.z

end Vec3

end FreeSurface

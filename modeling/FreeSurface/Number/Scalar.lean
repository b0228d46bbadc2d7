/-!
# Scalars

The arithmetic every numerical definition of the library is written over.  A definition fixes the
order of its operations and leaves the carrier open, so one text has several readings: machine
numbers (`Number/Machine.lean`), where each operation rounds, and exact numbers, where none does.

* `Scalar` — field operations, comparisons that can be decided, roots, rounding to whole numbers,
  and the values that are no finite number.
* `Literals` — numerals of a carrier, opened where a definition needs them.
* `Scalar.min`, `Scalar.max`, `Scalar.clamp` — the comparisons' derived operations.  An operand
  that is no number gives way to the other one in `min` and `max`, and passes through `clamp`.
* `Precision` — two carriers of different width and the roundings between them: fields are stored
  narrow, while time, pressure and energy are accumulated wide.
-/

namespace FreeSurface

/-- A carrier of numerical computation. -/
class Scalar (α : Type) extends Add α, Sub α, Mul α, Div α, Neg α, LT α, LE α, BEq α where
  /-- The strict order is decided; it is false when an operand is no number. -/
  decLt : DecidableLT α
  /-- The order is decided; it is false when an operand is no number. -/
  decLe : DecidableLE α
  /-- The number nearest to a natural number. -/
  ofNat : Nat → α
  /-- The number nearest to `mantissa / 10 ^ places`. -/
  ofDecimal : (mantissa places : Nat) → α
  /-- Above every finite number. -/
  infinity : α
  /-- The square root. -/
  sqrt : α → α
  abs : α → α
  /-- The largest whole number not above. -/
  floor : α → α
  /-- The whole part as a natural number below `2 ^ 64`: too large a number gives the largest of
  these, a negative number and one that is no number give zero. -/
  toNat : α → Nat
  /-- Neither infinite nor no number. -/
  isFinite : α → Bool
  /-- The result of an operation without a meaning, such as `0 / 0`. -/
  isNaN : α → Bool
  /-- Zero, or so close to it that the carrier has lost digits. -/
  vanishes : α → Bool

@[always_inline]
instance Scalar.instDecidableLT {α : Type} [Scalar α] : DecidableLT α :=
  Scalar.decLt

@[always_inline]
instance Scalar.instDecidableLE {α : Type} [Scalar α] : DecidableLE α :=
  Scalar.decLe

/-! ## Literals -/

namespace Literals

/-- Whole literals denote the nearest number. -/
scoped instance (priority := low) instOfNat {α : Type} [Scalar α] (n : Nat) : OfNat α n :=
  ⟨Scalar.ofNat n⟩

/-- Decimal literals denote the nearest number. -/
scoped instance (priority := low) instOfScientific {α : Type} [Scalar α] : OfScientific α :=
  ⟨fun mantissa negative places =>
    if negative then Scalar.ofDecimal mantissa places
    else Scalar.ofNat (mantissa * Nat.pow 10 places)⟩

end Literals

/-! ## Derived operations -/

open scoped Literals

namespace Scalar

variable {α : Type} [Scalar α]

/-- The smaller operand, or the other one when an operand is no number. -/
@[inline] def min (a b : α) : α :=
  if isNaN a then b else if b < a then b else a

/-- The larger operand, or the other one when an operand is no number. -/
@[inline] def max (a b : α) : α :=
  if isNaN a then b else if a < b then b else a

/-- Moves a number to the nearer bound when it lies outside `[lo, hi]`. -/
@[inline] def clamp (x lo hi : α) : α :=
  let raised := if x < lo then lo else x
  if hi < raised then hi else raised

/-- The whole part as a signed word of 32 bits, moved to the nearer end when it does not fit. -/
@[inline] def toInt32 (x : α) : Int :=
  if x < 0 then -((Nat.min (toNat (-x)) 0x80000000 : Nat) : Int)
  else ((Nat.min (toNat x) 0x7fffffff : Nat) : Int)

@[inline] def half : α := ofDecimal 5 1

end Scalar

/-- A narrow carrier `S` and the wide carrier `D` that goes with it. -/
class Precision (S : Type) (D : outParam Type) where
  /-- The same number, in the wide carrier. -/
  widen : S → D
  /-- The nearest number of the narrow carrier. -/
  narrow : D → S

export Precision (widen narrow)

end FreeSurface

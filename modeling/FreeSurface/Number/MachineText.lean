import FreeSurface.Number.Machine
import FreeSurface.Text.NumberText

/-!
# Text of machine numbers

How machine numbers are written and read.

* `Machine.decodeSingle`, `Machine.decodeDouble` — mantissa and exponent from the bits.
* `Machine.significand` — the digits of a numeral collected into a word of 64 bits, and the power
  of ten that remains; digits that do not fit are dropped.
* `Machine.doubleOfNumeral?` — that word as a double, multiplied or divided by the power of ten.
  Each of these steps rounds, so the result need not be the nearest double.
* `Machine.singleOfNumeral?` — a whole number is rounded to a single at once, any other numeral by
  way of a double.
-/

namespace FreeSurface

namespace Machine

/-- How a format of `fractionBits` bits of fraction stores a number, given its parts; `bias` is the
exponent of the last bit of a number whose stored exponent is zero. -/
def decodeParts (fractionBits : Nat) (bias : Int) (top : Nat) (negative : Bool)
    (exponent fraction : Nat) : Binary :=
  if exponent = top then if fraction = 0 then .infinite negative else .nan
  else if exponent = 0 then .finite negative fraction bias false
  else
    .finite negative (Nat.pow 2 fractionBits + fraction) (bias + (exponent : Int) - 1)
      (fraction == 0 && 1 < exponent)

def decodeSingle (x : Float32) : Binary :=
  let bits := x.toBits
  decodeParts 23 (-149) 255 (bits >>> 31 == 1) ((bits >>> 23) &&& 0xff).toNat
    (bits &&& 0x7fffff).toNat

def decodeDouble (x : Float) : Binary :=
  let bits := x.toBits
  decodeParts 52 (-1074) 2047 (bits >>> 63 == 1) ((bits >>> 52) &&& 0x7ff).toNat
    (bits &&& 0xfffffffffffff).toNat

/-- The greatest word of 64 bits. -/
def maxWord : Nat := UInt64.size - 1

/-- Digits collected so far, and the power of ten that goes with them. -/
structure Collected where
  word : Nat
  power : Int
  full : Bool

/-- Takes a digit before the point.  One that does not fit is dropped, with all after it, and
stands for a factor of ten. -/
def takeWhole (c : Collected) (d : Digit) : Collected :=
  if c.full || maxWord < 10 * c.word + d.val then { c with full := true, power := c.power + 1 }
  else { c with word := 10 * c.word + d.val }

/-- Takes a digit after the point.  One that does not fit is dropped, with all after it. -/
def takeFraction (c : Collected) (d : Digit) : Collected :=
  if c.full || maxWord < 10 * c.word + d.val then { c with full := true }
  else { c with word := 10 * c.word + d.val, power := c.power - 1 }

/-- The digits of a numeral as a word, and the power of ten before its exponent is considered. -/
def significand (n : Numeral) : Nat × Int :=
  let whole := n.whole.foldl takeWhole ⟨0, 0, false⟩
  let all := (n.fraction.getD []).foldl takeFraction { whole with full := false }
  (all.word, all.power)

/-- The greatest power of ten that is a double. -/
def maxPower : Nat := 308

def powerOfTen (k : Nat) : Float := Float.ofScientific 1 false k

/-- Divides by a power of ten, in as many steps as it takes. -/
def divideByPower (f : Float) (k : Nat) : Float :=
  if k ≤ maxPower then f / powerOfTen k
  else if f == 0 then f
  else divideByPower (f / powerOfTen maxPower) (k - maxPower)
termination_by k
decreasing_by simp only [maxPower] at *; omega

/-- A word times a power of ten, unless it is too large. -/
def scaleWord? (word : Nat) (power : Int) : Option Float :=
  let f : Float := Scalar.ofNat word
  if power < 0 then some (divideByPower f (-power).toNat)
  else if f == 0 then some f
  else if power ≤ maxPower then
    let scaled := f * powerOfTen power.toNat
    if scaled.isFinite then some scaled else none
  else none

def exponentOf (n : Numeral) : Int :=
  match n.exponent with
  | some (.minus, ds) => -(Digit.value ds : Int)
  | some (_, ds) => (Digit.value ds : Int)
  | none => 0

/-- A numeral of a whole number that fits a word of 64 bits, unsigned or, when negative, signed. -/
def fittingInteger? (n : Numeral) : Option Nat :=
  let value := Digit.value n.whole
  if !n.isInteger then none
  else if n.negative then if 0 < value ∧ value ≤ 0x8000000000000000 then some value else none
  else if value ≤ maxWord then some value else none

/-- The double of a numeral, unless it is too large. -/
def doubleOfNumeral? (n : Numeral) : Option Float :=
  let magnitude? :=
    match fittingInteger? n with
    | some value => some (Scalar.ofNat value)
    | none =>
      let (word, power) := significand n
      scaleWord? word (power + exponentOf n)
  magnitude?.map fun f => if n.negative then -f else f

/-- The single of a numeral, unless the numeral is too large for a double. -/
def singleOfNumeral? (n : Numeral) : Option Float32 :=
  match fittingInteger? n with
  | some value =>
    let f : Float32 := Scalar.ofNat value
    some (if n.negative then -f else f)
  | none => (doubleOfNumeral? n).map narrow

end Machine

instance : NumberText Float32 := ⟨Machine.decodeSingle⟩

instance : NumberText Float := ⟨Machine.decodeDouble⟩

instance : JsonScalar Float32 where
  numeral? x := documentNumeral ⟨-6, 12⟩ (Machine.decodeSingle x)
  ofNumeral? := Machine.singleOfNumeral?

instance : JsonScalar Float where
  numeral? x := documentNumeral ⟨-5, 15⟩ (Machine.decodeDouble x)
  ofNumeral? := Machine.doubleOfNumeral?

end FreeSurface

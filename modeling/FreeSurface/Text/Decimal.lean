/-!
# Decimal text of binary numbers

Exact arithmetic on binary fractions, from which every number the solver prints gets its digits.

* `Binary` — a number as it is stored: a whole number times a power of two.
* `Binary.shortest` — the fewest digits that single the number out among its neighbours; of equally
  short ones the nearest.
* `roundedDigits` — the number on a decimal grid, to nearest, ties to even.
-/

namespace FreeSurface

/-- A number as a format stores it. -/
inductive Binary where
  | nan
  | infinite (negative : Bool)
  /-- The value `mantissa · 2 ^ exponent`.  When `closeBelow` holds, the next lower number of the
  format is half as far away as the next higher one. -/
  | finite (negative : Bool) (mantissa : Nat) (exponent : Int) (closeBelow : Bool)
deriving DecidableEq, Repr

/-- Which of two equally near candidates is taken. -/
inductive TieRule where
  | up
  | toEven
deriving DecidableEq, Repr

/-- The digits of a positive number and the exponent of the first of them: the value is
`d₁.d₂d₃… · 10 ^ exponent`. -/
structure Digits where
  digits : List Nat
  exponent : Int
deriving DecidableEq, Repr

/-- The decimal digits of a number, most significant first; none of zero. -/
def decimalDigits (n : Nat) : List Nat :=
  if n = 0 then [] else (Nat.toDigits 10 n).map fun c => c.toNat - '0'.toNat

/-- A positive fraction. -/
structure Fraction where
  num : Nat
  den : Nat
deriving DecidableEq, Repr

namespace Fraction

def ofBinary (m : Nat) (e : Int) : Fraction := ⟨m * Nat.pow 2 e.toNat, Nat.pow 2 (-e).toNat⟩

/-- The fraction divided by a power of ten. -/
def scale (f : Fraction) (k : Int) : Fraction :=
  ⟨f.num * Nat.pow 10 (-k).toNat, f.den * Nat.pow 10 k.toNat⟩

def belowPowerOfTen (f : Fraction) (k : Int) : Bool := (f.scale k).num < (f.scale k).den

/-- The first exponent at or after `k` whose next power of ten is above the fraction. -/
def exponentFrom (f : Fraction) : (tries : Nat) → (k : Int) → Int
  | 0, k => k
  | tries + 1, k => if f.belowPowerOfTen (k + 1) then k else f.exponentFrom tries (k + 1)

/-- The exponent of the first decimal digit of a positive fraction. -/
def decimalExponent (f : Fraction) : Int :=
  let bits : Int := (f.num.log2 : Int) - f.den.log2
  f.exponentFrom 4 (bits * 30103 / 100000 - 2)

/-- The whole number nearest to a fraction, ties to even. -/
def round (f : Fraction) : Nat :=
  let q := f.num / f.den
  let r := f.num % f.den
  if f.den < 2 * r || (2 * r == f.den && q % 2 == 1) then q + 1 else q

end Fraction

namespace Binary

/-- The points at most half way to the neighbours of `m · 2 ^ e`, as the fractions at their ends;
the ends belong to it when `m` is even. -/
structure Interval where
  lower : Fraction
  upper : Fraction
  closed : Bool

/-- The points that are read back as `m · 2 ^ e`. -/
def interval (m : Nat) (e : Int) (closeBelow : Bool) : Interval where
  lower := Fraction.ofBinary (4 * m - if closeBelow then 1 else 2) (e - 2)
  upper := Fraction.ofBinary (4 * m + 2) (e - 2)
  closed := m % 2 == 0

/-- The multiple `c` of the grid `10 ^ k` lies in an interval. -/
def Interval.contains (i : Interval) (c : Nat) (k : Int) : Bool :=
  let lo := i.lower.scale k
  let hi := i.upper.scale k
  if i.closed then lo.num ≤ c * lo.den && c * hi.den ≤ hi.num
  else lo.num < c * lo.den && c * hi.den < hi.num

/-- The point of the grid `10 ^ k` that stands for a value, if one next to it lies in the
interval. -/
def candidate? (value : Fraction) (i : Interval) (tie : TieRule) (k : Int) : Option Nat :=
  let v := value.scale k
  let below := v.num / v.den
  let rest := v.num % v.den
  match i.contains below k && below != 0, i.contains (below + 1) k with
  | true, true =>
    if 2 * rest < v.den then some below
    else if v.den < 2 * rest then some (below + 1)
    else match tie with
      | .up => some (below + 1)
      | .toEven => some (if below % 2 == 0 then below else below + 1)
  | true, false => some below
  | false, true => some (below + 1)
  | false, false => none

/-- Digits without the zeros at their end. -/
def trim (digits : List Nat) : List Nat := (digits.reverse.dropWhile (· == 0)).reverse

/-- Tries grids from coarse to fine: `10 ^ k` down to `10 ^ (k - tries)`. -/
def search (value : Fraction) (i : Interval) (tie : TieRule) : (tries : Nat) → (k : Int) → Digits
  | 0, k =>
    let c := (value.scale k).round
    ⟨trim (decimalDigits c), k + ((decimalDigits c).length : Int) - 1⟩
  | tries + 1, k =>
    match candidate? value i tie k with
    | some c => ⟨trim (decimalDigits c), k + ((decimalDigits c).length : Int) - 1⟩
    | none => search value i tie tries (k - 1)

/-- The fewest digits that are read back as `m · 2 ^ e`, for positive `m`. -/
def shortest (m : Nat) (e : Int) (closeBelow : Bool) (tie : TieRule) : Digits :=
  let value := Fraction.ofBinary m e
  search value (interval m e closeBelow) tie 20 (value.decimalExponent)

end Binary

end FreeSurface

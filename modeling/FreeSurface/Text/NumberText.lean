import FreeSurface.Text.Decimal
import FreeSurface.Text.Numeral

/-!
# Numbers in messages and documents

How numbers read.  Messages write them out in full, or rounded to a number of places; documents
write the fewest digits that are read back as the same number.

* `NumberText` — carriers whose numbers can be written in messages.
* `JsonScalar` — carriers whose numbers can be written in documents and read back.
* `NumberText.plain`, `NumberText.fixed`, `NumberText.scientific` — the forms used in messages.
* `documentNumeral` — the form used in documents.
-/

namespace FreeSurface

/-- Numbers that can be written in messages. -/
class NumberText (α : Type) where
  /-- How a number is stored. -/
  decode : α → Binary

/-- Numbers that can be written in documents. -/
class JsonScalar (α : Type) where
  /-- The numeral of a finite number. -/
  numeral? : α → Option Numeral
  /-- The number of a numeral, unless it is too large. -/
  ofNumeral? : Numeral → Option α

def digitText (d : Nat) : String := toString d

def digitsText (ds : List Nat) : String := String.join (ds.map digitText)

/-- The first `n` of some digits, filled up with zeros. -/
def padTo {α : Type} (zero : α) (n : Nat) (ds : List α) : List α :=
  ds.take n ++ List.replicate (n - ds.length) zero

namespace NumberText

def signText (negative : Bool) : String := if negative then "-" else ""

/-- Digits written out in full, with a fraction only if there is one. -/
def plainDigits (d : Digits) : String :=
  if d.exponent < 0 then
    "0." ++ digitsText (List.replicate (-d.exponent - 1).toNat 0 ++ d.digits)
  else
    let places := d.exponent.toNat + 1
    let fraction := d.digits.drop places
    digitsText (padTo 0 places d.digits)
      ++ (if fraction.isEmpty then "" else "." ++ digitsText fraction)

/-- A number with the fewest digits that are read back as the same, written out in full. -/
def plain {α : Type} [NumberText α] (x : α) : String :=
  match decode x with
  | .nan => "NaN"
  | .infinite negative => signText negative ++ "inf"
  | .finite negative m e closeBelow =>
    signText negative ++
      (if m = 0 then "0" else plainDigits (Binary.shortest m e closeBelow .up))

/-- The value `n / 10 ^ places`, with so many places. -/
def withPlaces (n places : Nat) : String :=
  let whole := toString (n / Nat.pow 10 places)
  if places = 0 then whole
  else
    let fraction := toString (n % Nat.pow 10 places)
    whole ++ "." ++ String.join (List.replicate (places - fraction.length) "0") ++ fraction

/-- A number rounded to a number of places. -/
def fixed {α : Type} [NumberText α] (places : Nat) (x : α) : String :=
  match decode x with
  | .nan => "NaN"
  | .infinite negative => signText negative ++ "inf"
  | .finite negative m e _ =>
    signText negative ++ withPlaces ((Fraction.ofBinary m e).scale (-(places : Int))).round places

/-- A number as a digit, a rounded fraction, and a power of ten. -/
def scientific {α : Type} [NumberText α] (places : Nat) (x : α) : String :=
  match decode x with
  | .nan => "NaN"
  | .infinite negative => signText negative ++ "inf"
  | .finite negative m e _ =>
    if m = 0 then signText negative ++ withPlaces 0 places ++ "e0"
    else
      let value := Fraction.ofBinary m e
      let k := value.decimalExponent
      let n := (value.scale (k - places)).round
      let carried := n == Nat.pow 10 (places + 1)
      signText negative ++ withPlaces (if carried then n / 10 else n) places
        ++ "e" ++ toString (if carried then k + 1 else k)

end NumberText

/-! ## Documents -/

/-- Which numbers are written without an exponent: those whose first digit stands at a power of ten
from `least` to `greatest`. -/
structure PlainRange where
  least : Int
  greatest : Int
deriving DecidableEq, Repr

/-- A small number as a digit. -/
def toDigit (n : Nat) : Digit := ⟨n % 10, Nat.mod_lt _ (by decide)⟩

/-- The numeral of digits: a fraction of at least one digit within the range of numbers without an
exponent, and an exponent with its sign outside of it. -/
def numeralOfDigits (range : PlainRange) (negative : Bool) (d : Digits) : Numeral :=
  let digits := d.digits.map toDigit
  if range.least ≤ d.exponent ∧ d.exponent ≤ range.greatest then
    if d.exponent < 0 then
      ⟨negative, [Digit.zero],
        some (List.replicate (-d.exponent - 1).toNat Digit.zero ++ digits), none⟩
    else
      let places := d.exponent.toNat + 1
      let whole := padTo Digit.zero places digits
      let fraction := digits.drop places
      ⟨negative, whole, some (if fraction.isEmpty then [Digit.zero] else fraction), none⟩
  else
    let rest := digits.drop 1
    ⟨negative, digits.take 1, if rest.isEmpty then none else some rest,
      some (if d.exponent < 0 then .minus else .plus, Digit.ofNat d.exponent.natAbs)⟩

/-- The numeral of a number in a document; there is none of a number that is not finite. -/
def documentNumeral (range : PlainRange) : Binary → Option Numeral
  | .nan => none
  | .infinite _ => none
  | .finite negative m e closeBelow =>
    if m = 0 then some ⟨negative, [Digit.zero], some [Digit.zero], none⟩
    else some (numeralOfDigits range negative (Binary.shortest m e closeBelow .toEven))

end FreeSurface

/-!
# Numerals

Decimal numerals as they are written in a document: a sign, digits, and perhaps a fraction and an
exponent.

* `Numeral.write` — the characters of a numeral.
* `Numeral.read?` — the longest numeral at the front of a text, and what follows it.
-/

namespace FreeSurface

abbrev Digit : Type := Fin 10

namespace Digit

def zero : Digit := 0

def toChar (d : Digit) : Char := Char.ofNat ('0'.toNat + d.val)

def ofChar? (c : Char) : Option Digit :=
  if h : '0'.toNat ≤ c.toNat ∧ c.toNat ≤ '9'.toNat then
    some ⟨c.toNat - '0'.toNat, by have := h.1; have := h.2; simp at *; omega⟩
  else none

/-- The number that digits denote. -/
def value (ds : List Digit) : Nat := ds.foldl (fun n d => 10 * n + d.val) 0

/-- The digits of a number; zero has one. -/
def ofNat (n : Nat) : List Digit := (Nat.toDigits 10 n).filterMap ofChar?

/-- The digits at the front of a text, and what follows them. -/
def span : List Char → List Digit × List Char
  | [] => ([], [])
  | c :: rest =>
    match ofChar? c with
    | some d => let (ds, rest) := span rest; (d :: ds, rest)
    | none => ([], c :: rest)

end Digit

/-- How the exponent of a numeral is signed. -/
inductive ExponentSign where
  | unsigned
  | plus
  | minus
deriving DecidableEq, Repr

/-- A decimal numeral. -/
structure Numeral where
  negative : Bool
  whole : List Digit
  fraction : Option (List Digit)
  exponent : Option (ExponentSign × List Digit)
deriving DecidableEq, Repr

namespace Numeral

def ofInt (i : Int) : Numeral := ⟨i < 0, Digit.ofNat i.natAbs, none, none⟩

/-- A numeral without fraction and exponent. -/
def isInteger (n : Numeral) : Bool := n.fraction.isNone && n.exponent.isNone

def writeSign : ExponentSign → List Char
  | .unsigned => []
  | .plus => ['+']
  | .minus => ['-']

def write (n : Numeral) : List Char :=
  (if n.negative then ['-'] else []) ++ n.whole.map Digit.toChar
    ++ (match n.fraction with
      | some ds => '.' :: ds.map Digit.toChar
      | none => [])
    ++ (match n.exponent with
      | some (sign, ds) => 'e' :: writeSign sign ++ ds.map Digit.toChar
      | none => [])

/-- The whole part at the front of a text: a single zero, or digits that do not begin with one. -/
def readWhole? (s : List Char) : Option (List Digit × List Char) :=
  match Digit.span s with
  | ([], _) => none
  | (d :: ds, rest) => if d = Digit.zero ∧ ds ≠ [] then none else some (d :: ds, rest)

/-- The fraction at the front of a text, if there is one; a point must be followed by a digit. -/
def readFraction? : List Char → Option (Option (List Digit) × List Char)
  | '.' :: s =>
    match Digit.span s with
    | ([], _) => none
    | (ds, rest) => some (some ds, rest)
  | s => some (none, s)

/-- The sign at the front of a text. -/
def readSign : List Char → ExponentSign × List Char
  | '+' :: s => (.plus, s)
  | '-' :: s => (.minus, s)
  | s => (.unsigned, s)

/-- The exponent at the front of a text, if there is one; its mark must be followed by digits. -/
def readExponent? (s : List Char) : Option (Option (ExponentSign × List Digit) × List Char) :=
  match s with
  | c :: rest =>
    if c = 'e' ∨ c = 'E' then
      let (sign, digits) := readSign rest
      match Digit.span digits with
      | ([], _) => none
      | (ds, rest) => some (some (sign, ds), rest)
    else some (none, s)
  | [] => some (none, [])

/-- The sign of a numeral at the front of a text. -/
def readNegative : List Char → Bool × List Char
  | '-' :: s => (true, s)
  | s => (false, s)

/-- The numeral at the front of a text, and what follows it. -/
def read? (s : List Char) : Option (Numeral × List Char) := do
  let (negative, s) := readNegative s
  let (whole, s) ← readWhole? s
  let (fraction, s) ← readFraction? s
  let (exponent, s) ← readExponent? s
  return (⟨negative, whole, fraction, exponent⟩, s)

end Numeral

end FreeSurface

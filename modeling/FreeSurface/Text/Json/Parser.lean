import FreeSurface.Text.Json.Basic

/-!
# Reading JSON

* `Json.parse?` — the document of a text, if the text is one: nothing but blanks around it, no
  comments, no comma without an item after it.

**Fuel.**  The parts of the parser call each other with less fuel each time; two units for each
character are enough, since a bracket takes one character and two calls.
-/

namespace FreeSurface

namespace Json

/-- A character that may stand between the parts of a document. -/
def isBlank (c : Char) : Bool := c == ' ' || c == '\n' || c == '\t' || c == '\r'

/-- A text without the blanks at its front. -/
def skipBlanks (s : List Char) : List Char := s.dropWhile isBlank

/-- The number of a hexadecimal digit. -/
def hexValue? (c : Char) : Option Nat :=
  if '0' ≤ c ∧ c ≤ '9' then some (c.toNat - '0'.toNat)
  else if 'a' ≤ c ∧ c ≤ 'f' then some (c.toNat - 'a'.toNat + 10)
  else if 'A' ≤ c ∧ c ≤ 'F' then some (c.toNat - 'A'.toNat + 10)
  else none

/-- The code unit of four hexadecimal digits. -/
def unit? (a b c d : Char) : Option UInt16 := do
  let a ← hexValue? a
  let b ← hexValue? b
  let c ← hexValue? c
  let d ← hexValue? d
  return (a * 4096 + b * 256 + c * 16 + d).toUInt16

/-- The character that an escape of one letter stands for. -/
def unescape? (c : Char) : Option Char :=
  if c = '"' ∨ c = '\\' ∨ c = '/' then some c
  else if c = 'n' then some '\n'
  else if c = 'r' then some '\r'
  else if c = 't' then some '\t'
  else if c = 'b' then some '\x08'
  else if c = 'f' then some '\x0c'
  else none

/-- The rest of a string up to its closing quote, and what follows it. -/
def stringBody? : List Char → Option (JsonString × List Char)
  | [] => none
  | '"' :: rest => some ([], rest)
  | '\\' :: 'u' :: a :: b :: c :: d :: rest => do
    let u ← unit? a b c d
    let (s, rest) ← stringBody? rest
    return (.unit u :: s, rest)
  | '\\' :: e :: rest => do
    let c ← unescape? e
    let (s, rest) ← stringBody? rest
    return (.char c :: s, rest)
  | c :: rest =>
    if c.toNat < 0x20 ∨ c = '\\' then none
    else (stringBody? rest).map fun (s, rest) => (.char c :: s, rest)

mutual

/-- The document at the front of a text, and what follows it. -/
def value? : (fuel : Nat) → List Char → Option (Json × List Char)
  | 0, _ => none
  | fuel + 1, s =>
    match skipBlanks s with
    | 'n' :: 'u' :: 'l' :: 'l' :: rest => some (.null, rest)
    | 't' :: 'r' :: 'u' :: 'e' :: rest => some (.bool true, rest)
    | 'f' :: 'a' :: 'l' :: 's' :: 'e' :: rest => some (.bool false, rest)
    | '"' :: rest => (stringBody? rest).map fun (s, rest) => (.string s, rest)
    | '[' :: rest =>
      match skipBlanks rest with
      | ']' :: rest => some (.array [], rest)
      | _ => (itemsFrom? fuel rest).map fun (items, rest) => (.array items, rest)
    | '\x7b' :: rest =>
      match skipBlanks rest with
      | '\x7d' :: rest => some (.object [], rest)
      | _ => (fieldsFrom? fuel rest).map fun (fields, rest) => (.object fields, rest)
    | s => (Numeral.read? s).map fun (n, rest) => (.number n, rest)

/-- The items at the front of a text up to the end of their array, and what follows it. -/
def itemsFrom? : (fuel : Nat) → List Char → Option (List Json × List Char)
  | 0, _ => none
  | fuel + 1, s => do
    let (j, rest) ← value? fuel s
    match skipBlanks rest with
    | ',' :: rest => (itemsFrom? fuel rest).map fun (items, rest) => (j :: items, rest)
    | ']' :: rest => some ([j], rest)
    | _ => none

/-- The fields at the front of a text up to the end of their object, and what follows it. -/
def fieldsFrom? : (fuel : Nat) → List Char → Option (List (JsonString × Json) × List Char)
  | 0, _ => none
  | fuel + 1, s =>
    match skipBlanks s with
    | '"' :: rest => do
      let (name, rest) ← stringBody? rest
      match skipBlanks rest with
      | ':' :: rest =>
        let (j, rest) ← value? fuel rest
        match skipBlanks rest with
        | ',' :: rest =>
          (fieldsFrom? fuel rest).map fun (fields, rest) => ((name, j) :: fields, rest)
        | '\x7d' :: rest => some ([(name, j)], rest)
        | _ => none
      | _ => none
    | _ => none

end

def parseChars? (s : List Char) : Option Json :=
  match value? (2 * s.length + 2) s with
  | some (j, rest) => if (skipBlanks rest).isEmpty then some j else none
  | none => none

/-- The document of a text. -/
def parse? (s : String) : Option Json := parseChars? s.toList

end Json

end FreeSurface

import FreeSurface.Text.Numeral

/-!
# JSON documents

Documents as they are written: numbers are numerals, and strings keep the escapes that name code
units, since not all of those make up a text.  What a numeral or a string stands for is asked when
it is used.

* `Json` — a document.
* `JsonString.text?` — the text of a string, if its code units make one up.
* `Json.record` — the fields of a record, written as an object or as an array in order.
* `Json.isSound` — everything in a document can be used, and it is nested no deeper than allowed.
-/

namespace FreeSurface

/-- A part of a string: a character, or a code unit of 16 bits given by its number. -/
inductive StringPart where
  | char (c : Char)
  | unit (u : UInt16)
deriving DecidableEq, Repr

abbrev JsonString : Type := List StringPart

namespace JsonString

def ofText (s : String) : JsonString := s.toList.map .char

/-- The first half of a pair of code units that make up a character. -/
def isHighSurrogate (u : UInt16) : Bool := 0xd800 ≤ u && u ≤ 0xdbff

/-- The second half of such a pair. -/
def isLowSurrogate (u : UInt16) : Bool := 0xdc00 ≤ u && u ≤ 0xdfff

/-- The characters of a string, unless some half of a pair stands alone. -/
def chars? : JsonString → Option (List Char)
  | [] => some []
  | .char c :: rest => (chars? rest).map (c :: ·)
  | .unit u :: .unit v :: rest =>
    if isHighSurrogate u then
      if isLowSurrogate v then
        let code := 0x10000 + (u.toNat - 0xd800) * 0x400 + (v.toNat - 0xdc00)
        (chars? rest).map (Char.ofNat code :: ·)
      else none
    else if isLowSurrogate u then none
    else (chars? (.unit v :: rest)).map (Char.ofNat u.toNat :: ·)
  | .unit u :: rest =>
    if isHighSurrogate u || isLowSurrogate u then none
    else (chars? rest).map (Char.ofNat u.toNat :: ·)

/-- The text of a string, unless some half of a pair stands alone. -/
def text? (s : JsonString) : Option String := s.chars?.map String.ofList

end JsonString

/-- A document. -/
inductive Json where
  | null
  | bool (b : Bool)
  | number (n : Numeral)
  | string (s : JsonString)
  | array (items : List Json)
  | object (fields : List (JsonString × Json))
deriving Inhabited

namespace Json

def text (s : String) : Json := .string (JsonString.ofText s)

def int (i : Int) : Json := .number (Numeral.ofInt i)

/-- The document of a natural number. -/
def nat (n : Nat) : Json := int n

def ofFields (fields : List (String × Json)) : Json :=
  .object (fields.map fun (name, value) => (JsonString.ofText name, value))

/-! ## Reading values -/

def text? : Json → Option String
  | .string s => s.text?
  | _ => none

def items? : Json → Option (List Json)
  | .array items => some items
  | _ => none

/-- A natural number up to a limit, written without sign, fraction and exponent. -/
def nat? (limit : Nat) : Json → Option Nat
  | .number n =>
    let value := Digit.value n.whole
    if n.isInteger && !n.negative && value ≤ limit then some value else none
  | _ => none

/-- The greatest number of 32 bits. -/
def word32 : Nat := UInt32.size - 1

/-- The greatest number of 64 bits. -/
def word64 : Nat := UInt64.size - 1

/-- A name without a value: a string, or an object with that name for a single field that is
null. -/
def name? : Json → Option String
  | .string s => s.text?
  | .object [(s, .null)] => s.text?
  | _ => none

/-- A value that may be left out by writing null. -/
def optional? {α : Type} (read : Json → Option α) : Json → Option (Option α)
  | .null => some none
  | j => (read j).map some

/-! ## Records -/

/-- The fields of a record that are present. -/
abbrev Fields : Type := List (String × Json)

/-- Fields with their names read; some name may be no text. -/
def namedFields? (fields : List (JsonString × Json)) : Option Fields :=
  fields.mapM fun (name, value) => name.text?.map (·, value)

/-- No name that counts is used twice. -/
def distinct (names : List String) (fields : Fields) : Bool :=
  names.all fun name => (fields.filter (·.1 == name)).length ≤ 1

/-- The fields of a record of the given names: of an object those, each at most once, whatever
others there are; of an array its items in the order of the names, and no more than those. -/
def record? (names : List String) : Json → Option Fields
  | .object fields => do
    let fields ← namedFields? fields
    if distinct names fields then some fields else none
  | .array items => if items.length ≤ names.length then some (names.zip items) else none
  | _ => none

/-- A field that must be present. -/
def required {α : Type} (fields : Fields) (name : String) (read : Json → Option α) : Option α :=
  (fields.lookup name).bind read

/-- A field that has a value when it is not present. -/
def withDefault {α : Type} (fields : Fields) (name : String) (read : Json → Option α)
    (default : α) : Option α :=
  match fields.lookup name with
  | some j => read j
  | none => some default

/-! ## Soundness -/

mutual

/-- Every numeral is accepted, every string is a text, and no more than `room` levels are nested. -/
def isSound (accepts : Numeral → Bool) : (room : Nat) → Json → Bool
  | _, .null => true
  | _, .bool _ => true
  | _, .number n => accepts n
  | _, .string s => s.text?.isSome
  | 0, .array _ => false
  | room + 1, .array items => areSound accepts room items
  | 0, .object _ => false
  | room + 1, .object fields => fieldsAreSound accepts room fields

def areSound (accepts : Numeral → Bool) (room : Nat) : List Json → Bool
  | [] => true
  | j :: rest => isSound accepts room j && areSound accepts room rest

def fieldsAreSound (accepts : Numeral → Bool) (room : Nat) : List (JsonString × Json) → Bool
  | [] => true
  | (name, j) :: rest =>
    name.text?.isSome && isSound accepts room j && fieldsAreSound accepts room rest

end

/-- How deep a document may be nested where its shape is not known in advance. -/
def maxDepth : Nat := 127

end Json

end FreeSurface

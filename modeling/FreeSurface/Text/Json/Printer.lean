import FreeSurface.Text.Json.Basic

/-!
# Writing JSON

* `Json.compact` — a document without any space.
* `Json.pretty` — one item or field a line, indented by two spaces a level; an array or object
  without any is a pair of brackets.
-/

namespace FreeSurface

namespace Json

/-- The digit of a number below sixteen, in lower case. -/
def hexDigit (n : Nat) : Char := if n < 10 then Char.ofNat (48 + n) else Char.ofNat (87 + n)

/-- Four hexadecimal digits. -/
def hexFour (n : Nat) : List Char :=
  [hexDigit (n / 4096 % 16), hexDigit (n / 256 % 16), hexDigit (n / 16 % 16), hexDigit (n % 16)]

/-- The characters that stand for one in a string. -/
def escape (c : Char) : List Char :=
  if c = '"' then ['\\', '"']
  else if c = '\\' then ['\\', '\\']
  else if c = '\n' then ['\\', 'n']
  else if c = '\r' then ['\\', 'r']
  else if c = '\t' then ['\\', 't']
  else if c = '\x08' then ['\\', 'b']
  else if c = '\x0c' then ['\\', 'f']
  else if c.toNat < 0x20 then '\\' :: 'u' :: hexFour c.toNat
  else [c]

def writePart : StringPart → List Char
  | .char c => escape c
  | .unit u => '\\' :: 'u' :: hexFour u.toNat

/-- The characters of a string, with its quotes. -/
def writeString (s : JsonString) : List Char := '"' :: (s.flatMap writePart ++ ['"'])

/-- The characters of a truth value. -/
def writeBool (b : Bool) : List Char := if b then "true".toList else "false".toList

/-- Puts a separator between texts. -/
def separated (separator : List Char) : List (List Char) → List Char
  | [] => []
  | [s] => s
  | s :: rest => s ++ separator ++ separated separator rest

/-- Encloses texts in brackets, with a comma between them. -/
def enclose (opening closing : Char) (texts : List (List Char)) : List Char :=
  opening :: (separated [','] texts ++ [closing])

mutual

/-- The characters of a document without any space. -/
def writeCompact : Json → List Char
  | .null => "null".toList
  | .bool b => writeBool b
  | .number n => n.write
  | .string s => writeString s
  | .array items => enclose '[' ']' (writeItems items)
  | .object fields => enclose '\x7b' '\x7d' (writeFields fields)

def writeItems : List Json → List (List Char)
  | [] => []
  | j :: rest => writeCompact j :: writeItems rest

def writeFields : List (JsonString × Json) → List (List Char)
  | [] => []
  | (name, j) :: rest => (writeString name ++ ':' :: writeCompact j) :: writeFields rest

end

def newLine (level : Nat) : List Char := '\n' :: List.replicate (2 * level) ' '

/-- Encloses texts in brackets, each on a line of its own one level deeper. -/
def encloseLines (level : Nat) (opening closing : Char) (texts : List (List Char)) : List Char :=
  if texts.isEmpty then [opening, closing]
  else
    opening :: (newLine (level + 1) ++ separated (',' :: newLine (level + 1)) texts
      ++ newLine level ++ [closing])

mutual

/-- The characters of a document that begins at a level of nesting. -/
def writePretty (level : Nat) : Json → List Char
  | .null => "null".toList
  | .bool b => writeBool b
  | .number n => n.write
  | .string s => writeString s
  | .array items => encloseLines level '[' ']' (prettyItems (level + 1) items)
  | .object fields => encloseLines level '\x7b' '\x7d' (prettyFields (level + 1) fields)

def prettyItems (level : Nat) : List Json → List (List Char)
  | [] => []
  | j :: rest => writePretty level j :: prettyItems level rest

def prettyFields (level : Nat) : List (JsonString × Json) → List (List Char)
  | [] => []
  | (name, j) :: rest =>
    (writeString name ++ ':' :: ' ' :: writePretty level j) :: prettyFields level rest

end

/-- A document on one line. -/
def compact (j : Json) : String := String.ofList (writeCompact j)

/-- A document on indented lines. -/
def pretty (j : Json) : String := String.ofList (writePretty 0 j)

end Json

end FreeSurface

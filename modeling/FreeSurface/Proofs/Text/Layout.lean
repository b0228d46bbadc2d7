import FreeSurface.Proofs.Text.Numeral
import FreeSurface.Text.Json.Parser
import FreeSurface.Text.Json.Printer

/-!
# Texts of documents

A text spells a document when it is made up of the parts of the document with any blanks between
them.  Such a text is read as that document.

* `Json.Layout`, `Json.Spells` — a text spells a document.
* `Json.parse?_of_spells` — it is read as that document.
-/

namespace FreeSurface

/-! ## Strings -/

/-- A part of a string that can be spelled.  A control character is a character only where it has
an escape of one letter; others are code units. -/
def StringPart.IsProper : StringPart → Prop
  | .char c => 0x20 ≤ c.toNat ∨ c ∈ ['\n', '\r', '\t', '\x08', '\x0c']
  | .unit _ => True

instance : DecidablePred StringPart.IsProper
  | .char _ => inferInstanceAs (Decidable (_ ∨ _))
  | .unit _ => inferInstanceAs (Decidable True)

namespace Json

lemma hexValue?_hexDigit {n : ℕ} (h : n < 16) : hexValue? (hexDigit n) = some n := by
  have table : ∀ d : Fin 16, hexValue? (hexDigit d.val) = some d.val := by decide
  exact table ⟨n, h⟩

lemma unit?_hexFour (u : UInt16) :
    unit? (hexDigit (u.toNat / 4096 % 16)) (hexDigit (u.toNat / 256 % 16))
      (hexDigit (u.toNat / 16 % 16)) (hexDigit (u.toNat % 16)) = some u := by
  have digit (n : ℕ) := hexValue?_hexDigit (Nat.mod_lt n (by decide : 0 < 16))
  have size := u.toNat_lt
  have whole : u.toNat / 4096 % 16 * 4096 + u.toNat / 256 % 16 * 256 + u.toNat / 16 % 16 * 16
      + u.toNat % 16 = u.toNat := by omega
  simp only [unit?, digit, Option.bind_eq_bind, Option.bind_some, whole]
  exact congrArg some (UInt16.ofNat_toNat)

/-- A character without an escape stands for itself. -/
lemma stringBody?_plain {c : Char} (h : 0x20 ≤ c.toNat) (quote : c ≠ '"') (slash : c ≠ '\\')
    (rest : List Char) :
    stringBody? (c :: rest) = (stringBody? rest).map fun (s, rest) => (.char c :: s, rest) := by
  rw [stringBody?]
  · simp [slash, Nat.not_lt.mpr h]
  all_goals simp_all

lemma stringBody?_escape {c e : Char} (h : unescape? e = some c) (unit : e ≠ 'u')
    (rest : List Char) :
    stringBody? ('\\' :: e :: rest)
      = (stringBody? rest).map fun (s, rest) => (.char c :: s, rest) := by
  rw [stringBody?]
  · rw [h]
    cases stringBody? rest <;> rfl
  · simp_all

/-- The characters of a part are read as that part. -/
lemma stringBody?_writePart {p : StringPart} (h : p.IsProper) (rest : List Char) :
    stringBody? (writePart p ++ rest)
      = (stringBody? rest).map fun (s, rest) => (p :: s, rest) := by
  cases p with
  | unit u =>
    simp only [writePart, hexFour, List.cons_append, List.nil_append, stringBody?, unit?_hexFour]
    cases stringBody? rest <;> rfl
  | char c =>
    by_cases escaped : c ∈ ['"', '\\', '\n', '\r', '\t', '\x08', '\x0c']
    · simp only [List.mem_cons, List.not_mem_nil, or_false] at escaped
      rcases escaped with rfl | rfl | rfl | rfl | rfl | rfl | rfl <;>
        exact stringBody?_escape (by decide) (by decide) rest
    · simp only [List.mem_cons, List.not_mem_nil, or_false, not_or] at escaped
      obtain ⟨quote, slash, line, ret, tab, back, feed⟩ := escaped
      have printable : 0x20 ≤ c.toNat := by
        rcases h with printable | control
        · exact printable
        · simp_all
      have plain : writePart (.char c) = [c] := by
        simp [writePart, escape, quote, slash, line, ret, tab, back, feed,
          Nat.not_lt.mpr printable]
      rw [plain]
      exact stringBody?_plain printable quote slash rest

/-- A string is read up to its closing quote. -/
lemma stringBody?_write {s : JsonString} (h : ∀ p ∈ s, p.IsProper) (rest : List Char) :
    stringBody? (s.flatMap writePart ++ '"' :: rest) = some (s, rest) := by
  induction s with
  | nil => simp [stringBody?]
  | cons p s ih =>
    rw [List.flatMap_cons, List.append_assoc, stringBody?_writePart (h p (by simp)),
      ih fun q hq => h q (by simp [hq])]
    rfl

/-! ## Texts of documents -/

/-- A text of blanks. -/
def Blank (s : List Char) : Prop := ∀ c ∈ s, isBlank c

lemma blank_nil : Blank [] := by simp [Blank]

mutual

/-- A text is made up of the parts of a document, with any blanks between them. -/
inductive Layout : Json → List Char → Prop
  | null : Layout .null "null".toList
  | bool (b : Bool) : Layout (.bool b) (writeBool b)
  | number {n : Numeral} : n.IsProper → Layout (.number n) n.write
  | string {s : JsonString} : (∀ p ∈ s, p.IsProper) → Layout (.string s) (writeString s)
  | noItems {gap : List Char} : Blank gap → Layout (.array []) ('[' :: (gap ++ [']']))
  | items {items : List Json} {text : List Char} :
      ItemsLayout items text → Layout (.array items) ('[' :: text)
  | noFields {gap : List Char} : Blank gap → Layout (.object []) ('\x7b' :: (gap ++ ['\x7d']))
  | fields {fields : List (JsonString × Json)} {text : List Char} :
      FieldsLayout fields text → Layout (.object fields) ('\x7b' :: text)

/-- A text is a document between blanks. -/
inductive Padded : Json → List Char → Prop
  | between {j : Json} {before text after : List Char} :
      Blank before → Layout j text → Blank after → Padded j (before ++ (text ++ after))

/-- A text is made up of items and the end of their array. -/
inductive ItemsLayout : List Json → List Char → Prop
  | last {j : Json} {text : List Char} : Padded j text → ItemsLayout [j] (text ++ [']'])
  | next {j : Json} {items : List Json} {text rest : List Char} :
      Padded j text → ItemsLayout items rest → ItemsLayout (j :: items) (text ++ ',' :: rest)

/-- A text is made up of fields and the end of their object. -/
inductive FieldsLayout : List (JsonString × Json) → List Char → Prop
  | last {name : JsonString} {j : Json} {start gap text : List Char} :
      Blank start → (∀ p ∈ name, p.IsProper) → Blank gap → Padded j text →
        FieldsLayout [(name, j)]
          (start ++ (writeString name ++ (gap ++ ':' :: (text ++ ['\x7d']))))
  | next {name : JsonString} {j : Json} {fields : List (JsonString × Json)}
      {start gap text rest : List Char} :
      Blank start → (∀ p ∈ name, p.IsProper) → Blank gap → Padded j text →
        FieldsLayout fields rest →
        FieldsLayout ((name, j) :: fields)
          (start ++ (writeString name ++ (gap ++ ':' :: (text ++ ',' :: rest))))

end

/-- A text is a document, with any blanks around it and between its parts. -/
def Spells (j : Json) (text : String) : Prop := Padded j text.toList

/-! ## Reading them -/

lemma skipBlanks_append {gap : List Char} (h : Blank gap) (s : List Char) :
    skipBlanks (gap ++ s) = skipBlanks s := by
  induction gap with
  | nil => rfl
  | cons c gap ih =>
    rw [List.cons_append, skipBlanks, List.dropWhile_cons_of_pos (h c (by simp))]
    exact ih fun d hd => h d (by simp [hd])

lemma skipBlanks_cons {c : Char} (h : isBlank c = false) (s : List Char) :
    skipBlanks (c :: s) = c :: s := by
  simp [skipBlanks, h]

lemma value?_append {gap : List Char} (h : Blank gap) (fuel : ℕ) (s : List Char) :
    value? fuel (gap ++ s) = value? fuel s := by
  cases fuel with
  | zero => simp only [value?]
  | succ fuel => simp only [value?, skipBlanks_append h]

/-- A character with which a document may begin. -/
def Opens (c : Char) : Prop := isBlank c = false ∧ c ≠ ']' ∧ c ≠ '\x7d'

/-- A text does not go on with what may belong to a document. -/
def Follows (rest : List Char) : Prop :=
  ∀ c ∈ rest.head?, isBlank c ∨ c = ',' ∨ c = ']' ∨ c = '\x7d'

lemma follows_nil : Follows [] := by simp [Follows]

lemma follows_cons {c : Char} (h : c = ',' ∨ c = ']' ∨ c = '\x7d') (rest : List Char) :
    Follows (c :: rest) := by
  rintro d ⟨⟩
  exact .inr h

lemma Follows.append {gap rest : List Char} (hg : Blank gap) (h : Follows rest) :
    Follows (gap ++ rest) := by
  cases gap with
  | nil => exact h
  | cons c gap =>
    rintro d ⟨⟩
    exact .inl (hg c (by simp))

lemma eq_of_isBlank {c : Char} (h : isBlank c) : c = ' ' ∨ c = '\n' ∨ c = '\t' ∨ c = '\r' := by
  simpa [isBlank, or_assoc] using h

lemma Follows.ends {rest : List Char} (h : Follows rest) : Numeral.Ends rest := by
  intro c hc
  rcases h c hc with blank | rfl | rfl | rfl
  · rcases eq_of_isBlank blank with rfl | rfl | rfl | rfl <;> decide
  all_goals decide

/-- A character with which the characters of a numeral, proper or not, may begin. -/
def OpensNumeral (c : Char) : Prop := c = '-' ∨ c = '.' ∨ c = 'e' ∨ ∃ d : Digit, c = d.toChar

lemma opensNumeral_of_write {n : Numeral} {c : Char} {s : List Char} (h : n.write = c :: s) :
    OpensNumeral c := by
  rw [Numeral.write_eq] at h
  obtain ⟨negative, whole, fraction, exponent⟩ := n
  match negative, whole, fraction, exponent with
  | true, _, _, _ => exact .inl (List.cons.inj h).1.symm
  | false, d :: _, _, _ => exact .inr (.inr (.inr ⟨d, (List.cons.inj h).1.symm⟩))
  | false, [], some _, _ => exact .inr (.inl (List.cons.inj h).1.symm)
  | false, [], none, some _ => exact .inr (.inr (.inl (List.cons.inj h).1.symm))
  | false, [], none, none => cases h

lemma OpensNumeral.opens {c : Char} (h : OpensNumeral c) :
    Opens c ∧ c ≠ 'n' ∧ c ≠ 't' ∧ c ≠ 'f' ∧ c ≠ '"' ∧ c ≠ '[' ∧ c ≠ '\x7b' := by
  have digits : ∀ d : Digit, (isBlank d.toChar = false ∧ d.toChar ≠ ']' ∧ d.toChar ≠ '\x7d')
      ∧ d.toChar ≠ 'n' ∧ d.toChar ≠ 't' ∧ d.toChar ≠ 'f' ∧ d.toChar ≠ '"' ∧ d.toChar ≠ '['
      ∧ d.toChar ≠ '\x7b' := by decide
  rcases h with rfl | rfl | rfl | ⟨d, rfl⟩
  · exact ⟨⟨rfl, by decide, by decide⟩, by decide⟩
  · exact ⟨⟨rfl, by decide, by decide⟩, by decide⟩
  · exact ⟨⟨rfl, by decide, by decide⟩, by decide⟩
  · exact digits d

lemma exists_write_eq_cons {n : Numeral} (h : n.IsProper) : ∃ c s, n.write = c :: s := by
  obtain ⟨d, ds, whole⟩ := List.exists_cons_of_ne_nil h.1
  rw [Numeral.write_eq, whole]
  cases n.negative with
  | true => exact ⟨_, _, rfl⟩
  | false => exact ⟨_, _, rfl⟩

lemma Layout.opens {j : Json} {text : List Char} (h : Layout j text) :
    ∃ c s, text = c :: s ∧ Opens c := by
  cases h with
  | null => exact ⟨_, _, rfl, rfl, by decide, by decide⟩
  | bool b => cases b <;> exact ⟨_, _, rfl, rfl, by decide, by decide⟩
  | number hn =>
    obtain ⟨c, s, eq⟩ := exists_write_eq_cons hn
    exact ⟨c, s, eq, (opensNumeral_of_write eq).opens.1⟩
  | string | noItems | items | noFields | fields =>
    exact ⟨_, _, rfl, rfl, by decide, by decide⟩

/-- What stands first in a document between blanks. -/
lemma Padded.skipBlanks_append {j : Json} {text : List Char} (h : Padded j text)
    (rest : List Char) : ∃ c s, skipBlanks (text ++ rest) = c :: s ∧ Opens c := by
  cases h with
  | between before layout after =>
    obtain ⟨c, s, rfl, opens⟩ := layout.opens
    rw [List.append_assoc, Json.skipBlanks_append before]
    exact ⟨c, _, skipBlanks_cons opens.1 _, opens⟩

lemma ItemsLayout.skipBlanks_append {items : List Json} {text : List Char}
    (h : ItemsLayout items text) (rest : List Char) :
    ∃ c s, skipBlanks (text ++ rest) = c :: s ∧ c ≠ ']' := by
  cases h with
  | last padded =>
    obtain ⟨c, s, eq, opens⟩ := padded.skipBlanks_append ([']'] ++ rest)
    exact ⟨c, s, by rw [List.append_assoc, eq], opens.2.1⟩
  | next padded more =>
    obtain ⟨c, s, eq, opens⟩ := padded.skipBlanks_append (',' :: _ ++ rest)
    exact ⟨c, s, by rw [List.append_assoc, eq], opens.2.1⟩

lemma FieldsLayout.skipBlanks_append {fields : List (JsonString × Json)} {text : List Char}
    (h : FieldsLayout fields text) (rest : List Char) :
    ∃ c s, skipBlanks (text ++ rest) = c :: s ∧ c ≠ '\x7d' := by
  cases h with
  | last start | next start =>
    rw [List.append_assoc, Json.skipBlanks_append start]
    exact ⟨'"', _, skipBlanks_cons (by decide) _, by decide⟩

/-- A numeral is read as a document where it cannot be another one. -/
lemma value?_numeral {c : Char} (h : OpensNumeral c) (fuel : ℕ) (s : List Char) :
    value? (fuel + 1) (c :: s)
      = (Numeral.read? (c :: s)).map fun (n, rest) => (.number n, rest) := by
  obtain ⟨opens, n, t, f, quote, bracket, brace⟩ := h.opens
  rw [value?, skipBlanks_cons opens.1]
  split <;> simp_all

/-- What is read behind a field: more fields or the end of their object. -/
def afterField? (fuel : ℕ) (name : JsonString) (j : Json) (rest : List Char) :
    Option (List (JsonString × Json) × List Char) :=
  match skipBlanks rest with
  | ',' :: rest => (fieldsFrom? fuel rest).map fun (fields, rest) => ((name, j) :: fields, rest)
  | '\x7d' :: rest => some ([(name, j)], rest)
  | _ => none

/-- The name of a field and the colon behind it are read. -/
lemma fieldsFrom?_name {start gap : List Char} {name : JsonString} (hs : Blank start)
    (hn : ∀ p ∈ name, p.IsProper) (hg : Blank gap) (fuel : ℕ) (s : List Char) :
    fieldsFrom? (fuel + 1) (start ++ (writeString name ++ (gap ++ ':' :: s)))
      = (value? fuel s).bind fun field => afterField? fuel name field.1 field.2 := by
  rw [writeString, List.cons_append, List.append_assoc, fieldsFrom?, skipBlanks_append hs,
    skipBlanks_cons (by decide)]
  simp only [List.singleton_append, stringBody?_write hn, Option.bind_eq_bind, Option.bind_some,
    skipBlanks_append hg, skipBlanks_cons (rfl : isBlank ':' = false)]
  rfl

mutual

/-- What a document is made up of is read as that document.  Two units of fuel for each character
are enough. -/
lemma value?_layout : ∀ {j : Json} {text : List Char}, Layout j text →
    ∀ (fuel : ℕ) (rest : List Char), 2 * text.length ≤ fuel + 1 → Follows rest →
      value? (fuel + 1) (text ++ rest) = some (j, rest)
  | _, _, .null, fuel, rest, _, _ => rfl
  | _, _, .bool b, fuel, rest, _, _ => by cases b <;> rfl
  | _, _, .number hn, fuel, rest, _, h => by
    obtain ⟨c, s, eq⟩ := exists_write_eq_cons hn
    have numeral := Numeral.read?_write hn h.ends
    rw [eq, List.cons_append] at numeral ⊢
    rw [value?_numeral (opensNumeral_of_write eq), numeral]
    rfl
  | _, _, .string hs, fuel, rest, _, _ => by
    rw [writeString, List.cons_append, List.append_assoc, value?, skipBlanks_cons (by decide)]
    exact congrArg (Option.map _) (stringBody?_write hs rest)
  | _, _, .noItems gap, fuel, rest, _, _ => by
    rw [List.cons_append, List.append_assoc, value?, skipBlanks_cons (by decide)]
    simp only [skipBlanks_append gap, List.cons_append, List.nil_append,
      skipBlanks_cons (rfl : isBlank ']' = false)]
  | _, _, .items layout, fuel, rest, room, _ => by
    obtain ⟨fuel, rfl⟩ : ∃ k, fuel = k + 1 := ⟨fuel - 1, by simp at room; omega⟩
    obtain ⟨c, s, begins, notEnd⟩ := layout.skipBlanks_append rest
    have items := itemsFrom?_layout layout fuel rest (by simp at room; omega)
    rw [List.cons_append, value?, skipBlanks_cons (by decide)]
    simp only [begins, items]
    split
    · simp_all
    · rfl
  | _, _, .noFields gap, fuel, rest, _, _ => by
    rw [List.cons_append, List.append_assoc, value?, skipBlanks_cons (by decide)]
    simp only [skipBlanks_append gap, List.cons_append, List.nil_append,
      skipBlanks_cons (rfl : isBlank '\x7d' = false)]
  | _, _, .fields layout, fuel, rest, room, _ => by
    obtain ⟨fuel, rfl⟩ : ∃ k, fuel = k + 1 := ⟨fuel - 1, by simp at room; omega⟩
    obtain ⟨c, s, begins, notEnd⟩ := layout.skipBlanks_append rest
    have fields := fieldsFrom?_layout layout fuel rest (by simp at room; omega)
    rw [List.cons_append, value?, skipBlanks_cons (by decide)]
    simp only [begins, fields]
    split
    · simp_all
    · rfl

/-- Of a document between blanks, those behind it are left over. -/
lemma value?_padded : ∀ {j : Json} {text : List Char}, Padded j text →
    ∀ (fuel : ℕ) (rest : List Char), 2 * text.length ≤ fuel + 1 → Follows rest →
      ∃ gap, Blank gap ∧ value? (fuel + 1) (text ++ rest) = some (j, gap ++ rest)
  | _, _, .between before layout after, fuel, rest, room, h => by
    have read := value?_layout layout fuel _ (by simp at room; omega) (h.append after)
    refine ⟨_, after, ?_⟩
    rw [List.append_assoc, value?_append before, List.append_assoc, read]

lemma itemsFrom?_layout : ∀ {items : List Json} {text : List Char}, ItemsLayout items text →
    ∀ (fuel : ℕ) (rest : List Char), 2 * text.length ≤ fuel + 1 →
      itemsFrom? (fuel + 1) (text ++ rest) = some (items, rest)
  | _, _, .last padded, fuel, rest, room => by
    obtain ⟨fuel, rfl⟩ : ∃ k, fuel = k + 1 := ⟨fuel - 1, by simp at room; omega⟩
    obtain ⟨gap, blank, read⟩ := value?_padded padded fuel (']' :: rest)
      (by simp at room; omega) (follows_cons (by simp) rest)
    rw [List.append_assoc, List.singleton_append, itemsFrom?, read]
    simp [skipBlanks_append blank, skipBlanks_cons (rfl : isBlank ']' = false)]
  | _, _, @ItemsLayout.next _ _ _ more padded layout, fuel, rest, room => by
    obtain ⟨fuel, rfl⟩ : ∃ k, fuel = k + 1 := ⟨fuel - 1, by simp at room; omega⟩
    obtain ⟨gap, blank, read⟩ := value?_padded padded fuel (',' :: (more ++ rest))
      (by simp at room; omega) (follows_cons (by simp) _)
    have items := itemsFrom?_layout layout fuel rest (by simp at room; omega)
    rw [List.append_assoc, List.cons_append, itemsFrom?, read]
    simp [skipBlanks_append blank, skipBlanks_cons (rfl : isBlank ',' = false), items]

lemma fieldsFrom?_layout : ∀ {fields : List (JsonString × Json)} {text : List Char},
    FieldsLayout fields text → ∀ (fuel : ℕ) (rest : List Char), 2 * text.length ≤ fuel + 1 →
      fieldsFrom? (fuel + 1) (text ++ rest) = some (fields, rest)
  | _, _, .last start proper gap padded, fuel, rest, room => by
    obtain ⟨fuel, rfl⟩ : ∃ k, fuel = k + 1 := ⟨fuel - 1, by simp [writeString] at room; omega⟩
    obtain ⟨gap', blank, read⟩ := value?_padded padded fuel ('\x7d' :: rest)
      (by simp at room; omega) (follows_cons (by simp) rest)
    simp only [List.append_assoc, List.cons_append, List.nil_append]
    rw [fieldsFrom?_name start proper gap, read]
    simp [afterField?, skipBlanks_append blank, skipBlanks_cons (rfl : isBlank '\x7d' = false)]
  | _, _, @FieldsLayout.next _ _ _ _ _ _ more start proper gap padded layout, fuel, rest, room => by
    obtain ⟨fuel, rfl⟩ : ∃ k, fuel = k + 1 := ⟨fuel - 1, by simp at room; omega⟩
    obtain ⟨gap', blank, read⟩ := value?_padded padded fuel (',' :: (more ++ rest))
      (by simp at room; omega) (follows_cons (by simp) _)
    have fields := fieldsFrom?_layout layout fuel rest (by simp at room; omega)
    simp only [List.append_assoc, List.cons_append]
    rw [fieldsFrom?_name start proper gap, read]
    simp [afterField?, skipBlanks_append blank, skipBlanks_cons (rfl : isBlank ',' = false), fields]

end

/-- A text is read as the document it spells. -/
theorem parse?_of_spells {j : Json} {text : String} (h : j.Spells text) : parse? text = some j := by
  obtain ⟨gap, blank, read⟩ := value?_padded h (2 * text.toList.length + 1) [] (by omega)
    follows_nil
  simp only [List.append_nil] at read
  have nothing : skipBlanks gap = [] := by
    have skipped := skipBlanks_append blank []
    rwa [List.append_nil] at skipped
  simp [parse?, parseChars?, read, nothing]

/-- Only a proper numeral can be read as a document. -/
lemma isProper_of_parse? {n : Numeral} (h : (parse? (String.ofList n.write)).isSome) :
    n.IsProper := by
  refine Numeral.isProper_of_read?_write ?_
  rw [parse?, String.toList_ofList, parseChars?] at h
  cases eq : n.write with
  | nil =>
    rw [eq] at h
    exact absurd h (by decide)
  | cons c s =>
    rw [eq, value?_numeral (opensNumeral_of_write eq)] at h
    cases read : Numeral.read? (c :: s) with
    | none => simp [read] at h
    | some _ => rfl

end Json

end FreeSurface

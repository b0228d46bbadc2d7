import FreeSurface.Proofs.Text.Layout

/-!
# Printed documents

Both printers spell a document, so what they print is read back.

* `Json.IsProper` — a document that can be spelled: its numerals are proper, and its strings have no
  control characters but those with an escape of one letter.
* `Json.spells_compact`, `Json.spells_pretty` — the printers spell proper documents.
-/

namespace FreeSurface

namespace Json

/-! ## Documents that can be spelled -/

mutual

/-- Every numeral and every string of a document can be spelled. -/
def IsProper : Json → Prop
  | .null => True
  | .bool _ => True
  | .number n => n.IsProper
  | .string s => ∀ p ∈ s, p.IsProper
  | .array items => AreProper items
  | .object fields => FieldsAreProper fields

def AreProper : List Json → Prop
  | [] => True
  | j :: rest => IsProper j ∧ AreProper rest

def FieldsAreProper : List (JsonString × Json) → Prop
  | [] => True
  | (name, j) :: rest => (∀ p ∈ name, p.IsProper) ∧ IsProper j ∧ FieldsAreProper rest

end

/-! ## Fields and items on one line or on several -/

lemma blank_newLine (level : ℕ) : Blank (newLine level) := by
  intro c hc
  rcases List.mem_cons.mp hc with rfl | space
  · rfl
  · rw [List.eq_of_mem_replicate space]
    rfl

lemma blank_space : Blank [' '] := by simp [Blank, isBlank]

/-- A text is a field as the printers write it: no blanks but behind the colon. -/
def FieldText (field : JsonString × Json) (text : List Char) : Prop :=
  (∀ p ∈ field.1, p.IsProper) ∧ ∃ gap value, Blank gap ∧ Layout field.2 value ∧
    text = writeString field.1 ++ ':' :: (gap ++ value)

lemma fieldText {name : JsonString} {j : Json} {gap value : List Char}
    (hn : ∀ p ∈ name, p.IsProper) (hg : Blank gap) (h : Layout j value) :
    FieldText (name, j) (writeString name ++ ':' :: (gap ++ value)) :=
  ⟨hn, gap, value, hg, h, rfl⟩

/-- Items with the same blanks between any two of them. -/
lemma itemsLayout_separated {gap gap' : List Char} (hg : Blank gap) (hg' : Blank gap')
    {j : Json} {text : List Char} {items : List Json} {texts : List (List Char)}
    (first : Layout j text) (more : List.Forall₂ Layout items texts) :
    ItemsLayout (j :: items) (gap ++ separated (',' :: gap) (text :: texts) ++ gap' ++ [']']) := by
  induction more generalizing j text with
  | nil =>
    have := ItemsLayout.last (.between hg first hg')
    simpa [separated] using this
  | cons next _ ih =>
    have := ItemsLayout.next (.between hg first blank_nil) (ih next)
    simpa [separated] using this

lemma fieldsLayout_separated {gap gap' : List Char} (hg : Blank gap) (hg' : Blank gap')
    {field : JsonString × Json} {text : List Char} {fields : List (JsonString × Json)}
    {texts : List (List Char)} (first : FieldText field text)
    (more : List.Forall₂ FieldText fields texts) :
    FieldsLayout (field :: fields)
      (gap ++ separated (',' :: gap) (text :: texts) ++ gap' ++ ['\x7d']) := by
  induction more generalizing field text with
  | nil =>
    obtain ⟨name, space, value, blank, layout, rfl⟩ := first
    have := FieldsLayout.last hg name blank_nil (.between blank layout hg')
    simpa [separated] using this
  | cons next _ ih =>
    obtain ⟨name, space, value, blank, layout, rfl⟩ := first
    have := FieldsLayout.next hg name blank_nil (.between blank layout blank_nil) (ih next)
    simpa [separated] using this

/-! ## The printers -/

mutual

lemma layout_writeCompact : ∀ {j : Json}, j.IsProper → Layout j (writeCompact j)
  | .null, _ => .null
  | .bool b, _ => .bool b
  | .number _, h => .number h
  | .string _, h => .string h
  | .array [], _ => .noItems blank_nil
  | .array (_ :: _), h => by
    have layout := itemsLayout_separated blank_nil blank_nil (layout_writeCompact h.1)
      (forall₂_writeItems h.2)
    simpa [writeCompact, writeItems, enclose] using Layout.items layout
  | .object [], _ => .noFields blank_nil
  | .object ((_, _) :: _), h => by
    have layout := fieldsLayout_separated blank_nil blank_nil
      (fieldText h.1 blank_nil (layout_writeCompact h.2.1)) (forall₂_writeFields h.2.2)
    simpa [writeCompact, writeFields, enclose] using Layout.fields layout

lemma forall₂_writeItems : ∀ {items : List Json}, AreProper items →
    List.Forall₂ Layout items (writeItems items)
  | [], _ => .nil
  | _ :: _, h => .cons (layout_writeCompact h.1) (forall₂_writeItems h.2)

lemma forall₂_writeFields : ∀ {fields : List (JsonString × Json)}, FieldsAreProper fields →
    List.Forall₂ FieldText fields (writeFields fields)
  | [], _ => .nil
  | (_, _) :: _, h =>
    .cons (fieldText h.1 blank_nil (layout_writeCompact h.2.1)) (forall₂_writeFields h.2.2)

end

mutual

lemma layout_writePretty : ∀ {j : Json} (level : ℕ), j.IsProper → Layout j (writePretty level j)
  | .null, _, _ => .null
  | .bool b, _, _ => .bool b
  | .number _, _, h => .number h
  | .string _, _, h => .string h
  | .array [], _, _ => .noItems blank_nil
  | .array (_ :: _), level, h => by
    have layout := itemsLayout_separated (blank_newLine (level + 1)) (blank_newLine level)
      (layout_writePretty (level + 1) h.1) (forall₂_prettyItems (level + 1) h.2)
    simpa [writePretty, prettyItems, encloseLines] using Layout.items layout
  | .object [], _, _ => .noFields blank_nil
  | .object ((_, _) :: _), level, h => by
    have layout := fieldsLayout_separated (blank_newLine (level + 1)) (blank_newLine level)
      (fieldText h.1 blank_space (layout_writePretty (level + 1) h.2.1))
      (forall₂_prettyFields (level + 1) h.2.2)
    simpa [writePretty, prettyFields, encloseLines] using Layout.fields layout

lemma forall₂_prettyItems : ∀ {items : List Json} (level : ℕ), AreProper items →
    List.Forall₂ Layout items (prettyItems level items)
  | [], _, _ => .nil
  | _ :: _, level, h => .cons (layout_writePretty level h.1) (forall₂_prettyItems level h.2)

lemma forall₂_prettyFields : ∀ {fields : List (JsonString × Json)} (level : ℕ),
    FieldsAreProper fields → List.Forall₂ FieldText fields (prettyFields level fields)
  | [], _, _ => .nil
  | (_, _) :: _, level, h =>
    .cons (fieldText h.1 blank_space (layout_writePretty level h.2.1))
      (forall₂_prettyFields level h.2.2)

end

lemma Layout.spells {j : Json} {text : List Char} (h : Layout j text) :
    j.Spells (String.ofList text) := by
  simpa [Spells] using Padded.between blank_nil h blank_nil

/-- A document without any space spells it. -/
theorem spells_compact {j : Json} (h : j.IsProper) : j.Spells j.compact :=
  (layout_writeCompact h).spells

/-- A document on indented lines spells it. -/
theorem spells_pretty {j : Json} (h : j.IsProper) : j.Spells j.pretty :=
  (layout_writePretty 0 h).spells

end Json

end FreeSurface

import FreeSurface.Proofs.Text.Printing
import Mathlib.Data.List.Forall2
import Mathlib.Data.List.Nodup

/-!
# Excerpts of written records

A written record may be told in other ways that mean the same: the fields of objects stand in any
order, a vector is an object instead of an array, fields are left out where there are defaults, and
fields of other names stand among them.

* `Json.Respelled` — the same document with its fields in another order and its vectors written
  either way.
* `Json.Excerpt` — some fields of a written record, respelled, among fields of other names.
* `Json.Excerpt.record?` — the fields that are given are found in it and the others are not.
-/

namespace FreeSurface

/-! ## Names -/

namespace JsonString

lemma chars?_map_char (s : List Char) : chars? (s.map .char) = some s := by
  induction s with
  | nil => rfl
  | cons c s ih => simp [chars?, ih]

@[simp] lemma text?_ofText (s : String) : (ofText s).text? = some s := by
  simp [text?, ofText, chars?_map_char]

end JsonString

namespace Json

/-! ## Respelling -/

/-- The fields of a vector that is written as an object. -/
def coordinates (x y z : Numeral) : List (JsonString × Json) :=
  [(JsonString.ofText "x", .number x), (JsonString.ofText "y", .number y),
    (JsonString.ofText "z", .number z)]

mutual

/-- The same document, but for the order of the fields of objects and for vectors, which may have
become objects. -/
inductive Respelled : Json → Json → Prop
  | null : Respelled .null .null
  | bool (b : Bool) : Respelled (.bool b) (.bool b)
  | number (n : Numeral) : Respelled (.number n) (.number n)
  | string (s : JsonString) : Respelled (.string s) (.string s)
  | array {items items' : List Json} :
      List.Forall₂ Respelled items items' → Respelled (.array items) (.array items')
  | vector {x y z : Numeral} {told : List (JsonString × Json)} :
      told.Perm (coordinates x y z) →
        Respelled (.array [.number x, .number y, .number z]) (.object told)
  | object {fields fields' told : List (JsonString × Json)} :
      List.Forall₂ RespelledField fields fields' → told.Perm fields' →
        Respelled (.object fields) (.object told)

/-- The same name with the same value. -/
inductive RespelledField : JsonString × Json → JsonString × Json → Prop
  | value (name : JsonString) {j j' : Json} : Respelled j j' → RespelledField (name, j) (name, j')

end

mutual

@[refl] lemma Respelled.refl : ∀ j : Json, Respelled j j
  | .null => .null
  | .bool b => .bool b
  | .number n => .number n
  | .string s => .string s
  | .array items => .array (Respelled.refl_items items)
  | .object fields => .object (Respelled.refl_fields fields) (.refl _)

lemma Respelled.refl_items : ∀ items : List Json, List.Forall₂ Respelled items items
  | [] => .nil
  | j :: rest => .cons (Respelled.refl j) (Respelled.refl_items rest)

lemma Respelled.refl_fields : ∀ fields : List (JsonString × Json),
    List.Forall₂ RespelledField fields fields
  | [] => .nil
  | (name, j) :: rest => .cons (.value name (Respelled.refl j)) (Respelled.refl_fields rest)

end

/-! ### What it keeps -/

lemma areProper_iff {items : List Json} : AreProper items ↔ ∀ j ∈ items, j.IsProper := by
  induction items with
  | nil => simp [AreProper]
  | cons j rest ih => simp [AreProper, ih]

lemma fieldsAreProper_iff {fields : List (JsonString × Json)} :
    FieldsAreProper fields ↔ ∀ f ∈ fields, (∀ p ∈ f.1, p.IsProper) ∧ f.2.IsProper := by
  induction fields with
  | nil => simp [FieldsAreProper]
  | cons f rest ih => simp [FieldsAreProper, ih, and_assoc]

lemma fieldsAreProper_perm {fields told : List (JsonString × Json)} (perm : told.Perm fields)
    (h : FieldsAreProper fields) : FieldsAreProper told :=
  fieldsAreProper_iff.mpr fun f hf => fieldsAreProper_iff.mp h f (perm.mem_iff.mp hf)

-- Here and below the recursion is on the documents.  The relation occurs within `Forall₂`, and the
-- recursion on its proofs is not accepted as structural.
mutual

lemma Respelled.isProper : ∀ {j j' : Json}, Respelled j j' → j.IsProper → j'.IsProper
  | _, _, .null, h => h
  | _, _, .bool _, h => h
  | _, _, .number _, h => h
  | _, _, .string _, h => h
  | _, _, .array items, h => Respelled.isProper_items items h
  | _, _, .vector perm, ⟨hx, hy, hz, _⟩ =>
    fieldsAreProper_perm perm ⟨by decide, hx, by decide, hy, by decide, hz, trivial⟩
  | _, _, .object fields perm, h =>
    fieldsAreProper_perm perm (Respelled.isProper_fields fields h)

lemma Respelled.isProper_items : ∀ {items items' : List Json}, List.Forall₂ Respelled items items' →
    AreProper items → AreProper items'
  | _, _, .nil, _ => trivial
  | _, _, .cons first more, h => ⟨first.isProper h.1, Respelled.isProper_items more h.2⟩

lemma Respelled.isProper_fields : ∀ {fields fields' : List (JsonString × Json)},
    List.Forall₂ RespelledField fields fields' → FieldsAreProper fields → FieldsAreProper fields'
  | _, _, .nil, _ => trivial
  | _, _, .cons (.value _ first) more, h =>
    ⟨h.1, first.isProper h.2.1, Respelled.isProper_fields more h.2.2⟩

end

lemma isProper_ofFields {fields : List (String × Json)}
    (names : ∀ name ∈ fields.map Prod.fst, ∀ p ∈ JsonString.ofText name, p.IsProper)
    (values : ∀ f ∈ fields, f.2.IsProper) : (ofFields fields).IsProper := by
  refine fieldsAreProper_iff.mpr fun f hf => ?_
  obtain ⟨⟨name, j⟩, mem, rfl⟩ := List.mem_map.mp hf
  exact ⟨names name (List.mem_map_of_mem mem), values _ mem⟩

section Soundness

variable {accepts : Numeral → Bool} {room : ℕ}

lemma fieldsAreSound_iff {fields : List (JsonString × Json)} :
    fieldsAreSound accepts room fields
      ↔ ∀ f ∈ fields, f.1.text?.isSome ∧ f.2.isSound accepts room := by
  induction fields with
  | nil => simp [fieldsAreSound]
  | cons f rest ih => simp [fieldsAreSound, ih, and_assoc]

lemma fieldsAreSound_perm {fields told : List (JsonString × Json)} (perm : told.Perm fields)
    (h : fieldsAreSound accepts room fields) : fieldsAreSound accepts room told :=
  fieldsAreSound_iff.mpr fun f hf => fieldsAreSound_iff.mp h f (perm.mem_iff.mp hf)

mutual

lemma Respelled.isSound : ∀ {j j' : Json} {room : ℕ}, Respelled j j' →
    j.isSound accepts room → j'.isSound accepts room
  | _, _, _, .null, h => h
  | _, _, _, .bool _, h => h
  | _, _, _, .number _, h => h
  | _, _, _, .string _, h => h
  | _, _, room + 1, .array items, h => Respelled.isSound_items items h
  | _, _, room + 1, .vector perm, h => fieldsAreSound_perm perm <| by
    simpa [areSound, Json.isSound, fieldsAreSound, coordinates] using h
  | _, _, room + 1, .object fields perm, h =>
    fieldsAreSound_perm perm (Respelled.isSound_fields fields h)

lemma Respelled.isSound_items : ∀ {items items' : List Json} {room : ℕ},
    List.Forall₂ Respelled items items' → areSound accepts room items →
      areSound accepts room items'
  | _, _, _, .nil, _ => rfl
  | _, _, _, .cons first more, h => by
    obtain ⟨head, rest⟩ := Bool.and_eq_true_iff.mp h
    exact Bool.and_eq_true_iff.mpr ⟨first.isSound head, Respelled.isSound_items more rest⟩

lemma Respelled.isSound_fields : ∀ {fields fields' : List (JsonString × Json)} {room : ℕ},
    List.Forall₂ RespelledField fields fields' → fieldsAreSound accepts room fields →
      fieldsAreSound accepts room fields'
  | _, _, _, .nil, _ => rfl
  | _, _, _, .cons (.value _ first) more, h => by
    obtain ⟨front, rest⟩ := Bool.and_eq_true_iff.mp h
    obtain ⟨name, head⟩ := Bool.and_eq_true_iff.mp front
    exact Bool.and_eq_true_iff.mpr ⟨Bool.and_eq_true_iff.mpr ⟨name, first.isSound head⟩,
      Respelled.isSound_fields more rest⟩

end

end Soundness

/-! ## Excerpts -/

/-- A field that none of a record is: its name is a text, but not the name of one of those. -/
def IsExtra (fields : List (JsonString × Json)) (extra : JsonString × Json) : Prop :=
  (∀ p ∈ extra.1, p.IsProper) ∧ extra.2.IsProper ∧
    ∃ name, extra.1.text? = some name ∧ ∀ f ∈ fields, f.1.text? ≠ some name

/-- The given fields of a written record, respelled and in any order, among extra ones. -/
inductive Excerpt (given : String → Bool) : Json → Json → Prop
  | mk {fields kept extras told : List (JsonString × Json)} :
      List.Forall₂ RespelledField (fields.filter fun f => f.1.text?.any given) kept →
        (∀ e ∈ extras, IsExtra fields e) → told.Perm (kept ++ extras) →
        Excerpt given (.object fields) (.object told)

/-- A respelled record is an excerpt with all of its fields. -/
lemma Respelled.excerpt {fields : List (String × Json)} {told : Json}
    (h : Respelled (ofFields fields) told) : Excerpt (fun _ => true) (ofFields fields) told := by
  cases h with
  | @object _ kept told values perm =>
    have nothing : told.Perm (kept ++ []) := by rwa [List.append_nil]
    refine .mk ?_ (by simp) nothing
    rwa [List.filter_eq_self.mpr]
    intro f hf
    obtain ⟨⟨name, j⟩, -, rfl⟩ := List.mem_map.mp hf
    simp

lemma Excerpt.isProper {given : String → Bool} {written told : Json}
    (h : Excerpt given written told) (hw : written.IsProper) : told.IsProper := by
  cases h with
  | mk values extras perm =>
    refine fieldsAreProper_perm perm (fieldsAreProper_iff.mpr fun f hf => ?_)
    rcases List.mem_append.mp hf with kept | extra
    · have proper := fieldsAreProper_iff.mp hw
      exact fieldsAreProper_iff.mp (Respelled.isProper_fields values
        (fieldsAreProper_iff.mpr fun f hf => proper f (List.mem_filter.mp hf).1)) f kept
    · exact ⟨(extras f extra).1, (extras f extra).2.1⟩

lemma filter_of_respelled {fields kept : List (JsonString × Json)} (keep : JsonString → Bool)
    (h : List.Forall₂ RespelledField fields kept) :
    List.Forall₂ RespelledField (fields.filter (keep ·.1)) (kept.filter (keep ·.1)) := by
  induction h with
  | nil => exact .nil
  | @cons f g _ _ first _ ih =>
    cases first with
    | value name respelled =>
      rw [List.filter_cons, List.filter_cons]
      split
      · exact .cons (.value name respelled) ih
      · exact ih

/-- An excerpt without the fields of a name. -/
lemma Excerpt.without {given : String → Bool} {fields told : List (JsonString × Json)}
    (h : Excerpt given (.object fields) (.object told)) (name : String) :
    Excerpt (fun n => given n && n != name) (.object fields)
      (.object (told.filter fun f => f.1.text? != some name)) := by
  cases h with
  | @mk _ kept extras _ values extra perm =>
    have split := perm.filter fun f => f.1.text? != some name
    rw [List.filter_append] at split
    refine .mk ?_ (fun e he => extra e (List.mem_filter.mp he).1) split
    have kept := filter_of_respelled (fun s => s.text? != some name) values
    rw [List.filter_filter] at kept
    convert kept using 3 with f
    cases f.1.text? <;> simp [Bool.and_comm, bne]

/-! ### Looking fields up -/

/-- A field with its name read; no name counts as an empty one. -/
def readName (field : JsonString × Json) : String × Json := (field.1.text?.getD "", field.2)

lemma namedFields?_eq {fields : List (JsonString × Json)} (h : ∀ f ∈ fields, f.1.text?.isSome) :
    namedFields? fields = some (fields.map readName) := by
  induction fields with
  | nil => rfl
  | cons f rest ih =>
    obtain ⟨name, eq⟩ := Option.isSome_iff_exists.mp (h f (by simp))
    have more := ih fun g hg => h g (by simp [hg])
    simp only [namedFields?] at more
    simp [namedFields?, List.mapM_cons, eq, more, readName]

lemma distinct_iff {names : List String} {fields : Fields} :
    distinct names fields ↔ ∀ name ∈ names, (fields.map Prod.fst).count name ≤ 1 := by
  have count (name : String) :
      (fields.map Prod.fst).count name = (fields.filter (·.1 == name)).length := by
    rw [List.count, List.countP_map, List.countP_eq_length_filter]
    rfl
  simp [distinct, count]

/-- A name that is used once has the value it is used for. -/
lemma lookup_of_mem {fields : Fields} {name : String} {j : Json} (h : (name, j) ∈ fields)
    (once : (fields.map Prod.fst).count name ≤ 1) : fields.lookup name = some j := by
  induction fields with
  | nil => cases h
  | cons f rest ih =>
    by_cases here : f.1 = name
    · have nowhere : name ∉ rest.map Prod.fst := by
        rw [← List.count_eq_zero]
        simpa [here] using once
      rcases List.mem_cons.mp h with rfl | later
      · exact List.lookup_cons_self
      · exact absurd (List.mem_map_of_mem later) nowhere
    · rcases List.mem_cons.mp h with rfl | later
      · exact absurd rfl here
      · rw [List.lookup_cons, beq_false_of_ne (Ne.symm here)]
        exact ih later (by simpa [List.count_cons_of_ne here] using once)

lemma lookup_eq_none {fields : Fields} {name : String} (h : name ∉ fields.map Prod.fst) :
    fields.lookup name = none := by
  rw [List.lookup_eq_none_iff]
  rintro ⟨other, j⟩ mem
  have : other ≠ name := by
    rintro rfl
    exact h (List.mem_map_of_mem mem)
  simpa using Ne.symm this

/-- A field is found with its value respelled if it is given, and not found otherwise. -/
def Found (given : String → Bool) (fields : Fields) (name : String) (j : Json) : Prop :=
  if given name then ∃ told, fields.lookup name = some told ∧ Respelled j told
  else fields.lookup name = none

/-- Respelled fields keep their names and the order of them. -/
lemma readName_of_respelled {fields : List (String × Json)} {kept : List (JsonString × Json)}
    (h : List.Forall₂ RespelledField
      (fields.map fun (name, j) => (JsonString.ofText name, j)) kept) :
    (∀ f ∈ kept, f.1.text?.isSome) ∧
      List.Forall₂ (fun f g => f.1 = g.1 ∧ Respelled f.2 g.2) fields (kept.map readName) := by
  induction fields generalizing kept with
  | nil =>
    cases h
    simp
  | cons f rest ih =>
    cases h with
    | cons first more =>
      cases first with
      | value _ respelled =>
        obtain ⟨texts, values⟩ := ih more
        exact ⟨by simpa using texts, .cons ⟨by simp [readName], respelled⟩ values⟩

lemma map_fst_eq_of_forall₂ {fields told : Fields}
    (h : List.Forall₂ (fun f g => f.1 = g.1 ∧ Respelled f.2 g.2) fields told) :
    told.map Prod.fst = fields.map Prod.fst := by
  induction h with
  | nil => rfl
  | cons first _ ih => simp [first.1, ih]

lemma exists_mem_of_forall₂ {fields told : Fields}
    (h : List.Forall₂ (fun f g => f.1 = g.1 ∧ Respelled f.2 g.2) fields told)
    {name : String} {j : Json} (mem : (name, j) ∈ fields) :
    ∃ j', (name, j') ∈ told ∧ Respelled j j' := by
  induction h with
  | nil => cases mem
  | @cons f g rest told first _ ih =>
    rcases List.mem_cons.mp mem with rfl | later
    · obtain ⟨rfl, respelled⟩ := first
      exact ⟨g.2, List.mem_cons_self, respelled⟩
    · obtain ⟨j', mem', respelled⟩ := ih later
      exact ⟨j', List.mem_cons_of_mem _ mem', respelled⟩

/-- An excerpt with its names read. -/
structure Tells (given : String → Bool) (fields told : Fields) : Prop where
  /-- No name of the record is used twice. -/
  once : ∀ f ∈ fields, (told.map Prod.fst).count f.1 ≤ 1
  present : ∀ f ∈ fields, given f.1 → ∃ j, (f.1, j) ∈ told ∧ Respelled f.2 j
  absent : ∀ f ∈ fields, ¬given f.1 → f.1 ∉ told.map Prod.fst

lemma tells_of_perm {given : String → Bool} {fields kept extras told : Fields}
    (unique : (fields.map Prod.fst).Nodup)
    (values : List.Forall₂ (fun f g => f.1 = g.1 ∧ Respelled f.2 g.2)
      (fields.filter fun f => given f.1) kept)
    (foreign : ∀ f ∈ fields, f.1 ∉ extras.map Prod.fst) (perm : told.Perm (kept ++ extras)) :
    Tells given fields told := by
  have keys := map_fst_eq_of_forall₂ values
  have split : (told.map Prod.fst).Perm
      ((fields.filter fun f => given f.1).map Prod.fst ++ extras.map Prod.fst) := by
    rw [← keys, ← List.map_append]
    exact perm.map Prod.fst
  refine ⟨fun f hf => ?_, fun f hf isGiven => ?_, fun f hf notGiven mem => ?_⟩
  · rw [split.count_eq, List.count_append, List.count_eq_zero.mpr (foreign f hf)]
    exact List.nodup_iff_count_le_one.mp
      (unique.sublist (List.Sublist.map _ List.filter_sublist)) f.1
  · obtain ⟨j, mem, respelled⟩ :=
      exists_mem_of_forall₂ values (List.mem_filter.mpr ⟨hf, isGiven⟩)
    exact ⟨j, perm.mem_iff.mpr (List.mem_append_left _ mem), respelled⟩
  · rcases List.mem_append.mp (split.mem_iff.mp mem) with inKept | inExtras
    · obtain ⟨g, hg, same⟩ := List.mem_map.mp inKept
      exact notGiven (same ▸ (List.mem_filter.mp hg).2)
    · exact foreign f hf inExtras

/-- The names of an excerpt are texts, and with them read it tells the fields that are given. -/
lemma Excerpt.tells {given : String → Bool} {fields : Fields} {told : List (JsonString × Json)}
    (h : Excerpt given (ofFields fields) (.object told))
    (unique : (fields.map Prod.fst).Nodup) :
    namedFields? told = some (told.map readName) ∧ Tells given fields (told.map readName) := by
  cases h with
  | @mk _ kept extras _ values extra perm =>
    rw [List.filter_map] at values
    obtain ⟨texts, values⟩ := readName_of_respelled values
    simp only [Function.comp_def, JsonString.text?_ofText, Option.any_some] at values
    have split : (told.map readName).Perm (kept.map readName ++ extras.map readName) := by
      rw [← List.map_append]
      exact perm.map readName
    refine ⟨namedFields?_eq fun f hf => ?_, tells_of_perm unique values (fun f hf mem => ?_) split⟩
    · rcases List.mem_append.mp (perm.mem_iff.mp hf) with inKept | inExtras
      · exact texts f inKept
      · obtain ⟨-, -, name, eq, -⟩ := extra f inExtras
        rw [eq]
        rfl
    · simp only [List.map_map, List.mem_map, Function.comp_apply] at mem
      obtain ⟨e, he, same⟩ := mem
      obtain ⟨-, -, name, eq, other⟩ := extra e he
      rw [readName, eq] at same
      exact other _ (List.mem_map_of_mem hf) (by simpa using same.symm)

lemma Tells.found {given : String → Bool} {fields told : Fields} (h : Tells given fields told)
    {f : String × Json} (hf : f ∈ fields) : Found given told f.1 f.2 := by
  unfold Found
  split_ifs with isGiven
  · obtain ⟨j, mem, respelled⟩ := h.present f hf isGiven
    exact ⟨j, lookup_of_mem mem (h.once f hf), respelled⟩
  · exact lookup_eq_none (h.absent f hf isGiven)

/-- Each field of a record is found in an excerpt if it is given. -/
lemma Excerpt.record? {given : String → Bool} {fields : Fields} {told : Json}
    (h : Excerpt given (ofFields fields) told) (unique : (fields.map Prod.fst).Nodup) :
    ∃ found, (∀ names ⊆ fields.map Prod.fst, told.record? names = some found) ∧
      ∀ f ∈ fields, Found given found f.1 f.2 := by
  match told, h with
  | .object told, h =>
    obtain ⟨named, tells⟩ := h.tells unique
    refine ⟨told.map readName, fun names known => ?_, fun f hf => tells.found hf⟩
    have distinct := distinct_iff.mpr fun name hn => by
      obtain ⟨f, hf, rfl⟩ := List.mem_map.mp (known hn)
      exact tells.once f hf
    simp [Json.record?, named, distinct]

/-! ### Reading fields -/

section Reading

variable {α : Type} {given : String → Bool} {fields : Fields} {name : String} {j : Json}
  {read : Json → Option α} {a : α}

/-- A field that was left out has its default. -/
lemma Found.withDefault (h : Found given fields name j)
    (hr : ∀ told, Respelled j told → read told = some a) (default : α) :
    Json.withDefault fields name read default = some (if given name then a else default) := by
  unfold Found at h
  unfold Json.withDefault
  split_ifs at h ⊢ with isGiven
  · obtain ⟨told, eq, respelled⟩ := h
    rw [eq]
    exact hr told respelled
  · rw [h]

lemma Found.required (h : Found given fields name j) (isGiven : given name)
    (hr : ∀ told, Respelled j told → read told = some a) :
    Json.required fields name read = some a := by
  rw [Found, if_pos isGiven] at h
  obtain ⟨told, eq, respelled⟩ := h
  rw [Json.required, eq]
  exact hr told respelled

end Reading

end Json

end FreeSurface

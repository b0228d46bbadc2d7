import FreeSurface.Proofs.Written.Excerpt
import FreeSurface.Written.Geometry

/-!
# Vectors, shapes and scenes read back

A number is faithful when it is read back from what is printed of it.  A part of a scene that
consists of faithful numbers is read back from every document that tells it.

* `Written.Faithful` — a number is read back.
* `Written.vector?_eq`, `Written.shape?_eq` — vectors and shapes.
* `Written.scene?_eq` — a scene, with the parts that are not given taken from the drop into a pool.
-/

namespace FreeSurface

namespace Written

/-! ## Numbers -/

section Numbers

variable {α : Type} [JsonScalar α] {x : α}

/-- A number is read back from what is printed of it. -/
def Faithful (x : α) : Prop := (Json.parse? (number x).compact).bind number? = some x

instance [DecidableEq α] : DecidablePred (Faithful (α := α)) := fun _ =>
  inferInstanceAs (Decidable (_ = _))

/-- What is printed of a faithful number is a proper numeral of it. -/
lemma Faithful.exists_numeral (h : Faithful x) :
    ∃ n, number x = .number n ∧ n.IsProper ∧ JsonScalar.ofNumeral? n = some x := by
  cases hx : JsonScalar.numeral? x with
  | none =>
    have written : number x = .null := by simp [number, hx]
    have proper : Json.null.IsProper := trivial
    rw [Faithful, written, Json.parse?_of_spells (Json.spells_compact proper)] at h
    cases h
  | some n =>
    have written : number x = .number n := by simp [number, hx]
    rw [Faithful, written] at h
    have proper : n.IsProper := by
      apply Json.isProper_of_parse?
      obtain ⟨j, read, -⟩ := Option.bind_eq_some_iff.mp h
      exact Option.isSome_iff_exists.mpr ⟨j, read⟩
    have printed : Json.parse? (Json.number n).compact = some (.number n) :=
      Json.parse?_of_spells (Json.spells_compact proper)
    rw [printed] at h
    exact ⟨n, written, proper, h⟩

lemma Faithful.isProper (h : Faithful x) : (number x).IsProper := by
  obtain ⟨n, written, proper, -⟩ := h.exists_numeral
  rw [written]
  exact proper

lemma Faithful.isSound (h : Faithful x) (room : ℕ) : (number x).isSound (accepts α) room := by
  obtain ⟨n, written, -, read⟩ := h.exists_numeral
  rw [written]
  simp [Json.isSound, accepts, read]

lemma number?_eq (h : Faithful x) {told : Json} (ht : Json.Respelled (number x) told) :
    number? told = some x := by
  obtain ⟨n, written, -, read⟩ := h.exists_numeral
  rw [written] at ht
  cases ht
  exact read

end Numbers

/-! ## Counts, names and options -/

lemma isProper_nat (n : ℕ) : (Json.nat n).IsProper := Numeral.isProper_ofInt n

lemma nat?_eq {n limit : ℕ} (h : n ≤ limit) {told : Json}
    (ht : Json.Respelled (Json.nat n) told) : Json.nat? limit told = some n := by
  cases ht
  have value : Digit.value (Numeral.ofInt n).whole = n := by simp [Numeral.ofInt]
  have plain : (Numeral.ofInt n).isInteger && !(Numeral.ofInt n).negative := by
    simp [Numeral.ofInt, Numeral.isInteger]
  simp [Json.nat?, value, plain, h]

lemma text_of_respelled {s : String} {told : Json} (ht : Json.Respelled (Json.text s) told) :
    told = Json.text s := by
  cases ht
  rfl

section Options

variable {β : Type} {write : β → Json} {read : Json → Option β}

lemma isProper_optional {o : Option β} (h : ∀ b ∈ o, (write b).IsProper) :
    (optional write o).IsProper := by
  cases o with
  | none => trivial
  | some b => exact h b rfl

/-- A value that may be left out is read back if null is no value. -/
lemma optional?_eq (null : read .null = none) {o : Option β}
    (h : ∀ b ∈ o, ∀ told, Json.Respelled (write b) told → read told = some b) {told : Json}
    (ht : Json.Respelled (optional write o) told) : Json.optional? read told = some o := by
  cases o with
  | none =>
    cases ht
    rfl
  | some b =>
    have value := h b rfl told ht
    cases told with
    | null => rw [null] at value; cases value
    | _ => simp [Json.optional?, value]

/-- Items are read back one by one. -/
lemma mapM_eq {bs : List β}
    (h : ∀ b ∈ bs, ∀ told, Json.Respelled (write b) told → read told = some b)
    {items : List Json} (values : List.Forall₂ Json.Respelled (bs.map write) items) :
    items.mapM read = some bs := by
  induction bs generalizing items with
  | nil =>
    cases values
    rfl
  | cons b bs ih =>
    cases values with
    | cons first more =>
      simp [List.mapM_cons, h b (by simp) _ first, ih (fun b hb => h b (by simp [hb])) more]

/-- A list of objects is never taken for a vector. -/
lemma items?_eq {bs : List β} (objects : ∀ b, ∃ fields, write b = .object fields)
    (h : ∀ b ∈ bs, ∀ told, Json.Respelled (write b) told → read told = some b) {told : Json}
    (ht : Json.Respelled (.array (bs.map write)) told) :
    (told.items?.bind fun items => items.mapM read) = some bs := by
  generalize eq : bs.map write = written at ht
  cases ht with
  | array values => exact mapM_eq h (eq ▸ values)
  | vector =>
    obtain ⟨b, -, number⟩ := List.mem_map.mp (eq ▸ List.mem_cons_self)
    obtain ⟨fields, object⟩ := objects b
    rw [object] at number
    cases number

end Options

variable {S : Type} [JsonScalar S]

/-! ## Vectors -/

/-- All three coordinates are read back. -/
def FaithfulVector (v : Vec3 S) : Prop := Faithful v.x ∧ Faithful v.y ∧ Faithful v.z

instance [DecidableEq S] : DecidablePred (FaithfulVector (S := S)) := fun _ =>
  inferInstanceAs (Decidable (_ ∧ _ ∧ _))

section Vectors

variable {v : Vec3 S}

lemma FaithfulVector.isProper (h : FaithfulVector v) : (vector v).IsProper :=
  ⟨h.1.isProper, h.2.1.isProper, h.2.2.isProper, trivial⟩

lemma FaithfulVector.isSound (h : FaithfulVector v) (room : ℕ) :
    (vector v).isSound (accepts S) (room + 1) := by
  simp [vector, Json.isSound, Json.areSound, h.1.isSound, h.2.1.isSound, h.2.2.isSound]

/-- A vector written as an object. -/
def coordinates (v : Vec3 S) : Json :=
  Json.ofFields [("x", number v.x), ("y", number v.y), ("z", number v.z)]

/-- A respelled vector is an array of its coordinates or an object with a field for each. -/
lemma FaithfulVector.cases (h : FaithfulVector v) {told : Json}
    (ht : Json.Respelled (vector v) told) :
    told = vector v ∨ Json.Respelled (coordinates v) told := by
  obtain ⟨nx, x, -, -⟩ := h.1.exists_numeral
  obtain ⟨ny, y, -, -⟩ := h.2.1.exists_numeral
  obtain ⟨nz, z, -, -⟩ := h.2.2.exists_numeral
  rw [vector, x, y, z] at ht
  rw [vector, coordinates, x, y, z]
  cases ht with
  | vector perm => exact .inr (.object (Json.Respelled.refl_fields _) perm)
  | array values =>
    left
    rcases values with _ | ⟨⟨⟩, _ | ⟨⟨⟩, _ | ⟨⟨⟩, _ | _⟩⟩⟩
    rfl

lemma FaithfulVector.respelled_coordinates (h : FaithfulVector v) :
    Json.Respelled (vector v) (coordinates v) := by
  obtain ⟨nx, x, -, -⟩ := h.1.exists_numeral
  obtain ⟨ny, y, -, -⟩ := h.2.1.exists_numeral
  obtain ⟨nz, z, -, -⟩ := h.2.2.exists_numeral
  rw [vector, coordinates, x, y, z]
  exact .vector (.refl _)

lemma vectorOfFields?_eq (h : FaithfulVector v) {told : Json}
    (ht : Json.Respelled (vector v) told) : vectorOfFields? told = some v := by
  rcases h.cases ht with rfl | object
  · simp [vectorOfFields?, vector, number?_eq h.1 (.refl _), number?_eq h.2.1 (.refl _),
      number?_eq h.2.2 (.refl _)]
  · obtain ⟨found, record, fields⟩ := object.excerpt.record? (by simp)
    simp only [List.forall_mem_cons] at fields
    obtain ⟨x, y, z, -⟩ := fields
    cases object with
    | object =>
      simp only [vectorOfFields?]
      rw [record _ (by simp)]
      simp [x.required rfl fun _ => number?_eq h.1, y.required rfl fun _ => number?_eq h.2.1,
        z.required rfl fun _ => number?_eq h.2.2]

/-- A vector is read back if there is room for its brackets. -/
lemma vector?_eq (h : FaithfulVector v) {room : ℕ} (hr : 1 ≤ room) {told : Json}
    (ht : Json.Respelled (vector v) told) : vector? room told = some v := by
  obtain ⟨room, rfl⟩ := Nat.exists_eq_add_of_le' hr
  rw [vector?, if_pos (ht.isSound (h.isSound room)), vectorOfFields?_eq h ht]

end Vectors

/-! ## Shapes -/

/-- All numbers of a shape are read back. -/
def FaithfulShape : Shape S → Prop
  | .box min max => FaithfulVector min ∧ FaithfulVector max
  | .sphere center radius => FaithfulVector center ∧ Faithful radius

instance [DecidableEq S] : DecidablePred (FaithfulShape (S := S))
  | .box _ _ => inferInstanceAs (Decidable (_ ∧ _))
  | .sphere _ _ => inferInstanceAs (Decidable (_ ∧ _))

section Shapes

variable {s : Shape S}

lemma isProper_text {s : String} (h : ∀ p ∈ JsonString.ofText s, p.IsProper) :
    (Json.text s).IsProper := h

lemma FaithfulShape.isProper (h : FaithfulShape s) : (shape s).IsProper := by
  cases s with
  | box min max =>
    have kind : (Json.text "box").IsProper := isProper_text (by decide)
    refine Json.isProper_ofFields (show ∀ name ∈ ["type", "min", "max"], _ by decide) ?_
    simp [kind, h.1.isProper, h.2.isProper]
  | sphere center radius =>
    have kind : (Json.text "sphere").IsProper := isProper_text (by decide)
    refine Json.isProper_ofFields (show ∀ name ∈ ["type", "center", "radius"], _ by decide) ?_
    simp [kind, h.1.isProper, h.2.isProper]

lemma FaithfulShape.isSound (h : FaithfulShape s) (room : ℕ) :
    (shape s).isSound (accepts S) (room + 2) := by
  cases s with
  | box min max =>
    simp [shape, Json.ofFields, Json.isSound, Json.fieldsAreSound, Json.text, h.1.isSound,
      h.2.isSound]
  | sphere center radius =>
    simp [shape, Json.ofFields, Json.isSound, Json.fieldsAreSound, Json.text, h.1.isSound,
      h.2.isSound]

/-- The kind of a shape is read before its other fields. -/
lemma shape?_object {kind : String} {fields : Json.Fields} {told : List (JsonString × Json)}
    (ht : Json.Respelled (Json.ofFields (("type", Json.text kind) :: fields)) (.object told))
    (unique : ((("type", Json.text kind) :: fields).map Prod.fst).Nodup) {room : ℕ}
    (sound : (Json.object told).isSound (accepts S) room) :
    shape? (S := S) room (.object told)
      = shapeOfKind? kind (.object (told.filter fun f => f.1.text? != some "type")) := by
  obtain ⟨known, record, found⟩ := ht.excerpt.record? unique
  have named : Json.required known "type" Json.text? = some kind :=
    (found _ List.mem_cons_self).required rfl fun told ht => by
      rw [text_of_respelled ht]
      simp [Json.text?, Json.text]
  simp [shape?, sound, record ["type"] (by simp), named]

/-- A shape is read back if there is room for its brackets and those of its vectors. -/
lemma shape?_eq (h : FaithfulShape s) {room : ℕ} (hr : 2 ≤ room) {told : Json}
    (ht : Json.Respelled (shape s) told) : shape? room told = some s := by
  obtain ⟨room, rfl⟩ := Nat.exists_eq_add_of_le' hr
  have sound := ht.isSound (h.isSound room)
  obtain ⟨told, rfl⟩ : ∃ fields, told = .object fields := by
    cases s <;> cases ht <;> exact ⟨_, rfl⟩
  cases s with
  | box min max =>
    rw [shape?_object ht (by simp) sound]
    obtain ⟨found, record, fields⟩ := (ht.excerpt.without "type").record? (by simp)
    simp only [List.forall_mem_cons] at fields
    obtain ⟨-, least, greatest, -⟩ := fields
    simp [shapeOfKind?, record ["min", "max"] (by simp),
      least.required rfl fun _ => vectorOfFields?_eq h.1,
      greatest.required rfl fun _ => vectorOfFields?_eq h.2]
  | sphere center radius =>
    rw [shape?_object ht (by simp) sound]
    obtain ⟨found, record, fields⟩ := (ht.excerpt.without "type").record? (by simp)
    simp only [List.forall_mem_cons] at fields
    obtain ⟨-, middle, extent, -⟩ := fields
    simp [shapeOfKind?, record ["center", "radius"] (by simp),
      middle.required rfl fun _ => vectorOfFields?_eq h.1,
      extent.required rfl fun _ => number?_eq h.2]

end Shapes

/-! ## Scenes -/

/-- All numbers of a scene are read back. -/
structure FaithfulScene (s : Scene S) : Prop where
  boundaryWidth : s.boundaryWidth ≤ Json.word64
  fluid : ∀ b ∈ s.fluid, FaithfulShape b
  obstacles : ∀ b ∈ s.obstacles, FaithfulShape b
  motion : ∀ region ∈ s.motion, FaithfulShape region.shape ∧ FaithfulVector region.velocity

end Written

/-- The given parts of a scene, with the others taken from a second one. -/
def Scene.over {S : Type} (given : String → Bool) (s base : Scene S) : Scene S where
  boundaryWidth := if given "boundary_width" then s.boundaryWidth else base.boundaryWidth
  fluid := if given "fluid" then s.fluid else base.fluid
  obstacles := if given "obstacles" then s.obstacles else base.obstacles
  motion := if given "initial_velocity" then s.motion else base.motion

lemma Scene.over_all {S : Type} (s base : Scene S) : s.over (fun _ => true) base = s := rfl

namespace Written

variable {S : Type} [JsonScalar S]

lemma isProper_motion {region : MovingRegion S}
    (h : FaithfulShape region.shape ∧ FaithfulVector region.velocity) :
    (motion region).IsProper := by
  refine Json.isProper_ofFields (show ∀ name ∈ ["shape", "velocity"], _ by decide) ?_
  simp [h.1.isProper, h.2.isProper]

lemma motion?_eq {region : MovingRegion S}
    (h : FaithfulShape region.shape ∧ FaithfulVector region.velocity) {room : ℕ}
    (hr : 3 ≤ room) {told : Json} (ht : Json.Respelled (motion region) told) :
    motion? room told = some region := by
  obtain ⟨found, record, fields⟩ := ht.excerpt.record? (by simp)
  simp only [List.forall_mem_cons] at fields
  obtain ⟨body, velocity, -⟩ := fields
  simp [motion?, record ["shape", "velocity"] (by simp),
    body.required rfl fun _ => shape?_eq h.1 (by omega : 2 ≤ room - 1),
    velocity.required rfl fun _ => vector?_eq h.2 (by omega : 1 ≤ room - 1)]

lemma isProper_shapes {bodies : List (Shape S)} (h : ∀ b ∈ bodies, FaithfulShape b) :
    (Json.array (bodies.map shape)).IsProper := by
  refine Json.areProper_iff.mpr fun j hj => ?_
  obtain ⟨b, hb, rfl⟩ := List.mem_map.mp hj
  exact (h b hb).isProper

lemma shapes?_eq {bodies : List (Shape S)} (h : ∀ b ∈ bodies, FaithfulShape b) {room : ℕ}
    (hr : 3 ≤ room) {told : Json} (ht : Json.Respelled (.array (bodies.map shape)) told) :
    shapes? room told = some bodies := by
  refine items?_eq (fun b => ?_) (fun b hb told ht => shape?_eq (h b hb) (by omega) ht) ht
  cases b <;> exact ⟨_, rfl⟩

lemma FaithfulScene.isProper {s : Scene S} (h : FaithfulScene s) : (scene s).IsProper := by
  refine Json.isProper_ofFields
    (show ∀ name ∈ ["boundary_width", "fluid", "obstacles", "initial_velocity"], _ by decide) ?_
  simp [isProper_nat, isProper_shapes h.fluid, isProper_shapes h.obstacles,
    isProper_optional fun region hr => isProper_motion (h.motion region hr)]

/-- A scene of which some parts are told is read as those, with the others taken from the drop into
a pool. -/
lemma scene?_eq [Scalar S] {s : Scene S} (h : FaithfulScene s) {room : ℕ} (hr : 4 ≤ room)
    {given : String → Bool} {told : Json} (ht : Json.Excerpt given (scene s) told) :
    scene? room told = some (s.over given .dropIntoPool) := by
  obtain ⟨found, record, fields⟩ := ht.record? (by simp)
  simp only [List.forall_mem_cons] at fields
  obtain ⟨width, fluid, obstacles, moving, -⟩ := fields
  simp only [scene?, record ["boundary_width", "fluid", "obstacles", "initial_velocity"] (by simp),
    Option.bind_eq_bind, Option.bind_some, width.withDefault fun _ => nat?_eq h.boundaryWidth,
    fluid.withDefault fun _ => shapes?_eq h.fluid (by omega : 3 ≤ room - 1),
    obstacles.withDefault fun _ => shapes?_eq h.obstacles (by omega : 3 ≤ room - 1),
    moving.withDefault fun _ => optional?_eq rfl fun region hr _ =>
      motion?_eq (h.motion region hr) (by omega : 3 ≤ room - 1)]
  rfl

lemma scene?_eq_of_respelled [Scalar S] {s : Scene S} (h : FaithfulScene s) {room : ℕ}
    (hr : 4 ≤ room) {told : Json} (ht : Json.Respelled (scene s) told) :
    scene? room told = some s := by
  rw [scene?_eq h hr ht.excerpt, Scene.over_all]

end Written

end FreeSurface

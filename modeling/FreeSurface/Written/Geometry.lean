import FreeSurface.Scene
import FreeSurface.Text.Json.Basic
import FreeSurface.Text.NumberText

/-!
# Written vectors, shapes and scenes

How the parts of a scene are written in documents and read back.  `room` is how many levels of
nesting a document may still open; it counts only where the shape of a value is not known before all
of it is read.

* `Written.vector`, `Written.vector?` — three numbers in an array; an object with the fields `x`,
  `y` and `z` is read as well.
* `Written.shape`, `Written.shape?` — an object whose field `type` names the kind of shape; an array
  that begins with that name is read as well.
* `Written.scene`, `Written.scene?` — parts left out are those of the drop into a pool.
-/

namespace FreeSurface

namespace Written

/-! ## Numbers -/

section Numbers

variable {α : Type} [JsonScalar α]

/-- A number, or null for one that is not finite. -/
def number (x : α) : Json :=
  match JsonScalar.numeral? x with
  | some n => .number n
  | none => .null

/-- A number that is not too large. -/
def number? : Json → Option α
  | .number n => JsonScalar.ofNumeral? n
  | _ => none

/-- A value that may be left out. -/
def optional {β : Type} (write : β → Json) : Option β → Json
  | some b => write b
  | none => .null

end Numbers

variable {S : Type} [JsonScalar S]

/-- The numerals of a carrier that are not too large. -/
def accepts (S : Type) [JsonScalar S] (n : Numeral) : Bool :=
  (JsonScalar.ofNumeral? (α := S) n).isSome

/-! ## Vectors -/

/-- Three numbers. -/
def vector (v : Vec3 S) : Json := .array [number v.x, number v.y, number v.z]

/-- A vector of the fields of a record. -/
def vectorOfFields? (j : Json) : Option (Vec3 S) :=
  match j with
  | .object _ => do
    let fields ← j.record? ["x", "y", "z"]
    let x ← Json.required fields "x" number?
    let y ← Json.required fields "y" number?
    let z ← Json.required fields "z" number?
    return ⟨x, y, z⟩
  | .array [x, y, z] => do
    let x ← number? x
    let y ← number? y
    let z ← number? z
    return ⟨x, y, z⟩
  | _ => none

/-- A vector, if everything in its document can be used. -/
def vector? (room : Nat) (j : Json) : Option (Vec3 S) :=
  if j.isSound (accepts S) room then vectorOfFields? j else none

/-! ## Shapes -/

def shape : Shape S → Json
  | .box min max =>
    Json.ofFields [("type", Json.text "box"), ("min", vector min), ("max", vector max)]
  | .sphere center radius =>
    Json.ofFields [("type", Json.text "sphere"), ("center", vector center),
      ("radius", number radius)]

/-- A shape of a kind, from the document of its other fields. -/
def shapeOfKind? (kind : String) (j : Json) : Option (Shape S) :=
  if kind == "box" then do
    let fields ← j.record? ["min", "max"]
    let min ← Json.required fields "min" vectorOfFields?
    let max ← Json.required fields "max" vectorOfFields?
    return .box min max
  else if kind == "sphere" then do
    let fields ← j.record? ["center", "radius"]
    let center ← Json.required fields "center" vectorOfFields?
    let radius ← Json.required fields "radius" number?
    return .sphere center radius
  else none

/-- A shape, if everything in its document can be used. -/
def shape? (room : Nat) (j : Json) : Option (Shape S) :=
  if j.isSound (accepts S) room then
    match j with
    | .object fields => do
      let known ← j.record? ["type"]
      let kind ← Json.required known "type" Json.text?
      shapeOfKind? kind (.object (fields.filter fun field => field.1.text? != some "type"))
    | .array (kind :: rest) => do shapeOfKind? (← kind.text?) (.array rest)
    | _ => none
  else none

/-! ## Scenes -/

def motion (region : MovingRegion S) : Json :=
  Json.ofFields [("shape", shape region.shape), ("velocity", vector region.velocity)]

def motion? (room : Nat) (j : Json) : Option (MovingRegion S) := do
  let fields ← j.record? ["shape", "velocity"]
  let shape ← Json.required fields "shape" (shape? (room - 1))
  let velocity ← Json.required fields "velocity" (vector? (room - 1))
  return ⟨shape, velocity⟩

def shapes? (room : Nat) (j : Json) : Option (List (Shape S)) := do
  (← j.items?).mapM (shape? (room - 1))

def scene (s : Scene S) : Json :=
  Json.ofFields [("boundary_width", Json.nat s.boundaryWidth),
    ("fluid", .array (s.fluid.map shape)), ("obstacles", .array (s.obstacles.map shape)),
    ("initial_velocity", optional motion s.motion)]

def scene? [Scalar S] (room : Nat) (j : Json) : Option (Scene S) := do
  let base : Scene S := .dropIntoPool
  let fields ← j.record? ["boundary_width", "fluid", "obstacles", "initial_velocity"]
  let width ← Json.withDefault fields "boundary_width" (Json.nat? Json.word64) base.boundaryWidth
  let fluid ← Json.withDefault fields "fluid" (shapes? (room - 1)) base.fluid
  let obstacles ← Json.withDefault fields "obstacles" (shapes? (room - 1)) base.obstacles
  let motion ← Json.withDefault fields "initial_velocity" (Json.optional? (motion? (room - 1)))
    base.motion
  return ⟨width, fluid, obstacles, motion⟩

end Written

end FreeSurface

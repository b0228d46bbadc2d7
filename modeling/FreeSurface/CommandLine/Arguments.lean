import FreeSurface.Config.Basic
import FreeSurface.Run.Event

/-!
# Arguments

What the arguments of the program ask for.

* `Request` — what can be asked for.
* `Arguments.options` — the options at the front of some arguments: a long name with its value
  after a blank or an equals sign, or a short one with its value attached as well.  A value after a
  blank does not begin with a hyphen, and no option is given twice.
* `Request.ofArguments?` — what the arguments ask for, unless their use is wrong.
-/

namespace FreeSurface

/-- The arguments of a run. -/
structure RunRequest where
  config : Option String
  preset : Preset
  mode : Option Mode
  resolution : Option Nat
  frames : Nat
  records : Option String
  snapshots : Option String
  every : Nat
deriving DecidableEq, Repr

/-- What can be asked for. -/
inductive Command where
  | run (request : RunRequest)
  | preset (preset : Preset) (output : Option String)
deriving DecidableEq, Repr

/-- What the arguments ask for; events are told from a severity on, or not at all. -/
inductive Request where
  | help
  | version
  | command (level : Option Severity) (command : Command)
deriving DecidableEq, Repr

/-- Arguments that make no sense. -/
structure WrongUsage where
deriving DecidableEq, Repr

def Preset.argument : Preset → String
  | .dropIntoPool => "drop-into-pool"
  | .breakingDam => "breaking-dam"

def Preset.ofArgument? (s : String) : Option Preset :=
  [Preset.dropIntoPool, .breakingDam].find? (·.argument == s)

namespace Arguments

/-- An option that takes a value, and the values it takes. -/
structure Spec where
  long : String
  short : Option Char
  accepts : String → Bool

/-- Values by the long names of options. -/
abbrev Values : Type := List (String × String)

/-- Why reading options stops: help or the version is asked for, or the use is wrong. -/
inductive Stop where
  | help
  | version
  | wrong
deriving DecidableEq, Repr

/-- A value may follow its option after a blank. -/
def isValue (s : String) : Bool := !s.startsWith "-" || s == "-"

/-- The value of an option: attached, or the next argument. -/
def valueOf (attached : Option String) (rest : List String) :
    Except Stop (String × List String) :=
  match attached, rest with
  | some value, rest => .ok (value, rest)
  | none, value :: rest => if isValue value then .ok (value, rest) else .error .wrong
  | none, [] => .error .wrong

/-- Splits a text at its first equals sign. -/
def splitEquals (s : List Char) : List Char × Option (List Char) :=
  let name := s.takeWhile (· != '=')
  match s.drop name.length with
  | _ :: value => (name, some value)
  | [] => (name, none)

/-- What an argument that begins with a hyphen is about. -/
inductive Mark where
  | help
  | version
  | option (name : String) (attached : Option String)
  | unknown

/-- What an argument with a long name is about. -/
def longMark (specs : List Spec) (hasVersion : Bool) (s : List Char) : Mark :=
  let (name, value) := splitEquals s
  let name := String.ofList name
  let value := value.map String.ofList
  if name == "help" && value.isNone then .help
  else if hasVersion && name == "version" && value.isNone then .version
  else if specs.any (·.long == name) then .option name value
  else .unknown

/-- What an argument with a short name is about; an equals sign before the value is dropped. -/
def shortMark (specs : List Spec) (hasVersion : Bool) (c : Char) (rest : List Char) : Mark :=
  if c == 'h' then .help
  else if hasVersion && c == 'V' then .version
  else match specs.find? (·.short == some c) with
    | some spec =>
      let value := if rest.head? == some '=' then rest.drop 1 else rest
      .option spec.long (if rest.isEmpty then none else some (String.ofList value))
    | none => .unknown

/-- What an argument is about, if it begins with a hyphen. -/
def mark? (specs : List Spec) (hasVersion : Bool) (s : String) : Option Mark :=
  match s.toList with
  | '-' :: '-' :: rest => some (longMark specs hasVersion rest)
  | '-' :: c :: rest => some (shortMark specs hasVersion c rest)
  | _ => none

/-- The value is taken by the option of that name, and none was given before. -/
def mayTake (specs : List Spec) (values : Values) (name value : String) : Bool :=
  !value.isEmpty && (values.lookup name).isNone
    && specs.any fun spec => spec.long == name && spec.accepts value

/-- Options and other arguments read so far, and what is left. -/
structure Progress where
  values : Values
  others : List String
  rest : List String

/-- Takes arguments that are no options, as long as there is a place for them. -/
def takeOther (place : Option (String → Bool)) (p : Progress) (s : String) : Except Stop Progress :=
  match place, p.others with
  | some accepts, [] => if accepts s then .ok { p with others := [s] } else .error .wrong
  | _, _ => .error .wrong

/-- Reads options, and another argument if there is a place for one.  Without such a place reading
stops at the first argument that is no option; after two hyphens there are no more options. -/
def options? (specs : List Spec) (hasVersion : Bool) (place : Option (String → Bool)) :
    (fuel : Nat) → Progress → Except Stop Progress
  | 0, p => .ok p
  | fuel + 1, p =>
    match p.rest with
    | [] => .ok p
    | "--" :: rest => rest.foldlM (takeOther place) { p with rest := [] }
    | s :: rest =>
      match mark? specs hasVersion s with
      | some .help => .error .help
      | some .version => .error .version
      | some .unknown => .error .wrong
      | some (.option name attached) => do
        let (value, rest) ← valueOf attached rest
        if mayTake specs p.values name value then
          options? specs hasVersion place fuel
            { p with values := (name, value) :: p.values, rest := rest }
        else .error .wrong
      | none =>
        if place.isNone then .ok p
        else do options? specs hasVersion place fuel (← takeOther place { p with rest := rest } s)

/-- Reads the options at the front of some arguments. -/
def options (specs : List Spec) (hasVersion : Bool) (place : Option (String → Bool))
    (args : List String) : Except Stop Progress :=
  options? specs hasVersion place args.length ⟨[], [], args⟩

/-- The decimal digits of a number. -/
def digits? (s : List Char) : Option Nat :=
  if s.isEmpty || !s.all Char.isDigit then none
  else some (s.foldl (fun n c => 10 * n + (c.toNat - '0'.toNat)) 0)

/-- A number up to a limit, which may have a plus sign. -/
def number? (limit : Nat) (s : String) : Option Nat :=
  let n? := match s.toList with
    | '+' :: rest => digits? rest
    | cs => digits? cs
  n?.bind fun n => if n ≤ limit then some n else none

/-- A number of 32 bits; zero may have a minus sign. -/
def count? (s : String) : Option Nat :=
  match s.toList with
  | '-' :: rest => (digits? rest).bind fun n => if n = 0 then some 0 else none
  | _ => number? (UInt32.size - 1) s

/-- The severity from which on events are told, by its name in any case; none for `off`. -/
def level? (s : String) : Option (Option Severity) :=
  match s.toLower with
  | "off" => some none
  | "error" => some (some .error)
  | "warn" => some (some .warn)
  | "info" => some (some .info)
  | "debug" => some (some .debug)
  | "trace" => some (some .debug)
  | _ => none

/-- An option for values that can be read. -/
def spec {α : Type} (long : String) (short : Option Char) (read : String → Option α) : Spec :=
  ⟨long, short, fun value => (read value).isSome⟩

/-- The value of an option, where it is given. -/
def given {α : Type} (values : Values) (name : String) (read : String → Option α) : Option α :=
  (values.lookup name).bind read

/-- A size of 64 bits. -/
def size? : String → Option Nat := number? (UInt64.size - 1)

def runSpecs : List Spec :=
  [spec "config" (some 'c') some, spec "preset" (some 'p') Preset.ofArgument?,
    spec "mode" (some 'm') Mode.ofName?, spec "resolution" (some 'r') size?,
    spec "frames" (some 'f') count?, spec "stats" none some, spec "snapshot-dir" none some,
    spec "snapshot-every" none count?]

/-- The number of frames of a run unless told otherwise. -/
def standardFrames : Nat := 500

/-- The arguments of a run.  A configuration and a scene exclude each other. -/
def run (args : List String) : Except Stop Command := do
  let p ← options runSpecs false none args
  let config := given p.values "config" some
  let preset := given p.values "preset" Preset.ofArgument?
  if !p.rest.isEmpty || (config.isSome && preset.isSome) then throw .wrong
  return .run {
    config := config
    preset := preset.getD .dropIntoPool
    mode := given p.values "mode" Mode.ofName?
    resolution := given p.values "resolution" size?
    frames := (given p.values "frames" count?).getD standardFrames
    records := given p.values "stats" some
    snapshots := given p.values "snapshot-dir" some
    every := (given p.values "snapshot-every" count?).getD 0 }

/-- The arguments for the configuration of a scene. -/
def preset (args : List String) : Except Stop Command := do
  let p ← options [spec "output" (some 'o') some] false
    (some fun name => (Preset.ofArgument? name).isSome) args
  match p.others.head?.bind Preset.ofArgument?, p.rest with
  | some preset, [] => return .preset preset (given p.values "output" some)
  | _, _ => throw .wrong

def commandNames : List String := ["run", "preset", "help"]

def program (args : List String) : Except Stop Request := do
  let p ← options [spec "log-level" (some 'l') level?] true none args
  let level := (given p.values "log-level" level?).getD (some .info)
  match p.rest with
  | "run" :: rest => return .command level (← run rest)
  | "preset" :: rest => return .command level (← preset rest)
  | ["help"] => throw .help
  | ["help", name] => throw (if commandNames.contains name then .help else .wrong)
  | _ => throw .wrong

end Arguments

/-- What the arguments of the program ask for. -/
def Request.ofArguments? (args : List String) : Except WrongUsage Request :=
  match Arguments.program args with
  | .ok request => .ok request
  | .error .help => .ok .help
  | .error .version => .ok .version
  | .error .wrong => .error ⟨⟩

end FreeSurface

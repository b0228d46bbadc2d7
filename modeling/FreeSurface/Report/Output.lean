import FreeSurface.Files.Basic
import FreeSurface.Written.Records

/-!
# Files that a run leaves behind

* `loadConfiguration`, `saveConfiguration`, `loadSnapshot`, `saveSnapshot` — single files.
* `Output` — where a run leaves its records, one a line, and snapshots of its particles every so
  many frames.
-/

namespace FreeSurface

/-- Why a file cannot be used. -/
inductive DocumentFailure where
  | file (failure : FileFailure)
  | malformed
deriving DecidableEq, Repr

section Files

variable {m : Type → Type} [Monad m] [FileStore m]

/-- Reads a file and understands its text. -/
def load {α : Type} (ofText? : String → Except Written.Malformed α) (path : String) :
    m (Except DocumentFailure α) := do
  match onPath path (← FileStore.readText path) with
  | .error failure => return .error (.file failure)
  | .ok text =>
    match ofText? text with
    | .error _ => return .error .malformed
    | .ok a => return .ok a

def save (path text : String) : m (Except FileFailure Unit) := do
  return onPath path (← FileStore.writeText path text)

variable {S D : Type} [JsonScalar S] [JsonScalar D]

/-- The configuration in a file. -/
def loadConfiguration [Scalar S] [Scalar D] (path : String) :
    m (Except DocumentFailure (Config S D)) :=
  load Written.configurationOfText? path

def saveConfiguration (c : Config S D) (path : String) : m (Except FileFailure Unit) :=
  save path (Written.configurationText c)

/-- The snapshot in a file. -/
def loadSnapshot (path : String) : m (Except DocumentFailure (Snapshot S)) :=
  load Written.snapshotOfText? path

def saveSnapshot (s : Snapshot S) (path : String) : m (Except FileFailure Unit) :=
  save path (Written.snapshotText s)

end Files

/-- Where a run leaves records and snapshots. -/
structure Output where
  records : Option String
  snapshots : Option String
  /-- A snapshot is taken of every so many frames, of none if zero. -/
  every : Nat
deriving DecidableEq, Repr

namespace Output

variable {m : Type → Type} [Monad m] [FileStore m]

/-- Makes the file of records, empty. -/
def openRecords : Option String → m (Except FileFailure Unit)
  | some path => save path ""
  | none => pure (.ok ())

def openSnapshots : Option String → m (Except FileFailure Unit)
  | some path => do return onPath path (← FileStore.makeDirectories path)
  | none => pure (.ok ())

/-- Makes an empty file of records, and then the directory of snapshots. -/
def prepare (o : Output) : m (Except FileFailure Unit) := do
  match ← openRecords o.records with
  | .error failure => return .error failure
  | .ok () => openSnapshots o.snapshots

/-- The name of the snapshot of a frame: its number has at least four digits. -/
def snapshotName (frame : Nat) : String :=
  let digits := toString frame
  "particles_" ++ String.join (List.replicate (4 - digits.length) "0") ++ digits ++ ".json"

/-- The path of the snapshot of a frame, if one is taken. -/
def snapshotPath? (o : Output) (frame : Nat) : Option String :=
  match o.snapshots with
  | some directory =>
    if 0 < o.every ∧ frame % o.every = 0 then some (joinPath directory (snapshotName frame))
    else none
  | none => none

variable {S D : Type} [JsonScalar S] [JsonScalar D]

def addLine (o : Output) (record : FrameRecord S D) : m (Except FileFailure Unit) :=
  match o.records with
  | some path => do return onPath path (← FileStore.appendText path (Written.frameLine record))
  | none => pure (.ok ())

/-- Leaves a record, and a snapshot if one is taken; tells of the snapshot. -/
def leave (o : Output) (record : FrameRecord S D) (ps : Particles S) :
    m (Except FileFailure (List (Event S D))) := do
  match ← addLine o record with
  | .error failure => return .error failure
  | .ok () =>
    match o.snapshotPath? record.frame.toNat with
    | none => return .ok []
    | some path =>
      match ← saveSnapshot ⟨record.frame, ps⟩ path with
      | .error failure => return .error failure
      | .ok () => return .ok [.wrote path]

/-- The output as a sink for frames; `tell` is what happens to events. -/
def sink (o : Output) (tell : List (Event S D) → m Unit) : Sink m FileFailure S D where
  record record ps := do
    match ← leave o record ps with
    | .error failure => return .error failure
    | .ok events => do
      tell events
      return .ok ()
  tell := tell

end Output

end FreeSurface

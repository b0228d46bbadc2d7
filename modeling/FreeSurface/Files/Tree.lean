import FreeSurface.Files.Basic

/-!
# Files in memory

A tree of directories and files as a value, with the operations of a file store on it.  A path is
followed name by name: every name but the last must be that of a directory.
-/

namespace FreeSurface

/-- A file or a directory. -/
inductive FileEntry where
  | file (text : String)
  | directory
deriving DecidableEq, Repr

/-- Entries by the names that lead to them; the directory where paths begin is not listed. -/
structure FileTree where
  entries : List (List String × FileEntry)
deriving Repr

namespace FileTree

def empty : FileTree := ⟨[]⟩

/-- The entry that names lead to. -/
def find? (t : FileTree) (names : List String) : Option FileEntry :=
  if names.isEmpty then some .directory else t.entries.lookup names

/-- Puts an entry in place of any that is there. -/
def insert (t : FileTree) (names : List String) (e : FileEntry) : FileTree :=
  ⟨t.entries.filter (·.1 != names) ++ [(names, e)]⟩

def namesOf (path : String) : List String :=
  (path.splitOn "/").filter fun name => name != "" && name != "."

/-- Goes on from a place by a name, or back by two points. -/
def go (place : List String) (name : String) : List String :=
  if name == ".." then place.dropLast else place ++ [name]

/-- Follows names through directories. -/
def follow (t : FileTree) (place : List String) : List String → Except FileCause (List String)
  | [] => .ok place
  | name :: rest =>
    let next := go place name
    match t.find? next with
    | some .directory => follow t next rest
    | some (.file _) => .error .notADirectory
    | none => .error .notFound

/-- The place that a path leads to, which may hold nothing yet. -/
def resolve (t : FileTree) (path : String) : Except FileCause (List String) :=
  if path.isEmpty then .error .notFound
  else
    let names := namesOf path
    match names.getLast? with
    | none => .ok []
    | some last => (t.follow [] names.dropLast).map (go · last)

/-- A path that ends like that of a directory. -/
def endsInSlash (path : String) : Bool := path.endsWith "/"

/-- The text of a file. -/
def readText (t : FileTree) (path : String) : Except FileCause String := do
  let place ← t.resolve path
  match t.find? place with
  | some (.file text) => if endsInSlash path then .error .notADirectory else .ok text
  | some .directory => .error .isADirectory
  | none => .error .notFound

/-- Changes the text of a file, which is empty before there is one. -/
def modifyText (t : FileTree) (path : String) (f : String → String) :
    Except FileCause FileTree := do
  let place ← t.resolve path
  match t.find? place with
  | some .directory => .error .isADirectory
  | some (.file text) =>
    if endsInSlash path then .error .notADirectory else .ok (t.insert place (.file (f text)))
  | none =>
    if endsInSlash path then .error .isADirectory else .ok (t.insert place (.file (f "")))

/-- Makes the directories along some names, as far as they are missing. -/
def makeAlong (t : FileTree) (place : List String) : List String → Except FileCause FileTree
  | [] => .ok t
  | name :: rest =>
    let next := go place name
    match t.find? next with
    | some .directory => makeAlong t next rest
    | some (.file _) => .error (if rest.isEmpty then .alreadyExists else .notADirectory)
    | none => makeAlong (t.insert next .directory) next rest

/-- Makes a directory and those it lies in. -/
def makeDirectories (t : FileTree) (path : String) : Except FileCause FileTree :=
  t.makeAlong [] (namesOf path)

/-- Replaces the tree by the outcome of an operation, if it succeeds. -/
def keep (operation : FileTree → Except FileCause FileTree) :
    StateM FileTree (Except FileCause Unit) :=
  fun t =>
    match operation t with
    | .ok t => (.ok (), t)
    | .error cause => (.error cause, t)

/-- The paths of all entries; that of a directory ends in a slash and leads to no text. -/
def listing (t : FileTree) : List (String × Option String) :=
  t.entries.map fun (names, entry) =>
    let path := String.intercalate "/" names
    match entry with
    | .file text => (path, some text)
    | .directory => (path ++ "/", none)

/-- Puts a file into the directory that its path names, which is made if it is missing. -/
def withFile (t : FileTree) (path text : String) : Except FileCause FileTree := do
  let t ← t.makeAlong [] (namesOf path).dropLast
  t.modifyText path fun _ => text

end FileTree

instance : FileStore (StateM FileTree) where
  readText path := fun t => (t.readText path, t)
  writeText path text := FileTree.keep (·.modifyText path fun _ => text)
  appendText path text := FileTree.keep (·.modifyText path (· ++ text))
  makeDirectories path := FileTree.keep (·.makeDirectories path)

end FreeSurface

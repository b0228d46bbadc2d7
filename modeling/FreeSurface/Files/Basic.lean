/-!
# Files

What the program needs of files, whoever keeps them.

* `FileCause`, `FileFailure` — why an operation on a path fails, and how that reads.
* `FileStore` — the operations themselves, in a monad: texts are read, written and extended,
  directories are made.
* `joinPath` — the path of an entry of a directory.
-/

namespace FreeSurface

/-- Why an operation on a file fails. -/
inductive FileCause where
  | notFound
  | alreadyExists
  | notADirectory
  | isADirectory
  /-- Anything else, in the words of whoever keeps the files. -/
  | other (text : String)
deriving DecidableEq, Repr

def FileCause.message : FileCause → String
  | .notFound => "No such file or directory (os error 2)"
  | .alreadyExists => "File exists (os error 17)"
  | .notADirectory => "Not a directory (os error 20)"
  | .isADirectory => "Is a directory (os error 21)"
  | .other text => text

/-- An operation that failed on a path. -/
structure FileFailure where
  path : String
  cause : FileCause
deriving DecidableEq, Repr

def FileFailure.message (f : FileFailure) : String :=
  "I/O error on " ++ f.path ++ ": " ++ f.cause.message

/-- Operations on files. -/
class FileStore (m : Type → Type) where
  /-- The text of a file. -/
  readText : (path : String) → m (Except FileCause String)
  /-- Makes a file of the given text, in place of any that is there. -/
  writeText : (path text : String) → m (Except FileCause Unit)
  /-- Adds text to the end of a file. -/
  appendText : (path text : String) → m (Except FileCause Unit)
  /-- Makes a directory and those it lies in, as far as they are missing. -/
  makeDirectories : (path : String) → m (Except FileCause Unit)

/-- Names the path on which an operation failed. -/
def onPath {α : Type} (path : String) : Except FileCause α → Except FileFailure α
  | .ok a => .ok a
  | .error cause => .error ⟨path, cause⟩

def joinPath (directory name : String) : String :=
  if directory.isEmpty || directory.endsWith "/" then directory ++ name
  else directory ++ "/" ++ name

end FreeSurface

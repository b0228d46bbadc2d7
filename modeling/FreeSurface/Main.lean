import FreeSurface.CommandLine.Program

/-!
# The executable

Files of the file system, and the program on the arguments it is called with.
-/

namespace FreeSurface

/-- The cause of an error of the system. -/
def FileCause.ofError (e : IO.Error) : FileCause :=
  match e with
  | .noFileOrDirectory .. => .notFound
  | .alreadyExists .. => .alreadyExists
  | .inappropriateType .. => .notADirectory
  | e => .other (toString e)

/-- Carries out an operation of the system. -/
def attemptFile {α : Type} (operation : IO α) : IO (Except FileCause α) := do
  try
    return .ok (← operation)
  catch e =>
    return .error (FileCause.ofError e)

instance : FileStore IO where
  readText path := attemptFile (IO.FS.readFile path)
  writeText path text := attemptFile (IO.FS.writeFile path text)
  appendText path text := attemptFile do
    let handle ← IO.FS.Handle.mk path .append
    handle.putStr text
  makeDirectories path := attemptFile (IO.FS.createDirAll path)

end FreeSurface

/-- Runs the program on its arguments. -/
def main (args : List String) : IO UInt32 := do
  match ← (FreeSurface.Program.main IO.eprintln args).run with
  | some outcome =>
    IO.print outcome.output
    IO.eprint outcome.errors
    return outcome.code.toUInt32
  | none => return 1

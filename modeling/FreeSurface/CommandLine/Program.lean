import FreeSurface.CommandLine.Arguments
import FreeSurface.Number.MachineText
import FreeSurface.Random.ChaCha
import FreeSurface.Report.EventText
import FreeSurface.Report.Output

/-!
# The program

Runs a scene frame by frame, or prints the configuration of one.

* `Program.execute` — carries out a command, with files kept by whoever `m` is.
* `Program.main` — the program on its arguments: what it prints, and how it ends.

Like the frames it runs, a command may have no outcome.
-/

namespace FreeSurface

/-- What the program prints, and the code it ends with. -/
structure Outcome where
  code : Nat
  output : String
  errors : String
deriving DecidableEq, Repr

namespace Program

/-- Why a command fails. -/
inductive CommandFailure (D : Type) where
  | malformed
  | file (failure : FileFailure)
  | step (failure : StepFailure D)

def CommandFailure.message {D : Type} [NumberText D] : CommandFailure D → String
  | .malformed => "invalid configuration"
  | .file failure => failure.message
  | .step (.aborted frame index failure) => failure.abortMessage frame index
  | .step .unorderedBounds => "step size bounds are not in order"

/-- The code with which the program ends when a command fails.  Bounds of the step size that are not
in order are no failure it knows of: there is a code of its own for those. -/
def CommandFailure.code {D : Type} : CommandFailure D → Nat
  | .step .unorderedBounds => 101
  | _ => 1

variable {m : Type → Type} [Monad m] [FileStore m]

/-- The configuration that is asked for, before anything is overridden. -/
def chosenConfig {S D : Type} [Scalar S] [Scalar D] [JsonScalar S] [JsonScalar D]
    (r : RunRequest) : m (Except (CommandFailure D) (Config S D)) := do
  match r.config with
  | none => return .ok (Config.ofPreset r.preset)
  | some path =>
    match ← loadConfiguration path with
    | .ok c => return .ok c
    | .error .malformed => return .error .malformed
    | .error (.file failure) => return .error (.file failure)

/-- The configuration with what a request overrides. -/
def override {S D : Type} (r : RunRequest) (c : Config S D) : Config S D :=
  { c with mode := r.mode.getD c.mode, resolution := r.resolution.getD c.resolution }

/-- Why a run failed, as the failure of a command. -/
def ofRunFailure {D : Type} : Simulation.RunFailure FileFailure D → CommandFailure D
  | .frame failure => .step failure
  | .sink failure => .file failure

section Carriers

variable {S D R : Type} [Scalar S] [Scalar D] [Precision S D] [RandomSource R S]
  [JsonScalar S] [JsonScalar D]

/-- Runs a configuration and leaves its output. -/
def runConfig (R : Type) [RandomSource R S] (tell : List (Event S D) → m Unit) (r : RunRequest)
    (c : Config S D) : OptionT m (Except (CommandFailure D) Unit) := do
  let sim : Simulation S D R := Simulation.start c
  tell (Simulation.startEvents c sim)
  let output : Output := ⟨r.records, r.snapshots, r.every⟩
  match ← (output.prepare : m _) with
  | .error failure => return .error (.file failure)
  | .ok () =>
    tell [.running r.frames sim.config.mode sim.config.resolution]
    let (result, _) ← OptionT.mk (sim.run (output.sink tell) r.frames)
    return result.mapError ofRunFailure

/-- Carries out a command; returns what it prints. -/
def execute (R : Type) [RandomSource R S] (tell : List (Event S D) → m Unit) (command : Command) :
    OptionT m (Except (CommandFailure D) String) := do
  match command with
  | .run r =>
    match ← (chosenConfig r : m _) with
    | .error failure => return .error failure
    | .ok c => return (← runConfig R tell r (override r c)).map fun () => ""
  | .preset preset none =>
    return .ok (Written.configurationText (Config.ofPreset preset : Config S D) ++ "\n")
  | .preset preset (some path) =>
    match ← (saveConfiguration (Config.ofPreset preset : Config S D) path : m _) with
    | .ok () => return .ok ""
    | .error failure => return .error (.file failure)

end Carriers

def versionText : String := "nbflip 0.1.0\n"

def usageText : String :=
  "Narrow-band FLIP liquid solver\n\nUsage: nbflip [OPTIONS] <COMMAND>\n\nCommands:\n"
    ++ "  run     Run a simulation\n"
    ++ "  preset  Print a preset configuration as JSON\n"
    ++ "  help    Print this message or the help of the given subcommand(s)\n"

def eventLine {S D : Type} [NumberText S] [NumberText D] (e : Event S D) : String :=
  "[" ++ e.severity.label ++ " nbflip] " ++ e.message

/-- An event is told if events are told from its severity on. -/
def isTold {S D : Type} (level : Option Severity) (e : Event S D) : Bool :=
  level.any fun l => e.severity.rank ≤ l.rank

/-- The program on machine numbers; `print` is what happens to the lines of events. -/
def main (print : String → m Unit) (args : List String) : OptionT m Outcome := do
  match Request.ofArguments? args with
  | .error _ => return ⟨2, "", "error: wrong usage\n\n" ++ usageText⟩
  | .ok .help => return ⟨0, usageText, ""⟩
  | .ok .version => return ⟨0, versionText, ""⟩
  | .ok (.command level command) =>
    let tell (events : List (Event Float32 Float)) : m Unit :=
      (events.filter (isTold level)).forM fun e => print (eventLine e)
    match ← execute (Generator Float32) tell command with
    | .ok output => return ⟨0, output, ""⟩
    | .error failure => return ⟨failure.code, "", "error: " ++ failure.message ++ "\n"⟩

end Program

end FreeSurface

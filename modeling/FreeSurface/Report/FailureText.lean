import FreeSurface.Failure
import FreeSurface.Config.Basic
import FreeSurface.Text.NumberText

/-!
# How failures read
-/

namespace FreeSurface

/-- How a stage reads in a message. -/
def Stage.title : Stage → String
  | .advection => "advection"
  | .surface => "surface reconstruction"
  | .transfer => "velocity transfer"
  | .projection => "pressure projection"
  | .extrapolation => "velocity extrapolation"
  | .density => "density control"

def Stage.name : Stage → String
  | .advection => "advection"
  | .surface => "surface"
  | .transfer => "transfer"
  | .projection => "projection"
  | .extrapolation => "extrapolation"
  | .density => "density"

def Stage.all : List Stage :=
  [.advection, .surface, .transfer, .projection, .extrapolation, .density]

def Stage.ofName? (name : String) : Option Stage := Stage.all.find? (·.name == name)

section Numerical

variable {D : Type} [NumberText D]

/-- How a numerical cause reads. -/
def NumericalFailure.message : NumericalFailure D → String
  | .notConverged iterations residual =>
    "pressure solve did not converge after " ++ toString iterations ++ " iterations (residual "
      ++ NumberText.scientific 3 residual ++ ")"
  | .nonFinite quantity => "non-finite values in " ++ quantity

def StageFailure.message (f : StageFailure D) : String :=
  f.stage.title ++ ": " ++ f.cause.message

/-- How the end of a simulation reads. -/
def StageFailure.abortMessage (f : StageFailure D) (frame step : UInt32) : String :=
  "simulation aborted at frame " ++ toString frame ++ ", step " ++ toString step ++ " during "
    ++ f.stage.title ++ ": " ++ f.cause.message

end Numerical

/-- How an unknown scene reads. -/
def UnknownPreset.message (u : UnknownPreset) : String :=
  "unknown scene preset '" ++ u.name ++ "' (expected drop_into_pool or breaking_dam)"

end FreeSurface

/-!
# Failures of a step

A step fails for a numerical cause in one of its stages.  `D` is the carrier of residuals.
-/

namespace FreeSurface

/-- The stages of a step. -/
inductive Stage where
  | advection
  | surface
  | transfer
  | projection
  | extrapolation
  | density
deriving DecidableEq, Repr

/-- Why a stage fails. -/
inductive NumericalFailure (D : Type) where
  /-- The pressure was not found to the accuracy asked for. -/
  | notConverged (iterations : Nat) (residual : D)
  /-- A quantity has a value that is no finite number. -/
  | nonFinite (quantity : String)
deriving BEq

/-- A cause and the stage in which it arose. -/
structure StageFailure (D : Type) where
  stage : Stage
  cause : NumericalFailure D
deriving BEq

end FreeSurface

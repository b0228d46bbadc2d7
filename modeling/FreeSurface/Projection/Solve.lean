import FreeSurface.Failure
import FreeSurface.Projection.ConjugateGradient

/-!
# Projection

Makes the velocity of the liquid free of divergence, up to a uniform source, by subtracting the
gradient of a pressure.

* `Projection.solve` — finds the pressure; if that fails, nothing changes.
* `Projection.subtractGradient` — its effect on the faces between liquid and liquid or air.
* `Projection.effectiveSource` — liquid without a surface cannot change its volume, so a source is
  dropped there.
-/

namespace FreeSurface

open scoped Literals

/-- What a solved pressure equation looked like. -/
structure SolveReport (D : Type) where
  status : SolverStatus
  iterations : Nat
  residual : D
  unknowns : Nat
deriving BEq

namespace Projection

variable {d : Dims} {S D : Type} [Scalar S] [Scalar D] [Precision S D]

/-- The pressure that counts on one side of a face: that of a liquid cell, and for an air cell the
value beyond the surface that makes the pressure zero on it. -/
def sidePressure (g : Flags d) (phi : Option (ScalarField d S)) (pressure : ScalarField d S)
    (own other : d.Cell) : S :=
  if g.isFluid own then pressure.get own
  else pressure.get other * (1 - 1 / Poisson.surfaceFraction phi other own)

/-- Subtracts the pressure gradient on every face between a liquid cell and a cell that is not
solid. -/
def subtractGradient (v : Staggered d S) (pressure : ScalarField d S) (g : Flags d)
    (phi : Option (ScalarField d S)) : Staggered d S :=
  v.updateActive fun a component =>
    component.update fun f old =>
      match d.faceCells a f with
      | (some lo, some hi) =>
        if g.isObstacle lo || g.isObstacle hi then old
        else if !g.isFluid lo && !g.isFluid hi then old
        else old - (sidePressure g phi pressure hi lo - sidePressure g phi pressure lo hi)
      | _ => old

/-- The source that the liquid can follow. -/
def effectiveSource {n : Nat} (system : Poisson d D n) (source : S) : S :=
  if system.hasFreeSurface then source else 0

/-- The right side of the pressure equation: what must flow out of each cell, less what does. -/
def rightSide {n : Nat} (system : Poisson d D n) (g : Flags d) (v : Staggered d S) (source : S) :
    Vector D n :=
  let div := divergence g v
  system.cells.map fun c => -(widen (div.get c)) + widen source

/-- The pressures of the unknowns, and zero in every other cell. -/
def scatter {n : Nat} (system : Poisson d D n) (x : Vector D n) : ScalarField d S :=
  (List.finRange n).foldl (fun field u => Field.put field (system.cells.get u) (narrow (x.get u)))
    (Field.constant d.cells 0)

/-- Velocity and pressure after a projection. -/
structure Projected (d : Dims) (S D : Type) where
  velocity : Staggered d S
  pressure : ScalarField d S
  report : SolveReport D

/-- The outcome of a projection, and the source that had to be dropped, if any. -/
structure Outcome (d : Dims) (S D : Type) where
  dropped : Option S
  result : Except (NumericalFailure D) (Projected d S D)

/-- Solves for the pressure of a system with unknowns. -/
def solveSystem {n : Nat} (system : Poisson d D n) (v : Staggered d S) (g : Flags d)
    (phi : Option (ScalarField d S)) (source : S) (settings : SolverSettings D) :
    Except (NumericalFailure D) (Projected d S D) :=
  let b := rightSide system g v source
  if b.any (!Scalar.isFinite ·) then .error (.nonFinite "pressure right-hand side")
  else
    let found := ConjugateGradient.run system b settings
    if found.solution.any (!Scalar.isFinite ·) || !Scalar.isFinite found.residual then
      .error (.nonFinite "pressure")
    else match found.status with
      | .maxIterations => .error (.notConverged found.iterations found.residual)
      | .converged =>
        let pressure : ScalarField d S := scatter system found.solution
        .ok ⟨subtractGradient v pressure g phi, pressure,
          ⟨.converged, found.iterations, found.residual, n⟩⟩

/-- Projects a velocity, given a uniform source of volume in every liquid cell.  Without unknowns
the pressure is zero and the velocity stays. -/
def solve (v : Staggered d S) (g : Flags d) (phi : Option (ScalarField d S)) (source : S)
    (settings : SolverSettings D) : Outcome d S D :=
  if (Poisson.unknowns g).size = 0 then
    ⟨none, .ok ⟨v, Field.constant d.cells 0, ⟨.converged, 0, 0, 0⟩⟩⟩
  else
    let system : Poisson d D (Poisson.unknowns g).size := Poisson.build g phi
    { dropped := if !system.hasFreeSurface && !(source == 0) then some source else none
      result := solveSystem system v g phi (effectiveSource system source) settings }

end Projection

end FreeSurface

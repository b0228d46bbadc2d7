import FreeSurface.Projection.System

/-!
# Conjugate gradients

Solves a pressure equation by conjugate gradients, with the diagonal as preconditioner, until the
largest residual is below the accuracy asked for.

* `ConjugateGradient.run` — the search from zero.
* `ConjugateGradient.iterate` — the rounds of the search.
-/

namespace FreeSurface

open scoped Literals

/-- When a solution is good enough, and when the search is given up. -/
structure SolverSettings (D : Type) where
  accuracy : D
  maxIterations : Nat
deriving BEq

/-- Whether a solution was found. -/
inductive SolverStatus where
  | converged
  | maxIterations
deriving DecidableEq, Repr

namespace ConjugateGradient

variable {d : Dims} {D : Type} [Scalar D] {n : Nat}

/-- The inner product, summed in order. -/
def dot (a b : Vector D n) : D := Fin.foldl n (fun sum i => sum + a.get i * b.get i) 0

/-- The largest magnitude.  Entries that are no number do not count. -/
def maxAbs (a : Vector D n) : D := Fin.foldl n (fun m i => Scalar.max m (Scalar.abs (a.get i))) 0

/-- How a search ended. -/
structure Result (D : Type) (n : Nat) where
  status : SolverStatus
  iterations : Nat
  residual : D
  solution : Vector D n

/-- Where a search stands: the approximate solution, its residual vector, the direction of the next
step, the preconditioned square of the residual, and its largest entry. -/
structure Search (D : Type) (n : Nat) where
  x : Vector D n
  r : Vector D n
  p : Vector D n
  rz : D
  residual : D

/-- The search goes on for at most `rounds` rounds, of which `done` are behind it. -/
def iterate (system : Poisson d D n) (inverse : Vector D n) (accuracy : D) :
    (rounds done : Nat) → Search D n → Result D n
  | 0, done, s => ⟨.maxIterations, done, s.residual, s.x⟩
  | rounds + 1, done, s =>
    let image := system.apply s.p
    let curvature := dot s.p image
    if Scalar.vanishes curvature then ⟨.maxIterations, done + 1, s.residual, s.x⟩
    else
      let alpha := s.rz / curvature
      let x := Vector.ofFn fun i => s.x.get i + alpha * s.p.get i
      let r := Vector.ofFn fun i => s.r.get i - alpha * image.get i
      let residual := maxAbs r
      if residual < accuracy then ⟨.converged, done + 1, residual, x⟩
      else
        let z := Vector.ofFn fun i => r.get i * inverse.get i
        let rz := dot r z
        let beta := rz / s.rz
        let p := Vector.ofFn fun i => z.get i + beta * s.p.get i
        iterate system inverse accuracy rounds (done + 1) ⟨x, r, p, rz, residual⟩

/-- Solves the equation with the given right side. -/
def run (system : Poisson d D n) (b : Vector D n) (settings : SolverSettings D) : Result D n :=
  let inverse := system.diagonal.map fun a => 1 / a
  let x : Vector D n := Vector.replicate n 0
  let residual := maxAbs b
  if residual < settings.accuracy then ⟨.converged, 0, residual, x⟩
  else
    let z := Vector.ofFn fun i => b.get i * inverse.get i
    iterate system inverse settings.accuracy settings.maxIterations 0 ⟨x, b, z, dot b z, residual⟩

end ConjugateGradient

end FreeSurface

import FreeSurface.Run.State
import FreeSurface.Surface.Marching
import FreeSurface.Surface.Sweeping
import FreeSurface.Surface.Union
import FreeSurface.Transfer.Gather
import FreeSurface.Velocity.Extrapolation

/-!
# The variants of a step

The four modes share their steps and differ in four places: how the surface is rebuilt, how particle
velocities reach the grid, how the velocity is completed after the projection, and what particles
take back from the grid.

* `Variant.rebuildSurface`, `Variant.transferVelocity`, `Variant.finishVelocity`,
  `Variant.updateParticles` — the four places, each by mode.
* `Variant.particleBand` — the depth down to which particles are kept.
-/

namespace FreeSurface

open scoped Literals

namespace Variant

variable {d : Dims} {S D R : Type} [Scalar S]

/-- How many layers of liquid a surface made of particles is carried inward. -/
def insideLayers : Nat := 4

/-- How many layers of air a surface made of particles is carried outward. -/
def outsideLayers : Nat := 3

/-! ## Surface -/

/-- Carries a surface outward and into the obstacles, and flags the cells by it. -/
def closeSurface (s : State d S D R) : State d S D R :=
  let phi := Surface.extendIntoObstacles (Surface.extrapolate s.phi outsideLayers false) s.flags
  { s with phi := phi, flags := s.flags.reclassify phi }

/-- The level set of the particles of a state. -/
def particlePhi (s : State d S D R) (radiusFactor : S) : ScalarField d S :=
  Surface.unionLevelSet s.particles (Buckets.build d s.particles) s.flags radiusFactor

/-- The surface is that of the particles. -/
def surfaceOfParticles (s : State d S D R) (radiusFactor : S) : State d S D R :=
  closeSurface
    { s with phi := Surface.extrapolate (particlePhi s radiusFactor) insideLayers true }

/-- The surface is that of the particles together with the transported one, drawn in by a cell so
that the particles prevail near it. -/
def surfaceOfBoth (s : State d S D R) (radiusFactor narrowBand : S) : State d S D R :=
  let joined := Field.join (Field.addConstant s.phi 1) (particlePhi s radiusFactor)
  closeSurface
    { s with phi := Surface.extrapolate joined (Scalar.toNat (narrowBand + 2)) true }

/-- Rebuilds the level set after advection and flags the cells by it. -/
def rebuildSurface (c : Config S D) (s : State d S D R) : State d S D R :=
  match c.mode with
  | .levelset => { s with flags := s.flags.reclassify s.phi }
  | .flip0 | .flip => surfaceOfParticles s c.radiusFactor
  | .nbflip => surfaceOfBoth s c.radiusFactor c.narrowBand

/-! ## Transfer -/

/-- The velocities of the particles of a state. -/
def gathered (s : State d S D R) (kernel : Kernel) : Transfer.Gathered d S :=
  Transfer.gather s.particles (Buckets.build d s.particles) kernel

/-- Sets the velocity, which is also what later changes are measured from. -/
def withReference (s : State d S D R) (v : Staggered d S) : State d S D R :=
  { s with velocity := v, reference := v }

/-- All faces of the liquid take the velocity of particles. -/
def transferFull (s : State d S D R) (kernel : Kernel) : State d S D R :=
  withReference s (Transfer.replaceFluid s.velocity (gathered s kernel).velocity s.flags)

/-- The faces near the surface take the velocity of particles, and are counted. -/
def transferBand (s : State d S D R) (kernel : Kernel) (band threshold : S) :
    State d S D R × Nat :=
  let parts := gathered s kernel
  (withReference s (Transfer.combine s.velocity parts s.phi band threshold),
    Transfer.countSupported parts.weight s.phi band threshold)

/-- Brings particle velocities to the grid, and tells how many faces took one in narrow-band
mode. -/
def transferVelocity (c : Config S D) (s : State d S D R) :
    State d S D R × List (Event S D) :=
  match c.mode with
  | .levelset => (withReference s s.velocity, [])
  | .flip0 => (transferFull s .dLinear, [])
  | .flip => (transferFull s c.kernel, [])
  | .nbflip =>
    let (s, faces) := transferBand s c.kernel c.combineBand c.combineWeightThreshold
    (s, [.combined faces])

/-! ## After the projection -/

/-- Carries velocities into the air by marching, then reinitializes the level set exactly. -/
def transportAndReinit (s : State d S D R) : State d S D R :=
  let (_, order) := Surface.reinitMarching s.phi s.flags
  { s with
    velocity := Surface.transportVelocity order s.phi s.flags s.velocity
    phi := Surface.extendIntoObstacles (Surface.reinitExact s.phi) s.flags }

/-- Completes the velocity in the air; `speed` is the largest one at the start of the step. -/
def finishVelocity (c : Config S D) (s : State d S D R) (speed : S) : State d S D R :=
  match c.mode with
  | .levelset | .flip0 => transportAndReinit s
  | .flip | .nbflip =>
    { s with
      velocity := Velocity.extrapolate s.flags s.velocity (Velocity.extrapolationDistance speed) }

/-- Gives particles their velocity from the grid. -/
def updateParticles (c : Config S D) (s : State d S D R) : State d S D R :=
  match c.mode with
  | .levelset => s
  | .flip0 => { s with particles := Transfer.takeVelocity s.particles s.velocity .dLinear }
  | .flip | .nbflip =>
    { s with
      particles :=
        Transfer.blendVelocity s.particles s.velocity s.reference c.flipRatio c.kernel }

/-- The depth down to which particles are kept; zero stands for everywhere. -/
def particleBand (c : Config S D) : S :=
  match c.mode with
  | .nbflip => c.narrowBand
  | _ => 0

end Variant

end FreeSurface

import FreeSurface.Shape

/-!
# Scenes

What a simulation starts from: walls, bodies of liquid, obstacles, and a region that is set in
motion.  Shapes are given in units of the domain.

* `Scene.dropIntoPool`, `Scene.breakingDam` — the two scenes that come with the solver.
* `Scene.build` — flags and level set of a scene on a domain.
* `Scene.imposeVelocity` — its initial velocity.
-/

namespace FreeSurface

open scoped Literals

/-- A region that moves at the start. -/
structure MovingRegion (S : Type) where
  shape : Shape S
  velocity : Vec3 S
deriving BEq

/-- Walls, liquid, obstacles and initial motion. -/
structure Scene (S : Type) where
  /-- The walls have one more layer than this. -/
  boundaryWidth : Nat
  fluid : List (Shape S)
  obstacles : List (Shape S)
  motion : Option (MovingRegion S)
deriving BEq

/-- The scenes that come with the solver. -/
inductive Preset where
  | dropIntoPool
  | breakingDam
deriving DecidableEq, Repr

namespace Scene

variable {S : Type} [Scalar S]

/-- A falling drop above a pool. -/
def dropIntoPool : Scene S :=
  let center : Vec3 S := ⟨0.5, 0.8, 0.5⟩
  { boundaryWidth := 0
    fluid := [.box Vec3.zero ⟨1, 0.2, 1⟩, .sphere center 0.075]
    obstacles := []
    motion := some ⟨.sphere center 0.125, ⟨0, -(0.001 : S), 0⟩⟩ }

/-- A column of liquid that collapses onto an obstacle. -/
def breakingDam : Scene S where
  boundaryWidth := 0
  fluid := [.box Vec3.zero ⟨0.4, 0.6, 1⟩]
  obstacles := [.box ⟨0.7, 0, 0.5⟩ ⟨0.8, 1, 0.8⟩]
  motion := none

def ofPreset : Preset → Scene S
  | .dropIntoPool => dropIntoPool
  | .breakingDam => breakingDam

/-- The level set of all bodies of liquid together.  Without any, every cell is as far from the
liquid as the domain is long. -/
def liquid (scene : Scene S) (d : Dims) : ScalarField d S :=
  scene.fluid.foldl (fun phi shape => Field.join phi ((shape.scaled d).levelSet d))
    (Field.constant d.cells (Scalar.ofNat d.maxResolution))

/-- Walls and obstacles, with air everywhere else. -/
def solids (scene : Scene S) (d : Dims) : Flags d :=
  scene.obstacles.foldl (fun g shape => (shape.scaled d).paint g .obstacle)
    (Flags.walled d scene.boundaryWidth)

/-- The flags and the level set of a scene. -/
def build (scene : Scene S) (d : Dims) : Flags d × ScalarField d S :=
  let phi := scene.liquid d
  ((scene.solids d).reclassify phi, phi)

/-- Sets the moving region in motion.  Velocities of a scene are in domains per unit of time. -/
def imposeVelocity (scene : Scene S) {d : Dims} (v : Staggered d S) : Staggered d S :=
  match scene.motion with
  | some region =>
    (region.shape.scaled d).impose v (region.velocity * (Scalar.ofNat d.maxResolution : S))
  | none => v

end Scene

end FreeSurface

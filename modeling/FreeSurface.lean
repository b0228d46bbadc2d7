import FreeSurface.Clock
import FreeSurface.CommandLine.Arguments
import FreeSurface.CommandLine.Program
import FreeSurface.Config.Basic
import FreeSurface.Config.Normalize
import FreeSurface.Failure
import FreeSurface.Field.Basic
import FreeSurface.Field.Flags
import FreeSurface.Field.Front
import FreeSurface.Field.Interpolation
import FreeSurface.Field.Staggered
import FreeSurface.Files.Basic
import FreeSurface.Files.Tree
import FreeSurface.Lattice.Axis
import FreeSurface.Lattice.Basic
import FreeSurface.Lattice.Dims
import FreeSurface.Lattice.Slots
import FreeSurface.Main
import FreeSurface.Measure
import FreeSurface.Number.Machine
import FreeSurface.Number.MachineText
import FreeSurface.Number.Scalar
import FreeSurface.Particle.Basic
import FreeSurface.Particle.Buckets
import FreeSurface.Particle.Density
import FreeSurface.Particle.Seeding
import FreeSurface.Projection.ConjugateGradient
import FreeSurface.Projection.Solve
import FreeSurface.Projection.System
import FreeSurface.Random.ChaCha
import FreeSurface.Random.Source
import FreeSurface.Report.EventText
import FreeSurface.Report.FailureText
import FreeSurface.Report.Output
import FreeSurface.Run.Event
import FreeSurface.Run.Frame
import FreeSurface.Run.State
import FreeSurface.Run.Step
import FreeSurface.Run.Variant
import FreeSurface.Scene
import FreeSurface.Shape
import FreeSurface.Surface.Eikonal
import FreeSurface.Surface.Extension
import FreeSurface.Surface.Layers
import FreeSurface.Surface.Marching
import FreeSurface.Surface.Sweeping
import FreeSurface.Surface.Union
import FreeSurface.Text.Decimal
import FreeSurface.Text.Json.Basic
import FreeSurface.Text.Json.Parser
import FreeSurface.Text.Json.Printer
import FreeSurface.Text.NumberText
import FreeSurface.Text.Numeral
import FreeSurface.Transfer.Gather
import FreeSurface.Transfer.Kernel
import FreeSurface.Transfer.Sampling
import FreeSurface.Vec3
import FreeSurface.Velocity.Advection
import FreeSurface.Velocity.Extrapolation
import FreeSurface.Velocity.Walls
import FreeSurface.Written.Configuration
import FreeSurface.Written.Geometry
import FreeSurface.Written.Records
import FreeSurface.Proofs.Field.Basic
import FreeSurface.Proofs.Field.Front
import FreeSurface.Proofs.Number.Exact
import FreeSurface.Proofs.Number.Positive
import FreeSurface.Proofs.Particle.Count
import FreeSurface.Proofs.Surface.Distance
import FreeSurface.Proofs.Run.Advance
import FreeSurface.Proofs.Surface.Extension
import FreeSurface.Proofs.Surface.Sweeping
import FreeSurface.Proofs.Run.Atomicity
import FreeSurface.Proofs.Run.Surface
import FreeSurface.Proofs.Lattice.Incidence
import FreeSurface.Proofs.Projection.Divergence
import FreeSurface.Proofs.Projection.Sealed
import FreeSurface.Proofs.Projection.ConjugateGradient
import FreeSurface.Proofs.Projection.Gradient
import FreeSurface.Proofs.Projection.Solve
import FreeSurface.Proofs.Velocity.Completion
import FreeSurface.Proofs.Run.Divergence
import FreeSurface.Proofs.Field.Interpolation
import FreeSurface.Proofs.Clock.Accounts
import FreeSurface.Proofs.Clock.Progress
import FreeSurface.Proofs.Config.Idempotence
import FreeSurface.Proofs.Config.Timing
import FreeSurface.Proofs.Run.Particles
import FreeSurface.Proofs.Run.Population
import FreeSurface.Proofs.Run.Reconstruction
import FreeSurface.Proofs.Run.Records
import FreeSurface.Proofs.Run.Timekeeping
import FreeSurface.Proofs.Run.Transfer
import FreeSurface.Proofs.Velocity.Agreement
import FreeSurface.Proofs.Particle.Adjustment
import FreeSurface.Proofs.Particle.Buckets
import FreeSurface.Proofs.Surface.Layers
import FreeSurface.Proofs.Surface.Union
import FreeSurface.Proofs.Surface.Reach
import FreeSurface.Proofs.Number.Single
import FreeSurface.Proofs.Run.GridVelocity
import FreeSurface.Proofs.Run.Noninterference
import FreeSurface.Proofs.Run.Plane
import FreeSurface.Proofs.Run.Walls
import FreeSurface.Proofs.Written.Records
import FreeSurface.Proofs.Particle.Repetition
import FreeSurface.Proofs.Projection.Outcome
import FreeSurface.Proofs.Projection.Conjugacy
import FreeSurface.Proofs.Projection.Energy
import FreeSurface.Proofs.Projection.Termination
import FreeSurface.Proofs.Clock.Evenness
import FreeSurface.Proofs.Lattice.Boxes
import FreeSurface.Proofs.Transfer.Kernel
import FreeSurface.Proofs.Transfer.Tents
import FreeSurface.Proofs.Transfer.Windows
import FreeSurface.Proofs.Transfer.Transposition
import FreeSurface.Proofs.Field.Paths
import FreeSurface.Proofs.Number.Least
import FreeSurface.Proofs.Surface.Nearest
import FreeSurface.Proofs.Surface.Eikonal
import FreeSurface.Proofs.Surface.Depth
import FreeSurface.Proofs.Surface.SweepOrder
import FreeSurface.Proofs.Surface.Relaxation
import FreeSurface.Proofs.Surface.Reinitialization
import FreeSurface.Proofs.Field.Corners
import FreeSurface.Proofs.Velocity.Advection
import FreeSurface.Proofs.Number.Rounding
import FreeSurface.Proofs.Number.Bounds
import FreeSurface.Proofs.Number.Minimum
import FreeSurface.Proofs.Number.Packing
import FreeSurface.Proofs.Velocity.Air
import FreeSurface.Proofs.Velocity.Containment
import FreeSurface.Proofs.Scene
import FreeSurface.Proofs.Surface.Marching
import FreeSurface.Proofs.Surface.Acceptance
import FreeSurface.Proofs.Surface.Causality
import FreeSurface.Proofs.Surface.SingleDistance
import FreeSurface.Proofs.Surface.Marched
import FreeSurface.Proofs.Lattice.Slots
import FreeSurface.Proofs.Particle.Sorting
import FreeSurface.Proofs.Shape.Distance
import FreeSurface.Proofs.Shape.Quadrant
import FreeSurface.Proofs.Surface.Upwind

import FreeSurface.Report.FailureText
import FreeSurface.Run.Event

/-!
# How events read
-/

namespace FreeSurface

def Severity.label : Severity → String
  | .error => "ERROR"
  | .warn => "WARN"
  | .info => "INFO"
  | .debug => "DEBUG"

/-- How a kernel reads in a message. -/
def Kernel.title : Kernel → String
  | .dLinear => "DLinear"
  | .smooth => "Smooth"

variable {S D : Type} [NumberText S] [NumberText D]

open NumberText

/-- What is said about a setting that is replaced by zero for being negative. -/
def negativeMessage (name : String) (was : S) : String :=
  name ++ " " ++ plain was ++ " must not be negative; using 0"

/-- What is said about a setting that is replaced for not being positive. -/
def notPositiveMessage {α : Type} [NumberText α] (name : String) (was : α) (now : String) :
    String :=
  name ++ " " ++ plain was ++ " must be positive; using " ++ now

def Repair.message : Repair S D → String
  | .dimension was now => "dim " ++ toString was ++ " is not supported; using " ++ toString now
  | .resolution was now => "resolution " ++ toString was ++ " too small; using " ++ toString now
  | .bandsIgnored narrow combine mode =>
    "narrow_band " ++ plain narrow ++ " / combine_band " ++ plain combine ++ " ignored for mode "
      ++ mode.name ++ "; using 0"
  | .narrowBand was => negativeMessage "narrow_band" was
  | .combineBand was => negativeMessage "combine_band" was
  | .kernelIgnored was mode =>
    "kernel " ++ was.title ++ " ignored for mode " ++ mode.name ++ "; using d_linear"
  | .frameLength was now => notPositiveMessage "frame_length" was (plain now)
  | .boundsSwapped min max =>
    "timestep_min " ++ plain min ++ " exceeds timestep_max " ++ plain max ++ "; swapping"
  | .timestepMax was => notPositiveMessage "timestep_max" was "frame_length"
  | .timestepMin was now => notPositiveMessage "timestep_min" was (plain now)
  | .timestep was => notPositiveMessage "timestep" was "timestep_max"
  | .cfl was => "cfl " ++ plain was ++ " is not finite; using fixed stepping"
  | .flipRatio was now => "flip_ratio " ++ plain was ++ " outside [0, 1]; using " ++ plain now
  | .radiusFactor was => notPositiveMessage "radius_factor" was "1"
  | .targetVolume was => notPositiveMessage "target_volume" was "initial volume"
  | .targetTooLarge was openCells now =>
    "target_volume " ++ plain was ++ " exceeds " ++ toString openCells ++ " open cells; using "
      ++ fixed 1 now
  | .minParticles now => "min_particles 0; using " ++ toString now
  | .maxParticles was min now =>
    "max_particles " ++ toString was ++ " below min_particles " ++ toString min ++ "; using "
      ++ toString now
  | .pressureAccuracy was now => notPositiveMessage "pressure_accuracy" was (plain now)
  | .pressureIterations now => "pressure_max_iterations 0; using " ++ toString now

/-- How a domain reads. -/
def Dims.title (d : Dims) : String :=
  toString d.dimension ++ "D " ++ toString d.width ++ "x" ++ toString d.height ++ "x"
    ++ toString d.depth

def stepTitle (frame step : UInt32) : String :=
  "frame " ++ toString frame ++ " step " ++ toString step

def Event.message : Event S D → String
  | .repaired repair => repair.message
  | .initialized mode dims fluid particles target =>
    "initialized " ++ mode.name ++ " " ++ dims.title ++ ": " ++ toString fluid
      ++ " fluid cells, " ++ toString particles ++ " particles, target volume " ++ plain target
  | .combined faces => "narrow-band combine replaced " ++ toString faces ++ " faces"
  | .capReached limit present wanted =>
    "particle cap " ++ toString limit ++ " reached (" ++ toString present ++ " + "
      ++ toString wanted ++ " requested); skipping additions this step"
  | .sourceDropped source =>
    "liquid has no free surface; ignoring volume correction " ++ scientific 3 source
  | .retrying frame step failure dt =>
    stepTitle frame step ++ ": " ++ failure.message ++ "; retrying with dt " ++ fixed 4 dt
  | .aborting frame step failure =>
    stepTitle frame step ++ ": " ++ failure.message ++ "; aborting"
  | .stepped frame step dt maxVelocity volume iterations particles added removed =>
    stepTitle frame step ++ ": dt " ++ fixed 4 dt ++ ", max vel " ++ fixed 3 maxVelocity
      ++ ", volume " ++ toString volume ++ ", pressure iters " ++ toString iterations
      ++ ", particles " ++ toString particles ++ " (+" ++ toString added ++ " -"
      ++ toString removed ++ ")"
  | .frameDone frame time steps volume energy particles =>
    "frame " ++ toString frame ++ ": t = " ++ fixed 2 time ++ ", " ++ toString steps
      ++ " steps, volume " ++ toString volume ++ ", energy " ++ fixed 3 energy ++ ", "
      ++ toString particles ++ " particles"
  | .wrote path => "wrote " ++ path
  | .running frames mode resolution =>
    "running " ++ toString frames ++ " frames in " ++ mode.name ++ " mode at resolution "
      ++ toString resolution

end FreeSurface

import ReplayForge.Replay.Outline

/-!
# Results of a visit

A visit ends the run with a failure, a business outcome or an intervention;
only the step loop ends it with success.
-/

namespace ReplayForge

open Effect

section Results

variable {engine : ReplayEngine} {run : ReplayRun} {frame : StepFrame}

/-- The outlines below speak of results only. -/
private def blind : Watch RuntimeSig Unit := fun _ _ => ()

end Results

end ReplayForge

import ReplayForge.Capabilities.Semantics
import ReplayForge.Runs.Results
import ReplayForge.Surfaces.Models

/-!
# Replay requests and continuations
-/

namespace ReplayForge

/-- The session a driver opens, with its fixed attributes. -/
structure SurfaceSession where
  sessionId : String
  surfaceContract : String := "web.v1"
  baseVariant : String := "standard"
  renderedSurface : Bool := false
  requiredLandmarks : List Landmark := []
  forbiddenLandmarks : List Landmark := []
deriving DecidableEq

structure ReplayRequest where
  runId : String
  artifact : CapabilityArtifact
  tenant : String
  inputs : Fields
  allowIntervention : Bool := true

/-- The extracted output values of a run. -/
abbrev Outputs := Dict String

def Outputs.fields (outputs : Outputs) : Fields :=
  outputs.map fun (name, value) => (name, .str value)

structure ReplayContinuation where
  interventionId : String
  request : ReplayRequest
  session : SurfaceSession
  inputs : Fields
  outputs : Outputs
  recoveryUses : Dict Nat
  interruptedStepIndex : Nat
  initialFingerprint : String
  retryStep : Bool := false
  retryAttempt : Nat := 1

/-- What one visit of a step tells the step loop. -/
inductive StepResult where
  | finished (result : RunResult)
  /-- `RecoveryResume` -/
  | resume (stepId : String) (leaseVersion : Nat)
  | advance
deriving DecidableEq

end ReplayForge

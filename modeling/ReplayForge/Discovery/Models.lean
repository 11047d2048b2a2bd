import ReplayForge.Capabilities.Semantics
import ReplayForge.Runs.Results
import ReplayForge.Surfaces.Models

/-!
# Discovery drafts, recordings and results

What a provider proposes, what a discovery run records of each verified action,
and what the run returns: a draft artifact with the branch a scenario run
observed, or a failure.
-/

namespace ReplayForge

/-- The task semantics a provider proposes. -/
structure CapabilityDraftSpec where
  operationSlug : String
  capabilityId : Option String := none
  name : String
  description : String
  inputs : ObjectContract
  outputs : ObjectContract
  tags : List String := []
deriving DecidableEq

/-- An action that was executed, with what was seen around it. -/
structure RecordedDiscoveryStep where
  action : Action
  target : Option LocatorBundle := none
  observationBefore : NormalizedObservation
  observationAfter : NormalizedObservation
  expectedEffect : String
  rationale : String
  risk : Risk
  verifiedPostconditions : List Condition := []
  targeted : action.requiresTarget = target.isSome
  described : Text.isBlank expectedEffect = false ∧
    Text.isBlank rationale = false

instance : DecidableEq RecordedDiscoveryStep := fun first second =>
  decidable_of_iff
    (first.action = second.action ∧ first.target = second.target ∧
      first.observationBefore = second.observationBefore ∧
      first.observationAfter = second.observationAfter ∧
      first.expectedEffect = second.expectedEffect ∧
      first.rationale = second.rationale ∧ first.risk = second.risk ∧
      first.verifiedPostconditions = second.verifiedPostconditions) <| by
    cases first
    cases second
    simp

/-- A branch requires at least one executed primary action. -/
structure ObservedBranch where
  afterStepCount : Nat
  condition : Condition
  executed : 1 ≤ afterStepCount
deriving DecidableEq

structure DiscoverySuccess where
  runId : String
  artifact : CapabilityArtifact
  evidenceManifest : String
  branch : Option ObservedBranch := none
deriving DecidableEq

def DiscoverySuccess.make (result : DiscoverySuccess) :
    Except Raised DiscoverySuccess := do
  let _ ← parseId result.runId .run
  require (Text.hasPrefix result.evidenceManifest
      ("evidence://" ++ result.runId ++ "/"))
    "discovery evidence manifest must belong to its run"
  pure result

inductive DiscoveryResult where
  | success (result : DiscoverySuccess)
  | failure (result : FailureResult)
deriving DecidableEq

/-- `isinstance(result, DiscoverySuccess)` -/
def DiscoveryResult.success? : DiscoveryResult → Option DiscoverySuccess
  | .success result => some result
  | .failure _ => none

inductive ScenarioKind where
  | businessOutcome
  | applicationFailure
  | recovery
deriving DecidableEq, Repr

/-- `ScenarioContext` -/
structure ScenarioContext where
  primary : CapabilityArtifact
  kind : ScenarioKind
deriving DecidableEq

end ReplayForge

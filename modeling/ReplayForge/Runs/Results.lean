import ReplayForge.Shared.Identifiers

/-!
# Terminal results

The result models strip every string they validate, strings inside JSON values
included, and then check their patterns.
-/

namespace ReplayForge

mutual

private def stripJson : Json → Json
  | .str value => .str (Text.strip value)
  | .arr items => .arr (stripItems items)
  | .obj fields => .obj (stripEntries fields)
  | value => value

private def stripItems : List Json → List Json
  | [] => []
  | item :: rest => stripJson item :: stripItems rest

private def stripEntries : List (String × Json) → List (String × Json)
  | [] => []
  | (key, value) :: rest =>
      (Text.strip key, stripJson value) :: stripEntries rest

end

/-- `dict[str, JsonValue]` as a result model stores it. -/
def stripFields (fields : Fields) : Fields :=
  stripEntries fields

structure SuccessResult where
  runId : String
  evidenceManifest : String
  capabilityId : String
  capabilityVersion : String
  outputs : Fields
  checkpointId : String
deriving DecidableEq

structure BusinessOutcomeResult where
  runId : String
  evidenceManifest : String
  code : String
  details : Fields
deriving DecidableEq

inductive PrivacySource where
  | invocation
  | captured
deriving DecidableEq, Repr

structure ArtifactPrivacyDiagnostic where
  source : PrivacySource
  location : String
deriving DecidableEq

structure FailureResult where
  runId : String
  evidenceManifest : String
  code : String
  message : String
  recoverable : Bool
  stepId : Option String := none
  expected : Option Fields := none
  observed : Option Fields := none
  privacyRejection : Option ArtifactPrivacyDiagnostic := none
deriving DecidableEq

structure InterventionRequiredResult where
  runId : String
  interventionId : String
  code : String
  stepId : Option String := none
deriving DecidableEq

inductive RunResult where
  | success (result : SuccessResult)
  | businessOutcome (result : BusinessOutcomeResult)
  | failure (result : FailureResult)
  | interventionRequired (result : InterventionRequiredResult)
deriving DecidableEq

/-- `isinstance(result, InterventionRequiredResult)` -/
def RunResult.isIntervention : RunResult → Bool
  | .interventionRequired _ => true
  | _ => false

/-- A failure or an intervention: the run stopped short of an outcome. -/
def RunResult.isReport : RunResult → Bool
  | .failure _ | .interventionRequired _ => true
  | .success _ | .businessOutcome _ => false

def RunResult.isSuccess : RunResult → Bool
  | .success _ => true
  | _ => false

theorem RunResult.not_success_of_report {result : RunResult}
    (report : result.isReport = true) : result.isSuccess = false := by
  cases result <;> simp_all [isReport, isSuccess]

/-- The fields of `CompletedResultModel`, on stripped strings. -/
def validateCompleted (runId evidenceManifest : String) :
    Except Raised Unit := do
  require (isEntityId .run runId) "run_id"
  require (Pattern.evidenceKey evidenceManifest) "evidence_manifest"
  require (Text.hasPrefix evidenceManifest ("evidence://" ++ runId ++ "/"))
    "result evidence manifest must belong to its run"

def SuccessResult.make (result : SuccessResult) :
    Except Raised SuccessResult := do
  let result : SuccessResult := {
    runId := Text.strip result.runId
    evidenceManifest := Text.strip result.evidenceManifest
    capabilityId := Text.strip result.capabilityId
    capabilityVersion := Text.strip result.capabilityVersion
    outputs := stripFields result.outputs
    checkpointId := Text.strip result.checkpointId }
  validateCompleted result.runId result.evidenceManifest
  require (Pattern.capabilityId result.capabilityId) "id"
  require (Pattern.semanticVersion result.capabilityVersion) "version"
  require (Pattern.stableCode result.checkpointId) "id"
  pure result

def BusinessOutcomeResult.make (result : BusinessOutcomeResult) :
    Except Raised BusinessOutcomeResult := do
  let result : BusinessOutcomeResult := {
    runId := Text.strip result.runId
    evidenceManifest := Text.strip result.evidenceManifest
    code := Text.strip result.code
    details := stripFields result.details }
  validateCompleted result.runId result.evidenceManifest
  require (Pattern.stableCode result.code) "code"
  pure result

def FailureResult.make (result : FailureResult) :
    Except Raised FailureResult := do
  let result : FailureResult := {
    runId := Text.strip result.runId
    evidenceManifest := Text.strip result.evidenceManifest
    code := Text.strip result.code
    message := Text.strip result.message
    recoverable := result.recoverable
    stepId := result.stepId.map Text.strip
    expected := result.expected.map stripFields
    observed := result.observed.map stripFields
    privacyRejection := result.privacyRejection }
  validateCompleted result.runId result.evidenceManifest
  require (Pattern.stableCode result.code) "code"
  require (1 ≤ result.message.length && result.message.length ≤ 1000)
    "message"
  require (result.stepId.all Pattern.stepId) "step_id"
  pure result

def InterventionRequiredResult.make (result : InterventionRequiredResult) :
    Except Raised InterventionRequiredResult := do
  let result : InterventionRequiredResult := {
    runId := Text.strip result.runId
    interventionId := Text.strip result.interventionId
    code := Text.strip result.code
    stepId := result.stepId.map Text.strip }
  require (isEntityId .run result.runId) "run_id"
  require (isEntityId .intervention result.interventionId) "intervention_id"
  require (Pattern.stableCode result.code) "code"
  require (result.stepId.all Pattern.stepId) "step_id"
  pure result

end ReplayForge

import ReplayForge.Capabilities.Artifact

/-!
# Acceptance of an artifact

The model validator of `CapabilityArtifact`, in the order of its checks, and
the subtype of the artifacts it accepts.
-/

namespace ReplayForge

namespace LocatorBundle

/-- The target holds a coordinate locator, frame locators included. -/
def persistsCoordinates (target : LocatorBundle) : Bool :=
  (target.scope.framePath ++ target.candidates).any
    (·.strategy = .coordinates)

def persistsGeometry (target : LocatorBundle) : Bool :=
  target.visualCandidates.any VisualLocatorCandidate.persistsGeometry

/-- `_validate_geometry_free_target` -/
def validateGeometryFree (target : LocatorBundle) : Except Raised Unit := do
  require target.candidates.isEmpty
    "rendered-surface targets cannot contain DOM or coordinate locators"
  require (!target.visualCandidates.isEmpty)
    "rendered-surface targets require rendered candidates"
  require (target.visualCandidates.all VisualLocatorCandidate.isGeometryFree)
    "rendered-surface targets require geometry-free rendered candidates"

end LocatorBundle

namespace Condition

/-- The element targets inside a condition. -/
def elementTargets (condition : Condition) : List LocatorBundle :=
  condition.walkConditions.filterMap fun
    | .atom (.element target _) => some target
    | _ => none

def persistsGeometry (condition : Condition) : Bool :=
  condition.walkConditions.any fun
    | .atom (.visualText _ _ region _) => region.isSome
    | _ => false

/-- `_validate_geometry_free_condition`, applied to every part. -/
def validateGeometryFree (condition : Condition) : Except Raised Unit :=
  condition.walkConditions.forM fun
    | .atom (.text _ _) | .atom (.visualText _ _ _ _) =>
        .error (.value
          "rendered-surface conditions must use geometry-free rendered text")
    | .atom (.element _ _) =>
        .error (.value
          "rendered-surface conditions cannot contain DOM element locators")
    | _ => .ok ()

/-- `_validate_condition_references` -/
def validateReferences (inputs outputs : ObjectContract)
    (condition : Condition) : Except Raised Unit :=
  condition.walkConditions.forM fun
    | .atom (.outputValid output) | .atom (.outputEquals output _) =>
        require (output ∈ outputs.properties.keys)
          ("condition references unknown output " ++ output)
    | .atom (.identityMatches extractedOutput inputPath) => do
        require (extractedOutput ∈ outputs.properties.keys)
          ("identity condition references unknown output " ++ extractedOutput)
        require (contractHasPath inputs inputPath)
          ("identity condition references unknown input " ++ inputPath)
    | _ => .ok ()

end Condition

/-- The condition of an assert or wait action. -/
def Action.condition? : Action → Option Condition
  | .assert condition | .waitFor condition => some condition
  | _ => none

namespace CapabilityArtifact

def recoverySteps (artifact : CapabilityArtifact) : List Step :=
  artifact.recoveries.flatMap Recovery.steps

def allSteps (artifact : CapabilityArtifact) : List Step :=
  artifact.steps ++ artifact.recoverySteps

def mainStepIds (artifact : CapabilityArtifact) : List String :=
  artifact.steps.map Step.id

def allStepIds (artifact : CapabilityArtifact) : List String :=
  artifact.allSteps.map Step.id

def recoveryIds (artifact : CapabilityArtifact) : List String :=
  artifact.recoveries.map Recovery.id

def outcomeCodes (artifact : CapabilityArtifact) : List String :=
  artifact.outcomes.map BusinessOutcome.code

def failureCodes (artifact : CapabilityArtifact) : List String :=
  artifact.failures.map ApplicationFailure.code

/-- The conditions that are not part of a step. -/
def branchConditions (artifact : CapabilityArtifact) : List Condition :=
  artifact.preconditions ++ artifact.recoveries.map Recovery.trigger ++
    artifact.outcomes.map BusinessOutcome.detect ++
    artifact.failures.map ApplicationFailure.detect ++
    [artifact.checkpoint.condition]

def conditions (artifact : CapabilityArtifact) : List Condition :=
  artifact.branchConditions ++ artifact.allSteps.flatMap fun step =>
    step.preconditions ++ step.postconditions ++
      step.action.condition?.toList

def targets (artifact : CapabilityArtifact) : List LocatorBundle :=
  artifact.allSteps.filterMap Step.target ++
    artifact.conditions.flatMap Condition.elementTargets

def validateNoPersistedCoordinates (artifact : CapabilityArtifact) :
    Except Raised Unit := do
  require (!artifact.targets.any LocatorBundle.persistsCoordinates)
    "schema 1.4 artifacts cannot persist coordinate locators"
  require (!artifact.targets.any LocatorBundle.persistsGeometry &&
      !artifact.conditions.any Condition.persistsGeometry)
    "schema 1.4 artifacts cannot persist visual geometry"

def validateGeometryFreeVisualContract (artifact : CapabilityArtifact) :
    Except Raised Unit := do
  artifact.allSteps.forM fun step => do
    step.target.forM LocatorBundle.validateGeometryFree
    (step.preconditions ++ step.postconditions).forM
      Condition.validateGeometryFree
  artifact.branchConditions.forM Condition.validateGeometryFree

/-- The checks on the policy, the provenance and the metadata. -/
def validateHeader (artifact : CapabilityArtifact) : Except Raised Unit := do
  artifact.validateNoPersistedCoordinates
  require (!artifact.policy.allowedRoutePatterns.isEmpty)
    "schema 1.4 artifacts require non-empty route patterns"
  if artifact.compatibility.renderedSurface then
    artifact.validateGeometryFreeVisualContract
  require (Pattern.hexAfter "" 64 artifact.provenance.targetFingerprint)
    "schema 1.4 artifacts require a SHA-256 target fingerprint"
  require (Text.hasPrefix artifact.provenance.evidenceManifestKey
      ("evidence://" ++ artifact.provenance.discoveryRunId ++ "/"))
    "schema 1.4 provenance evidence must belong to its discovery run"
  require (artifact.capability.applicationFamily =
      artifact.compatibility.applicationFamily)
    "capability and compatibility application families must match"
  require (artifact.capability.risk = artifact.policy.maximumRisk)
    "capability risk and policy maximum risk must match"
  require (artifact.compatibility.entryPoint ∈
      artifact.policy.allowedEntryPoints)
    "compatibility entry point is not allowed by capability policy"
  require (artifact.policy.outputRedaction.keys.all
      (· ∈ artifact.outputs.properties.keys))
    "output redaction references an unknown output"
  require (artifact.policy.forbiddenTextInputs.all (!Text.isBlank ·))
    "forbidden text inputs must be non-empty"

/-- The checks on the declared identifiers and codes. -/
def validateIdentifiers (artifact : CapabilityArtifact) :
    Except Raised Unit := do
  require artifact.mainStepIds.Nodup "step IDs must be unique"
  require artifact.recoveryIds.Nodup "recovery IDs must be unique"
  require artifact.outcomeCodes.Nodup "business outcome codes must be unique"
  require artifact.failureCodes.Nodup
    "application failure codes must be unique"
  require (artifact.outcomeCodes.all (· ∉ artifact.failureCodes))
    "business outcome and application failure codes must be distinct"
  artifact.outcomes.forM fun outcome => do
    require outcome.allowedAfterSteps.Nodup
      ("outcome " ++ outcome.code ++ " allowed steps must be unique")
    outcome.details.forM fun
      | (_, .input path) =>
          require (contractHasPath artifact.inputs path)
            ("outcome " ++ outcome.code ++ " references an unknown input")
      | (_, .literal _) => .ok ()
  artifact.failures.forM fun failure =>
    require failure.allowedAfterSteps.Nodup
      ("application failure " ++ failure.code ++
        " allowed steps must be unique")
  require artifact.allStepIds.Nodup
    "main and recovery step IDs must be unique"
  artifact.outcomes.forM fun outcome =>
    require (outcome.allowedAfterSteps.all (· ∈ artifact.allStepIds))
      ("outcome " ++ outcome.code ++ " references an unknown step")
  artifact.failures.forM fun failure =>
    require (failure.allowedAfterSteps.all (· ∈ artifact.allStepIds))
      ("application failure " ++ failure.code ++ " references an unknown step")

/-- The checks on what a step's action names. -/
def validateStepAction (artifact : CapabilityArtifact) (step : Step) :
    Except Raised Unit := do
  match step.action with
  | .navigate entryPoint =>
      require (entryPoint ∈ artifact.policy.allowedEntryPoints)
        ("step " ++ step.id ++ " uses a disallowed entry point")
  | .type (.input path) _ | .select (.input path) =>
      require (contractHasPath artifact.inputs path)
        ("step " ++ step.id ++ " references an unknown input")
  | .extract output _ =>
      require (output ∈ artifact.outputs.properties.keys)
        ("step " ++ step.id ++ " binds an unknown output")
  | _ => .ok ()

def validateStepCheckpoint (artifact : CapabilityArtifact) (step : Step) :
    Except Raised Unit :=
  match step.action with
  | .checkpoint checkpointId =>
      require (checkpointId = artifact.checkpoint.id)
        ("step " ++ step.id ++ " references an unknown checkpoint")
  | _ => .ok ()

def validateStepReferences (artifact : CapabilityArtifact) (step : Step) :
    Except Raised Unit := do
  require (step.recoveryRefs.all (· ∈ artifact.recoveryIds))
    ("step " ++ step.id ++ " references an unknown recovery")
  require (step.outcomeRefs.all (· ∈ artifact.outcomeCodes))
    ("step " ++ step.id ++ " references an unknown business outcome")
  require (step.failureRefs.all (· ∈ artifact.failureCodes))
    ("step " ++ step.id ++ " references an unknown application failure")
  artifact.validateStepCheckpoint step
  step.outcomeRefs.forM fun code =>
    require (artifact.outcomes.all fun outcome =>
        outcome.code ≠ code || step.id ∈ outcome.allowedAfterSteps)
      ("outcome " ++ code ++ " is not allowed after step " ++ step.id)
  step.failureRefs.forM fun code =>
    require (artifact.failures.all fun failure =>
        failure.code ≠ code || step.id ∈ failure.allowedAfterSteps)
      ("application failure " ++ code ++ " is not allowed after step " ++
        step.id)

def validateStep (artifact : CapabilityArtifact) (step : Step) :
    Except Raised Unit := do
  step.target.forM fun target =>
    require (target.targetInputPaths.all (contractHasPath artifact.inputs))
      "target references an unknown input"
  let isRecoveryStep : Bool := step.id ∉ artifact.mainStepIds
  require (step.action.kind ∈ artifact.policy.allowedActionTypes)
    ("step " ++ step.id ++ " uses a disallowed action type")
  require (step.risk.rank ≤ artifact.policy.maximumRisk.rank)
    ("step " ++ step.id ++ " exceeds the capability risk ceiling")
  require (!isRecoveryStep || step.risk.rank < Risk.sensitive.rank)
    ("recovery step " ++ step.id ++ " cannot require human approval")
  artifact.validateStepAction step
  artifact.validateStepReferences step
  (step.preconditions ++ step.postconditions).forM
    (Condition.validateReferences artifact.inputs artifact.outputs)
  step.action.condition?.forM
    (Condition.validateReferences artifact.inputs artifact.outputs)

/-- The outputs the main steps extract. -/
def boundOutputs (artifact : CapabilityArtifact) : List String :=
  artifact.steps.filterMap fun step =>
    match step.action with
    | .extract output _ => some output
    | _ => none

def validateSemantics (artifact : CapabilityArtifact) :
    Except Raised Unit := do
  artifact.validateHeader
  artifact.validateIdentifiers
  artifact.allSteps.forM artifact.validateStep
  artifact.branchConditions.forM
    (Condition.validateReferences artifact.inputs artifact.outputs)
  require (artifact.outputs.required.all (· ∈ artifact.boundOutputs))
    "required outputs are not bound"
  require (artifact.outputs.required.all
      (· ∈ artifact.checkpoint.condition.conditionOutputs))
    "checkpoint does not validate required outputs"
  artifact.recoveries.forM fun recovery => do
    require (recovery.steps.all (·.recoveryRefs.isEmpty))
      ("recovery " ++ recovery.id ++ " cannot invoke a nested recovery")
    require (recovery.resumeAt ∈ artifact.mainStepIds)
      ("recovery " ++ recovery.id ++ " resumes at an unknown step")

/-- Field validation of every part, then the model validator. -/
def validate (host : Host) (artifact : CapabilityArtifact) :
    Except Raised Unit := do
  artifact.capability.validate
  artifact.compatibility.validate
  artifact.inputs.validate host
  artifact.outputs.validate host
  artifact.preconditions.forM Condition.validate
  require (!artifact.steps.isEmpty) "steps"
  artifact.steps.forM Step.validate
  artifact.recoveries.forM Recovery.validate
  artifact.outcomes.forM BusinessOutcome.validate
  artifact.failures.forM ApplicationFailure.validate
  artifact.checkpoint.validate
  artifact.policy.validate
  artifact.provenance.validate
  artifact.validateSemantics

section Accepted

variable {host : Host} {artifact : CapabilityArtifact}

theorem validate_steps (accepted : artifact.validate host = .ok ()) :
    ∀ step ∈ artifact.steps, step.validate = .ok () := by
  unfold validate at accepted
  simp only [check_bind_eq_ok, forM_eq_ok] at accepted
  obtain ⟨-, -, -, -, -, -, steps, -⟩ := accepted
  exact steps

theorem validate_recoveries (accepted : artifact.validate host = .ok ()) :
    ∀ recovery ∈ artifact.recoveries, recovery.validate = .ok () := by
  unfold validate at accepted
  simp only [check_bind_eq_ok, forM_eq_ok] at accepted
  obtain ⟨-, -, -, -, -, -, -, recoveries, -⟩ := accepted
  exact recoveries

theorem validate_semantics (accepted : artifact.validate host = .ok ()) :
    artifact.validateSemantics = .ok () := by
  unfold validate at accepted
  simp only [check_bind_eq_ok, forM_eq_ok] at accepted
  obtain ⟨-, -, -, -, -, -, -, -, -, -, -, -, -, semantics⟩ := accepted
  exact semantics

/-- Recovery identifiers are unique. -/
theorem recoveryIds_nodup (accepted : artifact.validate host = .ok ()) :
    artifact.recoveryIds.Nodup := by
  have semantics := validate_semantics accepted
  unfold validateSemantics validateIdentifiers at semantics
  simp only [check_bind_eq_ok, forM_eq_ok, require_eq_ok,
    decide_eq_true_eq] at semantics
  exact semantics.2.1.2.1

/-- Recovery steps are validated as main steps are. -/
theorem recovery_steps (accepted : artifact.validate host = .ok ()) :
    ∀ recovery ∈ artifact.recoveries, ∀ step ∈ recovery.steps,
      step.validate = .ok () := by
  intro recovery member
  have valid := validate_recoveries accepted recovery member
  unfold Recovery.validate at valid
  simp only [check_bind_eq_ok, forM_eq_ok] at valid
  exact valid.2.2.2.2

end Accepted

end CapabilityArtifact

end ReplayForge

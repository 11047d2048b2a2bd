import ReplayForge.Capabilities.Targeting
import ReplayForge.Evidence.Diagnostics
import ReplayForge.Interventions.Leases
import ReplayForge.Policy.Evaluator

/-!
# Results and handoffs of a replay

The parts of the replay engine that end a step: policy evaluation, failures,
business outcomes and interventions.
-/

namespace ReplayForge

open Effect

structure ReplayEngine where
  host : Host
  /-- `str(value)` of an input value. -/
  render : Json → String
  effectivePolicy : EffectivePolicy
  leaseService : ControlLeaseService
  /-- A continuation sink is configured. -/
  continuationSink : Bool
  /-- A compatibility validator is configured. -/
  compatibilityValidator : Bool

/-- The mutable locals of one engine call and the engine's pause points. -/
structure EngineState where
  outputs : Outputs := []
  recoveryUses : Dict Nat := []
  pausePoints : Dict (Bool × Nat) := []
  preserveSession : Bool := false
deriving DecidableEq

abbrev Replay := Runtime EngineState

/-- What every part of a run is given. -/
structure ReplayRun where
  request : ReplayRequest
  session : SurfaceSession
  inputs : Fields

namespace ReplayRun

def artifact (run : ReplayRun) : CapabilityArtifact :=
  run.request.artifact

def call (run : ReplayRun) (op : SessionOp) : Replay op.Result :=
  Runtime.session run.session.sessionId op

def evaluate (run : ReplayRun) (condition : Condition) : Replay Bool := do
  run.call (.evaluate condition (← get).outputs run.inputs)

def waitUntil (run : ReplayRun) (condition : Condition) (timeoutMs : Nat) :
    Replay Bool := do
  run.call (.waitUntil condition (← get).outputs run.inputs timeoutMs)

end ReplayRun

namespace ReplayRequest

/-- The index of the main step with the given identifier. -/
def stepIndex? (request : ReplayRequest) (stepId : Option String) :
    Option Nat :=
  stepId.bind fun id => request.artifact.steps.findIdx? (·.id = id)

def step? (request : ReplayRequest) (stepId : Option String) : Option Step :=
  stepId.bind fun id => request.artifact.steps.find? (·.id = id)

/-- One-based position of a main step. -/
def ordinal? (request : ReplayRequest) (stepId : Option String) :
    Option Nat :=
  (request.stepIndex? stepId).map (· + 1)

end ReplayRequest

namespace ReplayEngine

variable (engine : ReplayEngine)

/-- `_attach_failure_frame` and `_attach_handoff_frame` -/
def attachFrame (session : SurfaceSession) (kind : String)
    (retention : RetentionClass) : Replay Unit := do
  let frame ← Runtime.session session.sessionId .captureProviderFrame
  let payload ← attempt (rawScreenshot frame)
  Runtime.attachScreenshot kind payload retention

/-- The failure-state frame, live or carried by the error. -/
def attachFailureState (session : Option SurfaceSession)
    (failureFrame : Option Bytes) : Replay Unit :=
  match session, failureFrame with
  | some live, _ => attachFrame live "failure-state" .failure
  | none, some frame => do
      let payload ← attempt (rawScreenshot frame)
      Runtime.attachScreenshot "failure-state" payload .failure
  | none, none => throw .assertion

def captureEvidence (session : Option SurfaceSession)
    (failureFrame : Option Bytes) : Replay String := do
  if session.isSome || failureFrame.isSome then
    let captured ← Runtime.catching
      (fun error => if error.isOsRuntimeOrValue then some () else none)
      (attachFailureState session failureFrame)
    match captured with
    | .ok _ => pure "captured"
    | .error _ => pure "unavailable"
  else
    pure "not_applicable"

/-- The diagnostic `_failure` builds when it is given none. -/
def defaultDiagnostic (request : ReplayRequest) (code : String)
    (stepId : Option String) (expected observed : Option Fields) :
    ExecutionDiagnostic :=
  let step := request.step? stepId
  { code
    stepOrdinal := request.ordinal? stepId
    actionType := (step.map (·.action.kind)).getD "unknown"
    expectedConditionKind :=
      ((step.bind (·.postconditions.head?)).map Condition.kind).getD "unknown"
    expectedCount := boundedCount expected
    observedCount := boundedCount observed }

/-- The given diagnostic, or the default one. -/
def chooseDiagnostic (given : Option ExecutionDiagnostic)
    (fallback : ExecutionDiagnostic) : Except Raised ExecutionDiagnostic :=
  match given with
  | some diagnostic => .ok diagnostic
  | none => fallback.make

def failure (request : ReplayRequest) (code message : String)
    (recoverable : Bool) (stepId : Option String := none)
    (expected : Option Fields := none) (observed : Option Fields := none)
    (session : Option SurfaceSession := none)
    (diagnostic : Option ExecutionDiagnostic := none)
    (failureFrame : Option Bytes := none) : Replay RunResult := do
  let diagnostic ← attempt (chooseDiagnostic diagnostic
    (defaultDiagnostic request code stepId expected observed))
  Runtime.record "execution_diagnostic" request.runId stepId
    diagnostic.safePayload
  let evidenceFrame ← captureEvidence session failureFrame
  Runtime.record "replay_failed" request.runId stepId
    [("code", .str code), ("evidence_frame", .str evidenceFrame)]
  let evidenceManifest ← Runtime.evidenceManifestKey
  let result ← attempt (FailureResult.make {
    runId := request.runId
    evidenceManifest
    code
    message
    recoverable
    stepId
    expected
    observed })
  pure (.failure result)

/-- The last four characters of a value. -/
private def lastFour (text : String) : String :=
  String.ofList (text.toList.drop (text.toList.length - 4))

/-- One entry of a business outcome's details. -/
def outcomeDetail (inputs : Fields) : ValueSource → Except Raised Json
  | .literal value => .ok value.json
  | .input path => do
      let raw := engine.render (← resolveInput inputs path)
      return .str (if raw = "" then "[REDACTED]" else "***" ++ lastFour raw)

def outcomeDetails (inputs : Fields) (details : Dict ValueSource) :
    Except Raised Fields :=
  details.mapM fun (name, source) => do
    return (name, ← engine.outcomeDetail inputs source)

def businessOutcome (request : ReplayRequest) (outcome : BusinessOutcome)
    (inputs : Fields) : Replay RunResult := do
  let details ← attempt (engine.outcomeDetails inputs outcome.details)
  Runtime.record "business_outcome" request.runId
  let evidenceManifest ← Runtime.evidenceManifestKey
  let result ← attempt (BusinessOutcomeResult.make {
    runId := request.runId
    evidenceManifest
    code := outcome.code
    details })
  pure (.businessOutcome result)

def applicationFailure (run : ReplayRun) (stepId : String)
    (declared : ApplicationFailure) : Replay RunResult := do
  Runtime.mark (.declaredFailure declared.code)
  failure run.request declared.code declared.description declared.recoverable
    (some stepId) (some [("state", .str declared.expectedState)])
    (some [("state", .str declared.observedState)]) (some run.session)

/-- The classification of the value a step writes.  `binding_classification`
raises nothing, so its handler has no counterpart here. -/
def fieldClassification (request : ReplayRequest) (step : Step) :
    Option DataClassification :=
  let describesForbidden := step.target.any fun target =>
    request.artifact.policy.forbiddenTextInputs.any fun term =>
      Text.containsText (engine.host.casefold target.description)
        (engine.host.casefold term)
  match step.action.valueSource with
  | none => none
  | some source =>
      if describesForbidden then
        some .credential
      else
        match source with
        | .input path =>
            bindingClassification request.artifact.inputs path
              engine.effectivePolicy.forbiddenFieldClasses
        | .literal _ => none

def stepPolicy (request : ReplayRequest) (session : SurfaceSession)
    (step : Step) (observation : NormalizedObservation)
    (target : Option ResolvedTarget) : Replay PolicyDecision := do
  let origin ← Runtime.session session.sessionId .origin
  attempt (PolicyEvaluator.evaluate engine.host engine.effectivePolicy {
    principalType := .automation
    principalId := "runtime"
    runMode := .replay
    applicationFamily := request.artifact.capability.applicationFamily
    tenant := request.tenant
    origin
    route := observation.route
    actionType := step.action.kind
    targetDescription :=
      match step.target with
      | some bundle => bundle.description
      | none => step.name
    declaredRisk := step.risk
    registeredTargetRisk :=
      match target with
      | some resolved => resolved.registeredRisk
      | none => some step.risk
    controlOwner := ControlOwner.automation.value
    fieldClassification := engine.fieldClassification request step })

/-- How an intervention continues: whether the step is retried and the attempt
it stopped in. -/
structure PausePoint where
  retryStep : Bool := false
  retryAttempt : Nat := 1

def interventionContext (request : ReplayRequest) (stepId : Option String)
    (observation : NormalizedObservation) : InterventionContext where
  runMode := .replay
  applicationFamily := request.artifact.capability.applicationFamily
  tenant := request.tenant
  taskSummary := request.artifact.capability.description
  capabilityId := some request.artifact.capability.id
  capabilityVersion := some request.artifact.capability.version
  capabilityName := some request.artifact.capability.name
  stepId
  surfaceRoute := observation.route

def intervene (request : ReplayRequest) (session : SurfaceSession)
    (stepId : Option String) (code : String)
    (observation : NormalizedObservation) (leaseVersion : Nat)
    (explanation : Option String) (point : PausePoint := {})
    (diagnostic : Option ExecutionDiagnostic := none) :
    Replay RunResult := do
  if !request.allowIntervention then
    failure request code
      "Unattended validation stopped at an intervention boundary." false stepId
      none none (some session)
  else
    diagnostic.forM fun given =>
      Runtime.record "execution_diagnostic" request.runId stepId
        given.safePayload
    attachFrame session "handoff-before" .humanAudit
    let interventionId ← Runtime.newId .intervention
    let context ← attempt (InterventionContext.make
      (interventionContext request stepId observation))
    let routedId ← engine.leaseService.openIntervention interventionId
      request.runId session.sessionId leaseVersion code stepId observation
      context explanation
    Runtime.raiseIf (routedId ≠ interventionId.val)
      (.runtime "intervention router must preserve the reserved identity")
    modify fun state => { state with
      pausePoints := state.pausePoints.set interventionId.val
        (point.retryStep, point.retryAttempt) }
    Runtime.record "intervention_required" request.runId stepId
    let result ← attempt (InterventionRequiredResult.make {
      runId := request.runId
      interventionId := interventionId.val
      code
      stepId })
    pure (.interventionRequired result)

/-- The codes that hand a step over. -/
def eligibleCode (error : SurfaceError)
    (diagnostic : Option ExecutionDiagnostic) : Bool :=
  error.code ∈ ["target_absent", "target_ambiguous", "action_timeout",
    "action_failed"] ||
  (error.code = "postcondition_mismatch" &&
    diagnostic.any (·.phase = .afterDispatch))

def handoffExplanation (retryStep : Bool) : String :=
  if retryStep then
    "Restore the interface without performing this task step. " ++
      "Resume will resolve and retry the same step."
  else
    "Inspect and complete or correct the interrupted action. " ++
      "Resume must verify its declared effect; it will not repeat the action."

/-- The handoff branch of `_surface_failure`. -/
def handOver (request : ReplayRequest) (session : SurfaceSession) (step : Step)
    (stepId : Option String) (error : SurfaceError) (leaseVersion : Nat)
    (diagnostic : Option ExecutionDiagnostic) : Replay RunResult := do
  let considered ← Runtime.catching
    (fun raised =>
      if raised.surface?.isSome || raised.contract?.isSome then some ()
      else none)
    (do
      let observation ← Runtime.session session.sessionId .observe
      let decision ← engine.stepPolicy request session step observation none
      pure (observation, decision))
  match considered with
  | .error _ =>
      failure request error.code error.safeMessage false stepId none none
        (some session) diagnostic
  | .ok (observation, decision) =>
      if decision.decision = .deny then
        failure request "policy_blocked" decision.explanation false stepId none
          none (some session)
      else
        let retryStep := diagnostic.any (·.phase = .beforeDispatch)
        engine.intervene request session stepId error.code observation
          leaseVersion (some (handoffExplanation retryStep))
          { retryStep, retryAttempt := (diagnostic.map (·.attempt)).getD 1 }
          diagnostic

def surfaceFailure (request : ReplayRequest) (session : Option SurfaceSession)
    (stepId : Option String) (error : SurfaceError)
    (leaseVersion : Option Nat := none)
    (diagnostic : Option ExecutionDiagnostic := none)
    (allowIntervention : Bool := true) : Replay RunResult :=
  let report := failure request error.code error.safeMessage error.recoverable
    stepId error.expected error.observed session diagnostic error.failureFrame
  if allowIntervention && request.allowIntervention &&
      (eligibleCode error diagnostic || error.interventionRecommended) then
    match request.step? stepId, session, leaseVersion with
    | some step, some live, some version =>
        engine.handOver request live step stepId error version diagnostic
    | _, _, _ => report
  else
    report

end ReplayEngine

end ReplayForge

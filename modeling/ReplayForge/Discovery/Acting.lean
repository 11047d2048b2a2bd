import ReplayForge.Discovery.Compiler
import ReplayForge.Discovery.Operations
import ReplayForge.Discovery.PrivacyGuard
import ReplayForge.Replay.Engine

/-!
# One discovery action

`_act`, split where the source's control flow splits: the screening of a
proposal, the grounding of its target, the policy decision, the action, its
verification and its recording.  A part that ends the run answers with the
failure, and the parts after it are skipped.
-/

namespace ReplayForge

open Effect

/-- The libraries a discovery calls. -/
structure DiscoveryLibraries extends GuardLibraries where
  /-- `target.model_dump_json()` -/
  targetDumpJson : LocatorBundle → String
  /-- `json.dumps` of an action and of a target without its description -/
  operationText : Action → Option LocatorBundle → String
  /-- `json.dumps` of a proposal -/
  proposalText : ActProposal → String
  /-- `str(value)` -/
  str : Json → String

namespace DiscoveryLibraries

variable (libraries : DiscoveryLibraries)

/-- `target_contains_invocation_literal` -/
def targetContainsInvocationLiteral (target : LocatorBundle)
    (inputs : Fields) : Bool :=
  let content := libraries.host.casefold (libraries.targetDumpJson target)
  (Json.obj inputs).knownStrings.any fun value =>
    Text.containsText content (libraries.encoded value)

/-- `_operation_fingerprint`: the description is no part of it. -/
def operationFingerprint (proposal : ActProposal) : String :=
  libraries.operationText proposal.action
    (proposal.target.map fun target => { target with description := "" })

/-- `_contains_input_literal` -/
def containsInputLiteral (inputs : Fields) (value : Json) : Bool :=
  (Json.obj inputs).showsLiteral libraries.str (libraries.str value)

end DiscoveryLibraries

structure Discovery.Engine where
  libraries : DiscoveryLibraries
  compiler : TraceArtifactCompiler
  privacyRedactor : StructuredRedactor
  leaseService : ControlLeaseService
  providerName : String
  modelName : String
  effectivePolicy : Option EffectivePolicy := none
  policyResolver : Option (DiscoveryRequest → Except Raised EffectivePolicy) :=
    none
  /-- A contract planner is configured. -/
  contractPlanner : Bool := false
  capabilityIdResolver : Option (String → String → Except Raised String) :=
    none
  /-- An intervention router is configured. -/
  interventionRouter : Bool := false

/-- What every part of a run is given. -/
structure DiscoveryRun where
  request : DiscoveryRequest
  session : SurfaceSession
  policy : EffectivePolicy
  draft : Option CapabilityDraftSpec

namespace DiscoveryRun

/-- The contract of the draft, or the empty one of the compiler. -/
def outputContract (run : DiscoveryRun) : ObjectContract :=
  match run.draft with
  | some draft => draft.outputs
  | none => { required := [], properties := [] }

def inputContract (run : DiscoveryRun) : Option ObjectContract :=
  run.draft.map CapabilityDraftSpec.inputs

def call (run : DiscoveryRun) (op : SessionOp) : Discovery.Work op.Result :=
  Runtime.session run.session.sessionId op

def record (run : DiscoveryRun) (eventType : String) (details : Fields := []) :
    Discovery.Work Unit :=
  Runtime.record eventType run.request.runId none details

/-- `session.wait_until` of a condition for ten seconds -/
def waitUntil (run : DiscoveryRun) (condition : Condition) :
    Discovery.Work Bool := do
  run.call (.waitUntil condition (← get).outputs run.request.inputs 10000)

end DiscoveryRun

/-- What an action ends with. -/
inductive ActOutcome where
  | failed (result : FailureResult)
  | recorded (recording : RecordedDiscoveryStep) (history : String)

namespace Action

/-- The condition an action asserts or waits for. -/
def awaited? : Action → Option Condition
  | .assert condition | .waitFor condition => some condition
  | _ => none

/-- An extraction, an assertion or a wait. -/
def isObservational : Action → Bool
  | .extract _ _ | .assert _ | .waitFor _ => true
  | _ => false

end Action

namespace Discovery.Engine

variable (engine : Discovery.Engine)

/-! ## Failures -/

/-- The failure-state frame, live or carried by the error. -/
def failureContent {σ : Type} (session : Option SurfaceSession)
    (failureFrame : Option Bytes) : Runtime σ Bytes :=
  match session, failureFrame with
  | some live, _ => Runtime.session live.sessionId .captureProviderFrame
  | none, some frame => pure frame
  | none, none => throw .assertion

def attachFailureState {σ : Type} (session : Option SurfaceSession)
    (failureFrame : Option Bytes) : Runtime σ Unit := do
  let content ← failureContent session failureFrame
  let payload ← attempt (rawScreenshot content)
  Runtime.attachScreenshot "discovery-failure-state" payload .failure

def captureEvidence {σ : Type} (session : Option SurfaceSession)
    (failureFrame : Option Bytes) : Runtime σ String := do
  if session.isSome || failureFrame.isSome then
    let captured ← Runtime.catching
      (fun error => if error.isOsRuntimeOrValue then some () else none)
      (attachFailureState session failureFrame)
    match captured with
    | .ok _ => pure "captured"
    | .error _ => pure "unavailable"
  else
    pure "not_applicable"

/-- `_failure` -/
def failure {σ : Type} (request : DiscoveryRequest)
    (session : Option SurfaceSession) (code message : String)
    (privacyRejection : Option ArtifactPrivacyDiagnostic := none)
    (failureFrame : Option Bytes := none) : Runtime σ FailureResult := do
  let evidenceFrame ← captureEvidence session failureFrame
  Runtime.record "discovery_failed" request.runId none
    [("code", .str code), ("evidence_frame", .str evidenceFrame)]
  let evidenceManifest ← Runtime.evidenceManifestKey
  attempt (FailureResult.make {
    runId := request.runId
    evidenceManifest
    code
    message
    recoverable := false
    privacyRejection })

/-- The failure of an action. -/
def actFailure (run : DiscoveryRun) (code message : String) :
    Work (Option FailureResult) := do
  some <$> failure run.request (some run.session) code message

/-- The failure of the first part, or the rest. -/
def unlessFailed (first : Work (Option FailureResult))
    (next : Work ActOutcome) : Work ActOutcome := do
  match ← first with
  | some result => return .failed result
  | none => next

/-- `renew_control` -/
def renewControl (session : SurfaceSession) : Work Unit := do
  let state ← get
  let lease ← engine.leaseService.heartbeat session.sessionId
    state.leaseVersion .automation
  modify fun state => { state with leaseVersion := lease.version }

/-! ## Screening -/

/-- The value an action writes is no copy of an input, and its input is
there. -/
def screenValue (run : DiscoveryRun) (proposal : ActProposal) :
    Work (Option FailureResult) := do
  match proposal.action.valueSource with
  | some (.literal value) =>
      if engine.libraries.containsInputLiteral run.request.inputs value.json
      then
        actFailure run "literal_customer_value"
          "Discovery cannot publish a customer value embedded in an action."
      else
        return none
  | some (.input path) =>
      match resolveInput run.request.inputs path with
      | .ok _ => return none
      | .error _ => throw (replannable "input_binding_missing"
          "The proposed input binding is unavailable.")
  | none => return none

/-- The output of an extraction is declared and the target shows no input. -/
def screenTarget (run : DiscoveryRun) (proposal : ActProposal) :
    Work Unit := do
  Runtime.raiseIf (proposal.action.extracted?.any
      (· ∉ run.outputContract.properties.keys))
    (replannable "output_not_declared"
      "Extraction output is not declared by the capability contract.")
  Runtime.raiseIf (proposal.target.any
      (engine.libraries.targetContainsInvocationLiteral · run.request.inputs))
    (replannable "literal_input_target"
      ("Use an input_text symbolic binding for invocation-dependent record " ++
        "identity."))

/-- The checks before the target is grounded. -/
def screen (run : DiscoveryRun) (proposal : ActProposal) :
    Work (Option FailureResult) := do
  let state ← get
  attempt (proposal.action.awaited?.forM
    (Condition.validateBindings state.outputs run.request.inputs))
  match ← engine.screenValue run proposal with
  | some result => return some result
  | none => do
      engine.screenTarget run proposal
      return none

/-! ## Grounding -/

def bindTarget (run : DiscoveryRun) (proposal : ActProposal) :
    Work (Option LocatorBundle) := do
  match proposal.target with
  | none => return none
  | some target =>
      let bound ← Runtime.catching Raised.contract? (attempt
        (bindTargetInputs target run.request.inputs run.inputContract
          run.policy.forbiddenFieldClasses))
      match bound with
      | .ok bundle => return some bundle
      | .error (_, code) => throw (.surface {
          code
          safeMessage := "Target input binding is unavailable or forbidden."
          recoverable := code ≠ "target_input_forbidden"
          effectAbsent := true })

def resolveTarget (run : DiscoveryRun) :
    Option LocatorBundle → Work (Option ResolvedTarget)
  | none => return none
  | some bundle => some <$> run.call (.resolve bundle 10000)

/-- The candidate that was grounded, with its symbolic input; the other
candidates were not verified. -/
def groundedCandidate (proposed bound captured : LocatorBundle)
    (index : Nat) : LocatorBundle :=
  match bound.visualCandidates[index]?, proposed.visualCandidates[index]? with
  | some grounded, some symbolic =>
      if captured.visualCandidates = [grounded] then
        { captured with visualCandidates := [symbolic] }
      else
        captured
  | _, _ => captured

/-- The target the recording keeps. -/
def stableTarget (run : DiscoveryRun) (proposal : ActProposal)
    (bound : Option LocatorBundle) (target : Option ResolvedTarget) :
    Work (Option LocatorBundle) := do
  match proposal.target, bound, target with
  | some proposed, some bundle, some resolved =>
      if proposed.targetInputPaths.isEmpty then
        some <$> run.call (.captureLocator resolved)
      else if resolved.visual && run.session.renderedSurface then
        let captured ← run.call (.captureLocator resolved)
        return some (groundedCandidate proposed bundle captured
          resolved.candidateIndex)
      else
        return some proposed
  | _, _, _ => return none

/-! ## Policy -/

/-- The classification of the input an action writes. -/
def fieldClassification (run : DiscoveryRun) (proposal : ActProposal) :
    Option DataClassification :=
  match run.inputContract, proposal.action.valueSource with
  | some contract, some (.input path) =>
      bindingClassification contract path run.policy.forbiddenFieldClasses
  | _, _ => none

/-- What a proposal is to the policy, on a page of an origin. -/
def actionContext (run : DiscoveryRun) (proposal : ActProposal)
    (origin route : String) (target : Option ResolvedTarget) :
    ActionContext where
  principalType := .automation
  principalId := "runtime"
  runMode := .discovery
  applicationFamily := run.request.applicationFamily
  tenant := run.request.tenant
  origin := origin
  route := route
  actionType := proposal.action.kind
  targetDescription :=
    match proposal.target with
    | some bundle => bundle.description
    | none => proposal.expectedEffect.val
  declaredRisk := proposal.declaredRisk
  registeredTargetRisk := target.bind ResolvedTarget.registeredRisk
  fieldClassification := fieldClassification run proposal
  controlOwner := ControlOwner.automation.value

def actionPolicy (run : DiscoveryRun) (proposal : ActProposal)
    (before : NormalizedObservation) (target : Option ResolvedTarget) :
    Work PolicyDecision := do
  let origin ← run.call .origin
  let decision ← attempt (PolicyEvaluator.evaluate engine.libraries.host
    run.policy (actionContext run proposal origin before.route target))
  run.record "policy_evaluated"
    [("decision", .str decision.decision.value),
      ("reason", .str decision.reasonCode)]
  return decision

/-- What the policy decision makes of the action. -/
def applyDecision (run : DiscoveryRun) (decision : PolicyDecision) :
    Work (Option FailureResult) := do
  match decision.decision with
  | .deny => actFailure run "policy_blocked" decision.explanation
  | .requireHumanApproval =>
      if decision.reasonCode = "sensitive_action_requires_approval" then
        throw (replannable "risk_classification_unresolved"
          ("The proposal must identify a verified inverse or escalate before " ++
            "mutation."))
      else
        throw (.discoveryBlocked decision.reasonCode)
  | .allow =>
      engine.renewControl run.session
      run.record "action_intent"
      return none

/-! ## The action -/

/-- An extraction binds its output, unless the locator depends on it. -/
def extract (run : DiscoveryRun) (output : String) (transform : Transform)
    (resolved : ResolvedTarget) (stable : Option LocatorBundle) :
    Work Unit := do
  let host := engine.libraries.host
  let observed ← run.call (.extract resolved)
  let value := transformExtractedText host observed transform
  Runtime.raiseIf (extractionLocatorContainsValue host stable observed ∨
      extractionLocatorContainsValue host stable value)
    (replannable "extraction_locator_value_bound"
      "The extraction locator depends on the observed output value.")
  modify fun state => { state with outputs := state.outputs.set output value }

def perform (run : DiscoveryRun) (proposal : ActProposal)
    (target : Option ResolvedTarget) (stable : Option LocatorBundle) :
    Work (Option FailureResult) := do
  match proposal.action with
  | .extract output transform =>
      match target with
      | none => do
          actFailure run "target_absent"
            "Extraction requires a resolved target."
      | some resolved => do
          engine.extract run output transform resolved stable
          return none
  | action =>
      let receipt ← run.call (.execute action target run.request.inputs)
      if receipt.status = .failed then
        actFailure run (ReplayEngine.receiptCode receipt)
          "The discovery action did not complete."
      else
        return none

/-! ## Verification -/

/-- A condition that is awaited, with the failure when it is not observed. -/
structure AwaitedCondition where
  condition : Condition
  code : String
  message : String

/-- The condition of the action itself, then the expected one. -/
def awaitedConditions (proposal : ActProposal) : List AwaitedCondition :=
  (proposal.action.awaited?.toList.map fun condition => {
    condition
    code := "action_condition_not_verified"
    message := "The action's condition was not observed." }) ++
  (proposal.expectedCondition.toList.map fun condition => {
    condition
    code := "expected_condition_not_verified"
    message := "The action's expected condition was not observed after " ++
      "execution." })

def awaitConditions (run : DiscoveryRun) :
    List AwaitedCondition → Work (Option FailureResult)
  | [] => return none
  | awaited :: rest => do
      if ← run.waitUntil awaited.condition then
        engine.renewControl run.session
        awaitConditions run rest
      else
        actFailure run awaited.code awaited.message

/-- An extracted output satisfies its schema. -/
def validateOutput (run : DiscoveryRun) (output : String) :
    Work (Option FailureResult) := do
  match run.outputContract.properties.get? output with
  | none => throw (.key output)
  | some schema =>
      let state ← get
      let validated : Except Raised Fields :=
        match state.outputs.get? output with
        | none => .error (.key output)
        | some value => validateObject engine.libraries.host
            { required := [output], properties := [(output, schema)] }
            [(output, .str value)]
      match validated with
      | .ok _ => return none
      | .error (.contract _ _) | .error (.key _) => do
          run.record "output_validation_failed" [("output", .str output)]
          actFailure run "output_invalid" "The extracted output is invalid."
      | .error error => throw error

def verify (run : DiscoveryRun) (proposal : ActProposal) :
    Work (Option FailureResult) := do
  engine.renewControl run.session
  match ← engine.awaitConditions run (awaitedConditions proposal) with
  | some result => return some result
  | none =>
      match proposal.action.extracted? with
      | some output => engine.validateOutput run output
      | none => return none

/-- The conditions verified when nothing failed, each listed once. -/
def verifiedPostconditions (proposal : ActProposal) : List Condition :=
  let own := proposal.action.awaited?.toList
  own ++ proposal.expectedCondition.toList.filter (· ∉ own) ++
    proposal.action.extracted?.toList.map fun output =>
      .atom (.outputValid output)

def completedHistory (proposal : ActProposal) : String :=
  "Completed action: " ++ engine.libraries.proposalText proposal ++
    if proposal.action.awaited?.isSome then
      " Condition verified and retained in the recorded trace."
    else ""

def conclude (run : DiscoveryRun) (proposal : ActProposal)
    (before : NormalizedObservation) (stable : Option LocatorBundle)
    (decision : PolicyDecision) : Work ActOutcome := do
  let after ← run.call .observe
  run.record "action_result"
  let recording ← attempt (recordDiscoveryStep proposal.action stable before
    after proposal.expectedEffect.val proposal.rationale.val
    decision.effectiveRisk (verifiedPostconditions proposal))
  return .recorded recording (engine.completedHistory proposal)

/-- `_act` -/
def act (run : DiscoveryRun) (proposal : ActProposal)
    (before : NormalizedObservation) : Work ActOutcome :=
  unlessFailed (engine.screen run proposal) do
    let bound ← bindTarget run proposal
    let target ← resolveTarget run bound
    let stable ← stableTarget run proposal bound target
    let decision ← engine.actionPolicy run proposal before target
    unlessFailed (engine.applyDecision run decision) <|
      unlessFailed (engine.perform run proposal target stable) <|
        unlessFailed (engine.verify run proposal) <|
          engine.conclude run proposal before stable decision

end Discovery.Engine

end ReplayForge

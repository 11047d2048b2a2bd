import ReplayForge.Discovery.Acting

/-!
# The ends of a discovery

How a draft is planned before the first action, and how a verified trace
becomes a published artifact after the last one.
-/

namespace ReplayForge

open Effect

/-! ## Drafts -/

namespace CapabilityDraftSpec

def credentialTokens : List String :=
  ["password", "secret", "token", "credential", "api", "key"]

/-- The checks of one declared field. -/
def validateField (contractName name : String) (schema : ValueSchema) :
    Except Raised Unit := do
  require (Pattern.ident Pattern.word 1 (some 63) name)
    (contractName ++ " field name is invalid")
  require (!credentialTokens.any (· ∈ Text.splitOnChar '_' name))
    (contractName ++ " field name appears credential-related")
  require (schema.dataClassification ∉ [.credential, .secret])
    (contractName ++ " contract contains a forbidden field")

mutual

/-- The declared fields of every level, the last of each first. -/
def validateFields (contractName : String) :
    List (String × ValueSchema) → Except Raised Unit
  | [] => .ok ()
  | (name, schema) :: rest => do
      validateFields contractName rest
      validateField contractName name schema
      validateNested contractName schema

def validateNested (contractName : String) :
    ValueSchema → Except Raised Unit
  | ⟨_, _, _, _, _, properties, _, _, _, _, _, _, _⟩ =>
      validateFields contractName properties

end

def validateContract (contractName : String) (contract : ObjectContract) :
    Except Raised Unit := do
  require (contract.properties.length ≤ 50)
    ("capability drafts cannot declare more than 50 " ++ contractName ++ "s")
  require contract.required.Nodup
    (contractName ++ " contract contains duplicate required fields")
  validateFields contractName contract.properties

/-- `CapabilityDraftSpec(...)` -/
def make (draft : CapabilityDraftSpec) (observationOnly : Bool) :
    Except Raised CapabilityDraftSpec := do
  require (Pattern.ident Pattern.word 1 (some 63) draft.operationSlug)
    "operation_slug"
  require (draft.capabilityId.all Pattern.capabilityId) "capability_id"
  require (1 ≤ draft.name.length && draft.name.length ≤ 200) "name"
  require (1 ≤ draft.description.length && draft.description.length ≤ 1000)
    "description"
  require (draft.tags.length ≤ 20) "tags"
  require (!draft.outputs.required.isEmpty || observationOnly)
    "capability drafts must declare at least one required output"
  validateContract "input" draft.inputs
  validateContract "output" draft.outputs
  return draft

end CapabilityDraftSpec

/-- `identifier.rsplit(".", 1)[-1]` -/
def operationOf (identifier : String) : String :=
  ((Text.splitOnChar '.' identifier).getLast?).getD ""

/-- `ArtifactPrivacyDiagnostic.source` -/
def ValueOrigin.reported : ValueOrigin → PrivacySource
  | .invocation => .invocation
  | .captured => .captured

def PrivacySource.value : PrivacySource → String
  | .invocation => "invocation"
  | .captured => "captured"

/-- What the pattern of a location expects next. -/
inductive LocationPart where
  /-- A field, an index, the mark of a key or the end. -/
  | boundary
  /-- The first character of a field. -/
  | field
  | name
  | index (digits : Bool)

namespace Pattern

/-- The rest of `artifact(\.(name|\*)|\[digits\])*(:key)?`. -/
def locationRest : LocationPart → List Char → Bool
  | .boundary, [] | .name, [] => true
  | .boundary, [':', 'k', 'e', 'y'] | .name, [':', 'k', 'e', 'y'] => true
  | .boundary, '.' :: rest | .name, '.' :: rest => locationRest .field rest
  | .boundary, '[' :: rest | .name, '[' :: rest =>
      locationRest (.index false) rest
  | .field, '*' :: rest => locationRest .boundary rest
  | .field, char :: rest => lower char && locationRest .name rest
  | .name, char :: rest => word char && locationRest .name rest
  | .index digits, ']' :: rest => digits && locationRest .boundary rest
  | .index _, char :: rest => digit char && locationRest (.index true) rest
  | _, _ => false

/-- The pattern of `ArtifactPrivacyDiagnostic.location` -/
def schemaLocation (text : String) : Bool :=
  Text.hasPrefix text "artifact" &&
    locationRest .boundary (text.toList.drop "artifact".length)

end Pattern

def ArtifactPrivacyDiagnostic.make (diagnostic : ArtifactPrivacyDiagnostic) :
    Except Raised ArtifactPrivacyDiagnostic := do
  require (diagnostic.location.length ≤ 1000 &&
    Pattern.schemaLocation diagnostic.location) "location"
  return diagnostic

namespace Discovery.Engine

variable (engine : Discovery.Engine)

/-- The draft of a scenario is that of its primary capability, observed
only. -/
def scenarioDraft (request : DiscoveryRequest) (primary : CapabilityArtifact) :
    Except Raised CapabilityDraftSpec :=
  if primary.capability.applicationFamily ≠ request.applicationFamily ∨
      primary.compatibility.entryPoint ≠ request.entryPoint then
    .error (.modelProvider "scenario_target_invalid"
      "Scenario target differs from its primary.")
  else
    match validateObject engine.libraries.host primary.inputs request.inputs
    with
    | .error (.contract _ _) => .error (.modelProvider
        "discovery_input_invalid"
        "Scenario inputs do not satisfy the primary contract.")
    | .error error => .error error
    | .ok _ => CapabilityDraftSpec.make {
        operationSlug := operationOf primary.capability.id
        capabilityId := some primary.capability.id
        name := primary.capability.name
        description := request.goal
        inputs := primary.inputs
        outputs := { primary.outputs with required := [] } } true

/-- The identifier the draft is published under. -/
def assignCapabilityId (request : DiscoveryRequest)
    (draft : CapabilityDraftSpec) : Except Raised CapabilityDraftSpec :=
  match engine.capabilityIdResolver with
  | some resolve =>
      match request.existingCapabilityId <|> draft.capabilityId with
      | none => do
          let id ← resolve request.applicationFamily draft.operationSlug
          return { draft with capabilityId := some id }
      | some requested => do
          let known ← resolve request.applicationFamily (operationOf requested)
          require (known = requested)
            "capability id must belong to the registered namespace"
          return { draft with capabilityId := some requested }
  | none =>
      match request.existingCapabilityId with
      | none => .ok draft
      | some requested => do
          require (draft.capabilityId.all (· = requested))
            "provider capability id conflicts with the requested id"
          return { draft with capabilityId := some requested }

def planningContext (request : DiscoveryRequest) (policy : EffectivePolicy)
    (observation : NormalizedObservation) (screenshot : Bytes) :
    PlanningContext where
  goal := request.goal
  inputs := request.inputs
  observation := observation
  screenshot := screenshot
  maximumRisk := policy.maximumRisk
  requestedCapabilityId := request.existingCapabilityId
  applicationFamily := request.applicationFamily
  entryPoint := request.entryPoint
  allowedActionTypes := policy.allowedActionTypes

/-- What the planner makes of the open session. -/
def plannedDraft (request : DiscoveryRequest) (session : SurfaceSession)
    (policy : EffectivePolicy) : Discovery CapabilityDraftSpec := do
  let observation ← Discovery.runtime
    (Runtime.session session.sessionId .observe)
  let screenshot ← Discovery.runtime
    (Runtime.session session.sessionId .captureProviderFrame)
  Discovery.runtime (engine.renewControl session)
  let context ← attempt (PlanningContext.make
    (planningContext request policy observation screenshot))
  let planned ← Discovery.plan context
  Discovery.runtime (engine.renewControl session)
  match planned with
  | none => throw (.value "provider returned an invalid capability draft")
  | some planned =>
      attempt do
        let draft ← engine.assignCapabilityId request planned
        let _ ← validateObject engine.libraries.host draft.inputs
          request.inputs
        return draft

/-- A contract of the provider that does not hold is the provider's error. -/
def planningError : Raised → Option (String × String)
  | .contract _ _ => some ("discovery_input_invalid",
      "Supplied inputs do not satisfy the planned capability contract.")
  | error =>
      if error.isValueError then
        some ("provider_contract_invalid",
          "The provider returned an invalid capability contract.")
      else none

/-- `_plan_contract` -/
def planContract (request : DiscoveryRequest) (session : SurfaceSession)
    (policy : EffectivePolicy) : Discovery (Option CapabilityDraftSpec) := do
  match request.scenario with
  | some scenario =>
      some <$> attempt (engine.scenarioDraft request scenario.primary)
  | none =>
      if engine.contractPlanner then
        match ← handling planningError
            (engine.plannedDraft request session policy) with
        | .ok draft => return some draft
        | .error (code, message) => throw (.modelProvider code message)
      else
        return none

/-! ## Publication -/

/-- Why no artifact is published. -/
inductive CompletionFailure where
  | privacy (rejection : PrivacyRejection)
  | compilation (error : Raised)

/-- `_compile`; the generic compilation requires a draft. -/
def compile (run : DiscoveryRun) (recordings : List RecordedDiscoveryStep)
    (observation : NormalizedObservation) (evidenceManifest : String) :
    Except Raised CapabilityArtifact :=
  match run.draft with
  | none => .error (.value
      "a capability draft is required for generic compilation")
  | some draft => engine.compiler.compileWithSpec {
      draft
      runId := run.request.runId
      goal := run.request.goal
      applicationFamily := run.request.applicationFamily
      tenant := run.request.tenant
      entryPoint := run.request.entryPoint
      steps := recordings
      finalObservation := observation
      providerName := engine.providerName
      modelName := engine.modelName
      evidenceManifest
      renderedSurface := run.session.renderedSurface
      baseVariant := run.session.baseVariant
      surfaceContract := some run.session.surfaceContract
      maximumRisk := some run.policy.maximumRisk
      allowedActionTypes := some run.policy.allowedActionTypes
      requiredLandmarks := run.session.requiredLandmarks
      forbiddenLandmarks := run.session.forbiddenLandmarks }
      (some run.policy.allowedRoutePatterns)

/-- The artifact of the trace, past the privacy checks. -/
def publishable (run : DiscoveryRun) (recordings : List RecordedDiscoveryStep)
    (observation : NormalizedObservation) (evidenceManifest : String)
    (outputs : Fields) : Except CompletionFailure CapabilityArtifact := do
  let compiled ← (engine.compile run recordings observation
    evidenceManifest).mapError .compilation
  let artifact ← (engine.libraries.redactContractDescriptions
    engine.privacyRedactor compiled run.request.inputs outputs).mapError
      fun error => .privacy (.evidence error)
  (engine.libraries.validateArtifactPrivacy engine.privacyRedactor artifact
    run.request.inputs outputs).mapError .privacy
  return artifact

def completionFailed (run : DiscoveryRun) (code message : String)
    (privacyRejection : Option ArtifactPrivacyDiagnostic := none) :
    Work DiscoveryResult :=
  .failure <$> failure run.request (some run.session) code message
    privacyRejection

/-- The `except` clauses around the compilation. -/
def reportRejection (run : DiscoveryRun) :
    CompletionFailure → Work DiscoveryResult
  | .privacy (.artifactPrivacy source location) => do
      let diagnostic ← attempt (ArtifactPrivacyDiagnostic.make
        { source := source.reported, location })
      completionFailed run "artifact_privacy_rejected"
        ("artifact contains a literal " ++ source.reported.value ++
          " value at " ++ location) (some diagnostic)
  | .privacy (.evidence _) =>
      completionFailed run "artifact_privacy_rejected"
        "The compiled trace contains private or forbidden data."
  | .compilation error =>
      if error.isValueError then
        completionFailed run "artifact_compilation_failed"
          ("The observed trace could not be compiled into a safe " ++
            "capability.")
      else
        throw error

/-- The artifact is returned once its checkpoint is observed and the outputs
satisfy its contract. -/
def publish (run : DiscoveryRun) (artifact : CapabilityArtifact) :
    Work DiscoveryResult := do
  if ← run.waitUntil artifact.checkpoint.condition then
    let state ← get
    match validateObject engine.libraries.host artifact.outputs
        state.outputs.fields with
    | .error (.contract path code) =>
        completionFailed run "completion_output_invalid"
          (path ++ ": " ++ code)
    | .error error => throw error
    | .ok _ => do
        run.record "artifact_compiled"
        let evidenceManifest ← Runtime.evidenceManifestKey
        let result ← attempt (DiscoverySuccess.make {
          runId := run.request.runId
          artifact
          evidenceManifest
          branch := state.observedBranch })
        return .success result
  else
    completionFailed run "completion_not_verified"
      "Completion lacked deterministic checkpoint evidence."

/-- `_complete` -/
def complete (run : DiscoveryRun) (observation : NormalizedObservation) :
    Work DiscoveryResult := do
  let evidenceManifest ← Runtime.evidenceManifestKey
  let state ← get
  match engine.publishable run state.recordings observation evidenceManifest
      state.outputs.fields with
  | .error reason => reportRejection run reason
  | .ok artifact => engine.publish run artifact

/-! ## Rejoining -/

/-- Every condition is evaluated up to the first that does not hold. -/
def allHold (run : DiscoveryRun) : List Condition → Work Bool
  | [] => return true
  | condition :: rest => do
      let state ← get
      if ← run.call (.evaluate condition state.outputs run.request.inputs) then
        allHold run rest
      else
        return false

/-- The target and the preconditions of the next step of the primary. -/
def probeRejoin (run : DiscoveryRun) (primary : CapabilityArtifact)
    (step : Step) : Work Bool := do
  match step.target with
  | some target => do
      let bound ← attempt (bindTargetInputs target run.request.inputs
        (some primary.inputs) run.policy.forbiddenFieldClasses)
      let _ ← run.call (.resolve bound step.timeoutMs)
  | none => pure ()
  allHold run step.preconditions

/-- `_rejoin_ready`; a surface or contract error is no readiness. -/
def rejoinReady (run : DiscoveryRun) (primary : CapabilityArtifact)
    (branch : ObservedBranch) : Work Bool := do
  match primary.steps[branch.afterStepCount]? with
  | none => return false
  | some step =>
      match ← Runtime.catching (fun error =>
          if error.surface?.isSome || error.contract?.isSome then some ()
          else none) (probeRejoin run primary step) with
      | .ok ready => return ready
      | .error _ => return false

/-- A condition verified after the branch proves another surface. -/
def provesRestoration (recordings : List RecordedDiscoveryStep)
    (branch : ObservedBranch) : Bool :=
  (recordings.drop (branch.afterStepCount + 1)).any fun recorded =>
    recorded.verifiedPostconditions.any
      (Condition.provesDistinctSurface branch.condition)

/-- A recovery completes at a restored surface that is ready to rejoin. -/
def completionReady (run : DiscoveryRun) : Work Bool := do
  let state ← get
  match run.request.scenario, state.observedBranch with
  | some scenario, some branch =>
      if scenario.kind = .recovery then
        if provesRestoration state.recordings branch then
          rejoinReady run scenario.primary branch
        else
          return false
      else
        return true
  | _, _ => return true

def rejoinNote : String :=
  "Completion rejected: recovery requires executed corrective steps, " ++
  "a distinct verified restored-state condition, and readiness of the " ++
  "exact next primary target/preconditions. A branch marker or " ++
  "acknowledgement alone is insufficient. " ++
  "Restore the original surface, including scrolling when necessary; " ++
  "do not click the rejoin target. Assert a distinctive condition on the " ++
  "currently visible restored surface before completing again."

/-- What a proposal to complete leads to; nothing when it is rejected. -/
def attemptCompletion (run : DiscoveryRun)
    (observation : NormalizedObservation) :
    Work (Option DiscoveryResult) := do
  let state ← get
  if run.request.scenario.isSome && state.observedBranch.isNone then
    some <$> completionFailed run "scenario_branch_missing"
      "Scenario completion requires a verified branch marker."
  else if ← completionReady run then
    some <$> engine.complete run observation
  else
    engine.renewControl run.session
    run.record "proposal_rejected"
      [("code", .str "recovery_rejoin_not_ready"),
        ("effect_absent", .bool true)]
    modify fun state => { state with history := state.history ++ [rejoinNote] }
    return none

end Discovery.Engine

end ReplayForge

import ReplayForge.Capabilities.ConditionCodec

/-!
# The codec of capability artifacts
-/

namespace ReplayForge

open Codec ReplayForge.Part

def KeyboardKey.value : KeyboardKey → String
  | .enter => "Enter"
  | .space => "Space"
  | .tab => "Tab"
  | .escape => "Escape"
  | .backspace => "Backspace"
  | .delete => "Delete"
  | .insert => "Insert"
  | .arrowUp => "ArrowUp"
  | .arrowDown => "ArrowDown"
  | .arrowLeft => "ArrowLeft"
  | .arrowRight => "ArrowRight"
  | .home => "Home"
  | .end => "End"
  | .pageUp => "PageUp"
  | .pageDown => "PageDown"
  | .f1 => "F1"
  | .f2 => "F2"
  | .f3 => "F3"
  | .f4 => "F4"
  | .f5 => "F5"
  | .f6 => "F6"
  | .f7 => "F7"
  | .f8 => "F8"
  | .f9 => "F9"
  | .f10 => "F10"
  | .f11 => "F11"
  | .f12 => "F12"
  | .control => "Control"
  | .shift => "Shift"
  | .alt => "Alt"
  | .meta => "Meta"
  | .a => "A"

def KeyboardKey.codec : Codec KeyboardKey :=
  .literal [.enter, .space, .tab, .escape, .backspace, .delete, .insert,
    .arrowUp, .arrowDown, .arrowLeft, .arrowRight, .home, .end, .pageUp,
    .pageDown, .f1, .f2, .f3, .f4, .f5, .f6, .f7, .f8, .f9, .f10, .f11, .f12,
    .control, .shift, .alt, .meta, .a] value fun key => by cases key <;> rfl

instance : KeyboardKey.codec.Steady := ⟨fun _ _ => rfl⟩

def ScrollDirection.value : ScrollDirection → String
  | .up => "up"
  | .down => "down"
  | .left => "left"
  | .right => "right"

def ScrollDirection.codec : Codec ScrollDirection :=
  .literal [.up, .down, .left, .right] value fun direction => by
    cases direction <;> rfl

instance : ScrollDirection.codec.Steady := ⟨fun _ _ => rfl⟩

def Transform.value : Transform → String
  | .text => "text"
  | .trim => "trim"
  | .lowercase => "lowercase"
  | .decimal => "decimal"
  | .dateTime => "date-time"

def Transform.codec : Codec Transform :=
  .literal [.text, .trim, .lowercase, .decimal, .dateTime] value
    fun transform => by cases transform <;> rfl

instance : Transform.codec.Steady := ⟨fun _ _ => rfl⟩

/-- `transform: ... = "trim"` -/
def transformed : Part Transform :=
  defaulted "transform" Transform.codec .trim fun _ => trivial

instance : transformed.Steady := ⟨fun _ _ => rfl⟩

def Action.codec : Codec Action :=
  .union "kind" kind [
    variant "navigate" (required "entry_point" text) .navigate
      fun
        | .navigate entryPoint => some entryPoint
        | _ => none,
    variant "click" nothing (fun () => .click)
      fun
        | .click => some ()
        | _ => none,
    variant "type" ((required "value" ValueSource.codec).both (flag "clear" true))
      (fun (value, clear) => .type value clear)
      fun
        | .type value clear => some (value, clear)
        | _ => none,
    variant "press_keys" (required "keys" KeyboardKey.codec.list) .pressKeys
      fun
        | .pressKeys keys => some keys
        | _ => none,
    variant "select" (required "option" ValueSource.codec) .select
      fun
        | .select option => some option
        | _ => none,
    variant "scroll"
      ((required "direction" ScrollDirection.codec).both
        (required "amount" nat))
      (fun (direction, amount) => .scroll direction amount)
      fun
        | .scroll direction amount => some (direction, amount)
        | _ => none,
    variant "wait_for" (required "condition" Condition.codec) .waitFor
      fun
        | .waitFor condition => some condition
        | _ => none,
    variant "extract" ((required "output" text).both transformed)
      (fun (output, transform) => .extract output transform)
      fun
        | .extract output transform => some (output, transform)
        | _ => none,
    variant "assert" (required "condition" Condition.codec) .assert
      fun
        | .assert condition => some condition
        | _ => none,
    variant "switch_context" (required "context" text) .switchContext
      fun
        | .switchContext context => some context
        | _ => none,
    variant "checkpoint" (required "checkpoint_id" text) .checkpoint
      fun
        | .checkpoint checkpointId => some checkpointId
        | _ => none]

instance : Action.codec.Steady := by
  apply steady_union
  repeat apply SteadyForms.cons
  exact .nil

def RetryPolicy.codec : Codec RetryPolicy :=
  .record <|
    ((numbered "max_attempts" 1).both <|
    (listed false "backoff_ms" nat).both <|
    (listed false "retry_on" text).both <|
    fixedFlag false "require_effect_absent" true).map
    (fun (maxAttempts, backoffMs, retryOn, ()) =>
      { maxAttempts, backoffMs, retryOn })
    fun retry => (retry.maxAttempts, retry.backoffMs, retry.retryOn, ())

instance : RetryPolicy.codec.Steady := steady_record (steady_map fun _ => rfl)

def EvidenceRequirement.codec : Codec EvidenceRequirement :=
  .record <|
    ((flag "before" false).both <| (flag "after" true).both <|
    flag "on_failure" true).map
    (fun (before, after, onFailure) => { before, after, onFailure })
    fun evidence => (evidence.before, evidence.after, evidence.onFailure)

instance : EvidenceRequirement.codec.Steady :=
  steady_record (steady_map fun _ => rfl)

def Step.codec (trimmed : Bool) : Codec Step :=
  .record <|
    ((required "id" text).both <|
    (required "name" text).both <|
    (required "action" Action.codec).both <|
    (Part.optional "target" LocatorBundle.codec).both <|
    (listed false "preconditions" Condition.codec).both <|
    (listed false "postconditions" Condition.codec).both <|
    (numbered "timeout_ms" 10000).both <|
    (defaulted "retry" RetryPolicy.codec {} <|
      legal_of_load (.obj []) fun _ => rfl).both <|
    (listed false "recovery_refs" text).both <|
    (listed false "outcome_refs" text).both <|
    (listed trimmed "failure_refs" text).both <|
    (required "risk" Risk.codec).both <|
    defaulted "evidence" EvidenceRequirement.codec {} <|
      legal_of_load (.obj []) fun _ => rfl).map
    (fun (id, name, action, target, preconditions, postconditions, timeoutMs,
        retry, recoveryRefs, outcomeRefs, failureRefs, risk, evidence) =>
      { id, name, action, target, preconditions, postconditions, timeoutMs,
        retry, recoveryRefs, outcomeRefs, failureRefs, risk, evidence })
    fun step => (step.id, step.name, step.action, step.target,
      step.preconditions, step.postconditions, step.timeoutMs, step.retry,
      step.recoveryRefs, step.outcomeRefs, step.failureRefs, step.risk,
      step.evidence)

instance {trimmed : Bool} : (Step.codec trimmed).Steady := steady_record (steady_map fun _ => rfl)

def Recovery.codec (trimmed : Bool) : Codec Recovery :=
  .record <|
    ((required "id" text).both <|
    (required "trigger" Condition.codec).both <|
    (required "max_uses" nat).both <|
    (required "steps" (Step.codec trimmed).list).both <|
    required "resume_at" text).map
    (fun (id, trigger, maxUses, steps, resumeAt) =>
      { id, trigger, maxUses, steps, resumeAt })
    fun recovery => (recovery.id, recovery.trigger, recovery.maxUses,
      recovery.steps, recovery.resumeAt)

instance {trimmed : Bool} : (Recovery.codec trimmed).Steady := steady_record (steady_map fun _ => rfl)

theorem ValueSource.dump_solid (source : ValueSource) :
    (ValueSource.codec.dump source).isEmpty = false := by
  cases source <;> rfl

/-- `OutcomeResult` -/
def outcomeResult : Codec (Dict ValueSource) :=
  .record <|
    ((fixedText false "status" "business_outcome").both <|
    defaulted "details" (.dict ValueSource.codec ValueSource.dump_solid) [] <|
      legal_of_load (.obj []) fun _ => rfl).map
    (fun ((), details) => details) fun details => ((), details)

def BusinessOutcome.codec : Codec BusinessOutcome :=
  .record <|
    ((required "code" text).both <|
    (required "description" text).both <|
    (required "detect" Condition.codec).both <|
    (required "allowed_after_steps" text.list).both <|
    defaulted "result" outcomeResult [] <|
      legal_of_load (.obj []) fun _ => rfl).map
    (fun (code, description, detect, allowedAfterSteps, details) =>
      { code, description, detect, allowedAfterSteps, details })
    fun outcome => (outcome.code, outcome.description, outcome.detect,
      outcome.allowedAfterSteps, outcome.details)

def ApplicationFailure.codec : Codec ApplicationFailure :=
  .record <|
    ((required "code" text).both <|
    (required "description" text).both <|
    (required "detect" Condition.codec).both <|
    (required "allowed_after_steps" text.list).both <|
    (required "expected_state" text).both <|
    (required "observed_state" text).both <|
    flag "recoverable" false).map
    (fun (code, description, detect, allowedAfterSteps, expectedState,
        observedState, recoverable) =>
      { code, description, detect, allowedAfterSteps, expectedState,
        observedState, recoverable })
    fun failure => (failure.code, failure.description, failure.detect,
      failure.allowedAfterSteps, failure.expectedState, failure.observedState,
      failure.recoverable)

instance : ApplicationFailure.codec.Steady :=
  steady_record (steady_map fun _ => rfl)

def Checkpoint.codec : Codec Checkpoint :=
  .record <|
    ((required "id" text).both <| required "condition" Condition.codec).map
    (fun (id, condition) => { id, condition })
    fun checkpoint => (checkpoint.id, checkpoint.condition)

instance : Checkpoint.codec.Steady := steady_record (steady_map fun _ => rfl)

def LandmarkKind.value : LandmarkKind → String
  | .heading => "heading"
  | .field => "field"
  | .text => "text"
  | .visualText => "visual_text"

def LandmarkKind.codec : Codec LandmarkKind :=
  .literal [.heading, .field, .text, .visualText] value fun kind => by
    cases kind <;> rfl

instance : LandmarkKind.codec.Steady := ⟨fun _ _ => rfl⟩

def Landmark.codec : Codec Landmark :=
  .record <|
    ((required "kind" LandmarkKind.codec).both <| required "value" text).map
    (fun (kind, value) => { kind, value })
    fun landmark => (landmark.kind, landmark.value)

instance : Landmark.codec.Steady := steady_record (steady_map fun _ => rfl)

/-- `SurfaceFingerprint` -/
def surfaceFingerprint : Codec (List Landmark × List Landmark) :=
  .record <|
    ((required "required_landmarks" Landmark.codec.list).both <|
    listed false "forbidden_landmarks" Landmark.codec).map id id

instance : surfaceFingerprint.Steady := steady_record (steady_map fun _ => rfl)

/-- A flag that is not set by default. -/
def cleared (hidden : Bool) (name : String) : Part Bool :=
  lenient hidden name bool false (fun _ => trivial) (fun _ => rfl)
    fun value hollow => by simpa [Codec.bool, Tree.isEmpty] using hollow

instance {hidden : Bool} {name : String} : (cleared hidden name).Steady := ⟨fun _ _ => rfl⟩

def Compatibility.codec (trimmed : Bool) : Codec Compatibility :=
  .record <|
    ((required "application_family" text).both <|
    (required "base_variant" text).both <|
    (required "supported_variants" text.list).both <|
    (required "surface_contract" text).both <|
    (required "entry_point" text).both <|
    (cleared trimmed "rendered_surface").both <|
    required "fingerprint" surfaceFingerprint).map
    (fun (applicationFamily, baseVariant, supportedVariants, surfaceContract,
        entryPoint, renderedSurface, (requiredLandmarks,
        forbiddenLandmarks)) =>
      { applicationFamily, baseVariant, supportedVariants, surfaceContract,
        entryPoint, renderedSurface, requiredLandmarks, forbiddenLandmarks })
    fun compatibility => (compatibility.applicationFamily,
      compatibility.baseVariant, compatibility.supportedVariants,
      compatibility.surfaceContract, compatibility.entryPoint,
      compatibility.renderedSurface, compatibility.requiredLandmarks,
      compatibility.forbiddenLandmarks)

instance {trimmed : Bool} : (Compatibility.codec trimmed).Steady :=
  steady_record (steady_map fun _ => rfl)

def SurfaceKind.value : SurfaceKind → String
  | .web => "web"
  | .desktop => "desktop"

def SurfaceKind.codec : Codec SurfaceKind :=
  .enum [.web, .desktop] value fun kind => by cases kind <;> rfl

instance : SurfaceKind.codec.Steady := ⟨fun _ _ => rfl⟩

def CapabilityMetadata.codec : Codec CapabilityMetadata :=
  .record <|
    ((required "id" text).both <|
    (required "version" text).both <|
    (required "name" text).both <|
    (required "description" text).both <|
    (required "application_family" text).both <|
    (required "surface" SurfaceKind.codec).both <|
    (required "risk" Risk.codec).both <|
    listed false "tags" text).map
    (fun (id, version, name, description, applicationFamily, surface, risk,
        tags) =>
      { id, version, name, description, applicationFamily, surface, risk,
        tags })
    fun metadata => (metadata.id, metadata.version, metadata.name,
      metadata.description, metadata.applicationFamily, metadata.surface,
      metadata.risk, metadata.tags)

instance : CapabilityMetadata.codec.Steady :=
  steady_record (steady_map fun _ => rfl)

def OutputRedaction.value : OutputRedaction → String
  | .remove => "remove"
  | .last4 => "last4"
  | .tokenize => "tokenize"

def OutputRedaction.codec : Codec OutputRedaction :=
  .literal [.remove, .last4, .tokenize] value fun redaction => by
    cases redaction <;> rfl

instance : OutputRedaction.codec.Steady := ⟨fun _ _ => rfl⟩

theorem OutputRedaction.dump_solid (redaction : OutputRedaction) :
    (OutputRedaction.codec.dump redaction).isEmpty = false := by
  cases redaction <;> rfl

/-- A set that is empty by default. -/
def gathered (hidden : Bool) (name : String)
    (steady : ∀ rendering : Rendering, rendering.members [] = []) :
    Part (List String) :=
  lenient hidden name set [] (fun _ => ⟨List.nodup_nil, fun _ member =>
    nomatch member⟩) steady fun value hollow => by
      simpa [Codec.set, Tree.isEmpty] using hollow

theorem Rendering.members_nil (rendering : Rendering) :
    rendering.members [] = [] :=
  (rendering.members_perm []).eq_nil

def CapabilityPolicy.codec (trimmed : Bool) : Codec CapabilityPolicy :=
  .record <|
    ((required "allowed_action_types" set).both <|
    (required "allowed_entry_points" set).both <|
    (required "maximum_risk" Risk.codec).both <|
    (gathered trimmed "allowed_route_patterns" Rendering.members_nil).both <|
    (listed false "forbidden_text_inputs" text).both <|
    defaulted "output_redaction"
      (.dict OutputRedaction.codec OutputRedaction.dump_solid) [] <|
      legal_of_load (.obj []) fun _ => rfl).map
    (fun (allowedActionTypes, allowedEntryPoints, maximumRisk,
        allowedRoutePatterns, forbiddenTextInputs, outputRedaction) =>
      { allowedActionTypes, allowedEntryPoints, maximumRisk,
        allowedRoutePatterns, forbiddenTextInputs, outputRedaction })
    fun policy => (policy.allowedActionTypes, policy.allowedEntryPoints,
      policy.maximumRisk, policy.allowedRoutePatterns,
      policy.forbiddenTextInputs, policy.outputRedaction)

def Provenance.codec : Codec Provenance :=
  .record <|
    ((required "discovery_run_id" text).both <|
    (required "provider" text).both <|
    (required "model" text).both <|
    (required "prompt_policy_version" text).both <|
    (required "surface_adapter_version" text).both <|
    (required "compiler_version" text).both <|
    (required "created_at" stamp).both <|
    (required "target_fingerprint" text).both <|
    (required "evidence_manifest_key" text).both <|
    Part.optional "artifact_content_hash" text).map
    (fun (discoveryRunId, provider, model, promptPolicyVersion,
        surfaceAdapterVersion, compilerVersion, createdAt, targetFingerprint,
        evidenceManifestKey, artifactContentHash) =>
      { discoveryRunId, provider, model, promptPolicyVersion,
        surfaceAdapterVersion, compilerVersion, createdAt, targetFingerprint,
        evidenceManifestKey, artifactContentHash })
    fun provenance => (provenance.discoveryRunId, provenance.provider,
      provenance.model, provenance.promptPolicyVersion,
      provenance.surfaceAdapterVersion, provenance.compilerVersion,
      provenance.createdAt, provenance.targetFingerprint,
      provenance.evidenceManifestKey, provenance.artifactContentHash)

instance : Provenance.codec.Steady := steady_record (steady_map fun _ => rfl)

def CapabilityArtifact.codec (trimmed : Bool) : Codec CapabilityArtifact :=
  .record <|
    ((fixedText true "schema_version" "1.4").both <|
    (required "capability" CapabilityMetadata.codec).both <|
    (required "compatibility" (Compatibility.codec trimmed)).both <|
    (required "inputs" ObjectContract.codec).both <|
    (required "outputs" ObjectContract.codec).both <|
    (listed false "preconditions" Condition.codec).both <|
    (required "steps" (Step.codec trimmed).list).both <|
    (listed false "recoveries" (Recovery.codec trimmed)).both <|
    (listed false "outcomes" BusinessOutcome.codec).both <|
    (listed trimmed "failures" ApplicationFailure.codec).both <|
    (required "checkpoint" Checkpoint.codec).both <|
    (required "policy" (CapabilityPolicy.codec trimmed)).both <|
    required "provenance" Provenance.codec).map
    (fun ((), capability, compatibility, inputs, outputs, preconditions,
        steps, recoveries, outcomes, failures, checkpoint, policy,
        provenance) =>
      { capability, compatibility, inputs, outputs, preconditions, steps,
        recoveries, outcomes, failures, checkpoint, policy, provenance })
    fun artifact => ((), artifact.capability, artifact.compatibility,
      artifact.inputs, artifact.outputs, artifact.preconditions,
      artifact.steps, artifact.recoveries, artifact.outcomes,
      artifact.failures, artifact.checkpoint, artifact.policy,
      artifact.provenance)

/-- The contract with the properties of every level rearranged. -/
def ObjectContract.arranged (rendering : Rendering)
    (contract : ObjectContract) : ObjectContract :=
  { contract with
    properties := (rendering.arrange contract.properties).mapValues
      (ValueSchema.arranged rendering) }

theorem ObjectContract.normal_eq (rendering : Rendering)
    (contract : ObjectContract) :
    codec.normal rendering contract = contract.arranged rendering := by
  simp only [codec, record, Part.map, embed, both, Part.normal_eq]
  rfl

def BusinessOutcome.arranged (rendering : Rendering)
    (outcome : BusinessOutcome) : BusinessOutcome :=
  { outcome with details := rendering.arrange outcome.details }

theorem BusinessOutcome.normal_eq (rendering : Rendering)
    (outcome : BusinessOutcome) :
    codec.normal rendering outcome = outcome.arranged rendering := by
  have same : ValueSource.codec.normal rendering = id :=
    funext (Codec.normal_eq rendering)
  simp only [codec, record, Part.map, embed, both, Part.normal_eq]
  simp only [defaulted, outcomeResult, record, Part.map, embed, both, dict,
    same, Dict.mapValues_id]
  rfl

def CapabilityPolicy.arranged (rendering : Rendering)
    (policy : CapabilityPolicy) : CapabilityPolicy :=
  { policy with
    allowedActionTypes := rendering.members policy.allowedActionTypes
    allowedEntryPoints := rendering.members policy.allowedEntryPoints
    allowedRoutePatterns := rendering.members policy.allowedRoutePatterns
    outputRedaction := rendering.arrange policy.outputRedaction }

theorem CapabilityPolicy.normal_eq (trimmed : Bool) (rendering : Rendering)
    (policy : CapabilityPolicy) :
    (codec trimmed).normal rendering policy = policy.arranged rendering := by
  have same : OutputRedaction.codec.normal rendering = id :=
    funext (Codec.normal_eq rendering)
  simp only [codec, record, Part.map, embed, both, Part.normal_eq]
  simp only [defaulted, dict, same, Dict.mapValues_id]
  rfl

/-- The artifact with its sets and dictionaries rearranged. -/
def CapabilityArtifact.arranged (rendering : Rendering)
    (artifact : CapabilityArtifact) : CapabilityArtifact :=
  { artifact with
    inputs := artifact.inputs.arranged rendering
    outputs := artifact.outputs.arranged rendering
    outcomes := artifact.outcomes.map (BusinessOutcome.arranged rendering)
    policy := artifact.policy.arranged rendering }

theorem CapabilityArtifact.normal_eq (trimmed : Bool)
    (rendering : Rendering)
    (artifact : CapabilityArtifact) :
    (codec trimmed).normal rendering artifact = artifact.arranged rendering := by
  have outcome : BusinessOutcome.codec.normal rendering =
      BusinessOutcome.arranged rendering :=
    funext (BusinessOutcome.normal_eq rendering)
  simp only [codec, record, Part.map, embed, both, Part.normal_eq]
  simp only [required, ObjectContract.normal_eq, CapabilityPolicy.normal_eq,
    listed, lenient, Codec.list, outcome]
  rfl

end ReplayForge

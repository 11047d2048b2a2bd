import ReplayForge.Capabilities.Conditions
import ReplayForge.Capabilities.Contracts
import ReplayForge.Shared.Identifiers
import ReplayForge.Shared.Timestamp

/-!
# Capability artifacts

The reviewed boundary between discovery and replay.  Every model carries a
`validate` function with its field bounds and its model validator.
-/

namespace ReplayForge

inductive ValueSource where
  | input (path : String)
  | literal (value : Scalar)
deriving DecidableEq

def ValueSource.validate : ValueSource → Except Raised Unit
  | .input path => require (Pattern.dottedPath path) "path"
  | .literal _ => .ok ()

inductive KeyboardKey where
  | enter | space | tab | escape | backspace | delete | insert
  | arrowUp | arrowDown | arrowLeft | arrowRight
  | home | «end» | pageUp | pageDown
  | f1 | f2 | f3 | f4 | f5 | f6 | f7 | f8 | f9 | f10 | f11 | f12
  | control | shift | alt | «meta» | a
deriving DecidableEq, Repr

def KeyboardKey.isModifier : KeyboardKey → Bool
  | .control | .shift | .alt | .meta => true
  | _ => false

inductive ScrollDirection where
  | up
  | down
  | left
  | right
deriving DecidableEq, Repr

inductive Transform where
  | text
  | trim
  | lowercase
  | decimal
  | dateTime
deriving DecidableEq, Repr

inductive Action where
  | navigate (entryPoint : String)
  | click
  | type (value : ValueSource) (clear : Bool)
  | pressKeys (keys : List KeyboardKey)
  | select (option : ValueSource)
  | scroll (direction : ScrollDirection) (amount : Nat)
  | waitFor (condition : Condition)
  | extract (output : String) (transform : Transform)
  | assert (condition : Condition)
  | switchContext (context : String)
  | checkpoint (checkpointId : String)
deriving DecidableEq

namespace Action

def kind : Action → String
  | .navigate _ => "navigate"
  | .click => "click"
  | .type _ _ => "type"
  | .pressKeys _ => "press_keys"
  | .select _ => "select"
  | .scroll _ _ => "scroll"
  | .waitFor _ => "wait_for"
  | .extract _ _ => "extract"
  | .assert _ => "assert"
  | .switchContext _ => "switch_context"
  | .checkpoint _ => "checkpoint"

/-- The kinds a capability policy may allow. -/
def knownKinds : List String :=
  ["navigate", "click", "type", "press_keys", "select", "scroll", "wait_for",
    "extract", "assert", "switch_context", "checkpoint"]

/-- The value an action writes into its target. -/
def valueSource : Action → Option ValueSource
  | .type value _ => some value
  | .select option => some option
  | _ => none

def requiresTarget : Action → Bool
  | .click | .type _ _ | .select _ | .extract _ _ => true
  | _ => false

def validateChord (keys : List KeyboardKey) : Except Raised Unit := do
  require (!keys.isEmpty && keys.length ≤ 4) "keys"
  let modifiers := keys.dropLast
  require (keys.getLast?.all (!·.isModifier) &&
      modifiers.all KeyboardKey.isModifier)
    "a key chord requires modifiers followed by one supported key"
  require keys.Nodup "a key chord cannot repeat a modifier"
  require (keys.getLast? ≠ some .a || .control ∈ modifiers ||
      .meta ∈ modifiers)
    "text entry requires a type action; A is only a select-all shortcut"

def validate : Action → Except Raised Unit
  | .navigate entryPoint => require (Text.isStripped entryPoint) "entry_point"
  | .click => .ok ()
  | .type value _ => value.validate
  | .pressKeys keys => validateChord keys
  | .select option => option.validate
  | .scroll _ amount => require (0 < amount && amount ≤ 2000) "amount"
  | .waitFor condition | .assert condition => condition.validate
  | .extract output _ => require (Text.isStripped output) "output"
  | .switchContext context => require (Text.isStripped context) "context"
  | .checkpoint checkpointId =>
      require (Text.isStripped checkpointId) "checkpoint_id"

end Action

structure RetryPolicy where
  maxAttempts : Nat := 1
  backoffMs : List Nat := []
  retryOn : List String := []
deriving DecidableEq

def RetryPolicy.validate (retry : RetryPolicy) : Except Raised Unit := do
  require (1 ≤ retry.maxAttempts && retry.maxAttempts ≤ 5) "max_attempts"
  require (retry.backoffMs.length ≤ retry.maxAttempts - 1)
    "backoff entries cannot exceed the number of retries"
  require (retry.backoffMs.all (· ≤ 30000))
    "backoff values must be between 0 and 30000 milliseconds"
  require (retry.retryOn.Nodup && retry.retryOn.all Pattern.stableId)
    "retry error codes must be unique stable identifiers"
  require (retry.maxAttempts ≤ 1 || !retry.retryOn.isEmpty)
    "multiple attempts require an explicit retry error code"
  require (retry.maxAttempts ≠ 1 ||
      (retry.retryOn.isEmpty && retry.backoffMs.isEmpty))
    "single-attempt steps cannot declare retry behavior"

structure EvidenceRequirement where
  before : Bool := false
  after : Bool := true
  onFailure : Bool := true
deriving DecidableEq

structure Step where
  id : String
  name : String
  action : Action
  target : Option LocatorBundle := none
  preconditions : List Condition := []
  postconditions : List Condition := []
  timeoutMs : Nat := 10000
  retry : RetryPolicy := {}
  recoveryRefs : List String := []
  outcomeRefs : List String := []
  failureRefs : List String := []
  risk : Risk
  evidence : EvidenceRequirement := {}
deriving DecidableEq

def Step.validate (step : Step) : Except Raised Unit := do
  require (Pattern.stepId step.id) "id"
  require (Text.isBounded step.name 1 none) "name"
  step.action.validate
  step.target.forM LocatorBundle.validate
  step.preconditions.forM Condition.validate
  step.postconditions.forM Condition.validate
  require (100 ≤ step.timeoutMs && step.timeoutMs ≤ 120000) "timeout_ms"
  step.retry.validate
  require (!step.action.requiresTarget || step.target.isSome)
    (step.action.kind ++ " action requires a target")
  require (step.action.requiresTarget || step.target.isNone)
    (step.action.kind ++ " action cannot declare a target")
  require step.recoveryRefs.Nodup "step recovery references must be unique"
  require step.outcomeRefs.Nodup "step outcome references must be unique"
  require step.failureRefs.Nodup "step failure references must be unique"

/-- A validated step has at least one attempt. -/
theorem Step.one_le_maxAttempts {step : Step}
    (valid : step.validate = .ok ()) : 1 ≤ step.retry.maxAttempts := by
  unfold Step.validate RetryPolicy.validate at valid
  simp only [check_bind_eq_ok, require_eq_ok, Bool.and_eq_true,
    decide_eq_true_eq] at valid
  obtain ⟨-, -, -, -, -, -, -, ⟨⟨positive, -⟩, -⟩, -⟩ := valid
  exact positive

structure Recovery where
  id : String
  trigger : Condition
  maxUses : Nat
  steps : List Step
  resumeAt : String
deriving DecidableEq

def Recovery.validate (recovery : Recovery) : Except Raised Unit := do
  require (Pattern.stepId recovery.id) "id"
  recovery.trigger.validate
  require (1 ≤ recovery.maxUses && recovery.maxUses ≤ 3) "max_uses"
  require (!recovery.steps.isEmpty) "steps"
  recovery.steps.forM Step.validate

structure BusinessOutcome where
  code : String
  description : String
  detect : Condition
  allowedAfterSteps : List String
  /-- `result.details` -/
  details : Dict ValueSource := []
deriving DecidableEq

def BusinessOutcome.validate (outcome : BusinessOutcome) :
    Except Raised Unit := do
  require (Pattern.declaredCode outcome.code) "code"
  require (Text.isStripped outcome.description) "description"
  outcome.detect.validate
  require (!outcome.allowedAfterSteps.isEmpty) "allowed_after_steps"
  outcome.details.forM fun (_, source) => source.validate

structure ApplicationFailure where
  code : String
  description : String
  detect : Condition
  allowedAfterSteps : List String
  expectedState : String
  observedState : String
  recoverable : Bool := false
deriving DecidableEq

def ApplicationFailure.validate (failure : ApplicationFailure) :
    Except Raised Unit := do
  require (Pattern.declaredCode failure.code) "code"
  require (Text.isBounded failure.description 1 none) "description"
  failure.detect.validate
  require (!failure.allowedAfterSteps.isEmpty) "allowed_after_steps"
  require (Text.isBounded failure.expectedState 1 none) "expected_state"
  require (Text.isBounded failure.observedState 1 none) "observed_state"

structure Checkpoint where
  id : String
  condition : Condition
deriving DecidableEq

def Checkpoint.validate (checkpoint : Checkpoint) : Except Raised Unit := do
  require (Pattern.declaredCode checkpoint.id) "id"
  checkpoint.condition.validate

inductive LandmarkKind where
  | heading
  | field
  | text
  | visualText
deriving DecidableEq, Repr

structure Landmark where
  kind : LandmarkKind
  value : String
deriving DecidableEq

structure Compatibility where
  applicationFamily : String
  baseVariant : String
  supportedVariants : List String
  surfaceContract : String
  entryPoint : String
  renderedSurface : Bool := false
  requiredLandmarks : List Landmark
  forbiddenLandmarks : List Landmark := []
deriving DecidableEq

def Compatibility.validate (compatibility : Compatibility) :
    Except Raised Unit := do
  require (Pattern.family compatibility.applicationFamily) "application_family"
  require (Pattern.tenant compatibility.baseVariant) "base_variant"
  require (!compatibility.supportedVariants.isEmpty) "supported_variants"
  require (Pattern.ident Pattern.address 1 (some 63)
    compatibility.surfaceContract) "surface_contract"
  require (Pattern.family compatibility.entryPoint) "entry_point"
  require (!compatibility.requiredLandmarks.isEmpty) "required_landmarks"
  require compatibility.supportedVariants.Nodup
    "supported variants must be unique"
  require (compatibility.supportedVariants.all Pattern.tenant)
    "supported variants contain an invalid identifier"

inductive SurfaceKind where
  | web
  | desktop
deriving DecidableEq, Repr

structure CapabilityMetadata where
  id : String
  version : String
  name : String
  description : String
  applicationFamily : String
  surface : SurfaceKind
  risk : Risk
  tags : List String := []
deriving DecidableEq

def CapabilityMetadata.validate (metadata : CapabilityMetadata) :
    Except Raised Unit := do
  require (Pattern.capabilityId metadata.id) "id"
  require (Pattern.semanticVersion metadata.version) "version"
  require (Text.isBounded metadata.name 1 (some 200)) "name"
  require (Text.isBounded metadata.description 1 (some 1000)) "description"
  require (Pattern.family metadata.applicationFamily) "application_family"
  require metadata.tags.Nodup "capability tags must be unique"
  require (metadata.tags.all fun tag =>
      tag.length ≤ 64 && Pattern.stableId tag)
    "capability tags must be stable identifiers"

inductive OutputRedaction where
  | remove
  | last4
  | tokenize
deriving DecidableEq, Repr

structure CapabilityPolicy where
  allowedActionTypes : List String
  allowedEntryPoints : List String
  maximumRisk : Risk
  allowedRoutePatterns : List String := []
  forbiddenTextInputs : List String := []
  outputRedaction : Dict OutputRedaction := []
deriving DecidableEq

/-- An absolute path without query, fragment or empty and parent segments. -/
def isSafePath (path : String) : Bool :=
  Text.hasPrefix path "/" && !('?' ∈ path.toList) && !('#' ∈ path.toList) &&
    !Text.containsText path "//" && !Text.containsText path ".."

def CapabilityPolicy.validate (policy : CapabilityPolicy) :
    Except Raised Unit := do
  require (!policy.allowedActionTypes.isEmpty &&
      policy.allowedActionTypes.all (· ∈ Action.knownKinds))
    "capability policy contains unknown action types"
  require (!policy.allowedEntryPoints.isEmpty)
    "capability policy requires an entry point"
  require (policy.allowedRoutePatterns.all isSafePath)
    "capability route patterns must be absolute paths"

structure Provenance where
  discoveryRunId : String
  provider : String
  model : String
  promptPolicyVersion : String
  surfaceAdapterVersion : String
  compilerVersion : String
  createdAt : Timestamp
  targetFingerprint : String
  evidenceManifestKey : String
  artifactContentHash : Option String := none
deriving DecidableEq

def Provenance.validate (provenance : Provenance) : Except Raised Unit := do
  require (isEntityId .run provenance.discoveryRunId) "discovery_run_id"
  require (Text.isBounded provenance.provider 1 (some 100)) "provider"
  require (Text.isBounded provenance.model 1 (some 200)) "model"
  require (Text.isBounded provenance.promptPolicyVersion 1 (some 100))
    "prompt_policy_version"
  require (Text.isBounded provenance.surfaceAdapterVersion 1 (some 100))
    "surface_adapter_version"
  require (Text.isBounded provenance.compilerVersion 1 (some 100))
    "compiler_version"
  require (Text.isBounded provenance.targetFingerprint 1 (some 200))
    "target_fingerprint"
  require (Pattern.evidenceKey provenance.evidenceManifestKey)
    "evidence_manifest_key"
  require (provenance.artifactContentHash.all (Pattern.hexAfter "sha256:" 64))
    "artifact_content_hash"
  require provenance.createdAt.hasOffset
    "provenance timestamp must include an offset"

structure CapabilityArtifact where
  capability : CapabilityMetadata
  compatibility : Compatibility
  inputs : ObjectContract
  outputs : ObjectContract
  preconditions : List Condition := []
  steps : List Step
  recoveries : List Recovery := []
  outcomes : List BusinessOutcome := []
  failures : List ApplicationFailure := []
  checkpoint : Checkpoint
  policy : CapabilityPolicy
  provenance : Provenance
deriving DecidableEq

end ReplayForge

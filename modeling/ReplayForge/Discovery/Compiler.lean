import Mathlib.Data.List.MinMax
import Mathlib.Data.Prod.Lex
import ReplayForge.Capabilities.Serialization
import ReplayForge.Discovery.Models
import ReplayForge.Policy.Routes

/-!
# The trace compiler

A verified trace and a draft become a capability artifact.  A model strips the
strings it is built from and checks its parts, those of the draft and of the
recordings, which were models before, once more.  A set that the compiler
builds is kept in order; the allowed route patterns come in the order in which
their set is iterated.
-/

namespace ReplayForge

/-- The arguments of `compile_with_spec` but the allowed route patterns. -/
structure CompilationRequest where
  draft : CapabilityDraftSpec
  runId : String
  goal : String
  applicationFamily : String
  tenant : String
  entryPoint : String
  steps : List RecordedDiscoveryStep
  finalObservation : NormalizedObservation
  providerName : String
  modelName : String
  evidenceManifest : String
  renderedSurface : Bool := false
  baseVariant : String := "standard"
  surfaceContract : Option String := none
  maximumRisk : Option Risk := none
  allowedActionTypes : Option (List String) := none
  requiredLandmarks : List Landmark := []
  forbiddenLandmarks : List Landmark := []

structure TraceArtifactCompiler where
  serializers : Serializers
  host : Host
  /-- `clock.now()` -/
  now : Timestamp
  compilerVersion : String := "2.0.1"
  surfaceAdapterVersion : String := "web.v1"

/-- The output an extraction binds. -/
def Action.extracted? : Action → Option String
  | .extract output _ => some output
  | _ => none

def LocatorBundle.coordinateOnly (target : LocatorBundle) : Bool :=
  target.visualCandidates.isEmpty && !target.candidates.isEmpty &&
    target.candidates.all (·.strategy = .coordinates)

/-- The label of a rendered field value. -/
def VisualLocatorCandidate.fieldLabel? :
    VisualLocatorCandidate → Option String
  | .renderedFieldValue label _ _ => some label
  | _ => none

namespace RecordedDiscoveryStep

/-- The labels of the rendered field an extraction was read from. -/
def fieldLabels (recording : RecordedDiscoveryStep) : List String :=
  match recording.action, recording.target with
  | .extract _ _, some target =>
      target.visualCandidates.filterMap VisualLocatorCandidate.fieldLabel?
  | _, _ => []

/-- The landmarks around the action. -/
def landmarks (recording : RecordedDiscoveryStep) : List String :=
  recording.observationBefore.landmarks ++
    recording.observationAfter.landmarks

end RecordedDiscoveryStep

namespace CompilationRequest

variable (request : CompilationRequest)

/-- The observed routes that are absolute paths. -/
def observedRoutes : List String :=
  (request.steps.flatMap (fun recording =>
    [recording.observationBefore.route, recording.observationAfter.route]) ++
    [request.finalObservation.route]).filter (Text.hasPrefix · "/")

def observedLandmarks : List String :=
  request.steps.flatMap RecordedDiscoveryStep.landmarks ++
    request.finalObservation.landmarks

/-- Every visual target is found without geometry. -/
def semanticVisualMode : Bool :=
  let targets := request.steps.filterMap RecordedDiscoveryStep.target
  let visual := targets.filter fun target => !target.visualCandidates.isEmpty
  !visual.isEmpty && visual.all fun target =>
    target.visualCandidates.all VisualLocatorCandidate.isGeometryFree

def fingerprintLandmarks : List Landmark :=
  if request.requiredLandmarks.isEmpty then
    let first := request.steps.head?.bind fun recording =>
      recording.observationBefore.landmarks.head?
    [{ kind := if request.semanticVisualMode then .visualText else .heading
       value := Text.strip (first.getD "Application surface") }]
  else
    request.requiredLandmarks

/-- `max(recording.risk for recording in steps)`; there is a step. -/
def traceRisk : Risk :=
  match request.steps with
  | [] => .readOnly
  | first :: rest =>
      (rest.map RecordedDiscoveryStep.risk).foldl Risk.max first.risk

end CompilationRequest

namespace TraceArtifactCompiler

/-- `_route_specificity` -/
def routeSpecificity (pattern : String) : ℕ ×ₗ ℕ :=
  let parts := PolicyEvaluator.routeSegments pattern
  let static := parts.countP fun part =>
    !(part = ['*'] || part.head? = some ':')
  toLex (static, parts.length)

/-- `_narrowest_route_pattern`: the first of the most specific patterns. -/
def narrowestRoutePattern (route : String)
    (patterns : Option (List String)) : Except Raised String := do
  require (Text.hasPrefix route "/")
    "trace contains an invalid observed route"
  match patterns.getD [] with
  | [] => return route
  | known =>
      match (known.filter (routeMatches route)).argmax routeSpecificity with
      | none => .error (.value
          "trace observed a route outside the registered policy")
      | some pattern => return pattern

/-- An input that an action writes is declared. -/
def validateSource (draft : CapabilityDraftSpec) (action : Action) :
    Except Raised Unit :=
  match action.valueSource with
  | some (.input path) =>
      require ((Text.splitOnChar '.' path).head?.any
          (· ∈ draft.inputs.properties.keys))
        "trace references an undeclared input"
  | _ => .ok ()

/-- The checks on one recording. -/
def validateRecording (draft : CapabilityDraftSpec)
    (recording : RecordedDiscoveryStep) : Except Raised Unit := do
  require (recording.target.isSome || !recording.action.requiresTarget)
    "every target action requires a stable target"
  validateSource draft recording.action
  require (recording.action.extracted?.all
      (· ∈ draft.outputs.properties.keys))
    "trace extracts an undeclared output"
  require (!recording.target.any LocatorBundle.coordinateOnly)
    "coordinate-only targets cannot be published"

/-- `_validate_trace` -/
def validateTrace (draft : CapabilityDraftSpec)
    (steps : List RecordedDiscoveryStep) : Except Raised Unit := do
  require (!steps.isEmpty) "trace contains no actions"
  steps.forM (validateRecording draft)
  let extracted := steps.filterMap (·.action.extracted?)
  let missing := sortedSet (draft.outputs.required.filter (· ∉ extracted))
  require missing.isEmpty
    ("trace is missing required outputs: [" ++
      ", ".intercalate (missing.map fun name => "'" ++ name ++ "'") ++ "]")

/-- `f"{index:02d}"` -/
def paddedIndex (index : Nat) : String :=
  if index < 10 then "0" ++ toString index else toString index

/-- `_compile_step` -/
def compileStep (index : Nat) (recording : RecordedDiscoveryStep) : Step where
  id := "step_" ++ paddedIndex index ++ "_" ++ recording.action.kind
  name := Text.strip (match recording.target with
    | some target => target.description
    | none => recording.action.kind)
  action := recording.action
  target := recording.target
  postconditions :=
    if recording.verifiedPostconditions.isEmpty then
      recording.action.extracted?.toList.map fun output =>
        .atom (.outputValid (Text.strip output))
    else
      recording.verifiedPostconditions
  timeoutMs := 10000
  retry := {
    maxAttempts := 2
    backoffMs := [500]
    retryOn := ["target_temporarily_absent"] }
  risk := recording.risk

/-- `enumerate(steps, start=index)`, compiled. -/
def compileSteps : Nat → List RecordedDiscoveryStep → List Step
  | _, [] => []
  | index, recording :: rest =>
      compileStep index recording :: compileSteps (index + 1) rest

/-- The latest verified condition with a surface fact inside. -/
def verifiedSurface? (steps : List RecordedDiscoveryStep) :
    Option Condition :=
  steps.reverse.findSome? fun recording =>
    recording.verifiedPostconditions.reverse.find? fun condition =>
      !condition.surfaceConditions.isEmpty

/-- The first label of the recording that is not listed yet joins. -/
def addLabel (labels : List String) (recording : RecordedDiscoveryStep) :
    List String :=
  labels ++ (recording.fieldLabels.find? (· ∉ labels)).toList

/-- `_latest_surface_condition` -/
def latestSurfaceCondition (steps : List RecordedDiscoveryStep) :
    Option Condition :=
  match verifiedSurface? steps with
  | some condition => some condition
  | none =>
      let labels := steps.foldl addLabel []
      match labels.map fun label =>
        Condition.atom (.renderedText (Text.strip label) .exact) with
      | [] => none
      | [condition] => some condition
      | conditions => some (.all conditions)

/-- The patterns chosen for the observed routes. -/
structure RouteChoice where
  patterns : List String
  starting : String
  final : String

/-- The pattern of `steps[0].observation_before.route` -/
def startingRoute (steps : List RecordedDiscoveryStep)
    (allowed : Option (List String)) : Except Raised String :=
  match steps with
  | [] => .error (.other "tuple index out of range")
  | first :: _ => narrowestRoutePattern first.observationBefore.route allowed

def chooseRoutes (request : CompilationRequest)
    (allowed : Option (List String)) : Except Raised RouteChoice := do
  let patterns ← request.observedRoutes.mapM
    (narrowestRoutePattern · allowed)
  let starting ← startingRoute request.steps allowed
  let final ← narrowestRoutePattern request.finalObservation.route allowed
  return { patterns, starting, final }

def checkLandmarks (request : CompilationRequest) : Except Raised Unit := do
  require (request.requiredLandmarks.all
      (·.value ∈ request.observedLandmarks))
    "registered readiness landmarks were not confirmed"
  require (!request.forbiddenLandmarks.any
      (·.value ∈ request.observedLandmarks))
    "trace observed a forbidden application landmark"

def checkpointConditions (request : CompilationRequest)
    (routes : RouteChoice) (completion : Condition) : List Condition :=
  .atom (.route (Text.strip routes.final)) :: completion ::
    request.draft.outputs.required.map fun name =>
      .atom (.outputValid (Text.strip name))

variable (compiler : TraceArtifactCompiler)

/-- The artifact before it is stamped. -/
def assemble (request : CompilationRequest) (routes : RouteChoice)
    (completion : Condition) : CapabilityArtifact where
  capability := {
    id := Text.strip ((request.draft.capabilityId.filter (· ≠ "")).getD
      (request.applicationFamily ++ "." ++ request.draft.operationSlug))
    version := "1.0.0"
    name := Text.strip request.draft.name
    description := Text.strip
      (if request.draft.description = "" then request.goal
        else request.draft.description)
    applicationFamily := Text.strip request.applicationFamily
    surface := .web
    risk := request.traceRisk
    tags := request.draft.tags.map Text.strip }
  compatibility := {
    applicationFamily := Text.strip request.applicationFamily
    baseVariant := Text.strip request.baseVariant
    supportedVariants := [Text.strip request.tenant]
    surfaceContract := Text.strip
      ((request.surfaceContract.filter (· ≠ "")).getD
        compiler.surfaceAdapterVersion)
    entryPoint := Text.strip request.entryPoint
    renderedSurface := request.renderedSurface
    requiredLandmarks := request.fingerprintLandmarks
    forbiddenLandmarks := request.forbiddenLandmarks }
  inputs := request.draft.inputs
  outputs := request.draft.outputs
  preconditions := [.atom (.route (Text.strip routes.starting))]
  steps := compileSteps 1 request.steps
  checkpoint := {
    id := Text.strip (request.draft.operationSlug ++ "_verified")
    condition := .all (checkpointConditions request routes completion) }
  policy := {
    allowedActionTypes :=
      sortedSet (request.steps.map (·.action.kind))
    allowedEntryPoints := [Text.strip request.entryPoint]
    maximumRisk := request.traceRisk
    allowedRoutePatterns := sortedSet (routes.patterns.map Text.strip)
    outputRedaction := request.draft.outputs.properties.filterMap
      fun (name, schema) =>
        if schema.persistence = .redacted then some (Text.strip name, .last4)
        else none }
  provenance := {
    discoveryRunId := Text.strip request.runId
    provider := Text.strip request.providerName
    model := Text.strip request.modelName
    promptPolicyVersion := "2.1.2"
    surfaceAdapterVersion := Text.strip compiler.surfaceAdapterVersion
    compilerVersion := Text.strip compiler.compilerVersion
    createdAt := compiler.now
    targetFingerprint := Text.strip request.finalObservation.fingerprint
    evidenceManifestKey := Text.strip request.evidenceManifest }

/-- The artifact declares its own content hash. -/
def stamp (artifact : CapabilityArtifact) : CapabilityArtifact :=
  artifact.restamped artifact.capability.version
    (some (compiler.serializers.artifactContentHash artifact))

/-- `compile_with_spec` -/
def compileWithSpec (request : CompilationRequest)
    (allowed : Option (List String)) : Except Raised CapabilityArtifact := do
  validateTrace request.draft request.steps
  match latestSurfaceCondition request.steps with
  | none => .error (.value
      "trace completion lacks a verified surface-state condition")
  | some completion => do
      (compileSteps 1 request.steps).forM Step.validate
      require (request.maximumRisk.all (request.traceRisk.rank ≤ ·.rank))
        "trace risk exceeds the registered policy ceiling"
      require (request.allowedActionTypes.all fun allowed =>
          request.steps.all (·.action.kind ∈ allowed))
        "trace contains an action outside the registered policy"
      let routes ← chooseRoutes request allowed
      checkLandmarks request
      let artifact := compiler.assemble request routes completion
      artifact.validate compiler.host
      return compiler.stamp artifact

end TraceArtifactCompiler

end ReplayForge

import ReplayForge.Effect.Interleaving
import ReplayForge.Suites.Merging

/-!
# The discovery suite service

Each operation reads the suite once, works outside of any lock for as long as
discovery and replay take, and stores the whole record again.
-/

namespace ReplayForge

open Effect

structure DiscoverRequest where
  goal : String
  applicationFamily : String
  tenant : String
  entryPoint : String
  inputs : Fields
  maxSteps : Nat
  timeoutSeconds : Nat
  existingCapabilityId : Option String := none
  scenario : Option ScenarioContext := none

inductive SuiteOp where
  | newId
  /-- `self.repository.get` -/
  | get (suiteId : String)
  /-- `self.repository.save` -/
  | save (suite : DiscoverySuite)
  | discover (request : DiscoverRequest)
  /-- `self.application_registry.resolve` -/
  | resolve (applicationFamily tenant entryPoint : String)
  /-- `self.validator` -/
  | validator (artifact : CapabilityArtifact) (tenant : String)
      (inputs : Fields)
  | registryGet (capabilityId version : String)
  | publishNext (artifact : CapabilityArtifact)

/-- The answer of `self.registry.publish_next`. -/
structure PublicationAnswer where
  result : Except Raised CapabilityVersionRecord
  /-- Auxiliary: the call made a version readable, whether or not it then
  raised. -/
  published : Bool

/-- What an operation returns, or the exception it raises. -/
def SuiteOp.Result : SuiteOp → Type
  | .newId => String
  | .get _ => Option DiscoverySuite
  | .save _ => Unit
  | .discover _ => Except Raised DiscoveryResult
  | .resolve _ _ _ => Except Raised Unit
  | .validator _ _ _ => Except Raised ReplayValidation
  | .registryGet _ _ => Except Raised CapabilityVersionRecord
  | .publishNext _ => PublicationAnswer

abbrev SuiteSig : Signature := ⟨SuiteOp, SuiteOp.Result⟩

abbrev SuiteEvent := Event SuiteSig

abbrev SuiteCode := Procedure SuiteSig Unit Raised

/-- The optional collaborators that are configured. -/
structure DiscoverySuiteService where
  host : Host
  hasValidator : Bool
  hasApplicationRegistry : Bool

/-- `raise DiscoverySuiteError(message)` unless the check holds. -/
def demand (check : Bool) (message : String) : SuiteCode Unit :=
  attempt (if check then .ok () else .error (.discoverySuite message))

/-- `raise DiscoverySuiteError(message)` -/
def refuse {α : Type} (message : String) : SuiteCode α :=
  throw (.discoverySuite message)

/-- `except caught as error: raise DiscoverySuiteError(message) from error` -/
def translate {α : Type} (caught : Raised → Bool) (message : String)
    (answer : Except Raised α) : Except Raised α :=
  answer.mapError fun error =>
    if caught error then .discoverySuite message else error

/-- The errors of `registry.get` a suite handles. -/
def Raised.isUnavailable : Raised → Bool
  | .capabilityNotFound | .capabilityIntegrity _ | .capabilityPublication =>
      true
  | _ => false

/-- The errors of `registry.publish_next` a suite handles. -/
def Raised.isPublicationFailure : Raised → Bool
  | .capabilityConflict | .capabilityIntegrity _ | .capabilityPublication =>
      true
  | _ => false

/-- The artifact to validate: the accepted one, or a new merge. -/
def DiscoverySuite.candidate (host : Host) (suite : DiscoverySuite)
    (primary : DiscoverySuccess) : Except Raised CapabilityArtifact :=
  match suite.artifact with
  | some artifact => .ok artifact
  | none => translate Raised.isValueError
      "scenario evidence could not be merged safely"
      (mergeScenarios host primary.artifact suite.scenarios)

namespace DiscoverySuiteService

def get (suiteId : String) : SuiteCode DiscoverySuite := do
  match ← @perform SuiteSig Unit Raised (.get suiteId) with
  | some suite => pure suite
  | none => refuse "discovery suite was not found"

def save (suite : DiscoverySuite) : SuiteCode Unit :=
  @perform SuiteSig Unit Raised (.save suite)

/-- Construct a record and store it. -/
def store (suite : DiscoverySuite) : SuiteCode DiscoverySuite := do
  let suite ← attempt suite.make
  save suite
  pure suite

def replay (artifact : CapabilityArtifact) (tenant : String)
    (inputs : Fields) : SuiteCode ReplayValidation :=
  @invoke SuiteSig Unit Raised _ (.validator artifact tenant inputs)
    fun answer => answer

def discover (request : DiscoverRequest) : SuiteCode DiscoveryResult :=
  @invoke SuiteSig Unit Raised _ (.discover request) fun answer => answer

variable (service : DiscoverySuiteService)

def assertApplicationTarget (applicationFamily tenant entryPoint : String) :
    SuiteCode Unit :=
  if service.hasApplicationRegistry then
    @invoke SuiteSig Unit Raised _ (.resolve applicationFamily tenant entryPoint)
      (translate Raised.isValueError "application target is not registered")
  else
    pure ()

def create (goal applicationFamily tenant entryPoint : String)
    (inputs : Fields) (maxSteps timeoutSeconds : Nat)
    (existingCapabilityId : Option String) : SuiteCode DiscoverySuite := do
  service.assertApplicationTarget applicationFamily tenant entryPoint
  let result ← discover {
    goal, applicationFamily, tenant, entryPoint, inputs, maxSteps
    timeoutSeconds, existingCapabilityId }
  let suiteId ← @perform SuiteSig Unit Raised .newId
  store {
    suiteId, goal, applicationFamily, tenant, entryPoint
    primaryInputs := inputs
    primary := result
    status := if result.success?.isSome then .collecting else .failed }

def fromPublished (capabilityId version tenant : String) (inputs : Fields) :
    SuiteCode DiscoverySuite := do
  let record ← @invoke SuiteSig Unit Raised _ (.registryGet capabilityId version)
    (translate Raised.isUnavailable "published primary is unavailable")
  let artifact := record.artifact
  let family := artifact.capability.applicationFamily
  let entryPoint := artifact.compatibility.entryPoint
  service.assertApplicationTarget family tenant entryPoint
  let refusal := "published primary did not pass fresh deterministic replay"
  demand service.hasValidator refusal
  let proof ← replay artifact tenant inputs
  demand (proof.verifies none) refusal
  let primary ← attempt (DiscoverySuccess.make {
    runId := artifact.provenance.discoveryRunId
    artifact := artifact
    evidenceManifest := artifact.provenance.evidenceManifestKey })
  let suiteId ← @perform SuiteSig Unit Raised .newId
  store {
    suiteId
    goal := artifact.capability.description
    applicationFamily := family
    tenant, entryPoint
    primaryInputs := inputs
    primary := .success primary
    primarySource := .publishedCapability }

def restoreScenarios (suiteId : String) (scenarios : List DiscoveryScenario) :
    SuiteCode DiscoverySuite := do
  let suite ← get suiteId
  demand (suite.status = .collecting && suite.scenarios.isEmpty)
    "restoration requires an empty collecting suite"
  let refusal := "restoration requires a primary and bounded scenarios"
  match suite.primary.success? with
  | none => refuse refusal
  | some primary =>
      demand (1 ≤ scenarios.length && scenarios.length ≤ 50) refusal
      let _ ← attempt
        (mergeScenarios service.host primary.artifact scenarios)
      store { suite with scenarios := scenarios, artifact := none }

/-- `code or f"scenario_{len(suite.scenarios) + 1}"` -/
def scenarioCode (suite : DiscoverySuite) (code : Option String) : String :=
  match code with
  | some given =>
      if given = "" then "scenario_" ++ toString (suite.scenarios.length + 1)
      else given
  | none => "scenario_" ++ toString (suite.scenarios.length + 1)

/-- `description or goal` -/
def scenarioDescription (description : Option String) (goal : String) :
    String :=
  match description with
  | some given => if given = "" then goal else given
  | none => goal

def addScenario (suiteId : String) (kind : ScenarioKind) (goal : String)
    (inputs : Fields) (code description : Option String)
    (maxSteps timeoutSeconds : Nat) : SuiteCode DiscoverySuite := do
  let suite ← get suiteId
  match suite.primary.success? with
  | none => refuse "a scenario requires a successful primary discovery"
  | some primary =>
      demand suite.isOpen "suite is no longer collecting scenarios"
      let scenarioCode := scenarioCode suite code
      let repeated := "scenario codes must be unique within a suite"
      demand (suite.scenarios.all (·.code ≠ scenarioCode)) repeated
      let result ← discover {
        goal := goal
        applicationFamily := suite.applicationFamily
        tenant := suite.tenant
        entryPoint := suite.entryPoint
        inputs, maxSteps, timeoutSeconds
        scenario := some ⟨primary.artifact, kind⟩ }
      let scenario ← attempt (DiscoveryScenario.make {
        kind, goal, result, inputs
        code := scenarioCode
        description := scenarioDescription description goal })
      demand (suite.scenarios.all (·.code ≠ scenario.code)) repeated
      store { suite with
        scenarios := suite.scenarios ++ [scenario]
        artifact := none
        status := .collecting }

def recordValidationFailure (suite : DiscoverySuite)
    (tenant reasonCode : String) : SuiteCode Unit := do
  let failure ← attempt
    (CompatibilityValidationFailure.make ⟨tenant, reasonCode⟩)
  let _ ← store { suite with
    validationFailures := suite.validationFailures ++ [failure] }

/-- A failed check is recorded in the suite and raised. -/
def demandRecorded (suite : DiscoverySuite) (tenant reasonCode : String)
    (check : Bool) (message : String) : SuiteCode Unit :=
  if check then
    pure ()
  else do
    recordValidationFailure suite tenant reasonCode
    refuse message

def validateScenarios (suite : DiscoverySuite) (artifact : CapabilityArtifact)
    (tenant : String) : List DiscoveryScenario → SuiteCode Unit
  | [] => pure ()
  | scenario :: rest => do
      let proof ← replay artifact tenant scenario.inputs
      demandRecorded suite tenant "scenario_replay_failed"
        (proof.verifies (some scenario))
        "scenario replay did not verify its declared disposition"
      validateScenarios suite artifact tenant rest

/-- `publish_next`; a handled failure keeps the artifact in the suite. -/
def publish (suite : DiscoverySuite) (artifact : CapabilityArtifact) :
    SuiteCode CapabilityVersionRecord :=
  tryCatch
    (@invoke SuiteSig Unit Raised _ (.publishNext artifact)
      PublicationAnswer.result)
    fun error =>
      if error.isPublicationFailure then do
        let _ ← store { suite with
          artifact := some artifact
          status := .validated }
        refuse "capability publication failed safely"
      else
        throw error

def finalize (suiteId : String) : SuiteCode DiscoverySuite := do
  let suite ← get suiteId
  demand suite.isOpen "suite is not ready for finalization"
  match suite.primary.success? with
  | none => refuse "cannot finalize an unsuccessful primary discovery"
  | some primary =>
      let artifact ← attempt (suite.candidate service.host primary)
      if artifact.capability.risk = .sensitive ∨
          artifact.capability.risk = .irreversible then
        let _ ← store { suite with
          artifact := some artifact
          status := .failed }
        refuse
          "sensitive and irreversible capability drafts cannot be published"
      else
        demand service.hasValidator
          "final deterministic replay validation is unavailable"
        let proof ← replay artifact suite.tenant suite.primaryInputs
        demandRecorded suite suite.tenant "primary_replay_failed"
          (proof.verifies none) "final deterministic replay did not pass"
        validateScenarios suite artifact suite.tenant suite.scenarios
        let published ← publish suite artifact
        store { suite with
          artifact := some published.artifact
          status := .published
          publishedVersion := some published.artifact.capability.version }

/-- The artifact with a proven tenant among its variants. -/
def withTenant (artifact : CapabilityArtifact) (tenant : String) :
    Except Raised CapabilityArtifact :=
  if tenant ∈ artifact.compatibility.supportedVariants then
    .ok artifact
  else do
    let extended := artifact.supporting tenant
    extended.validate service.host
    pure extended

def validate (suiteId tenant : String) (inputs : Fields) :
    SuiteCode DiscoverySuite := do
  let suite ← get suiteId
  demand suite.isOpen "suite is not accepting compatibility validations"
  match suite.primary.success? with
  | none => refuse "a scenario requires a successful primary discovery"
  | some primary =>
      service.assertApplicationTarget suite.applicationFamily tenant
        suite.entryPoint
      let artifact ← attempt (suite.candidate service.host primary)
      demand service.hasValidator
        "deterministic compatibility validation is unavailable"
      let proof ← replay artifact tenant inputs
      demandRecorded suite tenant "compatibility_replay_failed"
        (proof.verifies none) "compatibility replay did not pass"
      validateScenarios suite artifact tenant suite.scenarios
      let artifact ← attempt (service.withTenant artifact tenant)
      store { suite with artifact := some artifact, status := .validated }

end DiscoverySuiteService

/-- A request to the service. -/
inductive SuiteCall where
  | create (goal applicationFamily tenant entryPoint : String)
      (inputs : Fields) (maxSteps timeoutSeconds : Nat)
      (existingCapabilityId : Option String)
  | fromPublished (capabilityId version tenant : String) (inputs : Fields)
  | restoreScenarios (suiteId : String) (scenarios : List DiscoveryScenario)
  | addScenario (suiteId : String) (kind : ScenarioKind) (goal : String)
      (inputs : Fields) (code description : Option String)
      (maxSteps timeoutSeconds : Nat)
  | validate (suiteId tenant : String) (inputs : Fields)
  | finalize (suiteId : String)
deriving DecidableEq

namespace SuiteCall

def procedure (service : DiscoverySuiteService) :
    SuiteCall → SuiteCode DiscoverySuite
  | .create goal family tenant entryPoint inputs maxSteps timeout existing =>
      service.create goal family tenant entryPoint inputs maxSteps timeout
        existing
  | .fromPublished capabilityId version tenant inputs =>
      service.fromPublished capabilityId version tenant inputs
  | .restoreScenarios suiteId scenarios =>
      service.restoreScenarios suiteId scenarios
  | .addScenario suiteId kind goal inputs code description maxSteps timeout =>
      DiscoverySuiteService.addScenario suiteId kind goal inputs code
        description maxSteps timeout
  | .validate suiteId tenant inputs => service.validate suiteId tenant inputs
  | .finalize suiteId => service.finalize suiteId

def program (service : DiscoverySuiteService) (call : SuiteCall) :
    Program SuiteSig (Except Raised DiscoverySuite × Unit) :=
  (call.procedure service).run.run ()

end SuiteCall

/-- `InMemoryDiscoverySuiteRepository` -/
abbrev SuiteStore := Dict DiscoverySuite

/-- The repository stores and returns whole records, identifiers are new, and a
publication that returns has made a version readable that differs from the
artifact in its version and hash only.  The other operations answer
anything. -/
def suiteLaw : Law SuiteSig SuiteStore
  | _, _, before, ⟨.newId, suiteId⟩, after =>
      before.get? suiteId = none ∧ after = before
  | _, _, before, ⟨.get suiteId, found⟩, after =>
      found = before.get? suiteId ∧ after = before
  | _, _, before, ⟨.save suite, _⟩, after =>
      after = before.set suite.suiteId suite
  | _, _, before, ⟨.publishNext artifact, answer⟩, after =>
      (∀ record, answer.result = .ok record → answer.published = true ∧
        ∃ version contentHash,
          record.artifact = artifact.restamped version contentHash) ∧
      after = before
  | _, _, before, ⟨_, _⟩, after => after = before

end ReplayForge

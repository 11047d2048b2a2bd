import ReplayForge.Discovery.Models

/-!
# Discovery suites

A suite gathers a primary discovery, the scenarios discovered beside it and
the artifact that has been validated for them.  `make` runs the checks of a
constructor.
-/

namespace ReplayForge

structure DiscoveryScenario where
  kind : ScenarioKind
  goal : String
  code : String
  description : String
  result : DiscoveryResult
  inputs : Fields
deriving DecidableEq

def DiscoveryScenario.make (scenario : DiscoveryScenario) :
    Except Raised DiscoveryScenario := do
  require (Pattern.stableCode scenario.code)
    "discovery scenario code is invalid"
  require (!Text.isBlank scenario.goal && !Text.isBlank scenario.description)
    "discovery scenario requires a goal and description"
  pure scenario

/-- The disposition of a replay and the recoveries it completed. -/
structure ReplayValidation where
  result : RunResult
  completedRecoveries : List String := []
deriving DecidableEq

/-- The replay shows what it was run for: the happy path, or the declared
disposition of a scenario. -/
def ReplayValidation.verifies (proof : ReplayValidation) :
    Option DiscoveryScenario → Bool
  | none => proof.result.isSuccess && proof.completedRecoveries.isEmpty
  | some scenario =>
      match scenario.kind, proof.result with
      | .recovery, result => result.isSuccess &&
          decide (proof.completedRecoveries = [scenario.code])
      | .businessOutcome, .businessOutcome result =>
          decide (result.code = scenario.code) &&
            proof.completedRecoveries.isEmpty
      | .applicationFailure, .failure result =>
          decide (result.code = scenario.code) &&
            proof.completedRecoveries.isEmpty
      | _, _ => false

inductive DiscoverySuiteStatus where
  | collecting
  | validated
  | published
  | failed
deriving DecidableEq, Repr

structure CompatibilityValidationFailure where
  tenant : String
  reasonCode : String
deriving DecidableEq

def CompatibilityValidationFailure.make
    (failure : CompatibilityValidationFailure) :
    Except Raised CompatibilityValidationFailure := do
  require (Pattern.tenant failure.tenant)
    "validation failure tenant is invalid"
  require (Pattern.stableCode failure.reasonCode)
    "validation failure reason code is invalid"
  pure failure

inductive PrimarySource where
  | newDiscovery
  | publishedCapability
deriving DecidableEq, Repr

structure DiscoverySuite where
  suiteId : String
  goal : String
  applicationFamily : String
  tenant : String
  entryPoint : String
  primaryInputs : Fields
  primary : DiscoveryResult
  scenarios : List DiscoveryScenario := []
  artifact : Option CapabilityArtifact := none
  status : DiscoverySuiteStatus := .collecting
  publishedVersion : Option String := none
  validationFailures : List CompatibilityValidationFailure := []
  primarySource : PrimarySource := .newDiscovery
deriving DecidableEq

namespace DiscoverySuite

def draft (suite : DiscoverySuite) : Option CapabilityArtifact :=
  suite.primary.success?.map DiscoverySuccess.artifact

/-- The variants the primary artifact supports. -/
def primaryVariants (suite : DiscoverySuite) : List String :=
  (suite.draft.map fun artifact =>
    artifact.compatibility.supportedVariants).getD []

/-- Status `collecting` or `validated`. -/
def isOpen (suite : DiscoverySuite) : Bool :=
  suite.status = .collecting || suite.status = .validated

def validate (suite : DiscoverySuite) : Except Raised Unit := do
  require (isEntityId .suite suite.suiteId) "expected another identifier"
  require (!Text.isBlank suite.goal) "discovery suite goal cannot be empty"
  require (Pattern.family suite.applicationFamily &&
      Pattern.tenant suite.tenant && Pattern.family suite.entryPoint)
    "discovery suite routing identity is invalid"
  require (suite.scenarios.map DiscoveryScenario.code).Nodup
    "discovery scenario codes must be unique"
  let succeeded := suite.primary.success?.isSome
  require (suite.scenarios.isEmpty || succeeded)
    "discovery scenarios require a successful primary run"
  require (suite.status = .failed || succeeded)
    "active discovery suite requires a successful primary run"
  require (suite.status = .collecting || suite.status = .failed ||
      suite.artifact.isSome)
    "validated and published suites require an artifact"
  if suite.status = .published then
    require (suite.publishedVersion =
        suite.artifact.map fun artifact => artifact.capability.version)
      "published suite version must match its artifact"
  else
    require suite.publishedVersion.isNone
      "only a published suite may declare a published version"
  require ((suite.artifact.or suite.draft).all fun candidate =>
      candidate.capability.applicationFamily = suite.applicationFamily)
    "suite artifact belongs to a different application family"

def make (suite : DiscoverySuite) : Except Raised DiscoverySuite := do
  suite.validate
  pure suite

theorem make_eq_ok {suite made : DiscoverySuite} :
    suite.make = .ok made ↔ suite.validate = .ok () ∧ made = suite := by
  unfold make
  rw [check_bind_eq_ok]
  constructor
  · rintro ⟨valid, same⟩
    cases same
    exact ⟨valid, rfl⟩
  · rintro ⟨valid, rfl⟩
    exact ⟨valid, rfl⟩

end DiscoverySuite

end ReplayForge

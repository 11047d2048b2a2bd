import ReplayForge.Capabilities.Semantics

/-!
# A concrete artifact

A frame around the steps and branches a concrete run is about.
-/

namespace ReplayForge.Sample

def runId : String := "run_00000000000000000000000000000001"

def manifest : String := "evidence://run_00000000000000000000000000000001/m"

def target (text : String) : LocatorBundle where
  description := text
  candidates := [{ strategy := .text, value := some text }]

/-- A text field. -/
def textField : ValueSchema where
  type := .string
  description := "A customer identifier."
  dataClassification := .customerIdentifier
  persistence := .full
  required := []
  properties := []
  pattern := none
  format := none
  enum := []
  const := none
  minLength := none
  maxLength := none
  example_ := none

/-- The parts of an artifact a run is about. -/
structure Parts where
  steps : List Step
  recoveries : List Recovery := []
  outcomes : List BusinessOutcome := []
  failures : List ApplicationFailure := []

def artifact (parts : Parts) : CapabilityArtifact where
  capability := {
    id := "bank.pay"
    version := "1.0.0"
    name := "Pay"
    description := "Pay a bill."
    applicationFamily := "bank"
    surface := .web
    risk := .reversible }
  compatibility := {
    applicationFamily := "bank"
    baseVariant := "standard"
    supportedVariants := ["standard"]
    surfaceContract := "web.v1"
    entryPoint := "home"
    requiredLandmarks := [⟨.heading, "Bank"⟩] }
  inputs := { required := [], properties := [("customer", textField)] }
  outputs := { required := [], properties := [("customer", textField)] }
  steps := parts.steps
  recoveries := parts.recoveries
  outcomes := parts.outcomes
  failures := parts.failures
  checkpoint := ⟨"done", .atom (.route "/done")⟩
  policy := {
    allowedActionTypes := Action.knownKinds
    allowedEntryPoints := ["home"]
    maximumRisk := .reversible
    allowedRoutePatterns := ["/pay"] }
  provenance := {
    discoveryRunId := runId
    provider := "provider"
    model := "model"
    promptPolicyVersion := "1"
    surfaceAdapterVersion := "1"
    compilerVersion := "1"
    createdAt := { year := 2024, month := 1, day := 1 }
    targetFingerprint :=
      "0000000000000000000000000000000000000000000000000000000000000001"
    evidenceManifestKey := manifest }

/-- A click with a declared effect. -/
def click (id name : String) : Step where
  id := id
  name := name
  action := .click
  target := some (target name)
  postconditions := [.atom (.route "/paid")]
  risk := .reversible

end ReplayForge.Sample

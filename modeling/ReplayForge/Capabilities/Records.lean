import ReplayForge.Capabilities.Semantics

/-!
# Version records

A registry keeps artifacts under an identity and a version, and may publish a
draft under a version and a content hash of its own.
-/

namespace ReplayForge

def BusinessOutcome.sorted (outcome : BusinessOutcome) : BusinessOutcome :=
  { outcome with details := outcome.details.sorted }

def CapabilityPolicy.sorted (policy : CapabilityPolicy) : CapabilityPolicy :=
  { policy with
    allowedActionTypes := policy.allowedActionTypes.insertionSort (· ≤ ·)
    allowedEntryPoints := policy.allowedEntryPoints.insertionSort (· ≤ ·)
    allowedRoutePatterns := policy.allowedRoutePatterns.insertionSort (· ≤ ·)
    outputRedaction := policy.outputRedaction.sorted }

/-- The artifact with its sets and dictionaries in order.  Two artifacts are
equal when their sorted forms are. -/
def CapabilityArtifact.sorted (artifact : CapabilityArtifact) :
    CapabilityArtifact :=
  { artifact with
    inputs := artifact.inputs.sorted
    outputs := artifact.outputs.sorted
    outcomes := artifact.outcomes.map BusinessOutcome.sorted
    policy := artifact.policy.sorted }

structure CapabilityVersionRecord where
  artifact : CapabilityArtifact
  contentHash : String
  publishedAt : Timestamp
deriving DecidableEq

namespace CapabilityArtifact

/-- The artifact under another version, with the content hash it declares. -/
def restamped (artifact : CapabilityArtifact) (version : String)
    (contentHash : Option String) : CapabilityArtifact :=
  { artifact with
    capability := { artifact.capability with version := version }
    provenance := { artifact.provenance with
      artifactContentHash := contentHash } }

/-- The artifact declares no content hash. -/
def withoutHash (artifact : CapabilityArtifact) : CapabilityArtifact :=
  artifact.restamped artifact.capability.version none

/-- The artifact with one supported variant more, declaring no hash. -/
def supporting (artifact : CapabilityArtifact) (tenant : String) :
    CapabilityArtifact :=
  { artifact with
    compatibility := { artifact.compatibility with
      supportedVariants :=
        artifact.compatibility.supportedVariants ++ [tenant] }
    provenance := { artifact.provenance with artifactContentHash := none } }

/-- What is left of an artifact without its version, its content hash and its
supported variants. -/
def program (artifact : CapabilityArtifact) : CapabilityArtifact :=
  { artifact with
    capability := { artifact.capability with version := "" }
    compatibility := { artifact.compatibility with supportedVariants := [] }
    provenance := { artifact.provenance with artifactContentHash := none } }

theorem mem_supporting {artifact : CapabilityArtifact} {tenant other : String} :
    other ∈ (artifact.supporting tenant).compatibility.supportedVariants ↔
      other ∈ artifact.compatibility.supportedVariants ∨ other = tenant := by
  simp [supporting]

end CapabilityArtifact

end ReplayForge

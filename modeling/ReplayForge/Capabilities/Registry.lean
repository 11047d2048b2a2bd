import Mathlib.Data.List.AList
import Mathlib.Data.List.MinMax
import ReplayForge.Capabilities.Serialization
import ReplayForge.Capabilities.Versions

/-!
# The capability registry

What both registries compute, and the registry that keeps its records in
memory.  An operation of that registry holds its lock from the first access to
the records to the last, so that it is one function of them.
-/

namespace ReplayForge

/-- `(capability_id, version)` -/
abbrev CapabilityKey := String × String

def CapabilityArtifact.key (artifact : CapabilityArtifact) : CapabilityKey :=
  (artifact.capability.id, artifact.capability.version)

/-- The largest registered version and the version to publish next. -/
def nextVersion (proposed : SemanticVersion)
    (registered : List SemanticVersion) : SemanticVersion :=
  match registered.maximum with
  | ⊥ => proposed
  | (latest : SemanticVersion) => max proposed latest.nextPatch

/-- Records with their version numbers. -/
def withNumbers (records : List CapabilityVersionRecord) :
    Except Raised (List (SemanticVersion × CapabilityVersionRecord)) :=
  records.mapM fun record => do
    return (← semanticVersion record.artifact.capability.version, record)

/-- `sorted(records, key=..., reverse=True)` -/
def newestFirst (records : List CapabilityVersionRecord) :
    Except Raised (List CapabilityVersionRecord) := do
  let entries ← withNumbers records
  return (entries.insertionSort fun first second =>
    second.1 ≤ first.1).map Prod.snd

/-- `max(records, key=...)` -/
def newest (records : List CapabilityVersionRecord) :
    Except Raised CapabilityVersionRecord := do
  let entries ← withNumbers records
  match entries.argmax Prod.fst with
  | some (_, record) => .ok record
  | none => .error (.value "max() arg is an empty sequence")

/-- The records of a capability, newest first. -/
def orderedVersions (records : List CapabilityVersionRecord) :
    Except Raised (List CapabilityVersionRecord) :=
  if records.isEmpty then .error .capabilityNotFound else newestFirst records

def latestVersion (records : List CapabilityVersionRecord) :
    Except Raised CapabilityVersionRecord := do
  newest (← orderedVersions records)

namespace Serializers

variable (serializers : Serializers)

/-- The content hash, unless the artifact declares another one. -/
def declaredHash (artifact : CapabilityArtifact) : Except Raised String :=
  let contentHash := serializers.artifactContentHash artifact
  if artifact.provenance.artifactContentHash.all (· = contentHash) then
    .ok contentHash
  else
    .error (.capabilityIntegrity
      "artifact provenance hash does not match canonical artifact content")

/-- The artifact under another version, declaring its content hash. -/
def stamped (artifact : CapabilityArtifact) (version : String) :
    CapabilityArtifact :=
  artifact.restamped version
    (some (serializers.artifactContentHash (artifact.restamped version none)))

end Serializers

structure InMemoryCapabilityRegistry where
  records : AList fun _ : CapabilityKey => CapabilityVersionRecord := ∅

namespace InMemoryCapabilityRegistry

variable (serializers : Serializers) (registry : InMemoryCapabilityRegistry)

/-- The records of one capability. -/
def recordsOf (capabilityId : String) : List CapabilityVersionRecord :=
  registry.records.entries.filterMap fun entry =>
    if entry.1.1 = capabilityId then some entry.2 else none

def registeredVersions (capabilityId : String) : List String :=
  registry.records.keys.filterMap fun key =>
    if key.1 = capabilityId then some key.2 else none

def publish (now : Timestamp) (artifact : CapabilityArtifact) :
    Except Raised (CapabilityVersionRecord × InMemoryCapabilityRegistry) := do
  let contentHash ← serializers.declaredHash artifact
  match registry.records.lookup artifact.key with
  | some existing =>
      if existing.contentHash ≠ contentHash then .error .capabilityConflict
      else .ok (existing, registry)
  | none =>
      let record := { artifact, contentHash, publishedAt := now }
      .ok (record, ⟨registry.records.insert artifact.key record⟩)

def publishNext (now : Timestamp) (artifact : CapabilityArtifact) :
    Except Raised (CapabilityVersionRecord × InMemoryCapabilityRegistry) := do
  let registered ←
    (registry.registeredVersions artifact.capability.id).mapM semanticVersion
  let proposed ← semanticVersion artifact.capability.version
  let version ← (nextVersion proposed registered).text
  let candidate := serializers.stamped artifact version
  let record := {
    artifact := candidate
    contentHash := serializers.artifactContentHash
      (artifact.restamped version none)
    publishedAt := now }
  .ok (record, ⟨registry.records.insert candidate.key record⟩)

def get (capabilityId version : String) :
    Except Raised CapabilityVersionRecord :=
  match registry.records.lookup (capabilityId, version) with
  | some record => .ok record
  | none => .error .capabilityNotFound

def versions (capabilityId : String) :
    Except Raised (List CapabilityVersionRecord) :=
  orderedVersions (registry.recordsOf capabilityId)

def latest (capabilityId : String) : Except Raised CapabilityVersionRecord :=
  latestVersion (registry.recordsOf capabilityId)

end InMemoryCapabilityRegistry

end ReplayForge

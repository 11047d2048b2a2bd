import ReplayForge.Shared.Identifiers
import ReplayForge.Shared.IsoFormat

/-!
# Evidence

The values that cross the persistence boundary: payloads, the records a store
returns for them, and the manifest that lists records.
-/

namespace ReplayForge

def maximumManifestBytes : Nat := 2000000
def maximumEventBytes : Nat := 2000000
def maximumAttachmentBytes : Nat := 20000000

inductive EvidenceMediaType where
  | json
  | png
  | zip
deriving DecidableEq, Repr

def EvidenceMediaType.value : EvidenceMediaType → String
  | .json => "application/json"
  | .png => "image/png"
  | .zip => "application/zip"

inductive RetentionClass where
  | operational
  | failure
  | humanAudit
  | providerMetadata
deriving DecidableEq, Repr

def RetentionClass.value : RetentionClass → String
  | .operational => "operational"
  | .failure => "failure"
  | .humanAudit => "human_audit"
  | .providerMetadata => "provider_metadata"

/-- `b"\x89PNG\r\n\x1a\n"` -/
def pngMagic : Bytes :=
  [0x89, 0x50, 0x4E, 0x47, 0x0D, 0x0A, 0x1A, 0x0A]

/-- `b"PK"` -/
def zipMagic : Bytes :=
  [0x50, 0x4B]

/-- Directives are unique and none is empty. -/
def directivesValid (directives : List String) : Prop :=
  directives.Nodup ∧ "" ∉ directives

instance (directives : List String) : Decidable (directivesValid directives) :=
  inferInstanceAs (Decidable (_ ∧ _))

/-- A payload for the evidence store: sanitized evidence or a raw screenshot. -/
structure EvidencePayload where
  content : Bytes
  mediaType : EvidenceMediaType
  redactionDirectives : List String
  filled : content ≠ []
  directives : directivesValid redactionDirectives
deriving DecidableEq

/-- `SanitizedEvidence(content, media_type, redaction_directives)` -/
def SanitizedEvidence.make (content : Bytes) (mediaType : EvidenceMediaType)
    (redactionDirectives : List String) : Except Raised EvidencePayload :=
  if filled : content = [] then
    .error (.value "sanitized evidence cannot be empty")
  else if unique : redactionDirectives.Nodup then
    if named : "" ∈ redactionDirectives then
      .error (.value "redaction directives cannot be empty")
    else
      .ok
        { content, mediaType, redactionDirectives, filled
          directives := ⟨unique, named⟩ }
  else
    .error (.value "redaction directives must be unique")

/-- `RawScreenshot(content)` -/
def RawScreenshot.make (content : Bytes) : Except Raised EvidencePayload :=
  if magic : pngMagic.isPrefixOf content then
    if content.length ≤ maximumAttachmentBytes then
      .ok
        { content
          mediaType := .png
          redactionDirectives := ["unredacted:raw-screenshot"]
          filled := by rintro rfl; simp [pngMagic] at magic
          directives := by decide }
    else
      .error (.value "raw screenshot exceeds the storage limit")
  else
    .error (.value "raw screenshot must contain PNG content")

structure EvidenceRecord where
  id : String
  key : String
  mediaType : EvidenceMediaType
  sizeBytes : Nat
  contentHash : String
  retentionClass : RetentionClass
  redactionDirectives : List String
  createdAt : Timestamp
deriving DecidableEq

/-- `ManifestEntry` of a record, whose fields are those of the record. -/
structure ManifestEntry where
  contentHash : String
  createdAt : Timestamp
  evidenceId : String
  key : String
  mediaType : EvidenceMediaType
  redactionDirectives : List String
  retentionClass : RetentionClass
  sizeBytes : Nat
deriving DecidableEq

/-- `^evidence://[^\s]+$` -/
def isEvidenceKey (key : String) : Bool :=
  Text.hasPrefix key "evidence://" &&
    (let name := key.toList.drop "evidence://".length
     !name.isEmpty && name.all fun char => !Text.isSpace char)

def ManifestEntry.make (entry : ManifestEntry) :
    Except Raised ManifestEntry := do
  require (Pattern.hexAfter "sha256:" 64 entry.contentHash) "content_hash"
  require (isEvidenceKey entry.key) "key"
  require (0 < entry.sizeBytes && entry.sizeBytes ≤ maximumAttachmentBytes)
    "size_bytes"
  require (isEntityId .evidence entry.evidenceId) "evidence_id"
  require entry.createdAt.hasOffset "evidence timestamp must include an offset"
  require (directivesValid entry.redactionDirectives)
    "redaction directives must be unique non-empty values"
  pure entry

structure RunEvidenceManifest where
  runId : String
  generatedAt : Timestamp
  events : List ManifestEntry
  attachments : List ManifestEntry := []
  terminalResult : Option ManifestEntry := none
deriving DecidableEq

namespace RunEvidenceManifest

def entries (manifest : RunEvidenceManifest) : List ManifestEntry :=
  manifest.events ++ manifest.attachments ++ manifest.terminalResult.toList

/-- The start of every evidence key of a run. -/
def keyStart (runId : String) : String :=
  "evidence://" ++ runId ++ "/"

def make (manifest : RunEvidenceManifest) :
    Except Raised RunEvidenceManifest := do
  require (1 ≤ manifest.events.length && manifest.events.length ≤ 10000)
    "events"
  require (manifest.attachments.length ≤ 100) "attachments"
  require (isEntityId .run manifest.runId) "run_id"
  require manifest.generatedAt.hasOffset
    "manifest timestamp must include an offset"
  require ((manifest.entries.map ManifestEntry.key).Nodup)
    "evidence manifest keys must be unique"
  require ((manifest.entries.map ManifestEntry.evidenceId).Nodup)
    "evidence manifest identities must be unique"
  require (manifest.entries.all fun entry =>
    Text.hasPrefix entry.key (keyStart manifest.runId))
    "evidence manifest entries must belong to the manifest run"
  require (manifest.events.all fun entry => entry.mediaType = .json)
    "run events must contain structured JSON evidence"
  require (manifest.attachments.all fun entry => entry.mediaType ≠ .json)
    "run attachments cannot contain structured event evidence"
  require (manifest.terminalResult.all fun entry => entry.mediaType = .json)
    "terminal result evidence must contain structured JSON"
  pure manifest

end RunEvidenceManifest

end ReplayForge

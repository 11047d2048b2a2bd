import ReplayForge.Capabilities.ArtifactCodec
import ReplayForge.Capabilities.Records
import ReplayForge.Shared.IsoFormat
import ReplayForge.Shared.Yaml

/-!
# Parsing, canonicalization and hashing of artifacts

The YAML library, the JSON encoder, the scalar codecs of the model library and
the digest are gathered in one record.
-/

namespace ReplayForge

structure Serializers where
  /-- How the model library reads scalars. -/
  reader : Reader
  /-- How it writes a timestamp into JSON. -/
  stamp : Timestamp → String
  /-- `yaml.safe_dump(payload, sort_keys=False, allow_unicode=True)` -/
  safeDump : Json → String
  /-- The node tree of a text; none when it is not valid YAML. -/
  compose : String → Option YamlNode
  /-- `json.dumps` of a payload whose keys are sorted -/
  encode : Json → String
  /-- `json.dumps` of a set member -/
  encodeMember : Json → String
  /-- `"sha256:" + hashlib.sha256(content).hexdigest()` -/
  digest : String → String

/-- `not value` -/
def Json.isEmpty : Json → Bool
  | .null => true
  | .bool value => !value
  | .int value => value = 0
  | .real value => value = 0
  | .str value => value.isEmpty
  | .arr items => items.isEmpty
  | .obj fields => fields.isEmpty

namespace Serializers

variable (serializers : Serializers)

/-- `model_dump(mode="json", exclude_none=True)` of a dumped model -/
def jsonMode : Rendering where
  stamp := serializers.stamp
  members names := names
  members_perm _ := .refl _
  sorts := false
  prunes := []

/-- `CapabilityArtifact.model_validate` -/
def modelValidate (host : Host) (raw : Json) :
    Except Raised CapabilityArtifact :=
  match (CapabilityArtifact.codec false).load serializers.reader raw with
  | none => .error (.value "artifact does not fit the model")
  | some artifact => do
      artifact.validate host
      return artifact

def loadArtifactYaml (host : Host) (content : String) :
    Except Raised CapabilityArtifact :=
  match (serializers.compose content).bind YamlNode.construct with
  | none => .error (.value "artifact is not valid safe YAML")
  | some (.obj fields) => serializers.modelValidate host (.obj fields)
  | some _ => .error (.value "artifact root must be a mapping")

/-- `artifact.model_dump(mode="json", exclude_none=True)` -/
def jsonPayload (artifact : CapabilityArtifact) : Json :=
  serializers.jsonMode.render ((CapabilityArtifact.codec false).dump artifact)

def dumpArtifactYaml (artifact : CapabilityArtifact) : String :=
  serializers.safeDump (serializers.jsonPayload artifact)

/-- `sorted(normalized, key=...)` on the members of a set -/
def sortMembers (members : List String) : List String :=
  members.insertionSort fun first second =>
    serializers.encodeMember (.str first) ≤
      serializers.encodeMember (.str second)

mutual

/-- `_canonicalize` -/
def canonicalize : Tree → Json
  | .bool value => .bool value
  | .int value => .int value
  | .real value => .real value
  | .str value => .str value
  | .enum value => .str value
  | .stamp value => .str value.canonical
  | .arr items => .arr (canonicalizeAll items)
  | .set members => .arr ((serializers.sortMembers members).map .str)
  | .obj fields => .obj (canonicalizeFields fields)

def canonicalizeAll : List Tree → List Json
  | [] => []
  | item :: rest => canonicalize item :: canonicalizeAll rest

def canonicalizeFields : List (String × Tree) → Dict Json
  | [] => []
  | (name, tree) :: rest => (name, canonicalize tree) :: canonicalizeFields rest

end

end Serializers

namespace Json

/-- `if not value.get(name): value.pop(name, None)` -/
def popEmpty (name : String) (fields : Dict Json) : Dict Json :=
  if (fields.get? name).all isEmpty then fields.erase name else fields

/-- `if value.get(name) is False: value.pop(name, None)` -/
def popFalse (name : String) (fields : Dict Json) : Dict Json :=
  if fields.get? name = some (.bool false) then fields.erase name else fields

/-- Change the value of a field in place. -/
def inField (name : String) (change : Json → Json) (fields : Dict Json) :
    Dict Json :=
  fields.map fun entry =>
    if entry.1 = name then (entry.1, change entry.2) else entry

/-- Change a mapping in place. -/
def inObject (change : Dict Json → Dict Json) : Json → Json
  | .obj fields => .obj (change fields)
  | json => json

/-- Change every item of a list in place. -/
def inItems (change : Json → Json) : Json → Json
  | .arr items => .arr (items.map change)
  | json => json

mutual

/-- `_remove_empty_visual_candidates`, for any name. -/
def pruneEmpty (name : String) : Json → Json
  | .arr items => .arr (pruneAll name items)
  | .obj fields => .obj (pruneFields name fields)
  | json => json

def pruneAll (name : String) : List Json → List Json
  | [] => []
  | item :: rest => pruneEmpty name item :: pruneAll name rest

def pruneFields (name : String) : List (String × Json) → Dict Json
  | [] => []
  | (key, json) :: rest =>
      if key = name ∧ json.isEmpty then pruneFields name rest
      else (key, pruneEmpty name json) :: pruneFields name rest

end

mutual

/-- The keys of every object in order, as the encoder writes them. -/
def sortKeys : Json → Json
  | .arr items => .arr (sortKeysAll items)
  | .obj fields => .obj (Dict.sorted (sortKeysFields fields))
  | json => json

def sortKeysAll : List Json → List Json
  | [] => []
  | item :: rest => sortKeys item :: sortKeysAll rest

def sortKeysFields : List (String × Json) → Dict Json
  | [] => []
  | (key, json) :: rest => (key, sortKeys json) :: sortKeysFields rest

end

end Json

/-- The steps of a list without empty failure references. -/
def trimSteps : Json → Json :=
  Json.inItems (Json.inObject (Json.popEmpty "failure_refs"))

/-- `_remove_hash_neutral_schema_defaults` -/
def removeHashNeutralSchemaDefaults (payload : Dict Json) : Json :=
  let payload := Json.popEmpty "failures" payload
  let payload := Json.inField "compatibility"
    (Json.inObject (Json.popFalse "rendered_surface")) payload
  let payload := Json.inField "policy"
    (Json.inObject (Json.popEmpty "allowed_route_patterns")) payload
  let payload := Json.inField "steps" trimSteps payload
  let payload := Json.inField "recoveries"
    (Json.inItems (Json.inObject (Json.inField "steps" trimSteps))) payload
  Json.pruneEmpty "visual_candidates" (.obj payload)

namespace Serializers

variable (serializers : Serializers)

/-- The payload of the canonical text, before it is encoded. -/
def canonicalPayload (artifact : CapabilityArtifact) : Json :=
  match serializers.canonicalize
    ((CapabilityArtifact.codec false).dump artifact) with
  | .obj payload =>
      Json.inObject
        (Json.inField "provenance"
          (Json.inObject (Dict.erase · "artifact_content_hash")))
        (removeHashNeutralSchemaDefaults payload)
  | json => json

def canonicalArtifactJson (artifact : CapabilityArtifact) : String :=
  serializers.encode (serializers.canonicalPayload artifact).sortKeys

def artifactContentHash (artifact : CapabilityArtifact) : String :=
  serializers.digest (serializers.canonicalArtifactJson artifact)

end Serializers

end ReplayForge

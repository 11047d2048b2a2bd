import ReplayForge.Evidence.Models
import ReplayForge.Policy.Types
import Mathlib.Data.List.Sort

/-!
# Structured redaction

A mapping is redacted by the classification of each path; what is left is
scanned for secrets before it may be stored.
-/

namespace ReplayForge

/-- What the libraries compute for the evidence code. -/
structure EvidenceEncoders where
  /-- How the model library writes a timestamp into JSON. -/
  stamp : Timestamp → String
  /-- `json.dumps(cleaned, sort_keys=True, ensure_ascii=False).encode()`, with
  compact separators -/
  compact : Json → Bytes
  /-- `json.dumps(payload, sort_keys=True).encode()`, with compact separators -/
  ascii : Json → Bytes
  /-- `json.dumps(payload, indent=2, sort_keys=True).encode()` -/
  indented : Json → Bytes
  /-- `hmac.new(key, message, hashlib.sha256).hexdigest()` -/
  hmacSha256 : Bytes → Bytes → String
  /-- One of the token patterns is found in the text. -/
  tokenFound : Bytes → Bool
  /-- `secret in text`, for a configured secret -/
  occursIn : String → Bytes → Bool
  /-- The archive of one stored entry, `diagnostic.json`. -/
  zipped : Bytes → Bytes

structure StructuredRedactor where
  configuredSecrets : List String := []
  strict : Bool := true
  minimumSecretLength : Nat := 8
  pseudonymKey : Bytes

namespace StructuredRedactor

def forbiddenKeyFragments : List String :=
  ["authorization", "cookie", "password", "passwd", "api_key", "token",
    "secret"]

/-- A letter or an underscore and at most 255 letters, digits, underscores,
dots, slashes and hyphens. -/
def trustedKey (key : String) : Bool :=
  match key.toList with
  | [] => false
  | head :: rest =>
      (head.isAlpha || head = '_') && rest.length ≤ 255 &&
        rest.all fun char => char.isAlphanum || char ∈ ['_', '.', '/', '-']

/-- Trusted keys are ASCII, where `casefold` is lowering. -/
def normalizedKey (key : String) : String :=
  String.ofList (key.toList.map fun char =>
    if char = '-' then '_' else char.toLower)

def forbiddenKey (key : String) : Bool :=
  forbiddenKeyFragments.any (Text.containsText (normalizedKey key))

/-- The path of a key below a path, which is empty at the top. -/
def childPath (parent key : String) : String :=
  if parent = "" then key else parent ++ "." ++ key

def redactSequenceItem : Json → Json
  | .arr _ | .obj _ => .str "[REDACTED_COMPLEX_VALUE]"
  | value => value

variable (encoders : EvidenceEncoders) (redactor : StructuredRedactor)

/-- `_tokenize` -/
def tokenize (value : Json) (runSalt : String) : String :=
  let message := encoders.ascii (.arr [.str runSalt, value])
  "customer_" ++ String.ofList
    ((encoders.hmacSha256 redactor.pseudonymKey message).toList.take 32)

/-- What becomes of an entry. -/
inductive Redaction where
  | drop (directive : String)
  | replace (text directive : String)
  | keep
deriving DecidableEq

def redaction (classifications : Dict DataClassification) (runSalt : String)
    (parent key : String) (item : Json) : Redaction :=
  let path := childPath parent key
  if !trustedKey key then .drop "drop:untrusted-key"
  else if forbiddenKey key then .drop ("drop:" ++ path)
  else
    match classifications.get? path with
    | some .credential | some .secret | some .personal =>
        .drop ("drop:" ++ path)
    | some .customerIdentifier =>
        .replace (redactor.tokenize encoders item runSalt)
          ("tokenize:" ++ path)
    | some .financial => .replace "[REDACTED_FINANCIAL]" ("redact:" ++ path)
    | _ => .keep

mutual

/-- `_redact_mapping`: the cleaned mapping and the directives it adds. -/
def redactMapping (classifications : Dict DataClassification)
    (runSalt parent : String) :
    List (String × Json) → List (String × Json) × List String
  | [] => ([], [])
  | (key, item) :: rest =>
      let (cleaned, directives) :=
        redactMapping classifications runSalt parent rest
      match redactor.redaction encoders classifications runSalt parent key
        item with
      | .drop directive => (cleaned, directive :: directives)
      | .replace text directive =>
          ((key, .str text) :: cleaned, directive :: directives)
      | .keep =>
          let (value, nested) :=
            redactValue classifications runSalt (childPath parent key) item
          ((key, value) :: cleaned, nested ++ directives)

def redactValue (classifications : Dict DataClassification)
    (runSalt path : String) : Json → Json × List String
  | .obj fields =>
      let (cleaned, directives) :=
        redactMapping classifications runSalt path fields
      (.obj cleaned, directives)
  | .arr items => (.arr (items.map redactSequenceItem), [])
  | value => (value, [])

end

/-- `_scan` -/
def scan (content : Bytes) : Except Raised Unit :=
  let found := encoders.tokenFound content ||
    redactor.configuredSecrets.any fun secret =>
      redactor.minimumSecretLength ≤ secret.length &&
        encoders.occursIn secret content
  refuseIf (found && redactor.strict)
    (.value "evidence contains forbidden secret-like content")

/-- `tuple(sorted(directives))` of a set -/
def sortedDirectives (directives : List String) : List String :=
  directives.dedup.insertionSort (· ≤ ·)

def sanitizeJson (payload : Fields)
    (classifications : Dict DataClassification) (runSalt : String) :
    Except Raised EvidencePayload := do
  let (cleaned, directives) :=
    redactor.redactMapping encoders classifications runSalt "" payload
  let content := encoders.compact (.obj cleaned)
  redactor.scan encoders content
  SanitizedEvidence.make content .json (sortedDirectives directives)

end StructuredRedactor

end ReplayForge

import ReplayForge.Evidence.Redaction

/-!
# The retention schema of the journal

Unknown fields and operational values of a wrong shape are personal by
default.
-/

namespace ReplayForge

namespace RunPrivacy

/-- `[a-z][a-z0-9_.-]{0,127}` -/
def identifier : String → Bool := Pattern.ident Pattern.address 0 (some 127)

def codeFields : List String :=
  ["code", "reason", "error_code", "recovery_id", "resume_at", "output",
    "input_binding", "output_binding", "transform", "source_step_id"]

def countFields : List String :=
  ["attempt", "uses", "use", "lease_version", "frame_depth", "client_sequence",
    "source_frame_sequence", "viewport_height", "viewport_width", "x", "y",
    "character_count", "after_step_count", "step_ordinal", "expected_count",
    "observed_count", "max_attempts"]

def conditionKinds : List String :=
  ["route", "text", "visual_text", "rendered_text", "input_text", "element",
    "output_valid", "output_equals", "identity_matches", "all", "any", "not",
    "unknown"]

def enumFields : Dict (List String) :=
  [("phase", ["before_dispatch", "after_dispatch", "completion", "unknown"]),
    ("dispatch_state", ["not_attempted", "attempted", "unknown"]),
    ("condition_kind", conditionKinds),
    ("decision", ["allow", "deny", "require_human_approval"]),
    ("disposition", ["continue", "business_outcome", "retry_step"]),
    ("proposal_kind",
      ["act", "complete", "escalate", "recorded_action", "branch"]),
    ("action_type",
      ["click", "type", "select", "press_keys", "scroll", "wait_for", "assert",
        "extract", "checkpoint", "navigate", "switch_context", "unknown"]),
    ("declared_risk", ["read_only", "reversible", "sensitive", "irreversible"]),
    ("evidence_frame", ["captured", "unavailable", "not_applicable"]),
    ("input_type", ["pointer", "key", "text"]),
    ("key",
      ["Enter", "Tab", "Shift+Tab", "Escape", "Backspace", "Delete", "ArrowUp",
        "ArrowDown", "ArrowLeft", "ArrowRight", "Home", "End"])]

def flagFields : List String :=
  ["effect_absent", "target_present", "retry_error_allowed",
    "recovery_checked"]

/-- The values of the locator strategies and the names of the visual ones. -/
def strategies : List String :=
  ["role_name", "label", "text", "relative_text", "placeholder", "title", "css",
    "accessibility_path", "image_anchor", "coordinates", "ocr_text",
    "ocr_relative", "rendered_text", "rendered_labeled_control",
    "rendered_field_value", "rendered_group_image", "input_text"]

def isText (accepts : String → Bool) : Json → Bool
  | .str text => accepts text
  | _ => false

def isCount : Json → Bool
  | .int value => 0 ≤ value && value ≤ 1000000
  | _ => false

def isFlag : Json → Bool
  | .bool _ => true
  | _ => false

def isTextList (accepts : String → Bool) : Json → Bool
  | .arr items => items.all (isText accepts)
  | _ => false

/-- An entry of the details of an event that may be retained. -/
def safeDetail (key : String) (value : Json) : Bool :=
  (key ∈ codeFields && isText identifier value) ||
  (key ∈ countFields && isCount value) ||
  (key ∈ flagFields && isFlag value) ||
  (enumFields.get? key).any (fun names => isText (· ∈ names) value) ||
  (key = "expected_condition_kind" && isText (· ∈ conditionKinds) value) ||
  ((key = "session_id" || key = "intervention_id") &&
    isText (fun text =>
      isEntityId .session text || isEntityId .intervention text) value) ||
  (key = "locator_strategies" && isTextList (· ∈ strategies) value)

end RunPrivacy

open RunPrivacy

/-- `event_detail_classifications` -/
def eventDetailClassifications (details : Fields) : Dict DataClassification :=
  details.map fun (key, value) =>
    (key,
      if key = "operator_id" then .customerIdentifier
      else if safeDetail key value then .operational
      else .personal)

def operationalFields : List String :=
  ["status", "run_id", "code", "recoverable", "step_id", "evidence_manifest",
    "capability", "checkpoint", "artifact_content_hash", "diagnostic_trace"]

mutual

/-- `classify_outputs`: the entries it adds, in order. -/
def classifyOutputs (declared : Dict DataClassification) (path : String) :
    Json → List (String × DataClassification)
  | .obj fields =>
      match declared.get? path with
      | some classification => [(path, classification)]
      | none => classifyEntries declared path fields
  | _ => [(path, (declared.get? path).getD .personal)]

def classifyEntries (declared : Dict DataClassification) (path : String) :
    List (String × Json) → List (String × DataClassification)
  | [] => []
  | (key, item) :: rest =>
      classifyOutputs declared (path ++ "." ++ key) item ++
        classifyEntries declared path rest

end

def DataClassification.isOpen : DataClassification → Bool
  | .operational | .publicData => true
  | _ => false

/-- `terminal_classifications` -/
def terminalClassifications (result : Fields)
    (declared : Dict DataClassification) : Dict DataClassification :=
  let fields := (result.filter fun entry => entry.1 ≠ "outputs").map fun entry =>
    (entry.1,
      if entry.1 ∈ operationalFields then DataClassification.operational
      else .personal)
  let outputs :=
    match result.get? "outputs" with
    | none => []
    | some value => classifyOutputs declared "outputs" value
  let forced := declared.filter fun entry =>
    Text.hasPrefix entry.1 "outputs." || !entry.2.isOpen
  (fields ++ outputs ++ forced).foldl
    (fun (held : Dict DataClassification) entry => held.set entry.1 entry.2) []

end ReplayForge

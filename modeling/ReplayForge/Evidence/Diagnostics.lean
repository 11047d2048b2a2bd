import ReplayForge.Capabilities.Artifact

/-!
# Execution diagnostics

Value-free diagnostics of one execution failure.
-/

namespace ReplayForge

inductive DiagnosticPhase where
  | beforeDispatch
  | afterDispatch
  | completion
  | unknown
deriving DecidableEq, Repr

def DiagnosticPhase.value : DiagnosticPhase → String
  | .beforeDispatch => "before_dispatch"
  | .afterDispatch => "after_dispatch"
  | .completion => "completion"
  | .unknown => "unknown"

inductive DispatchState where
  | notAttempted
  | attempted
  | unknown
deriving DecidableEq, Repr

def DispatchState.value : DispatchState → String
  | .notAttempted => "not_attempted"
  | .attempted => "attempted"
  | .unknown => "unknown"

structure ExecutionDiagnostic where
  phase : DiagnosticPhase := .unknown
  code : String
  actionType : String := "unknown"
  stepOrdinal : Option Nat := none
  expectedConditionKind : String := "unknown"
  expectedCount : Option Int := none
  observedCount : Option Int := none
  attempt : Nat := 1
  maxAttempts : Nat := 1
  retryErrorAllowed : Bool := false
  recoveryChecked : Bool := false
  dispatchState : DispatchState := .unknown
  effectAbsent : Option Bool := none
deriving DecidableEq

namespace ExecutionDiagnostic

def codes : List String :=
  ["target_absent", "target_ambiguous", "action_timeout", "action_failed",
    "action_condition_mismatch", "step_precondition_mismatch",
    "postcondition_mismatch", "checkpoint_mismatch", "policy_blocked",
    "invalid_input", "incompatible_tenant",
    "sensitive_action_requires_approval", "unexpected_dialog",
    "control_lease_expired", "control_lease_conflict",
    "resume_checkpoint_missing", "other"]

def actions : List String :=
  ["click", "type", "select", "extract", "assert", "wait_for", "checkpoint",
    "navigate", "switch_context", "press_keys", "scroll", "unknown"]

def conditions : List String :=
  ["route", "text", "visual_text", "rendered_text", "input_text", "element",
    "output_valid", "output_equals", "identity_matches", "all", "any", "not",
    "unknown"]

private def inRange (value : Option Int) (low high : Int) : Bool :=
  value.all fun number => low ≤ number && number ≤ high

def make (diagnostic : ExecutionDiagnostic) :
    Except Raised ExecutionDiagnostic := do
  require (diagnostic.stepOrdinal.all fun ordinal =>
    1 ≤ ordinal && ordinal ≤ 10000) "step_ordinal"
  require (inRange diagnostic.expectedCount 0 1000000) "expected_count"
  require (inRange diagnostic.observedCount 0 1000000) "observed_count"
  require (1 ≤ diagnostic.attempt && diagnostic.attempt ≤ 5) "attempt"
  require (1 ≤ diagnostic.maxAttempts && diagnostic.maxAttempts ≤ 5)
    "max_attempts"
  pure diagnostic

private def optional (name : String) (value : Option Json) : Fields :=
  match value with
  | none => []
  | some json => [(name, json)]

private def bounded (value fallback : String) (allowed : List String) : Json :=
  .str (if value ∈ allowed then value else fallback)

/-- Codes, actions and condition kinds outside the known sets are not
retained. -/
def safePayload (diagnostic : ExecutionDiagnostic) : Fields :=
  [("phase", .str diagnostic.phase.value),
    ("code", bounded diagnostic.code "other" codes),
    ("action_type", bounded diagnostic.actionType "unknown" actions)] ++
  optional "step_ordinal" (diagnostic.stepOrdinal.map fun ordinal =>
    .int ordinal) ++
  [("expected_condition_kind",
    bounded diagnostic.expectedConditionKind "unknown" conditions)] ++
  optional "expected_count" (diagnostic.expectedCount.map .int) ++
  optional "observed_count" (diagnostic.observedCount.map .int) ++
  [("attempt", .int diagnostic.attempt),
    ("max_attempts", .int diagnostic.maxAttempts),
    ("retry_error_allowed", .bool diagnostic.retryErrorAllowed),
    ("recovery_checked", .bool diagnostic.recoveryChecked),
    ("dispatch_state", .str diagnostic.dispatchState.value)] ++
  optional "effect_absent" (diagnostic.effectAbsent.map .bool)

end ExecutionDiagnostic

/-- `bounded_count` applied to the `count` entry of an optional object. -/
def boundedCount (details : Option Fields) : Option Int :=
  match details.bind (·.get? "count") with
  | some (.int value) =>
      if 0 ≤ value ∧ value ≤ 1000000 then some value else none
  | _ => none

end ReplayForge

import ReplayForge.Evidence.Diagnostics
import ReplayForge.Evidence.Redaction

/-!
# Diagnostic archives

One bounded, scanned snapshot of the last diagnostic of a run.
-/

namespace ReplayForge

namespace ExecutionDiagnostic

def fieldNames : List String :=
  ["phase", "code", "action_type", "step_ordinal", "expected_condition_kind",
    "expected_count", "observed_count", "attempt", "max_attempts",
    "retry_error_allowed", "recovery_checked", "dispatch_state",
    "effect_absent"]

section Strict

variable {α : Type} (details : Fields) (name : String)

/-- A field read strictly, with its default when it is left out. -/
def strict (read : Json → Option α) (default : Except Raised α) :
    Except Raised α :=
  match details.get? name with
  | none => default
  | some value =>
      match read value with
      | some parsed => .ok parsed
      | none => .error (.value name)

def readText : Json → Option String
  | .str text => some text
  | _ => none

def readInt : Json → Option Int
  | .int value => some value
  | _ => none

def readNat : Json → Option Nat
  | .int (.ofNat value) => some value
  | _ => none

def readBool : Json → Option Bool
  | .bool value => some value
  | _ => none

def orNull (read : Json → Option α) : Json → Option (Option α)
  | .null => some none
  | value => (read value).map some

def readPhase (value : Json) : Option DiagnosticPhase :=
  [DiagnosticPhase.beforeDispatch, .afterDispatch, .completion, .unknown].find?
    fun phase => value = .str phase.value

def readDispatchState (value : Json) : Option DispatchState :=
  [DispatchState.notAttempted, .attempted, .unknown].find?
    fun state => value = .str state.value

end Strict

/-- `ExecutionDiagnostic.model_validate(details)` -/
def modelValidate (details : Fields) : Except Raised ExecutionDiagnostic := do
  require (details.all fun entry => entry.1 ∈ fieldNames) "extra_forbidden"
  let diagnostic : ExecutionDiagnostic :=
    { phase := ← strict details "phase" readPhase (.ok .unknown)
      code := ← strict details "code" readText (.error (.value "code"))
      actionType := ← strict details "action_type" readText (.ok "unknown")
      stepOrdinal :=
        ← strict details "step_ordinal" (orNull readNat) (.ok none)
      expectedConditionKind :=
        ← strict details "expected_condition_kind" readText (.ok "unknown")
      expectedCount :=
        ← strict details "expected_count" (orNull readInt) (.ok none)
      observedCount :=
        ← strict details "observed_count" (orNull readInt) (.ok none)
      attempt := ← strict details "attempt" readNat (.ok 1)
      maxAttempts := ← strict details "max_attempts" readNat (.ok 1)
      retryErrorAllowed :=
        ← strict details "retry_error_allowed" readBool (.ok false)
      recoveryChecked :=
        ← strict details "recovery_checked" readBool (.ok false)
      dispatchState :=
        ← strict details "dispatch_state" readDispatchState (.ok .unknown)
      effectAbsent :=
        ← strict details "effect_absent" (orNull readBool) (.ok none) }
  diagnostic.make

end ExecutionDiagnostic

/-- `diagnostic_archive` -/
def diagnosticArchive (encoders : EvidenceEncoders) (runId : String)
    (details : Fields) (redactor : StructuredRedactor) :
    Except Raised EvidencePayload := do
  let runId ← parseId runId .run
  let diagnostic ← ExecutionDiagnostic.modelValidate details
  let payload : Fields := ("run_id", .str runId) :: diagnostic.safePayload
  let classifications : Dict DataClassification :=
    payload.map fun entry => (entry.1, .operational)
  let sanitized ← redactor.sanitizeJson encoders payload classifications runId
  require (sanitized.content.length ≤ 64 * 1024)
    "diagnostic exceeds the snapshot limit"
  SanitizedEvidence.make (encoders.zipped sanitized.content) .zip
    (sanitized.redactionDirectives ++ ["retain:value-free-diagnostic"])

end ReplayForge

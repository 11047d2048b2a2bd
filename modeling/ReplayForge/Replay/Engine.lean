import ReplayForge.Replay.Reporting

/-!
# The replay interpreter

`executeStepWith` is `_execute_step` with its recovery branch as a parameter:
main steps recover through `attemptRecovery`, whose own steps have no recovery.
`StepFrame` gathers the arguments of one such call.
An attempt is split where the source's control flow splits: admission, the
step's own action, the identity guard, and the settling of its result.
-/

namespace ReplayForge

open Effect

namespace Action

/-- The actions without a branch of their own reach `session.execute`. -/
def isDispatched : Action → Bool
  | .assert _ | .waitFor _ | .checkpoint _ | .extract _ _ => false
  | _ => true

end Action

/-- The outcome of a step's checks before its action. -/
inductive Admission where
  | ended (result : RunResult)
  | admitted (target : Option ResolvedTarget)

/-- What `allow_recovery` and `allow_intervention` select. -/
structure StepMode where
  allowRecovery : Bool
  allowIntervention : Bool

def StepMode.main : StepMode := ⟨true, true⟩

def StepMode.recovery : StepMode := ⟨false, false⟩

/-- The arguments of one `_execute_step` call. -/
structure StepFrame where
  run : ReplayRun
  step : Step
  leaseVersion : Nat
  mode : StepMode
  /-- The recovery branch of the step. -/
  recover : Replay (Option StepResult)
  /-- The index of a main step. -/
  index : Option Nat

namespace StepFrame

def artifact (frame : StepFrame) : CapabilityArtifact :=
  frame.run.artifact

def stepId (frame : StepFrame) : Option String :=
  some frame.step.id

def record (frame : StepFrame) (eventType : String) (details : Fields := []) :
    Replay Unit :=
  Runtime.record eventType frame.run.request.runId frame.stepId details

end StepFrame

namespace ReplayEngine

variable (engine : ReplayEngine)

/-- Evaluate conditions in order up to the first that does not hold. -/
def allHold (run : ReplayRun) : List Condition → Replay Bool
  | [] => pure true
  | condition :: rest => do
      if ← run.evaluate condition then
        allHold run rest
      else
        pure false

def bindTarget (frame : StepFrame) : Replay (Option LocatorBundle) := do
  match frame.step.target with
  | none => pure none
  | some target =>
      let bound ← Runtime.catching Raised.contract? (attempt
        (bindTargetInputs target frame.run.inputs (some frame.artifact.inputs)
          engine.effectivePolicy.forbiddenFieldClasses))
      match bound with
      | .ok bundle => pure (some bundle)
      | .error (_, code) =>
          throw (.surface {
            code
            safeMessage := "Target input binding is unavailable or forbidden."
            effectAbsent := true })

def resolveTarget (frame : StepFrame) :
    Option LocatorBundle → Replay (Option ResolvedTarget)
  | none => pure none
  | some bundle => do
      let target ← frame.run.call (.resolve bundle frame.step.timeoutMs)
      pure (some target)

/-- A failure of the step that is not recoverable, with the live frame. -/
def stepFailure (frame : StepFrame) (code message : String) :
    Replay RunResult :=
  failure frame.run.request code message false frame.stepId none none
    (some frame.run.session)

/-- What the policy decision makes of the step. -/
def admitDecision (frame : StepFrame) (observation : NormalizedObservation)
    (target : Option ResolvedTarget) (decision : PolicyDecision) :
    Replay Admission := do
  match decision.decision with
  | .deny =>
      let result ← stepFailure frame "policy_blocked" decision.explanation
      return .ended result
  | .requireHumanApproval =>
      if frame.mode.allowIntervention then
        let result ← engine.intervene frame.run.request frame.run.session
          frame.stepId decision.reasonCode observation frame.leaseVersion
          (some decision.explanation)
        return .ended result
      else
        let result ← stepFailure frame "recovery_requires_human"
          ("A recovery action requires human approval and cannot run " ++
            "autonomously.")
        return .ended result
  | .allow =>
      frame.record "action_intent"
      return .admitted target

/-- The part of `_execute_step` before the action intent. -/
def admitStep (frame : StepFrame) : Replay Admission := do
  let _ ← ControlLeaseService.assertCanAct frame.run.session.sessionId
    frame.leaseVersion .automation
  if ← allHold frame.run frame.step.preconditions then
    let observation ← frame.run.call .observe
    let boundTarget ← engine.bindTarget frame
    let target ← resolveTarget frame boundTarget
    let decision ← engine.stepPolicy frame.run.request frame.run.session
      frame.step observation target
    frame.record "policy_evaluated"
      [("decision", .str decision.decision.value),
        ("reason", .str decision.reasonCode)]
    engine.admitDecision frame observation target decision
  else
    let result ← stepFailure frame "step_precondition_mismatch"
      "A step precondition was not satisfied."
    return .ended result

/-- An assert, wait or checkpoint action requires its condition. -/
def requireSatisfied (satisfied : Bool) : Replay Unit :=
  Runtime.raiseIf (satisfied = false) (.surface {
    code := "action_condition_mismatch"
    safeMessage := "The action's declared condition was not satisfied." })

/-- `receipt.error_code or "action_failed"` -/
def receiptCode (receipt : ActionReceipt) : String :=
  if isPresent receipt.errorCode then receipt.errorCode.getD ""
  else "action_failed"

/-- The step's own action. -/
def ownAction (frame : StepFrame) (target : Option ResolvedTarget) :
    Replay Unit := do
  match frame.step.action with
  | .assert condition => requireSatisfied (← frame.run.evaluate condition)
  | .checkpoint _ =>
      requireSatisfied
        (← frame.run.evaluate frame.artifact.checkpoint.condition)
  | .waitFor condition =>
      requireSatisfied (← frame.run.waitUntil condition frame.step.timeoutMs)
  | .extract output transform =>
      match target with
      | none =>
          throw (.surface {
            code := "target_absent"
            safeMessage := "Extraction target was not resolved." })
      | some resolved =>
          let text ← frame.run.call (.extract resolved)
          modify fun state => { state with
            outputs := state.outputs.set output
              (transformExtractedText engine.host text transform) }
  | action =>
      let receipt ← frame.run.call (.execute action target frame.run.inputs)
      Runtime.raiseIf (receipt.status = .failed) (.surface {
        code := receiptCode receipt
        safeMessage := "The surface adapter could not complete the action." })

def performAction (frame : StepFrame) (target : Option ResolvedTarget) :
    Replay Unit := do
  engine.ownAction frame target
  frame.record "action_result"

/-- Wait for every identity-bearing postcondition, as a whole condition; a
surface error counts as unverified. -/
def identityVerified (frame : StepFrame) : List Condition → Replay Bool
  | [] => pure true
  | condition :: rest => do
      if condition.containsIdentity then
        match ← Runtime.catching Raised.surface?
            (frame.run.waitUntil condition frame.step.timeoutMs) with
        | .ok true => identityVerified frame rest
        | _ => pure false
      else
        identityVerified frame rest

/-- The items whose condition holds, in reference order.  A later declaration
replaces an earlier one under the same key. -/
def matching {α : Type} (run : ReplayRun) (items : List α)
    (key : α → String) (condition : α → Condition) :
    List String → Replay (List α)
  | [] => pure []
  | code :: rest => do
      match items.reverse.find? (key · = code) with
      | none => throw (.key code)
      | some item =>
          let holds ← run.evaluate (condition item)
          let others ← matching run items key condition rest
          pure (if holds then item :: others else others)

/-- The single matching item; several are ambiguous. -/
def selectBranch {α : Type} (run : ReplayRun) (items : List α)
    (key : α → String) (condition : α → Condition) (refs : List String)
    (message : String) : Replay (Option α) := do
  let found ← matching run items key condition refs
  Runtime.raiseIf (1 < found.length)
    (.surface { code := "branch_ambiguous", safeMessage := message })
  return found.head?

def detectOutcome (run : ReplayRun) (step : Step) :
    Replay (Option BusinessOutcome) :=
  selectBranch run run.artifact.outcomes BusinessOutcome.code
    BusinessOutcome.detect step.outcomeRefs "Multiple business outcomes matched."

def detectFailure (run : ReplayRun) (step : Step) :
    Replay (Option ApplicationFailure) :=
  selectBranch run run.artifact.failures ApplicationFailure.code
    ApplicationFailure.detect step.failureRefs
    "Multiple application failures matched."

def outcomeResult (run : ReplayRun) (step : Step) :
    Replay (Option StepResult) := do
  match ← detectOutcome run step with
  | none => pure none
  | some outcome =>
      let result ← engine.businessOutcome run.request outcome run.inputs
      pure (some (.finished result))

def failureResult (run : ReplayRun) (step : Step) :
    Replay (Option StepResult) := do
  match ← detectFailure run step with
  | none => pure none
  | some declared =>
      let result ← applicationFailure run step.id declared
      pure (some (.finished result))

/-- The diagnostic of an unmet postcondition. -/
def postconditionDiagnostic (frame : StepFrame) (attemptNumber : Nat)
    (condition : Condition) : ExecutionDiagnostic where
  code := "postcondition_mismatch"
  stepOrdinal := frame.run.request.ordinal? frame.stepId
  phase :=
    if frame.step.action.isDispatched then .afterDispatch else .beforeDispatch
  dispatchState :=
    if frame.step.action.isDispatched then .attempted else .notAttempted
  actionType := frame.step.action.kind
  expectedConditionKind := condition.kind
  attempt := attemptNumber
  maxAttempts := frame.step.retry.maxAttempts
  recoveryChecked := frame.mode.allowRecovery

/-- Hand a surface error to `_surface_failure`, with its diagnostic. -/
def surfaceResult (frame : StepFrame) (error : SurfaceError)
    (diagnostic : ExecutionDiagnostic) : Replay StepResult := do
  let checked ← attempt (ExecutionDiagnostic.make diagnostic)
  let result ← engine.surfaceFailure frame.run.request (some frame.run.session)
    frame.stepId error (some frame.leaseVersion) (some checked)
    frame.mode.allowIntervention
  pure (.finished result)

/-- A postcondition that did not hold in time. -/
def unmetPostcondition (frame : StepFrame) (attemptNumber : Nat)
    (condition : Condition) : Replay StepResult :=
  Runtime.orNext (engine.outcomeResult frame.run frame.step) <|
  Runtime.orNext frame.recover <|
  Runtime.orNext (failureResult frame.run frame.step) <|
    engine.surfaceResult frame {
      code := "postcondition_mismatch"
      safeMessage :=
        "The action completed but its declared effect was not observed." }
      (postconditionDiagnostic frame attemptNumber condition)

/-- Wait for the postconditions that bear no identity, in order. -/
def settlePostconditions (frame : StepFrame) (attemptNumber : Nat) :
    List Condition → Replay StepResult
  | [] => pure .advance
  | condition :: rest => do
      if condition.containsIdentity then
        settlePostconditions frame attemptNumber rest
      else if ← frame.run.waitUntil condition frame.step.timeoutMs then
        Runtime.orNext (engine.outcomeResult frame.run frame.step)
          (settlePostconditions frame attemptNumber rest)
      else
        engine.unmetPostcondition frame attemptNumber condition

/-- Everything after the identity guard. -/
def settleStep (frame : StepFrame) (attemptNumber : Nat) : Replay StepResult :=
  Runtime.orNext (engine.outcomeResult frame.run frame.step) <|
  Runtime.orNext (failureResult frame.run frame.step) <|
  Runtime.orNext frame.recover <|
    engine.settlePostconditions frame attemptNumber frame.step.postconditions

/-- The part of `_execute_step` from the action on. -/
def actStep (frame : StepFrame) (attemptNumber : Nat)
    (target : Option ResolvedTarget) : Replay StepResult := do
  engine.performAction frame target
  if ← identityVerified frame frame.step.postconditions then
    engine.settleStep frame attemptNumber
  else
    let result ← stepFailure frame "postcondition_mismatch"
      "The selected record identity was not verified."
    pure (.finished result)

/-- The diagnostic of a surface error.  `dispatched` was set exactly when the
error came after the intent of an action that reaches `session.execute`. -/
def errorDiagnostic (frame : StepFrame) (attemptNumber : Nat)
    (dispatched : Bool) (error : SurfaceError) : ExecutionDiagnostic where
  code := error.code
  phase := if dispatched then .afterDispatch else .beforeDispatch
  dispatchState := if dispatched then .attempted else .notAttempted
  stepOrdinal := frame.run.request.ordinal? frame.stepId
  actionType := frame.step.action.kind
  expectedCount := boundedCount error.expected
  observedCount := boundedCount error.observed
  attempt := attemptNumber
  maxAttempts := frame.step.retry.maxAttempts
  retryErrorAllowed := error.code ∈ frame.step.retry.retryOn
  recoveryChecked := frame.mode.allowRecovery
  effectAbsent := some (!dispatched || error.effectAbsent)

/-- The error alone decides whether another attempt is due. -/
def retryable (step : Step) (error : SurfaceError) : Bool :=
  error.recoverable && error.effectAbsent &&
    decide (error.code ∈ step.retry.retryOn)

/-- The except branch once no retry is due. -/
def reportError (frame : StepFrame) (attemptNumber : Nat) (dispatched : Bool)
    (error : SurfaceError) : Replay StepResult :=
  Runtime.orNext frame.recover <|
    engine.surfaceResult frame error
      (errorDiagnostic frame attemptNumber dispatched error)

/-- Announce the next attempt and wait. -/
def scheduleRetry (frame : StepFrame) (attemptNumber : Nat)
    (error : SurfaceError) : Replay Unit := do
  frame.record "step_retry_scheduled"
    [("attempt", .int (attemptNumber + 1)), ("reason", .str error.code)]
  Runtime.sleep ((frame.step.retry.backoffMs[attemptNumber - 1]?).getD 0)

/-- How the `try` block of an attempt ends. -/
inductive AttemptEnd where
  | settled (result : StepResult)
  | raised (dispatched : Bool) (error : SurfaceError)

def attemptStep (frame : StepFrame) (attemptNumber : Nat) :
    Replay AttemptEnd := do
  Runtime.mark (.attempt frame.index attemptNumber)
  match ← Runtime.catching Raised.surface? (engine.admitStep frame) with
  | .error error => pure (.raised false error)
  | .ok (.ended result) => pure (.settled (.finished result))
  | .ok (.admitted target) =>
      match ← Runtime.catching Raised.surface?
          (engine.actStep frame attemptNumber target) with
      | .error error => pure (.raised frame.step.action.isDispatched error)
      | .ok result => pure (.settled result)

/-- The attempts of one visit.  The fuel is what `max_attempts` leaves after
this attempt, so it is positive exactly when `attempt < max_attempts`. -/
def attemptsFrom (frame : StepFrame) : Nat → Nat → Replay StepResult
  | remaining, attemptNumber => do
      match ← engine.attemptStep frame attemptNumber with
      | .settled result => pure result
      | .raised dispatched error =>
          Runtime.mark (.failed frame.index error)
          match remaining with
          | 0 => engine.reportError frame attemptNumber dispatched error
          | remaining + 1 =>
              if retryable frame.step error then
                scheduleRetry frame attemptNumber error
                attemptsFrom frame remaining (attemptNumber + 1)
              else
                engine.reportError frame attemptNumber dispatched error

/-- `_execute_step`: one visit of a step. -/
def executeStepWith (frame : StepFrame) (attemptNumber : Nat := 1) :
    Replay StepResult := do
  Runtime.mark (.visit frame.index frame.step)
  let result ← engine.attemptsFrom frame
    (frame.step.retry.maxAttempts - attemptNumber) attemptNumber
  Runtime.mark (.leave frame.index result)
  pure result

/-- A recovery step has no recovery of its own and no intervention. -/
def recoveryFrame (run : ReplayRun) (step : Step) (leaseVersion : Nat) :
    StepFrame where
  run
  step
  leaseVersion
  mode := .recovery
  recover := pure none
  index := none

/-- The steps of a recovery: the lease version after them, or the result that
ended them. -/
def recoverySteps (run : ReplayRun) :
    List Step → Nat → Replay (Except RunResult Nat)
  | [], leaseVersion => pure (.ok leaseVersion)
  | step :: rest, leaseVersion => do
      match ← engine.executeStepWith (recoveryFrame run step leaseVersion) with
      | .resume _ _ =>
          throw (.runtime "nested recovery control flow is not allowed")
      | .finished result => pure (.error result)
      | .advance =>
          let lease ← engine.leaseService.heartbeat run.session.sessionId
            leaseVersion .automation
          recoverySteps run rest lease.version

def executeRecovery (run : ReplayRun) (recovery : Recovery)
    (leaseVersion : Nat) : Replay (Except RunResult Nat) := do
  let lease ← engine.leaseService.heartbeat run.session.sessionId leaseVersion
    .automation
  engine.recoverySteps run recovery.steps lease.version

def recordRecovery (run : ReplayRun) (eventType : String) (step : Step)
    (recovery : Recovery) (detail : String × Json) : Replay Unit :=
  Runtime.record eventType run.request.runId (some step.id)
    [("recovery_id", .str recovery.id), detail]

/-- Start a recovery and run its steps. -/
def startRecovery (run : ReplayRun) (step : Step) (recovery : Recovery)
    (leaseVersion uses : Nat) : Replay StepResult := do
  modify fun state => { state with
    recoveryUses := state.recoveryUses.set recovery.id (uses + 1) }
  recordRecovery run "recovery_started" step recovery
    ("use", .int (uses + 1))
  match ← engine.executeRecovery run recovery leaseVersion with
  | .error result => pure (.finished result)
  | .ok version =>
      recordRecovery run "recovery_completed" step recovery
        ("resume_at", .str recovery.resumeAt)
      pure (.resume recovery.resumeAt version)

/-- Use a matching recovery, as far as its budget goes. -/
def useRecovery (run : ReplayRun) (step : Step) (recovery : Recovery)
    (leaseVersion : Nat) : Replay StepResult := do
  let uses := ((← get).recoveryUses.get? recovery.id).getD 0
  if recovery.maxUses ≤ uses then
    recordRecovery run "recovery_exhausted" step recovery ("uses", .int uses)
    let result ← failure run.request "recovery_exhausted"
      "A declared recovery did not restore the expected UI state." false
      (some step.id) none none (some run.session)
    pure (.finished result)
  else
    engine.startRecovery run step recovery leaseVersion uses

def attemptRecovery (run : ReplayRun) (step : Step) (leaseVersion : Nat) :
    Replay (Option StepResult) := do
  match ← selectBranch run run.artifact.recoveries Recovery.id Recovery.trigger
      step.recoveryRefs "Multiple recovery conditions matched." with
  | none => pure none
  | some recovery =>
      let result ← engine.useRecovery run step recovery leaseVersion
      pure (some result)

/-- A main step recovers and intervenes. -/
def mainFrame (run : ReplayRun) (index : Nat) (step : Step)
    (leaseVersion : Nat) : StepFrame where
  run
  step
  leaseVersion
  mode := .main
  recover := engine.attemptRecovery run step leaseVersion
  index := some index

end ReplayEngine

end ReplayForge

import ReplayForge.Replay.Calls
import ReplayForge.Runtime.Footprints

/-!
# Footprints of the replay engine

What each part of the engine that does not decide a step's course can issue,
change and raise.
-/

namespace ReplayForge

open Effect

section Models

variable {raises : Raised → Prop} (values : ∀ message, raises (.value message))

include values

theorem throws_diagnostic {diagnostic : ExecutionDiagnostic} :
    Throws raises diagnostic.make := by
  unfold ExecutionDiagnostic.make
  iterate 5 refine throws_bind (throws_require (values _)) fun _ => ?_
  exact throws_pure

private theorem throws_completed {runId manifest : String} :
    Throws raises (validateCompleted runId manifest) := by
  unfold validateCompleted
  iterate 2 refine throws_bind (throws_require (values _)) fun _ => ?_
  exact throws_require (values _)

theorem throws_failureResult {result : FailureResult} :
    Throws raises result.make := by
  unfold FailureResult.make
  refine throws_bind (throws_completed values) fun _ => ?_
  iterate 3 refine throws_bind (throws_require (values _)) fun _ => ?_
  exact throws_pure

theorem throws_outcomeResult {result : BusinessOutcomeResult} :
    Throws raises result.make := by
  unfold BusinessOutcomeResult.make
  refine throws_bind (throws_completed values) fun _ => ?_
  refine throws_bind (throws_require (values _)) fun _ => ?_
  exact throws_pure

theorem throws_successResult {result : SuccessResult} :
    Throws raises result.make := by
  unfold SuccessResult.make
  refine throws_bind (throws_completed values) fun _ => ?_
  iterate 3 refine throws_bind (throws_require (values _)) fun _ => ?_
  exact throws_pure

theorem throws_interventionResult {result : InterventionRequiredResult} :
    Throws raises result.make := by
  unfold InterventionRequiredResult.make
  iterate 4 refine throws_bind (throws_require (values _)) fun _ => ?_
  exact throws_pure

theorem throws_interventionContext {context : InterventionContext} :
    Throws raises context.make := by
  unfold InterventionContext.make
  iterate 10 refine throws_bind (throws_require (values _)) fun _ => ?_
  exact throws_pure

theorem throws_intervention {intervention : Intervention} :
    Throws raises intervention.make := by
  unfold Intervention.make
  iterate 3 refine throws_bind (throws_parseId values) fun _ => ?_
  iterate 7 refine throws_bind (throws_require (values _)) fun _ => ?_
  exact throws_pure

theorem throws_controlLease {lease : ControlLease} :
    Throws raises lease.make := by
  unfold ControlLease.make
  refine throws_bind (throws_parseId values) fun _ => ?_
  refine throws_bind (throws_option_forM fun id _ =>
    throws_bind (throws_parseId values) fun _ => throws_pure) fun _ => ?_
  iterate 3 refine throws_bind (throws_require (values _)) fun _ => ?_
  exact throws_pure

theorem throws_rawScreenshot {content : Bytes} :
    Throws raises (rawScreenshot content) := by
  unfold rawScreenshot
  iterate 2 refine throws_bind (throws_require (values _)) fun _ => ?_
  exact throws_pure

private theorem throws_policyDecision {decision : PolicyDecision} :
    Throws raises decision.make := by
  unfold PolicyDecision.make
  iterate 5 refine throws_bind (throws_require (values _)) fun _ => ?_
  exact throws_pure

theorem throws_evaluate {host : Host} {policy : EffectivePolicy}
    {context : ActionContext} :
    Throws raises (PolicyEvaluator.evaluate host policy context) := by
  unfold PolicyEvaluator.evaluate PolicyEvaluator.denial
  dsimp only
  iterate 9 refine throws_ite (throws_policyDecision values) ?_
  exact throws_policyDecision values

end Models

/-- The errors of `resolve_input` are contract errors. -/
theorem throws_resolveInput {raises : Raised → Prop} {inputs : Fields}
    {path : String} (allowed : raises (.contract path "input_binding_missing")) :
    Throws raises (resolveInput inputs path) := by
  unfold resolveInput
  split
  · exact throws_error allowed
  · exact throws_pure

private theorem ordinary_contract {path code : String} :
    ordinary (.contract path code) := by
  intro same
  cases same

private theorem throws_validateType {host : Host} {schema : ValueSchema}
    {value : Json} {path : String} :
    Throws ordinary (validateType host schema value path) := by
  have refuses : ∀ {test : Bool} {code : String},
      Throws ordinary (refuseIf test (.contract path code)) :=
    throws_refuseIf ordinary_contract
  unfold validateType
  split
  · unfold validateString
    iterate 3 refine throws_bind refuses fun _ => ?_
    split
    · exact throws_pure
    · exact refuses
    · exact refuses
    · exact throws_bind refuses fun _ => refuses
  all_goals first | exact throws_pure | exact throws_error ordinary_contract

private theorem throws_validateChoice {schema : ValueSchema} {value : Json}
    {path : String} : Throws ordinary (validateChoice schema value path) :=
  throws_bind (throws_refuseIf nofun) fun _ => throws_refuseIf nofun

private theorem throws_validateKeys {contract : ObjectContract}
    {value : Fields} {path : String} :
    Throws ordinary (validateKeys contract value path) :=
  throws_bind (throws_refuseIf nofun) fun _ => throws_refuseIf nofun

mutual

private theorem throws_validateValue {host : Host} (schema : ValueSchema) :
    ∀ (value : Json) (path : String),
      Throws ordinary (validateValue host schema value path)
  | .obj fields, path => by
      unfold validateValue
      refine throws_bind throws_validateType fun _ => ?_
      refine throws_bind throws_validateKeys fun _ => ?_
      refine throws_bind (throws_validateFields schema.contract fields path)
        fun validated => ?_
      exact throws_bind throws_validateChoice fun _ => throws_pure
  | .null, path | .bool _, path | .int _, path | .real _, path | .str _, path
  | .arr _, path => by
      unfold validateValue
      refine throws_bind throws_validateType fun _ => ?_
      exact throws_bind throws_validateChoice fun _ => throws_pure

private theorem throws_validateFields {host : Host}
    (contract : ObjectContract) :
    ∀ (fields : List (String × Json)) (path : String),
      Throws ordinary (validateFields host contract fields path)
  | [], path => by
      unfold validateFields
      exact throws_pure
  | (key, item) :: rest, path => by
      unfold validateFields
      split
      · exact throws_error nofun
      · refine throws_bind (throws_validateValue _ item _) fun value => ?_
        exact throws_bind (throws_validateFields contract rest path)
          fun others => throws_pure

end

theorem throws_validateObject {host : Host} {contract : ObjectContract}
    {value : Fields} :
    Throws ordinary (validateObject host contract value) :=
  throws_bind throws_validateKeys fun _ => throws_validateFields _ _ _

/-- Binding a target never runs out of a bound. -/
theorem throws_bindTargetInputs {target : LocatorBundle} {inputs : Fields}
    {contract : Option ObjectContract} {forbidden : List DataClassification} :
    Throws ordinary (bindTargetInputs target inputs contract forbidden) := by
  refine throws_bind (throws_mapM fun candidate _ => ?_) fun _ => throws_pure
  split
  · unfold bindInputText
    refine throws_bind (throws_refuseIf ordinary_contract) fun _ => ?_
    refine throws_bind (throws_resolveInput ordinary_contract) fun value => ?_
    split
    · refine throws_bind (throws_refuseIf ordinary_contract) fun _ => ?_
      split
      · exact throws_pure
      · exact throws_pure
      · exact throws_error (by simp [ordinary])
    · exact throws_error ordinary_contract
  · exact throws_pure

/-- What a step's own action leaves alone. -/
def EngineState.ledger (state : EngineState) :
    Dict Nat × Dict (Bool × Nat) × Bool :=
  (state.recoveryUses, state.pausePoints, state.preserveSession)

/-- The local state apart from the pause points. -/
def EngineState.locals (state : EngineState) : Outputs × Dict Nat × Bool :=
  (state.outputs, state.recoveryUses, state.preserveSession)

namespace ControlLeaseService

variable {σ γ : Type} {v : σ → γ} {kinds : List OpKind}

private theorem uses_assertCurrent {current : ControlLease}
    {expectedVersion : Nat} {expectedOwner : ControlOwner}
    {requireUnexpired : Bool} (clock : OpKind.now ∈ kinds) :
    Uses kinds v noSurface
      (assertCurrent current expectedVersion expectedOwner requireUnexpired :
        Runtime σ Unit) := by
  unfold assertCurrent
  refine confined_bind (confined_raiseIf fun _ => ⟨rfl, nofun⟩) fun _ => ?_
  refine confined_ite (fun _ => ?_) fun _ => confined_pure
  exact confined_bind (uses_now clock) fun now =>
    confined_raiseIf fun _ => ⟨rfl, nofun⟩

theorem uses_assertCanAct {sessionId : String} {expectedVersion : Nat}
    {owner : ControlOwner} :
    Uses [.getLease, .now] v noSurface
      (assertCanAct sessionId expectedVersion owner :
        Runtime σ ControlLease) := by
  unfold assertCanAct
  refine confined_bind (uses_control (by simp)) fun current => ?_
  exact confined_bind (uses_assertCurrent (by decide)) fun _ => confined_pure

theorem uses_heartbeat (service : ControlLeaseService) {sessionId : String}
    {expectedVersion : Nat} {owner : ControlOwner} :
    Uses [.getLease, .now, .swapLease] v noSurface
      (service.heartbeat sessionId expectedVersion owner :
        Runtime σ ControlLease) := by
  unfold heartbeat prepareHeartbeat
  refine confined_bind (uses_assertCanAct.widen (by decide)) fun current => ?_
  refine confined_bind ?_ fun replacement => uses_control (by simp)
  refine confined_bind (uses_assertCurrent (by decide)) fun _ => ?_
  refine confined_bind (uses_now (by decide)) fun now => ?_
  exact confined_attempt (throws_controlLease fun _ => noSurface_value)

theorem uses_createForAutomation (service : ControlLeaseService)
    {sessionId : String} :
    Uses [.now, .createLease] v noSurface
      (service.createForAutomation sessionId : Runtime σ ControlLease) := by
  unfold createForAutomation
  refine confined_bind (confined_attempt
    (throws_parseId fun _ => noSurface_value)) fun parsed => ?_
  refine confined_bind (uses_now (by decide)) fun now => ?_
  refine confined_bind (confined_attempt
    (throws_controlLease fun _ => noSurface_value)) fun lease => ?_
  exact uses_control (by simp)

theorem uses_openIntervention (service : ControlLeaseService)
    {interventionId runId sessionId : String} {version : Nat} {code : String}
    {stepId : Option String} {observation : NormalizedObservation}
    {context : InterventionContext} {explanation : Option String} :
    Uses [.now, .getLease, .createPaused] v noSurface
      (service.openIntervention interventionId runId sessionId version code
        stepId observation context explanation : Runtime σ String) := by
  unfold openIntervention prepareTransfer
  iterate 3
    refine confined_bind (confined_attempt
      (throws_parseId fun _ => noSurface_value)) fun _ => ?_
  refine confined_bind (confined_attempt
    (throws_require noSurface_value)) fun _ => ?_
  refine confined_bind (uses_now (by decide)) fun createdAt => ?_
  refine confined_bind (confined_attempt
    (throws_intervention fun _ => noSurface_value)) fun intervention => ?_
  refine confined_bind (uses_control (by simp)) fun current => ?_
  refine confined_bind ?_ fun replacement =>
    confined_bind (uses_control (by simp)) fun _ => confined_pure
  refine confined_bind (uses_assertCurrent (by decide)) fun _ => ?_
  refine confined_bind (uses_now (by decide)) fun now => ?_
  exact confined_attempt (throws_controlLease fun _ => noSurface_value)

end ControlLeaseService

namespace ReplayEngine

variable {γ : Type} {v : EngineState → γ}

/-- What reporting a failure issues. -/
def failureKinds : List OpKind :=
  [.record "execution_diagnostic", .capture, .attach, .record "replay_failed",
    .manifest]

theorem uses_attachFrame {session : SurfaceSession} {kind : String}
    {retention : RetentionClass} :
    Uses [.capture, .attach] v ordinary
      (attachFrame session kind retention) := by
  unfold attachFrame
  refine confined_bind (uses_session (by simp)) fun content => ?_
  refine confined_bind (confined_attempt
    (throws_rawScreenshot fun _ => ordinary_value)) fun payload => ?_
  exact (uses_attachScreenshot (by decide)).ordinary

/-- A surface error while the failure frame is captured is swallowed. -/
theorem uses_captureEvidence {session : Option SurfaceSession}
    {failureFrame : Option Bytes} :
    Uses [.capture, .attach] v noSurface
      (captureEvidence session failureFrame) := by
  unfold captureEvidence
  refine confined_ite (fun _ => ?_) fun _ => confined_pure
  refine confined_bind (confined_catching (c := ordinary) ?_ ?_)
    fun captured => by cases captured <;> exact confined_pure
  · unfold attachFailureState
    split
    · exact uses_attachFrame
    · refine confined_bind (confined_attempt
        (throws_rawScreenshot fun _ => ordinary_value)) fun _ => ?_
      exact (uses_attachScreenshot (by decide)).ordinary
    · exact confined_throw nofun
  · intro error caught passed
    refine ⟨?_, caught⟩
    cases error with
    | surface error => cases passed
    | _ => rfl

theorem uses_failure {request : ReplayRequest} {code message : String}
    {recoverable : Bool} {stepId : Option String}
    {expected observed : Option Fields} {session : Option SurfaceSession}
    {diagnostic : Option ExecutionDiagnostic} {failureFrame : Option Bytes} :
    Uses failureKinds v noSurface
      (failure request code message recoverable stepId expected observed
        session diagnostic failureFrame) := by
  unfold failure
  refine confined_bind (confined_attempt ?_) fun checked => ?_
  · unfold chooseDiagnostic
    split
    · exact throws_pure
    · exact throws_diagnostic fun _ => noSurface_value
  refine confined_bind (uses_record (by decide)) fun _ => ?_
  refine confined_bind (uses_captureEvidence.widen (by decide)) fun _ => ?_
  refine confined_bind (uses_record (by decide)) fun _ => ?_
  refine confined_bind (uses_manifest (by decide)) fun _ => ?_
  refine confined_bind (confined_attempt
    (throws_failureResult fun _ => noSurface_value)) fun _ => confined_pure

theorem uses_applicationFailure {run : ReplayRun} {stepId : String}
    {declared : ApplicationFailure} :
    Uses (.declaredFailure :: failureKinds) v noSurface
      (applicationFailure run stepId declared) := by
  unfold applicationFailure
  refine confined_bind (uses_mark (by simp)) fun _ => ?_
  exact uses_failure.widen (List.subset_cons_self _ _)

variable (engine : ReplayEngine)

private theorem throws_outcomeDetails {inputs : Fields}
    {details : Dict ValueSource} :
    Throws noSurface (engine.outcomeDetails inputs details) := by
  refine throws_mapM fun entry _ => throws_bind ?_ fun value => throws_pure
  unfold outcomeDetail
  split
  · exact throws_pure
  · exact throws_bind (throws_resolveInput ⟨rfl, nofun⟩) fun _ => throws_pure

theorem uses_businessOutcome {request : ReplayRequest}
    {outcome : BusinessOutcome} {inputs : Fields} :
    Uses [.record "business_outcome", .manifest] v noSurface
      (engine.businessOutcome request outcome inputs) := by
  unfold businessOutcome
  refine confined_bind (confined_attempt (throws_outcomeDetails engine))
    fun details => ?_
  refine confined_bind (uses_record (by decide)) fun _ => ?_
  refine confined_bind (uses_manifest (by decide)) fun _ => ?_
  refine confined_bind (confined_attempt
    (throws_outcomeResult fun _ => noSurface_value)) fun _ => confined_pure

theorem uses_stepPolicy {request : ReplayRequest} {session : SurfaceSession}
    {step : Step} {observation : NormalizedObservation}
    {target : Option ResolvedTarget} :
    Uses [.origin] v ordinary
      (engine.stepPolicy request session step observation target) := by
  unfold stepPolicy
  refine confined_bind (uses_session (by simp)) fun origin => ?_
  exact confined_attempt (throws_evaluate fun _ => ordinary_value)

theorem returns_failure {request : ReplayRequest} {code message : String}
    {recoverable : Bool} {stepId : Option String}
    {expected observed : Option Fields} {session : Option SurfaceSession}
    {diagnostic : Option ExecutionDiagnostic} {failureFrame : Option Bytes} :
    Returns (fun result => result.isReport = true)
      (failure request code message recoverable stepId expected observed
        session diagnostic failureFrame) := by
  unfold failure
  iterate 6 refine returns_bind fun _ => ?_
  exact returns_pure rfl

theorem returns_businessOutcome {request : ReplayRequest}
    {outcome : BusinessOutcome} {inputs : Fields} :
    Returns (fun result => result.isSuccess = false)
      (engine.businessOutcome request outcome inputs) := by
  unfold businessOutcome
  iterate 4 refine returns_bind fun _ => ?_
  exact returns_pure rfl

theorem returns_intervene {request : ReplayRequest}
    {session : SurfaceSession} {stepId : Option String} {code : String}
    {observation : NormalizedObservation} {leaseVersion : Nat}
    {explanation : Option String} {point : PausePoint}
    {diagnostic : Option ExecutionDiagnostic} :
    Returns (fun result => result.isReport = true)
      (engine.intervene request session stepId code observation leaseVersion
        explanation point diagnostic) := by
  unfold intervene
  refine returns_ite returns_failure ?_
  iterate 9 refine returns_bind fun _ => ?_
  exact returns_pure rfl

theorem returns_surfaceFailure {request : ReplayRequest}
    {session : Option SurfaceSession} {stepId : Option String}
    {error : SurfaceError} {leaseVersion : Option Nat}
    {diagnostic : Option ExecutionDiagnostic} {allowIntervention : Bool} :
    Returns (fun result => result.isReport = true)
      (engine.surfaceFailure request session stepId error leaseVersion
        diagnostic allowIntervention) := by
  unfold surfaceFailure
  refine returns_ite ?_ returns_failure
  split
  · unfold handOver
    refine returns_bind fun considered => ?_
    split
    · exact returns_failure
    · exact returns_ite returns_failure (returns_intervene engine)
  · exact returns_failure

/-- What handing a step over issues. -/
def interventionKinds : List OpKind :=
  failureKinds ++
    [.newId, .now, .getLease, .createPaused, .record "intervention_required"]

theorem uses_intervene {request : ReplayRequest} {session : SurfaceSession}
    {stepId : Option String} {code : String}
    {observation : NormalizedObservation} {leaseVersion : Nat}
    {explanation : Option String} {point : PausePoint}
    {diagnostic : Option ExecutionDiagnostic} :
    Uses interventionKinds EngineState.locals ordinary
      (engine.intervene request session stepId code observation leaseVersion
        explanation point diagnostic) := by
  unfold intervene
  refine confined_ite (fun _ => ?_) fun _ => ?_
  · exact (uses_failure.widen (List.subset_append_left _ _)).ordinary
  refine confined_bind (confined_forM fun given =>
    (uses_record (by decide)).ordinary) fun _ => ?_
  refine confined_bind (uses_attachFrame.widen (by decide)) fun _ => ?_
  refine confined_bind (uses_newId (by decide)) fun interventionId => ?_
  refine confined_bind (confined_attempt
    (throws_interventionContext fun _ => ordinary_value)) fun context => ?_
  refine confined_bind
    (engine.leaseService.uses_openIntervention.widen (by decide)).ordinary
    fun routedId => ?_
  refine confined_bind (confined_raiseIf fun _ => nofun) fun _ => ?_
  refine confined_bind (confined_modify fun _ => rfl) fun _ => ?_
  refine confined_bind (uses_record (by decide)).ordinary fun _ => ?_
  refine confined_bind (confined_attempt
    (throws_interventionResult fun _ => ordinary_value)) fun _ => ?_
  exact confined_pure

/-- What reporting a surface error issues. -/
def surfaceFailureKinds : List OpKind :=
  [.observe, .origin] ++ interventionKinds

theorem uses_surfaceFailure {request : ReplayRequest}
    {session : Option SurfaceSession} {stepId : Option String}
    {error : SurfaceError} {leaseVersion : Option Nat}
    {diagnostic : Option ExecutionDiagnostic} {allowIntervention : Bool} :
    Uses surfaceFailureKinds EngineState.locals ordinary
      (engine.surfaceFailure request session stepId error leaseVersion
        diagnostic allowIntervention) := by
  have report : ∀ {code message recoverable expected observed live given image},
      Uses surfaceFailureKinds EngineState.locals ordinary
        (failure request code message recoverable stepId expected observed
          live given image) :=
    (uses_failure.widen (by decide)).ordinary
  unfold surfaceFailure
  refine confined_ite (fun _ => ?_) fun _ => report
  split
  · unfold handOver
    refine confined_bind (confined_catching (c := ordinary) ?_
      fun _ error _ => error) fun considered => ?_
    · refine confined_bind (uses_session (by simp [surfaceFailureKinds]))
        fun observation => ?_
      exact confined_bind ((uses_stepPolicy engine).widen (by decide))
        fun decision => confined_pure
    · split
      · exact report
      · exact confined_ite (fun _ => report) fun _ =>
          (uses_intervene engine).widen (List.subset_append_right _ _)
  · exact report

section Conditions

variable {run : ReplayRun}

theorem uses_evaluate {condition : Condition} :
    Uses [.evaluate] v ordinary (run.evaluate condition) := by
  unfold ReplayRun.evaluate
  exact confined_bind confined_get fun state =>
    uses_session (by simp)

theorem uses_waitUntil {condition : Condition} {timeoutMs : Nat} :
    Uses [.wait] v ordinary (run.waitUntil condition timeoutMs) := by
  unfold ReplayRun.waitUntil
  exact confined_bind confined_get fun state =>
    uses_session (by simp)

theorem uses_allHold {conditions : List Condition} :
    Uses [.evaluate] v ordinary (allHold run conditions) := by
  induction conditions with
  | nil => exact confined_pure
  | cons condition rest ih =>
      unfold allHold
      refine confined_bind uses_evaluate fun holds => ?_
      exact confined_ite (fun _ => ih) fun _ => confined_pure

private theorem uses_matching {α : Type} {items : List α} {key : α → String}
    {condition : α → Condition} {refs : List String} :
    Uses [.evaluate] v ordinary
      (matching run items key condition refs) := by
  induction refs with
  | nil => exact confined_pure
  | cons code rest ih =>
      unfold matching
      split
      · exact confined_throw nofun
      · refine confined_bind uses_evaluate fun holds => ?_
        exact confined_bind ih fun others => confined_pure

theorem uses_selectBranch {α : Type} {items : List α} {key : α → String}
    {condition : α → Condition} {refs : List String} {message : String} :
    Uses [.evaluate] v ordinary
      (selectBranch run items key condition refs message) := by
  unfold selectBranch
  refine confined_bind uses_matching fun found => ?_
  exact confined_bind (confined_raiseIf fun _ => nofun)
    fun _ => confined_pure

end Conditions

section Admission

variable {frame : StepFrame}

theorem uses_stepFailure {code message : String} :
    Uses failureKinds v noSurface (stepFailure frame code message) :=
  uses_failure

theorem uses_frameRecord {eventType : String} {details : Fields} :
    Uses [.record eventType] v noSurface
      (frame.record eventType details) :=
  uses_record List.mem_cons_self

theorem uses_bindTarget :
    Uses [] v ordinary (engine.bindTarget frame) := by
  unfold bindTarget
  split
  · exact confined_pure
  · refine confined_bind (confined_catching (c := ordinary)
      (confined_attempt throws_bindTargetInputs) fun _ error _ => error)
      fun bound => ?_
    split
    · exact confined_pure
    · exact confined_throw nofun

theorem uses_resolveTarget {bound : Option LocatorBundle} :
    Uses [.resolve] v ordinary (resolveTarget frame bound) := by
  unfold resolveTarget
  split
  · exact confined_pure
  · exact confined_bind (uses_session (by simp))
      fun _ => confined_pure

/-- What the checks of a step issue. -/
def checkKinds : List OpKind :=
  [.getLease, .now, .evaluate, .observe, .resolve, .origin,
    .record "policy_evaluated"]

/-- What the part of a step before its action issues, its intent apart. -/
def admissionKinds : List OpKind :=
  checkKinds ++ interventionKinds

/-- Whatever a policy decision makes a step issue but the intent. -/
theorem uses_refuseDecision {observation : NormalizedObservation}
    {target : Option ResolvedTarget} {decision : PolicyDecision}
    (refused : decision.decision ≠ .allow) :
    Uses interventionKinds EngineState.locals ordinary
      (engine.admitDecision frame observation target decision) := by
  have report : ∀ {code message},
      Uses interventionKinds EngineState.locals ordinary
        (stepFailure frame code message) :=
    (uses_stepFailure.widen (by decide)).ordinary
  unfold admitDecision
  split
  · exact confined_bind report fun _ => confined_pure
  · refine confined_ite (fun _ => ?_) fun _ => ?_
    · exact confined_bind (uses_intervene engine) fun _ => confined_pure
    · exact confined_bind report fun _ => confined_pure
  next allowed => exact absurd allowed refused

end Admission

section Visit

variable {frame : StepFrame}

/-- What a step's own action issues. -/
def actionKinds : List OpKind :=
  [.evaluate, .wait, .extract, .execute]

theorem uses_ownAction {target : Option ResolvedTarget} :
    Uses actionKinds EngineState.ledger ordinary
      (engine.ownAction frame target) := by
  have satisfied : ∀ holds, Uses actionKinds EngineState.ledger ordinary
      (requireSatisfied holds) := fun holds => confined_raiseIf fun _ => nofun
  have dispatch : ∀ action, Uses actionKinds EngineState.ledger ordinary
      (do
        let receipt ← frame.run.call (.execute action target frame.run.inputs)
        Runtime.raiseIf (receipt.status = .failed) (.surface {
          code := receiptCode receipt
          safeMessage :=
            "The surface adapter could not complete the action." })) :=
    fun action => confined_bind (uses_session (by simp [actionKinds]))
      fun receipt => confined_raiseIf fun _ => nofun
  unfold ownAction
  split
  · exact confined_bind (uses_evaluate.widen (by decide)) satisfied
  · exact confined_bind (uses_evaluate.widen (by decide)) satisfied
  · exact confined_bind (uses_waitUntil.widen (by decide)) satisfied
  · split
    · exact confined_throw nofun
    · exact confined_bind (uses_session (by simp [actionKinds]))
        fun text => confined_modify fun _ => rfl
  · exact dispatch _

theorem uses_performAction {target : Option ResolvedTarget} :
    Uses (.record "action_result" :: actionKinds) EngineState.ledger ordinary
      (engine.performAction frame target) := by
  unfold performAction
  refine confined_bind ((uses_ownAction engine).widen
    (List.subset_cons_self _ _)) fun _ => ?_
  exact (uses_frameRecord.widen (by decide)).ordinary

/-- A surface error during an identity wait counts as unverified. -/
theorem uses_identityVerified {conditions : List Condition} :
    Uses [.wait] v noSurface (identityVerified frame conditions) := by
  induction conditions with
  | nil => exact confined_pure
  | cons condition rest ih =>
      unfold identityVerified
      refine confined_ite (fun _ => ?_) fun _ => ih
      refine confined_bind (confined_catching (c := ordinary)
        uses_waitUntil fun error caught passed => ?_) fun outcome => ?_
      · cases error with
        | surface error => cases passed
        | _ => exact ⟨rfl, caught⟩
      · split
        · exact ih
        · exact confined_pure

theorem uses_scheduleRetry {number : Nat} {error : SurfaceError} :
    Uses [.record "step_retry_scheduled", .sleep] v noSurface
      (scheduleRetry frame number error) := by
  unfold scheduleRetry
  refine confined_bind (uses_frameRecord.widen (by decide)) fun _ => ?_
  exact uses_sleep (by decide)

theorem uses_recordRecovery {run : ReplayRun} {eventType : String}
    {step : Step} {recovery : Recovery} {detail : String × Json} :
    Uses [.record eventType] v noSurface
      (recordRecovery run eventType step recovery detail) :=
  uses_record List.mem_cons_self

end Visit

section Resume

variable {run : ReplayRun} {continuation : ReplayContinuation} {step : Step}

/-- What the validation of a resume issues. -/
def validationKinds : List OpKind :=
  [.observe, .origin, .resolve, .extract, .evaluate, .wait, .capture, .attach,
    .record "resume_revalidation_started",
    .record "resume_checkpoint_verified"]

private theorem uses_resumeTarget {target : LocatorBundle} :
    Uses [] v ordinary (engine.resumeTarget continuation target) := by
  unfold resumeTarget
  refine confined_bind (confined_catching (c := ordinary)
    (confined_attempt throws_bindTargetInputs) fun _ normal _ => normal)
    fun bound => ?_
  split
  · exact confined_pure
  · exact confined_throw nofun

private theorem uses_reextract {observation : NormalizedObservation}
    {output : String} :
    Uses [.resolve, .origin, .extract] EngineState.ledger ordinary
      (engine.reextract continuation observation output) := by
  unfold reextract
  split
  · exact confined_throw nofun
  · split
    · refine confined_bind ((uses_resumeTarget engine).widen (by decide))
        fun bound => ?_
      refine confined_bind (uses_session (by simp)) fun target => ?_
      refine confined_bind ((uses_stepPolicy engine).widen (by decide))
        fun decision => ?_
      refine confined_bind (confined_raiseIf fun _ => nofun) fun _ => ?_
      refine confined_bind (uses_session (by simp)) fun text => ?_
      exact confined_modify fun _ => rfl
    · exact confined_throw nofun

private theorem uses_reextractAll {observation : NormalizedObservation}
    {outputs : List String} :
    Uses [.resolve, .origin, .extract] EngineState.ledger ordinary
      (engine.reextractAll continuation observation outputs) := by
  induction outputs with
  | nil => exact confined_pure
  | cons output rest ih =>
      unfold reextractAll
      exact confined_bind (uses_reextract engine) fun _ => ih

private theorem uses_resumeVerified {disposition : String} :
    Uses [.capture, .attach, .record "resume_checkpoint_verified"] v ordinary
      (resumeVerified continuation step disposition) := by
  unfold resumeVerified
  refine confined_bind (uses_attachFrame.widen (by decide)) fun _ => ?_
  exact (uses_record (by decide)).ordinary

private theorem uses_validateRetry {observation : NormalizedObservation} :
    Uses validationKinds v ordinary
      (engine.validateRetry continuation step observation) := by
  unfold validateRetry
  refine confined_bind (confined_raiseIf fun _ => nofun) fun _ => ?_
  refine confined_bind (uses_allHold.widen (by decide)) fun ready => ?_
  refine confined_bind (confined_raiseIf fun _ => nofun) fun _ => ?_
  refine confined_bind (confined_forM fun bundle => ?_) fun _ =>
    uses_resumeVerified.widen (by decide)
  refine confined_bind ((uses_resumeTarget engine).widen (by decide))
    fun bound => ?_
  exact confined_bind (uses_session (by simp [validationKinds]))
    fun _ => confined_pure

private theorem uses_requireIdentity {conditions : List Condition} :
    Uses [.evaluate] v ordinary (requireIdentity run conditions) := by
  induction conditions with
  | nil => exact confined_pure
  | cons condition rest ih =>
      unfold requireIdentity
      refine confined_ite (fun _ => ?_) fun _ => ih
      refine confined_bind uses_evaluate fun verified => ?_
      exact confined_bind (confined_raiseIf fun _ => nofun) fun _ => ih

private theorem uses_allReached {timeoutMs : Nat}
    {conditions : List Condition} :
    Uses [.wait] v ordinary (allReached run timeoutMs conditions) := by
  induction conditions with
  | nil => exact confined_pure
  | cons condition rest ih =>
      unfold allReached
      refine confined_bind uses_waitUntil fun reached => ?_
      exact confined_ite (fun _ => ih) fun _ => confined_pure

private theorem uses_validateEffect :
    Uses validationKinds v ordinary (validateEffect continuation step) := by
  unfold validateEffect
  refine confined_bind (uses_requireIdentity.widen (by decide)) fun _ => ?_
  refine confined_bind (uses_selectBranch.widen (by decide)) fun found => ?_
  split
  · exact confined_bind (uses_resumeVerified.widen (by decide))
      fun _ => confined_pure
  · refine confined_bind (confined_raiseIf fun _ => nofun) fun _ => ?_
    refine confined_bind (uses_allReached.widen (by decide)) fun reached => ?_
    refine confined_bind (confined_raiseIf fun _ => nofun) fun _ => ?_
    refine confined_bind (uses_session (by simp [validationKinds]))
      fun final => ?_
    refine confined_bind (confined_raiseIf fun _ => nofun) fun _ => ?_
    exact confined_bind (uses_resumeVerified.widen (by decide))
      fun _ => confined_pure

/-- A validation starts no recovery and retains no continuation. -/
theorem uses_validateResume :
    Uses validationKinds EngineState.ledger ordinary
      (engine.validateResume continuation) := by
  unfold validateResume
  refine confined_bind (confined_attempt fun error failed => ?_) fun _ => ?_
  · refine throws_bind (throws_require ordinary_value) (fun _ => ?_) error
      failed
    exact throws_require ordinary_value
  split
  · exact confined_throw nofun
  refine confined_bind (uses_session (by simp [validationKinds]))
    fun observation => ?_
  refine confined_bind (uses_record (by decide)).ordinary fun _ => ?_
  refine confined_bind (uses_session (by simp [validationKinds]))
    fun origin => ?_
  refine confined_bind (confined_raiseIf fun _ => nofun) fun _ => ?_
  refine confined_bind (confined_modify fun _ => rfl) fun _ => ?_
  refine confined_bind ((uses_reextractAll engine).widen (by decide))
    fun _ => ?_
  refine confined_ite (fun _ => ?_) fun _ => uses_validateEffect
  exact confined_bind (uses_validateRetry engine) fun _ => confined_pure

end Resume

end ReplayEngine

end ReplayForge

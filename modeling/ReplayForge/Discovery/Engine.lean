import ReplayForge.Discovery.Completion

/-!
# The discovery loop

A bounded loop of observation, proposal and action.  A run that is blocked
hands its session to a human and goes on with the next step of its budget.
-/

namespace ReplayForge

open Effect

namespace DiscoveryProposal

/-- The bindings and conditions of an action, by name and kind only. -/
def actionSummary : Action → Fields
  | .type (.input path) _ => [("input_binding", .str path)]
  | .extract output transform =>
      [("output_binding", .str output), ("transform", .str transform.value)]
  | .assert condition | .waitFor condition =>
      [("condition_kind", .str condition.kind)]
  | _ => []

def actSummary (proposal : ActProposal) : Fields :=
  [("proposal_kind", .str "act"),
    ("action_type", .str proposal.action.kind),
    ("declared_risk", .str proposal.declaredRisk.value),
    ("target_present", .bool proposal.target.isSome),
    ("frame_depth", .int
      ((proposal.target.map (·.scope.framePath.length)).getD 0)),
    ("locator_strategies", .arr
      ((proposal.target.map fun target =>
        target.visualCandidates.map (Json.str ·.strategy) ++
          target.candidates.map (Json.str ·.strategy.value)).getD []))] ++
  actionSummary proposal.action ++
  (proposal.expectedCondition.toList.map fun condition =>
    ("expected_condition_kind", .str condition.kind))

/-- `_proposal_summary`: never an expected text or a customer value. -/
def summary : DiscoveryProposal → Fields
  | .recordedAction stepId _ _ =>
      [("proposal_kind", .str "recorded_action"),
        ("source_step_id", .str stepId)]
  | .act proposal => actSummary proposal
  | .complete _ => [("proposal_kind", .str "complete")]
  | .escalate _ _ => [("proposal_kind", .str "escalate")]
  | .branch _ _ => [("proposal_kind", .str "branch")]

end DiscoveryProposal

namespace Discovery.Engine

variable (engine : Discovery.Engine)

/-! ## Notes for the model -/

def handoffNote : String :=
  "A human corrected the blocked live session. Reobserve and re-extract " ++
  "outputs. Manual actions are audit evidence, not recorded automation " ++
  "steps. The recorded program must still pass fresh deterministic replay."

/-- What the model is told after a rejected proposal. -/
def rejectionNote (proposal : ActProposal) (code : String) : String :=
  let rejected := "Rejected proposal (not executed): " ++
    engine.libraries.proposalText proposal
  if code = "target_ambiguous" then
    rejected ++
    "\nPrevious proposal was not executed (target_ambiguous). " ++
    "Choose a different uniquely identifiable target or anchor from the " ++
    "current screenshot. The relation across every matching anchor must " ++
    "identify one target; repeating this locator cannot resolve ambiguity. " ++
    "Escalate if no supported locator can distinguish the control."
  else if code = "visual_select_unsupported" then
    "Previous proposal was not executed: select requires a native DOM " ++
    "select element. For a rendered/custom dropdown, open the visible " ++
    "control and choose the observed option with click or supported keys. " ++
    "Use input_text for an option bound to invocation data."
  else if code = "literal_input_target" then
    "Previous proposal was not executed: invocation data appeared in its " ++
    "target. Use input_text with the relevant symbolic input path; " ++
    "optionally add the observed control text and its row/column relation."
  else if code = "extraction_locator_value_bound" then
    "Previous extraction was rejected and its output was not bound: " ++
    "the locator contains the value being extracted. Use a stable field " ++
    "label with rendered_field_value (or a structural DOM field locator), " ++
    "not the displayed customer, financial, date, or reference value."
  else if code ∈ ["condition_output_unbound", "condition_input_unbound"] then
    rejected ++ "\nCondition binding rejected (" ++ code ++ "). " ++
    "Extract the referenced required output before asserting or waiting " ++
    "on it, and use an available symbolic input path. Seeing text on " ++
    "screen does not bind an output. Captured and remaining output " ++
    "fields describe the actual runtime bindings."
  else if code = "risk_classification_unresolved" then
    "Previous proposal was not executed: if the screen visibly proves an " ++
    "explicit inverse, retry with reversible risk; otherwise escalate."
  else
    "Previous proposal was not executed (" ++ code ++ "); " ++
    "choose a different safe target."

/-- The step the recovery rejoins before. -/
def recoveryResumeBefore (run : DiscoveryRun) (state : DiscoveryState) :
    Option Step :=
  match run.request.scenario, state.observedBranch with
  | some scenario, some branch =>
      if scenario.kind = .recovery then
        scenario.primary.steps[branch.afterStepCount]?
      else none
  | _, _ => none

/-- The captured names are names of the contract's properties, in its
order. -/
def providerContext (run : DiscoveryRun) (state : DiscoveryState)
    (observation : NormalizedObservation) (screenshot : Bytes) :
    ProviderContext where
  goal := run.request.goal
  inputs := run.request.inputs
  observation := observation
  screenshot := screenshot
  actionHistory := state.history
  allowedActionTypes := run.policy.allowedActionTypes
  renderedSurface := run.session.renderedSurface
  outputContract := run.outputContract
  capturedOutputNames := run.outputContract.properties.keys.filter fun name =>
    (state.outputs.get? name).isSome
  maximumRisk := run.policy.maximumRisk
  previousVisualText :=
    (state.recordings.getLast?.map (·.observationBefore.visualTokens)).getD []
  referenceSteps :=
    (run.request.scenario.map (·.primary.steps)).getD []
  scenarioKind := run.request.scenario.map ScenarioContext.kind
  branchObserved := state.observedBranch.isSome
  recordedStepCount := state.recordings.length
  recoveryResumeBefore := recoveryResumeBefore run state

/-! ## Handoffs -/

/-- `handoff`: the human wait is excluded from the time budget, and what the
human may have invalidated is forgotten. -/
def handoff (run : DiscoveryRun) (number : Nat) (code : String)
    (current : NormalizedObservation) : Discovery Unit := do
  let pausedAt ← Discovery.runtime Runtime.now
  let state ← get
  let version ← Discovery.pause {
    request := run.request
    session := run.session
    policy := run.policy
    observation := current
    leaseVersion := state.leaseVersion
    code
    stepId := "discovery_step_" ++ toString number }
  let resumedAt ← Discovery.runtime Runtime.now
  modify fun state => { state with
    startedAt := state.startedAt + (resumedAt - pausedAt) }
  let lease ← Discovery.runtime (engine.leaseService.heartbeat
    run.session.sessionId version .automation)
  modify fun state => { state with
    leaseVersion := lease.version
    previousFingerprint := none
    previousAction := none
    repeatedState := 0
    repeatedAction := 0
    outputs := []
    history := state.history ++ [handoffNote] }

/-- The run is blocked, and goes on with its next step. -/
def handOver (run : DiscoveryRun) (number : Nat) (code : String)
    (current : NormalizedObservation) :
    Discovery (Option DiscoveryResult) := do
  engine.handoff run number code current
  return none

/-! ## Stuck detection -/

/-- Whether a state without an observation in between repeats too often. -/
def noteObservation (run : DiscoveryRun)
    (observation : NormalizedObservation) : Work Bool := do
  let state ← get
  let observational := state.recordings.getLast?.any (·.action.isObservational)
  let repeated :=
    if some observation.fingerprint = state.previousFingerprint ∧
        observational = false then state.repeatedState + 1
    else 0
  modify fun state => { state with
    previousFingerprint := some observation.fingerprint
    repeatedState := repeated }
  return run.request.maxRepeatedState ≤ repeated

/-- Whether an operation repeats too often. -/
def noteProposal (run : DiscoveryRun) (proposal : ActProposal) :
    Work Bool := do
  let state ← get
  let fingerprint := engine.libraries.operationFingerprint proposal
  let repeated :=
    if some fingerprint = state.previousAction then state.repeatedAction + 1
    else 0
  modify fun state => { state with
    previousAction := some fingerprint
    repeatedAction := repeated }
  return run.request.maxRepeatedAction ≤ repeated

/-! ## Proposals of a scenario -/

/-- The recorded action of the primary, to be grounded again. -/
def referenceProposal (step : Step) (rationale : ProposalText)
    (expected : Option Condition) : Except Raised ActProposal :=
  if targeted : step.action.requiresTarget = step.target.isSome then
    .ok {
      action := step.action
      target := step.target
      rationale
      expectedEffect := ⟨"Reobserve the recorded action's effect.", by decide⟩
      expectedCondition := scenarioExpectedCondition step expected
      declaredRisk := step.risk
      confidence := 1
      bounded := by decide
      targeted }
  else
    .error (.value (step.action.kind ++ " action " ++
      (if step.action.requiresTarget then "requires" else "cannot declare") ++
        " a target"))

/-- A branch is an assertion of its condition. -/
def branchProposal (condition : Condition) (rationale : ProposalText) :
    ActProposal where
  action := .assert condition
  rationale := rationale
  expectedEffect := ⟨"Verify the observed branch.", by decide⟩
  expectedCondition := some condition
  declaredRisk := .readOnly
  confidence := 1
  bounded := by decide
  targeted := rfl

/-! ## Acting on a proposal -/

/-- The exceptions of an action that the loop handles. -/
def actError : Raised → Option (SurfaceError ⊕ String)
  | .surface error => some (.inl error)
  | .discoveryBlocked code => some (.inr code)
  | _ => none

/-- A safely rejected proposal made no progress and does not consume the
allowance for repeated observations. -/
def rejectProposal (run : DiscoveryRun) (proposal : ActProposal)
    (code : String) : Work Unit := do
  run.record "proposal_rejected"
    [("code", .str code), ("effect_absent", .bool true)]
  modify fun state => { state with
    previousFingerprint := none
    repeatedState := 0
    history := state.history ++ [engine.rejectionNote proposal code] }

def handleSurfaceError (run : DiscoveryRun) (number : Nat)
    (proposal : ActProposal) (error : SurfaceError) :
    Discovery (Option DiscoveryResult) := do
  if error.recoverable && error.effectAbsent then
    Discovery.runtime (engine.rejectProposal run proposal error.code)
    return none
  else if error.interventionRecommended then
    let current ← Discovery.runtime (run.call .observe)
    engine.handOver run number error.code current
  else
    throw (.surface error)

/-- The branch of a recording that verified one; a terminal marker ends the
trace. -/
def observeBranch (run : DiscoveryRun) (recording : RecordedDiscoveryStep)
    (branch : ObservedBranch) : Work (Option DiscoveryResult) := do
  modify fun state => { state with observedBranch := some branch }
  run.record "branch_observed"
    [("after_step_count", .int branch.afterStepCount),
      ("condition_kind", .str branch.condition.kind)]
  if run.request.scenario.any (·.kind ≠ .recovery) then
    engine.renewControl run.session
    some <$> engine.complete run recording.observationAfter
  else
    return none

def observePending (run : DiscoveryRun) (recording : RecordedDiscoveryStep) :
    Option ObservedBranch → Work (Option DiscoveryResult)
  | some branch => engine.observeBranch run recording branch
  | none => return none

def keepRecording (run : DiscoveryRun) (pending : Option ObservedBranch)
    (recording : RecordedDiscoveryStep) (history : String) :
    Work (Option DiscoveryResult) := do
  modify fun state => { state with
    recordings := state.recordings ++ [recording] }
  match ← engine.observePending run recording pending with
  | some result => return some result
  | none => do
      modify fun state => { state with history := state.history ++ [history] }
      return none

/-- What a proposed action leads to; nothing when the loop goes on. -/
def attemptAct (run : DiscoveryRun) (number : Nat)
    (observation : NormalizedObservation) (proposal : ActProposal)
    (pending : Option ObservedBranch) :
    Discovery (Option DiscoveryResult) := do
  let stuck ← Discovery.runtime (engine.noteProposal run proposal)
  if stuck then
    engine.handOver run number "repeated_action" observation
  else if proposal.confidence < run.request.minimumConfidence then
    engine.handOver run number "low_model_confidence" observation
  else
    match ← handling actError
        (Discovery.runtime (engine.act run proposal observation)) with
    | .error (.inr code) => engine.handOver run number code observation
    | .error (.inl error) =>
        engine.handleSurfaceError run number proposal error
    | .ok (.failed result) => return some (.failure result)
    | .ok (.recorded recording history) =>
        Discovery.runtime (engine.keepRecording run pending recording history)

/-- A failure of the loop, which ends it. -/
def endFailed (run : DiscoveryRun) (code message : String) :
    Discovery (Option DiscoveryResult) :=
  some <$> Discovery.runtime (completionFailed run code message)

/-- What a proposal leads to; nothing when the loop goes on. -/
def follow (run : DiscoveryRun) (number : Nat)
    (observation : NormalizedObservation) :
    DiscoveryProposal → Discovery (Option DiscoveryResult)
  | .escalate reasonCode _ =>
      engine.handOver run number reasonCode observation
  | .complete _ =>
      Discovery.runtime (engine.attemptCompletion run observation)
  | .act proposal => engine.attemptAct run number observation proposal none
  | .recordedAction stepId rationale expected => do
      match run.request.scenario.bind fun scenario =>
          scenario.primary.steps.find? (·.id = stepId) with
      | none => do
          endFailed run "scenario_reference_invalid"
            "The requested recorded action is unavailable."
      | some step => do
          let proposal ← attempt (referenceProposal step rationale expected)
          engine.attemptAct run number observation proposal none
  | .branch condition rationale => do
      let state ← get
      if executed : 1 ≤ state.recordings.length then
        if run.request.scenario.isNone || state.observedBranch.isSome then
          endFailed run "scenario_branch_invalid"
            "A scenario requires one branch after an executed prefix."
        else
          engine.attemptAct run number observation
            (branchProposal condition rationale)
            (some ⟨state.recordings.length, condition, executed⟩)
      else
        endFailed run "scenario_branch_invalid"
          "A scenario requires one branch after an executed prefix."

/-! ## The loop -/

/-- One call of the model. -/
def propose (run : DiscoveryRun) (observation : NormalizedObservation) :
    Discovery DiscoveryProposal := do
  let screenshot ← Discovery.runtime (run.call .captureProviderFrame)
  Discovery.runtime (engine.renewControl run.session)
  let state ← get
  let proposal ← Discovery.decide
    (providerContext run state observation screenshot)
  Discovery.runtime (engine.renewControl run.session)
  Discovery.runtime
    (run.record "model_proposal_received" proposal.summary)
  return proposal

/-- The observation a step starts from, and whether the state is stuck. -/
def look (run : DiscoveryRun) :
    Work (NormalizedObservation × Bool) := do
  engine.renewControl run.session
  let observation ← run.call .observe
  run.record "observation_captured"
  let stuck ← noteObservation run observation
  return (observation, stuck)

/-- One pass of the loop; nothing when it goes on. -/
def step (run : DiscoveryRun) (number : Nat) :
    Discovery (Option DiscoveryResult) := do
  let now ← Discovery.runtime Runtime.now
  let state ← get
  if run.request.timeout ≤ now - state.startedAt then
    endFailed run "discovery_timeout" "Time budget exhausted."
  else
    let (observation, stuck) ← Discovery.runtime (engine.look run)
    if stuck then
      engine.handOver run number "repeated_observation" observation
    else
      let proposal ← engine.propose run observation
      engine.follow run number observation proposal

/-- The loop with the number of passes left and the number of the next. -/
def steps (run : DiscoveryRun) : Nat → Nat → Discovery DiscoveryResult
  | 0, _ => Discovery.runtime (completionFailed run "max_steps_exceeded"
      "Discovery step budget exhausted.")
  | remaining + 1, number => do
      match ← engine.step run number with
      | some result => return result
      | none => steps run remaining (number + 1)

/-! ## A run -/

/-- The policy of the request. -/
def resolvePolicy (request : DiscoveryRequest) :
    Except Raised EffectivePolicy :=
  match engine.policyResolver, engine.effectivePolicy with
  | some resolve, _ => resolve request
  | none, some policy => .ok policy
  | none, none => .error
      (.runtime "discovery policy resolver is not configured")

/-- The session of the run, under the automation's control. -/
def openSession (request : DiscoveryRequest) : Work SurfaceSession := do
  let session ← Runtime.openSession request.applicationFamily request.tenant
    request.entryPoint
  modify fun state => { state with session := some session }
  let lease ← engine.leaseService.createForAutomation session.sessionId
  modify fun state => { state with leaseVersion := lease.version }
  Runtime.record "discovery_started" request.runId
  return session

def explore (request : DiscoveryRequest) : Discovery DiscoveryResult := do
  let policy ← attempt (engine.resolvePolicy request)
  let session ← Discovery.runtime (engine.openSession request)
  let draft ← engine.planContract request session policy
  engine.steps { request, session, policy, draft } request.maxSteps 1

/-- The exceptions that end a run with a failure: its code, its message and
the frame the exception carries. -/
def runError : Raised → Option (String × String × Option Bytes)
  | .modelProvider code message => some (code, message, none)
  | .surface error => some (error.code, error.safeMessage, error.failureFrame)
  | .leaseExpired =>
      some ("control_lease_expired", "Automation control expired.", none)
  | .leaseConflict =>
      some ("control_lease_conflict", "Automation ownership changed.", none)
  | _ => none

def closeSession : Work Unit := do
  let state ← get
  match state.session with
  | some session => Runtime.session session.sessionId .close
  | none => return ()

/-- The exploration, whose handled exceptions end it with a failure. -/
def guarded (request : DiscoveryRequest) : Discovery DiscoveryResult := do
  match ← handling runError (engine.explore request) with
  | .ok result => return result
  | .error (code, message, failureFrame) =>
      let state ← get
      .failure <$> Discovery.runtime
        (failure request state.session code message none failureFrame)

/-- `_run` -/
def run (request : DiscoveryRequest) : Discovery DiscoveryResult := do
  let startedAt ← Discovery.runtime Runtime.now
  modify fun state => { state with startedAt }
  closing (engine.guarded request) (Discovery.runtime closeSession)

end Discovery.Engine

end ReplayForge

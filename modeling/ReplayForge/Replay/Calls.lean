import ReplayForge.Replay.Engine

/-!
# The calls of the replay engine

`execute`, `validate_resume` and `resume`.  The step loop carries a bound on
its visits; the code has none, and running out of it is not one of its
outcomes.
-/

namespace ReplayForge

open Effect

namespace ReplayEngine

variable (engine : ReplayEngine)

/-- `str(error)` of a contract validation error. -/
def contractText (path code : String) : String :=
  path ++ ": " ++ code

def runFailure (run : ReplayRun) (code message : String) : Replay RunResult :=
  failure run.request code message false none none none (some run.session)

def success (run : ReplayRun) (outputs : Fields) : Replay RunResult := do
  Runtime.record "checkpoint_verified" run.request.runId
  let evidenceManifest ← Runtime.evidenceManifestKey
  let result ← attempt (SuccessResult.make {
    runId := run.request.runId
    evidenceManifest
    capabilityId := run.artifact.capability.id
    capabilityVersion := run.artifact.capability.version
    outputs
    checkpointId := run.artifact.checkpoint.id })
  pure (.success result)

def complete (run : ReplayRun) : Replay RunResult := do
  if ← run.waitUntil run.artifact.checkpoint.condition 10000 then
    let outputs := (← get).outputs
    match ← Runtime.catching Raised.contract? (attempt
        (validateObject engine.host run.artifact.outputs outputs.fields)) with
    | .error (path, code) =>
        runFailure run "output_validation_failed" (contractText path code)
    | .ok validated => success run validated
  else
    runFailure run "checkpoint_mismatch"
      "The final success checkpoint was not satisfied."

def retainContinuation (run : ReplayRun) (interventionId : String)
    (interruptedStepIndex : Nat) : Replay Unit := do
  let point := ((← get).pausePoints.get? interventionId).getD (false, 1)
  modify fun state => { state with
    pausePoints := state.pausePoints.erase interventionId }
  if engine.continuationSink then
    let observation ← run.call .observe
    let state ← get
    Runtime.retain {
      interventionId
      request := run.request
      session := run.session
      inputs := run.inputs
      outputs := state.outputs
      recoveryUses := state.recoveryUses
      interruptedStepIndex
      initialFingerprint := observation.fingerprint
      retryStep := point.1
      retryAttempt := point.2 }

/-- Only an intervention leaves a continuation. -/
def retainResult (run : ReplayRun) (index : Nat) : RunResult → Replay Unit
  | .interventionRequired required =>
      engine.retainContinuation run required.interventionId index
  | _ => pure ()

/-- A result that ends the step loop at an index. -/
def endLoop (run : ReplayRun) (index : Nat) (result : RunResult) :
    Replay RunResult := do
  modify fun state => { state with preserveSession := result.isIntervention }
  engine.retainResult run index result
  pure result

/-- The `while` loop over the main steps, for at most `visits` visits.
`firstAttempt` is the attempt number a step starts with. -/
def stepLoop (run : ReplayRun) (firstAttempt : Nat → Nat) :
    Nat → Nat → Nat → Replay RunResult
  | visits, index, leaseVersion =>
      match run.artifact.steps[index]? with
      | none => engine.complete run
      | some step =>
          match visits with
          | 0 => throw .unfinished
          | visits + 1 => do
              match ← engine.executeStepWith
                  (engine.mainFrame run index step leaseVersion)
                  (firstAttempt index) with
              | .resume stepId version =>
                  let lease ← engine.leaseService.heartbeat
                    run.session.sessionId version .automation
                  -- Main step identifiers are unique.
                  match run.request.stepIndex? (some stepId) with
                  | none => throw (.key stepId)
                  | some target =>
                      stepLoop run firstAttempt visits target lease.version
              | .finished result => engine.endLoop run index result
              | .advance =>
                  let lease ← engine.leaseService.heartbeat
                    run.session.sessionId leaseVersion .automation
                  stepLoop run firstAttempt visits (index + 1) lease.version

/-- `session.close()` unless the session is preserved. -/
def closeUnlessPreserved (session : SurfaceSession) : Replay Unit := do
  if (← get).preserveSession then
    pure ()
  else
    Runtime.session session.sessionId .close

/-- The `except` clause around an open session. -/
def reportEscaped (request : ReplayRequest) (session : SurfaceSession)
    (error : SurfaceError) : Replay RunResult := do
  let result ← engine.surfaceFailure request (some session) none error
  modify fun state => { state with preserveSession := result.isIntervention }
  pure result

/-- The `except` and `finally` clauses around an open session. -/
def guardSession (request : ReplayRequest) (session : SurfaceSession)
    (body : Replay RunResult) : Replay RunResult :=
  Runtime.ensuring
    (do
      match ← Runtime.catching Raised.surface? body with
      | .ok result => pure result
      | .error error => engine.reportEscaped request session error)
    (closeUnlessPreserved session)

/-- The compatibility validator, when one is configured. -/
def validateCompatibility (request : ReplayRequest) : Replay Unit :=
  if engine.compatibilityValidator then
    Runtime.validateCompatibility request.artifact request.tenant
  else
    pure ()

def openSession (request : ReplayRequest) : Replay SurfaceSession := do
  engine.validateCompatibility request
  Runtime.openSession request.artifact.capability.applicationFamily
    request.tenant request.artifact.compatibility.entryPoint

/-- The body of `execute` once the session is open. -/
def runSession (visits : Nat) (run : ReplayRun) : Replay RunResult := do
  let lease ← engine.leaseService.createForAutomation run.session.sessionId
  Runtime.record "replay_started" run.request.runId
  modify fun state => { state with outputs := [], recoveryUses := [] }
  if ← allHold run run.artifact.preconditions then
    engine.stepLoop run (fun _ => 1) visits 0 lease.version
  else
    runFailure run "precondition_mismatch"
      "A capability precondition was not satisfied."

def execute (visits : Nat) (request : ReplayRequest) : Replay RunResult := do
  match ← Runtime.catching Raised.contract? (attempt
      (validateObject engine.host request.artifact.inputs request.inputs)) with
  | .error (path, code) =>
      failure request "invalid_input" (contractText path code) false
  | .ok inputs =>
      if request.tenant ∉ request.artifact.compatibility.supportedVariants then
        failure request "incompatible_tenant"
          "Tenant is not supported by this artifact." false
      else
        modify fun state => { state with preserveSession := false }
        match ← Runtime.catching Raised.surface?
            (engine.openSession request) with
        | .error error => engine.surfaceFailure request none none error
        | .ok session =>
            engine.guardSession request session
              (engine.runSession visits { request, session, inputs })

/-- `_assert_continuation` -/
def assertContinuation (continuation : ReplayContinuation) :
    Except Raised Unit := do
  require (continuation.interruptedStepIndex <
      continuation.request.artifact.steps.length)
    "continuation step index is outside the artifact"
  require (1 ≤ continuation.retryAttempt && continuation.retryAttempt ≤ 5)
    "continuation attempt is outside the retry budget"

theorem retryAttempt_positive {continuation : ReplayContinuation}
    (valid : assertContinuation continuation = .ok ()) :
    1 ≤ continuation.retryAttempt := by
  unfold assertContinuation at valid
  simp only [check_bind_eq_ok, require_eq_ok, Bool.and_eq_true,
    decide_eq_true_eq] at valid
  exact valid.2.1

end ReplayEngine

namespace ReplayContinuation

def run (continuation : ReplayContinuation) : ReplayRun where
  request := continuation.request
  session := continuation.session
  inputs := continuation.inputs

/-- The index the step loop continues at. -/
def startIndex (continuation : ReplayContinuation) : Nat :=
  continuation.interruptedStepIndex + if continuation.retryStep then 0 else 1

/-- The attempt number a step starts with after the pause. -/
def firstAttempt (continuation : ReplayContinuation) (index : Nat) : Nat :=
  if index = continuation.interruptedStepIndex then continuation.retryAttempt
  else 1

/-- The last extraction of an output up to the interrupted step. -/
def extraction? (continuation : ReplayContinuation) (output : String) :
    Option Step :=
  (continuation.request.artifact.steps.take
    (continuation.interruptedStepIndex + 1)).reverse.find? fun prior =>
      match prior.action with
      | .extract name _ => name = output
      | _ => false

/-- The conditions a resume evaluates for the interrupted step. -/
def conditions (continuation : ReplayContinuation) (step : Step) :
    List Condition :=
  (if continuation.retryStep then step.preconditions
    else step.postconditions) ++
  (continuation.request.artifact.outcomes.filter
    (·.code ∈ step.outcomeRefs)).map BusinessOutcome.detect

end ReplayContinuation

namespace ReplayEngine

variable (engine : ReplayEngine)

def resumeTarget (continuation : ReplayContinuation)
    (target : LocatorBundle) : Replay LocatorBundle := do
  match ← Runtime.catching Raised.contract? (attempt
      (bindTargetInputs target continuation.inputs
        (some continuation.request.artifact.inputs)
        engine.effectivePolicy.forbiddenFieldClasses)) with
  | .ok bundle => pure bundle
  | .error _ =>
      throw (.resumeValidation "resume_target_forbidden"
        "The resume target binding is unavailable or forbidden.")

/-- Read one output again, through its extraction step. -/
def reextract (continuation : ReplayContinuation)
    (observation : NormalizedObservation) (output : String) :
    Replay Unit := do
  let run := continuation.run
  match continuation.extraction? output with
  | none =>
      throw (.resumeValidation "resume_output_unavailable"
        "Fresh output is unavailable.")
  | some extraction =>
      match extraction.action, extraction.target with
      | .extract _ transform, some bundle =>
          let bound ← engine.resumeTarget continuation bundle
          let target ← run.call (.resolve bound 2000)
          let decision ← engine.stepPolicy continuation.request
            continuation.session extraction observation (some target)
          Runtime.raiseIf (decision.decision ≠ .allow)
            (.resumeValidation "resume_output_forbidden"
              "Fresh output is not permitted.")
          let text ← run.call (.extract target)
          modify fun state => { state with
            outputs := state.outputs.set output
              (transformExtractedText engine.host text transform) }
      | _, _ =>
          throw (.resumeValidation "resume_output_unavailable"
            "Fresh output is unavailable.")

def reextractAll (continuation : ReplayContinuation)
    (observation : NormalizedObservation) : List String → Replay Unit
  | [] => pure ()
  | output :: rest => do
      engine.reextract continuation observation output
      reextractAll continuation observation rest

/-- The frame and the record of a verified resume. -/
def resumeVerified (continuation : ReplayContinuation) (step : Step)
    (disposition : String) : Replay Unit := do
  attachFrame continuation.session "handoff-after" .humanAudit
  Runtime.record "resume_checkpoint_verified" continuation.request.runId
    (some step.id) [("disposition", .str disposition)]

/-- The checks of a resume that retries the step. -/
def validateRetry (continuation : ReplayContinuation) (step : Step)
    (observation : NormalizedObservation) : Replay Unit := do
  let run := continuation.run
  Runtime.raiseIf
    (observation.fingerprint = continuation.initialFingerprint)
    (.resumeValidation "resume_state_unchanged"
      "Restore the blocked interface first.")
  let ready ← allHold run step.preconditions
  Runtime.raiseIf (ready = false)
    (.resumeValidation "resume_checkpoint_mismatch"
      "Step readiness is not verified.")
  step.target.forM fun bundle => do
    let bound ← engine.resumeTarget continuation bundle
    let _ ← run.call (.resolve bound 2000)
    pure ()
  resumeVerified continuation step "retry_step"

/-- Every identity-bearing condition must hold. -/
def requireIdentity (run : ReplayRun) : List Condition → Replay Unit
  | [] => pure ()
  | condition :: rest => do
      if condition.containsIdentity then
        let verified ← run.evaluate condition
        Runtime.raiseIf (verified = false)
          (.resumeValidation "resume_identity_mismatch"
            "The selected record identity was not verified.")
        requireIdentity run rest
      else
        requireIdentity run rest

/-- Wait for conditions in order up to the first that does not hold. -/
def allReached (run : ReplayRun) (timeoutMs : Nat) :
    List Condition → Replay Bool
  | [] => pure true
  | condition :: rest => do
      if ← run.waitUntil condition timeoutMs then
        allReached run timeoutMs rest
      else
        pure false

/-- The checks of a resume that verifies the step's effect. -/
def validateEffect (continuation : ReplayContinuation) (step : Step) :
    Replay (Option BusinessOutcome) := do
  let run := continuation.run
  requireIdentity run step.postconditions
  match ← detectOutcome run step with
  | some outcome =>
      resumeVerified continuation step "business_outcome"
      pure (some outcome)
  | none =>
      Runtime.raiseIf (step.postconditions = [])
        (.resumeValidation "resume_checkpoint_missing"
          ("The interrupted step has no declared postcondition for safe " ++
            "resumption."))
      let reached ← allReached run 2000 step.postconditions
      Runtime.raiseIf (reached = false)
        (.resumeValidation "resume_checkpoint_mismatch"
          ("The human-modified state does not satisfy the interrupted step " ++
            "postcondition."))
      let final ← run.call .observe
      Runtime.raiseIf (final.fingerprint = continuation.initialFingerprint)
        (.resumeValidation "resume_state_unchanged"
          "The retained session has not changed since automation paused.")
      resumeVerified continuation step "continue"
      pure none

/-- The outputs it leaves in the state are those of the continuation, which
the source mutates in place. -/
def validateResume (continuation : ReplayContinuation) :
    Replay (Option BusinessOutcome) := do
  attempt (assertContinuation continuation)
  match continuation.request.artifact.steps[
      continuation.interruptedStepIndex]? with
  | none => throw .assertion
  | some step =>
      let run := continuation.run
      let observation ← run.call .observe
      Runtime.record "resume_revalidation_started" continuation.request.runId
        (some step.id)
      let origin ← run.call .origin
      Runtime.raiseIf
        (PolicyEvaluator.locationAllowed engine.host engine.effectivePolicy
          origin observation.route = false)
        (.resumeValidation "resume_location_not_allowed"
          "The retained session is outside the capability's allowed location.")
      let needed := sortedSet
        ((continuation.conditions step).flatMap Condition.conditionOutputs)
      -- Human actions invalidate the stored values.
      modify fun state => { state with outputs := [] }
      engine.reextractAll continuation observation needed
      if continuation.retryStep then
        engine.validateRetry continuation step observation
        pure none
      else
        validateEffect continuation step

def resume (visits : Nat) (continuation : ReplayContinuation)
    (automationLeaseVersion : Nat)
    (outcome : Option BusinessOutcome := none) : Replay RunResult := do
  attempt (assertContinuation continuation)
  match outcome with
  | some verified =>
      Runtime.session continuation.session.sessionId .close
      engine.businessOutcome continuation.request verified continuation.inputs
  | none =>
      modify fun state => { state with
        outputs := continuation.outputs
        recoveryUses := continuation.recoveryUses
        preserveSession := false }
      engine.guardSession continuation.request continuation.session
        (engine.stepLoop continuation.run continuation.firstAttempt visits
          continuation.startIndex automationLeaseVersion)

end ReplayEngine

end ReplayForge

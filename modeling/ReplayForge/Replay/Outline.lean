import ReplayForge.Replay.Footprints

/-!
# Proof outlines of the replay engine

The inductions over the engine's loops, each made once.  An outline names the
assertions at the points of a piece of code; its fields lead from one point to
the next and its theorem covers every run through the code.
-/

namespace ReplayForge

open Effect

/-- The attempts left after the current one and its number. -/
structure AttemptPoint where
  remaining : Nat
  number : Nat

/-- The first assertion without a result, the second with one. -/
def orEnded {α Q : Type} (idle : Assertion EngineState Q)
    (ended : α → Assertion EngineState Q) :
    Option α → Assertion EngineState Q
  | none => idle
  | some result => ended result

section Parts

variable {engine : ReplayEngine} {run : ReplayRun} {step : Step}
  {frame : StepFrame} {Q : Type} {watch : Watch RuntimeSig Q}
  {before idle : Assertion EngineState Q}
  {ended : StepResult → Assertion EngineState Q}
  {raised : Raised → Assertion EngineState Q}

/-- A selected branch is a declared one. -/
theorem guarantees_selectBranch_mem {α : Type} {items : List α}
    {key : α → String} {condition : α → Condition} {refs : List String}
    {message : String} :
    Guarantees watch (fun _ _ => True)
      (ReplayEngine.selectBranch run items key condition refs message)
      (fun choice _ _ => ∀ item, choice = some item → item ∈ items)
      (fun _ _ _ => True) := by
  have members : Guarantees watch (fun _ _ => True)
      (ReplayEngine.matching run items key condition refs)
      (fun found _ _ => ∀ item ∈ found, item ∈ items)
      (fun _ _ _ => True) := by
    induction refs with
    | nil => exact guarantees_pure fun _ _ _ => by simp
    | cons code rest ih =>
        unfold ReplayEngine.matching
        split
        next => exact guarantees_throw fun _ _ _ => trivial
        next item found =>
          have declared : item ∈ items :=
            List.mem_reverse.mp (List.mem_of_find?_eq_some found)
          refine guarantees_bind (m := fun _ _ _ => True)
            (fun _ _ _ result _ _ _ => by cases result <;> trivial)
            fun holds => ?_
          refine guarantees_bind ih fun others => guarantees_pure ?_
          intro _ _ included
          cases holds with
          | false => exact included
          | true => simpa using ⟨declared, included⟩
  unfold ReplayEngine.selectBranch
  refine guarantees_bind members fun found => ?_
  refine guarantees_bind (m := fun _ _ _ => ∀ item ∈ found, item ∈ items)
    (guarantees_raiseIf (fun _ _ here _ => here) fun _ _ _ _ => trivial)
    fun _ => guarantees_pure ?_
  intro _ _ included item first
  exact included item (List.mem_of_mem_head? first)

theorem guarantees_outcomeResult
    {s : BusinessOutcome → Assertion EngineState Q}
    (detect : Guarantees watch before (ReplayEngine.detectOutcome run step)
      (orEnded idle s) raised)
    (report : ∀ outcome, Guarantees watch (s outcome)
      (engine.businessOutcome run.request outcome run.inputs)
      (fun result => ended (.finished result)) raised) :
    Guarantees watch before (engine.outcomeResult run step)
      (orEnded idle ended) raised := by
  unfold ReplayEngine.outcomeResult
  refine guarantees_bind detect fun choice => ?_
  cases choice with
  | none => exact guarantees_pure fun _ _ here => here
  | some outcome =>
      exact guarantees_bind (report outcome) fun result =>
        guarantees_pure fun _ _ here => here

theorem guarantees_failureResult
    {s : ApplicationFailure → Assertion EngineState Q}
    (detect : Guarantees watch before (ReplayEngine.detectFailure run step)
      (orEnded idle s) raised)
    (report : ∀ declared, Guarantees watch (s declared)
      (ReplayEngine.applicationFailure run step.id declared)
      (fun result => ended (.finished result)) raised) :
    Guarantees watch before (ReplayEngine.failureResult run step)
      (orEnded idle ended) raised := by
  unfold ReplayEngine.failureResult
  refine guarantees_bind detect fun choice => ?_
  cases choice with
  | none => exact guarantees_pure fun _ _ here => here
  | some declared =>
      exact guarantees_bind (report declared) fun result =>
        guarantees_pure fun _ _ here => here

theorem guarantees_surfaceResult {error : SurfaceError}
    {diagnostic : ExecutionDiagnostic}
    (invalid : ∀ failure seen state, ordinary failure → before seen state →
      raised failure seen state)
    (report : ∀ checked, Guarantees watch before
      (engine.surfaceFailure frame.run.request (some frame.run.session)
        frame.stepId error (some frame.leaseVersion) (some checked)
        frame.mode.allowIntervention)
      (fun result => ended (.finished result)) raised) :
    Guarantees watch before (engine.surfaceResult frame error diagnostic)
      ended raised := by
  unfold ReplayEngine.surfaceResult
  refine guarantees_bind (m := fun _ => before)
    (guarantees_attempt (fun _ _ _ here _ => here)
      fun seen state failure here failed => invalid failure seen state
        (throws_diagnostic (fun _ => ordinary_value) failure failed) here)
    fun checked => ?_
  exact guarantees_bind (report checked) fun result =>
    guarantees_pure fun _ _ here => here

end Parts

/-- The own action of a step and its record.  `tested` speaks of the condition
of an assert, wait or checkpoint action. -/
structure ActionOutline (engine : ReplayEngine) (frame : StepFrame)
    (target : Option ResolvedTarget) {Q : Type}
    (watch : Watch RuntimeSig Q) where
  before : Assertion EngineState Q
  tested : Bool → Assertion EngineState Q
  /-- The action was performed. -/
  acted : Assertion EngineState Q
  after : Assertion EngineState Q
  raised : Raised → Assertion EngineState Q
  assert : ∀ condition, frame.step.action = .assert condition →
    Guarantees watch before (frame.run.evaluate condition) tested raised
  checkpoint : ∀ checkpointId, frame.step.action = .checkpoint checkpointId →
    Guarantees watch before
      (frame.run.evaluate frame.artifact.checkpoint.condition) tested raised
  wait : ∀ condition, frame.step.action = .waitFor condition →
    Guarantees watch before
      (frame.run.waitUntil condition frame.step.timeoutMs) tested raised
  satisfied : ∀ seen state, tested true seen state → acted seen state
  unsatisfied : ∀ error seen state, tested false seen state →
    raised (.surface error) seen state
  extract : ∀ output transform resolved,
    frame.step.action = .extract output transform →
    Guarantees watch before (frame.run.call (.extract resolved))
      (fun text seen state => acted seen { state with
        outputs := state.outputs.set output
          (transformExtractedText engine.host text transform) }) raised
  absent : ∀ error seen state, before seen state →
    raised (.surface error) seen state
  dispatch : frame.step.action.isDispatched = true →
    Guarantees watch before
      (frame.run.call
        (.execute frame.step.action target frame.run.inputs))
      (fun receipt seen state =>
        (receipt.status = .failed → ∀ error : SurfaceError,
          error.recoverable = false → raised (.surface error) seen state) ∧
        (receipt.status = .completed → acted seen state)) raised
  record : Guarantees watch acted (frame.record "action_result")
    (fun _ => after) raised

namespace ActionOutline

variable {engine : ReplayEngine} {frame : StepFrame}
  {target : Option ResolvedTarget} {Q : Type} {watch : Watch RuntimeSig Q}
  (outline : ActionOutline engine frame target watch)

private theorem requireSatisfied (holds : Bool) :
    Guarantees watch (outline.tested holds)
      (ReplayEngine.requireSatisfied holds) (fun _ => outline.acted)
      outline.raised := by
  refine guarantees_raiseIf (fun seen state here passed => ?_)
    fun seen state here failed => ?_
  · rw [Bool.not_eq_false] at passed
    subst passed
    exact outline.satisfied seen state here
  · subst failed
    exact outline.unsatisfied _ seen state here

private theorem ownAction :
    Guarantees watch outline.before (engine.ownAction frame target)
      (fun _ => outline.acted) outline.raised := by
  have dispatches : frame.step.action.isDispatched = true →
      Guarantees watch outline.before
        (do
          let receipt ← frame.run.call
            (.execute frame.step.action target frame.run.inputs)
          Runtime.raiseIf (receipt.status = .failed) (.surface {
            code := ReplayEngine.receiptCode receipt
            safeMessage :=
              "The surface adapter could not complete the action." }))
        (fun _ => outline.acted) outline.raised := by
    intro dispatched
    refine guarantees_bind (outline.dispatch dispatched) fun receipt => ?_
    refine guarantees_raiseIf (fun seen state here passed => ?_)
      fun seen state here failed => here.1 failed _ rfl
    refine here.2 ?_
    cases status : receipt.status with
    | completed => rfl
    | failed => exact absurd status passed
  unfold ReplayEngine.ownAction
  split
  next condition action =>
    exact guarantees_bind (outline.assert condition action)
      outline.requireSatisfied
  next checkpointId action =>
    exact guarantees_bind (outline.checkpoint checkpointId action)
      outline.requireSatisfied
  next condition action =>
    exact guarantees_bind (outline.wait condition action)
      outline.requireSatisfied
  next output transform action =>
    cases target with
    | none => exact guarantees_throw (outline.absent _)
    | some resolved =>
        exact guarantees_bind (outline.extract output transform resolved action)
          fun text => guarantees_modify fun _ _ here => here
  next =>
    apply dispatches
    unfold Action.isDispatched
    split <;> simp_all

theorem performAction :
    Guarantees watch outline.before (engine.performAction frame target)
      (fun _ => outline.after) outline.raised := by
  unfold ReplayEngine.performAction
  exact guarantees_bind outline.ownAction fun _ => outline.record

end ActionOutline

/-- The assertions of one visit of a step. -/
structure VisitPoints (Q : Type) where
  /-- Before an attempt. -/
  ready : AttemptPoint → Assertion EngineState Q
  /-- Behind the mark of the attempt. -/
  entered : AttemptPoint → Assertion EngineState Q
  admitted : AttemptPoint → Option ResolvedTarget → Assertion EngineState Q
  acted : AttemptPoint → Assertion EngineState Q
  /-- Not every identity postcondition was verified. -/
  unverified : AttemptPoint → Assertion EngineState Q
  verified : AttemptPoint → Assertion EngineState Q
  /-- The `try` block raised a surface error. -/
  failing : AttemptPoint → Bool → SurfaceError → Assertion EngineState Q
  /-- Behind the mark of the `except` branch. -/
  handling : AttemptPoint → Bool → SurfaceError → Assertion EngineState Q
  ended : StepResult → Assertion EngineState Q
  escaped : Raised → Assertion EngineState Q

/-- What the `try` block leaves when it raises. -/
def VisitPoints.thrown {Q : Type} (points : VisitPoints Q)
    (point : AttemptPoint) (dispatched : Bool) (error : Raised) :
    Assertion EngineState Q :=
  match error.surface? with
  | some failure => points.failing point dispatched failure
  | none => points.escaped error

/-- Where admission leads. -/
def VisitPoints.admission {Q : Type} (points : VisitPoints Q)
    (point : AttemptPoint) : Admission → Assertion EngineState Q
  | .ended result => points.ended (.finished result)
  | .admitted target => points.admitted point target

/-- Where the identity guard leads. -/
def VisitPoints.guarded {Q : Type} (points : VisitPoints Q)
    (point : AttemptPoint) (holds : Bool) : Assertion EngineState Q :=
  if holds then points.verified point else points.unverified point

/-- One visit of a step: every part of the code leads from its assertion to
the next. -/
structure VisitOutline (engine : ReplayEngine) (frame : StepFrame) {Q : Type}
    (watch : Watch RuntimeSig Q) extends VisitPoints Q where
  attempt : ∀ point seen state, ready point seen state →
    entered point (watch seen ⟨.mark (.attempt frame.index point.number), ()⟩)
      state
  checks : ∀ point, Guarantees watch (entered point) (engine.admitStep frame)
    (toVisitPoints.admission point) (toVisitPoints.thrown point false)
  act : ∀ point target, Guarantees watch (admitted point target)
    (engine.performAction frame target) (fun _ => acted point)
    (toVisitPoints.thrown point frame.step.action.isDispatched)
  verify : ∀ point, Guarantees watch (acted point)
    (ReplayEngine.identityVerified frame frame.step.postconditions)
    (toVisitPoints.guarded point)
    (toVisitPoints.thrown point frame.step.action.isDispatched)
  refuse : ∀ point, Guarantees watch (unverified point)
    (ReplayEngine.stepFailure frame "postcondition_mismatch"
      "The selected record identity was not verified.")
    (fun result => ended (.finished result))
    (toVisitPoints.thrown point frame.step.action.isDispatched)
  waits : ∀ point condition, Guarantees watch (verified point)
    (frame.run.waitUntil condition frame.step.timeoutMs)
    (fun _ => verified point)
    (toVisitPoints.thrown point frame.step.action.isDispatched)
  outcome : ∀ point, Guarantees watch (verified point)
    (engine.outcomeResult frame.run frame.step)
    (orEnded (verified point) ended)
    (toVisitPoints.thrown point frame.step.action.isDispatched)
  failure : ∀ point, Guarantees watch (verified point)
    (ReplayEngine.failureResult frame.run frame.step)
    (orEnded (verified point) ended)
    (toVisitPoints.thrown point frame.step.action.isDispatched)
  recover : ∀ point, Guarantees watch (verified point) frame.recover
    (orEnded (verified point) ended)
    (toVisitPoints.thrown point frame.step.action.isDispatched)
  unmet : ∀ point condition, Guarantees watch (verified point)
    (engine.surfaceResult frame {
      code := "postcondition_mismatch"
      safeMessage :=
        "The action completed but its declared effect was not observed." }
      (ReplayEngine.postconditionDiagnostic frame point.number condition))
    ended (toVisitPoints.thrown point frame.step.action.isDispatched)
  advance : ∀ point seen state, verified point seen state →
    ended .advance seen state
  caught : ∀ point dispatched error seen state,
    failing point dispatched error seen state →
    handling point dispatched error
      (watch seen ⟨.mark (.failed frame.index error), ()⟩) state
  retry : ∀ remaining number dispatched error,
    ReplayEngine.retryable frame.step error = true →
    Guarantees watch (handling ⟨remaining + 1, number⟩ dispatched error)
      (ReplayEngine.scheduleRetry frame number error)
      (fun _ => ready ⟨remaining, number + 1⟩) escaped
  rescue : ∀ point dispatched error,
    point.remaining = 0 ∨ ReplayEngine.retryable frame.step error = false →
    Guarantees watch (handling point dispatched error) frame.recover
      (orEnded (handling point dispatched error) ended) escaped
  report : ∀ point dispatched error, Guarantees watch
    (handling point dispatched error)
    (engine.surfaceResult frame error
      (ReplayEngine.errorDiagnostic frame point.number dispatched error))
    ended escaped

namespace VisitOutline

variable {engine : ReplayEngine} {frame : StepFrame} {Q : Type}
  {watch : Watch RuntimeSig Q} (outline : VisitOutline engine frame watch)

private theorem unmetPostcondition (point : AttemptPoint)
    (condition : Condition) :
    Guarantees watch (outline.verified point)
      (engine.unmetPostcondition frame point.number condition) outline.ended
      (outline.thrown point frame.step.action.isDispatched) := by
  unfold ReplayEngine.unmetPostcondition
  refine guarantees_orNext (outline.outcome point) (fun _ _ _ here => here) ?_
  refine guarantees_orNext (outline.recover point) (fun _ _ _ here => here) ?_
  refine guarantees_orNext (outline.failure point) (fun _ _ _ here => here) ?_
  exact outline.unmet point condition

private theorem settlePostconditions (point : AttemptPoint)
    (conditions : List Condition) :
    Guarantees watch (outline.verified point)
      (engine.settlePostconditions frame point.number conditions) outline.ended
      (outline.thrown point frame.step.action.isDispatched) := by
  induction conditions with
  | nil => exact guarantees_pure (outline.advance point)
  | cons condition rest ih =>
      unfold ReplayEngine.settlePostconditions
      refine guarantees_ite (fun _ => ih) fun _ => ?_
      refine guarantees_bind (outline.waits point condition) fun holds => ?_
      refine guarantees_ite (fun _ => ?_) fun _ =>
        outline.unmetPostcondition point condition
      exact guarantees_orNext (outline.outcome point)
        (fun _ _ _ here => here) ih

private theorem settleStep (point : AttemptPoint) :
    Guarantees watch (outline.verified point)
      (engine.settleStep frame point.number) outline.ended
      (outline.thrown point frame.step.action.isDispatched) := by
  unfold ReplayEngine.settleStep
  refine guarantees_orNext (outline.outcome point) (fun _ _ _ here => here) ?_
  refine guarantees_orNext (outline.failure point) (fun _ _ _ here => here) ?_
  refine guarantees_orNext (outline.recover point) (fun _ _ _ here => here) ?_
  exact outline.settlePostconditions point _

private theorem actStep (point : AttemptPoint)
    (target : Option ResolvedTarget) :
    Guarantees watch (outline.admitted point target)
      (engine.actStep frame point.number target) outline.ended
      (outline.thrown point frame.step.action.isDispatched) := by
  unfold ReplayEngine.actStep
  refine guarantees_bind (outline.act point target) fun _ => ?_
  refine guarantees_bind (outline.verify point) fun holds => ?_
  cases holds with
  | true => exact outline.settleStep point
  | false =>
      exact guarantees_bind (outline.refuse point) fun result =>
        guarantees_pure fun _ _ here => here

/-- Where the `try` block of an attempt leads. -/
private def attempted (point : AttemptPoint) :
    ReplayEngine.AttemptEnd → Assertion EngineState Q
  | .settled result => outline.ended result
  | .raised dispatched error => outline.failing point dispatched error

private theorem catches {α : Type} {body : Replay α}
    {before : Assertion EngineState Q} {after : α → Assertion EngineState Q}
    {point : AttemptPoint} {dispatched : Bool}
    (proof : Guarantees watch before body after
      (outline.thrown point dispatched)) :
    Guarantees watch before (Runtime.catching Raised.surface? body)
      (fun outcome => match outcome with
        | .ok value => after value
        | .error error => outline.failing point dispatched error)
      outline.escaped := by
  refine guarantees_catching proof ?_ ?_
  · intro error failure seen state here same
    simpa [VisitPoints.thrown, same] using here
  · intro error seen state here none
    simpa [VisitPoints.thrown, none] using here

private theorem attemptStep (point : AttemptPoint) :
    Guarantees watch (outline.ready point)
      (engine.attemptStep frame point.number) (outline.attempted point)
      outline.escaped := by
  unfold ReplayEngine.attemptStep
  refine guarantees_bind (m := fun _ => outline.entered point)
    (guarantees_perform fun seen state resp here =>
      outline.attempt point seen state here) fun _ => ?_
  refine guarantees_bind (outline.catches (outline.checks point))
    fun admission => ?_
  rcases admission with error | admission
  · exact guarantees_pure fun _ _ here => here
  cases admission with
  | ended result => exact guarantees_pure fun _ _ here => here
  | admitted target =>
      refine guarantees_bind (outline.catches (outline.actStep point target))
        fun outcome => ?_
      cases outcome with
      | error error => exact guarantees_pure fun _ _ here => here
      | ok result => exact guarantees_pure fun _ _ here => here

private theorem reportError (point : AttemptPoint) (dispatched : Bool)
    (error : SurfaceError)
    (last : point.remaining = 0 ∨
      ReplayEngine.retryable frame.step error = false) :
    Guarantees watch (outline.handling point dispatched error)
      (engine.reportError frame point.number dispatched error) outline.ended
      outline.escaped := by
  unfold ReplayEngine.reportError
  refine guarantees_orNext (outline.rescue point dispatched error last)
    (fun _ _ _ here => here) ?_
  exact outline.report point dispatched error

/-- The induction is on the attempts left. -/
theorem attemptsFrom (remaining number : Nat) :
    Guarantees watch (outline.ready ⟨remaining, number⟩)
      (engine.attemptsFrom frame remaining number) outline.ended
      outline.escaped := by
  induction remaining generalizing number with
  | zero =>
      unfold ReplayEngine.attemptsFrom
      refine guarantees_bind (outline.attemptStep ⟨0, number⟩) fun finish => ?_
      cases finish with
      | settled result => exact guarantees_pure fun _ _ here => here
      | raised dispatched error =>
          refine guarantees_bind
            (m := fun _ => outline.handling ⟨0, number⟩ dispatched error)
            (guarantees_perform fun seen state resp here =>
              outline.caught _ dispatched error seen state here) fun _ => ?_
          exact outline.reportError ⟨0, number⟩ dispatched error (.inl rfl)
  | succ remaining ih =>
      unfold ReplayEngine.attemptsFrom
      refine guarantees_bind (outline.attemptStep ⟨remaining + 1, number⟩)
        fun finish => ?_
      cases finish with
      | settled result => exact guarantees_pure fun _ _ here => here
      | raised dispatched error =>
          refine guarantees_bind
            (m := fun _ =>
              outline.handling ⟨remaining + 1, number⟩ dispatched error)
            (guarantees_perform fun seen state resp here =>
              outline.caught _ dispatched error seen state here) fun _ => ?_
          refine guarantees_ite (fun due => ?_) fun final => ?_
          · exact guarantees_bind
              (outline.retry remaining number dispatched error due)
              fun _ => ih (number + 1)
          · exact outline.reportError ⟨remaining + 1, number⟩ dispatched error
              (.inr (by simpa using final))

/-- A whole visit, between its two marks. -/
theorem executeStepWith {before : Assertion EngineState Q}
    {after : StepResult → Assertion EngineState Q} {number : Nat}
    (enter : ∀ seen state, before seen state →
      outline.ready ⟨frame.step.retry.maxAttempts - number, number⟩
        (watch seen ⟨.mark (.visit frame.index frame.step), ()⟩) state)
    (leave : ∀ result seen state, outline.ended result seen state →
      after result (watch seen ⟨.mark (.leave frame.index result), ()⟩)
        state) :
    Guarantees watch before (engine.executeStepWith frame number) after
      outline.escaped := by
  unfold ReplayEngine.executeStepWith
  refine guarantees_bind (m := fun _ =>
    outline.ready ⟨frame.step.retry.maxAttempts - number, number⟩)
    (guarantees_perform fun seen state resp here => enter seen state here)
    fun _ => ?_
  refine guarantees_bind (outline.attemptsFrom _ _) fun result => ?_
  refine guarantees_bind (m := fun _ => after result)
    (guarantees_perform fun seen state resp here =>
      leave result seen state here) fun _ => ?_
  exact guarantees_pure fun _ _ here => here

end VisitOutline

/-- One recovery attempt of a step.  `running` speaks of the lease version
between the recovery's steps. -/
structure RecoveryOutline (engine : ReplayEngine) (run : ReplayRun)
    (step : Step) (leaseVersion : Nat) {Q : Type}
    (watch : Watch RuntimeSig Q) where
  idle : Assertion EngineState Q
  selected : Recovery → Assertion EngineState Q
  exhausted : Recovery → Assertion EngineState Q
  charged : Recovery → Nat → Assertion EngineState Q
  started : Recovery → Assertion EngineState Q
  running : Recovery → Nat → Assertion EngineState Q
  visited : Recovery → Nat → StepResult → Assertion EngineState Q
  ended : StepResult → Assertion EngineState Q
  raised : Raised → Assertion EngineState Q
  select : Guarantees watch idle
    (ReplayEngine.selectBranch run run.artifact.recoveries Recovery.id
      Recovery.trigger step.recoveryRefs
      "Multiple recovery conditions matched.")
    (orEnded idle selected) raised
  exhaust : ∀ recovery uses, Guarantees watch (selected recovery)
    (ReplayEngine.recordRecovery run "recovery_exhausted" step recovery
      ("uses", .int uses)) (fun _ => exhausted recovery) raised
  report : ∀ recovery, Guarantees watch (exhausted recovery)
    (ReplayEngine.failure run.request "recovery_exhausted"
      "A declared recovery did not restore the expected UI state." false
      (some step.id) none none (some run.session))
    (fun result => ended (.finished result)) raised
  charge : ∀ recovery ∈ run.artifact.recoveries, ∀ seen state,
    selected recovery seen state →
    ∀ uses, uses = (state.recoveryUses.get? recovery.id).getD 0 →
    uses < recovery.maxUses →
    charged recovery uses seen { state with
      recoveryUses := state.recoveryUses.set recovery.id (uses + 1) }
  start : ∀ recovery uses, Guarantees watch (charged recovery uses)
    (ReplayEngine.recordRecovery run "recovery_started" step recovery
      ("use", .int (uses + 1 : Nat))) (fun _ => started recovery) raised
  begin : ∀ recovery, Guarantees watch (started recovery)
    (engine.leaseService.heartbeat run.session.sessionId leaseVersion
      .automation) (fun lease => running recovery lease.version) raised
  visit : ∀ recovery ∈ run.artifact.recoveries, ∀ version,
    ∀ nested ∈ recovery.steps, Guarantees watch (running recovery version)
    (engine.executeStepWith
      (ReplayEngine.recoveryFrame run nested version))
    (visited recovery version) raised
  nested : ∀ recovery version stepId next seen state,
    visited recovery version (.resume stepId next) seen state →
    raised (.runtime "nested recovery control flow is not allowed") seen state
  finished : ∀ recovery version result seen state,
    visited recovery version (.finished result) seen state →
    ended (.finished result) seen state
  renew : ∀ recovery version, Guarantees watch
    (visited recovery version .advance)
    (engine.leaseService.heartbeat run.session.sessionId version .automation)
    (fun lease => running recovery lease.version) raised
  complete : ∀ recovery version, Guarantees watch (running recovery version)
    (ReplayEngine.recordRecovery run "recovery_completed" step recovery
      ("resume_at", .str recovery.resumeAt))
    (fun _ => ended (.resume recovery.resumeAt version)) raised

namespace RecoveryOutline

variable {engine : ReplayEngine} {run : ReplayRun} {step : Step}
  {leaseVersion : Nat} {Q : Type} {watch : Watch RuntimeSig Q}
  (outline : RecoveryOutline engine run step leaseVersion watch)

/-- Where the steps of a recovery lead. -/
private def settled (recovery : Recovery) :
    Except RunResult Nat → Assertion EngineState Q
  | .ok version => outline.running recovery version
  | .error result => outline.ended (.finished result)

private theorem recoverySteps (recovery : Recovery)
    (declared : recovery ∈ run.artifact.recoveries) (steps : List Step)
    (included : steps ⊆ recovery.steps) (version : Nat) :
    Guarantees watch (outline.running recovery version)
      (engine.recoverySteps run steps version) (outline.settled recovery)
      outline.raised := by
  induction steps generalizing version with
  | nil => exact guarantees_pure fun _ _ here => here
  | cons nested rest ih =>
      unfold ReplayEngine.recoverySteps
      have member : nested ∈ recovery.steps := included List.mem_cons_self
      refine guarantees_bind
        (outline.visit recovery declared version nested member) fun result => ?_
      cases result with
      | resume stepId next =>
          exact guarantees_throw
            (outline.nested recovery version stepId next)
      | finished result =>
          exact guarantees_pure (outline.finished recovery version result)
      | advance =>
          refine guarantees_bind (outline.renew recovery version)
            fun lease => ?_
          exact ih (fun _ later => included (List.mem_cons_of_mem _ later)) _

private theorem startRecovery (recovery : Recovery)
    (declared : recovery ∈ run.artifact.recoveries) (uses : Nat)
    {before : Assertion EngineState Q}
    (charged : ∀ seen state, before seen state →
      outline.charged recovery uses seen { state with
        recoveryUses := state.recoveryUses.set recovery.id (uses + 1) }) :
    Guarantees watch before
      (engine.startRecovery run step recovery leaseVersion uses)
      outline.ended outline.raised := by
  unfold ReplayEngine.startRecovery ReplayEngine.executeRecovery
  refine guarantees_bind (m := fun _ => outline.charged recovery uses)
    (guarantees_modify charged) fun _ => ?_
  refine guarantees_bind (outline.start recovery uses) fun _ => ?_
  refine guarantees_bind (m := outline.settled recovery)
    (guarantees_bind (outline.begin recovery) fun lease =>
      outline.recoverySteps recovery declared _ (List.Subset.refl _) _)
    fun outcome => ?_
  cases outcome with
  | error result => exact guarantees_pure fun _ _ here => here
  | ok version =>
      refine guarantees_bind (outline.complete recovery version) fun _ => ?_
      exact guarantees_pure fun _ _ here => here

theorem attemptRecovery :
    Guarantees watch outline.idle
      (engine.attemptRecovery run step leaseVersion)
      (orEnded outline.idle outline.ended) outline.raised := by
  unfold ReplayEngine.attemptRecovery
  refine guarantees_bind (m := orEnded outline.idle fun recovery seen
      state => outline.selected recovery seen state ∧
        recovery ∈ run.artifact.recoveries)
    ((outline.select.and guarantees_selectBranch_mem).weaken
      (fun _ _ here => ⟨here, trivial⟩) ?_ (fun _ _ _ here => here.1))
    fun choice => ?_
  · intro choice seen state here
    cases choice with
    | none => exact here.1
    | some recovery => exact ⟨here.1, here.2 recovery rfl⟩
  cases choice with
  | none => exact guarantees_pure fun _ _ here => here
  | some recovery =>
      refine guarantees_bind (m := outline.ended) ?_ fun result =>
        guarantees_pure fun _ _ here => here
      unfold ReplayEngine.useRecovery
      refine guarantees_bind (m := fun state seen current =>
          (outline.selected recovery seen current ∧
            recovery ∈ run.artifact.recoveries) ∧ state = current)
        (guarantees_get fun _ _ here => ⟨here, rfl⟩) fun state => ?_
      refine guarantees_ite (fun spent => ?_) fun fresh => ?_
      · refine guarantees_bind ((outline.exhaust recovery _).weaken
          (fun _ _ here => here.1.1) (fun _ _ _ here => here)
          (fun _ _ _ here => here)) fun _ => ?_
        exact guarantees_bind (outline.report recovery) fun result =>
          guarantees_pure fun _ _ here => here
      · by_cases declared : recovery ∈ run.artifact.recoveries
        · refine outline.startRecovery recovery declared _
            fun seen current here => ?_
          obtain ⟨⟨selected, -⟩, rfl⟩ := here
          exact outline.charge recovery declared seen state selected _ rfl
            (by omega)
        · intro seen start events result final here
          exact absurd here.1.2 declared

end RecoveryOutline

/-- The step loop.  `start` speaks of the visits left, the index and the lease
version. -/
structure LoopOutline (engine : ReplayEngine) (run : ReplayRun)
    (firstAttempt : Nat → Nat) {Q : Type} (watch : Watch RuntimeSig Q) where
  start : Nat → Nat → Nat → Assertion EngineState Q
  visited : Nat → Nat → Nat → StepResult → Assertion EngineState Q
  done : RunResult → Assertion EngineState Q
  raised : Raised → Assertion EngineState Q
  visit : ∀ visits index version step,
    run.artifact.steps[index]? = some step →
    Guarantees watch (start (visits + 1) index version)
      (engine.executeStepWith (engine.mainFrame run index step version)
        (firstAttempt index)) (visited visits index version) raised
  advance : ∀ visits index version, Guarantees watch
    (visited visits index version .advance)
    (engine.leaseService.heartbeat run.session.sessionId version .automation)
    (fun lease => start visits (index + 1) lease.version) raised
  jump : ∀ visits index version stepId next, Guarantees watch
    (visited visits index version (.resume stepId next))
    (engine.leaseService.heartbeat run.session.sessionId next .automation)
    (fun lease => match run.request.stepIndex? (some stepId) with
      | none => raised (.key stepId)
      | some target => start visits target lease.version) raised
  finish : ∀ visits index version result, Guarantees watch
    (visited visits index version (.finished result))
    (engine.endLoop run index result) done raised
  complete : ∀ visits index version,
    run.artifact.steps[index]? = none →
    Guarantees watch (start visits index version) (engine.complete run) done
      raised
  exhausted : ∀ index version step seen state,
    run.artifact.steps[index]? = some step →
    start 0 index version seen state → raised .unfinished seen state

/-- The induction is on the visits left. -/
theorem LoopOutline.stepLoop {engine : ReplayEngine} {run : ReplayRun}
    {firstAttempt : Nat → Nat} {Q : Type} {watch : Watch RuntimeSig Q}
    (outline : LoopOutline engine run firstAttempt watch)
    (visits index version : Nat) :
    Guarantees watch (outline.start visits index version)
      (engine.stepLoop run firstAttempt visits index version) outline.done
      outline.raised := by
  induction visits generalizing index version with
  | zero =>
      unfold ReplayEngine.stepLoop
      split
      next none => exact outline.complete 0 index version none
      next step found =>
        exact guarantees_throw fun seen state here =>
          outline.exhausted index version step seen state found here
  | succ visits ih =>
      unfold ReplayEngine.stepLoop
      split
      next none => exact outline.complete (visits + 1) index version none
      next step found =>
        refine guarantees_bind (outline.visit visits index version step found)
          fun result => ?_
        cases result with
        | resume stepId next =>
            refine guarantees_bind (outline.jump visits index version stepId next)
              fun lease => ?_
            cases run.request.stepIndex? (some stepId) with
            | none => exact guarantees_throw fun _ _ here => here
            | some target => exact ih target lease.version
        | finished result => exact outline.finish visits index version result
        | advance =>
            refine guarantees_bind (outline.advance visits index version)
              fun lease => ?_
            exact ih (index + 1) lease.version

section Calls

variable {engine : ReplayEngine} {Q : Type} {watch : Watch RuntimeSig Q}
  {before : Assertion EngineState Q} {raised : Raised → Assertion EngineState Q}
  {after : RunResult → Assertion EngineState Q}

theorem guarantees_endLoop {run : ReplayRun} {index : Nat}
    {result : RunResult} {m : Assertion EngineState Q}
    (preserves : ∀ seen state, before seen state →
      m seen { state with preserveSession := result.isIntervention })
    (retains : Guarantees watch m (engine.retainResult run index result)
      (fun _ => after result) raised) :
    Guarantees watch before (engine.endLoop run index result) after raised := by
  unfold ReplayEngine.endLoop
  refine guarantees_bind (m := fun _ => m) (guarantees_modify preserves)
    fun _ => ?_
  exact guarantees_bind retains fun _ => guarantees_pure fun _ _ here => here

/-- Retaining the continuation of an intervention. -/
theorem guarantees_retainContinuation {run : ReplayRun}
    {interventionId : String} {index : Nat} {b after : Assertion EngineState Q}
    {t : Bool × Nat → Assertion EngineState Q}
    (takes : ∀ seen state, b seen state →
      t ((state.pausePoints.get? interventionId).getD (false, 1)) seen
        { state with pausePoints := state.pausePoints.erase interventionId })
    (without : ∀ point seen state, engine.continuationSink = false →
      t point seen state → after seen state)
    (observes : ∀ point, Guarantees watch (t point) (run.call .observe)
      (fun _ => t point) raised)
    (retains : ∀ point (observation : NormalizedObservation) seen state,
      t point seen state →
      let event : Except SessionError Unit → RuntimeEvent := fun resp =>
        ⟨.retain {
          interventionId
          request := run.request
          session := run.session
          inputs := run.inputs
          outputs := state.outputs
          recoveryUses := state.recoveryUses
          interruptedStepIndex := index
          initialFingerprint := observation.fingerprint
          retryStep := point.1
          retryAttempt := point.2 }, resp⟩
      after (watch seen (event (.ok ()))) state ∧
        ∀ error : SessionError, raised error.raised
          (watch seen (event (.error error))) state) :
    Guarantees watch b (engine.retainContinuation run interventionId index)
      (fun _ => after) raised := by
  unfold ReplayEngine.retainContinuation
  refine guarantees_bind (m := fun current seen state =>
      b seen state ∧ current = state)
    (guarantees_get fun _ _ here => ⟨here, rfl⟩) fun current => ?_
  refine guarantees_bind (m := fun _ => t
      ((current.pausePoints.get? interventionId).getD (false, 1)))
    (guarantees_modify ?_) fun _ => ?_
  · rintro seen state ⟨here, rfl⟩
    exact takes seen current here
  refine guarantees_ite (fun _ => ?_) fun off => guarantees_pure
    fun seen state here => without _ seen state (by simpa using off) here
  refine guarantees_bind (observes _) fun observation => ?_
  refine guarantees_bind (m := fun current seen state =>
      t _ seen state ∧ current = state)
    (guarantees_get fun _ _ here => ⟨here, rfl⟩) fun stored => ?_
  refine guarantees_invoke ?_ ?_
  · rintro seen state resp value ⟨here, rfl⟩ read
    cases resp with
    | ok _ => exact (retains _ observation seen stored here).1
    | error _ => cases read
  · rintro seen state resp error ⟨here, rfl⟩ read
    cases resp with
    | ok _ => cases read
    | error reason =>
        cases read
        exact (retains _ observation seen stored here).2 reason

/-- The clauses around an open session. -/
theorem guarantees_guardSession {request : ReplayRequest}
    {session : SurfaceSession} {body : Replay RunResult}
    {done : RunResult → Assertion EngineState Q}
    {broken : Raised → Assertion EngineState Q}
    (inner : Guarantees watch before body done broken)
    (report : ∀ error, Guarantees watch (broken (.surface error))
      (engine.reportEscaped request session error) done broken)
    (returned : ∀ result, Guarantees watch (done result)
      (ReplayEngine.closeUnlessPreserved session) (fun _ => after result)
      raised)
    (failed : ∀ error, Guarantees watch (broken error)
      (ReplayEngine.closeUnlessPreserved session) (fun _ => raised error)
      raised) :
    Guarantees watch before (engine.guardSession request session body) after
      raised := by
  unfold ReplayEngine.guardSession
  refine guarantees_ensuring (m := done) (f := broken) ?_ returned
    failed
  refine guarantees_bind (m := outcomeHolds done fun error : SurfaceError =>
      broken (.surface error))
    (guarantees_catching inner ?_ fun _ _ _ here _ => here) fun outcome => ?_
  · intro error failure seen state here same
    cases error with
    | surface other =>
        cases same
        exact here
    | _ => cases same
  · cases outcome with
    | ok result => exact guarantees_pure fun _ _ here => here
    | error error => exact report error

/-- `execute` up to the open session. -/
theorem guarantees_execute {visits : Nat} {request : ReplayRequest}
    {o : SurfaceSession → Assertion EngineState Q}
    (cleared : ∀ seen state, before seen state →
      before seen { state with preserveSession := false })
    (refused : ∀ code message, Guarantees watch before
      (ReplayEngine.failure request code message false) after raised)
    (opens : Guarantees watch before
      (Runtime.catching Raised.surface? (engine.openSession request))
      (fun outcome => match outcome with
        | .ok session => o session
        | .error _ => before) raised)
    (unopened : ∀ error, Guarantees watch before
      (engine.surfaceFailure request none none error) after raised)
    (body : ∀ session inputs,
      validateObject engine.host request.artifact.inputs request.inputs =
        .ok inputs →
      Guarantees watch (o session)
        (engine.guardSession request session
          (engine.runSession visits { request, session, inputs })) after
        raised)
    (escaped : ∀ error seen state,
      validateObject engine.host request.artifact.inputs request.inputs =
        .error error → error.contract? = none → before seen state →
      raised error seen state) :
    Guarantees watch before (engine.execute visits request) after raised := by
  unfold ReplayEngine.execute
  refine guarantees_bind (m := fun outcome seen state =>
      before seen state ∧ ∀ inputs, outcome = .ok inputs →
        validateObject engine.host request.artifact.inputs request.inputs =
          .ok inputs)
    (guarantees_catching (c := fun error seen state =>
        before seen state ∧
        validateObject engine.host request.artifact.inputs request.inputs =
          .error error) (guarantees_attempt ?_ ?_) ?_ ?_) fun outcome => ?_
  · intro seen state inputs here valid
    refine ⟨here, fun other same => ?_⟩
    cases same
    exact valid
  · intro seen state error here invalid
    exact ⟨here, invalid⟩
  · intro error failure seen state here _
    exact ⟨here.1, nofun⟩
  · intro error seen state here none
    exact escaped error seen state here.2 none here.1
  · cases outcome with
    | error failure =>
        exact (refused _ _).weaken (fun _ _ here => here.1)
          (fun _ _ _ here => here) (fun _ _ _ here => here)
    | ok inputs =>
        refine guarantees_ite (fun _ => ?_) fun _ => ?_
        · exact (refused _ _).weaken (fun _ _ here => here.1)
            (fun _ _ _ here => here) (fun _ _ _ here => here)
        refine guarantees_bind (m := fun _ seen state =>
            before seen state ∧
            validateObject engine.host request.artifact.inputs
              request.inputs = .ok inputs)
          (guarantees_modify fun seen state here =>
            ⟨cleared seen state here.1, here.2 inputs rfl⟩) fun _ => ?_
        by_cases valid : validateObject engine.host request.artifact.inputs
            request.inputs = .ok inputs
        · refine guarantees_bind (opens.weaken (fun _ _ here => here.1)
            (fun _ _ _ here => here) (fun _ _ _ here => here))
            fun outcome => ?_
          cases outcome with
          | error error => exact unopened error
          | ok session => exact body session inputs valid
        · intro seen start events result final here
          exact absurd here.2 valid

/-- The body of `execute` up to the step loop. -/
theorem guarantees_runSession {visits : Nat} {run : ReplayRun}
    {l p : Nat → Assertion EngineState Q}
    (lease : Guarantees watch before
      (engine.leaseService.createForAutomation run.session.sessionId)
      (fun lease => l lease.version) raised)
    (begins : ∀ version, Guarantees watch (l version)
      (Runtime.record "replay_started" run.request.runId)
      (fun _ => l version) raised)
    (reset : ∀ version seen state, l version seen state →
      p version seen { state with outputs := [], recoveryUses := [] })
    (checked : ∀ version, Guarantees watch (p version)
      (ReplayEngine.allHold run run.artifact.preconditions)
      (fun _ => p version) raised)
    (loop : ∀ version, Guarantees watch (p version)
      (engine.stepLoop run (fun _ => 1) visits 0 version) after raised)
    (unready : ∀ version, Guarantees watch (p version)
      (ReplayEngine.runFailure run "precondition_mismatch"
        "A capability precondition was not satisfied.") after raised) :
    Guarantees watch before (engine.runSession visits run) after raised := by
  unfold ReplayEngine.runSession
  refine guarantees_bind lease fun lease => ?_
  refine guarantees_bind (begins lease.version) fun _ => ?_
  refine guarantees_bind (m := fun _ => p lease.version)
    (guarantees_modify (reset lease.version)) fun _ => ?_
  refine guarantees_bind (checked lease.version) fun ready => ?_
  exact guarantees_ite (fun _ => loop lease.version)
    fun _ => unready lease.version

/-- `resume`, with or without a business outcome verified on the way. -/
theorem guarantees_resume {visits version : Nat}
    {continuation : ReplayContinuation} {outcome : Option BusinessOutcome}
    {o : Assertion EngineState Q}
    (invalid : ∀ error seen state, ordinary error → before seen state →
      raised error seen state)
    (closed : Guarantees watch before
      (Runtime.session continuation.session.sessionId .close)
      (fun _ => before) raised)
    (report : ∀ verified, Guarantees watch before
      (engine.businessOutcome continuation.request verified
        continuation.inputs) after raised)
    (restored : ∀ seen state, before seen state →
      o seen { state with
        outputs := continuation.outputs
        recoveryUses := continuation.recoveryUses
        preserveSession := false })
    (body : ReplayEngine.assertContinuation continuation = .ok () →
      Guarantees watch o
        (engine.guardSession continuation.request continuation.session
          (engine.stepLoop continuation.run continuation.firstAttempt visits
            continuation.startIndex version)) after raised) :
    Guarantees watch before
      (engine.resume visits continuation version outcome) after raised := by
  unfold ReplayEngine.resume
  refine guarantees_bind (m := fun _ seen state => before seen state ∧
      ReplayEngine.assertContinuation continuation = .ok ())
    (guarantees_attempt (fun seen state _ here valid => ⟨here, valid⟩) ?_)
    fun _ => ?_
  · intro seen state error here failed
    refine invalid error seen state ?_ here
    refine throws_bind (throws_require ordinary_value) (fun _ => ?_) error failed
    exact throws_require ordinary_value
  by_cases valid : ReplayEngine.assertContinuation continuation = .ok ()
  · cases outcome with
    | some verified =>
        exact guarantees_bind (closed.weaken (fun _ _ here => here.1)
          (fun _ _ _ here => here) (fun _ _ _ here => here))
          fun _ => report verified
    | none =>
        refine guarantees_bind (m := fun _ => o)
          (guarantees_modify fun seen state here =>
            restored seen state here.1) fun _ => body valid
  · intro seen start events result final here
    exact absurd here.2 valid

end Calls

end ReplayForge

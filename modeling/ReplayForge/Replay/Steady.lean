import ReplayForge.Replay.Outline

/-!
# Steady outlines

A watch that does not look at what a visit does has to follow its recovery
branch only, and of a recovery only its start.
-/

namespace ReplayForge

open Effect

/-- What a visit issues outside its action and its recovery branch, its marks
apart. -/
def visitKinds : List OpKind :=
  [.wait, .record "business_outcome", .record "step_retry_scheduled", .sleep,
    .declaredFailure] ++
    ReplayEngine.admissionKinds ++ ReplayEngine.surfaceFailureKinds

/-- What the action of a step issues, from its intent on. -/
def performKinds : List OpKind :=
  [.record "action_intent", .record "action_result"] ++
    ReplayEngine.actionKinds

/-- What a recovery issues outside its visits, its start apart. -/
def recoveryKinds : List OpKind :=
  [.evaluate, .getLease, .now, .swapLease, .record "recovery_exhausted",
    .record "recovery_completed"] ++ ReplayEngine.failureKinds

/-- The marks of a visit. -/
def markKinds (main : Bool) : List OpKind :=
  [.visit main, .attempt main, .failed main, .leave main]

/-- The assertion depends on neither the outputs nor the pause points. -/
def Ledger {Q : Type} (calm : Assertion EngineState Q) : Prop :=
  ∀ seen left right, left.recoveryUses = right.recoveryUses →
    left.preserveSession = right.preserveSession → calm seen right →
    calm seen left

/-- The assertion does not depend on the pause points. -/
def Private {Q : Type} (calm : Assertion EngineState Q) : Prop :=
  ∀ seen left right, left.locals = right.locals → calm seen right →
    calm seen left

section Steady

variable {Q : Type} {calm going : Assertion EngineState Q}

theorem Ledger.locals (ledger : Ledger calm) : Private calm := by
  intro seen left right same here
  obtain ⟨-, uses, preserve⟩ : left.outputs = right.outputs ∧
      left.recoveryUses = right.recoveryUses ∧
      left.preserveSession = right.preserveSession := by
    simpa [EngineState.locals] using same
  exact ledger seen left right uses preserve here

theorem Ledger.ledger (ledger : Ledger calm) (seen : Q)
    (left right : EngineState) (same : left.ledger = right.ledger)
    (here : calm seen right) : calm seen left := by
  obtain ⟨uses, -, preserve⟩ : left.recoveryUses = right.recoveryUses ∧
      left.pausePoints = right.pausePoints ∧
      left.preserveSession = right.preserveSession := by
    simpa [EngineState.ledger] using same
  exact ledger seen left right uses preserve here

/-- An assertion of the watch alone. -/
theorem ledger_seen {holds : Q → Prop} :
    Ledger fun seen (_ : EngineState) => holds seen :=
  fun _ _ _ _ _ here => here

/-- Where admission leads: to a result or to the action. -/
def Admission.leads (ended : RunResult → Assertion EngineState Q)
    (admitted : Assertion EngineState Q) : Admission → Assertion EngineState Q
  | .ended result => ended result
  | .admitted _ => admitted

/-- The part of a step before its action, of which a watch sees the intent
only. -/
theorem guarantees_admitStep {engine : ReplayEngine} {f : StepFrame}
    {watch : Watch RuntimeSig Q} {entered admitted : Assertion EngineState Q}
    {ended : RunResult → Assertion EngineState Q}
    {raised : Raised → Assertion EngineState Q} (hidden : Private entered)
    (stable : Stable watch ReplayEngine.admissionKinds entered)
    (intent : Guarantees watch entered (f.record "action_intent")
      (fun _ => admitted) raised)
    (settled : ∀ result seen state, entered seen state →
      ended result seen state)
    (failed : ∀ error seen state, ordinary error → entered seen state →
      raised error seen state) :
    Guarantees watch entered (engine.admitStep f)
      (Admission.leads ended admitted) raised := by
  have keeps : ∀ {α : Type} {k : List OpKind} {body : Replay α},
      k ⊆ ReplayEngine.admissionKinds →
      Uses k EngineState.locals ordinary body →
      Guarantees watch entered body (fun _ => entered) raised :=
    fun included proof => (proof.keeps (stable.narrow included) hidden).weaken
      (fun _ _ here => here) (fun _ _ _ here => here)
      (fun error seen state here => failed error seen state here.1 here.2)
  have ends : ∀ {kinds : List OpKind} {body : Replay Admission},
      kinds ⊆ ReplayEngine.admissionKinds →
      Uses kinds EngineState.locals ordinary body →
      Returns (fun admission => ∃ result, admission = .ended result) body →
      Guarantees watch entered body (Admission.leads ended admitted) raised :=
    fun included proof values =>
      (values.strengthen (keeps included proof)).weaken (fun _ _ here => here)
        (fun admission seen state here => by
          obtain ⟨⟨result, rfl⟩, before⟩ := here
          exact settled result seen state before)
        (fun _ _ _ here => here)
  unfold ReplayEngine.admitStep
  refine guarantees_bind (keeps (by decide)
    ControlLeaseService.uses_assertCanAct.ordinary) fun lease => ?_
  refine guarantees_bind (keeps (by decide) ReplayEngine.uses_allHold)
    fun ready => ?_
  refine guarantees_ite (fun _ => ?_) fun _ => ?_
  · refine guarantees_bind (keeps (k := [.observe]) (by decide)
      (uses_session (by simp))) fun observation => ?_
    refine guarantees_bind (keeps (by decide)
      (ReplayEngine.uses_bindTarget engine)) fun bound => ?_
    refine guarantees_bind (keeps (by decide) ReplayEngine.uses_resolveTarget)
      fun target => ?_
    refine guarantees_bind (keeps (by decide)
      (ReplayEngine.uses_stepPolicy engine)) fun decision => ?_
    refine guarantees_bind (keeps (by decide)
      ReplayEngine.uses_frameRecord.ordinary) fun _ => ?_
    by_cases allowed : decision.decision = .allow
    · unfold ReplayEngine.admitDecision
      rw [allowed]
      exact guarantees_bind intent fun _ => guarantees_pure fun _ _ here => here
    · refine ends (by decide) (ReplayEngine.uses_refuseDecision engine allowed)
        ?_
      unfold ReplayEngine.admitDecision
      split
      · exact returns_bind fun result => returns_pure ⟨result, rfl⟩
      · exact returns_ite (returns_bind fun result => returns_pure ⟨result, rfl⟩)
          (returns_bind fun result => returns_pure ⟨result, rfl⟩)
      next same => exact absurd same allowed
  · exact ends (by decide) (confined_bind
      ReplayEngine.uses_stepFailure.ordinary fun _ => confined_pure)
      (returns_bind fun result => returns_pure ⟨result, rfl⟩)

/-- The points of a visit that keeps one assertion from the action on, and
another one behind an error.  Behind the `except` mark an attempt may be over
and the next one ready. -/
def VisitPoints.steady (step : Step)
    (ready entered admitted acted calm : AttemptPoint → Assertion EngineState Q)
    (ended : StepResult → Assertion EngineState Q)
    (loose : Assertion EngineState Q) : VisitPoints Q where
  ready := ready
  entered := entered
  admitted point _ := admitted point
  acted := acted
  unverified := acted
  verified := acted
  failing point _ _ := calm point
  handling point _ error seen state := calm point seen state ∧
    ∀ remaining, point.remaining = remaining + 1 →
      ReplayEngine.retryable step error = true →
      ready ⟨remaining, point.number + 1⟩ seen state
  ended := ended
  escaped error seen state := ordinary error ∧ loose seen state

section Visit

variable {step : Step}
  {ready entered admitted acted calm : AttemptPoint → Assertion EngineState Q}
  {ended : StepResult → Assertion EngineState Q}
  {loose : Assertion EngineState Q}

private theorem steady_thrown {point : AttemptPoint} {dispatched : Bool}
    {error : Raised} {seen : Q} {state : EngineState}
    (escapes : ∀ point seen state, calm point seen state → loose seen state)
    (normal : ordinary error) (here : calm point seen state) :
    (VisitPoints.steady step ready entered admitted acted calm ended
      loose).thrown point dispatched error seen state := by
  unfold VisitPoints.thrown
  cases error.surface? with
  | some failure => exact here
  | none => exact ⟨normal, escapes point seen state here⟩

private theorem steady_leads {γ α : Type} {kinds : List OpKind}
    {view : EngineState → γ} {raises : Raised → Prop} {body : Replay α}
    {watch : Watch RuntimeSig Q} {after : α → Assertion EngineState Q}
    {point : AttemptPoint} (proof : Uses kinds view raises body)
    (stable : Stable watch visitKinds (acted point))
    (included : kinds ⊆ visitKinds)
    (coarse : ∀ seen left right, view left = view right →
      acted point seen right → acted point seen left)
    (relax : ∀ point seen state, acted point seen state →
      calm point seen state)
    (escapes : ∀ point seen state, calm point seen state → loose seen state)
    (normal : ∀ error, raises error → ordinary error)
    (returned : ∀ value seen state, acted point seen state →
      after value seen state) (dispatched : Bool) :
    Guarantees watch (acted point) body after
      ((VisitPoints.steady step ready entered admitted acted calm ended
        loose).thrown point dispatched) :=
  (proof.keeps (stable.narrow included) coarse).weaken (fun _ _ here => here)
    returned fun error seen state here =>
      steady_thrown escapes (normal error here.1)
        (relax point seen state here.2)

end Visit

/-- A visit of which a watch sees the marks, the intent, the action and the
recovery branch only. -/
structure SteadyVisit (engine : ReplayEngine) (f : StepFrame) {Q : Type}
    (watch : Watch RuntimeSig Q) where
  /-- Before an attempt. -/
  ready : AttemptPoint → Assertion EngineState Q
  /-- Before the intent. -/
  entered : AttemptPoint → Assertion EngineState Q
  /-- Before the action. -/
  admitted : AttemptPoint → Assertion EngineState Q
  /-- From the action on. -/
  acted : AttemptPoint → Assertion EngineState Q
  /-- Behind an error. -/
  calm : AttemptPoint → Assertion EngineState Q
  ended : StepResult → Assertion EngineState Q
  loose : Assertion EngineState Q
  readyPrivate : ∀ point, Private (ready point)
  enteredPrivate : ∀ point, Private (entered point)
  actedPrivate : ∀ point, Private (acted point)
  calmPrivate : ∀ point, Private (calm point)
  readyStable : ∀ point, Stable watch visitKinds (ready point)
  enteredStable : ∀ point, Stable watch visitKinds (entered point)
  actedStable : ∀ point, Stable watch visitKinds (acted point)
  calmStable : ∀ point, Stable watch visitKinds (calm point)
  attempt : ∀ point seen state, ready point seen state →
    entered point
      (watch seen ⟨.mark (.attempt f.index point.number), ()⟩) state
  intent : ∀ point, Guarantees watch (entered point)
    (f.record "action_intent") (fun _ => admitted point)
    fun error seen state => ordinary error ∧ calm point seen state
  act : ∀ point target, Guarantees watch (admitted point)
    (engine.performAction f target) (fun _ => acted point)
    fun error seen state => ordinary error ∧ calm point seen state
  unacted : ∀ point seen state, entered point seen state →
    calm point seen state
  relax : ∀ point seen state, acted point seen state → calm point seen state
  caught : ∀ point error seen state, calm point seen state →
    calm point (watch seen ⟨.mark (.failed f.index error), ()⟩) state
  retry : ∀ remaining number error seen state,
    ReplayEngine.retryable f.step error = true →
    calm ⟨remaining + 1, number⟩ seen state →
    ready ⟨remaining, number + 1⟩
      (watch seen ⟨.mark (.failed f.index error), ()⟩) state
  settled : ∀ point result seen state, calm point seen state →
    ended (.finished result) seen state
  advanced : ∀ point seen state, acted point seen state →
    ended .advance seen state
  unready : ∀ point seen state, ready point seen state → loose seen state
  escapes : ∀ point seen state, calm point seen state → loose seen state
  recovers : ∀ point, Guarantees watch (acted point) f.recover
    (orEnded (acted point) ended)
    fun error seen state => ordinary error ∧ calm point seen state
  rescues : ∀ point, Guarantees watch (calm point) f.recover
    (orEnded (calm point) ended)
    fun error seen state => ordinary error ∧ calm point seen state

namespace SteadyVisit

variable {engine : ReplayEngine} {f : StepFrame} {watch : Watch RuntimeSig Q}
  (steady : SteadyVisit engine f watch)

theorem finished (point : AttemptPoint) (result : RunResult) (seen : Q)
    (state : EngineState) (here : steady.acted point seen state) :
    steady.ended (.finished result) seen state :=
  steady.settled point result seen state (steady.relax point seen state here)

theorem admits (point : AttemptPoint) :
    Guarantees watch (steady.entered point) (engine.admitStep f)
      (Admission.leads (fun result => steady.ended (.finished result))
        (steady.admitted point))
      (fun error seen state => ordinary error ∧
        steady.calm point seen state) :=
  guarantees_admitStep (steady.enteredPrivate point)
    ((steady.enteredStable point).narrow (by decide)) (steady.intent point)
    (fun result seen state here => steady.settled point result seen state
      (steady.unacted point seen state here))
    (fun error seen state normal here =>
      ⟨normal, steady.unacted point seen state here⟩)

def outline : VisitOutline engine f watch :=
  { VisitPoints.steady f.step steady.ready steady.entered steady.admitted
      steady.acted steady.calm steady.ended steady.loose with
    attempt := steady.attempt
    checks := fun point => (steady.admits point).weaken
      (fun _ _ here => here)
      (fun admission seen state here => by cases admission <;> exact here)
      (fun error seen state here =>
        steady_thrown steady.escapes here.1 here.2)
    act := fun point target => (steady.act point target).weaken
      (fun _ _ here => here) (fun _ _ _ here => here)
      (fun error seen state here =>
        steady_thrown steady.escapes here.1 here.2)
    verify := fun point =>
      steady_leads (ReplayEngine.uses_identityVerified
        (v := EngineState.locals)) (steady.actedStable point) (by decide)
        (steady.actedPrivate point) steady.relax steady.escapes
        (fun _ normal => normal.ordinary)
        (fun holds seen state here => by cases holds <;> exact here) _
    refuse := fun point =>
      steady_leads (ReplayEngine.uses_stepFailure (v := EngineState.locals))
        (steady.actedStable point) (by decide) (steady.actedPrivate point)
        steady.relax steady.escapes (fun _ normal => normal.ordinary)
        (steady.finished point) _
    waits := fun point condition =>
      steady_leads (ReplayEngine.uses_waitUntil (v := EngineState.locals))
        (steady.actedStable point) (by decide) (steady.actedPrivate point)
        steady.relax steady.escapes (fun _ normal => normal)
        (fun _ _ _ here => here) _
    outcome := fun point =>
      guarantees_outcomeResult (s := fun _ => steady.acted point)
        (steady_leads (ReplayEngine.uses_selectBranch
          (v := EngineState.locals)) (steady.actedStable point) (by decide)
          (steady.actedPrivate point) steady.relax steady.escapes
          (fun _ normal => normal)
          (fun choice _ _ here => by cases choice <;> exact here) _)
        fun outcome => steady_leads (ReplayEngine.uses_businessOutcome
          (v := EngineState.locals) engine) (steady.actedStable point)
          (by decide) (steady.actedPrivate point) steady.relax steady.escapes
          (fun _ normal => normal.ordinary) (steady.finished point) _
    failure := fun point =>
      guarantees_failureResult (s := fun _ => steady.acted point)
        (steady_leads (ReplayEngine.uses_selectBranch
          (v := EngineState.locals)) (steady.actedStable point) (by decide)
          (steady.actedPrivate point) steady.relax steady.escapes
          (fun _ normal => normal)
          (fun choice _ _ here => by cases choice <;> exact here) _)
        fun declared => steady_leads (ReplayEngine.uses_applicationFailure
          (v := EngineState.locals)) (steady.actedStable point) (by decide)
          (steady.actedPrivate point) steady.relax steady.escapes
          (fun _ normal => normal.ordinary) (steady.finished point) _
    recover := fun point => (steady.recovers point).weaken
      (fun _ _ here => here) (fun _ _ _ here => here)
      (fun error seen state here =>
        steady_thrown steady.escapes here.1 here.2)
    unmet := fun point condition =>
      guarantees_surfaceResult
        (fun error seen state normal here =>
          steady_thrown steady.escapes normal (steady.relax point seen state here))
        fun checked => steady_leads (ReplayEngine.uses_surfaceFailure engine)
          (steady.actedStable point) (by decide) (steady.actedPrivate point)
          steady.relax steady.escapes (fun _ normal => normal)
          (steady.finished point) _
    advance := steady.advanced
    caught := by
      rintro ⟨left, number⟩ dispatched error seen state here
      refine ⟨steady.caught _ error seen state here, ?_⟩
      rintro remaining rfl due
      exact steady.retry remaining number error seen state due here
    retry := fun remaining number dispatched error due =>
      ((ReplayEngine.uses_scheduleRetry
        (v := EngineState.locals)).ordinary.keeps
        ((steady.readyStable ⟨remaining, number + 1⟩).narrow (by decide))
        (steady.readyPrivate ⟨remaining, number + 1⟩)).weaken
        (fun _ _ here => here.2 remaining rfl due) (fun _ _ _ here => here)
        (fun _ seen state here =>
          ⟨here.1, steady.unready _ seen state here.2⟩)
    rescue := fun point dispatched error last =>
      (steady.rescues point).weaken (fun _ _ here => here.1)
        (fun result seen state here => by
          cases result with
          | some result => exact here
          | none =>
              refine ⟨here, fun remaining left due => ?_⟩
              rcases last with none | final
              · rw [left] at none
                cases none
              · rw [due] at final
                cases final)
        (fun _ seen state here =>
          ⟨here.1, steady.escapes _ seen state here.2⟩)
    report := fun point dispatched error =>
      guarantees_surfaceResult (fun _ seen state normal here =>
          ⟨normal, steady.escapes _ seen state here.1⟩)
        fun checked => ((ReplayEngine.uses_surfaceFailure engine).keeps
          ((steady.calmStable point).narrow (by decide))
          (steady.calmPrivate point)).weaken
          (fun _ _ here => here.1) (steady.settled point)
          (fun _ seen state here =>
            ⟨here.1, steady.escapes _ seen state here.2⟩) }

end SteadyVisit

/-- A visit that keeps one assertion through an attempt. -/
structure CalmVisit (engine : ReplayEngine) (f : StepFrame) {Q : Type}
    (watch : Watch RuntimeSig Q) where
  ready : AttemptPoint → Assertion EngineState Q
  calm : AttemptPoint → Assertion EngineState Q
  ended : StepResult → Assertion EngineState Q
  loose : Assertion EngineState Q
  readyLedger : ∀ point, Ledger (ready point)
  calmLedger : ∀ point, Ledger (calm point)
  readyStable : ∀ point, Stable watch visitKinds (ready point)
  calmStable : ∀ point, Stable watch (visitKinds ++ performKinds) (calm point)
  attempt : ∀ point seen state, ready point seen state →
    calm point (watch seen ⟨.mark (.attempt f.index point.number), ()⟩) state
  caught : ∀ point error seen state, calm point seen state →
    calm point (watch seen ⟨.mark (.failed f.index error), ()⟩) state
  retry : ∀ remaining number seen state,
    calm ⟨remaining + 1, number⟩ seen state →
    ready ⟨remaining, number + 1⟩ seen state
  settled : ∀ point result seen state, calm point seen state →
    ended (.finished result) seen state
  advanced : ∀ point seen state, calm point seen state →
    ended .advance seen state
  unready : ∀ point seen state, ready point seen state → loose seen state
  escapes : ∀ point seen state, calm point seen state → loose seen state
  recovers : ∀ point, Guarantees watch (calm point) f.recover
    (orEnded (calm point) ended)
    fun error seen state => ordinary error ∧ calm point seen state

def CalmVisit.steady {engine : ReplayEngine} {f : StepFrame}
    {watch : Watch RuntimeSig Q} (visit : CalmVisit engine f watch) :
    SteadyVisit engine f watch where
  ready := visit.ready
  entered := visit.calm
  admitted := visit.calm
  acted := visit.calm
  calm := visit.calm
  ended := visit.ended
  loose := visit.loose
  readyPrivate point := (visit.readyLedger point).locals
  enteredPrivate point := (visit.calmLedger point).locals
  actedPrivate point := (visit.calmLedger point).locals
  calmPrivate point := (visit.calmLedger point).locals
  readyStable := visit.readyStable
  enteredStable point := (visit.calmStable point).narrow
    (List.subset_append_left _ _)
  actedStable point := (visit.calmStable point).narrow
    (List.subset_append_left _ _)
  calmStable point := (visit.calmStable point).narrow
    (List.subset_append_left _ _)
  attempt := visit.attempt
  intent point := (ReplayEngine.uses_frameRecord
    (v := EngineState.locals)).ordinary.keeps
    ((visit.calmStable point).narrow (by decide))
    (visit.calmLedger point).locals
  act point target := (ReplayEngine.uses_performAction engine).keeps
    ((visit.calmStable point).narrow (by decide))
    (visit.calmLedger point).ledger
  unacted _ _ _ here := here
  relax _ _ _ here := here
  caught := visit.caught
  retry remaining number error seen state _ here :=
    visit.retry remaining number _ state
      (visit.caught ⟨remaining + 1, number⟩ error seen state here)
  settled := visit.settled
  advanced := visit.advanced
  unready := visit.unready
  escapes := visit.escapes
  recovers := visit.recovers
  rescues := visit.recovers

/-- A visit that does not disturb the assertion, its recovery branch apart. -/
theorem guarantees_visit_unseen {engine : ReplayEngine} {f : StepFrame}
    {number : Nat} {watch : Watch RuntimeSig Q} (ledger : Ledger calm)
    (stable : Stable watch
      (visitKinds ++ performKinds ++ markKinds f.index.isSome) calm)
    (recovers : Guarantees watch calm f.recover
      (orEnded calm fun _ => calm)
      fun error seen state => ordinary error ∧ calm seen state) :
    Guarantees watch calm (engine.executeStepWith f number)
      (fun _ => calm)
      (fun error seen state => ordinary error ∧ calm seen state) := by
  have silent : ∀ position : Mark, position.kind ∈ markKinds f.index.isSome →
      ∀ seen state, calm seen state →
      calm (watch seen ⟨.mark position, ()⟩) state :=
    fun position member seen state here =>
      stable seen state ⟨.mark position, ()⟩ here
        (List.mem_append_right _ member)
  have acting : Stable watch (visitKinds ++ performKinds) calm :=
    stable.narrow (List.subset_append_left _ _)
  let visit : CalmVisit engine f watch := {
    ready := fun _ => calm
    calm := fun _ => calm
    ended := fun _ => calm
    loose := calm
    readyLedger := fun _ => ledger
    calmLedger := fun _ => ledger
    readyStable := fun _ => acting.narrow (List.subset_append_left _ _)
    calmStable := fun _ => acting
    attempt := fun point => silent (.attempt f.index point.number)
      (by simp [markKinds])
    caught := fun _ error => silent (.failed f.index error)
      (by simp [markKinds])
    retry := fun _ _ _ _ here => here
    settled := fun _ _ _ _ here => here
    advanced := fun _ _ _ here => here
    unready := fun _ _ _ here => here
    escapes := fun _ _ _ here => here
    recovers := fun _ => recovers }
  exact visit.steady.outline.executeStepWith
    (silent (.visit f.index f.step) (by simp [markKinds]))
    (fun result => silent (.leave f.index result) (by simp [markKinds]))

/-- A recovery of which a watch sees the visits and the start only. -/
structure SteadyRecovery (engine : ReplayEngine) (run : ReplayRun)
    (step : Step) {Q : Type} (watch : Watch RuntimeSig Q) where
  calm : Assertion EngineState Q
  /-- The use is counted but not recorded. -/
  charged : Recovery → Nat → Assertion EngineState Q
  /-- From the start on. -/
  going : Assertion EngineState Q
  ended : StepResult → Assertion EngineState Q
  hidden : Private calm
  underway : Private going
  stable : Stable watch recoveryKinds calm
  lasting : Stable watch recoveryKinds going
  charge : ∀ recovery ∈ run.artifact.recoveries, ∀ seen state,
    calm seen state →
    ∀ uses, uses = (state.recoveryUses.get? recovery.id).getD 0 →
    uses < recovery.maxUses →
    charged recovery uses seen { state with
      recoveryUses := state.recoveryUses.set recovery.id (uses + 1) }
  start : ∀ recovery uses, Guarantees watch (charged recovery uses)
    (ReplayEngine.recordRecovery run "recovery_started" step recovery
      ("use", .int (uses + 1 : Nat))) (fun _ => going)
    fun error seen state => ordinary error ∧ calm seen state
  visit : ∀ recovery ∈ run.artifact.recoveries, ∀ version,
    ∀ nested ∈ recovery.steps, Guarantees watch going
      (engine.executeStepWith
        (ReplayEngine.recoveryFrame run nested version))
      (fun _ => going)
      fun error seen state => ordinary error ∧ going seen state
  relax : ∀ seen state, going seen state → calm seen state
  settled : ∀ result seen state, calm seen state →
    ended (.finished result) seen state
  resumed : ∀ stepId version seen state, going seen state →
    ended (.resume stepId version) seen state

def SteadyRecovery.outline {engine : ReplayEngine} {run : ReplayRun}
    {step : Step} {leaseVersion : Nat} {watch : Watch RuntimeSig Q}
    (steady : SteadyRecovery engine run step watch) :
    RecoveryOutline engine run step leaseVersion watch where
  idle := steady.calm
  selected _ := steady.calm
  exhausted _ := steady.calm
  charged := steady.charged
  started _ := steady.going
  running _ _ := steady.going
  visited _ _ _ := steady.going
  ended := steady.ended
  raised error seen state := ordinary error ∧ steady.calm seen state
  select := ((ReplayEngine.uses_selectBranch (v := EngineState.locals)).keeps
      (steady.stable.narrow (by decide)) steady.hidden).weaken
    (fun _ _ here => here)
    (fun choice _ _ here => by cases choice <;> exact here)
    (fun _ _ _ here => here)
  exhaust recovery uses := (ReplayEngine.uses_recordRecovery
    (v := EngineState.locals)).ordinary.keeps
    (steady.stable.narrow (by decide)) steady.hidden
  report recovery := ((ReplayEngine.uses_failure
      (v := EngineState.locals)).ordinary.keeps
      (steady.stable.narrow (by decide)) steady.hidden).weaken
    (fun _ _ here => here) steady.settled (fun _ _ _ here => here)
  charge := steady.charge
  start := steady.start
  begin recovery := ((engine.leaseService.uses_heartbeat
      (v := EngineState.locals)).ordinary.keeps
      (steady.lasting.narrow (by decide)) steady.underway).weaken
    (fun _ _ here => here) (fun _ _ _ here => here)
    (fun _ seen state here => ⟨here.1, steady.relax seen state here.2⟩)
  visit recovery declared version nested member :=
    (steady.visit recovery declared version nested member).weaken
      (fun _ _ here => here) (fun _ _ _ here => here)
      (fun _ seen state here => ⟨here.1, steady.relax seen state here.2⟩)
  nested recovery version stepId next seen state here :=
    ⟨nofun, steady.relax seen state here⟩
  finished recovery version result seen state here :=
    steady.settled result seen state (steady.relax seen state here)
  renew recovery version := ((engine.leaseService.uses_heartbeat
      (v := EngineState.locals)).ordinary.keeps
      (steady.lasting.narrow (by decide)) steady.underway).weaken
    (fun _ _ here => here) (fun _ _ _ here => here)
    (fun _ seen state here => ⟨here.1, steady.relax seen state here.2⟩)
  complete recovery version := ((ReplayEngine.uses_recordRecovery
      (v := EngineState.locals)).ordinary.keeps
      (steady.lasting.narrow (by decide)) steady.underway).weaken
    (fun _ _ here => here)
    (fun _ seen state here => steady.resumed _ version seen state here)
    (fun _ seen state here => ⟨here.1, steady.relax seen state here.2⟩)

end Steady

/-- What the step loop issues outside its visits. -/
def loopKinds : List OpKind :=
  [.getLease, .now, .swapLease, .wait, .record "checkpoint_verified",
    .manifest] ++ ReplayEngine.failureKinds

/-- What a call issues outside its step loop. -/
def callKinds : List OpKind :=
  [.compatibility, .openSession, .now, .createLease, .record "replay_started",
    .record "business_outcome", .manifest, .evaluate, .close] ++
    ReplayEngine.surfaceFailureKinds

namespace ReplayEngine

variable {engine : ReplayEngine}

theorem uses_complete {run : ReplayRun} :
    Uses loopKinds EngineState.locals ordinary (engine.complete run) := by
  have report : ∀ {code message},
      Uses loopKinds EngineState.locals ordinary
        (runFailure run code message) :=
    (uses_failure.widen (by decide)).ordinary
  unfold complete
  refine confined_bind (uses_waitUntil.widen (by decide)) fun reached => ?_
  refine confined_ite (fun _ => ?_) fun _ => report
  refine confined_bind confined_get fun state => ?_
  refine confined_bind (confined_catching (c := ordinary)
    (confined_attempt fun error failed => ?_) fun _ normal _ => normal)
    fun outcome => ?_
  · exact throws_validateObject error failed
  · split
    · exact report
    · unfold success
      refine confined_bind (uses_record (by decide)).ordinary fun _ => ?_
      refine confined_bind (uses_manifest (by decide)) fun manifest => ?_
      exact confined_bind (confined_attempt
        (throws_successResult fun _ => ordinary_value)) fun _ => confined_pure

theorem uses_openSession {request : ReplayRequest} :
    Uses callKinds EngineState.locals ordinary
      (engine.openSession request) := by
  have reads : ∀ {α : Type} {resp : Except SessionError α} {error : Raised},
      resp.mapError SessionError.raised = .error error → ordinary error := by
    intro α resp error failed
    cases resp with
    | ok value => cases failed
    | error reason =>
        cases failed
        exact reason.ordinary_raised
  unfold openSession validateCompatibility
  refine confined_bind (confined_ite (fun _ => ?_) fun _ => confined_pure)
    fun _ => ?_
  · exact confined_invoke (fun _ => by simp [callKinds, eventKind,
      RuntimeOp.kind]) fun resp error failed => reads failed
  · exact confined_invoke (fun _ => by simp [callKinds, eventKind,
      RuntimeOp.kind]) fun resp error failed => reads failed

/-- Retaining a continuation changes the pause points only. -/
theorem uses_retainResult {run : ReplayRun} {index : Nat}
    {result : RunResult} :
    Uses [.observe, .retain] EngineState.locals ordinary
      (engine.retainResult run index result) := by
  unfold retainResult
  split
  · unfold retainContinuation
    refine confined_bind confined_get fun state => ?_
    refine confined_bind (confined_modify fun _ => rfl) fun _ => ?_
    refine confined_ite (fun _ => ?_) fun _ => confined_pure
    refine confined_bind (uses_session (by simp)) fun observation => ?_
    refine confined_bind confined_get fun current => ?_
    refine confined_invoke (fun _ => by simp [eventKind, RuntimeOp.kind])
      fun resp error failed => ?_
    cases resp with
    | ok value => cases failed
    | error reason =>
        cases failed
        exact reason.ordinary_raised
  · exact confined_pure

end ReplayEngine

section Calls

variable {engine : ReplayEngine} {Q : Type}
  {done : RunResult → Q → Prop} {raised : Raised → Q → Prop}

/-- The end of the loop, for a watch that sees no continuation. -/
theorem guarantees_endLoop_quiet {run : ReplayRun} {index : Nat}
    {result : RunResult} {before : Assertion EngineState Q}
    {watch : Watch RuntimeSig Q}
    (stable : Stable watch [.observe, .retain]
      fun seen (_ : EngineState) => done result seen)
    (settled : ∀ seen state, before seen state → done result seen)
    (failed : ∀ error seen, ordinary error → done result seen →
      raised error seen) :
    Guarantees watch before (engine.endLoop run index result)
      (fun result seen _ => done result seen)
      (fun error seen _ => raised error seen) :=
  guarantees_endLoop (m := fun seen _ => done result seen) settled
    ((ReplayEngine.uses_retainResult.keeps stable
      (fun _ _ _ _ here => here)).weaken
      (fun _ _ here => here) (fun _ _ _ here => here)
      (fun error seen _ here => failed error seen here.1 here.2))

/-- A step loop of which a watch sees the visits and the end only. -/
structure SteadyLoop (engine : ReplayEngine) (run : ReplayRun)
    (firstAttempt : Nat → Nat) {Q : Type} (watch : Watch RuntimeSig Q) where
  start : Nat → Nat → Assertion EngineState Q
  visited : Nat → Nat → StepResult → Assertion EngineState Q
  done : RunResult → Q → Prop
  raised : Raised → Q → Prop
  begun : ∀ visits index, Private (start visits index)
  hidden : ∀ visits index result, Private (visited visits index result)
  ready : ∀ visits index, Stable watch loopKinds (start visits index)
  stable : ∀ visits index result,
    Stable watch loopKinds (visited visits index result)
  visit : ∀ visits index version step,
    run.artifact.steps[index]? = some step →
    Guarantees watch (start (visits + 1) index)
      (engine.executeStepWith (engine.mainFrame run index step version)
        (firstAttempt index)) (visited visits index)
      fun error seen _ => raised error seen
  advance : ∀ visits index seen state,
    visited visits index .advance seen state →
    start visits (index + 1) seen state
  jump : ∀ visits index stepId next target seen state,
    run.request.stepIndex? (some stepId) = some target →
    visited visits index (.resume stepId next) seen state →
    start visits target seen state
  finish : ∀ visits index result, Guarantees watch
    (visited visits index (.finished result))
    (engine.endLoop run index result)
    (fun result seen _ => done result seen)
    fun error seen _ => raised error seen
  complete : ∀ visits index result seen state,
    run.artifact.steps[index]? = none → start visits index seen state →
    done result seen
  unfinished : ∀ index step seen state,
    run.artifact.steps[index]? = some step → start 0 index seen state →
    raised .unfinished seen
  failed : ∀ visits index result error seen state, ordinary error →
    visited visits index result seen state → raised error seen
  failed' : ∀ visits index error seen state, ordinary error →
    start visits index seen state → raised error seen

def SteadyLoop.outline {run : ReplayRun} {firstAttempt : Nat → Nat}
    {watch : Watch RuntimeSig Q}
    (steady : SteadyLoop engine run firstAttempt watch) :
    LoopOutline engine run firstAttempt watch where
  start visits index _ := steady.start visits index
  visited visits index _ := steady.visited visits index
  done result seen _ := steady.done result seen
  raised error seen _ := steady.raised error seen
  visit := steady.visit
  advance visits index version :=
    ((engine.leaseService.uses_heartbeat (v := EngineState.locals)).keeps
      ((steady.stable visits index .advance).narrow (by decide))
      (steady.hidden visits index .advance)).weaken
      (fun _ _ here => here)
      (fun _ seen state here => steady.advance visits index seen state here)
      (fun error seen state here =>
        steady.failed visits index _ error seen state here.1.ordinary here.2)
  jump visits index version stepId next :=
    ((engine.leaseService.uses_heartbeat (v := EngineState.locals)).keeps
      ((steady.stable visits index (.resume stepId next)).narrow (by decide))
      (steady.hidden visits index (.resume stepId next))).weaken
      (fun _ _ here => here)
      (fun _ seen state here => by
        cases known : run.request.stepIndex? (some stepId) with
        | none => exact steady.failed visits index _ _ seen state nofun here
        | some target =>
            exact steady.jump visits index stepId next target seen state known here)
      (fun error seen state here =>
        steady.failed visits index _ error seen state here.1.ordinary here.2)
  finish visits index _ result := steady.finish visits index result
  complete visits index version outside :=
    (ReplayEngine.uses_complete.keeps (steady.ready visits index)
      (steady.begun visits index)).weaken
      (fun _ _ here => here)
      (fun result seen state here =>
        steady.complete visits index result seen state outside here)
      (fun error seen state here =>
        steady.failed' visits index error seen state here.1 here.2)
  exhausted index version step seen state found here :=
    steady.unfinished index step seen state found here

/-- What a call issues outside its step loop disturbs none of these. -/
structure Quiet (watch : Watch RuntimeSig Q) (still : Q → Prop)
    (done : RunResult → Q → Prop) (raised : Raised → Q → Prop) : Prop where
  still : Stable watch callKinds fun seen (_ : EngineState) => still seen
  done : ∀ result,
    Stable watch callKinds fun seen (_ : EngineState) => done result seen
  raised : ∀ error,
    Stable watch callKinds fun seen (_ : EngineState) => raised error seen

/-- A watch that does not look at the frame of a call. -/
theorem RuntimeWatch.quiet (watch : RuntimeWatch Q) {still : Q → Prop}
    (apart : ∀ kind ∈ callKinds, kind ∉ watch.kinds) :
    Quiet watch.step still done raised where
  still := watch.stable apart
  done _ := watch.stable apart
  raised _ := watch.stable apart

/-- The clauses around an open session, of which a watch sees the body
only. -/
theorem guarantees_guardSession_quiet {request : ReplayRequest}
    {session : SurfaceSession} {body : Replay RunResult}
    {before : Assertion EngineState Q} {still : Q → Prop}
    {watch : Watch RuntimeSig Q} (quiet : Quiet watch still done raised)
    (inner : Guarantees watch before body
      (fun result seen _ => done result seen)
      (fun error seen _ => raised error seen))
    (handled : ∀ error result seen, result.isReport = true →
      raised (.surface error) seen → done result seen)
    (failed : ∀ error other seen, ordinary other → raised error seen →
      raised other seen)
    (failed' : ∀ result error seen, ordinary error → done result seen →
      raised error seen) :
    Guarantees watch before (engine.guardSession request session body)
      (fun result seen _ => done result seen)
      (fun error seen _ => raised error seen) := by
  have closes : Uses callKinds (fun _ : EngineState => ()) ordinary
      (ReplayEngine.closeUnlessPreserved session) := by
    refine confined_bind confined_get fun state => ?_
    refine confined_ite (fun _ => confined_pure) fun _ => ?_
    exact uses_session (by simp [callKinds])
  have reports : ∀ error, Uses callKinds (fun _ : EngineState => ()) ordinary
      (engine.surfaceFailure request (some session) none error) :=
    fun error => ((ReplayEngine.uses_surfaceFailure engine).widen
      (by decide)).weaken (fun _ here => here) (fun _ _ _ => rfl)
        (fun _ here => here)
  refine guarantees_guardSession inner (fun error => ?_) (fun result => ?_)
    fun error => ?_
  · unfold ReplayEngine.reportEscaped
    refine guarantees_bind (ReplayEngine.returns_surfaceFailure engine
      |>.strengthen ((reports error).keeps (quiet.raised (.surface error))
        (fun _ _ _ _ here => here)) |>.weaken (fun _ _ here => here)
      (fun _ _ _ here => here)
      (fun other seen _ here => failed _ other seen here.1 here.2))
      fun result => ?_
    refine guarantees_bind (m := fun _ seen _ => done result seen)
      (guarantees_modify fun seen _ here =>
        handled error result seen here.1 here.2) fun _ => ?_
    exact guarantees_pure fun _ _ here => here
  · exact (closes.keeps (quiet.done result) (fun _ _ _ _ here => here)).weaken
      (fun _ _ here => here) (fun _ _ _ here => here)
      (fun error seen _ here => failed' result error seen here.1 here.2)
  · exact (closes.keeps (quiet.raised error) (fun _ _ _ _ here => here)).weaken
      (fun _ _ here => here) (fun _ _ _ here => here)
      (fun other seen _ here => failed error other seen here.1 here.2)

/-- A call of `execute` of which a watch sees the step loop only. -/
theorem guarantees_execute_quiet {visits : Nat} {request : ReplayRequest}
    {still : Q → Prop} {watch : Watch RuntimeSig Q}
    (quiet : Quiet watch still done raised)
    (loop : ∀ session inputs version,
      validateObject engine.host request.artifact.inputs request.inputs =
        .ok inputs →
      Guarantees watch
        (fun seen state => still seen ∧ state.outputs = [] ∧
          state.recoveryUses = [])
        (engine.stepLoop { request, session, inputs } (fun _ => 1) visits 0
          version)
        (fun result seen _ => done result seen)
        (fun error seen _ => raised error seen))
    (returned : ∀ result seen, result.isSuccess = false → still seen →
      done result seen)
    (failed : ∀ error seen, ordinary error → still seen → raised error seen)
    (handled : ∀ error result seen, result.isReport = true →
      raised (.surface error) seen → done result seen)
    (failed' : ∀ error other seen, ordinary other → raised error seen →
      raised other seen)
    (failed'' : ∀ result error seen, ordinary error → done result seen →
      raised error seen) :
    Guarantees watch (fun seen _ => still seen)
      (engine.execute visits request)
      (fun result seen _ => done result seen)
      (fun error seen _ => raised error seen) := by
  have report : ∀ {code message live},
      Guarantees watch (fun seen _ => still seen)
        (ReplayEngine.failure request code message false none none none live)
        (fun result seen _ => done result seen)
        (fun error seen _ => raised error seen) := fun {code message live} =>
    (ReplayEngine.returns_failure.strengthen
      ((ReplayEngine.uses_failure (v := EngineState.locals)).keeps
        (quiet.still.narrow (by decide))
        (fun _ _ _ _ here => here))).weaken (fun _ _ here => here)
      (fun result seen _ here =>
        returned result seen (RunResult.not_success_of_report here.1) here.2)
      (fun error seen _ here => failed error seen here.1.ordinary here.2)
  refine guarantees_execute (o := fun _ seen _ => still seen)
    (fun _ _ here => here) (fun _ _ => report) ?_ (fun error => ?_)
    (fun session inputs valid => ?_) ?_
  · refine guarantees_catching (c := fun error seen _ =>
      ordinary error ∧ still seen) ?_ (fun _ _ _ _ here _ => here.2)
      (fun error seen _ here _ => failed error seen here.1 here.2)
    exact ReplayEngine.uses_openSession.keeps quiet.still
      (fun _ _ _ _ here => here)
  · exact ((ReplayEngine.returns_surfaceFailure engine).strengthen
      ((ReplayEngine.uses_surfaceFailure engine).keeps
        (quiet.still.narrow (by decide))
        (fun _ _ _ _ here => here))).weaken (fun _ _ here => here)
      (fun result seen _ here =>
        returned result seen (RunResult.not_success_of_report here.1) here.2)
      (fun error seen _ here => failed error seen here.1 here.2)
  · refine guarantees_guardSession_quiet quiet ?_ handled failed'
      failed''
    refine guarantees_runSession (l := fun _ seen _ => still seen)
      (p := fun _ seen state => still seen ∧ state.outputs = [] ∧
        state.recoveryUses = []) ?_ (fun _ => ?_)
      (fun _ _ _ here => ⟨here, rfl, rfl⟩) (fun _ => ?_)
      (fun version => loop session inputs version valid) fun _ => ?_
    · exact ((engine.leaseService.uses_createForAutomation
        (v := EngineState.locals)).keeps
        (quiet.still.narrow (by decide))
        (fun _ _ _ _ here => here)).weaken (fun _ _ here => here)
        (fun _ _ _ here => here)
        (fun error seen _ here => failed error seen here.1.ordinary here.2)
    · exact ((uses_record (k := callKinds) (v := EngineState.locals)
        (by decide)).keeps quiet.still
        (fun _ _ _ _ here => here)).weaken (fun _ _ here => here)
        (fun _ _ _ here => here)
        (fun error seen _ here => failed error seen here.1.ordinary here.2)
    · have fresh : Stable watch callKinds fun seen (state : EngineState) =>
          still seen ∧ state.outputs = [] ∧ state.recoveryUses = [] :=
        fun seen state event here member =>
          ⟨quiet.still seen state event here.1 member, here.2⟩
      refine ((ReplayEngine.uses_allHold (v := EngineState.locals)).keeps
        (fresh.narrow (by decide)) ?_).weaken
        (fun _ _ here => here) (fun _ _ _ here => here)
        (fun error seen _ here => failed error seen here.1 here.2.1)
      intro seen left right same here
      simp only [EngineState.locals, Prod.mk.injEq] at same
      rw [same.1, same.2.1]
      exact here
    · exact report.weaken (fun _ _ here => here.1) (fun _ _ _ here => here)
        (fun _ _ _ here => here)
  · intro error seen state invalid _ here
    exact failed error seen (throws_validateObject error invalid) here

/-- A call of `resume` of which a watch sees the step loop only. -/
theorem guarantees_resume_quiet {visits version : Nat}
    {continuation : ReplayContinuation} {outcome : Option BusinessOutcome}
    {still : Q → Prop} {watch : Watch RuntimeSig Q}
    (quiet : Quiet watch still done raised)
    (loop : ReplayEngine.assertContinuation continuation = .ok () →
      Guarantees watch
        (fun seen state => still seen ∧
          state.outputs = continuation.outputs ∧
          state.recoveryUses = continuation.recoveryUses)
        (engine.stepLoop continuation.run continuation.firstAttempt visits
          continuation.startIndex version)
        (fun result seen _ => done result seen)
        (fun error seen _ => raised error seen))
    (returned : ∀ result seen, result.isSuccess = false → still seen →
      done result seen)
    (failed : ∀ error seen, ordinary error → still seen → raised error seen)
    (handled : ∀ error result seen, result.isReport = true →
      raised (.surface error) seen → done result seen)
    (failed' : ∀ error other seen, ordinary other → raised error seen →
      raised other seen)
    (failed'' : ∀ result error seen, ordinary error → done result seen →
      raised error seen) :
    Guarantees watch (fun seen _ => still seen)
      (engine.resume visits continuation version outcome)
      (fun result seen _ => done result seen)
      (fun error seen _ => raised error seen) := by
  refine guarantees_resume (o := fun seen state => still seen ∧
      state.outputs = continuation.outputs ∧
      state.recoveryUses = continuation.recoveryUses)
    (fun error seen _ normal here => failed error seen normal here) ?_
    (fun verified => ?_) (fun _ _ here => ⟨here, rfl, rfl⟩) fun valid =>
      guarantees_guardSession_quiet quiet (loop valid) handled failed'
        failed''
  · exact ((uses_session (k := callKinds) (v := EngineState.locals)
      (by simp [callKinds])).keeps quiet.still
      (fun _ _ _ _ here => here)).weaken (fun _ _ here => here)
      (fun _ _ _ here => here)
      (fun error seen _ here => failed error seen here.1 here.2)
  · exact ((ReplayEngine.returns_businessOutcome engine).strengthen
      ((ReplayEngine.uses_businessOutcome (v := EngineState.locals)
        engine).keeps
        (quiet.still.narrow (by decide))
        (fun _ _ _ _ here => here))).weaken (fun _ _ here => here)
      (fun result seen _ here => returned result seen here.1 here.2)
      (fun error seen _ here => failed error seen here.1.ordinary here.2)

/-- Where the step loop of an `execute` leads, the whole call leads. -/
theorem execute_settles {visits : Nat} {request : ReplayRequest}
    (watch : RuntimeWatch Q) (still settled : Q → Prop)
    (apart : ∀ kind ∈ callKinds, kind ∉ watch.kinds)
    (idle : ∀ seen, still seen → settled seen)
    (loop : ∀ (run : ReplayRun) version, run.request = request →
      Guarantees watch.step
        (fun seen state => still seen ∧ state.outputs = [] ∧
          state.recoveryUses = [])
        (engine.stepLoop run (fun _ => 1) visits 0 version)
        (fun _ seen _ => settled seen) (fun _ seen _ => settled seen))
    {seen : Q} {start final : EngineState} {events : List RuntimeEvent}
    {result : Except Raised RunResult} (here : still seen)
    (run : Executes (engine.execute visits request) start events result
      final) : settled (watch.step.run seen events) := by
  have quiet : Guarantees watch.step (fun seen _ => still seen)
      (engine.execute visits request) (fun _ seen _ => settled seen)
      (fun _ seen _ => settled seen) :=
    guarantees_execute_quiet (watch.quiet apart)
      (fun session inputs version _ => loop _ version rfl)
      (fun _ seen _ here => idle seen here) (fun _ seen _ here => idle seen here)
      (fun _ _ _ _ here => here) (fun _ _ _ _ here => here)
      (fun _ _ _ _ here => here)
  have ending := quiet here run
  cases result with
  | ok result => exact ending
  | error error => exact ending

/-- Where the step loop of a `resume` leads, the whole call leads. -/
theorem resume_settles {visits version : Nat}
    {continuation : ReplayContinuation} {outcome : Option BusinessOutcome}
    (watch : RuntimeWatch Q) (still settled : Q → Prop)
    (apart : ∀ kind ∈ callKinds, kind ∉ watch.kinds)
    (idle : ∀ seen, still seen → settled seen)
    (loop : ReplayEngine.assertContinuation continuation = .ok () →
      Guarantees watch.step
        (fun seen state => still seen ∧
          state.outputs = continuation.outputs ∧
          state.recoveryUses = continuation.recoveryUses)
        (engine.stepLoop continuation.run continuation.firstAttempt visits
          continuation.startIndex version)
        (fun _ seen _ => settled seen) (fun _ seen _ => settled seen))
    {seen : Q} {start final : EngineState} {events : List RuntimeEvent}
    {result : Except Raised RunResult} (here : still seen)
    (run : Executes (engine.resume visits continuation version outcome) start
      events result final) : settled (watch.step.run seen events) := by
  have quiet : Guarantees watch.step (fun seen _ => still seen)
      (engine.resume visits continuation version outcome)
      (fun _ seen _ => settled seen) (fun _ seen _ => settled seen) :=
    guarantees_resume_quiet (watch.quiet apart) loop
      (fun _ seen _ here => idle seen here) (fun _ seen _ here => idle seen here)
      (fun _ _ _ _ here => here) (fun _ _ _ _ here => here)
      (fun _ _ _ _ here => here)
  have ending := quiet here run
  cases result with
  | ok result => exact ending
  | error error => exact ending

end Calls

end ReplayForge

import ReplayForge.Replay.Environment
import ReplayForge.Replay.Steady

/-!
# Dispatches of a visit

The retry loop decides by the error alone.  It repeats a dispatch only if an
error that permits a retry is the one its own dispatch raised; an error of a
later wait or detector permits it as well.
-/

namespace ReplayForge

open Effect

/-- A visit in progress, as far as its dispatches go. -/
structure VisitDispatch where
  step : Step
  /-- The number of the attempt. -/
  number : Nat := 0
  /-- The answer of the visit's last `session.execute`. -/
  last : Option (Except SessionError ActionReceipt) := none
  /-- This attempt called `session.execute`. -/
  fresh : Bool := false

namespace VisitDispatch

/-- The visit may call `session.execute`: it did not do so before, or its last
call raised a recoverable error without effect that the step retries on. -/
def permitted (visit : VisitDispatch) : Bool :=
  match visit.last with
  | none => true
  | some (.error (.surface error)) =>
      error.recoverable && error.effectAbsent &&
        decide (error.code ∈ visit.step.retry.retryOn)
  | some _ => false

/-- The last `session.execute` raised the given error. -/
def lastRaised (visit : VisitDispatch) (error : SurfaceError) : Bool :=
  match visit.last with
  | some (.error (.surface raised)) => raised = error
  | _ => false

/-- A retry of the given error is due. -/
def retryDue (visit : VisitDispatch) (error : SurfaceError) : Bool :=
  ReplayEngine.retryable visit.step error &&
    decide (visit.number < visit.step.retry.maxAttempts)

/-- Where a retry is due, the attempt has not called `session.execute` or that
call raised the error. -/
def ownError (visit : VisitDispatch) (error : SurfaceError) : Bool :=
  !visit.retryDue error || !visit.fresh || visit.lastRaised error

end VisitDispatch

/-- The visits in progress, of a main step and inside it of a step of a
recovery, and two verdicts on the run so far. -/
structure DispatchLog where
  main : Option VisitDispatch := none
  nested : Option VisitDispatch := none
  /-- Every call of `session.execute` was permitted. -/
  permitted : Bool := true
  /-- Every handled error was its attempt's own, where a retry was due. -/
  ownErrors : Bool := true

namespace DispatchLog

def slot (log : DispatchLog) (main : Bool) : Option VisitDispatch :=
  if main then log.main else log.nested

/-- A main step's own activity means that no recovery is in progress. -/
def put (log : DispatchLog) (main : Bool) (visit : Option VisitDispatch) :
    DispatchLog :=
  if main then { log with main := visit, nested := none }
  else { log with nested := visit }

/-- A session call belongs to the innermost visit. -/
def inMain (log : DispatchLog) : Bool :=
  log.nested.isNone

def attempt (log : DispatchLog) (main : Bool) (number : Nat) : DispatchLog :=
  log.put main ((log.slot main).map ({ · with number, fresh := false }))

def failed (log : DispatchLog) (main : Bool) (error : SurfaceError) :
    DispatchLog :=
  { log.put main (log.slot main) with
    ownErrors := log.ownErrors && (log.slot main).all (·.ownError error) }

def execute (log : DispatchLog) (answer : Except SessionError ActionReceipt) :
    DispatchLog :=
  let visit := log.slot log.inMain
  { log.put log.inMain
      (visit.map ({ · with last := some answer, fresh := true })) with
    permitted := log.permitted && visit.all VisitDispatch.permitted }

variable (log : DispatchLog) (main : Bool) (visit : Option VisitDispatch)

@[simp]
theorem slot_put : (log.put main visit).slot main = visit := by
  cases main <;> rfl

@[simp]
theorem permitted_put : (log.put main visit).permitted = log.permitted := by
  cases main <;> rfl

@[simp]
theorem ownErrors_put : (log.put main visit).ownErrors = log.ownErrors := by
  cases main <;> rfl

theorem inMain_put_of_some {current : VisitDispatch} :
    (log.put main (some current)).inMain = main := by
  cases main <;> rfl

end DispatchLog

/-- Follow the dispatches of a run. -/
def dispatchLog : RuntimeWatch DispatchLog where
  step
    | seen, ⟨.mark (.visit index step), _⟩ =>
        seen.put index.isSome (some { step })
    | seen, ⟨.mark (.attempt index number), _⟩ =>
        seen.attempt index.isSome number
    | seen, ⟨.mark (.failed index error), _⟩ => seen.failed index.isSome error
    | seen, ⟨.session _ (.execute _ _ _), answer⟩ => seen.execute answer
    | seen, _ => seen
  kinds := [.visit true, .visit false, .attempt true, .attempt false,
    .failed true, .failed false, .execute]
  silent seen event apart := by
    split
    next index _ _ =>
      exact absurd (by cases index <;> simp [eventKind, RuntimeOp.kind]) apart
    next index _ _ =>
      exact absurd (by cases index <;> simp [eventKind, RuntimeOp.kind]) apart
    next index _ _ =>
      exact absurd (by cases index <;> simp [eventKind, RuntimeOp.kind]) apart
    next => exact absurd (by simp [eventKind, RuntimeOp.kind]) apart
    next => rfl

/-- What a run leaves in the log. -/
def dispatchesOf (events : List RuntimeEvent) : DispatchLog :=
  dispatchLog.step.run {} events

section Visit

variable {engine : ReplayEngine} {run : ReplayRun} {f : StepFrame}
  {main : Bool} {outer : Option VisitDispatch → Prop}

/-- While every error was its attempt's own, every call was permitted; `outer`
speaks of the main visit around a recovery. -/
def DispatchesSound (outer : Option VisitDispatch → Prop) (seen : DispatchLog) :
    Prop :=
  seen.ownErrors = true → seen.permitted = true ∧ outer seen.main

/-- The same inside a visit of a step. -/
def VisitSound (main : Bool) (outer : Option VisitDispatch → Prop)
    (step : Step) (holds : VisitDispatch → Prop) (seen : DispatchLog) : Prop :=
  seen.ownErrors = true → seen.permitted = true ∧ outer seen.main ∧
    ∃ visit, seen.slot main = some visit ∧ visit.step = step ∧ holds visit

/-- Inside the visit of a main step there is nothing around it. -/
def Outermost (main : Bool) (outer : Option VisitDispatch → Prop) : Prop :=
  main = true → ∀ visit, outer visit

theorem Outermost.put (free : Outermost main outer) {log : DispatchLog}
    {visit : Option VisitDispatch} (here : outer log.main) :
    outer (log.put main visit).main := by
  cases main with
  | true => exact free rfl _
  | false => exact here

variable {step : Step} {number : Nat} {seen : DispatchLog}
  {holds : VisitDispatch → Prop}

theorem VisitSound.sound (here : VisitSound main outer step holds seen) :
    DispatchesSound outer seen :=
  fun own => ⟨(here own).1, (here own).2.1⟩

theorem VisitSound.mono {weaker : VisitDispatch → Prop}
    (here : VisitSound main outer step holds seen)
    (weakens : ∀ visit, holds visit → weaker visit) :
    VisitSound main outer step weaker seen := by
  intro own
  obtain ⟨permitted, around, visit, current, same, property⟩ := here own
  exact ⟨permitted, around, visit, current, same, weakens visit property⟩

theorem visitSound_enter (free : Outermost main outer)
    (here : DispatchesSound outer seen) :
    VisitSound main outer step (·.permitted = true)
      (seen.put main (some { step })) := by
  intro own
  rw [DispatchLog.ownErrors_put] at own
  obtain ⟨permitted, around⟩ := here own
  refine ⟨?_, free.put around, _, DispatchLog.slot_put _ _ _, rfl, rfl⟩
  rw [DispatchLog.permitted_put]
  exact permitted

/-- What holds of a visit before its attempt's own dispatch. -/
def Entering (number : Nat) (visit : VisitDispatch) : Prop :=
  visit.number = number ∧ visit.fresh = false ∧ visit.permitted = true

/-- What holds of a visit from then on. -/
def Acting (number : Nat) (visit : VisitDispatch) : Prop :=
  visit.number = number ∧ (visit.fresh = false → visit.permitted = true)

theorem Entering.acting {visit : VisitDispatch}
    (here : Entering number visit) : Acting number visit :=
  ⟨here.1, fun _ => here.2.2⟩

theorem visitSound_attempt (free : Outermost main outer)
    (here : VisitSound main outer step (·.permitted = true) seen) :
    VisitSound main outer step (Entering number) (seen.attempt main number) ∧
      ((seen.attempt main number).ownErrors = true →
        (seen.attempt main number).inMain = main) := by
  unfold DispatchLog.attempt VisitSound
  rw [DispatchLog.ownErrors_put, DispatchLog.permitted_put,
    DispatchLog.slot_put]
  constructor
  · intro own
    obtain ⟨permitted, around, visit, current, same, allowed⟩ := here own
    rw [current, Option.map_some]
    exact ⟨permitted, free.put around, _, rfl, same, rfl, rfl, allowed⟩
  · intro own
    obtain ⟨-, -, visit, current, -⟩ := here own
    rw [current, Option.map_some]
    exact DispatchLog.inMain_put_of_some _ _

/-- A permitted call of `session.execute`. -/
theorem visitSound_execute (free : Outermost main outer)
    (answer : Except SessionError ActionReceipt)
    (here : VisitSound main outer step (Entering number) seen)
    (innermost : seen.ownErrors = true → seen.inMain = main) :
    VisitSound main outer step
      (fun visit => Acting number visit ∧ visit.last = some answer)
      (seen.execute answer) := by
  unfold DispatchLog.execute VisitSound
  simp only [DispatchLog.ownErrors_put]
  intro own
  obtain ⟨permitted, around, visit, current, same, counted, -, allowed⟩ :=
    here own
  rw [innermost own, current, Option.map_some, Option.all_some, permitted,
    allowed]
  refine ⟨rfl, free.put around, _, DispatchLog.slot_put _ _ _, same,
    ⟨counted, nofun⟩, rfl⟩

theorem visitSound_failed (free : Outermost main outer)
    (here : VisitSound main outer step holds seen) (error : SurfaceError) :
    VisitSound main outer step
      (fun visit => holds visit ∧ visit.ownError error = true)
      (seen.failed main error) := by
  unfold DispatchLog.failed VisitSound
  simp only [Bool.and_eq_true]
  rintro ⟨own, fine⟩
  obtain ⟨permitted, around, visit, current, same, property⟩ := here own
  rw [current, Option.all_some] at fine
  refine ⟨?_, free.put around, visit, ?_, same, property, fine⟩
  · rw [DispatchLog.permitted_put, permitted]
  · rw [← current]
    exact DispatchLog.slot_put _ _ _

/-- The next attempt may dispatch again. -/
theorem permitted_of_ownError {visit : VisitDispatch} {error : SurfaceError}
    (acting : visit.fresh = false → visit.permitted = true)
    (due : visit.retryDue error = true)
    (own : visit.ownError error = true) : visit.permitted = true := by
  unfold VisitDispatch.ownError at own
  rw [due, Bool.not_true, Bool.false_or, Bool.or_eq_true,
    Bool.not_eq_true'] at own
  rcases own with fresh | raised
  · exact acting fresh
  · unfold VisitDispatch.lastRaised at raised
    split at raised
    next same answer =>
      unfold VisitDispatch.permitted
      rw [answer]
      obtain rfl := of_decide_eq_true raised
      unfold VisitDispatch.retryDue at due
      exact (Bool.and_eq_true_iff.mp due).1
    next => cases raised

/-- The attempts left are those the retry policy leaves. -/
def AttemptPoint.Counts (point : AttemptPoint) (step : Step) : Prop :=
  point.remaining = step.retry.maxAttempts - point.number

/-- Before an attempt. -/
def dispatchReady (main : Bool) (outer : Option VisitDispatch → Prop)
    (step : Step) (point : AttemptPoint) : Assertion EngineState DispatchLog :=
  fun seen _ => point.Counts step ∧
    VisitSound main outer step (·.permitted = true) seen

/-- Before the action. -/
def dispatchEntered (main : Bool) (outer : Option VisitDispatch → Prop)
    (step : Step) (point : AttemptPoint) : Assertion EngineState DispatchLog :=
  fun seen _ => point.Counts step ∧
    VisitSound main outer step (Entering point.number) seen ∧
    (seen.ownErrors = true → seen.inMain = main)

/-- From the action on. -/
def dispatchActed (main : Bool) (outer : Option VisitDispatch → Prop)
    (step : Step) (point : AttemptPoint) : Assertion EngineState DispatchLog :=
  fun seen _ => point.Counts step ∧
    VisitSound main outer step (Acting point.number) seen

def dispatchSound (outer : Option VisitDispatch → Prop) :
    Assertion EngineState DispatchLog :=
  fun seen _ => DispatchesSound outer seen

theorem dispatchEntered.acted {point : AttemptPoint} {state : EngineState}
    (here : dispatchEntered main outer step point seen state) :
    dispatchActed main outer step point seen state :=
  ⟨here.1, here.2.1.mono fun _ => Entering.acting⟩

/-- The action calls `session.execute` once at most. -/
theorem guarantees_performAction_dispatch (free : Outermost main outer)
    (point : AttemptPoint) (target : Option ResolvedTarget) :
    Guarantees dispatchLog.step (dispatchEntered main outer f.step point)
      (engine.performAction f target)
      (fun _ => dispatchActed main outer f.step point)
      (fun error seen state => ordinary error ∧
        dispatchActed main outer f.step point seen state) := by
  have unseen : ∀ {α γ : Type} {view : EngineState → γ} {k : List OpKind}
      {body : Replay α} {holds : DispatchLog → Prop},
      (∀ kind ∈ k, kind ∉ dispatchLog.kinds) →
      Uses k view ordinary body →
      Guarantees dispatchLog.step (fun seen _ => holds seen) body
        (fun _ seen _ => holds seen)
        (fun error seen _ => ordinary error ∧ holds seen) :=
    fun apart proof => proof.keeps (dispatchLog.stable apart)
      fun _ _ _ _ here => here
  let action : ActionOutline engine f target dispatchLog.step := {
    before := dispatchEntered main outer f.step point
    tested := fun _ => dispatchEntered main outer f.step point
    acted := dispatchActed main outer f.step point
    after := dispatchActed main outer f.step point
    raised := fun error seen state => ordinary error ∧
      dispatchActed main outer f.step point seen state
    assert := fun _ _ => (unseen (by decide)
      (ReplayEngine.uses_evaluate (v := EngineState.locals))).weaken
      (fun _ _ here => here) (fun _ _ _ here => here)
      (fun _ _ _ here => ⟨here.1, dispatchEntered.acted here.2⟩)
    checkpoint := fun _ _ => (unseen (by decide)
      (ReplayEngine.uses_evaluate (v := EngineState.locals))).weaken
      (fun _ _ here => here) (fun _ _ _ here => here)
      (fun _ _ _ here => ⟨here.1, dispatchEntered.acted here.2⟩)
    wait := fun _ _ => (unseen (by decide)
      (ReplayEngine.uses_waitUntil (v := EngineState.locals))).weaken
      (fun _ _ here => here) (fun _ _ _ here => here)
      (fun _ _ _ here => ⟨here.1, dispatchEntered.acted here.2⟩)
    satisfied := fun _ _ here => here.acted
    unsatisfied := fun _ _ _ here => ⟨nofun, here.acted⟩
    extract := fun _ _ _ _ => (unseen (k := [.extract]) (by decide)
      (uses_session (v := EngineState.locals) (by simp))).weaken
      (fun _ _ here => here) (fun _ _ _ here => dispatchEntered.acted here)
      (fun _ _ _ here => ⟨here.1, dispatchEntered.acted here.2⟩)
    absent := fun _ _ _ here => ⟨nofun, here.acted⟩
    dispatch := by
      intro _
      have executed : ∀ {seen : DispatchLog} {state : EngineState} answer,
          dispatchEntered main outer f.step point seen state →
          dispatchActed main outer f.step point (seen.execute answer) state :=
        fun answer here => ⟨here.1,
          (visitSound_execute free answer here.2.1
            here.2.2).mono fun _ => And.left⟩
      refine guarantees_session (fun seen state receipt here => ?_)
        fun seen state error here => ⟨error.ordinary_raised, executed _ here⟩
      exact ⟨fun _ _ _ => ⟨nofun, executed _ here⟩, fun _ => executed _ here⟩
    record := unseen (k := [.record "action_result"]) (by decide)
      (ReplayEngine.uses_frameRecord (v := EngineState.locals)).ordinary }
  exact action.performAction

/-- One visit of a step, whose recovery branch keeps to the rule. -/
theorem guarantees_visit_dispatch {start : Nat}
    (free : Outermost f.index.isSome outer)
    (recovers : ∀ point,
      let calm := dispatchActed f.index.isSome outer f.step point
      Guarantees dispatchLog.step calm f.recover
        (orEnded calm fun _ => dispatchSound outer)
        fun error seen state => ordinary error ∧ calm seen state) :
    Guarantees dispatchLog.step (dispatchSound outer)
      (engine.executeStepWith f start) (fun _ => dispatchSound outer)
      (fun error seen state => ordinary error ∧
        dispatchSound outer seen state) := by
  have quiet : ∀ {holds : DispatchLog → Prop}, Stable dispatchLog.step
      visitKinds fun seen (_ : EngineState) => holds seen :=
    dispatchLog.stable (by decide)
  let visit : SteadyVisit engine f dispatchLog.step := {
    ready := dispatchReady f.index.isSome outer f.step
    entered := dispatchEntered f.index.isSome outer f.step
    admitted := dispatchEntered f.index.isSome outer f.step
    acted := dispatchActed f.index.isSome outer f.step
    calm := dispatchActed f.index.isSome outer f.step
    ended := fun _ => dispatchSound outer
    loose := dispatchSound outer
    readyPrivate := fun _ => ledger_seen.locals
    enteredPrivate := fun _ => ledger_seen.locals
    actedPrivate := fun _ => ledger_seen.locals
    calmPrivate := fun _ => ledger_seen.locals
    readyStable := fun _ => quiet
    enteredStable := fun _ => quiet
    actedStable := fun _ => quiet
    calmStable := fun _ => quiet
    attempt := fun _ _ _ here =>
      ⟨here.1, visitSound_attempt free here.2⟩
    intent := fun _ => ((ReplayEngine.uses_frameRecord
      (v := EngineState.locals)).ordinary.keeps
      (dispatchLog.stable (by decide)) ledger_seen.locals).weaken
      (fun _ _ here => here) (fun _ _ _ here => here)
      (fun _ _ _ here => ⟨here.1, dispatchEntered.acted here.2⟩)
    act := guarantees_performAction_dispatch free
    unacted := fun _ _ _ here => here.acted
    relax := fun _ _ _ here => here
    caught := fun _ error _ _ here => ⟨here.1,
      (visitSound_failed free here.2 error).mono fun _ => And.left⟩
    retry := by
      rintro remaining number error seen state due ⟨counts, here⟩
      unfold AttemptPoint.Counts at counts
      simp only at counts
      refine ⟨?_, fun own => ?_⟩
      · unfold AttemptPoint.Counts
        simp only
        omega
      obtain ⟨permitted, around, visit, current, same, ⟨counted, acting⟩,
        fine⟩ := visitSound_failed free here error own
      refine ⟨permitted, around, visit, current, same,
        permitted_of_ownError acting ?_ fine⟩
      unfold VisitDispatch.retryDue
      rw [same, due, counted, Bool.true_and, decide_eq_true_eq]
      simp only
      omega
    settled := fun _ _ _ _ here => here.2.sound
    advanced := fun _ _ _ here => here.2.sound
    unready := fun _ _ _ here => here.2.sound
    escapes := fun _ _ _ here => here.2.sound
    recovers := recovers
    rescues := recovers }
  exact visit.outline.executeStepWith
    (fun _ _ here => ⟨rfl, visitSound_enter free here⟩)
    (fun _ _ _ here => here)

/-- A recovery leaves the main visit around it alone. -/
theorem guarantees_recovery_dispatch {version : Nat}
    (outer : Option VisitDispatch → Prop) :
    Guarantees dispatchLog.step (dispatchSound outer)
      (engine.attemptRecovery run step version)
      (orEnded (dispatchSound outer) fun _ => dispatchSound outer)
      (fun error seen state => ordinary error ∧
        dispatchSound outer seen state) := by
  have quiet : Stable dispatchLog.step recoveryKinds (dispatchSound outer) :=
    dispatchLog.stable (by decide)
  let recovery : SteadyRecovery engine run step dispatchLog.step := {
    calm := dispatchSound outer
    charged := fun _ _ => dispatchSound outer
    going := dispatchSound outer
    ended := fun _ => dispatchSound outer
    hidden := ledger_seen.locals
    underway := ledger_seen.locals
    stable := quiet
    lasting := quiet
    charge := fun _ _ _ _ here _ _ _ => here
    start := fun _ _ => (ReplayEngine.uses_recordRecovery
      (v := EngineState.locals)).ordinary.keeps
      (dispatchLog.stable (by decide)) ledger_seen.locals
    visit := fun _ _ _ _ _ => guarantees_visit_dispatch nofun fun _ =>
      guarantees_pure fun _ _ here => here
    relax := fun _ _ here => here
    settled := fun _ _ _ here => here
    resumed := fun _ _ _ _ here => here }
  exact recovery.outline.attemptRecovery

theorem guarantees_main_dispatch {index version number : Nat} :
    let calm := dispatchSound fun _ => True
    Guarantees dispatchLog.step calm
      (engine.executeStepWith (engine.mainFrame run index step version) number)
      (fun _ => calm)
      (fun error seen state => ordinary error ∧ calm seen state) := by
  refine guarantees_visit_dispatch (fun _ _ => trivial) fun point => ?_
  intro calm
  by_cases counts : point.Counts step
  · refine (guarantees_recovery_dispatch fun slot => ∃ visit,
      slot = some visit ∧ visit.step = step ∧
        Acting point.number visit).weaken (fun seen state here own => ?_)
      (fun result seen state here => ?_) (fun error seen state here => ?_)
    · exact ⟨(here.2 own).1, (here.2 own).2.2⟩
    · cases result with
      | some result => exact fun own => ⟨(here own).1, trivial⟩
      | none => exact ⟨counts, fun own => ⟨(here own).1, trivial, (here own).2⟩⟩
    · exact ⟨here.1, counts, fun own =>
        ⟨(here.2 own).1, trivial, (here.2 own).2⟩⟩
  · intro seen begun events result final here
    exact absurd here.1 counts

theorem guarantees_stepLoop_dispatch (run : ReplayRun)
    {firstAttempt : Nat → Nat} {visits index version : Nat} :
    let calm := DispatchesSound fun _ => True
    Guarantees dispatchLog.step (fun seen _ => calm seen)
      (engine.stepLoop run firstAttempt visits index version)
      (fun _ seen _ => calm seen) (fun _ seen _ => calm seen) := by
  intro calm
  have quiet : Stable dispatchLog.step loopKinds
      fun seen (_ : EngineState) => calm seen := dispatchLog.stable (by decide)
  let loop : SteadyLoop engine run firstAttempt dispatchLog.step := {
    start := fun _ _ seen _ => calm seen
    visited := fun _ _ _ seen _ => calm seen
    done := fun _ => calm
    raised := fun _ => calm
    begun := fun _ _ => ledger_seen.locals
    hidden := fun _ _ _ => ledger_seen.locals
    ready := fun _ _ => quiet
    stable := fun _ _ _ => quiet
    visit := fun _ _ _ _ _ => guarantees_main_dispatch.weaken
      (fun _ _ here => here) (fun _ _ _ here => here)
      (fun _ _ _ here => here.2)
    advance := fun _ _ _ _ here => here
    jump := fun _ _ _ _ _ _ _ _ here => here
    finish := fun _ _ _ => guarantees_endLoop_quiet (dispatchLog.stable (by decide))
      (fun _ _ here => here) (fun _ _ _ here => here)
    complete := fun _ _ _ _ _ _ here => here
    unfinished := fun _ _ _ _ _ here => here
    failed := fun _ _ _ _ _ _ _ here => here
    failed' := fun _ _ _ _ _ _ here => here }
  exact loop.outline.stepLoop visits index version

end Visit

/-- The dispatches of one call are permitted as long as every error a retry is
due on is its attempt's own. -/
structure RetryDispatches (engine : ReplayEngine) : Prop where
  execute : ∀ visits request start events result final,
    Executes (engine.execute visits request) start events result final →
    (dispatchesOf events).ownErrors = true →
    (dispatchesOf events).permitted = true
  resume : ∀ visits continuation version outcome start events result final,
    Executes (engine.resume visits continuation version outcome) start events
      result final →
    (dispatchesOf events).ownErrors = true →
    (dispatchesOf events).permitted = true

theorem retry_dispatches (engine : ReplayEngine) : RetryDispatches engine where
  execute := by
    intro visits request start events result final run own
    have sound : DispatchesSound (fun _ => True) (dispatchesOf events) :=
      execute_settles dispatchLog (DispatchesSound fun _ => True) _ (by decide)
        (fun _ here => here) (fun session version _ =>
          (guarantees_stepLoop_dispatch session).weaken
            (fun _ _ here => here.1) (fun _ _ _ here => here)
            (fun _ _ _ here => here)) (fun _ => ⟨rfl, trivial⟩) run
    exact (sound own).1
  resume := by
    intro visits continuation version outcome start events result final run own
    have sound : DispatchesSound (fun _ => True) (dispatchesOf events) :=
      resume_settles dispatchLog (DispatchesSound fun _ => True) _ (by decide)
        (fun _ here => here) (fun _ =>
          (guarantees_stepLoop_dispatch continuation.run).weaken
            (fun _ _ here => here.1) (fun _ _ _ here => here)
            (fun _ _ _ here => here)) (fun _ => ⟨rfl, trivial⟩) run
    exact (sound own).1

/-- A payment that may be repeated once after a timeout without effect. -/
def retriedParts : Sample.Parts where
  steps := [{ Sample.click "pay" "Pay" with
    retry := { maxAttempts := 2, retryOn := ["action_timeout"] } }]

/-- A click that times out itself is repeated. -/
def clickTimesOut : Sample.Script :=
  Sample.failsOnce Sample.timeout fun op => op.kind = .execute

/-- The click is delivered; the wait for its effect times out. -/
def waitTimesOut : Sample.Script :=
  Sample.failsOnce Sample.timeout fun op => op.kind = .wait

theorem click_retried :
    let played := Sample.play clickTimesOut
      (Sample.engine.execute 10 (Sample.request retriedParts))
    played.1.countP (eventKind · = .execute) = 2 ∧
      (dispatchesOf played.1).permitted = true := by
  obtain ⟨final, run⟩ := Sample.executes_play clickTimesOut
    (Sample.engine.execute 10 (Sample.request retriedParts)) {}
  exact ⟨by decide +kernel, (retry_dispatches Sample.engine).execute _ _ _ _ _
    _ run (by decide +kernel)⟩

/-- A delivered click is dispatched again after a wait that timed out. -/
theorem delivered_click_repeated :
    ¬ ∀ engine visits request start events result final,
      request.artifact.validate engine.host = .ok () →
      Executes (ReplayEngine.execute engine visits request) start events result
        final →
      (dispatchesOf events).permitted = true := by
  intro claim
  obtain ⟨final, run⟩ := Sample.executes_play waitTimesOut
    (Sample.engine.execute 10 (Sample.request retriedParts)) {}
  have permitted := claim _ _ _ _ _ _ _ (by decide +kernel) run
  revert permitted
  decide +kernel

end ReplayForge

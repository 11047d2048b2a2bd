import ReplayForge.Replay.Chains
import ReplayForge.Replay.Steady
import Mathlib.Algebra.Order.BigOperators.Group.List
import Mathlib.Algebra.Order.Group.Nat

/-!
# Bounds of a replay

Visits are paid for by the main steps still ahead and by the recovery uses
still allowed; attempts by the retry policy of their step.  No call and no
handoff pays anything back.
-/

namespace ReplayForge

open Effect

/-- The uses the recoveries have left. -/
def recoveryBudget (recoveries : List Recovery) (uses : Dict Nat) : Nat :=
  (recoveries.map fun recovery =>
    recovery.maxUses - (uses.get? recovery.id).getD 0).sum

theorem recoveryBudget_le (recoveries : List Recovery) (uses : Dict Nat) :
    recoveryBudget recoveries uses ≤
      (recoveries.map Recovery.maxUses).sum :=
  List.sum_le_sum fun _ _ => Nat.sub_le _ _

/-- One more use of a recovery with uses left. -/
theorem recoveryBudget_charge {recoveries : List Recovery} {uses : Dict Nat}
    {recovery : Recovery} (member : recovery ∈ recoveries)
    (fresh : (uses.get? recovery.id).getD 0 < recovery.maxUses) :
    recoveryBudget recoveries (uses.set recovery.id
        ((uses.get? recovery.id).getD 0 + 1)) <
      recoveryBudget recoveries uses := by
  refine List.sum_lt_sum _ _ (fun other _ => ?_) ⟨recovery, member, ?_⟩
  · rw [Dict.get?_set]
    split
    next same =>
      rw [same, Option.getD_some]
      omega
    next => exact Nat.le_refl _
  · simp only [Dict.get?_set_self, Option.getD_some]
    omega

/-- The most main-step visits a call can make. -/
def visitBound (artifact : CapabilityArtifact) : Nat :=
  (1 + (artifact.recoveries.map Recovery.maxUses).sum) * artifact.steps.length

/-- What is left to pay the visits from an index on: the steps ahead and, for
each recovery use left, every step again. -/
def visitPotential (steps budget index : Nat) : Nat :=
  (steps - index) + budget * steps

theorem visitPotential_advance {steps b index : Nat}
    (inside : index < steps) :
    visitPotential steps b (index + 1) + 1 = visitPotential steps b index := by
  unfold visitPotential
  omega

/-- A jump is paid for by the recovery use it took. -/
theorem visitPotential_jump {steps budget left index t : Nat}
    (inside : index < steps) (spent : left < budget) :
    visitPotential steps left t + 1 ≤
      visitPotential steps budget index := by
  have whole : (left + 1) * steps ≤ budget * steps :=
    Nat.mul_le_mul_right _ spent
  rw [Nat.succ_mul] at whole
  unfold visitPotential
  omega

theorem visitPotential_mono {steps left budget index : Nat}
    (within : left ≤ budget) :
    visitPotential steps left index ≤ visitPotential steps budget index :=
  Nat.add_le_add_left (Nat.mul_le_mul_right _ within) _

theorem visitPotential_le_visitBound (artifact : CapabilityArtifact)
    (uses : Dict Nat) (index : Nat) :
    visitPotential artifact.steps.length
      (recoveryBudget artifact.recoveries uses) index ≤
        visitBound artifact := by
  have budget := Nat.mul_le_mul_right artifact.steps.length
    (recoveryBudget_le artifact.recoveries uses)
  unfold visitPotential visitBound
  rw [Nat.add_mul, Nat.one_mul]
  omega

section Visits

def isMainVisit : RuntimeEvent → Bool
  | ⟨.mark (.visit (some _) _), _⟩ => true
  | _ => false

/-- The number of main-step visits. -/
def visitCount : RuntimeWatch Nat where
  step := Watch.count isMainVisit
  kinds := [.visit true]
  silent seen event apart := by
    unfold Watch.count
    rw [if_neg]
    intro visit
    apply apart
    unfold isMainVisit at visit
    split at visit
    · simp [eventKind, RuntimeOp.kind]
    · cases visit

variable {engine : ReplayEngine} {run : ReplayRun}

/-- The recovery uses left in a state. -/
def ReplayRun.budget (run : ReplayRun) (state : EngineState) : Nat :=
  recoveryBudget run.artifact.recoveries state.recoveryUses

/-- So many visits were counted and the budget is in the given range. -/
def counted (run : ReplayRun) (count : Nat) (within : Nat → Prop) :
    Assertion EngineState Nat :=
  fun seen state => seen = count ∧ within (run.budget state)

theorem ledger_counted {count : Nat} {within : Nat → Prop} :
    Ledger (counted run count within) := by
  intro seen left right uses _ here
  unfold counted ReplayRun.budget at here ⊢
  rw [uses]
  exact here

/-- A resuming step has spent some of the budget. -/
def visitSpent (run : ReplayRun) (count budget : Nat) :
    StepResult → Assertion EngineState Nat
  | .resume _ _ => counted run count (· < budget)
  | _ => counted run count (· ≤ budget)

theorem guarantees_recovery_budget {version count budget : Nat} {step : Step} :
    Guarantees visitCount.step (counted run count (· ≤ budget))
      (engine.attemptRecovery run step version)
      (orEnded (counted run count (· ≤ budget)) (visitSpent run count budget))
      (fun error seen state => ordinary error ∧
        counted run count (· ≤ budget) seen state) := by
  have quiet : ∀ {within}, Stable visitCount.step recoveryKinds
      (counted run count within) := visitCount.stable (by decide)
  let recovery : SteadyRecovery engine run step visitCount.step := {
    calm := counted run count (· ≤ budget)
    charged := fun _ _ => counted run count (· < budget)
    going := counted run count (· < budget)
    ended := visitSpent run count budget
    hidden := ledger_counted.locals
    underway := ledger_counted.locals
    stable := quiet
    lasting := quiet
    charge := by
      rintro recovery member seen state here uses rfl fresh
      exact ⟨here.1,
        Nat.lt_of_lt_of_le (recoveryBudget_charge member fresh) here.2⟩
    start := fun _ _ => ((ReplayEngine.uses_recordRecovery
      (v := EngineState.locals)).ordinary.keeps
      (visitCount.stable (by decide)) ledger_counted.locals).weaken
      (fun _ _ here => here) (fun _ _ _ here => here)
      (fun _ _ _ here => ⟨here.1, here.2.1, Nat.le_of_lt here.2.2⟩)
    visit := fun _ _ _ _ _ => guarantees_visit_unseen ledger_counted
      (visitCount.stable (by decide : ∀ kind ∈ visitKinds ++ performKinds ++
        markKinds false, kind ∉ visitCount.kinds))
      (guarantees_pure fun _ _ here => here)
    relax := fun _ _ here => ⟨here.1, Nat.le_of_lt here.2⟩
    settled := fun _ _ _ here => here
    resumed := fun _ _ _ _ here => here }
  exact recovery.outline.attemptRecovery

/-- A visit counts once; it leaves the recovery budget alone unless it
resumes. -/
theorem guarantees_visit_budget {index version number count budget : Nat}
    {step : Step} :
    Guarantees visitCount.step (counted run count (· ≤ budget))
      (engine.executeStepWith (engine.mainFrame run index step version) number)
      (visitSpent run (count + 1) budget)
      (fun error seen _ => ordinary error ∧ seen = count + 1) := by
  let going := counted run (count + 1) (· ≤ budget)
  let visit : CalmVisit engine (engine.mainFrame run index step version)
      visitCount.step := {
    ready := fun _ => going
    calm := fun _ => going
    ended := visitSpent run (count + 1) budget
    loose := going
    readyLedger := fun _ => ledger_counted
    calmLedger := fun _ => ledger_counted
    readyStable := fun _ => visitCount.stable (by decide)
    calmStable := fun _ => visitCount.stable (by decide)
    attempt := fun _ _ _ here => here
    caught := fun _ _ _ _ here => here
    retry := fun _ _ _ _ here => here
    settled := fun _ _ _ _ here => here
    advanced := fun _ _ _ here => here
    unready := fun _ _ _ here => here
    escapes := fun _ _ _ here => here
    recovers := fun _ => guarantees_recovery_budget }
  refine (visit.steady.outline.executeStepWith ?_ fun _ _ _ here => here).weaken
    (fun _ _ here => here) (fun _ _ _ here => here)
    (fun _ _ _ here => ⟨here.1, here.2.1⟩)
  rintro seen state ⟨rfl, within⟩
  exact ⟨rfl, within⟩

/-- The potential of the step loop at an index. -/
def ReplayRun.potential (run : ReplayRun) (state : EngineState)
    (index : Nat) : Nat :=
  visitPotential run.artifact.steps.length (run.budget state) index

/-- The visits made and still payable stay within the total; if that total
fits the bound of the modelled loop, so does what is payable. -/
def payable (run : ReplayRun) (total : Nat) (fits : Prop) (visits index : Nat) :
    Assertion EngineState Nat :=
  fun seen state => seen + run.potential state index ≤ total ∧
    (fits → run.potential state index ≤ visits)

theorem ledger_payable {total : Nat} {fits : Prop} {visits index : Nat} :
    Ledger (payable run total fits visits index) := by
  intro seen left right uses _ here
  unfold payable ReplayRun.potential ReplayRun.budget at here ⊢
  rw [uses]
  exact here

/-- Where a visit at an index leaves the step loop. -/
def paid (run : ReplayRun) (total : Nat) (fits : Prop) (visits index : Nat) :
    StepResult → Assertion EngineState Nat
  | .advance => payable run total fits visits (index + 1)
  | .resume _ _ => fun seen state =>
      ∀ target, payable run total fits visits target seen state
  | .finished _ => fun seen _ => seen ≤ total

theorem ledger_paid {total : Nat} {fits : Prop} {visits index : Nat}
    {result : StepResult} :
    Ledger (paid run total fits visits index result) := by
  cases result with
  | advance => exact ledger_payable
  | resume stepId version =>
      intro seen left right uses preserve here target
      exact ledger_payable seen left right uses preserve (here target)
  | finished result => exact fun _ _ _ _ _ here => here

theorem guarantees_visit_paid {total : Nat} {fits : Prop}
    {visits index version number : Nat} {step : Step}
    (inside : index < run.artifact.steps.length) :
    Guarantees visitCount.step (payable run total fits (visits + 1) index)
      (engine.executeStepWith (engine.mainFrame run index step version) number)
      (paid run total fits visits index)
      (fun error seen _ => ordinary error ∧ seen ≤ total) := by
  intro seen start events result final here run'
  have before : counted run seen (· ≤ run.budget start) seen start :=
    ⟨rfl, Nat.le_refl _⟩
  have visit := guarantees_visit_budget before run'
  have advanced := visitPotential_advance (b := run.budget start) inside
  obtain ⟨within, enough⟩ := here
  cases result with
  | error error => exact ⟨visit.1, by
      rw [visit.2]
      unfold ReplayRun.potential at within
      omega⟩
  | ok result =>
      cases result with
      | advance =>
          have kept : run.potential final (index + 1) ≤
              visitPotential run.artifact.steps.length (run.budget start)
                (index + 1) := visitPotential_mono visit.2
          refine ⟨?_, fun fit => ?_⟩
          · rw [visit.1]
            unfold ReplayRun.potential at within
            omega
          · have left := enough fit
            unfold ReplayRun.potential at left
            omega
      | resume stepId next =>
          intro target
          have jumped := visitPotential_jump (t := target) inside visit.2
          refine ⟨?_, fun fit => ?_⟩
          · rw [visit.1]
            unfold ReplayRun.potential at within ⊢
            omega
          · have left := enough fit
            unfold ReplayRun.potential at left ⊢
            omega
      | finished result =>
          change visitCount.step.run seen events ≤ total
          rw [visit.1]
          unfold ReplayRun.potential at within
          omega

/-- An exception within the bounds: it is the mark of the exhausted loop bound
only where that bound does not fit. -/
def raisedWithin (total : Nat) (fits : Prop) (error : Raised) (seen : Nat) :
    Prop :=
  seen ≤ total ∧ (fits → ordinary error)

theorem guarantees_stepLoop_paid {firstAttempt : Nat → Nat} {total : Nat}
    {fits : Prop} {visits index version : Nat} :
    Guarantees visitCount.step (payable run total fits visits index)
      (engine.stepLoop run firstAttempt visits index version)
      (fun _ seen _ => seen ≤ total)
      (fun error seen _ => raisedWithin total fits error seen) := by
  have bounded : ∀ {visits index seen state},
      payable run total fits visits index seen state → seen ≤ total :=
    fun here => Nat.le_trans (Nat.le_add_right _ _) here.1
  let loop : SteadyLoop engine run firstAttempt visitCount.step := {
    start := payable run total fits
    visited := paid run total fits
    done := fun _ seen => seen ≤ total
    raised := raisedWithin total fits
    begun := fun _ _ => ledger_payable.locals
    hidden := fun _ _ _ => ledger_paid.locals
    ready := fun _ _ => visitCount.stable (by decide)
    stable := fun _ _ _ => visitCount.stable (by decide)
    visit := by
      intro visits index version step found
      obtain ⟨inside, -⟩ := List.getElem?_eq_some_iff.mp found
      exact (guarantees_visit_paid inside).weaken (fun _ _ here => here)
        (fun _ _ _ here => here) (fun _ _ _ here => ⟨here.2, fun _ => here.1⟩)
    advance := fun _ _ _ _ here => here
    jump := fun _ _ _ _ target _ _ _ here => here target
    finish := fun _ _ _ => guarantees_endLoop_quiet (visitCount.stable (by decide))
      (fun _ _ here => here) (fun _ _ normal here => ⟨here, fun _ => normal⟩)
    complete := fun _ _ _ _ _ _ here => bounded here
    unfinished := by
      intro index step seen state found here
      obtain ⟨inside, -⟩ := List.getElem?_eq_some_iff.mp found
      refine ⟨bounded here, fun fit => ?_⟩
      have left := here.2 fit
      unfold ReplayRun.potential visitPotential at left
      omega
    failed := by
      intro visits index result error seen state normal here
      refine ⟨?_, fun _ => normal⟩
      cases result with
      | advance => exact bounded here
      | resume stepId next => exact bounded (here index)
      | finished result => exact here
    failed' := fun _ _ _ _ _ normal here => ⟨bounded here, fun _ => normal⟩ }
  exact loop.outline.stepLoop visits index version

/-- The conclusion about a whole call, from what the watch has seen. -/
private theorem visits_of_guarantees {body : Replay RunResult} {total : Nat}
    {fits : Prop} {start final : EngineState} {events : List RuntimeEvent}
    {result : Except Raised RunResult}
    (proof : Guarantees visitCount.step (fun seen _ => seen = 0) body
      (fun _ seen _ => seen ≤ total)
      (fun error seen _ => raisedWithin total fits error seen))
    (run : Executes body start events result final) :
    events.countP isMainVisit ≤ total ∧ (fits → result ≠ .error .unfinished) := by
  have counted : visitCount.step.run 0 events = events.countP isMainVisit := by
    have counts := Watch.run_count isMainVisit 0 events
    rwa [Nat.zero_add] at counts
  have ending := proof rfl run
  rw [counted] at ending
  cases result with
  | ok result => exact ⟨ending, fun _ => nofun⟩
  | error error =>
      refine ⟨ending.1, fun fit same => ?_⟩
      cases same
      exact ending.2 fit rfl

/-- A call of `execute` makes at most as many main-step visits as the bound
says, and a modelled loop of that bound does not run out. -/
theorem execute_visits_le {request : ReplayRequest} {visits : Nat}
    {start final : EngineState} {events : List RuntimeEvent}
    {result : Except Raised RunResult}
    (run : Executes (engine.execute visits request) start events result
      final) :
    events.countP isMainVisit ≤ visitBound request.artifact ∧
      (visitBound request.artifact ≤ visits →
        result ≠ .error .unfinished) := by
  refine visits_of_guarantees (guarantees_execute_quiet (visitCount.quiet (by decide))
    (fun session inputs version _ => ?_) (fun _ seen _ here => ?_)
    (fun error seen normal here => ?_) (fun _ _ _ _ here => here.1)
    (fun _ _ _ normal here => ⟨here.1, fun _ => normal⟩)
    (fun _ _ _ normal here => ⟨here, fun _ => normal⟩)) run
  · refine guarantees_stepLoop_paid.weaken (fun seen state here => ?_)
      (fun _ _ _ here => here) (fun _ _ _ here => here)
    obtain ⟨rfl, -, fresh⟩ := here
    have most := visitPotential_le_visitBound request.artifact
      state.recoveryUses 0
    exact ⟨by rw [Nat.zero_add]; exact most, fun fit => Nat.le_trans most fit⟩
  · exact here ▸ Nat.zero_le _
  · exact ⟨here ▸ Nat.zero_le _, fun _ => normal⟩

/-- A call of `resume` stays within the same bound. -/
theorem resume_visits_le {continuation : ReplayContinuation}
    {outcome : Option BusinessOutcome} {visits version : Nat}
    {start final : EngineState} {events : List RuntimeEvent}
    {result : Except Raised RunResult}
    (run : Executes (engine.resume visits continuation version outcome) start
      events result final) :
    events.countP isMainVisit ≤ visitBound continuation.request.artifact ∧
      (visitBound continuation.request.artifact ≤ visits →
        result ≠ .error .unfinished) := by
  refine visits_of_guarantees (guarantees_resume_quiet (visitCount.quiet (by decide))
    (fun _ => ?_) (fun _ seen _ here => ?_)
    (fun error seen normal here => ?_) (fun _ _ _ _ here => here.1)
    (fun _ _ _ normal here => ⟨here.1, fun _ => normal⟩)
    (fun _ _ _ normal here => ⟨here, fun _ => normal⟩)) run
  · refine guarantees_stepLoop_paid.weaken (fun seen state here => ?_)
      (fun _ _ _ here => here) (fun _ _ _ here => here)
    obtain ⟨rfl, -, -⟩ := here
    have most := visitPotential_le_visitBound continuation.request.artifact
      state.recoveryUses continuation.startIndex
    exact ⟨by rw [Nat.zero_add]; exact most, fun fit => Nat.le_trans most fit⟩
  · exact here ▸ Nat.zero_le _
  · exact ⟨here ▸ Nat.zero_le _, fun _ => normal⟩

end Visits

end ReplayForge

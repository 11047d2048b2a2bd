import ReplayForge.Replay.Chains
import ReplayForge.Replay.Steady

/-!
# Attempts of a visit

A visit of a step makes at most as many attempts as the step's retry policy
allows.  The steps of a recovery are visited inside the visit of a main step,
so attempts are counted apart for the two.
-/

namespace ReplayForge

open Effect

/-- The attempts made in a visit and the most it may make. -/
structure AttemptSlot where
  made : Nat := 0
  limit : Nat := 0
deriving DecidableEq

/-- The visits in progress: of a main step and, inside it, of a step of a
recovery.  `within` says that no visit made more attempts than it may. -/
structure AttemptCount where
  main : AttemptSlot := {}
  nested : AttemptSlot := {}
  within : Bool := true
deriving DecidableEq

namespace AttemptCount

def slot (count : AttemptCount) (main : Bool) : AttemptSlot :=
  if main then count.main else count.nested

def update (count : AttemptCount) (main : Bool) (slot : AttemptSlot) :
    AttemptCount :=
  if main then { count with main := slot } else { count with nested := slot }

/-- A visit starts. -/
def visit (count : AttemptCount) (main : Bool) (limit : Nat) : AttemptCount :=
  count.update main { limit }

/-- One more attempt of a visit. -/
def attempt (count : AttemptCount) (main : Bool) : AttemptCount :=
  let slot := count.slot main
  let next := count.update main { slot with made := slot.made + 1 }
  { next with within := count.within && decide (slot.made < slot.limit) }

variable (count : AttemptCount) (main : Bool)

@[simp]
theorem slot_visit (limit : Nat) :
    (count.visit main limit).slot main = { limit } := by
  cases main <;> rfl

@[simp]
theorem within_visit (limit : Nat) :
    (count.visit main limit).within = count.within := by
  cases main <;> rfl

@[simp]
theorem slot_attempt :
    (count.attempt main).slot main =
      { count.slot main with made := (count.slot main).made + 1 } := by
  cases main <;> rfl

@[simp]
theorem within_attempt :
    (count.attempt main).within =
      (count.within &&
        decide ((count.slot main).made < (count.slot main).limit)) := by
  cases main <;> rfl

end AttemptCount

/-- The attempts of the visits in progress. -/
def attemptCount : RuntimeWatch AttemptCount where
  step
    | seen, ⟨.mark (.visit index step), _⟩ =>
        seen.visit index.isSome step.retry.maxAttempts
    | seen, ⟨.mark (.attempt index _), _⟩ => seen.attempt index.isSome
    | seen, _ => seen
  kinds := [.visit true, .visit false, .attempt true, .attempt false]
  silent seen event apart := by
    split
    next index step _ =>
      exact absurd (by cases index <;> simp [eventKind, RuntimeOp.kind]) apart
    next index number _ =>
      exact absurd (by cases index <;> simp [eventKind, RuntimeOp.kind]) apart
    next => rfl

variable {engine : ReplayEngine} {run : ReplayRun} {f : StepFrame}
  {kept : AttemptCount → Prop}

/-- The attempts left fit the limit of the visit. -/
def attemptsFit (main : Bool) (kept : AttemptCount → Prop) (left : Nat) :
    Assertion EngineState AttemptCount :=
  fun seen _ => seen.within = true ∧ kept seen ∧
    (seen.slot main).made + left ≤ (seen.slot main).limit

def attemptsWithin (kept : AttemptCount → Prop) :
    Assertion EngineState AttemptCount :=
  fun seen _ => seen.within = true ∧ kept seen

/-- A property that a visit and its attempts do not disturb. -/
structure Undisturbed (main : Bool) (kept : AttemptCount → Prop) : Prop where
  visit : ∀ seen limit, kept seen → kept (seen.visit main limit)
  attempt : ∀ seen, kept seen → kept (seen.attempt main)

theorem guarantees_visit_attempts {number : Nat}
    (undisturbed : Undisturbed f.index.isSome kept)
    (valid : 1 ≤ f.step.retry.maxAttempts) (positive : 1 ≤ number)
    (recovers : ∀ left, Guarantees attemptCount.step
      (attemptsFit f.index.isSome kept left) f.recover
      (orEnded (attemptsFit f.index.isSome kept left)
        fun _ => attemptsWithin kept)
      fun error seen state => ordinary error ∧
        attemptsFit f.index.isSome kept left seen state) :
    Guarantees attemptCount.step (attemptsWithin kept)
      (engine.executeStepWith f number) (fun _ => attemptsWithin kept)
      (fun error seen state => ordinary error ∧
        attemptsWithin kept seen state) := by
  let visit : CalmVisit engine f attemptCount.step := {
    ready := fun point =>
      attemptsFit f.index.isSome kept (point.remaining + 1)
    calm := fun point => attemptsFit f.index.isSome kept point.remaining
    ended := fun _ => attemptsWithin kept
    loose := attemptsWithin kept
    readyLedger := fun _ => ledger_seen
    calmLedger := fun _ => ledger_seen
    readyStable := fun _ => attemptCount.stable (by decide)
    calmStable := fun _ => attemptCount.stable (by decide)
    attempt := by
      rintro point seen state ⟨within, same, room⟩
      refine ⟨?_, undisturbed.attempt seen same, ?_⟩
      · change (seen.attempt f.index.isSome).within = true
        simp only [AttemptCount.within_attempt, within, Bool.true_and,
          decide_eq_true_eq]
        omega
      · change ((seen.attempt f.index.isSome).slot _).made + _ ≤
          ((seen.attempt f.index.isSome).slot _).limit
        simp only [AttemptCount.slot_attempt]
        omega
    caught := fun _ _ _ _ here => here
    retry := fun _ _ _ _ here => here
    settled := fun _ _ _ _ here => ⟨here.1, here.2.1⟩
    advanced := fun _ _ _ here => ⟨here.1, here.2.1⟩
    unready := fun _ _ _ here => ⟨here.1, here.2.1⟩
    escapes := fun _ _ _ here => ⟨here.1, here.2.1⟩
    recovers := fun point => recovers point.remaining }
  refine visit.steady.outline.executeStepWith (fun seen state here => ?_)
    fun _ _ _ here => here
  obtain ⟨within, same⟩ := here
  refine ⟨?_, undisturbed.visit seen _ same, ?_⟩
  · change (seen.visit f.index.isSome _).within = true
    rw [AttemptCount.within_visit, within]
  · change ((seen.visit f.index.isSome _).slot _).made + _ ≤
      ((seen.visit f.index.isSome _).slot _).limit
    simp only [AttemptCount.slot_visit]
    omega

/-- Recovery steps are visited inside the visit of a main step. -/
theorem undisturbed_nested (property : AttemptSlot → Prop) :
    Undisturbed false fun seen => property seen.main where
  visit _ _ here := here
  attempt _ here := here

theorem undisturbed_true (main : Bool) : Undisturbed main fun _ => True where
  visit _ _ _ := trivial
  attempt _ _ := trivial

/-- Every step of an artifact has at least one attempt. -/
def Attemptable (artifact : CapabilityArtifact) : Prop :=
  ∀ step ∈ artifact.allSteps, 1 ≤ step.retry.maxAttempts

theorem attemptable_of_accepted {host : Host} {artifact : CapabilityArtifact}
    (accepted : artifact.validate host = .ok ()) : Attemptable artifact := by
  intro step member
  refine Step.one_le_maxAttempts ?_
  rcases List.mem_append.mp member with main | nested
  · exact CapabilityArtifact.validate_steps accepted step main
  · obtain ⟨recovery, declared, inside⟩ := List.mem_flatMap.mp nested
    exact CapabilityArtifact.recovery_steps accepted recovery declared step
      inside

theorem guarantees_recovery_attempts {step : Step} {version : Nat}
    (attemptable : Attemptable run.artifact) (property : AttemptSlot → Prop) :
    let calm := attemptsWithin fun seen => property seen.main
    Guarantees attemptCount.step calm (engine.attemptRecovery run step version)
      (orEnded calm fun _ => calm)
      (fun error seen state => ordinary error ∧ calm seen state) := by
  intro calm
  have quiet : Stable attemptCount.step recoveryKinds calm :=
    attemptCount.stable (by decide)
  let recovery : SteadyRecovery engine run step attemptCount.step := {
    calm
    charged := fun _ _ => calm
    going := calm
    ended := fun _ => calm
    hidden := ledger_seen.locals
    underway := ledger_seen.locals
    stable := quiet
    lasting := quiet
    charge := fun _ _ _ _ here _ _ _ => here
    start := fun _ _ => (ReplayEngine.uses_recordRecovery
      (v := EngineState.locals)).ordinary.keeps
      (attemptCount.stable (by decide)) ledger_seen.locals
    visit := fun recovery declared _ nested member =>
      guarantees_visit_attempts (undisturbed_nested property)
        (attemptable nested (List.mem_append_right _
          (List.mem_flatMap.mpr ⟨recovery, declared, member⟩)))
        (Nat.le_refl 1) fun _ => guarantees_pure fun _ _ here => here
    relax := fun _ _ here => here
    settled := fun _ _ _ here => here
    resumed := fun _ _ _ _ here => here }
  exact recovery.outline.attemptRecovery

/-- The visits of main steps, with what their recoveries do. -/
theorem guarantees_main_attempts {index version number : Nat} {step : Step}
    (attemptable : Attemptable run.artifact)
    (found : run.artifact.steps[index]? = some step) (positive : 1 ≤ number) :
    Guarantees attemptCount.step (fun seen _ => seen.within = true)
      (engine.executeStepWith (engine.mainFrame run index step version) number)
      (fun _ seen _ => seen.within = true)
      (fun _ seen _ => seen.within = true) := by
  refine (guarantees_visit_attempts (f := engine.mainFrame run index step
    version) (undisturbed_true true) (attemptable step (List.mem_append_left _
      (List.mem_of_getElem? found))) positive fun left => ?_).weaken
    (fun _ _ here => ⟨here, trivial⟩) (fun _ _ _ here => here.1)
    (fun _ _ _ here => here.2.1)
  refine (guarantees_recovery_attempts attemptable
    fun slot => slot.made + left ≤ slot.limit).weaken
    (fun _ _ here => ⟨here.1, here.2.2⟩) (fun result _ _ here => ?_)
    (fun _ _ _ here => ⟨here.1, here.2.1, trivial, here.2.2⟩)
  cases result with
  | none => exact ⟨here.1, trivial, here.2⟩
  | some result => exact ⟨here.1, trivial⟩

/-- The attempts of every visit of a run stay within the limits. -/
theorem guarantees_stepLoop_attempts (run : ReplayRun) {firstAttempt : Nat → Nat}
    {visits index version : Nat} (attemptable : Attemptable run.artifact)
    (positive : ∀ index, 1 ≤ firstAttempt index) :
    Guarantees attemptCount.step (fun seen _ => seen.within = true)
      (engine.stepLoop run firstAttempt visits index version)
      (fun _ seen _ => seen.within = true)
      (fun _ seen _ => seen.within = true) := by
  let fine : Assertion EngineState AttemptCount := fun seen _ =>
    seen.within = true
  have quiet : Stable attemptCount.step loopKinds fine :=
    attemptCount.stable (by decide)
  let loop : SteadyLoop engine run firstAttempt attemptCount.step := {
    start := fun _ _ => fine
    visited := fun _ _ _ => fine
    done := fun _ seen => seen.within = true
    raised := fun _ seen => seen.within = true
    begun := fun _ _ => ledger_seen.locals
    hidden := fun _ _ _ => ledger_seen.locals
    ready := fun _ _ => quiet
    stable := fun _ _ _ => quiet
    visit := fun _ index _ _ found =>
      guarantees_main_attempts attemptable found (positive index)
    advance := fun _ _ _ _ here => here
    jump := fun _ _ _ _ _ _ _ _ here => here
    finish := fun _ _ _ => guarantees_endLoop_quiet (attemptCount.stable (by decide))
      (fun _ _ here => here) (fun _ _ _ here => here)
    complete := fun _ _ _ _ _ _ here => here
    unfinished := fun _ _ _ _ _ here => here
    failed := fun _ _ _ _ _ _ _ here => here
    failed' := fun _ _ _ _ _ _ here => here }
  exact loop.outline.stepLoop visits index version

/-- In one call of `execute` every visit makes at most as many attempts as its
step may. -/
theorem execute_attempts_within {request : ReplayRequest} {visits : Nat}
    {start final : EngineState} {events : List RuntimeEvent}
    {result : Except Raised RunResult}
    (attemptable : Attemptable request.artifact)
    (run : Executes (engine.execute visits request) start events result
      final) :
    (attemptCount.step.run {} events).within = true := by
  refine execute_settles attemptCount (·.within = true) (·.within = true)
    (by decide) (fun _ here => here) (fun session version same => ?_) rfl run
  subst same
  exact (guarantees_stepLoop_attempts session attemptable
    fun _ => Nat.le_refl 1).weaken (fun _ _ here => here.1)
    (fun _ _ _ here => here) (fun _ _ _ here => here)

/-- A resumed visit goes on with the attempts its interruption left. -/
theorem resume_attempts_within {continuation : ReplayContinuation}
    {outcome : Option BusinessOutcome} {visits version : Nat}
    {start final : EngineState} {events : List RuntimeEvent}
    {result : Except Raised RunResult}
    (attemptable : Attemptable continuation.request.artifact)
    (run : Executes (engine.resume visits continuation version outcome) start
      events result final) :
    (attemptCount.step.run {} events).within = true := by
  refine resume_settles attemptCount (·.within = true) (·.within = true)
    (by decide) (fun _ here => here) (fun valid => ?_) rfl run
  refine (guarantees_stepLoop_attempts continuation.run attemptable
    fun index => ?_).weaken
    (fun _ _ here => here.1) (fun _ _ _ here => here) (fun _ _ _ here => here)
  unfold ReplayContinuation.firstAttempt
  split
  · exact ReplayEngine.retryAttempt_positive valid
  · exact Nat.le_refl 1

end ReplayForge

import ReplayForge.Replay.Environment
import ReplayForge.Replay.Steady
import ReplayForge.Replay.VisitResults

/-!
# Progress through the main steps

A run that succeeds has passed every main step.  Normal completion passes a
step only after its own action; a recovery may resume behind the step it
interrupted, whether or not that step's action was performed.  A run is regular
when its recoveries resume where it has been before, or right behind a step
whose action was performed; a regular run passes over performed steps only.
-/

namespace ReplayForge

open Effect

/-- The session call by which a step's own action is performed. -/
def Step.performedBy (step : Step) (artifact : CapabilityArtifact) :
    (op : SessionOp) → Except SessionError op.Result → Bool
  | .execute action _ _, .ok receipt =>
      action = step.action && action.isDispatched &&
        receipt.status = .completed
  | .extract _, .ok _ =>
      match step.action with
      | .extract _ _ => true
      | _ => false
  | .evaluate condition _ _, .ok holds =>
      holds && match step.action with
        | .assert asserted => condition = asserted
        | .checkpoint _ => condition = artifact.checkpoint.condition
        | _ => false
  | .waitUntil condition _ _ _, .ok holds =>
      holds && step.action = .waitFor condition
  | _, _ => false

/-- The progress of a run. -/
structure ProgressLog where
  /-- The main step visited last, with its index. -/
  main : Option (Nat × Step) := none
  /-- A step of a recovery is being visited. -/
  nested : Bool := false
  /-- The visit announced its action; its next session call is the action. -/
  intent : Bool := false
  /-- The visit has performed its own action. -/
  acted : Bool := false
  /-- The index of the furthest main step that was visited. -/
  reached : Nat := 0
  /-- The indices of the main steps whose own action was performed. -/
  performed : List Nat := []
  /-- Every recovery resumed at a step that had been reached, or at the next
  one after the visit's own action. -/
  regular : Bool := true

/-- A recovery of a visit may resume at a step that the run has reached before,
and once the visit's own action is performed at the next one. -/
def ProgressLog.mayResume (log : ProgressLog) (artifact : CapabilityArtifact)
    (index : Nat) (stepId : String) : Bool :=
  match artifact.steps.findIdx? (·.id = stepId) with
  | none => true
  | some target => target ≤ log.reached || (target = index + 1 && log.acted)

def ProgressLog.call (log : ProgressLog) (artifact : CapabilityArtifact)
    (op : SessionOp) (answer : Except SessionError op.Result) : ProgressLog :=
  match log.main with
  | some (index, step) =>
      if log.intent && step.performedBy artifact op answer then
        { log with
          intent := false, acted := true, performed := index :: log.performed }
      else
        { log with intent := false }
  | none => log

def progressKinds : List OpKind :=
  [.visit true, .visit false, .attempt true, .leave true, .leave false,
    .record "action_intent", .observe, .origin, .capture, .resolve,
    .captureLocator, .execute, .evaluate, .wait, .extract, .close]

/-- Follow the progress of a run of the artifact. -/
def progressLog (artifact : CapabilityArtifact) : RuntimeWatch ProgressLog where
  step
    | seen, ⟨.mark (.visit (some index) step), _⟩ =>
        { seen with
          main := some (index, step), nested := false, intent := false
          acted := false, reached := max seen.reached index }
    | seen, ⟨.mark (.visit none _), _⟩ =>
        { seen with nested := true, intent := false }
    | seen, ⟨.mark (.attempt (some _) _), _⟩ =>
        { seen with nested := false, intent := false }
    | seen, ⟨.mark (.leave (some index) (.resume stepId _)), _⟩ =>
        { seen with
          regular := seen.regular && seen.mayResume artifact index stepId }
    | seen, ⟨.mark (.leave none _), _⟩ => { seen with nested := false }
    | seen, ⟨.record "action_intent" _ _ _, _⟩ =>
        { seen with intent := !seen.nested }
    | seen, ⟨.session _ op, answer⟩ => seen.call artifact op answer
    | seen, _ => seen
  kinds := progressKinds
  silent seen event apart := by
    split
    next => exact absurd (by simp [progressKinds, eventKind, RuntimeOp.kind]) apart
    next => exact absurd (by simp [progressKinds, eventKind, RuntimeOp.kind]) apart
    next => exact absurd (by simp [progressKinds, eventKind, RuntimeOp.kind]) apart
    next => exact absurd (by simp [progressKinds, eventKind, RuntimeOp.kind]) apart
    next => exact absurd (by simp [progressKinds, eventKind, RuntimeOp.kind]) apart
    next => exact absurd (by simp [progressKinds, eventKind, RuntimeOp.kind]) apart
    next id op answer =>
      refine absurd ?_ apart
      cases op <;> simp [progressKinds, eventKind, RuntimeOp.kind]
    next => rfl

section Progress

variable {engine : ReplayEngine} {run : ReplayRun} {step : Step}
  {artifact : CapabilityArtifact} {index version : Nat}

/-- In a regular run every main step before the index, or before one that was
reached, was performed. -/
def Passed (index : Nat) (seen : ProgressLog) : Prop :=
  seen.regular = true → ∀ passed, passed < index ∨ passed < seen.reached →
    passed ∈ seen.performed

/-- A later log of the same visit. -/
structure ProgressLog.Extends (later seen : ProgressLog) : Prop where
  main : later.main = seen.main
  regular : later.regular = seen.regular
  reached : later.reached = seen.reached
  performed : seen.performed ⊆ later.performed
  /-- Only the visited step is noted. -/
  acted : later.acted = true → seen.acted = true ∨
    ∀ index step, seen.main = some (index, step) → index ∈ later.performed

theorem Passed.extend {later seen : ProgressLog} (here : Passed index seen)
    (extends' : later.Extends seen) : Passed index later := by
  intro regular passed before
  rw [extends'.regular] at regular
  rw [extends'.reached] at before
  exact extends'.performed (here regular passed before)

/-- What a log knows of the main step that is being visited. -/
structure ProgressLog.Visiting (index : Nat) (step : Step)
    (seen : ProgressLog) : Prop where
  main : seen.main = some (index, step)
  passed : Passed index seen
  acted : seen.acted = true → index ∈ seen.performed

theorem ProgressLog.Visiting.extend {later seen : ProgressLog}
    (here : seen.Visiting index step) (extends' : later.Extends seen) :
    later.Visiting index step where
  main := extends'.main.trans here.main
  passed := here.passed.extend extends'
  acted acted := by
    rcases extends'.acted acted with before | noted
    · exact extends'.performed (here.acted before)
    · exact noted index step here.main

/-- Where a recovery may resume, every step before was performed. -/
theorem ProgressLog.Visiting.resumes {seen : ProgressLog} {stepId : String}
    {target : Nat} (here : seen.Visiting index step)
    (found : artifact.steps.findIdx? (·.id = stepId) = some target)
    (may : seen.mayResume artifact index stepId = true)
    (regular : seen.regular = true) {passed : Nat} (before : passed < target) :
    passed ∈ seen.performed := by
  unfold ProgressLog.mayResume at may
  rw [found] at may
  simp only [Bool.or_eq_true, Bool.and_eq_true, decide_eq_true_eq] at may
  rcases may with behind | ⟨rfl, acted⟩
  · exact here.passed regular passed (.inr (Nat.lt_of_lt_of_le before behind))
  · rcases Nat.lt_succ_iff_lt_or_eq.mp before with earlier | rfl
    · exact here.passed regular passed (.inl earlier)
    · exact here.acted acted

/-- The first mark of a main visit. -/
theorem Passed.visited {seen : ProgressLog} (here : Passed index seen) :
    ((progressLog artifact).step seen
      ⟨.mark (.visit (some index) step), ()⟩).Visiting index step where
  main := rfl
  passed regular passed before := by
    refine here regular passed ?_
    rcases before with before | before
    · exact .inl before
    · exact (lt_max_iff.mp before).symm
  acted := nofun

end Progress

end ReplayForge

import ReplayForge.Capabilities.Records
import ReplayForge.Suites.Models

/-!
# Merging scenarios into the primary artifact

Each scenario trace follows the primary one up to its branch step and asserts
an exceptional condition there.  The merge declares that condition as a
business outcome, an application failure or the trigger of a recovery.
-/

namespace ReplayForge

/-- Literal values as Python compares them: a boolean equals its number. -/
def ValueSource.comparable : ValueSource → ValueSource
  | .literal (.bool value) => .literal (.int (if value then 1 else 0))
  | source => source

def Action.comparable : Action → Action
  | .type value clear => .type value.comparable clear
  | .select option => .select option.comparable
  | action => action

/-- Two steps are the same operation; descriptive prose is not identity. -/
def Step.sameOperation (first second : Step) : Bool :=
  let target (step : Step) :=
    step.target.map fun target => { target with description := "" }
  decide (first.action.comparable = second.action.comparable) &&
    decide (target first = target second) && decide (first.risk = second.risk)

/-- The number of leading steps that are the same operations. -/
def sharedSteps : (primary scenario : List Step) → Nat
  | first :: primary, second :: scenario =>
      if first.sameOperation second then sharedSteps primary scenario + 1
      else 0
  | _, _ => 0

/-- `_shared_prefix_length` -/
def sharedPrefixLength (primary scenario : CapabilityArtifact) : Nat :=
  sharedSteps primary.steps scenario.steps

/-- The set of both lists' members. -/
def unionSet (first second : List String) : List String :=
  first ++ (second.filter (· ∉ first)).dedup

/-- The lists a merge builds up. -/
structure Merge where
  outcomes : List BusinessOutcome
  failures : List ApplicationFailure
  recoveries : List Recovery
  steps : List Step

def Merge.isEmpty (merge : Merge) : Bool :=
  merge.outcomes.isEmpty && merge.failures.isEmpty && merge.recoveries.isEmpty

/-- The recorded corrective steps under their ids in the recovery. -/
def recoverySteps (code : String) (source : List Step) : List Step :=
  source.mapIdx fun index step =>
    { step with
      id := "recovery_" ++ code ++ "_" ++ toString (index + 1)
      recoveryRefs := []
      outcomeRefs := []
      failureRefs := [] }

/-- The same task contract as the primary artifact's. -/
def CapabilityArtifact.sameTask (artifact source : CapabilityArtifact) : Bool :=
  decide (source.capability.id = artifact.capability.id) &&
    decide (source.capability.applicationFamily =
      artifact.capability.applicationFamily) &&
    decide (source.compatibility.entryPoint =
      artifact.compatibility.entryPoint) &&
    decide (source.inputs.sorted = artifact.inputs.sorted) &&
    decide (source.outputs.sorted.properties =
      artifact.outputs.sorted.properties)

/-- What a scenario adds at its branch step. -/
structure Branch where
  scenario : DiscoveryScenario
  source : CapabilityArtifact
  observed : ObservedBranch
  step : Step

namespace Branch

variable (branch : Branch)

def index : Nat := branch.observed.afterStepCount - 1

/-- The trace asserted the observed condition right behind the branch step. -/
def validateMarker : Except Raised Unit := do
  let condition := branch.observed.condition
  match branch.source.steps[branch.observed.afterStepCount]? with
  | none => .error (.value
      "scenario branch marker is absent from its executed trace")
  | some marker =>
      require (marker.action = .assert condition)
        "scenario branch marker does not match its executed assertion"
  require condition.isPositive
    "branch requires a positive distinctive surface condition"
  require (branch.scenario.kind = .recovery ||
      branch.source.steps.length = branch.observed.afterStepCount + 1)
    "terminal scenario must stop after its verified branch marker"

/-- The branch condition is not one of the step's own effects. -/
def isDistinct : Bool :=
  branch.observed.condition ∉
    branch.step.postconditions.flatMap Condition.surfaceConditions

def mergeOutcome (merge : Merge) : Except Raised Merge := do
  require branch.isDistinct
    "business outcome does not establish a distinct branch"
  let outcome : BusinessOutcome := {
    code := branch.scenario.code
    description := Text.strip branch.scenario.description
    detect := branch.observed.condition
    allowedAfterSteps := [branch.step.id] }
  outcome.validate
  pure { merge with
    outcomes := merge.outcomes ++ [outcome]
    steps := merge.steps.set branch.index { branch.step with
      outcomeRefs := branch.step.outcomeRefs ++ [branch.scenario.code] } }

def mergeFailure (merge : Merge) : Except Raised Merge := do
  require branch.isDistinct
    "application failure does not establish a distinct branch"
  let failure : ApplicationFailure := {
    code := branch.scenario.code
    description := Text.strip branch.scenario.description
    detect := branch.observed.condition
    allowedAfterSteps := [branch.step.id]
    expectedState := "the requested operation is unavailable"
    observedState := Text.strip branch.scenario.description }
  failure.validate
  pure { merge with
    failures := merge.failures ++ [failure]
    steps := merge.steps.set branch.index { branch.step with
      failureRefs := branch.step.failureRefs ++ [branch.scenario.code] } }

def mergeRecovery (merge : Merge) : Except Raised Merge := do
  match merge.steps[branch.observed.afterStepCount]? with
  | none =>
      .error (.value "recovery trace has no primary state to rejoin")
  | some rejoined =>
      let corrective := branch.source.steps.drop
        (branch.observed.afterStepCount + 1)
      require (!corrective.isEmpty) "recovery trace contains no recovery actions"
      require (corrective.all fun step =>
          step.risk.rank < Risk.sensitive.rank)
        "recovery traces must remain read-only or reversible"
      require (corrective.any fun step => step.postconditions.any
          (Condition.provesDistinctSurface branch.observed.condition))
        "recovery trace lacks a distinct verified restored state"
      let recovery : Recovery := {
        id := branch.scenario.code
        trigger := branch.observed.condition
        maxUses := 1
        steps := recoverySteps branch.scenario.code corrective
        resumeAt := rejoined.id }
      recovery.validate
      pure { merge with
        recoveries := merge.recoveries ++ [recovery]
        steps := merge.steps.set branch.index { branch.step with
          recoveryRefs :=
            branch.step.recoveryRefs ++ [branch.scenario.code] } }

def mergeInto (merge : Merge) : Except Raised Merge := do
  branch.validateMarker
  match branch.scenario.kind with
  | .businessOutcome => branch.mergeOutcome merge
  | .applicationFailure => branch.mergeFailure merge
  | .recovery => branch.mergeRecovery merge

end Branch

/-- One round of the loop of `_merge_scenarios`. -/
def mergeScenario (artifact : CapabilityArtifact) (merge : Merge)
    (scenario : DiscoveryScenario) : Except Raised Merge :=
  match scenario.result with
  | .failure _ => .error (.value
      ("scenario " ++ scenario.code ++ " did not produce verified evidence"))
  | .success result => do
      require (artifact.sameTask result.artifact)
        "scenario evidence does not match the primary task contract"
      match result.branch with
      | none => .error (.value
          "scenario trace lacks an explicit verified branch marker")
      | some observed =>
          require (observed.afterStepCount ≤
              sharedPrefixLength artifact result.artifact)
            "scenario trace does not share a verified primary prefix"
          match merge.steps[observed.afterStepCount - 1]? with
          | none => .error (.other "list index out of range")
          | some step =>
              Branch.mergeInto ⟨scenario, result.artifact, observed, step⟩
                merge

/-- The artifact with the merged lists and the policy they need. -/
def CapabilityArtifact.withMerge (artifact : CapabilityArtifact)
    (scenarios : List DiscoveryScenario) (merge : Merge) :
    CapabilityArtifact :=
  { artifact with
    outcomes := merge.outcomes
    failures := merge.failures
    recoveries := merge.recoveries
    steps := merge.steps
    policy := { artifact.policy with
      allowedActionTypes := unionSet artifact.policy.allowedActionTypes
        (merge.recoveries.flatMap fun recovery =>
          recovery.steps.map fun step => step.action.kind)
      allowedRoutePatterns := unionSet artifact.policy.allowedRoutePatterns
        (scenarios.flatMap fun scenario =>
          (scenario.result.success?.map fun result =>
            result.artifact.policy.allowedRoutePatterns).getD []) }
    provenance := { artifact.provenance with artifactContentHash := none } }

/-- `_merge_scenarios` -/
def mergeScenarios (host : Host) (artifact : CapabilityArtifact)
    (scenarios : List DiscoveryScenario) :
    Except Raised CapabilityArtifact := do
  let merge ← scenarios.foldlM (mergeScenario artifact)
    ⟨artifact.outcomes, artifact.failures, artifact.recoveries, artifact.steps⟩
  if merge.isEmpty then
    pure artifact
  else
    let merged := artifact.withMerge scenarios merge
    merged.validate host
    pure merged

/-- Merging leaves the supported variants alone. -/
theorem supportedVariants_mergeScenarios {host : Host}
    {artifact merged : CapabilityArtifact} {scenarios : List DiscoveryScenario}
    (accepted : mergeScenarios host artifact scenarios = .ok merged) :
    merged.compatibility.supportedVariants =
      artifact.compatibility.supportedVariants := by
  unfold mergeScenarios at accepted
  obtain ⟨merge, -, rest⟩ := bind_eq_ok.mp accepted
  split at rest
  next =>
    cases rest
    rfl
  next =>
    obtain ⟨-, same⟩ := check_bind_eq_ok.mp rest
    cases same
    rfl

end ReplayForge

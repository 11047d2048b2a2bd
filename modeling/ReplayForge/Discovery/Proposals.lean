import ReplayForge.Capabilities.Restoration
import ReplayForge.Discovery.Models
import ReplayForge.Policy.Models
import ReplayForge.Replay.Models

/-!
# Discovery requests and proposals

What a discovery run is asked for, what a provider is shown and what it may
propose.  The checks of each constructor are fields.
-/

namespace ReplayForge

/-- A text of at most 500 characters that is not empty. -/
abbrev ProposalText :=
  { text : String // 1 ≤ text.length ∧ text.length ≤ 500 }

structure ActProposal where
  action : Action
  target : Option LocatorBundle := none
  rationale : ProposalText
  expectedEffect : ProposalText
  expectedCondition : Option Condition := none
  declaredRisk : Risk
  confidence : Rat
  bounded : 0 ≤ confidence ∧ confidence ≤ 1
  targeted : action.requiresTarget = target.isSome
deriving DecidableEq

inductive DiscoveryProposal where
  | act (proposal : ActProposal)
  | complete (rationale : ProposalText)
  | escalate (reasonCode : String) (rationale : ProposalText)
  /-- The reuse of a previously discovered action. -/
  | recordedAction (stepId : String) (rationale : ProposalText)
      (expectedCondition : Option Condition)
  | branch (condition : Condition) (rationale : ProposalText)
deriving DecidableEq

def minDiscoverySteps : Nat := 1

def maxDiscoverySteps : Nat := 50

/-- Ten seconds, in microseconds. -/
def minDiscoveryTimeout : Int := 10000000

/-- Ten minutes, in microseconds. -/
def maxDiscoveryTimeout : Int := 600000000

structure DiscoveryRequest where
  runId : String
  goal : String
  applicationFamily : String
  tenant : String
  entryPoint : String
  inputs : Fields
  existingCapabilityId : Option String := none
  scenario : Option ScenarioContext := none
  maxSteps : Nat := 20
  timeout : Int := 120000000
  maxRepeatedState : Nat := 2
  maxRepeatedAction : Nat := 2
  minimumConfidence : Rat := 6 / 10
  goal_present : Text.isBlank goal = false
  steps_bounded : minDiscoverySteps ≤ maxSteps ∧ maxSteps ≤ maxDiscoverySteps
  timeout_bounded : minDiscoveryTimeout ≤ timeout ∧
    timeout ≤ maxDiscoveryTimeout
  repeats_positive : 1 ≤ maxRepeatedState ∧ 1 ≤ maxRepeatedAction
  confidence_bounded : 0 ≤ minimumConfidence ∧ minimumConfidence ≤ 1
  id_present : existingCapabilityId.any Text.isBlank = false

/-- What the provider is shown before each decision. -/
structure ProviderContext where
  goal : String
  inputs : Fields
  observation : NormalizedObservation
  screenshot : Bytes
  actionHistory : List String
  allowedActionTypes : List String
  outputContract : ObjectContract
  capturedOutputNames : List String
  maximumRisk : Risk
  previousVisualText : List String
  referenceSteps : List Step
  scenarioKind : Option ScenarioKind
  branchObserved : Bool
  recordedStepCount : Nat
  recoveryResumeBefore : Option Step
  renderedSurface : Bool

/-- What the planner is shown. -/
structure PlanningContext where
  goal : String
  inputs : Fields
  observation : NormalizedObservation
  screenshot : Bytes
  maximumRisk : Risk
  requestedCapabilityId : Option String
  applicationFamily : String
  entryPoint : String
  allowedActionTypes : List String

def PlanningContext.make (context : PlanningContext) :
    Except Raised PlanningContext := do
  require (!Text.isBlank context.goal) "discovery goal cannot be empty"
  require (pngSignature.isPrefixOf context.screenshot)
    "planning context requires a PNG screenshot"
  require (!Text.isBlank context.applicationFamily &&
      !Text.isBlank context.entryPoint)
    "planning context requires a registered application entry point"
  require (!context.allowedActionTypes.isEmpty)
    "planning context requires allowed action types"
  pure context

/-- Where a discovery run stops for a human. -/
structure Discovery.Pause where
  request : DiscoveryRequest
  session : SurfaceSession
  policy : EffectivePolicy
  observation : NormalizedObservation
  leaseVersion : Nat
  code : String
  stepId : String

/-- A recording whose constructor may refuse it. -/
def recordDiscoveryStep (action : Action) (target : Option LocatorBundle)
    (observationBefore observationAfter : NormalizedObservation)
    (expectedEffect rationale : String) (risk : Risk)
    (verifiedPostconditions : List Condition) :
    Except Raised RecordedDiscoveryStep :=
  if targeted : action.requiresTarget = target.isSome then
    if described : Text.isBlank expectedEffect = false ∧
        Text.isBlank rationale = false then
      .ok { action, target, observationBefore, observationAfter,
            expectedEffect, rationale, risk, verifiedPostconditions, targeted,
            described }
    else
      .error (.value "recorded discovery step requires intent and rationale")
  else
    .error (.value (action.kind ++ " action " ++
      (if action.requiresTarget then "requires" else "cannot declare") ++
        " a target"))

/-! ## Checks of a proposal -/

/-- A rejection after which the model may propose again. -/
def replannable (code safeMessage : String) : Raised :=
  .surface { code, safeMessage, recoverable := true, effectAbsent := true }

/-- The operands of an atomic condition are bound. -/
def AtomicCondition.validateBindings (outputs : Outputs) (inputs : Fields) :
    AtomicCondition → Except Raised Unit
  | .outputValid output | .outputEquals output _ => captured output
  | .identityMatches extractedOutput inputPath => do
      captured extractedOutput
      match resolveInput inputs inputPath with
      | .ok _ => return ()
      | .error _ => .error (replannable "condition_input_unbound"
          "The condition requires an unavailable symbolic input binding.")
  | _ => .ok ()
where
  captured (output : String) : Except Raised Unit :=
    if (outputs.get? output).isSome then .ok ()
    else .error (replannable "condition_output_unbound"
      "The condition requires an output that has not been captured.")

namespace Condition

mutual

/-- `validate_condition_bindings` -/
def validateBindings (outputs : Outputs) (inputs : Fields) :
    Condition → Except Raised Unit
  | .atom condition => condition.validateBindings outputs inputs
  | .all conditions | .any conditions =>
      validateBindingsAll outputs inputs conditions
  | .not condition => condition.validateBindings outputs inputs

def validateBindingsAll (outputs : Outputs) (inputs : Fields) :
    List Condition → Except Raised Unit
  | [] => .ok ()
  | condition :: rest => do
      condition.validateBindings outputs inputs
      validateBindingsAll outputs inputs rest

end

end Condition

/-- `scenario_expected_condition` -/
def scenarioExpectedCondition (step : Step) (proposed : Option Condition) :
    Option Condition :=
  let identities := step.postconditions.filter Condition.containsIdentity
  let required := identities ++
    (proposed.filter fun condition => condition ∉ identities).toList
  match required with
  | [] => none
  | [condition] => some condition
  | conditions => some (.all conditions)

namespace VisualLocatorCandidate

/-- The texts a locator of a displayed value may be made from. -/
def locatingTexts : VisualLocatorCandidate → List String
  | .inputText _ targetText _ => targetText.toList
  | .ocrText value _ _ _ _ => [value]
  | .ocrRelative anchor _ targetText _ _ _ _ _ => anchor :: targetText.toList
  | .imageAnchor _ _ _ _ _ _ _ _ _ _ _ => []
  | .renderedText value _ => [value]
  | .renderedLabeledControl label _ => [label]
  -- A field is found by its label, whatever it displays.
  | .renderedFieldValue _ _ _ => []
  | .renderedGroupImage groupLabel _ _ _ => [groupLabel]

end VisualLocatorCandidate

/-- The same for a candidate of the document. -/
def LocatorCandidate.locatingTexts (candidate : LocatorCandidate) :
    List String :=
  if candidate.strategy = .relativeText then []
  else candidate.value.toList ++ candidate.text.toList ++
    candidate.name.toList ++ candidate.anchor.toList

/-- `extraction_locator_contains_value` -/
def extractionLocatorContainsValue (host : Host)
    (target : Option LocatorBundle) (value : String) : Bool :=
  let folded := host.casefold (Text.strip value)
  match target with
  | none => false
  | some bundle =>
      4 ≤ folded.length &&
        (bundle.visualCandidates.flatMap
            VisualLocatorCandidate.locatingTexts ++
          bundle.candidates.flatMap LocatorCandidate.locatingTexts).any
          fun text => Text.containsText (host.casefold text) folded

namespace Json

mutual

/-- `_contains_input_literal`: a scalar inside the value has the text. -/
def showsLiteral (str : Json → String) (literal : String) : Json → Bool
  | .obj fields => showsLiteralFields str literal fields
  | .arr items => showsLiteralAll str literal items
  | value => str value = literal

def showsLiteralAll (str : Json → String) (literal : String) :
    List Json → Bool
  | [] => false
  | item :: rest =>
      item.showsLiteral str literal || showsLiteralAll str literal rest

def showsLiteralFields (str : Json → String) (literal : String) :
    List (String × Json) → Bool
  | [] => false
  | (_, item) :: rest =>
      item.showsLiteral str literal || showsLiteralFields str literal rest

end

end Json

end ReplayForge

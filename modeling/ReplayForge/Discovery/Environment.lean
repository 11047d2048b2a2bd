import ReplayForge.Discovery.Actions
import ReplayForge.Discovery.Compilation
import ReplayForge.Replay.Environment

/-!
# A concrete discovery

A details page on which everything works, and a model with a list of answers,
for concrete runs of a discovery.
-/

namespace ReplayForge

open Effect

namespace Sample

/-- Serializers with one digest for all texts. -/
noncomputable def digesting : Serializers :=
  { serializers with digest := fun _ => "sha256:0" }

/-- Texts without tokens and personal data, shown by what they hold. -/
noncomputable def discoveryLibraries : DiscoveryLibraries where
  toGuardLibraries := { guardLibraries with serializers := digesting }
  targetDumpJson target := target.description
  operationText action target :=
    action.kind ++ (target.map LocatorBundle.description).getD ""
  proposalText proposal := proposal.action.kind
  str := engine.render

noncomputable def discoverer : Discovery.Engine where
  libraries := discoveryLibraries
  compiler := { compiler with serializers := digesting }
  privacyRedactor := plainRedactor
  leaseService := engine.leaseService
  providerName := "provider"
  modelName := "model"
  effectivePolicy := some { engine.effectivePolicy with
    allowedRoutePatterns := ["/details"] }
  contractPlanner := true

def detailsPage : NormalizedObservation :=
  details "/details" (by decide)

/-- The page shows the details of a customer. -/
def showsDetails : Script
  | _, .session _ .observe => some (.ok detailsPage)
  | _, .session _ (.captureLocator _) => some (.ok (target "Customer"))
  | _, .session _ (.extract _) => some (.ok "Jane Doe")
  | _, _ => none

theorem certain_bounded : (0 : Rat) ≤ 1 ∧ (1 : Rat) ≤ 1 := by decide

theorem extract_targeted : (Action.extract "customer" .text).requiresTarget =
    (some (target "Customer")).isSome := rfl

/-- The customer is read off the details. -/
def readsCustomer : ActProposal where
  action := .extract "customer" .text
  target := some (target "Customer")
  rationale := ⟨"The details are shown.", by decide⟩
  expectedEffect := ⟨"Read the customer.", by decide⟩
  expectedCondition := some (.atom (.text "Details" .exact))
  declaredRisk := .readOnly
  confidence := 1
  bounded := certain_bounded
  targeted := extract_targeted

def completes : DiscoveryProposal :=
  .complete ⟨"The details are read.", by decide⟩

/-- A payment of two clicks that a session may interrupt. -/
def interrupted : ScenarioContext where
  primary := artifact { steps := [click "pay" "Pay", click "done" "Done"] }
  kind := .recovery

/-- The way back to the details. -/
def restoresDetails : ActProposal where
  action := .click
  target := some (target "Back")
  rationale := ⟨"The session has expired.", by decide⟩
  expectedEffect := ⟨"Show the details again.", by decide⟩
  expectedCondition := some (.atom (.text "Details" .exact))
  declaredRisk := .reversible
  confidence := 1
  bounded := certain_bounded
  targeted := rfl

/-- The first click, its interruption and the way back. -/
def recovers : List DiscoveryProposal :=
  [.recordedAction "pay" ⟨"Pay the bill.", by decide⟩
      (some (.atom (.route "/details"))),
    .branch (.atom (.text "Session expired" .exact))
      ⟨"The session has expired.", by decide⟩,
    .act restoresDetails]

/-- The operations of the runtime in a history. -/
def runtimePast (past : List DiscoveryEvent) : List RuntimeEvent :=
  past.filterMap fun
    | ⟨.inl (.inl op), resp⟩ => some ⟨op, resp⟩
    | _ => none

/-- How often the model has answered. -/
def decisionCount (past : List DiscoveryEvent) : Nat :=
  past.countP fun event => match event.op with
    | .inl (.inr (.decide _)) => true
    | _ => false

/-- The model goes through its answers and then completes. -/
def discovers (proposals : List DiscoveryProposal)
    (past : List DiscoveryEvent) : (op : DiscoverySig.Op) → DiscoverySig.Resp op
  | .inl (.inl op) => scripted showsDetails (runtimePast past) op
  | .inl (.inr (.plan _)) => .ok (some (readingRequest detailsPage).draft)
  | .inl (.inr (.decide _)) =>
      .ok (proposals.getD (decisionCount past) completes)
  | .inr pause => some pause.leaseVersion

def discoveryRequest (scenario : Option ScenarioContext) :
    DiscoveryRequest where
  runId := runId
  goal := "Read a customer."
  applicationFamily := "bank"
  tenant := "standard"
  entryPoint := "home"
  inputs := []
  scenario := scenario
  goal_present := by decide
  steps_bounded := by decide
  timeout_bounded := by decide
  repeats_positive := by decide
  confidence_bounded := by decide +kernel
  id_present := rfl

/-- The events and the result of a discovery whose operations are answered. -/
def explores {α : Type} (body : Discovery α)
    (answers : List DiscoveryEvent → (op : DiscoverySig.Op) →
      DiscoverySig.Resp op) : List DiscoveryEvent × Except Raised α :=
  let played := (body.run.run {}).play answers []
  (played.1, played.2.1)

theorem executes_explores {α : Type} (body : Discovery α)
    (answers : List DiscoveryEvent → (op : DiscoverySig.Op) →
      DiscoverySig.Resp op) :
    ∃ final, Executes body {} (explores body answers).1
      (explores body answers).2 final :=
  ⟨_, Program.runs_play answers [] (body.run.run {})⟩

/-- The model is asked, the page is acted on and an artifact is found. -/
def findsArtifact
    (explored : List DiscoveryEvent × Except Raised DiscoveryResult) : Bool :=
  explored.1.any (fun event => stageKind event = .decide) &&
    explored.1.any (fun event =>
      stageKind event ∈ dispatchKinds.map StageKind.runtime) &&
    match explored.2 with
    | .ok (.success _) => true
    | _ => false

theorem exists_artifact {body : Discovery DiscoveryResult}
    {answers : List DiscoveryEvent → (op : DiscoverySig.Op) →
      DiscoverySig.Resp op}
    (finds : findsArtifact (explores body answers) = true) :
    ∃ events success final,
      Executes body {} events (.ok (.success success)) final ∧
      (∃ event ∈ events, stageKind event = .decide) ∧
      ∃ event ∈ events,
        stageKind event ∈ dispatchKinds.map StageKind.runtime := by
  obtain ⟨final, executed⟩ := executes_explores body answers
  generalize explores body answers = explored at finds executed
  obtain ⟨events, result⟩ := explored
  simp only [findsArtifact, Bool.and_eq_true, List.any_eq_true,
    decide_eq_true_eq] at finds
  obtain ⟨⟨decides, dispatches⟩, ends⟩ := finds
  split at ends
  · exact ⟨events, _, final, executed, decides, dispatches⟩
  · cases ends

end Sample

end ReplayForge

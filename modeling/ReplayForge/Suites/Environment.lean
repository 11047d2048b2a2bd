import ReplayForge.Capabilities.Samples
import ReplayForge.Effect.Schedules
import ReplayForge.Suites.Service

/-!
# A concrete suite environment

Discovery always drafts the same artifact, every replay succeeds and every
publication gets the next version.
-/

namespace ReplayForge.Sample

open Effect

def suiteService : DiscoverySuiteService :=
  ⟨host, true, false⟩

def suiteId : String := "sui_00000000000000000000000000000001"

/-- A draft for some variants. -/
def draft (variants : List String) : CapabilityArtifact :=
  let artifact := artifact { steps := [click "pay" "Pay"] }
  { artifact with
    compatibility := { artifact.compatibility with
      supportedVariants := variants } }

def discovered (variants : List String) : DiscoveryResult :=
  .success {
    runId := runId
    artifact := draft variants
    evidenceManifest := manifest }

def replayed : ReplayValidation where
  result := .success {
    runId := runId
    evidenceManifest := manifest
    capabilityId := "bank.pay"
    capabilityVersion := "1.0.0"
    outputs := []
    checkpointId := "done" }

def published (artifact : CapabilityArtifact) : CapabilityVersionRecord where
  artifact := artifact.restamped "1.0.1" none
  contentHash := "sha256:"
  publishedAt := { year := 2024, month := 1, day := 1 }

def answerSuite (variants : List String) (store : SuiteStore) :
    (op : SuiteOp) → Option (op.Result × SuiteStore)
  | .newId =>
      if store.get? suiteId = none then some (suiteId, store) else none
  | .get suiteId => some (store.get? suiteId, store)
  | .save suite => some ((), store.set suite.suiteId suite)
  | .discover _ => some (.ok (discovered variants), store)
  | .resolve _ _ _ => some (.ok (), store)
  | .validator _ _ _ => some (.ok replayed, store)
  | .registryGet _ _ => some (.ok (published (draft variants)), store)
  | .publishNext artifact => some (⟨.ok (published artifact), true⟩, store)

def suiteReactor (variants : List String) :
    Reactor SuiteSig SuiteStore Unit suiteLaw where
  react _ _ store op := answerSuite variants store op
  lawful := by
    intro input index past store op answer after answered
    cases op with
    | newId =>
        simp only [answerSuite, Option.ite_none_right_eq_some,
          Option.some.injEq] at answered
        obtain ⟨fresh, same⟩ := answered
        cases same
        exact ⟨fresh, rfl⟩
    | get suiteId =>
        cases answered
        exact ⟨rfl, rfl⟩
    | publishNext artifact =>
        cases answered
        refine ⟨fun record same => ?_, rfl⟩
        cases same
        exact ⟨rfl, "1.0.1", none, rfl⟩
    | _ =>
        cases answered
        rfl

/-- The turns of a call that takes some steps. -/
def turns (index : Nat) (call : SuiteCall) (steps : Nat) :
    List (Turn SuiteCall Unit) :=
  .spawn index call :: List.replicate steps (.step index ())

/-- A run of the calls against the environment. -/
def suiteRun (variants : List String) (turns : List (Turn SuiteCall Unit)) :
    Execution SuiteSig SuiteStore SuiteCall
      (Except Raised DiscoverySuite × Unit) :=
  .schedule (suiteReactor variants) (SuiteCall.program suiteService) [] turns

end ReplayForge.Sample

import ReplayForge.Capabilities.Artifact

/-!
# Target binding and extraction transforms
-/

namespace ReplayForge

/-- The default `minimum_confidence` of a visual candidate. -/
def defaultConfidence : Rat := 85 / 100

/-- The exact-text candidate an input-bound candidate becomes.  The candidate
models strip the bound value. -/
def bindInputText (inputs : Fields) (contract : Option ObjectContract)
    (forbidden : List DataClassification) (path : String)
    (targetText : Option String) (relation : Option RelativeDirection) :
    Except Raised VisualLocatorCandidate := do
  let classification := contract.bind fun declared =>
    bindingClassification declared path forbidden
  refuseIf (classification.all (· ∈ forbidden))
    (.contract path "target_input_forbidden")
  match ← resolveInput inputs path with
  | .str value =>
      refuseIf (Text.isBlank value || 200 < value.length)
        (.contract path "target_input_invalid")
      match targetText, relation with
      | none, _ => pure (.renderedText (Text.strip value) .exact)
      | some text, some direction =>
          pure (.ocrRelative (Text.strip value) .exact (some text) direction none
            none defaultConfidence .high)
      | some _, none => throw .assertion
  | _ => throw (.contract path "target_input_invalid")

/-- Resolve exact-match text; the caller retains the symbolic bundle. -/
def bindTargetInputs (target : LocatorBundle) (inputs : Fields)
    (contract : Option ObjectContract) (forbidden : List DataClassification) :
    Except Raised LocatorBundle := do
  let candidates ← target.visualCandidates.mapM fun
    | .inputText path targetText relation =>
        bindInputText inputs contract forbidden path targetText relation
    | candidate => pure candidate
  return { target with visualCandidates := candidates }

/-- `value.strip().removeprefix("$").replace(",", "")` -/
def decimalText (value : String) : String :=
  let stripped := (Text.strip value).toList
  let digits := if stripped.head? = some '$' then stripped.drop 1 else stripped
  String.ofList (digits.filter (· ≠ ','))

def transformExtractedText (host : Host) (value : String) :
    Transform → String
  | .lowercase => host.lower (Text.strip value)
  | .decimal => decimalText value
  | .trim | .dateTime => Text.strip value
  | .text => value

end ReplayForge

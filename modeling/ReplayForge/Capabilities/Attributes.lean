import ReplayForge.Capabilities.ArtifactCodec

/-!
# The attributes of an artifact

A walk over a model visits every declared field in the order of its class, also
a field that holds nothing, and can ask for the class of each model.
-/

namespace ReplayForge

/-- The classes that are told apart by a walk. -/
inductive ModelClass where
  | valueSchema
  | objectContract
  | inputValue
  | extractAction
  | outputValidCondition
  | outputEqualsCondition
  | identityMatchesCondition
  | capabilityPolicy
  /-- Any other class. -/
  | plain
deriving DecidableEq, Repr

/-- What an attribute of a model can hold. -/
inductive Attribute where
  | model (type : ModelClass) (fields : List (String × Attribute))
  | dict (entries : List (String × Attribute))
  | seq (items : List Attribute)
  | set (members : List String)
  | str (value : String)
  /-- An enumeration member, which is a string. -/
  | enum (value : String)
  | bool (value : Bool)
  | int (value : Int)
  | real (value : Rat)
  | stamp (value : Timestamp)
  | none

namespace Attribute

def ofOption {α : Type} (shown : α → Attribute) : Option α → Attribute
  | .none => .none
  | some value => shown value

def ofList {α : Type} (shown : α → Attribute) (values : List α) : Attribute :=
  .seq (values.map shown)

def texts (values : List String) : Attribute := ofList .str values

def nat (value : Nat) : Attribute := .int value

end Attribute

open Attribute

/-! ## Value contracts -/

def Scalar.attributes : Scalar → Attribute
  | .str value => .str value
  | .int value => .int value
  | .bool value => .bool value

namespace ValueSchema

mutual

def attributes : ValueSchema → Attribute
  | ⟨type, description, dataClassification, persistence, required, properties,
      pattern, format, enum, const, minLength, maxLength, example_⟩ =>
      .model .valueSchema [
        ("type", .enum type.value),
        ("description", .str description),
        ("data_classification", .enum dataClassification.value),
        ("persistence", .enum persistence.value),
        ("required", texts required),
        ("properties", .dict (propertyAttributes properties)),
        ("additional_properties", .bool false),
        ("pattern", ofOption .str pattern),
        ("format", ofOption (fun format => .str format.value) format),
        ("enum", ofList Scalar.attributes enum),
        ("const", ofOption Scalar.attributes const),
        ("min_length", ofOption .nat minLength),
        ("max_length", ofOption .nat maxLength),
        ("example", ofOption Scalar.attributes example_)]

def propertyAttributes :
    List (String × ValueSchema) → List (String × Attribute)
  | [] => []
  | (name, schema) :: rest =>
      (name, schema.attributes) :: propertyAttributes rest

end

end ValueSchema

def ObjectContract.attributes (contract : ObjectContract) : Attribute :=
  .model .objectContract [
    ("type", .enum "object"),
    ("additional_properties", .bool false),
    ("required", texts contract.required),
    ("properties",
      .dict (ValueSchema.propertyAttributes contract.properties))]

/-- `InputValue` -/
def inputValueAttributes (path : String) : Attribute :=
  .model .inputValue [("source", .str "input"), ("path", .str path)]

def ValueSource.attributes : ValueSource → Attribute
  | .input path => inputValueAttributes path
  | .literal value =>
      .model .plain [("source", .str "literal"), ("value", value.attributes)]

/-! ## Locators -/

def LocatorCandidate.attributes (candidate : LocatorCandidate) : Attribute :=
  .model .plain [
    ("strategy", .enum candidate.strategy.value),
    ("expected_count", .nat candidate.expectedCount),
    ("value", ofOption .str candidate.value),
    ("role", ofOption .str candidate.role),
    ("name", ofOption .str candidate.name),
    ("match", .enum candidate.matchMode.value),
    ("anchor", ofOption .str candidate.anchor),
    ("relation", ofOption .str candidate.relation),
    ("element", ofOption .str candidate.element),
    ("text", ofOption .str candidate.text),
    ("capture_group_label", ofOption .str candidate.captureGroupLabel),
    ("x", ofOption .nat candidate.x),
    ("y", ofOption .nat candidate.y),
    ("width", ofOption .nat candidate.width),
    ("height", ofOption .nat candidate.height),
    ("viewport_width", ofOption .nat candidate.viewportWidth),
    ("viewport_height", ofOption .nat candidate.viewportHeight),
    ("portability", .enum candidate.portability.value)]

def NormalizedRegion.attributes (region : NormalizedRegion) : Attribute :=
  .model .plain [
    ("x", .real region.x),
    ("y", .real region.y),
    ("width", .real region.width),
    ("height", .real region.height)]

def RelativeRegion.attributes (region : RelativeRegion) : Attribute :=
  .model .plain [
    ("x", .real region.x),
    ("y", .real region.y),
    ("width", .real region.width),
    ("height", .real region.height)]

def OcrAnchor.attributes (anchor : OcrAnchor) : Attribute :=
  .model .plain [
    ("value", .str anchor.value),
    ("match", .enum anchor.matchMode.value),
    ("search_region",
      ofOption NormalizedRegion.attributes anchor.searchRegion),
    ("minimum_confidence", .real anchor.minimumConfidence)]

def RelativeDirection.attributes (direction : RelativeDirection) : Attribute :=
  .str direction.value

def VisualLocatorCandidate.attributes : VisualLocatorCandidate → Attribute
  | .inputText path targetText relation =>
      .model .plain [
        ("strategy", .str "input_text"),
        ("value", inputValueAttributes path),
        ("target_text", ofOption .str targetText),
        ("relation", ofOption RelativeDirection.attributes relation)]
  | .ocrText value matchMode region confidence portability =>
      .model .plain [
        ("strategy", .str "ocr_text"),
        ("value", .str value),
        ("match", .enum matchMode.value),
        ("search_region", ofOption NormalizedRegion.attributes region),
        ("minimum_confidence", .real confidence),
        ("expected_count", .int 1),
        ("portability", .enum portability.value)]
  | .ocrRelative anchor anchorMatch targetText relation relativeRegion region
      confidence portability =>
      .model .plain [
        ("strategy", .str "ocr_relative"),
        ("anchor", .str anchor),
        ("anchor_match", .enum anchorMatch.value),
        ("target_text", ofOption .str targetText),
        ("relation", relation.attributes),
        ("relative_region", ofOption RelativeRegion.attributes relativeRegion),
        ("search_region", ofOption NormalizedRegion.attributes region),
        ("minimum_confidence", .real confidence),
        ("expected_count", .int 1),
        ("portability", .enum portability.value)]
  | .imageAnchor assetKey contentHash region contextAnchor relativeRegion score
      margin minimumScale maximumScale scaleStep portability =>
      .model .plain [
        ("strategy", .str "image_anchor"),
        ("asset_key", .str assetKey),
        ("content_hash", .str contentHash),
        ("search_region", ofOption NormalizedRegion.attributes region),
        ("context_anchor", ofOption OcrAnchor.attributes contextAnchor),
        ("relative_search_region",
          ofOption RelativeRegion.attributes relativeRegion),
        ("minimum_score", .real score),
        ("uniqueness_margin", .real margin),
        ("minimum_scale", .real minimumScale),
        ("maximum_scale", .real maximumScale),
        ("scale_step", .real scaleStep),
        ("expected_count", .int 1),
        ("portability", .enum portability.value)]
  | .renderedText value matchMode =>
      .model .plain [
        ("strategy", .str "rendered_text"),
        ("value", .str value),
        ("match", .enum matchMode.value)]
  | .renderedLabeledControl label labelMatch =>
      .model .plain [
        ("strategy", .str "rendered_labeled_control"),
        ("label", .str label),
        ("label_match", .enum labelMatch.value),
        ("control_kind", .str "text_input")]
  | .renderedFieldValue label labelMatch relation =>
      .model .plain [
        ("strategy", .str "rendered_field_value"),
        ("label", .str label),
        ("label_match", .enum labelMatch.value),
        ("relation", ofOption RelativeDirection.attributes relation)]
  | .renderedGroupImage groupLabel groupLabelMatch assetKey contentHash =>
      .model .plain [
        ("strategy", .str "rendered_group_image"),
        ("group_label", .str groupLabel),
        ("group_label_match", .enum groupLabelMatch.value),
        ("asset_key", .str assetKey),
        ("content_hash", .str contentHash)]

/-- `FrameLocator` -/
def frameLocatorAttributes (candidate : LocatorCandidate) : Attribute :=
  .model .plain [("locator", candidate.attributes)]

def LocatorScope.attributes (scope : LocatorScope) : Attribute :=
  .model .plain [
    ("window", .str scope.window),
    ("frame_path", ofList frameLocatorAttributes scope.framePath)]

def TargetState.attributes (state : TargetState) : Attribute :=
  .model .plain [
    ("visible", .bool state.visible),
    ("enabled", ofOption .bool state.enabled)]

def LocatorBundle.attributes (target : LocatorBundle) : Attribute :=
  .model .plain [
    ("description", .str target.description),
    ("registered_risk",
      ofOption (fun risk => .enum risk.value) target.registeredRisk),
    ("scope", target.scope.attributes),
    ("visual_candidates",
      ofList VisualLocatorCandidate.attributes target.visualCandidates),
    ("candidates", ofList LocatorCandidate.attributes target.candidates),
    ("state", target.state.attributes),
    ("tenant_overrides_allowed", .bool target.tenantOverridesAllowed)]

/-! ## Conditions and actions -/

def AtomicCondition.attributes : AtomicCondition → Attribute
  | .route pattern =>
      .model .plain [("kind", .str "route"), ("pattern", .str pattern)]
  | .text value matchMode =>
      .model .plain [
        ("kind", .str "text"),
        ("value", .str value),
        ("match", .enum matchMode.value)]
  | .renderedText value matchMode =>
      .model .plain [
        ("kind", .str "rendered_text"),
        ("value", .str value),
        ("match", .enum matchMode.value)]
  | .visualText value matchMode region confidence =>
      .model .plain [
        ("kind", .str "visual_text"),
        ("value", .str value),
        ("match", .enum matchMode.value),
        ("search_region", ofOption NormalizedRegion.attributes region),
        ("minimum_confidence", .real confidence)]
  | .element target state =>
      .model .plain [
        ("kind", .str "element"),
        ("target", target.attributes),
        ("state", .str state.value)]
  | .outputValid output =>
      .model .outputValidCondition [
        ("kind", .str "output_valid"),
        ("output", .str output)]
  | .outputEquals output value =>
      .model .outputEqualsCondition [
        ("kind", .str "output_equals"),
        ("output", .str output),
        ("value", .str value)]
  | .identityMatches extractedOutput inputPath =>
      .model .identityMatchesCondition [
        ("kind", .str "identity_matches"),
        ("extracted_output", .str extractedOutput),
        ("input_path", .str inputPath)]

namespace Condition

mutual

def attributes : Condition → Attribute
  | .atom condition => condition.attributes
  | .all conditions =>
      .model .plain [
        ("kind", .str "all"),
        ("conditions", .seq (attributesAll conditions))]
  | .any conditions =>
      .model .plain [
        ("kind", .str "any"),
        ("conditions", .seq (attributesAll conditions))]
  | .not condition =>
      .model .plain [
        ("kind", .str "not"),
        ("condition", condition.attributes)]

def attributesAll : List Condition → List Attribute
  | [] => []
  | condition :: rest => condition.attributes :: attributesAll rest

end

end Condition

def Action.attributes : Action → Attribute
  | .navigate entryPoint =>
      .model .plain [
        ("kind", .str "navigate"),
        ("entry_point", .str entryPoint)]
  | .click => .model .plain [("kind", .str "click")]
  | .type value clear =>
      .model .plain [
        ("kind", .str "type"),
        ("value", value.attributes),
        ("clear", .bool clear)]
  | .pressKeys keys =>
      .model .plain [
        ("kind", .str "press_keys"),
        ("keys", ofList (fun key => .str key.value) keys)]
  | .select option =>
      .model .plain [
        ("kind", .str "select"),
        ("option", option.attributes)]
  | .scroll direction amount =>
      .model .plain [
        ("kind", .str "scroll"),
        ("direction", .str direction.value),
        ("amount", .nat amount)]
  | .waitFor condition =>
      .model .plain [
        ("kind", .str "wait_for"),
        ("condition", condition.attributes)]
  | .extract output transform =>
      .model .extractAction [
        ("kind", .str "extract"),
        ("output", .str output),
        ("transform", .str transform.value)]
  | .assert condition =>
      .model .plain [
        ("kind", .str "assert"),
        ("condition", condition.attributes)]
  | .switchContext context =>
      .model .plain [
        ("kind", .str "switch_context"),
        ("context", .str context)]
  | .checkpoint checkpointId =>
      .model .plain [
        ("kind", .str "checkpoint"),
        ("checkpoint_id", .str checkpointId)]

/-! ## Steps and branches -/

def RetryPolicy.attributes (retry : RetryPolicy) : Attribute :=
  .model .plain [
    ("max_attempts", .nat retry.maxAttempts),
    ("backoff_ms", ofList .nat retry.backoffMs),
    ("retry_on", texts retry.retryOn),
    ("require_effect_absent", .bool true)]

def EvidenceRequirement.attributes (evidence : EvidenceRequirement) :
    Attribute :=
  .model .plain [
    ("before", .bool evidence.before),
    ("after", .bool evidence.after),
    ("on_failure", .bool evidence.onFailure)]

def Step.attributes (step : Step) : Attribute :=
  .model .plain [
    ("id", .str step.id),
    ("name", .str step.name),
    ("action", step.action.attributes),
    ("target", ofOption LocatorBundle.attributes step.target),
    ("preconditions", ofList Condition.attributes step.preconditions),
    ("postconditions", ofList Condition.attributes step.postconditions),
    ("timeout_ms", .nat step.timeoutMs),
    ("retry", step.retry.attributes),
    ("recovery_refs", texts step.recoveryRefs),
    ("outcome_refs", texts step.outcomeRefs),
    ("failure_refs", texts step.failureRefs),
    ("risk", .enum step.risk.value),
    ("evidence", step.evidence.attributes)]

def Recovery.attributes (recovery : Recovery) : Attribute :=
  .model .plain [
    ("id", .str recovery.id),
    ("trigger", recovery.trigger.attributes),
    ("max_uses", .nat recovery.maxUses),
    ("steps", ofList Step.attributes recovery.steps),
    ("resume_at", .str recovery.resumeAt)]

/-- `OutcomeResult` -/
def outcomeResultAttributes (details : Dict ValueSource) : Attribute :=
  .model .plain [
    ("status", .str "business_outcome"),
    ("details", .dict (details.mapValues ValueSource.attributes))]

def BusinessOutcome.attributes (outcome : BusinessOutcome) : Attribute :=
  .model .plain [
    ("code", .str outcome.code),
    ("description", .str outcome.description),
    ("detect", outcome.detect.attributes),
    ("allowed_after_steps", texts outcome.allowedAfterSteps),
    ("result", outcomeResultAttributes outcome.details)]

def ApplicationFailure.attributes (failure : ApplicationFailure) : Attribute :=
  .model .plain [
    ("code", .str failure.code),
    ("description", .str failure.description),
    ("detect", failure.detect.attributes),
    ("allowed_after_steps", texts failure.allowedAfterSteps),
    ("expected_state", .str failure.expectedState),
    ("observed_state", .str failure.observedState),
    ("recoverable", .bool failure.recoverable)]

def Checkpoint.attributes (checkpoint : Checkpoint) : Attribute :=
  .model .plain [
    ("id", .str checkpoint.id),
    ("condition", checkpoint.condition.attributes)]

/-! ## The artifact -/

def Landmark.attributes (landmark : Landmark) : Attribute :=
  .model .plain [
    ("kind", .str landmark.kind.value),
    ("value", .str landmark.value)]

/-- `SurfaceFingerprint` -/
def fingerprintAttributes (required forbidden : List Landmark) : Attribute :=
  .model .plain [
    ("required_landmarks", ofList Landmark.attributes required),
    ("forbidden_landmarks", ofList Landmark.attributes forbidden)]

def Compatibility.attributes (compatibility : Compatibility) : Attribute :=
  .model .plain [
    ("application_family", .str compatibility.applicationFamily),
    ("base_variant", .str compatibility.baseVariant),
    ("supported_variants", texts compatibility.supportedVariants),
    ("surface_contract", .str compatibility.surfaceContract),
    ("entry_point", .str compatibility.entryPoint),
    ("rendered_surface", .bool compatibility.renderedSurface),
    ("fingerprint", fingerprintAttributes compatibility.requiredLandmarks
      compatibility.forbiddenLandmarks)]

def CapabilityMetadata.attributes (metadata : CapabilityMetadata) :
    Attribute :=
  .model .plain [
    ("id", .str metadata.id),
    ("version", .str metadata.version),
    ("name", .str metadata.name),
    ("description", .str metadata.description),
    ("application_family", .str metadata.applicationFamily),
    ("surface", .enum metadata.surface.value),
    ("risk", .enum metadata.risk.value),
    ("tags", texts metadata.tags)]

def CapabilityPolicy.attributes (policy : CapabilityPolicy) : Attribute :=
  .model .capabilityPolicy [
    ("allowed_action_types", .set policy.allowedActionTypes),
    ("allowed_entry_points", .set policy.allowedEntryPoints),
    ("maximum_risk", .enum policy.maximumRisk.value),
    ("allowed_route_patterns", .set policy.allowedRoutePatterns),
    ("forbidden_text_inputs", texts policy.forbiddenTextInputs),
    ("output_redaction",
      .dict (policy.outputRedaction.mapValues fun redaction =>
        .str redaction.value))]

def Provenance.attributes (provenance : Provenance) : Attribute :=
  .model .plain [
    ("discovery_run_id", .str provenance.discoveryRunId),
    ("provider", .str provenance.provider),
    ("model", .str provenance.model),
    ("prompt_policy_version", .str provenance.promptPolicyVersion),
    ("surface_adapter_version", .str provenance.surfaceAdapterVersion),
    ("compiler_version", .str provenance.compilerVersion),
    ("created_at", .stamp provenance.createdAt),
    ("target_fingerprint", .str provenance.targetFingerprint),
    ("evidence_manifest_key", .str provenance.evidenceManifestKey),
    ("artifact_content_hash", ofOption .str provenance.artifactContentHash)]

def CapabilityArtifact.attributes (artifact : CapabilityArtifact) : Attribute :=
  .model .plain [
    ("schema_version", .str "1.4"),
    ("capability", artifact.capability.attributes),
    ("compatibility", artifact.compatibility.attributes),
    ("inputs", artifact.inputs.attributes),
    ("outputs", artifact.outputs.attributes),
    ("preconditions", ofList Condition.attributes artifact.preconditions),
    ("steps", ofList Step.attributes artifact.steps),
    ("recoveries", ofList Recovery.attributes artifact.recoveries),
    ("outcomes", ofList BusinessOutcome.attributes artifact.outcomes),
    ("failures", ofList ApplicationFailure.attributes artifact.failures),
    ("checkpoint", artifact.checkpoint.attributes),
    ("policy", artifact.policy.attributes),
    ("provenance", artifact.provenance.attributes)]

/-! ## The attributes and the dump

A dump shows the attributes that hold something. -/

namespace Attribute

mutual

/-- What a dump writes for an attribute, unless it holds nothing. -/
def dump : Attribute → Option Tree
  | .model _ fields => some (.obj (dumpFields fields))
  | .dict entries => some (.obj (dumpFields entries))
  | .seq items => some (.arr (dumpAll items))
  | .set members => some (.set members)
  | .str value => some (.str value)
  | .enum value => some (.enum value)
  | .bool value => some (.bool value)
  | .int value => some (.int value)
  | .real value => some (.real value)
  | .stamp value => some (.stamp value)
  | .none => .none

def dumpAll : List Attribute → List Tree
  | [] => []
  | item :: rest => item.dump.toList ++ dumpAll rest

def dumpFields : List (String × Attribute) → Dict Tree
  | [] => []
  | (name, value) :: rest =>
      value.dump.toList.map (Prod.mk name) ++ dumpFields rest

end

variable {α : Type} {shown : α → Attribute} {codec : Codec α}

/-- The attribute shows what the codec dumps. -/
abbrev Shows (shown : α → Attribute) (codec : Codec α) : Prop :=
  ∀ value, (shown value).dump = some (codec.dump value)

theorem dump_model {type : ModelClass} {fields : List (String × Attribute)}
    {trees : Dict Tree} (each : dumpFields fields = trees) :
    (model type fields).dump = some (.obj trees) := by
  rw [dump, each]

theorem dump_dict {entries : List (String × Attribute)} {trees : Dict Tree}
    (each : dumpFields entries = trees) :
    (dict entries).dump = some (.obj trees) := by
  rw [dump, each]

theorem dump_seq {items : List Attribute} {trees : List Tree}
    (each : dumpAll items = trees) :
    (seq items).dump = some (.arr trees) := by
  rw [dump, each]

/-- A field that holds something. -/
theorem dumpFields_cons {name : String} {value : Attribute} {tree : Tree}
    {rest : List (String × Attribute)} {trees : Dict Tree}
    (here : value.dump = some tree) (there : dumpFields rest = trees) :
    dumpFields ((name, value) :: rest) = (name, tree) :: trees := by
  rw [dumpFields, here, there]
  rfl

/-- A field that may hold nothing. -/
theorem dumpFields_optional {name : String} {value : Option α}
    {rest : List (String × Attribute)} {trees : Dict Tree}
    (shows : Shows shown codec) (there : dumpFields rest = trees) :
    dumpFields ((name, ofOption shown value) :: rest) =
      (Part.optional name codec).dump value ++ trees := by
  cases value with
  | none => exact there
  | some value => exact dumpFields_cons (shows value) there

/-- The last field may hold nothing. -/
theorem dumpFields_last {name : String} {value : Option α}
    (shows : Shows shown codec) :
    dumpFields [(name, ofOption shown value)] =
      (Part.optional name codec).dump value := by
  cases value with
  | none => rfl
  | some value => exact dumpFields_cons (shows value) rfl

theorem shows_list (shows : Shows shown codec) :
    Shows (ofList shown) codec.list := by
  intro values
  have each : dumpAll (values.map shown) = values.map codec.dump := by
    induction values with
    | nil => rfl
    | cons value rest ih =>
        rw [List.map_cons, dumpAll, shows, ih]
        rfl
  exact dump_seq each

theorem dumpFields_mapValues (shows : Shows shown codec)
    (entries : Dict α) :
    dumpFields (entries.mapValues shown) = entries.mapValues codec.dump := by
  induction entries with
  | nil => rfl
  | cons entry rest ih => exact dumpFields_cons (shows entry.2) ih

theorem shows_text : Shows .str .text := fun _ => rfl

theorem shows_nat : Shows .nat .nat := fun _ => rfl

theorem shows_texts : Shows texts (Codec.list .text) := shows_list shows_text

end Attribute

theorem Scalar.shows : Shows attributes codec := by
  intro value
  cases value <;> rfl

namespace ValueSchema

mutual

theorem shows : ∀ schema : ValueSchema,
    schema.attributes.dump = some (codec.dump schema)
  | ⟨type, description, dataClassification, persistence, required, properties,
      pattern, format, enum, const, minLength, maxLength, example_⟩ => by
      have declared := dump_dict (propertiesShow properties)
      have formats : Shows (fun format : ValueFormat => .str format.value)
          ValueFormat.codec := fun _ => rfl
      simp only [codec, ValueSchema.dump, List.append_assoc, List.cons_append,
        List.nil_append]
      apply dump_model
      iterate 4 refine dumpFields_cons rfl ?_
      refine dumpFields_cons (shows_texts required) ?_
      refine dumpFields_cons declared ?_
      refine dumpFields_cons rfl ?_
      refine dumpFields_optional shows_text ?_
      refine dumpFields_optional formats ?_
      refine dumpFields_cons (shows_list Scalar.shows enum) ?_
      refine dumpFields_optional Scalar.shows ?_
      refine dumpFields_optional shows_nat ?_
      refine dumpFields_optional shows_nat ?_
      exact dumpFields_last Scalar.shows

theorem propertiesShow : ∀ properties : List (String × ValueSchema),
    Attribute.dumpFields (propertyAttributes properties) =
      dumpProperties properties
  | [] => rfl
  | (_, schema) :: rest =>
      dumpFields_cons (shows schema) (propertiesShow rest)

end

end ValueSchema

theorem ObjectContract.shows : Shows attributes codec := by
  intro contract
  have declared := dump_dict
    ((ValueSchema.propertiesShow contract.properties).trans
      (ValueSchema.dumpProperties_eq contract.properties))
  apply dump_model
  iterate 2 refine dumpFields_cons rfl ?_
  refine dumpFields_cons (shows_texts contract.required) ?_
  exact dumpFields_cons declared rfl

theorem ValueSource.shows : Shows attributes codec := by
  intro source
  cases source with
  | input path => rfl
  | literal value => cases value <;> rfl

theorem LocatorCandidate.shows : Shows attributes codec := by
  intro candidate
  apply dump_model
  repeat first
    | refine dumpFields_optional shows_text ?_
    | refine dumpFields_optional shows_nat ?_
    | refine dumpFields_cons rfl ?_
  rfl

theorem NormalizedRegion.shows : Shows attributes codec := fun _ => rfl

theorem RelativeRegion.shows : Shows attributes codec := fun _ => rfl

theorem OcrAnchor.shows : Shows attributes codec := by
  intro anchor
  apply dump_model
  iterate 2 refine dumpFields_cons rfl ?_
  exact dumpFields_optional NormalizedRegion.shows rfl

theorem RelativeDirection.shows : Shows attributes codec := fun _ => rfl

theorem VisualLocatorCandidate.shows : Shows attributes codec := by
  intro candidate
  cases candidate with
  | inputText path targetText relation =>
      apply dump_model
      iterate 2 refine dumpFields_cons rfl ?_
      refine dumpFields_optional shows_text ?_
      exact dumpFields_last RelativeDirection.shows
  | ocrText value matchMode region confidence portability =>
      apply dump_model
      iterate 3 refine dumpFields_cons rfl ?_
      exact dumpFields_optional NormalizedRegion.shows rfl
  | ocrRelative anchor anchorMatch targetText relation relativeRegion region
      confidence portability =>
      apply dump_model
      iterate 3 refine dumpFields_cons rfl ?_
      refine dumpFields_optional shows_text ?_
      refine dumpFields_cons rfl ?_
      refine dumpFields_optional RelativeRegion.shows ?_
      exact dumpFields_optional NormalizedRegion.shows rfl
  | imageAnchor assetKey contentHash region contextAnchor relativeRegion score
      margin minimumScale maximumScale scaleStep portability =>
      apply dump_model
      iterate 3 refine dumpFields_cons rfl ?_
      refine dumpFields_optional NormalizedRegion.shows ?_
      refine dumpFields_optional OcrAnchor.shows ?_
      exact dumpFields_optional RelativeRegion.shows rfl
  | renderedText value matchMode => rfl
  | renderedLabeledControl label labelMatch => rfl
  | renderedFieldValue label labelMatch relation =>
      apply dump_model
      iterate 3 refine dumpFields_cons rfl ?_
      exact dumpFields_last RelativeDirection.shows
  | renderedGroupImage groupLabel groupLabelMatch assetKey contentHash => rfl

theorem shows_frameLocator : Shows frameLocatorAttributes frameLocator := by
  intro candidate
  apply dump_model
  exact dumpFields_cons (LocatorCandidate.shows candidate) rfl

theorem LocatorScope.shows : Shows attributes codec := by
  intro scope
  apply dump_model
  refine dumpFields_cons rfl ?_
  exact dumpFields_cons (shows_list shows_frameLocator scope.framePath) rfl

theorem TargetState.shows : Shows attributes codec := by
  intro state
  have flags : Shows .bool .bool := fun _ => rfl
  apply dump_model
  refine dumpFields_cons rfl ?_
  exact dumpFields_last flags

theorem LocatorBundle.shows : Shows attributes codec := by
  intro target
  have risks : Shows (fun risk : Risk => .enum risk.value) Risk.codec :=
    fun _ => rfl
  apply dump_model
  refine dumpFields_cons rfl ?_
  refine dumpFields_optional risks ?_
  refine dumpFields_cons (LocatorScope.shows target.scope) ?_
  refine dumpFields_cons
    (shows_list VisualLocatorCandidate.shows target.visualCandidates) ?_
  refine dumpFields_cons
    (shows_list LocatorCandidate.shows target.candidates) ?_
  exact dumpFields_cons (TargetState.shows target.state) rfl

theorem AtomicCondition.shows (condition : AtomicCondition) :
    condition.attributes.dump = some (Condition.atom condition).dump := by
  cases condition with
  | route pattern => rfl
  | text value matchMode => rfl
  | renderedText value matchMode => rfl
  | visualText value matchMode region confidence =>
      apply dump_model
      iterate 3 refine dumpFields_cons rfl ?_
      exact dumpFields_optional NormalizedRegion.shows rfl
  | element target state =>
      apply dump_model
      refine dumpFields_cons rfl ?_
      exact dumpFields_cons (LocatorBundle.shows target) rfl
  | outputValid output => rfl
  | outputEquals output value => rfl
  | identityMatches extractedOutput inputPath => rfl

namespace Condition

mutual

theorem shows : ∀ condition : Condition,
    condition.attributes.dump = some (codec.dump condition)
  | .atom condition => condition.shows
  | .all conditions =>
      dump_model <| dumpFields_cons rfl <|
        dumpFields_cons (dump_seq (showsAll conditions)) rfl
  | .any conditions =>
      dump_model <| dumpFields_cons rfl <|
        dumpFields_cons (dump_seq (showsAll conditions)) rfl
  | .not condition =>
      dump_model <| dumpFields_cons rfl <| dumpFields_cons (shows condition) rfl

theorem showsAll : ∀ conditions : List Condition,
    Attribute.dumpAll (attributesAll conditions) = dumpAll conditions
  | [] => rfl
  | condition :: rest => by
      rw [attributesAll, Attribute.dumpAll, shows condition, showsAll rest]
      rfl

end

end Condition

theorem Action.shows : Shows attributes codec := by
  intro action
  have conditions : Shows Condition.attributes Condition.codec :=
    Condition.shows
  cases action with
  | navigate entryPoint => rfl
  | click => rfl
  | type value clear =>
      apply dump_model
      refine dumpFields_cons rfl ?_
      exact dumpFields_cons (ValueSource.shows value) rfl
  | pressKeys keys =>
      have shown : Shows (fun key : KeyboardKey => .str key.value)
          KeyboardKey.codec := fun _ => rfl
      apply dump_model
      refine dumpFields_cons rfl ?_
      exact dumpFields_cons (shows_list shown keys) rfl
  | select option =>
      apply dump_model
      refine dumpFields_cons rfl ?_
      exact dumpFields_cons (ValueSource.shows option) rfl
  | scroll direction amount => rfl
  | waitFor condition =>
      apply dump_model
      refine dumpFields_cons rfl ?_
      exact dumpFields_cons (conditions condition) rfl
  | extract output transform => rfl
  | assert condition =>
      apply dump_model
      refine dumpFields_cons rfl ?_
      exact dumpFields_cons (conditions condition) rfl
  | switchContext context => rfl
  | checkpoint checkpointId => rfl

theorem RetryPolicy.shows : Shows attributes codec := by
  intro retry
  apply dump_model
  refine dumpFields_cons rfl ?_
  refine dumpFields_cons (shows_list shows_nat retry.backoffMs) ?_
  exact dumpFields_cons (shows_texts retry.retryOn) rfl

theorem Step.shows : Shows attributes (codec false) := by
  intro step
  have conditions : Shows Condition.attributes Condition.codec :=
    Condition.shows
  apply dump_model
  iterate 2 refine dumpFields_cons rfl ?_
  refine dumpFields_cons (Action.shows step.action) ?_
  refine dumpFields_optional LocatorBundle.shows ?_
  refine dumpFields_cons (shows_list conditions step.preconditions) ?_
  refine dumpFields_cons (shows_list conditions step.postconditions) ?_
  refine dumpFields_cons rfl ?_
  refine dumpFields_cons (RetryPolicy.shows step.retry) ?_
  refine dumpFields_cons (shows_texts step.recoveryRefs) ?_
  refine dumpFields_cons (shows_texts step.outcomeRefs) ?_
  exact dumpFields_cons (shows_texts step.failureRefs) rfl

theorem Recovery.shows : Shows attributes (codec false) := by
  intro recovery
  apply dump_model
  refine dumpFields_cons rfl ?_
  refine dumpFields_cons (Condition.shows recovery.trigger) ?_
  refine dumpFields_cons rfl ?_
  exact dumpFields_cons (shows_list Step.shows recovery.steps) rfl

theorem shows_outcomeResult : Shows outcomeResultAttributes outcomeResult := by
  intro details
  apply dump_model
  refine dumpFields_cons rfl ?_
  exact dumpFields_cons
    (dump_dict (dumpFields_mapValues ValueSource.shows details)) rfl

theorem BusinessOutcome.shows : Shows attributes codec := by
  intro outcome
  apply dump_model
  iterate 2 refine dumpFields_cons rfl ?_
  refine dumpFields_cons (Condition.shows outcome.detect) ?_
  refine dumpFields_cons (shows_texts outcome.allowedAfterSteps) ?_
  exact dumpFields_cons (shows_outcomeResult outcome.details) rfl

theorem ApplicationFailure.shows : Shows attributes codec := by
  intro failure
  apply dump_model
  iterate 2 refine dumpFields_cons rfl ?_
  refine dumpFields_cons (Condition.shows failure.detect) ?_
  exact dumpFields_cons (shows_texts failure.allowedAfterSteps) rfl

theorem Checkpoint.shows : Shows attributes codec := by
  intro checkpoint
  apply dump_model
  refine dumpFields_cons rfl ?_
  exact dumpFields_cons (Condition.shows checkpoint.condition) rfl

theorem Landmark.shows : Shows attributes codec := fun _ => rfl

theorem shows_fingerprint (required forbidden : List Landmark) :
    (fingerprintAttributes required forbidden).dump =
      some (surfaceFingerprint.dump (required, forbidden)) := by
  apply dump_model
  refine dumpFields_cons (shows_list Landmark.shows required) ?_
  exact dumpFields_cons (shows_list Landmark.shows forbidden) rfl

theorem Compatibility.shows : Shows attributes (codec false) := by
  intro compatibility
  apply dump_model
  iterate 2 refine dumpFields_cons rfl ?_
  refine dumpFields_cons (shows_texts compatibility.supportedVariants) ?_
  iterate 3 refine dumpFields_cons rfl ?_
  exact dumpFields_cons (shows_fingerprint compatibility.requiredLandmarks
    compatibility.forbiddenLandmarks) rfl

theorem CapabilityMetadata.shows : Shows attributes codec := by
  intro metadata
  apply dump_model
  iterate 7 refine dumpFields_cons rfl ?_
  exact dumpFields_cons (shows_texts metadata.tags) rfl

theorem CapabilityPolicy.shows : Shows attributes (codec false) := by
  intro policy
  have redactions : Shows (fun redaction : OutputRedaction =>
      .str redaction.value) OutputRedaction.codec := fun _ => rfl
  apply dump_model
  iterate 4 refine dumpFields_cons rfl ?_
  refine dumpFields_cons (shows_texts policy.forbiddenTextInputs) ?_
  exact dumpFields_cons (dump_dict
    (dumpFields_mapValues redactions policy.outputRedaction)) rfl

theorem Provenance.shows : Shows attributes codec := by
  intro provenance
  apply dump_model
  iterate 9 refine dumpFields_cons rfl ?_
  exact dumpFields_last shows_text

/-- The attributes of an artifact are what a dump of it shows. -/
theorem CapabilityArtifact.shows : Shows attributes (codec false) := by
  intro artifact
  have conditions : Shows Condition.attributes Condition.codec :=
    Condition.shows
  apply dump_model
  refine dumpFields_cons rfl ?_
  refine dumpFields_cons (CapabilityMetadata.shows artifact.capability) ?_
  refine dumpFields_cons (Compatibility.shows artifact.compatibility) ?_
  refine dumpFields_cons (ObjectContract.shows artifact.inputs) ?_
  refine dumpFields_cons (ObjectContract.shows artifact.outputs) ?_
  refine dumpFields_cons (shows_list conditions artifact.preconditions) ?_
  refine dumpFields_cons (shows_list Step.shows artifact.steps) ?_
  refine dumpFields_cons (shows_list Recovery.shows artifact.recoveries) ?_
  refine dumpFields_cons (shows_list BusinessOutcome.shows
    artifact.outcomes) ?_
  refine dumpFields_cons (shows_list ApplicationFailure.shows
    artifact.failures) ?_
  refine dumpFields_cons (Checkpoint.shows artifact.checkpoint) ?_
  refine dumpFields_cons (CapabilityPolicy.shows artifact.policy) ?_
  exact dumpFields_cons (Provenance.shows artifact.provenance) rfl

end ReplayForge

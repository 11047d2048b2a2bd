import ReplayForge.Capabilities.CanonicalRendering

/-!
# The canonical text of an artifact

The canonical text determines the artifact up to its declared content hash and
the order of its sets and dictionaries: every field that is left out of the
text is restored by a default, and no name the author of an artifact chose is
ever pruned.
-/

namespace ReplayForge

open Codec ReplayForge.Part

section Entries

variable (trimmed : Bool)

theorem Step.dump_eq (step : Step) :
    (Step.codec trimmed).dump step = .obj (
      [("id", .str step.id), ("name", .str step.name),
        ("action", Action.codec.dump step.action)] ++
      (Part.optional "target" LocatorBundle.codec).dump step.target ++
      [("preconditions", Condition.codec.list.dump step.preconditions),
        ("postconditions", Condition.codec.list.dump step.postconditions),
        ("timeout_ms", .int step.timeoutMs),
        ("retry", RetryPolicy.codec.dump step.retry),
        ("recovery_refs", text.list.dump step.recoveryRefs),
        ("outcome_refs", text.list.dump step.outcomeRefs)] ++
      ((listed trimmed "failure_refs" text).dump step.failureRefs ++
      [("risk", .enum step.risk.value),
        ("evidence", EvidenceRequirement.codec.dump step.evidence)])) := by
  simp only [List.append_assoc]
  rfl

theorem Recovery.dump_eq (recovery : Recovery) :
    (Recovery.codec trimmed).dump recovery = .obj
      [("id", .str recovery.id),
        ("trigger", Condition.codec.dump recovery.trigger),
        ("max_uses", .int recovery.maxUses),
        ("steps", (Step.codec trimmed).list.dump recovery.steps),
        ("resume_at", .str recovery.resumeAt)] :=
  rfl

theorem Compatibility.dump_eq (compatibility : Compatibility) :
    (Compatibility.codec trimmed).dump compatibility = .obj (
      [("application_family", .str compatibility.applicationFamily),
        ("base_variant", .str compatibility.baseVariant),
        ("supported_variants",
          text.list.dump compatibility.supportedVariants),
        ("surface_contract", .str compatibility.surfaceContract),
        ("entry_point", .str compatibility.entryPoint)] ++
      ((cleared trimmed "rendered_surface").dump
        compatibility.renderedSurface ++
      [("fingerprint", surfaceFingerprint.dump
        (compatibility.requiredLandmarks,
          compatibility.forbiddenLandmarks))])) :=
  rfl

/-- `allowed_route_patterns` of a policy -/
def routePatterns : Part (List String) :=
  gathered trimmed "allowed_route_patterns" Rendering.members_nil

theorem CapabilityPolicy.dump_eq (policy : CapabilityPolicy) :
    (CapabilityPolicy.codec trimmed).dump policy = .obj (
      [("allowed_action_types", .set policy.allowedActionTypes),
        ("allowed_entry_points", .set policy.allowedEntryPoints),
        ("maximum_risk", .enum policy.maximumRisk.value)] ++
      ((routePatterns trimmed).dump policy.allowedRoutePatterns ++
      [("forbidden_text_inputs", text.list.dump policy.forbiddenTextInputs),
        ("output_redaction", .obj (policy.outputRedaction.mapValues
          OutputRedaction.codec.dump))])) :=
  rfl

theorem Provenance.dump_eq (provenance : Provenance) :
    Provenance.codec.dump provenance = .obj (
      [("discovery_run_id", .str provenance.discoveryRunId),
        ("provider", .str provenance.provider),
        ("model", .str provenance.model),
        ("prompt_policy_version", .str provenance.promptPolicyVersion),
        ("surface_adapter_version", .str provenance.surfaceAdapterVersion),
        ("compiler_version", .str provenance.compilerVersion),
        ("created_at", .stamp provenance.createdAt),
        ("target_fingerprint", .str provenance.targetFingerprint),
        ("evidence_manifest_key", .str provenance.evidenceManifestKey)] ++
      (Part.optional "artifact_content_hash" text).dump
        provenance.artifactContentHash) :=
  rfl

theorem CapabilityArtifact.dump_eq (artifact : CapabilityArtifact) :
    (CapabilityArtifact.codec trimmed).dump artifact = .obj (
      [("schema_version", .str "1.4"),
        ("capability", CapabilityMetadata.codec.dump artifact.capability),
        ("compatibility",
          (Compatibility.codec trimmed).dump artifact.compatibility),
        ("inputs", ObjectContract.codec.dump artifact.inputs),
        ("outputs", ObjectContract.codec.dump artifact.outputs),
        ("preconditions", Condition.codec.list.dump artifact.preconditions),
        ("steps", (Step.codec trimmed).list.dump artifact.steps),
        ("recoveries",
          (Recovery.codec trimmed).list.dump artifact.recoveries),
        ("outcomes", BusinessOutcome.codec.list.dump artifact.outcomes)] ++
      ((listed trimmed "failures" ApplicationFailure.codec).dump
        artifact.failures ++
      [("checkpoint", Checkpoint.codec.dump artifact.checkpoint),
        ("policy", (CapabilityPolicy.codec trimmed).dump artifact.policy),
        ("provenance", Provenance.codec.dump artifact.provenance)])) :=
  rfl

end Entries

namespace Json

variable {name : String} {before after : Dict Json} {json : Json}

theorem popEmpty_middle (early : name ∉ before.keys)
    (late : name ∉ after.keys) :
    popEmpty name (before ++ (name, json) :: after) =
      before ++ ((if json.isEmpty then [] else [(name, json)]) ++ after) := by
  rw [popEmpty, Dict.get?_middle early, Dict.erase_middle early late]
  split <;> simp_all

end Json

namespace Serializers

variable {serializers : Serializers} {α : Type} {name : String}
  {before after : Dict Tree}

theorem canonicalize_obj (fields : Dict Tree) :
    serializers.canonicalize (.obj fields) =
      .obj (fields.mapValues serializers.canonicalize) := by
  rw [canonicalize, canonicalizeFields_eq]

theorem canonicalize_arr (items : List Tree) :
    serializers.canonicalize (.arr items) =
      .arr (items.map serializers.canonicalize) := by
  rw [canonicalize, canonicalizeAll_eq]

/-- An empty entry is popped, as it is not written when it is hidden. -/
theorem popEmpty_lenient {codec : Codec α} {default : α}
    {legal : ∀ depth, codec.Legal depth default}
    {steady : ∀ rendering, codec.normal rendering default = default}
    {empty : ∀ value, (codec.dump value).isEmpty → value = default}
    {value : α} (early : name ∉ before.keys) (late : name ∉ after.keys) :
    Json.popEmpty name
        (Dict.mapValues serializers.canonicalize
          (before ++ ((lenient false name codec default legal steady
            empty).dump value ++ after))) =
      Dict.mapValues serializers.canonicalize
        (before ++ ((lenient true name codec default legal steady
          empty).dump value ++ after)) := by
  have early' : name ∉ (before.mapValues serializers.canonicalize).keys := by
    rwa [Dict.keys_mapValues]
  have late' : name ∉ (after.mapValues serializers.canonicalize).keys := by
    rwa [Dict.keys_mapValues]
  have popped := @Json.popEmpty_middle _ _ _
    (serializers.canonicalize (codec.dump value)) early' late'
  rw [isEmpty_canonicalize] at popped
  have written (hidden : Bool) : Dict.mapValues serializers.canonicalize
      ((lenient hidden name codec default legal steady empty).dump value) =
        if hidden && (codec.dump value).isEmpty then []
        else [(name, serializers.canonicalize (codec.dump value))] := by
    simp only [lenient]
    split <;> rfl
  simp only [Dict.mapValues_append, written, Bool.false_and, Bool.true_and]
  exact popped

theorem popEmpty_listed {codec : Codec α} {values : List α}
    (early : name ∉ before.keys) (late : name ∉ after.keys) :
    Json.popEmpty name
        (Dict.mapValues serializers.canonicalize
          (before ++ ((listed false name codec).dump values ++ after))) =
      Dict.mapValues serializers.canonicalize
        (before ++ ((listed true name codec).dump values ++ after)) :=
  popEmpty_lenient early late

theorem listed_cases (name : String) (codec : Codec α) (values : List α) :
    (listed true name codec).dump values = [] ∨
      ∃ tree, (listed true name codec).dump values = [(name, tree)] := by
  simp only [listed, lenient]
  split
  · exact .inl rfl
  · exact .inr ⟨_, rfl⟩

theorem trim_step (step : Step) :
    Json.inObject (Json.popEmpty "failure_refs")
        (serializers.canonicalize ((Step.codec false).dump step)) =
      serializers.canonicalize ((Step.codec true).dump step) := by
  rw [Step.dump_eq, Step.dump_eq, canonicalize_obj, canonicalize_obj,
    Json.inObject]
  refine congrArg Json.obj (popEmpty_listed ?_ ?_)
  · cases step.target <;> simp [Part.optional, Dict.keys]
  · simp [Dict.keys]

theorem trim_steps (steps : List Step) :
    trimSteps (serializers.canonicalize ((Step.codec false).list.dump steps)) =
      serializers.canonicalize ((Step.codec true).list.dump steps) := by
  have each : Json.inObject (Json.popEmpty "failure_refs") ∘
      serializers.canonicalize ∘ (Step.codec false).dump =
        serializers.canonicalize ∘ (Step.codec true).dump :=
    funext trim_step
  simp only [Codec.list, canonicalize_arr, trimSteps, Json.inItems,
    List.map_map, each]

theorem trim_recovery (recovery : Recovery) :
    Json.inObject (Json.inField "steps" trimSteps)
        (serializers.canonicalize ((Recovery.codec false).dump recovery)) =
      serializers.canonicalize ((Recovery.codec true).dump recovery) := by
  rw [Recovery.dump_eq, Recovery.dump_eq, canonicalize_obj, canonicalize_obj,
    Json.inObject]
  simp [Dict.mapValues, Json.inField, trim_steps]

theorem trim_recoveries (recoveries : List Recovery) :
    Json.inItems (Json.inObject (Json.inField "steps" trimSteps))
        (serializers.canonicalize
          ((Recovery.codec false).list.dump recoveries)) =
      serializers.canonicalize
        ((Recovery.codec true).list.dump recoveries) := by
  have each : Json.inObject (Json.inField "steps" trimSteps) ∘
      serializers.canonicalize ∘ (Recovery.codec false).dump =
        serializers.canonicalize ∘ (Recovery.codec true).dump :=
    funext trim_recovery
  simp only [Codec.list, canonicalize_arr, Json.inItems, List.map_map, each]

theorem trim_compatibility (compatibility : Compatibility) :
    Json.inObject (Json.popFalse "rendered_surface")
        (serializers.canonicalize
          ((Compatibility.codec false).dump compatibility)) =
      serializers.canonicalize
        ((Compatibility.codec true).dump compatibility) := by
  rw [Compatibility.dump_eq, Compatibility.dump_eq, canonicalize_obj,
    canonicalize_obj, Json.inObject]
  cases shown : compatibility.renderedSurface <;>
    simp [cleared, lenient, Codec.bool, Tree.isEmpty, Dict.mapValues,
      Json.popFalse, Dict.get?_cons, Dict.erase, canonicalize]

theorem trim_policy (policy : CapabilityPolicy) :
    Json.inObject (Json.popEmpty "allowed_route_patterns")
        (serializers.canonicalize
          ((CapabilityPolicy.codec false).dump policy)) =
      serializers.canonicalize
        ((CapabilityPolicy.codec true).dump policy) := by
  rw [CapabilityPolicy.dump_eq, CapabilityPolicy.dump_eq, canonicalize_obj,
    canonicalize_obj, Json.inObject]
  unfold routePatterns gathered
  refine congrArg Json.obj (popEmpty_lenient ?_ ?_)
  · simp [Dict.keys]
  · simp [Dict.keys]

theorem prune_provenance (provenance : Provenance) :
    Json.inObject (Dict.erase · "artifact_content_hash")
        (Json.pruneEmpty "visual_candidates"
          (serializers.canonicalize (Provenance.codec.dump provenance))) =
      Json.pruneEmpty "visual_candidates" (serializers.canonicalize
        (Provenance.codec.dump
          { provenance with artifactContentHash := none })) := by
  rw [Provenance.dump_eq, Provenance.dump_eq, canonicalize_obj,
    canonicalize_obj]
  cases provenance.artifactContentHash <;>
    simp [Part.optional, Codec.text, Dict.mapValues, canonicalize,
      Json.pruneEmpty, Json.pruneFields, Json.inObject, Dict.erase]

/-- The passes before the pruning leave out what the trimmed dump does. -/
theorem trim_artifact (artifact : CapabilityArtifact) :
    ∃ payload, serializers.canonicalize
        ((CapabilityArtifact.codec false).dump artifact) = .obj payload ∧
      removeHashNeutralSchemaDefaults payload =
        Json.pruneEmpty "visual_candidates" (serializers.canonicalize
          ((CapabilityArtifact.codec true).dump artifact)) := by
  refine ⟨_, by rw [CapabilityArtifact.dump_eq, canonicalize_obj], ?_⟩
  rw [CapabilityArtifact.dump_eq, canonicalize_obj,
    removeHashNeutralSchemaDefaults]
  rw [popEmpty_listed (by simp [Dict.keys]) (by simp [Dict.keys])]
  have compatibility := @trim_compatibility serializers artifact.compatibility
  have policy := @trim_policy serializers artifact.policy
  have steps := @trim_steps serializers artifact.steps
  have recoveries := @trim_recoveries serializers artifact.recoveries
  rcases listed_cases "failures" ApplicationFailure.codec
    artifact.failures with none | ⟨tree, some⟩
  · rw [none]
    simp [Json.inField, Dict.mapValues, compatibility, policy, steps,
      recoveries]
  · rw [some]
    simp [Json.inField, Dict.mapValues, compatibility, policy, steps,
      recoveries]

/-- The declared hash is taken out of the pruned payload. -/
theorem erase_contentHash (artifact : CapabilityArtifact) :
    Json.inObject
        (Json.inField "provenance"
          (Json.inObject (Dict.erase · "artifact_content_hash")))
        (Json.pruneEmpty "visual_candidates" (serializers.canonicalize
          ((CapabilityArtifact.codec true).dump artifact))) =
      Json.pruneEmpty "visual_candidates" (serializers.canonicalize
        ((CapabilityArtifact.codec true).dump artifact.withoutHash)) := by
  have provenance := @prune_provenance serializers artifact.provenance
  rw [CapabilityArtifact.dump_eq, CapabilityArtifact.dump_eq,
    canonicalize_obj, canonicalize_obj]
  rcases listed_cases "failures" ApplicationFailure.codec
    artifact.failures with none | ⟨tree, some⟩
  · simp [CapabilityArtifact.withoutHash, CapabilityArtifact.restamped, none,
      Dict.mapValues, Json.pruneEmpty, Json.pruneFields, Json.inObject,
      Json.inField, ← provenance]
  · simp [CapabilityArtifact.withoutHash, CapabilityArtifact.restamped, some,
      Dict.mapValues, Json.pruneEmpty, Json.pruneFields, Json.inObject,
      Json.inField, ← provenance]

/-- The encoded payload is a rendering of the trimmed dump. -/
theorem sortKeys_canonicalPayload (artifact : CapabilityArtifact) :
    (serializers.canonicalPayload artifact).sortKeys =
      serializers.canonicalRendering.render
        ((CapabilityArtifact.codec true).dump artifact.withoutHash) := by
  obtain ⟨payload, dumped, trimmed⟩ := @trim_artifact serializers artifact
  rw [canonicalPayload, dumped]
  simp only [trimmed]
  rw [erase_contentHash, sortKeys_canonicalize]

theorem artifactContentHash_withoutHash {artifact : CapabilityArtifact} :
    serializers.artifactContentHash artifact.withoutHash =
      serializers.artifactContentHash artifact := by
  simp only [artifactContentHash, canonicalArtifactJson,
    sortKeys_canonicalPayload]
  rfl

/-- The content hash does not depend on the declared one. -/
theorem artifactContentHash_restamped {artifact : CapabilityArtifact}
    (version : String) (contentHash : Option String) :
    serializers.artifactContentHash (artifact.restamped version contentHash) =
      serializers.artifactContentHash (artifact.restamped version none) := by
  rw [← artifactContentHash_withoutHash]
  rfl

end Serializers

end ReplayForge

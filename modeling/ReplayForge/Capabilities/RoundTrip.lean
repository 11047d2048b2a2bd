import ReplayForge.Capabilities.Samples
import ReplayForge.Capabilities.Serialization
import ReplayForge.Shared.JsonText

/-!
# The YAML round trip of an artifact

A dump drops no field that does not come back: loading the text that was dumped
from an accepted artifact gives the same artifact.
-/

namespace ReplayForge

/-- A rendering that leaves sets and dictionaries in their order. -/
structure Rendering.Plain (rendering : Rendering) : Prop where
  members : ∀ names, rendering.members names = names
  sorts : rendering.sorts = false

namespace Rendering.Plain

variable {rendering : Rendering} (plain : rendering.Plain)

include plain

theorem arrange {β : Type} (fields : Dict β) :
    rendering.arrange fields = fields := by
  simp [Rendering.arrange, plain.sorts]

theorem schema (schema : ValueSchema) :
    schema.arranged rendering = schema := by
  induction schema using ValueSchema.induct with
  | step schema ih =>
      cases schema with
      | mk type description dataClassification persistence required properties
          pattern format enum const minLength maxLength example_ =>
          have same : Dict.mapValues (ValueSchema.arranged rendering)
              properties = Dict.mapValues id properties :=
            Dict.mapValues_congr ih
          rw [ValueSchema.arranged, ValueSchema.arrangedProperties_eq, same,
            Dict.mapValues_id, plain.arrange]

theorem contract (contract : ObjectContract) :
    contract.arranged rendering = contract := by
  have same : ValueSchema.arranged rendering = id := funext plain.schema
  simp [ObjectContract.arranged, plain.arrange, same, Dict.mapValues_id]

theorem outcome (outcome : BusinessOutcome) :
    outcome.arranged rendering = outcome := by
  simp [BusinessOutcome.arranged, plain.arrange]

theorem policy (policy : CapabilityPolicy) :
    policy.arranged rendering = policy := by
  simp [CapabilityPolicy.arranged, plain.arrange, plain.members]

theorem artifact (artifact : CapabilityArtifact) :
    artifact.arranged rendering = artifact := by
  have outcomes : BusinessOutcome.arranged rendering = id :=
    funext plain.outcome
  simp [CapabilityArtifact.arranged, plain.contract, plain.policy, outcomes]

end Rendering.Plain

namespace Serializers

variable {serializers : Serializers} {host : Host} {raw : Json}
  {artifact : CapabilityArtifact}

theorem plain_jsonMode : serializers.jsonMode.Plain where
  members _ := rfl
  sorts := rfl

/-- What validation returns has been loaded, and passes its checks. -/
theorem modelValidate_eq_ok :
    serializers.modelValidate host raw = .ok artifact ↔
      (CapabilityArtifact.codec false).load serializers.reader raw =
        some artifact ∧ artifact.validate host = .ok () := by
  unfold modelValidate
  cases loaded : (CapabilityArtifact.codec false).load serializers.reader raw with
  | none => simp
  | some other =>
      simp only [Option.some.injEq]
      cases checked : other.validate host with
      | error raised =>
          constructor
          · intro bad
            cases bad
          · rintro ⟨rfl, good⟩
            rw [checked] at good
            cases good
      | ok _ =>
          constructor
          · intro same
            cases same
            exact ⟨rfl, checked⟩
          · rintro ⟨rfl, -⟩
            rfl

/-- The text of a value is read into the node tree of the value. -/
def YamlReads (serializers : Serializers) (json : Json) : Prop :=
  serializers.compose (serializers.safeDump json) =
    some (YamlNode.ofJson json)

/-- The payload of an artifact is a mapping. -/
theorem jsonPayload_eq_obj (serializers : Serializers)
    (artifact : CapabilityArtifact) :
    ∃ fields, serializers.jsonPayload artifact = .obj fields :=
  ⟨_, rfl⟩

/-- The payload of an accepted artifact is accepted as the same artifact. -/
theorem modelValidate_jsonPayload
    (scalars : serializers.jsonMode.ReadBy serializers.reader)
    (accepted : serializers.modelValidate host raw = .ok artifact) :
    serializers.modelValidate host (serializers.jsonPayload artifact) =
      .ok artifact := by
  obtain ⟨loaded, valid⟩ := modelValidate_eq_ok.mp accepted
  have legal := (CapabilityArtifact.codec false).sound loaded
  have spares : serializers.jsonMode.Spares
      (CapabilityArtifact.codec false).firm :=
    fun _ pruned => nomatch pruned
  have back := (CapabilityArtifact.codec false).reads scalars spares legal
  rw [CapabilityArtifact.normal_eq, plain_jsonMode.artifact] at back
  exact modelValidate_eq_ok.mpr ⟨back, valid⟩

/-- No key of the payload is written twice. -/
theorem distinct_jsonPayload
    (accepted : serializers.modelValidate host raw = .ok artifact) :
    (serializers.jsonPayload artifact).Distinct := by
  obtain ⟨loaded, -⟩ := modelValidate_eq_ok.mp accepted
  have legal := (CapabilityArtifact.codec false).sound loaded
  exact Rendering.distinct_render ((CapabilityArtifact.codec false).plain legal)

/-- What is dumped from an accepted artifact is loaded as that artifact, and
has its content hash. -/
theorem loadArtifactYaml_dumpArtifactYaml (serializers : Serializers)
    (host : Host) (raw : Json) (artifact : CapabilityArtifact)
    (scalars : serializers.jsonMode.ReadBy serializers.reader)
    (yaml : ∀ json, json.Distinct → serializers.YamlReads json)
    (accepted : serializers.modelValidate host raw = .ok artifact) :
    ∃ loaded, serializers.loadArtifactYaml host
        (serializers.dumpArtifactYaml artifact) = .ok loaded ∧
      loaded = artifact ∧
      serializers.artifactContentHash loaded =
        serializers.artifactContentHash artifact := by
  refine ⟨artifact, ?_, rfl, rfl⟩
  obtain ⟨fields, payload⟩ := serializers.jsonPayload_eq_obj artifact
  have distinct := distinct_jsonPayload accepted
  have composed := yaml _ distinct
  have constructed := YamlNode.construct_ofJson distinct
  have validated := modelValidate_jsonPayload scalars accepted
  unfold YamlReads at composed
  rw [loadArtifactYaml, dumpArtifactYaml, composed, Option.bind_some,
    constructed]
  rw [payload] at validated ⊢
  exact validated

end Serializers

namespace Sample

/-- Serializers that write JSON text for every purpose, and read timestamps
as they are written. -/
noncomputable def serializers : Serializers where
  reader := .exact (Function.partialInv Timestamp.canonical) 8
  stamp := Timestamp.canonical
  safeDump := Json.text
  compose text := (Function.partialInv Json.text text).map YamlNode.ofJson
  encode := Json.text
  encodeMember := Json.text
  digest text := "sha256:" ++ text

theorem serializers_reads :
    serializers.jsonMode.ReadBy serializers.reader :=
  Rendering.readBy_exact
    (Function.partialInv_left Timestamp.canonical_injective)

theorem serializers_yaml (json : Json) : serializers.YamlReads json := by
  unfold Serializers.YamlReads
  simp only [serializers, Function.partialInv_left Json.text_injective,
    Option.map_some]

/-- One payment. -/
def payment : CapabilityArtifact :=
  artifact { steps := [click "pay" "Pay"] }

/-- A reader for payloads with one timestamp. -/
def reader : Reader :=
  .exact (fun _ => some payment.provenance.createdAt) 8

def rendering : Rendering where
  stamp := Timestamp.canonical
  members names := names
  members_perm _ := .refl _
  sorts := false
  prunes := []

/-- An artifact that is read back from its own rendering is accepted. -/
theorem accepted_of_loaded {artifact : CapabilityArtifact}
    (loaded : (CapabilityArtifact.codec false).load reader
      (rendering.render ((CapabilityArtifact.codec false).dump artifact)) =
        some artifact) (valid : artifact.validate host = .ok ()) :
    serializers.modelValidate host (serializers.jsonPayload artifact) =
      .ok artifact := by
  have legal := (CapabilityArtifact.codec false).sound loaded
  have back := (CapabilityArtifact.codec false).reads serializers_reads
    (fun _ pruned => nomatch pruned) legal
  rw [CapabilityArtifact.normal_eq,
    Serializers.plain_jsonMode.artifact] at back
  exact Serializers.modelValidate_eq_ok.mpr ⟨back, valid⟩

set_option maxRecDepth 2000 in
theorem payment_accepted :
    serializers.modelValidate host (serializers.jsonPayload payment) =
      .ok payment :=
  accepted_of_loaded rfl (by decide +kernel)

theorem payment_round_trip :
    ∃ loaded, serializers.loadArtifactYaml host
        (serializers.dumpArtifactYaml payment) = .ok loaded ∧
      loaded = payment ∧
      serializers.artifactContentHash loaded =
        serializers.artifactContentHash payment :=
  Serializers.loadArtifactYaml_dumpArtifactYaml serializers host _ payment
    serializers_reads (fun json _ => serializers_yaml json) payment_accepted

end Sample

end ReplayForge

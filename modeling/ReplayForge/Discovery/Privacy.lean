import ReplayForge.Capabilities.CanonicalJson
import ReplayForge.Capabilities.RoundTrip
import ReplayForge.Evidence.Redaction
import ReplayForge.Policy.RouteAgreement

/-!
# Contract descriptions of a draft

Before a draft is returned, the descriptions of its contracts that repeat a
known private value are replaced, at every depth.  Nothing else of the artifact
changes but the content hash it declares.
-/

namespace ReplayForge

/-- The libraries the privacy checks call. -/
structure PrivacyLibraries where
  host : Host
  encoders : EvidenceEncoders
  serializers : Serializers
  /-- `artifact.model_dump_json()`, in UTF-8 -/
  modelDumpJson : CapabilityArtifact → Bytes

/-! ## Rewriting descriptions -/

namespace ValueSchema

mutual

/-- The schema with the description of every level rewritten. -/
def rewritten (rewrite : String → String) : ValueSchema → ValueSchema
  | ⟨type, description, dataClassification, persistence, required, properties,
      pattern, format, enum, const, minLength, maxLength, example_⟩ =>
      ⟨type, rewrite description, dataClassification, persistence, required,
        rewrittenProperties rewrite properties, pattern, format, enum, const,
        minLength, maxLength, example_⟩

def rewrittenProperties (rewrite : String → String) :
    List (String × ValueSchema) → Dict ValueSchema
  | [] => []
  | (name, schema) :: rest =>
      (name, schema.rewritten rewrite) :: rewrittenProperties rewrite rest

end

mutual

/-- The descriptions of every level, outermost first. -/
def descriptions : ValueSchema → List String
  | ⟨_, description, _, _, _, properties, _, _, _, _, _, _, _⟩ =>
      description :: descriptionsOf properties

def descriptionsOf : List (String × ValueSchema) → List String
  | [] => []
  | (_, schema) :: rest => schema.descriptions ++ descriptionsOf rest

end

mutual

theorem rewritten_rewritten (outer inner : String → String) :
    ∀ schema : ValueSchema, (schema.rewritten inner).rewritten outer =
      schema.rewritten (outer ∘ inner)
  | ⟨_, _, _, _, _, properties, _, _, _, _, _, _, _⟩ => by
      simp [rewritten, rewrittenProperties_rewritten outer inner properties]

theorem rewrittenProperties_rewritten (outer inner : String → String) :
    ∀ properties : List (String × ValueSchema),
      rewrittenProperties outer (rewrittenProperties inner properties) =
        rewrittenProperties (outer ∘ inner) properties
  | [] => rfl
  | (_, schema) :: rest => by
      simp [rewrittenProperties, rewritten_rewritten outer inner schema,
        rewrittenProperties_rewritten outer inner rest]

end

mutual

theorem descriptions_rewritten (rewrite : String → String) :
    ∀ schema : ValueSchema, (schema.rewritten rewrite).descriptions =
      schema.descriptions.map rewrite
  | ⟨_, _, _, _, _, properties, _, _, _, _, _, _, _⟩ => by
      simp [rewritten, descriptions,
        descriptionsOf_rewritten rewrite properties]

theorem descriptionsOf_rewritten (rewrite : String → String) :
    ∀ properties : List (String × ValueSchema),
      descriptionsOf (rewrittenProperties rewrite properties) =
        (descriptionsOf properties).map rewrite
  | [] => rfl
  | (_, schema) :: rest => by
      simp [rewrittenProperties, descriptionsOf,
        descriptions_rewritten rewrite schema,
        descriptionsOf_rewritten rewrite rest]

end

@[simp]
theorem dataClassification_rewritten (rewrite : String → String)
    (schema : ValueSchema) :
    (schema.rewritten rewrite).dataClassification =
      schema.dataClassification := by
  cases schema
  rfl

theorem get?_rewrittenProperties (rewrite : String → String)
    (properties : Dict ValueSchema) (name : String) :
    Dict.get? (rewrittenProperties rewrite properties) name =
      (properties.get? name).map (rewritten rewrite) := by
  induction properties with
  | nil => rfl
  | cons entry rest induction =>
      obtain ⟨stored, schema⟩ := entry
      rw [rewrittenProperties, Dict.get?_cons, Dict.get?_cons]
      by_cases same : name = stored
      · simp [same]
      · simp [same, induction]

end ValueSchema

namespace ObjectContract

def rewritten (rewrite : String → String) (contract : ObjectContract) :
    ObjectContract :=
  { contract with
    properties :=
      ValueSchema.rewrittenProperties rewrite contract.properties }

def descriptions (contract : ObjectContract) : List String :=
  ValueSchema.descriptionsOf contract.properties

theorem rewritten_rewritten (outer inner : String → String)
    (contract : ObjectContract) :
    (contract.rewritten inner).rewritten outer =
      contract.rewritten (outer ∘ inner) := by
  simp [rewritten, ValueSchema.rewrittenProperties_rewritten]

theorem descriptions_rewritten (rewrite : String → String)
    (contract : ObjectContract) :
    (contract.rewritten rewrite).descriptions =
      contract.descriptions.map rewrite :=
  ValueSchema.descriptionsOf_rewritten rewrite contract.properties

end ObjectContract

namespace CapabilityArtifact

/-- The artifact with the descriptions of its contracts rewritten. -/
def rewritten (rewrite : String → String) (artifact : CapabilityArtifact) :
    CapabilityArtifact :=
  { artifact with
    inputs := artifact.inputs.rewritten rewrite
    outputs := artifact.outputs.rewritten rewrite }

/-- What is left without the descriptions and the declared content hash. -/
def undescribed (artifact : CapabilityArtifact) : CapabilityArtifact :=
  (artifact.rewritten fun _ => "").withoutHash

theorem undescribed_rewritten (rewrite : String → String)
    (artifact : CapabilityArtifact) :
    (artifact.rewritten rewrite).undescribed = artifact.undescribed := by
  unfold undescribed
  simp only [rewritten, ObjectContract.rewritten_rewritten]
  rfl

end CapabilityArtifact

/-! ## Known values -/

inductive ValueOrigin where
  | invocation
  | captured
deriving DecidableEq, Repr

namespace Json

mutual

/-- The texts inside a value that are long enough to be looked for. -/
def knownStrings : Json → List String
  | .str value => if 4 ≤ (Text.strip value).length then [value] else []
  | .arr items => knownStringsAll items
  | .obj fields => knownStringsFields fields
  | _ => []

def knownStringsAll : List Json → List String
  | [] => []
  | item :: rest => knownStrings item ++ knownStringsAll rest

def knownStringsFields : List (String × Json) → List String
  | [] => []
  | (_, item) :: rest => knownStrings item ++ knownStringsFields rest

end

end Json

/-- The classifications of captured values that are private. -/
def privateClassifications : List DataClassification :=
  [.personal, .customerIdentifier, .financial]

/-- `_known_values` -/
def knownValues (artifact : CapabilityArtifact) (inputs outputs : Fields) :
    List (ValueOrigin × String) :=
  (Json.obj inputs).knownStrings.map (.invocation, ·) ++
    outputs.flatMap fun (name, value) =>
      match artifact.outputs.properties.get? name with
      | none => []
      | some schema =>
          if schema.dataClassification ∈ privateClassifications then
            value.knownStrings.map (.captured, ·)
          else []

/-! ## Redaction -/

def redactionMarker : String := "[REDACTED]"

namespace PrivacyLibraries

variable (libraries : PrivacyLibraries)

/-- The folded description contains a folded known value. -/
def repeats (known : List (ValueOrigin × String)) (description : String) :
    Bool :=
  known.any fun value => Text.containsText
    (libraries.host.casefold description) (libraries.host.casefold value.2)

/-- What `clean` makes of a description. -/
def cleanDescription (known : List (ValueOrigin × String))
    (description : String) : String :=
  if libraries.repeats known description then redactionMarker else description

/-- `redact_contract_descriptions` -/
def redactContractDescriptions (redactor : StructuredRedactor)
    (artifact : CapabilityArtifact) (inputs outputs : Fields) :
    Except Raised CapabilityArtifact := do
  redactor.scan libraries.encoders (libraries.modelDumpJson artifact)
  let known := knownValues artifact inputs outputs
  let cleaned := artifact.rewritten (libraries.cleanDescription known)
  if cleaned = artifact then
    return artifact
  else
    return cleaned.restamped cleaned.capability.version
      (some (libraries.serializers.artifactContentHash cleaned))

variable {libraries} {redactor : StructuredRedactor}
  {artifact cleaned : CapabilityArtifact} {inputs outputs : Fields}

theorem cleanDescription_twice (known : List (ValueOrigin × String)) :
    libraries.cleanDescription known ∘ libraries.cleanDescription known =
      libraries.cleanDescription known := by
  funext description
  unfold Function.comp cleanDescription
  split
  · split
    · rfl
    · rfl
  · rfl

/-- Rewriting keeps the classifications, and so the known values. -/
theorem knownValues_rewritten (rewrite : String → String)
    (artifact : CapabilityArtifact) (inputs outputs : Fields) :
    knownValues (artifact.rewritten rewrite) inputs outputs =
      knownValues artifact inputs outputs := by
  unfold knownValues
  apply congrArg
  apply List.flatMap_congr
  intro entry _
  obtain ⟨name, value⟩ := entry
  simp only [CapabilityArtifact.rewritten, ObjectContract.rewritten,
    ValueSchema.get?_rewrittenProperties]
  cases artifact.outputs.properties.get? name with
  | none => rfl
  | some schema => simp

/-- The two ways to return. -/
theorem redactContractDescriptions_eq_ok :
    libraries.redactContractDescriptions redactor artifact inputs outputs =
        .ok cleaned ↔
      redactor.scan libraries.encoders (libraries.modelDumpJson artifact) =
          .ok () ∧
        ((artifact.rewritten (libraries.cleanDescription
            (knownValues artifact inputs outputs)) = artifact ∧
            cleaned = artifact) ∨
          (artifact.rewritten (libraries.cleanDescription
              (knownValues artifact inputs outputs)) ≠ artifact ∧
            cleaned = (artifact.rewritten (libraries.cleanDescription
              (knownValues artifact inputs outputs))).restamped
                artifact.capability.version
                (some (libraries.serializers.artifactContentHash
                  (artifact.rewritten (libraries.cleanDescription
                    (knownValues artifact inputs outputs))))))) := by
  unfold redactContractDescriptions
  rw [check_bind_eq_ok]
  apply and_congr_right
  intro _
  dsimp only
  split
  next same => simp [same, pure, Except.pure, eq_comm]
  next different =>
    simp only [different, false_and, false_or, ne_eq, not_false_eq_true,
      true_and, pure, Except.pure, Except.ok.injEq]
    exact eq_comm

/-- A known value occurs in the description, both folded. -/
def Repeats (libraries : PrivacyLibraries)
    (known : List (ValueOrigin × String)) (description : String) : Prop :=
  ∃ value ∈ known, (libraries.host.casefold value.2).toList <:+:
    (libraries.host.casefold description).toList

theorem repeats_iff {known : List (ValueOrigin × String)}
    {description : String} :
    libraries.repeats known description = true ↔
      libraries.Repeats known description := by
  unfold repeats Repeats
  rw [List.any_eq_true]
  simp only [Text.containsText_iff]

/-- A description that repeats a known value is replaced, another is kept. -/
structure CleansTo (libraries : PrivacyLibraries)
    (known : List (ValueOrigin × String)) (before after : String) :
    Prop where
  replaced : libraries.Repeats known before → after = redactionMarker
  kept : ¬libraries.Repeats known before → after = before

theorem cleansTo_cleanDescription (known : List (ValueOrigin × String))
    (description : String) :
    libraries.CleansTo known description
      (libraries.cleanDescription known description) := by
  unfold cleanDescription
  constructor
  · intro repeats
    rw [if_pos (repeats_iff.mpr repeats)]
  · intro unknown
    rw [if_neg fun repeats => unknown (repeats_iff.mp repeats)]

theorem cleansTo_map (known : List (ValueOrigin × String))
    (descriptions : List String) :
    List.Forall₂ (libraries.CleansTo known) descriptions
      (descriptions.map (libraries.cleanDescription known)) := by
  induction descriptions with
  | nil => exact .nil
  | cons description rest induction =>
      exact .cons (cleansTo_cleanDescription known description) induction

/-- What a redaction may change, and how. -/
structure Redacts (libraries : PrivacyLibraries)
    (redactor : StructuredRedactor) (artifact : CapabilityArtifact)
    (inputs outputs : Fields) (cleaned : CapabilityArtifact) : Prop where
  frame : cleaned.undescribed = artifact.undescribed
  inputDescriptions : List.Forall₂
    (libraries.CleansTo (knownValues artifact inputs outputs))
    artifact.inputs.descriptions cleaned.inputs.descriptions
  outputDescriptions : List.Forall₂
    (libraries.CleansTo (knownValues artifact inputs outputs))
    artifact.outputs.descriptions cleaned.outputs.descriptions
  hash : cleaned ≠ artifact → cleaned.provenance.artifactContentHash =
    some (libraries.serializers.artifactContentHash cleaned)
  /-- Once more, only the guard can refuse. -/
  twice : libraries.redactContractDescriptions redactor cleaned inputs outputs =
    (redactor.scan libraries.encoders
      (libraries.modelDumpJson cleaned)).map fun _ => cleaned

/-- A redacted artifact has nothing left to rewrite. -/
theorem redact_settled
    (settled : cleaned.rewritten (libraries.cleanDescription
      (knownValues cleaned inputs outputs)) = cleaned) :
    libraries.redactContractDescriptions redactor cleaned inputs outputs =
      (redactor.scan libraries.encoders
        (libraries.modelDumpJson cleaned)).map fun _ => cleaned := by
  unfold redactContractDescriptions
  dsimp only
  rw [if_pos settled]
  cases redactor.scan libraries.encoders (libraries.modelDumpJson cleaned) with
  | error reason => rfl
  | ok passed => rfl

/-- Rewriting does not see the declared hash. -/
theorem rewritten_restamped (rewrite : String → String)
    (artifact : CapabilityArtifact) (version : String)
    (contentHash : Option String) :
    (artifact.restamped version contentHash).rewritten rewrite =
      (artifact.rewritten rewrite).restamped version contentHash := rfl

theorem rewritten_twice (known : List (ValueOrigin × String))
    (artifact : CapabilityArtifact) :
    (artifact.rewritten (libraries.cleanDescription known)).rewritten
        (libraries.cleanDescription known) =
      artifact.rewritten (libraries.cleanDescription known) := by
  unfold CapabilityArtifact.rewritten
  simp only [ObjectContract.rewritten_rewritten, cleanDescription_twice]

theorem redactContractDescriptions_redacts
    (returned : libraries.redactContractDescriptions redactor artifact inputs
      outputs = .ok cleaned) :
    libraries.Redacts redactor artifact inputs outputs cleaned := by
  obtain ⟨-, ⟨settled, rfl⟩ | ⟨different, rfl⟩⟩ :=
    redactContractDescriptions_eq_ok.mp returned
  · have inputSame := congrArg (·.inputs.descriptions) settled
    have outputSame := congrArg (·.outputs.descriptions) settled
    simp only [CapabilityArtifact.rewritten,
      ObjectContract.descriptions_rewritten] at inputSame outputSame
    constructor
    case frame => rfl
    case inputDescriptions =>
      have each := @cleansTo_map libraries (knownValues cleaned inputs outputs)
        cleaned.inputs.descriptions
      rw [inputSame] at each
      exact each
    case outputDescriptions =>
      have each := @cleansTo_map libraries (knownValues cleaned inputs outputs)
        cleaned.outputs.descriptions
      rw [outputSame] at each
      exact each
    case hash => exact fun changed => absurd rfl changed
    case twice => exact redact_settled settled
  · clear different returned
    generalize known : knownValues artifact inputs outputs = values
    constructor
    case frame => exact CapabilityArtifact.undescribed_rewritten _ artifact
    case inputDescriptions =>
      rw [known]
      exact (ObjectContract.descriptions_rewritten _ _) ▸ cleansTo_map values _
    case outputDescriptions =>
      rw [known]
      exact (ObjectContract.descriptions_rewritten _ _) ▸ cleansTo_map values _
    case hash =>
      intro _
      rw [Serializers.artifactContentHash_restamped]
      exact congrArg some Serializers.artifactContentHash_withoutHash.symm
    case twice =>
      apply redact_settled
      rw [rewritten_restamped]
      have same : knownValues ((artifact.rewritten
          (libraries.cleanDescription values)).restamped
            artifact.capability.version (some
              (libraries.serializers.artifactContentHash (artifact.rewritten
                (libraries.cleanDescription values))))) inputs outputs =
          values :=
        (knownValues_rewritten _ artifact inputs outputs).trans known
      rw [same, rewritten_twice]

end PrivacyLibraries

namespace Sample

/-- The encoding of a text of ASCII characters. -/
def asciiBytes (chars : List Char) : Bytes :=
  chars.map fun char => UInt8.ofNat char.toNat

/-- Texts without tokens, searched byte by byte. -/
noncomputable def privacyLibraries : PrivacyLibraries where
  host := host
  encoders := {
    stamp := Timestamp.canonical
    compact := fun json => asciiBytes json.chars
    ascii := fun json => asciiBytes json.chars
    indented := fun json => asciiBytes json.chars
    hmacSha256 := fun _ _ => ""
    tokenFound := fun _ => false
    occursIn := fun secret content =>
      content.tails.any (asciiBytes secret.toList).isPrefixOf
    zipped := fun content => content }
  serializers := serializers
  modelDumpJson := fun artifact =>
    asciiBytes (serializers.jsonPayload artifact).chars

/-- The secret is a part of the marker. -/
def markerRedactor : StructuredRedactor where
  configuredSecrets := ["REDACTED"]
  pseudonymKey := []

/-- The value repeats the description of an input. -/
def identifierInputs : Fields :=
  [("customer", .str "identifier")]

theorem payment_redacted :
    ((privacyLibraries.redactContractDescriptions markerRedactor payment
        identifierInputs []).toOption.map fun cleaned =>
          (cleaned.inputs.descriptions,
            (privacyLibraries.redactContractDescriptions markerRedactor cleaned
              identifierInputs []).toOption.isSome)) =
      some (["[REDACTED]"], false) := by
  decide +kernel

theorem payment_cleaned : ∃ cleaned,
    privacyLibraries.redactContractDescriptions markerRedactor payment
        identifierInputs [] = .ok cleaned ∧
      (cleaned.inputs.descriptions,
        (privacyLibraries.redactContractDescriptions markerRedactor cleaned
          identifierInputs []).toOption.isSome) = (["[REDACTED]"], false) :=
  exists_ok_of_map payment_redacted

/-- The marker trips the guard of the second redaction. -/
theorem payment_redacted_once : ∃ cleaned,
    privacyLibraries.redactContractDescriptions markerRedactor payment
        identifierInputs [] = .ok cleaned ∧
      privacyLibraries.redactContractDescriptions markerRedactor cleaned
        identifierInputs [] ≠ .ok cleaned := by
  obtain ⟨cleaned, returned, shown⟩ := payment_cleaned
  refine ⟨cleaned, returned, ?_⟩
  intro again
  rw [again] at shown
  simp [Except.toOption] at shown

theorem payment_redacts : ∃ cleaned,
    privacyLibraries.redactContractDescriptions markerRedactor payment
        identifierInputs [] = .ok cleaned ∧
      privacyLibraries.Redacts markerRedactor payment identifierInputs []
        cleaned := by
  obtain ⟨cleaned, returned, -⟩ := payment_cleaned
  exact ⟨cleaned, returned,
    PrivacyLibraries.redactContractDescriptions_redacts returned⟩

end Sample

end ReplayForge

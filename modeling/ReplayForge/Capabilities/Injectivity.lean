import ReplayForge.Capabilities.CanonicalJson
import ReplayForge.Capabilities.RoundTrip

/-!
# Equal canonical texts

Two accepted artifacts have the same canonical text exactly when they are
equal as values, apart from the content hash they declare.
-/

namespace ReplayForge

open Codec ReplayForge.Part

namespace Dict

/-- Two views of the same entries, when one view decides the other. -/
theorem mapValues_determined {β γ δ : Type} {view : β → γ} {other : β → δ}
    {first second : Dict β}
    (decides : ∀ entry ∈ first, ∀ value, view entry.2 = view value →
      other entry.2 = other value)
    (same : mapValues view first = mapValues view second) :
    mapValues other first = mapValues other second := by
  induction first generalizing second with
  | nil =>
      cases second with
      | nil => rfl
      | cons entry rest => cases same
  | cons entry rest ih =>
      cases second with
      | nil => cases same
      | cons entry' rest' =>
          simp only [mapValues, List.map_cons, List.cons.injEq,
            Prod.mk.injEq] at same ih ⊢
          obtain ⟨⟨name, here⟩, later⟩ := same
          exact ⟨⟨name, decides entry List.mem_cons_self _ here⟩,
            ih (fun entry member => decides entry (.tail _ member)) later⟩

end Dict

namespace Rendering

variable {rendering : Rendering} {name : String} {tree : Tree}

theorem renderFields_append (first second : Dict Tree) :
    rendering.renderFields (first ++ second) =
      rendering.renderFields first ++ rendering.renderFields second := by
  simp only [renderFields_eq, kept, List.filter_append,
    Dict.mapValues_append]

theorem renderFields_cons (spared : name ∉ rendering.prunes)
    (rest : Dict Tree) :
    rendering.renderFields ((name, tree) :: rest) =
      (name, rendering.render tree) :: rendering.renderFields rest := by
  simp [renderFields, drops, spared]

/-- An entry may be exchanged for one that is written alike. -/
theorem render_exchange {before after : Dict Tree} {other : Tree}
    (spared : name ∉ rendering.prunes)
    (same : rendering.render tree = rendering.render other) :
    rendering.render (.obj (before ++ (name, tree) :: after)) =
      rendering.render (.obj (before ++ (name, other) :: after)) := by
  simp only [render, renderFields_append, renderFields_cons spared, same]

/-- The entries of a dictionary whose values are never empty. -/
theorem render_solid {β : Type} {dump : β → Tree}
    (solid : ∀ value, (dump value).isEmpty = false) (dict : Dict β) :
    rendering.render (.obj (dict.mapValues dump)) =
      .obj ((rendering.arrange dict).mapValues (rendering.render ∘ dump)) := by
  have whole : rendering.kept (dict.mapValues dump) = dict.mapValues dump := by
    refine List.filter_eq_self.mpr fun entry member => ?_
    obtain ⟨source, -, rfl⟩ := List.mem_map.mp member
    simp [drops, solid]
  rw [render, renderFields_eq, whole, Dict.mapValues_mapValues,
    arrange_mapValues]

/-- Lists whose items are written alike. -/
theorem render_list {α β : Type} {codec : Codec α} {view : α → β}
    (decides : ∀ {value other : α}, view value = view other →
      rendering.render (codec.dump value) =
        rendering.render (codec.dump other)) :
    ∀ {first second : List α}, first.map view = second.map view →
      rendering.render (codec.list.dump first) =
        rendering.render (codec.list.dump second) := by
  intro first second same
  simp only [Codec.list, render, renderAll_eq_map, List.map_map]
  refine congrArg Json.arr ?_
  induction first generalizing second with
  | nil =>
      cases second with
      | nil => rfl
      | cons item rest => cases same
  | cons item rest ih =>
      cases second with
      | nil => cases same
      | cons item' rest' =>
          simp only [List.map_cons, List.cons.injEq] at same ⊢
          exact ⟨decides same.1, ih same.2⟩

end Rendering

namespace ValueSchema

theorem sortedProperties_eq (properties : Dict ValueSchema) :
    sortedProperties properties = properties.mapValues sorted := by
  induction properties with
  | nil => rfl
  | cons entry rest ih => simp [sortedProperties, Dict.mapValues, ih]

/-- The entries of a dump around the properties. -/
theorem dump_around (schema : ValueSchema) :
    ∃ before after, ∀ properties : Dict ValueSchema,
      dump { schema with properties := properties } =
        .obj (before ++
          ("properties", .obj (properties.mapValues dump)) :: after) := by
  cases schema with
  | mk type description dataClassification persistence names _ pattern format
      enum const minLength maxLength example_ =>
      refine ⟨[("type", .enum type.value), ("description", .str description),
          ("data_classification", .enum dataClassification.value),
          ("persistence", .enum persistence.value),
          ("required", .arr (names.map .str))],
        ("additional_properties", .bool false) ::
          ((optional "pattern" text).dump pattern ++
          (optional "format" ValueFormat.codec).dump format ++
          [("enum", .arr (enum.map Scalar.dump))] ++
          (optional "const" Scalar.codec).dump const ++
          (optional "min_length" nat).dump minLength ++
          (optional "max_length" nat).dump maxLength ++
          (optional "example" Scalar.codec).dump example_),
        fun properties => ?_⟩
      simp only [dump, dumpProperties_eq, List.append_assoc, List.cons_append,
        List.nil_append]

end ValueSchema

/-- A rendering that sorts the entries and the members of a set, and prunes
visual candidates only. -/
structure Rendering.Sorting (rendering : Rendering) : Prop where
  sorts : rendering.sorts = true
  members : ∀ {first second}, first.Perm second →
    rendering.members first = rendering.members second
  spares : ∀ {name}, name ≠ "visual_candidates" → name ∉ rendering.prunes

namespace Rendering.Sorting

variable {rendering : Rendering} (sorting : rendering.Sorting)

include sorting

theorem arrange {β : Type} (fields : Dict β) :
    rendering.arrange fields = fields.sorted := by
  simp [Rendering.arrange, sorting.sorts]

theorem schema (schema : ValueSchema) :
    schema.arranged rendering = schema.sorted := by
  induction schema using ValueSchema.induct with
  | step schema ih =>
      cases schema with
      | mk type description dataClassification persistence required properties
          pattern format enum const minLength maxLength example_ =>
          have same : Dict.mapValues (ValueSchema.arranged rendering)
              properties = Dict.mapValues ValueSchema.sorted properties :=
            Dict.mapValues_congr ih
          rw [ValueSchema.arranged, ValueSchema.sorted,
            ValueSchema.arrangedProperties_eq, ValueSchema.sortedProperties_eq,
            same, sorting.arrange]

theorem contract (contract : ObjectContract) :
    contract.arranged rendering = contract.sorted := by
  have same : ValueSchema.arranged rendering = ValueSchema.sorted :=
    funext sorting.schema
  simp only [ObjectContract.arranged, ObjectContract.sorted, sorting.arrange,
    same, ValueSchema.sortedProperties_eq, Dict.sorted_mapValues]

theorem outcome (outcome : BusinessOutcome) :
    outcome.arranged rendering = outcome.sorted := by
  simp only [BusinessOutcome.arranged, BusinessOutcome.sorted, sorting.arrange]

/-- Both orders of a set forget the same. -/
theorem members_eq_iff (first second : List String) :
    rendering.members first = rendering.members second ↔
      first.insertionSort (· ≤ ·) = second.insertionSort (· ≤ ·) := by
  have total : Std.Total fun first second : String => first ≤ second :=
    ⟨String.le_total⟩
  have trans : IsTrans String fun first second => first ≤ second :=
    ⟨fun _ _ _ => String.le_trans⟩
  constructor
  · intro same
    have perm : first.Perm second := by
      have middle := rendering.members_perm first
      rw [same] at middle
      exact middle.symm.trans (rendering.members_perm second)
    have shuffled : (first.insertionSort (· ≤ ·)).Perm
        (second.insertionSort (· ≤ ·)) :=
      (List.perm_insertionSort _ first).trans
        (perm.trans (List.perm_insertionSort _ second).symm)
    refine List.Perm.eq_of_pairwise ?_
      (List.pairwise_insertionSort _ first)
      (List.pairwise_insertionSort _ second) shuffled
    intro a b _ _ below above
    exact String.le_antisymm below above
  · intro same
    have middle := List.perm_insertionSort (· ≤ ·) first
    rw [same] at middle
    exact sorting.members
      (middle.symm.trans (List.perm_insertionSort _ second))

theorem policy_eq_iff (first second : CapabilityPolicy) :
    first.arranged rendering = second.arranged rendering ↔
      first.sorted = second.sorted := by
  simp only [CapabilityPolicy.arranged, CapabilityPolicy.sorted,
    CapabilityPolicy.mk.injEq, sorting.arrange, sorting.members_eq_iff]

theorem artifact_eq_iff (first second : CapabilityArtifact) :
    first.arranged rendering = second.arranged rendering ↔
      first.sorted = second.sorted := by
  have outcomes : BusinessOutcome.arranged rendering =
      BusinessOutcome.sorted := funext sorting.outcome
  simp only [CapabilityArtifact.arranged, CapabilityArtifact.sorted,
    CapabilityArtifact.mk.injEq, sorting.contract, outcomes,
    sorting.policy_eq_iff]

theorem render_entries (fields : Dict Tree) :
    rendering.render (.obj fields) =
      .obj (Dict.sorted (rendering.renderFields fields)) := by
  rw [render, sorting.arrange]

/-- An entry that is no list of visual candidates is written. -/
theorem renderFields_other {name : String}
    (other : name ≠ "visual_candidates") (tree : Tree) (rest : Dict Tree) :
    rendering.renderFields ((name, tree) :: rest) =
      (name, rendering.render tree) :: rendering.renderFields rest :=
  renderFields_cons (sorting.spares other) rest

/-- Dictionaries whose values are written alike. -/
theorem render_dict {β γ : Type} {dump : β → Tree} {view : β → γ}
    {first second : Dict β} (solid : ∀ value, (dump value).isEmpty = false)
    (decides : ∀ entry ∈ first, ∀ value, view entry.2 = view value →
      rendering.render (dump entry.2) = rendering.render (dump value))
    (same : Dict.mapValues view first.sorted =
      Dict.mapValues view second.sorted) :
    rendering.render (.obj (first.mapValues dump)) =
      rendering.render (.obj (second.mapValues dump)) := by
  have written : Dict.mapValues (rendering.render ∘ dump) first.sorted =
      Dict.mapValues (rendering.render ∘ dump) second.sorted :=
    Dict.mapValues_determined
      (fun entry member => decides entry (Dict.mem_sorted.mp member)) same
  rw [render_solid solid, render_solid solid, sorting.arrange,
    sorting.arrange, written]

theorem render_sorted {β : Type} {dump : β → Tree} {first second : Dict β}
    (solid : ∀ value, (dump value).isEmpty = false)
    (same : first.sorted = second.sorted) :
    rendering.render (.obj (first.mapValues dump)) =
      rendering.render (.obj (second.mapValues dump)) := by
  rw [render_solid solid, render_solid solid, sorting.arrange,
    sorting.arrange, same]

theorem render_set {first second : List String}
    (same : first.insertionSort (· ≤ ·) = second.insertionSort (· ≤ ·)) :
    rendering.render (.set first) = rendering.render (.set second) := by
  rw [render, render, (sorting.members_eq_iff first second).mpr same]

/-- Equal schemas are written alike. -/
theorem render_schema (schema : ValueSchema) :
    ∀ other : ValueSchema, schema.sorted = other.sorted →
      rendering.render schema.dump = rendering.render other.dump := by
  induction schema using ValueSchema.induct with
  | step schema ih =>
      intro other same
      cases schema with
      | mk type description dataClassification persistence required properties
          pattern format enum const minLength maxLength example_ =>
          cases other with
          | mk type' description' dataClassification' persistence' required'
              properties' pattern' format' enum' const' minLength' maxLength'
              example_' =>
              simp only [ValueSchema.sorted, ValueSchema.sortedProperties_eq,
                Dict.sorted_mapValues, ValueSchema.mk.injEq] at same
              obtain ⟨rfl, rfl, rfl, rfl, rfl, nested, rfl, rfl, rfl, rfl, rfl,
                rfl, rfl⟩ := same
              let whole : ValueSchema := ⟨type, description,
                dataClassification, persistence, required, [], pattern,
                format, enum, const, minLength, maxLength, example_⟩
              obtain ⟨before, after, around⟩ := whole.dump_around
              have dumped := around properties
              have dumped' := around properties'
              simp only [whole] at dumped dumped'
              rw [dumped, dumped']
              apply render_exchange (sorting.spares (by decide))
              exact sorting.render_dict ValueSchema.dump_solid ih nested

theorem render_contract {first second : ObjectContract}
    (same : first.sorted = second.sorted) :
    rendering.render (ObjectContract.codec.dump first) =
      rendering.render (ObjectContract.codec.dump second) := by
  simp only [ObjectContract.sorted, ValueSchema.sortedProperties_eq,
    Dict.sorted_mapValues, ObjectContract.mk.injEq] at same
  obtain ⟨required, nested⟩ := same
  have dumped (contract : ObjectContract) :
      ObjectContract.codec.dump contract = .obj (
        [("type", .enum "object"), ("additional_properties", .bool false),
          ("required", text.list.dump contract.required)] ++
        [("properties",
          .obj (contract.properties.mapValues ValueSchema.dump))]) := rfl
  rw [dumped, dumped, required]
  apply render_exchange (sorting.spares (by decide))
  exact sorting.render_dict ValueSchema.dump_solid
    (fun entry _ => sorting.render_schema entry.2) nested

theorem render_outcome {first second : BusinessOutcome}
    (same : first.sorted = second.sorted) :
    rendering.render (BusinessOutcome.codec.dump first) =
      rendering.render (BusinessOutcome.codec.dump second) := by
  simp only [BusinessOutcome.sorted, BusinessOutcome.mk.injEq] at same
  obtain ⟨code, description, detect, after, details⟩ := same
  have dumped (outcome : BusinessOutcome) :
      BusinessOutcome.codec.dump outcome = .obj (
        [("code", .str outcome.code), ("description", .str outcome.description),
          ("detect", Condition.codec.dump outcome.detect),
          ("allowed_after_steps", text.list.dump outcome.allowedAfterSteps)] ++
        [("result", .obj ([("status", .str "business_outcome")] ++
          [("details", .obj (outcome.details.mapValues
            ValueSource.codec.dump))]))]) := rfl
  rw [dumped, dumped, code, description, detect, after]
  apply render_exchange (sorting.spares (by decide))
  apply render_exchange (sorting.spares (by decide))
  exact sorting.render_sorted ValueSource.dump_solid details

theorem render_routePatterns {first second : List String}
    (same : first.insertionSort (· ≤ ·) = second.insertionSort (· ≤ ·)) :
    rendering.renderFields ((routePatterns true).dump first) =
      rendering.renderFields ((routePatterns true).dump second) := by
  have perm : first.Perm second := by
    have middle := List.perm_insertionSort (· ≤ ·) first
    rw [same] at middle
    exact middle.symm.trans (List.perm_insertionSort _ second)
  have size := perm.length_eq
  have written := sorting.render_set same
  have spared : "allowed_route_patterns" ∉ rendering.prunes :=
    sorting.spares (by decide)
  have dumped (names : List String) : (routePatterns true).dump names =
      if names.isEmpty then [] else
        [("allowed_route_patterns", .set names)] := rfl
  rw [dumped, dumped]
  cases first with
  | nil =>
      rw [List.nil_perm.mp perm]
  | cons name rest =>
      cases second with
      | nil => cases size
      | cons name' rest' =>
          simp only [List.isEmpty_cons, Bool.false_eq_true, if_false,
            renderFields_cons spared, written]

theorem render_policy {first second : CapabilityPolicy}
    (same : first.sorted = second.sorted) :
    rendering.render ((CapabilityPolicy.codec true).dump first) =
      rendering.render ((CapabilityPolicy.codec true).dump second) := by
  simp only [CapabilityPolicy.sorted, CapabilityPolicy.mk.injEq] at same
  obtain ⟨actions, entries, risk, patterns, forbidden, redaction⟩ := same
  rw [CapabilityPolicy.dump_eq, CapabilityPolicy.dump_eq, risk, forbidden,
    sorting.render_entries, sorting.render_entries]
  simp only [List.cons_append, List.nil_append, renderFields_append,
    sorting.renderFields_other, ne_eq, String.reduceEq, not_false_eq_true,
    sorting.render_set actions, sorting.render_set entries,
    sorting.render_routePatterns patterns,
    sorting.render_sorted OutputRedaction.dump_solid redaction]

theorem render_artifact {first second : CapabilityArtifact}
    (same : first.sorted = second.sorted) :
    rendering.render ((CapabilityArtifact.codec true).dump first) =
      rendering.render ((CapabilityArtifact.codec true).dump second) := by
  simp only [CapabilityArtifact.sorted, CapabilityArtifact.mk.injEq] at same
  obtain ⟨capability, compatibility, inputs, outputs, preconditions, steps,
    recoveries, outcomes, failures, checkpoint, policy, provenance⟩ := same
  rw [CapabilityArtifact.dump_eq, CapabilityArtifact.dump_eq, capability,
    compatibility, preconditions, steps, recoveries, failures, checkpoint,
    provenance, sorting.render_entries, sorting.render_entries]
  simp only [List.cons_append, List.nil_append, renderFields_append,
    sorting.renderFields_other, ne_eq, String.reduceEq, not_false_eq_true,
    sorting.render_contract inputs, sorting.render_contract outputs,
    render_list sorting.render_outcome outcomes,
    sorting.render_policy policy]

end Rendering.Sorting

theorem CapabilityMetadata.legal_version {depth : Nat}
    {capability : CapabilityMetadata} {version : String}
    (legal : codec.Legal depth capability)
    (clean : Text.isStripped version) :
    codec.Legal depth { capability with version := version } := by
  obtain ⟨⟨id, _, rest⟩, rfl, legalId, -, later⟩ := legal
  exact ⟨⟨id, version, rest⟩, rfl, legalId, clean, later⟩

theorem Provenance.legal_contentHash {depth : Nat} {provenance : Provenance}
    {contentHash : Option String} (legal : codec.Legal depth provenance)
    (clean : ∀ held ∈ contentHash, Text.isStripped held) :
    codec.Legal depth
      { provenance with artifactContentHash := contentHash } := by
  obtain ⟨⟨run, provider, model, prompt, adapter, compiler, created, target,
    manifest, _⟩, rfl, legal₁, legal₂, legal₃, legal₄, legal₅, legal₆, legal₇,
    legal₈, legal₉, -⟩ := legal
  exact ⟨⟨run, provider, model, prompt, adapter, compiler, created, target,
    manifest, contentHash⟩, rfl, legal₁, legal₂, legal₃, legal₄, legal₅,
    legal₆, legal₇, legal₈, legal₉, clean⟩

namespace CapabilityArtifact

variable {trimmed hidden : Bool} {depth : Nat} {artifact : CapabilityArtifact}

/-- A restamped artifact can be loaded when its stamps are clean. -/
theorem legal_restamped {version : String} {contentHash : Option String}
    (legal : (codec trimmed).Legal depth artifact)
    (clean : Text.isStripped version)
    (clean' : ∀ held ∈ contentHash, Text.isStripped held) :
    (codec hidden).Legal depth (artifact.restamped version contentHash) := by
  obtain ⟨⟨_, capability, compatibility, inputs, outputs, preconditions, steps,
    recoveries, outcomes, failures, checkpoint, policy, provenance⟩, rfl,
    legal₀, legal₁, legal₂, legal₃, legal₄, legal₅, legal₆, legal₇, legal₈,
    legal₉, legal₁₀, legal₁₁, legal₁₂⟩ := legal
  exact ⟨⟨(), { capability with version := version }, compatibility, inputs,
    outputs, preconditions, steps, recoveries, outcomes, failures, checkpoint,
    policy, { provenance with artifactContentHash := contentHash }⟩, rfl,
    legal₀, CapabilityMetadata.legal_version legal₁ clean, legal₂, legal₃,
    legal₄, legal₅, legal₆, legal₇, legal₈, legal₉, legal₁₀, legal₁₁,
    Provenance.legal_contentHash legal₁₂ clean'⟩

theorem isStripped_version (legal : (codec trimmed).Legal depth artifact) :
    Text.isStripped artifact.capability.version := by
  obtain ⟨⟨_, capability, _⟩, rfl, -, legal, -⟩ := legal
  obtain ⟨⟨_, _, _⟩, rfl, -, clean, -⟩ := legal
  exact clean

theorem legal_withoutHash (legal : (codec trimmed).Legal depth artifact) :
    (codec hidden).Legal depth artifact.withoutHash :=
  legal_restamped legal (isStripped_version legal) (fun _ held => nomatch held)

/-- The only name that is pruned may be left out of every dump. -/
theorem visualCandidates_loose :
    "visual_candidates" ∉ (codec true).firm := by
  decide +kernel

end CapabilityArtifact

namespace Serializers

variable {serializers : Serializers} {host : Host}

theorem sorting_canonicalRendering
    (encodes : Function.Injective serializers.encodeMember) :
    serializers.canonicalRendering.Sorting where
  sorts := rfl
  members {first second} same := by
    let key (member : String) := serializers.encodeMember (.str member)
    have total : Std.Total fun first second => key first ≤ key second :=
      ⟨fun _ _ => String.le_total _ _⟩
    have trans : IsTrans String fun first second => key first ≤ key second :=
      ⟨fun _ _ _ => String.le_trans⟩
    have shuffled : (serializers.sortMembers first).Perm
        (serializers.sortMembers second) :=
      (serializers.perm_sortMembers first).trans
        (same.trans (serializers.perm_sortMembers second).symm)
    refine List.Perm.eq_of_pairwise ?_
      (List.pairwise_insertionSort (fun a b => key a ≤ key b) first)
      (List.pairwise_insertionSort (fun a b => key a ≤ key b) second) shuffled
    intro a b _ _ below above
    exact Json.str.inj (encodes (String.le_antisymm below above))
  spares other pruned := other (List.mem_singleton.mp pruned)

/-- The reader for canonical renderings. -/
noncomputable def canonicalReader (depth : Nat) : Reader :=
  .exact (Function.partialInv Timestamp.canonical) depth

/-- The canonical rendering is read back up to its arrangement. -/
theorem load_canonicalRendering {depth : Nat} {artifact : CapabilityArtifact}
    (legal : (CapabilityArtifact.codec true).Legal depth artifact) :
    (CapabilityArtifact.codec true).load (canonicalReader depth)
        (serializers.canonicalRendering.render
          ((CapabilityArtifact.codec true).dump artifact)) =
      some (artifact.arranged serializers.canonicalRendering) := by
  have read : serializers.canonicalRendering.ReadBy (canonicalReader depth) :=
    Rendering.readBy_exact
      (Function.partialInv_left Timestamp.canonical_injective)
  have spares : serializers.canonicalRendering.Spares
      (CapabilityArtifact.codec true).firm := by
    intro name pruned
    rw [List.mem_singleton.mp pruned]
    exact CapabilityArtifact.visualCandidates_loose
  have same : (canonicalReader depth).depth = depth := rfl
  rw [← same] at legal
  rw [(CapabilityArtifact.codec true).reads read spares legal,
    CapabilityArtifact.normal_eq]

theorem legal_of_accepted {raw : Json} {artifact : CapabilityArtifact}
    (accepted : serializers.modelValidate host raw = .ok artifact) :
    (CapabilityArtifact.codec true).Legal serializers.reader.depth
      artifact.withoutHash :=
  CapabilityArtifact.legal_withoutHash
    ((CapabilityArtifact.codec false).sound
      (modelValidate_eq_ok.mp accepted).1)

/-- Two accepted artifacts have one canonical text exactly when they are equal
apart from the content hash they declare. -/
theorem canonicalArtifactJson_eq_iff (serializers : Serializers) (host : Host)
    (raw raw' : Json) (first second : CapabilityArtifact)
    (encodes : Function.Injective serializers.encode)
    (encodesMember : Function.Injective serializers.encodeMember)
    (accepted : serializers.modelValidate host raw = .ok first)
    (accepted' : serializers.modelValidate host raw' = .ok second) :
    serializers.canonicalArtifactJson first =
        serializers.canonicalArtifactJson second ↔
      first.withoutHash.sorted = second.withoutHash.sorted := by
  have sorting := sorting_canonicalRendering encodesMember
  have legal := legal_of_accepted accepted
  have legal' := legal_of_accepted accepted'
  simp only [canonicalArtifactJson, encodes.eq_iff, sortKeys_canonicalPayload]
  constructor
  · intro same
    have back := @load_canonicalRendering serializers _ _ legal
    rw [same, load_canonicalRendering legal', Option.some.injEq] at back
    exact (sorting.artifact_eq_iff _ _).mp back.symm
  · exact sorting.render_artifact

end Serializers

namespace Sample

/-- The payment with a declared hash. -/
def stampedPayment : CapabilityArtifact :=
  payment.restamped "1.0.0"
    ("sha256:" ++ String.ofList (List.replicate 64 '0'))

set_option maxRecDepth 2000 in
theorem stampedPayment_accepted :
    serializers.modelValidate host (serializers.jsonPayload stampedPayment) =
      .ok stampedPayment :=
  accepted_of_loaded rfl (by decide +kernel)

theorem stampedPayment_same_text :
    serializers.canonicalArtifactJson payment =
      serializers.canonicalArtifactJson stampedPayment :=
  (Serializers.canonicalArtifactJson_eq_iff serializers host _ _ payment
    stampedPayment Json.text_injective Json.text_injective payment_accepted
    stampedPayment_accepted).mpr rfl

end Sample

end ReplayForge

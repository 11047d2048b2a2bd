import ReplayForge.Capabilities.CanonicalJson
import ReplayForge.Capabilities.Injectivity
import ReplayForge.Capabilities.RegistryWrites

/-!
# The next version of a capability

The candidate that `publish_next` makes from an accepted artifact is accepted
itself, declares its own content hash and has a version above every stored one.
-/

namespace ReplayForge

section Stamping

theorem isStripped_of_hexAfter {count : Nat} {text : String}
    (fits : Pattern.hexAfter "sha256:" count text = true) :
    Text.isStripped text = true := by
  simp only [Pattern.hexAfter, Text.hasPrefix, Bool.and_eq_true,
    List.isPrefixOf_iff_prefix, decide_eq_true_eq, List.all_eq_true] at fits
  obtain ⟨⟨rest, shape⟩, -, digits⟩ := fits
  apply isStripped_of_solid
  rw [← shape] at digits ⊢
  rw [List.drop_left] at digits
  intro char member
  rcases List.mem_append.mp member with early | late
  · have solid : "sha256:".toList.all (!Text.isSpace ·) = true := by
      decide +kernel
    simpa using List.all_eq_true.mp solid char early
  · have hex := digits char late
    unfold Pattern.hex at hex
    rcases Bool.or_eq_true _ _ |>.mp hex with digit | letter
    · exact not_isSpace_of_digit digit
    · have lower : Pattern.lower char = true := by
        have small : 'f' ≤ 'z' := by decide
        simp only [Pattern.lower, Bool.and_eq_true, decide_eq_true_eq] at letter ⊢
        exact ⟨letter.1, Char.le_trans letter.2 small⟩
      exact Text.not_isSpace_of_lower lower

theorem validate_restamped {host : Host} {artifact : CapabilityArtifact}
    {version : String} {contentHash : Option String}
    (valid : artifact.validate host = .ok ())
    (fits : Pattern.semanticVersion version = true)
    (hashed : contentHash.all (Pattern.hexAfter "sha256:" 64) = true) :
    (artifact.restamped version contentHash).validate host = .ok () := by
  have semantics :
      (artifact.restamped version contentHash).validateSemantics =
        artifact.validateSemantics := rfl
  unfold CapabilityArtifact.validate at valid ⊢
  rw [semantics]
  simp only [check_bind_eq_ok, CapabilityArtifact.restamped,
    CapabilityMetadata.validate, Provenance.validate, require_eq_ok] at valid ⊢
  obtain ⟨⟨id, -, metadata⟩, compatibility, inputs, outputs, preconditions,
    filled, steps, recoveries, outcomes, failures, checkpoint, policy,
    ⟨run, provider, model, prompt, adapter, compiler, target, manifest, -,
      offset⟩, checks⟩ := valid
  exact ⟨⟨id, fits, metadata⟩, compatibility, inputs, outputs, preconditions,
    filled, steps, recoveries, outcomes, failures, checkpoint, policy,
    ⟨run, provider, model, prompt, adapter, compiler, target, manifest, hashed,
      offset⟩, checks⟩

namespace Serializers

variable {serializers : Serializers} {host : Host}
  {artifact : CapabilityArtifact}

/-- An accepted artifact is accepted under other stamps. -/
theorem Accepted.restamped
    (scalars : serializers.jsonMode.ReadBy serializers.reader)
    (accepted : serializers.Accepted host artifact) {version : String}
    {contentHash : Option String}
    (fits : Pattern.semanticVersion version = true)
    (hashed : contentHash.all (Pattern.hexAfter "sha256:" 64) = true) :
    serializers.Accepted host (artifact.restamped version contentHash) := by
  obtain ⟨raw, accepted⟩ := accepted
  obtain ⟨loaded, valid⟩ := modelValidate_eq_ok.mp accepted
  have clean : ∀ held ∈ contentHash, Text.isStripped held := by
    intro held member
    rw [Option.mem_def.mp member] at hashed
    exact isStripped_of_hexAfter hashed
  have legal : (CapabilityArtifact.codec false).Legal serializers.reader.depth
      (artifact.restamped version contentHash) :=
    CapabilityArtifact.legal_restamped
      ((CapabilityArtifact.codec false).sound loaded)
      (isStripped_of_semanticVersion fits) clean
  have spares : serializers.jsonMode.Spares
      (CapabilityArtifact.codec false).firm :=
    fun _ pruned => nomatch pruned
  have back := (CapabilityArtifact.codec false).reads scalars spares legal
  rw [CapabilityArtifact.normal_eq, plain_jsonMode.artifact] at back
  exact ⟨serializers.jsonPayload (artifact.restamped version contentHash),
    modelValidate_eq_ok.mpr ⟨back, validate_restamped valid fits hashed⟩⟩

theorem artifactContentHash_stamped (version : String) :
    serializers.artifactContentHash (serializers.stamped artifact version) =
      serializers.artifactContentHash (artifact.restamped version none) :=
  artifactContentHash_restamped version _

theorem declaredHash_stamped (version : String) :
    serializers.declaredHash (serializers.stamped artifact version) =
      .ok (serializers.artifactContentHash
        (serializers.stamped artifact version)) := by
  unfold declaredHash
  dsimp only
  rw [if_pos]
  rw [artifactContentHash_stamped]
  simp [stamped, CapabilityArtifact.restamped]

end Serializers

end Stamping

section Numbers

/-- The next version is above every registered one and not below the proposed
one. -/
theorem le_nextVersion (proposed : SemanticVersion)
    (registered : List SemanticVersion) :
    proposed ≤ nextVersion proposed registered ∧
      ∀ version ∈ registered, version < nextVersion proposed registered := by
  unfold nextVersion
  cases largest : registered.maximum with
  | bot =>
      rw [List.maximum_eq_bot] at largest
      subst largest
      exact ⟨le_refl _, fun _ member => nomatch member⟩
  | coe latest =>
      refine ⟨le_max_left _ _, fun version member => ?_⟩
      have below : version ≤ latest := List.le_maximum_of_mem member largest
      exact lt_of_le_of_lt below
        (lt_of_lt_of_le latest.lt_nextPatch (le_max_right _ _))

/-- The next version depends on the set of registered versions only. -/
theorem nextVersion_congr (proposed : SemanticVersion)
    {first second : List SemanticVersion}
    (same : ∀ version, version ∈ first ↔ version ∈ second) :
    nextVersion proposed first = nextVersion proposed second := by
  have largest : first.maximum = second.maximum := by
    apply le_antisymm
    · exact List.maximum_mono fun version member => (same version).mp member
    · exact List.maximum_mono fun version member => (same version).mpr member
  unfold nextVersion
  rw [largest]

namespace LocalCapabilityRegistry

variable {registry : LocalCapabilityRegistry} {files : Files}
  {artifact candidate : CapabilityArtifact}
  {existing : List CapabilityVersionRecord}

/-- What was read to make the candidate. -/
structure Numbers (registry : LocalCapabilityRegistry)
    (artifact : CapabilityArtifact) (existing : List CapabilityVersionRecord)
    (candidate : CapabilityArtifact) : Prop where
  proposed : ∃ proposed number, ∃ registered : List SemanticVersion,
    semanticVersion artifact.capability.version = .ok proposed ∧
    List.Forall₂ (fun record number =>
      semanticVersion record.artifact.capability.version = .ok number)
      existing registered ∧
    number = nextVersion proposed registered ∧
    semanticVersion candidate.capability.version = .ok number ∧
    number.text = .ok candidate.capability.version
  candidate : candidate =
    registry.serializers.stamped artifact candidate.capability.version

theorem nextArtifact_eq_ok :
    registry.nextArtifact artifact existing = .ok candidate →
      registry.Numbers artifact existing candidate := by
  unfold nextArtifact
  intro made
  obtain ⟨proposed, read, made⟩ := bind_eq_ok.mp made
  obtain ⟨registered, all, made⟩ := bind_eq_ok.mp made
  obtain ⟨version, written, made⟩ := bind_eq_ok.mp made
  cases made
  exact ⟨⟨proposed, _, registered, read, mapM_eq_ok.mp all, rfl,
    (semanticVersion_text written).2.2, written⟩, rfl⟩

theorem Numbers.pattern
    (numbers : registry.Numbers artifact existing candidate) :
    Pattern.semanticVersion candidate.capability.version = true ∧
      isConvertible candidate.capability.version = true := by
  obtain ⟨_, _, _, _, _, _, _, written⟩ := numbers.proposed
  exact ⟨(semanticVersion_text written).1, (semanticVersion_text written).2.1⟩

theorem Numbers.accepted (faithful : registry.Faithful)
    (numbers : registry.Numbers artifact existing candidate)
    (accepted : registry.serializers.Accepted registry.host artifact) :
    registry.serializers.Accepted registry.host candidate := by
  rw [numbers.candidate]
  exact accepted.restamped faithful.scalars numbers.pattern.1
    (faithful.digests _)

theorem Numbers.id (numbers : registry.Numbers artifact existing candidate) :
    candidate.capability.id = artifact.capability.id := by
  rw [numbers.candidate]
  rfl

/-- The candidate's version is above the version of every record. -/
theorem Numbers.above
    (numbers : registry.Numbers artifact existing candidate)
    {record : CapabilityVersionRecord} (member : record ∈ existing) :
    ∃ old new, semanticVersion record.artifact.capability.version = .ok old ∧
      semanticVersion candidate.capability.version = .ok new ∧ old < new := by
  obtain ⟨proposed, number, registered, read, all, rfl, reads, -⟩ :=
    numbers.proposed
  obtain ⟨old, inside, same⟩ := exists_right all member
  exact ⟨old, _, same, reads, (le_nextVersion proposed registered).2 old inside⟩

/-- No file has the name of the candidate. -/
theorem Numbers.fresh (listed : registry.Listed files artifact.capability.id
      existing)
    (numbers : registry.Numbers artifact existing candidate) :
    files.lookup candidate.key = none := by
  by_contra present
  obtain ⟨versions, lists, all⟩ := listed
  have member := (lists.2 candidate.capability.version).mpr (by
    rw [← numbers.id]
    exact present)
  obtain ⟨record, inside, file, stored, -, stores, rfl⟩ :=
    exists_right all member
  obtain ⟨old, new, reads, reads', below⟩ := numbers.above inside
  have same : stored.capability.version = candidate.capability.version :=
    congrArg Prod.snd stores.key
  change semanticVersion stored.capability.version = .ok old at reads
  rw [same, reads', Except.ok.injEq] at reads
  exact absurd below (by simp [reads])

theorem Numbers.declared
    (numbers : registry.Numbers artifact existing candidate) :
    registry.serializers.declaredHash candidate =
      .ok (registry.serializers.artifactContentHash candidate) := by
  rw [numbers.candidate]
  exact Serializers.declaredHash_stamped _

end LocalCapabilityRegistry

end Numbers

end ReplayForge

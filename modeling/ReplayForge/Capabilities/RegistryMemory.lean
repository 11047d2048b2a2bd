import ReplayForge.Capabilities.RegistryNext
import ReplayForge.Capabilities.RegistryRules

/-!
# The registry in memory

Each call takes the lock once, so that the calls of several threads are
answered one after the other.
-/

namespace ReplayForge

/-- The artifacts of a call are validated ones. -/
def RegistryCall.Accepted (serializers : Serializers) (host : Host)
    (call : RegistryCall) : Prop :=
  ∀ artifact, call.artifact? = some artifact →
    serializers.Accepted host artifact

/-- A version that `publish` accepts can be compared. -/
def RegistryCall.Convertible (serializers : Serializers) (call : RegistryCall) :
    Prop :=
  ∀ artifact contentHash, call = .publish artifact →
    serializers.declaredHash artifact = .ok contentHash →
    isConvertible artifact.capability.version = true

/-- Publishing under a pair that can be read changes nothing. -/
def Republishes (serializers : Serializers)
    (before after : CapabilityKey → CapabilityVersionRecord → Prop)
    (artifact : CapabilityArtifact) (result : Except Raised RegistryAnswer) :
    Prop :=
  ∀ record contentHash, before artifact.key record →
    serializers.declaredHash artifact = .ok contentHash →
    after = before ∧
      (record.contentHash = contentHash → result = .ok (.record record)) ∧
      (record.contentHash ≠ contentHash → result = .error .capabilityConflict)

/-- Another content can be read under the pair of an artifact. -/
def Conflicts (serializers : Serializers)
    (before : CapabilityKey → CapabilityVersionRecord → Prop)
    (artifact : CapabilityArtifact) : Prop :=
  ∃ record contentHash, before artifact.key record ∧
    serializers.declaredHash artifact = .ok contentHash ∧
    record.contentHash ≠ contentHash

/-- What a call has to do, given what can be read before and after it. -/
def RegistryCall.Owes (serializers : Serializers)
    (before after : CapabilityKey → CapabilityVersionRecord → Prop) :
    RegistryCall → Except Raised RegistryAnswer → Prop
  | .publish artifact, .ok answer =>
      Republishes serializers before after artifact (.ok answer) ∧
      ∃ record, answer = .record record ∧
        serializers.declaredHash artifact = .ok record.contentHash ∧
        after artifact.key record
  | .publish artifact, .error reason =>
      Republishes serializers before after artifact (.error reason) ∧
      after = before ∧ (serializers.declaredHash artifact = .error reason ∨
        reason = .capabilityConflict ∧ Conflicts serializers before artifact)
  | .publishNext artifact, .ok answer => ∃ record, answer = .record record ∧
      IsAbove before artifact record.artifact.key ∧
      record.artifact =
        serializers.stamped artifact record.artifact.capability.version ∧
      after record.artifact.key record
  | .publishNext artifact, .error reason =>
      after = before ∧ NoNext before artifact reason
  | .get capabilityId version, .ok answer => after = before ∧
      ∃ record, answer = .record record ∧
        ∀ stored, before (capabilityId, version) stored ↔ stored = record
  | .get capabilityId version, .error reason => after = before ∧
      reason = .capabilityNotFound ∧
      ∀ record, ¬ before (capabilityId, version) record
  | .versions capabilityId, .ok answer => after = before ∧
      ∃ records, answer = .records records ∧ records.Pairwise Descends ∧
        ∀ record, record ∈ records ↔
          ∃ version, before (capabilityId, version) record
  | .latest capabilityId, .ok answer => after = before ∧
      ∃ record, answer = .record record ∧
        IsLatest before capabilityId record
  | .versions capabilityId, .error reason
  | .latest capabilityId, .error reason => after = before ∧
      reason = .capabilityNotFound ∧
      ∀ version record, ¬ before (capabilityId, version) record

/-- A call and the time at which it is answered. -/
structure TimedCall where
  call : RegistryCall
  now : Timestamp

namespace InMemoryCapabilityRegistry

variable (serializers : Serializers)

def respond (registry : InMemoryCapabilityRegistry) (now : Timestamp) :
    RegistryCall → Except Raised RegistryAnswer × InMemoryCapabilityRegistry
  | .publish artifact =>
      match registry.publish serializers now artifact with
      | .ok (record, after) => (.ok (.record record), after)
      | .error reason => (.error reason, registry)
  | .publishNext artifact =>
      match registry.publishNext serializers now artifact with
      | .ok (record, after) => (.ok (.record record), after)
      | .error reason => (.error reason, registry)
  | .get capabilityId version =>
      ((registry.get capabilityId version).map .record, registry)
  | .versions capabilityId =>
      ((registry.versions capabilityId).map .records, registry)
  | .latest capabilityId =>
      ((registry.latest capabilityId).map .record, registry)

/-- The registry after some calls. -/
def after (registry : InMemoryCapabilityRegistry) (calls : List TimedCall) :
    InMemoryCapabilityRegistry :=
  calls.foldl (fun registry timed =>
    (registry.respond serializers timed.now timed.call).2) registry

/-- A record can be read under a pair. -/
def Holds (registry : InMemoryCapabilityRegistry) (path : CapabilityKey)
    (record : CapabilityVersionRecord) : Prop :=
  registry.records.lookup path = some record

/-- Every record is stored under its own pair, with its content hash. -/
def Sound (registry : InMemoryCapabilityRegistry) : Prop :=
  ∀ path record, registry.Holds path record → record.artifact.key = path ∧
    record.contentHash = serializers.artifactContentHash record.artifact

/-- Every stored version can be compared. -/
def Numbered (registry : InMemoryCapabilityRegistry) : Prop :=
  ∀ path record, registry.Holds path record →
    ∃ number, semanticVersion path.2 = .ok number

variable {serializers} {registry next : InMemoryCapabilityRegistry}
  {artifact : CapabilityArtifact} {record : CapabilityVersionRecord}
  {now : Timestamp} {path : CapabilityKey} {capabilityId version : String}

theorem mem_entries {entry : Sigma fun _ : CapabilityKey =>
      CapabilityVersionRecord} :
    entry ∈ registry.records.entries ↔ registry.Holds entry.1 entry.2 :=
  (List.mem_dlookup_iff registry.records.nodupKeys).symm

theorem mem_recordsOf : record ∈ registry.recordsOf capabilityId ↔
    ∃ version, registry.Holds (capabilityId, version) record := by
  simp only [recordsOf, List.mem_filterMap, Option.ite_none_right_eq_some,
    Option.some.injEq, mem_entries]
  constructor
  · rintro ⟨⟨⟨id, version⟩, stored⟩, held, rfl, rfl⟩
    exact ⟨version, held⟩
  · rintro ⟨version, held⟩
    exact ⟨⟨(capabilityId, version), record⟩, held, rfl, rfl⟩

theorem mem_registeredVersions :
    version ∈ registry.registeredVersions capabilityId ↔
      ∃ record, registry.Holds (capabilityId, version) record := by
  simp only [registeredVersions, List.mem_filterMap,
    Option.ite_none_right_eq_some, Option.some.injEq]
  constructor
  · rintro ⟨⟨id, version⟩, member, rfl, rfl⟩
    rw [← AList.mem_keys, ← AList.lookup_isSome] at member
    exact Option.isSome_iff_exists.mp member
  · rintro ⟨record, held⟩
    refine ⟨(capabilityId, version), ?_, rfl, rfl⟩
    rw [← AList.mem_keys, ← AList.lookup_isSome]
    exact Option.isSome_iff_exists.mpr ⟨record, held⟩

theorem nodup_registeredVersions :
    (registry.registeredVersions capabilityId).Nodup := by
  refine List.Nodup.filterMap ?_ registry.records.keys_nodup
  intro first second version inside inside'
  simp only [Option.mem_def, Option.ite_none_right_eq_some,
    Option.some.injEq] at inside inside'
  exact Prod.ext (inside.1.trans inside'.1.symm)
    (inside.2.trans inside'.2.symm)

/-- The records of a capability have its registered versions. -/
theorem versions_recordsOf (sound : registry.Sound serializers) :
    (registry.recordsOf capabilityId).map
        (·.artifact.capability.version) =
      registry.registeredVersions capabilityId := by
  unfold recordsOf registeredVersions AList.keys List.keys
  rw [List.map_filterMap, List.filterMap_map]
  apply List.filterMap_congr
  intro entry member
  obtain ⟨key, -⟩ := sound _ _ (mem_entries.mp member)
  have version : entry.2.artifact.capability.version = entry.1.2 :=
    congrArg Prod.snd key
  by_cases same : entry.1.1 = capabilityId
  · simp [same, version]
  · simp [same]

/-- What is added beside the stored records. -/
theorem holds_insert (free : registry.records.lookup path = none)
    {other : CapabilityKey} {found : CapabilityVersionRecord} :
    (InMemoryCapabilityRegistry.mk (registry.records.insert path record)).Holds
        other found ↔
      (other = path ∧ found = record) ∨ registry.Holds other found := by
  unfold Holds
  by_cases same : other = path
  · subst same
    simp [AList.lookup_insert, free, eq_comm]
  · simp [AList.lookup_insert_ne same, same]

section Publishing

theorem publish_existing {existing : CapabilityVersionRecord}
    {contentHash : String}
    (declared : serializers.declaredHash artifact = .ok contentHash)
    (held : registry.Holds artifact.key existing) :
    registry.publish serializers now artifact =
      if existing.contentHash ≠ contentHash then .error .capabilityConflict
      else .ok (existing, registry) := by
  unfold Holds at held
  unfold publish
  rw [declared]
  simp only [bind, Except.bind, held]

theorem publish_undeclared {reason : Raised}
    (undeclared : serializers.declaredHash artifact = .error reason) :
    registry.publish serializers now artifact = .error reason := by
  unfold publish
  rw [undeclared]
  rfl

theorem publish_free {contentHash : String}
    (declared : serializers.declaredHash artifact = .ok contentHash)
    (free : registry.records.lookup artifact.key = none) :
    registry.publish serializers now artifact =
      .ok ({ artifact, contentHash, publishedAt := now },
        ⟨registry.records.insert artifact.key
          { artifact, contentHash, publishedAt := now }⟩) := by
  unfold publish
  rw [declared]
  simp only [bind, Except.bind, free]

/-- A new record is stored under a pair that was free. -/
structure Adds (serializers : Serializers)
    (registry : InMemoryCapabilityRegistry)
    (record : CapabilityVersionRecord) (next : InMemoryCapabilityRegistry) :
    Prop where
  free : registry.records.lookup record.artifact.key = none
  next : next = ⟨registry.records.insert record.artifact.key record⟩
  hash : record.contentHash = serializers.artifactContentHash record.artifact

theorem publish_eq_ok :
    registry.publish serializers now artifact = .ok (record, next) →
      (next = registry ∧ registry.Holds artifact.key record) ∨
        (record.artifact = artifact ∧
          serializers.declaredHash artifact = .ok record.contentHash ∧
          Adds serializers registry record next) := by
  intro published
  obtain ⟨contentHash, declared, published⟩ := bind_eq_ok.mp published
  cases held : registry.records.lookup artifact.key with
  | some existing =>
      rw [held] at published
      dsimp only at published
      split at published
      · cases published
      · cases published
        exact .inl ⟨rfl, held⟩
  | none =>
      rw [held] at published
      cases published
      exact .inr ⟨rfl, declared, held, rfl,
        LocalCapabilityRegistry.declaredHash_ok declared⟩

theorem publishNext_eq_ok :
    registry.publishNext serializers now artifact = .ok (record, next) →
      IsAbove registry.Holds artifact record.artifact.key ∧
        record.artifact =
          serializers.stamped artifact record.artifact.capability.version ∧
        Adds serializers registry record next := by
  intro published
  obtain ⟨registered, read, published⟩ := bind_eq_ok.mp published
  obtain ⟨proposed, reads, published⟩ := bind_eq_ok.mp published
  obtain ⟨version, written, published⟩ := bind_eq_ok.mp published
  cases published
  have all := mapM_eq_ok.mp read
  have numbers := (semanticVersion_text written).2.2
  obtain ⟨least, above⟩ := le_nextVersion proposed registered
  have below (version' : String) (other : CapabilityVersionRecord)
      (held : registry.Holds (artifact.capability.id, version') other) :
      ∃ below, semanticVersion version' = .ok below ∧
        below < nextVersion proposed registered := by
    obtain ⟨number, inside, same⟩ :=
      exists_right all (mem_registeredVersions.mpr ⟨other, held⟩)
    exact ⟨number, same, above number inside⟩
  refine ⟨⟨rfl, _, proposed, numbers, reads, least, below⟩, rfl, ?_, rfl, ?_⟩
  · -- The new pair is free, as its version is above all stored ones.
    apply Option.eq_none_iff_forall_ne_some.mpr
    intro other held
    obtain ⟨number, same, under⟩ := below version other held
    rw [numbers, Except.ok.injEq] at same
    exact absurd under (by simp [same])
  · exact (Serializers.artifactContentHash_stamped version).symm

theorem Adds.holds (adds : Adds serializers registry record next)
    {other : CapabilityKey} {found : CapabilityVersionRecord} :
    next.Holds other found ↔
      (other = record.artifact.key ∧ found = record) ∨
        registry.Holds other found := by
  rw [adds.next]
  exact holds_insert adds.free

theorem Adds.sound (adds : Adds serializers registry record next)
    (sound : registry.Sound serializers) : next.Sound serializers := by
  intro path found held
  rcases adds.holds.mp held with ⟨rfl, rfl⟩ | earlier
  · exact ⟨rfl, adds.hash⟩
  · exact sound path found earlier

end Publishing

/-- A call leaves the registry as it is, or adds a record to it. -/
theorem respond_cases (registry : InMemoryCapabilityRegistry)
    (timed : TimedCall) :
    (registry.respond serializers timed.now timed.call).2 = registry ∨
      ∃ record, (timed.call = .publish record.artifact ∧
            serializers.declaredHash record.artifact = .ok record.contentHash ∨
          ∃ artifact, timed.call = .publishNext artifact ∧
            IsAbove registry.Holds artifact record.artifact.key) ∧
        Adds serializers registry record
          (registry.respond serializers timed.now timed.call).2 := by
  obtain ⟨call, now⟩ := timed
  cases call with
  | publish artifact =>
      cases published : registry.publish serializers now artifact with
      | error reason => exact .inl (by simp [respond, published])
      | ok pair =>
          obtain ⟨record, next⟩ := pair
          simp only [respond, published]
          rcases publish_eq_ok published with ⟨rfl, -⟩ | ⟨rfl, declared, adds⟩
          · exact .inl rfl
          · exact .inr ⟨record, .inl ⟨rfl, declared⟩, adds⟩
  | publishNext artifact =>
      cases published : registry.publishNext serializers now artifact with
      | error reason => exact .inl (by simp [respond, published])
      | ok pair =>
          obtain ⟨record, next⟩ := pair
          simp only [respond, published]
          obtain ⟨above, -, adds⟩ := publishNext_eq_ok published
          exact .inr ⟨record, .inr ⟨artifact, rfl, above⟩, adds⟩
  | get | versions | latest => exact .inl rfl

theorem respond_kept (timed : TimedCall) (held : registry.Holds path record) :
    (registry.respond serializers timed.now timed.call).2.Holds path record := by
  rcases respond_cases registry timed with same | ⟨_, -, adds⟩
  · rw [same]
    exact held
  · exact adds.holds.mpr (.inr held)

theorem respond_sound (timed : TimedCall)
    (sound : registry.Sound serializers) :
    (registry.respond serializers timed.now timed.call).2.Sound serializers := by
  rcases respond_cases registry timed with same | ⟨_, -, adds⟩
  · rw [same]
    exact sound
  · exact adds.sound sound

/-- The versions stay comparable when a published one can be converted. -/
theorem respond_numbered {host : Host} (timed : TimedCall)
    (accepted : timed.call.Accepted serializers host)
    (convertible : timed.call.Convertible serializers)
    (numbered : registry.Numbered) :
    (registry.respond serializers timed.now timed.call).2.Numbered := by
  rcases respond_cases registry timed with same | ⟨added, origin, adds⟩
  · rw [same]
    exact numbered
  intro path found held
  rcases adds.holds.mp held with ⟨rfl, rfl⟩ | earlier
  · rcases origin with ⟨published, declared⟩ |
      ⟨artifact, -, -, number, -, reads, -⟩
    · obtain ⟨-, fits⟩ := LocalCapabilityRegistry.accepted_metadata
        (accepted found.artifact (by rw [published]; rfl))
      obtain ⟨number, reads, -⟩ :=
        semanticVersion_convertible fits (convertible _ _ published declared)
      exact ⟨number, reads⟩
    · exact ⟨number, reads⟩
  · exact numbered path found earlier

section Answers

variable (sound : registry.Sound serializers) (numbered : registry.Numbered)

theorem republishes {result : Except Raised RegistryAnswer}
    (answered : (registry.respond serializers now (.publish artifact)).1 =
      result) :
    Republishes serializers registry.Holds
      (registry.respond serializers now (.publish artifact)).2.Holds artifact
      result := by
  subst answered
  intro record contentHash held declared
  have whole : registry.publish serializers now artifact = _ :=
    publish_existing declared held
  by_cases same : record.contentHash = contentHash
  · rw [if_neg (not_not.mpr same)] at whole
    simp [respond, whole, same]
  · rw [if_pos same] at whole
    simp [respond, whole, same]

/-- A publication is refused for its declared hash or for a conflict. -/
theorem publish_eq_error {reason : Raised}
    (refused : registry.publish serializers now artifact = .error reason) :
    serializers.declaredHash artifact = .error reason ∨
      reason = .capabilityConflict ∧
        Conflicts serializers registry.Holds artifact := by
  cases declared : serializers.declaredHash artifact with
  | error other =>
      rw [publish_undeclared declared] at refused
      cases refused
      exact .inl rfl
  | ok contentHash =>
      cases held : registry.records.lookup artifact.key with
      | none =>
          rw [publish_free declared held] at refused
          cases refused
      | some record =>
          rw [publish_existing declared held] at refused
          split at refused
          next differs =>
            cases refused
            exact .inr ⟨rfl, record, contentHash, held, declared, differs⟩
          next => cases refused

theorem owes_publish : (RegistryCall.publish artifact).Owes serializers
    registry.Holds
    (registry.respond serializers now (.publish artifact)).2.Holds
    (registry.respond serializers now (.publish artifact)).1 := by
  have again : Republishes serializers registry.Holds
      (registry.respond serializers now (.publish artifact)).2.Holds artifact
      (registry.respond serializers now (.publish artifact)).1 :=
    republishes rfl
  cases published : registry.publish serializers now artifact with
  | error reason =>
      simp only [respond, published] at again ⊢
      exact ⟨again, rfl, publish_eq_error published⟩
  | ok pair =>
      obtain ⟨record, next⟩ := pair
      simp only [respond, published] at again ⊢
      refine ⟨again, record, rfl, ?_⟩
      rcases publish_eq_ok published with ⟨rfl, held⟩ | ⟨rfl, declared, adds⟩
      · obtain ⟨contentHash, declared, -⟩ := bind_eq_ok.mp published
        obtain ⟨-, same, differs⟩ := again record contentHash held declared
        have equal : record.contentHash = contentHash := by
          by_contra apart
          cases differs apart
        exact ⟨equal ▸ declared, held⟩
      · exact ⟨declared, adds.holds.mpr (.inl ⟨rfl, rfl⟩)⟩

include numbered in
/-- The numbers of the registered versions. -/
theorem registered_numbers : ∃ registered,
    (registry.registeredVersions capabilityId).mapM semanticVersion =
        .ok registered ∧
      ∀ number, number ∈ registered ↔
        HasNumber registry.Holds capabilityId number := by
  have each : ∀ version ∈ registry.registeredVersions capabilityId, ∃ number,
      semanticVersion version = .ok number := by
    intro version member
    obtain ⟨record, held⟩ := mem_registeredVersions.mp member
    exact numbered _ _ held
  obtain ⟨registered, read⟩ := exists_mapM_ok each
  have all := mapM_eq_ok.mp read
  refine ⟨registered, read, fun number => ?_⟩
  constructor
  · intro member
    obtain ⟨version, inside, reads⟩ := exists_left all member
    obtain ⟨record, held⟩ := mem_registeredVersions.mp inside
    exact ⟨version, record, held, reads⟩
  · rintro ⟨version, record, held, reads⟩
    obtain ⟨other, member, reads'⟩ :=
      exists_right all (mem_registeredVersions.mpr ⟨record, held⟩)
    rw [reads, Except.ok.injEq] at reads'
    rwa [reads']

include numbered in
/-- A publication of the next version is refused when there is none. -/
theorem publishNext_eq_error {reason : Raised}
    (refused : registry.publishNext serializers now artifact = .error reason) :
    NoNext registry.Holds artifact reason := by
  obtain ⟨registered, read, numbers⟩ := registered_numbers numbered
  unfold publishNext at refused
  rw [read] at refused
  cases proposal : semanticVersion artifact.capability.version with
  | error other =>
      rw [proposal] at refused
      cases refused
      exact .inl proposal
  | ok proposed =>
      refine .inr ⟨proposed, registered, proposal, numbers, ?_⟩
      cases written : (nextVersion proposed registered).text with
      | error other =>
          simp only [proposal, written, bind, Except.bind] at refused
          cases refused
          rfl
      | ok version =>
          simp only [proposal, written, bind, Except.bind] at refused
          cases refused

include numbered in
theorem owes_publishNext : (RegistryCall.publishNext artifact).Owes serializers
    registry.Holds
    (registry.respond serializers now (.publishNext artifact)).2.Holds
    (registry.respond serializers now (.publishNext artifact)).1 := by
  cases published : registry.publishNext serializers now artifact with
  | error reason =>
      simp only [respond, published]
      exact ⟨rfl, publishNext_eq_error numbered published⟩
  | ok pair =>
      obtain ⟨record, next⟩ := pair
      obtain ⟨above, stamped, adds⟩ := publishNext_eq_ok published
      simp only [respond, published]
      exact ⟨record, rfl, above, stamped, adds.holds.mpr (.inl ⟨rfl, rfl⟩)⟩

theorem owes_get : (RegistryCall.get capabilityId version).Owes serializers
    registry.Holds
    (registry.respond serializers now (.get capabilityId version)).2.Holds
    (registry.respond serializers now (.get capabilityId version)).1 := by
  cases held : registry.records.lookup (capabilityId, version) with
  | some record =>
      simp only [respond, get, held, Except.map]
      refine ⟨rfl, record, rfl, fun stored => ?_⟩
      unfold Holds
      rw [held, Option.some.injEq]
      exact eq_comm
  | none =>
      simp only [respond, get, held, Except.map]
      refine ⟨rfl, rfl, fun record found => ?_⟩
      unfold Holds at found
      rw [held] at found
      cases found

include sound numbered in
theorem comparable_recordsOf : Comparable (registry.recordsOf capabilityId) := by
  intro record member
  obtain ⟨version, held⟩ := mem_recordsOf.mp member
  obtain ⟨key, -⟩ := sound _ _ held
  obtain ⟨number, reads⟩ := numbered _ _ held
  have same : record.artifact.capability.version = version :=
    congrArg Prod.snd key
  refine ⟨number, ?_⟩
  rw [same]
  exact reads

theorem unheld_of_empty (empty : registry.recordsOf capabilityId = [])
    (version : String) (record : CapabilityVersionRecord) :
    ¬ registry.Holds (capabilityId, version) record := by
  intro held
  have member := mem_recordsOf.mpr ⟨version, held⟩
  rw [empty] at member
  cases member

include sound numbered in
theorem owes_versions : (RegistryCall.versions capabilityId).Owes serializers
    registry.Holds
    (registry.respond serializers now (.versions capabilityId)).2.Holds
    (registry.respond serializers now (.versions capabilityId)).1 := by
  cases found : registry.versions capabilityId with
  | ok records =>
      simp only [respond, found, Except.map]
      refine ⟨rfl, records, rfl, orderedVersions_pairwise found, fun record => ?_⟩
      rw [(orderedVersions_perm found).mem_iff, mem_recordsOf]
  | error reason =>
      obtain ⟨empty, rfl⟩ :=
        orderedVersions_error (comparable_recordsOf sound numbered) found
      simp only [respond, found, Except.map]
      exact ⟨rfl, rfl, unheld_of_empty empty⟩

include sound numbered in
theorem owes_latest : (RegistryCall.latest capabilityId).Owes serializers
    registry.Holds
    (registry.respond serializers now (.latest capabilityId)).2.Holds
    (registry.respond serializers now (.latest capabilityId)).1 := by
  cases found : registry.latest capabilityId with
  | ok record =>
      simp only [respond, found, Except.map]
      refine ⟨rfl, record, rfl, ?_⟩
      obtain ⟨member, number, reads, largest⟩ := latestVersion_eq_ok found
      obtain ⟨version, held⟩ := mem_recordsOf.mp member
      obtain ⟨key, -⟩ := sound _ _ held
      refine ⟨number, ?_, reads, fun version other held => ?_⟩
      · rw [show record.artifact.capability.version = version from
          congrArg Prod.snd key]
        exact held
      · obtain ⟨below, reads, least⟩ :=
          largest other (mem_recordsOf.mpr ⟨version, held⟩)
        obtain ⟨key, -⟩ := sound _ _ held
        rw [show other.artifact.capability.version = version from
          congrArg Prod.snd key] at reads
        exact ⟨below, reads, least⟩
  | error reason =>
      obtain ⟨empty, rfl⟩ :=
        latestVersion_error (comparable_recordsOf sound numbered) found
      simp only [respond, found, Except.map]
      exact ⟨rfl, rfl, unheld_of_empty empty⟩

include sound numbered in
/-- Every call does what it owes. -/
theorem respond_owes (timed : TimedCall) :
    timed.call.Owes serializers registry.Holds
      (registry.respond serializers timed.now timed.call).2.Holds
      (registry.respond serializers timed.now timed.call).1 := by
  obtain ⟨call, now⟩ := timed
  cases call with
  | publish artifact => exact owes_publish
  | publishNext artifact => exact owes_publishNext numbered
  | get capabilityId version => exact owes_get
  | versions capabilityId => exact owes_versions sound numbered
  | latest capabilityId => exact owes_latest sound numbered

end Answers

end InMemoryCapabilityRegistry

end ReplayForge

import ReplayForge.Capabilities.RegistryHistory

/-!
# The records of a registry on a file system

Under a pair one record can be read, and a listing has all records of a
capability.
-/

namespace ReplayForge

open Effect RegistryCode

namespace LocalCapabilityRegistry

variable {registry : LocalCapabilityRegistry}

section Listings

variable {path : CapabilityKey} {content contentHash capabilityId : String}
  {artifact : CapabilityArtifact} {record : CapabilityVersionRecord}
  {records : List CapabilityVersionRecord} {events : List DiskEvent}

theorem parse_key
    (parsed : registry.parse path content = .ok (artifact, contentHash)) :
    artifact.key = path := by
  obtain ⟨loaded, -, parsed⟩ := bind_eq_ok.mp parsed
  obtain ⟨expected, located, parsed⟩ := bind_eq_ok.mp parsed
  split at parsed
  next => cases parsed
  next same =>
    obtain ⟨_, -, parsed⟩ := bind_eq_ok.mp parsed
    cases parsed
    rw [not_not.mp same]
    exact (path_eq_ok located).symm

/-- What is loaded from a file is named as the file. -/
theorem executes_load
    (run : Executes (registry.load path) () events (.ok record) ()) :
    record.artifact.key = path := by
  unfold load at run
  obtain ⟨_, _, ⟨⟩, _, -, -, run⟩ := executes_bind_ok.mp run
  obtain ⟨_, _, ⟨⟩, _, -, -, run⟩ := executes_bind_ok.mp run
  obtain ⟨_, _, ⟨⟩, _, -, -, run⟩ := executes_bind_ok.mp run
  obtain ⟨_, ⟨artifact, contentHash⟩, ⟨⟩, _, -, parsed, run⟩ :=
    executes_bind_ok.mp run
  obtain ⟨_, _, ⟨⟩, _, -, -, run⟩ := executes_bind_ok.mp run
  obtain ⟨-, parsed, -⟩ := executes_attempt.mp parsed
  obtain ⟨-, same, -⟩ := executes_pure.mp run
  cases same
  exact parse_key parsed.symm

theorem executes_loadAll {paths : List CapabilityKey}
    (run : Executes (registry.loadAll paths) () events (.ok records) ()) :
    records.map (·.artifact.key) = paths := by
  induction paths generalizing events records with
  | nil =>
      obtain ⟨-, same, -⟩ := executes_pure.mp run
      cases same
      rfl
  | cons path rest ih =>
      unfold loadAll at run
      obtain ⟨_, record, ⟨⟩, _, -, loaded, run⟩ := executes_bind_ok.mp run
      obtain ⟨_, others, ⟨⟩, _, -, all, run⟩ := executes_bind_ok.mp run
      obtain ⟨-, same, -⟩ := executes_pure.mp run
      cases same
      rw [List.map_cons, executes_load loaded, ih all]

/-- The records of a capability are those of the files that were listed. -/
theorem executes_versionsLocked
    (run : Executes (registry.versionsLocked capabilityId) () events
      (.ok records) ()) (filled : records ≠ []) :
    ∃ versions : List String, ⟨.glob capabilityId, .ok versions⟩ ∈ events ∧
      records.map (·.artifact.key) = versions.map (capabilityId, ·) := by
  unfold versionsLocked at run
  obtain ⟨_, directory, ⟨⟩, rest, rfl, named, later⟩ :=
    executes_bind_ok.mp run
  clear run
  obtain ⟨-, named, -⟩ := executes_attempt.mp named
  have same : directory = capabilityId := by
    unfold capabilityDirectory at named
    split at named
    · exact Except.ok.inj named
    · cases named
  subst same
  obtain ⟨_, present, ⟨⟩, rest', rfl, -, last⟩ := executes_bind_ok.mp later
  clear later
  split at last
  next =>
    obtain ⟨_, versions, ⟨⟩, _, rfl, listed, loaded⟩ :=
      executes_bind_ok.mp last
    obtain ⟨answer, rfl, returned, -⟩ := executes_invoke.mp listed
    refine ⟨versions, ?_, executes_loadAll loaded⟩
    cases answer with
    | ok listed =>
        cases returned
        dsimp only [Except.toOption, Option.getD]
        simp
    | error reason =>
        -- A directory that could not be listed has given no records.
        cases returned
        obtain ⟨-, same, -⟩ := executes_pure.mp loaded
        cases same
        exact absurd rfl filled
  next =>
    obtain ⟨-, same, -⟩ := executes_pure.mp last
    cases same
    exact absurd rfl filled

/-- The latest record is the newest of those whose files were listed. -/
theorem executes_latest
    (run : Executes (registry.latest capabilityId) () events (.ok record) ()) :
    ∃ (versions : List String) (listed : List CapabilityVersionRecord),
      ⟨.glob capabilityId, .ok versions⟩ ∈ events ∧
      listed.map (·.artifact.key) = versions.map (capabilityId, ·) ∧
      IsNewest listed record := by
  unfold latest versions at run
  obtain ⟨_, ordered, ⟨⟩, _, rfl, inner, last⟩ := executes_bind_ok.mp run
  obtain ⟨_, listed, ⟨⟩, _, rfl, loaded, sorted⟩ := executes_bind_ok.mp inner
  obtain ⟨-, sorted, -⟩ := executes_attempt.mp sorted
  obtain ⟨-, found, -⟩ := executes_attempt.mp last
  have newest : latestVersion listed = .ok record :=
    bind_eq_ok.mpr ⟨ordered, sorted.symm, found.symm⟩
  have best := latestVersion_eq_ok newest
  obtain ⟨versions, member, keys⟩ :=
    executes_versionsLocked loaded (List.ne_nil_of_mem best.1)
  exact ⟨versions, listed, by simp [member], keys, best⟩

end Listings

section Records

variable {files : Files} {records : List CapabilityVersionRecord}
  {path : CapabilityKey} {capabilityId version : String}
  {artifact candidate : CapabilityArtifact}
  {record other : CapabilityVersionRecord}

/-- One record can be read under a path. -/
theorem Holds.unique (faithful : registry.Faithful)
    (holds : registry.Holds files path record)
    (holds' : registry.Holds files path other) : other = record := by
  obtain ⟨file, stored, found, stores, rfl⟩ := holds
  obtain ⟨file', stored', found', stores', rfl⟩ := holds'
  rw [found, Option.some.injEq] at found'
  subst found'
  have same := (stores.parse faithful).symm.trans (stores'.parse faithful)
  rw [Except.ok.injEq, Prod.mk.injEq] at same
  rw [same.1]

theorem Holds.key (holds : registry.Holds files path record) :
    record.artifact.key = path := by
  obtain ⟨_, _, -, stores, rfl⟩ := holds
  exact stores.key

theorem Holds.version_eq
    (holds : registry.Holds files (capabilityId, version) record) :
    record.artifact.capability.version = version :=
  congrArg Prod.snd holds.key

theorem Holds.number (holds : registry.Holds files path record) :
    ∃ number, semanticVersion record.artifact.capability.version =
      .ok number := by
  obtain ⟨_, _, -, stores, rfl⟩ := holds
  obtain ⟨number, reads, -⟩ := semanticVersion_convertible
    (accepted_metadata stores.accepted).2 stores.convertible
  exact ⟨number, reads⟩

theorem Holds.mono {later : Files} (holds : registry.Holds files path record)
    (kept : ∀ path file, files.lookup path = some file →
      later.lookup path = some file) : registry.Holds later path record := by
  obtain ⟨file, stored, found, stores, rfl⟩ := holds
  exact ⟨file, stored, kept path file found, stores, rfl⟩

theorem Listed.mem (listed : registry.Listed files capabilityId records)
    (faithful : registry.Faithful)
    (holds : registry.Holds files (capabilityId, version) record) :
    record ∈ records := by
  obtain ⟨versions, lists, all⟩ := listed
  have inside : version ∈ versions := by
    obtain ⟨_, _, found, -⟩ := holds
    exact (lists.2 version).mpr (by simp [found])
  obtain ⟨other, member, holds'⟩ := exists_right all inside
  rwa [holds'.unique faithful holds]

theorem Listed.holds (listed : registry.Listed files capabilityId records)
    (member : record ∈ records) :
    ∃ version, registry.Holds files (capabilityId, version) record := by
  obtain ⟨versions, -, all⟩ := listed
  obtain ⟨version, -, holds⟩ := exists_left all member
  exact ⟨version, holds⟩

theorem Listed.numbers {existing : List CapabilityVersionRecord}
    (faithful : registry.Faithful)
    (listed : registry.Listed files capabilityId existing) :
    ∃ numbers, existing.mapM (fun record =>
        semanticVersion record.artifact.capability.version) = .ok numbers ∧
      ∀ number, number ∈ numbers ↔
        HasNumber (registry.Holds files) capabilityId number := by
  have each : ∀ record ∈ existing, ∃ number,
      semanticVersion record.artifact.capability.version = .ok number := by
    intro record member
    obtain ⟨version, holds⟩ := listed.holds member
    exact holds.number
  obtain ⟨numbers, read⟩ := exists_mapM_ok each
  have all := mapM_eq_ok.mp read
  refine ⟨numbers, read, fun number => ?_⟩
  constructor
  · intro member
    obtain ⟨record, inside, reads⟩ := exists_left all member
    obtain ⟨version, holds⟩ := listed.holds inside
    rw [holds.version_eq] at reads
    exact ⟨version, record, holds, reads⟩
  · rintro ⟨version, record, holds, reads⟩
    obtain ⟨other, member, reads'⟩ :=
      exists_right all (listed.mem faithful holds)
    rw [holds.version_eq, reads, Except.ok.injEq] at reads'
    rwa [reads']

theorem Listed.comparable
    (lists : registry.Listed files capabilityId listed) :
    Comparable listed := by
  intro record member
  obtain ⟨version, holds⟩ := lists.holds member
  exact holds.number

/-- The candidate to publish next is above all that can be read. -/
theorem isAbove_of_next (faithful : registry.Faithful)
    (next : registry.nextTarget artifact files false (.ok candidate)) :
    IsAbove (registry.Holds files) artifact candidate.key := by
  obtain ⟨existing, listed, made⟩ := next
  have numbers := nextArtifact_eq_ok made
  have above := fun record => @Numbers.above registry artifact candidate
    existing numbers record
  obtain ⟨proposed, number, registered, reads, -, same, reads', -⟩ :=
    numbers.proposed
  refine ⟨numbers.id, number, proposed, reads', reads, ?_, ?_⟩
  · rw [same]
    exact (le_nextVersion proposed registered).1
  · intro version other holds
    obtain ⟨below, top, read, read', less⟩ :=
      above other (listed.mem faithful holds)
    have same' : top = number := by
      rw [reads', Except.ok.injEq] at read'
      exact read'.symm
    rw [same'] at less
    have named := congrArg Prod.snd holds.key
    dsimp only [CapabilityArtifact.key] at named
    rw [named] at read
    exact ⟨below, read, less⟩

/-- No candidate is made when there is no next version. -/
theorem noNext_of_next (faithful : registry.Faithful) {reason : Raised}
    (next : registry.nextTarget artifact files false (.error reason)) :
    NoNext (registry.Holds files) artifact reason := by
  obtain ⟨existing, listed, refused⟩ := next
  obtain ⟨registered, read, numbers⟩ := Listed.numbers faithful listed
  unfold nextArtifact at refused
  rw [read] at refused
  cases proposal : semanticVersion artifact.capability.version with
  | error other =>
      rw [proposal] at refused
      cases refused
      exact .inl proposal
  | ok proposed =>
      refine .inr ⟨proposed, registered, proposal, numbers, ?_⟩
      cases written : (nextVersion proposed registered).text with
      | error other =>
          simp only [proposal, written, bind, Except.bind] at refused
          cases refused
          rfl
      | ok version =>
          simp only [proposal, written, bind, Except.bind] at refused
          cases refused

/-- A new version can be read once its file is there. -/
theorem Verdict.holds
    (verdict : registry.Verdict files artifact (.ok none))
    (accepted : registry.serializers.Accepted registry.host artifact)
    {later : Files} {stamp : Timestamp}
    (found : later.lookup artifact.key =
      some ⟨registry.serializers.dumpArtifactYaml artifact, stamp⟩) :
    registry.Holds later artifact.key {
      artifact
      contentHash := registry.serializers.artifactContentHash artifact
      publishedAt := stamp } := by
  cases verdict with
  | fresh declared convertible _ small =>
      refine ⟨_, artifact, found, ?_, rfl⟩
      exact {
        accepted
        key := rfl
        convertible
        declared
        content := rfl
        small }

end Records

end LocalCapabilityRegistry

end ReplayForge

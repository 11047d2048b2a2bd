import ReplayForge.Capabilities.Registries
import ReplayForge.Capabilities.RegistryService

/-!
# The registry on a file system refines the registry in memory

A sequence of calls is answered by both registries in the same way, apart from
the times of publication.
-/

namespace ReplayForge

open Effect

/-- What is stored for a version, without the time of its publication. -/
def CapabilityVersionRecord.content (record : CapabilityVersionRecord) :
    CapabilityArtifact × String :=
  (record.artifact, record.contentHash)

theorem CapabilityVersionRecord.contentHash_eq
    {first second : CapabilityVersionRecord}
    (same : first.content = second.content) :
    first.contentHash = second.contentHash :=
  congrArg Prod.snd same

inductive RegistryAnswer.Same : RegistryAnswer → RegistryAnswer → Prop where
  | record {first second : CapabilityVersionRecord} :
      first.content = second.content → Same (.record first) (.record second)
  | records {first second : List CapabilityVersionRecord} :
      first.map (·.content) = second.map (·.content) →
      Same (.records first) (.records second)

/-- The same answers, or the same error. -/
inductive SameResult : Except Raised RegistryAnswer →
    Except Raised RegistryAnswer → Prop where
  | ok {first second : RegistryAnswer} :
      first.Same second → SameResult (.ok first) (.ok second)
  | error {reason : Raised} : SameResult (.error reason) (.error reason)

namespace LocalCapabilityRegistry

variable {registry : LocalCapabilityRegistry} {files : Files}
  {before after : Disk} {memory next : InMemoryCapabilityRegistry}
  {artifact : CapabilityArtifact} {path : CapabilityKey}
  {record stored : CapabilityVersionRecord} {capabilityId : String}
  {now : Timestamp} {events : List DiskEvent}

/-- What the call publishes is not too large. -/
def Admits (registry : LocalCapabilityRegistry) (files : Files)
    (call : RegistryCall) : Prop :=
  ∀ candidate, call.target registry files false (.ok candidate) →
    (registry.serializers.dumpArtifactYaml candidate).utf8ByteSize ≤
      registry.maximumArtifactBytes

/-- A call is served alone; no call of the operating system fails. -/
structure Serves (registry : LocalCapabilityRegistry) (before : Disk)
    (call : RegistryCall) (result : Except Raised RegistryAnswer)
    (after : Disk) : Prop where
  run : ∃ events, Executes (call.code registry) () events result () ∧
    Leads diskLaw 0 [] before events after ∧
    ∀ event ∈ events, DiskEvent.failed event = false
  admits : registry.Admits before.files call

/-- Calls are served one after the other. -/
inductive Serving (registry : LocalCapabilityRegistry) :
    Disk → List RegistryCall → List (Except Raised RegistryAnswer) → Disk →
      Prop where
  | nil {disk : Disk} : Serving registry disk [] [] disk
  | cons {before middle after : Disk} {call : RegistryCall}
      {calls : List RegistryCall} {result : Except Raised RegistryAnswer}
      {results : List (Except Raised RegistryAnswer)} :
      registry.Serves before call result middle →
      Serving registry middle calls results after →
      Serving registry before (call :: calls) (result :: results) after

/-- A call is served in an idle directory, which is idle again afterwards. -/
theorem exists_serves (faithful : registry.Faithful)
    (sound : registry.Sound before) (idle : before.Idle) (call : RegistryCall)
    (accepted : call.Accepted registry.serializers registry.host)
    (admits : registry.Admits before.files call) :
    ∃ result after, registry.Serves before call result after ∧ after.Idle := by
  obtain ⟨calm, idle'⟩ := calmly_call faithful call accepted sound idle
  obtain ⟨runs, leads⟩ := Program.simulate_runs
    (Disk.respond_lawful (fun _ => false) 0) [] before
    ((call.code registry).run.run ())
  exact ⟨_, _, ⟨⟨_, runs, leads, calm⟩, admits⟩, idle'⟩

/-- The same contents can be read under the same pairs. -/
def Agrees (registry : LocalCapabilityRegistry) (files : Files)
    (memory : InMemoryCapabilityRegistry) : Prop :=
  ∀ path content,
    (∃ record, registry.Holds files path record ∧ record.content = content) ↔
      ∃ record, memory.Holds path record ∧ record.content = content

section Agreement

theorem Agrees.remembered (agrees : registry.Agrees files memory)
    (holds : registry.Holds files path record) :
    ∃ stored, memory.Holds path stored ∧ stored.content = record.content :=
  (agrees path record.content).mp ⟨record, holds, rfl⟩

theorem Agrees.filed (agrees : registry.Agrees files memory)
    (holds : memory.Holds path stored) :
    ∃ record, registry.Holds files path record ∧
      record.content = stored.content :=
  (agrees path stored.content).mpr ⟨stored, holds, rfl⟩

theorem Agrees.free (agrees : registry.Agrees files memory)
    (free : files.lookup path = none) :
    memory.records.lookup path = none := by
  cases held : memory.records.lookup path with
  | none => rfl
  | some stored =>
      obtain ⟨_, ⟨_, _, found, -⟩, -⟩ := agrees.filed held
      rw [free] at found
      cases found

/-- Both registries store a new version. -/
theorem Agrees.insert (faithful : registry.Faithful)
    (agrees : registry.Agrees files memory) {file : StoredFile}
    (free : files.lookup path = none)
    (holds : registry.Holds (files.insert path file) path record)
    (same : record.content = stored.content) :
    registry.Agrees (files.insert path file)
      ⟨memory.records.insert path stored⟩ := by
  have here := agrees.free free
  intro other content
  constructor
  · rintro ⟨found, held, rfl⟩
    by_cases equal : other = path
    · subst equal
      rw [holds.unique faithful held]
      exact ⟨stored, (InMemoryCapabilityRegistry.holds_insert here).mpr
        (.inl ⟨rfl, rfl⟩), same.symm⟩
    · obtain ⟨file', artifact, there, stores, rfl⟩ := held
      rw [AList.lookup_insert_ne equal] at there
      obtain ⟨found, held, same'⟩ :=
        agrees.remembered ⟨file', artifact, there, stores, rfl⟩
      exact ⟨found, (InMemoryCapabilityRegistry.holds_insert here).mpr
        (.inr held), same'⟩
  · rintro ⟨found, held, rfl⟩
    rcases (InMemoryCapabilityRegistry.holds_insert here).mp held with
      ⟨rfl, rfl⟩ | earlier
    · exact ⟨record, holds, same⟩
    · obtain ⟨record', held', same'⟩ := agrees.filed earlier
      refine ⟨record', held'.mono ?_, same'⟩
      intro other' file' found'
      by_cases equal : other' = path
      · subst equal
        rw [free] at found'
        cases found'
      · rwa [AList.lookup_insert_ne equal]

end Agreement

section Publishing

variable {ended : Except Raised CapabilityVersionRecord}

theorem refines_publish (faithful : registry.Faithful)
    (agrees : registry.Agrees before.files memory)
    (accepted : registry.serializers.Accepted registry.host artifact)
    (convertible : RegistryCall.Convertible registry.serializers
      (.publish artifact))
    (admits : registry.Admits before.files (.publish artifact))
    (outcome : registry.Outcome True 0 (publishTarget artifact) {} before ended
      events after)
    (calm : ∀ event ∈ events, DiskEvent.failed event = false) :
    SameResult (ended.map .record)
        (memory.respond registry.serializers now (.publish artifact)).1 ∧
      registry.Agrees after.files
        (memory.respond registry.serializers now (.publish artifact)).2 := by
  obtain ⟨seen, rely, -, ends⟩ := outcome.sighted calm
  have same : seen.files = before.files := rely.2 trivial rfl
  rw [same] at ends
  cases ends with
  | unnumbered made => cases made.2
  | refused made verdict closed =>
      cases made.2
      rw [closed.same trivial rfl]
      cases verdict with
      | undeclared undeclared =>
          simp only [InMemoryCapabilityRegistry.respond,
            InMemoryCapabilityRegistry.publish_undeclared undeclared]
          exact ⟨.error, agrees⟩
      | inconvertible declared long =>
          rw [convertible artifact _ rfl declared] at long
          cases long
      | conflict declared holds differs =>
          obtain ⟨stored, held, equal⟩ := agrees.remembered holds
          rw [← CapabilityVersionRecord.contentHash_eq equal] at differs
          simp only [InMemoryCapabilityRegistry.respond,
            InMemoryCapabilityRegistry.publish_existing declared held,
            if_pos differs]
          exact ⟨.error, agrees⟩
      | large _ _ _ large => exact absurd (admits artifact ⟨rfl, rfl⟩) (by omega)
  | existing made verdict closed =>
      cases made.2
      rw [closed.same trivial rfl]
      cases verdict with
      | existing declared holds equal =>
          obtain ⟨stored, held, content⟩ := agrees.remembered holds
          rw [← CapabilityVersionRecord.contentHash_eq content] at equal
          simp only [InMemoryCapabilityRegistry.respond,
            InMemoryCapabilityRegistry.publish_existing declared held, equal,
            not_true_eq_false, ne_eq, if_false]
          exact ⟨.ok (.record content.symm), agrees⟩
  | created stamp made verdict closed =>
      cases made.2
      have there := closed.same trivial rfl
      have found : after.files.lookup artifact.key =
          some ⟨registry.serializers.dumpArtifactYaml artifact, stamp⟩ := by
        rw [there]
        exact AList.lookup_insert _
      have holds := verdict.holds accepted found
      cases verdict with
      | fresh declared _ free _ =>
          simp only [InMemoryCapabilityRegistry.respond,
            InMemoryCapabilityRegistry.publish_free declared (agrees.free free)]
          rw [there] at holds ⊢
          exact ⟨.ok (.record rfl), agrees.insert faithful free holds rfl⟩
  | failed closed => exact (not_failed_of_calm calm closed.stage).elim
  | broken stamp made verdict closed =>
      exact (not_failed_of_calm calm closed.stage).elim

theorem Agrees.numbers (agrees : registry.Agrees files memory) :
    ∃ numbers, (memory.registeredVersions capabilityId).mapM semanticVersion =
        .ok numbers ∧
      ∀ number, number ∈ numbers ↔
        HasNumber (registry.Holds files) capabilityId number := by
  have each : ∀ version ∈ memory.registeredVersions capabilityId, ∃ number,
      semanticVersion version = .ok number := by
    intro version member
    obtain ⟨stored, held⟩ :=
      InMemoryCapabilityRegistry.mem_registeredVersions.mp member
    obtain ⟨record, holds, -⟩ := agrees.filed held
    obtain ⟨number, reads⟩ := holds.number
    rw [holds.version_eq] at reads
    exact ⟨number, reads⟩
  obtain ⟨numbers, read⟩ := exists_mapM_ok each
  have all := mapM_eq_ok.mp read
  refine ⟨numbers, read, fun number => ?_⟩
  constructor
  · intro member
    obtain ⟨version, inside, reads⟩ := exists_left all member
    obtain ⟨stored, held⟩ :=
      InMemoryCapabilityRegistry.mem_registeredVersions.mp inside
    obtain ⟨record, holds, -⟩ := agrees.filed held
    exact ⟨version, record, holds, reads⟩
  · rintro ⟨version, record, holds, reads⟩
    obtain ⟨stored, held, -⟩ := agrees.remembered holds
    obtain ⟨other, member, reads'⟩ := exists_right all
      (InMemoryCapabilityRegistry.mem_registeredVersions.mpr ⟨stored, held⟩)
    rw [reads, Except.ok.injEq] at reads'
    rwa [reads']

/-- Both registries make the same candidate. -/
theorem publishNext_eq {existing : List CapabilityVersionRecord}
    (faithful : registry.Faithful) (agrees : registry.Agrees files memory)
    (listed : registry.Listed files artifact.capability.id existing) :
    memory.publishNext registry.serializers now artifact =
      (registry.nextArtifact artifact existing).map fun candidate =>
        ({
          artifact := candidate
          contentHash := registry.serializers.artifactContentHash candidate
          publishedAt := now },
        ⟨memory.records.insert candidate.key {
          artifact := candidate
          contentHash := registry.serializers.artifactContentHash candidate
          publishedAt := now }⟩) := by
  obtain ⟨numbers, read, member⟩ := listed.numbers faithful
  obtain ⟨numbers', read', member'⟩ :=
    @Agrees.numbers registry files memory artifact.capability.id agrees
  unfold InMemoryCapabilityRegistry.publishNext nextArtifact
  rw [read, read']
  cases semanticVersion artifact.capability.version with
  | error reason => rfl
  | ok proposed =>
      simp only [bind, Except.bind]
      rw [nextVersion_congr proposed fun number =>
        (member' number).trans (member number).symm]
      cases (nextVersion proposed numbers).text with
      | error reason => rfl
      | ok version =>
          have hash := @Serializers.artifactContentHash_stamped
            registry.serializers artifact version
          simp only [Except.map, pure, Except.pure, hash]

theorem refines_publishNext (faithful : registry.Faithful)
    (agrees : registry.Agrees before.files memory)
    (accepted : registry.serializers.Accepted registry.host artifact)
    (admits : registry.Admits before.files (.publishNext artifact))
    (outcome : registry.Outcome True 0 (registry.nextTarget artifact) {} before
      ended events after)
    (calm : ∀ event ∈ events, DiskEvent.failed event = false) :
    SameResult (ended.map .record)
        (memory.respond registry.serializers now (.publishNext artifact)).1 ∧
      registry.Agrees after.files
        (memory.respond registry.serializers now (.publishNext artifact)).2 := by
  obtain ⟨seen, rely, -, ends⟩ := outcome.sighted calm
  have same : seen.files = before.files := rely.2 trivial rfl
  rw [same] at ends
  cases ends with
  | unnumbered next closed =>
      obtain ⟨existing, listed, made⟩ := next
      have whole : memory.publishNext registry.serializers now artifact = _ :=
        publishNext_eq faithful agrees listed
      rw [made] at whole
      rw [closed.same trivial rfl]
      simp only [InMemoryCapabilityRegistry.respond, whole, Except.map]
      exact ⟨.error, agrees⟩
  | refused next verdict closed =>
      obtain ⟨existing, listed, made⟩ := next
      have numbers := nextArtifact_eq_ok made
      cases verdict with
      | undeclared undeclared =>
          rw [numbers.declared] at undeclared
          cases undeclared
      | inconvertible _ long =>
          rw [numbers.pattern.2] at long
          cases long
      | conflict _ holds _ =>
          obtain ⟨_, _, found, -⟩ := holds
          rw [numbers.fresh listed] at found
          cases found
      | large _ _ _ large =>
          exact absurd (admits _ ⟨existing, listed, made⟩) (by omega)
  | existing next verdict closed =>
      obtain ⟨existing, listed, made⟩ := next
      cases verdict with
      | existing _ holds _ =>
          obtain ⟨_, _, found, -⟩ := holds
          rw [(nextArtifact_eq_ok made).fresh listed] at found
          cases found
  | @created candidate _ _ stamp next verdict closed =>
      obtain ⟨existing, listed, made⟩ := next
      have numbers := nextArtifact_eq_ok made
      have whole : memory.publishNext registry.serializers now artifact = _ :=
        publishNext_eq faithful agrees listed
      rw [made] at whole
      have there := closed.same trivial rfl
      have found : after.files.lookup candidate.key =
          some ⟨registry.serializers.dumpArtifactYaml candidate, stamp⟩ := by
        rw [there]
        exact AList.lookup_insert _
      have holds := verdict.holds (numbers.accepted faithful accepted) found
      simp only [InMemoryCapabilityRegistry.respond, whole, Except.map]
      rw [there] at holds ⊢
      exact ⟨.ok (.record rfl),
        agrees.insert faithful (numbers.fresh listed) holds rfl⟩
  | failed closed => exact (not_failed_of_calm calm closed.stage).elim
  | broken stamp made verdict closed =>
      exact (not_failed_of_calm calm closed.stage).elim

end Publishing

section Reading

theorem refines_get {version : String}
    {ended : Except Raised CapabilityVersionRecord}
    (agrees : registry.Agrees before.files memory)
    (read : registry.ReadEnded True 0 before
      (fun record state =>
        registry.Holds state.files (capabilityId, version) record)
      (fun reason state => reason = .capabilityNotFound ∧
        registry.SeenBetween True 0 before state fun seen =>
          seen.files.lookup (capabilityId, version) = none) ended events after)
    (calm : ∀ event ∈ events, DiskEvent.failed event = false) :
    SameResult (ended.map .record)
      ((memory.get capabilityId version).map .record) := by
  obtain ⟨stands, here⟩ := read.calm calm
  have same : after.files = before.files := stands.rely.2 trivial rfl
  cases ended with
  | ok record =>
      rw [same] at here
      obtain ⟨stored, held, content⟩ := agrees.remembered here
      unfold InMemoryCapabilityRegistry.Holds at held
      simp only [InMemoryCapabilityRegistry.get, held, Except.map]
      exact .ok (.record content.symm)
  | error reason =>
      obtain ⟨rfl, seen, rely, -, -, free⟩ := here
      rw [show seen.files = before.files from rely.2 trivial rfl] at free
      simp only [InMemoryCapabilityRegistry.get, agrees.free free, Except.map]
      exact .error

theorem Agrees.same_content (faithful : registry.Faithful)
    (agrees : registry.Agrees files memory)
    (holds : registry.Holds files path record)
    (held : memory.Holds path stored) : record.content = stored.content := by
  obtain ⟨other, holds', content⟩ := agrees.filed held
  rw [← holds.unique faithful holds']
  exact content

theorem Holds.fits (holds : registry.Holds files path record) :
    Pattern.semanticVersion record.artifact.capability.version = true := by
  obtain ⟨_, _, -, stores, rfl⟩ := holds
  exact (accepted_metadata stores.accepted).2

theorem Listed.nodup {listed : List CapabilityVersionRecord}
    (lists : registry.Listed files capabilityId listed) :
    (listed.map (·.artifact.capability.version)).Nodup := by
  obtain ⟨versions, ⟨nodup, -⟩, all⟩ := lists
  have same : listed.map (·.artifact.capability.version) = versions := by
    clear nodup
    induction all with
    | nil => rfl
    | cons holds _ ih => rw [List.map_cons, ih, holds.version_eq]
  rw [same]
  exact nodup

variable {listed : List CapabilityVersionRecord}

/-- Both registries list the same contents. -/
theorem Agrees.perm (faithful : registry.Faithful)
    (sound : memory.Sound registry.serializers)
    (agrees : registry.Agrees files memory)
    (lists : registry.Listed files capabilityId listed) :
    (listed.map (·.content)).Perm
      ((memory.recordsOf capabilityId).map (·.content)) := by
  have distinct {records : List CapabilityVersionRecord}
      (nodup : (records.map (·.artifact.capability.version)).Nodup) :
      (records.map (·.content)).Nodup := by
    apply List.Nodup.of_map (fun content => content.1.capability.version)
    rw [List.map_map]
    exact nodup
  apply (List.perm_ext_iff_of_nodup (distinct lists.nodup) (distinct ?_)).mpr
  · intro content
    simp only [List.mem_map]
    constructor
    · rintro ⟨record, member, rfl⟩
      obtain ⟨version, holds⟩ := lists.holds member
      obtain ⟨stored, held, content⟩ := agrees.remembered holds
      exact ⟨stored,
        InMemoryCapabilityRegistry.mem_recordsOf.mpr ⟨version, held⟩, content⟩
    · rintro ⟨stored, member, rfl⟩
      obtain ⟨version, held⟩ :=
        InMemoryCapabilityRegistry.mem_recordsOf.mp member
      obtain ⟨record, holds, content⟩ := agrees.filed held
      exact ⟨record, lists.mem faithful holds, content⟩
  · rw [InMemoryCapabilityRegistry.versions_recordsOf sound]
    exact InMemoryCapabilityRegistry.nodup_registeredVersions

/-- Records of one number have the same content. -/
theorem Agrees.content_of_number (faithful : registry.Faithful)
    (agrees : registry.Agrees files memory)
    (lists : registry.Listed files capabilityId listed)
    (member : record ∈ listed)
    (member' : stored ∈ memory.recordsOf capabilityId)
    {number : SemanticVersion}
    (reads : semanticVersion record.artifact.capability.version = .ok number)
    (reads' : semanticVersion stored.artifact.capability.version =
      .ok number) : record.content = stored.content := by
  obtain ⟨version, holds⟩ := lists.holds member
  obtain ⟨version', held⟩ := InMemoryCapabilityRegistry.mem_recordsOf.mp member'
  obtain ⟨other, holds', content⟩ := agrees.filed held
  have artifact : other.artifact = stored.artifact := congrArg Prod.fst content
  have fits := holds'.fits
  rw [artifact] at fits
  have same := semanticVersion_unique holds.fits fits reads reads'
  have equal : version' = version := by
    rw [← holds'.version_eq, ← holds.version_eq, artifact, same]
  rw [equal] at held
  exact agrees.same_content faithful holds held

/-- The records in memory can be compared. -/
theorem Agrees.comparable (agrees : registry.Agrees files memory) :
    Comparable (memory.recordsOf capabilityId) := by
  intro stored member
  obtain ⟨version, held⟩ := InMemoryCapabilityRegistry.mem_recordsOf.mp member
  obtain ⟨record, holds, content⟩ := agrees.filed held
  have artifact : record.artifact = stored.artifact := congrArg Prod.fst content
  rw [← artifact]
  exact holds.number

/-- Both registries order their versions in the same way. -/
theorem orderedVersions_same (faithful : registry.Faithful)
    (sound : memory.Sound registry.serializers)
    (agrees : registry.Agrees files memory)
    (lists : registry.Listed files capabilityId listed) :
    SameResult ((orderedVersions listed).map .records)
      ((memory.versions capabilityId).map .records) := by
  have perm := agrees.perm faithful sound lists
  unfold InMemoryCapabilityRegistry.versions
  cases first : orderedVersions listed with
  | error reason =>
      obtain ⟨rfl, rfl⟩ := orderedVersions_error lists.comparable first
      have empty : memory.recordsOf capabilityId = [] := by
        simpa using perm.symm
      rw [empty]
      exact .error
  | ok ordered =>
      cases second : orderedVersions (memory.recordsOf capabilityId) with
      | error reason =>
          obtain ⟨empty, -⟩ := orderedVersions_error agrees.comparable second
          rw [empty] at perm
          have none : listed = [] := by simpa using perm
          rw [none] at first
          cases first
      | ok ordered' =>
          refine .ok (.records ?_)
          have perms := orderedVersions_perm first
          have perms' := orderedVersions_perm second
          let descends (first second : CapabilityArtifact × String) : Prop :=
            ∃ top below,
              semanticVersion first.1.capability.version = .ok top ∧
              semanticVersion second.1.capability.version = .ok below ∧
              below ≤ top
          have sorted {records : List CapabilityVersionRecord}
              (pairwise : records.Pairwise Descends) :
              (records.map (·.content)).Pairwise descends :=
            List.pairwise_map.mpr pairwise
          refine List.Perm.eq_of_pairwise ?_
            (sorted (orderedVersions_pairwise first))
            (sorted (orderedVersions_pairwise second))
            ((perms.map _).trans (perm.trans (perms'.map _).symm))
          rintro content content' inside inside'
            ⟨top, below, reads, reads', least⟩ ⟨_, _, again, again', least'⟩
          obtain ⟨record, member, rfl⟩ := List.mem_map.mp inside
          obtain ⟨stored, member', rfl⟩ := List.mem_map.mp inside'
          rw [reads'] at again
          rw [reads] at again'
          cases again
          cases again'
          have equal : below = top := le_antisymm least least'
          subst equal
          exact agrees.content_of_number faithful lists
            (perms.mem_iff.mp member) (perms'.mem_iff.mp member') reads reads'

/-- Both registries find the same latest version. -/
theorem latestVersion_same (faithful : registry.Faithful)
    (sound : memory.Sound registry.serializers)
    (agrees : registry.Agrees files memory)
    (lists : registry.Listed files capabilityId listed) :
    SameResult ((latestVersion listed).map .record)
      ((memory.latest capabilityId).map .record) := by
  have perm := agrees.perm faithful sound lists
  unfold InMemoryCapabilityRegistry.latest
  cases first : latestVersion listed with
  | error reason =>
      obtain ⟨rfl, rfl⟩ := latestVersion_error lists.comparable first
      have empty : memory.recordsOf capabilityId = [] := by
        simpa using perm.symm
      rw [empty]
      exact .error
  | ok record =>
      cases second : latestVersion (memory.recordsOf capabilityId) with
      | error reason =>
          obtain ⟨empty, -⟩ := latestVersion_error agrees.comparable second
          rw [empty] at perm
          have none : listed = [] := by simpa using perm
          rw [none] at first
          cases first
      | ok stored =>
          refine .ok (.record ?_)
          obtain ⟨member, top, reads, largest⟩ := latestVersion_eq_ok first
          obtain ⟨member', top', reads', largest'⟩ := latestVersion_eq_ok second
          -- Each is among the contents of the other list, so not above it.
          obtain ⟨stored', inside, content⟩ := List.mem_map.mp
            (perm.mem_iff.mp (List.mem_map_of_mem (f := (·.content)) member))
          obtain ⟨record', inside', content'⟩ := List.mem_map.mp
            (perm.mem_iff.mpr (List.mem_map_of_mem (f := (·.content)) member'))
          have artifact : stored'.artifact = record.artifact :=
            congrArg Prod.fst content
          have artifact' : record'.artifact = stored.artifact :=
            congrArg Prod.fst content'
          obtain ⟨below, again, least⟩ := largest' stored' inside
          obtain ⟨below', again', least'⟩ := largest record' inside'
          rw [artifact, reads] at again
          rw [artifact', reads'] at again'
          cases again
          cases again'
          have equal : top = top' := le_antisymm least least'
          subst equal
          exact agrees.content_of_number faithful lists member member' reads
            reads'

end Reading

/-- A call is answered by both registries in the same way, and they still hold
the same contents. -/
theorem Serves.refines (faithful : registry.Faithful)
    (sound : registry.Sound before)
    (stored : memory.Sound registry.serializers)
    (agrees : registry.Agrees before.files memory) (timed : TimedCall)
    (accepted : timed.call.Accepted registry.serializers registry.host)
    (convertible : timed.call.Convertible registry.serializers)
    {result : Except Raised RegistryAnswer}
    (serves : registry.Serves before timed.call result after) :
    SameResult result
        (memory.respond registry.serializers timed.now timed.call).1 ∧
      registry.Agrees after.files
        (memory.respond registry.serializers timed.now timed.call).2 ∧
      registry.Sound after := by
  obtain ⟨⟨events, executes, leads, calm⟩, admits⟩ := serves
  have alone : True → 0 = 0 := fun _ => rfl
  obtain ⟨ended, sound'⟩ := Safe.leads
    (safe_call alone faithful timed.call accepted sound) executes leads sound
  rw [List.nil_append] at ended
  have unread {α : Type} {outcome : Except Raised α}
      {held : α → Disk → Prop} {error : Raised → Disk → Prop}
      (read : registry.ReadEnded True 0 before held error outcome events
        after) : after.files = before.files :=
    (read.calm calm).1.rely.2 trivial rfl
  have here {seen : Disk} (rely : (registry.shared True).rely 0 before seen) :
      seen.files = before.files := rely.2 trivial rfl
  obtain ⟨call, now⟩ := timed
  cases call with
  | publish artifact =>
      obtain ⟨outcome, rfl, ends⟩ := ended
      obtain ⟨same, agrees'⟩ := refines_publish faithful agrees
        (accepted artifact rfl) convertible admits ends calm
      exact ⟨same, agrees', sound'⟩
  | publishNext artifact =>
      obtain ⟨outcome, rfl, ends⟩ := ended
      obtain ⟨same, agrees'⟩ := refines_publishNext faithful agrees
        (accepted artifact rfl) admits ends calm
      exact ⟨same, agrees', sound'⟩
  | get capabilityId version =>
      obtain ⟨outcome, rfl, read⟩ := ended
      refine ⟨refines_get agrees read calm, ?_, sound'⟩
      rw [unread read]
      exact agrees
  | versions capabilityId =>
      obtain ⟨outcome, rfl, read⟩ := ended
      refine ⟨?_, ?_, sound'⟩
      · have found := (read.calm calm).2
        cases outcome with
        | ok records =>
            obtain ⟨seen, rely, -, -, listed, lists, sorted⟩ := found
            rw [here rely] at lists
            have same := orderedVersions_same faithful stored agrees lists
            rwa [sorted] at same
        | error reason =>
            obtain ⟨seen, rely, -, -, listed, lists, sorted⟩ := found
            rw [here rely] at lists
            have same := orderedVersions_same faithful stored agrees lists
            rwa [sorted] at same
      · rw [unread read]
        exact agrees
  | latest capabilityId =>
      obtain ⟨outcome, rfl, read⟩ := ended
      refine ⟨?_, ?_, sound'⟩
      · have found := (read.calm calm).2
        cases outcome with
        | ok record =>
            obtain ⟨seen, rely, -, -, listed, lists, best⟩ := found
            rw [here rely] at lists
            have same := latestVersion_same faithful stored agrees lists
            rwa [best] at same
        | error reason =>
            obtain ⟨seen, rely, -, -, listed, lists, best⟩ := found
            rw [here rely] at lists
            have same := latestVersion_same faithful stored agrees lists
            rwa [best] at same
      · rw [unread read]
        exact agrees

end LocalCapabilityRegistry

/-- The answers to some calls. -/
def InMemoryCapabilityRegistry.answers (serializers : Serializers) :
    InMemoryCapabilityRegistry → List TimedCall →
      List (Except Raised RegistryAnswer)
  | _, [] => []
  | registry, timed :: rest =>
      let (answer, next) := registry.respond serializers timed.now timed.call
      answer :: answers serializers next rest

/-- Both registries answer a sequence of calls in the same way, when the
versions that are published can be converted. -/
theorem file_registry_refines (registry : LocalCapabilityRegistry)
    (memory : InMemoryCapabilityRegistry) {start last : Disk}
    {calls : List TimedCall} {results : List (Except Raised RegistryAnswer)}
    (faithful : registry.Faithful) (sound : registry.Sound start)
    (stored : memory.Sound registry.serializers)
    (agrees : registry.Agrees start.files memory)
    (accepted : ∀ timed ∈ calls,
      timed.call.Accepted registry.serializers registry.host)
    (convertible : ∀ timed ∈ calls,
      timed.call.Convertible registry.serializers)
    (serving : registry.Serving start (calls.map TimedCall.call) results last) :
    List.Forall₂ SameResult results
        (memory.answers registry.serializers calls) ∧
      registry.Agrees last.files (memory.after registry.serializers calls) := by
  induction calls generalizing memory start results with
  | nil =>
      cases serving
      exact ⟨.nil, agrees⟩
  | cons timed rest ih =>
      cases serving with
      | cons serves later =>
          obtain ⟨same, agrees', sound'⟩ := serves.refines faithful sound stored
            agrees timed (accepted timed List.mem_cons_self)
            (convertible timed List.mem_cons_self)
          obtain ⟨others, final⟩ := ih
            (memory.respond registry.serializers timed.now timed.call).2 sound'
            (InMemoryCapabilityRegistry.respond_sound timed stored) agrees'
            (fun other member => accepted other (List.mem_cons_of_mem _ member))
            (fun other member =>
              convertible other (List.mem_cons_of_mem _ member)) later
          exact ⟨.cons same others, final⟩

namespace Sample

theorem empty_agrees (registry : LocalCapabilityRegistry) :
    registry.Agrees ({} : Disk).files {} := by
  intro path content
  constructor
  · rintro ⟨_, ⟨_, _, found, -⟩, -⟩
    cases found
  · rintro ⟨_, held, -⟩
    cases held

/-- The events and the outcome of a call that meets no failure. -/
noncomputable def served (registry : LocalCapabilityRegistry)
    (call : RegistryCall) :
    List DiskEvent × (Except Raised RegistryAnswer × Unit) × Disk :=
  ((call.code registry).run.run ()).simulate
    (Disk.respond (fun _ => false) 0) {}

theorem served_serves (registry : LocalCapabilityRegistry) (call : RegistryCall)
    (admits : registry.Admits ({} : Disk).files call)
    (calm : (served registry call).1.all (!DiskEvent.failed ·) = true) :
    registry.Serves {} call (served registry call).2.1.1
      (served registry call).2.2 := by
  obtain ⟨runs, leads⟩ := Program.simulate_runs
    (Disk.respond_lawful (fun _ => false) 0) [] {}
    ((call.code registry).run.run ())
  refine ⟨⟨_, runs, leads, fun event member => ?_⟩, admits⟩
  simpa using List.all_eq_true.mp calm event member

/-- A payment is published twice and looked up. -/
def payments : List TimedCall :=
  [⟨.publish payment, noon⟩, ⟨.publishNext payment, noon⟩,
    ⟨.get "bank.pay" "1.0.0", noon⟩, ⟨.latest "bank.pay", noon⟩]

/-- A registry that admits both versions of the payment. -/
noncomputable def ampleRegistry : LocalCapabilityRegistry :=
  { registry with
    maximumArtifactBytes := max (hashing.dumpArtifactYaml payment).utf8ByteSize
      (hashing.dumpArtifactYaml
        (hashing.stamped payment "1.0.1")).utf8ByteSize }

theorem ampleRegistry_faithful : ampleRegistry.Faithful where
  scalars := serializers_reads
  yaml json _ := serializers_yaml json
  digests := hexAfter_digest

theorem empty_idle : ({} : Disk).Idle :=
  ⟨rfl, fun _ => rfl⟩

theorem payments_accepted (timed : TimedCall) (member : timed ∈ payments) :
    timed.call.Accepted ampleRegistry.serializers ampleRegistry.host := by
  intro artifact published
  simp only [payments, List.mem_cons, List.not_mem_nil, or_false] at member
  rcases member with rfl | rfl | rfl | rfl
  · cases published
    exact registry_accepts
  · cases published
    exact registry_accepts
  · cases published
  · cases published

theorem payments_convertible (timed : TimedCall) (member : timed ∈ payments) :
    timed.call.Convertible ampleRegistry.serializers := by
  intro artifact contentHash published _
  simp only [payments, List.mem_cons, List.not_mem_nil, or_false] at member
  rcases member with rfl | rfl | rfl | rfl
  · cases published
    decide +kernel
  · cases published
  · cases published
  · cases published

/-- The registry in memory with the first payment. -/
noncomputable abbrev paid : InMemoryCapabilityRegistry :=
  (InMemoryCapabilityRegistry.respond ampleRegistry.serializers {} noon
    (.publish payment)).2

theorem paid_next : ∃ next,
    paid.publishNext ampleRegistry.serializers noon payment = .ok ({
      artifact := hashing.stamped payment "1.0.1"
      contentHash := hashing.artifactContentHash
        (payment.restamped "1.0.1" none)
      publishedAt := noon }, next) :=
  ⟨_, rfl⟩

/-- What is published beside the first payment is admitted. -/
theorem next_admits {files : Files} (agrees : ampleRegistry.Agrees files paid) :
    ampleRegistry.Admits files (.publishNext payment) := by
  rintro candidate ⟨existing, listed, made⟩
  have whole : paid.publishNext ampleRegistry.serializers noon payment = _ :=
    LocalCapabilityRegistry.publishNext_eq ampleRegistry_faithful agrees listed
  obtain ⟨next, published⟩ := paid_next
  rw [made, published] at whole
  have same : hashing.stamped payment "1.0.1" = candidate := by
    simp only [Except.map, Except.ok.injEq, Prod.mk.injEq,
      CapabilityVersionRecord.mk.injEq] at whole
    exact whole.1.1
  rw [← same]
  exact le_max_right _ _

/-- The calls are served one after the other. -/
theorem payments_served : ∃ results last,
    ampleRegistry.Serving {} (payments.map TimedCall.call) results last := by
  have faithful := ampleRegistry_faithful
  have accepted := payments_accepted
  have convertible := payments_convertible
  have stored := empty_memory ampleRegistry.serializers
  have sound : ampleRegistry.Sound {} := by
    intro path file found
    cases found
  have small : ampleRegistry.Admits ({} : Disk).files (.publish payment) := by
    rintro candidate ⟨-, made⟩
    cases made
    exact le_max_left _ _
  obtain ⟨_, disk₁, first, idle₁⟩ := LocalCapabilityRegistry.exists_serves
    faithful sound empty_idle (.publish payment)
    (accepted ⟨_, noon⟩ (by simp [payments])) small
  obtain ⟨-, agrees₁, sound₁⟩ := first.refines faithful sound stored.1
    (empty_agrees ampleRegistry) ⟨.publish payment, noon⟩
    (accepted _ (by simp [payments])) (convertible _ (by simp [payments]))
  have stored₁ := InMemoryCapabilityRegistry.respond_sound
    ⟨.publish payment, noon⟩ stored.1
  obtain ⟨_, disk₂, second, idle₂⟩ := LocalCapabilityRegistry.exists_serves
    faithful sound₁ idle₁ (.publishNext payment)
    (accepted ⟨_, noon⟩ (by simp [payments])) (next_admits agrees₁)
  obtain ⟨-, agrees₂, sound₂⟩ := second.refines faithful sound₁ stored₁ agrees₁
    ⟨.publishNext payment, noon⟩
    (accepted _ (by simp [payments])) (convertible _ (by simp [payments]))
  have stored₂ := InMemoryCapabilityRegistry.respond_sound
    ⟨.publishNext payment, noon⟩ stored₁
  obtain ⟨_, disk₃, third, idle₃⟩ := LocalCapabilityRegistry.exists_serves
    faithful sound₂ idle₂ (.get "bank.pay" "1.0.0")
    (accepted ⟨_, noon⟩ (by simp [payments])) (fun _ made => made.elim)
  obtain ⟨-, -, sound₃⟩ := third.refines faithful sound₂ stored₂ agrees₂
    ⟨.get "bank.pay" "1.0.0", noon⟩
    (accepted _ (by simp [payments])) (convertible _ (by simp [payments]))
  obtain ⟨_, disk₄, fourth, -⟩ := LocalCapabilityRegistry.exists_serves
    faithful sound₃ idle₃ (.latest "bank.pay")
    (accepted ⟨_, noon⟩ (by simp [payments])) (fun _ made => made.elim)
  exact ⟨_, disk₄, .cons first (.cons second (.cons third (.cons fourth .nil)))⟩

/-- Both registries publish two versions of a payment and find them. -/
theorem payments_refine : ∃ results last,
    ampleRegistry.Serving {} (payments.map TimedCall.call) results last ∧
    ((InMemoryCapabilityRegistry.answers ampleRegistry.serializers {}
      payments).map Except.isOk = [true, true, true, true]) ∧
    List.Forall₂ SameResult results
      (InMemoryCapabilityRegistry.answers ampleRegistry.serializers {}
        payments) ∧
    ampleRegistry.Agrees last.files
      (InMemoryCapabilityRegistry.after ampleRegistry.serializers {}
        payments) := by
  obtain ⟨results, last, serving⟩ := payments_served
  refine ⟨results, last, serving, by decide +kernel, ?_⟩
  apply file_registry_refines ampleRegistry {} ampleRegistry_faithful
    (fun _ _ found => by cases found)
    (empty_memory ampleRegistry.serializers).1 (empty_agrees ampleRegistry)
    payments_accepted payments_convertible serving

/-- A registry that admits the payment of a long version. -/
noncomputable def roomyRegistry : LocalCapabilityRegistry :=
  { registry with
    maximumArtifactBytes := (hashing.dumpArtifactYaml longPayment).utf8ByteSize }

theorem roomyRegistry_faithful : roomyRegistry.Faithful where
  scalars := serializers_reads
  yaml json _ := serializers_yaml json
  digests := hexAfter_digest

theorem longPayment_refused :
    roomyRegistry.publishLocked longPayment = throw .capabilityNotFound := by
  have declared : roomyRegistry.serializers.declaredHash longPayment =
      .ok (roomyRegistry.serializers.artifactContentHash longPayment) := rfl
  have located : LocalCapabilityRegistry.path longPayment.capability.id
      longPayment.capability.version = .error .capabilityNotFound :=
    LocalCapabilityRegistry.path_inconvertible (by decide +kernel)
      (patchVersion_fits maxStrDigits)
      (patchVersion_inconvertible (Nat.lt_add_one maxStrDigits))
  unfold LocalCapabilityRegistry.publishLocked
  rw [declared, located]
  rfl

theorem longPayment_served :
    (served roomyRegistry (.publish longPayment)).1.all
        (!DiskEvent.failed ·) = true ∧
      (served roomyRegistry (.publish longPayment)).2.1.1.isOk = false := by
  unfold served RegistryCall.code LocalCapabilityRegistry.publish
  simp only [longPayment_refused]
  decide +kernel

theorem roomyRegistry_admits : roomyRegistry.maximumArtifactBytes =
    (roomyRegistry.serializers.dumpArtifactYaml longPayment).utf8ByteSize := by
  unfold roomyRegistry registry
  with_reducible rfl

theorem same_of_single {serializers : Serializers}
    {memory : InMemoryCapabilityRegistry} {timed : TimedCall}
    {result : Except Raised RegistryAnswer}
    (answers : List.Forall₂ SameResult [result]
      (memory.answers serializers [timed])) :
    SameResult result (memory.respond serializers timed.now timed.call).1 := by
  cases answers with
  | cons same _ => exact same

theorem longPayment_remembered : ∃ record,
    (InMemoryCapabilityRegistry.respond roomyRegistry.serializers {} noon
      (.publish longPayment)).1 = .ok (.record record) := by
  have declared : roomyRegistry.serializers.declaredHash longPayment =
      .ok (roomyRegistry.serializers.artifactContentHash longPayment) := rfl
  have published : InMemoryCapabilityRegistry.publish roomyRegistry.serializers
      {} noon longPayment = _ :=
    InMemoryCapabilityRegistry.publish_free declared (AList.lookup_empty _)
  simp only [InMemoryCapabilityRegistry.respond, published]
  exact ⟨_, rfl⟩

/-- The file registry refuses a version that the registry in memory stores. -/
theorem long_version_differs :
    ¬ ∀ (registry : LocalCapabilityRegistry)
        (memory : InMemoryCapabilityRegistry) (start last : Disk)
        (calls : List TimedCall)
        (results : List (Except Raised RegistryAnswer)),
      registry.Faithful → registry.Sound start →
      memory.Sound registry.serializers → registry.Agrees start.files memory →
      (∀ timed ∈ calls,
        timed.call.Accepted registry.serializers registry.host) →
      registry.Serving start (calls.map TimedCall.call) results last →
      List.Forall₂ SameResult results
          (memory.answers registry.serializers calls) ∧
        registry.Agrees last.files
          (memory.after registry.serializers calls) := by
  intro refines
  have empty : roomyRegistry.Sound {} := by
    intro path file found
    cases found
  have accepted : ∀ timed ∈ [TimedCall.mk (.publish longPayment) noon],
      timed.call.Accepted roomyRegistry.serializers roomyRegistry.host := by
    intro timed member artifact published
    cases List.mem_singleton.mp member
    cases published
    exact longPayment_accepted
  have admits : roomyRegistry.Admits ({} : Disk).files
      (.publish longPayment) := by
    rintro candidate ⟨-, made⟩
    cases made
    exact roomyRegistry_admits.ge
  obtain ⟨calm, refused⟩ := longPayment_served
  have serves := served_serves roomyRegistry (.publish longPayment) admits calm
  obtain ⟨answers, -⟩ := refines roomyRegistry {} {} _ _ _
    roomyRegistry_faithful empty (empty_memory _).1
    (empty_agrees roomyRegistry) accepted (.cons serves .nil)
  obtain ⟨record, stored⟩ := longPayment_remembered
  have same := same_of_single answers
  rw [stored] at same
  revert refused same
  generalize (served roomyRegistry (.publish longPayment)).2.1.1 = result
  intro refused same
  cases same
  cases refused

end Sample

end ReplayForge

import ReplayForge.Capabilities.Registry

/-!
# What a registry owes to its callers

The calls of a registry, and what they have to do with the records that can be
read: a published version is above all stored ones, and the latest one is the
greatest of them.
-/

namespace ReplayForge

inductive RegistryCall where
  | publish (artifact : CapabilityArtifact)
  | publishNext (artifact : CapabilityArtifact)
  | get (capabilityId version : String)
  | versions (capabilityId : String)
  | latest (capabilityId : String)

inductive RegistryAnswer where
  | record (record : CapabilityVersionRecord)
  | records (records : List CapabilityVersionRecord)

/-- The artifact a call publishes. -/
def RegistryCall.artifact? : RegistryCall → Option CapabilityArtifact
  | .publish artifact | .publishNext artifact => some artifact
  | _ => none

/-- The record is one of the greatest version of a capability, given what can
be read under each pair. -/
def IsLatest (holds : CapabilityKey → CapabilityVersionRecord → Prop)
    (capabilityId : String) (record : CapabilityVersionRecord) : Prop :=
  ∃ number,
    holds (capabilityId, record.artifact.capability.version) record ∧
    semanticVersion record.artifact.capability.version = .ok number ∧
    ∀ version other, holds (capabilityId, version) other →
      ∃ below, semanticVersion version = .ok below ∧ below ≤ number

/-- A version is above every version of the capability that can be read, and
not below the proposed one. -/
def IsAbove (holds : CapabilityKey → CapabilityVersionRecord → Prop)
    (artifact : CapabilityArtifact) (path : CapabilityKey) : Prop :=
  path.1 = artifact.capability.id ∧ ∃ number proposed,
    semanticVersion path.2 = .ok number ∧
    semanticVersion artifact.capability.version = .ok proposed ∧
    proposed ≤ number ∧
    ∀ version other, holds (artifact.capability.id, version) other →
      ∃ below, semanticVersion version = .ok below ∧ below < number

/-- The number of a version of the capability that can be read. -/
def HasNumber (holds : CapabilityKey → CapabilityVersionRecord → Prop)
    (capabilityId : String) (number : SemanticVersion) : Prop :=
  ∃ version record, holds (capabilityId, version) record ∧
    semanticVersion version = .ok number

/-- There is no next version: the proposed one cannot be read as numbers, or
the number to publish cannot be written. -/
def NoNext (holds : CapabilityKey → CapabilityVersionRecord → Prop)
    (artifact : CapabilityArtifact) (reason : Raised) : Prop :=
  semanticVersion artifact.capability.version = .error reason ∨
  ∃ proposed registered,
    semanticVersion artifact.capability.version = .ok proposed ∧
    (∀ number, number ∈ registered ↔
      HasNumber holds artifact.capability.id number) ∧
    (nextVersion proposed registered).text = .error reason

/-- What succeeds on each item succeeds on the list. -/
theorem exists_mapM_ok {ε α β : Type} {f : α → Except ε β} {items : List α}
    (each : ∀ item ∈ items, ∃ result, f item = .ok result) :
    ∃ results, items.mapM f = .ok results := by
  induction items with
  | nil => exact ⟨[], rfl⟩
  | cons item rest ih =>
      obtain ⟨result, here⟩ := each item List.mem_cons_self
      obtain ⟨results, later⟩ := ih fun other member =>
        each other (List.mem_cons_of_mem _ member)
      refine ⟨result :: results, ?_⟩
      rw [List.mapM_cons, here, later]
      rfl

section Ordering

variable {records ordered : List CapabilityVersionRecord}
  {record : CapabilityVersionRecord}

/-- A record of the greatest number in a list. -/
def IsNewest (records : List CapabilityVersionRecord)
    (record : CapabilityVersionRecord) : Prop :=
  record ∈ records ∧ ∃ number,
    semanticVersion record.artifact.capability.version = .ok number ∧
    ∀ other ∈ records, ∃ below,
      semanticVersion other.artifact.capability.version = .ok below ∧
        below ≤ number

theorem withNumbers_eq_ok
    {entries : List (SemanticVersion × CapabilityVersionRecord)} :
    withNumbers records = .ok entries →
      entries.map Prod.snd = records ∧ ∀ entry ∈ entries,
        semanticVersion entry.2.artifact.capability.version = .ok entry.1 := by
  intro numbered
  have all := mapM_eq_ok.mp numbered
  clear numbered
  induction all with
  | nil => exact ⟨rfl, fun _ member => nomatch member⟩
  | @cons record entry records entries here _ ih =>
      obtain ⟨number, read, here⟩ := bind_eq_ok.mp here
      cases here
      refine ⟨congrArg (record :: ·) ih.1, ?_⟩
      intro entry member
      rcases List.mem_cons.mp member with rfl | later
      · exact read
      · exact ih.2 entry later

theorem newest_eq_ok (found : newest records = .ok record) :
    IsNewest records record := by
  unfold newest at found
  obtain ⟨entries, numbered, chosen⟩ := bind_eq_ok.mp found
  obtain ⟨same, numbers⟩ := withNumbers_eq_ok numbered
  clear found
  subst same
  split at chosen
  next number best largest =>
    cases chosen
    have member : (number, record) ∈ entries := List.argmax_mem largest
    have reads := numbers (number, record) member
    refine ⟨List.mem_map_of_mem member, number, reads, ?_⟩
    intro other member'
    obtain ⟨entry, inside, rfl⟩ := List.mem_map.mp member'
    exact ⟨entry.1, numbers entry inside, List.le_of_mem_argmax inside largest⟩
  next => cases chosen

theorem newestFirst_perm (sorted : newestFirst records = .ok ordered) :
    ordered.Perm records := by
  unfold newestFirst at sorted
  obtain ⟨entries, numbered, sorted⟩ := bind_eq_ok.mp sorted
  cases sorted
  rw [← (withNumbers_eq_ok numbered).1]
  exact (List.perm_insertionSort _ entries).map _

theorem orderedVersions_perm (sorted : orderedVersions records = .ok ordered) :
    ordered.Perm records := by
  unfold orderedVersions at sorted
  split at sorted
  next => cases sorted
  next => exact newestFirst_perm sorted

theorem latestVersion_eq_ok (found : latestVersion records = .ok record) :
    IsNewest records record := by
  unfold latestVersion at found
  obtain ⟨ordered, sorted, found⟩ := bind_eq_ok.mp found
  have perm := orderedVersions_perm sorted
  obtain ⟨member, number, read, largest⟩ := newest_eq_ok found
  exact ⟨perm.mem_iff.mp member, number, read,
    fun other inside => largest other (perm.mem_iff.mpr inside)⟩

/-- Every version in the list can be compared. -/
def Comparable (records : List CapabilityVersionRecord) : Prop :=
  ∀ record ∈ records, ∃ number,
    semanticVersion record.artifact.capability.version = .ok number

theorem withNumbers_comparable (comparable : Comparable records) :
    ∃ entries, withNumbers records = .ok entries := by
  apply exists_mapM_ok
  intro record member
  obtain ⟨number, read⟩ := comparable record member
  exact ⟨(number, record), by rw [read]; rfl⟩

theorem newestFirst_comparable (comparable : Comparable records) :
    ∃ ordered, newestFirst records = .ok ordered := by
  obtain ⟨entries, numbered⟩ := withNumbers_comparable comparable
  exact ⟨_, bind_eq_ok.mpr ⟨entries, numbered, rfl⟩⟩

theorem newest_comparable (comparable : Comparable records)
    (filled : records ≠ []) : ∃ record, newest records = .ok record := by
  obtain ⟨entries, numbered⟩ := withNumbers_comparable comparable
  unfold newest
  cases largest : entries.argmax Prod.fst with
  | some best => exact ⟨best.2, bind_eq_ok.mpr ⟨entries, numbered, by
      simp [largest]⟩⟩
  | none =>
      rw [List.argmax_eq_none] at largest
      subst largest
      exact absurd (withNumbers_eq_ok numbered).1.symm filled

/-- The latest of comparable versions is missing only when there is none. -/
theorem latestVersion_error {reason : Raised} (comparable : Comparable records)
    (refused : latestVersion records = .error reason) :
    records = [] ∧ reason = .capabilityNotFound := by
  cases records with
  | nil =>
      cases refused
      exact ⟨rfl, rfl⟩
  | cons first rest =>
      obtain ⟨ordered, sorted⟩ := newestFirst_comparable comparable
      have perm := newestFirst_perm sorted
      obtain ⟨record, found⟩ := newest_comparable
        (fun record member => comparable record (perm.mem_iff.mp member))
        (by
          rintro rfl
          exact absurd perm.length_eq (by simp))
      have known : latestVersion (first :: rest) = .ok record :=
        bind_eq_ok.mpr ⟨ordered, sorted, found⟩
      rw [known] at refused
      cases refused

/-- The first record is not below the second one. -/
def Descends (first second : CapabilityVersionRecord) : Prop :=
  ∃ top below,
    semanticVersion first.artifact.capability.version = .ok top ∧
    semanticVersion second.artifact.capability.version = .ok below ∧
    below ≤ top

theorem orderedVersions_pairwise
    (sorted : orderedVersions records = .ok ordered) :
    ordered.Pairwise Descends := by
  unfold orderedVersions at sorted
  split at sorted
  next => cases sorted
  next =>
    obtain ⟨entries, numbered, sorted⟩ := bind_eq_ok.mp sorted
    cases sorted
    have numbers := (withNumbers_eq_ok numbered).2
    let order (first second : SemanticVersion × CapabilityVersionRecord) :=
      second.1 ≤ first.1
    have total : Std.Total order := ⟨fun first second => le_total _ _⟩
    have transitive : IsTrans _ order :=
      ⟨fun _ _ _ early late => le_trans late early⟩
    rw [List.pairwise_map]
    apply List.Pairwise.imp_of_mem ?_ (List.pairwise_insertionSort order entries)
    intro first second member member' below
    exact ⟨first.1, second.1,
      numbers first ((List.mem_insertionSort order).mp member),
      numbers second ((List.mem_insertionSort order).mp member'), below⟩

theorem orderedVersions_error {reason : Raised}
    (comparable : Comparable records)
    (refused : orderedVersions records = .error reason) :
    records = [] ∧ reason = .capabilityNotFound := by
  cases records with
  | nil =>
      cases refused
      exact ⟨rfl, rfl⟩
  | cons first rest =>
      obtain ⟨ordered, sorted⟩ := newestFirst_comparable comparable
      have known : orderedVersions (first :: rest) = .ok ordered := sorted
      rw [known] at refused
      cases refused

end Ordering

end ReplayForge

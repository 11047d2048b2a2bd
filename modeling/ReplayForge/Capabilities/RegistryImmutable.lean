import ReplayForge.Capabilities.RegistryRecords

/-!
# The immutable registry

Over any history of a registry what can be read under a pair stays as it is,
versions only grow, and the latest version is the greatest one.
-/

namespace ReplayForge

open Effect RegistryCode

namespace Stage

theorem failed_of_reached {past : List DiskEvent}
    (failed : (reached past).failed = true) :
    ∃ event ∈ past, DiskEvent.failed event = true := by
  induction past using List.reverseRecOn with
  | nil => cases failed
  | append_singleton early last ih =>
      rw [reached_snoc] at failed
      simp only [step, Bool.or_eq_true] at failed
      rcases failed with earlier | here
      · obtain ⟨event, member, failed⟩ := ih earlier
        exact ⟨event, by simp [member], failed⟩
      · exact ⟨last, by simp, here⟩

theorem unlinked_of_reached {past : List DiskEvent}
    (unlinked : (reached past).linked = false) :
    ∀ event ∈ past, DiskEvent.linked event = false := by
  induction past using List.reverseRecOn with
  | nil => exact fun _ member => nomatch member
  | append_singleton early last ih =>
      rw [reached_snoc] at unlinked
      simp only [step, Bool.or_eq_false_iff] at unlinked
      intro event member
      rcases List.mem_append.mp member with earlier | here
      · exact ih unlinked.1 event earlier
      · rw [List.mem_singleton.mp here]
        exact unlinked.2

end Stage

namespace LocalCapabilityRegistry

variable {registry : LocalCapabilityRegistry}

/-- A call with validated artifacts. -/
abbrev AcceptedCall (registry : LocalCapabilityRegistry) :=
  { call : RegistryCall //
    call.Accepted registry.serializers registry.host }

abbrev RegistryMove (registry : LocalCapabilityRegistry) :=
  Move DiskSig Disk registry.AcceptedCall

abbrev RegistryConfig (registry : LocalCapabilityRegistry) :=
  Config DiskSig Disk registry.AcceptedCall
    (Except Raised RegistryAnswer × Unit)

/-- Threads that call the registry, in any order of their steps. -/
abbrev Run (registry : LocalCapabilityRegistry) (start : Disk) :
    List registry.RegistryMove → registry.RegistryConfig → Prop :=
  Interleaves diskLaw (fun call => (call.1.code registry).run.run ()) start

/-- Every stored file is still there. -/
def Retains (before after : Files) : Prop :=
  ∀ path file, before.lookup path = some file → after.lookup path = some file

/-- Something held of the files at a time between. -/
def Meanwhile (first last : Files) (holds : Files → Prop) : Prop :=
  ∃ seen, Retains first seen ∧ Retains seen last ∧ holds seen

/-- No version was made visible. -/
def Unlinked (past : List DiskEvent) : Prop :=
  ∀ event ∈ past, DiskEvent.linked event = false

/-- Publishing under a pair that was readable makes nothing visible. -/
def Repeats (registry : LocalCapabilityRegistry) (first : Files)
    (past : List DiskEvent) (artifact : CapabilityArtifact)
    (result : Except Raised RegistryAnswer) : Prop :=
  ∀ record contentHash, registry.Holds first artifact.key record →
    registry.serializers.declaredHash artifact = .ok contentHash →
    Unlinked past ∧
      (record.contentHash = contentHash → result = .ok (.record record)) ∧
      (record.contentHash ≠ contentHash → result = .error .capabilityConflict)

/-- Why `publish_next` refuses: there is no next version, or its file is too
large. -/
def RefusesNext (registry : LocalCapabilityRegistry)
    (artifact : CapabilityArtifact) (reason : Raised) (files : Files) : Prop :=
  NoNext (registry.Holds files) artifact reason ∨
  ∃ version message, reason = .capabilityIntegrity message ∧
    IsAbove (registry.Holds files) artifact (artifact.capability.id, version) ∧
    registry.maximumArtifactBytes < (registry.serializers.dumpArtifactYaml
      (registry.serializers.stamped artifact version)).utf8ByteSize

/-- What a call that has ended owes, given the files when it began and those in
the end.  None of its own operating-system calls has failed. -/
def Settles (registry : LocalCapabilityRegistry)
    (moves : List registry.RegistryMove) (index : Nat) (first last : Files)
    (past : List DiskEvent) : RegistryCall → Except Raised RegistryAnswer → Prop
  | .publish artifact, .ok answer =>
      registry.Repeats first past artifact (.ok answer) ∧
      ∃ record, answer = .record record ∧
        registry.serializers.declaredHash artifact = .ok record.contentHash ∧
        registry.Holds last artifact.key record
  | .publish artifact, .error reason =>
      registry.Repeats first past artifact (.error reason) ∧ Unlinked past ∧
      Meanwhile first last fun seen =>
        registry.Verdict seen artifact (.error reason)
  | .publishNext artifact, .ok answer => ∃ record, answer = .record record ∧
      IsAbove (registry.Holds first) artifact record.artifact.key ∧
      record.artifact = registry.serializers.stamped artifact
        record.artifact.capability.version ∧
      registry.Holds last record.artifact.key record
  | .publishNext artifact, .error reason => Unlinked past ∧
      Meanwhile first last (registry.RefusesNext artifact reason)
  | .get capabilityId version, .ok answer => ∃ record,
      answer = .record record ∧
      registry.Holds last (capabilityId, version) record ∧
      ∀ stored, registry.Holds first (capabilityId, version) stored →
        stored = record
  | .get capabilityId version, .error reason =>
      reason = .capabilityNotFound ∧
      ∀ record, ¬ registry.Holds first (capabilityId, version) record
  | .versions capabilityId, .ok answer => ∃ records,
      answer = .records records ∧ records.Pairwise Descends ∧
      Meanwhile first last fun seen => ∀ record, record ∈ records ↔
        ∃ version, registry.Holds seen (capabilityId, version) record
  | .latest capabilityId, .ok answer => ∃ record, answer = .record record ∧
      ∃ move ∈ moves, move.thread = index ∧
        IsLatest (registry.Holds move.before.files) capabilityId record
  | .versions capabilityId, .error reason
  | .latest capabilityId, .error reason => reason = .capabilityNotFound ∧
      ∀ version record, ¬ registry.Holds first (capabilityId, version) record

/-- A history of calls of an immutable registry. -/
structure History (registry : LocalCapabilityRegistry) (start : Disk)
    (moves : List registry.RegistryMove) (config : registry.RegistryConfig) :
    Prop where
  /-- What can be read stays as it is. -/
  kept : ∀ move ∈ moves, ∀ path record,
    registry.Holds move.before.files path record →
    registry.Holds move.after.files path record ∧
      ∀ other, registry.Holds config.store.files path other ↔ other = record
  /-- Only a link changes what is stored. -/
  unlinked : ∀ move ∈ moves, DiskEvent.linked move.event = false →
    move.after.files = move.before.files
  /-- `publish_next` makes a greater version visible, when it has listed the
  stored ones. -/
  raised : ∀ move ∈ moves, ∀ artifact, move.call.1 = .publishNext artifact →
    ¬ Blinded move.past →
    ∀ name path answer, move.event = ⟨.link name path, .ok answer⟩ →
    IsAbove (registry.Holds move.before.files) artifact path ∧
      ∃ record, registry.Holds move.after.files path record
  settled : ∀ index call past result,
    config.threads index = some ⟨call, past, .pure (result, ())⟩ →
    (∀ event ∈ past, DiskEvent.failed event = false) →
    registry.Settles moves index (began index start moves).files
      config.store.files past call.1 result

section Histories

variable {start : Disk} {moves : List registry.RegistryMove}
  {config : registry.RegistryConfig}

/-- A call none of whose own calls has failed has not come to a failure. -/
theorem not_failed_of_calm {past : List DiskEvent} {stage : Stage}
    (calm : ∀ event ∈ past, DiskEvent.failed event = false)
    (reached : Stage.reached past = stage.fail) : False := by
  obtain ⟨event, member, failed⟩ :=
    Stage.failed_of_reached (by rw [reached]; rfl)
  rw [calm event member] at failed
  cases failed

theorem files_of_unlinked {index : Nat} {before after : Disk}
    {event : DiskEvent} (leaves : event.op.Leaves index before event.resp after)
    (unlinked : DiskEvent.linked event = false) :
    after.files = before.files := by
  obtain ⟨op, answer⟩ := event
  cases op with
  | lock =>
      cases answer with
      | ok _ => rw [leaves.2]
      | error _ => rw [leaves]
  | unlock =>
      cases answer with
      | ok _ =>
          rw [leaves]
          rfl
      | error _ => rw [leaves]
  | closeRoot =>
      cases answer with
      | ok _ =>
          rw [leaves]
          rfl
      | error _ => rcases leaves with rfl | rfl <;> rfl
  | isDir | glob | «exists» =>
      cases answer with
      | ok _ => rw [leaves.1]
      | error _ => rw [leaves]
  | size =>
      cases answer with
      | ok _ => rw [leaves.1]
      | error reason =>
          cases reason with
          | fileNotFound => rw [leaves.1]
          | fileExists | other => rw [leaves]
  | readText | modified =>
      cases answer with
      | ok _ => rw [leaves.1]
      | error _ => rw [leaves]
  | mkstemp | unlink =>
      cases answer with
      | ok _ =>
          rw [leaves.2]
          rfl
      | error _ => rw [leaves]
  | write =>
      cases answer with
      | ok _ =>
          rw [leaves.2]
          rfl
      | error _ =>
          rcases leaves with rfl | ⟨-, _, rfl⟩
          · rfl
          · rfl
  | link =>
      cases answer with
      | ok _ => cases unlinked
      | error reason =>
          cases reason with
          | fileExists => rw [leaves.1]
          | fileNotFound | other => rw [leaves]
  | openRoot | mkdir | openDirectory | syncDirectory | closeDirectory | fdopen
  | flush | sync | close => rw [DiskOp.Leaves.of_quiet rfl leaves]

theorem Run.sound (faithful : registry.Faithful) (sound : registry.Sound start)
    (run : registry.Run start moves config) :
    Interleaves.Sound (registry.shared False)
      (fun call => call.1.promise registry) (fun _ _ _ _ => True) moves config :=
  Interleaves.sound run
    (fun _ call _ valid =>
      (safe_call False.elim faithful call.1 call.2 valid).weaken
        fun _ _ _ _ => trivial) sound

/-- A step keeps every stored file. -/
theorem Run.step_kept (faithful : registry.Faithful)
    (sound : registry.Sound start) (run : registry.Run start moves config)
    {move : registry.RegistryMove} (member : move ∈ moves)
    (path : CapabilityKey) (file : StoredFile)
    (found : move.before.files.lookup path = some file) :
    move.after.files.lookup path = some file := by
  obtain ⟨-, -, -, grows, -⟩ := (run.sound faithful sound).moves move member
  exact (grows (move.thread + 1) (Nat.succ_ne_self _)).1.kept path file found

/-- Every stored file stays until the end. -/
theorem Run.kept (faithful : registry.Faithful) (sound : registry.Sound start)
    (run : registry.Run start moves config) {move : registry.RegistryMove}
    (member : move ∈ moves) :
    Retains move.before.files config.store.files := by
  have each : ∀ move ∈ moves, Retains move.before.files move.after.files :=
    fun move member => run.step_kept faithful sound member
  obtain ⟨early, late, rfl⟩ := List.append_of_mem member
  obtain ⟨-, later⟩ := chained_split.mp run.chained
  let retains (before after : Disk) : Prop :=
    Retains before.files after.files
  have retained : retains move.after config.store := by
    apply later.related
    · exact fun _ _ _ found => found
    · exact fun first second path file found =>
        second path file (first path file found)
    · exact fun other inside => each other (by simp [inside])
  exact fun path file found =>
    retained path file (each move member path file found)

variable {index : Nat} {first state : Disk} {past : List DiskEvent}

/-- A call that could not list the versions has failed. -/
theorem Ends.spoilt {calm : Prop}
    {target : Except Raised CapabilityArtifact → Prop} {files : Files}
    {stage : Stage} {ended : Except Raised CapabilityVersionRecord}
    (ends : registry.Ends (registry.After calm index) target files stage.fail
      ended past state) : (Stage.reached past).failed = true := by
  cases ends with
  | unnumbered _ closed => rw [closed.stage]; rfl
  | refused _ _ closed => rw [closed.stage]; rfl
  | existing _ _ closed => rw [closed.stage]; rfl
  | created _ _ _ closed => rw [closed.stage]; rfl
  | failed closed => rw [closed.stage]; rfl
  | broken _ _ _ closed => rw [closed.stage]; rfl

/-- A call none of whose own calls has failed has listed the versions. -/
theorem Outcome.sighted {calm : Prop}
    {target : Files → Bool → Except Raised CapabilityArtifact → Prop}
    {ended : Except Raised CapabilityVersionRecord}
    (outcome : registry.Outcome calm index target {} first ended past state)
    (sound : ∀ event ∈ past, DiskEvent.failed event = false) :
    ∃ seen, (registry.shared calm).rely index first seen ∧
      registry.Sound seen ∧
      registry.Ends (registry.After calm index) (target seen.files false)
        seen.files {} ended past state := by
  obtain ⟨seen, rely, valid, blind, ends⟩ := outcome
  cases blind with
  | false => exact ⟨seen, rely, valid, ends⟩
  | true =>
      obtain ⟨event, member, failed⟩ := Stage.failed_of_reached ends.spoilt
      rw [sound event member] at failed
      cases failed

theorem After.unlinked {calm : Prop} {files : Files}
    (closed : registry.After calm index files {} past state) : Unlinked past :=
  Stage.unlinked_of_reached (by rw [closed.stage])

section Publishing

variable {artifact : CapabilityArtifact}
  {ended : Except Raised CapabilityVersionRecord}
  (calm : ∀ event ∈ past, DiskEvent.failed event = false)

include calm

/-- A call that publishes again changes nothing. -/
theorem settles_repeats (faithful : registry.Faithful)
    (outcome : registry.Outcome False index (publishTarget artifact) {} first
      ended past state)
    {record : CapabilityVersionRecord} {contentHash : String}
    (holds : registry.Holds first.files artifact.key record)
    (declared : registry.serializers.declaredHash artifact = .ok contentHash) :
    Unlinked past ∧
      (record.contentHash = contentHash → ended = .ok record) ∧
      (record.contentHash ≠ contentHash →
        ended = .error .capabilityConflict) := by
  obtain ⟨seen, rely, sound, ends⟩ := outcome.sighted calm
  have held : registry.Holds seen.files artifact.key record :=
    holds.mono rely.1.kept
  have present : seen.files.lookup artifact.key ≠ none := by
    obtain ⟨_, _, found, -⟩ := held
    simp [found]
  have same := declaredHash_ok declared
  cases ends with
  | unnumbered made => cases made.2
  | refused made verdict closed =>
      cases made.2
      refine ⟨closed.unlinked, ?_⟩
      cases verdict with
      | undeclared refused =>
          rw [declared] at refused
          cases refused
      | inconvertible _ long =>
          obtain ⟨_, _, -, stores, -⟩ := held
          have named := congrArg Prod.snd stores.key
          have convertible := stores.convertible
          dsimp only [CapabilityArtifact.key] at named
          rw [named, long] at convertible
          cases convertible
      | conflict _ other differs =>
          rw [held.unique faithful other, ← same] at differs
          exact ⟨fun equal => absurd equal differs, fun _ => rfl⟩
      | large _ _ free => exact absurd free present
  | existing made verdict closed =>
      cases made.2
      refine ⟨closed.unlinked, ?_⟩
      cases verdict with
      | existing _ other equal =>
          have one := held.unique faithful other
          rw [one, ← same] at equal
          exact ⟨fun _ => congrArg Except.ok one,
            fun differs => absurd equal differs⟩
  | created stamp made verdict closed =>
      cases made.2
      cases verdict with
      | fresh _ _ free => exact absurd free present
  | failed closed => exact (not_failed_of_calm calm closed.stage).elim
  | broken stamp made verdict closed =>
      exact (not_failed_of_calm calm closed.stage).elim

/-- A call that publishes has stored its content, or it was refused. -/
theorem settles_publish
    (accepted : registry.serializers.Accepted registry.host artifact)
    (outcome : registry.Outcome False index (publishTarget artifact) {} first
      ended past state) :
    match ended with
    | .ok record =>
        registry.serializers.declaredHash artifact = .ok record.contentHash ∧
          registry.Holds state.files artifact.key record
    | .error reason => Unlinked past ∧
        Meanwhile first.files state.files fun seen =>
          registry.Verdict seen artifact (.error reason) := by
  obtain ⟨seen, rely, sound, ends⟩ := outcome.sighted calm
  cases ends with
  | unnumbered made => cases made.2
  | refused made verdict closed =>
      cases made.2
      exact ⟨closed.unlinked, seen.files, rely.1.kept, closed.kept, verdict⟩
  | existing made verdict closed =>
      cases made.2
      cases verdict with
      | existing declared held equal =>
          exact ⟨equal ▸ declared, held.mono closed.kept⟩
  | created stamp made verdict closed =>
      cases made.2
      have held := verdict.holds accepted
        (closed.kept artifact.key _ (AList.lookup_insert _))
      cases verdict with
      | fresh declared => exact ⟨declared, held⟩
  | failed closed => exact (not_failed_of_calm calm closed.stage).elim
  | broken stamp made verdict closed =>
      exact (not_failed_of_calm calm closed.stage).elim

/-- A call that publishes the next version has stored it, or there was none to
store. -/
theorem settles_publishNext (faithful : registry.Faithful)
    (accepted : registry.serializers.Accepted registry.host artifact)
    (outcome : registry.Outcome False index (registry.nextTarget artifact) {}
      first ended past state) :
    match ended with
    | .ok record =>
        IsAbove (registry.Holds first.files) artifact record.artifact.key ∧
          record.artifact = registry.serializers.stamped artifact
            record.artifact.capability.version ∧
          registry.Holds state.files record.artifact.key record
    | .error reason => Unlinked past ∧
        Meanwhile first.files state.files
          (registry.RefusesNext artifact reason) := by
  obtain ⟨seen, rely, sound, ends⟩ := outcome.sighted calm
  cases ends with
  | unnumbered next closed =>
      exact ⟨closed.unlinked, seen.files, rely.1.kept, closed.kept,
        .inl (noNext_of_next faithful next)⟩
  | @refused candidate _ _ _ next verdict closed =>
      refine ⟨closed.unlinked, seen.files, rely.1.kept, closed.kept, .inr ?_⟩
      have above := isAbove_of_next faithful next
      obtain ⟨existing, listed, made⟩ := next
      have numbers := nextArtifact_eq_ok made
      cases verdict with
      | undeclared undeclared =>
          rw [numbers.declared] at undeclared
          cases undeclared
      | inconvertible _ long =>
          rw [numbers.pattern.2] at long
          cases long
      | conflict _ holds _ =>
          obtain ⟨_, _, found, -⟩ := holds
          rw [numbers.fresh listed] at found
          cases found
      | large _ _ _ large =>
          refine ⟨candidate.capability.version, _, rfl, ?_, ?_⟩
          · rw [← numbers.id]
            exact above
          · rw [← numbers.candidate]
            exact large
  | existing next verdict closed =>
      obtain ⟨existing, listed, made⟩ := next
      cases verdict with
      | existing _ held _ =>
          obtain ⟨_, _, found, -⟩ := held
          rw [(nextArtifact_eq_ok made).fresh listed] at found
          cases found
  | @created candidate past state stamp next verdict closed =>
      obtain ⟨top, number, proposed, reads, reads', least, above⟩ :=
        isAbove_of_next faithful next
      obtain ⟨existing, listed, made⟩ := next
      have numbers := nextArtifact_eq_ok made
      refine ⟨⟨top, number, proposed, reads, reads', least, ?_⟩,
        numbers.candidate, ?_⟩
      · exact fun version other holds =>
          above version other (holds.mono rely.1.kept)
      · exact verdict.holds (numbers.accepted faithful accepted)
          (closed.kept candidate.key _ (AList.lookup_insert _))
  | failed closed => exact (not_failed_of_calm calm closed.stage).elim
  | broken stamp made verdict closed =>
      exact (not_failed_of_calm calm closed.stage).elim

end Publishing

/-- What a call has read has been read without a failure. -/
theorem ReadEnded.calm {α : Type} {alone : Prop} {result : α → Disk → Prop}
    {error : Raised → Disk → Prop} {ended : Except Raised α}
    (read : registry.ReadEnded alone index first result error ended past state)
    (calm : ∀ event ∈ past, DiskEvent.failed event = false) :
    registry.Stands alone index [] first past state ∧
      match ended with
      | .ok value => result value state
      | .error reason => error reason state := by
  cases ended with
  | ok value => exact read
  | error reason =>
      rcases read with fails | stands
      · exact (not_failed_of_calm calm fails.stage).elim
      · exact stands

theorem settles_get {capabilityId version : String}
    {ended : Except Raised CapabilityVersionRecord}
    (faithful : registry.Faithful)
    (read : registry.ReadEnded False index first
      (fun record state =>
        registry.Holds state.files (capabilityId, version) record)
      (fun reason state => reason = .capabilityNotFound ∧
        registry.SeenBetween False index first state fun seen =>
          seen.files.lookup (capabilityId, version) = none) ended past state)
    (calm : ∀ event ∈ past, DiskEvent.failed event = false) :
    match ended with
    | .ok record =>
        registry.Holds state.files (capabilityId, version) record ∧
        ∀ stored, registry.Holds first.files (capabilityId, version) stored →
          stored = record
    | .error reason => reason = .capabilityNotFound ∧
        ∀ record, ¬ registry.Holds first.files (capabilityId, version) record := by
  obtain ⟨stands, here⟩ := read.calm calm
  cases ended with
  | ok found =>
      refine ⟨here, fun stored holds => ?_⟩
      exact Holds.unique faithful here (holds.mono stands.rely.1.kept)
  | error reason =>
      obtain ⟨notFound, seen, rely, -, -, missing⟩ := here
      refine ⟨notFound, fun record holds => ?_⟩
      obtain ⟨_, _, found, -⟩ := holds.mono rely.1.kept
      rw [missing] at found
      cases found

/-- Without a version none is found, and only then. -/
theorem settles_missing {capabilityId : String} {reason : Raised}
    (faithful : registry.Faithful) {α : Type}
    {select : List CapabilityVersionRecord → Except Raised α}
    (between : registry.SeenBetween False index first state fun seen =>
      ∃ listed, registry.Listed seen.files capabilityId listed ∧
        select listed = .error reason)
    (only : ∀ listed, Comparable listed → select listed = .error reason →
      listed = [] ∧ reason = .capabilityNotFound) :
    reason = .capabilityNotFound ∧ ∀ version record,
      ¬ registry.Holds first.files (capabilityId, version) record := by
  obtain ⟨seen, rely, -, -, listed, lists, refused⟩ := between
  obtain ⟨rfl, same⟩ := only listed lists.comparable refused
  refine ⟨same, fun version record holds => ?_⟩
  have member := lists.mem faithful (holds.mono rely.1.kept)
  cases member

/-- All versions are listed that could be read at one time, greatest first. -/
theorem settles_versions {capabilityId : String}
    {records : List CapabilityVersionRecord} (faithful : registry.Faithful)
    (between : registry.SeenBetween False index first state fun seen =>
      ∃ listed, registry.Listed seen.files capabilityId listed ∧
        orderedVersions listed = .ok records) :
    records.Pairwise Descends ∧
      Meanwhile first.files state.files fun seen => ∀ record,
        record ∈ records ↔
          ∃ version, registry.Holds seen (capabilityId, version) record := by
  obtain ⟨seen, before, after, -, listed, lists, sorted⟩ := between
  refine ⟨orderedVersions_pairwise sorted, seen.files, before.1.kept,
    after.1.kept, fun record => ?_⟩
  rw [(orderedVersions_perm sorted).mem_iff]
  constructor
  · exact lists.holds
  · rintro ⟨version, holds⟩
    exact lists.mem faithful holds

theorem Meanwhile.extend {files later : Files} {holds : Files → Prop}
    (meanwhile : Meanwhile files later holds) {last : Files}
    (retains : Retains later last) : Meanwhile files last holds := by
  obtain ⟨seen, before, after, here⟩ := meanwhile
  exact ⟨seen, before,
    fun path file found => retains path file (after path file found), here⟩

/-- The latest record was the greatest one when the files were listed. -/
theorem Run.latest_greatest (faithful : registry.Faithful)
    (sound : registry.Sound start) (run : registry.Run start moves config)
    {capabilityId : String} {record : CapabilityVersionRecord}
    (executes : Executes (registry.latest capabilityId) () past (.ok record) ())
    (seen : eventsOf index moves = past)
    (held : ∃ version, registry.Holds config.store.files
      (capabilityId, version) record) :
    ∃ move ∈ moves, move.thread = index ∧
      IsLatest (registry.Holds move.before.files) capabilityId record := by
  have whole := run.sound faithful sound
  obtain ⟨versions, listed, globbed, keys, newest⟩ := executes_latest executes
  rw [← seen] at globbed
  obtain ⟨move, inside, event⟩ := List.mem_map.mp globbed
  obtain ⟨member, own⟩ := List.mem_filter.mp inside
  refine ⟨move, member, of_decide_eq_true own, ?_⟩
  obtain ⟨valid, happens, -⟩ := whole.moves move member
  have lists : Lists move.before.files capabilityId versions := by
    obtain ⟨_, _, _, before, _, after⟩ := move
    cases event
    exact happens.2
  obtain ⟨among, number, reads, largest⟩ := newest
  have listed_key {found : CapabilityVersionRecord} (inside : found ∈ listed) :
      found.artifact.capability.version ∈ versions := by
    have key := List.mem_map_of_mem (f := (·.artifact.key)) inside
    rw [keys] at key
    obtain ⟨version, inside, same⟩ := List.mem_map.mp key
    rw [show found.artifact.capability.version = version from
      (congrArg Prod.snd same).symm]
    exact inside
  refine ⟨number, ?_, reads, fun version other holds => ?_⟩
  · -- The file of the record was listed, and it is still what it was.
    obtain ⟨file, found⟩ := Option.ne_none_iff_exists'.mp
      ((lists.2 _).mp (listed_key among))
    obtain ⟨stored, stores⟩ := valid _ _ found
    obtain ⟨version, held⟩ := held
    have same : record.artifact.capability.version = version :=
      congrArg Prod.snd held.key
    have later : registry.Holds config.store.files (capabilityId, version)
        (registry.record file stored) := by
      rw [← same]
      exact ⟨file, stored, run.kept faithful sound member _ _ found, stores,
        rfl⟩
    have one := held.unique faithful later
    exact ⟨file, stored, found, stores, one.symm⟩
  · obtain ⟨_, _, found, -⟩ := holds
    have inside := (lists.2 version).mpr (by simp [found])
    have key : (capabilityId, version) ∈ listed.map (·.artifact.key) := by
      rw [keys]
      exact List.mem_map_of_mem inside
    obtain ⟨read, inside', same⟩ := List.mem_map.mp key
    obtain ⟨below, reads', least⟩ := largest read inside'
    rw [show read.artifact.capability.version = version from
      congrArg Prod.snd same] at reads'
    exact ⟨below, reads', least⟩

/-- A finished call owes nothing more. -/
theorem Run.settles (faithful : registry.Faithful)
    (sound : registry.Sound start) (run : registry.Run start moves config)
    {call : registry.AcceptedCall} {result : Except Raised RegistryAnswer}
    (found : config.threads index =
      some ⟨call, past, .pure (result, ())⟩)
    (calm : ∀ event ∈ past, DiskEvent.failed event = false) :
    registry.Settles moves index (began index start moves).files
      config.store.files past call.1 result := by
  obtain ⟨state, rely, safe⟩ := Interleaves.safe_since run
    (fun index call first valid =>
      @safe_call registry index first False False.elim faithful call.1 call.2
        valid) sound index _
    found
  have executes := Interleaves.runs_finished run found
  have seen : eventsOf index moves = past := by
    rw [Interleaves.eventsOf_eq run, found]
    rfl
  generalize began index start moves = first at safe
  have ended : registry.Ended False index first call.1 result past state := by
    cases safe with
    | pure holds => exact holds
  obtain ⟨call, accepted⟩ := call
  cases call with
  | publish artifact =>
      obtain ⟨outcome, rfl, ends⟩ := ended
      have again : registry.Repeats first.files past artifact
          (outcome.map RegistryAnswer.record) := by
        intro record contentHash holds declared
        obtain ⟨still, same, differs⟩ :=
          settles_repeats calm faithful ends holds declared
        refine ⟨still, fun equal => ?_, fun apart => ?_⟩
        · rw [same equal]
          rfl
        · rw [differs apart]
          rfl
      have settled := settles_publish calm (accepted artifact rfl) ends
      cases outcome with
      | ok record =>
          exact ⟨again, record, rfl, settled.1, settled.2.mono rely.1.kept⟩
      | error reason =>
          exact ⟨again, settled.1, settled.2.extend rely.1.kept⟩
  | publishNext artifact =>
      obtain ⟨outcome, rfl, ends⟩ := ended
      have settled := settles_publishNext calm faithful (accepted artifact rfl)
        ends
      cases outcome with
      | ok record =>
          obtain ⟨above, stamped, held⟩ := settled
          exact ⟨record, rfl, above, stamped, held.mono rely.1.kept⟩
      | error reason => exact ⟨settled.1, settled.2.extend rely.1.kept⟩
  | get capabilityId version =>
      obtain ⟨outcome, rfl, read⟩ := ended
      have settled := settles_get faithful read calm
      cases outcome with
      | ok record =>
          exact ⟨record, rfl, settled.1.mono rely.1.kept, settled.2⟩
      | error reason => exact settled
  | versions capabilityId =>
      obtain ⟨outcome, rfl, read⟩ := ended
      have here := (read.calm calm).2
      cases outcome with
      | ok records =>
          obtain ⟨sorted, all⟩ := settles_versions faithful here
          exact ⟨records, rfl, sorted, all.extend rely.1.kept⟩
      | error reason =>
          exact settles_missing faithful here fun _ => orderedVersions_error
  | latest capabilityId =>
      obtain ⟨outcome, rfl, read⟩ := ended
      have here := (read.calm calm).2
      cases outcome with
      | error reason =>
          exact settles_missing faithful here fun _ => latestVersion_error
      | ok record =>
          obtain ⟨between, before, after, -, listed, lists, best⟩ := here
          obtain ⟨version, holds⟩ := lists.holds (latestVersion_eq_ok best).1
          have held : registry.Holds config.store.files (capabilityId, version)
              record := (holds.mono after.1.kept).mono rely.1.kept
          obtain ⟨early, found', ⟨⟩, late, rfl, ran, last⟩ :=
            executes_bind_ok.mp executes
          obtain ⟨rfl, same, -⟩ := executes_pure.mp last
          cases same
          rw [List.append_nil] at seen
          exact ⟨record, rfl, run.latest_greatest faithful sound ran seen
            ⟨version, held⟩⟩

/-- Every history is one of an immutable registry. -/
theorem Run.history (faithful : registry.Faithful)
    (sound : registry.Sound start) (run : registry.Run start moves config) :
    registry.History start moves config where
  kept move member path record holds := by
    refine ⟨holds.mono (run.step_kept faithful sound member), fun other => ?_⟩
    have last := holds.mono (run.kept faithful sound member)
    constructor
    · exact fun held => last.unique faithful held
    · rintro rfl
      exact last
  unlinked move member := by
    obtain ⟨-, happens, -⟩ := (run.sound faithful sound).moves move member
    exact files_of_unlinked happens
  raised move member artifact called sighted name path answer event := by
    obtain ⟨-, -, valid, -, promised⟩ :=
      (run.sound faithful sound).moves move member
    obtain ⟨candidate, blind, rfl, target, -, blinded⟩ :=
      promised name path answer event
    cases blind with
    | true => exact absurd (blinded rfl) sighted
    | false =>
    rw [called] at target
    refine ⟨isAbove_of_next faithful target, ?_⟩
    have found : ∃ file, move.after.files.lookup candidate.key = some file := by
      obtain ⟨-, happens, -⟩ := (run.sound faithful sound).moves move member
      obtain ⟨_, _, _, before, _, after⟩ := move
      cases event
      obtain ⟨-, content, stamp, -, same⟩ := happens
      refine ⟨⟨content, stamp⟩, ?_⟩
      dsimp only at same ⊢
      rw [same]
      exact AList.lookup_insert _
    obtain ⟨file, found⟩ := found
    obtain ⟨stored, stores⟩ := valid _ _ found
    exact ⟨_, file, stored, found, stores, rfl⟩
  settled index call past result found calm :=
    run.settles faithful sound found calm

end Histories

end LocalCapabilityRegistry

end ReplayForge

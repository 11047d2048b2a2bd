import ReplayForge.Capabilities.RegistryDisk

/-!
# Reading a registry

What a thread finds in the directory while other threads publish: a file that
was there stays as it is, and it is read back as the artifact it holds.
-/

namespace ReplayForge

open Effect RegistryCode

namespace LocalCapabilityRegistry

variable {registry : LocalCapabilityRegistry}

theorem path_eq_ok {capabilityId version : String} {key : CapabilityKey} :
    path capabilityId version = .ok key →
      key = (capabilityId, version) := by
  unfold path capabilityDirectory
  intro found
  split at found
  next =>
    simp only [bind, Except.bind] at found
    split at found
    · cases found
    · split at found
      · cases found
        rfl
      · cases found
  next => cases found

/-- The identity and the version of an accepted artifact. -/
theorem validate_metadata {host : Host} {artifact : CapabilityArtifact}
    (valid : artifact.validate host = .ok ()) :
    Pattern.capabilityId artifact.capability.id = true ∧
      Pattern.semanticVersion artifact.capability.version = true := by
  unfold CapabilityArtifact.validate CapabilityMetadata.validate at valid
  simp only [check_bind_eq_ok, require_eq_ok] at valid
  exact ⟨valid.1.1, valid.1.2.1⟩

theorem accepted_metadata {serializers : Serializers} {host : Host}
    {artifact : CapabilityArtifact}
    (accepted : serializers.Accepted host artifact) :
    Pattern.capabilityId artifact.capability.id = true ∧
      Pattern.semanticVersion artifact.capability.version = true := by
  obtain ⟨raw, accepted⟩ := accepted
  exact validate_metadata (Serializers.modelValidate_eq_ok.mp accepted).2

theorem version_chars {version : String}
    (fits : Pattern.semanticVersion version = true) :
    version.isEmpty = false ∧
      version.toList.any
        (fun char => !(Pattern.digit char || char = '.')) = false := by
  obtain ⟨major, minor, patch, parts, first, second, third⟩ :=
    parts_of_semanticVersion fits
  have shape := congrArg String.toList (join_parts parts)
  rw [String.toList_ofList] at shape
  have digits {part : String} (fits : Pattern.versionPart part = true)
      (char : Char) (member : char ∈ part.toList) :
      (!(Pattern.digit char || char = '.')) = false := by
    simp [(digits_of_versionPart fits).2 char member]
  constructor
  · rw [Bool.eq_false_iff]
    intro empty
    rw [String.isEmpty_iff.mp empty] at shape
    simp at shape
  · rw [← shape, List.any_eq_false]
    intro char member
    rw [Bool.not_eq_true]
    simp only [List.intercalate_cons_cons, List.intercalate_singleton,
      List.mem_append, List.mem_singleton] at member
    rcases member with ((member | rfl) | ((member | rfl) | member))
    · exact digits first char member
    · rfl
    · exact digits second char member
    · rfl
    · exact digits third char member

theorem path_convertible {capabilityId version : String}
    (named : Pattern.capabilityId capabilityId = true)
    (fits : Pattern.semanticVersion version = true)
    (convertible : isConvertible version = true) :
    path capabilityId version = .ok (capabilityId, version) := by
  obtain ⟨number, reads, -⟩ := semanticVersion_convertible fits convertible
  obtain ⟨filled, clean⟩ := version_chars fits
  simp only [path, capabilityDirectory, named, filled, clean, reads, bind,
    Except.bind, if_true, Bool.or_self, Bool.false_eq_true, if_false]

theorem path_inconvertible {capabilityId version : String}
    (named : Pattern.capabilityId capabilityId = true)
    (fits : Pattern.semanticVersion version = true)
    (long : isConvertible version = false) :
    path capabilityId version = .error .capabilityNotFound := by
  obtain ⟨message, fails⟩ := semanticVersion_inconvertible fits long
  obtain ⟨filled, clean⟩ := version_chars fits
  simp only [path, capabilityDirectory, named, filled, clean, fails, bind,
    Except.bind, if_true, Bool.or_self, Bool.false_eq_true, if_false]

/-- A stored file is read back as the artifact it holds. -/
theorem Stores.parse (faithful : registry.Faithful) {path : CapabilityKey}
    {file : StoredFile} {artifact : CapabilityArtifact}
    (stores : registry.Stores path file artifact) :
    registry.parse path file.content =
      .ok (artifact, registry.serializers.artifactContentHash artifact) := by
  obtain ⟨named, fits⟩ := accepted_metadata stores.accepted
  obtain ⟨raw, accepted⟩ := stores.accepted
  obtain ⟨loaded, loads, rfl, -⟩ :=
    registry.serializers.loadArtifactYaml_dumpArtifactYaml registry.host raw
      artifact faithful.scalars faithful.yaml accepted
  have located := path_convertible named fits stores.convertible
  have key := stores.key
  unfold CapabilityArtifact.key at key
  simp [LocalCapabilityRegistry.parse, stores.content, loads, located, ← key,
    stores.declared, Except.mapError, bind, Except.bind, pure, Except.pure]

/-- A record can be read under a path. -/
def Holds (registry : LocalCapabilityRegistry) (files : Files)
    (path : CapabilityKey) (record : CapabilityVersionRecord) : Prop :=
  ∃ file artifact, files.lookup path = some file ∧
    registry.Stores path file artifact ∧
    record = registry.record file artifact

/-- All records of a capability. -/
def Listed (registry : LocalCapabilityRegistry) (files : Files)
    (capabilityId : String) (records : List CapabilityVersionRecord) : Prop :=
  ∃ versions, Lists files capabilityId versions ∧
    List.Forall₂ (fun version record =>
      registry.Holds files (capabilityId, version) record) versions records

/-- A path under which a file can be stored is a path of the registry. -/
theorem Stores.path {key : CapabilityKey} {file : StoredFile}
    {artifact : CapabilityArtifact}
    (stores : registry.Stores key file artifact) :
    LocalCapabilityRegistry.path key.1 key.2 = .ok key := by
  obtain ⟨named, fits⟩ := accepted_metadata stores.accepted
  rw [← stores.key]
  exact path_convertible named fits stores.convertible

theorem Stores.named {key : CapabilityKey} {file : StoredFile}
    {artifact : CapabilityArtifact}
    (stores : registry.Stores key file artifact) :
    Pattern.capabilityId key.1 = true := by
  rw [← stores.key]
  exact (accepted_metadata stores.accepted).1

theorem path_error {capabilityId version : String} {reason : Raised}
    (refused : LocalCapabilityRegistry.path capabilityId version =
      .error reason) : reason = .capabilityNotFound := by
  unfold LocalCapabilityRegistry.path capabilityDirectory at refused
  split at refused
  next =>
    simp only [bind, Except.bind] at refused
    split at refused
    · cases refused
      rfl
    · split at refused
      · cases refused
      · cases refused
        rfl
  next =>
    cases refused
    rfl

/-- Nothing is stored under what is no path. -/
theorem Sound.lookup_none {disk : Disk} (sound : registry.Sound disk)
    {capabilityId version : String} {reason : Raised}
    (refused : LocalCapabilityRegistry.path capabilityId version =
      .error reason) : disk.files.lookup (capabilityId, version) = none := by
  cases found : disk.files.lookup (capabilityId, version) with
  | none => rfl
  | some file =>
      obtain ⟨artifact, stores⟩ := sound _ _ found
      rw [stores.path] at refused
      cases refused

/-- What is no capability identifier has no versions. -/
theorem Sound.unlisted {disk : Disk} (sound : registry.Sound disk)
    {capabilityId : String}
    (unnamed : Pattern.capabilityId capabilityId = false) :
    registry.Listed disk.files capabilityId [] := by
  refine ⟨[], ⟨List.nodup_nil, fun version => ?_⟩, .nil⟩
  simp only [List.not_mem_nil, false_iff, not_not]
  cases found : disk.files.lookup (capabilityId, version) with
  | none => rfl
  | some file =>
      obtain ⟨artifact, stores⟩ := sound _ _ found
      exact absurd stores.named (by simp [unnamed])

section Rules

variable {calm : Prop} {index : Nat} {past past' past'' : List DiskEvent}
  {state state' state'' : Disk}

/-- A thread has changed nothing and none of its calls has failed. -/
structure Stands (registry : LocalCapabilityRegistry) (calm : Prop)
    (index : Nat) (past : List DiskEvent) (state : Disk)
    (past' : List DiskEvent) (state' : Disk) : Prop where
  stage : Stage.reached past' = Stage.reached past
  rely : (registry.shared calm).rely index state state'
  sound : registry.Sound state'

/-- A thread has changed nothing, and one of its calls has failed. -/
structure Fails (registry : LocalCapabilityRegistry) (calm : Prop)
    (index : Nat) (past : List DiskEvent) (state : Disk)
    (past' : List DiskEvent) (state' : Disk) : Prop where
  stage : Stage.reached past' = (Stage.reached past).fail
  rely : (registry.shared calm).rely index state state'
  sound : registry.Sound state'

theorem Stands.refl (sound : registry.Sound state) :
    registry.Stands calm index past state past state where
  stage := rfl
  rely := (registry.shared calm).refl index state
  sound

theorem Stands.trans
    (first : registry.Stands calm index past state past' state')
    (second : registry.Stands calm index past' state' past'' state'') :
    registry.Stands calm index past state past'' state'' where
  stage := second.stage.trans first.stage
  rely := (registry.shared calm).trans first.rely second.rely
  sound := second.sound

theorem Stands.fails
    (first : registry.Stands calm index past state past' state')
    (second : registry.Fails calm index past' state' past'' state'') :
    registry.Fails calm index past state past'' state'' where
  stage := second.stage.trans (congrArg Stage.fail first.stage)
  rely := (registry.shared calm).trans first.rely second.rely
  sound := second.sound

theorem Stands.kept
    (stands : registry.Stands calm index past state past' state')
    {path : CapabilityKey} {file : StoredFile}
    (found : state.files.lookup path = some file) :
    state'.files.lookup path = some file :=
  stands.rely.1.kept path file found

/-- The steps that make no version visible promise nothing. -/
def Quiets (promise : Promise DiskSig Disk) : Prop :=
  ∀ past before event after, DiskEvent.linked event = false →
    promise past before event after

/-- A reader changes nothing.  Unless one of its calls fails it returns a
result or raises an error of its own. -/
def Reads {α : Type} (registry : LocalCapabilityRegistry) (calm : Prop)
    (index : Nat) (promise : Promise DiskSig Disk) (past : List DiskEvent)
    (state : Disk) (result : α → Disk → Prop) (error : Raised → Disk → Prop)
    (body : RegistryCode α) : Prop :=
  Keeps (registry.shared calm) index promise body () past state
    (fun value _ past' state' =>
      registry.Stands calm index past state past' state' ∧ result value state')
    (fun raised _ past' state' =>
      registry.Fails calm index past state past' state' ∨
        (registry.Stands calm index past state past' state' ∧
          error raised state'))

variable {promise : Promise DiskSig Disk} {α β : Type}
  {result : α → Disk → Prop} {error : Raised → Disk → Prop}

theorem reads_pure {value : α} (sound : registry.Sound state)
    (holds : result value state) :
    registry.Reads calm index promise past state result error (pure value) :=
  keeps_pure ⟨.refl sound, holds⟩

theorem reads_throw {raised : Raised} (sound : registry.Sound state)
    (holds : error raised state) :
    registry.Reads calm index promise past state result error (throw raised) :=
  keeps_throw (.inr ⟨.refl sound, holds⟩)

theorem reads_attempt {value : Except Raised α} (sound : registry.Sound state)
    (returned : ∀ stored, value = .ok stored → result stored state)
    (raised : ∀ reason, value = .error reason → error reason state) :
    registry.Reads calm index promise past state result error
      (attempt value) := by
  apply keeps_attempt
  · intro stored same
    exact ⟨.refl sound, returned stored same⟩
  · intro reason same
    exact .inr ⟨.refl sound, raised reason same⟩

theorem Reads.bind {body : RegistryCode β} {next : β → RegistryCode α}
    {first : β → Disk → Prop}
    (here : registry.Reads calm index promise past state first error body)
    (rest : ∀ value past' state',
      registry.Stands calm index past state past' state' →
      first value state' →
      registry.Reads calm index promise past' state' result error
        (next value)) :
    registry.Reads calm index promise past state result error
      (body >>= next) := by
  apply keeps_bind here
  rintro value ⟨⟩ past' state' ⟨stands, holds⟩
  apply (rest value past' state' stands holds).weaken
  · rintro final ⟨⟩ past'' state'' ⟨later, final'⟩
    exact ⟨stands.trans later, final'⟩
  · rintro reason ⟨⟩ past'' state'' (failed | ⟨later, why⟩)
    · exact .inl (stands.fails failed)
    · exact .inr ⟨stands.trans later, why⟩

/-- What follows a reader may be more than a reader. -/
theorem Reads.andThen {body : RegistryCode β} {next : β → RegistryCode α}
    {first : β → Disk → Prop}
    {after : α → Unit → List DiskEvent → Disk → Prop}
    {raised : Raised → Unit → List DiskEvent → Disk → Prop}
    (here : registry.Reads calm index promise past state first error body)
    (rest : ∀ value past' state',
      registry.Stands calm index past state past' state' →
      first value state' →
      Keeps (registry.shared calm) index promise (next value) () past' state'
        after raised)
    (failed : ∀ reason past' state',
      registry.Fails calm index past state past' state' →
      raised reason () past' state')
    (refused : ∀ reason past' state',
      registry.Stands calm index past state past' state' →
      error reason state' → raised reason () past' state') :
    Keeps (registry.shared calm) index promise (body >>= next) () past state
      after raised := by
  apply keeps_bind (Keeps.weaken here (fun _ _ _ _ held => held) ?_)
  · rintro value ⟨⟩ past' state' ⟨stands, holds⟩
    exact rest value past' state' stands holds
  · rintro reason ⟨⟩ past' state' (fails | ⟨stands, why⟩)
    · exact failed reason past' state' fails
    · exact refused reason past' state' stands why

theorem Reads.weaken {body : RegistryCode α} {result' : α → Disk → Prop}
    {error' : Raised → Disk → Prop}
    (reads : registry.Reads calm index promise past state result error body)
    (returned : ∀ value state',
      (registry.shared calm).rely index state state' → result value state' →
      result' value state')
    (raised : ∀ reason state',
      (registry.shared calm).rely index state state' → error reason state' →
      error' reason state') :
    registry.Reads calm index promise past state result' error' body := by
  apply Keeps.weaken reads
  · rintro value ⟨⟩ past' state' ⟨stands, holds⟩
    exact ⟨stands, returned value state' stands.rely holds⟩
  · rintro reason ⟨⟩ past' state' (failed | ⟨stands, why⟩)
    · exact .inl failed
    · exact .inr ⟨stands, raised reason state' stands.rely why⟩

variable {path : CapabilityKey} {file : StoredFile}
  {artifact : CapabilityArtifact}

/-- A check that holds raises nothing. -/
theorem reads_raiseIf {test : Bool} {reason : Raised}
    (sound : registry.Sound state) (passes : test = false) :
    registry.Reads calm index promise past state (fun _ _ => True) error
      (raiseIf test reason) := by
  subst passes
  exact reads_attempt sound (fun _ _ => trivial) (fun _ same => nomatch same)

theorem held_of_found {disk : Disk} {held : StoredFile → Prop}
    (found : disk.files.lookup path = some file)
    (holds : ∃ other, disk.files.lookup path = some other ∧ held other) :
    held file := by
  obtain ⟨other, found', holds⟩ := holds
  rw [found, Option.some.injEq] at found'
  exact found' ▸ holds

section Calls

variable (quiet : Quiets promise)

include quiet

/-- A call that leaves the directory as it is. -/
theorem reads_translating {op : DiskOp} {raised : OsError → Raised}
    (still : ∀ {before after : Disk} {answer : Except OsError op.Value},
      op.Leaves index before answer after → after = before)
    (unlinked : ∀ answer, DiskEvent.linked ⟨op, answer⟩ = false) :
    registry.Reads calm index promise past state
      (fun value state' => op.Leaves index state' (.ok value) state')
      (fun reason state' => ∃ answer, reason = raised answer ∧
        DiskEvent.failed ⟨op, .error answer⟩ = false ∧
        op.Leaves index state' (.error answer) state')
      (translating op raised) := by
  apply keeps_invoke
  intro before answer after sound rely leaves
  cases still leaves
  have refl (other : Nat) := (registry.shared calm).refl other before
  refine ⟨⟨sound, fun other _ => refl other,
    quiet _ _ _ _ (unlinked answer)⟩, ?_, ?_⟩
  · intro value returned
    cases answer with
    | error error => cases returned
    | ok other =>
        cases returned
        have event : DiskEvent.failed ⟨op, .ok value⟩ = false := by
          cases op <;> rfl
        refine ⟨⟨?_, rely, sound⟩, leaves⟩
        rw [Stage.reached_snoc, Stage.step_quiet event (unlinked _)]
  · intro error failed
    cases answer with
    | ok value => cases failed
    | error answer =>
        cases failed
        cases event : DiskEvent.failed ⟨op, .error answer⟩ with
        | true =>
            refine .inl ⟨?_, rely, sound⟩
            rw [Stage.reached_snoc, Stage.step_failed event (unlinked _)]
        | false =>
            refine .inr ⟨⟨?_, rely, sound⟩, answer, rfl, event, leaves⟩
            rw [Stage.reached_snoc, Stage.step_quiet event (unlinked _)]

/-- A call that leaves the directory as it is and whose errors are failures. -/
theorem reads_os {op : DiskOp} {raised : OsError → Raised}
    (still : ∀ {before after : Disk} {answer : Except OsError op.Value},
      op.Leaves index before answer after → after = before)
    (unlinked : ∀ answer, DiskEvent.linked ⟨op, answer⟩ = false)
    (fails : ∀ answer, DiskEvent.failed ⟨op, .error answer⟩ = true) :
    registry.Reads calm index promise past state
      (fun value state' => op.Leaves index state' (.ok value) state') error
      (translating op raised) := by
  apply (reads_translating quiet still unlinked).weaken
  · intro value state' _ holds
    exact holds
  · rintro reason state' _ ⟨answer, -, sound, -⟩
    rw [fails answer] at sound
    cases sound

/-- A call about a file that is there reads what it holds. -/
theorem reads_found {op : DiskOp} {raised : OsError → Raised}
    {held : op.Value → Prop} (found : state.files.lookup path = some file)
    (still : ∀ {before after : Disk} {answer : Except OsError op.Value},
      op.Leaves index before answer after → after = before)
    (unlinked : ∀ answer, DiskEvent.linked ⟨op, answer⟩ = false)
    (present : ∀ {disk : Disk} {answer : Except OsError op.Value},
      disk.files.lookup path = some file →
      op.Leaves index disk answer disk →
      match answer with
      | .ok value => held value
      | .error answer => DiskEvent.failed ⟨op, .error answer⟩ = true) :
    registry.Reads calm index promise past state (fun value _ => held value)
      error (translating op raised) := by
  apply (reads_translating quiet still unlinked).weaken
  · intro value state' rely leaves
    exact present (rely.1.kept path file found) leaves
  · rintro reason state' rely ⟨answer, -, sound, leaves⟩
    have failed := present (rely.1.kept path file found) leaves
    exact absurd failed (by simp [sound])

/-- A file that is there is loaded. -/
theorem reads_load (faithful : registry.Faithful)
    (found : state.files.lookup path = some file)
    (stores : registry.Stores path file artifact) :
    registry.Reads calm index promise past state
      (fun record _ => record = registry.record file artifact) error
      (registry.load path) := by
  have size : ∀ raised, registry.Reads calm index promise past state
      (fun bytes _ => bytes = file.content.utf8ByteSize) error
      (translating (.size path) raised) := by
    intro raised
    apply reads_found quiet found
    · intro before after answer leaves
      cases answer with
      | ok bytes => exact leaves.1
      | error reason => cases reason <;> first | exact leaves.1 | exact leaves
    · intro answer
      rfl
    · intro disk answer found leaves
      cases answer with
      | ok bytes => exact held_of_found found leaves.2
      | error reason =>
          cases reason with
          | fileNotFound => exact absurd (leaves.2.symm.trans found) (by simp)
          | _ => rfl
  apply (size _).bind
  rintro bytes past₁ state₁ stands₁ rfl
  apply (reads_raiseIf stands₁.sound
    (decide_eq_false (Nat.not_lt.mpr stores.small))).bind
  rintro ⟨⟩ past₂ state₂ stands₂ -
  have text : registry.Reads calm index promise past₂ state₂
      (fun content _ => content = file.content) error
      (translating (.readText path) fun _ => .capabilityPublication) := by
    apply reads_found quiet (stands₂.kept (stands₁.kept found))
    · intro before after answer leaves
      cases answer with
      | ok bytes => exact leaves.1
      | error reason => exact leaves
    · intro answer
      rfl
    · intro disk answer found leaves
      cases answer with
      | ok bytes => exact held_of_found found leaves.2
      | error reason => rfl
  apply text.bind
  rintro content past₃ state₃ stands₃ rfl
  rw [stores.parse faithful]
  have parsed : registry.Reads calm index promise past₃ state₃
      (fun pair _ => pair = (artifact,
        registry.serializers.artifactContentHash artifact)) error
      (attempt (.ok (artifact,
        registry.serializers.artifactContentHash artifact))) :=
    reads_attempt stands₃.sound (fun _ same => (Except.ok.inj same).symm)
      (fun _ same => nomatch same)
  apply parsed.bind
  rintro pair past₄ state₄ stands₄ rfl
  have stamp : registry.Reads calm index promise past₄ state₄
      (fun stamp _ => stamp = file.modified) error (os (.modified path)) := by
    apply reads_found quiet
      (stands₄.kept (stands₃.kept (stands₂.kept (stands₁.kept found))))
    · intro before after answer leaves
      cases answer with
      | ok bytes => exact leaves.1
      | error reason => exact leaves
    · intro answer
      rfl
    · intro disk answer found leaves
      cases answer with
      | ok bytes => exact held_of_found found leaves.2
      | error reason => rfl
  apply stamp.bind
  rintro stamp past₅ state₅ stands₅ rfl
  exact reads_pure stands₅.sound rfl

theorem reads_loadAll (faithful : registry.Faithful) {seen : Disk}
    {paths : List CapabilityKey} (sound : registry.Sound state)
    (held : ∀ path ∈ paths, ∃ file, seen.files.lookup path = some file ∧
      state.files.lookup path = some file) :
    registry.Reads calm index promise past state
      (fun records _ => List.Forall₂ (registry.Holds seen.files) paths records)
      error (registry.loadAll paths) := by
  induction paths generalizing past state with
  | nil => exact reads_pure sound .nil
  | cons path rest ih =>
      obtain ⟨file, old, found⟩ := held path List.mem_cons_self
      obtain ⟨artifact, stores⟩ := sound path file found
      apply (reads_load quiet faithful found stores).bind
      rintro record past₁ state₁ stands₁ rfl
      have later : ∀ path ∈ rest, ∃ file,
          seen.files.lookup path = some file ∧
          state₁.files.lookup path = some file := by
        intro other member
        obtain ⟨file, old, found⟩ := held other (List.mem_cons_of_mem _ member)
        exact ⟨file, old, stands₁.kept found⟩
      apply (ih stands₁.sound later).bind
      intro records past₂ state₂ stands₂ all
      exact reads_pure stands₂.sound (.cons ⟨file, artifact, old, stores, rfl⟩ all)

/-- What was listed while a thread was at work. -/
def SeenBetween (registry : LocalCapabilityRegistry) (calm : Prop)
    (index : Nat) (state state' : Disk) (holds : Disk → Prop) : Prop :=
  ∃ seen, (registry.shared calm).rely index state seen ∧
    (registry.shared calm).rely index seen state' ∧ registry.Sound seen ∧
    holds seen

/-- What a thread has found of a capability: its records, or none at all as
its directory could not be listed. -/
inductive Found (registry : LocalCapabilityRegistry) (calm : Prop)
    (index : Nat) (capabilityId : String) (past : List DiskEvent) (state : Disk)
    (records : List CapabilityVersionRecord) (past' : List DiskEvent)
    (state' : Disk) : Prop where
  | listed :
      registry.Stands calm index past state past' state' →
      (registry.SeenBetween calm index state state' fun seen =>
        registry.Listed seen.files capabilityId records) →
      Found registry calm index capabilityId past state records past' state'
  | blind :
      registry.Fails calm index past state past' state' → records = [] →
      Blinded past' →
      Found registry calm index capabilityId past state records past' state'

omit quiet in
theorem Found.since {capabilityId : String}
    {records : List CapabilityVersionRecord}
    (stands : registry.Stands calm index past state past' state')
    (found : registry.Found calm index capabilityId past' state' records past''
      state'') :
    registry.Found calm index capabilityId past state records past'' state'' := by
  cases found with
  | listed later between =>
      obtain ⟨seen, before, after, sound, all⟩ := between
      exact .listed (stands.trans later)
        ⟨seen, (registry.shared calm).trans stands.rely before, after, sound,
          all⟩
  | blind failed none blinded => exact .blind (stands.fails failed) none blinded

/-- The directory of a capability is listed, or it cannot be. -/
theorem keeps_glob {capabilityId : String} :
    Keeps (registry.shared calm) index promise (glob capabilityId) () past state
      (fun versions _ past' state' =>
        (registry.Stands calm index past state past' state' ∧
          Lists state'.files capabilityId versions) ∨
        (registry.Fails calm index past state past' state' ∧ versions = [] ∧
          Blinded past'))
      (fun _ _ _ _ => False) := by
  apply keeps_invoke
  intro before answer after sound rely leaves
  cases answer with
  | ok versions =>
      obtain ⟨rfl, lists⟩ := leaves
      refine ⟨⟨sound, fun other _ => (registry.shared calm).refl other _,
        quiet _ _ _ _ rfl⟩, ?_, fun _ raised => nomatch raised⟩
      intro listed returned
      cases returned
      refine .inl ⟨⟨?_, rely, sound⟩, lists⟩
      rw [Stage.reached_snoc, Stage.step_quiet rfl rfl]
  | error reason =>
      cases leaves
      refine ⟨⟨sound, fun other _ => (registry.shared calm).refl other _,
        quiet _ _ _ _ rfl⟩, ?_, fun _ raised => nomatch raised⟩
      intro listed returned
      cases returned
      refine .inr ⟨⟨?_, rely, sound⟩, rfl,
        ⟨.glob capabilityId, .error reason⟩, by simp, rfl⟩
      rw [Stage.reached_snoc, Stage.step_failed rfl rfl]

/-- The records under the versions that were listed. -/
theorem reads_loadListed (faithful : registry.Faithful)
    {capabilityId : String} {versions : List String}
    (sound : registry.Sound state)
    (lists : Lists state.files capabilityId versions) :
    registry.Reads calm index promise past state
      (fun records state' => registry.SeenBetween calm index state state'
        fun seen => registry.Listed seen.files capabilityId records)
      (fun _ _ => False)
      (registry.loadAll (versions.map fun version => (capabilityId, version))) := by
  have held : ∀ path ∈ versions.map fun version => (capabilityId, version),
      ∃ file, state.files.lookup path = some file ∧
        state.files.lookup path = some file := by
    intro path member
    obtain ⟨version, inside, rfl⟩ := List.mem_map.mp member
    have found := (lists.2 version).mp inside
    obtain ⟨file, found⟩ := Option.ne_none_iff_exists'.mp found
    exact ⟨file, found, found⟩
  apply (reads_loadAll quiet faithful sound held).weaken
  · intro records state' rely all
    exact ⟨state, (registry.shared calm).refl _ _, rely, sound, versions, lists,
      List.forall₂_map_left_iff.mp all⟩
  · intro reason state' rely why
    exact why

/-- `_versions_locked` finds the records of a capability. -/
theorem keeps_versionsLocked (faithful : registry.Faithful)
    (sound : registry.Sound state) {capabilityId : String} :
    Keeps (registry.shared calm) index promise
      (registry.versionsLocked capabilityId) () past state
      (fun records _ past' state' =>
        registry.Found calm index capabilityId past state records past' state')
      (fun reason _ past' state' =>
        registry.Fails calm index past state past' state' ∨
        (registry.Stands calm index past state past' state' ∧
          reason = .capabilityNotFound ∧
          Pattern.capabilityId capabilityId = false)) := by
  unfold versionsLocked
  have named : registry.Reads calm index promise past state
      (fun directory _ => directory = capabilityId)
      (fun reason _ => reason = .capabilityNotFound ∧
        Pattern.capabilityId capabilityId = false)
      (attempt (capabilityDirectory capabilityId)) := by
    unfold capabilityDirectory
    apply reads_attempt sound
    · intro directory same
      split at same
      next => exact (Except.ok.inj same).symm
      next => cases same
    · intro reason same
      split at same
      next => cases same
      next unnamed => exact ⟨(Except.error.inj same).symm, by simpa using unnamed⟩
  apply named.andThen ?_ (fun _ _ _ fails => .inl fails)
    (fun _ _ _ stands why => .inr ⟨stands, why⟩)
  rintro directory past₁ state₁ stands₁ rfl
  have present : registry.Reads calm index promise past₁ state₁
      (fun (present : Bool) state' => ∀ version,
        state'.files.lookup (directory, version) ≠ none → present = true)
      (fun _ _ => False) (os (.isDir directory)) := by
    refine (reads_os quiet ?_ (fun _ => rfl) (fun _ => rfl)).weaken
      (fun _ _ _ leaves => leaves.2) (fun _ _ _ why => why)
    intro before after answer leaves
    cases answer with
    | ok present => exact leaves.1
    | error reason => exact leaves
  apply present.andThen ?_ (fun _ _ _ fails => .inl (stands₁.fails fails))
    (fun _ _ _ _ why => why.elim)
  intro present past₂ state₂ stands₂ complete
  have stands := stands₁.trans stands₂
  cases present with
  | false =>
      apply keeps_pure
      refine .listed stands ⟨state₂, stands.rely,
        (registry.shared calm).refl _ _, stands₂.sound, [],
        ⟨List.nodup_nil, fun version => ?_⟩, .nil⟩
      simp only [List.not_mem_nil, false_iff]
      intro found
      exact absurd (complete version found) (by simp)
  | true =>
      apply keeps_bind ((keeps_glob quiet).weaken (fun _ _ _ _ held => held)
        fun _ _ _ _ absurd => absurd.elim)
      rintro versions ⟨⟩ past₃ state₃ (⟨stands₃, lists⟩ | ⟨fails, rfl, blinded⟩)
      · apply Keeps.weaken (reads_loadListed quiet faithful stands₃.sound lists)
        · rintro records ⟨⟩ past₄ state₄ ⟨stands₄, between⟩
          exact .since (stands.trans stands₃) (.listed stands₄ between)
        · rintro reason ⟨⟩ past₄ state₄ (fails | ⟨-, absurd⟩)
          · exact .inl ((stands.trans stands₃).fails fails)
          · exact absurd.elim
      · exact keeps_pure (.blind (stands.fails fails) rfl blinded)

theorem reads_get (faithful : registry.Faithful)
    (sound : registry.Sound state) {capabilityId version : String} :
    registry.Reads calm index promise past state
      (fun record state' =>
        registry.Holds state'.files (capabilityId, version) record)
      (fun reason state' => reason = .capabilityNotFound ∧
        registry.SeenBetween calm index state state' fun seen =>
          seen.files.lookup (capabilityId, version) = none)
      (registry.get capabilityId version) := by
  unfold get
  have located : registry.Reads calm index promise past state
      (fun path _ => path = (capabilityId, version))
      (fun reason state' => reason = .capabilityNotFound ∧
        registry.SeenBetween calm index state state' fun seen =>
          seen.files.lookup (capabilityId, version) = none)
      (attempt (LocalCapabilityRegistry.path capabilityId version)) := by
    apply reads_attempt sound
    · intro path same
      exact path_eq_ok same
    · intro reason refused
      exact ⟨path_error refused, state, (registry.shared calm).refl _ _,
        (registry.shared calm).refl _ _, sound, sound.lookup_none refused⟩
  apply located.bind
  rintro path past₁ state₁ stands₁ rfl
  have present : registry.Reads calm index promise past₁ state₁
      (fun (present : Bool) state' => present =
        (state'.files.lookup (capabilityId, version)).isSome)
      (fun reason state' => reason = .capabilityNotFound ∧
        registry.SeenBetween calm index state state' fun seen =>
          seen.files.lookup (capabilityId, version) = none)
      (os (.exists (capabilityId, version))) := by
    refine (reads_os quiet ?_ (fun _ => rfl) (fun _ => rfl)).weaken
      (fun _ _ _ leaves => leaves.2) (fun _ _ _ why => why)
    intro before after answer leaves
    cases answer with
    | ok present => exact leaves.1
    | error reason => exact leaves
  apply present.bind
  rintro present past₂ state₂ stands₂ rfl
  cases found : state₂.files.lookup (capabilityId, version) with
  | none =>
      apply reads_throw stands₂.sound
      exact ⟨rfl, state₂, (stands₁.trans stands₂).rely,
        (registry.shared calm).refl _ _, stands₂.sound, found⟩
  | some file =>
      obtain ⟨artifact, stores⟩ := stands₂.sound _ _ found
      apply (reads_load quiet faithful found stores).weaken
      · rintro record state' rely rfl
        exact ⟨file, artifact, rely.1.kept _ _ found, stores, rfl⟩
      · intro reason state' rely why
        exact why

/-- Any function of all records of a capability. -/
theorem reads_listed (faithful : registry.Faithful)
    (sound : registry.Sound state) {capabilityId : String}
    {select : List CapabilityVersionRecord → Except Raised α}
    (missing : select [] = .error .capabilityNotFound) :
    registry.Reads calm index promise past state
      (fun value state' => registry.SeenBetween calm index state state'
        fun seen => ∃ listed, registry.Listed seen.files capabilityId listed ∧
          select listed = .ok value)
      (fun reason state' => registry.SeenBetween calm index state state'
        fun seen => ∃ listed, registry.Listed seen.files capabilityId listed ∧
          select listed = .error reason)
      (do
        let records ← registry.versionsLocked capabilityId
        attempt (select records)) := by
  apply keeps_bind ((keeps_versionsLocked quiet faithful sound).weaken
    (fun _ _ _ _ held => held) ?_)
  · rintro records ⟨⟩ past₁ state₁ found
    cases found with
    | listed stands between =>
        obtain ⟨seen, before, after, sound', all⟩ := between
        apply keeps_attempt
        · intro value same
          exact ⟨stands, seen, before, after, sound', records, all, same⟩
        · intro reason same
          exact .inr ⟨stands, seen, before, after, sound', records, all, same⟩
    | blind fails none _ =>
        subst none
        rw [missing]
        apply keeps_attempt
        · intro value same
          cases same
        · intro reason same
          exact .inl fails
  · rintro reason ⟨⟩ past₁ state₁ (fails | ⟨stands, rfl, unnamed⟩)
    · exact .inl fails
    · exact .inr ⟨stands, state, (registry.shared calm).refl _ _, stands.rely,
        sound, [], sound.unlisted unnamed, missing⟩

theorem reads_versions (faithful : registry.Faithful)
    (sound : registry.Sound state) {capabilityId : String} :
    registry.Reads calm index promise past state
      (fun records state' => registry.SeenBetween calm index state state'
        fun seen => ∃ listed, registry.Listed seen.files capabilityId listed ∧
          orderedVersions listed = .ok records)
      (fun reason state' => registry.SeenBetween calm index state state'
        fun seen => ∃ listed, registry.Listed seen.files capabilityId listed ∧
          orderedVersions listed = .error reason)
      (registry.versions capabilityId) :=
  reads_listed quiet faithful sound rfl

theorem reads_latest (faithful : registry.Faithful)
    (sound : registry.Sound state) {capabilityId : String} :
    registry.Reads calm index promise past state
      (fun record state' => registry.SeenBetween calm index state state'
        fun seen => ∃ listed, registry.Listed seen.files capabilityId listed ∧
          latestVersion listed = .ok record)
      (fun reason state' => registry.SeenBetween calm index state state'
        fun seen => ∃ listed, registry.Listed seen.files capabilityId listed ∧
          latestVersion listed = .error reason)
      (registry.latest capabilityId) := by
  unfold latest
  have ordered : registry.Reads calm index promise past state
      (fun records state' => registry.SeenBetween calm index state state'
        fun seen => ∃ listed, registry.Listed seen.files capabilityId listed ∧
          orderedVersions listed = .ok records)
      (fun reason state' => registry.SeenBetween calm index state state'
        fun seen => ∃ listed, registry.Listed seen.files capabilityId listed ∧
          latestVersion listed = .error reason)
      (registry.versions capabilityId) := by
    apply (reads_versions quiet faithful sound).weaken
    · intro records state' _ seen
      exact seen
    · rintro reason state' _ ⟨seen, before, after, sound', listed, all, refused⟩
      refine ⟨seen, before, after, sound', listed, all, ?_⟩
      rw [latestVersion, refused]
      rfl
  apply ordered.bind
  rintro records past₁ state₁ stands₁
    ⟨seen, before, after, sound', listed, all, returned⟩
  have same : latestVersion listed = newest records := by
    rw [latestVersion, returned]
    rfl
  apply reads_attempt stands₁.sound
  · intro record found
    exact ⟨seen, before, after, sound', listed, all, same.trans found⟩
  · intro reason refused
    exact ⟨seen, before, after, sound', listed, all, same.trans refused⟩

end Calls

end Rules

end LocalCapabilityRegistry

end ReplayForge

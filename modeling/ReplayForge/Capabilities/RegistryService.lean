import ReplayForge.Capabilities.PublicationFaults
import ReplayForge.Capabilities.RegistryRecords

/-!
# Calls that meet no failure

A directory whose calls all succeed serves every call of the registry: no call
of the operating system fails, and afterwards the lock is free and no temporary
file is left.
-/

namespace ReplayForge

open Effect RegistryCode

variable {α β : Type} {disk : Disk}

/-- Answered at once, a procedure meets no failure and ends as described. -/
def Calmly (disk : Disk) (body : RegistryCode α)
    (post : Except Raised α → Disk → Prop) : Prop :=
  (∀ event ∈ ((body.run.run ()).simulate
      (Disk.respond (fun _ => false) 0) disk).1,
    DiskEvent.failed event = false) ∧
  post ((body.run.run ()).simulate (Disk.respond (fun _ => false) 0) disk).2.1.1
    ((body.run.run ()).simulate (Disk.respond (fun _ => false) 0) disk).2.2

section Rules

variable {post post' : Except Raised α → Disk → Prop}

theorem Calmly.weaken {body : RegistryCode α} (calmly : Calmly disk body post)
    (weaker : ∀ outcome disk', post outcome disk' → post' outcome disk') :
    Calmly disk body post' :=
  ⟨calmly.1, weaker _ _ calmly.2⟩

theorem calmly_pure {value : α} (holds : post (.ok value) disk) :
    Calmly disk (pure value) post :=
  ⟨fun _ member => (nomatch member), holds⟩

theorem calmly_throw {reason : Raised} (holds : post (.error reason) disk) :
    Calmly disk (throw reason) post :=
  ⟨fun _ member => (nomatch member), holds⟩

theorem calmly_attempt {value : Except Raised α} (holds : post value disk) :
    Calmly disk (attempt value) post :=
  ⟨fun _ member => (nomatch member), holds⟩

theorem calmly_invoke {op : DiskOp}
    {read : Except OsError op.Value → Except Raised α}
    (sound : DiskEvent.failed
      ⟨op, (disk.respond (fun _ => false) 0 op).1⟩ = false)
    (holds : post (read (disk.respond (fun _ => false) 0 op).1)
      (disk.respond (fun _ => false) 0 op).2) :
    Calmly disk (@invoke DiskSig Unit Raised α op read) post := by
  refine ⟨fun event member => ?_, holds⟩
  cases List.mem_singleton.mp member
  exact sound

theorem calmly_bind {body : RegistryCode β} {next : β → RegistryCode α}
    (first : Calmly disk body fun outcome disk' =>
      match outcome with
      | .ok value => Calmly disk' (next value) post
      | .error reason => post (.error reason) disk') :
    Calmly disk (body >>= next) post := by
  obtain ⟨calm, later⟩ := first
  unfold Calmly
  rw [run_bind, Program.simulate_bind]
  revert calm later
  generalize (body.run.run ()).simulate (Disk.respond (fun _ => false) 0) disk =
    run
  obtain ⟨events, ⟨outcome, ⟨⟩⟩, disk'⟩ := run
  intro calm later
  cases outcome with
  | ok value =>
      refine ⟨fun event member => ?_, later.2⟩
      rcases List.mem_append.mp member with early | late
      · exact calm event early
      · exact later.1 event late
  | error reason =>
      refine ⟨fun event member => ?_, later⟩
      rcases List.mem_append.mp member with early | late
      · exact calm event early
      · cases late

theorem calmly_tryCatch {body : RegistryCode α}
    {handler : Raised → RegistryCode α}
    (first : Calmly disk body fun outcome disk' =>
      match outcome with
      | .ok value => post (.ok value) disk'
      | .error reason => Calmly disk' (handler reason) post) :
    Calmly disk (tryCatch body handler) post := by
  obtain ⟨calm, later⟩ := first
  unfold Calmly
  rw [run_tryCatch, Program.simulate_bind]
  revert calm later
  generalize (body.run.run ()).simulate (Disk.respond (fun _ => false) 0) disk =
    run
  obtain ⟨events, ⟨outcome, ⟨⟩⟩, disk'⟩ := run
  intro calm later
  cases outcome with
  | ok value =>
      refine ⟨fun event member => ?_, later⟩
      rcases List.mem_append.mp member with early | late
      · exact calm event early
      · cases late
  | error reason =>
      refine ⟨fun event member => ?_, later.2⟩
      rcases List.mem_append.mp member with early | late
      · exact calm event early
      · exact later.1 event late

/-- The final part runs after the body, whatever its outcome. -/
theorem calmly_ensuring {body : RegistryCode α} {final : RegistryCode Unit}
    (first : Calmly disk body fun outcome disk' =>
      Calmly disk' final fun ended disk'' =>
        match ended with
        | .ok _ => post outcome disk''
        | .error reason => post (.error reason) disk'') :
    Calmly disk (ensuring body final) post := by
  unfold ensuring
  apply calmly_bind
  apply calmly_tryCatch
  rw [map_eq_pure_bind]
  apply calmly_bind
  apply first.weaken
  intro outcome disk' last
  have finish (outcome : Except Raised α)
      (last : Calmly disk' final fun ended disk'' =>
        match ended with
        | .ok _ => post outcome disk''
        | .error reason => post (.error reason) disk'') :
      Calmly disk' (do
        final
        attempt outcome) post := by
    apply calmly_bind
    apply last.weaken
    rintro (reason | ⟨⟩) disk'' holds
    · exact holds
    · exact calmly_attempt holds
  cases outcome with
  | ok value => exact calmly_pure (finish (.ok value) last)
  | error reason => exact calmly_pure (finish (.error reason) last)

/-- The translation of errors changes nothing else. -/
theorem calmly_storage {body : RegistryCode α}
    (first : Calmly disk body fun outcome disk' =>
      match outcome with
      | .ok value => post (.ok value) disk'
      | .error _ => ∀ reason, post (.error reason) disk') :
    Calmly disk (storage body) post := by
  unfold storage
  apply calmly_tryCatch
  apply first.weaken
  rintro (reason | value) disk' holds
  · cases reason with
    | os message => exact calmly_throw (holds _)
    | _ => exact calmly_throw (holds _)
  · exact holds

theorem calmly_translating {op : DiskOp} {raised : OsError → Raised}
    {value : op.Value} {disk' : Disk} {post : Except Raised op.Value → Disk → Prop}
    (answer : disk.respond (fun _ => false) 0 op = (.ok value, disk'))
    (holds : post (.ok value) disk') :
    Calmly disk (translating op raised) post := by
  apply calmly_invoke
  · rw [answer]
    cases op <;> rfl
  · rw [answer]
    exact holds

/-- A call that neither reads nor changes what is stored. -/
theorem calmly_quiet (op : DiskOp) {value : op.Value}
    {post : Except Raised op.Value → Disk → Prop}
    (answer : disk.respond (fun _ => false) 0 op = (.ok value, disk))
    (holds : post (.ok value) disk) : Calmly disk (os op) post :=
  calmly_translating answer holds

end Rules

/-- The thread holds the lock of the directory and has no temporary file. -/
structure Disk.Locked (disk : Disk) : Prop where
  holder : disk.holder = some 0
  clean : ∀ name, disk.temporaries name = none

/-- Nobody is at work in the directory. -/
structure Disk.Idle (disk : Disk) : Prop where
  holder : disk.holder = none
  clean : ∀ name, disk.temporaries name = none

namespace LocalCapabilityRegistry

variable {registry : LocalCapabilityRegistry} {path : CapabilityKey}
  {file : StoredFile} {artifact : CapabilityArtifact}

section Reading

theorem calmly_load (faithful : registry.Faithful)
    (found : disk.files.lookup path = some file)
    (stores : registry.Stores path file artifact) :
    Calmly disk (registry.load path) fun outcome disk' =>
      outcome = .ok (registry.record file artifact) ∧ disk' = disk := by
  have size : disk.respond (fun _ => false) 0 (.size path) =
      (.ok file.content.utf8ByteSize, disk) := by
    simp only [Disk.respond, found]
  have text : disk.respond (fun _ => false) 0 (.readText path) =
      (.ok file.content, disk) := by
    simp only [Disk.respond, found]
  have stamp : disk.respond (fun _ => false) 0 (.modified path) =
      (.ok file.modified, disk) := by
    simp only [Disk.respond, found]
  unfold load raiseIf
  apply calmly_bind
  apply calmly_translating size
  dsimp only
  rw [decide_eq_false (Nat.not_lt.mpr stores.small)]
  apply calmly_bind
  apply calmly_attempt
  apply calmly_bind
  apply calmly_translating text
  dsimp only
  rw [stores.parse faithful]
  apply calmly_bind
  apply calmly_attempt
  apply calmly_bind
  apply calmly_translating stamp
  exact calmly_pure ⟨rfl, rfl⟩

theorem calmly_loadAll (faithful : registry.Faithful)
    (sound : registry.Sound disk) {paths : List CapabilityKey}
    (present : ∀ path ∈ paths, disk.files.lookup path ≠ none) :
    Calmly disk (registry.loadAll paths) fun _ disk' => disk' = disk := by
  induction paths with
  | nil => exact calmly_pure rfl
  | cons path rest ih =>
      obtain ⟨file, found⟩ :=
        Option.ne_none_iff_exists'.mp (present path List.mem_cons_self)
      obtain ⟨artifact, stores⟩ := sound path file found
      apply calmly_bind
      apply (calmly_load faithful found stores).weaken
      rintro _ disk' ⟨rfl, rfl⟩
      apply calmly_bind
      apply (ih fun other member =>
        present other (List.mem_cons_of_mem _ member)).weaken
      rintro (reason | records) disk'' rfl
      · rfl
      · exact calmly_pure rfl

theorem calmly_versionsLocked (faithful : registry.Faithful)
    (sound : registry.Sound disk) (capabilityId : String) :
    Calmly disk (registry.versionsLocked capabilityId) fun _ disk' =>
      disk' = disk := by
  unfold versionsLocked
  apply calmly_bind
  apply calmly_attempt
  cases named : capabilityDirectory capabilityId with
  | error reason => rfl
  | ok directory =>
      have present : disk.respond (fun _ => false) 0 (.isDir directory) =
          (.ok (disk.files.keys.any (·.1 = directory)), disk) := rfl
      apply calmly_bind
      apply calmly_translating present
      dsimp only
      split
      next =>
        apply calmly_bind
        apply calmly_invoke
        · rfl
        have lists : Lists disk.files directory
            (disk.files.keys.filterMap fun key =>
              if key.1 = directory then some key.2 else none) :=
          (Disk.respond_lawful (fun _ => false) 0 [] disk (.glob directory)).2
        apply calmly_loadAll faithful sound
        intro path member
        obtain ⟨version, inside, rfl⟩ := List.mem_map.mp member
        exact (lists.2 version).mp inside
      next => exact calmly_pure rfl

end Reading

section Publishing

theorem calmly_loadExisting (faithful : registry.Faithful)
    (sound : registry.Sound disk) {contentHash : String}
    (present : disk.files.lookup path ≠ none) :
    Calmly disk (registry.loadExisting path contentHash) fun _ disk' =>
      disk' = disk := by
  obtain ⟨file, found⟩ := Option.ne_none_iff_exists'.mp present
  obtain ⟨artifact, stores⟩ := sound path file found
  unfold loadExisting raiseIf
  apply calmly_bind
  apply (calmly_load faithful found stores).weaken
  rintro _ disk' ⟨rfl, rfl⟩
  apply calmly_bind
  apply calmly_attempt
  split
  next => exact calmly_pure rfl
  next => rfl

/-- The directory with a temporary file of the thread. -/
theorem calmly_allocate (clean : ∀ name, disk.temporaries name = none) :
    Calmly disk (allocate path) fun outcome disk' => ∃ name,
      outcome = .ok name ∧ disk' = disk.withTemporary name (some (0, "")) := by
  have made : disk.respond (fun _ => false) 0 (.mkstemp path) =
      (.ok ("." ++ path.2 ++ ".yaml.tmp"),
        disk.withTemporary ("." ++ path.2 ++ ".yaml.tmp") (some (0, ""))) := by
    simp only [Disk.respond, clean]
  unfold allocate syncDirectory
  apply calmly_storage
  apply calmly_bind
  apply calmly_quiet (.mkdir path.1) rfl
  apply calmly_bind
  apply calmly_bind
  apply calmly_quiet (.openDirectory none) rfl
  apply calmly_ensuring
  apply calmly_quiet (.syncDirectory none) rfl
  apply calmly_quiet (.closeDirectory none) rfl
  apply calmly_translating made
  exact ⟨_, rfl, rfl⟩

theorem calmly_writeFile {temporary content held : String}
    (owned : disk.temporaries temporary = some (0, held)) :
    Calmly disk (writeFile temporary content) fun outcome disk' =>
      outcome = .ok () ∧
        disk' = disk.withTemporary temporary (some (0, content)) := by
  have written : disk.respond (fun _ => false) 0 (.write temporary content) =
      (.ok (), disk.withTemporary temporary (some (0, content))) := by
    simp [Disk.respond, owned]
  unfold writeFile
  apply calmly_bind
  apply calmly_quiet (.fdopen temporary) rfl
  apply calmly_ensuring
  apply calmly_bind
  apply calmly_translating written
  apply calmly_bind
  apply calmly_quiet (.flush temporary) rfl
  apply calmly_quiet (.sync temporary) rfl
  apply calmly_quiet (.close temporary) rfl
  exact ⟨rfl, rfl⟩

theorem withTemporary_again {temporary : String}
    (first second : Option (Nat × String)) :
    (disk.withTemporary temporary first).withTemporary temporary second =
      disk.withTemporary temporary second := by
  simp [Disk.withTemporary]

theorem withTemporary_none {temporary : String}
    (clean : ∀ name, disk.temporaries name = none) :
    disk.withTemporary temporary none = disk := by
  have same : Function.update disk.temporaries temporary none =
      disk.temporaries := by
    rw [← clean temporary]
    exact Function.update_eq_self _ _
  rw [Disk.withTemporary, same]

/-- A free destination is linked, and the temporary file is removed. -/
theorem calmly_linkFile {temporary content contentHash : String}
    (clean : ∀ name, disk.temporaries name = none)
    (free : disk.files.lookup path = none) :
    Calmly (disk.withTemporary temporary (some (0, "")))
      (registry.linkFile temporary content path contentHash)
      fun outcome disk' => outcome = .ok none ∧ ∃ stamp,
        disk' = { disk with
          files := disk.files.insert path ⟨content, stamp⟩ } := by
  have owned (files : Files) (content : String) :
      ({ disk with files }.withTemporary temporary
        (some (0, content))).temporaries temporary = some (0, content) :=
    Function.update_self ..
  let stamp : Timestamp := { year := 2026, month := 1, day := 1 }
  let stored : Disk := { disk with
    files := disk.files.insert path ⟨content, stamp⟩ }
  have linked : (disk.withTemporary temporary (some (0, content))).respond
      (fun _ => false) 0 (.link temporary path) =
      (.ok (), stored.withTemporary temporary (some (0, content))) := by
    have own := owned disk.files content
    simp only [Disk.respond, own, show (disk.withTemporary temporary
      (some (0, content))).files.lookup path = none from free, if_true]
    rfl
  have removed : (stored.withTemporary temporary (some (0, content))).respond
      (fun _ => false) 0 (.unlink temporary) = (.ok (), stored) := by
    have own : ((stored.withTemporary temporary
        (some (0, content))).temporaries temporary).map Prod.fst = some 0 :=
      congrArg (Option.map Prod.fst) (owned stored.files content)
    have kept : stored.withTemporary temporary none = stored :=
      withTemporary_none clean
    simp only [Disk.respond, own, if_true, withTemporary_again, kept]
  unfold linkFile link syncDirectory
  apply calmly_ensuring
  apply calmly_storage
  apply calmly_bind
  apply (calmly_writeFile (owned disk.files "")).weaken
  rintro _ disk₁ ⟨rfl, rfl⟩
  rw [withTemporary_again]
  apply calmly_bind
  apply calmly_invoke
  · rw [linked]
    rfl
  rw [linked]
  apply calmly_bind
  apply calmly_bind
  apply calmly_quiet (.openDirectory (some path.1)) rfl
  apply calmly_ensuring
  apply calmly_quiet (.syncDirectory (some path.1)) rfl
  apply calmly_quiet (.closeDirectory (some path.1)) rfl
  apply calmly_pure
  apply calmly_translating removed
  exact ⟨rfl, stamp, rfl⟩

theorem calmly_create (faithful : registry.Faithful)
    (accepted : registry.serializers.Accepted registry.host artifact)
    (declared : registry.serializers.declaredHash artifact =
      .ok (registry.serializers.artifactContentHash artifact))
    (convertible : isConvertible artifact.capability.version = true)
    (locked : disk.Locked) (free : disk.files.lookup artifact.key = none)
    (contentHash : String) :
    Calmly disk (registry.create artifact artifact.key contentHash)
      fun _ disk' => disk'.Locked := by
  unfold create raiseIf
  by_cases large : registry.maximumArtifactBytes <
      (registry.serializers.dumpArtifactYaml artifact).utf8ByteSize
  · simp only [large, decide_true, if_true]
    apply calmly_bind
    exact calmly_attempt locked
  simp only [large, decide_false, Bool.false_eq_true, if_false, attempt_ok_bind]
  apply calmly_bind
  apply (calmly_allocate locked.clean).weaken
  rintro _ disk₁ ⟨temporary, rfl, rfl⟩
  apply calmly_bind
  apply (calmly_linkFile locked.clean free).weaken
  rintro _ disk₂ ⟨rfl, stamp, rfl⟩
  have stores : registry.Stores artifact.key
      ⟨registry.serializers.dumpArtifactYaml artifact, stamp⟩ artifact := {
    accepted, convertible, declared
    small := Nat.not_lt.mp large
    key := rfl
    content := rfl }
  apply (calmly_load faithful (AList.lookup_insert _) stores).weaken
  rintro _ disk₃ ⟨-, rfl⟩
  exact ⟨locked.holder, locked.clean⟩

theorem calmly_publishLocked (faithful : registry.Faithful)
    (accepted : registry.serializers.Accepted registry.host artifact)
    (sound : registry.Sound disk) (locked : disk.Locked) :
    Calmly disk (registry.publishLocked artifact) fun _ disk' =>
      disk'.Locked := by
  obtain ⟨named, fits⟩ := accepted_metadata accepted
  unfold publishLocked
  apply calmly_bind
  apply calmly_attempt
  cases declared : registry.serializers.declaredHash artifact with
  | error reason => exact locked
  | ok contentHash =>
  cases declaredHash_ok declared
  apply calmly_bind
  apply calmly_attempt
  cases convertible : isConvertible artifact.capability.version with
  | false =>
      rw [path_inconvertible named fits convertible]
      exact locked
  | true =>
  rw [path_convertible named fits convertible]
  have taken : disk.respond (fun _ => false) 0 (.exists artifact.key) =
      (.ok (disk.files.lookup artifact.key).isSome, disk) := rfl
  apply calmly_bind
  apply calmly_translating taken
  cases found : disk.files.lookup artifact.key with
  | some file =>
      apply (calmly_loadExisting faithful sound
        (show disk.files.lookup artifact.key ≠ none by simp [found])).weaken
      rintro _ disk' rfl
      exact locked
  | none =>
      exact calmly_create faithful accepted declared convertible locked found _

theorem calmly_publishNextLocked (faithful : registry.Faithful)
    (accepted : registry.serializers.Accepted registry.host artifact)
    (sound : registry.Sound disk) (locked : disk.Locked) :
    Calmly disk (registry.publishNextLocked artifact) fun _ disk' =>
      disk'.Locked := by
  unfold publishNextLocked
  apply calmly_bind
  apply (calmly_versionsLocked faithful sound _).weaken
  rintro (reason | existing) disk' rfl
  · exact locked
  apply calmly_bind
  apply calmly_attempt
  cases made : registry.nextArtifact artifact existing with
  | error reason => exact locked
  | ok candidate =>
      exact calmly_publishLocked faithful
        ((nextArtifact_eq_ok made).accepted faithful accepted) sound locked

theorem calmly_writeLock {body : RegistryCode CapabilityVersionRecord}
    (idle : disk.Idle)
    (inner : ∀ locked : Disk, locked.files = disk.files → locked.Locked →
      Calmly locked body fun _ disk' => disk'.Locked) :
    Calmly disk (writeLock body) fun _ disk' => disk'.Idle := by
  have locks : disk.respond (fun _ => false) 0 .lock =
      (.ok (), { disk with holder := some 0 }) := by
    simp only [Disk.respond, idle.holder]
  have releases (disk : Disk) : disk.respond (fun _ => false) 0 .unlock =
      (.ok (), disk.freed 0) := rfl
  have closes (disk : Disk) : disk.respond (fun _ => false) 0 .closeRoot =
      (.ok (), disk.freed 0) := rfl
  unfold writeLock
  apply calmly_bind
  apply calmly_storage
  apply calmly_quiet .openRoot rfl
  apply calmly_bind
  apply calmly_tryCatch
  apply calmly_translating locks
  apply calmly_ensuring
  apply (inner { disk with holder := some 0 } rfl ⟨rfl, idle.clean⟩).weaken
  intro outcome disk' locked
  apply calmly_bind
  apply calmly_translating (releases _)
  apply calmly_translating (closes _)
  exact ⟨by simp [Disk.freed, locked.holder], locked.clean⟩

end Publishing

theorem calmly_get (faithful : registry.Faithful)
    (sound : registry.Sound disk) (capabilityId version : String) :
    Calmly disk (registry.get capabilityId version) fun _ disk' =>
      disk' = disk := by
  unfold get
  apply calmly_bind
  apply calmly_attempt
  cases located : LocalCapabilityRegistry.path capabilityId version with
  | error reason => rfl
  | ok path =>
      have present : disk.respond (fun _ => false) 0 (.exists path) =
          (.ok (disk.files.lookup path).isSome, disk) := rfl
      apply calmly_bind
      apply calmly_translating present
      cases found : disk.files.lookup path with
      | none => exact calmly_throw rfl
      | some file =>
          obtain ⟨artifact, stores⟩ := sound path file found
          apply (calmly_load faithful found stores).weaken
          rintro _ disk' ⟨-, rfl⟩
          rfl

theorem calmly_versions (faithful : registry.Faithful)
    (sound : registry.Sound disk) (capabilityId : String) :
    Calmly disk (registry.versions capabilityId) fun _ disk' =>
      disk' = disk := by
  unfold versions
  apply calmly_bind
  apply (calmly_versionsLocked faithful sound _).weaken
  rintro (reason | records) disk' rfl
  · rfl
  · exact calmly_attempt rfl

/-- Whatever is called in an idle directory meets no failure, and leaves it
idle. -/
theorem calmly_call (faithful : registry.Faithful) (call : RegistryCall)
    (accepted : call.Accepted registry.serializers registry.host)
    (sound : registry.Sound disk) (idle : disk.Idle) :
    Calmly disk (call.code registry) fun _ disk' => disk'.Idle := by
  have sound' {locked : Disk} (same : locked.files = disk.files) :
      registry.Sound locked := by
    unfold Sound
    rw [same]
    exact sound
  have answered {α : Type} {body : RegistryCode α}
      {answer : α → RegistryAnswer}
      (calmly : Calmly disk body fun _ disk' => disk'.Idle) :
      Calmly disk (do
        let value ← body
        pure (answer value)) fun _ disk' => disk'.Idle := by
    apply calmly_bind
    apply calmly.weaken
    rintro (reason | value) disk' idle'
    · exact idle'
    · exact calmly_pure idle'
  cases call with
  | publish artifact =>
      exact answered (calmly_writeLock idle fun locked same held =>
        calmly_publishLocked faithful (accepted artifact rfl) (sound' same) held)
  | publishNext artifact =>
      exact answered (calmly_writeLock idle fun locked same held =>
        calmly_publishNextLocked faithful (accepted artifact rfl) (sound' same)
          held)
  | get capabilityId version =>
      apply answered
      apply (calmly_get faithful sound _ _).weaken
      rintro _ disk' rfl
      exact idle
  | versions capabilityId =>
      apply answered
      apply (calmly_versions faithful sound _).weaken
      rintro _ disk' rfl
      exact idle
  | latest capabilityId =>
      apply answered
      unfold latest
      apply calmly_bind
      apply (calmly_versions faithful sound _).weaken
      rintro (reason | records) disk' rfl
      · exact idle
      · exact calmly_attempt idle

end LocalCapabilityRegistry

end ReplayForge

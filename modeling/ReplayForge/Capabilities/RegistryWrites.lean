import ReplayForge.Capabilities.RegistryReads

/-!
# Publishing under the lock

While a thread holds the lock of the directory nobody else makes a version
visible.  What a publication does is therefore decided by the files it finds
when it takes the lock, and by the first of its calls that fails.
-/

namespace ReplayForge

open Effect RegistryCode

namespace LocalCapabilityRegistry

variable {registry : LocalCapabilityRegistry}

/-- A thread holds the lock, has come to a stage and finds some files; it may
have written a temporary file. -/
structure Inside (registry : LocalCapabilityRegistry) (index : Nat)
    (files : Files) (stage : Stage) (held : Option (String × String))
    (past : List DiskEvent) (state : Disk) : Prop where
  holder : state.holder = some index
  files : state.files = files
  stage : Stage.reached past = stage
  sound : registry.Sound state
  owned : ∀ name content, held = some (name, content) →
    state.temporaries name = some (index, content)

/-- What becomes of a publication, given the stored files: it is refused, the
stored record is returned, or a new version is made. -/
inductive Verdict (registry : LocalCapabilityRegistry) (files : Files)
    (artifact : CapabilityArtifact) :
    Except Raised (Option CapabilityVersionRecord) → Prop where
  | undeclared {reason : Raised} :
      registry.serializers.declaredHash artifact = .error reason →
      Verdict registry files artifact (.error reason)
  | inconvertible :
      registry.serializers.declaredHash artifact =
        .ok (registry.serializers.artifactContentHash artifact) →
      isConvertible artifact.capability.version = false →
      Verdict registry files artifact (.error .capabilityNotFound)
  | conflict {record : CapabilityVersionRecord} :
      registry.serializers.declaredHash artifact =
        .ok (registry.serializers.artifactContentHash artifact) →
      registry.Holds files artifact.key record →
      record.contentHash ≠ registry.serializers.artifactContentHash artifact →
      Verdict registry files artifact (.error .capabilityConflict)
  | existing {record : CapabilityVersionRecord} :
      registry.serializers.declaredHash artifact =
        .ok (registry.serializers.artifactContentHash artifact) →
      registry.Holds files artifact.key record →
      record.contentHash = registry.serializers.artifactContentHash artifact →
      Verdict registry files artifact (.ok (some record))
  | large {message : String} :
      registry.serializers.declaredHash artifact =
        .ok (registry.serializers.artifactContentHash artifact) →
      isConvertible artifact.capability.version = true →
      files.lookup artifact.key = none →
      registry.maximumArtifactBytes <
        (registry.serializers.dumpArtifactYaml artifact).utf8ByteSize →
      Verdict registry files artifact (.error (.capabilityIntegrity message))
  | fresh :
      registry.serializers.declaredHash artifact =
        .ok (registry.serializers.artifactContentHash artifact) →
      isConvertible artifact.capability.version = true →
      files.lookup artifact.key = none →
      (registry.serializers.dumpArtifactYaml artifact).utf8ByteSize ≤
        registry.maximumArtifactBytes →
      Verdict registry files artifact (.ok none)

theorem declaredHash_ok {serializers : Serializers}
    {artifact : CapabilityArtifact} {contentHash : String}
    (declared : serializers.declaredHash artifact = .ok contentHash) :
    contentHash = serializers.artifactContentHash artifact := by
  unfold Serializers.declaredHash at declared
  dsimp only at declared
  split at declared
  next => exact (Except.ok.inj declared).symm
  next => cases declared

/-- How a publication has ended: `target` is what there was to publish, and
`At` holds where the files and the stage are known. -/
inductive Ends (registry : LocalCapabilityRegistry)
    (At : Files → Stage → List DiskEvent → Disk → Prop)
    (target : Except Raised CapabilityArtifact → Prop) (files : Files)
    (stage : Stage) :
    Except Raised CapabilityVersionRecord → List DiskEvent → Disk → Prop where
  | unnumbered {reason : Raised} {past : List DiskEvent} {state : Disk} :
      target (.error reason) → At files stage past state →
      Ends registry At target files stage (.error reason) past state
  | refused {artifact : CapabilityArtifact} {reason : Raised}
      {past : List DiskEvent} {state : Disk} :
      target (.ok artifact) → Verdict registry files artifact (.error reason) →
      At files stage past state →
      Ends registry At target files stage (.error reason) past state
  | existing {artifact : CapabilityArtifact} {record : CapabilityVersionRecord}
      {past : List DiskEvent} {state : Disk} :
      target (.ok artifact) →
      Verdict registry files artifact (.ok (some record)) →
      At files stage past state →
      Ends registry At target files stage (.ok record) past state
  | created {artifact : CapabilityArtifact} {past : List DiskEvent}
      {state : Disk} (stamp : Timestamp) :
      target (.ok artifact) → Verdict registry files artifact (.ok none) →
      At (files.insert artifact.key
        ⟨registry.serializers.dumpArtifactYaml artifact, stamp⟩) stage.link
        past state →
      Ends registry At target files stage
        (.ok {
          artifact
          contentHash := registry.serializers.artifactContentHash artifact
          publishedAt := stamp }) past state
  | failed {reason : Raised} {past : List DiskEvent} {state : Disk} :
      At files stage.fail past state →
      Ends registry At target files stage (.error reason) past state
  | broken {artifact : CapabilityArtifact} {reason : Raised}
      {past : List DiskEvent} {state : Disk} (stamp : Timestamp) :
      target (.ok artifact) → Verdict registry files artifact (.ok none) →
      At (files.insert artifact.key
        ⟨registry.serializers.dumpArtifactYaml artifact, stamp⟩)
        stage.link.fail past state →
      Ends registry At target files stage (.error reason) past state

section Rules

variable {calm : Prop} {index : Nat} {promise : Promise DiskSig Disk}
  {past past' : List DiskEvent} {state state' : Disk} {files : Files}
  {stage : Stage} {held : Option (String × String)} {α β : Type}

theorem Inside.forget
    (inside : registry.Inside index files stage held past state) :
    registry.Inside index files stage none past state :=
  { inside with owned := fun _ _ same => nomatch same }

theorem Inside.stands
    (inside : registry.Inside index files stage held past state)
    (stands : registry.Stands calm index past state past' state') :
    registry.Inside index files stage held past' state' where
  holder := (stands.rely.1.held inside.holder).1
  files := (stands.rely.1.held inside.holder).2.trans inside.files
  stage := stands.stage.trans inside.stage
  sound := stands.sound
  owned name content same :=
    stands.rely.1.owned name content (inside.owned name content same)

theorem Inside.fails
    (inside : registry.Inside index files stage held past state)
    (fails : registry.Fails calm index past state past' state') :
    registry.Inside index files stage.fail held past' state' where
  holder := (fails.rely.1.held inside.holder).1
  files := (fails.rely.1.held inside.holder).2.trans inside.files
  stage := fails.stage.trans (congrArg Stage.fail inside.stage)
  sound := fails.sound
  owned name content same :=
    fails.rely.1.owned name content (inside.owned name content same)

/-- A reader inside the lock. -/
theorem keeps_reads {body : RegistryCode α} {result : α → Disk → Prop}
    {error : Raised → Disk → Prop}
    (inside : registry.Inside index files stage held past state)
    (reads : registry.Reads calm index promise past state result error body) :
    Keeps (registry.shared calm) index promise body () past state
      (fun value _ past' state' =>
        registry.Inside index files stage held past' state' ∧
          result value state')
      (fun reason _ past' state' =>
        registry.Inside index files stage.fail held past' state' ∨
          (registry.Inside index files stage held past' state' ∧
            error reason state')) := by
  apply Keeps.weaken reads
  · rintro value ⟨⟩ past' state' ⟨stands, holds⟩
    exact ⟨inside.stands stands, holds⟩
  · rintro reason ⟨⟩ past' state' (fails | ⟨stands, why⟩)
    · exact .inl (inside.fails fails)
    · exact .inr ⟨inside.stands stands, why⟩

/-- A call that neither reads nor changes what is stored. -/
theorem keeps_quiet (quiet : Quiets promise) {op : DiskOp}
    (none : op.isQuiet = true)
    (inside : registry.Inside index files stage held past state) :
    Keeps (registry.shared calm) index promise (os op) () past state
      (fun _ _ past' state' =>
        registry.Inside index files stage held past' state')
      (fun _ _ past' state' =>
        registry.Inside index files stage.fail held past' state') := by
  have reads : registry.Reads calm index promise past state
      (fun value state' => op.Leaves index state' (.ok value) state')
      (fun _ _ => False) (os op) := by
    apply reads_os quiet (DiskOp.Leaves.of_quiet none)
    · intro answer
      cases op with
      | link => cases none
      | _ => rfl
    · intro answer
      cases op with
      | link | size => cases none
      | _ => rfl
  apply (keeps_reads inside reads).weaken
  · rintro value ⟨⟩ past' state' ⟨inside', -⟩
    exact inside'
  · rintro reason ⟨⟩ past' state' (failed | ⟨-, absurd⟩)
    · exact failed
    · exact absurd.elim

/-- The final part runs after the body, whatever its outcome. -/
theorem keeps_ensuring {body : RegistryCode α} {final : RegistryCode Unit}
    {between after : Except Raised α → List DiskEvent → Disk → Prop}
    (first : Keeps (registry.shared calm) index promise body () past state
      (fun value _ past' state' => between (.ok value) past' state')
      (fun error _ past' state' => between (.error error) past' state'))
    (finish : ∀ outcome past' state', between outcome past' state' →
      Keeps (registry.shared calm) index promise final () past' state'
        (fun _ _ past'' state'' => after outcome past'' state'')
        (fun error _ past'' state'' => after (.error error) past'' state'')) :
    Keeps (registry.shared calm) index promise (ensuring body final) ()
      past state
      (fun value _ past' state' => after (.ok value) past' state')
      (fun error _ past' state' => after (.error error) past' state') := by
  unfold ensuring
  apply keeps_bind (Q := fun outcome _ past' state' =>
    between outcome past' state')
  · apply keeps_tryCatch (Q := fun error _ past' state' =>
      between (.error error) past' state')
    · rw [map_eq_pure_bind]
      apply keeps_bind first
      rintro value ⟨⟩ past' state' holds
      exact keeps_pure holds
    · rintro error ⟨⟩ past' state' holds
      exact keeps_pure holds
  · rintro outcome ⟨⟩ past' state' holds
    apply keeps_bind (finish outcome past' state' holds)
    rintro ⟨⟩ ⟨⟩ past'' state'' ended
    apply keeps_attempt
    · rintro value rfl
      exact ended
    · rintro error rfl
      exact ended

/-- The translation of errors changes nothing else. -/
theorem keeps_storage {body : RegistryCode α}
    {after : α → Unit → List DiskEvent → Disk → Prop}
    {raised : List DiskEvent → Disk → Prop}
    (keeps : Keeps (registry.shared calm) index promise body () past state
      after (fun _ _ past' state' => raised past' state')) :
    Keeps (registry.shared calm) index promise (storage body) () past state
      after (fun _ _ past' state' => raised past' state') := by
  unfold storage
  apply keeps_tryCatch keeps
  rintro error ⟨⟩ past' state' holds
  cases error with
  | os message => exact keeps_throw holds
  | _ => exact keeps_throw holds

section Own

theorem grows_withTemporary {before : Disk} {name : String} {other : Nat}
    {fresh : Option (Nat × String)} (apart : other ≠ index)
    (own : ∀ owner content, before.temporaries name = some (owner, content) →
      owner = index) : before.Grows other (before.withTemporary name fresh) where
  kept _ _ found := found
  held holds := ⟨holds, rfl⟩
  owned name' content found := by
    by_cases same : name' = name
    · subst same
      exact absurd (own other content found) apart
    · simpa [Disk.withTemporary, Function.update_of_ne same] using found

/-- A call of the holder of the lock that changes the directory. -/
theorem keeps_own {op : DiskOp} {read : Except OsError op.Value → Except Raised α}
    (alone : calm → index = 0)
    (inside : registry.Inside index files stage held past state)
    (commit : ∀ before answer after,
      registry.Inside index files stage held past before →
      op.Leaves index before answer after →
      registry.Sound after ∧
        (∀ other, other ≠ index → before.Grows other after) ∧
        promise past before ⟨op, answer⟩ after) :
    Keeps (registry.shared calm) index promise
      (@invoke DiskSig Unit Raised α op read) () past state
      (fun value _ past' state' => ∃ answer, read answer = .ok value ∧
        past' = past ++ [⟨op, answer⟩] ∧ registry.Sound state' ∧
        ∃ before, registry.Inside index files stage held past before ∧
          op.Leaves index before answer state')
      (fun error _ past' state' => ∃ answer, read answer = .error error ∧
        past' = past ++ [⟨op, answer⟩] ∧ registry.Sound state' ∧
        ∃ before, registry.Inside index files stage held past before ∧
          op.Leaves index before answer state') := by
  apply keeps_invoke
  intro before answer after sound rely leaves
  have here : registry.Inside index files stage held past before :=
    inside.stands ⟨rfl, rely, sound⟩
  obtain ⟨sound', grows, promised⟩ := commit before answer after here leaves
  refine ⟨⟨sound', fun other apart => ⟨grows other apart, ?_⟩, promised⟩,
    ?_, ?_⟩
  · intro still zero
    exact absurd (zero.trans (alone still).symm) apart
  · intro value returned
    exact ⟨answer, returned, rfl, sound', before, here, leaves⟩
  · intro error failed
    exact ⟨answer, failed, rfl, sound', before, here, leaves⟩

/-- A call whose failure is raised as it is. -/
theorem keeps_own_os {op : DiskOp} (alone : calm → index = 0)
    (inside : registry.Inside index files stage held past state)
    (commit : ∀ before answer after,
      registry.Inside index files stage held past before →
      op.Leaves index before answer after →
      registry.Sound after ∧
        (∀ other, other ≠ index → before.Grows other after) ∧
        promise past before ⟨op, answer⟩ after) :
    Keeps (registry.shared calm) index promise (os op) () past state
      (fun value _ past' state' => past' = past ++ [⟨op, .ok value⟩] ∧
        registry.Sound state' ∧
        ∃ before, registry.Inside index files stage held past before ∧
          op.Leaves index before (.ok value) state')
      (fun _ _ past' state' => ∃ answer, past' = past ++ [⟨op, .error answer⟩] ∧
        registry.Sound state' ∧
        ∃ before, registry.Inside index files stage held past before ∧
          op.Leaves index before (.error answer) state') := by
  apply (keeps_own alone inside commit).weaken
  · rintro value ⟨⟩ past' state' ⟨answer, returned, rest⟩
    cases answer with
    | error error => cases returned
    | ok other =>
        cases returned
        exact rest
  · rintro error ⟨⟩ past' state' ⟨answer, failed, rest⟩
    cases answer with
    | ok value => cases failed
    | error answer => exact ⟨answer, rest⟩

theorem Inside.snoc_ok {op : DiskOp} {value : op.Value}
    {before : Disk} {fresh : Option (String × String)}
    (inside : registry.Inside index files stage held past before)
    (unlinked : DiskEvent.linked ⟨op, .ok value⟩ = false)
    (holder : state.holder = before.holder) (same : state.files = before.files)
    (sound : registry.Sound state)
    (owned : ∀ name content, fresh = some (name, content) →
      state.temporaries name = some (index, content)) :
    registry.Inside index files stage fresh (past ++ [⟨op, .ok value⟩]) state
    where
  holder := holder.trans inside.holder
  files := same.trans inside.files
  stage := by
    have sound : DiskEvent.failed ⟨op, .ok value⟩ = false := by cases op <;> rfl
    rw [Stage.reached_snoc, Stage.step_quiet sound unlinked, inside.stage]
  sound
  owned

theorem Inside.snoc_error {op : DiskOp} {answer : OsError} {before : Disk}
    {fresh : Option (String × String)}
    (inside : registry.Inside index files stage held past before)
    (failed : DiskEvent.failed ⟨op, .error answer⟩ = true)
    (holder : state.holder = before.holder) (same : state.files = before.files)
    (sound : registry.Sound state)
    (owned : ∀ name content, fresh = some (name, content) →
      state.temporaries name = some (index, content)) :
    registry.Inside index files stage.fail fresh
      (past ++ [⟨op, .error answer⟩]) state where
  holder := holder.trans inside.holder
  files := same.trans inside.files
  stage := by
    have unlinked : DiskEvent.linked ⟨op, .error answer⟩ = false := by
      cases op <;> rfl
    rw [Stage.reached_snoc, Stage.step_failed failed unlinked, inside.stage]
  sound
  owned

variable (alone : calm → index = 0) (quiet : Quiets promise)

include alone quiet

theorem keeps_mkstemp {path : CapabilityKey}
    (inside : registry.Inside index files stage held past state) :
    Keeps (registry.shared calm) index promise (os (.mkstemp path)) ()
      past state
      (fun name _ past' state' =>
        registry.Inside index files stage (some (name, "")) past' state')
      (fun _ _ past' state' =>
        registry.Inside index files stage.fail none past' state') := by
  apply (keeps_own_os alone inside ?_).weaken
  · rintro name ⟨⟩ past' state' ⟨rfl, sound, before, here, free, rfl⟩
    refine here.snoc_ok rfl rfl rfl sound ?_
    rintro other content same
    cases same
    exact Function.update_self _ _ _
  · rintro error ⟨⟩ past' state' ⟨answer, rfl, sound, before, here, leaves⟩
    cases leaves
    exact here.snoc_error rfl rfl rfl sound (fun _ _ same => nomatch same)
  · intro before answer after here leaves
    cases answer with
    | error reason =>
        cases leaves
        exact ⟨here.sound, fun other _ => .refl other _, quiet _ _ _ _ rfl⟩
    | ok name =>
        obtain ⟨free, rfl⟩ := leaves
        refine ⟨here.sound, fun other apart => ?_, quiet _ _ _ _ rfl⟩
        apply grows_withTemporary apart
        intro owner content found
        rw [free] at found
        cases found

theorem keeps_write {name content : String} {old : String}
    (inside : registry.Inside index files stage (some (name, old)) past state) :
    Keeps (registry.shared calm) index promise (os (.write name content)) ()
      past state
      (fun _ _ past' state' =>
        registry.Inside index files stage (some (name, content)) past' state')
      (fun _ _ past' state' => ∃ part,
        registry.Inside index files stage.fail (some (name, part))
          past' state') := by
  apply (keeps_own_os alone inside ?_).weaken
  · rintro value ⟨⟩ past' state' ⟨rfl, sound, before, here, -, rfl⟩
    refine here.snoc_ok rfl rfl rfl sound ?_
    rintro other content same
    cases same
    exact Function.update_self _ _ _
  · rintro error ⟨⟩ past' state'
      ⟨answer, rfl, sound, before, here, rfl | ⟨-, part, rfl⟩⟩
    · exact ⟨old, here.snoc_error rfl rfl rfl sound here.owned⟩
    · refine ⟨part, here.snoc_error rfl rfl rfl sound ?_⟩
      rintro other content same
      cases same
      exact Function.update_self _ _ _
  · intro before answer after here leaves
    have mine := here.owned name old rfl
    have own : ∀ owner content,
        before.temporaries name = some (owner, content) → owner = index := by
      intro owner content found
      rw [mine] at found
      cases found
      rfl
    cases answer with
    | error reason =>
        rcases leaves with rfl | ⟨-, part, rfl⟩
        · exact ⟨here.sound, fun other _ => .refl other _, quiet _ _ _ _ rfl⟩
        · exact ⟨here.sound, fun other apart => grows_withTemporary apart own,
            quiet _ _ _ _ rfl⟩
    | ok value =>
        obtain ⟨-, rfl⟩ := leaves
        exact ⟨here.sound, fun other apart => grows_withTemporary apart own,
          quiet _ _ _ _ rfl⟩

theorem keeps_unlink {name content : String}
    (inside : registry.Inside index files stage (some (name, content))
      past state) :
    Keeps (registry.shared calm) index promise (os (.unlink name)) ()
      past state
      (fun _ _ past' state' =>
        registry.Inside index files stage none past' state')
      (fun _ _ past' state' =>
        registry.Inside index files stage.fail none past' state') := by
  apply (keeps_own_os alone inside ?_).weaken
  · rintro value ⟨⟩ past' state' ⟨rfl, sound, before, here, -, rfl⟩
    exact here.snoc_ok rfl rfl rfl sound (fun _ _ same => nomatch same)
  · rintro error ⟨⟩ past' state' ⟨answer, rfl, sound, before, here, leaves⟩
    cases leaves
    exact here.snoc_error rfl rfl rfl sound (fun _ _ same => nomatch same)
  · intro before answer after here leaves
    have mine := here.owned name content rfl
    cases answer with
    | error reason =>
        cases leaves
        exact ⟨here.sound, fun other _ => .refl other _, quiet _ _ _ _ rfl⟩
    | ok value =>
        obtain ⟨-, rfl⟩ := leaves
        refine ⟨here.sound, fun other apart => ?_, quiet _ _ _ _ rfl⟩
        apply grows_withTemporary apart
        intro owner content found
        rw [mine] at found
        cases found
        rfl

/-- The holder of the lock makes a new version visible. -/
theorem keeps_link {name content : String} {path : CapabilityKey}
    {artifact : CapabilityArtifact}
    (inside : registry.Inside index files stage (some (name, content))
      past state) (free : files.lookup path = none)
    (stores : ∀ stamp, registry.Stores path ⟨content, stamp⟩ artifact)
    (published : ∀ before answer after, before.files = files →
      promise past before ⟨.link name path, .ok answer⟩ after) :
    Keeps (registry.shared calm) index promise (link name path) ()
      past state
      (fun made _ past' state' => made = true ∧ ∃ stamp,
        registry.Inside index (files.insert path ⟨content, stamp⟩) stage.link
          (some (name, content)) past' state')
      (fun _ _ past' state' =>
        registry.Inside index files stage.fail (some (name, content))
          past' state') := by
  apply (keeps_own alone inside ?_).weaken
  · rintro made ⟨⟩ past' state'
      ⟨answer, returned, rfl, sound, before, here, leaves⟩
    cases answer with
    | ok value =>
        cases returned
        obtain ⟨-, other, stamp, mine, rfl⟩ := leaves
        have same := here.owned name content rfl
        rw [mine] at same
        cases same
        refine ⟨rfl, stamp, ⟨here.holder, ?_, ?_, sound, here.owned⟩⟩
        · rw [here.files]
        · rw [Stage.reached_snoc, here.stage]
          simp [Stage.step, Stage.link, DiskEvent.linked, DiskEvent.failed]
    | error reason =>
        cases reason with
        | fileExists =>
            obtain ⟨-, taken⟩ := leaves
            rw [here.files] at taken
            exact absurd free taken
        | _ => cases returned
  · rintro error ⟨⟩ past' state'
      ⟨answer, failed, rfl, sound, before, here, leaves⟩
    cases answer with
    | ok value => cases failed
    | error reason =>
        cases reason with
        | fileExists => cases failed
        | _ =>
            cases leaves
            exact here.snoc_error rfl rfl rfl sound here.owned
  · intro before answer after here leaves
    cases answer with
    | error reason =>
        have same : after = before := by
          cases reason <;> first | exact leaves.1 | exact leaves
        cases same
        exact ⟨here.sound, fun other _ => .refl other _, quiet _ _ _ _ rfl⟩
    | ok value =>
        obtain ⟨-, other, stamp, mine, rfl⟩ := leaves
        have same := here.owned name content rfl
        rw [mine] at same
        cases same
        rw [← here.files] at free
        refine ⟨?_, fun other apart => ?_, published _ _ _ here.files⟩
        · intro key file found
          by_cases same : key = path
          · subst same
            rw [AList.lookup_insert, Option.some.injEq] at found
            exact ⟨artifact, found ▸ stores stamp⟩
          · rw [AList.lookup_insert_ne same] at found
            exact here.sound key file found
        · constructor
          · intro key file found
            have apart : key ≠ path := by
              rintro rfl
              rw [free] at found
              cases found
            exact (AList.lookup_insert_ne apart).trans found
          · intro holds
            rw [here.holder] at holds
            exact absurd (Option.some.inj holds).symm apart
          · intro _ _ found
            exact found

omit alone in
/-- `_sync_directory` changes nothing. -/
theorem keeps_syncDirectory {capabilityId : Option String}
    (inside : registry.Inside index files stage held past state) :
    Keeps (registry.shared calm) index promise (syncDirectory capabilityId) ()
      past state
      (fun _ _ past' state' =>
        registry.Inside index files stage held past' state')
      (fun _ _ past' state' =>
        registry.Inside index files stage.fail held past' state') := by
  unfold syncDirectory
  apply keeps_bind (keeps_quiet quiet rfl inside)
  rintro ⟨⟩ ⟨⟩ past₁ state₁ inside₁
  let ended (outcome : Except Raised Unit) (past : List DiskEvent)
      (state : Disk) : Prop :=
    match outcome with
    | .ok _ => registry.Inside index files stage held past state
    | .error _ => registry.Inside index files stage.fail held past state
  apply @keeps_ensuring registry calm index promise past₁ state₁ Unit _ _
    ended ended (keeps_quiet quiet rfl inside₁)
  rintro (error | value) past₂ state₂ inside₂
  · apply (keeps_quiet quiet rfl inside₂).weaken
    · rintro ⟨⟩ ⟨⟩ past₃ state₃ inside₃
      exact inside₃
    · rintro _ ⟨⟩ past₃ state₃ inside₃
      rw [Stage.fail_fail] at inside₃
      exact inside₃
  · exact keeps_quiet quiet rfl inside₂

/-- The temporary file is made, or nothing has happened. -/
theorem keeps_allocate {path : CapabilityKey}
    (inside : registry.Inside index files stage held past state) :
    Keeps (registry.shared calm) index promise (allocate path) () past state
      (fun name _ past' state' =>
        registry.Inside index files stage (some (name, "")) past' state')
      (fun _ _ past' state' =>
        registry.Inside index files stage.fail none past' state') := by
  unfold allocate
  apply keeps_storage
  have forget {past' : List DiskEvent} {state' : Disk} {stage : Stage}
      (inside : registry.Inside index files stage held past' state') :
      registry.Inside index files stage none past' state' := inside.forget
  apply keeps_bind ((keeps_quiet quiet rfl inside).weaken
    (fun _ _ _ _ held => held) (fun _ _ _ _ failed => forget failed))
  rintro ⟨⟩ ⟨⟩ past₁ state₁ inside₁
  apply keeps_bind ((keeps_syncDirectory quiet inside₁).weaken
    (fun _ _ _ _ held => held) (fun _ _ _ _ failed => forget failed))
  rintro ⟨⟩ ⟨⟩ past₂ state₂ inside₂
  exact keeps_mkstemp alone quiet inside₂

/-- The content is in the temporary file, or nothing has happened. -/
theorem keeps_writeFile {name old content : String}
    (inside : registry.Inside index files stage (some (name, old)) past state) :
    Keeps (registry.shared calm) index promise (writeFile name content) ()
      past state
      (fun _ _ past' state' =>
        registry.Inside index files stage (some (name, content)) past' state')
      (fun _ _ past' state' => ∃ part,
        registry.Inside index files stage.fail (some (name, part))
          past' state') := by
  unfold writeFile
  apply keeps_bind ((keeps_quiet quiet rfl inside).weaken
    (fun _ _ _ _ held => held) (fun _ _ _ _ failed => ⟨old, failed⟩))
  rintro ⟨⟩ ⟨⟩ past₁ state₁ inside₁
  let ended (outcome : Except Raised Unit) (past : List DiskEvent)
      (state : Disk) : Prop :=
    match outcome with
    | .ok _ =>
        registry.Inside index files stage (some (name, content)) past state
    | .error _ => ∃ part,
        registry.Inside index files stage.fail (some (name, part)) past state
  apply @keeps_ensuring registry calm index promise past₁ state₁ Unit _ _
    ended ended
  · apply keeps_bind (keeps_write alone quiet inside₁)
    rintro ⟨⟩ ⟨⟩ past₂ state₂ inside₂
    apply keeps_bind ((keeps_quiet quiet rfl inside₂).weaken
      (fun _ _ _ _ held => held) (fun _ _ _ _ failed => ⟨content, failed⟩))
    rintro ⟨⟩ ⟨⟩ past₃ state₃ inside₃
    exact (keeps_quiet quiet rfl inside₃).weaken
      (fun _ _ _ _ held => held) (fun _ _ _ _ failed => ⟨content, failed⟩)
  · rintro (error | value) past₂ state₂ inside₂
    · obtain ⟨part, inside₂⟩ := inside₂
      apply (keeps_quiet quiet rfl inside₂).weaken
      · rintro ⟨⟩ ⟨⟩ past₃ state₃ inside₃
        exact ⟨part, inside₃⟩
      · rintro _ ⟨⟩ past₃ state₃ inside₃
        rw [Stage.fail_fail] at inside₃
        exact ⟨part, inside₃⟩
    · apply (keeps_quiet quiet rfl inside₂).weaken
      · rintro ⟨⟩ ⟨⟩ past₃ state₃ inside₃
        exact inside₃
      · rintro _ ⟨⟩ past₃ state₃ inside₃
        exact ⟨content, inside₃⟩

/-- A new version is visible. -/
def Linked (registry : LocalCapabilityRegistry) (index : Nat) (files : Files)
    (path : CapabilityKey) (content : String) (stage : Stage)
    (held : Option (String × String)) (past : List DiskEvent) (state : Disk) :
    Prop :=
  ∃ stamp, registry.Inside index (files.insert path ⟨content, stamp⟩) stage
    held past state

theorem keeps_linkFile {name content contentHash : String}
    {path : CapabilityKey} {artifact : CapabilityArtifact}
    (inside : registry.Inside index files stage (some (name, "")) past state)
    (free : files.lookup path = none)
    (stores : ∀ stamp, registry.Stores path ⟨content, stamp⟩ artifact)
    (published : ∀ past before answer after, before.files = files →
      promise past before ⟨.link name path, .ok answer⟩ after) :
    Keeps (registry.shared calm) index promise
      (registry.linkFile name content path contentHash) () past state
      (fun existing _ past' state' => existing = none ∧
        registry.Linked index files path content stage.link none past' state')
      (fun _ _ past' state' =>
        registry.Inside index files stage.fail none past' state' ∨
        registry.Linked index files path content stage.link.fail none
          past' state') := by
  unfold linkFile
  let between (outcome : Except Raised (Option CapabilityVersionRecord))
      (past : List DiskEvent) (state : Disk) : Prop :=
    match outcome with
    | .ok existing => existing = none ∧
        registry.Linked index files path content stage.link
          (some (name, content)) past state
    | .error _ =>
        (∃ part, registry.Inside index files stage.fail (some (name, part))
          past state) ∨
        registry.Linked index files path content stage.link.fail
          (some (name, content)) past state
  let after (outcome : Except Raised (Option CapabilityVersionRecord))
      (past : List DiskEvent) (state : Disk) : Prop :=
    match outcome with
    | .ok existing => existing = none ∧
        registry.Linked index files path content stage.link none past state
    | .error _ =>
        registry.Inside index files stage.fail none past state ∨
        registry.Linked index files path content stage.link.fail none
          past state
  apply @keeps_ensuring registry calm index promise past state _ _ _
    between after
  · apply keeps_storage
    apply keeps_bind ((keeps_writeFile alone quiet inside).weaken
      (fun _ _ _ _ held => held) (fun _ _ _ _ failed => .inl failed))
    rintro ⟨⟩ ⟨⟩ past₁ state₁ inside₁
    apply keeps_bind ((keeps_link alone quiet inside₁ free stores
      (published past₁)).weaken (fun _ _ _ _ held => held)
      (fun _ _ _ _ failed => .inl ⟨content, failed⟩))
    rintro made ⟨⟩ past₂ state₂ ⟨rfl, stamp, inside₂⟩
    apply keeps_bind ((keeps_syncDirectory quiet inside₂).weaken
      (fun _ _ _ _ held => held) (fun _ _ _ _ failed => .inr ⟨stamp, failed⟩))
    rintro ⟨⟩ ⟨⟩ past₃ state₃ inside₃
    exact keeps_pure ⟨rfl, stamp, inside₃⟩
  · rintro (error | existing) past₁ state₁ here
    · rcases here with ⟨part, inside₁⟩ | ⟨stamp, inside₁⟩
      · apply (keeps_unlink alone quiet inside₁).weaken
        · rintro ⟨⟩ ⟨⟩ past₂ state₂ inside₂
          exact .inl inside₂
        · rintro _ ⟨⟩ past₂ state₂ inside₂
          rw [Stage.fail_fail] at inside₂
          exact .inl inside₂
      · apply (keeps_unlink alone quiet inside₁).weaken
        · rintro ⟨⟩ ⟨⟩ past₂ state₂ inside₂
          exact .inr ⟨stamp, inside₂⟩
        · rintro _ ⟨⟩ past₂ state₂ inside₂
          rw [Stage.fail_fail] at inside₂
          exact .inr ⟨stamp, inside₂⟩
    · obtain ⟨rfl, stamp, inside₁⟩ := here
      apply (keeps_unlink alone quiet inside₁).weaken
      · rintro ⟨⟩ ⟨⟩ past₂ state₂ inside₂
        exact ⟨rfl, stamp, inside₂⟩
      · rintro _ ⟨⟩ past₂ state₂ inside₂
        exact .inr ⟨stamp, inside₂⟩

variable {target : Except Raised CapabilityArtifact → Prop}

omit alone quiet in
/-- A check that fails refuses what follows. -/
theorem keeps_refused {reason : Raised} {next : β → RegistryCode α}
    {after : α → Unit → List DiskEvent → Disk → Prop}
    {raised : Raised → Unit → List DiskEvent → Disk → Prop}
    (refused : raised reason () past state) :
    Keeps (registry.shared calm) index promise
      (attempt (.error reason) >>= next) () past state after raised := by
  apply keeps_bind (Q := fun _ _ _ _ => False)
  · apply keeps_attempt
    · intro value returned
      cases returned
    · intro other same
      cases same
      exact refused
  · rintro _ ⟨⟩ _ _ ⟨⟩

omit alone in
/-- The stored record is returned, or there is a conflict. -/
theorem keeps_loadExisting (faithful : registry.Faithful)
    {artifact : CapabilityArtifact} {file : StoredFile}
    (targets : target (.ok artifact))
    (inside : registry.Inside index files stage none past state)
    (declared : registry.serializers.declaredHash artifact =
      .ok (registry.serializers.artifactContentHash artifact))
    (found : files.lookup artifact.key = some file) :
    Keeps (registry.shared calm) index promise
      (registry.loadExisting artifact.key
        (registry.serializers.artifactContentHash artifact)) () past state
      (fun record _ past' state' =>
        registry.Ends (registry.Inside index · · none) target files stage
          (.ok record) past' state')
      (fun reason _ past' state' =>
        registry.Ends (registry.Inside index · · none) target files stage
          (.error reason) past' state') := by
  unfold loadExisting
  have found' := found
  rw [← inside.files] at found'
  obtain ⟨stored, stores⟩ := inside.sound _ _ found'
  have loads : registry.Reads calm index promise past state
      (fun record _ => record = registry.record file stored)
      (fun _ _ => False) (registry.load artifact.key) :=
    reads_load quiet faithful found' stores
  apply keeps_bind ((keeps_reads inside loads).weaken
    (fun _ _ _ _ held => held) fun _ _ _ _ failed =>
      .failed (failed.resolve_right fun absurd => absurd.2))
  rintro record ⟨⟩ past₁ state₁ ⟨inside₁, rfl⟩
  have holds : registry.Holds files artifact.key (registry.record file stored) :=
    ⟨file, stored, found, stores, rfl⟩
  unfold raiseIf
  by_cases same : (registry.record file stored).contentHash =
      registry.serializers.artifactContentHash artifact
  · simp only [same, ne_eq, not_true_eq_false, decide_false, Bool.false_eq_true,
      if_false, attempt_ok_bind]
    exact keeps_pure (.existing targets (.existing declared holds same) inside₁)
  · simp only [same, ne_eq, not_false_eq_true, decide_true, if_true]
    exact keeps_refused (.refused targets (.conflict declared holds same) inside₁)

omit alone in
/-- A version that was linked is read back. -/
theorem keeps_loadLinked (faithful : registry.Faithful)
    {artifact : CapabilityArtifact} (targets : target (.ok artifact))
    (fresh : Verdict registry files artifact (.ok none))
    (stores : ∀ stamp, registry.Stores artifact.key
      ⟨registry.serializers.dumpArtifactYaml artifact, stamp⟩ artifact)
    (linked : registry.Linked index files artifact.key
      (registry.serializers.dumpArtifactYaml artifact) stage.link none past
      state) :
    Keeps (registry.shared calm) index promise (registry.load artifact.key) ()
      past state
      (fun record _ past' state' =>
        registry.Ends (registry.Inside index · · none) target files stage
          (.ok record) past' state')
      (fun reason _ past' state' =>
        registry.Ends (registry.Inside index · · none) target files stage
          (.error reason) past' state') := by
  obtain ⟨stamp, inside⟩ := linked
  have there : state.files.lookup artifact.key =
      some ⟨registry.serializers.dumpArtifactYaml artifact, stamp⟩ := by
    rw [inside.files]
    exact AList.lookup_insert _
  have loads : registry.Reads calm index promise past state
      (fun record _ => record = registry.record
        ⟨registry.serializers.dumpArtifactYaml artifact, stamp⟩ artifact)
      (fun _ _ => False) (registry.load artifact.key) :=
    reads_load quiet faithful there (stores stamp)
  apply (keeps_reads inside loads).weaken
  · rintro record ⟨⟩ past' state' ⟨inside', rfl⟩
    exact .created stamp targets fresh inside'
  · rintro reason ⟨⟩ past' state' (inside' | ⟨-, absurd⟩)
    · exact .broken stamp targets fresh inside'
    · exact absurd.elim

/-- A free destination is given the artifact, unless it is too large. -/
theorem keeps_create (faithful : registry.Faithful)
    {artifact : CapabilityArtifact}
    (accepted : registry.serializers.Accepted registry.host artifact)
    (targets : target (.ok artifact))
    (inside : registry.Inside index files stage none past state)
    (declared : registry.serializers.declaredHash artifact =
      .ok (registry.serializers.artifactContentHash artifact))
    (convertible : isConvertible artifact.capability.version = true)
    (free : files.lookup artifact.key = none)
    (published : Verdict registry files artifact (.ok none) →
      ∀ name past before answer after, before.files = files →
        promise past before ⟨.link name artifact.key, .ok answer⟩ after) :
    Keeps (registry.shared calm) index promise
      (registry.create artifact artifact.key
        (registry.serializers.artifactContentHash artifact)) () past state
      (fun record _ past' state' =>
        registry.Ends (registry.Inside index · · none) target files stage
          (.ok record) past' state')
      (fun reason _ past' state' =>
        registry.Ends (registry.Inside index · · none) target files stage
          (.error reason) past' state') := by
  unfold create raiseIf
  by_cases large : registry.maximumArtifactBytes <
      (registry.serializers.dumpArtifactYaml artifact).utf8ByteSize
  · simp only [large, decide_true, if_true]
    exact keeps_refused
      (.refused targets (.large declared convertible free large) inside)
  have small := Nat.not_lt.mp large
  have fresh : Verdict registry files artifact (.ok none) :=
    .fresh declared convertible free small
  have stores (stamp : Timestamp) : registry.Stores artifact.key
      ⟨registry.serializers.dumpArtifactYaml artifact, stamp⟩ artifact := {
    accepted, convertible, declared, small
    key := rfl
    content := rfl }
  simp only [large, decide_false, Bool.false_eq_true, if_false, attempt_ok_bind]
  apply keeps_bind ((keeps_allocate alone quiet inside).weaken
    (fun _ _ _ _ held => held) (fun _ _ _ _ failed => .failed failed))
  rintro name ⟨⟩ past₁ state₁ inside₁
  apply keeps_bind ((keeps_linkFile alone quiet inside₁ free stores
    (published fresh name)).weaken (fun _ _ _ _ held => held) ?_)
  · rintro existing ⟨⟩ past₂ state₂ ⟨rfl, linked⟩
    exact keeps_loadLinked quiet faithful targets fresh stores linked
  · rintro reason ⟨⟩ past₂ state₂ (inside₂ | ⟨stamp, inside₂⟩)
    · exact .failed inside₂
    · exact .broken stamp targets fresh inside₂

/-- A publication under the lock ends in one of the ways of `Ends`. -/
theorem keeps_publishLocked (faithful : registry.Faithful)
    {artifact : CapabilityArtifact}
    (accepted : registry.serializers.Accepted registry.host artifact)
    (targets : target (.ok artifact))
    (inside : registry.Inside index files stage none past state)
    (published : Verdict registry files artifact (.ok none) →
      ∀ name past before answer after, before.files = files →
        promise past before ⟨.link name artifact.key, .ok answer⟩ after) :
    Keeps (registry.shared calm) index promise (registry.publishLocked artifact)
      () past state
      (fun record _ past' state' =>
        registry.Ends (registry.Inside index · · none) target files stage
          (.ok record) past' state')
      (fun reason _ past' state' =>
        registry.Ends (registry.Inside index · · none) target files stage
          (.error reason) past' state') := by
  obtain ⟨named, fits⟩ := accepted_metadata accepted
  unfold publishLocked
  cases declared : registry.serializers.declaredHash artifact with
  | error reason =>
      exact keeps_refused (.refused targets (.undeclared declared) inside)
  | ok contentHash =>
  cases declaredHash_ok declared
  rw [attempt_ok_bind]
  cases convertible : isConvertible artifact.capability.version with
  | false =>
      rw [path_inconvertible named fits convertible]
      exact keeps_refused
        (.refused targets (.inconvertible declared convertible) inside)
  | true =>
  rw [path_convertible named fits convertible, attempt_ok_bind]
  have present : registry.Reads calm index promise past state
      (fun (present : Bool) state' =>
        present = (state'.files.lookup artifact.key).isSome)
      (fun _ _ => False) (os (.exists artifact.key)) := by
    refine (reads_os quiet ?_ (fun _ => rfl) (fun _ => rfl)).weaken
      (fun _ _ _ leaves => leaves.2) (fun _ _ _ why => why)
    intro before after answer leaves
    cases answer with
    | ok present => exact leaves.1
    | error reason => exact leaves
  apply keeps_bind ((keeps_reads inside present).weaken
    (fun _ _ _ _ held => held) fun _ _ _ _ failed =>
      .failed (failed.resolve_right fun absurd => absurd.2))
  rintro taken ⟨⟩ past₁ state₁ ⟨inside₁, rfl⟩
  rw [inside₁.files]
  cases found : files.lookup artifact.key with
  | some file =>
      exact keeps_loadExisting quiet faithful targets inside₁ declared found
  | none =>
      exact keeps_create alone quiet faithful accepted targets inside₁ declared
        convertible found published

end Own

end Rules

end LocalCapabilityRegistry

end ReplayForge

import ReplayForge.Capabilities.RegistryNext

/-!
# Whole publications

`publish` and `publish_next` from the first call to the last: the lock is taken,
the files decide what is published, and the lock is given up.
-/

namespace ReplayForge

open Effect RegistryCode

namespace LocalCapabilityRegistry

variable {registry : LocalCapabilityRegistry} {calm : Prop} {index : Nat}
  {promise : Promise DiskSig Disk} {past past' past'' : List DiskEvent}
  {state state' state'' : Disk} {files : Files} {stage : Stage}
  {target target' : Except Raised CapabilityArtifact → Prop}
  {artifact : CapabilityArtifact}
  {result : Except Raised CapabilityVersionRecord}
  {At At' : Files → Stage → List DiskEvent → Disk → Prop}

theorem Ends.imp (ends : registry.Ends At target files stage result past state)
    (weaker : ∀ made, target made → target' made)
    (there : ∀ files stage, At files stage past state →
      At' files stage past' state') :
    registry.Ends At' target' files stage result past' state' := by
  cases ends with
  | unnumbered made here => exact .unnumbered (weaker _ made) (there _ _ here)
  | refused made verdict here =>
      exact .refused (weaker _ made) verdict (there _ _ here)
  | existing made verdict here =>
      exact .existing (weaker _ made) verdict (there _ _ here)
  | created stamp made verdict here =>
      exact .created stamp (weaker _ made) verdict (there _ _ here)
  | failed here => exact .failed (there _ _ here)
  | broken stamp made verdict here =>
      exact .broken stamp (weaker _ made) verdict (there _ _ here)

theorem Ends.known
    (ends : registry.Ends At target files stage result past state) :
    ∃ files stage, At files stage past state := by
  cases ends with
  | unnumbered _ here => exact ⟨_, _, here⟩
  | refused _ _ here => exact ⟨_, _, here⟩
  | existing _ _ here => exact ⟨_, _, here⟩
  | created _ _ _ here => exact ⟨_, _, here⟩
  | failed here => exact ⟨_, _, here⟩
  | broken _ _ _ here => exact ⟨_, _, here⟩

/-- A failure after the publication replaces its outcome. -/
theorem Ends.spoiled
    (ends : registry.Ends At target files stage result past state)
    (there : ∀ files stage, At files stage past state →
      At' files stage.fail past' state') (reason : Raised) :
    registry.Ends At' target files stage (.error reason) past' state' := by
  cases ends with
  | unnumbered made here => exact .failed (there _ _ here)
  | refused made verdict here => exact .failed (there _ _ here)
  | existing made verdict here => exact .failed (there _ _ here)
  | created stamp made verdict here =>
      exact .broken stamp made verdict (there _ _ here)
  | failed here =>
      have later := there _ _ here
      rw [Stage.fail_fail] at later
      exact .failed later
  | broken stamp made verdict here =>
      have later := there _ _ here
      rw [Stage.fail_fail] at later
      exact .broken stamp made verdict later

/-- A publication is over: others may publish again. -/
structure After (registry : LocalCapabilityRegistry) (calm : Prop)
    (index : Nat) (files : Files) (stage : Stage) (past : List DiskEvent)
    (state : Disk) : Prop where
  kept : ∀ path file, files.lookup path = some file →
    state.files.lookup path = some file
  same : calm → index = 0 → state.files = files
  stage : Stage.reached past = stage
  sound : registry.Sound state

theorem Inside.after {held : Option (String × String)}
    (inside : registry.Inside index files stage held past state) :
    registry.After calm index files stage past state where
  kept path file found := by
    rw [inside.files]
    exact found
  same _ _ := inside.files
  stage := inside.stage
  sound := inside.sound

theorem Fails.after
    (fails : registry.Fails calm index past state past' state')
    (start : Stage.reached past = stage) :
    registry.After calm index state.files stage.fail past' state' where
  kept := fails.rely.1.kept
  same := fails.rely.2
  stage := fails.stage.trans (congrArg Stage.fail start)
  sound := fails.sound

theorem After.since
    (after : registry.After calm index state'.files stage past'' state'')
    (stands : registry.Stands calm index past state past' state') :
    registry.After calm index state.files stage past'' state'' where
  kept path file found := after.kept path file (stands.kept found)
  same still alone :=
    (after.same still alone).trans (stands.rely.2 still alone)
  stage := after.stage
  sound := after.sound

theorem After.later (after : registry.After calm index files stage past state)
    (rely : (registry.shared calm).rely index state state')
    (sound : registry.Sound state') :
    registry.After calm index files stage past state' where
  kept path file found := rely.1.kept path file (after.kept path file found)
  same still alone := (rely.2 still alone).trans (after.same still alone)
  stage := after.stage
  sound

/-- How a publication has ended; a blind one could not list the versions. -/
def Attempted (registry : LocalCapabilityRegistry)
    (At : Files → Stage → List DiskEvent → Disk → Prop)
    (target : Bool → Except Raised CapabilityArtifact → Prop) (files : Files)
    (stage : Stage) (result : Except Raised CapabilityVersionRecord)
    (past : List DiskEvent) (state : Disk) : Prop :=
  ∃ blind, registry.Ends At (target blind) files (stage.read blind) result past
    state

/-- How a call that publishes has ended, given the files it found when it took
the lock. -/
def Outcome (registry : LocalCapabilityRegistry) (calm : Prop) (index : Nat)
    (target : Files → Bool → Except Raised CapabilityArtifact → Prop)
    (stage : Stage) (start : Disk)
    (result : Except Raised CapabilityVersionRecord) (past : List DiskEvent)
    (state : Disk) : Prop :=
  ∃ seen, (registry.shared calm).rely index start seen ∧ registry.Sound seen ∧
    registry.Attempted (registry.After calm index) (target seen.files)
      seen.files stage result past state

variable (alone : calm → index = 0) (quiet : Quiets promise)

include alone quiet

/-- The calls that give up the lock. -/
theorem keeps_release {op : DiskOp} (unlinked : ∀ answer,
      DiskEvent.linked ⟨op, answer⟩ = false)
    (fails : ∀ answer, DiskEvent.failed ⟨op, .error answer⟩ = true)
    (releases : ∀ {before after : Disk} {answer : Except OsError op.Value},
      op.Leaves index before answer after →
      after = before ∨ after = before.freed index)
    (here : registry.After calm index files stage past state) :
    Keeps (registry.shared calm) index promise (os op) () past state
      (fun _ _ past' state' =>
        registry.After calm index files stage past' state')
      (fun _ _ past' state' =>
        registry.After calm index files stage.fail past' state') := by
  apply keeps_invoke
  intro before answer after sound rely leaves
  have known : registry.After calm index files stage past before :=
    here.later rely sound
  have same : after.files = before.files := by
    rcases releases leaves with rfl | rfl <;> rfl
  have sound' : registry.Sound after := by
    unfold Sound
    rw [same]
    exact sound
  have grows (other : Nat) (apart : other ≠ index) :
      before.Grows other after := by
    rcases releases leaves with rfl | rfl
    · exact .refl other _
    · refine ⟨fun _ _ found => found, fun holds => ⟨?_, rfl⟩,
        fun _ _ found => found⟩
      unfold Disk.freed
      dsimp only
      rw [if_neg]
      · exact holds
      · intro mine
        rw [holds] at mine
        exact apart (Option.some.inj mine)
  refine ⟨⟨sound', fun other apart => ⟨grows other apart, fun still zero =>
    absurd (zero.trans (alone still).symm) apart⟩,
    quiet _ _ _ _ (unlinked answer)⟩, ?_, ?_⟩
  · intro value returned
    cases answer with
    | error error => cases returned
    | ok other =>
        have ran : DiskEvent.failed ⟨op, .ok other⟩ = false := by
          cases op <;> rfl
        constructor
        · rw [same]
          exact known.kept
        · rw [same]
          exact known.same
        · rw [Stage.reached_snoc, Stage.step_quiet ran (unlinked _),
            known.stage]
        · exact sound'
  · intro error failed
    cases answer with
    | ok value => cases failed
    | error answer =>
        constructor
        · rw [same]
          exact known.kept
        · rw [same]
          exact known.same
        · rw [Stage.reached_snoc, Stage.step_failed (fails answer)
            (unlinked _), known.stage]
        · exact sound'

theorem keeps_closeRoot
    (here : registry.After calm index files stage past state) :
    Keeps (registry.shared calm) index promise (os .closeRoot) () past state
      (fun _ _ past' state' =>
        registry.After calm index files stage past' state')
      (fun _ _ past' state' =>
        registry.After calm index files stage.fail past' state') := by
  apply keeps_release alone quiet (fun _ => rfl) (fun _ => rfl) ?_ here
  intro before after answer leaves
  cases answer with
  | ok value => exact .inr leaves
  | error reason => exact leaves

theorem keeps_unlock
    (here : registry.After calm index files stage past state) :
    Keeps (registry.shared calm) index promise (os .unlock) () past state
      (fun _ _ past' state' =>
        registry.After calm index files stage past' state')
      (fun _ _ past' state' =>
        registry.After calm index files stage.fail past' state') := by
  apply keeps_release alone quiet (fun _ => rfl) (fun _ => rfl) ?_ here
  intro before after answer leaves
  cases answer with
  | ok value => exact .inr leaves
  | error reason => exact .inl leaves

omit alone in
/-- The lock is held with the files found then, or nothing has happened. -/
theorem keeps_lock (start : Stage.reached past = stage) :
    Keeps (registry.shared calm) index promise (os .lock) () past state
      (fun _ _ past' state' => ∃ seen,
        (registry.shared calm).rely index state seen ∧ registry.Sound seen ∧
          registry.Inside index seen.files stage none past' state')
      (fun _ _ past' state' =>
        registry.After calm index state.files stage.fail past' state') := by
  apply keeps_invoke
  intro before answer after sound' rely leaves
  cases answer with
  | ok value =>
      obtain ⟨free, rfl⟩ := leaves
      refine ⟨⟨sound', fun other apart => ⟨⟨fun _ _ found => found,
        fun holds => absurd (free.symm.trans holds) (by simp),
        fun _ _ found => found⟩, fun _ _ => rfl⟩, quiet _ _ _ _ rfl⟩,
        ?_, fun error failed => nomatch failed⟩
      intro value _
      refine ⟨before, rely, sound', rfl, rfl, ?_, sound',
        fun _ _ same => nomatch same⟩
      rw [Stage.reached_snoc, Stage.step_quiet rfl rfl, start]
  | error reason =>
      cases leaves
      refine ⟨⟨sound', fun other _ => (registry.shared calm).refl other _,
        quiet _ _ _ _ rfl⟩, fun value returned => (nomatch returned), ?_⟩
      intro error _
      refine ⟨rely.1.kept, rely.2, ?_, sound'⟩
      rw [Stage.reached_snoc, Stage.step_failed rfl rfl, start]

omit alone in
/-- The directory is opened, or the call is over. -/
theorem keeps_openRoot :
    Keeps (registry.shared calm) index promise (storage (os .openRoot)) () past
      state
      (fun _ _ past' state' =>
        registry.Stands calm index past state past' state')
      (fun _ _ past' state' =>
        registry.Fails calm index past state past' state') := by
  have opens : registry.Reads calm index promise past state
      (fun _ _ => True) (fun _ _ => False) (os .openRoot) :=
    (reads_os quiet (DiskOp.Leaves.of_quiet rfl) (fun _ => rfl)
      (fun _ => rfl)).weaken (fun _ _ _ _ => trivial) (fun _ _ _ why => why)
  exact keeps_storage (Keeps.weaken opens (fun _ _ _ _ held => held.1)
    (fun _ _ _ _ failed => failed.resolve_right fun absurd => absurd.2))

/-- The lock is taken, or the call is over. -/
theorem keeps_acquire (start : Stage.reached past = stage) :
    Keeps (registry.shared calm) index promise
      (tryCatch (os .lock) fun _ => do
        os .closeRoot
        throw .capabilityPublication) () past state
      (fun _ _ past' state' => ∃ seen,
        (registry.shared calm).rely index state seen ∧ registry.Sound seen ∧
          registry.Inside index seen.files stage none past' state')
      (fun _ _ past' state' =>
        registry.After calm index state.files stage.fail past' state') := by
  apply keeps_tryCatch (keeps_lock quiet start)
  rintro _ ⟨⟩ past₁ state₁ closed
  apply keeps_bind ((keeps_closeRoot alone quiet closed).weaken
    (fun _ _ _ _ held => held) (fun reason _ past₂ state₂ failed => ?_))
  · rintro ⟨⟩ ⟨⟩ past₂ state₂ closed'
    exact keeps_throw closed'
  · rwa [Stage.fail_fail] at failed

/-- The lock is given up; a failure replaces the outcome. -/
theorem keeps_giveUp {outcome : Except Raised CapabilityVersionRecord}
    (ends : registry.Ends (registry.Inside index · · none) target files stage
      outcome past state) :
    Keeps (registry.shared calm) index promise
      (do
        os .unlock
        os .closeRoot) () past state
      (fun _ _ past' state' =>
        registry.Ends (registry.After calm index) target files stage outcome
          past' state')
      (fun reason _ past' state' =>
        registry.Ends (registry.After calm index) target files stage
          (.error reason) past' state') := by
  obtain ⟨files', stage', inside⟩ := ends.known
  have closed : registry.After calm index files' stage' past state :=
    inside.after
  have there {past' : List DiskEvent} {state' : Disk} {stage'' : Stage}
      (closed : registry.After calm index files' stage'' past' state')
      (files : Files) (stage : Stage)
      (here : registry.Inside index files stage none past state) :
      files = files' ∧ stage = stage' :=
    ⟨here.files.symm.trans inside.files, here.stage.symm.trans inside.stage⟩
  apply keeps_bind ((keeps_unlock alone quiet closed).weaken
    (fun _ _ _ _ held => held) (fun reason _ past₁ state₁ failed => ?_))
  · rintro ⟨⟩ ⟨⟩ past₁ state₁ closed₁
    apply (keeps_closeRoot alone quiet closed₁).weaken
    · rintro ⟨⟩ ⟨⟩ past₂ state₂ closed₂
      apply ends.imp (fun _ made => made)
      intro files stage here
      obtain ⟨rfl, rfl⟩ := there closed₂ files stage here
      exact closed₂
    · rintro reason ⟨⟩ past₂ state₂ failed
      apply ends.spoiled
      intro files stage here
      obtain ⟨rfl, rfl⟩ := there failed files stage here
      exact failed
  · apply ends.spoiled
    intro files stage here
    obtain ⟨rfl, rfl⟩ := there failed files stage here
    exact failed

/-- A body that publishes under the lock, from the first call to the last. -/
theorem keeps_writeLock {body : RegistryCode CapabilityVersionRecord}
    {target : Files → Bool → Except Raised CapabilityArtifact → Prop}
    (sound : registry.Sound state) (start : Stage.reached past = stage)
    (inner : ∀ seen past' state',
      (registry.shared calm).rely index state seen → registry.Sound seen →
      registry.Inside index seen.files stage none past' state' →
      Keeps (registry.shared calm) index promise body () past' state'
        (fun record _ past'' state'' =>
          registry.Attempted (registry.Inside index · · none)
            (target seen.files) seen.files stage (.ok record) past'' state'')
        (fun reason _ past'' state'' =>
          registry.Attempted (registry.Inside index · · none)
            (target seen.files) seen.files stage (.error reason) past''
            state'')) :
    Keeps (registry.shared calm) index promise (writeLock body) () past state
      (fun record _ past' state' =>
        registry.Outcome calm index target stage state (.ok record)
          past' state')
      (fun reason _ past' state' =>
        registry.Outcome calm index target stage state (.error reason)
          past' state') := by
  have early {past' : List DiskEvent} {state' : Disk} (reason : Raised)
      (closed : registry.After calm index state.files stage.fail past' state') :
      registry.Outcome calm index target stage state (.error reason)
        past' state' :=
    ⟨state, (registry.shared calm).refl _ _, sound, false, .failed closed⟩
  unfold writeLock
  apply keeps_bind ((keeps_openRoot quiet).weaken (fun _ _ _ _ held => held)
    fun reason _ _ _ fails => early reason (fails.after start))
  rintro ⟨⟩ ⟨⟩ past₁ state₁ stands₁
  apply keeps_bind ((keeps_acquire alone quiet
    (stands₁.stage.trans start)).weaken (fun _ _ _ _ held => held)
    fun reason _ _ _ closed => early reason (closed.since stands₁))
  rintro ⟨⟩ ⟨⟩ past₂ state₂ ⟨seen, rely, sound', inside⟩
  have rely' := (registry.shared calm).trans stands₁.rely rely
  let ended (at' : Files → Stage → List DiskEvent → Disk → Prop)
      (outcome : Except Raised CapabilityVersionRecord)
      (past : List DiskEvent) (state : Disk) : Prop :=
    registry.Attempted at' (target seen.files) seen.files stage outcome past
      state
  apply (@keeps_ensuring registry calm index promise past₂ state₂ _ body _
    (ended (registry.Inside index · · none))
    (ended (registry.After calm index)) (inner seen past₂ state₂ rely' sound'
      inside) ?_).weaken
  · rintro record ⟨⟩ past₃ state₃ attempted
    exact ⟨seen, rely', sound', attempted⟩
  · rintro reason ⟨⟩ past₃ state₃ attempted
    exact ⟨seen, rely', sound', attempted⟩
  · rintro outcome past₃ state₃ ⟨blind, ends⟩
    apply (keeps_giveUp alone quiet ends).weaken
    · rintro ⟨⟩ ⟨⟩ past₄ state₄ ends'
      exact ⟨blind, ends'⟩
    · rintro reason ⟨⟩ past₄ state₄ ends'
      exact ⟨blind, ends'⟩

/-- What `publish` publishes. -/
def publishTarget (artifact : CapabilityArtifact) (_ : Files) (blind : Bool)
    (made : Except Raised CapabilityArtifact) : Prop :=
  blind = false ∧ made = .ok artifact

/-- The stored versions as they are read: a blind thread finds none. -/
def Sees (registry : LocalCapabilityRegistry) (files : Files)
    (capabilityId : String) (existing : List CapabilityVersionRecord) :
    Bool → Prop
  | true => existing = []
  | false => registry.Listed files capabilityId existing

/-- What `publish_next` publishes beside the versions it has read. -/
def nextTarget (registry : LocalCapabilityRegistry)
    (artifact : CapabilityArtifact) (files : Files) (blind : Bool)
    (made : Except Raised CapabilityArtifact) : Prop :=
  ∃ existing, registry.Sees files artifact.capability.id existing blind ∧
    registry.nextArtifact artifact existing = made

theorem keeps_publish (faithful : registry.Faithful)
    (accepted : registry.serializers.Accepted registry.host artifact)
    (sound : registry.Sound state) (start : Stage.reached past = stage)
    (published : ∀ files name past before answer after,
      Verdict registry files artifact (.ok none) → before.files = files →
      promise past before ⟨.link name artifact.key, .ok answer⟩ after) :
    Keeps (registry.shared calm) index promise (registry.publish artifact) ()
      past state
      (fun record _ past' state' =>
        registry.Outcome calm index (publishTarget artifact) stage state
          (.ok record) past' state')
      (fun reason _ past' state' =>
        registry.Outcome calm index (publishTarget artifact) stage state
          (.error reason) past' state') := by
  apply keeps_writeLock alone quiet sound start
  intro seen past' state' _ _ inside
  have targets : publishTarget artifact seen.files false (.ok artifact) :=
    ⟨rfl, rfl⟩
  apply (keeps_publishLocked alone quiet faithful accepted targets inside
    fun verdict name past before answer after same =>
      published _ name past before answer after verdict same).weaken
  · rintro record ⟨⟩ past'' state'' ends
    exact ⟨false, ends⟩
  · rintro reason ⟨⟩ past'' state'' ends
    exact ⟨false, ends⟩

/-- The candidate beside the versions that were read is published. -/
theorem keeps_publishCandidate (faithful : registry.Faithful)
    (accepted : registry.serializers.Accepted registry.host artifact)
    {existing : List CapabilityVersionRecord} {blind : Bool}
    (sees : registry.Sees files artifact.capability.id existing blind)
    (inside : registry.Inside index files (stage.read blind) none past state)
    (published : ∀ candidate name past before answer after,
      registry.nextTarget artifact files blind (.ok candidate) →
      Verdict registry files candidate (.ok none) → before.files = files →
      promise past before ⟨.link name candidate.key, .ok answer⟩ after) :
    Keeps (registry.shared calm) index promise
      (do
        let candidate ← attempt (registry.nextArtifact artifact existing)
        registry.publishLocked candidate) () past state
      (fun record _ past' state' =>
        registry.Attempted (registry.Inside index · · none)
          (registry.nextTarget artifact files) files stage (.ok record)
          past' state')
      (fun reason _ past' state' =>
        registry.Attempted (registry.Inside index · · none)
          (registry.nextTarget artifact files) files stage (.error reason)
          past' state') := by
  cases made : registry.nextArtifact artifact existing with
  | error reason =>
      exact keeps_refused ⟨blind, .unnumbered ⟨existing, sees, made⟩ inside⟩
  | ok candidate =>
      rw [attempt_ok_bind]
      have next : registry.nextTarget artifact files blind (.ok candidate) :=
        ⟨existing, sees, made⟩
      apply (keeps_publishLocked alone quiet faithful
        ((nextArtifact_eq_ok made).accepted faithful accepted) next inside
        fun verdict name past before answer after =>
          published _ name past before answer after next verdict).weaken
      · rintro record ⟨⟩ past' state' ends
        exact ⟨blind, ends⟩
      · rintro reason ⟨⟩ past' state' ends
        exact ⟨blind, ends⟩

theorem keeps_publishNextLocked (faithful : registry.Faithful)
    (accepted : registry.serializers.Accepted registry.host artifact)
    (inside : registry.Inside index files stage none past state)
    (published : ∀ blind candidate name past before answer after,
      registry.nextTarget artifact files blind (.ok candidate) →
      Verdict registry files candidate (.ok none) → before.files = files →
      (blind = true → Blinded past) →
      promise past before ⟨.link name candidate.key, .ok answer⟩ after) :
    Keeps (registry.shared calm) index promise
      (registry.publishNextLocked artifact) () past state
      (fun record _ past' state' =>
        registry.Attempted (registry.Inside index · · none)
          (registry.nextTarget artifact files) files stage (.ok record)
          past' state')
      (fun reason _ past' state' =>
        registry.Attempted (registry.Inside index · · none)
          (registry.nextTarget artifact files) files stage (.error reason)
          past' state') := by
  unfold publishNextLocked
  obtain ⟨named, -⟩ := accepted_metadata accepted
  apply keeps_bind ((keeps_versionsLocked quiet faithful inside.sound).weaken
    (fun _ _ _ _ held => held) (fun reason _ past₁ state₁ failed => ?_))
  · rintro existing ⟨⟩ past₁ state₁ found
    cases found with
    | listed stands between =>
        obtain ⟨seen, rely, -, -, listed⟩ := between
        have same : seen.files = files :=
          (rely.1.held inside.holder).2.trans inside.files
        rw [same] at listed
        have sees : registry.Sees files artifact.capability.id existing false :=
          listed
        exact keeps_publishCandidate alone quiet faithful accepted sees
          (inside.stands stands) fun candidate name past before answer after
            next verdict same => published false candidate name past before
              answer after next verdict same nofun
    | blind fails none blinded =>
        have sees : registry.Sees files artifact.capability.id existing true :=
          none
        -- Every later past still has the event that could not list the files.
        have whenBlind := keeps_publishCandidate alone
          (fun past before event after unlinked _ =>
            quiet past before event after unlinked :
            Quiets fun past before event after =>
              Blinded past → promise past before event after)
          faithful accepted sees (inside.fails fails)
          fun candidate name past before answer after next verdict same blinded =>
            published true candidate name past before answer after next verdict
              same fun _ => blinded
        exact whenBlind.promises fun past' before event after extended promised =>
          promised (blinded.extend extended)
  · rcases failed with fails | ⟨-, -, unnamed⟩
    · exact ⟨false, .failed (inside.fails fails)⟩
    · rw [named] at unnamed
      cases unnamed

theorem keeps_publishNext (faithful : registry.Faithful)
    (accepted : registry.serializers.Accepted registry.host artifact)
    (sound : registry.Sound state) (start : Stage.reached past = stage)
    (published : ∀ files blind candidate name past before answer after,
      registry.nextTarget artifact files blind (.ok candidate) →
      Verdict registry files candidate (.ok none) → before.files = files →
      (blind = true → Blinded past) →
      promise past before ⟨.link name candidate.key, .ok answer⟩ after) :
    Keeps (registry.shared calm) index promise (registry.publishNext artifact)
      () past state
      (fun record _ past' state' =>
        registry.Outcome calm index (registry.nextTarget artifact) stage state
          (.ok record) past' state')
      (fun reason _ past' state' =>
        registry.Outcome calm index (registry.nextTarget artifact) stage state
          (.error reason) past' state') := by
  apply keeps_writeLock alone quiet sound start
  intro seen past' state' _ _ inside
  exact keeps_publishNextLocked alone quiet faithful accepted inside
    (published seen.files)

end LocalCapabilityRegistry

/-- A call that publishes. -/
inductive PublicationCall where
  | publish (artifact : CapabilityArtifact)
  | publishNext (artifact : CapabilityArtifact)

namespace PublicationCall

def artifact : PublicationCall → CapabilityArtifact
  | .publish artifact | .publishNext artifact => artifact

def code (registry : LocalCapabilityRegistry) :
    PublicationCall → RegistryCode CapabilityVersionRecord
  | .publish artifact => registry.publish artifact
  | .publishNext artifact => registry.publishNext artifact

/-- What the call publishes beside the stored files. -/
def target (registry : LocalCapabilityRegistry) :
    PublicationCall → Files → Bool → Except Raised CapabilityArtifact → Prop
  | .publish artifact => LocalCapabilityRegistry.publishTarget artifact
  | .publishNext artifact => registry.nextTarget artifact

variable {registry : LocalCapabilityRegistry} {calm : Prop} {index : Nat}
  {promise : Promise DiskSig Disk} {past : List DiskEvent} {state : Disk}
  {stage : Stage}

/-- What a call that publishes does among other threads. -/
theorem keeps (call : PublicationCall) (alone : calm → index = 0)
    (quiet : LocalCapabilityRegistry.Quiets promise)
    (faithful : registry.Faithful)
    (accepted : registry.serializers.Accepted registry.host call.artifact)
    (sound : registry.Sound state) (start : Stage.reached past = stage)
    (published : ∀ files blind candidate name past before answer after,
      call.target registry files blind (.ok candidate) →
      registry.Verdict files candidate (.ok none) → before.files = files →
      (blind = true → Blinded past) →
      promise past before ⟨.link name candidate.key, .ok answer⟩ after) :
    Keeps (registry.shared calm) index promise (call.code registry) ()
      past state
      (fun record _ past' state' =>
        registry.Outcome calm index (call.target registry) stage state
          (.ok record) past' state')
      (fun reason _ past' state' =>
        registry.Outcome calm index (call.target registry) stage state
          (.error reason) past' state') := by
  cases call with
  | publish artifact =>
      exact LocalCapabilityRegistry.keeps_publish alone quiet faithful accepted
        sound start fun files name past before answer after verdict same =>
          published files false artifact name past before answer after
            ⟨rfl, rfl⟩ verdict same nofun
  | publishNext artifact =>
      exact LocalCapabilityRegistry.keeps_publishNext alone quiet faithful
        accepted sound start published

end PublicationCall

end ReplayForge

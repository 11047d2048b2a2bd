import ReplayForge.Capabilities.RegistryCalls
import ReplayForge.Effect.Sequential

/-!
# Failed publications

A publication that raises has stored nothing, unless a call fails after the
hard link that makes the new version visible.
-/

namespace ReplayForge

open Effect

/-- Some call fails after a version was made visible. -/
def FailsAfterLink (events : List DiskEvent) : Prop :=
  ∃ early link late, events = early ++ link :: late ∧
    DiskEvent.linked link = true ∧ ∃ event ∈ late, DiskEvent.failed event = true

namespace Stage

theorem broken_of_linked {stage : Stage} (linked : stage.linked = true)
    (events : List DiskEvent) :
    (events.foldl step stage).broken = true ↔
      stage.broken = true ∨
        ∃ event ∈ events, DiskEvent.failed event = true := by
  induction events generalizing stage with
  | nil => simp
  | cons event rest ih =>
      rw [List.foldl_cons, ih (by simp [step, linked])]
      simp [step, linked, or_assoc]

theorem broken_iff_of_unlinked {stage : Stage} (fresh : stage.broken = false)
    (unlinked : stage.linked = false) (events : List DiskEvent) :
    (events.foldl step stage).broken = true ↔ FailsAfterLink events := by
  induction events generalizing stage with
  | nil =>
      simp only [List.foldl_nil, fresh, Bool.false_eq_true, false_iff]
      rintro ⟨early, link, late, shape, -⟩
      simp at shape
  | cons event rest ih =>
      rw [List.foldl_cons]
      have unbroken : (stage.step event).broken = false := by
        simp [step, fresh, unlinked]
      have later : FailsAfterLink (event :: rest) ↔
          (DiskEvent.linked event = true ∧
            ∃ event ∈ rest, DiskEvent.failed event = true) ∨
          FailsAfterLink rest := by
        constructor
        · rintro ⟨early, link, late, shape, linked, failed⟩
          cases early with
          | nil =>
              cases shape
              exact .inl ⟨linked, failed⟩
          | cons first early =>
              cases shape
              exact .inr ⟨early, link, late, rfl, linked, failed⟩
        · rintro (⟨linked, failed⟩ | ⟨early, link, late, rfl, linked, failed⟩)
          · exact ⟨[], event, rest, rfl, linked, failed⟩
          · exact ⟨event :: early, link, late, rfl, linked, failed⟩
      cases linked : DiskEvent.linked event with
      | false =>
          rw [ih unbroken (by simp [step, unlinked, linked]), later, linked]
          simp
      | true =>
          rw [broken_of_linked (by simp [step, linked]), unbroken, later, linked]
          simp only [Bool.false_eq_true, false_or, true_and]
          constructor
          · exact .inl
          · rintro (failed | ⟨early, link, late, rfl, -, event, member, failed⟩)
            · exact failed
            · exact ⟨event, by simp [member], failed⟩

theorem broken_iff (events : List DiskEvent) :
    (reached events).broken = true ↔ FailsAfterLink events :=
  broken_iff_of_unlinked rfl rfl events

end Stage

namespace PublicationCall

variable (registry : LocalCapabilityRegistry)

/-- The call alone takes the directory from `before` to `after`. -/
structure Run (call : PublicationCall) (before : Disk)
    (events : List DiskEvent) (result : Except Raised CapabilityVersionRecord)
    (after : Disk) : Prop where
  executes : Executes (call.code registry) () events result ()
  leads : Leads diskLaw 0 [] before events after

variable {registry} {call : PublicationCall} {before after : Disk}
  {events : List DiskEvent} {result : Except Raised CapabilityVersionRecord}

theorem Run.outcome (faithful : registry.Faithful)
    (accepted : registry.serializers.Accepted registry.host call.artifact)
    (sound : registry.Sound before)
    (run : call.Run registry before events result after) :
    registry.Outcome True 0 (call.target registry) {} before result events
        after ∧ registry.Sound after := by
  have silent : LocalCapabilityRegistry.Quiets fun _ _ _ _ => True :=
    fun _ _ _ _ _ => trivial
  have keeps := @PublicationCall.keeps registry True 0 _ [] before _ call
    (fun _ => rfl) silent faithful accepted sound rfl
    (fun _ _ _ _ _ _ _ _ _ _ _ _ => trivial)
  have ends := keeps.leads run.executes run.leads sound
  cases result <;> exact ends

end PublicationCall

/-- A call that raises has changed no version, exactly when no call of the
operating system fails after the link. -/
theorem publication_atomic_iff (registry : LocalCapabilityRegistry)
    (call : PublicationCall) {before after : Disk} {events : List DiskEvent}
    {result : Except Raised CapabilityVersionRecord}
    (faithful : registry.Faithful)
    (accepted : registry.serializers.Accepted registry.host call.artifact)
    (sound : registry.Sound before)
    (run : call.Run registry before events result after) :
    ((∃ reason, result = .error reason) → ∀ path record,
        registry.Holds after.files path record ↔
          registry.Holds before.files path record) ↔
      ¬ FailsAfterLink events := by
  obtain ⟨⟨seen, rely, -, blind, ends⟩, sound'⟩ :=
    run.outcome faithful accepted sound
  have same : seen.files = before.files := rely.2 trivial rfl
  have begun : (({} : Stage).read blind).broken = false := by
    cases blind <;> rfl
  have failed : (({} : Stage).read blind).fail.broken = false := by
    cases blind <;> rfl
  rw [← Stage.broken_iff]
  have calmly {files : Files} {stage : Stage}
      (closed : registry.After True 0 files stage events after)
      (unbroken : stage.broken = false) (unchanged : files = before.files) :
      ((∃ reason, result = .error reason) → ∀ path record,
        registry.Holds after.files path record ↔
          registry.Holds before.files path record) ↔
      ¬ (Stage.reached events).broken = true := by
    rw [closed.stage, unbroken, closed.same trivial rfl, unchanged]
    simp
  cases ends with
  | unnumbered _ closed => exact calmly closed begun same
  | refused _ _ closed => exact calmly closed begun same
  | existing _ _ closed => exact calmly closed begun same
  | failed closed => exact calmly closed failed same
  | created stamp _ _ closed =>
      rw [closed.stage]
      simp [Stage.link, begun]
  | @broken artifact reason _ _ stamp made verdict closed =>
      rw [closed.stage]
      simp only [Stage.link, Stage.fail, Bool.or_true, not_true_eq_false,
        iff_false]
      intro atomic
      have there : after.files.lookup artifact.key =
          some ⟨registry.serializers.dumpArtifactYaml artifact, stamp⟩ := by
        rw [closed.same trivial rfl]
        exact AList.lookup_insert _
      obtain ⟨stored, stores⟩ := sound' _ _ there
      obtain ⟨file, other, found, -⟩ := (atomic ⟨reason, rfl⟩ artifact.key
        _).mp ⟨_, stored, there, stores, rfl⟩
      cases verdict with
      | fresh _ _ free _ =>
          rw [same, found] at free
          cases free

/-- A directory that answers at once; some of the calls that neither read nor
change what is stored fail. -/
def Disk.respond (faulty : DiskOp → Bool) (index : Nat) (disk : Disk) :
    (op : DiskOp) → Except OsError op.Value × Disk
  | .lock =>
      match disk.holder with
      | none => (.ok (), { disk with holder := some index })
      | some _ => (.error (.other "EWOULDBLOCK"), disk)
  | .unlock | .closeRoot => (.ok (), disk.freed index)
  | .isDir capabilityId =>
      (.ok (disk.files.keys.any (·.1 = capabilityId)), disk)
  | .glob capabilityId =>
      (.ok (disk.files.keys.filterMap fun key =>
        if key.1 = capabilityId then some key.2 else none), disk)
  | .exists path => (.ok (disk.files.lookup path).isSome, disk)
  | .size path =>
      match disk.files.lookup path with
      | some file => (.ok file.content.utf8ByteSize, disk)
      | none => (.error .fileNotFound, disk)
  | .readText path =>
      match disk.files.lookup path with
      | some file => (.ok file.content, disk)
      | none => (.error .fileNotFound, disk)
  | .modified path =>
      match disk.files.lookup path with
      | some file => (.ok file.modified, disk)
      | none => (.error .fileNotFound, disk)
  | .mkstemp path =>
      let name := "." ++ path.2 ++ ".yaml.tmp"
      match disk.temporaries name with
      | none => (.ok name, disk.withTemporary name (some (index, "")))
      | some _ => (.error .fileExists, disk)
  | .write name content =>
      if (disk.temporaries name).map Prod.fst = some index then
        (.ok (), disk.withTemporary name (some (index, content)))
      else
        (.error (.other "EBADF"), disk)
  | .link name path =>
      match disk.files.lookup path, disk.temporaries name with
      | none, some (owner, content) =>
          if owner = index then
            (.ok (), { disk with
              files := disk.files.insert path
                ⟨content, { year := 2026, month := 1, day := 1 }⟩ })
          else
            (.error (.other "EACCES"), disk)
      | some _, _ => (.error .fileExists, disk)
      | _, none => (.error .fileNotFound, disk)
  | .unlink name =>
      if (disk.temporaries name).map Prod.fst = some index then
        (.ok (), disk.withTemporary name none)
      else
        (.error (.other "EACCES"), disk)
  | .openRoot => (quiet .openRoot, disk)
  | .mkdir capabilityId => (quiet (.mkdir capabilityId), disk)
  | .openDirectory capabilityId => (quiet (.openDirectory capabilityId), disk)
  | .syncDirectory capabilityId => (quiet (.syncDirectory capabilityId), disk)
  | .closeDirectory capabilityId =>
      (quiet (.closeDirectory capabilityId), disk)
  | .fdopen name => (quiet (.fdopen name), disk)
  | .flush name => (quiet (.flush name), disk)
  | .sync name => (quiet (.sync name), disk)
  | .close name => (quiet (.close name), disk)
where
  quiet (op : DiskOp) : Except OsError Unit :=
    if faulty op then .error (.other "EIO") else .ok ()

/-- The answers are those the calls may give. -/
theorem Disk.respond_lawful (faulty : DiskOp → Bool) (index : Nat)
    (past : List DiskEvent) (disk : Disk) (op : DiskOp) :
    diskLaw index past disk ⟨op, (disk.respond faulty index op).1⟩
      (disk.respond faulty index op).2 := by
  have owns {name : String}
      (mine : (disk.temporaries name).map Prod.fst = some index) :
      ∃ held, disk.temporaries name = some (index, held) := by
    obtain ⟨⟨owner, held⟩, found, rfl⟩ := Option.map_eq_some_iff.mp mine
    exact ⟨held, found⟩
  unfold diskLaw
  cases op with
  | lock =>
      simp only [respond]
      split
      next free => exact ⟨free, rfl⟩
      next => rfl
  | isDir capabilityId =>
      refine ⟨rfl, fun version found => ?_⟩
      have present : disk.files.keys.any (·.1 = capabilityId) = true := by
        rw [List.any_eq_true]
        refine ⟨(capabilityId, version), ?_, by simp⟩
        rw [← AList.mem_keys, ← AList.lookup_isSome]
        exact Option.isSome_iff_ne_none.mpr found
      exact present
  | glob capabilityId =>
      refine ⟨rfl, ?_, fun version => ?_⟩
      · refine List.Nodup.filterMap ?_ disk.files.keys_nodup
        intro first second version inside inside'
        simp only [Option.mem_def, Option.ite_none_right_eq_some,
          Option.some.injEq] at inside inside'
        exact Prod.ext (inside.1.trans inside'.1.symm)
          (inside.2.trans inside'.2.symm)
      · rw [← Option.isSome_iff_ne_none, AList.lookup_isSome, AList.mem_keys,
          List.mem_filterMap]
        constructor
        · rintro ⟨⟨id, version'⟩, member, same⟩
          simp only [Option.ite_none_right_eq_some, Option.some.injEq] at same
          obtain ⟨rfl, rfl⟩ := same
          exact member
        · intro member
          exact ⟨(capabilityId, version), member, by simp⟩
  | «exists» path => exact ⟨rfl, rfl⟩
  | size path =>
      simp only [respond]
      split
      next file found => exact ⟨rfl, file, found, rfl⟩
      next found => exact ⟨rfl, found⟩
  | readText path =>
      simp only [respond]
      split
      next file found => exact ⟨rfl, file, found, rfl⟩
      next => rfl
  | modified path =>
      simp only [respond]
      split
      next file found => exact ⟨rfl, file, found, rfl⟩
      next => rfl
  | mkstemp path =>
      simp only [respond]
      split
      next free => exact ⟨free, rfl⟩
      next => rfl
  | write name content =>
      simp only [respond]
      split
      next mine => exact ⟨owns mine, rfl⟩
      next => exact .inl rfl
  | link name path =>
      simp only [respond]
      split
      next owner content free found =>
        split
        next mine =>
          subst mine
          exact ⟨free, content, _, found, rfl⟩
        next => rfl
      next file other found => exact ⟨rfl, by simp [found]⟩
      next => rfl
  | unlink name =>
      simp only [respond]
      split
      next mine => exact ⟨owns mine, rfl⟩
      next => rfl
  | _ => rfl

namespace Sample

def hexDigit (number : Nat) : Char :=
  "0123456789abcdef".toList.getD (number % 16) '0'

/-- A digest of the right shape. -/
def digest (text : String) : String :=
  "sha256:" ++ String.ofList ((List.range 64).map fun index =>
    hexDigit (text.toList.getD index '0').toNat)

theorem hex_hexDigit (number : Nat) : Pattern.hex (hexDigit number) = true := by
  have small : number % 16 < 16 := Nat.mod_lt _ (by decide)
  have all : ∀ index : Fin 16,
      Pattern.hex ("0123456789abcdef".toList.getD index '0') = true := by
    decide
  exact all ⟨number % 16, small⟩

theorem hexAfter_digest (text : String) :
    Pattern.hexAfter "sha256:" 64 (digest text) = true := by
  have letters : (digest text).toList =
      "sha256:".toList ++ (List.range 64).map fun index =>
        hexDigit (text.toList.getD index '0').toNat := by
    simp [digest]
  simp only [Pattern.hexAfter, Text.hasPrefix, letters, List.drop_left]
  simp [hex_hexDigit]

-- Comparing serializers must not compute digests.
attribute [irreducible] digest

noncomputable def hashing : Serializers :=
  { serializers with digest := digest }

/-- A registry that admits just one payment. -/
noncomputable def registry : LocalCapabilityRegistry where
  serializers := hashing
  host := host
  maximumArtifactBytes := (hashing.dumpArtifactYaml payment).utf8ByteSize

theorem registry_faithful : registry.Faithful where
  scalars := serializers_reads
  yaml json _ := serializers_yaml json
  digests := hexAfter_digest

/-- The directory of a capability cannot be synchronized. -/
def unsynchronized : DiskOp → Bool
  | .syncDirectory (some _) => true
  | _ => false

/-- The call against a directory some of whose calls fail. -/
noncomputable def publication (faulty : DiskOp → Bool)
    (call : PublicationCall) :
    List DiskEvent × (Except Raised CapabilityVersionRecord × Unit) × Disk :=
  ((call.code registry).run.run ()).simulate (Disk.respond faulty 0) {}

theorem publication_runs (faulty : DiskOp → Bool) (call : PublicationCall) :
    call.Run registry {} (publication faulty call).1
      (publication faulty call).2.1.1 (publication faulty call).2.2 := by
  obtain ⟨runs, leads⟩ := Program.simulate_runs
    (Disk.respond_lawful faulty 0) [] {} ((call.code registry).run.run ())
  exact ⟨runs, leads⟩

theorem registry_accepts :
    registry.serializers.Accepted registry.host payment :=
  ⟨_, payment_accepted⟩

theorem empty_sound : registry.Sound {} := by
  intro path file found
  cases found

theorem declaredHash_payment : registry.serializers.declaredHash payment =
    .ok (registry.serializers.artifactContentHash payment) := rfl

theorem path_payment :
    LocalCapabilityRegistry.path payment.capability.id
      payment.capability.version = .ok ("bank.pay", "1.0.0") := by
  decide +kernel

theorem registry_admits : registry.maximumArtifactBytes =
    (registry.serializers.dumpArtifactYaml payment).utf8ByteSize := by
  unfold registry
  with_reducible rfl

theorem publishLocked_payment {registry : LocalCapabilityRegistry}
    (declared : registry.serializers.declaredHash payment =
      .ok (registry.serializers.artifactContentHash payment))
    (admits : registry.maximumArtifactBytes =
      (registry.serializers.dumpArtifactYaml payment).utf8ByteSize) :
    registry.publishLocked payment = (do
      let taken : Bool ← RegistryCode.os (.exists ("bank.pay", "1.0.0"))
      if taken then
        registry.loadExisting ("bank.pay", "1.0.0")
          (registry.serializers.artifactContentHash payment)
      else do
        let temporary ← LocalCapabilityRegistry.allocate ("bank.pay", "1.0.0")
        match ← registry.linkFile temporary
          (registry.serializers.dumpArtifactYaml payment) ("bank.pay", "1.0.0")
          (registry.serializers.artifactContentHash payment) with
        | some existing => pure existing
        | none => registry.load ("bank.pay", "1.0.0")) := by
  unfold LocalCapabilityRegistry.publishLocked LocalCapabilityRegistry.create
    RegistryCode.raiseIf
  rw [declared, path_payment]
  simp only [attempt_ok_bind, admits, Nat.lt_irrefl, decide_false,
    Bool.false_eq_true, if_false] <;> rfl

/-- The call raises, and the version is there. -/
theorem unsynchronized_publication :
    (publication unsynchronized (.publish payment)).2.1.1.isOk = false ∧
    ((publication unsynchronized (.publish payment)).2.2.files.lookup
      ("bank.pay", "1.0.0")).isSome = true := by
  have shape := publishLocked_payment declaredHash_payment registry_admits
  unfold publication PublicationCall.code LocalCapabilityRegistry.publish
  simp only [shape]
  decide +kernel

/-- The call that raises leaves a version that was not there before. -/
theorem publication_not_atomic :
    ¬ ∀ (registry : LocalCapabilityRegistry) (call : PublicationCall)
        (before after : Disk) (events : List DiskEvent)
        (result : Except Raised CapabilityVersionRecord),
      registry.Faithful →
      registry.serializers.Accepted registry.host call.artifact →
      registry.Sound before →
      call.Run registry before events result after →
      (∃ reason, result = .error reason) →
      ∀ path record, registry.Holds after.files path record ↔
        registry.Holds before.files path record := by
  intro atomic
  have run := publication_runs unsynchronized (.publish payment)
  have accepted : registry.serializers.Accepted registry.host
      (PublicationCall.publish payment).artifact := registry_accepts
  have sound := (run.outcome registry_faithful accepted empty_sound).2
  obtain ⟨raised, visible⟩ := unsynchronized_publication
  have fails : ∃ reason,
      (publication unsynchronized (.publish payment)).2.1.1 =
        .error reason := by
    cases outcome : (publication unsynchronized (.publish payment)).2.1.1 with
    | ok record =>
        rw [outcome] at raised
        cases raised
    | error reason => exact ⟨reason, rfl⟩
  obtain ⟨file, found⟩ := Option.isSome_iff_exists.mp visible
  obtain ⟨stored, stores⟩ := sound _ _ found
  obtain ⟨_, _, there, -⟩ := (atomic registry (.publish payment) _ _ _ _
    registry_faithful registry_accepts empty_sound run fails _ _).mp
    ⟨file, stored, found, stores, rfl⟩
  cases there

/-- A run whose directory could not be synchronized has failed after the
link. -/
theorem payment_publication_atomic_iff :
    ((∃ reason, (publication unsynchronized (.publish payment)).2.1.1 =
        .error reason) →
      ∀ path record,
        registry.Holds
          (publication unsynchronized (.publish payment)).2.2.files
          path record ↔
        registry.Holds ({} : Disk).files path record) ↔
      ¬ FailsAfterLink
        (publication unsynchronized (.publish payment)).1 :=
  publication_atomic_iff registry (.publish payment) registry_faithful
    registry_accepts empty_sound
    (publication_runs unsynchronized (.publish payment))

end Sample

end ReplayForge

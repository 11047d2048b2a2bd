import ReplayForge.Capabilities.LocalRegistry
import ReplayForge.Capabilities.RoundTrip
import ReplayForge.Effect.Interleaving

/-!
# The directory of a registry

What each operating-system call may answer and do to the directory, and what a
call of the registry relies on while other threads are at work.
-/

namespace ReplayForge

open Effect

structure StoredFile where
  content : String
  modified : Timestamp

abbrev Files := AList fun _ : CapabilityKey => StoredFile

structure Disk where
  files : Files := ∅
  /-- The thread that holds the lock of the directory. -/
  holder : Option Nat := none
  /-- Each temporary file with the thread that has created it. -/
  temporaries : String → Option (Nat × String) := fun _ => none

namespace Disk

/-- The lock is given up by a thread. -/
def freed (disk : Disk) (index : Nat) : Disk :=
  { disk with
    holder := if disk.holder = some index then none else disk.holder }

def withTemporary (disk : Disk) (name : String)
    (held : Option (Nat × String)) : Disk :=
  { disk with temporaries := Function.update disk.temporaries name held }

end Disk

/-- The versions of a capability, in any order. -/
def Lists (files : Files) (capabilityId : String) (versions : List String) :
    Prop :=
  versions.Nodup ∧ ∀ version, version ∈ versions ↔
    files.lookup (capabilityId, version) ≠ none

/-- What a call issued by a thread may answer and do. -/
def DiskOp.Leaves (index : Nat) (before : Disk) :
    (op : DiskOp) → Except OsError op.Value → Disk → Prop
  | .lock, .ok _, after =>
      before.holder = none ∧ after = { before with holder := some index }
  | .unlock, .ok _, after | .closeRoot, .ok _, after =>
      after = before.freed index
  | .closeRoot, .error _, after =>
      after = before ∨ after = before.freed index
  | .isDir capabilityId, .ok present, after =>
      after = before ∧ ∀ version,
        before.files.lookup (capabilityId, version) ≠ none → present = true
  | .glob capabilityId, .ok versions, after =>
      after = before ∧ Lists before.files capabilityId versions
  | .exists path, .ok present, after =>
      after = before ∧ present = (before.files.lookup path).isSome
  | .size path, .ok bytes, after =>
      after = before ∧ ∃ file, before.files.lookup path = some file ∧
        bytes = file.content.utf8ByteSize
  | .size path, .error .fileNotFound, after =>
      after = before ∧ before.files.lookup path = none
  | .readText path, .ok content, after =>
      after = before ∧ ∃ file, before.files.lookup path = some file ∧
        content = file.content
  | .modified path, .ok stamp, after =>
      after = before ∧ ∃ file, before.files.lookup path = some file ∧
        stamp = file.modified
  | .mkstemp _, .ok name, after =>
      before.temporaries name = none ∧
        after = before.withTemporary name (some (index, ""))
  | .write name content, .ok _, after =>
      (∃ held, before.temporaries name = some (index, held)) ∧
        after = before.withTemporary name (some (index, content))
  | .write name _, .error _, after =>
      after = before ∨
        ((∃ held, before.temporaries name = some (index, held)) ∧
          ∃ part, after = before.withTemporary name (some (index, part)))
  | .link name path, .ok _, after =>
      before.files.lookup path = none ∧
        ∃ content stamp, before.temporaries name = some (index, content) ∧
          after = { before with
            files := before.files.insert path ⟨content, stamp⟩ }
  | .link _ path, .error .fileExists, after =>
      after = before ∧ before.files.lookup path ≠ none
  | .unlink name, .ok _, after =>
      (∃ held, before.temporaries name = some (index, held)) ∧
        after = before.withTemporary name none
  | _, _, after => after = before

/-- The calls that neither read nor change what the registry stores. -/
def DiskOp.isQuiet : DiskOp → Bool
  | .openRoot | .mkdir _ | .openDirectory _ | .syncDirectory _
  | .closeDirectory _ | .fdopen _ | .flush _ | .sync _ | .close _ => true
  | _ => false

theorem DiskOp.Leaves.of_quiet {op : DiskOp} (quiet : op.isQuiet = true)
    {index : Nat} {before after : Disk} {answer : Except OsError op.Value}
    (leaves : op.Leaves index before answer after) : after = before := by
  cases op with
  | openRoot | mkdir | openDirectory | syncDirectory | closeDirectory | fdopen
  | flush | sync | close => exact leaves
  | _ => cases quiet

def diskLaw : Law DiskSig Disk := fun index _ before event after =>
  event.op.Leaves index before event.resp after

namespace DiskEvent

/-- A call that has failed.  A missing and an existing file are answers. -/
def failed : DiskEvent → Bool
  | ⟨.size _, .error .fileNotFound⟩ | ⟨.link _ _, .error .fileExists⟩ => false
  | ⟨_, .error _⟩ => true
  | ⟨_, .ok _⟩ => false

/-- A version has been made visible. -/
def linked : DiskEvent → Bool
  | ⟨.link _ _, .ok _⟩ => true
  | _ => false

/-- The directory of a capability could not be listed. -/
def unlisted : DiskEvent → Bool
  | ⟨.glob _, .error _⟩ => true
  | _ => false

end DiskEvent

/-- Some directory could not be listed. -/
def Blinded (past : List DiskEvent) : Prop :=
  ∃ event ∈ past, DiskEvent.unlisted event = true

theorem Blinded.extend {past later : List DiskEvent} (blinded : Blinded past)
    (extended : past <+: later) : Blinded later := by
  obtain ⟨event, member, unlisted⟩ := blinded
  exact ⟨event, extended.subset member, unlisted⟩

/-- How far a publication has come. -/
structure Stage where
  linked : Bool := false
  failed : Bool := false
  /-- A call has failed after a version was made visible. -/
  broken : Bool := false
deriving DecidableEq

namespace Stage

def step (stage : Stage) (event : DiskEvent) : Stage where
  linked := stage.linked || DiskEvent.linked event
  failed := stage.failed || DiskEvent.failed event
  broken := stage.broken || (stage.linked && DiskEvent.failed event)

def fail (stage : Stage) : Stage :=
  { stage with failed := true, broken := stage.broken || stage.linked }

def link (stage : Stage) : Stage :=
  { stage with linked := true }

/-- The stored versions have been read; a blind thread could not list them. -/
def read (stage : Stage) (blind : Bool) : Stage :=
  if blind then stage.fail else stage

def reached (past : List DiskEvent) : Stage :=
  past.foldl step {}

@[simp]
theorem reached_snoc (past : List DiskEvent) (event : DiskEvent) :
    reached (past ++ [event]) = (reached past).step event := by
  simp [reached, List.foldl_append]

@[simp]
theorem fail_fail (stage : Stage) : stage.fail.fail = stage.fail := by
  simp [fail]

theorem step_quiet {stage : Stage} {event : DiskEvent}
    (sound : DiskEvent.failed event = false)
    (unlinked : DiskEvent.linked event = false) : stage.step event = stage := by
  simp [step, sound, unlinked]

theorem step_failed {stage : Stage} {event : DiskEvent}
    (failed : DiskEvent.failed event = true)
    (unlinked : DiskEvent.linked event = false) :
    stage.step event = stage.fail := by
  simp [step, fail, failed, unlinked]

end Stage

/-- What a thread relies on between its own calls. -/
structure Disk.Grows (index : Nat) (before after : Disk) : Prop where
  kept : ∀ path file, before.files.lookup path = some file →
    after.files.lookup path = some file
  held : before.holder = some index →
    after.holder = some index ∧ after.files = before.files
  owned : ∀ name content, before.temporaries name = some (index, content) →
    after.temporaries name = some (index, content)

namespace Disk.Grows

variable {index : Nat} {first second third : Disk}

theorem refl (index : Nat) (disk : Disk) : disk.Grows index disk where
  kept _ _ found := found
  held holds := ⟨holds, rfl⟩
  owned _ _ found := found

theorem trans (grows : first.Grows index second)
    (grows' : second.Grows index third) : first.Grows index third where
  kept path file found := grows'.kept path file (grows.kept path file found)
  held holds := by
    obtain ⟨still, same⟩ := grows.held holds
    obtain ⟨still', same'⟩ := grows'.held still
    exact ⟨still', same'.trans same⟩
  owned name content found :=
    grows'.owned name content (grows.owned name content found)

end Disk.Grows

/-- An artifact the model has accepted. -/
def Serializers.Accepted (serializers : Serializers) (host : Host)
    (artifact : CapabilityArtifact) : Prop :=
  ∃ raw, serializers.modelValidate host raw = .ok artifact

namespace LocalCapabilityRegistry

variable (registry : LocalCapabilityRegistry)

/-- What a file holds under a path. -/
structure Stores (path : CapabilityKey) (file : StoredFile)
    (artifact : CapabilityArtifact) : Prop where
  accepted : registry.serializers.Accepted registry.host artifact
  key : artifact.key = path
  convertible : isConvertible artifact.capability.version = true
  declared : registry.serializers.declaredHash artifact =
    .ok (registry.serializers.artifactContentHash artifact)
  content : file.content = registry.serializers.dumpArtifactYaml artifact
  small : file.content.utf8ByteSize ≤ registry.maximumArtifactBytes

/-- Every file holds an artifact. -/
def Sound (disk : Disk) : Prop :=
  ∀ path file, disk.files.lookup path = some file →
    ∃ artifact, registry.Stores path file artifact

/-- The record of a stored artifact. -/
def record (file : StoredFile) (artifact : CapabilityArtifact) :
    CapabilityVersionRecord where
  artifact
  contentHash := registry.serializers.artifactContentHash artifact
  publishedAt := file.modified

/-- The directory shared by the threads.  When it is calm, no other thread
adds a file while the thread of index zero is at work. -/
def shared (calm : Prop) : Shared DiskSig Disk where
  law := diskLaw
  valid := registry.Sound
  rely index before after :=
    before.Grows index after ∧
      (calm → index = 0 → after.files = before.files)
  refl index disk := ⟨.refl index disk, fun _ _ => rfl⟩
  trans first second :=
    ⟨first.1.trans second.1, fun calm alone =>
      (second.2 calm alone).trans (first.2 calm alone)⟩

/-- The serializers write what they read back. -/
structure Faithful : Prop where
  scalars : registry.serializers.jsonMode.ReadBy registry.serializers.reader
  yaml : ∀ json, json.Distinct → registry.serializers.YamlReads json
  digests : ∀ text, Pattern.hexAfter "sha256:" 64
    (registry.serializers.digest text) = true

end LocalCapabilityRegistry

end ReplayForge

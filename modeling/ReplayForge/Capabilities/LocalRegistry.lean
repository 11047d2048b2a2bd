import ReplayForge.Capabilities.Registry
import ReplayForge.Effect.Procedure

/-!
# The registry on a file system

A record is a YAML file named by its capability and its version.  The calls to
the operating system are the operations; each of them may fail.  The lock of
the directory excludes every other writer, also those that share the registry
object, so that the lock of the object needs no operation of its own.
-/

namespace ReplayForge

open Effect

/-- What an operating-system call raises. -/
inductive OsError where
  | fileNotFound
  | fileExists
  | other (message : String)
deriving DecidableEq

def OsError.raised : OsError → Raised
  | .fileNotFound => .os "FileNotFoundError"
  | .fileExists => .os "FileExistsError"
  | .other message => .os message

inductive DiskOp where
  /-- `os.open(self.root, os.O_RDONLY)` -/
  | openRoot
  /-- `fcntl.flock(descriptor, fcntl.LOCK_EX)` -/
  | lock
  /-- `fcntl.flock(descriptor, fcntl.LOCK_UN)` -/
  | unlock
  | closeRoot
  | isDir (capabilityId : String)
  /-- The `scandir` of `directory.glob("*.yaml")`: the versions the files are
  named by. -/
  | glob (capabilityId : String)
  /-- `path.exists()` and `path.is_file()` -/
  | exists (path : CapabilityKey)
  /-- `path.stat().st_size` -/
  | size (path : CapabilityKey)
  | readText (path : CapabilityKey)
  /-- `path.stat().st_mtime` -/
  | modified (path : CapabilityKey)
  | mkdir (capabilityId : String)
  /-- `os.open(directory, os.O_RDONLY)`; none is the root. -/
  | openDirectory (capabilityId : Option String)
  | syncDirectory (capabilityId : Option String)
  | closeDirectory (capabilityId : Option String)
  | mkstemp (path : CapabilityKey)
  | fdopen (temporary : String)
  | write (temporary content : String)
  | flush (temporary : String)
  | sync (temporary : String)
  | close (temporary : String)
  | link (temporary : String) (path : CapabilityKey)
  | unlink (temporary : String)

def DiskOp.Value : DiskOp → Type
  | .isDir _ | .exists _ => Bool
  | .glob _ => List String
  | .size _ => Nat
  | .readText _ | .mkstemp _ => String
  | .modified _ => Timestamp
  | _ => Unit

abbrev DiskSig : Signature := ⟨DiskOp, fun op => Except OsError op.Value⟩

abbrev DiskEvent := Event DiskSig

abbrev RegistryCode := Procedure DiskSig Unit Raised

namespace RegistryCode

variable {α : Type}

/-- A call whose failure is raised as it is. -/
def os (op : DiskOp) : RegistryCode op.Value :=
  @invoke DiskSig Unit Raised _ op fun answer => answer.mapError OsError.raised

/-- A call whose failure is translated. -/
def translating (op : DiskOp) (raised : OsError → Raised) :
    RegistryCode op.Value :=
  @invoke DiskSig Unit Raised _ op fun answer => answer.mapError raised

/-- `except OSError as error: raise CapabilityPublicationError`; the errors of
the registry pass. -/
def storage (body : RegistryCode α) : RegistryCode α :=
  tryCatch body fun
    | .os _ => throw .capabilityPublication
    | error => throw error

/-- `finally`: an exception of the final part replaces the outcome. -/
def ensuring (body : RegistryCode α) (final : RegistryCode Unit) :
    RegistryCode α := do
  let outcome ← tryCatch (Except.ok <$> body) fun error => pure (.error error)
  final
  attempt outcome

def raiseIf (test : Bool) (error : Raised) : RegistryCode Unit :=
  attempt (if test then .error error else .ok ())

end RegistryCode

open RegistryCode

structure LocalCapabilityRegistry where
  serializers : Serializers
  host : Host
  maximumArtifactBytes : Nat := 1000000

namespace LocalCapabilityRegistry

def capabilityDirectory (capabilityId : String) : Except Raised String :=
  if Pattern.capabilityId capabilityId then .ok capabilityId
  else .error .capabilityNotFound

/-- `_path`: a version of digits and dots, three numbers. -/
def path (capabilityId version : String) : Except Raised CapabilityKey := do
  let directory ← capabilityDirectory capabilityId
  if version.isEmpty ||
      version.toList.any (fun char => !(Pattern.digit char || char = '.')) then
    .error .capabilityNotFound
  else
    match semanticVersion version with
    | .ok _ => .ok (directory, version)
    | .error _ => .error .capabilityNotFound

variable (registry : LocalCapabilityRegistry)

/-- The artifact in a file, with its content hash. -/
def parse (path : CapabilityKey) (content : String) :
    Except Raised (CapabilityArtifact × String) := do
  let artifact ←
    (registry.serializers.loadArtifactYaml registry.host content).mapError
      fun _ => .capabilityIntegrity "stored artifact failed schema validation"
  let expected ← LocalCapabilityRegistry.path artifact.capability.id
    artifact.capability.version
  if path ≠ expected then
    .error (.capabilityIntegrity
      "artifact identity does not match its storage path")
  else
    return (artifact, ← registry.serializers.declaredHash artifact)

/-- `_load` -/
def load (path : CapabilityKey) : RegistryCode CapabilityVersionRecord := do
  let size : Nat ← translating (.size path) fun
    | .fileNotFound => .capabilityNotFound
    | _ => .capabilityPublication
  raiseIf (registry.maximumArtifactBytes < size)
    (.capabilityIntegrity "artifact exceeds the loading size limit")
  let content ← translating (.readText path) fun _ => .capabilityPublication
  let (artifact, contentHash) ← attempt (registry.parse path content)
  let publishedAt ← os (.modified path)
  pure { artifact, contentHash, publishedAt }

def loadAll : List CapabilityKey → RegistryCode (List CapabilityVersionRecord)
  | [] => pure []
  | path :: rest => do
      let record ← registry.load path
      let records ← loadAll rest
      pure (record :: records)

/-- `directory.glob("*.yaml")`: nothing matches in a directory that cannot be
listed. -/
def glob (capabilityId : String) : RegistryCode (List String) :=
  @invoke DiskSig Unit Raised _ (.glob capabilityId) fun answer =>
    .ok (answer.toOption.getD [])

/-- `_versions_locked` -/
def versionsLocked (capabilityId : String) :
    RegistryCode (List CapabilityVersionRecord) := do
  let directory ← attempt (capabilityDirectory capabilityId)
  let present : Bool ← os (.isDir directory)
  if present then
    let versions ← glob directory
    registry.loadAll (versions.map fun version => (directory, version))
  else
    pure []

/-- `_sync_directory` -/
def syncDirectory (capabilityId : Option String) : RegistryCode Unit := do
  os (.openDirectory capabilityId)
  ensuring (os (.syncDirectory capabilityId))
    (os (.closeDirectory capabilityId))

/-- The stored record, when it has the content to publish. -/
def loadExisting (path : CapabilityKey) (contentHash : String) :
    RegistryCode CapabilityVersionRecord := do
  let existing ← registry.load path
  raiseIf (existing.contentHash ≠ contentHash) .capabilityConflict
  pure existing

/-- The temporary file beside the destination. -/
def allocate (destination : CapabilityKey) : RegistryCode String :=
  storage do
    os (.mkdir destination.1)
    syncDirectory none
    os (.mkstemp destination)

def writeFile (temporary content : String) : RegistryCode Unit := do
  os (.fdopen temporary)
  ensuring
    (do
      os (.write temporary content)
      os (.flush temporary)
      os (.sync temporary))
    (os (.close temporary))

/-- `os.link(temporary, destination)`; false when the destination exists. -/
def link (temporary : String) (destination : CapabilityKey) :
    RegistryCode Bool :=
  @invoke DiskSig Unit Raised _ (.link temporary destination) fun
    | .ok _ => .ok true
    | .error .fileExists => .ok false
    | .error error => .error error.raised

/-- Link a new file; the stored record when another file is there. -/
def linkFile (temporary content : String) (destination : CapabilityKey)
    (contentHash : String) : RegistryCode (Option CapabilityVersionRecord) :=
  ensuring
    (storage do
      writeFile temporary content
      if ← link temporary destination then
        syncDirectory (some destination.1)
        pure none
      else
        some <$> registry.loadExisting destination contentHash)
    (os (.unlink temporary))

/-- Write a file under a destination that is free. -/
def create (artifact : CapabilityArtifact) (destination : CapabilityKey)
    (contentHash : String) : RegistryCode CapabilityVersionRecord := do
  let content := registry.serializers.dumpArtifactYaml artifact
  raiseIf (registry.maximumArtifactBytes < content.utf8ByteSize)
    (.capabilityIntegrity "artifact exceeds the publication size limit")
  let temporary ← allocate destination
  match ← registry.linkFile temporary content destination contentHash with
  | some existing => pure existing
  | none => registry.load destination

/-- `_publish_locked` -/
def publishLocked (artifact : CapabilityArtifact) :
    RegistryCode CapabilityVersionRecord := do
  let contentHash ← attempt (registry.serializers.declaredHash artifact)
  let destination ← attempt
    (path artifact.capability.id artifact.capability.version)
  let taken : Bool ← os (.exists destination)
  if taken then
    registry.loadExisting destination contentHash
  else
    registry.create artifact destination contentHash

/-- The artifact `publish_next` publishes beside the stored records. -/
def nextArtifact (artifact : CapabilityArtifact)
    (existing : List CapabilityVersionRecord) :
    Except Raised CapabilityArtifact := do
  let proposed ← semanticVersion artifact.capability.version
  let registered ← existing.mapM fun record =>
    semanticVersion record.artifact.capability.version
  let version ← (nextVersion proposed registered).text
  return registry.serializers.stamped artifact version

def publishNextLocked (artifact : CapabilityArtifact) :
    RegistryCode CapabilityVersionRecord := do
  let existing ← registry.versionsLocked artifact.capability.id
  let candidate ← attempt (registry.nextArtifact artifact existing)
  registry.publishLocked candidate

/-- `_write_lock` -/
def writeLock {α : Type} (body : RegistryCode α) : RegistryCode α := do
  storage (os .openRoot)
  tryCatch (os .lock) fun _ => do
    os .closeRoot
    throw .capabilityPublication
  ensuring body do
    os .unlock
    os .closeRoot

def publish (artifact : CapabilityArtifact) :
    RegistryCode CapabilityVersionRecord :=
  writeLock (registry.publishLocked artifact)

def publishNext (artifact : CapabilityArtifact) :
    RegistryCode CapabilityVersionRecord :=
  writeLock (registry.publishNextLocked artifact)

def get (capabilityId version : String) :
    RegistryCode CapabilityVersionRecord := do
  let path ← attempt (path capabilityId version)
  let present : Bool ← os (.exists path)
  if present then
    registry.load path
  else
    throw .capabilityNotFound

def versions (capabilityId : String) :
    RegistryCode (List CapabilityVersionRecord) := do
  let records ← registry.versionsLocked capabilityId
  attempt (orderedVersions records)

def latest (capabilityId : String) : RegistryCode CapabilityVersionRecord := do
  let records ← registry.versions capabilityId
  attempt (newest records)

end LocalCapabilityRegistry

end ReplayForge

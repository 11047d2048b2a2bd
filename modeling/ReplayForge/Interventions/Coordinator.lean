import ReplayForge.Interventions.Leases

/-!
# The intervention coordinator

Every operation reads an intervention together with its lease, prepares both
replacements and commits them by compare-and-swap.
-/

namespace ReplayForge

open Effect

/-- An intervention and the lease of its session. -/
abbrev ControlPair := Intervention × ControlLease

structure InterventionCoordinator where
  leases : ControlLeaseService

namespace InterventionCoordinator

variable {σ : Type} (coordinator : InterventionCoordinator)

def get (interventionId : String) : Runtime σ ControlPair :=
  Runtime.control (.getPair interventionId)

/-- `_commit` -/
def commit (current : Intervention) (currentLease : ControlLease)
    (replacement : Intervention) (replacementLease : ControlLease) :
    Runtime σ ControlPair :=
  Runtime.control (.swapPair current.id current.status currentLease.version
    currentLease.owner replacement replacementLease)

/-- The frame of every operation: read, prepare, commit. -/
def transition (interventionId : String)
    (prepare : Intervention → ControlLease → Runtime σ ControlPair) :
    Runtime σ ControlPair := do
  let (current, currentLease) ← get interventionId
  let (replacement, lease) ← prepare current currentLease
  commit current currentLease replacement lease

/-- The claim of an open intervention. -/
def prepareClaim (expectedLeaseVersion : Nat) (operatorId : String)
    (current : Intervention) (currentLease : ControlLease) :
    Runtime σ ControlPair := do
  let replacement ← attempt (current.claim operatorId)
  Runtime.raiseIf (currentLease.interventionId ≠ some current.id) .leaseConflict
  let owner ← attempt (ControlOwner.ofOperator operatorId)
  let lease ← coordinator.leases.prepareTransfer currentLease
    expectedLeaseVersion .automationPaused owner (some current.id) false
  pure (replacement, lease)

/-- The claim of an intervention whose human lease has expired. -/
def prepareReclaim (expectedLeaseVersion : Nat) (operatorId : String)
    (current : Intervention) (currentLease : ControlLease) :
    Runtime σ ControlPair := do
  let replacement ← attempt (current.reassign operatorId)
  Runtime.raiseIf (currentLease.interventionId ≠ some current.id ∨
    currentLease.owner.isHuman = false) .leaseConflict
  let now ← Runtime.now
  Runtime.raiseIf (now < currentLease.expiresAt) .leaseConflict
  let owner ← attempt (ControlOwner.ofOperator operatorId)
  let lease ← coordinator.leases.prepareTransfer currentLease
    expectedLeaseVersion currentLease.owner owner (some current.id) false
  pure (replacement, lease)

def claim (interventionId : String) (expectedLeaseVersion : Nat)
    (operatorId : String) : Runtime σ ControlPair :=
  transition interventionId fun current currentLease =>
    match current.status with
    | .open =>
        coordinator.prepareClaim expectedLeaseVersion operatorId current
          currentLease
    | .claimed =>
        coordinator.prepareReclaim expectedLeaseVersion operatorId current
          currentLease
    | _ => throw .interventionTransition

/-- The owner of a claimed intervention hands its lease back. -/
def prepareHandBack (step : Intervention → Except Raised Intervention)
    (expectedLeaseVersion : Nat) (operatorId : String)
    (current : Intervention) (currentLease : ControlLease) :
    Runtime σ ControlPair := do
  Runtime.raiseIf (current.operatorId ≠ some operatorId)
    .interventionAuthorization
  let replacement ← attempt (step current)
  let owner ← attempt (ControlOwner.ofOperator operatorId)
  let lease ← coordinator.leases.prepareTransfer currentLease
    expectedLeaseVersion owner .automationPaused (some current.id)
  pure (replacement, lease)

def release (interventionId : String) (expectedLeaseVersion : Nat)
    (operatorId : String) : Runtime σ ControlPair :=
  transition interventionId
    (coordinator.prepareHandBack Intervention.release expectedLeaseVersion
      operatorId)

def beginResume (interventionId : String) (expectedLeaseVersion : Nat)
    (operatorId : String) : Runtime σ ControlPair :=
  transition interventionId
    (coordinator.prepareHandBack Intervention.beginResume expectedLeaseVersion
      operatorId)

def reopen (interventionId explanation : String) : Runtime σ ControlPair :=
  transition interventionId fun current currentLease => do
    let replacement ← attempt (current.reopen explanation)
    Runtime.raiseIf (currentLease.owner ≠ .automationPaused)
      (.runtime "a reopened intervention must retain paused ownership")
    pure (replacement, currentLease)

def completeResume (interventionId : String) (expectedLeaseVersion : Nat)
    (resolution : String) : Runtime σ ControlPair :=
  transition interventionId fun current currentLease => do
    let replacement ← attempt (current.resolve resolution)
    let lease ← coordinator.leases.prepareTransfer currentLease
      expectedLeaseVersion .automationPaused .automation none
    pure (replacement, lease)

def heartbeat (interventionId : String) (expectedLeaseVersion : Nat)
    (operatorId : String) : Runtime σ ControlPair :=
  transition interventionId fun current currentLease => do
    Runtime.raiseIf (current.status ≠ .claimed ∨
      current.operatorId ≠ some operatorId) .interventionAuthorization
    let owner ← attempt (ControlOwner.ofOperator operatorId)
    let lease ← coordinator.leases.prepareHeartbeat currentLease
      expectedLeaseVersion owner
    pure (current, lease)

/-- The owner whose lease a termination takes. -/
def terminableOwner (current : Intervention) (operatorId : Option String) :
    Except Raised ControlOwner :=
  match current.status, current.operatorId, operatorId with
  | .open, _, _ => .ok .automationPaused
  | .claimed, some owner, some operator =>
      if owner = operator then ControlOwner.ofOperator operator
      else .error .interventionAuthorization
  | _, _, _ => .error .interventionAuthorization

def terminate (interventionId : String) (expectedLeaseVersion : Nat)
    (operatorId : Option String) (resolution : String) :
    Runtime σ ControlPair :=
  transition interventionId fun current currentLease => do
    let expectedOwner ← attempt (terminableOwner current operatorId)
    let replacement ← attempt (current.terminate resolution)
    let lease ← coordinator.leases.prepareTransfer currentLease
      expectedLeaseVersion expectedOwner .none none
      (expectedOwner ≠ .automationPaused)
    pure (replacement, lease)

end InterventionCoordinator

/-- A call on the coordinator, the lease service or the router. -/
inductive ControlCall where
  | createForAutomation (sessionId : String)
  | automationHeartbeat (sessionId : String) (expectedVersion : Nat)
  | openIntervention (interventionId runId sessionId : String)
      (expectedLeaseVersion : Nat) (code : String) (stepId : Option String)
      (observation : NormalizedObservation) (context : InterventionContext)
      (explanation : Option String)
  | claim (interventionId : String) (expectedLeaseVersion : Nat)
      (operatorId : String)
  | release (interventionId : String) (expectedLeaseVersion : Nat)
      (operatorId : String)
  | heartbeat (interventionId : String) (expectedLeaseVersion : Nat)
      (operatorId : String)
  | beginResume (interventionId : String) (expectedLeaseVersion : Nat)
      (operatorId : String)
  | reopen (interventionId explanation : String)
  | completeResume (interventionId : String) (expectedLeaseVersion : Nat)
      (resolution : String)
  | terminate (interventionId : String) (expectedLeaseVersion : Nat)
      (operatorId : Option String) (resolution : String)
deriving DecidableEq

namespace ControlCall

def procedure (coordinator : InterventionCoordinator) :
    ControlCall → Runtime Unit Unit
  | .createForAutomation sessionId => do
      let _ ← coordinator.leases.createForAutomation sessionId
  | .automationHeartbeat sessionId version => do
      let _ ← coordinator.leases.heartbeat sessionId version .automation
  | .openIntervention interventionId runId sessionId version code stepId
      observation context explanation => do
      let _ ← coordinator.leases.openIntervention interventionId runId sessionId
        version code stepId observation context explanation
  | .claim interventionId version operatorId => do
      let _ ← coordinator.claim interventionId version operatorId
  | .release interventionId version operatorId => do
      let _ ← coordinator.release interventionId version operatorId
  | .heartbeat interventionId version operatorId => do
      let _ ← coordinator.heartbeat interventionId version operatorId
  | .beginResume interventionId version operatorId => do
      let _ ← coordinator.beginResume interventionId version operatorId
  | .reopen interventionId explanation => do
      let _ ← InterventionCoordinator.reopen interventionId explanation
  | .completeResume interventionId version resolution => do
      let _ ← coordinator.completeResume interventionId version resolution
  | .terminate interventionId version operatorId resolution => do
      let _ ← coordinator.terminate interventionId version operatorId resolution

end ControlCall

end ReplayForge

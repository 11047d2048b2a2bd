import ReplayForge.Capabilities.Artifact
import ReplayForge.Surfaces.Models

/-!
# Interventions and control leases

Each aggregate is built by a `make` function that performs the checks of its
constructor.  Times are clock readings; the offset checks are left out with
the offsets.
-/

namespace ReplayForge

/-- A control owner; exactly the human owner carries a principal. -/
inductive ControlOwner where
  | automation
  | automationPaused
  | human (principalId : String)
  | none
deriving DecidableEq, Repr

namespace ControlOwner

def value : ControlOwner → String
  | .automation => "automation"
  | .automationPaused => "automation_paused"
  | .human principalId => "human:" ++ principalId
  | .none => "none"

/-- `ControlOwner(OwnerKind.HUMAN, operator_id)` -/
def ofOperator (operatorId : String) : Except Raised ControlOwner := do
  require (!Text.isBlank operatorId)
    "human control owner requires a principal ID"
  pure (.human operatorId)

def isHuman : ControlOwner → Bool
  | .human _ => true
  | _ => false

/-- Paused and human leases are bound to an intervention. -/
def requiresIntervention : ControlOwner → Bool
  | .automationPaused | .human _ => true
  | .automation | .none => false

end ControlOwner

structure ControlLease where
  sessionId : String
  owner : ControlOwner
  version : Nat
  issuedAt : Int
  lastHeartbeat : Int
  expiresAt : Int
  interventionId : Option String := none
deriving DecidableEq

def ControlLease.make (lease : ControlLease) : Except Raised ControlLease := do
  let _ ← parseId lease.sessionId .session
  lease.interventionId.forM fun id => discard (parseId id .intervention)
  require (1 ≤ lease.version) "lease version must be positive"
  require (lease.issuedAt ≤ lease.lastHeartbeat &&
      lease.lastHeartbeat < lease.expiresAt)
    "lease timestamps must be ordered from issuance through expiry"
  require (lease.owner.requiresIntervention = lease.interventionId.isSome)
    "paused and human leases require exactly one intervention binding"
  pure lease

inductive InterventionStatus where
  | open
  | claimed
  | resuming
  | resolved
  | terminated
deriving DecidableEq, Repr

namespace InterventionStatus

def isActive : InterventionStatus → Bool
  | .open | .claimed | .resuming => true
  | .resolved | .terminated => false

def requiresOperator : InterventionStatus → Bool
  | .claimed | .resuming | .resolved => true
  | .open | .terminated => false

def requiresResolution : InterventionStatus → Bool
  | .resolved | .terminated => true
  | .open | .claimed | .resuming => false

end InterventionStatus

inductive InterventionRunMode where
  | discovery
  | replay
deriving DecidableEq, Repr

structure InterventionContext where
  runMode : InterventionRunMode
  applicationFamily : String
  tenant : String
  taskSummary : String
  surfaceRoute : String
  stepId : Option String := none
  capabilityId : Option String := none
  capabilityVersion : Option String := none
  capabilityName : Option String := none
deriving DecidableEq

def InterventionContext.make (context : InterventionContext) :
    Except Raised InterventionContext := do
  require ([context.applicationFamily, context.tenant, context.taskSummary,
      context.surfaceRoute].all (!Text.isBlank ·))
    "intervention context requires non-empty routing fields"
  require (Pattern.family context.applicationFamily)
    "intervention application family is invalid"
  require (Pattern.tenant context.tenant) "intervention tenant is invalid"
  require (context.taskSummary.length ≤ 1000)
    "intervention task summary is too long"
  require (isSafePath context.surfaceRoute)
    "intervention surface route must be a safe absolute path"
  require (context.stepId.all Pattern.stepId) "intervention step ID is invalid"
  let capabilityFields :=
    [context.capabilityId, context.capabilityVersion, context.capabilityName]
  require (context.runMode ≠ .replay || capabilityFields.all isPresent)
    "replay intervention context requires capability metadata"
  require (context.runMode ≠ .discovery || !capabilityFields.any isPresent)
    "discovery intervention context cannot identify a capability"
  require (context.capabilityId.all Pattern.capabilityId)
    "intervention capability ID is invalid"
  require (context.capabilityVersion.all Pattern.semanticVersion)
    "intervention capability version is invalid"
  pure context

structure Intervention where
  id : String
  runId : String
  sessionId : String
  triggerCode : String
  explanation : String
  status : InterventionStatus
  createdAt : Int
  context : InterventionContext
  operatorId : Option String := none
  resolution : Option String := none
deriving DecidableEq

namespace Intervention

def make (intervention : Intervention) : Except Raised Intervention := do
  let _ ← parseId intervention.id .intervention
  let _ ← parseId intervention.runId .run
  let _ ← parseId intervention.sessionId .session
  require (Pattern.stableCode intervention.triggerCode)
    "intervention trigger code is invalid"
  require (!Text.isBlank intervention.explanation &&
      intervention.explanation.length ≤ 1000)
    "intervention explanation must be non-empty and bounded"
  require (!intervention.status.requiresOperator ||
      intervention.operatorId.isSome)
    "intervention status and operator ownership disagree"
  require (intervention.status ≠ .open || intervention.operatorId.isNone)
    "intervention status and operator ownership disagree"
  require (intervention.status.requiresResolution =
      intervention.resolution.isSome)
    "intervention terminal status and resolution disagree"
  require (intervention.operatorId.all (!Text.isBlank ·))
    "intervention operator ID cannot be empty"
  require (intervention.resolution.all (!Text.isBlank ·))
    "intervention resolution cannot be empty"
  pure intervention

/-- `raise InterventionTransitionError` unless the status is the given one. -/
def requireStatus (intervention : Intervention)
    (allowed : List InterventionStatus) : Except Raised Unit :=
  if intervention.status ∈ allowed then .ok ()
  else .error .interventionTransition

def claim (intervention : Intervention) (operatorId : String) :
    Except Raised Intervention := do
  intervention.requireStatus [.open]
  require (operatorId ≠ "") "operator ID is required"
  make { intervention with status := .claimed, operatorId := some operatorId }

def release (intervention : Intervention) : Except Raised Intervention := do
  intervention.requireStatus [.claimed]
  make { intervention with status := .open, operatorId := none }

def reassign (intervention : Intervention) (operatorId : String) :
    Except Raised Intervention := do
  intervention.requireStatus [.claimed]
  require (operatorId ≠ "") "operator ID is required"
  make { intervention with operatorId := some operatorId }

def beginResume (intervention : Intervention) : Except Raised Intervention := do
  intervention.requireStatus [.claimed]
  make { intervention with status := .resuming }

def reopen (intervention : Intervention) (explanation : String) :
    Except Raised Intervention := do
  intervention.requireStatus [.resuming]
  require (!Text.isBlank explanation) "reopen explanation is required"
  make { intervention with
    status := .open, operatorId := none, explanation := explanation }

def resolve (intervention : Intervention) (resolution : String) :
    Except Raised Intervention := do
  intervention.requireStatus [.resuming]
  require (!Text.isBlank resolution) "resolution is required"
  make { intervention with
    status := .resolved, resolution := some resolution }

def terminate (intervention : Intervention) (resolution : String) :
    Except Raised Intervention := do
  intervention.requireStatus [.open, .claimed]
  require (!Text.isBlank resolution) "resolution is required"
  make { intervention with
    status := .terminated, resolution := some resolution }

end Intervention

theorem ControlLease.eq_of_make {lease made : ControlLease}
    (checked : lease.make = .ok made) : made = lease := by
  unfold ControlLease.make at checked
  simp only [bind_eq_ok] at checked
  obtain ⟨_, -, _, -, _, -, _, -, _, -, same⟩ := checked
  cases same
  rfl

/-- A lease is bound exactly when its owner needs an intervention. -/
theorem ControlLease.bound_of_make {lease made : ControlLease}
    (checked : lease.make = .ok made) :
    made.owner.requiresIntervention = made.interventionId.isSome := by
  have same := eq_of_make checked
  subst same
  unfold ControlLease.make at checked
  simp only [bind_eq_ok] at checked
  obtain ⟨_, -, _, -, _, -, _, -, _, bound, -⟩ := checked
  exact of_decide_eq_true (require_eq_ok.mp bound)

namespace Intervention

theorem eq_of_make {intervention made : Intervention}
    (checked : intervention.make = .ok made) : made = intervention := by
  unfold make at checked
  simp only [bind_eq_ok] at checked
  obtain ⟨_, -, _, -, _, -, _, -, _, -, _, -, _, -, _, -, _, -, _, -, same⟩ :=
    checked
  cases same
  rfl

theorem requireStatus_eq_ok {intervention : Intervention}
    {allowed : List InterventionStatus} :
    intervention.requireStatus allowed = .ok () ↔
      intervention.status ∈ allowed := by
  unfold requireStatus
  split <;> simp_all

variable {current next : Intervention}

theorem claim_eq_ok {operatorId : String}
    (claimed : current.claim operatorId = .ok next) :
    current.status = .open ∧
      next = { current with
        status := .claimed, operatorId := some operatorId } := by
  unfold claim at claimed
  simp only [check_bind_eq_ok, requireStatus_eq_ok,
    List.mem_singleton] at claimed
  exact ⟨claimed.1, eq_of_make claimed.2.2⟩

theorem reassign_eq_ok {operatorId : String}
    (reassigned : current.reassign operatorId = .ok next) :
    current.status = .claimed ∧
      next = { current with operatorId := some operatorId } := by
  unfold reassign at reassigned
  simp only [check_bind_eq_ok, requireStatus_eq_ok,
    List.mem_singleton] at reassigned
  exact ⟨reassigned.1, eq_of_make reassigned.2.2⟩

theorem release_eq_ok (released : current.release = .ok next) :
    current.status = .claimed ∧
      next = { current with status := .open, operatorId := none } := by
  unfold release at released
  simp only [check_bind_eq_ok, requireStatus_eq_ok,
    List.mem_singleton] at released
  exact ⟨released.1, eq_of_make released.2⟩

theorem beginResume_eq_ok (begun : current.beginResume = .ok next) :
    current.status = .claimed ∧
      next = { current with status := .resuming } := by
  unfold beginResume at begun
  simp only [check_bind_eq_ok, requireStatus_eq_ok,
    List.mem_singleton] at begun
  exact ⟨begun.1, eq_of_make begun.2⟩

theorem reopen_eq_ok {explanation : String}
    (reopened : current.reopen explanation = .ok next) :
    current.status = .resuming ∧
      next = { current with
        status := .open, operatorId := none, explanation := explanation } := by
  unfold reopen at reopened
  simp only [check_bind_eq_ok, requireStatus_eq_ok,
    List.mem_singleton] at reopened
  exact ⟨reopened.1, eq_of_make reopened.2.2⟩

theorem resolve_eq_ok {resolution : String}
    (resolved : current.resolve resolution = .ok next) :
    current.status = .resuming ∧
      next = { current with
        status := .resolved, resolution := some resolution } := by
  unfold resolve at resolved
  simp only [check_bind_eq_ok, requireStatus_eq_ok,
    List.mem_singleton] at resolved
  exact ⟨resolved.1, eq_of_make resolved.2.2⟩

theorem terminate_eq_ok {resolution : String}
    (terminated : current.terminate resolution = .ok next) :
    (current.status = .open ∨ current.status = .claimed) ∧
      next = { current with
        status := .terminated, resolution := some resolution } := by
  unfold terminate at terminated
  simp only [check_bind_eq_ok, requireStatus_eq_ok, List.mem_cons,
    List.not_mem_nil, or_false] at terminated
  exact ⟨terminated.1, eq_of_make terminated.2.2⟩

end Intervention

/-- The checks of `InterventionTransition`: the pair describes one state. -/
def validateTransition (intervention : Intervention) (lease : ControlLease) :
    Except Raised Unit := do
  require (intervention.sessionId = lease.sessionId)
    "intervention and lease must identify the same session"
  require (match intervention.status, lease.owner with
    | .open, .automationPaused | .claimed, .human _
    | .resuming, .automationPaused | .resolved, .automation
    | .terminated, .none => true
    | _, _ => false)
    "intervention status and control-lease owner disagree"
  require (!intervention.status.isActive ||
      lease.interventionId = some intervention.id)
    "active intervention is not bound to its control lease"
  require (intervention.status.isActive || lease.interventionId.isNone)
    "terminal intervention cannot retain a control-lease binding"
  require (match lease.owner with
    | .human principalId => intervention.operatorId = some principalId
    | _ => true)
    "claimed intervention and human lease have different operators"

end ReplayForge

import ReplayForge.Runtime.Operations

/-!
# The control-lease service
-/

namespace ReplayForge

open Effect

structure ControlLeaseService where
  ttl : Int
  positive : 0 < ttl

namespace ControlLeaseService

variable {σ : Type} (service : ControlLeaseService)

def createForAutomation (sessionId : String) : Runtime σ ControlLease := do
  let parsed ← attempt (parseId sessionId .session)
  let now ← Runtime.now
  let lease ← attempt (ControlLease.make {
    sessionId := parsed
    owner := .automation
    version := 1
    issuedAt := now
    lastHeartbeat := now
    expiresAt := now + service.ttl })
  Runtime.control (.createLease lease)

/-- `_assert_current`; the clock is read only when expiry matters. -/
def assertCurrent (current : ControlLease) (expectedVersion : Nat)
    (expectedOwner : ControlOwner) (requireUnexpired : Bool := true) :
    Runtime σ Unit := do
  Runtime.raiseIf
    (current.version ≠ expectedVersion ∨ current.owner ≠ expectedOwner)
    .leaseConflict
  if requireUnexpired then
    let now ← Runtime.now
    Runtime.raiseIf (current.expiresAt ≤ now) .leaseExpired

def assertCanAct (sessionId : String) (expectedVersion : Nat)
    (owner : ControlOwner) : Runtime σ ControlLease := do
  let current ← Runtime.control (.getLease sessionId)
  assertCurrent current expectedVersion owner
  pure current

/-- Build a validated heartbeat without persisting it. -/
def prepareHeartbeat (current : ControlLease) (expectedVersion : Nat)
    (owner : ControlOwner) : Runtime σ ControlLease := do
  assertCurrent current expectedVersion owner
  let now ← Runtime.now
  attempt (ControlLease.make { current with
    version := current.version + 1
    lastHeartbeat := now
    expiresAt := now + service.ttl })

def heartbeat (sessionId : String) (expectedVersion : Nat)
    (owner : ControlOwner) : Runtime σ ControlLease := do
  let current ← assertCanAct sessionId expectedVersion owner
  let replacement ← service.prepareHeartbeat current expectedVersion owner
  Runtime.control (.swapLease sessionId expectedVersion owner replacement)

/-- Build a validated ownership transfer without writing either aggregate. -/
def prepareTransfer (current : ControlLease) (expectedVersion : Nat)
    (expectedOwner nextOwner : ControlOwner) (interventionId : Option String)
    (requireUnexpired : Bool := true) : Runtime σ ControlLease := do
  assertCurrent current expectedVersion expectedOwner requireUnexpired
  let now ← Runtime.now
  attempt (ControlLease.make {
    sessionId := current.sessionId
    owner := nextOwner
    version := current.version + 1
    issuedAt := now
    lastHeartbeat := now
    expiresAt := now + service.ttl
    interventionId })

end ControlLeaseService

/-- The given explanation, or one that names the step. -/
def safeExplanation (explanation stepId : Option String) : String :=
  if isPresent explanation then
    explanation.getD ""
  else if isPresent stepId then
    "Automation paused safely at " ++ stepId.getD "" ++ "."
  else
    "Automation paused safely."

/-- `InMemoryInterventionRouter.open`: create an intervention and pause its
lease in one state change. -/
def ControlLeaseService.openIntervention {σ : Type}
    (service : ControlLeaseService) (interventionId runId sessionId : String)
    (expectedLeaseVersion : Nat) (code : String) (stepId : Option String)
    (observation : NormalizedObservation) (context : InterventionContext)
    (explanation : Option String) : Runtime σ String := do
  let _ ← attempt (parseId interventionId .intervention)
  let _ ← attempt (parseId runId .run)
  let _ ← attempt (parseId sessionId .session)
  attempt (require (observation.sessionId = sessionId)
    "observation does not belong to the intervention session")
  let createdAt ← Runtime.now
  let intervention ← attempt (Intervention.make {
    id := interventionId
    runId
    sessionId
    triggerCode := code
    explanation := safeExplanation explanation stepId
    status := .open
    createdAt
    context })
  let currentLease ← Runtime.control (.getLease sessionId)
  let replacementLease ← service.prepareTransfer currentLease
    expectedLeaseVersion .automation .automationPaused (some interventionId)
  let _ ← Runtime.control (.createPaused intervention observation
    expectedLeaseVersion .automation replacementLease)
  pure interventionId

end ReplayForge

import ReplayForge.Interventions.Models

/-!
# The shared control state

The in-memory repositories of leases and interventions.  Every operation is
one step of `respond`, because each runs under the repository locks.
-/

namespace ReplayForge

/-- What the lease and intervention repositories raise. -/
inductive ControlError where
  | leaseConflict
  | leaseNotFound
  | interventionConflict
  | interventionNotFound
  | value (message : String)
  /-- A failure of the storage behind the repositories. -/
  | storage (fault : Fault)
deriving DecidableEq

def ControlError.raised : ControlError → Raised
  | .leaseConflict => .leaseConflict
  | .leaseNotFound => .leaseNotFound
  | .interventionConflict => .interventionConflict
  | .interventionNotFound => .interventionNotFound
  | .value message => .value message
  | .storage fault => fault.raised

inductive ControlOp where
  | createLease (lease : ControlLease)
  | getLease (sessionId : String)
  | swapLease (sessionId : String) (expectedVersion : Nat)
      (expectedOwner : ControlOwner) (replacement : ControlLease)
  | getPair (interventionId : String)
  | createPaused (intervention : Intervention)
      (observation : NormalizedObservation) (expectedVersion : Nat)
      (expectedOwner : ControlOwner) (replacement : ControlLease)
  | swapPair (interventionId : String) (expectedStatus : InterventionStatus)
      (expectedVersion : Nat) (expectedOwner : ControlOwner)
      (intervention : Intervention) (lease : ControlLease)
deriving DecidableEq

abbrev ControlOp.Result : ControlOp → Type
  | .createLease _ | .getLease _ | .swapLease _ _ _ _ => ControlLease
  | .getPair _ | .createPaused _ _ _ _ _ | .swapPair _ _ _ _ _ _ =>
      Intervention × ControlLease

structure ControlState where
  leases : Dict ControlLease := []
  interventions : Dict Intervention := []
  observations : Dict NormalizedObservation := []
deriving DecidableEq

namespace ControlState

def requireValue (check : Bool) (message : String) :
    Except ControlError Unit :=
  if check then .ok () else .error (.value message)

/-- A model check inside a repository: it can only raise a `ValueError`. -/
def checked (check : Except Raised α) (message : String) :
    Except ControlError α :=
  match check with
  | .ok value => .ok value
  | .error _ => .error (.value message)

def findLease (state : ControlState) (sessionId : String) :
    Except ControlError ControlLease :=
  match state.leases.get? sessionId with
  | none => .error .leaseNotFound
  | some lease => .ok lease

def findIntervention (state : ControlState) (interventionId : String) :
    Except ControlError Intervention :=
  match state.interventions.get? interventionId with
  | none => .error .interventionNotFound
  | some intervention => .ok intervention

def requireCurrent (lease : ControlLease) (expectedVersion : Nat)
    (expectedOwner : ControlOwner) : Except ControlError Unit :=
  if lease.version = expectedVersion ∧ lease.owner = expectedOwner then .ok ()
  else .error .leaseConflict

def createLease (state : ControlState) (lease : ControlLease) :
    Except ControlError (ControlState × ControlLease) :=
  match state.leases.get? lease.sessionId with
  | some _ => .error .leaseConflict
  | none =>
      .ok ({ state with leases := state.leases.set lease.sessionId lease },
        lease)

def swapLease (state : ControlState) (sessionId : String)
    (expectedVersion : Nat) (expectedOwner : ControlOwner)
    (replacement : ControlLease) :
    Except ControlError (ControlState × ControlLease) := do
  let current ← state.findLease sessionId
  requireCurrent current expectedVersion expectedOwner
  requireValue (replacement.sessionId = current.sessionId)
    "replacement lease cannot change session identity"
  requireValue (replacement.version = current.version + 1)
    "replacement lease version must increment exactly once"
  pure ({ state with leases := state.leases.set sessionId replacement },
    replacement)

def getPair (state : ControlState) (interventionId : String) :
    Except ControlError (Intervention × ControlLease) := do
  let intervention ← state.findIntervention interventionId
  let lease ← state.findLease intervention.sessionId
  checked (validateTransition intervention lease) "transition"
  pure (intervention, lease)

/-- `_validate_lease_replacement` -/
def validateLeaseReplacement (current replacement : ControlLease) :
    Except ControlError Unit := do
  requireValue (replacement.sessionId = current.sessionId)
    "replacement lease cannot change session identity"
  requireValue (replacement = current ||
      replacement.version = current.version + 1)
    "replacement lease version must increment exactly once"

/-- `_validate_intervention_replacement` -/
def validateInterventionReplacement (current replacement : Intervention) :
    Except ControlError Unit :=
  requireValue (replacement.id = current.id &&
      replacement.runId = current.runId &&
      replacement.sessionId = current.sessionId &&
      replacement.createdAt = current.createdAt &&
      replacement.triggerCode = current.triggerCode &&
      replacement.context = current.context)
    "intervention replacement cannot change immutable identity"

def createPaused (state : ControlState) (intervention : Intervention)
    (observation : NormalizedObservation) (expectedVersion : Nat)
    (expectedOwner : ControlOwner) (replacement : ControlLease) :
    Except ControlError (ControlState × (Intervention × ControlLease)) := do
  if (state.interventions.get? intervention.id).isSome then
    throw .interventionConflict
  let current ← state.findLease intervention.sessionId
  requireCurrent current expectedVersion expectedOwner
  requireValue (observation.sessionId = intervention.sessionId)
    "observation does not belong to the intervention session"
  validateLeaseReplacement current replacement
  checked (validateTransition intervention replacement) "transition"
  pure ({
    leases := state.leases.set intervention.sessionId replacement
    interventions := state.interventions.set intervention.id intervention
    observations := state.observations.set intervention.id observation },
    (intervention, replacement))

def swapPair (state : ControlState) (interventionId : String)
    (expectedStatus : InterventionStatus) (expectedVersion : Nat)
    (expectedOwner : ControlOwner) (intervention : Intervention)
    (lease : ControlLease) :
    Except ControlError (ControlState × (Intervention × ControlLease)) := do
  let current ← state.findIntervention interventionId
  let currentLease ← state.findLease current.sessionId
  if current.status ≠ expectedStatus then
    throw .interventionConflict
  requireCurrent currentLease expectedVersion expectedOwner
  validateInterventionReplacement current intervention
  validateLeaseReplacement currentLease lease
  checked (validateTransition intervention lease) "transition"
  pure ({ state with
    leases := state.leases.set currentLease.sessionId lease
    interventions := state.interventions.set interventionId intervention },
    (intervention, lease))

def commit (state : ControlState) :
    Except ControlError (ControlState × α) →
      ControlState × Except ControlError α
  | .ok (after, value) => (after, .ok value)
  | .error error => (state, .error error)

/-- The effect and the response of one repository operation. -/
def respond (state : ControlState) : (op : ControlOp) →
    ControlState × Except ControlError op.Result
  | .createLease lease => commit state (state.createLease lease)
  | .getLease sessionId => (state, state.findLease sessionId)
  | .swapLease sessionId version owner replacement =>
      commit state (state.swapLease sessionId version owner replacement)
  | .getPair interventionId => (state, state.getPair interventionId)
  | .createPaused intervention observation version owner replacement =>
      commit state
        (state.createPaused intervention observation version owner replacement)
  | .swapPair interventionId status version owner intervention lease =>
      commit state
        (state.swapPair interventionId status version owner intervention lease)

end ControlState

end ReplayForge

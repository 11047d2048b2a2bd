import ReplayForge.Effect.Interleaving
import ReplayForge.Interventions.Store

/-!
# What the clients of the control state commit

`Transfers` says which pair a coordinator call writes for the pair it read.
Every client keeps to it however the others interleave: a commit succeeds only
where the repositories still hold the pair that was read.
-/

namespace ReplayForge

open Effect

/-- What a client has seen of the clock. -/
def readings (past : List RuntimeEvent) : List Int :=
  past.filterMap fun
    | ⟨.now, now⟩ => some now
    | _ => none

/-- A client has read a pair, and nothing but the clock since. -/
def HasSeen (id : String) (pair : ControlPair) (past : List RuntimeEvent) :
    Prop :=
  ∃ times : List Int, past =
    ⟨.control (.getPair id), .ok pair⟩ :: times.map fun now => ⟨.now, now⟩

/-- The lease a client read last. -/
def lastLease (past : List RuntimeEvent) : Option ControlLease :=
  past.foldl (fun seen event => match event with
    | ⟨.control (.getLease _), .ok lease⟩ => some lease
    | _ => seen) none

/-- A lease that one of the readings finds expired. -/
def Expired (clock : List Int) (lease : ControlLease) : Prop :=
  ∃ now ∈ clock, lease.expiresAt ≤ now

def Unexpired (clock : List Int) (lease : ControlLease) : Prop :=
  ∃ now ∈ clock, now < lease.expiresAt

/-- A lease is handed over to another owner. -/
structure HandsOver (ttl : Int) (clock : List Int)
    (lease next : ControlLease) (version : Nat)
    (owner nextOwner : ControlOwner) (binding : Option String) : Prop where
  version : lease.version = version
  owner : lease.owner = owner
  written : ∃ now ∈ clock, next = {
    sessionId := lease.sessionId
    owner := nextOwner
    version := lease.version + 1
    issuedAt := now
    lastHeartbeat := now
    expiresAt := now + ttl
    interventionId := binding }

/-- A lease is renewed by its owner. -/
structure Renews (ttl : Int) (clock : List Int) (lease next : ControlLease)
    (version : Nat) (owner : ControlOwner) : Prop where
  version : lease.version = version
  owner : lease.owner = owner
  unexpired : Unexpired clock lease
  written : ∃ now ∈ clock, next = { lease with
    version := lease.version + 1
    lastHeartbeat := now
    expiresAt := now + ttl }
  bound : next.owner.requiresIntervention = next.interventionId.isSome

namespace ControlCall

/-- The calls that end with a commit of the coordinator. -/
def isTransition : ControlCall → Bool
  | .createForAutomation _ | .automationHeartbeat _ _
  | .openIntervention _ _ _ _ _ _ _ _ _ => false
  | .claim _ _ _ | .release _ _ _ | .heartbeat _ _ _ | .beginResume _ _ _
  | .reopen _ _ | .completeResume _ _ _ | .terminate _ _ _ _ => true

/-- The intervention a coordinator call is about. -/
def target : ControlCall → Option String
  | .createForAutomation _ | .automationHeartbeat _ _ => none
  | .openIntervention id _ _ _ _ _ _ _ _ | .claim id _ _ | .release id _ _
  | .heartbeat id _ _ | .beginResume id _ _ | .reopen id _
  | .completeResume id _ _ | .terminate id _ _ _ => some id

/-- The pair a coordinator call writes, given the pair it read and what it saw
of the clock. -/
def Transfers (ttl : Int) (clock : List Int) :
    ControlCall → ControlPair → ControlPair → Prop
  | .claim _ version operatorId, (current, lease), (next, lease') =>
      lease.interventionId = some current.id ∧
        ((current.claim operatorId = .ok next ∧
            HandsOver ttl clock lease lease' version .automationPaused
              (.human operatorId) (some current.id)) ∨
          (current.reassign operatorId = .ok next ∧
            lease.owner.isHuman = true ∧ Expired clock lease ∧
            HandsOver ttl clock lease lease' version lease.owner
              (.human operatorId) (some current.id)))
  | .release _ version operatorId, (current, lease), (next, lease') =>
      current.operatorId = some operatorId ∧ current.release = .ok next ∧
        Unexpired clock lease ∧
        HandsOver ttl clock lease lease' version (.human operatorId)
          .automationPaused (some current.id)
  | .beginResume _ version operatorId, (current, lease), (next, lease') =>
      current.operatorId = some operatorId ∧ current.beginResume = .ok next ∧
        Unexpired clock lease ∧
        HandsOver ttl clock lease lease' version (.human operatorId)
          .automationPaused (some current.id)
  | .heartbeat _ version operatorId, (current, lease), (next, lease') =>
      current.status = .claimed ∧ current.operatorId = some operatorId ∧
        next = current ∧
        Renews ttl clock lease lease' version (.human operatorId)
  | .reopen _ explanation, (current, lease), (next, lease') =>
      current.reopen explanation = .ok next ∧
        lease.owner = .automationPaused ∧ lease' = lease
  | .completeResume _ version resolution, (current, lease), (next, lease') =>
      current.resolve resolution = .ok next ∧ Unexpired clock lease ∧
        HandsOver ttl clock lease lease' version .automationPaused .automation
          none
  | .terminate _ version operatorId resolution, (current, lease),
      (next, lease') =>
      ∃ owner,
        InterventionCoordinator.terminableOwner current operatorId =
          .ok owner ∧
        current.terminate resolution = .ok next ∧
        (owner ≠ .automationPaused → Unexpired clock lease) ∧
        HandsOver ttl clock lease lease' version owner .none none
  | _, _, _ => False

end ControlCall

section Stages

open ControlState (stage)

variable {ttl : Int} {clock : List Int} {lease next : ControlLease}
  {version : Nat} {owner nextOwner : ControlOwner} {binding : Option String}
  {current replacement : Intervention}

theorem HandsOver.advances
    (transfer : HandsOver ttl clock lease next version owner nextOwner binding) :
    stage (current, lease) < stage (replacement, next) := by
  obtain ⟨now, -, rfl⟩ := transfer.written
  unfold stage
  dsimp only
  split <;> split <;> omega

theorem Renews.advances
    (renewal : Renews ttl clock lease next version owner) :
    stage (current, lease) < stage (replacement, next) := by
  obtain ⟨now, -, rfl⟩ := renewal.written
  unfold stage
  dsimp only
  split <;> split <;> omega

/-- Every commit moves its pair to a later stage. -/
theorem ControlCall.Transfers.advances {call : ControlCall}
    {read written : ControlPair} (transfers : call.Transfers ttl clock read
      written) : stage read < stage written := by
  obtain ⟨current, lease⟩ := read
  obtain ⟨replacement, next⟩ := written
  cases call with
  | createForAutomation sessionId => exact transfers.elim
  | automationHeartbeat sessionId version => exact transfers.elim
  | openIntervention => exact transfers.elim
  | claim id version operatorId =>
      obtain ⟨-, ⟨-, handed⟩ | ⟨-, -, -, handed⟩⟩ := transfers
      · exact handed.advances
      · exact handed.advances
  | release id version operatorId => exact transfers.2.2.2.advances
  | beginResume id version operatorId => exact transfers.2.2.2.advances
  | heartbeat id version operatorId => exact transfers.2.2.2.advances
  | completeResume id version resolution => exact transfers.2.2.advances
  | terminate id version operatorId resolution =>
      obtain ⟨owner, -, -, -, handed⟩ := transfers
      exact handed.advances
  | reopen id explanation =>
      obtain ⟨reopened, -, rfl⟩ := transfers
      obtain ⟨resuming, rfl⟩ := Intervention.reopen_eq_ok reopened
      unfold stage
      simp [resuming]

end Stages

/-- The repositories as a shared store. -/
def controlLaw (before : ControlState) :
    RuntimeEvent → ControlState → Prop
  | ⟨.control op, answer⟩, after => before.respond op = (after, answer)
  | _, after => after = before

abbrev controlStore : Shared RuntimeSig ControlState where
  law _ _ := controlLaw
  valid := ControlState.Keyed
  rely _ := ControlState.Grows
  refl _ := ControlState.Grows.refl
  trans := ControlState.Grows.trans

theorem controlLaw_control {before after : ControlState} {op : ControlOp}
    {answer : Except ControlError op.Result} :
    controlLaw before ⟨.control op, answer⟩ after ↔
      before.respond op = (after, answer) := Iff.rfl

/-- A write that succeeded. -/
def changes : RuntimeEvent → Bool
  | ⟨.control op, answer⟩ => ControlState.writes op && answer.isOk
  | _ => false

/-- The pair a coordinator commit writes. -/
def committedPair : RuntimeEvent → Option (String × ControlPair)
  | ⟨.control (.swapPair id _ _ _ intervention lease), .ok _⟩ =>
      some (id, intervention, lease)
  | _ => none

/-- The step is a coordinator commit. -/
def Commits {ι : Type} (move : Move RuntimeSig ControlState ι) (id : String)
    (written : ControlPair) : Prop :=
  committedPair move.event = some (id, written)

theorem Commits.event {ι : Type} {move : Move RuntimeSig ControlState ι}
    {id : String} {written : ControlPair} (commits : Commits move id written) :
    ∃ status version owner value, move.event =
      ⟨.control (.swapPair id status version owner written.1 written.2),
        .ok value⟩ := by
  unfold Commits committedPair at commits
  split at commits
  next status version owner intervention lease value same =>
    cases commits
    exact ⟨status, version, owner, value, same⟩
  next => cases commits

theorem exists_of_changes {event : RuntimeEvent}
    (written : changes event = true) :
    ∃ op value, event = ⟨.control op, .ok value⟩ ∧
      ControlState.writes op = true := by
  obtain ⟨op, answer⟩ := event
  cases op with
  | control op =>
      cases answer with
      | ok value =>
          refine ⟨op, value, rfl, ?_⟩
          simpa [changes, Except.isOk, Except.toBool] using written
      | error error => simp [changes, Except.isOk, Except.toBool] at written
  | openSession family tenant entry => cases written
  | session sessionId op => cases written
  | now => cases written
  | newId kind => cases written
  | record eventType runId stepId details => cases written
  | attachScreenshot kind payload retention => cases written
  | evidenceManifestKey => cases written
  | validateCompatibility artifact tenant => cases written
  | sleep milliseconds => cases written
  | retain continuation => cases written
  | mark position => cases written

/-- Only a write that succeeds changes the repositories. -/
theorem controlLaw_unchanged {before after : ControlState}
    {event : RuntimeEvent} (happens : controlLaw before event after)
    (silent : changes event = false) : after = before := by
  obtain ⟨op, answer⟩ := event
  cases op with
  | control op =>
      cases answer with
      | error error => exact ControlState.respond_failed happens
      | ok value =>
          refine ControlState.respond_read happens ?_
          simpa [changes, Except.isOk, Except.toBool] using silent
  | openSession family tenant entry => exact happens
  | session sessionId op => exact happens
  | now => exact happens
  | newId kind => exact happens
  | record eventType runId stepId details => exact happens
  | attachScreenshot kind payload retention => exact happens
  | evidenceManifestKey => exact happens
  | validateCompatibility artifact tenant => exact happens
  | sleep milliseconds => exact happens
  | retain continuation => exact happens
  | mark position => exact happens

/-- A call has committed the pair it prepared: the repositories held the pair
it had read. -/
structure Committed (ttl : Int) (call : ControlCall) (id : String)
    (past : List RuntimeEvent) (before : ControlState)
    (written : ControlPair) (after : ControlState) : Prop where
  target : call.target = some id
  stored : after.pairAt id = some written
  transfers : ∃ read, HasSeen id read past ∧
    validateTransition read.1 read.2 = .ok () ∧
    before.pairAt id = some read ∧
    call.Transfers ttl (readings past) read written

/-- A call has created a paused intervention for the lease it had read. -/
structure Opened (ttl : Int) (call : ControlCall) (past : List RuntimeEvent)
    (before : ControlState) (intervention : Intervention)
    (lease : ControlLease) (after : ControlState) : Prop where
  target : call.target = some intervention.id
  status : intervention.status = .open
  stored : after.pairAt intervention.id = some (intervention, lease)
  handed : ∃ read version, lastLease past = some read ∧
    before.leases.get? intervention.sessionId = some read ∧
    HandsOver ttl (readings past) read lease version .automation
      .automationPaused (some intervention.id)

/-- What a call promises about a write that succeeds. -/
def ControlCall.promise (ttl : Int) (call : ControlCall) :
    Promise RuntimeSig ControlState
  | past, before, ⟨.control (.swapPair id _ _ _ intervention lease), .ok _⟩,
      after => Committed ttl call id past before (intervention, lease) after
  | past, before, ⟨.control (.createPaused intervention _ _ _ lease), .ok _⟩,
      after => Opened ttl call past before intervention lease after
  | _, _, ⟨.control (.createLease lease), .ok _⟩, _ =>
      lease.owner = .automation ∧ lease.interventionId = none
  | _, _, ⟨.control (.swapLease _ _ owner lease), .ok _⟩, _ =>
      owner = .automation ∧ lease.owner = .automation ∧
        lease.interventionId = none
  | _, _, _, _ => True

end ReplayForge

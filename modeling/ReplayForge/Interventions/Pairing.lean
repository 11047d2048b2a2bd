import ReplayForge.Effect.Histories
import ReplayForge.Effect.Schedules
import ReplayForge.Interventions.Calls

/-!
# Interventions and leases are paired

Whatever calls interleave on the control state, every active intervention is
paired with the lease of its session, and every paused or human lease is bound
to the one active intervention of its session.
-/

namespace ReplayForge

open Effect

section Transition

variable {intervention : Intervention} {lease : ControlLease}

theorem validateTransition_active
    (valid : validateTransition intervention lease = .ok ())
    (active : intervention.status.isActive = true) :
    lease.interventionId = some intervention.id ∧
      lease.owner.requiresIntervention = true := by
  unfold validateTransition at valid
  simp only [check_bind_eq_ok, require_eq_ok, Bool.or_eq_true,
    Bool.not_eq_true', decide_eq_true_eq] at valid
  obtain ⟨-, owner, bound, -, -⟩ := valid
  refine ⟨bound.resolve_left (by simp [active]), ?_⟩
  split at owner <;>
    simp_all [ControlOwner.requiresIntervention, InterventionStatus.isActive]

theorem validateTransition_inactive
    (valid : validateTransition intervention lease = .ok ())
    (inactive : intervention.status.isActive = false) :
    lease.owner.requiresIntervention = false := by
  unfold validateTransition at valid
  simp only [check_bind_eq_ok, require_eq_ok] at valid
  obtain ⟨-, owner, -, -, -⟩ := valid
  split at owner <;>
    simp_all [ControlOwner.requiresIntervention, InterventionStatus.isActive]

end Transition

namespace ControlState

variable {before after : ControlState}

/-- The pairing invariant. -/
structure Paired (state : ControlState) : Prop where
  /-- An active intervention and its lease make an admitted transition. -/
  active : ∀ id intervention,
    state.interventions.get? id = some intervention →
    intervention.status.isActive = true →
    ∃ lease, state.leases.get? intervention.sessionId = some lease ∧
      validateTransition intervention lease = .ok ()
  /-- A paused or human lease is bound to an active intervention. -/
  bound : ∀ sessionId lease, state.leases.get? sessionId = some lease →
    lease.owner.requiresIntervention = true →
    ∃ id intervention, lease.interventionId = some id ∧
      state.interventions.get? id = some intervention ∧
      intervention.status.isActive = true ∧
      intervention.sessionId = sessionId

namespace Paired

theorem empty : Paired {} where
  active := by
    intro id intervention found
    cases found
  bound := by
    intro sessionId lease found
    cases found

/-- The lease of a session with an active intervention names it. -/
theorem names (paired : Paired before) (keyed : Keyed before) {id : String}
    {intervention : Intervention} {lease : ControlLease}
    (found : before.interventions.get? id = some intervention)
    (active : intervention.status.isActive = true)
    (leased : before.leases.get? intervention.sessionId = some lease) :
    lease.interventionId = some id ∧
      lease.owner.requiresIntervention = true := by
  obtain ⟨stored, leased', valid⟩ := paired.active id intervention found active
  rw [leased, Option.some.injEq] at leased'
  subst leased'
  rw [← keyed.interventions id intervention found]
  exact validateTransition_active valid active

/-- A session has at most one active intervention. -/
theorem unique (paired : Paired before) (keyed : Keyed before)
    {id other : String} {first second : Intervention}
    (found : before.interventions.get? id = some first)
    (active : first.status.isActive = true)
    (found' : before.interventions.get? other = some second)
    (active' : second.status.isActive = true)
    (same : first.sessionId = second.sessionId) : id = other := by
  obtain ⟨lease, leased, -⟩ := paired.active id first found active
  have names := (paired.names keyed found active leased).1
  rw [same] at leased
  have names' := (paired.names keyed found' active' leased).1
  rw [names, Option.some.injEq] at names'
  exact names'

/-- A write to one session, seen from the pairs it leaves alone. -/
theorem of_write (paired : Paired before) {session id : String}
    {lease : ControlLease}
    (leases : after.leases = before.leases.set session lease)
    (others : ∀ key, key ≠ id →
      after.interventions.get? key = before.interventions.get? key)
    (alone : ∀ key intervention, key ≠ id →
      before.interventions.get? key = some intervention →
      intervention.status.isActive = true → intervention.sessionId ≠ session)
    (here : ∀ intervention, after.interventions.get? id = some intervention →
      intervention.status.isActive = true →
      ∃ lease, after.leases.get? intervention.sessionId = some lease ∧
        validateTransition intervention lease = .ok ())
    (owned : lease.owner.requiresIntervention = true →
      ∃ id intervention, lease.interventionId = some id ∧
        after.interventions.get? id = some intervention ∧
        intervention.status.isActive = true ∧
        intervention.sessionId = session)
    (moved : ∀ intervention, before.interventions.get? id = some intervention →
      intervention.status.isActive = true → intervention.sessionId = session) :
    Paired after where
  active := by
    intro key intervention found active
    by_cases same : key = id
    · subst same
      exact here intervention found active
    · rw [others key same] at found
      obtain ⟨stored, leased, valid⟩ :=
        paired.active key intervention found active
      have apart := alone key intervention same found active
      refine ⟨stored, ?_, valid⟩
      rw [leases, Dict.get?_set_ne _ _ apart, leased]
  bound := by
    intro sessionId stored found required
    rw [leases, Dict.get?_set] at found
    split at found
    next same =>
      rw [Option.some.injEq] at found
      subst found same
      exact owned required
    next different =>
      obtain ⟨key, intervention, bound, found', active, same⟩ :=
        paired.bound sessionId stored found required
      refine ⟨key, intervention, bound, ?_, active, same⟩
      have apart : key ≠ id := by
        rintro rfl
        exact different (same ▸ moved intervention found' active)
      rw [others key apart, found']

theorem createLease (paired : Paired before)
    {lease value : ControlLease} (owner : lease.owner = .automation)
    (created : before.createLease lease = .ok (after, value)) :
    Paired after := by
  obtain ⟨fresh, -, rfl⟩ := createLease_eq_ok.mp created
  constructor
  · intro key intervention found active
    obtain ⟨stored, leased, valid⟩ :=
      paired.active key intervention found active
    have apart : intervention.sessionId ≠ lease.sessionId := by
      intro same
      rw [same, fresh] at leased
      cases leased
    exact ⟨stored, by rw [Dict.get?_set_ne _ _ apart, leased], valid⟩
  · intro sessionId stored found required
    rw [Dict.get?_set] at found
    split at found
    next =>
      rw [Option.some.injEq] at found
      subst found
      rw [owner] at required
      cases required
    next => exact paired.bound sessionId stored found required

theorem swapLease (paired : Paired before) (keyed : Keyed before)
    {sessionId : String} {version : Nat} {owner : ControlOwner}
    {lease value : ControlLease} (free : owner = .automation)
    (freed : lease.owner = .automation)
    (swapped : before.swapLease sessionId version owner lease =
      .ok (after, value)) : Paired after := by
  obtain ⟨current, leased, -, owned, -, -, -, rfl⟩ :=
    swapLease_eq_ok.mp swapped
  have idle : ∀ key intervention,
      before.interventions.get? key = some intervention →
      intervention.status.isActive = true →
      intervention.sessionId ≠ sessionId := by
    intro key intervention found active same
    have named := paired.names keyed found active (same ▸ leased)
    rw [owned, free] at named
    cases named.2
  constructor
  · intro key intervention found active
    obtain ⟨stored, leased', valid⟩ :=
      paired.active key intervention found active
    have apart := idle key intervention found active
    exact ⟨stored, by rw [Dict.get?_set_ne _ _ apart, leased'], valid⟩
  · intro other stored found required
    rw [Dict.get?_set] at found
    split at found
    next =>
      rw [Option.some.injEq] at found
      subst found
      rw [freed] at required
      cases required
    next => exact paired.bound other stored found required

theorem createPaused (paired : Paired before) (keyed : Keyed before)
    {intervention : Intervention} {observation : NormalizedObservation}
    {version : Nat} {owner : ControlOwner} {lease : ControlLease}
    {value : ControlPair} (opened : intervention.status = .open)
    (free : ∀ current,
      before.leases.get? intervention.sessionId = some current →
      current.owner = .automation)
    (created : before.createPaused intervention observation version owner
      lease = .ok (after, value)) : Paired after := by
  obtain ⟨fresh, current, leased, -, -, -, -, valid, -, rfl⟩ :=
    createPaused_eq_ok.mp created
  have active : intervention.status.isActive = true := by
    rw [opened]
    rfl
  refine paired.of_write rfl (fun key different =>
    Dict.get?_set_ne _ _ different) ?_ ?_ ?_ ?_
  · intro key stored _ found active' same
    have named := paired.names keyed found active' (same ▸ leased)
    rw [free current leased] at named
    cases named.2
  · intro stored found _
    rw [Dict.get?_set_self, Option.some.injEq] at found
    subst found
    exact ⟨lease, Dict.get?_set_self _ _ _, valid⟩
  · intro _
    exact ⟨intervention.id, intervention,
      (validateTransition_active valid active).1, Dict.get?_set_self _ _ _,
      active, rfl⟩
  · intro stored found
    rw [fresh] at found
    cases found

theorem swapPair (paired : Paired before) (keyed : Keyed before) {id : String}
    {status : InterventionStatus} {version : Nat} {owner : ControlOwner}
    {intervention : Intervention} {lease : ControlLease} {value : ControlPair}
    (live : ∀ current, before.interventions.get? id = some current →
      current.status.isActive = true)
    (swapped : before.swapPair id status version owner intervention lease =
      .ok (after, value)) : Paired after := by
  obtain ⟨current, currentLease, found, leased, -, -, -, identity, -, valid,
    -, rfl⟩ := swapPair_eq_ok.mp swapped
  have session := keyed.leases _ _ leased
  have stored : (before.leases.set currentLease.sessionId lease).get?
      intervention.sessionId = some lease := by
    rw [identity.sessionId, session]
    exact Dict.get?_set_self _ _ _
  have leases : before.leases.set currentLease.sessionId lease =
      before.leases.set current.sessionId lease := by
    rw [session]
  refine paired.of_write leases
    (fun key different => Dict.get?_set_ne _ _ different) ?_ ?_ ?_ ?_
  · intro key other different found' active same
    have names := paired.names keyed found (live current found) leased
    have names' := paired.names keyed found' active (same ▸ leased)
    rw [names.1, Option.some.injEq] at names'
    exact different names'.1.symm
  · intro other found' _
    rw [Dict.get?_set_self, Option.some.injEq] at found'
    subst found'
    exact ⟨lease, stored, valid⟩
  · intro required
    have active : intervention.status.isActive = true := by
      by_contra inactive
      rw [validateTransition_inactive valid (by simpa using inactive)]
        at required
      cases required
    refine ⟨id, intervention, ?_, Dict.get?_set_self _ _ _, active,
      identity.sessionId⟩
    rw [(validateTransition_active valid active).1, identity.id,
      keyed.interventions _ _ found]
  · intro other found' _
    rw [found, Option.some.injEq] at found'
    rw [found']

end Paired

end ControlState

/-- A call transfers only the pair of an active intervention. -/
theorem ControlCall.Transfers.active {ttl : Int} {clock : List Int}
    {call : ControlCall} {read written : ControlPair}
    (transfers : call.Transfers ttl clock read written) :
    read.1.status.isActive = true := by
  obtain ⟨current, lease⟩ := read
  obtain ⟨replacement, next⟩ := written
  cases call with
  | createForAutomation sessionId => exact transfers.elim
  | automationHeartbeat sessionId version => exact transfers.elim
  | openIntervention => exact transfers.elim
  | claim id version operatorId =>
      obtain ⟨-, ⟨claimed, -⟩ | ⟨reassigned, -⟩⟩ := transfers
      · simp [(Intervention.claim_eq_ok claimed).1,
          InterventionStatus.isActive]
      · simp [(Intervention.reassign_eq_ok reassigned).1,
          InterventionStatus.isActive]
  | release id version operatorId =>
      simp [(Intervention.release_eq_ok transfers.2.1).1,
        InterventionStatus.isActive]
  | beginResume id version operatorId =>
      simp [(Intervention.beginResume_eq_ok transfers.2.1).1,
        InterventionStatus.isActive]
  | heartbeat id version operatorId =>
      simp [transfers.1, InterventionStatus.isActive]
  | reopen id explanation =>
      simp [(Intervention.reopen_eq_ok transfers.1).1,
        InterventionStatus.isActive]
  | completeResume id version resolution =>
      simp [(Intervention.resolve_eq_ok transfers.1).1,
        InterventionStatus.isActive]
  | terminate id version operatorId resolution =>
      obtain ⟨owner, -, terminated, -⟩ := transfers
      rcases (Intervention.terminate_eq_ok terminated).1 with opened | claimed
      · simp [opened, InterventionStatus.isActive]
      · simp [claimed, InterventionStatus.isActive]

/-- A step that keeps its promise keeps the pairing. -/
theorem ControlState.Paired.step {before after : ControlState} {ttl : Int}
    {call : ControlCall} {past : List RuntimeEvent} {event : RuntimeEvent}
    (paired : Paired before) (keyed : Keyed before)
    (happens : controlLaw before event after)
    (promised : call.promise ttl past before event after) : Paired after := by
  cases silent : changes event with
  | false => exact controlLaw_unchanged happens silent ▸ paired
  | true =>
      obtain ⟨op, value, rfl, writes⟩ := exists_of_changes silent
      have responds := controlLaw_control.mp happens
      cases op with
      | getLease sessionId => cases writes
      | getPair id => cases writes
      | createLease lease =>
          exact paired.createLease promised.1 (respond_createLease responds)
      | swapLease sessionId version owner lease =>
          exact paired.swapLease keyed promised.1 promised.2.1
            (respond_swapLease responds)
      | createPaused intervention observation version owner lease =>
          obtain ⟨-, opened, -, read, _, -, leased, handed⟩ := promised
          refine paired.createPaused keyed opened ?_
            (respond_createPaused responds)
          intro current found
          rw [leased, Option.some.injEq] at found
          rw [← found, handed.owner]
      | swapPair id status version owner intervention lease =>
          obtain ⟨-, -, read, -, -, held, transfers⟩ := promised
          refine paired.swapPair keyed ?_ (respond_swapPair responds)
          intro current found
          rw [(pairAt_eq_some.mp held).1, Option.some.injEq] at found
          exact found ▸ transfers.active

/-- A stored lease stays or moves to the next version. -/
def LeasesVersioned (before after : ControlState) : Prop :=
  ∀ sessionId lease, before.leases.get? sessionId = some lease →
    ∃ later, after.leases.get? sessionId = some later ∧
      (later = lease ∨ later.version = lease.version + 1)

namespace ControlState

theorem versioned_of_set {before : ControlState} {session : String}
    {current lease : ControlLease}
    (found : before.leases.get? session = some current)
    (replaces : Replaces current lease) {after : ControlState}
    (leases : after.leases = before.leases.set session lease) :
    LeasesVersioned before after := by
  intro sessionId stored held
  rw [leases]
  by_cases same : sessionId = session
  · subst same
    rw [found, Option.some.injEq] at held
    subst held
    exact ⟨lease, Dict.get?_set_self _ _ _, replaces.version⟩
  · exact ⟨stored, by rw [Dict.get?_set_ne _ _ same, held], .inl rfl⟩

theorem versioned {before after : ControlState} {event : RuntimeEvent}
    (keyed : Keyed before) (happens : controlLaw before event after) :
    LeasesVersioned before after := by
  cases silent : changes event with
  | false =>
      rw [controlLaw_unchanged happens silent]
      exact fun _ lease found => ⟨lease, found, .inl rfl⟩
  | true =>
      obtain ⟨op, value, rfl, writes⟩ := exists_of_changes silent
      have responds := controlLaw_control.mp happens
      cases op with
      | getLease sessionId => cases writes
      | getPair id => cases writes
      | createLease lease =>
          have created := respond_createLease responds
          obtain ⟨fresh, -, rfl⟩ := createLease_eq_ok.mp created
          intro sessionId stored held
          have apart : sessionId ≠ lease.sessionId := by
            rintro rfl
            rw [fresh] at held
            cases held
          exact ⟨stored, by rw [Dict.get?_set_ne _ _ apart, held], .inl rfl⟩
      | swapLease sessionId version owner lease =>
          obtain ⟨_, writes⟩ :=
            swapLease_writes keyed (respond_swapLease responds)
          exact versioned_of_set writes.found writes.replaces writes.leases
      | createPaused intervention observation version owner lease =>
          obtain ⟨_, writes⟩ :=
            createPaused_writes keyed (respond_createPaused responds)
          exact versioned_of_set writes.found writes.replaces writes.leases
      | swapPair id status version owner intervention lease =>
          obtain ⟨current, currentLease, -, leased, -, -, -, -, replaces, -, -,
            rfl⟩ := swapPair_eq_ok.mp (respond_swapPair responds)
          refine versioned_of_set leased replaces ?_
          rw [keyed.leases _ _ leased]

end ControlState

/-- What a control call runs. -/
def ControlCall.program (coordinator : InterventionCoordinator)
    (call : ControlCall) : Program RuntimeSig (Except Raised Unit × Unit) :=
  (call.procedure coordinator).run.run ()

abbrev ControlMove := Move RuntimeSig ControlState ControlCall

abbrev ControlConfig :=
  Config RuntimeSig ControlState ControlCall (Except Raised Unit × Unit)

/-- Control calls interleave on repositories that start empty. -/
abbrev ControlRun (coordinator : InterventionCoordinator)
    (moves : List ControlMove) (config : ControlConfig) : Prop :=
  Interleaves (fun _ _ => controlLaw) (ControlCall.program coordinator) {} moves config

section Runs

variable {coordinator : InterventionCoordinator} {moves : List ControlMove}
  {config : ControlConfig}

/-- The end of a call: if it raised, it wrote nothing, and a transition that
returned has committed. -/
structure ControlCall.Ended (call : ControlCall)
    (outcome : Except Raised Unit × Unit) (past : List RuntimeEvent) :
    Prop where
  raised : ∀ error, outcome.1 = .error error →
    ∀ event ∈ past, changes event = false
  returned : outcome.1 = .ok () → call.isTransition = true →
    ∃ event ∈ past, ∃ id written, committedPair event = some (id, written)

theorem ControlState.keyed_empty : Keyed {} where
  leases := by
    intro key lease found
    cases found
  interventions := by
    intro key intervention found
    cases found
  leased := by
    intro key intervention found
    cases found

/-- The calls keep their promises together. -/
theorem ControlRun.sound (run : ControlRun coordinator moves config) :
    Interleaves.Sound controlStore
      (ControlCall.promise coordinator.leases.ttl)
      (fun call outcome past _ => call.Ended outcome past) moves config := by
  have reached : Interleaves controlStore.law (ControlCall.program coordinator)
      {} moves config := run
  refine Interleaves.sound reached ?_ ControlState.keyed_empty
  intro index call state _
  apply Safe.weaken (ControlCall.kept call)
  rintro ⟨outcome, final⟩ past _ here
  cases outcome with
  | ok value => exact ⟨nofun, fun _ => here⟩
  | error error =>
      obtain ⟨events, rfl, silent⟩ := here
      exact ⟨fun _ _ event member => silent event (by simpa using member),
        nofun⟩

/-- The repositories grow along every part of a sound run. -/
theorem grows_over {ι α : Type} {promise : ι → Promise RuntimeSig ControlState}
    {post : ι → α → List RuntimeEvent → ControlState → Prop}
    {moves part : List (Move RuntimeSig ControlState ι)}
    {config : Config RuntimeSig ControlState ι α} {first last : ControlState}
    (sound : Interleaves.Sound controlStore promise post moves config)
    (chained : Chained first part last) (inside : part ⊆ moves) :
    first.Grows last := by
  refine chained.related .refl .trans fun move member => ?_
  exact (sound.moves move (inside member)).2.2.2.1 _ (Nat.succ_ne_self _)

/-- Every store of a run is paired. -/
theorem ControlRun.paired (run : ControlRun coordinator moves config) :
    config.store.Paired ∧
      ∀ move ∈ moves, move.before.Paired ∧ move.after.Paired := by
  refine run.chained.keeps .empty fun move member paired => ?_
  obtain ⟨keyed, happens, -, -, promised⟩ := run.sound.moves move member
  exact paired.step keyed happens promised

/-- A call that raised made no step that wrote. -/
theorem ControlRun.silent (run : ControlRun coordinator moves config)
    {index : Nat} {thread : Thread RuntimeSig ControlCall
      (Except Raised Unit × Unit)} {error : Raised}
    (found : config.threads index = some thread)
    (raised : thread.rest = .pure (.error error, ())) :
    ∀ move ∈ moves, move.thread = index → move.after = move.before := by
  intro move member same
  obtain ⟨state, -, safe⟩ := run.sound.threads index thread found
  rw [raised] at safe
  cases safe with
  | pure ended =>
      have seen := mem_eventsOf member same
      rw [run.eventsOf_eq, found, Option.map_some, Option.getD_some] at seen
      have happens := (run.sound.moves move member).2.1
      exact controlLaw_unchanged happens (ended.raised error rfl _ seen)

/-- Interventions and leases stay paired, whatever calls interleave. -/
theorem ControlRun.pairing (run : ControlRun coordinator moves config) :
    -- an active intervention and its lease make an admitted transition
    (∀ id intervention, config.store.interventions.get? id =
        some intervention → intervention.status.isActive = true →
      ∃ lease, config.store.leases.get? intervention.sessionId = some lease ∧
        validateTransition intervention lease = .ok ()) ∧
    -- a session has at most one active intervention
    (∀ id other first second,
      config.store.interventions.get? id = some first →
      first.status.isActive = true →
      config.store.interventions.get? other = some second →
      second.status.isActive = true →
      first.sessionId = second.sessionId → id = other) ∧
    -- a paused or human lease is bound to exactly one of them
    (∀ sessionId lease, config.store.leases.get? sessionId = some lease →
      lease.owner.requiresIntervention = true →
      ∃! id, lease.interventionId = some id ∧ ∃ intervention,
        config.store.interventions.get? id = some intervention ∧
        intervention.status.isActive = true ∧
        intervention.sessionId = sessionId) ∧
    -- a stored lease changes together with its version
    (∀ move ∈ moves, LeasesVersioned move.before move.after) ∧
    -- an operation that raises leaves both aggregates as they were
    (∀ index thread error, config.threads index = some thread →
      thread.rest = .pure (.error error, ()) →
      ∀ move ∈ moves, move.thread = index → move.after = move.before) := by
  have paired := run.paired.1
  have keyed := run.sound.valid
  refine ⟨paired.active, ?_, ?_, ?_, ?_⟩
  · intro id other first second found active found' active' same
    exact paired.unique keyed found active found' active' same
  · intro sessionId lease leased owned
    obtain ⟨id, intervention, bound, found, active, same⟩ :=
      paired.bound sessionId lease leased owned
    refine ⟨id, ⟨bound, intervention, found, active, same⟩, ?_⟩
    rintro other ⟨bound', -⟩
    rw [bound, Option.some.injEq] at bound'
    exact bound'.symm
  · intro move member
    obtain ⟨before, happens, -⟩ := run.sound.moves move member
    exact ControlState.versioned before happens
  · intro index thread error found raised
    exact run.silent found raised

end Runs

/-- The repositories and a clock, run by a schedule. -/
def controlReactor :
    Reactor RuntimeSig ControlState Int fun _ _ => controlLaw where
  react
    | now, _, store, .now => some (now, store)
    | _, _, store, .control op => some (store.respond op).swap
    | _, _, _, _ => none
  lawful := by
    intro now index past store op resp after answered
    split at answered
    · cases answered
      rfl
    · cases answered
      rfl
    · cases answered

namespace Sample

def coordinator : InterventionCoordinator where
  leases := ⟨30, by decide⟩

def counterSession : String := "ses_000000000000000000000000000000c1"

def counterIntervention : String := "int_000000000000000000000000000000c1"

def counterPage : NormalizedObservation :=
  page counterSession (by decide)

/-- A session pauses. -/
def openCounter : ControlCall :=
  .openIntervention counterIntervention
    "run_000000000000000000000000000000c1" counterSession 1
    "precondition_failed" (some "pay") counterPage {
      runMode := .replay
      applicationFamily := "bank"
      tenant := "north"
      taskSummary := "Pay the invoice"
      surfaceRoute := "/pay"
      capabilityId := some "bank.pay_invoice"
      capabilityVersion := some "1.0.0"
      capabilityName := some "Pay an invoice" } none

/-- A thread takes a step at each of these times. -/
def steps (index : Nat) (times : List Int) : List (Turn ControlCall Int) :=
  times.map (.step index)

/-- A session pauses and an operator claims it. -/
def handover : List (Turn ControlCall Int) :=
  .spawn 0 (.createForAutomation counterSession) :: steps 0 [0, 0] ++
    .spawn 1 openCounter :: steps 1 [1, 1, 2, 2, 2] ++
    .spawn 2 (.claim counterIntervention 2 "ann") :: steps 2 [3, 3, 3]

def scheduled (turns : List (Turn ControlCall Int)) :
    Execution RuntimeSig ControlState ControlCall (Except Raised Unit × Unit) :=
  Execution.schedule controlReactor (ControlCall.program coordinator) {} turns

end Sample

theorem handover_paired : ∃ intervention lease,
    (Sample.scheduled Sample.handover).config.store.interventions.get?
      Sample.counterIntervention = some intervention ∧
    (Sample.scheduled Sample.handover).config.store.leases.get?
      intervention.sessionId = some lease ∧
    intervention.status = .claimed ∧
    validateTransition intervention lease = .ok () := by
  have stored : ((Sample.scheduled Sample.handover).config.store.interventions.get?
      Sample.counterIntervention).map Intervention.status = some .claimed := by
    decide +kernel
  obtain ⟨intervention, found, claimed⟩ := Option.map_eq_some_iff.mp stored
  obtain ⟨lease, leased, valid⟩ :=
    (ControlRun.pairing (Execution.interleaves Sample.handover)).1
      Sample.counterIntervention intervention found (by rw [claimed]; rfl)
  exact ⟨intervention, lease, found, leased, claimed, valid⟩

end ReplayForge

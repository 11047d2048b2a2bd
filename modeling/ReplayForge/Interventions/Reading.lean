import ReplayForge.Interventions.Pairing

/-!
# Reading stored interventions

A read validates a stored intervention against the lease its session has now.
A resolved intervention passes as long as the session has not been paused or
terminated through a later one.
-/

namespace ReplayForge

open Effect

namespace ControlState

variable {before after : ControlState}

/-- Every stored intervention is read together with the lease of its
session. -/
def Readable (state : ControlState) : Prop :=
  ∀ id intervention, state.interventions.get? id = some intervention →
    ∃ lease, state.leases.get? intervention.sessionId = some lease ∧
      state.getPair id = .ok (intervention, lease)

/-- No session holds a resolved intervention beside an unresolved one. -/
def ResolvedTogether (state : ControlState) : Prop :=
  ∀ id other first second, state.interventions.get? id = some first →
    state.interventions.get? other = some second →
    first.sessionId = second.sessionId → first.status = .resolved →
    second.status = .resolved

/-- Leases that need no intervention: they are bound to none, and a session
has lost its owner exactly when an intervention of it was terminated. -/
structure Rests (state : ControlState) : Prop where
  unbound : ∀ sessionId lease, state.leases.get? sessionId = some lease →
    lease.owner.requiresIntervention = false → lease.interventionId = none
  terminated : ∀ id intervention,
    state.interventions.get? id = some intervention →
    intervention.status = .terminated →
    ∃ lease, state.leases.get? intervention.sessionId = some lease ∧
      lease.owner = .none
  closed : ∀ sessionId lease, state.leases.get? sessionId = some lease →
    lease.owner = .none →
    ∃ id intervention, state.interventions.get? id = some intervention ∧
      intervention.sessionId = sessionId ∧ intervention.status = .terminated

namespace Rests

theorem empty : Rests {} where
  unbound := by
    intro sessionId lease found
    cases found
  terminated := by
    intro id intervention found
    cases found
  closed := by
    intro sessionId lease found
    cases found

/-- The lease of an automated session is written. -/
theorem of_lease (rests : Rests before) {session : String}
    {lease : ControlLease}
    (leases : after.leases = before.leases.set session lease)
    (same : after.interventions = before.interventions)
    (owner : lease.owner = .automation) (bound : lease.interventionId = none)
    (idle : ∀ id intervention,
      before.interventions.get? id = some intervention →
      intervention.sessionId = session →
      intervention.status ≠ .terminated) : Rests after where
  unbound := by
    intro sessionId stored found free
    rw [leases, Dict.get?_set] at found
    split at found
    next =>
      rw [Option.some.injEq] at found
      rw [← found, bound]
    next => exact rests.unbound sessionId stored found free
  terminated := by
    intro id intervention found ended
    rw [same] at found
    obtain ⟨stored, leased, lost⟩ := rests.terminated id intervention found ended
    have apart : intervention.sessionId ≠ session := by
      intro here
      exact idle id intervention found here ended
    exact ⟨stored, by rw [leases, Dict.get?_set_ne _ _ apart, leased], lost⟩
  closed := by
    intro sessionId stored found lost
    rw [leases, Dict.get?_set] at found
    rw [same]
    split at found
    next =>
      rw [Option.some.injEq] at found
      rw [← found, owner] at lost
      cases lost
    next => exact rests.closed sessionId stored found lost

/-- A pair is written whose session holds no other terminated intervention. -/
theorem of_pair (rests : Rests before) {session id : String}
    {intervention : Intervention} {lease : ControlLease}
    (leases : after.leases = before.leases.set session lease)
    (interventions :
      after.interventions = before.interventions.set id intervention)
    (here : intervention.sessionId = session)
    (valid : validateTransition intervention lease = .ok ())
    (moved : ∀ stored, before.interventions.get? id = some stored →
      stored.sessionId = session)
    (idle : ∀ key stored, before.interventions.get? key = some stored →
      stored.sessionId = session → stored.status ≠ .terminated) :
    Rests after := by
  unfold validateTransition at valid
  simp only [check_bind_eq_ok, require_eq_ok] at valid
  obtain ⟨-, owner, -, free, -⟩ := valid
  constructor
  · intro sessionId stored found required
    rw [leases, Dict.get?_set] at found
    split at found
    next =>
      rw [Option.some.injEq] at found
      subst found
      split at owner <;>
        simp_all [ControlOwner.requiresIntervention,
          InterventionStatus.isActive]
    next => exact rests.unbound sessionId stored found required
  · intro key stored found ended
    rw [interventions, Dict.get?_set] at found
    split at found
    next =>
      rw [Option.some.injEq] at found
      subst found
      refine ⟨lease, by rw [leases, here, Dict.get?_set_self], ?_⟩
      split at owner <;> simp_all
    next =>
      obtain ⟨old, leased, lost⟩ := rests.terminated key stored found ended
      have apart : stored.sessionId ≠ session := by
        intro same
        exact idle key stored found same ended
      exact ⟨old, by rw [leases, Dict.get?_set_ne _ _ apart, leased], lost⟩
  · intro sessionId stored found lost
    rw [leases, Dict.get?_set] at found
    split at found
    next same =>
      rw [Option.some.injEq] at found
      subst found
      refine ⟨id, intervention, by rw [interventions, Dict.get?_set_self],
        here.trans same.symm, ?_⟩
      split at owner <;> simp_all
    next different =>
      obtain ⟨key, old, found', session', ended⟩ :=
        rests.closed sessionId stored found lost
      refine ⟨key, old, ?_, session', ended⟩
      have apart : key ≠ id := by
        rintro rfl
        exact different (session'.symm.trans (moved old found'))
      rw [interventions, Dict.get?_set_ne _ _ apart, found']

/-- A session with another owner than none holds no terminated
intervention. -/
theorem idle (rests : Rests before) {session : String} {lease : ControlLease}
    (leased : before.leases.get? session = some lease)
    (owned : lease.owner ≠ .none) :
    ∀ id intervention, before.interventions.get? id = some intervention →
      intervention.sessionId = session →
      intervention.status ≠ .terminated := by
  intro id intervention found same ended
  obtain ⟨stored, leased', lost⟩ := rests.terminated id intervention found ended
  rw [same, leased, Option.some.injEq] at leased'
  exact owned (leased' ▸ lost)

/-- A step that keeps its promise leaves the leases at rest. -/
theorem step {ttl : Int} {call : ControlCall} {past : List RuntimeEvent}
    {event : RuntimeEvent} (rests : Rests before) (paired : Paired before)
    (keyed : Keyed before) (happens : controlLaw before event after)
    (promised : call.promise ttl past before event after) : Rests after := by
  cases silent : changes event with
  | false => exact controlLaw_unchanged happens silent ▸ rests
  | true =>
      obtain ⟨op, value, rfl, writes⟩ := exists_of_changes silent
      have responds := controlLaw_control.mp happens
      cases op with
      | getLease sessionId => cases writes
      | getPair id => cases writes
      | createLease lease =>
          obtain ⟨fresh, -, rfl⟩ :=
            createLease_eq_ok.mp (respond_createLease responds)
          refine rests.of_lease rfl rfl promised.1 promised.2 ?_
          intro id intervention found same
          obtain ⟨stored, leased⟩ := keyed.leased id intervention found
          rw [same, fresh] at leased
          cases leased
      | swapLease sessionId version owner lease =>
          obtain ⟨current, leased, -, owned, -, -, -, rfl⟩ :=
            swapLease_eq_ok.mp (respond_swapLease responds)
          refine rests.of_lease rfl rfl promised.2.1 promised.2.2
            (rests.idle leased ?_)
          rw [owned, promised.1]
          decide
      | createPaused intervention observation version owner lease =>
          obtain ⟨fresh, current, leased, -, -, -, -, valid, -, rfl⟩ :=
            createPaused_eq_ok.mp (respond_createPaused responds)
          obtain ⟨read, _, -, held, handed⟩ := promised.handed
          refine rests.of_pair rfl rfl rfl valid ?_ (rests.idle held ?_)
          · intro stored found
            rw [fresh] at found
            cases found
          · rw [handed.owner]
            decide
      | swapPair id status version owner intervention lease =>
          obtain ⟨current, currentLease, found, leased, -, -, -, identity, -,
            valid, -, rfl⟩ := swapPair_eq_ok.mp (respond_swapPair responds)
          obtain ⟨read, -, -, held, transfers⟩ := promised.transfers
          have same := (pairAt_eq_some.mp held).1
          rw [found, Option.some.injEq] at same
          have active := transfers.active
          rw [← same] at active
          have named := (paired.names keyed found active leased).2
          have leases : before.leases.set currentLease.sessionId lease =
              before.leases.set current.sessionId lease := by
            rw [keyed.leases _ _ leased]
          refine rests.of_pair leases rfl identity.sessionId valid ?_
            (rests.idle leased ?_)
          · intro stored found'
            rw [found, Option.some.injEq] at found'
            rw [found']
          · intro lost
            rw [lost] at named
            cases named

end Rests

section Reads

variable {state : ControlState}

theorem readable_iff_valid : state.Readable ↔
    ∀ id intervention, state.interventions.get? id = some intervention →
      ∃ lease, state.leases.get? intervention.sessionId = some lease ∧
        validateTransition intervention lease = .ok () := by
  refine forall_congr' fun id => forall_congr' fun intervention =>
    imp_congr_right fun found => exists_congr fun lease =>
      and_congr_right fun leased => ?_
  rw [getPair_eq_ok]
  exact ⟨fun read => read.2.2, fun valid => ⟨found, leased, valid⟩⟩

/-- The lease that a resolved or terminated intervention is read with. -/
theorem validateTransition_ended {intervention : Intervention}
    {lease : ControlLease} (session : lease.sessionId = intervention.sessionId)
    (bound : lease.interventionId = none)
    (owned : (intervention.status = .resolved ∧ lease.owner = .automation) ∨
      (intervention.status = .terminated ∧ lease.owner = .none)) :
    validateTransition intervention lease = .ok () := by
  unfold validateTransition
  rcases owned with ⟨status, owner⟩ | ⟨status, owner⟩ <;>
    simp [check_bind_eq_ok, require_eq_ok, session, bound, status, owner,
      InterventionStatus.isActive]

theorem owner_of_resolved {intervention : Intervention} {lease : ControlLease}
    (valid : validateTransition intervention lease = .ok ())
    (resolved : intervention.status = .resolved) :
    lease.owner = .automation := by
  unfold validateTransition at valid
  simp only [check_bind_eq_ok, require_eq_ok] at valid
  obtain ⟨-, owner, -⟩ := valid
  split at owner <;> simp_all

/-- Every stored intervention is readable exactly while the interventions of a
session are resolved together. -/
theorem readable_iff (rests : Rests state) (paired : Paired state)
    (keyed : Keyed state) : state.Readable ↔ state.ResolvedTogether := by
  rw [readable_iff_valid]
  constructor
  · intro readable id other first second found found' same resolved
    obtain ⟨lease, leased, valid⟩ := readable id first found
    have owner := owner_of_resolved valid resolved
    rw [same] at leased
    cases active : second.status.isActive with
    | true =>
        have named := (paired.names keyed found' active leased).2
        rw [owner] at named
        cases named
    | false =>
        by_contra unresolved
        have ended : second.status = .terminated := by
          cases status : second.status <;>
            simp_all [InterventionStatus.isActive]
        obtain ⟨stored, leased', lost⟩ :=
          rests.terminated other second found' ended
        rw [leased, Option.some.injEq] at leased'
        rw [← leased', owner] at lost
        cases lost
  · intro together id intervention found
    cases active : intervention.status.isActive with
    | true => exact paired.active id intervention found active
    | false =>
        obtain ⟨lease, leased⟩ := keyed.leased id intervention found
        have session := keyed.leases _ _ leased
        by_cases resolved : intervention.status = .resolved
        · have free : lease.owner.requiresIntervention = false := by
            by_contra required
            rw [Bool.not_eq_false] at required
            obtain ⟨other, second, -, found', active', same⟩ :=
              paired.bound _ _ leased required
            rw [together id other _ _ found found' same.symm resolved]
              at active'
            cases active'
          have owner : lease.owner = .automation := by
            cases owned : lease.owner with
            | automation => rfl
            | automationPaused | human _ =>
                rw [owned] at free
                cases free
            | none =>
                obtain ⟨other, second, found', same, ended⟩ :=
                  rests.closed _ _ leased owned
                rw [together id other _ _ found found' same.symm resolved]
                  at ended
                cases ended
          exact ⟨lease, leased, validateTransition_ended session
            (rests.unbound _ _ leased free) (.inl ⟨resolved, owner⟩)⟩
        · have ended : intervention.status = .terminated := by
            cases status : intervention.status <;>
              simp_all [InterventionStatus.isActive]
          obtain ⟨stored, leased', lost⟩ :=
            rests.terminated id intervention found ended
          rw [leased, Option.some.injEq] at leased'
          subst leased'
          have free : lease.owner.requiresIntervention = false := by
            rw [lost]
            rfl
          exact ⟨lease, leased, validateTransition_ended session
            (rests.unbound _ _ leased free) (.inr ⟨ended, lost⟩)⟩

end Reads

/-- A step that stores a new intervention does so for a session without a
resolved one. -/
def OpensFresh (before after : ControlState) : Prop :=
  ∀ id later other first, before.interventions.get? id = none →
    after.interventions.get? id = some later →
    before.interventions.get? other = some first →
    first.sessionId = later.sessionId → first.status ≠ .resolved

/-- A session holds one intervention at most. -/
def OneEach (state : ControlState) : Prop :=
  ∀ id other first second, state.interventions.get? id = some first →
    state.interventions.get? other = some second →
    first.sessionId = second.sessionId → id = other

theorem OneEach.together {state : ControlState}
    (one : state.OneEach) : state.ResolvedTogether := by
  intro id other first second found found' same resolved
  have key := one id other first second found found' same
  rw [key, found', Option.some.injEq] at found
  rw [found, resolved]

/-- A step that opens for a fresh session keeps one intervention a session. -/
theorem OneEach.step {ttl : Int} {call : ControlCall} {past : List RuntimeEvent}
    {event : RuntimeEvent} (one : OneEach before) (fresh : OpensFresh before after)
    (rests : Rests before) (paired : Paired before) (keyed : Keyed before)
    (happens : controlLaw before event after)
    (promised : call.promise ttl past before event after) : OneEach after := by
  cases silent : changes event with
  | false => exact controlLaw_unchanged happens silent ▸ one
  | true =>
      obtain ⟨op, value, rfl, writes⟩ := exists_of_changes silent
      have responds := controlLaw_control.mp happens
      cases op with
      | getLease sessionId => cases writes
      | getPair id => cases writes
      | createLease lease =>
          obtain ⟨-, -, rfl⟩ :=
            createLease_eq_ok.mp (respond_createLease responds)
          exact one
      | swapLease sessionId version owner lease =>
          obtain ⟨_, -, -, -, -, -, -, rfl⟩ :=
            swapLease_eq_ok.mp (respond_swapLease responds)
          exact one
      | createPaused intervention observation version owner lease =>
          obtain ⟨unused, current, leased, -, -, -, -, -, -, rfl⟩ :=
            createPaused_eq_ok.mp (respond_createPaused responds)
          obtain ⟨read, _, -, held, handed⟩ := promised.handed
          have alone : ∀ key stored,
              before.interventions.get? key = some stored →
              stored.sessionId ≠ intervention.sessionId := by
            intro key stored found same
            have unresolved := fresh intervention.id intervention key stored
              unused (Dict.get?_set_self _ _ _) found same
            have unterminated := rests.idle held (by rw [handed.owner]; decide)
              key stored found same
            have active : stored.status.isActive = true := by
              cases status : stored.status <;>
                simp_all [InterventionStatus.isActive]
            have named := paired.names keyed found active (same ▸ held)
            rw [handed.owner] at named
            cases named.2
          intro id other first second found found' same
          rw [Dict.get?_set] at found found'
          split at found <;> split at found'
          next here there => rw [here, there]
          next here there =>
            rw [Option.some.injEq] at found
            exact (alone other second found' (found ▸ same.symm)).elim
          next here there =>
            rw [Option.some.injEq] at found'
            exact (alone id first found (found' ▸ same)).elim
          next => exact one id other first second found found' same
      | swapPair key status version owner intervention lease =>
          obtain ⟨current, currentLease, held, leased, -, -, -, identity, -,
            -, -, rfl⟩ := swapPair_eq_ok.mp (respond_swapPair responds)
          have session : ∀ id stored, (before.interventions.set key
              intervention).get? id = some stored →
              ∃ old, before.interventions.get? id = some old ∧
                old.sessionId = stored.sessionId := by
            intro id stored found
            rw [Dict.get?_set] at found
            split at found
            next same =>
              rw [Option.some.injEq] at found
              subst found same
              exact ⟨current, held, identity.sessionId.symm⟩
            next => exact ⟨stored, found, rfl⟩
          intro id other first second found found' same
          obtain ⟨old, there, kept⟩ := session id first found
          obtain ⟨old', there', kept'⟩ := session other second found'
          exact one id other old old' there there'
            (kept.trans (same.trans kept'.symm))

end ControlState

section Runs

variable {coordinator : InterventionCoordinator} {moves : List ControlMove}
  {config : ControlConfig}

/-- The leases of a run are at rest between its steps. -/
theorem ControlRun.rests (run : ControlRun coordinator moves config) :
    config.store.Rests ∧
      ∀ move ∈ moves, move.before.Rests ∧ move.after.Rests := by
  refine run.chained.keeps .empty fun move member rests => ?_
  obtain ⟨keyed, happens, -, -, promised⟩ := run.sound.moves move member
  exact rests.step (run.paired.2 move member).1 keyed happens promised

/-- Every stored intervention is readable exactly while the interventions of
each session are resolved together, and always when no session with a resolved
intervention is paused again. -/
theorem ControlRun.readable (run : ControlRun coordinator moves config) :
    (config.store.Readable ↔ config.store.ResolvedTogether) ∧
    ((∀ move ∈ moves, ControlState.OpensFresh move.before move.after) →
      config.store.Readable ∧
        ∀ move ∈ moves, move.before.Readable ∧ move.after.Readable) := by
  refine ⟨ControlState.readable_iff run.rests.1 run.paired.1
    run.sound.valid, fun fresh => ?_⟩
  have empty : ControlState.OneEach {} := by
    intro id other first second found
    cases found
  obtain ⟨last, each⟩ := run.chained.keeps empty fun move member one => by
    obtain ⟨keyed, happens, -, -, promised⟩ := run.sound.moves move member
    exact one.step (fresh move member) (run.rests.2 move member).1
      (run.paired.2 move member).1 keyed happens promised
  refine ⟨?_, fun move member => ?_⟩
  · exact (ControlState.readable_iff run.rests.1 run.paired.1
      run.sound.valid).mpr last.together
  · obtain ⟨keyed, -, keyed', -⟩ := run.sound.moves move member
    have rests := run.rests.2 move member
    have paired := run.paired.2 move member
    have one := each move member
    exact ⟨(ControlState.readable_iff rests.1 paired.1 keyed).mpr
        one.1.together,
      (ControlState.readable_iff rests.2 paired.2 keyed').mpr
        one.2.together⟩

end Runs

namespace Sample

/-- The operator hands the session back. -/
def resumed : List (Turn ControlCall Int) :=
  handover ++
    .spawn 3 (.beginResume counterIntervention 3 "ann") ::
      steps 3 [4, 4, 4, 4] ++
    .spawn 4 (.completeResume counterIntervention 4 "Done.") ::
      steps 4 [5, 5, 5, 5]

/-- The session pauses again under another intervention. -/
def pausedAgain : List (Turn ControlCall Int) :=
  resumed ++ .spawn 5 (.openIntervention
    "int_000000000000000000000000000000c2"
    "run_000000000000000000000000000000c1" counterSession 5
    "precondition_failed" (some "pay") counterPage {
      runMode := .replay
      applicationFamily := "bank"
      tenant := "north"
      taskSummary := "Pay the invoice"
      surfaceRoute := "/pay"
      capabilityId := some "bank.pay_invoice"
      capabilityVersion := some "1.0.0"
      capabilityName := some "Pay an invoice" } none) ::
    steps 5 [6, 6, 6, 6, 6]

end Sample

/-- The check of a step, over the entries it finds and leaves. -/
theorem ControlState.opensFresh_of_entries {before after : ControlState}
    (entries : ∀ stored ∈ after.interventions,
      (before.interventions.get? stored.1).isSome = true ∨
        ∀ held ∈ before.interventions,
          held.2.sessionId = stored.2.sessionId →
          held.2.status ≠ .resolved) : OpensFresh before after := by
  intro id later other first unused found found' same
  rcases entries _ (Dict.mem_of_get? found) with known | free
  · rw [unused] at known
    cases known
  · exact free _ (Dict.mem_of_get? found') same

theorem resumed_readable :
    (Sample.scheduled Sample.resumed).config.store.Readable := by
  refine ((ControlRun.readable (Execution.interleaves Sample.resumed)).2
    fun move member => ControlState.opensFresh_of_entries ?_).1
  revert move member
  decide +kernel

/-- The first intervention cannot be read any more after a second pause. -/
theorem second_pause_unreadable :
    ¬ ∀ coordinator moves config, ControlRun coordinator moves config →
      config.store.Readable := by
  intro claim
  have readable := claim Sample.coordinator
    (Sample.scheduled Sample.pausedAgain).moves
    (Sample.scheduled Sample.pausedAgain).config
    (Execution.interleaves Sample.pausedAgain)
  obtain ⟨stored, refused⟩ : ((Sample.scheduled
        Sample.pausedAgain).config.store.interventions.get?
          Sample.counterIntervention).isSome = true ∧
      ((Sample.scheduled Sample.pausedAgain).config.store.getPair
          Sample.counterIntervention).toOption = none := by
    decide +kernel
  obtain ⟨intervention, found⟩ := Option.isSome_iff_exists.mp stored
  obtain ⟨lease, -, read⟩ := readable _ _ found
  have given := congrArg Except.toOption read
  exact nomatch refused.symm.trans given

end ReplayForge

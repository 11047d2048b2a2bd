import ReplayForge.Interventions.Coordinator

/-!
# What a repository operation does

One inversion lemma an operation, and the order in which the states of the
repositories follow each other: a lease is only replaced by one of a later
version, and a pair only by one of a later stage.
-/

namespace ReplayForge

namespace ControlState

variable {state after : ControlState}

@[simp]
theorem requireValue_eq_ok {check : Bool} {message : String} :
    requireValue check message = .ok () ↔ check = true := by
  cases check <;> simp [requireValue]

@[simp]
theorem checked_eq_ok {α : Type} {check : Except Raised α} {message : String}
    {value : α} : checked check message = .ok value ↔ check = .ok value := by
  cases check <;> simp [checked]

theorem findLease_eq_ok {sessionId : String} {lease : ControlLease} :
    state.findLease sessionId = .ok lease ↔
      state.leases.get? sessionId = some lease := by
  unfold findLease
  cases state.leases.get? sessionId <;> simp

theorem findIntervention_eq_ok {interventionId : String}
    {intervention : Intervention} :
    state.findIntervention interventionId = .ok intervention ↔
      state.interventions.get? interventionId = some intervention := by
  unfold findIntervention
  cases state.interventions.get? interventionId <;> simp

theorem requireCurrent_eq_ok {lease : ControlLease} {version : Nat}
    {owner : ControlOwner} : requireCurrent lease version owner = .ok () ↔
      lease.version = version ∧ lease.owner = owner := by
  unfold requireCurrent
  split <;> simp_all

/-- The immutable identity of an intervention. -/
structure SameIdentity (current replacement : Intervention) : Prop where
  id : replacement.id = current.id
  runId : replacement.runId = current.runId
  sessionId : replacement.sessionId = current.sessionId
  createdAt : replacement.createdAt = current.createdAt
  triggerCode : replacement.triggerCode = current.triggerCode
  context : replacement.context = current.context

theorem validateInterventionReplacement_eq_ok
    {current replacement : Intervention} :
    validateInterventionReplacement current replacement = .ok () ↔
      SameIdentity current replacement := by
  unfold validateInterventionReplacement
  rw [requireValue_eq_ok]
  simp only [Bool.and_eq_true, decide_eq_true_eq]
  constructor
  · rintro ⟨⟨⟨⟨⟨id, run⟩, session⟩, created⟩, code⟩, context⟩
    exact ⟨id, run, session, created, code, context⟩
  · rintro ⟨id, run, session, created, code, context⟩
    exact ⟨⟨⟨⟨⟨id, run⟩, session⟩, created⟩, code⟩, context⟩

/-- A lease stays or moves to the next version. -/
structure Replaces (current replacement : ControlLease) : Prop where
  session : replacement.sessionId = current.sessionId
  version : replacement = current ∨
    replacement.version = current.version + 1

theorem validateLeaseReplacement_eq_ok {current replacement : ControlLease} :
    validateLeaseReplacement current replacement = .ok () ↔
      Replaces current replacement := by
  unfold validateLeaseReplacement
  simp only [check_bind_eq_ok, requireValue_eq_ok, Bool.or_eq_true,
    decide_eq_true_eq]
  exact ⟨fun ⟨session, version⟩ => ⟨session, version⟩,
    fun ⟨session, version⟩ => ⟨session, version⟩⟩

theorem createLease_eq_ok {lease value : ControlLease} :
    state.createLease lease = .ok (after, value) ↔
      state.leases.get? lease.sessionId = none ∧ value = lease ∧
        after = { state with
          leases := state.leases.set lease.sessionId lease } := by
  unfold createLease
  cases state.leases.get? lease.sessionId with
  | none => simp [eq_comm, and_comm]
  | some stored => simp

theorem swapLease_eq_ok {sessionId : String} {version : Nat}
    {owner : ControlOwner} {replacement value : ControlLease} :
    state.swapLease sessionId version owner replacement = .ok (after, value) ↔
      ∃ current, state.leases.get? sessionId = some current ∧
        current.version = version ∧ current.owner = owner ∧
        replacement.sessionId = current.sessionId ∧
        replacement.version = current.version + 1 ∧ value = replacement ∧
        after = { state with
          leases := state.leases.set sessionId replacement } := by
  unfold swapLease
  rw [bind_eq_ok]
  refine exists_congr fun current => and_congr findLease_eq_ok ?_
  simp only [check_bind_eq_ok, requireCurrent_eq_ok, requireValue_eq_ok,
    decide_eq_true_eq, pure, Except.pure, Except.ok.injEq, Prod.mk.injEq]
  constructor
  · rintro ⟨⟨current, same⟩, session, next, rfl, rfl⟩
    exact ⟨current, same, session, next, rfl, rfl⟩
  · rintro ⟨current, same, session, next, rfl, rfl⟩
    exact ⟨⟨current, same⟩, session, next, rfl, rfl⟩

theorem getPair_eq_ok {interventionId : String} {pair : ControlPair} :
    state.getPair interventionId = .ok pair ↔
      state.interventions.get? interventionId = some pair.1 ∧
        state.leases.get? pair.1.sessionId = some pair.2 ∧
        validateTransition pair.1 pair.2 = .ok () := by
  obtain ⟨intervention, lease⟩ := pair
  unfold getPair
  simp only [bind_eq_ok, findIntervention_eq_ok, findLease_eq_ok, checked_eq_ok,
    pure, Except.pure, Except.ok.injEq, Prod.mk.injEq]
  constructor
  · rintro ⟨_, found, _, leased, _, valid, rfl, rfl⟩
    exact ⟨found, leased, valid⟩
  · rintro ⟨found, leased, valid⟩
    exact ⟨_, found, _, leased, (), valid, rfl, rfl⟩

theorem createPaused_eq_ok {intervention : Intervention}
    {observation : NormalizedObservation} {version : Nat}
    {owner : ControlOwner} {replacement : ControlLease} {value : ControlPair} :
    state.createPaused intervention observation version owner replacement =
        .ok (after, value) ↔
      state.interventions.get? intervention.id = none ∧
      ∃ current, state.leases.get? intervention.sessionId = some current ∧
        current.version = version ∧ current.owner = owner ∧
        observation.sessionId = intervention.sessionId ∧
        Replaces current replacement ∧
        validateTransition intervention replacement = .ok () ∧
        value = (intervention, replacement) ∧
        after = {
          leases := state.leases.set intervention.sessionId replacement
          interventions := state.interventions.set intervention.id intervention
          observations :=
            state.observations.set intervention.id observation } := by
  unfold createPaused
  cases state.interventions.get? intervention.id with
  | some stored => simp [bind, Except.bind, throw, throwThe, MonadExceptOf.throw]
  | none =>
      simp only [Option.isSome_none, Bool.false_eq_true, if_false, true_and]
      rw [bind_eq_ok]
      refine exists_congr fun current => and_congr findLease_eq_ok ?_
      simp only [check_bind_eq_ok, requireCurrent_eq_ok, requireValue_eq_ok,
        decide_eq_true_eq, validateLeaseReplacement_eq_ok, checked_eq_ok, pure,
        Except.pure, Except.ok.injEq, Prod.mk.injEq]
      constructor
      · rintro ⟨⟨version, owner⟩, session, replaces, valid, rfl, rfl⟩
        exact ⟨version, owner, session, replaces, valid, rfl, rfl⟩
      · rintro ⟨version, owner, session, replaces, valid, rfl, rfl⟩
        exact ⟨⟨version, owner⟩, session, replaces, valid, rfl, rfl⟩

theorem swapPair_eq_ok {interventionId : String} {status : InterventionStatus}
    {version : Nat} {owner : ControlOwner} {intervention : Intervention}
    {lease : ControlLease} {value : ControlPair} :
    state.swapPair interventionId status version owner intervention lease =
        .ok (after, value) ↔
      ∃ current currentLease,
        state.interventions.get? interventionId = some current ∧
        state.leases.get? current.sessionId = some currentLease ∧
        current.status = status ∧ currentLease.version = version ∧
        currentLease.owner = owner ∧ SameIdentity current intervention ∧
        Replaces currentLease lease ∧
        validateTransition intervention lease = .ok () ∧
        value = (intervention, lease) ∧
        after = { state with
          leases := state.leases.set currentLease.sessionId lease
          interventions :=
            state.interventions.set interventionId intervention } := by
  unfold swapPair
  simp only [bind_eq_ok, findIntervention_eq_ok, findLease_eq_ok]
  constructor
  · rintro ⟨current, found, currentLease, leased, rest⟩
    refine ⟨current, currentLease, found, leased, ?_⟩
    by_cases same : current.status = status
    · simp only [same, ne_eq, not_true_eq_false, if_false,
        check_bind_eq_ok, requireCurrent_eq_ok,
        validateInterventionReplacement_eq_ok, validateLeaseReplacement_eq_ok,
        checked_eq_ok, pure, Except.pure, Except.ok.injEq,
        Prod.mk.injEq] at rest
      obtain ⟨⟨version, owner⟩, identity, replaces, valid, rfl, rfl⟩ := rest
      exact ⟨same, version, owner, identity, replaces, valid, rfl, rfl⟩
    · simp [same, throw, throwThe, MonadExceptOf.throw, bind, Except.bind]
        at rest
  · rintro ⟨current, currentLease, found, leased, same, version, owner,
      identity, replaces, valid, rfl, rfl⟩
    refine ⟨current, found, currentLease, leased, ?_⟩
    simp only [same, ne_eq, not_true_eq_false, if_false,
      check_bind_eq_ok, requireCurrent_eq_ok,
      validateInterventionReplacement_eq_ok, validateLeaseReplacement_eq_ok,
      checked_eq_ok, pure, Except.pure]
    exact ⟨⟨version, owner⟩, identity, replaces, valid, trivial⟩

@[simp]
theorem commit_eq_ok {α : Type} {value : α}
    {outcome : Except ControlError (ControlState × α)} :
    commit state outcome = (after, .ok value) ↔
      outcome = .ok (after, value) := by
  cases outcome with
  | ok written =>
      obtain ⟨stored, answer⟩ := written
      simp [commit]
  | error error => simp [commit]

theorem respond_createLease {lease value : ControlLease}
    (responds : state.respond (.createLease lease) = (after, .ok value)) :
    state.createLease lease = .ok (after, value) :=
  commit_eq_ok.mp responds

theorem respond_swapLease {sessionId : String} {version : Nat}
    {owner : ControlOwner} {replacement value : ControlLease}
    (responds : state.respond (.swapLease sessionId version owner replacement) =
      (after, .ok value)) :
    state.swapLease sessionId version owner replacement = .ok (after, value) :=
  commit_eq_ok.mp responds

theorem respond_createPaused {intervention : Intervention}
    {observation : NormalizedObservation} {version : Nat}
    {owner : ControlOwner} {replacement : ControlLease} {value : ControlPair}
    (responds : state.respond (.createPaused intervention observation version
      owner replacement) = (after, .ok value)) :
    state.createPaused intervention observation version owner replacement =
      .ok (after, value) :=
  commit_eq_ok.mp responds

theorem respond_swapPair {interventionId : String}
    {status : InterventionStatus} {version : Nat} {owner : ControlOwner}
    {intervention : Intervention} {lease : ControlLease} {value : ControlPair}
    (responds : state.respond (.swapPair interventionId status version owner
      intervention lease) = (after, .ok value)) :
    state.swapPair interventionId status version owner intervention lease =
      .ok (after, value) :=
  commit_eq_ok.mp responds

/-- An operation that raises changes nothing. -/
theorem respond_failed {op : ControlOp} {error : ControlError}
    (responds : state.respond op = (after, .error error)) : after = state := by
  have failed : ∀ {α : Type}
      {outcome : Except ControlError (ControlState × α)},
      commit state outcome = (after, .error error) → after = state := by
    intro α outcome same
    cases outcome with
    | ok value => cases same
    | error error =>
        cases same
        rfl
  cases op with
  | createLease lease => exact failed responds
  | swapLease sessionId version owner replacement => exact failed responds
  | createPaused intervention observation version owner replacement =>
      exact failed responds
  | swapPair id status version owner intervention lease =>
      exact failed responds
  | getLease sessionId => exact (congrArg Prod.fst responds).symm
  | getPair id => exact (congrArg Prod.fst responds).symm

/-- The operations that write. -/
def writes : ControlOp → Bool
  | .getLease _ | .getPair _ => false
  | _ => true

theorem respond_read {op : ControlOp} {answer : Except ControlError op.Result}
    (responds : state.respond op = (after, answer))
    (reads : writes op = false) : after = state := by
  cases op with
  | getLease sessionId => exact (congrArg Prod.fst responds).symm
  | getPair id => exact (congrArg Prod.fst responds).symm
  | createLease lease => cases reads
  | swapLease sessionId version owner replacement => cases reads
  | createPaused intervention observation version owner replacement =>
      cases reads
  | swapPair id status version owner intervention lease => cases reads

/-- The keys of the repositories are the identities of what they hold. -/
structure Keyed (state : ControlState) : Prop where
  leases : ∀ key lease, state.leases.get? key = some lease →
    lease.sessionId = key
  interventions : ∀ key intervention,
    state.interventions.get? key = some intervention → intervention.id = key
  leased : ∀ key intervention,
    state.interventions.get? key = some intervention →
    ∃ lease, state.leases.get? intervention.sessionId = some lease

/-- The stored intervention and the stored lease of its session. -/
def pairAt (state : ControlState) (interventionId : String) :
    Option ControlPair :=
  (state.interventions.get? interventionId).bind fun intervention =>
    (state.leases.get? intervention.sessionId).map (intervention, ·)

theorem pairAt_eq_some {interventionId : String} {pair : ControlPair} :
    state.pairAt interventionId = some pair ↔
      state.interventions.get? interventionId = some pair.1 ∧
        state.leases.get? pair.1.sessionId = some pair.2 := by
  obtain ⟨intervention, lease⟩ := pair
  unfold pairAt
  simp only [Option.bind_eq_some_iff, Option.map_eq_some_iff, Prod.mk.injEq]
  constructor
  · rintro ⟨_, found, _, leased, rfl, rfl⟩
    exact ⟨found, leased⟩
  · rintro ⟨found, leased⟩
    exact ⟨_, found, _, leased, rfl, rfl⟩

/-- The stage of a pair.  A commit moves the lease to its next version, but
for the one that opens a resuming intervention again. -/
def stage (pair : ControlPair) : Nat :=
  2 * pair.2.version + if pair.1.status = .resuming then 0 else 1

/-- How a later state of the repositories compares with an earlier one. -/
structure Grows (before after : ControlState) : Prop where
  leases : ∀ key lease, before.leases.get? key = some lease →
    ∃ later, after.leases.get? key = some later ∧
      (later = lease ∨ lease.version < later.version)
  pairs : ∀ key pair, before.pairAt key = some pair →
    ∃ later, after.pairAt key = some later ∧
      later.1.sessionId = pair.1.sessionId ∧
      (later = pair ∨ stage pair < stage later)

theorem Grows.refl (state : ControlState) : Grows state state where
  leases := fun _ lease found => ⟨lease, found, .inl rfl⟩
  pairs := fun _ pair found => ⟨pair, found, rfl, .inl rfl⟩

theorem Grows.trans {first second third : ControlState}
    (early : Grows first second) (late : Grows second third) :
    Grows first third where
  leases := by
    intro key lease found
    obtain ⟨middle, found', step⟩ := early.leases key lease found
    obtain ⟨last, found'', step'⟩ := late.leases key middle found'
    refine ⟨last, found'', ?_⟩
    rcases step' with rfl | newer'
    · exact step
    · rcases step with rfl | newer
      · exact .inr newer'
      · exact .inr (newer.trans newer')
  pairs := by
    intro key pair found
    obtain ⟨middle, found', session, step⟩ := early.pairs key pair found
    obtain ⟨last, found'', session', step'⟩ := late.pairs key middle found'
    refine ⟨last, found'', session'.trans session, ?_⟩
    rcases step' with rfl | newer'
    · exact step
    · rcases step with rfl | newer
      · exact .inr newer'
      · exact .inr (newer.trans newer')

/-- The compared token identifies the pair. -/
theorem Grows.pair_eq {before : ControlState} {key : String}
    {pair current : ControlPair} (grows : Grows before state)
    (read : before.pairAt key = some pair)
    (found : state.pairAt key = some current)
    (status : current.1.status = pair.1.status)
    (version : current.2.version = pair.2.version) : current = pair := by
  obtain ⟨later, found', -, step⟩ := grows.pairs key pair read
  rw [found, Option.some.injEq] at found'
  subst found'
  rcases step with same | newer
  · exact same
  · unfold stage at newer
    rw [status, version] at newer
    exact absurd newer (Nat.lt_irrefl _)

/-- Leases of one version are one lease. -/
theorem Grows.lease_eq {before : ControlState} {key : String}
    {lease current : ControlLease} (grows : Grows before state)
    (read : before.leases.get? key = some lease)
    (found : state.leases.get? key = some current)
    (version : current.version = lease.version) : current = lease := by
  obtain ⟨later, found', step⟩ := grows.leases key lease read
  rw [found, Option.some.injEq] at found'
  subst found'
  rcases step with same | newer
  · exact same
  · rw [version] at newer
    exact absurd newer (Nat.lt_irrefl _)

/-- One lease is replaced, and at most interventions of its session move on. -/
structure Writes (state : ControlState) (session : String)
    (current lease : ControlLease) (after : ControlState) : Prop where
  found : state.leases.get? session = some current
  replaces : Replaces current lease
  leases : after.leases = state.leases.set session lease
  kept : ∀ key intervention,
    state.interventions.get? key = some intervention →
    ∃ later, after.interventions.get? key = some later ∧
      later.sessionId = intervention.sessionId ∧
      (later = intervention ∨ (intervention.sessionId = session ∧
        stage (intervention, current) < stage (later, lease)))
  keyed : ∀ key intervention,
    after.interventions.get? key = some intervention →
    intervention.id = key ∧ (intervention.sessionId = session ∨
      state.interventions.get? key = some intervention)

namespace Writes

variable {session : String} {current lease : ControlLease}

theorem lease_eq (write : state.Writes session current lease after)
    (key : String) : after.leases.get? key =
      if key = session then some lease else state.leases.get? key := by
  rw [write.leases, Dict.get?_set]

theorem grows (write : state.Writes session current lease after) :
    Grows state after where
  leases := by
    intro key stored found
    by_cases same : key = session
    · subst same
      rw [write.found, Option.some.injEq] at found
      subst found
      refine ⟨lease, by rw [write.lease_eq, if_pos rfl], ?_⟩
      refine write.replaces.version.imp id fun next => ?_
      rw [next]
      exact Nat.lt_succ_self _
    · exact ⟨stored, by rw [write.lease_eq, if_neg same, found], .inl rfl⟩
  pairs := by
    rintro key ⟨intervention, stored⟩ found
    obtain ⟨held, leased⟩ := pairAt_eq_some.mp found
    obtain ⟨later, held', session', moved⟩ := write.kept key intervention held
    by_cases same : intervention.sessionId = session
    · rw [same, write.found, Option.some.injEq] at leased
      subst leased
      refine ⟨(later, lease), pairAt_eq_some.mpr ⟨held', ?_⟩, session', ?_⟩
      · rw [session', write.lease_eq, if_pos same]
      · rcases moved with rfl | ⟨-, further⟩
        · refine write.replaces.version.imp (fun same => by rw [same])
            fun next => ?_
          unfold stage
          simp only [next]
          omega
        · exact .inr further
    · have unmoved : later = intervention :=
        moved.resolve_right fun further => same further.1
      subst unmoved
      refine ⟨(later, stored), pairAt_eq_some.mpr ⟨held', ?_⟩, rfl, .inl rfl⟩
      rw [write.lease_eq, if_neg same, leased]

theorem keepsKeys (write : state.Writes session current lease after)
    (before : Keyed state) : Keyed after where
  leases := by
    intro key stored found
    rw [write.lease_eq] at found
    split at found
    next same =>
      rw [Option.some.injEq] at found
      subst found same
      exact write.replaces.session.trans (before.leases _ _ write.found)
    next => exact before.leases key stored found
  interventions := fun key intervention found =>
    (write.keyed key intervention found).1
  leased := by
    intro key intervention found
    rw [write.lease_eq]
    split
    next => exact ⟨lease, rfl⟩
    next different =>
      rcases (write.keyed key intervention found).2 with same | held
      · exact absurd same different
      · exact before.leased key intervention held

end Writes

theorem swapLease_writes {sessionId : String} {version : Nat}
    {owner : ControlOwner} {replacement value : ControlLease}
    (keyed : Keyed state)
    (swapped : state.swapLease sessionId version owner replacement =
      .ok (after, value)) :
    ∃ current, state.Writes sessionId current replacement after := by
  obtain ⟨current, found, -, -, session, next, -, rfl⟩ :=
    swapLease_eq_ok.mp swapped
  exact ⟨current, {
    found
    replaces := ⟨session, .inr next⟩
    leases := rfl
    kept := fun _ intervention held => ⟨intervention, held, rfl, .inl rfl⟩
    keyed := fun key intervention held =>
      ⟨keyed.interventions key intervention held, .inr held⟩ }⟩

theorem createPaused_writes {intervention : Intervention}
    {observation : NormalizedObservation} {version : Nat}
    {owner : ControlOwner} {replacement : ControlLease} {value : ControlPair}
    (keyed : Keyed state)
    (created : state.createPaused intervention observation version owner
      replacement = .ok (after, value)) :
    ∃ current,
      state.Writes intervention.sessionId current replacement after := by
  obtain ⟨fresh, current, found, -, -, -, replaces, -, -, rfl⟩ :=
    createPaused_eq_ok.mp created
  refine ⟨current, {
    found
    replaces
    leases := rfl
    kept := ?_
    keyed := ?_ }⟩
  · intro key stored held
    refine ⟨stored, ?_, rfl, .inl rfl⟩
    have different : key ≠ intervention.id := by
      rintro rfl
      rw [fresh] at held
      cases held
    rw [Dict.get?_set_ne _ _ different, held]
  · intro key stored held
    rw [Dict.get?_set] at held
    split at held
    next same =>
      rw [Option.some.injEq] at held
      subst held
      exact ⟨same.symm, .inl rfl⟩
    next => exact ⟨keyed.interventions key stored held, .inr held⟩

/-- A compare-and-swap that moves its pair to a later stage. -/
theorem swapPair_writes {interventionId : String} {status : InterventionStatus}
    {version : Nat} {owner : ControlOwner} {intervention : Intervention}
    {lease : ControlLease} {value : ControlPair} (keyed : Keyed state)
    (swapped : state.swapPair interventionId status version owner intervention
      lease = .ok (after, value))
    (advances : ∀ pair, state.pairAt interventionId = some pair →
      stage pair < stage (intervention, lease)) :
    ∃ current,
      state.Writes intervention.sessionId current lease after := by
  obtain ⟨current, currentLease, held, leased, -, -, -, identity, replaces, -,
    -, rfl⟩ := swapPair_eq_ok.mp swapped
  have moved := advances (current, currentLease)
    (pairAt_eq_some.mpr ⟨held, leased⟩)
  refine ⟨currentLease, {
    found := by rw [identity.sessionId, leased]
    replaces
    leases := ?_
    kept := ?_
    keyed := ?_ }⟩
  · rw [identity.sessionId, keyed.leases _ _ leased]
  · intro key stored found
    by_cases same : key = interventionId
    · subst same
      rw [held, Option.some.injEq] at found
      subst found
      exact ⟨intervention, Dict.get?_set_self _ _ _, identity.sessionId,
        .inr ⟨identity.sessionId.symm, moved⟩⟩
    · refine ⟨stored, ?_, rfl, .inl rfl⟩
      rw [Dict.get?_set_ne _ _ same, found]
  · intro key stored found
    rw [Dict.get?_set] at found
    split at found
    next same =>
      rw [Option.some.injEq] at found
      subst found same
      exact ⟨identity.id.trans (keyed.interventions _ _ held), .inl rfl⟩
    next => exact ⟨keyed.interventions key stored found, .inr found⟩

/-- A successful swap stores the pair it writes. -/
theorem stored_of_swapPair {id : String} {status : InterventionStatus}
    {version : Nat} {owner : ControlOwner} {intervention : Intervention}
    {lease : ControlLease} {value : ControlPair} {before : ControlState}
    (keyed : Keyed before)
    (swapped : before.swapPair id status version owner intervention lease =
      .ok (after, value)) :
    value = (intervention, lease) ∧
      after.pairAt id = some (intervention, lease) := by
  obtain ⟨current, currentLease, -, leased, -, -, -, identity, -, -, same,
    rfl⟩ := ControlState.swapPair_eq_ok.mp swapped
  refine ⟨same, ControlState.pairAt_eq_some.mpr
    ⟨Dict.get?_set_self _ _ _, ?_⟩⟩
  rw [identity.sessionId, keyed.leases _ _ leased]
  exact Dict.get?_set_self _ _ _

theorem createLease_keeps {lease value : ControlLease} (keyed : Keyed state)
    (created : state.createLease lease = .ok (after, value)) :
    Keyed after ∧ Grows state after := by
  obtain ⟨fresh, -, rfl⟩ := createLease_eq_ok.mp created
  have kept : ∀ {key stored}, state.leases.get? key = some stored →
      (state.leases.set lease.sessionId lease).get? key = some stored := by
    intro key stored found
    have different : key ≠ lease.sessionId := by
      rintro rfl
      rw [fresh] at found
      cases found
    rw [Dict.get?_set_ne _ _ different, found]
  refine ⟨?_, ?_⟩
  · exact {
      leases := by
        intro key stored found
        rw [Dict.get?_set] at found
        split at found
        next same =>
          rw [Option.some.injEq] at found
          subst found
          exact same.symm
        next => exact keyed.leases key stored found
      interventions := keyed.interventions
      leased := fun key intervention held => by
        obtain ⟨stored, found⟩ := keyed.leased key intervention held
        exact ⟨stored, kept found⟩ }
  · exact {
      leases := fun key stored found => ⟨stored, kept found, .inl rfl⟩
      pairs := fun key pair found => by
        obtain ⟨held, leased⟩ := pairAt_eq_some.mp found
        exact ⟨pair, pairAt_eq_some.mpr ⟨held, kept leased⟩, rfl, .inl rfl⟩ }

end ControlState

end ReplayForge

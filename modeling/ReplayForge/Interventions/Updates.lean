import ReplayForge.Interventions.Pairing

/-!
# No lost update

Coordinator calls interleave with arbitrary clients of the lease repository.  A
commit compares only a status, a version and an owner; no write to the session
lies between the read it was computed from and the commit.
-/

namespace ReplayForge

open Effect

/-- A client of the coordinator or of the lease repository. -/
inductive ControlClient where
  | control (call : ControlCall)
  | get (interventionId : String)
  | createLease (lease : ControlLease)
  | getLease (sessionId : String)
  | swapLease (sessionId : String) (expectedVersion : Nat)
      (expectedOwner : ControlOwner) (replacement : ControlLease)

namespace ControlClient

def procedure (coordinator : InterventionCoordinator) :
    ControlClient → Runtime Unit Unit
  | .control call => call.procedure coordinator
  | .get interventionId => do
      let _ ← InterventionCoordinator.get interventionId
  | .createLease lease => do
      let _ ← Runtime.control (.createLease lease)
  | .getLease sessionId => do
      let _ ← Runtime.control (.getLease sessionId)
  | .swapLease sessionId version owner replacement => do
      let _ ← Runtime.control (.swapLease sessionId version owner replacement)

def program (coordinator : InterventionCoordinator) (client : ControlClient) :
    Program RuntimeSig (Except Raised Unit × Unit) :=
  (client.procedure coordinator).run.run ()

end ControlClient

abbrev ClientMove := Move RuntimeSig ControlState ControlClient

/-- Clients interleave on repositories that start empty. -/
abbrev ClientRun (coordinator : InterventionCoordinator)
    (moves : List ClientMove) (config : Config RuntimeSig ControlState
      ControlClient (Except Raised Unit × Unit)) : Prop :=
  Interleaves (fun _ _ => controlLaw) (ControlClient.program coordinator) {} moves config

/-- The session that a successful write is about. -/
def writtenSession : RuntimeEvent → Option String
  | ⟨.control (.createLease lease), .ok _⟩ => some lease.sessionId
  | ⟨.control (.swapLease sessionId _ _ _), .ok _⟩ => some sessionId
  | ⟨.control (.createPaused intervention _ _ _ _), .ok _⟩ =>
      some intervention.sessionId
  | ⟨.control (.swapPair _ _ _ _ intervention _), .ok _⟩ =>
      some intervention.sessionId
  | _ => none

namespace ControlClient

/-- What a client promises about a write that succeeds: only a coordinator call
writes pairs. -/
def promise (ttl : Int) : ControlClient → Promise RuntimeSig ControlState
  | .control call, past, before, event, after =>
      call.promise ttl past before event after
  | _, _, _, ⟨.control (.swapPair _ _ _ _ _ _), .ok _⟩, _ => False
  | _, _, _, ⟨.control (.createPaused _ _ _ _ _), .ok _⟩, _ => False
  | _, _, _, _, _ => True

theorem promise_quiet {ttl : Int} {client : ControlClient}
    {past : List RuntimeEvent} {before after : ControlState}
    {event : RuntimeEvent} (silent : changes event = false) :
    client.promise ttl past before event after := by
  cases client with
  | control call => exact ControlCall.promise_quiet silent
  | _ =>
      unfold promise
      split
      · contradiction
      · cases silent
      · cases silent
      · trivial

/-- Every client keeps its promise. -/
theorem kept {coordinator : InterventionCoordinator} {index : Nat}
    (client : ControlClient) {state : ControlState} : Keeps controlStore index
      (client.promise coordinator.leases.ttl) (client.procedure coordinator) ()
      [] state (fun _ _ _ _ => True) (fun _ _ past _ => Unwritten [] past) := by
  cases client with
  | control call =>
      exact (ControlCall.kept call).weaken (fun _ _ _ _ _ => trivial)
        fun _ _ _ _ here => here
  | get id =>
      refine keeps_bind (keeps_get fun _ _ _ _ => promise_quiet) ?_
      exact fun _ _ _ _ _ => keeps_pure trivial
  | createLease lease =>
      exact keeps_discard (keeps_createLease (fun _ _ _ _ => promise_quiet)
        fun _ _ _ _ => trivial)
  | getLease sessionId =>
      refine keeps_bind (keeps_getLease fun _ _ _ _ => promise_quiet) ?_
      exact fun _ _ _ _ _ => keeps_pure trivial
  | swapLease sessionId version owner replacement =>
      exact keeps_discard (keeps_swapLease (fun _ _ _ _ => promise_quiet)
        fun _ _ _ _ => trivial)

end ControlClient

namespace ControlState

variable {before after : ControlState}

/-- A step that does not write a session leaves its lease and its pairs. -/
theorem unwritten_session {event : RuntimeEvent} {session : String}
    (keyed : Keyed before) (happens : controlLaw before event after)
    (other : writtenSession event ≠ some session) :
    after.leases.get? session = before.leases.get? session ∧
      ∀ id intervention, intervention.sessionId = session →
        (after.interventions.get? id = some intervention ↔
          before.interventions.get? id = some intervention) := by
  cases silent : changes event with
  | false =>
      rw [controlLaw_unchanged happens silent]
      exact ⟨rfl, fun _ _ _ => Iff.rfl⟩
  | true =>
      obtain ⟨op, value, rfl, writes⟩ := exists_of_changes silent
      have responds := controlLaw_control.mp happens
      cases op with
      | getLease sessionId => cases writes
      | getPair id => cases writes
      | createLease lease =>
          obtain ⟨-, -, rfl⟩ :=
            createLease_eq_ok.mp (respond_createLease responds)
          have apart : session ≠ lease.sessionId := by
            rintro rfl
            exact other rfl
          exact ⟨Dict.get?_set_ne _ _ apart, fun _ _ _ => Iff.rfl⟩
      | swapLease sessionId version owner lease =>
          obtain ⟨_, -, -, -, -, -, -, rfl⟩ :=
            swapLease_eq_ok.mp (respond_swapLease responds)
          have apart : session ≠ sessionId := by
            rintro rfl
            exact other rfl
          exact ⟨Dict.get?_set_ne _ _ apart, fun _ _ _ => Iff.rfl⟩
      | createPaused intervention observation version owner lease =>
          obtain ⟨fresh, _, -, -, -, -, -, -, -, rfl⟩ :=
            createPaused_eq_ok.mp (respond_createPaused responds)
          have apart : session ≠ intervention.sessionId := by
            rintro rfl
            exact other rfl
          refine ⟨Dict.get?_set_ne _ _ apart, fun id stored same => ?_⟩
          rw [Dict.get?_set]
          split
          next here =>
            subst here
            rw [fresh]
            constructor
            · intro found
              rw [Option.some.injEq] at found
              exact absurd (found ▸ same.symm) apart
            · intro found
              cases found
          next => rfl
      | swapPair id status version owner intervention lease =>
          obtain ⟨current, currentLease, found, leased, -, -, -, identity, -, -,
            -, rfl⟩ := swapPair_eq_ok.mp (respond_swapPair responds)
          have apart : session ≠ intervention.sessionId := by
            rintro rfl
            exact other rfl
          refine ⟨?_, fun key stored same => ?_⟩
          · apply Dict.get?_set_ne
            rw [keyed.leases _ _ leased, ← identity.sessionId]
            exact apart
          · rw [Dict.get?_set]
            split
            next here =>
              subst here
              rw [found, Option.some.injEq, Option.some.injEq]
              constructor
              · rintro rfl
                exact absurd same.symm apart
              · rintro rfl
                exact absurd (same.symm.trans identity.sessionId.symm) apart
            next => rfl

theorem unwritten_pair {event : RuntimeEvent} {id : String}
    {pair : ControlPair} (keyed : Keyed before)
    (happens : controlLaw before event after)
    (other : writtenSession event ≠ some pair.1.sessionId) :
    after.pairAt id = some pair ↔ before.pairAt id = some pair := by
  obtain ⟨lease, kept⟩ := unwritten_session keyed happens other
  rw [pairAt_eq_some, pairAt_eq_some, lease, kept id pair.1 rfl]

/-- A lease that is found again was there all the time. -/
theorem Grows.lease_between {first second third : ControlState}
    {session : String} {lease : ControlLease} (early : Grows first second)
    (late : Grows second third)
    (found : first.leases.get? session = some lease)
    (again : third.leases.get? session = some lease) :
    second.leases.get? session = some lease := by
  obtain ⟨middle, held, step⟩ := early.leases session lease found
  obtain ⟨last, held', step'⟩ := late.leases session middle held
  rw [again, Option.some.injEq] at held'
  subst held'
  rw [held]
  rcases step with rfl | newer
  · rfl
  · rcases step' with rfl | newer'
    · rfl
    · exact absurd (newer.trans newer') (Nat.lt_irrefl _)

/-- A pair that is found again was there all the time. -/
theorem Grows.pair_between {first second third : ControlState} {id : String}
    {pair : ControlPair} (early : Grows first second)
    (late : Grows second third) (found : first.pairAt id = some pair)
    (again : third.pairAt id = some pair) : second.pairAt id = some pair := by
  obtain ⟨middle, held, -, step⟩ := early.pairs id pair found
  obtain ⟨last, held', -, step'⟩ := late.pairs id middle held
  rw [again, Option.some.injEq] at held'
  subst held'
  rw [held]
  rcases step with rfl | newer
  · rfl
  · rcases step' with rfl | newer'
    · rfl
    · exact absurd (newer.trans newer') (Nat.lt_irrefl _)

end ControlState

theorem Commits.same_session {ι : Type} {move : Move RuntimeSig ControlState ι}
    {id : String} {read written : ControlPair} (commits : Commits move id written)
    (happens : controlLaw move.before move.event move.after)
    (held : move.before.pairAt id = some read) :
    read.1.sessionId = written.1.sessionId := by
  obtain ⟨status, version, owner, value, event⟩ := commits.event
  rw [event] at happens
  obtain ⟨current, _, found, -, -, -, -, identity, -⟩ :=
    ControlState.swapPair_eq_ok.mp
      (ControlState.respond_swapPair (controlLaw_control.mp happens))
  rw [(ControlState.pairAt_eq_some.mp held).1, Option.some.injEq] at found
  rw [found, identity.sessionId]

theorem HasSeen.unique {id other : String} {pair seen : ControlPair}
    {past : List RuntimeEvent} (read : HasSeen id pair past)
    (member : ⟨.control (.getPair other), .ok seen⟩ ∈ past) :
    other = id ∧ seen = pair := by
  obtain ⟨times, rfl⟩ := read
  rcases List.mem_cons.mp member with same | later
  · cases same
    exact ⟨rfl, rfl⟩
  · obtain ⟨now, -, same⟩ := List.mem_map.mp later
    cases same

/-- An active pair that is admitted names its intervention. -/
theorem bound_of_valid {state : ControlState} {id : String}
    {pair : ControlPair} (keyed : state.Keyed) (held : state.pairAt id = some pair)
    (valid : validateTransition pair.1 pair.2 = .ok ())
    (active : pair.1.status.isActive = true) :
    pair.2.interventionId = some id := by
  have found := (ControlState.pairAt_eq_some.mp held).1
  rw [← keyed.interventions id pair.1 found]
  exact (validateTransition_active valid active).1

theorem changes_of_written {event : RuntimeEvent} {session : String}
    (written : writtenSession event = some session) : changes event = true := by
  unfold writtenSession at written
  split at written
  · rfl
  · rfl
  · rfl
  · rfl
  · cases written

namespace ControlClient

variable {ttl : Int} {client : ControlClient} {past : List RuntimeEvent}
  {before after : ControlState}

theorem committed_of_promise {id : String} {status : InterventionStatus}
    {version : Nat} {owner : ControlOwner} {written value : ControlPair}
    (promised : client.promise ttl past before
      ⟨.control (.swapPair id status version owner written.1 written.2),
        .ok value⟩ after) :
    ∃ call, client = .control call ∧
      Committed ttl call id past before written after := by
  cases client with
  | control call => exact ⟨call, rfl, promised⟩
  | get id => exact promised.elim
  | createLease lease => exact promised.elim
  | getLease sessionId => exact promised.elim
  | swapLease sessionId version owner lease => exact promised.elim

theorem opened_of_promise {intervention : Intervention}
    {observation : NormalizedObservation} {version : Nat}
    {owner : ControlOwner} {lease : ControlLease} {value : ControlPair}
    (promised : client.promise ttl past before
      ⟨.control (.createPaused intervention observation version owner lease),
        .ok value⟩ after) :
    ∃ call, client = .control call ∧
      Opened ttl call past before intervention lease after := by
  cases client with
  | control call => exact ⟨call, rfl, promised⟩
  | get id => exact promised.elim
  | createLease lease => exact promised.elim
  | getLease sessionId => exact promised.elim
  | swapLease sessionId version owner lease => exact promised.elim

end ControlClient

/-- A write that leaves the lease of its session moves the pair that is bound
to it. -/
theorem ControlClient.promise_rebinds {ttl : Int} {client : ControlClient}
    {past : List RuntimeEvent} {before after : ControlState}
    {event : RuntimeEvent} {session : String} {lease : ControlLease}
    (keyed : before.Keyed) (happens : controlLaw before event after)
    (promised : client.promise ttl past before event after)
    (written : writtenSession event = some session)
    (held : before.leases.get? session = some lease)
    (kept : after.leases.get? session = some lease) :
    ∃ id read next, lease.interventionId = some id ∧
      before.pairAt id = some read ∧ after.pairAt id = some next ∧
      ControlState.stage read < ControlState.stage next := by
  obtain ⟨op, value, rfl, writes⟩ :=
    exists_of_changes (changes_of_written written)
  have responds := controlLaw_control.mp happens
  cases op with
  | getLease sessionId => cases writes
  | getPair id => cases writes
  | createLease created =>
      cases written
      obtain ⟨fresh, -, -⟩ := ControlState.createLease_eq_ok.mp
        (ControlState.respond_createLease responds)
      rw [fresh] at held
      cases held
  | swapLease sessionId version owner replacement =>
      cases written
      obtain ⟨current, found, -, -, -, next, -, rfl⟩ :=
        ControlState.swapLease_eq_ok.mp (ControlState.respond_swapLease responds)
      rw [held, Option.some.injEq] at found
      rw [Dict.get?_set_self, Option.some.injEq] at kept
      subst found kept
      omega
  | createPaused intervention observation version owner replacement =>
      cases written
      obtain ⟨call, rfl, opened⟩ := ControlClient.opened_of_promise promised
      obtain ⟨read, _, -, leased, handed⟩ := opened.handed
      have stored : after.leases.get? intervention.sessionId =
          some replacement := (ControlState.pairAt_eq_some.mp opened.stored).2
      rw [held, Option.some.injEq] at leased
      rw [kept, Option.some.injEq] at stored
      subst leased stored
      obtain ⟨now, -, made⟩ := handed.written
      have next := congrArg ControlLease.version made
      simp at next
  | swapPair id status version owner intervention replacement =>
      cases written
      obtain ⟨call, rfl, committed⟩ :=
        @ControlClient.committed_of_promise _ _ _ _ _ _ _ _ _
          (intervention, replacement) _ promised
      obtain ⟨read, -, valid, found, transfers⟩ := committed.transfers
      obtain ⟨current, _, held', -, -, -, -, identity, -⟩ :=
        ControlState.swapPair_eq_ok.mp (ControlState.respond_swapPair responds)
      have same : read.1.sessionId = intervention.sessionId := by
        have stored := (ControlState.pairAt_eq_some.mp found).1
        rw [held', Option.some.injEq] at stored
        rw [← stored, identity.sessionId]
      have leased := (ControlState.pairAt_eq_some.mp found).2
      rw [same, held, Option.some.injEq] at leased
      subst leased
      exact ⟨id, read, _, bound_of_valid keyed found valid transfers.active,
        found, committed.stored, transfers.advances⟩

section Runs

variable {coordinator : InterventionCoordinator} {moves : List ClientMove}
  {config : Config RuntimeSig ControlState ControlClient
    (Except Raised Unit × Unit)}

namespace ClientRun

theorem sound (run : ClientRun coordinator moves config) :
    Interleaves.Sound controlStore
      (ControlClient.promise coordinator.leases.ttl)
      (fun _ _ _ _ => True) moves config := by
  have reached : Interleaves controlStore.law
      (ControlClient.program coordinator) {} moves config := run
  refine Interleaves.sound reached ?_ ControlState.keyed_empty
  intro index client state _
  exact Safe.weaken (ControlClient.kept client) fun _ _ _ _ => trivial

/-- A commit succeeds only where the repositories hold the pair that was
read. -/
theorem computed (run : ClientRun coordinator moves config) {move : ClientMove}
    (member : move ∈ moves) {id : String} {written : ControlPair}
    (commits : Commits move id written) :
    ∃ call, move.call = .control call ∧ Committed coordinator.leases.ttl call id
      move.past move.before written move.after := by
  obtain ⟨-, -, -, -, promised⟩ := run.sound.moves move member
  obtain ⟨status, version, owner, value, event⟩ := commits.event
  rw [event] at promised
  exact ControlClient.committed_of_promise promised

/-- No write to the session lies between a client's read and its commit. -/
theorem fresh (run : ClientRun coordinator moves config)
    {early between gap late : List ClientMove} {read write commit : ClientMove}
    (split : moves = early ++ read :: (between ++ write ::
      (gap ++ commit :: late))) {id other : String} {seen written : ControlPair}
    (reads : read.event = ⟨.control (.getPair id), .ok seen⟩)
    (same : read.thread = commit.thread) (commits : Commits commit other written) :
    writtenSession write.event ≠ some seen.1.sessionId := by
  have chained := run.chained
  rw [split, chained_split, chained_split, chained_split] at chained
  obtain ⟨-, toWrite, toCommit, -⟩ := chained
  have last : commit ∈ moves := by simp [split]
  obtain ⟨call, -, committed⟩ := run.computed last commits
  obtain ⟨current, known, valid, held, transfers⟩ := committed.transfers
  -- the client's only read is the one it commits from
  have cut : moves =
      (early ++ read :: (between ++ write :: gap)) ++ commit :: late := by
    simp [split]
  have past := run.past_eq cut
  have earlier : read ∈ early ++ read :: (between ++ write :: gap) := by simp
  have member := mem_eventsOf earlier same
  rw [← past, reads] at member
  obtain ⟨rfl, rfl⟩ := known.unique member
  obtain ⟨-, happened, -⟩ := run.sound.moves read (by simp [split])
  rw [reads] at happened
  have responds := controlLaw_control.mp happened
  have answered := congrArg Prod.snd responds
  obtain ⟨found, leased, -⟩ := ControlState.getPair_eq_ok.mp answered
  rw [← ControlState.respond_read responds rfl] at found leased
  have first : read.after.pairAt id = some seen :=
    ControlState.pairAt_eq_some.mpr ⟨found, leased⟩
  have leased' := (ControlState.pairAt_eq_some.mp held).2
  -- the write lies in between and leaves both the lease and the pair
  obtain ⟨keyed, happens, -, kept, promised⟩ :=
    run.sound.moves write (by simp [split])
  have across : write.before.Grows write.after :=
    kept _ (Nat.succ_ne_self _)
  have before := grows_over run.sound toWrite fun _ inside => by
    simp [split, inside]
  have after := grows_over run.sound toCommit fun _ inside => by
    simp [split, inside]
  intro writes
  obtain ⟨bound, current, next, binds, pair, pair', advances⟩ :=
    ControlClient.promise_rebinds keyed happens promised writes
      (before.lease_between (across.trans after) leased leased')
      ((before.trans across).lease_between after leased leased')
  have keyed' := (run.sound.moves commit last).1
  rw [bound_of_valid keyed' held valid transfers.active, Option.some.injEq]
    at binds
  subst binds
  rw [before.pair_between (across.trans after) first held, Option.some.injEq]
    at pair
  rw [(before.trans across).pair_between after first held, Option.some.injEq]
    at pair'
  subst pair pair'
  exact Nat.lt_irrefl _ advances

/-- A commit is computed from what the last write to its session left. -/
theorem predecessor (run : ClientRun coordinator moves config)
    {early middle late : List ClientMove} {first second : ClientMove}
    (split : moves = early ++ first :: (middle ++ second :: late))
    {id : String} {written : ControlPair} (commits : Commits second id written)
    (alone : ∀ move ∈ middle,
      writtenSession move.event ≠ some written.1.sessionId) :
    ∃ read, HasSeen id read second.past ∧ first.after.pairAt id = some read := by
  have chained := run.chained
  rw [split, chained_split, chained_split] at chained
  obtain ⟨-, between, -⟩ := chained
  have member : second ∈ moves := by simp [split]
  obtain ⟨call, -, committed⟩ := run.computed member commits
  obtain ⟨read, seen, -, held, -⟩ := committed.transfers
  have session :=
    commits.same_session (run.sound.moves second member).2.1 held
  refine ⟨read, seen, ?_⟩
  have each : ∀ move ∈ middle, move.after.pairAt id = some read →
      move.before.pairAt id = some read := by
    intro move inside found
    obtain ⟨keyed, happens, -⟩ := run.sound.moves move (by simp [split, inside])
    exact (ControlState.unwritten_pair keyed happens
      (session ▸ alone move inside)).mp found
  exact between.inherited (fun store => store.pairAt id = some read) held each

/-- A coordinator call loses no update, however the clients interleave. -/
theorem no_lost_update (run : ClientRun coordinator moves config) :
    -- a commit succeeds only where the stored pair is the one that was read,
    -- and writes what the call computes from it
    (∀ move ∈ moves, ∀ id written, Commits move id written →
      ∃ call read, move.call = .control call ∧ HasSeen id read move.past ∧
        move.before.pairAt id = some read ∧
        call.Transfers coordinator.leases.ttl (readings move.past) read
          written ∧
        move.after.pairAt id = some written) ∧
    -- the writes to one session form a line: what a commit read is what its
    -- predecessor left
    (∀ early first middle second late id written,
      moves = early ++ first :: (middle ++ second :: late) →
      Commits second id written →
      writtenSession first.event = some written.1.sessionId →
      (∀ move ∈ middle,
        writtenSession move.event ≠ some written.1.sessionId) →
      ∃ read, HasSeen id read second.past ∧
        first.after.pairAt id = some read) ∧
    -- a client never commits from a pair it read before another write
    (∀ early read between write gap commit late id seen other written,
      moves = early ++ read :: (between ++ write :: (gap ++ commit :: late)) →
      read.event = ⟨.control (.getPair id), .ok seen⟩ →
      writtenSession write.event = some seen.1.sessionId →
      read.thread = commit.thread → ¬Commits commit other written) := by
  refine ⟨?_, ?_, ?_⟩
  · intro move member id written commits
    obtain ⟨call, called, committed⟩ := run.computed member commits
    obtain ⟨read, seen, -, held, transfers⟩ := committed.transfers
    exact ⟨call, read, called, seen, held, transfers, committed.stored⟩
  · intro early first middle second late id written split commits _ alone
    exact run.predecessor split commits alone
  · intro early read between write gap commit late id seen other written split
      reads writes same commits
    exact run.fresh split reads same commits writes

end ClientRun

end Runs

/-- Two operators read an open intervention before either of them claims it. -/
def Sample.race : List (Turn ControlClient Int) :=
  [.spawn 0 (.control (.createForAutomation counterSession)), .step 0 0,
    .step 0 0, .spawn 1 (.control openCounter), .step 1 1, .step 1 1,
    .step 1 2, .step 1 2, .step 1 2,
    .spawn 2 (.control (.claim counterIntervention 2 "ann")),
    .spawn 3 (.control (.claim counterIntervention 2 "bob")),
    .step 2 3, .step 3 3, .step 2 4, .step 3 4, .step 2 4, .step 3 4]

def Sample.raced : Execution RuntimeSig ControlState ControlClient
    (Except Raised Unit × Unit) :=
  Execution.schedule controlReactor (ControlClient.program coordinator) {} race

namespace Sample

/-- Two items of a list, and what lies around them. -/
theorem split_twice {α : Type} (items : List α) {first second : Nat}
    (before : first < second) (inside : second < items.length) :
    items = items.take first ++ items[first] ::
      ((items.drop (first + 1)).take (second - (first + 1)) ++
        items[second] :: items.drop (second + 1)) := by
  have later : items.drop second = items[second] :: items.drop (second + 1) :=
    List.drop_eq_getElem_cons inside
  have middle := List.take_append_drop (second - (first + 1))
    (items.drop (first + 1))
  rw [List.drop_drop, Nat.add_sub_cancel' before, later] at middle
  rw [middle, ← List.drop_eq_getElem_cons, List.take_append_drop]

/-- The pair that an event has read. -/
def pairRead : RuntimeEvent → Option (String × ControlPair)
  | ⟨.control (.getPair id), .ok pair⟩ => some (id, pair)
  | _ => none

theorem pairRead_eq {event : RuntimeEvent} {id : String} {pair : ControlPair}
    (found : pairRead event = some (id, pair)) :
    event = ⟨.control (.getPair id), .ok pair⟩ := by
  unfold pairRead at found
  split at found
  next =>
    cases found
    rfl
  next => cases found

theorem raced_length : raced.moves.length = 13 := by
  decide +kernel

/-- A step of the race. -/
def racedMove (index : Fin 13) : Move RuntimeSig ControlState ControlClient :=
  raced.moves.get ⟨index, index.isLt.trans_eq raced_length.symm⟩

theorem racedMove_mem (index : Fin 13) : racedMove index ∈ raced.moves :=
  List.get_mem _ _

/-- What lies around two steps of the race. -/
theorem raced_split {first second : Fin 13} (before : first < second) :
    raced.moves = raced.moves.take first ++ racedMove first ::
      ((raced.moves.drop (first + 1)).take (second - (first + 1)) ++
        racedMove second :: raced.moves.drop (second + 1)) :=
  split_twice raced.moves before (second.isLt.trans_eq raced_length.symm)

/-- The pause, the second operator's read, and the two writes. -/
def paused := racedMove 6
def readAgain := racedMove 8
def wonRace := racedMove 11
def lostRace := racedMove 12

/-- The session that the first operator writes. -/
def contended : Option String :=
  (committedPair wonRace.event).map (·.2.1.sessionId)

/-- The course of the race. -/
theorem raced_course :
    (committedPair wonRace.event).isSome = true ∧
    (pairRead readAgain.event).isSome = true ∧
    contended = (pairRead readAgain.event).map (·.2.1.sessionId) ∧
    readAgain.thread = lostRace.thread ∧
    writtenSession paused.event = contended ∧
    writtenSession wonRace.event = contended ∧
    ((raced.moves.drop 7).take 4).all (fun move =>
      writtenSession move.event ≠ contended) = true := by
  decide +kernel

theorem wonRace_commits :
    ∃ id written, Commits wonRace id written ∧
      contended = some written.1.sessionId := by
  obtain ⟨⟨id, written⟩, commits⟩ :=
    Option.isSome_iff_exists.mp raced_course.1
  refine ⟨id, written, commits, ?_⟩
  rw [contended, commits]
  rfl

theorem readAgain_reads :
    ∃ id seen, readAgain.event = ⟨.control (.getPair id), .ok seen⟩ ∧
      contended = some seen.1.sessionId := by
  obtain ⟨⟨id, seen⟩, reads⟩ := Option.isSome_iff_exists.mp raced_course.2.1
  refine ⟨id, seen, pairRead_eq reads, ?_⟩
  rw [raced_course.2.2.1, reads]
  rfl

/-- The two writes end the race. -/
theorem raced_end :
    raced.moves = raced.moves.take 8 ++ readAgain ::
      ((raced.moves.drop 9).take 2 ++ wonRace :: ([] ++ lostRace :: [])) := by
  have last : raced.moves.drop 12 = [lostRace] := by
    rw [List.drop_eq_getElem_cons (by rw [raced_length]; decide),
      List.drop_eq_nil_of_le (by rw [raced_length])]
    rfl
  have split : raced.moves = _ := raced_split (show (8 : Fin 13) < 11 by decide)
  rw [show ((11 : Fin 13) : Nat) + 1 = 12 from rfl, last] at split
  exact split

end Sample

open Sample in
/-- Both operators have read the pair that the pause has written, and only the
first one to write it back commits. -/
theorem race_computed :
    (∃ id written read, Commits wonRace id written ∧
      HasSeen id read wonRace.past ∧ wonRace.before.pairAt id = some read ∧
      wonRace.after.pairAt id = some written) ∧
    (∃ id written read, Commits wonRace id written ∧
      HasSeen id read wonRace.past ∧ paused.after.pairAt id = some read) ∧
    readAgain.thread = lostRace.thread ∧
    ∀ id written, ¬ Commits lostRace id written := by
  obtain ⟨computed, line, fresh⟩ :=
    ClientRun.no_lost_update (Execution.interleaves race)
  obtain ⟨id, written, commits, session⟩ := wonRace_commits
  obtain ⟨-, -, -, same, first, second, apart⟩ := raced_course
  refine ⟨?_, ?_, same, ?_⟩
  · obtain ⟨_, read, -, seen, held, -, after⟩ :=
      computed _ (racedMove_mem 11) id written commits
    exact ⟨id, written, read, commits, seen, held, after⟩
  · have between : ∀ move ∈ (raced.moves.drop 7).take 4,
        writtenSession move.event ≠ some written.1.sessionId := by
      intro move member
      rw [← session]
      simpa using List.all_eq_true.mp apart move member
    obtain ⟨read, seen, after⟩ := line _ paused _ wonRace _ id written
      (raced_split (by decide)) commits (first.trans session) between
    exact ⟨id, written, read, commits, seen, after⟩
  · intro other written' commits'
    obtain ⟨seenId, seen, reads, session'⟩ := readAgain_reads
    exact fresh _ readAgain _ wonRace _ lostRace _ seenId seen other written'
      raced_end reads (second.trans session') same commits'

end ReplayForge

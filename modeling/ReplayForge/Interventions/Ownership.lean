import Mathlib.Data.List.Induction
import ReplayForge.Interventions.Updates

/-!
# No lease theft

A claimed intervention leaves its operator by the operator's own call or by a
claim that read a clock at or after the expiry the operator last set.
-/

namespace ReplayForge

open Effect

/-- The intervention is claimed by this operator. -/
def ControlState.ClaimedBy (state : ControlState) (id operatorId : String) :
    Prop :=
  ∃ intervention, state.interventions.get? id = some intervention ∧
    intervention.status = .claimed ∧
    intervention.operatorId = some operatorId

theorem ControlState.claimedBy_iff {state : ControlState}
    {id operatorId : String} : state.ClaimedBy id operatorId ↔
      (state.interventions.get? id).map
        (fun intervention => (intervention.status, intervention.operatorId)) =
          some (.claimed, some operatorId) := by
  unfold ClaimedBy
  rw [Option.map_eq_some_iff]
  simp only [Prod.mk.injEq]

instance (state : ControlState) (id operatorId : String) :
    Decidable (state.ClaimedBy id operatorId) :=
  decidable_of_iff _ ControlState.claimedBy_iff.symm

namespace ControlCall

/-- The lease version a call presents. -/
def presented : ControlCall → Option Nat
  | .createForAutomation _ | .reopen _ _ => none
  | .automationHeartbeat _ version | .openIntervention _ _ _ version _ _ _ _ _
  | .claim _ version _ | .release _ version _ | .heartbeat _ version _
  | .beginResume _ version _ | .completeResume _ version _
  | .terminate _ version _ _ => some version

/-- An operation called with the identity of the operator. -/
def Relinquishes (call : ControlCall) (id operatorId : String) : Prop :=
  (∃ version, call = .release id version operatorId) ∨
    (∃ version, call = .beginResume id version operatorId) ∨
    ∃ version resolution,
      call = .terminate id version (some operatorId) resolution

/-- An operation that leaves the intervention claimed by the operator. -/
def Holds (call : ControlCall) (id operatorId : String) : Prop :=
  (∃ version, call = .claim id version operatorId) ∨
    ∃ version, call = .heartbeat id version operatorId

variable {ttl : Int} {clock : List Int} {call : ControlCall}
  {read written : ControlPair} {id operatorId : String}

/-- A transfer presents the version of the lease it read. -/
theorem Transfers.presented {version : Nat}
    (transfers : call.Transfers ttl clock read written)
    (presents : call.presented = some version) : read.2.version = version := by
  obtain ⟨current, lease⟩ := read
  obtain ⟨replacement, next⟩ := written
  cases call with
  | createForAutomation sessionId => exact transfers.elim
  | automationHeartbeat sessionId version => exact transfers.elim
  | openIntervention => exact transfers.elim
  | claim id version operatorId =>
      cases presents
      obtain ⟨-, ⟨-, handed⟩ | ⟨-, -, -, handed⟩⟩ := transfers
      · exact handed.version
      · exact handed.version
  | release id version operatorId =>
      cases presents
      exact transfers.2.2.2.version
  | beginResume id version operatorId =>
      cases presents
      exact transfers.2.2.2.version
  | heartbeat id version operatorId =>
      cases presents
      exact transfers.2.2.2.version
  | reopen id explanation => cases presents
  | completeResume id version resolution =>
      cases presents
      exact transfers.2.2.version
  | terminate id version operatorId resolution =>
      cases presents
      obtain ⟨owner, -, -, -, handed⟩ := transfers
      exact handed.version

/-- What a transfer does with an intervention that an operator has claimed. -/
theorem Transfers.of_claimed
    (transfers : call.Transfers ttl clock read written)
    (target : call.target = some id) (claimed : read.1.status = .claimed)
    (owned : read.1.operatorId = some operatorId) :
    (written.1.status = .claimed ∧ written.1.operatorId = some operatorId) ∨
      call.Relinquishes id operatorId ∨
      ∃ version other, other ≠ operatorId ∧ call = .claim id version other ∧
        Expired clock read.2 := by
  obtain ⟨current, lease⟩ := read
  obtain ⟨replacement, next⟩ := written
  cases call with
  | createForAutomation sessionId => exact transfers.elim
  | automationHeartbeat sessionId version => exact transfers.elim
  | openIntervention => exact transfers.elim
  | claim id version other =>
      cases target
      obtain ⟨-, ⟨opened, -⟩ | ⟨reassigned, -, expired, -⟩⟩ := transfers
      · have status := (Intervention.claim_eq_ok opened).1
        rw [claimed] at status
        cases status
      · obtain ⟨-, rfl⟩ := Intervention.reassign_eq_ok reassigned
        by_cases same : other = operatorId
        · exact .inl ⟨claimed, congrArg some same⟩
        · exact .inr (.inr ⟨version, other, same, rfl, expired⟩)
  | release id version other =>
      cases target
      have same := owned.symm.trans transfers.1
      cases same
      exact .inr (.inl (.inl ⟨version, rfl⟩))
  | beginResume id version other =>
      cases target
      have same := owned.symm.trans transfers.1
      cases same
      exact .inr (.inl (.inr (.inl ⟨version, rfl⟩)))
  | heartbeat id version other =>
      obtain ⟨-, -, rfl, -⟩ := transfers
      exact .inl ⟨claimed, owned⟩
  | reopen id explanation =>
      have status := (Intervention.reopen_eq_ok transfers.1).1
      rw [claimed] at status
      cases status
  | completeResume id version resolution =>
      have status := (Intervention.resolve_eq_ok transfers.1).1
      rw [claimed] at status
      cases status
  | terminate id version other resolution =>
      cases target
      obtain ⟨owner, owns, -⟩ := transfers
      unfold InterventionCoordinator.terminableOwner at owns
      dsimp only at owned claimed
      rw [claimed, owned] at owns
      cases other with
      | none => cases owns
      | some other =>
          dsimp only at owns
          split at owns
          next same =>
            subst same
            exact .inr (.inl (.inr (.inr ⟨version, resolution, rfl⟩)))
          next => cases owns

/-- The transfers that leave an intervention claimed by an operator. -/
theorem Transfers.to_claimed
    (transfers : call.Transfers ttl clock read written)
    (target : call.target = some id) (claimed : written.1.status = .claimed)
    (owned : written.1.operatorId = some operatorId) :
    call.Holds id operatorId := by
  obtain ⟨current, lease⟩ := read
  obtain ⟨replacement, next⟩ := written
  cases call with
  | createForAutomation sessionId => exact transfers.elim
  | automationHeartbeat sessionId version => exact transfers.elim
  | openIntervention => exact transfers.elim
  | claim id version other =>
      cases target
      obtain ⟨-, ⟨opened, -⟩ | ⟨reassigned, -⟩⟩ := transfers
      · obtain ⟨-, rfl⟩ := Intervention.claim_eq_ok opened
        cases owned
        exact .inl ⟨version, rfl⟩
      · obtain ⟨-, rfl⟩ := Intervention.reassign_eq_ok reassigned
        cases owned
        exact .inl ⟨version, rfl⟩
  | release id version other =>
      obtain ⟨-, rfl⟩ := Intervention.release_eq_ok transfers.2.1
      cases claimed
  | beginResume id version other =>
      obtain ⟨-, rfl⟩ := Intervention.beginResume_eq_ok transfers.2.1
      cases claimed
  | heartbeat id version other =>
      cases target
      obtain ⟨-, owns, rfl, -⟩ := transfers
      cases owned.symm.trans owns
      exact .inr ⟨version, rfl⟩
  | reopen id explanation =>
      obtain ⟨-, rfl⟩ := Intervention.reopen_eq_ok transfers.1
      cases claimed
  | completeResume id version resolution =>
      obtain ⟨-, rfl⟩ := Intervention.resolve_eq_ok transfers.1
      cases claimed
  | terminate id version other resolution =>
      obtain ⟨owner, -, terminated, -⟩ := transfers
      obtain ⟨-, rfl⟩ := Intervention.terminate_eq_ok terminated
      cases claimed

end ControlCall

namespace ControlState

variable {before after : ControlState} {event : RuntimeEvent} {id : String}

/-- Only a commit of its own changes a stored intervention. -/
theorem intervention_kept {intervention : Intervention}
    (happens : controlLaw before event after)
    (found : before.interventions.get? id = some intervention)
    (other : ∀ written, committedPair event ≠ some (id, written)) :
    after.interventions.get? id = some intervention := by
  cases silent : changes event with
  | false => rw [controlLaw_unchanged happens silent, found]
  | true =>
      obtain ⟨op, value, rfl, writes⟩ := exists_of_changes silent
      have responds := controlLaw_control.mp happens
      cases op with
      | getLease sessionId => cases writes
      | getPair key => cases writes
      | createLease lease =>
          obtain ⟨-, -, rfl⟩ :=
            createLease_eq_ok.mp (respond_createLease responds)
          exact found
      | swapLease sessionId version owner lease =>
          obtain ⟨_, -, -, -, -, -, -, rfl⟩ :=
            swapLease_eq_ok.mp (respond_swapLease responds)
          exact found
      | createPaused opened observation version owner lease =>
          obtain ⟨fresh, _, -, -, -, -, -, -, -, rfl⟩ :=
            createPaused_eq_ok.mp (respond_createPaused responds)
          have apart : id ≠ opened.id := by
            rintro rfl
            rw [fresh] at found
            cases found
          rw [Dict.get?_set_ne _ _ apart, found]
      | swapPair key status version owner replacement lease =>
          obtain ⟨_, _, -, -, -, -, -, -, -, -, -, rfl⟩ :=
            swapPair_eq_ok.mp (respond_swapPair responds)
          have apart : id ≠ key := by
            rintro rfl
            exact other (replacement, lease) rfl
          rw [Dict.get?_set_ne _ _ apart, found]

/-- A claimed pair that a step did not commit was there before it. -/
theorem claimed_kept {ttl : Int} {call : ControlCall}
    {past : List RuntimeEvent} {held : ControlPair} (keyed : Keyed before)
    (keyed' : Keyed after) (paired : Paired after)
    (happens : controlLaw before event after)
    (promised : call.promise ttl past before event after)
    (found : after.pairAt id = some held) (claimed : held.1.status = .claimed)
    (other : ∀ written, committedPair event ≠ some (id, written)) :
    before.pairAt id = some held := by
  obtain ⟨stored, leased⟩ := pairAt_eq_some.mp found
  have active : held.1.status.isActive = true := by
    rw [claimed]
    rfl
  have named := paired.names keyed' stored active leased
  refine (unwritten_pair keyed happens fun written => ?_).mp found
  obtain ⟨op, value, rfl, writes⟩ :=
    exists_of_changes (changes_of_written written)
  have responds := controlLaw_control.mp happens
  cases op with
  | getLease sessionId => cases writes
  | getPair key => cases writes
  | createLease lease =>
      have session : lease.sessionId = held.1.sessionId :=
        Option.some.inj written
      obtain ⟨fresh, -, rfl⟩ :=
        createLease_eq_ok.mp (respond_createLease responds)
      obtain ⟨current, there⟩ := keyed.leased id held.1 stored
      rw [← session, fresh] at there
      cases there
  | swapLease sessionId version owner lease =>
      cases written
      obtain ⟨_, -, -, -, -, -, -, rfl⟩ :=
        swapLease_eq_ok.mp (respond_swapLease responds)
      rw [Dict.get?_set_self, Option.some.injEq] at leased
      rw [← leased, promised.2.1] at named
      cases named.2
  | createPaused opened observation version owner lease =>
      obtain ⟨there, -⟩ := pairAt_eq_some.mp promised.stored
      have same := paired.unique keyed' stored active there
        (by rw [promised.status]; rfl) (Option.some.inj written).symm
      rw [same, there, Option.some.injEq] at stored
      rw [← stored, promised.status] at claimed
      cases claimed
  | swapPair key status version owner replacement lease =>
      have apart : id ≠ key := by
        rintro rfl
        exact other (replacement, lease) rfl
      have session : replacement.sessionId = held.1.sessionId :=
        Option.some.inj written
      obtain ⟨there, leased'⟩ := pairAt_eq_some.mp promised.stored
      dsimp only at there leased'
      rw [session, leased, Option.some.injEq] at leased'
      obtain ⟨_, _, -, -, -, -, -, -, -, valid, -⟩ :=
        swapPair_eq_ok.mp (respond_swapPair responds)
      cases moves : replacement.status.isActive with
      | true =>
          exact apart (paired.unique keyed' stored active there moves
            session.symm)
      | false =>
          have freed := validateTransition_inactive valid moves
          rw [← leased', named.2] at freed
          cases freed

end ControlState

section Runs

variable {coordinator : InterventionCoordinator} {moves : List ControlMove}
  {config : ControlConfig}

/-- The operator's last successful claim or heartbeat wrote this lease. -/
def LastHeld (moves : List ControlMove) (id operatorId : String)
    (lease : ControlLease) : Prop :=
  ∃ early hold late written, moves = early ++ hold :: late ∧
    hold.call.Holds id operatorId ∧ Commits hold id written ∧
    written.2 = lease ∧
    ∀ move ∈ late, ∀ other, ¬Commits move id other

namespace ControlRun

theorem computed (run : ControlRun coordinator moves config)
    {move : ControlMove} (member : move ∈ moves) {id : String}
    {written : ControlPair} (commits : Commits move id written) :
    Committed coordinator.leases.ttl move.call id move.past move.before written
      move.after := by
  obtain ⟨-, -, -, -, promised⟩ := run.sound.moves move member
  obtain ⟨status, version, owner, value, event⟩ := commits.event
  rw [event] at promised
  exact promised

/-- The lease of a claimed intervention is the one its operator wrote last. -/
theorem lastHeld (run : ControlRun coordinator moves config)
    {part : List ControlMove} {store : ControlState}
    (chained : Chained {} part store) (inside : part ⊆ moves) {id : String}
    {operatorId : String} {held : ControlPair}
    (found : store.pairAt id = some held) (claimed : held.1.status = .claimed)
    (owned : held.1.operatorId = some operatorId) :
    LastHeld part id operatorId held.2 := by
  induction part using List.reverseRecOn generalizing store with
  | nil =>
      cases chained
      cases found
  | append_singleton rest move ih =>
      obtain ⟨earlier, rfl⟩ := chained_concat.mp chained
      have member : move ∈ moves := inside (by simp)
      by_cases commits : ∃ written, Commits move id written
      · obtain ⟨written, commits⟩ := commits
        have committed := run.computed member commits
        obtain ⟨read, -, -, -, transfers⟩ := committed.transfers
        have same := committed.stored
        rw [found, Option.some.injEq] at same
        subst same
        exact ⟨rest, move, [], held, rfl, transfers.to_claimed committed.target
          claimed owned, commits, rfl, by simp⟩
      · have others := not_exists.mp commits
        obtain ⟨keyed, happens, keyed', -, promised⟩ :=
          run.sound.moves move member
        have before := ControlState.claimed_kept keyed keyed'
          (run.paired.2 move member).2 happens promised found claimed others
        obtain ⟨early, hold, late, written, rfl, holds, commits', same, last⟩ :=
          ih earlier (fun _ there => inside (by simp [there])) before
        refine ⟨early, hold, late ++ [move], written, by simp, holds, commits',
          same, ?_⟩
        intro later there other
        rcases List.mem_append.mp there with early' | here
        · exact last later early' other
        · cases List.mem_singleton.mp here
          exact others other

/-- A transition that returned has committed. -/
theorem committed (run : ControlRun coordinator moves config) {index : Nat}
    {thread : Thread RuntimeSig ControlCall (Except Raised Unit × Unit)}
    (found : config.threads index = some thread)
    (transition : thread.call.isTransition = true)
    (returned : thread.rest = .pure (.ok (), ())) :
    ∃ move ∈ moves, move.thread = index ∧
      ∃ id written, Commits move id written := by
  obtain ⟨state, -, safe⟩ := run.sound.threads index thread found
  rw [returned] at safe
  cases safe with
  | pure ended =>
      obtain ⟨event, seen, id, written, committed⟩ :=
        ended.returned rfl transition
      have events := run.eventsOf_eq index
      rw [found, Option.map_some, Option.getD_some] at events
      rw [← events] at seen
      obtain ⟨move, member, rfl⟩ := List.mem_map.mp seen
      obtain ⟨inside, same⟩ := List.mem_filter.mp member
      exact ⟨move, inside, of_decide_eq_true same, id, written, committed⟩

/-- How an operator loses a claimed intervention. -/
theorem lost (run : ControlRun coordinator moves config)
    {earlier later : List ControlMove} {move : ControlMove}
    (split : moves = earlier ++ move :: later) {id operatorId : String}
    (held : move.before.ClaimedBy id operatorId)
    (gone : ¬move.after.ClaimedBy id operatorId) :
    move.call.Relinquishes id operatorId ∨
      ∃ version other lease, other ≠ operatorId ∧
        move.call = .claim id version other ∧
        Expired (readings move.past) lease ∧
        LastHeld earlier id operatorId lease := by
  obtain ⟨intervention, found, claimed, owned⟩ := held
  have member : move ∈ moves := by simp [split]
  have happens := (run.sound.moves move member).2.1
  by_cases commits : ∃ written, Commits move id written
  · obtain ⟨written, commits⟩ := commits
    have committed := run.computed member commits
    obtain ⟨read, -, -, pair, transfers⟩ := committed.transfers
    have stored := (ControlState.pairAt_eq_some.mp pair).1
    rw [found, Option.some.injEq] at stored
    subst stored
    rcases transfers.of_claimed committed.target claimed owned with
      kept | own | ⟨version, other, different, called, expired⟩
    · exact absurd ⟨written.1,
        (ControlState.pairAt_eq_some.mp committed.stored).1, kept⟩ gone
    · exact .inl own
    · have chained := run.chained
      rw [split, chained_split] at chained
      have last := run.lastHeld chained.1 (fun _ there => by simp [split, there])
        pair claimed owned
      exact .inr ⟨version, other, read.2, different, called, expired, last⟩
  · have kept := ControlState.intervention_kept happens found
      (not_exists.mp commits)
    exact absurd ⟨intervention, kept, claimed, owned⟩ gone

/-- A commit presents no version older than one the session has reached. -/
theorem current (run : ControlRun coordinator moves config)
    {earlier middle later : List ControlMove} {change commit : ControlMove}
    (split : moves = earlier ++ change :: (middle ++ commit :: later))
    {id : String} {written : ControlPair} {lease : ControlLease} {version : Nat}
    (reached : change.after.leases.get? written.1.sessionId = some lease)
    (commits : Commits commit id written)
    (presents : commit.call.presented = some version) :
    lease.version ≤ version := by
  have chained := run.chained
  rw [split, chained_split, chained_split] at chained
  obtain ⟨-, between, -⟩ := chained
  have member : commit ∈ moves := by simp [split]
  have committed := run.computed member commits
  obtain ⟨read, -, -, pair, transfers⟩ := committed.transfers
  have session :=
    commits.same_session (run.sound.moves commit member).2.1 pair
  have leased := (ControlState.pairAt_eq_some.mp pair).2
  have grown := grows_over run.sound between fun _ there => by
    simp [split, there]
  obtain ⟨current, held, newer⟩ := grown.leases _ lease reached
  rw [session, held, Option.some.injEq] at leased
  have same := transfers.presented presents
  rw [← same, ← leased]
  rcases newer with rfl | newer
  · exact Nat.le_refl _
  · exact Nat.le_of_lt newer

/-- A claimed intervention is not taken from its operator, and no transition
succeeds with a version from before a change. -/
theorem no_theft (run : ControlRun coordinator moves config) :
    -- an operator loses a claim by an own call, or to another operator whose
    -- clock reading finds expired what the last claim or heartbeat wrote
    (∀ earlier move later id operatorId,
      moves = earlier ++ move :: later →
      move.before.ClaimedBy id operatorId →
      ¬move.after.ClaimedBy id operatorId →
      move.call.Relinquishes id operatorId ∨
        ∃ version other lease, other ≠ operatorId ∧
          move.call = .claim id version other ∧
          Expired (readings move.past) lease ∧
          LastHeld earlier id operatorId lease) ∧
    -- whatever version the lease of a session has reached, no later commit on
    -- the session presents an earlier one
    (∀ earlier change middle commit later id written lease version,
      moves = earlier ++ change :: (middle ++ commit :: later) →
      change.after.leases.get? written.1.sessionId = some lease →
      Commits commit id written → commit.call.presented = some version →
      lease.version ≤ version) ∧
    -- and a transition that returns has committed
    (∀ index thread, config.threads index = some thread →
      thread.call.isTransition = true → thread.rest = .pure (.ok (), ()) →
      ∃ move ∈ moves, move.thread = index ∧
        ∃ id written, Commits move id written) := by
  refine ⟨?_, ?_, ?_⟩
  · intro earlier move later id operatorId split held gone
    exact run.lost split held gone
  · intro earlier change middle commit later id written lease version split
      reached commits presents
    exact run.current split reached commits presents
  · intro index thread found transition returned
    exact run.committed found transition returned

end ControlRun

end Runs

/-- An operator claims, and another one takes over forty seconds later. -/
def Sample.takeover : List (Turn ControlCall Int) :=
  handover ++ .spawn 3 (.claim counterIntervention 3 "bob") ::
    steps 3 [40, 40, 40, 40]

theorem Sample.takeover_moves : (scheduled takeover).moves ≠ [] := by
  decide +kernel

/-- The last step takes the claim from the first operator. -/
theorem Sample.takeover_course :
    let last := (scheduled takeover).moves.getLast takeover_moves
    last.call = .claim counterIntervention 3 "bob" ∧
      last.before.ClaimedBy counterIntervention "ann" ∧
      ¬ last.after.ClaimedBy counterIntervention "ann" := by
  decide +kernel

theorem takeover_expired : ∃ move ∈ (Sample.scheduled Sample.takeover).moves,
    ∃ earlier lease, move.call = .claim Sample.counterIntervention 3 "bob" ∧
      Expired (readings move.past) lease ∧
      LastHeld earlier Sample.counterIntervention "ann" lease := by
  have split := (List.dropLast_append_getLast Sample.takeover_moves).symm
  obtain ⟨called, claimed, lost⟩ := Sample.takeover_course
  rcases (ControlRun.no_theft (Execution.interleaves Sample.takeover)).1
    _ _ _ Sample.counterIntervention "ann" split claimed lost with
    own | ⟨_, _, lease, -, -, expired, last⟩
  · rw [ControlCall.Relinquishes] at own
    rw [called] at own
    simp at own
  · exact ⟨_, List.getLast_mem Sample.takeover_moves, _, lease, called,
      expired, last⟩

end ReplayForge

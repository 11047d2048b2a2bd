import ReplayForge.Interventions.Clients

/-!
# The control calls, one by one

Each call prepares what `Transfers` says and commits it, so every call keeps
its promise whatever the others do.
-/

namespace ReplayForge

open Effect

theorem ControlOwner.ofOperator_eq_ok {operatorId : String}
    {owner : ControlOwner} (made : ofOperator operatorId = .ok owner) :
    owner = .human operatorId := by
  unfold ofOperator at made
  rw [check_bind_eq_ok] at made
  cases made.2
  rfl

section Preparing

variable {promise : Promise RuntimeSig ControlState}
  (quiet : ∀ past before event after, changes event = false →
    promise past before event after)
  {coordinator : InterventionCoordinator} {clock : List Int} {id : String}
  {version : Nat} {operatorId : String} {current : Intervention}
  {lease : ControlLease}

include quiet

theorem prepares_claim :
    Prepares promise clock
      (coordinator.prepareClaim version operatorId current lease)
      fun written clock' =>
        (ControlCall.claim id version operatorId).Transfers
          coordinator.leases.ttl clock' (current, lease) written := by
  unfold InterventionCoordinator.prepareClaim
  refine prepares_bind prepares_check fun replacement _ _ claimed => ?_
  refine prepares_bind prepares_raiseIf fun _ _ _ bound => ?_
  refine prepares_bind prepares_check fun owner _ _ made => ?_
  refine prepares_bind (prepares_prepareTransfer quiet)
    fun next _ _ handed => ?_
  rw [ControlOwner.ofOperator_eq_ok made] at handed
  exact prepares_pure fun _ more =>
    ⟨Decidable.not_not.mp bound, .inl ⟨claimed, handed.1.mono more⟩⟩

theorem prepares_reclaim :
    Prepares promise clock
      (coordinator.prepareReclaim version operatorId current lease)
      fun written clock' =>
        (ControlCall.claim id version operatorId).Transfers
          coordinator.leases.ttl clock' (current, lease) written := by
  unfold InterventionCoordinator.prepareReclaim
  refine prepares_bind prepares_check fun replacement _ _ reassigned => ?_
  refine prepares_bind prepares_raiseIf fun _ _ _ bound => ?_
  rw [not_or, not_not, Bool.not_eq_false] at bound
  refine prepares_bind (prepares_now quiet) fun now clock₁ _ seen => ?_
  refine prepares_bind prepares_raiseIf fun _ clock₂ more₁ expired => ?_
  refine prepares_bind prepares_check fun owner clock₃ more₂ made => ?_
  refine prepares_bind (prepares_prepareTransfer quiet)
    fun next clock₄ more₃ handed => ?_
  rw [ControlOwner.ofOperator_eq_ok made] at handed
  refine prepares_pure fun _ more =>
    ⟨bound.1, .inr ⟨reassigned, bound.2, ⟨now, ?_, ?_⟩, handed.1.mono more⟩⟩
  · exact more (more₃ (more₂ (more₁ seen)))
  · exact Int.not_lt.mp expired

/-- A release and a resume hand the lease back in the same way. -/
theorem prepares_handBack {step : Intervention → Except Raised Intervention} :
    Prepares promise clock
      (coordinator.prepareHandBack step version operatorId current lease)
      fun written clock' => current.operatorId = some operatorId ∧
        step current = .ok written.1 ∧ Unexpired clock' lease ∧
        HandsOver coordinator.leases.ttl clock' lease written.2 version
          (.human operatorId) .automationPaused (some current.id) := by
  unfold InterventionCoordinator.prepareHandBack
  refine prepares_bind prepares_raiseIf fun _ _ _ owned => ?_
  refine prepares_bind prepares_check fun replacement _ _ stepped => ?_
  refine prepares_bind prepares_check fun owner _ _ made => ?_
  refine prepares_bind (prepares_prepareTransfer quiet)
    fun next _ _ handed => ?_
  rw [ControlOwner.ofOperator_eq_ok made] at handed
  obtain ⟨handed, alive⟩ := handed
  refine prepares_pure fun _ more =>
    ⟨Decidable.not_not.mp owned, stepped, ?_, handed.mono more⟩
  obtain ⟨now, seen, before⟩ := alive rfl
  exact ⟨now, more seen, before⟩

end Preparing

section Leases

variable {promise : Promise RuntimeSig ControlState}
  (quiet : ∀ past before event after, changes event = false →
    promise past before event after)
  {index : Nat} {past : List RuntimeEvent} {state : ControlState}

/-- The lease of a session at some earlier point. -/
structure HasLease (sessionId : String) (lease : ControlLease)
    (past : List RuntimeEvent) (state : ControlState) : Prop where
  read : lastLease past = some lease
  held : ∃ earlier : ControlState, earlier.leases.get? sessionId = some lease ∧
    earlier.Grows state

theorem HasLease.later {sessionId : String} {lease : ControlLease}
    {past past' : List RuntimeEvent} {state state' : ControlState}
    (known : HasLease sessionId lease past state)
    (reads : Reads past past' state state') :
    HasLease sessionId lease past' state' := by
  obtain ⟨read, earlier, held, grown⟩ := known
  exact ⟨by rw [reads.lastLease, read], earlier, held, grown.trans reads.grows⟩

include quiet

theorem keeps_getLease {sessionId : String} :
    Keeps controlStore index promise
      (Runtime.control (.getLease sessionId) : Runtime Unit ControlLease) ()
      past state
      (fun lease _ past' state' => HasLease sessionId lease past' state' ∧
        Unwritten past past')
      (fun _ _ past' _ => Unwritten past past') := by
  unfold Runtime.control
  apply keeps_invoke
  intro before answer after keyed grown happens
  have responds := controlLaw_control.mp happens
  have unchanged := ControlState.respond_read responds rfl
  have answered : answer = before.findLease sessionId :=
    (congrArg Prod.snd responds).symm
  have silent : changes ⟨.control (.getLease sessionId), answer⟩ = false := rfl
  subst unchanged
  refine ⟨⟨keyed, fun _ _ => .refl after, quiet _ _ _ _ silent⟩, ?_,
    fun _ _ => .snoc silent⟩
  intro lease read
  cases answer with
  | error error => cases read
  | ok stored =>
      cases read
      have held := ControlState.findLease_eq_ok.mp answered.symm
      refine ⟨⟨?_, after, held, .refl after⟩, .snoc silent⟩
      unfold lastLease
      rw [List.foldl_append]
      rfl

theorem keeps_createLease {lease : ControlLease}
    (creates : ∀ past before value after, promise past before
      ⟨.control (.createLease lease), .ok value⟩ after) :
    Keeps controlStore index promise
      (Runtime.control (.createLease lease) : Runtime Unit ControlLease) ()
      past state (fun _ _ _ _ => True)
      (fun _ _ past' _ => Unwritten past past') := by
  unfold Runtime.control
  apply keeps_invoke
  intro before answer after keyed grown happens
  have responds := controlLaw_control.mp happens
  cases answer with
  | error error =>
      have unchanged := ControlState.respond_failed responds
      subst unchanged
      exact ⟨⟨keyed, fun _ _ => .refl after, quiet _ _ _ _ rfl⟩, fun _ _ => trivial,
        fun _ _ => .snoc rfl⟩
  | ok value =>
      obtain ⟨keyed', grows⟩ := ControlState.createLease_keeps keyed
        (ControlState.respond_createLease responds)
      refine ⟨⟨keyed', fun _ _ => grows, creates _ _ _ _⟩, fun _ _ => trivial, ?_⟩
      intro _ failed
      cases failed

theorem keeps_swapLease {sessionId : String} {version : Nat}
    {owner : ControlOwner} {replacement : ControlLease}
    (swaps : ∀ past before value after, promise past before
      ⟨.control (.swapLease sessionId version owner replacement),
        .ok value⟩ after) :
    Keeps controlStore index promise
      (Runtime.control (.swapLease sessionId version owner replacement) :
        Runtime Unit ControlLease) () past state (fun _ _ _ _ => True)
      (fun _ _ past' _ => Unwritten past past') := by
  unfold Runtime.control
  apply keeps_invoke
  intro before answer after keyed grown happens
  have responds := controlLaw_control.mp happens
  cases answer with
  | error error =>
      have unchanged := ControlState.respond_failed responds
      subst unchanged
      exact ⟨⟨keyed, fun _ _ => .refl after, quiet _ _ _ _ rfl⟩, fun _ _ => trivial,
        fun _ _ => .snoc rfl⟩
  | ok value =>
      obtain ⟨_, writes⟩ := ControlState.swapLease_writes keyed
        (ControlState.respond_swapLease responds)
      refine ⟨⟨writes.keepsKeys keyed, fun _ _ => writes.grows, swaps _ _ _ _⟩,
        fun _ _ => trivial, ?_⟩
      intro _ failed
      cases failed

/-- The lease that a creation compares is the one that was read. -/
theorem keeps_createPaused {ttl : Int} {call : ControlCall}
    {intervention : Intervention} {observation : NormalizedObservation}
    {version : Nat} {lease next : ControlLease}
    (opens : ∀ {past before after value},
      Opened ttl call past before intervention next after →
      promise past before
        ⟨.control (.createPaused intervention observation version .automation
          next), .ok value⟩ after)
    (target : call.target = some intervention.id)
    (status : intervention.status = .open)
    (known : HasLease intervention.sessionId lease past state)
    (handed : HandsOver ttl (readings past) lease next version .automation
      .automationPaused (some intervention.id)) :
    Keeps controlStore index promise
      (Runtime.control (.createPaused intervention observation version
        .automation next) : Runtime Unit ControlPair) () past state
      (fun _ _ _ _ => True) (fun _ _ past' _ => Unwritten past past') := by
  unfold Runtime.control
  apply keeps_invoke
  intro before answer after keyed grown happens
  have responds := controlLaw_control.mp happens
  cases answer with
  | error error =>
      have unchanged := ControlState.respond_failed responds
      subst unchanged
      exact ⟨⟨keyed, fun _ _ => .refl after, quiet _ _ _ _ rfl⟩, fun _ _ => trivial,
        fun _ _ => .snoc rfl⟩
  | ok value =>
      have created := ControlState.respond_createPaused responds
      obtain ⟨_, writes⟩ := ControlState.createPaused_writes keyed created
      obtain ⟨-, current, found, same, -, -, -, -, -, stored⟩ :=
        ControlState.createPaused_eq_ok.mp created
      obtain ⟨read, earlier, held, older⟩ := known
      have token : current = lease := (older.trans grown).lease_eq held found
        (same.trans handed.version.symm)
      subst token
      have kept : after.pairAt intervention.id = some (intervention, next) := by
        rw [stored]
        exact ControlState.pairAt_eq_some.mpr
          ⟨Dict.get?_set_self _ _ _, Dict.get?_set_self _ _ _⟩
      refine ⟨⟨writes.keepsKeys keyed, fun _ _ => writes.grows, opens ⟨target, status,
        kept, current, version, read, found, handed⟩⟩, fun _ _ => trivial, ?_⟩
      intro _ failed
      cases failed

end Leases

namespace ControlCall

variable {coordinator : InterventionCoordinator} {index : Nat}
  {state : ControlState}

/-- The judgement of a call: it keeps its promise, a transition that returns
has committed, and a call that raises has written nothing. -/
def Kept (coordinator : InterventionCoordinator) (index : Nat)
    (call : ControlCall) (state : ControlState) : Prop :=
  Keeps controlStore index (call.promise coordinator.leases.ttl)
    (call.procedure coordinator) () [] state
    (fun _ _ past _ => call.isTransition = true →
      ∃ event ∈ past, ∃ id written, committedPair event = some (id, written))
    (fun _ _ past _ => Unwritten [] past)

/-- The calls that are no transition only end without one. -/
theorem kept_other {call : ControlCall} (other : call.isTransition = false)
    (keeps : Keeps controlStore index (call.promise coordinator.leases.ttl)
      (call.procedure coordinator) () [] state (fun _ _ _ _ => True)
      (fun _ _ past _ => Unwritten [] past)) : Kept coordinator index call state := by
  refine keeps.weaken (fun _ _ _ _ _ transition => ?_) fun _ _ _ _ here => here
  rw [other] at transition
  cases transition

/-- A coordinator call is read, prepared and committed. -/
theorem kept_transition {call : ControlCall} {id : String}
    {prepare : Intervention → ControlLease → Runtime Unit ControlPair}
    (same : call.procedure coordinator = do
      let _ ← InterventionCoordinator.transition id prepare)
    (target : call.target = some id)
    (prepares : ∀ current lease, Prepares
      (call.promise coordinator.leases.ttl) [] (prepare current lease)
      fun written clock => call.Transfers coordinator.leases.ttl clock
        (current, lease) written) : Kept coordinator index call state := by
  unfold Kept
  rw [same]
  refine keeps_bind (keeps_transition (fun _ _ _ _ => promise_quiet)
    (fun committed => committed) target prepares) ?_
  rintro written - past state ⟨event, member, committed⟩
  exact keeps_pure fun _ => ⟨event, member, id, written, committed⟩

theorem kept_claim {id operatorId : String} {version : Nat} :
    Kept coordinator index (.claim id version operatorId) state := by
  refine kept_transition rfl rfl fun current lease => ?_
  cases current.status with
  | «open» => exact prepares_claim fun _ _ _ _ => promise_quiet
  | claimed => exact prepares_reclaim fun _ _ _ _ => promise_quiet
  | resuming => exact prepares_throw
  | resolved => exact prepares_throw
  | terminated => exact prepares_throw

theorem kept_release {id operatorId : String} {version : Nat} :
    Kept coordinator index (.release id version operatorId) state :=
  kept_transition rfl rfl fun _ _ =>
    prepares_handBack fun _ _ _ _ => promise_quiet

theorem kept_beginResume {id operatorId : String} {version : Nat} :
    Kept coordinator index (.beginResume id version operatorId) state :=
  kept_transition rfl rfl fun _ _ =>
    prepares_handBack fun _ _ _ _ => promise_quiet

theorem kept_heartbeat {id operatorId : String} {version : Nat} :
    Kept coordinator index (.heartbeat id version operatorId) state := by
  refine kept_transition rfl rfl fun current lease => ?_
  refine prepares_bind prepares_raiseIf fun _ _ _ owned => ?_
  rw [not_or, not_not, not_not] at owned
  refine prepares_bind prepares_check fun owner _ _ made => ?_
  refine prepares_bind (prepares_prepareHeartbeat fun _ _ _ _ => promise_quiet)
    fun next _ _ renewed => ?_
  rw [ControlOwner.ofOperator_eq_ok made] at renewed
  exact prepares_pure fun _ more =>
    ⟨owned.1, owned.2, rfl, renewed.mono more⟩

theorem kept_reopen {id explanation : String} :
    Kept coordinator index (.reopen id explanation) state := by
  refine kept_transition rfl rfl fun current lease => ?_
  refine prepares_bind prepares_check fun replacement _ _ reopened => ?_
  refine prepares_bind prepares_raiseIf fun _ _ _ paused => ?_
  exact prepares_pure fun _ _ => ⟨reopened, Decidable.not_not.mp paused, rfl⟩

theorem kept_completeResume {id resolution : String} {version : Nat} :
    Kept coordinator index (.completeResume id version resolution) state := by
  refine kept_transition rfl rfl fun current lease => ?_
  refine prepares_bind prepares_check fun replacement _ _ resolved => ?_
  refine prepares_bind (prepares_prepareTransfer fun _ _ _ _ => promise_quiet)
    fun next _ _ handed => ?_
  exact prepares_pure fun _ more =>
    ⟨resolved, (handed.2 rfl).mono more, handed.1.mono more⟩

theorem kept_terminate {id resolution : String} {version : Nat}
    {operatorId : Option String} :
    Kept coordinator index (.terminate id version operatorId resolution) state := by
  refine kept_transition rfl rfl fun current lease => ?_
  refine prepares_bind prepares_check fun owner _ _ owned => ?_
  refine prepares_bind prepares_check fun replacement _ _ terminated => ?_
  refine prepares_bind (prepares_prepareTransfer fun _ _ _ _ => promise_quiet)
    fun next _ _ handed => ?_
  refine prepares_pure fun _ more =>
    ⟨owner, owned, terminated, fun human => ?_, handed.1.mono more⟩
  exact (handed.2 (decide_eq_true human)).mono more

theorem kept_createForAutomation {sessionId : String} :
    Kept coordinator index (.createForAutomation sessionId) state := by
  refine kept_other rfl (keeps_discard (β := ControlLease) ?_)
  unfold ControlLeaseService.createForAutomation
  refine keeps_prepared prepares_check (List.nil_subset _)
    fun parsed _ _ _ _ => ?_
  refine keeps_prepared (prepares_now fun _ _ _ _ => promise_quiet)
    (List.nil_subset _) fun now _ _ _ _ => ?_
  refine keeps_prepared prepares_check (List.nil_subset _)
    fun lease _ _ _ made => ?_
  rw [ControlLease.eq_of_make made]
  exact keeps_createLease (fun _ _ _ _ => promise_quiet)
    fun _ _ _ _ => ⟨rfl, rfl⟩

theorem kept_automationHeartbeat {sessionId : String} {version : Nat} :
    Kept coordinator index (.automationHeartbeat sessionId version) state := by
  refine kept_other rfl (keeps_discard (β := ControlLease) ?_)
  unfold ControlLeaseService.heartbeat ControlLeaseService.assertCanAct
  rw [bind_assoc]
  refine keeps_bind (keeps_getLease fun _ _ _ _ => promise_quiet) ?_
  rintro current - past' state' ⟨-, unwritten⟩
  refine Keeps.weaken ?_ (fun _ _ _ _ here => here)
    fun _ _ _ _ here => unwritten.trans here
  rw [bind_assoc]
  refine keeps_prepared (prepares_assertCurrent fun _ _ _ _ => promise_quiet)
    (List.nil_subset _) fun _ _ _ _ _ => ?_
  rw [pure_bind]
  refine keeps_prepared (prepares_prepareHeartbeat fun _ _ _ _ => promise_quiet)
    (List.nil_subset _) fun next _ _ _ renewed => ?_
  refine keeps_swapLease (fun _ _ _ _ => promise_quiet) fun _ _ _ _ => ?_
  obtain ⟨-, owner, -, ⟨now, -, rfl⟩, bound⟩ := renewed
  have unbound : current.interventionId = none := by
    simpa [owner, ControlOwner.requiresIntervention] using bound
  exact ⟨rfl, owner, unbound⟩

theorem kept_openIntervention {id runId sessionId code : String}
    {version : Nat} {stepId explanation : Option String}
    {observation : NormalizedObservation} {context : InterventionContext} :
    Kept coordinator index (.openIntervention id runId sessionId version code stepId
      observation context explanation) state := by
  refine kept_other rfl (keeps_discard (β := String) ?_)
  unfold ControlLeaseService.openIntervention
  refine keeps_prepared prepares_check (List.nil_subset _) fun _ _ _ _ _ => ?_
  refine keeps_prepared prepares_check (List.nil_subset _) fun _ _ _ _ _ => ?_
  refine keeps_prepared prepares_check (List.nil_subset _) fun _ _ _ _ _ => ?_
  refine keeps_prepared prepares_check (List.nil_subset _) fun _ _ _ _ _ => ?_
  refine keeps_prepared (prepares_now fun _ _ _ _ => promise_quiet)
    (List.nil_subset _) fun createdAt _ _ _ _ => ?_
  refine keeps_prepared prepares_check (List.nil_subset _)
    fun intervention _ _ _ made => ?_
  have same := Intervention.eq_of_make made
  subst same
  refine keeps_bind (keeps_getLease fun _ _ _ _ => promise_quiet) ?_
  rintro lease - past' state' ⟨known, unwritten⟩
  refine Keeps.weaken ?_ (fun _ _ _ _ here => here)
    fun _ _ _ _ here => unwritten.trans here
  refine keeps_prepared (prepares_prepareTransfer fun _ _ _ _ => promise_quiet)
    (List.nil_subset _) fun next _ _ reads handed => ?_
  exact keeps_bind (keeps_createPaused (fun _ _ _ _ => promise_quiet)
    (fun opened => opened) rfl rfl (known.later reads) handed.1)
    fun _ _ _ _ _ => keeps_pure trivial

/-- Every call keeps its promise. -/
theorem kept (call : ControlCall) : Kept coordinator index call state := by
  cases call with
  | createForAutomation sessionId => exact kept_createForAutomation
  | automationHeartbeat sessionId version => exact kept_automationHeartbeat
  | openIntervention => exact kept_openIntervention
  | claim id version operatorId => exact kept_claim
  | release id version operatorId => exact kept_release
  | heartbeat id version operatorId => exact kept_heartbeat
  | beginResume id version operatorId => exact kept_beginResume
  | reopen id explanation => exact kept_reopen
  | completeResume id version resolution => exact kept_completeResume
  | terminate id version operatorId resolution => exact kept_terminate

end ControlCall

end ReplayForge

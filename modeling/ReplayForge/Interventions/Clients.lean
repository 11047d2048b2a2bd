import ReplayForge.Interventions.Commits

/-!
# Every control call keeps its promise

One judgement for each call, whatever the other clients do between its steps.
Preparing only reads the clock; the repositories change in the last step.
-/

namespace ReplayForge

open Effect

namespace ControlCall

theorem promise_quiet {ttl : Int} {call : ControlCall}
    {past : List RuntimeEvent} {before after : ControlState}
    {event : RuntimeEvent} (silent : changes event = false) :
    call.promise ttl past before event after := by
  unfold promise
  split
  · cases silent
  · cases silent
  · cases silent
  · cases silent
  · trivial

end ControlCall

/-- Between two points a client only read the clock, and the repositories
moved on. -/
structure Reads (past past' : List RuntimeEvent)
    (state state' : ControlState) : Prop where
  events : ∃ times : List Int, past' = past ++ times.map fun now => ⟨.now, now⟩
  grows : state.Grows state'

namespace Reads

variable {past past' past'' : List RuntimeEvent}
  {state state' state'' : ControlState}

theorem refl (past : List RuntimeEvent) (state : ControlState) :
    Reads past past state state :=
  ⟨⟨[], by simp⟩, .refl state⟩

theorem trans (first : Reads past past' state state')
    (second : Reads past' past'' state' state'') :
    Reads past past'' state state'' := by
  obtain ⟨⟨times, rfl⟩, grown⟩ := first
  obtain ⟨⟨times', rfl⟩, grown'⟩ := second
  exact ⟨⟨times ++ times', by simp⟩, grown.trans grown'⟩

theorem hasSeen (reads : Reads past past' state state') {id : String}
    {pair : ControlPair} (seen : HasSeen id pair past) :
    HasSeen id pair past' := by
  obtain ⟨⟨times', rfl⟩, -⟩ := reads
  obtain ⟨times, rfl⟩ := seen
  exact ⟨times ++ times', by simp⟩

theorem lastLease (reads : Reads past past' state state') :
    lastLease past' = ReplayForge.lastLease past := by
  obtain ⟨⟨times, rfl⟩, -⟩ := reads
  unfold ReplayForge.lastLease
  rw [List.foldl_append, List.foldl_map]
  exact List.foldl_fixed _

theorem readings_subset (reads : Reads past past' state state') :
    readings past ⊆ readings past' := by
  obtain ⟨⟨times, rfl⟩, -⟩ := reads
  unfold readings
  rw [List.filterMap_append]
  exact List.subset_append_left _ _

end Reads

theorem HandsOver.mono {ttl : Int} {clock clock' : List Int}
    {lease next : ControlLease} {version : Nat} {owner nextOwner : ControlOwner}
    {binding : Option String} (more : clock ⊆ clock')
    (transfer : HandsOver ttl clock lease next version owner nextOwner binding) :
    HandsOver ttl clock' lease next version owner nextOwner binding := by
  obtain ⟨version, owner, now, member, written⟩ := transfer
  exact ⟨version, owner, now, more member, written⟩

/-- Nothing was written since. -/
def Unwritten (past past' : List RuntimeEvent) : Prop :=
  ∃ events, past' = past ++ events ∧ ∀ event ∈ events, changes event = false

theorem Unwritten.trans {past past' past'' : List RuntimeEvent}
    (first : Unwritten past past') (second : Unwritten past' past'') :
    Unwritten past past'' := by
  obtain ⟨events, rfl, silent⟩ := first
  obtain ⟨events', rfl, silent'⟩ := second
  refine ⟨events ++ events', by simp, fun event member => ?_⟩
  rcases List.mem_append.mp member with early | late
  · exact silent event early
  · exact silent' event late

theorem Unwritten.snoc {past : List RuntimeEvent} {event : RuntimeEvent}
    (silent : changes event = false) : Unwritten past (past ++ [event]) :=
  ⟨[event], rfl, fun _ member => List.mem_singleton.mp member ▸ silent⟩

theorem Reads.unwritten {past past' : List RuntimeEvent}
    {state state' : ControlState} (reads : Reads past past' state state') :
    Unwritten past past' := by
  obtain ⟨⟨times, rfl⟩, -⟩ := reads
  refine ⟨_, rfl, fun event member => ?_⟩
  obtain ⟨now, -, rfl⟩ := List.mem_map.mp member
  rfl

/-- The read of a call: the repositories held this pair at that point. -/
structure HasRead (id : String) (pair : ControlPair)
    (past : List RuntimeEvent) (state : ControlState) : Prop where
  seen : HasSeen id pair past
  same : pair.1.id = id
  valid : validateTransition pair.1 pair.2 = .ok ()
  held : ∃ earlier : ControlState, earlier.pairAt id = some pair ∧
    earlier.Grows state

theorem HasRead.later {id : String} {pair : ControlPair}
    {past past' : List RuntimeEvent} {state state' : ControlState}
    (known : HasRead id pair past state) (reads : Reads past past' state state') :
    HasRead id pair past' state' := by
  obtain ⟨seen, same, valid, earlier, held, grown⟩ := known
  exact ⟨reads.hasSeen seen, same, valid, earlier, held,
    grown.trans reads.grows⟩

/-- The compared token identifies the pair that was read. -/
theorem HasRead.current {id : String} {current : Intervention}
    {lease : ControlLease} {before after : ControlState}
    {past : List RuntimeEvent} {replacement : Intervention}
    {next : ControlLease} {value : ControlPair}
    (known : HasRead id (current, lease) past before)
    (swapped : before.swapPair current.id current.status lease.version
      lease.owner replacement next = .ok (after, value)) :
    before.pairAt id = some (current, lease) := by
  obtain ⟨-, same, -, earlier, held, grown⟩ := known
  obtain ⟨stored, storedLease, found, leased, status, version, -⟩ :=
    ControlState.swapPair_eq_ok.mp swapped
  rw [same] at found
  have pair : before.pairAt id = some (stored, storedLease) :=
    ControlState.pairAt_eq_some.mpr ⟨found, leased⟩
  rw [pair, grown.pair_eq held pair status version]

theorem Unexpired.mono {clock clock' : List Int} {lease : ControlLease}
    (more : clock ⊆ clock') (alive : Unexpired clock lease) :
    Unexpired clock' lease := by
  obtain ⟨now, seen, before⟩ := alive
  exact ⟨now, more seen, before⟩

theorem Renews.mono {ttl : Int} {clock clock' : List Int}
    {lease next : ControlLease} {version : Nat} {owner : ControlOwner}
    (more : clock ⊆ clock')
    (renewal : Renews ttl clock lease next version owner) :
    Renews ttl clock' lease next version owner := by
  obtain ⟨version, owner, alive, ⟨now, member, written⟩, bound⟩ := renewal
  exact ⟨version, owner, alive.mono more, ⟨now, more member, written⟩, bound⟩

/-- A body that prepares: it reads the clock and nothing else.  `clock` has been
read before it starts. -/
def Prepares {α : Type} (promise : Promise RuntimeSig ControlState)
    (clock : List Int) (body : Runtime Unit α)
    (after : α → List Int → Prop) : Prop :=
  ∀ index past state, clock ⊆ readings past →
    Keeps controlStore index promise body () past state
      (fun value _ past' state' => Reads past past' state state' ∧
        after value (readings past'))
      (fun _ _ past' state' => Reads past past' state state')

section Preparing

variable {α β : Type} {promise : Promise RuntimeSig ControlState}
  {clock : List Int} {after : α → List Int → Prop}

theorem prepares_pure {value : α}
    (holds : ∀ clock', clock ⊆ clock' → after value clock') :
    Prepares promise clock (pure value) after :=
  fun _ past state known =>
    keeps_pure ⟨.refl past state, holds (readings past) known⟩

theorem prepares_throw {error : Raised} :
    Prepares promise clock (throw error) after :=
  fun _ past state _ => keeps_throw (.refl past state)

theorem prepares_check {value : Except Raised α} :
    Prepares promise clock (attempt value) fun stored _ =>
      value = .ok stored :=
  fun _ past state _ => keeps_attempt (fun _ same => ⟨.refl past state, same⟩)
    fun _ _ => .refl past state

theorem prepares_bind {body : Runtime Unit β} {next : β → Runtime Unit α}
    {middle : β → List Int → Prop}
    (first : Prepares promise clock body middle)
    (rest : ∀ value clock', clock ⊆ clock' → middle value clock' →
      Prepares promise clock' (next value) after) :
    Prepares promise clock (body >>= next) after := by
  intro index past state known
  refine keeps_bind (first index past state known) ?_
  rintro value - past' state' ⟨reads, here⟩
  have more := List.Subset.trans known reads.readings_subset
  refine (rest value _ more here index past' state' (List.Subset.refl _)).weaken ?_
    fun _ _ _ _ last => reads.trans last
  rintro last - past'' state'' ⟨reads', there⟩
  exact ⟨reads.trans reads', there⟩

theorem Prepares.weaken {body : Runtime Unit α}
    {after' : α → List Int → Prop} (prepares : Prepares promise clock body after)
    (weaker : ∀ value clock', clock ⊆ clock' → after value clock' →
      after' value clock') : Prepares promise clock body after' := by
  intro index past state known
  refine (prepares index past state known).weaken ?_ fun _ _ _ _ here => here
  rintro value - past' state' ⟨reads, here⟩
  exact ⟨reads, weaker value _
    (List.Subset.trans known reads.readings_subset) here⟩

theorem prepares_ite {test : Prop} [Decidable test] {yes no : Runtime Unit α}
    (positive : test → Prepares promise clock yes after)
    (negative : ¬test → Prepares promise clock no after) :
    Prepares promise clock (if test then yes else no) after :=
  fun index past state known => keeps_ite
    (fun holds => positive holds index past state known)
    fun fails => negative fails index past state known

theorem prepares_raiseIf {test : Prop} [Decidable test] {error : Raised} :
    Prepares promise clock (Runtime.raiseIf test error) fun _ _ => ¬test := by
  unfold Runtime.raiseIf
  exact prepares_ite (fun _ => prepares_throw) fun fails =>
    prepares_pure fun _ _ => fails

variable (quiet : ∀ past before event after, changes event = false →
  promise past before event after)

include quiet

theorem prepares_now :
    Prepares promise clock Runtime.now fun now clock' => now ∈ clock' := by
  intro index past state known
  apply keeps_perform
  intro before now after keyed grown happens
  have unchanged : after = before := happens
  subst unchanged
  refine ⟨⟨keyed, fun _ _ => .refl after, quiet _ _ _ _ rfl⟩,
    ⟨⟨[now], rfl⟩, grown⟩, ?_⟩
  unfold readings
  simp

theorem prepares_assertCurrent {current : ControlLease} {version : Nat}
    {owner : ControlOwner} {requireUnexpired : Bool} :
    Prepares promise clock
      (ControlLeaseService.assertCurrent current version owner
        requireUnexpired)
      fun _ clock' => (current.version = version ∧ current.owner = owner) ∧
        (requireUnexpired = true → Unexpired clock' current) := by
  unfold ControlLeaseService.assertCurrent
  refine prepares_bind prepares_raiseIf fun _ clock₁ _ fresh => ?_
  rw [not_or, not_not, not_not] at fresh
  refine prepares_ite (fun _ => ?_) fun ignored =>
    prepares_pure fun _ _ => ⟨fresh, fun required => absurd required ignored⟩
  refine prepares_bind (prepares_now quiet) fun now clock₂ _ seen => ?_
  refine prepares_raiseIf.weaken fun _ clock₃ more alive => ⟨fresh, fun _ => ?_⟩
  exact ⟨now, more seen, by omega⟩

theorem prepares_prepareTransfer {service : ControlLeaseService}
    {current : ControlLease} {version : Nat} {owner nextOwner : ControlOwner}
    {binding : Option String} {requireUnexpired : Bool} :
    Prepares promise clock
      (service.prepareTransfer current version owner nextOwner binding
        requireUnexpired)
      fun lease clock' =>
        HandsOver service.ttl clock' current lease version owner nextOwner
          binding ∧ (requireUnexpired = true → Unexpired clock' current) := by
  unfold ControlLeaseService.prepareTransfer
  refine prepares_bind (prepares_assertCurrent quiet)
    fun _ clock₁ _ checked => ?_
  obtain ⟨⟨fresh, owned⟩, alive⟩ := checked
  refine prepares_bind (prepares_now quiet) fun now clock₂ more seen => ?_
  refine prepares_check.weaken fun lease clock₃ more' made => ?_
  exact ⟨⟨fresh, owned, now, more' seen, ControlLease.eq_of_make made⟩,
    fun required => ((alive required).mono more).mono more'⟩

theorem prepares_prepareHeartbeat {service : ControlLeaseService}
    {current : ControlLease} {version : Nat} {owner : ControlOwner} :
    Prepares promise clock (service.prepareHeartbeat current version owner)
      fun lease clock' =>
        Renews service.ttl clock' current lease version owner := by
  unfold ControlLeaseService.prepareHeartbeat
  refine prepares_bind (prepares_assertCurrent quiet)
    fun _ clock₁ _ checked => ?_
  obtain ⟨⟨fresh, owned⟩, alive⟩ := checked
  refine prepares_bind (prepares_now quiet) fun now clock₂ more seen => ?_
  refine prepares_check.weaken fun lease clock₃ more' made => ?_
  exact ⟨fresh, owned, ((alive rfl).mono more).mono more',
    ⟨now, more' seen, ControlLease.eq_of_make made⟩,
    ControlLease.bound_of_make made⟩

end Preparing

/-- A first part that only prepares leaves nothing written. -/
theorem keeps_prepared {α β : Type} {index : Nat}
    {promise : Promise RuntimeSig ControlState} {past : List RuntimeEvent}
    {state : ControlState} {clock : List Int}
    {body : Runtime Unit β} {next : β → Runtime Unit α}
    {middle : β → List Int → Prop}
    {after : α → Unit → List RuntimeEvent → ControlState → Prop}
    (prepares : Prepares promise clock body middle)
    (known : clock ⊆ readings past)
    (rest : ∀ value past' state', Reads past past' state state' →
      middle value (readings past') →
      Keeps controlStore index promise (next value) () past' state' after
        fun _ _ past'' _ => Unwritten past' past'') :
    Keeps controlStore index promise (body >>= next) () past state after
      fun _ _ past' _ => Unwritten past past' := by
  refine keeps_bind ((prepares index past state known).weaken
    (fun _ _ _ _ here => here) fun _ _ _ _ here => here.unwritten) ?_
  rintro value - past' state' ⟨reads, here⟩
  exact (rest value past' state' reads here).weaken (fun _ _ _ _ last => last)
    fun _ _ _ _ last => reads.unwritten.trans last

section Clients

variable {promise : Promise RuntimeSig ControlState}
  (quiet : ∀ past before event after, changes event = false →
    promise past before event after)
  {index : Nat} {past : List RuntimeEvent} {state : ControlState}

include quiet

theorem keeps_get {id : String} :
    Keeps controlStore index promise
      (InterventionCoordinator.get id : Runtime Unit ControlPair) () [] state
      (fun pair _ past' state' => HasRead id pair past' state' ∧
        Unwritten [] past')
      (fun _ _ past' _ => Unwritten [] past') := by
  unfold InterventionCoordinator.get Runtime.control
  apply keeps_invoke
  intro before answer after keyed grown happens
  have responds := controlLaw_control.mp happens
  have unchanged := ControlState.respond_read responds rfl
  have answered : answer = before.getPair id :=
    (congrArg Prod.snd responds).symm
  have silent : changes ⟨.control (.getPair id), answer⟩ = false := rfl
  subst unchanged
  refine ⟨⟨keyed, fun _ _ => .refl after, quiet _ _ _ _ silent⟩, ?_,
    fun _ _ => .snoc silent⟩
  intro pair read
  cases answer with
  | error error => cases read
  | ok stored =>
      cases read
      obtain ⟨held, leased, valid⟩ :=
        ControlState.getPair_eq_ok.mp answered.symm
      exact ⟨⟨⟨[], rfl⟩, keyed.interventions _ _ held, valid, after,
        ControlState.pairAt_eq_some.mpr ⟨held, leased⟩, .refl after⟩,
        .snoc silent⟩

/-- The last step of a call. -/
theorem keeps_commit {ttl : Int} {call : ControlCall} {id : String}
    {current replacement : Intervention} {lease next : ControlLease}
    (commits : ∀ {past before after status version owner value},
      Committed ttl call id past before (replacement, next) after →
      promise past before
        ⟨.control (.swapPair id status version owner replacement next),
          .ok value⟩ after)
    (target : call.target = some id)
    (known : HasRead id (current, lease) past state)
    (transfers : call.Transfers ttl (readings past) (current, lease)
      (replacement, next)) :
    Keeps controlStore index promise
      (InterventionCoordinator.commit current lease replacement next :
        Runtime Unit ControlPair) () past state
      (fun written _ past' state' => written = (replacement, next) ∧
        state'.pairAt id = some written ∧
        ∃ event ∈ past', committedPair event = some (id, written))
      (fun _ _ past' _ => Unwritten past past') := by
  unfold InterventionCoordinator.commit Runtime.control
  apply keeps_invoke
  intro before answer after keyed grown happens
  have responds := controlLaw_control.mp happens
  cases answer with
  | error error =>
      have unchanged := ControlState.respond_failed responds
      subst unchanged
      have silent : changes ⟨.control (.swapPair current.id current.status
          lease.version lease.owner replacement next), .error error⟩ =
            false := rfl
      refine ⟨⟨keyed, fun _ _ => .refl after, quiet _ _ _ _ silent⟩, ?_,
        fun _ _ => .snoc silent⟩
      intro _ returned
      cases returned
  | ok value =>
      have swapped := ControlState.respond_swapPair responds
      have known' : HasRead id (current, lease) past before :=
        known.later ⟨⟨[], by simp⟩, grown⟩
      have pair := known'.current swapped
      have same : current.id = id := known.same
      rw [same] at swapped
      obtain ⟨returned, stored⟩ := ControlState.stored_of_swapPair keyed swapped
      obtain ⟨_, writes⟩ := ControlState.swapPair_writes keyed swapped
        fun _ found => by
          rw [pair, Option.some.injEq] at found
          subst found
          exact transfers.advances
      refine ⟨⟨writes.keepsKeys keyed, fun _ _ => writes.grows, ?_⟩, ?_, ?_⟩
      · rw [same]
        exact commits ⟨target, stored, _, known.seen, known.valid, pair,
          transfers⟩
      · intro written result
        cases result
        refine ⟨returned, returned ▸ stored, _,
          List.mem_append_right _ (List.mem_singleton_self _), ?_⟩
        rw [same, returned]
        rfl
      · intro _ failed
        cases failed

/-- Read, prepare, commit. -/
theorem keeps_transition {ttl : Int} {call : ControlCall} {id : String}
    {prepare : Intervention → ControlLease → Runtime Unit ControlPair}
    (commits : ∀ {past before after status version owner written value},
      Committed ttl call id past before written after →
      promise past before
        ⟨.control (.swapPair id status version owner written.1 written.2),
          .ok value⟩ after)
    (target : call.target = some id)
    (prepares : ∀ current lease, Prepares promise [] (prepare current lease)
      fun written clock => call.Transfers ttl clock (current, lease) written) :
    Keeps controlStore index promise
      (InterventionCoordinator.transition id prepare) () [] state
      (fun written _ past' _ =>
        ∃ event ∈ past', committedPair event = some (id, written))
      (fun _ _ past' _ => Unwritten [] past') := by
  unfold InterventionCoordinator.transition
  refine keeps_bind (keeps_get quiet) ?_
  rintro ⟨current, lease⟩ - past' state' ⟨known, unwritten⟩
  refine (keeps_prepared (prepares current lease) (List.nil_subset _)
    fun written past'' state'' reads transfers => ?_).weaken
      (fun _ _ _ _ here => here) fun _ _ _ _ here => unwritten.trans here
  refine (keeps_commit quiet commits target (known.later reads)
    transfers).weaken ?_ fun _ _ _ _ here => here
  rintro _ - last final ⟨-, -, committed⟩
  exact committed

end Clients

end ReplayForge

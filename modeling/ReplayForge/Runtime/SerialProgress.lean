import ReplayForge.Runtime.SerialInvariant
import Mathlib.Data.List.Basic

/-!
# Every accepted operation is answered

The distance of an accepted operation counts the steps the worker still has to
take for it.  Each step of the worker lowers it and no client raises it.
-/

namespace ReplayForge

namespace SerialWorker

variable {Client Outcome : Type} [DecidableEq Client]
  {capacity : QueueCapacity} {requests : Client → WorkerRequest}
  {worker next : SerialWorker Client Outcome} {client : Client}

def loopCost : LoopPhase Client Outcome → Nat
  | .took _ => 2
  | .ran _ _ => 1
  | _ => 0

/-- The items of the queue up to the one of the client. -/
def position (client : Client) (queue : List (WorkItem Client)) : Nat :=
  if .work client ∈ queue then queue.idxOf (.work client) + 1 else 0

def distance (client : Client) (worker : SerialWorker Client Outcome) : Nat :=
  loopCost worker.loop + 3 * position client worker.queue

section Position

variable {queue : List (WorkItem Client)} {item : WorkItem Client}

theorem position_append (other : item ≠ .work client) :
    position client (queue ++ [item]) = position client queue := by
  unfold position
  by_cases member : WorkItem.work client ∈ queue
  · simp [member, List.idxOf_append_of_mem]
  · simp [member, Ne.symm other]

theorem position_cons (other : item ≠ .work client)
    (member : .work client ∈ queue) :
    position client (item :: queue) = position client queue + 1 := by
  unfold position
  rw [if_pos (List.mem_cons_of_mem _ member), if_pos member,
    List.idxOf_cons_ne _ other]

theorem position_first (distinct : (.work client :: queue).Nodup) :
    position client (.work client :: queue) = 1 ∧
      position client queue = 0 := by
  unfold position
  rw [if_pos List.mem_cons_self, List.idxOf_cons_self,
    if_neg (List.nodup_cons.mp distinct).1]
  exact ⟨rfl, rfl⟩

theorem position_le (client : Client) (queue : List (WorkItem Client)) :
    position client queue ≤ queue.length := by
  unfold position
  split
  next member => exact List.idxOf_lt_length_of_mem member
  next => exact Nat.zero_le _

end Position

omit [DecidableEq Client] in
theorem Sound.pending_nodup (sound : worker.Sound requests) :
    worker.pending.Nodup := by
  obtain ⟨waiting, items, order⟩ := sound.awaits
  have distinct : waiting.Nodup :=
    sound.nodup.sublist (order ▸ List.sublist_append_right _ _)
  have works : (waiting.map (@WorkItem.work Client)).Nodup :=
    distinct.map fun _ _ same => WorkItem.work.inj same
  rw [items, List.nodup_append]
  refine ⟨works, by split <;> simp, ?_⟩
  rintro item member _ last rfl
  obtain ⟨_, _, rfl⟩ := List.mem_map.mp member
  split at last <;> simp at last

omit [DecidableEq Client] in
/-- Nothing is queued behind the sentinel. -/
theorem Sound.nothing_behind (sound : worker.Sound requests)
    {rest : List (WorkItem Client)}
    (pending : worker.pending = .sentinel :: rest) :
    rest = [] ∧ worker.ran.map Prod.fst = worker.accepted := by
  obtain ⟨waiting, items, order⟩ := sound.awaits
  rw [pending] at items
  cases waiting with
  | nil =>
      split at items
      · simp only [List.map_nil, List.nil_append, List.cons.injEq] at items
        exact ⟨items.2, by simpa using order⟩
      · cases items
  | cons first later => simp at items

omit [DecidableEq Client] in
/-- Where an operation that is not settled is. -/
theorem Sound.unsettled (sound : worker.Sound requests)
    (member : client ∈ worker.accepted)
    (unset : worker.futures client = none) :
    .work client ∈ worker.pending ∨
      ∃ outcome, worker.loop = .ran client outcome := by
  obtain ⟨waiting, items, order⟩ := sound.awaits
  rw [← order] at member
  rcases List.mem_append.mp member with ran | waits
  · obtain ⟨⟨_, outcome⟩, stored, rfl⟩ := List.mem_map.mp ran
    rcases (sound.futures _ _).mp stored with set | loop
    · simp [unset] at set
    · exact .inr ⟨outcome, loop⟩
  · left
    rw [items]
    exact List.mem_append_left _ (List.mem_map_of_mem waits)

/-- The worker can move while an operation is not settled. -/
theorem Sound.enabled [Inhabited Outcome] (sound : worker.Sound requests)
    (member : client ∈ worker.accepted)
    (unset : worker.futures client = none) :
    Enabled (Step capacity requests) .worker worker := by
  have where' := sound.unsettled member unset
  cases loop : worker.loop with
  | getting =>
      simp only [pending, taken, loop, List.nil_append, reduceCtorEq,
        exists_false, or_false] at where'
      obtain ⟨item, rest, queue⟩ :=
        List.exists_cons_of_ne_nil (List.ne_nil_of_mem where')
      exact ⟨_, .get loop queue⟩
  | took item =>
      cases item with
      | work other => exact ⟨_, .run default loop⟩
      | sentinel => exact ⟨_, .stop loop⟩
  | ran other outcome => exact ⟨_, .settle loop⟩
  | stopped =>
      have behind : worker.pending = .sentinel :: worker.queue := by
        simp [pending, taken, loop]
      obtain ⟨empty, _⟩ := sound.nothing_behind behind
      simp [behind, empty, loop] at where'

/-- The distance of an operation that is not settled. -/
def unsettledDistance (client : Client)
    (worker : SerialWorker Client Outcome) : Nat :=
  if (worker.futures client).isSome then 0 else distance client worker

/-- A step of the worker settles an operation or comes closer to it. -/
theorem Sound.distance_worker (sound : worker.Sound requests)
    (member : client ∈ worker.accepted)
    (unset : worker.futures client = none)
    (step : Step capacity requests .worker worker next) :
    unsettledDistance client next < unsettledDistance client worker := by
  have where' := sound.unsettled member unset
  have distinct := sound.pending_nodup
  cases step with
  | @get _ item rest loop queue =>
      simp only [pending, taken, loop, queue, List.nil_append, reduceCtorEq,
        exists_false, or_false] at where' distinct
      simp only [unsettledDistance, unset, Option.isSome_none,
        Bool.false_eq_true, if_false, distance, loop, queue, loopCost]
      by_cases here : item = .work client
      · subst here
        obtain ⟨first, gone⟩ := position_first distinct
        omega
      · have later : .work client ∈ rest :=
          (List.mem_cons.mp where').resolve_left (Ne.symm here)
        have place := position_cons here later
        omega
  | stop loop =>
      have behind : worker.pending = .sentinel :: worker.queue := by
        simp [pending, taken, loop]
      obtain ⟨empty, _⟩ := sound.nothing_behind behind
      simp [behind, empty, loop] at where'
  | run outcome loop =>
      simp [unsettledDistance, unset, distance, loop, loopCost]
  | @settle _ other outcome loop =>
      by_cases here : client = other
      · simp [unsettledDistance, ← here, unset, distance, loop, loopCost] <;>
          omega
      · simp [unsettledDistance, here, unset, distance, loop, loopCost]

/-- No client changes the distance of an accepted operation. -/
theorem Sound.distance_client (sound : worker.Sound requests)
    (member : client ∈ worker.accepted) {mover : Client}
    (step : Step capacity requests (.client mover) worker next) :
    next.futures = worker.futures ∧
      distance client next = distance client worker := by
  have put := (sound.entered client).mp member
  cases step with
  | putWork phase _ | putFinalizer phase _ =>
      refine ⟨rfl, ?_⟩
      have other : WorkItem.work mover ≠ .work client := by
        intro same
        cases same
        rw [phase] at put
        cases requests client <;> simp [ClientPhase.hasPut] at put
      simp [distance, moveTo, accept, SerialWorker.put, position_append other]
  | putSentinel _ _ =>
      refine ⟨rfl, ?_⟩
      simp [distance, moveTo, SerialWorker.put, position_append]
  | _ => exact ⟨rfl, rfl⟩

section Answered

/-- What is left to an accepted call. -/
def callRank : ClientPhase Outcome → Nat
  | .enqueued => 2
  | .waiting => 1
  | _ => 0

/-- Who moves an accepted invocation on. -/
def helper (client : Client) (worker : SerialWorker Client Outcome) :
    WorkerActor Client :=
  if (worker.futures client).isSome then .client client else .worker

theorem Step.accepted_mono {actor : WorkerActor Client}
    (step : Step capacity requests actor worker next)
    (member : client ∈ worker.accepted) : client ∈ next.accepted := by
  cases step with
  | putWork | putFinalizer => exact List.mem_append_left _ member
  | _ => exact member

omit [DecidableEq Client] in
theorem Sound.call_phase (sound : worker.Sound requests)
    (kind : requests client = .call) (member : client ∈ worker.accepted) :
    worker.phases client = .enqueued ∨ worker.phases client = .waiting ∨
      ∃ outcome, worker.phases client = .done (.outcome outcome) := by
  have put := (sound.entered client).mp member
  rw [kind] at put
  cases phase : worker.phases client with
  | enqueued => simp
  | waiting => simp
  | done answer => cases answer <;> simp_all [ClientPhase.hasPut]
  | _ => simp [phase, ClientPhase.hasPut] at put

/-- A settled future stays as it is. -/
theorem Sound.settled (sound : worker.Sound requests)
    {actor : WorkerActor Client}
    (step : Step capacity requests actor worker next) {outcome : Outcome}
    (set : worker.futures client = some outcome) :
    next.futures client = some outcome := by
  cases step with
  | @settle _ other result loop =>
      by_cases here : client = other
      · subst here
        have one := (sound.futures client outcome).mpr (.inl set)
        have two := (sound.futures client result).mpr (.inr loop)
        simp [sound.ran_unique one two]
      · simpa [here] using set
  | _ => exact set

theorem Step.worker_phases
    (step : Step capacity requests .worker worker next) :
    next.phases = worker.phases := by
  cases step <;> rfl

theorem Step.other_phase {mover : Client}
    (step : Step capacity requests (.client mover) worker next)
    (other : client ≠ mover) : next.phases client = worker.phases client := by
  cases step <;> simp [moveTo, accept, SerialWorker.put, other]

theorem FairRun.sound
    (run : FairRun (Step capacity requests)
      ({} : SerialWorker Client Outcome)) (time : Nat) :
    (run.states time).Sound requests := by
  have first : (run.states 0).Sound requests := by
    rw [run.begins]
    exact sound_created
  exact run.keeps (fun _ _ _ sound step => sound.step step) first time
    (Nat.zero_le time)

/-- Every accepted call is answered. -/
theorem FairRun.answered [Inhabited Outcome]
    (run : FairRun (Step capacity requests)
      ({} : SerialWorker Client Outcome))
    (kind : requests client = .call) {time : Nat}
    (member : client ∈ (run.states time).accepted) :
    ∃ later, time ≤ later ∧
      ∃ outcome, (run.states later).phases client = .done (.outcome outcome) := by
  refine run.eventually
    (fun worker => worker.Sound requests ∧ client ∈ worker.accepted)
    (fun worker => ∃ outcome,
      worker.phases client = .done (.outcome outcome))
    (fun worker => unsettledDistance client worker +
      callRank (worker.phases client))
    (helper client) ?_ ?_ ⟨FairRun.sound run time, member⟩
  · rintro worker ⟨sound, member⟩ ahead
    unfold helper
    cases set : worker.futures client with
    | none => exact sound.enabled member set
    | some outcome =>
        rcases sound.call_phase kind member with phase | phase | done
        · exact ⟨_, .leave phase⟩
        · exact ⟨_, .answer phase set⟩
        · exact (ahead done).elim
  · rintro actor worker next ⟨sound, member⟩ ahead step
    have still : next.Sound requests ∧ client ∈ next.accepted :=
      ⟨sound.step step, step.accepted_mono member⟩
    cases actor with
    | worker =>
        right
        refine ⟨still, ?_⟩
        rw [step.worker_phases]
        cases set : worker.futures client with
        | none =>
            have closer := sound.distance_worker member set step
            exact .inl (Nat.add_lt_add_right closer _)
        | some outcome =>
            right
            have settled := sound.settled step set
            simp [unsettledDistance, helper, set, settled]
    | client mover =>
        obtain ⟨futures, same⟩ := sound.distance_client member step
        have place : unsettledDistance client next =
            unsettledDistance client worker := by
          simp only [unsettledDistance, futures, same]
        by_cases here : client = mover
        · subst here
          cases step with
          | leave phase =>
              right
              refine ⟨still, .inl ?_⟩
              rw [place]
              simp [phase, callRank]
          | answer phase set => exact .inl ⟨_, if_pos rfl⟩
          | acquire phase | putWork phase | refuseFull phase | reject phase
          | giveUp phase | putFinalizer phase | putSentinel phase
          | release phase | collect phase | check _ phase
          | refuseClosed _ phase | ignore _ phase | shut _ phase
          | join _ phase =>
              rcases sound.call_phase kind member with other | other | other <;>
                simp [phase] at other
        · right
          refine ⟨still, .inr ⟨?_, ?_, ?_⟩⟩
          · rw [step.other_phase here, place]
          · simp [helper, futures]
          · unfold helper
            split <;> simp [Ne.symm here]

end Answered

section Finalized

omit [DecidableEq Client] in
/-- The first invocation of `close` until its finalizer is put. -/
theorem Sound.finalizing (sound : worker.Sound requests)
    (kind : requests client = .close true)
    (closer : worker.closer = some client)
    (ahead : client ∉ worker.accepted) :
    worker.phases client = .finalizing := by
  have put := (sound.entered client).not.mp ahead
  have fit := sound.fits client
  have state := sound.closing.closer client closer
  rw [kind] at put fit state
  cases phase : worker.phases client with
  | finalizing => rfl
  | done answer =>
      cases answer <;>
        simp_all [ClientPhase.hasPut, ClientPhase.fits, ClientPhase.closes]
  | _ => simp_all [ClientPhase.hasPut, ClientPhase.closes]

omit [DecidableEq Client] in
theorem Sound.not_stopped (sound : worker.Sound requests)
    (unmarked : worker.hasSentinel = false) : worker.loop ≠ .stopped := by
  intro stopped
  obtain ⟨waiting, items, _⟩ := sound.awaits
  rw [unmarked] at items
  cases waiting <;> simp [pending, taken, stopped] at items

/-- A full queue keeps the worker moving until the sentinel is put. -/
theorem Sound.enabled_full [Inhabited Outcome] (sound : worker.Sound requests)
    (unmarked : worker.hasSentinel = false)
    (full : capacity.value ≤ worker.queue.length) :
    Enabled (Step capacity requests) .worker worker := by
  cases loop : worker.loop with
  | getting =>
      cases queue : worker.queue with
      | nil =>
          have positive := capacity.bounded.1
          rw [queue, List.length_nil] at full
          omega
      | cons item rest => exact ⟨_, .get loop queue⟩
  | took item =>
      cases item with
      | work other => exact ⟨_, .run default loop⟩
      | sentinel => exact ⟨_, .stop loop⟩
  | ran other outcome => exact ⟨_, .settle loop⟩
  | stopped => exact (sound.not_stopped unmarked loop).elim

def finalizerRank (client : Client) (worker : SerialWorker Client Outcome) :
    Nat :=
  if client ∈ worker.accepted then unsettledDistance client worker
  else loopCost worker.loop + 3 * worker.queue.length + 4

def finalizerHelper (capacity : QueueCapacity) (client : Client)
    (worker : SerialWorker Client Outcome) : WorkerActor Client :=
  if client ∉ worker.accepted ∧ worker.queue.length < capacity.value then
    .client client
  else .worker

theorem Step.closer_mono {actor : WorkerActor Client}
    (sound : worker.Sound requests)
    (step : Step capacity requests actor worker next)
    (closer : worker.closer = some client) : next.closer = some client := by
  cases step with
  | shut _ _ accepting =>
      simp [sound.closing.opened.mp accepting] at closer
  | _ => exact closer

/-- The worker lowers the rank of a finalizer that is not put. -/
theorem Step.rank_worker (step : Step capacity requests .worker worker next) :
    loopCost next.loop + 3 * next.queue.length <
      loopCost worker.loop + 3 * worker.queue.length := by
  cases step with
  | get loop queue =>
      simp only [loop, queue, loopCost, List.length_cons]
      omega
  | stop loop | run _ loop | settle loop => simp [loop, loopCost]

theorem Step.rank_finalizer
    (step : Step capacity requests (.client client) worker next)
    (ahead : client ∉ worker.accepted)
    (unset : worker.futures client = none)
    (phase : worker.phases client = .finalizing) :
    finalizerRank client next < finalizerRank client worker := by
  cases step with
  | putFinalizer _ _ =>
      have place := position_le client (worker.queue ++ [.work client])
      rw [List.length_append, List.length_singleton] at place
      simp only [finalizerRank, moveTo, accept, SerialWorker.put, ahead,
        List.mem_append, List.mem_singleton, or_true, if_true, if_false,
        unsettledDistance, unset, Option.isSome_none, Bool.false_eq_true,
        distance]
      omega
  | acquire phase' | putWork phase' | refuseFull phase' | reject phase'
  | giveUp phase' | answer phase' | leave phase' | putSentinel phase'
  | release phase' | collect phase' | check _ phase' | refuseClosed _ phase'
  | ignore _ phase' | shut _ phase' | join _ phase' => simp [phase] at phase'

/-- While the finalizer is not put, nobody else puts anything. -/
theorem Sound.queue_client (sound : worker.Sound requests)
    (closer : worker.closer = some client) {mover : Client}
    (other : mover ≠ client)
    (step : Step capacity requests (.client mover) worker next) :
    next.queue = worker.queue ∧ next.loop = worker.loop ∧
      next.accepted = worker.accepted := by
  cases step with
  | putWork phase _ =>
      have accepting := sound.closing.opened.mp (sound.checked _ phase)
      simp [closer] at accepting
  | putFinalizer phase _ | putSentinel phase _ =>
      have closes := sound.closing.closing mover
        (by simp [phase, ClientPhase.closes])
      rw [closer, Option.some.injEq] at closes
      exact (other closes.symm).elim
  | _ => exact ⟨rfl, rfl, rfl⟩

/-- The finalizer of the first `close` is run. -/
theorem FairRun.finalized [Inhabited Outcome]
    (run : FairRun (Step capacity requests)
      ({} : SerialWorker Client Outcome))
    (kind : requests client = .close true) {time : Nat}
    (closer : (run.states time).closer = some client) :
    ∃ later, time ≤ later ∧
      ∃ outcome, (run.states later).futures client = some outcome := by
  refine run.eventually
    (fun worker => worker.Sound requests ∧ worker.closer = some client)
    (fun worker => ∃ outcome, worker.futures client = some outcome)
    (finalizerRank client) (finalizerHelper capacity client) ?_ ?_
    ⟨FairRun.sound run time, closer⟩
  · rintro worker ⟨sound, closer⟩ ahead
    have unset : worker.futures client = none :=
      Option.eq_none_iff_forall_ne_some.mpr fun outcome set =>
        ahead ⟨outcome, set⟩
    unfold finalizerHelper
    by_cases member : client ∈ worker.accepted
    · simpa [member] using sound.enabled member unset
    · have phase := sound.finalizing kind closer member
      by_cases room : worker.queue.length < capacity.value
      · rw [if_pos ⟨member, room⟩]
        exact ⟨_, .putFinalizer phase room⟩
      · rw [if_neg (fun both => room both.2)]
        exact sound.enabled_full (sound.closing.unmarked (.inl phase))
          (Nat.le_of_not_lt room)
  · rintro actor worker next ⟨sound, closer⟩ ahead step
    have unset : worker.futures client = none :=
      Option.eq_none_iff_forall_ne_some.mpr fun outcome set =>
        ahead ⟨outcome, set⟩
    right
    refine ⟨⟨sound.step step, step.closer_mono sound closer⟩, ?_⟩
    by_cases member : client ∈ worker.accepted
    · have member' := step.accepted_mono member
      cases actor with
      | worker =>
          left
          simpa [finalizerRank, member, member'] using
            sound.distance_worker member unset step
      | client mover =>
          right
          obtain ⟨futures, same⟩ := sound.distance_client member step
          refine ⟨?_, ?_, ?_⟩
          · simp [finalizerRank, member, member', unsettledDistance, futures,
              same]
          · simp [finalizerHelper, member, member']
          · simp [finalizerHelper, member]
    · have phase := sound.finalizing kind closer member
      cases actor with
      | worker =>
          left
          have lower := step.rank_worker
          have member' : client ∉ next.accepted := by
            cases step <;> exact member
          simp only [finalizerRank, member, member', if_false]
          omega
      | client mover =>
          by_cases here : mover = client
          · subst here
            exact .inl (step.rank_finalizer member unset phase)
          · right
            obtain ⟨queue, loop, accepted⟩ :=
              sound.queue_client closer here step
            refine ⟨?_, ?_, ?_⟩
            · simp [finalizerRank, member, queue, loop, accepted]
            · simp [finalizerHelper, queue, accepted]
            · unfold finalizerHelper
              split <;> simp [here]

end Finalized

omit [DecidableEq Client] in
/-- A beginning that holds the last entry of a list is the whole list. -/
theorem eq_of_last {early all : List Client} (begins : early <+: all)
    (distinct : all.Nodup) (member : client ∈ early)
    (last : all.getLast? = some client) : early = all := by
  obtain ⟨rest, rfl⟩ := begins
  cases rest with
  | nil => simp
  | cons first later =>
      rw [List.getLast?_append_of_ne_nil _ (by simp)] at last
      have late := List.mem_of_getLast? last
      exact ((List.nodup_append.mp distinct).2.2 _ member _ late rfl).elim

/-- What holds at any time of a worker whose threads move in any order. -/
structure Serial (requests : Client → WorkerRequest)
    (worker : SerialWorker Client Outcome) : Prop where
  /-- Operations run in the order of acceptance, each at most once. -/
  ordered : worker.ran.map Prod.fst <+: worker.accepted
  once : worker.accepted.Nodup
  /-- A call is rejected before its operation is put. -/
  rejected : ∀ client why,
    worker.phases client = .refusing why ∨
      worker.phases client = .done (.refused why) →
    client ∉ worker.accepted
  /-- An outcome is delivered to the caller whose operation had it. -/
  delivered : ∀ client outcome,
    worker.phases client = .done (.outcome outcome) →
    (client, outcome) ∈ worker.ran
  /-- Only the first `close` runs a finalizer, after everything accepted. -/
  finalizer : ∀ client finalizer, requests client = .close finalizer →
    client ∈ worker.accepted →
    worker.closer = some client ∧ worker.accepted.getLast? = some client
  /-- Nothing is left to run after a finalizer. -/
  finale : ∀ client finalizer outcome, requests client = .close finalizer →
    (client, outcome) ∈ worker.ran →
    worker.ran.map Prod.fst = worker.accepted
  /-- The worker stops when everything accepted has run. -/
  drained : worker.loop = .stopped →
    worker.ran.map Prod.fst = worker.accepted

omit [DecidableEq Client] in
theorem Sound.serial (sound : worker.Sound requests) :
    worker.Serial requests where
  ordered := sound.ran_prefix
  once := sound.nodup
  rejected := by
    rintro client why (phase | phase) member
    all_goals
      have put := (sound.entered client).mp member
      rw [phase] at put
      rcases requests client with _ | _ | _ <;>
        simp [ClientPhase.hasPut] at put
  delivered := fun client outcome done =>
    (sound.futures client outcome).mpr (.inl (sound.delivered client outcome done))
  finalizer := fun client finalizer kind member =>
    ⟨sound.closer_of_accepted kind member, sound.last client finalizer kind member⟩
  finale := by
    intro client finalizer outcome kind stored
    have ran : client ∈ worker.ran.map Prod.fst :=
      List.mem_map.mpr ⟨_, stored, rfl⟩
    have final := sound.last client finalizer kind
      (sound.ran_prefix.subset ran)
    exact eq_of_last sound.ran_prefix sound.nodup ran final
  drained := by
    intro stopped
    have behind : worker.pending = .sentinel :: worker.queue := by
      simp [pending, taken, stopped]
    exact (sound.nothing_behind behind).2

/-- Every accepted operation runs once, in the order of acceptance, and is
answered; the finalizer of the first `close` runs after all of them. -/
theorem worker_serial [Inhabited Outcome] (capacity : QueueCapacity)
    (requests : Client → WorkerRequest) :
    (∀ worker : SerialWorker Client Outcome,
      Reachable capacity requests worker → worker.Serial requests) ∧
    ∀ run : FairRun (Step capacity requests)
        ({} : SerialWorker Client Outcome),
      ∀ time client,
        (requests client = .call →
          client ∈ (run.states time).accepted →
          ∃ later, time ≤ later ∧ ∃ outcome,
            (run.states later).phases client = .done (.outcome outcome)) ∧
        (requests client = .close true →
          (run.states time).closer = some client →
          ∃ later, time ≤ later ∧ ∃ outcome,
            (client, outcome) ∈ (run.states later).ran) := by
  refine ⟨fun worker reachable => reachable.sound.serial, ?_⟩
  intro run time client
  refine ⟨fun kind member => FairRun.answered run kind member, ?_⟩
  intro kind closer
  obtain ⟨later, after, outcome, set⟩ := FairRun.finalized run kind closer
  exact ⟨later, after, outcome,
    ((FairRun.sound run later).futures client outcome).mpr (.inl set)⟩

section TwoCalls

/-- When everybody is done nobody can move. -/
theorem over_of_done {capacity : QueueCapacity}
    {requests : Client → WorkerRequest} {worker : SerialWorker Client Outcome}
    (done : ∀ client, ∃ answer, worker.phases client = .done answer)
    (stopped : worker.loop = .stopped) (actor : WorkerActor Client) :
    ¬ Enabled (Step capacity requests) actor worker := by
  rintro ⟨next, step⟩
  cases actor with
  | worker => cases step <;> simp_all
  | client client =>
      obtain ⟨answer, phase⟩ := done client
      cases step <;> simp_all

def fourItems : QueueCapacity where
  value := 4
  bounded := by decide

/-- Two clients call, the third one closes with a finalizer. -/
def twoCalls : Fin 3 → WorkerRequest
  | 0 | 1 => .call
  | 2 => .close true

/-- The second call comes while the first one is at work, and the worker is
closed while the second one is waiting. -/
def closedRun : FairRun (Step fourItems twoCalls)
    ({} : SerialWorker (Fin 3) Nat) :=
  .after (.client 0) (.acquire rfl rfl) <|
  .after (.client 0) (.check rfl rfl rfl) <|
  .after (.client 0) (.putWork rfl (by decide)) <|
  .after (.client 0) (.leave rfl) <|
  .after .worker (.get rfl rfl) <|
  .after (.client 1) (.acquire rfl rfl) <|
  .after (.client 1) (.check rfl rfl rfl) <|
  .after (.client 1) (.putWork rfl (by decide)) <|
  .after .worker (.run 7 rfl) <|
  .after (.client 1) (.leave rfl) <|
  .after (.client 2) (.acquire rfl rfl) <|
  .after (.client 2) (.shut rfl rfl rfl) <|
  .after (.client 2) (.putFinalizer rfl (by decide)) <|
  .after .worker (.settle rfl) <|
  .after .worker (.get rfl rfl) <|
  .after (.client 2) (.putSentinel rfl (by decide)) <|
  .after (.client 2) (.release rfl) <|
  .after (.client 0) (.answer rfl rfl) <|
  .after .worker (.run 8 rfl) <|
  .after .worker (.settle rfl) <|
  .after (.client 1) (.answer rfl rfl) <|
  .after .worker (.get rfl rfl) <|
  .after .worker (.run 9 rfl) <|
  .after .worker (.settle rfl) <|
  .after .worker (.get rfl rfl) <|
  .after .worker (.stop rfl) <|
  .after (.client 2) (.join rfl rfl rfl) <|
  .after (.client 2) (.collect rfl rfl) <|
  .resting (over_of_done
    (fun
      | 0 => ⟨_, rfl⟩
      | 1 => ⟨_, rfl⟩
      | 2 => ⟨_, rfl⟩) rfl)

/-- Both calls are answered, and the finalizer runs. -/
theorem two_calls_answered :
    (∃ later, 13 ≤ later ∧ ∃ outcome,
      (closedRun.states later).phases 0 = .done (.outcome outcome)) ∧
    (∃ later, 13 ≤ later ∧ ∃ outcome,
      (closedRun.states later).phases 1 = .done (.outcome outcome)) ∧
    ∃ later, 13 ≤ later ∧ ∃ outcome,
      (2, outcome) ∈ (closedRun.states later).ran :=
  have served := (worker_serial fourItems twoCalls).2 closedRun 13
  ⟨(served 0).1 rfl (by decide), (served 1).1 rfl (by decide),
    (served 2).2 rfl rfl⟩

end TwoCalls

end SerialWorker

end ReplayForge

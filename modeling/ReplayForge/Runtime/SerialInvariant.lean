import ReplayForge.Runtime.SerialWorker
import Mathlib.Data.List.Nodup

/-!
# The invariant of the serial worker

`Clients` relates the phases of the invocations to the lock and to the flag;
`Order` relates what was accepted to what is queued and to what was run.
-/

namespace ReplayForge

variable {Client Outcome : Type}

namespace ClientPhase

/-- The phases an invocation of one kind can be in. -/
def fits : WorkerRequest → ClientPhase Outcome → Bool
  | _, .entering | _, .locked => true
  | .call, .checked | .call, .refusing _ | .call, .enqueued | .call, .waiting
  | .call, .done (.refused _) | .call, .done (.outcome _) => true
  | .close _, .ignoring | .close _, .marking | .close _, .marked
  | .close _, .joining | .close _, .done .closed => true
  | .close true, .finalizing | .close true, .collecting
  | .close true, .done (.outcome _) => true
  | _, _ => false

def holdsLock : ClientPhase Outcome → Bool
  | .locked | .checked | .refusing _ | .enqueued | .ignoring | .finalizing
  | .marking | .marked => true
  | _ => false

/-- The invocation has cleared the flag and has not returned. -/
def closes : ClientPhase Outcome → Bool
  | .finalizing | .marking | .marked | .joining | .collecting => true
  | _ => false

/-- The sentinel of the invocation that closes has been put. -/
def hasMarked : ClientPhase Outcome → Bool
  | .marked | .joining | .collecting | .done _ => true
  | _ => false

/-- The operation or the finalizer of the invocation has been put. -/
def hasPut : WorkerRequest → ClientPhase Outcome → Bool
  | _, .enqueued | _, .waiting | _, .done (.outcome _) => true
  | .close true, .marking | .close true, .marked | .close true, .joining
  | .close true, .collecting => true
  | _, _ => false

end ClientPhase

namespace SerialWorker

variable {capacity : QueueCapacity} {requests : Client → WorkerRequest}

/-- The part of the invariant about the first invocation of `close`. -/
structure Closing (requests : Client → WorkerRequest)
    (worker : SerialWorker Client Outcome) : Prop where
  closing : ∀ client, (worker.phases client).closes = true →
    worker.closer = some client
  finalized : ∀ client outcome finalizer,
    requests client = .close finalizer →
    worker.phases client = .done (.outcome outcome) →
    worker.closer = some client
  opened : worker.accepting = true ↔ worker.closer = none
  closer : ∀ client, worker.closer = some client →
    (worker.phases client).closes = true ∨
      ∃ answer, worker.phases client = .done answer ∧
        (requests client = .close true → answer ≠ .closed)

/-- A phase of the client that closes. -/
def Closed (requests : Client → WorkerRequest) (client : Client)
    (phase : ClientPhase Outcome) : Prop :=
  phase.closes = true ∨
    ∃ answer, phase = .done answer ∧
      (requests client = .close true → answer ≠ .closed)

/-- What the loop has taken and not executed. -/
def taken : LoopPhase Client Outcome → List (WorkItem Client)
  | .took item => [item]
  | .stopped => [.sentinel]
  | _ => []

def pending (worker : SerialWorker Client Outcome) : List (WorkItem Client) :=
  taken worker.loop ++ worker.queue

/-- The sentinel has been put. -/
def hasSentinel (worker : SerialWorker Client Outcome) : Bool :=
  worker.closer.any fun client => (worker.phases client).hasMarked

/-- The items ahead of the worker are what was accepted and not run. -/
def Awaits (worker : SerialWorker Client Outcome) (waiting : List Client) :
    Prop :=
  worker.pending = waiting.map .work ++
    (if worker.hasSentinel then [.sentinel] else []) ∧
  worker.ran.map Prod.fst ++ waiting = worker.accepted

variable {worker next : SerialWorker Client Outcome}
  {actor : WorkerActor Client}

/-- A step of a client that puts nothing leaves the items as they are. -/
theorem Awaits.congr {waiting : List Client} (awaits : worker.Awaits waiting)
    (items : next.pending = worker.pending)
    (sentinel : next.hasSentinel = worker.hasSentinel)
    (ran : next.ran = worker.ran) (accepted : next.accepted = worker.accepted) :
    next.Awaits waiting := by
  unfold Awaits
  rw [items, sentinel, ran, accepted]
  exact awaits

theorem Closing.unmarked (closing : worker.Closing requests) {client : Client}
    (phase : worker.phases client = .finalizing ∨
      worker.phases client = .marking) : worker.hasSentinel = false := by
  have closer := closing.closing client
    (by rcases phase with phase | phase <;> simp [phase, ClientPhase.closes])
  rcases phase with phase | phase <;>
    simp [hasSentinel, closer, phase, ClientPhase.hasMarked]

/-- An invocation that has not cleared the flag is not the one that closes. -/
theorem Closing.not_closer (closing : worker.Closing requests)
    {client : Client} (open' : (worker.phases client).closes = false)
    (running : ∀ answer, worker.phases client ≠ .done answer) :
    worker.closer ≠ some client := by
  intro closer
  rcases closing.closer client closer with closes | ⟨answer, done, _⟩
  · simp [open'] at closes
  · exact running answer done

variable [DecidableEq Client]

section Step

theorem Step.fits
    (fits : ∀ client, (worker.phases client).fits (requests client) = true)
    (step : Step capacity requests actor worker next) (client : Client) :
    (next.phases client).fits (requests client) = true := by
  have fit := fits client
  cases step with
  | get | stop | run | settle => exact fit
  | shut kind | join kind =>
      rw [moveTo_phases]
      split
      next same =>
        subst same
        rw [kind]
        split <;> simp_all [ClientPhase.fits]
      next => exact fit
  | _ =>
      rw [moveTo_phases]
      split
      next same =>
        subst same
        revert fit
        rcases kind : requests client with _ | _ | _ <;>
          simp_all [ClientPhase.fits]
      next => exact fit

theorem Step.locked
    (locked : ∀ client,
      (worker.phases client).holdsLock = true ↔ worker.lock = some client)
    (step : Step capacity requests actor worker next) (client : Client) :
    (next.phases client).holdsLock = true ↔ next.lock = some client := by
  cases step <;> simp only [moveTo, accept, put] <;>
    grind [ClientPhase.holdsLock]

theorem Step.checked
    (locked : ∀ client,
      (worker.phases client).holdsLock = true ↔ worker.lock = some client)
    (checked : ∀ client, worker.phases client = .checked →
      worker.accepting = true)
    (step : Step capacity requests actor worker next) (client : Client)
    (phase : next.phases client = .checked) : next.accepting = true := by
  revert phase
  cases step <;> simp only [moveTo, accept, put] <;>
    grind [ClientPhase.holdsLock]

theorem Closing.step (closing : worker.Closing requests)
    (fits : ∀ client, (worker.phases client).fits (requests client) = true)
    (step : Step capacity requests actor worker next) :
    next.Closing requests where
  closing client closes := by
    have before := closing.closing client
    have opened := closing.opened
    revert closes
    cases step <;> simp only [moveTo, accept, put] <;>
      grind [ClientPhase.closes]
  finalized client outcome finalizer kind := by
    have before := closing.finalized client outcome finalizer kind
    have closes := closing.closing client
    have fit := fits client
    have opened := closing.opened
    cases step <;> simp only [moveTo, accept, put] <;>
      grind [ClientPhase.closes, ClientPhase.fits]
  opened := by
    have before := closing.opened
    cases step <;> simp only [moveTo, accept, put] <;> grind
  closer client found := by
    have stays (other : Client) (phase : ClientPhase Outcome)
        (lands : client = other → Closed requests client phase)
        (found : worker.closer = some client) :
        Closed requests client
          (if client = other then phase else worker.phases client) := by
      split
      next same => exact lands same
      next => exact closing.closer client found
    have idle {other : Client} (open' : (worker.phases other).closes = false)
        (running : ∀ answer, worker.phases other ≠ .done answer)
        (found : worker.closer = some client) (phase : ClientPhase Outcome) :
        Closed requests client
          (if client = other then phase else worker.phases client) :=
      stays other phase (fun same => absurd (same ▸ found)
        (closing.not_closer open' running)) found
    cases step with
    | get | stop | run | settle => exact closing.closer client found
    | @shut _ other finalizer kind phase accepting =>
        cases found
        left
        simp only [moveTo_phases, if_pos]
        cases finalizer <;> rfl
    | putFinalizer | putSentinel | release =>
        exact stays _ _ (fun _ => .inl rfl) found
    | @join _ other finalizer kind phase stopped =>
        refine stays _ _ (fun same => ?_) found
        subst same
        cases finalizer with
        | true => exact .inl rfl
        | false => exact .inr ⟨.closed, rfl, by simp [kind]⟩
    | @collect _ other outcome phase set =>
        exact stays _ _ (fun _ => .inr ⟨.outcome outcome, rfl, by simp⟩) found
    | _ =>
        refine idle ?_ ?_ found _
        all_goals simp [*, ClientPhase.closes]

theorem Step.entered
    (fits : ∀ client, (worker.phases client).fits (requests client) = true)
    (entered : ∀ client, client ∈ worker.accepted ↔
      (worker.phases client).hasPut (requests client) = true)
    (step : Step capacity requests actor worker next) (client : Client) :
    client ∈ next.accepted ↔
      (next.phases client).hasPut (requests client) = true := by
  have fit := fits client
  have enter := entered client
  cases step with
  | get | stop | run | settle => exact enter
  | putWork phase | putFinalizer phase =>
      simp only [moveTo, accept, put, List.mem_append, List.mem_singleton]
      split
      next same =>
        subst same
        rw [phase] at fit
        rcases kind : requests client with _ | _ | _ <;>
          simp_all [ClientPhase.fits, ClientPhase.hasPut]
      next other => simpa [other] using enter
  | shut kind | join kind =>
      simp only [moveTo]
      split
      next same =>
        subst same
        rw [kind] at enter ⊢
        split <;> simp_all [ClientPhase.hasPut]
      next => exact enter
  | _ =>
      simp only [moveTo, put]
      split
      next same =>
        subst same
        rcases kind : requests client with _ | _ | _ <;>
          simp_all [ClientPhase.fits, ClientPhase.hasPut]
      next => exact enter

theorem hasSentinel_moveTo {client : Client} {phase : ClientPhase Outcome}
    (same : worker.closer = some client →
      phase.hasMarked = (worker.phases client).hasMarked) :
    (worker.moveTo client phase).hasSentinel = worker.hasSentinel := by
  simp only [hasSentinel, moveTo]
  cases found : worker.closer with
  | none => rfl
  | some other =>
      by_cases here : other = client
      · subst here
        simpa using same found
      · simp [here]

theorem Awaits.accept {waiting : List Client} (awaits : worker.Awaits waiting)
    {client : Client} {phase : ClientPhase Outcome}
    (unmarked : worker.hasSentinel = false)
    (same : ((worker.accept client).moveTo client phase).hasSentinel = false) :
    ((worker.accept client).moveTo client phase).Awaits
      (waiting ++ [client]) := by
  obtain ⟨items, order⟩ := awaits
  constructor
  · rw [same]
    rw [unmarked] at items
    simp only [pending, moveTo, SerialWorker.accept, put] at items ⊢
    rw [← List.append_assoc, items]
    simp
  · simp [moveTo, SerialWorker.accept, put, ← order]

theorem Awaits.step {waiting : List Client} (awaits : worker.Awaits waiting)
    (closing : worker.Closing requests)
    (checked : ∀ client, worker.phases client = .checked →
      worker.accepting = true)
    (step : Step capacity requests actor worker next) :
    ∃ waiting', next.Awaits waiting' := by
  have beside : ∀ client (phase : ClientPhase Outcome),
      (worker.phases client).closes = false →
      (∀ answer, worker.phases client ≠ .done answer) →
      worker.closer = some client →
      phase.hasMarked = (worker.phases client).hasMarked :=
    fun client _ open' running closer =>
      (closing.not_closer open' running closer).elim
  cases step with
  | get phase queue =>
      refine ⟨waiting, awaits.congr ?_ rfl rfl rfl⟩
      simp [pending, taken, phase, queue]
  | stop phase =>
      refine ⟨waiting, awaits.congr ?_ rfl rfl rfl⟩
      simp [pending, taken, phase]
  | settle phase =>
      refine ⟨waiting, awaits.congr ?_ rfl rfl rfl⟩
      simp [pending, taken, phase]
  | @run _ client outcome phase =>
      obtain ⟨items, order⟩ := awaits
      simp only [pending, phase, taken, List.singleton_append] at items
      cases waiting with
      | nil => 
          split at items <;> simp at items
      | cons first rest =>
          simp only [List.map_cons, List.cons_append, List.cons.injEq,
            WorkItem.work.injEq] at items
          obtain ⟨rfl, later⟩ := items
          exact ⟨rest, later, by simpa using order⟩
  | @putWork _ client phase room =>
      have fresh := closing.opened.mp (checked client phase)
      exact ⟨_, awaits.accept (by simp [hasSentinel, fresh])
        (by simp [hasSentinel, moveTo, SerialWorker.accept, put, fresh])⟩
  | @putFinalizer _ client phase room =>
      have closer := closing.closing client (by simp [phase, ClientPhase.closes])
      exact ⟨_, awaits.accept (closing.unmarked (.inl phase))
        (by simp [hasSentinel, moveTo, SerialWorker.accept, put, closer,
          ClientPhase.hasMarked])⟩
  | @putSentinel _ client phase room =>
      have closer := closing.closing client (by simp [phase, ClientPhase.closes])
      have marked : ((worker.put .sentinel).moveTo client
          .marked).hasSentinel = true := by
        simp [hasSentinel, moveTo, put, closer, ClientPhase.hasMarked]
      obtain ⟨items, order⟩ := awaits
      rw [closing.unmarked (.inr phase)] at items
      refine ⟨waiting, ?_, order⟩
      rw [marked]
      simp only [pending, moveTo, put] at items ⊢
      rw [← List.append_assoc, items]
      simp
  | @shut _ client finalizer kind phase accepting =>
      refine ⟨waiting, awaits.congr rfl ?_ rfl rfl⟩
      have fresh := closing.opened.mp accepting
      cases finalizer <;>
        simp [hasSentinel, moveTo, fresh, ClientPhase.hasMarked]
  | release phase =>
      exact ⟨waiting, awaits.congr rfl (hasSentinel_moveTo
        (by simp [phase, ClientPhase.hasMarked])) rfl rfl⟩
  | @join _ client finalizer kind phase stopped =>
      exact ⟨waiting, awaits.congr rfl (hasSentinel_moveTo
        (by cases finalizer <;> simp [phase, ClientPhase.hasMarked])) rfl rfl⟩
  | collect phase _ =>
      exact ⟨waiting, awaits.congr rfl (hasSentinel_moveTo
        (by simp [phase, ClientPhase.hasMarked])) rfl rfl⟩
  | acquire phase | leave phase | reject phase | answer phase | giveUp phase
  | refuseFull phase =>
      refine ⟨waiting, awaits.congr rfl (hasSentinel_moveTo ?_) rfl rfl⟩
      exact beside _ _ (by simp [phase, ClientPhase.closes]) (by simp [phase])
  | check _ phase | refuseClosed _ phase | ignore _ phase =>
      refine ⟨waiting, awaits.congr rfl (hasSentinel_moveTo ?_) rfl rfl⟩
      exact beside _ _ (by simp [phase, ClientPhase.closes]) (by simp [phase])

structure Sound (requests : Client → WorkerRequest)
    (worker : SerialWorker Client Outcome) : Prop where
  fits : ∀ client, (worker.phases client).fits (requests client) = true
  locked : ∀ client,
    (worker.phases client).holdsLock = true ↔ worker.lock = some client
  checked : ∀ client, worker.phases client = .checked →
    worker.accepting = true
  closing : worker.Closing requests
  entered : ∀ client, client ∈ worker.accepted ↔
    (worker.phases client).hasPut (requests client) = true
  awaits : ∃ waiting, worker.Awaits waiting
  nodup : worker.accepted.Nodup
  futures : ∀ client outcome, (client, outcome) ∈ worker.ran ↔
    worker.futures client = some outcome ∨ worker.loop = .ran client outcome
  delivered : ∀ client outcome,
    worker.phases client = .done (.outcome outcome) →
    worker.futures client = some outcome
  last : ∀ client finalizer, requests client = .close finalizer →
    client ∈ worker.accepted → worker.accepted.getLast? = some client

omit [DecidableEq Client] in
theorem sound_created :
    Sound requests ({} : SerialWorker Client Outcome) where
  fits := fun client => by cases requests client <;> rfl
  locked := fun client => by simp [ClientPhase.holdsLock]
  checked := fun client checked => by cases checked
  closing :=
    { closing := fun client closes => by cases closes
      finalized := fun client outcome finalizer _ done => by cases done
      opened := by simp
      closer := fun client closed => by cases closed }
  entered := fun client => by cases requests client <;> simp [ClientPhase.hasPut]
  awaits := ⟨[], rfl, rfl⟩
  nodup := List.nodup_nil
  futures := fun client outcome => by simp
  delivered := fun client outcome done => by cases done
  last := fun client _ _ member => nomatch member

omit [DecidableEq Client] in
theorem Sound.ran_prefix (sound : worker.Sound requests) :
    worker.ran.map Prod.fst <+: worker.accepted := by
  obtain ⟨waiting, _, order⟩ := sound.awaits
  exact ⟨waiting, order⟩

omit [DecidableEq Client] in
/-- Every operation runs once. -/
theorem Sound.ran_unique (sound : worker.Sound requests) {client : Client}
    {first second : Outcome} (one : (client, first) ∈ worker.ran)
    (two : (client, second) ∈ worker.ran) : first = second := by
  have distinct := sound.nodup.sublist sound.ran_prefix.sublist
  have same := List.inj_on_of_nodup_map distinct one two rfl
  exact congrArg Prod.snd same

omit [DecidableEq Client] in
/-- Only the first invocation of `close` has its finalizer accepted. -/
theorem Sound.closer_of_accepted (sound : worker.Sound requests)
    {client : Client} {finalizer : Bool}
    (kind : requests client = .close finalizer)
    (member : client ∈ worker.accepted) : worker.closer = some client := by
  have put := (sound.entered client).mp member
  have fit := sound.fits client
  have closes := sound.closing.closing client
  rw [kind] at put fit
  cases phase : worker.phases client with
  | done answer =>
      cases answer with
      | outcome outcome =>
          exact sound.closing.finalized client outcome finalizer kind phase
      | refused why => simp [phase, ClientPhase.hasPut] at put
      | closed => cases finalizer <;> simp [phase, ClientPhase.hasPut] at put
  | _ =>
      cases finalizer <;>
        simp_all [ClientPhase.hasPut, ClientPhase.closes, ClientPhase.fits]

theorem Step.futures (sound : worker.Sound requests)
    (step : Step capacity requests actor worker next) (client : Client)
    (outcome : Outcome) :
    (client, outcome) ∈ next.ran ↔
      next.futures client = some outcome ∨ next.loop = .ran client outcome := by
  have futures := sound.futures client outcome
  cases step with
  | get phase _ | stop phase => simpa [phase] using futures
  | run result phase =>
      simp only [phase, reduceCtorEq, or_false] at futures
      simp only [List.mem_append, futures, List.mem_singleton, Prod.mk.injEq,
        LoopPhase.ran.injEq]
      exact or_congr Iff.rfl (and_congr eq_comm eq_comm)
  | @settle _ settled result phase =>
      have stored : (settled, result) ∈ worker.ran :=
        (sound.futures settled result).mpr (.inr phase)
      by_cases here : client = settled
      · subst here
        simp only [if_true, Option.some.injEq, reduceCtorEq, or_false]
        exact ⟨sound.ran_unique stored, fun same => same ▸ stored⟩
      · have other : settled ≠ client := Ne.symm here
        simpa [phase, here, other] using futures
  | _ => exact futures

theorem Step.delivered (sound : worker.Sound requests)
    (step : Step capacity requests actor worker next) (client : Client)
    (outcome : Outcome) (done : next.phases client = .done (.outcome outcome)) :
    next.futures client = some outcome := by
  have delivered := sound.delivered client outcome
  cases step with
  | get | stop | run => exact delivered done
  | @settle _ settled result phase =>
      have before := delivered done
      by_cases here : client = settled
      · subst here
        have one := (sound.futures client outcome).mpr (.inl before)
        have two := (sound.futures client result).mpr (.inr phase)
        simp [sound.ran_unique one two]
      · simpa [here] using before
  | answer _ answered | collect _ answered =>
      rw [moveTo_phases] at done
      split at done
      next same =>
        subst same
        cases done
        exact answered
      next => exact delivered done
  | shut | join =>
      rw [moveTo_phases] at done
      split at done
      next => split at done <;> cases done
      next => exact delivered done
  | _ =>
      rw [moveTo_phases] at done
      split at done
      next => cases done
      next => exact delivered done

theorem Step.nodup (sound : worker.Sound requests)
    (step : Step capacity requests actor worker next) :
    next.accepted.Nodup := by
  cases step with
  | @putWork _ client phase _ | @putFinalizer _ client phase _ =>
      have fresh : client ∉ worker.accepted := by
        rw [sound.entered client, phase]
        cases requests client <;> simp [ClientPhase.hasPut]
      change (worker.accepted ++ [client]).Nodup
      rw [← List.concat_eq_append]
      exact List.Nodup.concat fresh sound.nodup
  | _ => exact sound.nodup

theorem Step.last (sound : worker.Sound requests)
    (step : Step capacity requests actor worker next) (client : Client)
    (finalizer : Bool) (kind : requests client = .close finalizer)
    (member : client ∈ next.accepted) :
    next.accepted.getLast? = some client := by
  cases step with
  | @putWork _ caller phase _ =>
      have calls := sound.fits caller
      rcases List.mem_append.mp member with old | new
      · have closer := sound.closer_of_accepted kind old
        have fresh := sound.closing.opened.mp (sound.checked caller phase)
        simp [fresh] at closer
      · rw [List.mem_singleton.mp new] at kind
        simp [phase, kind, ClientPhase.fits] at calls
  | @putFinalizer _ closer phase _ =>
      have same : client = closer := by
        rcases List.mem_append.mp member with old | new
        · have first := sound.closer_of_accepted kind old
          have second := sound.closing.closing closer
            (by simp [phase, ClientPhase.closes])
          exact Option.some.inj (first.symm.trans second)
        · exact List.mem_singleton.mp new
      simp [moveTo, same]
  | _ => exact sound.last client finalizer kind member

theorem Sound.step (sound : worker.Sound requests)
    (step : Step capacity requests actor worker next) :
    next.Sound requests where
  fits := step.fits sound.fits
  locked := step.locked sound.locked
  checked := step.checked sound.locked sound.checked
  closing := sound.closing.step sound.fits step
  entered := step.entered sound.fits sound.entered
  awaits := by
    obtain ⟨waiting, awaits⟩ := sound.awaits
    exact awaits.step sound.closing sound.checked step
  nodup := step.nodup sound
  futures := step.futures sound
  delivered := step.delivered sound
  last := step.last sound

theorem Reachable.sound (reachable : Reachable capacity requests worker) :
    worker.Sound requests := by
  induction reachable with
  | created => exact sound_created
  | step _ step ih => exact ih.step step

end Step

end SerialWorker

end ReplayForge

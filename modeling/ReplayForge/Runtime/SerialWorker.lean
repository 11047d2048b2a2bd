import ReplayForge.Effect.Fairness

/-!
# The serial session worker

Clients call and close a worker from any number of threads.  A client is one
invocation of `call` or of `close`, and its phase says how far it has come;
the worker's own thread takes one item of the queue after the other.
-/

namespace ReplayForge

/-- Why a call is rejected before it is enqueued. -/
inductive Refusal where
  | closed
  | full
deriving DecidableEq, Repr

def Refusal.message : Refusal → String
  | .closed => "session worker is closed"
  | .full => "session worker queue is full"

structure QueueCapacity where
  value : Nat
  bounded : 1 ≤ value ∧ value ≤ 1024

inductive WorkerRequest where
  | call
  | close (finalizer : Bool)
deriving DecidableEq, Repr

inductive WorkItem (Client : Type) where
  | work (client : Client)
  | sentinel
deriving DecidableEq

/-- How an invocation ends; an outcome is a value or what was raised. -/
inductive Answer (Outcome : Type) where
  | refused (why : Refusal)
  | outcome (outcome : Outcome)
  | closed
deriving DecidableEq

inductive ClientPhase (Outcome : Type) where
  | entering
  | locked
  | checked
  | refusing (why : Refusal)
  | enqueued
  | waiting
  | ignoring
  | finalizing
  | marking
  | marked
  | joining
  | collecting
  | done (answer : Answer Outcome)
deriving DecidableEq

/-- Where the loop of the worker's thread stands. -/
inductive LoopPhase (Client Outcome : Type) where
  | getting
  | took (item : WorkItem Client)
  | ran (client : Client) (outcome : Outcome)
  | stopped
deriving DecidableEq

/-- `accepted`, `ran` and `closer` record the order of acceptance, the order of
execution and the first invocation of `close`. -/
structure SerialWorker (Client Outcome : Type) where
  accepting : Bool := true
  lock : Option Client := none
  queue : List (WorkItem Client) := []
  loop : LoopPhase Client Outcome := .getting
  futures : Client → Option Outcome := fun _ => none
  phases : Client → ClientPhase Outcome := fun _ => .entering
  accepted : List Client := []
  ran : List (Client × Outcome) := []
  closer : Option Client := none

inductive WorkerActor (Client : Type) where
  | worker
  | client (client : Client)
deriving DecidableEq

variable {Client Outcome : Type} [DecidableEq Client]

namespace SerialWorker

def moveTo (worker : SerialWorker Client Outcome) (client : Client)
    (phase : ClientPhase Outcome) : SerialWorker Client Outcome :=
  { worker with
    phases := fun other => if other = client then phase else worker.phases other }

def put (worker : SerialWorker Client Outcome) (item : WorkItem Client) :
    SerialWorker Client Outcome :=
  { worker with queue := worker.queue ++ [item] }

/-- The item of a client is put, which is its acceptance. -/
def accept (worker : SerialWorker Client Outcome) (client : Client) :
    SerialWorker Client Outcome :=
  { worker.put (.work client) with accepted := worker.accepted ++ [client] }

inductive Step (capacity : QueueCapacity) (requests : Client → WorkerRequest) :
    WorkerActor Client → SerialWorker Client Outcome →
      SerialWorker Client Outcome → Prop where
  | acquire {worker : SerialWorker Client Outcome} {client : Client} :
      worker.phases client = .entering → worker.lock = none →
      Step capacity requests (.client client) worker
        ({ worker with lock := some client }.moveTo client .locked)
  -- `call`
  | check {worker : SerialWorker Client Outcome} {client : Client} :
      requests client = .call → worker.phases client = .locked →
      worker.accepting = true →
      Step capacity requests (.client client) worker
        (worker.moveTo client .checked)
  | refuseClosed {worker : SerialWorker Client Outcome} {client : Client} :
      requests client = .call → worker.phases client = .locked →
      worker.accepting = false →
      Step capacity requests (.client client) worker
        (worker.moveTo client (.refusing .closed))
  | putWork {worker : SerialWorker Client Outcome} {client : Client} :
      worker.phases client = .checked →
      worker.queue.length < capacity.value →
      Step capacity requests (.client client) worker
        ((worker.accept client).moveTo client .enqueued)
  | refuseFull {worker : SerialWorker Client Outcome} {client : Client} :
      worker.phases client = .checked →
      capacity.value ≤ worker.queue.length →
      Step capacity requests (.client client) worker
        (worker.moveTo client (.refusing .full))
  | leave {worker : SerialWorker Client Outcome} {client : Client} :
      worker.phases client = .enqueued →
      Step capacity requests (.client client) worker
        ({ worker with lock := none }.moveTo client .waiting)
  | reject {worker : SerialWorker Client Outcome} {client : Client}
      {why : Refusal} :
      worker.phases client = .refusing why →
      Step capacity requests (.client client) worker
        ({ worker with lock := none }.moveTo client (.done (.refused why)))
  | answer {worker : SerialWorker Client Outcome} {client : Client}
      {outcome : Outcome} :
      worker.phases client = .waiting →
      worker.futures client = some outcome →
      Step capacity requests (.client client) worker
        (worker.moveTo client (.done (.outcome outcome)))
  -- `close`
  | ignore {worker : SerialWorker Client Outcome} {client : Client}
      {finalizer : Bool} :
      requests client = .close finalizer → worker.phases client = .locked →
      worker.accepting = false →
      Step capacity requests (.client client) worker
        (worker.moveTo client .ignoring)
  | giveUp {worker : SerialWorker Client Outcome} {client : Client} :
      worker.phases client = .ignoring →
      Step capacity requests (.client client) worker
        ({ worker with lock := none }.moveTo client (.done .closed))
  | shut {worker : SerialWorker Client Outcome} {client : Client}
      {finalizer : Bool} :
      requests client = .close finalizer → worker.phases client = .locked →
      worker.accepting = true →
      Step capacity requests (.client client) worker
        ({ worker with accepting := false, closer := some client }.moveTo client
          (if finalizer then .finalizing else .marking))
  | putFinalizer {worker : SerialWorker Client Outcome} {client : Client} :
      worker.phases client = .finalizing →
      worker.queue.length < capacity.value →
      Step capacity requests (.client client) worker
        ((worker.accept client).moveTo client .marking)
  | putSentinel {worker : SerialWorker Client Outcome} {client : Client} :
      worker.phases client = .marking →
      worker.queue.length < capacity.value →
      Step capacity requests (.client client) worker
        ((worker.put .sentinel).moveTo client .marked)
  | release {worker : SerialWorker Client Outcome} {client : Client} :
      worker.phases client = .marked →
      Step capacity requests (.client client) worker
        ({ worker with lock := none }.moveTo client .joining)
  | join {worker : SerialWorker Client Outcome} {client : Client}
      {finalizer : Bool} :
      requests client = .close finalizer → worker.phases client = .joining →
      worker.loop = .stopped →
      Step capacity requests (.client client) worker
        (worker.moveTo client (if finalizer then .collecting else .done .closed))
  | collect {worker : SerialWorker Client Outcome} {client : Client}
      {outcome : Outcome} :
      worker.phases client = .collecting →
      worker.futures client = some outcome →
      Step capacity requests (.client client) worker
        (worker.moveTo client (.done (.outcome outcome)))
  -- The loop of the worker.  No future is ever cancelled: only the caller has
  -- it, and the caller waits.
  | get {worker : SerialWorker Client Outcome} {item : WorkItem Client}
      {rest : List (WorkItem Client)} :
      worker.loop = .getting → worker.queue = item :: rest →
      Step capacity requests .worker worker
        { worker with queue := rest, loop := .took item }
  | stop {worker : SerialWorker Client Outcome} :
      worker.loop = .took .sentinel →
      Step capacity requests .worker worker { worker with loop := .stopped }
  | run {worker : SerialWorker Client Outcome} {client : Client}
      (outcome : Outcome) :
      worker.loop = .took (.work client) →
      Step capacity requests .worker worker
        { worker with
          loop := .ran client outcome
          ran := worker.ran ++ [(client, outcome)] }
  | settle {worker : SerialWorker Client Outcome} {client : Client}
      {outcome : Outcome} :
      worker.loop = .ran client outcome →
      Step capacity requests .worker worker
        { worker with
          loop := .getting
          futures := fun other =>
            if other = client then some outcome else worker.futures other }

inductive Reachable (capacity : QueueCapacity)
    (requests : Client → WorkerRequest) :
    SerialWorker Client Outcome → Prop where
  | created : Reachable capacity requests {}
  | step {worker next : SerialWorker Client Outcome}
      {actor : WorkerActor Client} :
      Reachable capacity requests worker →
      Step capacity requests actor worker next →
      Reachable capacity requests next

@[simp]
theorem moveTo_phases (worker : SerialWorker Client Outcome)
    (client other : Client) (phase : ClientPhase Outcome) :
    (worker.moveTo client phase).phases other =
      if other = client then phase else worker.phases other := rfl

omit [DecidableEq Client] in
@[simp]
theorem accept_accepted (worker : SerialWorker Client Outcome)
    (client : Client) :
    (worker.accept client).accepted = worker.accepted ++ [client] := rfl

end SerialWorker

end ReplayForge

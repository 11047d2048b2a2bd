import ReplayForge.Discovery.Outcomes

/-!
# The pace of a discovery

The model is asked within the time budget, which does not run while a human
holds the session, and an operation it keeps proposing is handed over before it
is dispatched once too often.
-/

namespace ReplayForge

open Effect

namespace Discovery.Engine

/-! ## The clock of a history -/

/-- The clock readings of a history: the start of the time budget, moved on by
every pause, the last reading, and the reading before a pause that no reading
followed. -/
structure Clock where
  began : Option Int := none
  last : Int := 0
  stopped : Option Int := none

def Clock.read (clock : Clock) (reading : Int) : Clock :=
  match clock.began, clock.stopped with
  | none, _ => { began := some reading, last := reading }
  | some _, none => { clock with last := reading }
  | some began, some stopped =>
      { began := some (began + (reading - stopped)), last := reading }

def Clock.tick (clock : Clock) : DiscoveryEvent → Clock
  | ⟨.inl (.inl .now), reading⟩ => clock.read reading
  | ⟨.inr _, _⟩ => { clock with stopped := some clock.last }
  | _ => clock

def clocked (history : List DiscoveryEvent) : Clock :=
  history.foldl Clock.tick {}

/-! ## The repetitions of a history -/

/-- The operation proposed last, with the length of its repetition. -/
structure Streak where
  operation : Option String := none
  length : Nat := 0

/-- The action an answer stands for, on its own. -/
def groundedProposal (request : DiscoveryRequest) :
    DiscoveryProposal → Option ActProposal
  | .act proposal => some proposal
  | .recordedAction stepId rationale expected => do
      let scenario ← request.scenario
      let step ← scenario.primary.steps.find? (·.id = stepId)
      (referenceProposal step rationale expected).toOption
  | .branch condition rationale => some (branchProposal condition rationale)
  | .complete _ | .escalate _ _ => none

variable (engine : Discovery.Engine) (request : DiscoveryRequest)

def Streak.propose (streak : Streak) (proposal : ActProposal) : Streak :=
  let operation := engine.libraries.operationFingerprint proposal
  if some operation = streak.operation then
    { operation := some operation, length := streak.length + 1 }
  else
    { operation := some operation, length := 1 }

/-- A pause ends a repetition. -/
def Streak.advance (streak : Streak) : DiscoveryEvent → Streak
  | ⟨.inl (.inr (.decide _)), .ok answer⟩ =>
      match groundedProposal request answer with
      | some proposal => Streak.propose engine streak proposal
      | none => streak
  | ⟨.inr _, _⟩ => {}
  | _ => streak

def streaked (history : List DiscoveryEvent) : Streak :=
  history.foldl (Streak.advance engine request) {}

/-! ## Causes -/

/-- A reading of the same pass lies within the time budget. -/
def Timely (past : List DiscoveryEvent) : Prop :=
  ∃ front reading rest began, past = front ++ staged ⟨.now, reading⟩ :: rest ∧
    (∀ event ∈ rest, stageKind event ∉ [.decide, .pause]) ∧
    (clocked past).began = some began ∧ reading - began < request.timeout

/-- The model is asked in time, and no operation is dispatched that was
proposed more often in a row than the request allows. -/
structure Pace (past : List DiscoveryEvent) (event : DiscoveryEvent) : Prop
    where
  timely : stageKind event = .decide → Timely request past
  varied : IsDispatch event →
    (streaked engine request past).length ≤ request.maxRepeatedAction

/-- The repetition that the locals count. -/
def counted (state : DiscoveryState) : Streak where
  operation := state.previousAction
  length := if state.previousAction.isSome then state.repeatedAction + 1 else 0

/-- The locals are those of the history, up to the given repetition. -/
structure Paced (streak : Streak) (seen : List DiscoveryEvent)
    (state : DiscoveryState) : Prop where
  paced : Justified (Pace engine request) [] seen
  began : (clocked seen).began = some state.startedAt
  running : (clocked seen).stopped = none
  streak : streaked engine request seen = streak

variable {engine request} {seen : List DiscoveryEvent}
  {state other : DiscoveryState} {streak : Streak}

/-! ## Runtime events -/

theorem clocked_append (events : List DiscoveryEvent) :
    clocked (seen ++ events) = events.foldl Clock.tick (clocked seen) :=
  List.foldl_append

theorem streaked_append (events : List DiscoveryEvent) :
    streaked engine request (seen ++ events) =
      events.foldl (Streak.advance engine request)
        (streaked engine request seen) :=
  List.foldl_append

theorem streaked_staged (own : List RuntimeEvent) :
    streaked engine request (seen ++ own.map staged) =
      streaked engine request seen := by
  rw [streaked_append]
  generalize streaked engine request seen = streak
  induction own with
  | nil => rfl
  | cons event rest ih => exact ih

/-- A running clock that has begun stays so. -/
theorem Clock.tick_staged {clock : Clock} {began : Int}
    (begun : clock.began = some began) (running : clock.stopped = none)
    (event : RuntimeEvent) :
    (clock.tick (staged event)).began = some began ∧
      (clock.tick (staged event)).stopped = none := by
  obtain ⟨op, resp⟩ := event
  cases op with
  | now => simp [staged, Event.inl, Clock.tick, Clock.read, begun, running]
  | _ => exact ⟨begun, running⟩

theorem clocked_staged {began : Int} (begun : (clocked seen).began = some began)
    (running : (clocked seen).stopped = none) (own : List RuntimeEvent) :
    (clocked (seen ++ own.map staged)).began = some began ∧
      (clocked (seen ++ own.map staged)).stopped = none := by
  rw [clocked_append]
  generalize clocked seen = clock at begun running
  induction own generalizing clock with
  | nil => exact ⟨begun, running⟩
  | cons event rest ih =>
      obtain ⟨begun', running'⟩ := Clock.tick_staged begun running event
      exact ih _ begun' running'

/-- Runtime events keep the pace, when none dispatches or the repetition is
short enough. -/
theorem pace_staged {past : List DiscoveryEvent} {own : List RuntimeEvent}
    (allowed : Idle own ∨
      (streaked engine request past).length ≤ request.maxRepeatedAction) :
    Justified (Pace engine request) past (own.map staged) := by
  intro before event after split
  have member : event ∈ own.map staged := by simp [split]
  obtain ⟨origin, within, rfl⟩ := List.mem_map.mp member
  constructor
  · intro impossible
    simp at impossible
  · intro dispatches
    obtain ⟨first, rest, rfl, rfl, -⟩ := List.map_eq_append_iff.mp split
    rw [streaked_staged]
    rcases allowed with idle | short
    · have apart := idle origin within
      simp [IsDispatch, dispatchKinds] at dispatches
      simp [dispatchKinds, dispatches] at apart
    · exact short

theorem Paced.staged (paced : Paced engine request streak seen state)
    {own : List RuntimeEvent}
    (allowed : Idle own ∨ streak.length ≤ request.maxRepeatedAction) :
    Paced engine request streak (seen ++ own.map staged) state where
  paced := paced.paced.append (pace_staged (by rwa [List.nil_append,
    paced.streak]))
  began := (clocked_staged paced.began paced.running own).1
  running := (clocked_staged paced.began paced.running own).2
  streak := (streaked_staged own).trans paced.streak

/-- Only the start of the time budget matters. -/
theorem Paced.congr (paced : Paced engine request streak seen state)
    (same : other.startedAt = state.startedAt) :
    Paced engine request streak seen other where
  paced := paced.paced
  began := same ▸ paced.began
  running := paced.running
  streak := paced.streak

theorem startedAt_of_counters (same : other.counters = state.counters) :
    other.startedAt = state.startedAt := by
  have equal := congrArg (fun kept => kept.2.1) same
  exact equal

theorem counted_of_counters (same : other.counters = state.counters) :
    counted other = counted state := by
  have operation : other.previousAction = state.previousAction :=
    congrArg (fun kept => kept.2.2.1) same
  have repeated : other.repeatedAction = state.repeatedAction :=
    congrArg (fun kept => kept.2.2.2) same
  simp [counted, operation, repeated]

/-! ## Assertions -/

/-- The locals count the repetition of the history. -/
def Counting (engine : Discovery.Engine) (request : DiscoveryRequest)
    (seen : List DiscoveryEvent) (state : DiscoveryState) : Prop :=
  Paced engine request (counted state) seen state

/-- A reading of the pass lies within the time budget. -/
def Due (engine : Discovery.Engine) (request : DiscoveryRequest)
    (seen : List DiscoveryEvent) (state : DiscoveryState) : Prop :=
  Counting engine request seen state ∧
  ∃ front reading rest, seen = front ++ staged ⟨.now, reading⟩ :: rest ∧
    (∀ event ∈ rest, stageKind event ∉ [.decide, .pause]) ∧
    reading - state.startedAt < request.timeout

/-- The model answered, which the locals do not count yet. -/
def Answering (engine : Discovery.Engine) (request : DiscoveryRequest)
    (answer : DiscoveryProposal) (seen : List DiscoveryEvent)
    (state : DiscoveryState) : Prop :=
  Paced engine request
    (match groundedProposal request answer with
    | some proposal => Streak.propose engine (counted state) proposal
    | none => counted state) seen state

theorem steady_counting :
    Steady dispatchKinds DiscoveryState.counters (Counting engine request)
    where
  idle := fun _ _ _ idle here => here.staged (.inl idle)
  kept := by
    intro seen state other same here
    have counting := Paced.congr here (startedAt_of_counters same)
    rwa [← counted_of_counters same] at counting

theorem steady_due :
    Steady dispatchKinds DiscoveryState.counters (Due engine request) where
  idle := by
    rintro seen state own idle ⟨counting, front, reading, rest, rfl, apart,
      early⟩
    refine ⟨steady_counting.idle _ _ _ idle counting, front, reading,
      rest ++ own.map staged, by simp, fun event member => ?_, early⟩
    rcases List.mem_append.mp member with here | there
    · exact apart event here
    · obtain ⟨origin, -, rfl⟩ := List.mem_map.mp there
      simp
  kept := by
    rintro seen state other same ⟨counting, front, reading, rest, rfl, apart,
      early⟩
    exact ⟨steady_counting.kept _ _ _ same counting, front, reading, rest, rfl,
      apart, startedAt_of_counters same ▸ early⟩

theorem steady_answering {answer : DiscoveryProposal} :
    Steady dispatchKinds DiscoveryState.counters
      (Answering engine request answer) where
  idle := fun _ _ _ idle here => Paced.staged here (.inl idle)
  kept := by
    intro seen state other same here
    have answering := Paced.congr here (startedAt_of_counters same)
    rwa [← counted_of_counters same] at answering

/-! ## The loop -/

/-- The rule of this module: assertions on the history, and at least its pace
when the code raises. -/
abbrev Keeps {α : Type} (engine : Discovery.Engine) (request : DiscoveryRequest)
    (before : List DiscoveryEvent → DiscoveryState → Prop)
    (body : Discovery α)
    (after : α → List DiscoveryEvent → DiscoveryState → Prop) : Prop :=
  Guarantees Watch.history before body after
    fun _ seen _ => Justified (Pace engine request) [] seen

section Loop

variable {run : DiscoveryRun} {observation : NormalizedObservation}

theorem keeps_idle {α : Type} {kinds : List OpKind} {body : Work α}
    {holds : List DiscoveryEvent → DiscoveryState → Prop}
    (steady : Steady dispatchKinds DiscoveryState.counters holds)
    (emits : Emits kinds DiscoveryState.counters body)
    (idle : ∀ kind ∈ kinds, kind ∉ dispatchKinds)
    (paced : ∀ seen state, holds seen state →
      Justified (Pace engine request) [] seen) :
    Keeps engine request holds (Discovery.runtime body) fun _ => holds :=
  (guarantees_idle steady emits idle).weaken (fun _ _ here => here)
    (fun _ _ _ here => here) fun _ _ _ here => paced _ _ here

theorem pace_of_counting : ∀ seen state, Counting engine request seen state →
    Justified (Pace engine request) [] seen :=
  fun _ _ here => Paced.paced here

theorem pace_of_due : ∀ seen state, Due engine request seen state →
    Justified (Pace engine request) [] seen :=
  fun _ _ here => Paced.paced here.1

theorem pace_of_answering {answer : DiscoveryProposal} : ∀ seen state,
    Answering engine request answer seen state →
      Justified (Pace engine request) [] seen :=
  fun _ _ here => Paced.paced here

theorem keeps_get {holds : List DiscoveryEvent → DiscoveryState → Prop} :
    Keeps engine request holds get fun _ => holds :=
  guarantees_get fun _ _ here => here

theorem emits_renewControl_counters {session : SurfaceSession} :
    Emits leaseKinds DiscoveryState.counters (engine.renewControl session) :=
  emits_renewControl.coarsen (fun _ member => member) fun _ _ same =>
    DiscoveryState.counters_of_settled
      (DiscoveryState.settled_of_unleased same)

/-- The model is asked in time. -/
theorem Due.decided (due : Due engine request seen state)
    {event : DiscoveryEvent} (decides : stageKind event = .decide) :
    Justified (Pace engine request) [] (seen ++ [event]) := by
  obtain ⟨counting, front, reading, rest, rfl, apart, early⟩ := due
  refine counting.paced.append (justified_cons ?_ justified_nil)
  rw [List.nil_append]
  constructor
  · intro _
    exact ⟨front, reading, rest, state.startedAt, rfl, apart, counting.began,
      early⟩
  · intro dispatches
    simp [IsDispatch, decides, dispatchKinds] at dispatches

theorem clocked_decided (context : ProviderContext)
    (resp : Except Raised DiscoveryProposal) :
    clocked (seen ++ [⟨.inl (.inr (.decide context)), resp⟩]) =
      clocked seen := by
  rw [clocked_append]
  rfl

theorem keeps_propose :
    Keeps engine run.request (Due engine run.request)
      (engine.propose run observation)
      (Answering engine run.request) := by
  unfold propose
  refine guarantees_bind (keeps_idle steady_due
    (emits_call (List.mem_singleton.mpr rfl)) (by decide) pace_of_due)
    fun screenshot => ?_
  refine guarantees_bind (keeps_idle steady_due emits_renewControl_counters
    (by decide) pace_of_due) fun _ => ?_
  refine guarantees_bind keeps_get fun held => ?_
  refine guarantees_bind (m := Answering engine run.request) ?_
    fun answer => ?_
  · refine guarantees_invoke (fun seen state resp answer here read => ?_)
      fun seen state resp error here read => here.decided rfl
    obtain rfl : resp = .ok answer := read
    exact {
      paced := here.decided rfl
      began := by
        unfold Watch.history
        rw [clocked_decided]
        exact here.1.began
      running := by
        unfold Watch.history
        rw [clocked_decided]
        exact here.1.running
      streak := by
        unfold Watch.history
        rw [streaked_append, Paced.streak here.1]
        rfl }
  · refine guarantees_bind (keeps_idle steady_answering
      emits_renewControl_counters (by decide) pace_of_answering) fun _ => ?_
    refine guarantees_bind (keeps_idle steady_answering
      (emits_record (List.mem_singleton.mpr rfl)) (by decide)
      pace_of_answering) fun _ => ?_
    exact guarantees_pure fun _ _ here => here

/-! ### Handoffs -/

/-- A pause that is not over. -/
structure Stopped (engine : Discovery.Engine) (request : DiscoveryRequest)
    (stopped : Int) (seen : List DiscoveryEvent) (state : DiscoveryState) :
    Prop where
  paced : Justified (Pace engine request) [] seen
  began : (clocked seen).began = some state.startedAt
  stopped : (clocked seen).stopped = some stopped
  streak : streaked engine request seen = {}

/-- A reading of the clock, as it is. -/
theorem executes_now {start final : DiscoveryState} {own : List RuntimeEvent}
    {result : Except Raised Int} :
    Executes (Runtime.now : Work Int) start own result final ↔
      ∃ reading : Int, own = [⟨.now, reading⟩] ∧ result = .ok reading ∧
        final = start :=
  executes_perform

theorem clocked_read (reading : Int) :
    clocked (seen ++ [staged ⟨.now, reading⟩]) =
      (clocked seen).read reading := by
  rw [clocked_append]
  rfl

/-- A pause stops the clock and ends the repetition. -/
theorem Paced.stopped (paced : Paced engine request streak seen state)
    {event : DiscoveryEvent} (pauses : stageKind event = .pause) :
    Stopped engine request (clocked seen).last (seen ++ [event]) state := by
  obtain ⟨op, resp⟩ := event
  cases op with
  | inl op =>
      rcases op with op | (context | context) <;> cases pauses
  | inr stop =>
      exact {
        paced := paced.paced.append (justified_cons {
          timely := fun impossible => by cases impossible
          varied := fun impossible => by
            simp [IsDispatch, stageKind, dispatchKinds] at impossible }
          justified_nil)
        began := by
          rw [clocked_append]
          exact paced.began
        stopped := by
          rw [clocked_append]
          rfl
        streak := by
          rw [streaked_append]
          rfl }

theorem steady_paced : Steady dispatchKinds DiscoveryState.counters
    (Paced engine request streak) where
  idle := fun _ _ _ idle here => here.staged (.inl idle)
  kept := fun _ _ _ same here => here.congr (startedAt_of_counters same)

/-- A handoff moves the start of the time budget on by the time it took. -/
theorem keeps_handOver {number : Nat} {code : String}
    {current : NormalizedObservation} :
    Keeps engine request (fun seen state =>
        ∃ streak, Paced engine request streak seen state)
      (engine.handOver run number code current)
      fun result seen state => result = none ∧ Counting engine request seen state
      := by
  unfold handOver handoff
  refine guarantees_bind (m := fun _ => Counting engine request) ?_ fun _ =>
    guarantees_pure fun _ _ here => ⟨rfl, here⟩
  refine guarantees_bind (m := fun pausedAt seen state =>
    ∃ streak, Paced engine request streak seen state ∧
      (clocked seen).last = pausedAt)
    (guarantees_runtime (fun seen start own reading final here read => ?_)
      fun seen start own error final here read => ?_) fun pausedAt => ?_
  · obtain ⟨other, rfl, same, rfl⟩ := executes_now.mp read
    cases same
    obtain ⟨streak, paced⟩ := here
    refine ⟨streak, paced.staged (.inl (by simp [Idle, Avoids, dispatchKinds, eventKind,
      RuntimeOp.kind])), ?_⟩
    rw [List.map_singleton, clocked_read]
    simp [Clock.read, paced.began, paced.running]
  · obtain ⟨other, -, impossible, -⟩ := executes_now.mp read
    cases impossible
  refine guarantees_bind keeps_get fun held => ?_
  refine guarantees_bind (m := fun _ => Stopped engine request pausedAt)
    (guarantees_invoke (fun seen state resp version here read => ?_)
      fun seen state resp error here read => ?_) fun version => ?_
  · obtain ⟨streak, paced, last⟩ := here
    exact last ▸ paced.stopped rfl
  · obtain ⟨streak, paced, -⟩ := here
    exact (paced.stopped rfl).paced
  refine guarantees_bind (m := fun resumedAt seen state =>
    Paced engine request {} seen
      { state with startedAt := state.startedAt + (resumedAt - pausedAt) })
    (guarantees_runtime (fun seen start own reading final here read => ?_)
      fun seen start own error final here read => ?_) fun resumedAt => ?_
  · obtain ⟨other, rfl, same, rfl⟩ := executes_now.mp read
    cases same
    exact {
      paced := here.paced.append (pace_staged (.inl (by
        simp [Idle, Avoids, dispatchKinds, eventKind, RuntimeOp.kind])))
      began := by
        rw [List.map_singleton, clocked_read]
        simp [Clock.read, here.began, here.stopped]
      running := by
        rw [List.map_singleton, clocked_read]
        simp [Clock.read, here.began, here.stopped]
      streak := (streaked_staged _).trans here.streak }
  · obtain ⟨other, -, impossible, -⟩ := executes_now.mp read
    cases impossible
  refine guarantees_bind (m := fun _ => Paced engine request {})
    (guarantees_modify fun _ _ here => here) fun _ => ?_
  refine guarantees_bind (keeps_idle steady_paced emits_heartbeat (by decide)
    fun _ _ here => here.paced) fun lease => ?_
  exact guarantees_modify fun _ _ here => here.congr rfl

/-! ### Actions -/

def actKinds : List OpKind :=
  [.execute, .extract, .resolve, .captureLocator, .origin, .observe,
    .record "policy_evaluated", .record "action_intent",
    .record "action_result"] ++ verifyKinds

/-- An action leaves the counters alone. -/
theorem emits_act {proposal : ActProposal} :
    Emits actKinds DiscoveryState.counters
      (engine.act run proposal observation) := by
  have unleased {α : Type} {kinds : List OpKind} {body : Work α}
      (emits : Emits kinds DiscoveryState.unleased body)
      (included : kinds ⊆ actKinds) :
      Emits actKinds DiscoveryState.counters body :=
    emits.coarsen included fun _ _ same => DiscoveryState.counters_of_settled
      (DiscoveryState.settled_of_unleased same)
  have first {body : Work (Option FailureResult)}
      {next : Work ActOutcome}
      (head : Emits actKinds DiscoveryState.counters body)
      (tail : Emits actKinds DiscoveryState.counters next) :
      Emits actKinds DiscoveryState.counters (unlessFailed body next) := by
    unfold unlessFailed
    refine confined_bind head fun outcome => ?_
    cases outcome with
    | some result => exact confined_pure
    | none => exact tail
  have extracts {output : String} {transform : Transform}
      {resolved : ResolvedTarget} {stable : Option LocatorBundle} :
      Emits actKinds DiscoveryState.counters
        (engine.extract run output transform resolved stable) := by
    unfold extract
    refine confined_bind (emits_call (by simp [actKinds, SessionOp.kind]))
      fun observed => ?_
    exact confined_bind (emits_raiseIf.widen (by simp)) fun _ =>
      confined_modify fun _ => rfl
  have performs {target : Option ResolvedTarget}
      {stable : Option LocatorBundle} :
      Emits actKinds DiscoveryState.counters
        (engine.perform run proposal target stable) := by
    unfold perform
    split
    · split
      · exact emits_actFailure.widen (by decide)
      · exact confined_bind extracts fun _ => confined_pure
    · refine confined_bind (emits_call (by simp [actKinds, SessionOp.kind]))
        fun receipt => ?_
      exact confined_ite (fun _ => emits_actFailure.widen (by decide))
        fun _ => confined_pure
  unfold act
  refine first (emits_screen.widen (by decide)) ?_
  refine confined_bind (emits_bindTarget.widen (by decide)) fun bound => ?_
  refine confined_bind (emits_resolveTarget.widen (by decide)) fun target => ?_
  refine confined_bind (emits_stableTarget.widen (by decide)) fun stable => ?_
  refine confined_bind (emits_actionPolicy.widen (by decide))
    fun decision => ?_
  refine first (unleased emits_applyDecision (by decide)) (first performs ?_)
  exact first (unleased emits_verify (by decide))
    (emits_conclude.widen (by decide))

/-- The repetition is short enough for one more dispatch. -/
def Varied (engine : Discovery.Engine) (request : DiscoveryRequest)
    (seen : List DiscoveryEvent) (state : DiscoveryState) : Prop :=
  Counting engine request seen state ∧
    (counted state).length ≤ request.maxRepeatedAction

theorem keeps_act {proposal : ActProposal} :
    Keeps engine request (Varied engine request)
      (handling actError (Discovery.runtime
        (engine.act run proposal observation)))
      fun _ => Counting engine request := by
  have acted {seen : List DiscoveryEvent} {start final : DiscoveryState}
      {own : List RuntimeEvent} {result : Except Raised ActOutcome}
      (varied : Varied engine request seen start)
      (executed : Executes (engine.act run proposal observation) start own
        result final) :
      Counting engine request (seen ++ own.map ReplayForge.staged) final :=
    steady_counting.kept _ start final (emits_act.kept executed)
      (varied.1.staged (.inr varied.2))
  refine guarantees_handling (c := fun _ => Counting engine request)
    (guarantees_runtime (fun _ _ _ _ _ here executed => acted here executed)
      fun _ _ _ _ _ here executed => acted here executed)
    (fun _ _ _ _ here _ => here) fun _ _ _ here _ => here.paced

/-- The locals count the proposal of the pass. -/
theorem noted_of_noteProposal {proposal : ActProposal} {stuck : Bool}
    {start final : DiscoveryState} {own : List RuntimeEvent}
    (noted : Executes (engine.noteProposal run proposal) start own (.ok stuck)
      final) :
    own = [] ∧ final.startedAt = start.startedAt ∧
      counted final = Streak.propose engine (counted start) proposal ∧
      (stuck = false →
        (counted final).length ≤ run.request.maxRepeatedAction) := by
  unfold noteProposal at noted
  obtain ⟨first, state, middle, rest, rfl, current, counting⟩ :=
    executes_bind_ok.mp noted
  obtain ⟨rfl, same, rfl⟩ := executes_get.mp current
  cases same
  obtain ⟨second, _, changed, last, rfl, marked, returned⟩ :=
    executes_bind_ok.mp counting
  obtain ⟨rfl, -, rfl⟩ := executes_modify.mp marked
  obtain ⟨rfl, equal, rfl⟩ := executes_pure.mp returned
  refine ⟨rfl, rfl, ?_, ?_⟩
  · unfold counted Streak.propose
    dsimp only
    by_cases again : some (engine.libraries.operationFingerprint proposal) =
        state.previousAction
    · simp [← again]
    · simp [again]
  · rintro rfl
    have short := of_decide_eq_false (Except.ok.inj equal).symm
    simp only [counted, Option.isSome_some, if_true]
    exact Nat.lt_of_not_le short

theorem paced_of_counting : ∀ seen state, Counting engine request seen state →
    ∃ streak, Paced engine request streak seen state :=
  fun _ _ here => ⟨_, here⟩

/-- What a pass leaves behind. -/
def Continued (engine : Discovery.Engine) (request : DiscoveryRequest) :
    Option DiscoveryResult → List DiscoveryEvent → DiscoveryState → Prop
  | some _, seen, _ => Justified (Pace engine request) [] seen
  | none, seen, state => Counting engine request seen state

theorem continued_handOver {number : Nat} {code : String}
    {current : NormalizedObservation}
    {before : List DiscoveryEvent → DiscoveryState → Prop}
    (paced : ∀ seen state, before seen state →
      ∃ streak, Paced engine request streak seen state) :
    Keeps engine request before (engine.handOver run number code current)
      (Continued engine request) :=
  keeps_handOver.weaken paced
    (fun result seen state here => by
      obtain ⟨rfl, counting⟩ := here
      exact counting)
    fun _ _ _ here => here

/-- Idle code whose result may end the run. -/
theorem continued_idle {kinds : List OpKind}
    {body : Work (Option DiscoveryResult)}
    (emits : Emits kinds DiscoveryState.counters body)
    (idle : ∀ kind ∈ kinds, kind ∉ dispatchKinds) :
    Keeps engine request (Counting engine request) (Discovery.runtime body)
      (Continued engine request) :=
  (keeps_idle steady_counting emits idle pace_of_counting).weaken
    (fun _ _ here => here)
    (fun result seen state here => by
      cases result with
      | none => exact here
      | some result => exact here.paced)
    fun _ _ _ here => here

theorem continued_endFailed {code message : String}
    {before : List DiscoveryEvent → DiscoveryState → Prop}
    (paced : ∀ seen state, before seen state →
      ∃ streak, Paced engine request streak seen state) :
    Keeps engine request before (endFailed run code message)
      (Continued engine request) := by
  unfold endFailed
  rw [map_eq_pure_bind]
  refine guarantees_bind (m := fun _ seen _ =>
    Justified (Pace engine request) [] seen)
    (guarantees_runtime (fun seen start own value final here ended => ?_)
      fun seen start own error final here ended => ?_)
    fun result => guarantees_pure fun _ _ here => here
  · obtain ⟨streak, held⟩ := paced seen start here
    exact held.paced.append (pace_staged (.inl
      ((emits_completionFailed (v := id)).idle ended (by decide))))
  · obtain ⟨streak, held⟩ := paced seen start here
    exact held.paced.append (pace_staged (.inl
      ((emits_completionFailed (v := id)).idle ended (by decide))))

theorem continued_handleSurfaceError {number : Nat} {proposal : ActProposal}
    {error : SurfaceError} :
    Keeps engine request (Counting engine request)
      (engine.handleSurfaceError run number proposal error)
      (Continued engine request) := by
  unfold handleSurfaceError
  refine guarantees_ite (fun _ => ?_) fun _ => ?_
  · exact guarantees_bind (keeps_idle steady_counting
      (Emits.counters emits_rejectProposal) (by decide) pace_of_counting)
      fun _ => guarantees_pure fun _ _ here => here
  · refine guarantees_ite (fun _ => ?_) fun _ =>
      guarantees_throw fun _ _ here => here.paced
    exact guarantees_bind (keeps_idle steady_counting
      (emits_call (List.mem_singleton.mpr rfl)) (by decide) pace_of_counting)
      fun current => continued_handOver paced_of_counting

theorem continued_attemptAct {number : Nat} {proposal : ActProposal}
    {pending : Option ObservedBranch} {answer : DiscoveryProposal}
    (grounds : groundedProposal run.request answer = some proposal) :
    Keeps engine run.request (Answering engine run.request answer)
      (engine.attemptAct run number observation proposal pending)
      (Continued engine run.request) := by
  unfold attemptAct
  refine guarantees_bind (m := fun stuck seen state =>
    Counting engine run.request seen state ∧ (stuck = false →
      (counted state).length ≤ run.request.maxRepeatedAction))
    (guarantees_runtime (fun seen start own stuck final here noted => ?_)
      fun seen start own error final here noted => ?_) fun stuck => ?_
  · obtain ⟨rfl, began, same, short⟩ := noted_of_noteProposal noted
    unfold Answering at here
    rw [grounds] at here
    refine ⟨?_, short⟩
    rw [List.map_nil, List.append_nil]
    unfold Counting
    rw [same]
    exact here.congr began
  · exact here.paced.append (pace_staged (.inl
      (emits_noteProposal.idle noted (by decide))))
  refine guarantees_ite (fun _ => continued_handOver fun _ _ here =>
    ⟨_, here.1⟩) fun free => ?_
  refine guarantees_ite (fun _ => continued_handOver fun _ _ here =>
    ⟨_, here.1⟩) fun _ => ?_
  refine guarantees_bind (keeps_act.weaken (fun _ _ here =>
      ⟨here.1, here.2 (Bool.eq_false_iff.mpr free)⟩)
    (fun _ _ _ here => here) fun _ _ _ here => here) fun outcome => ?_
  rcases outcome with (error | code) | (result | ⟨recording, history⟩)
  · exact continued_handleSurfaceError
  · exact continued_handOver paced_of_counting
  · exact guarantees_pure fun _ _ here => here.paced
  · exact continued_idle emits_keepRecording (by decide)

theorem paced_of_answering {answer : DiscoveryProposal} : ∀ seen state,
    Answering engine request answer seen state →
      ∃ streak, Paced engine request streak seen state :=
  fun _ _ here => ⟨_, here⟩

theorem continued_follow {number : Nat} {answer : DiscoveryProposal} :
    Keeps engine run.request (Answering engine run.request answer)
      (engine.follow run number observation answer)
      (Continued engine run.request) := by
  cases answer with
  | escalate reasonCode rationale =>
      exact continued_handOver paced_of_answering
  | complete rationale =>
      exact continued_idle (Emits.counters emits_attemptCompletion) (by decide)
  | act proposal => exact continued_attemptAct rfl
  | recordedAction stepId rationale expected =>
      unfold follow
      dsimp only
      cases found : run.request.scenario.bind fun scenario =>
          scenario.primary.steps.find? (·.id = stepId) with
      | none => exact continued_endFailed paced_of_answering
      | some step =>
          obtain ⟨scenario, same, listed⟩ := Option.bind_eq_some_iff.mp found
          refine guarantees_bind (m := fun proposal seen state =>
            groundedProposal run.request
              (.recordedAction stepId rationale expected) = some proposal ∧
            Answering engine run.request
              (.recordedAction stepId rationale expected) seen state)
            (guarantees_attempt (fun seen state proposal here built => ?_)
              fun _ _ _ here _ => here.paced) fun proposal => ?_
          · refine ⟨?_, here⟩
            simp [groundedProposal, same, listed, built, Except.toOption]
          · intro seen start events result final here executed
            exact continued_attemptAct here.1 here.2 executed
  | branch condition rationale =>
      unfold follow
      dsimp only
      refine guarantees_bind keeps_get fun held => ?_
      split
      · exact guarantees_ite
          (fun _ => continued_endFailed paced_of_answering)
          fun _ => continued_attemptAct rfl
      · exact continued_endFailed paced_of_answering

theorem keeps_step {number : Nat} :
    Keeps engine run.request (Counting engine run.request)
      (engine.step run number) (Continued engine run.request) := by
  unfold step
  refine guarantees_bind (m := fun now seen state =>
    Counting engine run.request seen state ∧
      ∃ front, seen = front ++ [ReplayForge.staged ⟨.now, now⟩])
    (guarantees_runtime (fun seen start own reading final here read => ?_)
      fun seen start own error final here read => ?_) fun now => ?_
  · obtain ⟨other, rfl, same, rfl⟩ := executes_now.mp read
    cases same
    exact ⟨Paced.staged here (.inl (by simp [Idle, Avoids, dispatchKinds, eventKind,
      RuntimeOp.kind])), seen, rfl⟩
  · obtain ⟨other, -, impossible, -⟩ := executes_now.mp read
    cases impossible
  refine guarantees_bind (m := fun held seen state =>
    (Counting engine run.request seen state ∧
      ∃ front, seen = front ++ [ReplayForge.staged ⟨.now, now⟩]) ∧
    held = state) (guarantees_get fun _ _ here => ⟨here, rfl⟩) fun held => ?_
  refine guarantees_ite (fun _ => continued_endFailed fun _ _ here =>
    ⟨_, here.1.1⟩) fun early => ?_
  refine guarantees_bind (m := fun _ => Due engine run.request)
    ((keeps_idle steady_due (Emits.counters emits_look) (by decide)
      pace_of_due).weaken (fun seen state here => ?_) (fun _ _ _ here => here)
      fun _ _ _ here => here) fun looked => ?_
  · obtain ⟨⟨counting, front, rfl⟩, rfl⟩ := here
    exact ⟨counting, front, now, [], rfl, by simp, lt_of_not_ge early⟩
  obtain ⟨shown, stuck⟩ := looked
  refine guarantees_ite (fun _ => continued_handOver fun _ _ here =>
    ⟨_, here.1⟩) fun _ => ?_
  exact guarantees_bind keeps_propose fun answer => continued_follow

theorem keeps_steps {remaining number : Nat} :
    Keeps engine run.request (Counting engine run.request)
      (engine.steps run remaining number)
      fun _ seen _ => Justified (Pace engine run.request) [] seen := by
  induction remaining generalizing number with
  | zero =>
      refine guarantees_runtime (fun seen start own value final here ended => ?_)
        fun seen start own error final here ended => ?_
      · exact here.paced.append (pace_staged (.inl
          ((emits_completionFailed (v := id)).idle ended (by decide))))
      · exact here.paced.append (pace_staged (.inl
          ((emits_completionFailed (v := id)).idle ended (by decide))))
  | succ remaining ih =>
      unfold steps
      refine guarantees_bind keeps_step fun passed => ?_
      cases passed with
      | some result => exact guarantees_pure fun _ _ here => here
      | none => exact ih

end Loop

/-! ## Whole runs -/

theorem Paced.planned (paced : Paced engine request streak seen state)
    {event : DiscoveryEvent} (plans : stageKind event ∈ planKinds) :
    Paced engine request streak (seen ++ [event]) state := by
  obtain ⟨op, resp⟩ := event
  rcases op with (op | context | context) | stop
  · have idle : Idle [⟨op, resp⟩] := by
      intro event member
      rw [List.mem_singleton] at member
      subst member
      intro dispatches
      simp only [planKinds, stageKind, List.mem_cons, List.mem_map,
        StageKind.runtime.injEq, exists_eq_right, reduceCtorEq, false_or,
        leaseKinds, List.not_mem_nil, or_false] at plans
      simp only [dispatchKinds, eventKind, List.mem_cons, List.not_mem_nil,
        or_false] at dispatches
      rcases plans with same | same | same | same | same <;>
        simp [same] at dispatches
    exact paced.staged (.inl idle)
  · exact {
      paced := paced.paced.append (justified_cons {
        timely := fun impossible => by cases impossible
        varied := fun impossible => by
          simp [IsDispatch, stageKind, dispatchKinds] at impossible }
        justified_nil)
      began := by
        rw [clocked_append]
        exact paced.began
      running := by
        rw [clocked_append]
        exact paced.running
      streak := by
        rw [streaked_append]
        exact paced.streak }
  · simp [planKinds, stageKind] at plans
  · simp [planKinds, stageKind] at plans

theorem Counting.congr (counting : Counting engine request seen state)
    (began : other.startedAt = state.startedAt)
    (operation : other.previousAction = state.previousAction)
    (repeated : other.repeatedAction = state.repeatedAction) :
    Counting engine request seen other := by
  have same : counted other = counted state := by
    simp [counted, operation, repeated]
  have moved := Paced.congr counting began
  rwa [← same] at moved

theorem counting_of_planned {start final : DiscoveryState}
    {events : List DiscoveryEvent}
    (counting : Counting engine request seen start)
    (planned : ∀ event ∈ events, stageKind event ∈ planKinds)
    (same : final.unleased = start.unleased) :
    Counting engine request (seen ++ events) final := by
  refine steady_counting.kept _ start final (DiscoveryState.counters_of_settled
    (DiscoveryState.settled_of_unleased same)) ?_
  clear same
  induction events generalizing seen with
  | nil => rwa [List.append_nil]
  | cons event rest ih =>
      rw [List.append_cons]
      exact ih (Paced.planned counting (planned event List.mem_cons_self))
        fun other member => planned other (List.mem_cons_of_mem _ member)

theorem keeps_explore :
    Keeps engine request (Counting engine request) (engine.explore request)
      fun _ seen _ => Justified (Pace engine request) [] seen := by
  unfold explore
  refine guarantees_bind (m := fun _ => Counting engine request)
    (guarantees_attempt (fun _ _ _ here _ => here)
      fun _ _ _ here _ => here.paced) fun policy => ?_
  refine guarantees_bind (m := fun _ => Counting engine request)
    (guarantees_runtime (fun seen start own value final here opened => ?_)
      fun seen start own error final here opened => ?_) fun session => ?_
  · have kept := emits_openSession.kept opened
    simp only [DiscoveryState.mk.injEq] at kept
    obtain ⟨began, -, -, -, -, -, -, -, -, repeated, operation⟩ := kept
    exact Counting.congr
      (here.staged (.inl (emits_openSession.idle opened (by decide)))) began
      operation repeated
  · exact (Paced.staged here (.inl (emits_openSession.idle opened
      (by decide)))).paced
  refine guarantees_bind (m := fun _ => Counting engine request) ?_
    fun draft => ?_
  · intro seen start events result final here planned
    have counting := counting_of_planned here
      (fun _ member => stages_planContract.issued planned _ member)
      (stages_planContract.kept planned)
    rw [Watch.run_history]
    cases result with
    | ok value => exact counting
    | error error => exact counting.paced
  · exact @keeps_steps engine { request, session, policy, draft } _ _

theorem keeps_guarded :
    Keeps engine request (Counting engine request) (engine.guarded request)
      fun _ seen _ => Justified (Pace engine request) [] seen := by
  unfold guarded
  refine guarantees_bind (m := fun _ seen _ =>
      Justified (Pace engine request) [] seen)
    (guarantees_handling (c := fun _ seen _ =>
        Justified (Pace engine request) [] seen) keeps_explore
      (fun _ _ _ _ here _ => here) fun _ _ _ here _ => here) fun outcome => ?_
  rcases outcome with ⟨code, message, failureFrame⟩ | value
  · intro seen start events result final here reported
    obtain ⟨own, rfl, idle, -⟩ := failed_of_report reported
    rw [Watch.run_history]
    have after := here.append (pace_staged (.inl idle))
    cases result with
    | ok value => exact after
    | error error => exact after
  · exact guarantees_pure fun _ _ here => here

theorem pace_of_run {events : List DiscoveryEvent} {final : DiscoveryState}
    {result : Except Raised DiscoveryResult}
    (executed : Executes (engine.run request) {} events result final) :
    Justified (Pace engine request) [] events := by
  have paced : Keeps engine request (fun seen state => seen = [] ∧ state = {})
      (engine.run request)
      fun _ seen _ => Justified (Pace engine request) [] seen := by
    unfold Discovery.Engine.run
    refine guarantees_bind (m := fun startedAt seen state =>
      seen = [ReplayForge.staged ⟨.now, startedAt⟩] ∧ state = {})
      (guarantees_runtime (fun seen start own reading final here read => ?_)
        fun seen start own error final here read => ?_) fun startedAt => ?_
    · obtain ⟨other, rfl, same, rfl⟩ := executes_now.mp read
      obtain ⟨rfl, rfl⟩ := here
      cases same
      exact ⟨rfl, rfl⟩
    · obtain ⟨other, -, impossible, -⟩ := executes_now.mp read
      cases impossible
    refine guarantees_bind (m := fun _ => Counting engine request)
      (guarantees_modify fun seen state here => ?_) fun _ => ?_
    · obtain ⟨rfl, rfl⟩ := here
      exact {
        paced := by
          have idle : Idle [⟨.now, startedAt⟩] := by
            simp [Idle, Avoids, dispatchKinds, eventKind, RuntimeOp.kind]
          exact pace_staged (.inl idle)
        began := rfl
        running := rfl
        streak := rfl }
    have closes : Guarantees Watch.history
        (fun seen _ => Justified (Pace engine request) [] seen)
        (Discovery.runtime closeSession)
        (fun _ seen _ => Justified (Pace engine request) [] seen)
        fun _ seen _ => Justified (Pace engine request) [] seen :=
      guarantees_runtime (fun _ _ _ _ _ here closed =>
          here.append (pace_staged (.inl
            ((emits_closeSession (v := id)).idle closed (by decide)))))
        fun _ _ _ _ _ here closed =>
          here.append (pace_staged (.inl
            ((emits_closeSession (v := id)).idle closed (by decide))))
    exact guarantees_closing keeps_guarded (fun _ => closes) fun _ => closes
  have ended := paced ⟨rfl, rfl⟩ executed
  rw [Watch.run_history, List.nil_append] at ended
  cases result with
  | ok value => exact ended
  | error error => exact ended

/-- No operation is dispatched that the model has proposed more often in a row
than the request allows; a human in between starts the count anew. -/
theorem dispatches_varied (engine : Discovery.Engine) (request : DiscoveryRequest)
    (front back : List DiscoveryEvent) (event : DiscoveryEvent)
    (result : Except Raised DiscoveryResult) (final : DiscoveryState)
    (executed : Executes (engine.run request) {} (front ++ event :: back)
      result final) (dispatches : IsDispatch event) :
    (streaked engine request front).length ≤ request.maxRepeatedAction := by
  have pace := pace_of_run executed front event back rfl
  exact pace.varied dispatches

end Discovery.Engine

namespace Sample

open Discovery.Engine

theorem reading_varied : ∃ front event back success final,
    Executes (discoverer.run (discoveryRequest none)) {}
        (front ++ event :: back) (.ok (.success success)) final ∧
      IsDispatch event ∧
      (streaked discoverer (discoveryRequest none) front).length ≤ 2 := by
  obtain ⟨events, success, final, executed, -, event, member, dispatches⟩ :=
    reading_discovered
  obtain ⟨front, back, rfl⟩ := List.append_of_mem member
  exact ⟨front, event, back, success, final, executed, dispatches,
    dispatches_varied _ _ _ _ _ _ _ executed dispatches⟩

end Sample

end ReplayForge

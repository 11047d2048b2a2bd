import ReplayForge.Replay.Attempts
import ReplayForge.Replay.Bounds
import ReplayForge.Replay.Environment

/-!
# Recovery uses over a chain of calls

A continuation carries the use counts of its call, so that no pause pays a use
back.
-/

namespace ReplayForge

open Effect

/-- A use of the recovery with the given identifier was started. -/
def isRecoveryStart (recoveryId : String) : RuntimeEvent → Bool
  | ⟨.record "recovery_started" _ _ details, _⟩ =>
      details.get? "recovery_id" = some (.str recoveryId)
  | _ => false

/-- The uses of a recovery started so far and the continuations retained. -/
structure StartCount where
  starts : Nat := 0
  left : List ReplayContinuation := []

def StartCount.see (recoveryId : String) (seen : StartCount)
    (event : RuntimeEvent) : StartCount where
  starts := seen.starts + if isRecoveryStart recoveryId event then 1 else 0
  left := seen.left ++ retained [event]

def startKinds : List OpKind :=
  [.record "recovery_started", .retain]

def startCount (recoveryId : String) : RuntimeWatch StartCount where
  step := StartCount.see recoveryId
  kinds := startKinds
  silent seen event apart := by
    have notStarted : isRecoveryStart recoveryId event = false := by
      unfold isRecoveryStart
      split
      · exact absurd (by simp [startKinds, eventKind, RuntimeOp.kind]) apart
      · rfl
    have notRetained : retained [event] = [] := by
      unfold retained
      rw [List.filterMap_cons, List.filterMap_nil]
      split
      · rfl
      next some =>
        split at some
        · exact absurd (by simp [startKinds, eventKind, RuntimeOp.kind]) apart
        · cases some
    simp [StartCount.see, notStarted, notRetained]

theorem startCount_run (recoveryId : String) (seen : StartCount)
    (events : List RuntimeEvent) :
    (startCount recoveryId).step.run seen events =
      { starts := seen.starts + events.countP (isRecoveryStart recoveryId)
        left := seen.left ++ retained events } := by
  induction events generalizing seen with
  | nil => simp [retained]
  | cons event rest ih =>
      rw [Watch.run_cons, ih, List.countP_cons]
      have single : retained (event :: rest) = retained [event] ++ retained rest :=
        retained_append [event] rest
      rw [single]
      simp only [startCount, StartCount.see, List.append_assoc, StartCount.mk.injEq,
        and_true]
      omega

/-- The uses of a recovery in a table of counts. -/
def usesOf (recoveryId : String) (uses : Dict Nat) : Nat :=
  (uses.get? recoveryId).getD 0

/-- The starts are covered by the use count, which is within the limit. -/
def usesCovered (recovery : Recovery) (starts : Nat) (uses : Dict Nat) : Prop :=
  starts ≤ usesOf recovery.id uses ∧ usesOf recovery.id uses ≤ recovery.maxUses

/-- The same of a call that has retained no continuation so far. -/
def usesCounted (recovery : Recovery) : Assertion EngineState StartCount :=
  fun seen state => seen.left = [] ∧
    usesCovered recovery seen.starts state.recoveryUses

/-- The same of a whole call: what it retained carries the use counts. -/
def usesSettled (recovery : Recovery) (request : ReplayRequest)
    (seen : StartCount) : Prop :=
  seen.starts ≤ recovery.maxUses ∧ ∀ continuation ∈ seen.left,
    continuation.request = request ∧
      usesCovered recovery seen.starts continuation.recoveryUses

theorem usesSettled_of_counted {recovery : Recovery} {request : ReplayRequest}
    {seen : StartCount} {state : EngineState}
    (here : usesCounted recovery seen state) :
    usesSettled recovery request seen := by
  obtain ⟨none, covered, limit⟩ := here
  refine ⟨Nat.le_trans covered limit, ?_⟩
  rw [none]
  simp

theorem ledger_usesCounted {recovery : Recovery} :
    Ledger (usesCounted recovery) := by
  intro seen left right same _ here
  unfold usesCounted at here ⊢
  rw [same]
  exact here

section Calls

variable {engine : ReplayEngine} {run : ReplayRun} {recovery : Recovery}

/-- The use count was raised but the start is not yet recorded. -/
def usesCharged (recovery other : Recovery) (_uses : Nat) :
    Assertion EngineState StartCount :=
  fun seen state => seen.left = [] ∧
    usesCovered recovery
      (seen.starts + if other.id = recovery.id then 1 else 0)
      state.recoveryUses

/-- The record of a start pays the charge. -/
theorem guarantees_recordStart {step : Step} (other : Recovery) (uses : Nat) :
    Guarantees (startCount recovery.id).step (usesCharged recovery other uses)
      (ReplayEngine.recordRecovery run "recovery_started" step other
        ("use", .int (uses + 1 : Nat))) (fun _ => usesCounted recovery)
      fun error seen state => ordinary error ∧ usesCounted recovery seen state := by
  have seesStart : ∀ seen resp,
      (startCount recovery.id).step seen ⟨.record "recovery_started"
        run.request.runId (some step.id)
        [("recovery_id", .str other.id), ("use", .int (uses + 1 : Nat))],
          resp⟩ =
        { seen with
          starts := seen.starts + if other.id = recovery.id then 1 else 0 } := by
    intro seen resp
    simp [startCount, StartCount.see, retained, isRecoveryStart,
      Dict.get?_cons]
  refine guarantees_record (fun seen state here => ?_)
    fun seen state fault here => ⟨fault.noSurface_raised.ordinary, ?_⟩
  · rw [seesStart]
    exact here
  · rw [seesStart]
    exact here

theorem guarantees_recovery_starts {step : Step} {version : Nat}
    (unique : run.artifact.recoveryIds.Nodup)
    (declared : recovery ∈ run.artifact.recoveries) :
    Guarantees (startCount recovery.id).step (usesCounted recovery)
      (engine.attemptRecovery run step version)
      (orEnded (usesCounted recovery) fun _ => usesCounted recovery)
      (fun error seen state => ordinary error ∧
        usesCounted recovery seen state) := by
  have quiet : Stable (startCount recovery.id).step recoveryKinds
      (usesCounted recovery) := (startCount recovery.id).stable
    (by decide : ∀ kind ∈ recoveryKinds, kind ∉ startKinds)
  let attempt : SteadyRecovery engine run step
      (startCount recovery.id).step := {
    calm := usesCounted recovery
    charged := usesCharged recovery
    going := usesCounted recovery
    ended := fun _ => usesCounted recovery
    hidden := ledger_usesCounted.locals
    underway := ledger_usesCounted.locals
    stable := quiet
    lasting := quiet
    charge := by
      rintro other member seen state ⟨none, covered, limit⟩ uses rfl fresh
      refine ⟨none, ?_⟩
      unfold usesCovered usesOf
      simp only [Dict.get?_set]
      by_cases same : other.id = recovery.id
      · obtain rfl : other = recovery :=
          List.inj_on_of_nodup_map unique member declared same
        simp only [if_pos, Option.getD_some]
        unfold usesOf at covered
        omega
      · rw [if_neg (Ne.symm same), if_neg same]
        exact ⟨covered, limit⟩
    start := fun other uses => guarantees_recordStart other uses
    visit := fun _ _ _ _ _ => guarantees_visit_unseen ledger_usesCounted
      ((startCount recovery.id).stable (by decide : ∀ kind ∈ visitKinds ++ performKinds ++
        markKinds false, kind ∉ startKinds))
      (guarantees_pure fun _ _ here => here)
    relax := fun _ _ here => here
    settled := fun _ _ _ here => here
    resumed := fun _ _ _ _ here => here }
  exact attempt.outline.attemptRecovery

/-- The continuation carries the use counts of the state. -/
theorem guarantees_retain_starts (index : Nat) (result : RunResult) :
    Guarantees (startCount recovery.id).step (usesCounted recovery)
      (engine.retainResult run index result)
      (fun _ seen _ => usesSettled recovery run.request seen)
      (fun _ seen _ => usesSettled recovery run.request seen) := by
  have idle : ∀ {seen state}, usesCounted recovery seen state →
      usesSettled recovery run.request seen := usesSettled_of_counted
  unfold ReplayEngine.retainResult
  split
  · refine guarantees_retainContinuation (t := fun _ => usesCounted recovery)
      (fun _ _ here => here) (fun _ _ _ _ here => idle here) (fun _ => ?_)
      fun point observation seen state here => ?_
    · exact ((uses_session (k := [.observe]) (v := EngineState.locals)
        (by simp)).keeps ((startCount recovery.id).stable
        (by decide : ∀ kind ∈ [OpKind.observe], kind ∉ startKinds))
        ledger_usesCounted.locals).weaken
        (fun _ _ here => here) (fun _ _ _ here => here)
        (fun _ _ _ here => idle here.2)
    · obtain ⟨none, covered, limit⟩ := here
      have settled : ∀ continuation : ReplayContinuation,
          continuation.request = run.request →
          continuation.recoveryUses = state.recoveryUses → ∀ resp,
          usesSettled recovery run.request ((startCount recovery.id).step seen
            ⟨.retain continuation, resp⟩) := by
        intro continuation request uses resp
        have sees : (startCount recovery.id).step seen
            ⟨.retain continuation, resp⟩ =
            { seen with left := [continuation] } := by
          simp [startCount, StartCount.see, retained, isRecoveryStart, none]
        rw [sees]
        refine ⟨Nat.le_trans covered limit, fun other member => ?_⟩
        obtain rfl := List.mem_singleton.mp member
        exact ⟨request, uses ▸ ⟨covered, limit⟩⟩
      exact ⟨settled _ rfl rfl _, fun error => settled _ rfl rfl _⟩
  · exact guarantees_pure fun _ _ here => idle here

theorem guarantees_stepLoop_starts (run : ReplayRun) {firstAttempt : Nat → Nat}
    {visits index version : Nat} (unique : run.artifact.recoveryIds.Nodup)
    (declared : recovery ∈ run.artifact.recoveries) :
    Guarantees (startCount recovery.id).step (usesCounted recovery)
      (engine.stepLoop run firstAttempt visits index version)
      (fun _ seen _ => usesSettled recovery run.request seen)
      (fun _ seen _ => usesSettled recovery run.request seen) := by
  have quiet : Stable (startCount recovery.id).step loopKinds
      (usesCounted recovery) := (startCount recovery.id).stable
    (by decide : ∀ kind ∈ loopKinds, kind ∉ startKinds)
  let loop : SteadyLoop engine run firstAttempt
      (startCount recovery.id).step := {
    start := fun _ _ => usesCounted recovery
    visited := fun _ _ _ => usesCounted recovery
    done := fun _ => usesSettled recovery run.request
    raised := fun _ => usesSettled recovery run.request
    begun := fun _ _ => ledger_usesCounted.locals
    hidden := fun _ _ _ => ledger_usesCounted.locals
    ready := fun _ _ => quiet
    stable := fun _ _ _ => quiet
    visit := fun _ index version step _ =>
      (guarantees_visit_unseen (f := engine.mainFrame run index step version)
        ledger_usesCounted
        ((startCount recovery.id).stable
          (by decide : ∀ kind ∈ visitKinds ++ performKinds ++ markKinds true,
            kind ∉ startKinds))
        (guarantees_recovery_starts unique declared)).weaken
        (fun _ _ here => here) (fun _ _ _ here => here)
        (fun _ _ _ here => usesSettled_of_counted here.2)
    advance := fun _ _ _ _ here => here
    jump := fun _ _ _ _ _ _ _ _ here => here
    finish := fun _ index result => guarantees_endLoop
      (m := usesCounted recovery) (fun _ _ here => here)
      (guarantees_retain_starts index result)
    complete := fun _ _ _ _ _ _ here => usesSettled_of_counted here
    unfinished := fun _ _ _ _ _ here => usesSettled_of_counted here
    failed := fun _ _ _ _ _ _ _ here => usesSettled_of_counted here
    failed' := fun _ _ _ _ _ _ here => usesSettled_of_counted here }
  exact loop.outline.stepLoop visits index version

theorem execute_starts {request : ReplayRequest} {visits : Nat}
    {start final : EngineState} {events : List RuntimeEvent}
    {result : Except Raised RunResult}
    (unique : request.artifact.recoveryIds.Nodup)
    (declared : recovery ∈ request.artifact.recoveries)
    (run : Executes (engine.execute visits request) start events result
      final) :
    usesSettled recovery request
      ((startCount recovery.id).step.run {} events) := by
  refine execute_settles (startCount recovery.id) (· = {}) _
    (by decide : ∀ kind ∈ callKinds, kind ∉ startKinds) ?_
    (fun session version same => ?_) rfl run
  · rintro seen rfl
    exact ⟨Nat.zero_le _, by simp⟩
  · subst same
    refine (guarantees_stepLoop_starts session unique declared).weaken
      (fun seen state here => ?_) (fun _ _ _ here => here)
      (fun _ _ _ here => here)
    obtain ⟨rfl, -, fresh⟩ := here
    refine ⟨rfl, ?_⟩
    rw [fresh]
    exact ⟨Nat.zero_le _, Nat.zero_le _⟩

theorem resume_starts {continuation : ReplayContinuation}
    {outcome : Option BusinessOutcome} {visits version starts : Nat}
    {start final : EngineState} {events : List RuntimeEvent}
    {result : Except Raised RunResult}
    (unique : continuation.request.artifact.recoveryIds.Nodup)
    (declared : recovery ∈ continuation.request.artifact.recoveries)
    (covered : usesCovered recovery starts continuation.recoveryUses)
    (run : Executes (engine.resume visits continuation version outcome) start
      events result final) :
    usesSettled recovery continuation.request
      ((startCount recovery.id).step.run { starts } events) := by
  refine resume_settles (startCount recovery.id) (· = { starts }) _
    (by decide : ∀ kind ∈ callKinds, kind ∉ startKinds) ?_ (fun _ => ?_) rfl run
  · rintro seen rfl
    exact ⟨Nat.le_trans covered.1 covered.2, by simp⟩
  · refine (guarantees_stepLoop_starts continuation.run unique
      declared).weaken (fun seen state here => ?_) (fun _ _ _ here => here)
      (fun _ _ _ here => here)
    obtain ⟨rfl, -, same⟩ := here
    refine ⟨rfl, ?_⟩
    rw [same]
    exact covered

/-- A validation starts no recovery and retains nothing. -/
theorem validate_starts {r : Recovery} {continuation : ReplayContinuation}
    {start final : EngineState} {events : List RuntimeEvent}
    {result : Except Raised (Option BusinessOutcome)} {s : StartCount}
    (run : Executes (engine.validateResume continuation) start events result
      final) : (startCount r.id).step.run s events = s := by
  refine Watch.run_eq_self fun event member =>
    (startCount r.id).silent s event fun watched => ?_
  have issued := (ReplayEngine.uses_validateResume engine).issued run event
    member
  revert watched
  exact (by decide : ∀ kind ∈ ReplayEngine.validationKinds,
    kind ∉ startKinds) _ issued

/-- Along a chain the starts of a recovery are covered by the use counts of
the continuation it goes on with. -/
theorem Chain.usesSettled {request : ReplayRequest}
    {events : List RuntimeEvent} {left : Option ReplayContinuation}
    (unique : request.artifact.recoveryIds.Nodup)
    (declared : recovery ∈ request.artifact.recoveries)
    (chain : Chain engine request events left) :
    events.countP (isRecoveryStart recovery.id) ≤ recovery.maxUses ∧
      ∀ continuation ∈ left, continuation.request = request ∧
        usesCovered recovery (events.countP (isRecoveryStart recovery.id))
          continuation.recoveryUses := by
  induction chain with
  | execute run kept =>
      have settled := execute_starts unique declared run
      rw [startCount_run] at settled
      simp only [Nat.zero_add, List.nil_append] at settled
      exact ⟨settled.1, fun next member =>
        settled.2 next (kept next member)⟩
  | @validate past events continuation start final result chain run ih =>
      have unseen := validate_starts (r := recovery) (s := {}) run
      rw [startCount_run, StartCount.mk.injEq] at unseen
      have none : events.countP (isRecoveryStart recovery.id) = 0 := by
        simpa using unseen.1
      rw [List.countP_append, none, Nat.add_zero]
      refine ⟨ih.1, fun next member => ?_⟩
      obtain rfl := Option.mem_some_iff.mp member
      exact ih.2 continuation rfl
  | @resume visits version past events continuation outcome start final result
      left chain run kept ih =>
      obtain ⟨request, covered⟩ := ih.2 continuation rfl
      have settled := resume_starts (by rw [request]; exact unique)
        (by rw [request]; exact declared) covered run
      rw [startCount_run, request] at settled
      simp only [List.nil_append] at settled
      rw [List.countP_append]
      exact ⟨settled.1, fun next member =>
        settled.2 next (kept next member)⟩

end Calls

/-- The bounds of the replays of one request. -/
structure ReplayBounds (engine : ReplayEngine) (request : ReplayRequest) :
    Prop where
  /-- In every environment `execute` ends, within a known number of visits. -/
  terminates : ∀ visits, visitBound request.artifact ≤ visits →
    ∀ answer start,
      (((engine.execute visits request).run.run start).play answer []).2.1 ≠
        .error .unfinished
  visits : ∀ visits start events result final,
    Executes (engine.execute visits request) start events result final →
    events.countP isMainVisit ≤
      (1 + (request.artifact.recoveries.map Recovery.maxUses).sum) *
        request.artifact.steps.length
  attempts : ∀ visits start events result final,
    Executes (engine.execute visits request) start events result final →
    (attemptCount.step.run {} events).within = true
  /-- A resumed call stays within the same bounds. -/
  resumes : ∀ visits version continuation outcome start events result final,
    continuation.request = request →
    Executes (engine.resume visits continuation version outcome) start events
      result final →
    events.countP isMainVisit ≤ visitBound request.artifact ∧
      (attemptCount.step.run {} events).within = true ∧
      (visitBound request.artifact ≤ visits → result ≠ .error .unfinished)
  /-- Over a whole chain of calls, whatever the number of pauses. -/
  recoveries : ∀ events left, Chain engine request events left →
    ∀ recovery ∈ request.artifact.recoveries,
      events.countP (isRecoveryStart recovery.id) ≤ recovery.maxUses

theorem replay_bounded (engine : ReplayEngine) (request : ReplayRequest)
    (accepted : request.artifact.validate engine.host = .ok ()) :
    ReplayBounds engine request where
  terminates := by
    intro visits enough answer start
    have run : Executes (engine.execute visits request) start _ _ _ :=
      Program.runs_play answer [] _
    exact (execute_visits_le run).2 enough
  visits := by
    intro visits start events result final run
    exact (execute_visits_le run).1
  attempts := by
    intro visits start events result final run
    exact execute_attempts_within (attemptable_of_accepted accepted) run
  resumes := by
    rintro visits version continuation outcome start events result final rfl run
    have counted := resume_visits_le run
    exact ⟨counted.1,
      resume_attempts_within (attemptable_of_accepted accepted) run, counted.2⟩
  recoveries := by
    intro events left chain recovery declared
    exact (chain.usesSettled
      (CapabilityArtifact.recoveryIds_nodup accepted) declared).1

/-- A payment whose failed click may close a dialog and start over, twice. -/
def dialogParts : Sample.Parts where
  steps := [Sample.click "pay" "Pay" |> ({ · with recoveryRefs := ["dialog"] })]
  recoveries := [{
    id := "dialog"
    trigger := .atom (.text "Session notice" .exact)
    maxUses := 2
    steps := [Sample.click "dismiss" "Close"]
    resumeAt := "pay" }]

theorem dialog_bounded :
    ReplayBounds Sample.engine (Sample.request dialogParts) :=
  replay_bounded Sample.engine (Sample.request dialogParts) (by decide +kernel)

end ReplayForge

import ReplayForge.Capabilities.Conformance
import ReplayForge.Discovery.Environment
import ReplayForge.Discovery.Runs

/-!
# Outcomes of a discovery

What holds of a whole run, from the opening of its session to its end.
-/

namespace ReplayForge

open Effect

namespace Discovery.Engine

variable {engine : Discovery.Engine} {request : DiscoveryRequest}

/-- A run is that of a request: its policy is the one resolved for the request
and its session was opened for it. -/
structure Opened (engine : Discovery.Engine) (request : DiscoveryRequest)
    (run : DiscoveryRun) (past : List DiscoveryEvent) : Prop where
  requested : run.request = request
  policy : engine.resolvePolicy request = .ok run.policy
  session : staged ⟨.openSession request.applicationFamily request.tenant
    request.entryPoint, .ok run.session⟩ ∈ past

/-- The history of a run with its outcome. -/
inductive Explored (engine : Discovery.Engine) (request : DiscoveryRequest) :
    List DiscoveryEvent → Except Raised DiscoveryResult → Prop where
  | unopened {events : List DiscoveryEvent}
      {result : Except Raised DiscoveryResult} :
      Calm events → (∀ success, result ≠ .ok (.success success)) →
      Explored engine request events result
  | opened {run : DiscoveryRun} {front back : List DiscoveryEvent}
      {result : Except Raised DiscoveryResult} :
      Calm front → Opened engine request run front →
      Lawful engine run (front ++ back) →
      (∀ success, result = .ok (.success success) →
        Succeeded engine run success (front ++ back)) →
      Explored engine request (front ++ back) result

def openKinds : List OpKind :=
  [.openSession, .now, .createLease, .record "discovery_started"]

theorem emits_openSession :
    Emits openKinds (fun state => { state with
      session := none
      leaseVersion := 0 }) (engine.openSession request) := by
  unfold openSession
  refine confined_bind (confined_invoke (fun _ => List.mem_cons_self)
    fun _ _ _ => trivial) fun session => ?_
  refine confined_bind (confined_modify fun _ => rfl) fun _ => ?_
  refine confined_bind
    (engine.leaseService.uses_createForAutomation.emits.widen (by decide))
    fun lease => ?_
  refine confined_bind (confined_modify fun _ => rfl) fun _ => ?_
  exact confined_bind (uses_record (by decide)).emits fun _ => confined_pure

theorem opened_of_openSession {session : SurfaceSession}
    {start final : DiscoveryState} {events : List RuntimeEvent}
    (opened : Executes (engine.openSession request) start events (.ok session)
      final) :
    ⟨.openSession request.applicationFamily request.tenant request.entryPoint,
      .ok session⟩ ∈ events := by
  unfold openSession Runtime.openSession at opened
  obtain ⟨first, made, middle, rest, rfl, opening, next⟩ :=
    executes_bind_ok.mp opened
  obtain ⟨resp, rfl, same, rfl⟩ := executes_invoke.mp opening
  obtain ⟨second, _, stored, back, rfl, -, leasing⟩ := executes_bind_ok.mp next
  obtain ⟨third, lease, leased, last, rfl, -, versioning⟩ :=
    executes_bind_ok.mp leasing
  obtain ⟨fourth, _, versioned, more, rfl, -, recording⟩ :=
    executes_bind_ok.mp versioning
  obtain ⟨fifth, _, noted, closing, rfl, -, returned⟩ :=
    executes_bind_ok.mp recording
  obtain ⟨-, equal, -⟩ := executes_pure.mp returned
  cases equal
  cases resp with
  | error error => cases same
  | ok value =>
      cases same
      simp

/-! ## Planning -/

def planKinds : List StageKind :=
  .plan :: (.observe :: .capture :: leaseKinds).map .runtime

theorem stages_plan {γ : Type} {v : DiscoveryState → γ}
    {context : PlanningContext} :
    Stages planKinds v (Discovery.plan context) :=
  confined_invoke (fun _ => List.mem_cons_self) fun _ _ _ => trivial

theorem Emits.planning {α : Type} {kinds : List OpKind} {body : Work α}
    (emits : Emits kinds DiscoveryState.unleased body)
    (included : kinds ⊆ .observe :: .capture :: leaseKinds) :
    Stages planKinds DiscoveryState.unleased (Discovery.runtime body) :=
  (Emits.stages (emits.widen included)).weaken
    (fun _ member => List.mem_cons_of_mem _ member) (fun _ _ same => same)
    fun _ _ => trivial

theorem stages_planContract {session : SurfaceSession}
    {policy : EffectivePolicy} :
    Stages planKinds DiscoveryState.unleased
      (engine.planContract request session policy) := by
  have renewed : Stages planKinds DiscoveryState.unleased
      (Discovery.runtime (engine.renewControl session)) :=
    Emits.planning emits_renewControl (by decide)
  have asked {op : SessionOp} (member : op.kind ∈ [.observe, .capture]) :
      Stages planKinds DiscoveryState.unleased
        (Discovery.runtime (Runtime.session session.sessionId op)) :=
    Emits.planning (uses_session member).emits (by decide)
  unfold planContract
  split
  · exact confined_bind (confined_attempt fun _ _ => trivial) fun _ =>
      confined_pure
  · refine confined_ite (fun _ => ?_) fun _ => confined_pure
    refine confined_bind (confined_handling (c := fun _ => True) ?_
      fun _ _ _ => trivial) fun outcome => ?_
    · unfold plannedDraft
      refine confined_bind (asked (by decide)) fun observation => ?_
      refine confined_bind (asked (by decide)) fun screenshot => ?_
      refine confined_bind renewed fun _ => ?_
      refine confined_bind (confined_attempt fun _ _ => trivial) fun context => ?_
      refine confined_bind stages_plan fun planned => ?_
      refine confined_bind renewed fun _ => ?_
      split
      · exact confined_throw trivial
      · exact confined_attempt fun _ _ => trivial
    · split
      · exact confined_pure
      · exact confined_throw trivial

theorem calm_of_stages {γ α : Type} {kinds : List StageKind}
    {v : DiscoveryState → γ} {body : Discovery α} {start final : DiscoveryState}
    {events : List DiscoveryEvent} {result : Except Raised α}
    (stages : Stages kinds v body)
    (executed : Executes body start events result final)
    (still : ∀ kind ∈ kinds, kind ∉ stirringKinds) : Calm events :=
  fun event member => still _ (stages.issued executed event member)

/-! ## Whole runs -/

theorem looping_start {run : DiscoveryRun} {state : DiscoveryState}
    (recordings : state.recordings = []) (branch : state.observedBranch = none)
    (outputs : state.outputs = []) : Looping engine run [] state where
  sound := {
    authorized := justified_nil
    traced := recordings ▸ .start
    fresh := outputs ▸ fresh_nil
    branched := by
      rw [branch]
      intro observed impossible
      cases impossible }
  unbranched := fun _ => branch

/-- A run that has only read the clock so far. -/
theorem explored_of_explore {start final : DiscoveryState}
    {seen events : List DiscoveryEvent} {result : Except Raised DiscoveryResult}
    (still : Calm seen) (recordings : start.recordings = [])
    (branch : start.observedBranch = none) (outputs : start.outputs = [])
    (explored : Executes (engine.explore request) start events result final) :
    Explored engine request (seen ++ events) result := by
  unfold explore at explored
  rcases executes_bind.mp explored with
    ⟨error, resolved, rfl⟩ | ⟨front, policy, before, rest, rfl, resolved, opening⟩
  · obtain ⟨rfl, -, -⟩ := executes_attempt.mp resolved
    exact .unopened (still.append calm_nil)
      fun _ impossible => by cases impossible
  obtain ⟨rfl, same, rfl⟩ := executes_attempt.mp resolved
  rcases executes_bind.mp opening with
    ⟨error, opened, rfl⟩ | ⟨first, session, middle, rest, rfl, opened, planning⟩
  · obtain ⟨own, rfl, alone⟩ := executes_runtime.mp opened
    exact .unopened
      (still.append (emits_openSession.idle alone (by decide)).calm)
      fun _ impossible => by cases impossible
  obtain ⟨own, rfl, alone⟩ := executes_runtime.mp opened
  have calm := still.append (emits_openSession.idle alone (by decide)).calm
  rw [List.nil_append, ← List.append_assoc]
  rcases executes_bind.mp planning with
    ⟨error, planned, rfl⟩ | ⟨second, draft, ready, back, rfl, planned, looping⟩
  · exact .unopened
      (calm.append (calm_of_stages stages_planContract planned (by decide)))
      fun _ impossible => by cases impossible
  have quiet :=
    calm.append (calm_of_stages stages_planContract planned (by decide))
  have kept := emits_openSession.kept alone
  simp only [DiscoveryState.mk.injEq] at kept
  obtain ⟨-, -, -, recordings', branch', -, outputs', -⟩ := kept
  have ready' : Looping engine { request, session, policy, draft } [] ready :=
    (looping_start (recordings'.trans recordings) (branch'.trans branch)
      (outputs'.trans outputs)).congr
      (DiscoveryState.results_of_unleased (stages_planContract.kept planned))
  have ended := ensures_steps (ready'.append quiet) looping
  rw [Watch.run_history, List.nil_append] at ended
  rw [← List.append_assoc]
  have opens := List.mem_map_of_mem (f := staged) (opened_of_openSession alone)
  have opened' : Opened engine request { request, session, policy, draft }
      (seen ++ own.map staged ++ second) := ⟨rfl, same.symm, by simp [opens]⟩
  refine .opened quiet opened' ?_ ?_
  · cases result with
    | ok value => exact Answered.lawful ended
    | error error => exact ended
  · rintro success rfl
    exact ended

theorem Explored.append {events : List DiscoveryEvent}
    {more : List RuntimeEvent} {result : Except Raised DiscoveryResult}
    (explored : Explored engine request events result) (idle : Idle more)
    (outcome : Except Raised DiscoveryResult)
    (same : ∀ success, outcome = .ok (.success success) →
      result = .ok (.success success)) :
    Explored engine request (events ++ more.map staged) outcome := by
  cases explored with
  | unopened calm never =>
      exact .unopened (calm.append idle.calm) fun success here =>
        never success (same success here)
  | opened calm opened lawful succeeded =>
      rw [List.append_assoc]
      refine .opened calm opened ?_ fun success here => ?_
      · rw [← List.append_assoc]
        exact lawful.append (justified_of_calm idle.calm)
      · rw [← List.append_assoc]
        exact (succeeded success (same success here)).append idle

/-- The report of a handled exception. -/
theorem failed_of_report {session : DiscoveryState → Option SurfaceSession}
    {code message : String} {failureFrame : Option Bytes}
    {start final : DiscoveryState} {events : List DiscoveryEvent}
    {result : Except Raised DiscoveryResult}
    (reported : Executes (do
      let state ← get
      DiscoveryResult.failure <$> Discovery.runtime
        (failure request (session state) code message none failureFrame))
      start events result final) :
    ∃ own, events = own.map staged ∧ Idle own ∧
      ∀ success, result ≠ .ok (.success success) := by
  rcases executes_bind.mp reported with
    ⟨error, read, rfl⟩ | ⟨front, state, middle, back, rfl, read, next⟩
  · obtain ⟨-, impossible, -⟩ := executes_get.mp read
    cases impossible
  obtain ⟨rfl, -, -⟩ := executes_get.mp read
  rw [map_eq_pure_bind] at next
  rcases executes_bind.mp next with
    ⟨error, failed, rfl⟩ | ⟨first, failure, ended, last, rfl, failed, returned⟩
  · obtain ⟨own, rfl, alone⟩ := executes_runtime.mp failed
    exact ⟨own, rfl, (emits_failure (v := id)).idle alone (by decide),
      fun _ impossible => by cases impossible⟩
  · obtain ⟨own, rfl, alone⟩ := executes_runtime.mp failed
    obtain ⟨rfl, rfl, -⟩ := executes_pure.mp returned
    exact ⟨own, by simp, (emits_failure (v := id)).idle alone (by decide),
      fun _ impossible => by cases impossible⟩

theorem explored_of_guarded {start final : DiscoveryState}
    {seen events : List DiscoveryEvent} {result : Except Raised DiscoveryResult}
    (still : Calm seen) (recordings : start.recordings = [])
    (branch : start.observedBranch = none) (outputs : start.outputs = [])
    (executed : Executes (engine.guarded request) start events result final) :
    Explored engine request (seen ++ events) result := by
  unfold guarded at executed
  rcases executes_bind.mp executed with
    ⟨error, handled, rfl⟩ | ⟨front, outcome, middle, back, rfl, handled, next⟩
  · obtain ⟨inner, inside, -⟩ := executes_handling.mp handled
    have whole := (explored_of_explore still recordings branch outputs
      inside).append idle_nil (.error error) fun _ impossible => by
        cases impossible
    rwa [List.map_nil, List.append_nil] at whole
  obtain ⟨inner, inside, same⟩ := executes_handling.mp handled
  have whole := explored_of_explore still recordings branch outputs inside
  rcases outcome with ⟨code, message, failureFrame⟩ | value
  · obtain ⟨own, rfl, idle, never⟩ := failed_of_report next
    rw [← List.append_assoc]
    exact whole.append idle result fun success here => absurd here (never success)
  · obtain ⟨rfl, rfl, rfl⟩ := executes_pure.mp next
    rw [List.append_nil]
    cases inner with
    | ok explored =>
        cases same
        exact whole
    | error error =>
        cases chosen : runError error with
        | some caught => simp [chosen] at same
        | none => simp [chosen] at same

theorem explored_of_run {final : DiscoveryState}
    {events : List DiscoveryEvent} {result : Except Raised DiscoveryResult}
    (executed : Executes (engine.run request) {} events result final) :
    Explored engine request events result := by
  unfold run at executed
  have emits : Emits [.now] id (Runtime.now : Work Int) :=
    uses_now (by simp)
  rcases executes_bind.mp executed with
    ⟨error, read, rfl⟩ | ⟨clock, startedAt, begun, rest, rfl, read, starting⟩
  · obtain ⟨own, rfl, alone⟩ := executes_runtime.mp read
    exact .unopened (emits.idle alone (by decide)).calm
      fun _ impossible => by cases impossible
  obtain ⟨own, rfl, alone⟩ := executes_runtime.mp read
  have still := (emits.idle alone (by decide)).calm
  obtain rfl : begun = {} := emits.kept alone
  rcases executes_bind.mp starting with
    ⟨error, set, -⟩ | ⟨first, _, started, rest, rfl, set, closing⟩
  · obtain ⟨-, impossible, -⟩ := executes_modify.mp set
    cases impossible
  obtain ⟨rfl, -, rfl⟩ := executes_modify.mp set
  obtain ⟨front, outcome, middle, back, ended, rfl, inside, closed, rfl⟩ :=
    executes_closing.mp closing
  obtain ⟨own', rfl, alone'⟩ := executes_runtime.mp closed
  have quiet := (emits_closeSession (v := id)).idle alone' (by decide)
  have whole := explored_of_guarded still rfl rfl rfl inside
  have all := whole.append quiet (ended.bind fun _ => outcome)
    fun success same => by
      cases ended with
      | error error => cases same
      | ok value => exact same
  rwa [List.append_assoc] at all

/-! ## What a maintainer may rely on -/

section Results

variable {events : List DiscoveryEvent} {final : DiscoveryState}
  {success : DiscoverySuccess}

/-- A success, with the run it ended. -/
theorem succeeded_of_run
    (executed : Executes (engine.run request) {} events (.ok (.success success))
      final) :
    ∃ run, Opened engine request run events ∧
      Succeeded engine run success events := by
  have explored := explored_of_run executed
  generalize whole : Except.ok (DiscoveryResult.success success) = result
    at explored
  cases explored with
  | unopened calm never => exact absurd whole.symm (never success)
  | opened calm opened lawful succeeded =>
      exact ⟨_, { opened with
        session := List.mem_append_left _ opened.session },
        succeeded success whole.symm⟩

theorem steps_of_publishable {run : DiscoveryRun}
    {recordings : List RecordedDiscoveryStep}
    {observation : NormalizedObservation} {evidenceManifest : String}
    {outputs : Fields} {artifact : CapabilityArtifact}
    (published : engine.publishable run recordings observation evidenceManifest
      outputs = .ok artifact) :
    artifact.steps = TraceArtifactCompiler.compileSteps 1 recordings := by
  unfold publishable at published
  obtain ⟨compiled, compiles, redacting⟩ := bind_eq_ok.mp published
  obtain ⟨redacted, redacts, guarding⟩ := bind_eq_ok.mp redacting
  obtain ⟨_, -, same⟩ := bind_eq_ok.mp guarding
  cases same
  have before : compiled.steps =
      TraceArtifactCompiler.compileSteps 1 recordings := by
    unfold compile at compiles
    split at compiles
    · cases compiles
    · cases made : engine.compiler.compileWithSpec _ _ with
      | error error => rw [made] at compiles; cases compiles
      | ok artifact =>
          rw [made] at compiles
          cases compiles
          obtain ⟨completion, routes, -, rfl⟩ :=
            TraceArtifactCompiler.compileWithSpec_eq_ok.mp made
          rfl
  rw [← before]
  cases made : engine.libraries.redactContractDescriptions
      engine.privacyRedactor compiled run.request.inputs outputs with
  | error error => rw [made] at redacts; cases redacts
  | ok cleaned =>
      rw [made] at redacts
      cases redacts
      obtain ⟨-, ⟨-, rfl⟩ | ⟨-, rfl⟩⟩ :=
        PrivacyLibraries.redactContractDescriptions_eq_ok.mp made
      · rfl
      · rfl

theorem getElem?_compileSteps {recordings : List RecordedDiscoveryStep}
    {index position : Nat} {recording : RecordedDiscoveryStep}
    (there : recordings[position]? = some recording) :
    (TraceArtifactCompiler.compileSteps index recordings)[position]? =
      some (TraceArtifactCompiler.compileStep (index + position) recording) := by
  induction recordings generalizing index position with
  | nil => simp at there
  | cons first rest ih =>
      cases position with
      | zero =>
          simp only [List.getElem?_cons_zero, Option.some.injEq] at there
          simp [TraceArtifactCompiler.compileSteps, there]
      | succ position =>
          rw [List.getElem?_cons_succ] at there
          simp only [TraceArtifactCompiler.compileSteps,
            List.getElem?_cons_succ, ih there]
          rw [Nat.add_right_comm, Nat.add_assoc]

theorem length_compileSteps (index : Nat)
    (recordings : List RecordedDiscoveryStep) :
    (TraceArtifactCompiler.compileSteps index recordings).length =
      recordings.length := by
  induction recordings generalizing index with
  | nil => rfl
  | cons first rest ih => simp [TraceArtifactCompiler.compileSteps, ih]

/-- A recording has its own stretch of the history, behind those of the earlier
recordings. -/
theorem stretch_of_traced {run : DiscoveryRun}
    {recordings : List RecordedDiscoveryStep}
    (traced : Traced engine run events recordings) {position : Nat}
    {recording : RecordedDiscoveryStep}
    (there : recordings[position]? = some recording) :
    ∃ past segment later, events = past ++ segment ++ later ∧
      Traced engine run past (recordings.take position) ∧
      Evidenced engine run segment recording := by
  induction traced with
  | start => simp at there
  | other event traced ih =>
      obtain ⟨past, segment, later, rfl, earlier, evidenced⟩ := ih there
      exact ⟨past, segment, later ++ [event], by simp, earlier, evidenced⟩
  | record traced evidenced ih =>
      rename_i seen own earlier last
      have within := (List.getElem?_eq_some_iff.mp there).1
      rw [List.length_append, List.length_singleton] at within
      rcases Nat.lt_or_eq_of_le (Nat.le_of_lt_succ within) with inside | rfl
      · rw [List.getElem?_append_left inside] at there
        obtain ⟨past, segment, later, rfl, before, evidenced'⟩ := ih there
        rw [List.take_append_of_le_length inside.le]
        exact ⟨past, segment, later ++ own, by simp, before, evidenced'⟩
      · rw [List.getElem?_concat_length] at there
        cases there
        rw [List.take_left]
        exact ⟨seen, own, [], by simp, traced, evidenced⟩

/-- A verified condition was observed, but for that of an extracted output. -/
theorem observed_of_evidenced {run : DiscoveryRun}
    {recording : RecordedDiscoveryStep} {condition : Condition}
    (evidenced : Evidenced engine run events recording)
    (verified : condition ∈ recording.verifiedPostconditions)
    (apart : ∀ output, recording.action.extracted? = some output →
      condition ≠ .atom (.outputValid output)) :
    ∃ outputs, staged (observedCondition run outputs condition) ∈ events := by
  obtain ⟨proposal, before, target, decision, outputs, asking, front, event,
    back, rfl, -, -, -, -, witnessed⟩ := evidenced
  rcases witnessed.verified condition verified with
    observed | ⟨output, same, extracted, -⟩
  · have there := List.mem_map_of_mem (f := staged) observed
    exact ⟨outputs, by simp [there]⟩
  · exact absurd same (apart output extracted)

theorem not_outputValid {blocked condition : Condition}
    (proves : Condition.provesDistinctSurface blocked condition = true)
    (output : String) : condition ≠ .atom (.outputValid output) := by
  rintro rfl
  simp [Condition.provesDistinctSurface, Condition.surfaceConditions] at proves

/-- After the branch, the trace verified a condition of another surface: a
later step lists it, and it was observed in the stretch of that step's own
recording. -/
structure Restored (engine : Discovery.Engine) (run : DiscoveryRun)
    (events : List DiscoveryEvent) (steps : List Step)
    (branch : ObservedBranch) (condition : Condition) : Prop where
  distinct : Condition.provesDistinctSurface branch.condition condition = true
  verified : ∃ past segment later earlier recording step,
    events = past ++ segment ++ later ∧
    Traced engine run past earlier ∧
    branch.afterStepCount < earlier.length ∧
    Evidenced engine run segment recording ∧
    (∃ outputs, staged (observedCondition run outputs condition) ∈ segment) ∧
    steps[earlier.length]? = some step ∧
    step = TraceArtifactCompiler.compileStep (1 + earlier.length) recording ∧
    condition ∈ step.postconditions

theorem mem_postconditions {recording : RecordedDiscoveryStep}
    {condition : Condition} {index : Nat}
    (verified : condition ∈ recording.verifiedPostconditions) :
    condition ∈
      (TraceArtifactCompiler.compileStep index recording).postconditions := by
  have nonempty : recording.verifiedPostconditions.isEmpty = false := by
    cases listed : recording.verifiedPostconditions with
    | nil => simp [listed] at verified
    | cons first rest => rfl
  simpa [TraceArtifactCompiler.compileStep, nonempty] using verified

theorem exists_restored {run : DiscoveryRun}
    {recordings : List RecordedDiscoveryStep} {branch : ObservedBranch}
    (traced : Traced engine run events recordings)
    (restored : provesRestoration recordings branch = true) :
    ∃ condition, Restored engine run events
      (TraceArtifactCompiler.compileSteps 1 recordings) branch condition := by
  unfold provesRestoration at restored
  simp only [List.any_eq_true] at restored
  obtain ⟨recording, later, condition, verified, proves⟩ := restored
  obtain ⟨position, there⟩ := List.mem_iff_getElem?.mp later
  rw [List.getElem?_drop] at there
  obtain ⟨past, segment, rest, same, earlier, evidenced⟩ :=
    stretch_of_traced traced there
  have within := (List.getElem?_eq_some_iff.mp there).1
  have counted : (recordings.take (branch.afterStepCount + 1 + position)).length =
      branch.afterStepCount + 1 + position := by
    rw [List.length_take, Nat.min_eq_left within.le]
  refine ⟨condition, proves, past, segment, rest, _, recording, _, same, earlier,
    by rw [counted]; omega, evidenced,
    observed_of_evidenced evidenced verified fun output _ =>
      not_outputValid proves output, ?_, rfl, mem_postconditions verified⟩
  rw [counted]
  exact getElem?_compileSteps there

/-- A discovery of a scenario succeeds with a branch: the recorded assertion of
a condition that the session observed after steps of the primary.  A recovery
then verified another surface, and the session was ready for the next step of
the primary when the run ended; any other scenario ends at its branch. -/
theorem success_scenario (engine : Discovery.Engine)
    (request : DiscoveryRequest) (events : List DiscoveryEvent)
    (success : DiscoverySuccess) (final : DiscoveryState)
    (scenario : ScenarioContext) (given : request.scenario = some scenario)
    (executed : Executes (engine.run request) {} events (.ok (.success success))
      final) :
    ∃ run branch, Opened engine request run events ∧
      success.branch = some branch ∧
      (∃ step, success.artifact.steps[branch.afterStepCount]? = some step ∧
        step.action = .assert branch.condition) ∧
      (∃ outputs,
        staged (observedCondition run outputs branch.condition) ∈ events) ∧
      if scenario.kind = .recovery then
        (∃ condition, Restored engine run events success.artifact.steps
          branch condition) ∧
        ∃ outputs past ending, events = past ++ ending.map staged ∧
          Idle ending ∧ Rejoins run scenario.primary branch outputs ending
      else
        success.artifact.steps.length = branch.afterStepCount + 1 := by
  obtain ⟨run, opened, recordings, outputs, past, ending, rfl, completed⟩ :=
    succeeded_of_run executed
  obtain ⟨observation, evidenceManifest, -, compiled⟩ := completed.compiled
  have steps := steps_of_publishable compiled
  obtain ⟨branch, same, shown⟩ :=
    completed.concluded scenario (by rw [opened.requested, given])
  obtain ⟨-, recording, there, asserted, verified⟩ :=
    completed.branched branch same
  refine ⟨run, branch, opened, same, ⟨_, steps ▸ getElem?_compileSteps there,
    asserted⟩, ?_, ?_⟩
  · obtain ⟨before, segment, later, same', -, evidenced⟩ :=
      stretch_of_traced (completed.traced.append _) there
    obtain ⟨held, observed⟩ := observed_of_evidenced evidenced verified
      fun output extracted => by simp [asserted, Action.extracted?] at extracted
    exact ⟨held, same' ▸ by simp [observed]⟩
  split at shown
  next recovers =>
    rw [if_pos recovers, steps]
    exact ⟨exists_restored (completed.traced.append _) shown.1, outputs, past,
      ending, rfl, completed.idle, shown.2⟩
  next ends =>
    rw [if_neg ends, steps, length_compileSteps]
    exact shown

end Results

end Discovery.Engine

namespace Sample

open Discovery.Engine

set_option maxRecDepth 4000 in
theorem reading_finds :
    findsArtifact (explores (discoverer.run (discoveryRequest none))
      (discovers [.act readsCustomer])) = true := by
  decide +kernel

/-- The discovery that reads the customer. -/
theorem reading_discovered : ∃ events success final,
    Executes (discoverer.run (discoveryRequest none)) {} events
        (.ok (.success success)) final ∧
      (∃ event ∈ events, stageKind event = .decide) ∧
      ∃ event ∈ events, IsDispatch event :=
  exists_artifact reading_finds

set_option maxRecDepth 4000 in
theorem recovery_finds :
    findsArtifact (explores
      (discoverer.run (discoveryRequest (some interrupted)))
      (discovers recovers)) = true := by
  decide +kernel

/-- The discovery of the way back. -/
theorem recovery_discovered : ∃ events success final,
    Executes (discoverer.run (discoveryRequest (some interrupted))) {} events
      (.ok (.success success)) final := by
  obtain ⟨events, success, final, executed, -⟩ := exists_artifact recovery_finds
  exact ⟨events, success, final, executed⟩

theorem recovery_restored :
    ∃ (events : List DiscoveryEvent) (success : DiscoverySuccess)
      (run : DiscoveryRun) (branch : ObservedBranch) (condition : Condition),
      success.branch = some branch ∧
      Restored discoverer run events success.artifact.steps branch
        condition := by
  obtain ⟨events, success, final, executed⟩ := recovery_discovered
  obtain ⟨run, branch, -, same, -, -, shown⟩ :=
    success_scenario _ _ _ _ _ interrupted rfl executed
  rw [if_pos (show interrupted.kind = .recovery from rfl)] at shown
  obtain ⟨⟨condition, restored⟩, -⟩ := shown
  exact ⟨events, success, run, branch, condition, same, restored⟩

end Sample

end ReplayForge

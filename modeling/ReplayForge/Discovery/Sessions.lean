import ReplayForge.Discovery.Pacing

/-!
# The session of a discovery

A run opens one session at most, and closes it with its last operation,
whatever it ends with.
-/

namespace ReplayForge

open Effect

namespace Discovery.Engine

variable {engine : Discovery.Engine} {run : DiscoveryRun}
  {request : DiscoveryRequest}

/-! ## The loop -/

def loopOps : List OpKind :=
  .now :: .capture :: .record "model_proposal_received" ::
    actKinds ++ lookKinds ++ completionKinds ++ branchKinds

/-- What the loop issues: neither the opening nor the end of a session. -/
def loopKinds : List StageKind :=
  .decide :: .pause :: loopOps.map .runtime

theorem Emits.looped {γ α : Type} {kinds : List OpKind}
    {v : DiscoveryState → γ} {body : Work α}
    (emits : Emits kinds v body) (included : kinds ⊆ loopOps)
    (coarse : ∀ left right, v left = v right → left.session = right.session) :
    Stages loopKinds DiscoveryState.session (Discovery.runtime body) :=
  (Emits.stages (emits.widen included)).weaken
    (fun _ member => List.mem_cons_of_mem _ (List.mem_cons_of_mem _ member))
    coarse fun _ _ => trivial

theorem Emits.looped_settled {α : Type} {kinds : List OpKind}
    {body : Work α} (emits : Emits kinds DiscoveryState.settled body)
    (included : kinds ⊆ loopOps) :
    Stages loopKinds DiscoveryState.session (Discovery.runtime body) :=
  Emits.looped emits included fun _ _ same => DiscoveryState.session_of_results
    (DiscoveryState.results_of_settled same)

theorem Emits.looped_counters {α : Type} {kinds : List OpKind}
    {body : Work α} (emits : Emits kinds DiscoveryState.counters body)
    (included : kinds ⊆ loopOps) :
    Stages loopKinds DiscoveryState.session (Discovery.runtime body) :=
  Emits.looped emits included fun _ _ same => congrArg Prod.fst same

theorem Emits.looped_plain {α : Type} {kinds : List OpKind}
    {body : Work α} (emits : Emits kinds id body)
    (included : kinds ⊆ loopOps) :
    Stages loopKinds DiscoveryState.session (Discovery.runtime body) :=
  Emits.looped emits included fun _ _ same => congrArg DiscoveryState.session same

theorem stages_renewControl {session : SurfaceSession} :
    Stages loopKinds DiscoveryState.session
      (Discovery.runtime (engine.renewControl session)) :=
  Emits.looped_counters emits_renewControl_counters (by decide)

theorem stages_now : Stages loopKinds DiscoveryState.session
    (Discovery.runtime Runtime.now) :=
  Emits.looped_plain (uses_now (List.mem_singleton.mpr rfl)) (by decide)

theorem stages_handOver {number : Nat} {code : String}
    {current : NormalizedObservation} :
    Stages loopKinds DiscoveryState.session
      (engine.handOver run number code current) := by
  unfold handOver handoff
  refine confined_bind ?_ fun _ => confined_pure
  refine confined_bind stages_now fun pausedAt => ?_
  refine confined_bind confined_get fun state => ?_
  refine confined_bind (confined_invoke
    (fun _ => List.mem_cons_of_mem _ List.mem_cons_self) fun _ _ _ => trivial)
    fun version => ?_
  refine confined_bind stages_now fun resumedAt => ?_
  refine confined_bind (confined_modify fun _ => rfl) fun _ => ?_
  refine confined_bind (Emits.looped_plain emits_heartbeat (by decide))
    fun lease => ?_
  exact confined_modify fun _ => rfl

theorem stages_endFailed {code message : String} :
    Stages loopKinds DiscoveryState.session (endFailed run code message) := by
  unfold endFailed
  rw [map_eq_pure_bind]
  exact confined_bind (Emits.looped_plain emits_completionFailed (by decide))
    fun _ => confined_pure

theorem stages_propose {observation : NormalizedObservation} :
    Stages loopKinds DiscoveryState.session
      (engine.propose run observation) := by
  unfold propose
  refine confined_bind (Emits.looped_plain
    (emits_call (List.mem_singleton.mpr rfl)) (by decide)) fun screenshot => ?_
  refine confined_bind stages_renewControl fun _ => ?_
  refine confined_bind confined_get fun state => ?_
  refine confined_bind (confined_invoke (fun _ => List.mem_cons_self)
    fun _ _ _ => trivial) fun answer => ?_
  refine confined_bind stages_renewControl fun _ => ?_
  exact confined_bind (Emits.looped_plain
    (emits_record (List.mem_singleton.mpr rfl)) (by decide))
    fun _ => confined_pure

theorem stages_attemptAct {number : Nat} {observation : NormalizedObservation}
    {proposal : ActProposal} {pending : Option ObservedBranch} :
    Stages loopKinds DiscoveryState.session
      (engine.attemptAct run number observation proposal pending) := by
  unfold attemptAct
  refine confined_bind (Emits.looped emits_noteProposal (by decide)
    fun _ _ => DiscoveryState.session_of_results) fun stuck => ?_
  refine confined_ite (fun _ => stages_handOver) fun _ => ?_
  refine confined_ite (fun _ => stages_handOver) fun _ => ?_
  refine confined_bind (confined_handling (c := fun _ => True)
    (Emits.looped_counters emits_act (by decide)) fun _ _ _ => trivial)
    fun outcome => ?_
  rcases outcome with (error | code) | (result | ⟨recording, history⟩)
  · unfold handleSurfaceError
    refine confined_ite (fun _ => ?_) fun _ => confined_ite (fun _ => ?_)
      fun _ => confined_throw trivial
    · exact confined_bind (Emits.looped_settled emits_rejectProposal
        (by decide)) fun _ => confined_pure
    · exact confined_bind (Emits.looped_plain
        (emits_call (List.mem_singleton.mpr rfl)) (by decide))
        fun current => stages_handOver
  · exact stages_handOver
  · exact confined_pure
  · exact Emits.looped_counters emits_keepRecording (by decide)

theorem stages_follow {number : Nat} {observation : NormalizedObservation}
    {answer : DiscoveryProposal} :
    Stages loopKinds DiscoveryState.session
      (engine.follow run number observation answer) := by
  cases answer with
  | escalate reasonCode rationale => exact stages_handOver
  | complete rationale =>
      exact Emits.looped_settled emits_attemptCompletion (by decide)
  | act proposal => exact stages_attemptAct
  | recordedAction stepId rationale expected =>
      unfold follow
      dsimp only
      split
      · exact stages_endFailed
      · exact confined_bind (confined_attempt fun _ _ => trivial)
          fun proposal => stages_attemptAct
  | branch condition rationale =>
      unfold follow
      dsimp only
      refine confined_bind confined_get fun state => ?_
      split
      · exact confined_ite (fun _ => stages_endFailed)
          fun _ => stages_attemptAct
      · exact stages_endFailed

theorem stages_steps {remaining number : Nat} :
    Stages loopKinds DiscoveryState.session
      (engine.steps run remaining number) := by
  induction remaining generalizing number with
  | zero => exact Emits.looped_plain emits_completionFailed (by decide)
  | succ remaining ih =>
      unfold steps step
      refine confined_bind ?_ fun passed => ?_
      · refine confined_bind stages_now fun now => ?_
        refine confined_bind confined_get fun state => ?_
        refine confined_ite (fun _ => stages_endFailed) fun _ => ?_
        refine confined_bind (Emits.looped_settled emits_look (by decide))
          fun looked => ?_
        obtain ⟨shown, stuck⟩ := looked
        refine confined_ite (fun _ => stages_handOver) fun _ => ?_
        exact confined_bind stages_propose fun answer => stages_follow
      · cases passed with
        | some result => exact confined_pure
        | none => exact ih

/-! ## Whole runs -/

/-- Neither the opening of a session nor its end. -/
def Amid (events : List DiscoveryEvent) : Prop :=
  ∀ event ∈ events, stageKind event ≠ .runtime .openSession ∧
    stageKind event ≠ .runtime .close

def opening (request : DiscoveryRequest)
    (answer : Except SessionError SurfaceSession) : DiscoveryEvent :=
  staged ⟨.openSession request.applicationFamily request.tenant
    request.entryPoint, answer⟩

/-- The history of a run with the session it holds. -/
inductive Holding (request : DiscoveryRequest) :
    List DiscoveryEvent → Option SurfaceSession → Prop where
  | unopened {events : List DiscoveryEvent} :
      Amid events → Holding request events none
  | refused {front back : List DiscoveryEvent} {error : SessionError} :
      Amid front → Amid back →
      Holding request (front ++ opening request (.error error) :: back) none
  | opened {front back : List DiscoveryEvent} {session : SurfaceSession} :
      Amid front → Amid back →
      Holding request (front ++ opening request (.ok session) :: back)
        (some session)

/-- The end of what a run holds; an error of it is the result of the run. -/
inductive Released (result : Except Raised DiscoveryResult) :
    Option SurfaceSession → List DiscoveryEvent → Prop where
  | nothing : Released result none []
  | closed {session : SurfaceSession} {answer : Except SessionError Unit} :
      (∀ error, answer = .error error → result = .error error.raised) →
      Released result (some session)
        [staged ⟨.session session.sessionId .close, answer⟩]

theorem amid_nil : Amid [] :=
  fun _ impossible => by cases impossible

theorem Amid.append {first second : List DiscoveryEvent} (head : Amid first)
    (tail : Amid second) : Amid (first ++ second) := by
  intro event member
  rcases List.mem_append.mp member with earlier | later
  · exact head event earlier
  · exact tail event later

theorem amid_of_stages {γ α : Type} {kinds : List StageKind}
    {v : DiscoveryState → γ} {body : Discovery α} {start final : DiscoveryState}
    {events : List DiscoveryEvent} {result : Except Raised α}
    (stages : Stages kinds v body)
    (executed : Executes body start events result final)
    (apart : ∀ kind ∈ kinds,
      kind ≠ .runtime .openSession ∧ kind ≠ .runtime .close) : Amid events :=
  fun event member => apart _ (stages.issued executed event member)

theorem Holding.after {before events : List DiscoveryEvent}
    {session : Option SurfaceSession} (holding : Holding request events session)
    (amid : Amid before) : Holding request (before ++ events) session := by
  cases holding with
  | unopened rest => exact .unopened (amid.append rest)
  | refused front back =>
      rw [← List.append_assoc]
      exact .refused (amid.append front) back
  | opened front back =>
      rw [← List.append_assoc]
      exact .opened (amid.append front) back

theorem Holding.append {events more : List DiscoveryEvent}
    {session : Option SurfaceSession} (holding : Holding request events session)
    (amid : Amid more) : Holding request (events ++ more) session := by
  cases holding with
  | unopened before => exact .unopened (before.append amid)
  | refused front back =>
      rw [List.append_assoc, List.cons_append]
      exact .refused front (back.append amid)
  | opened front back =>
      rw [List.append_assoc, List.cons_append]
      exact .opened front (back.append amid)

/-! ### The opening -/

/-- What follows the opening of a session. -/
theorem emits_takeControl {session : SurfaceSession} :
    Emits [.now, .createLease, .record "discovery_started"]
      DiscoveryState.session (do
        let lease ← engine.leaseService.createForAutomation session.sessionId
        modify fun state => { state with leaseVersion := lease.version }
        Runtime.record "discovery_started" request.runId
        return session : Work SurfaceSession) := by
  refine confined_bind
    (engine.leaseService.uses_createForAutomation.emits.widen (by decide))
    fun lease => ?_
  refine confined_bind (confined_modify fun _ => rfl) fun _ => ?_
  exact confined_bind (uses_record (by decide)).emits fun _ => confined_pure

theorem holding_of_openSession {start final : DiscoveryState}
    {events : List DiscoveryEvent} {result : Except Raised SurfaceSession}
    (closed : start.session = none)
    (executed : Executes (Discovery.runtime (engine.openSession request)) start
      events result final) : Holding request events final.session := by
  obtain ⟨own, rfl, alone⟩ := executes_runtime.mp executed
  unfold openSession Runtime.openSession at alone
  rcases executes_bind.mp alone with
    ⟨error, opened, rfl⟩ | ⟨front, session, middle, rest, rfl, opened, next⟩
  · obtain ⟨resp, rfl, same, rfl⟩ := executes_invoke.mp opened
    cases resp with
    | ok session => cases same
    | error error =>
        rw [closed]
        exact @Holding.refused _ [] [] error amid_nil amid_nil
  obtain ⟨resp, rfl, same, rfl⟩ := executes_invoke.mp opened
  cases resp with
  | error error => cases same
  | ok value =>
      cases same
      rcases executes_bind.mp next with
        ⟨error, stored, -⟩ | ⟨first, _, held, back, rfl, stored, leasing⟩
      · obtain ⟨-, impossible, -⟩ := executes_modify.mp stored
        cases impossible
      obtain ⟨rfl, -, rfl⟩ := executes_modify.mp stored
      have kept := emits_takeControl.kept leasing
      have amid : Amid (back.map staged) := by
        intro event member
        obtain ⟨origin, within, rfl⟩ := List.mem_map.mp member
        have issued := emits_takeControl.issued leasing origin within
        rw [stageKind_staged]
        constructor <;> rintro same <;> simp_all
      rw [kept]
      exact @Holding.opened _ [] _ _ amid_nil amid

/-! ### The end -/

theorem released_of_closeSession {start final : DiscoveryState}
    {events : List DiscoveryEvent} {ended : Except Raised Unit}
    {outcome : Except Raised DiscoveryResult}
    (executed : Executes (Discovery.runtime closeSession) start events ended
      final) :
    Released (ended.bind fun _ => outcome) start.session events := by
  obtain ⟨own, rfl, alone⟩ := executes_runtime.mp executed
  unfold closeSession at alone
  rcases executes_bind.mp alone with
    ⟨error, read, -⟩ | ⟨front, state, middle, rest, rfl, read, next⟩
  · obtain ⟨-, impossible, -⟩ := executes_get.mp read
    cases impossible
  obtain ⟨rfl, same, rfl⟩ := executes_get.mp read
  cases same
  cases held : state.session with
  | none =>
      rw [held] at next
      obtain ⟨rfl, -, -⟩ := executes_pure.mp next
      exact .nothing
  | some session =>
      rw [held] at next
      obtain ⟨resp, rfl, rfl, -⟩ := executes_invoke.mp next
      refine .closed fun error failed => ?_
      subst failed
      rfl

/-! ### The exploration -/

theorem holding_of_explore {start final : DiscoveryState}
    {events : List DiscoveryEvent} {result : Except Raised DiscoveryResult}
    (closed : start.session = none)
    (explored : Executes (engine.explore request) start events result final) :
    Holding request events final.session := by
  unfold explore at explored
  rcases executes_bind.mp explored with
    ⟨error, resolved, -⟩ | ⟨front, policy, before, rest, rfl, resolved, opening⟩
  · obtain ⟨rfl, -, rfl⟩ := executes_attempt.mp resolved
    rw [closed]
    exact .unopened amid_nil
  obtain ⟨rfl, -, rfl⟩ := executes_attempt.mp resolved
  rw [List.nil_append]
  rcases executes_bind.mp opening with
    ⟨error, opened, -⟩ | ⟨first, session, middle, rest, rfl, opened, planning⟩
  · exact holding_of_openSession closed opened
  have holding := holding_of_openSession closed opened
  have planned : Stages planKinds DiscoveryState.session
      (engine.planContract request session policy) :=
    stages_planContract.weaken (fun _ member => member)
      (fun _ _ same => DiscoveryState.session_of_results
        (DiscoveryState.results_of_unleased same)) fun _ same => same
  have looped (draft : Option CapabilityDraftSpec) :
      Stages (planKinds ++ loopKinds) DiscoveryState.session
        (engine.steps { request, session, policy, draft } request.maxSteps 1) :=
    stages_steps.weaken (fun _ member => List.mem_append_right _ member)
      (fun _ _ same => same) fun _ same => same
  have whole := confined_bind (planned.weaken
    (fun _ member => List.mem_append_left _ member) (fun _ _ same => same)
      fun _ same => same) looped
  rw [whole.kept planning]
  exact holding.append (amid_of_stages whole planning (by decide))

theorem stages_report {session : DiscoveryState → Option SurfaceSession}
    {code message : String} {failureFrame : Option Bytes} :
    Stages loopKinds DiscoveryState.session (do
      let state ← get
      DiscoveryResult.failure <$> Discovery.runtime
        (failure request (session state) code message none failureFrame)) := by
  refine confined_bind confined_get fun state => ?_
  rw [map_eq_pure_bind]
  exact confined_bind (Emits.looped_plain emits_failure (by decide))
    fun _ => confined_pure

theorem holding_of_guarded {start final : DiscoveryState}
    {events : List DiscoveryEvent} {result : Except Raised DiscoveryResult}
    (closed : start.session = none)
    (executed : Executes (engine.guarded request) start events result final) :
    Holding request events final.session := by
  unfold guarded at executed
  rcases executes_bind.mp executed with
    ⟨error, handled, -⟩ | ⟨front, outcome, middle, back, rfl, handled, next⟩
  · obtain ⟨inner, inside, -⟩ := executes_handling.mp handled
    exact holding_of_explore closed inside
  obtain ⟨inner, inside, -⟩ := executes_handling.mp handled
  have holding := holding_of_explore closed inside
  rcases outcome with ⟨code, message, failureFrame⟩ | value
  · rw [stages_report.kept next]
    exact holding.append (amid_of_stages stages_report next (by decide))
  · obtain ⟨rfl, -, rfl⟩ := executes_pure.mp next
    rwa [List.append_nil]

/-- A run opens one session at most, the one of its request, and releases it
with its last operation, once, whatever the run ends with and however it was
handed over; a run without a session releases nothing. -/
theorem session_released (engine : Discovery.Engine) (request : DiscoveryRequest)
    (events : List DiscoveryEvent) (result : Except Raised DiscoveryResult)
    (final : DiscoveryState)
    (executed : Executes (engine.run request) {} events result final) :
    ∃ used ending held, events = used ++ ending ∧
      Holding request used held ∧ Released result held ending := by
  unfold run at executed
  have emits : Emits [.now] id (Runtime.now : Work Int) :=
    uses_now (by simp)
  rcases executes_bind.mp executed with
    ⟨error, read, -⟩ | ⟨clock, startedAt, begun, rest, rfl, read, starting⟩
  · refine ⟨events, [], none, by simp, .unopened ?_, .nothing⟩
    exact amid_of_stages (Emits.stages emits) read (by decide)
  have clocked := amid_of_stages (Emits.stages emits) read (by decide)
  obtain ⟨own, rfl, alone⟩ := executes_runtime.mp read
  obtain rfl : begun = {} := emits.kept alone
  rcases executes_bind.mp starting with
    ⟨error, set, -⟩ | ⟨first, _, started, rest, rfl, set, closing⟩
  · obtain ⟨-, impossible, -⟩ := executes_modify.mp set
    cases impossible
  obtain ⟨rfl, -, rfl⟩ := executes_modify.mp set
  obtain ⟨front, outcome, middle, back, ended, rfl, inside, closed, rfl⟩ :=
    executes_closing.mp closing
  refine ⟨own.map staged ++ front, back, middle.session, by simp, ?_,
    released_of_closeSession closed⟩
  exact (holding_of_guarded rfl inside).after clocked

end Discovery.Engine

namespace Sample

open Discovery.Engine

theorem recovery_released : ∃ used ending held,
    Holding (discoveryRequest (some interrupted)) used held ∧
      ∃ success, Released (.ok (.success success)) held ending := by
  obtain ⟨events, success, final, executed⟩ := recovery_discovered
  obtain ⟨used, ending, held, -, holding, released⟩ :=
    session_released _ _ _ _ _ executed
  exact ⟨used, ending, held, holding, success, released⟩

end Sample

end ReplayForge

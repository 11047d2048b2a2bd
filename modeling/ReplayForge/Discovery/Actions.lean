import ReplayForge.Discovery.Footprints
import ReplayForge.Effect.Causes

/-!
# What one action does

An action that ends before its dispatch issues nothing but idle operations.
Otherwise it issues one dispatch, which the policy admitted on the page that
was observed last and for which the automation's lease was renewed; what it
records is what it did.
-/

namespace ReplayForge

open Effect

/-! ## Idle operations -/

def dispatchKinds : List OpKind := [.execute, .extract]

def pageKinds : List OpKind := .observe :: dispatchKinds

/-- No operation is of one of the kinds. -/
def Avoids (kinds : List OpKind) (events : List RuntimeEvent) : Prop :=
  ∀ event ∈ events, eventKind event ∉ kinds

/-- No operation acts on the page or reads a value off it. -/
def Idle (events : List RuntimeEvent) : Prop :=
  Avoids dispatchKinds events

/-- The session shows no page either. -/
def Unseen (events : List RuntimeEvent) : Prop :=
  Avoids pageKinds events

theorem avoids_nil {kinds : List OpKind} : Avoids kinds [] := by simp [Avoids]

theorem Avoids.append {kinds : List OpKind} {first second : List RuntimeEvent}
    (head : Avoids kinds first) (tail : Avoids kinds second) :
    Avoids kinds (first ++ second) := by
  intro event member
  rcases List.mem_append.mp member with here | there
  · exact head event here
  · exact tail event there

theorem Avoids.narrow {kinds fewer : List OpKind} {events : List RuntimeEvent}
    (avoids : Avoids kinds events) (within : fewer ⊆ kinds) :
    Avoids fewer events :=
  fun event member listed => avoids event member (within listed)

theorem idle_nil : Idle [] := avoids_nil

theorem Idle.append {first second : List RuntimeEvent} (head : Idle first)
    (tail : Idle second) : Idle (first ++ second) :=
  Avoids.append head tail

theorem Unseen.append {first second : List RuntimeEvent} (head : Unseen first)
    (tail : Unseen second) : Unseen (first ++ second) :=
  Avoids.append head tail

theorem Unseen.idle {events : List RuntimeEvent} (unseen : Unseen events) :
    Idle events :=
  unseen.narrow (List.subset_cons_self _ _)

theorem Emits.avoids {σ γ α : Type} {kinds avoided : List OpKind}
    {view : σ → γ} {body : Runtime σ α} {start final : σ}
    {events : List RuntimeEvent} {result : Except Raised α}
    (proof : Emits kinds view body)
    (run : Executes body start events result final)
    (apart : ∀ kind ∈ kinds, kind ∉ avoided) : Avoids avoided events :=
  fun event member => apart _ (proof.issued run event member)

theorem Emits.idle {σ γ α : Type} {kinds : List OpKind} {view : σ → γ}
    {body : Runtime σ α} {start final : σ} {events : List RuntimeEvent}
    {result : Except Raised α} (proof : Emits kinds view body)
    (run : Executes body start events result final)
    (apart : ∀ kind ∈ kinds, kind ∉ dispatchKinds) : Idle events :=
  proof.avoids run apart

/-- Code that changes no local. -/
theorem Emits.silent {σ α : Type} {kinds : List OpKind} {body : Runtime σ α}
    {start final : σ} {events : List RuntimeEvent} {result : Except Raised α}
    (proof : Emits kinds id body)
    (run : Executes body start events result final)
    (apart : ∀ kind ∈ kinds, kind ∉ dispatchKinds) :
    Idle events ∧ final = start :=
  ⟨proof.idle run apart, proof.kept run⟩

/-- Code that shows no page and changes no local. -/
theorem Emits.unseen {σ α : Type} {kinds : List OpKind} {body : Runtime σ α}
    {start final : σ} {events : List RuntimeEvent} {result : Except Raised α}
    (proof : Emits kinds id body)
    (run : Executes body start events result final)
    (apart : ∀ kind ∈ kinds, kind ∉ pageKinds) :
    Unseen events ∧ final = start :=
  ⟨proof.avoids run apart, proof.kept run⟩

/-! ## Single operations -/

section Operations

variable {σ α : Type} {start final : σ} {events : List RuntimeEvent}

theorem executes_session_ok {sessionId : String} {op : SessionOp}
    {value : op.Result} :
    Executes (Runtime.session sessionId op : Runtime σ op.Result) start events
        (.ok value) final ↔
      events = [⟨.session sessionId op, .ok value⟩] ∧ final = start := by
  unfold Runtime.session
  rw [executes_invoke]
  constructor
  · rintro ⟨resp, rfl, same, rfl⟩
    cases resp with
    | error error => cases same
    | ok stored =>
        cases same
        exact ⟨rfl, rfl⟩
  · rintro ⟨rfl, rfl⟩
    exact ⟨.ok value, rfl, rfl, rfl⟩

theorem executes_record_ok {eventType runId : String} {stepId : Option String}
    {details : Fields} :
    Executes (Runtime.record eventType runId stepId details : Runtime σ Unit)
        start events (.ok ()) final ↔
      events = [⟨.record eventType runId stepId details, .ok ()⟩] ∧
        final = start := by
  unfold Runtime.record
  rw [executes_invoke]
  constructor
  · rintro ⟨resp, rfl, same, rfl⟩
    cases resp with
    | error error => cases same
    | ok stored => exact ⟨rfl, rfl⟩
  · rintro ⟨rfl, rfl⟩
    exact ⟨.ok (), rfl, rfl, rfl⟩

theorem executes_raiseIf_ok {test : Prop} [Decidable test] {error : Raised} :
    Executes (Runtime.raiseIf test error : Runtime σ Unit) start events
        (.ok ()) final ↔
      ¬test ∧ events = [] ∧ final = start := by
  unfold Runtime.raiseIf
  rw [executes_ite]
  simp

/-- The automation's lease on the session was replaced by a later one of
its own. -/
def IsRenewal (sessionId : String) (event : RuntimeEvent) : Prop :=
  ∃ version replacement lease, event =
    ⟨.control (.swapLease sessionId version .automation replacement),
      .ok lease⟩

theorem renewal_of_heartbeat {service : ControlLeaseService}
    {sessionId : String} {version : Nat} {lease : ControlLease}
    (run : Executes (service.heartbeat sessionId version .automation :
      Runtime σ ControlLease) start events (.ok lease) final) :
    ∃ event ∈ events, IsRenewal sessionId event := by
  unfold ControlLeaseService.heartbeat at run
  obtain ⟨first, current, middle, rest, rfl, -, tail⟩ :=
    executes_bind_ok.mp run
  obtain ⟨second, replacement, middle, last, rfl, -, swap⟩ :=
    executes_bind_ok.mp tail
  unfold Runtime.control at swap
  obtain ⟨resp, rfl, same, -⟩ := executes_invoke.mp swap
  cases resp with
  | error error => cases same
  | ok stored =>
      refine ⟨_, by simp, version, replacement, stored, rfl⟩

end Operations

namespace Discovery.Engine

variable {engine : Discovery.Engine} {run : DiscoveryRun}
  {proposal : ActProposal} {before : NormalizedObservation}
  {start final : DiscoveryState} {events : List RuntimeEvent}

theorem renewal_of_renewControl {session : SurfaceSession}
    (renewed : Executes (engine.renewControl session) start events (.ok ())
      final) :
    ∃ event ∈ events, IsRenewal session.sessionId event := by
  unfold renewControl at renewed
  obtain ⟨first, state, middle, rest, rfl, current, tail⟩ :=
    executes_bind_ok.mp renewed
  obtain ⟨second, lease, middle, last, rfl, heartbeat, -⟩ :=
    executes_bind_ok.mp tail
  obtain ⟨event, member, renews⟩ := renewal_of_heartbeat heartbeat
  exact ⟨event, by simp [member], renews⟩

/-- An action fails in its first part or goes on. -/
theorem executes_unlessFailed {first : Work (Option FailureResult)}
    {next : Work ActOutcome} {result : Except Raised ActOutcome}
    (run : Executes (unlessFailed first next) start events result final) :
    (∃ outcome, Executes first start events outcome final ∧
      ∀ recording history, result ≠ .ok (.recorded recording history)) ∨
    ∃ front middle back, events = front ++ back ∧
      Executes first start front (.ok none) middle ∧
      Executes next middle back result final := by
  unfold unlessFailed at run
  rcases executes_bind.mp run with
    ⟨error, head, rfl⟩ | ⟨front, outcome, middle, back, rfl, head, tail⟩
  · exact .inl ⟨_, head, fun _ _ impossible => by cases impossible⟩
  · cases outcome with
    | none => exact .inr ⟨front, middle, back, rfl, head, tail⟩
    | some failed =>
        obtain ⟨rfl, rfl, rfl⟩ := executes_pure.mp tail
        rw [List.append_nil]
        exact .inl ⟨_, head, fun _ _ impossible => by cases impossible⟩

/-! ## Admission -/

/-- The answer of the session to where it is. -/
def originEvent (run : DiscoveryRun) (origin : String) : RuntimeEvent :=
  ⟨.session run.session.sessionId .origin, .ok origin⟩

/-- The policy allowed the proposal at the origin the session reported and on
the observed page, and the lease was renewed after that. -/
structure Admitted (engine : Discovery.Engine) (run : DiscoveryRun)
    (proposal : ActProposal) (before : NormalizedObservation)
    (target : Option ResolvedTarget) (decision : PolicyDecision)
    (events : List RuntimeEvent) : Prop where
  allowed : decision.decision = .allow
  evaluated : ∃ front origin back, events = front ++ originEvent run origin :: back ∧
    PolicyEvaluator.evaluate engine.libraries.host run.policy
      (actionContext run proposal origin before.route target) = .ok decision ∧
    ∃ event ∈ back, IsRenewal run.session.sessionId event

theorem evaluated_of_actionPolicy {target : Option ResolvedTarget}
    {decision : PolicyDecision}
    (decided : Executes (engine.actionPolicy run proposal before target) start
      events (.ok decision) final) :
    ∃ origin back, events = originEvent run origin :: back ∧
      PolicyEvaluator.evaluate engine.libraries.host run.policy
        (actionContext run proposal origin before.route target) =
          .ok decision := by
  unfold actionPolicy DiscoveryRun.call at decided
  obtain ⟨first, origin, middle, rest, rfl, asked, judging⟩ :=
    executes_bind_ok.mp decided
  obtain ⟨rfl, rfl⟩ := executes_session_ok.mp asked
  obtain ⟨second, judged, middle, last, rfl, evaluated, recording⟩ :=
    executes_bind_ok.mp judging
  obtain ⟨rfl, same, rfl⟩ := executes_attempt.mp evaluated
  obtain ⟨third, _, middle, closing, rfl, -, returned⟩ :=
    executes_bind_ok.mp recording
  obtain ⟨rfl, judgedSame, -⟩ := executes_pure.mp returned
  cases judgedSame
  exact ⟨origin, third, by simp [originEvent], same.symm⟩

theorem allowed_of_applyDecision {decision : PolicyDecision}
    (admitted : Executes (engine.applyDecision run decision) start events (.ok none)
      final) :
    decision.decision = .allow ∧
      ∃ event ∈ events, IsRenewal run.session.sessionId event := by
  unfold applyDecision at admitted
  split at admitted
  · obtain ⟨result, -, impossible⟩ := executes_map_ok.mp admitted
    cases impossible
  · rcases executes_ite.mp admitted with ⟨-, raised⟩ | ⟨-, raised⟩
    · obtain ⟨-, impossible, -⟩ := executes_throw.mp raised
      cases impossible
    · obtain ⟨-, impossible, -⟩ := executes_throw.mp raised
      cases impossible
  next allowed =>
    obtain ⟨first, _, middle, rest, rfl, renewed, -⟩ :=
      executes_bind_ok.mp admitted
    obtain ⟨event, member, renews⟩ := renewal_of_renewControl renewed
    exact ⟨allowed, event, by simp [member], renews⟩

theorem emits_applyDecision {decision : PolicyDecision} :
    Emits (.record "action_intent" :: leaseKinds ++ failureKinds)
      DiscoveryState.unleased (engine.applyDecision run decision) := by
  unfold applyDecision
  split
  · exact emits_actFailure.widen (by decide)
  · exact confined_ite (fun _ => confined_throw trivial) fun _ =>
      confined_throw trivial
  · refine confined_bind (emits_renewControl.widen (by decide)) fun _ => ?_
    exact confined_bind (emits_record (by simp)) fun _ => confined_pure

/-! ## The dispatch -/

/-- The operation that carries out an action. -/
inductive Dispatched (run : DiscoveryRun) (action : Action)
    (target : Option ResolvedTarget) : RuntimeEvent → Prop where
  | execute (answer : Except SessionError ActionReceipt) :
      action.extracted? = none →
      Dispatched run action target
        ⟨.session run.session.sessionId
          (.execute action target run.request.inputs), answer⟩
  | extract {output : String} {transform : Transform}
      {resolved : ResolvedTarget} (answer : Except SessionError String) :
      action = .extract output transform → target = some resolved →
      Dispatched run action target
        ⟨.session run.session.sessionId (.extract resolved), answer⟩

/-- The operation was carried out. -/
inductive Performed (run : DiscoveryRun) (action : Action)
    (target : Option ResolvedTarget) : RuntimeEvent → Prop where
  | execute (receipt : ActionReceipt) :
      action.extracted? = none → receipt.status = .completed →
      Performed run action target
        ⟨.session run.session.sessionId
          (.execute action target run.request.inputs), .ok receipt⟩
  | extract {output : String} {transform : Transform}
      {resolved : ResolvedTarget} (text : String) :
      action = .extract output transform → target = some resolved →
      Performed run action target
        ⟨.session run.session.sessionId (.extract resolved), .ok text⟩

/-- The outputs are kept, or the extracted one is the transformed text of the
operation. -/
def Binds (engine : Discovery.Engine) (run : DiscoveryRun) (action : Action)
    (event : RuntimeEvent) (held outputs : Outputs) : Prop :=
  outputs = held ∨
  ∃ output transform resolved text, action = .extract output transform ∧
    event = ⟨.session run.session.sessionId (.extract resolved), .ok text⟩ ∧
    outputs = held.set output
      (transformExtractedText engine.libraries.host text transform)

/-- What the dispatching part of an action does. -/
structure Performs (engine : Discovery.Engine) (run : DiscoveryRun)
    (proposal : ActProposal) (target : Option ResolvedTarget)
    (start : DiscoveryState) (event : RuntimeEvent)
    (back : List RuntimeEvent) (result : Except Raised (Option FailureResult))
    (final : DiscoveryState) : Prop where
  dispatched : Dispatched run proposal.action target event
  idle : Idle back
  bound : Binds engine run proposal.action event start.outputs final.outputs
  framed : final.recordings = start.recordings ∧
    final.observedBranch = start.observedBranch
  done : result = .ok none → Performed run proposal.action target event

theorem performs_of_extract {output : String} {transform : Transform}
    {resolved : ResolvedTarget} {stable : Option LocatorBundle}
    {result : Except Raised Unit}
    (extraction : proposal.action = .extract output transform)
    (extracted : Executes (engine.extract run output transform resolved stable)
      start events result final) :
    ∃ event back, events = event :: back ∧
      Performs engine run proposal (some resolved) start event back
        (result.map fun _ => none) final := by
  unfold extract DiscoveryRun.call Runtime.session at extracted
  rcases executes_bind.mp extracted with
    ⟨error, asked, rfl⟩ | ⟨front, text, middle, back, rfl, asked, binding⟩
  · obtain ⟨answer, rfl, -, rfl⟩ := executes_invoke.mp asked
    exact ⟨_, [], rfl, .extract answer extraction rfl, idle_nil, .inl rfl,
      ⟨rfl, rfl⟩, fun impossible => by cases impossible⟩
  obtain ⟨answer, rfl, same, rfl⟩ := executes_invoke.mp asked
  cases answer with
  | error error => cases same
  | ok read =>
      cases same
      rcases executes_bind.mp binding with
        ⟨error, raised, rfl⟩ | ⟨first, _, middle, last, rfl, passed, bound⟩
      · obtain ⟨idle, rfl⟩ := emits_raiseIf.silent raised (by simp)
        exact ⟨_, back, rfl, .extract _ extraction rfl, idle, .inl rfl,
          ⟨rfl, rfl⟩, fun impossible => by cases impossible⟩
      · obtain ⟨-, rfl, rfl⟩ := executes_raiseIf_ok.mp passed
        obtain ⟨rfl, rfl, rfl⟩ := executes_modify.mp bound
        exact ⟨_, [], rfl, .extract _ extraction rfl, idle_nil,
          .inr ⟨output, transform, resolved, text, extraction, rfl, rfl⟩,
          ⟨rfl, rfl⟩, fun _ => .extract text extraction rfl⟩

theorem performs_of_perform {target : Option ResolvedTarget}
    {stable : Option LocatorBundle}
    {result : Except Raised (Option FailureResult)}
    (performed : Executes (engine.perform run proposal target stable) start
      events result final) :
    (Idle events ∧ final.results = start.results ∧ result ≠ .ok none) ∨
    ∃ event back, events = event :: back ∧
      Performs engine run proposal target start event back result final := by
  unfold perform at performed
  split at performed
  next output transform extraction =>
    split at performed
    · left
      obtain ⟨idle, rfl⟩ := emits_actFailure.silent performed (by decide)
      refine ⟨idle, rfl, ?_⟩
      rintro rfl
      obtain ⟨failed, -, impossible⟩ := executes_map_ok.mp performed
      cases impossible
    next resolved =>
      right
      rcases executes_bind.mp performed with
        ⟨error, extracted, rfl⟩ | ⟨front, _, middle, back, rfl, extracted, done⟩
      · exact performs_of_extract extraction extracted
      · obtain ⟨rfl, rfl, rfl⟩ := executes_pure.mp done
        rw [List.append_nil]
        exact performs_of_extract extraction extracted
  next action unextracted =>
    right
    have plain : proposal.action.extracted? = none := by
      cases kind : proposal.action <;> simp_all [Action.extracted?]
    unfold DiscoveryRun.call Runtime.session at performed
    rcases executes_bind.mp performed with
      ⟨error, asked, rfl⟩ | ⟨front, receipt, middle, back, rfl, asked, settled⟩
    · obtain ⟨answer, rfl, -, rfl⟩ := executes_invoke.mp asked
      exact ⟨_, [], rfl, .execute answer plain, idle_nil, .inl rfl, ⟨rfl, rfl⟩,
        fun impossible => by cases impossible⟩
    obtain ⟨answer, rfl, same, rfl⟩ := executes_invoke.mp asked
    cases answer with
    | error error => cases same
    | ok answered =>
        cases same
        rcases executes_ite.mp settled with
          ⟨failed, reported⟩ | ⟨passed, done⟩
        · obtain ⟨idle, rfl⟩ := emits_actFailure.silent reported (by decide)
          refine ⟨_, back, rfl, .execute _ plain, idle, .inl rfl, ⟨rfl, rfl⟩,
            ?_⟩
          rintro rfl
          obtain ⟨result, -, impossible⟩ := executes_map_ok.mp reported
          cases impossible
        · obtain ⟨rfl, rfl, rfl⟩ := executes_pure.mp done
          refine ⟨_, [], rfl, .execute _ plain, idle_nil, .inl rfl,
            ⟨rfl, rfl⟩, fun _ => .execute receipt plain ?_⟩
          cases status : receipt.status with
          | completed => rfl
          | failed => exact absurd status passed

/-! ## Verification -/

/-- The session observed the condition, with the outputs at that time. -/
def observedCondition (run : DiscoveryRun) (outputs : Outputs)
    (condition : Condition) : RuntimeEvent :=
  ⟨.session run.session.sessionId
    (.waitUntil condition outputs run.request.inputs 10000), .ok true⟩

/-- The output satisfies its schema. -/
def ValidOutput (engine : Discovery.Engine) (run : DiscoveryRun)
    (outputs : Outputs) (output : String) : Prop :=
  ∃ schema value validated,
    run.outputContract.properties.get? output = some schema ∧
    outputs.get? output = some value ∧
    validateObject engine.libraries.host
      { required := [output], properties := [(output, schema)] }
      [(output, .str value)] = .ok validated

theorem executes_waitUntil_ok {condition : Condition} {holds : Bool}
    (waited : Executes (run.waitUntil condition) start events (.ok holds)
      final) :
    events = [⟨.session run.session.sessionId
      (.waitUntil condition start.outputs run.request.inputs 10000),
        .ok holds⟩] ∧ final = start := by
  unfold DiscoveryRun.waitUntil DiscoveryRun.call at waited
  obtain ⟨first, state, middle, rest, rfl, current, asked⟩ :=
    executes_bind_ok.mp waited
  obtain ⟨rfl, same, rfl⟩ := executes_get.mp current
  cases same
  exact executes_session_ok.mp asked

theorem observed_of_awaitConditions {conditions : List AwaitedCondition}
    (awaited : Executes (engine.awaitConditions run conditions) start events
      (.ok none) final) :
    ∀ expected ∈ conditions,
      observedCondition run start.outputs expected.condition ∈ events := by
  induction conditions generalizing start events with
  | nil => simp
  | cons expected rest ih =>
      unfold awaitConditions at awaited
      obtain ⟨first, holds, middle, last, rfl, waited, next⟩ :=
        executes_bind_ok.mp awaited
      obtain ⟨rfl, rfl⟩ := executes_waitUntil_ok waited
      rcases executes_ite.mp next with ⟨met, later⟩ | ⟨-, failed⟩
      · obtain ⟨second, _, middle', back, rfl, renewed, others⟩ :=
          executes_bind_ok.mp later
        have same : middle'.outputs = middle.outputs :=
          DiscoveryState.outputs_of_unleased
            (emits_renewControl.kept renewed)
        obtain rfl : holds = true := met
        intro other member
        rcases List.mem_cons.mp member with rfl | further
        · simp [observedCondition]
        · have there := ih others other further
          rw [same] at there
          simp [there]
      · obtain ⟨result, -, impossible⟩ := executes_map_ok.mp failed
        cases impossible

theorem valid_of_validateOutput {output : String}
    (validated : Executes (engine.validateOutput run output) start events
      (.ok none) final) : ValidOutput engine run start.outputs output := by
  have reported : ∀ {first last : DiscoveryState} {all : List RuntimeEvent},
      ¬Executes (do
        run.record "output_validation_failed" [("output", .str output)]
        actFailure run "output_invalid" "The extracted output is invalid.")
        first all (.ok none) last := by
    intro first last all run
    obtain ⟨front, _, middle, back, -, -, failed⟩ := executes_bind_ok.mp run
    obtain ⟨result, -, impossible⟩ := executes_map_ok.mp failed
    cases impossible
  unfold validateOutput at validated
  split at validated
  · obtain ⟨-, impossible, -⟩ := executes_throw.mp validated
    cases impossible
  next schema declared =>
    obtain ⟨first, state, middle, rest, rfl, current, checked⟩ :=
      executes_bind_ok.mp validated
    obtain ⟨rfl, same, rfl⟩ := executes_get.mp current
    cases same
    dsimp only at checked
    split at checked
    next fields valid =>
      cases held : state.outputs.get? output with
      | none => rw [held] at valid; cases valid
      | some value =>
          rw [held] at valid
          exact ⟨schema, value, fields, declared, held, valid⟩
    · exact absurd checked reported
    · exact absurd checked reported
    · obtain ⟨-, impossible, -⟩ := executes_throw.mp checked
      cases impossible

/-- Why a verified condition of a proposal is listed. -/
def Verified (engine : Discovery.Engine) (run : DiscoveryRun)
    (action : Action) (outputs : Outputs) (events : List RuntimeEvent)
    (condition : Condition) : Prop :=
  observedCondition run outputs condition ∈ events ∨
  ∃ output, condition = .atom (.outputValid output) ∧
    action.extracted? = some output ∧ ValidOutput engine run outputs output

theorem Verified.within {action : Action} {outputs : Outputs}
    {condition : Condition} {more : List RuntimeEvent}
    (verified : Verified engine run action outputs events condition)
    (included : events ⊆ more) :
    Verified engine run action outputs more condition :=
  verified.imp (fun listed => included listed) id

theorem verified_of_verify
    (verified : Executes (engine.verify run proposal) start events (.ok none)
      final) :
    ∀ condition ∈ verifiedPostconditions proposal,
      Verified engine run proposal.action start.outputs events condition := by
  unfold verify at verified
  obtain ⟨first, _, leased, rest, rfl, renewed, checking⟩ :=
    executes_bind_ok.mp verified
  obtain ⟨second, outcome, middle, last, rfl, awaited, ended⟩ :=
    executes_bind_ok.mp checking
  have same : leased.outputs = start.outputs :=
    DiscoveryState.outputs_of_unleased (emits_renewControl.kept renewed)
  have same' : middle.outputs = leased.outputs :=
    DiscoveryState.outputs_of_unleased (emits_awaitConditions.kept awaited)
  cases outcome with
  | some failed =>
      obtain ⟨-, impossible, -⟩ := executes_pure.mp ended
      cases impossible
  | none =>
      have observed := observed_of_awaitConditions awaited
      rw [same] at observed
      intro condition member
      have direct : ∀ expected ∈ awaitedConditions proposal,
          expected.condition = condition →
          Verified engine run proposal.action start.outputs
            (first ++ (second ++ last)) condition := by
        rintro expected listed rfl
        exact .inl (by simp [observed expected listed])
      simp only [verifiedPostconditions, List.mem_append, Option.mem_toList,
        List.mem_filter, List.mem_map] at member
      rcases member with (own | ⟨expected, -⟩) | ⟨output, extracted, rfl⟩
      · exact direct _ (List.mem_append_left _ (List.mem_map_of_mem
          (Option.mem_toList.mpr own))) rfl
      · exact direct _ (List.mem_append_right _ (List.mem_map_of_mem
          (Option.mem_toList.mpr expected))) rfl
      · rw [extracted] at ended
        refine .inr ⟨output, rfl, extracted, ?_⟩
        have valid := valid_of_validateOutput ended
        rwa [same', same] at valid

/-! ## The recording -/

/-- What is recorded of an action is what happened. -/
structure Witnessed (engine : Discovery.Engine) (run : DiscoveryRun)
    (proposal : ActProposal) (before : NormalizedObservation)
    (target : Option ResolvedTarget) (decision : PolicyDecision)
    (outputs : Outputs) (event : RuntimeEvent) (back : List RuntimeEvent)
    (recording : RecordedDiscoveryStep) : Prop where
  action : recording.action = proposal.action
  before : recording.observationBefore = before
  risk : recording.risk = decision.effectiveRisk
  conditions : recording.verifiedPostconditions =
    verifiedPostconditions proposal
  performed : Performed run recording.action target event
  verified : ∀ condition ∈ recording.verifiedPostconditions,
    Verified engine run recording.action outputs back condition
  after : ⟨.session run.session.sessionId .observe,
    .ok recording.observationAfter⟩ ∈ back

theorem recorded_of_conclude {stable : Option LocatorBundle}
    {decision : PolicyDecision} {recording : RecordedDiscoveryStep}
    {history : String}
    (concluded : Executes (engine.conclude run proposal before stable decision)
      start events (.ok (.recorded recording history)) final) :
    recording.action = proposal.action ∧
      recording.observationBefore = before ∧
      recording.risk = decision.effectiveRisk ∧
      recording.verifiedPostconditions = verifiedPostconditions proposal ∧
      ⟨.session run.session.sessionId .observe,
        .ok recording.observationAfter⟩ ∈ events := by
  unfold conclude DiscoveryRun.call at concluded
  obtain ⟨first, after, middle, rest, rfl, observed, recorded⟩ :=
    executes_bind_ok.mp concluded
  obtain ⟨rfl, rfl⟩ := executes_session_ok.mp observed
  obtain ⟨second, _, middle', last, rfl, -, built⟩ :=
    executes_bind_ok.mp recorded
  obtain ⟨third, made, middle'', closing, rfl, making, returned⟩ :=
    executes_bind_ok.mp built
  obtain ⟨-, same, -⟩ := executes_attempt.mp making
  obtain ⟨-, equal, -⟩ := executes_pure.mp returned
  cases equal
  unfold recordDiscoveryStep at same
  split at same
  · split at same
    · cases same
      exact ⟨rfl, rfl, rfl, rfl, by simp⟩
    · cases same
  · cases same

/-- A run of an action: idle operations only, or one admitted dispatch between
idle operations, which a recording witnesses. -/
inductive ActRun (engine : Discovery.Engine) (run : DiscoveryRun)
    (proposal : ActProposal) (before : NormalizedObservation)
    (start : DiscoveryState) :
    List RuntimeEvent → Except Raised ActOutcome → DiscoveryState → Prop where
  | idle {events : List RuntimeEvent} {result : Except Raised ActOutcome}
      {final : DiscoveryState} :
      Idle events → final.results = start.results →
      (∀ recording history, result ≠ .ok (.recorded recording history)) →
      ActRun engine run proposal before start events result final
  | dispatch {front back : List RuntimeEvent} {target : Option ResolvedTarget}
      {decision : PolicyDecision} {event : RuntimeEvent}
      {result : Except Raised ActOutcome} {final : DiscoveryState} :
      Unseen front → Idle back →
      Admitted engine run proposal before target decision front →
      Dispatched run proposal.action target event →
      Binds engine run proposal.action event start.outputs final.outputs →
      final.recordings = start.recordings ∧
        final.observedBranch = start.observedBranch →
      (∀ recording history, result = .ok (.recorded recording history) →
        Witnessed engine run proposal before target decision final.outputs
          event back recording) →
      ActRun engine run proposal before start (front ++ event :: back) result
        final

theorem Admitted.after {target : Option ResolvedTarget}
    {decision : PolicyDecision}
    (admitted : Admitted engine run proposal before target decision events)
    (front : List RuntimeEvent) :
    Admitted engine run proposal before target decision (front ++ events) where
  allowed := admitted.allowed
  evaluated := by
    obtain ⟨first, origin, back, rfl, rest⟩ := admitted.evaluated
    exact ⟨front ++ first, origin, back, by simp, rest⟩

/-- Operations that show no page may come first. -/
theorem ActRun.after {front : List RuntimeEvent}
    {result : Except Raised ActOutcome} (unseen : Unseen front)
    (acted : ActRun engine run proposal before start events result final) :
    ActRun engine run proposal before start (front ++ events) result final := by
  cases acted with
  | idle quiet same never => exact .idle (unseen.idle.append quiet) same never
  | dispatch quiet quiet' admitted dispatched binds framed witnessed =>
      rw [← List.append_assoc]
      exact .dispatch (unseen.append quiet) quiet' (admitted.after front)
        dispatched binds framed witnessed

/-- An action that raises before its dispatch. -/
theorem ActRun.raised {error : Raised} (idle : Idle events) :
    ActRun engine run proposal before start events (.error error) start :=
  .idle idle rfl fun _ _ impossible => by cases impossible

theorem actRun_of_perform {target : Option ResolvedTarget}
    {stable : Option LocatorBundle} {decision : PolicyDecision}
    {front : List RuntimeEvent} {result : Except Raised ActOutcome}
    {middle : DiscoveryState} (unseen : Unseen front)
    (kept : middle.results = start.results)
    (admitted : Admitted engine run proposal before target decision front)
    (performed : Executes
      (unlessFailed (engine.perform run proposal target stable) <|
        unlessFailed (engine.verify run proposal) <|
          engine.conclude run proposal before stable decision)
      middle events result final) :
    ActRun engine run proposal before start (front ++ events) result final := by
  obtain ⟨recordings, branch, outputs, -⟩ :=
    DiscoveryState.results_eq_iff.mp kept
  rcases executes_unlessFailed performed with
    ⟨outcome, acted, never⟩ | ⟨first, done, rest, rfl, acted, checking⟩
  · rcases performs_of_perform acted with
      ⟨quiet, same, -⟩ | ⟨event, back, rfl, performs⟩
    · exact .idle (unseen.idle.append quiet) (same.trans kept) never
    · exact .dispatch unseen performs.idle admitted performs.dispatched
        (outputs ▸ performs.bound) ⟨performs.framed.1.trans recordings,
          performs.framed.2.trans branch⟩
        fun recording history same => absurd same (never recording history)
  rcases performs_of_perform acted with
    ⟨-, -, impossible⟩ | ⟨event, back, rfl, performs⟩
  · exact absurd rfl impossible
  have framed : done.recordings = start.recordings ∧
      done.observedBranch = start.observedBranch :=
    ⟨performs.framed.1.trans recordings, performs.framed.2.trans branch⟩
  have bound : Binds engine run proposal.action event start.outputs
      done.outputs := outputs ▸ performs.bound
  rw [List.cons_append]
  rcases executes_unlessFailed checking with
    ⟨outcome, verified, never⟩ | ⟨checks, checked, last, rfl, verified, concluded⟩
  · obtain ⟨recordings', branch', outputs', -⟩ := DiscoveryState.results_eq_iff.mp
      (DiscoveryState.results_of_unleased (emits_verify.kept verified))
    exact .dispatch unseen
      (performs.idle.append (emits_verify.idle verified (by decide))) admitted
      performs.dispatched (outputs' ▸ bound)
      ⟨recordings'.trans framed.1, branch'.trans framed.2⟩
      fun recording history same => absurd same (never recording history)
  obtain ⟨recordings', branch', outputs', -⟩ := DiscoveryState.results_eq_iff.mp
    (DiscoveryState.results_of_unleased (emits_verify.kept verified))
  have quiet := emits_verify.idle verified (by decide)
  obtain ⟨quiet', rfl⟩ := emits_conclude.silent concluded (by decide)
  refine .dispatch unseen (performs.idle.append (quiet.append quiet')) admitted
    performs.dispatched (outputs' ▸ bound)
    ⟨recordings'.trans framed.1, branch'.trans framed.2⟩ ?_
  rintro recording history rfl
  obtain ⟨action, observed, risk, conditions, after⟩ :=
    recorded_of_conclude concluded
  constructor
  case action => exact action
  case before => exact observed
  case risk => exact risk
  case conditions => exact conditions
  case performed => exact action ▸ performs.done rfl
  case verified =>
    rw [conditions, action, outputs']
    intro condition listed
    exact (verified_of_verify verified condition listed).within fun event member =>
      List.mem_append_right _ (List.mem_append_left _ member)
  case after =>
    exact List.mem_append_right _ (List.mem_append_right _ after)

theorem actRun_of_act {result : Except Raised ActOutcome}
    (acted : Executes (engine.act run proposal before) start events result
      final) :
    ActRun engine run proposal before start events result final := by
  unfold act at acted
  rcases executes_unlessFailed acted with
    ⟨outcome, screened, never⟩ | ⟨front, middle, rest, rfl, screened, binding⟩
  · obtain ⟨idle, rfl⟩ := emits_screen.silent screened (by decide)
    exact .idle idle rfl never
  obtain ⟨unseen, rfl⟩ := emits_screen.unseen screened (by decide)
  refine .after unseen ?_
  rcases executes_bind.mp binding with
    ⟨error, bound, rfl⟩ | ⟨front, bundle, middle, rest, rfl, bound, resolving⟩
  · obtain ⟨idle, rfl⟩ := emits_bindTarget.silent bound (by simp)
    exact .raised idle
  obtain ⟨unseen, rfl⟩ := emits_bindTarget.unseen bound (by simp)
  refine .after unseen ?_
  rcases executes_bind.mp resolving with
    ⟨error, resolved, rfl⟩ | ⟨front, target, middle, rest, rfl, resolved, locating⟩
  · obtain ⟨idle, rfl⟩ := emits_resolveTarget.silent resolved (by decide)
    exact .raised idle
  obtain ⟨unseen, rfl⟩ := emits_resolveTarget.unseen resolved (by decide)
  refine .after unseen ?_
  rcases executes_bind.mp locating with
    ⟨error, held, rfl⟩ | ⟨front, stable, middle, rest, rfl, held, judging⟩
  · obtain ⟨idle, rfl⟩ := emits_stableTarget.silent held (by decide)
    exact .raised idle
  obtain ⟨unseen, rfl⟩ := emits_stableTarget.unseen held (by decide)
  refine .after unseen ?_
  rcases executes_bind.mp judging with
    ⟨error, decided, rfl⟩ | ⟨asked, decision, middle, rest, rfl, decided, admitting⟩
  · obtain ⟨idle, rfl⟩ := emits_actionPolicy.silent decided (by decide)
    exact .raised idle
  obtain ⟨unseen, rfl⟩ := emits_actionPolicy.unseen decided (by decide)
  rcases executes_unlessFailed admitting with
    ⟨outcome, refused, never⟩ | ⟨renewed, leased, rest, rfl, admits, performed⟩
  · refine .after unseen (.idle (emits_applyDecision.idle refused (by decide)) ?_ never)
    exact DiscoveryState.results_of_unleased (emits_applyDecision.kept refused)
  have quiet : Unseen renewed := emits_applyDecision.avoids admits (by decide)
  have kept := DiscoveryState.results_of_unleased (emits_applyDecision.kept admits)
  obtain ⟨allowed, event, member, renews⟩ := allowed_of_applyDecision admits
  obtain ⟨origin, back, rfl, evaluated⟩ := evaluated_of_actionPolicy decided
  rw [← List.append_assoc]
  refine actRun_of_perform (unseen.append quiet) kept ⟨allowed, [], origin,
    back ++ renewed, by simp, evaluated, event, by simp [member], renews⟩ performed

end Discovery.Engine

end ReplayForge

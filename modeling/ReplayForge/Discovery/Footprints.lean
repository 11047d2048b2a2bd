import ReplayForge.Discovery.Engine
import ReplayForge.Replay.Footprints

/-!
# Footprints of a discovery

Which operations each part of the discovery engine issues and which locals it
changes.  Only an action dispatches, and only a handoff pauses.
-/

namespace ReplayForge

open Effect

/-! ## Kinds of operations -/

inductive StageKind where
  | runtime (kind : OpKind)
  | plan
  | decide
  | pause
deriving DecidableEq

/-- The kind of an event's operation. -/
def stageKind (event : DiscoveryEvent) : StageKind :=
  match event.op with
  | .inl (.inl op) => .runtime (RuntimeOp.kind op)
  | .inl (.inr (.plan _)) => .plan
  | .inl (.inr (.decide _)) => .decide
  | .inr _ => .pause

/-- A runtime event, as an event of the discovery. -/
def staged (event : RuntimeEvent) : DiscoveryEvent :=
  event.inl.inl

@[simp]
theorem stageKind_staged (event : RuntimeEvent) :
    stageKind (staged event) = .runtime (eventKind event) := rfl

/-- The code issues operations of the given kinds only. -/
abbrev Emits {σ γ α : Type} (kinds : List OpKind) (view : σ → γ)
    (body : Runtime σ α) : Prop :=
  Uses kinds view (fun _ => True) body

theorem Uses.emits {σ γ α : Type} {kinds : List OpKind} {view : σ → γ}
    {raises : Raised → Prop} {body : Runtime σ α}
    (proof : Uses kinds view raises body) : Emits kinds view body :=
  proof.weaken (fun _ here => here) (fun _ _ same => same) fun _ _ => trivial

theorem Emits.coarsen {σ γ δ α : Type} {kinds more : List OpKind} {view : σ → γ}
    {coarser : σ → δ} {body : Runtime σ α} (proof : Emits kinds view body)
    (included : kinds ⊆ more)
    (coarse : ∀ left right, view left = view right →
      coarser left = coarser right) : Emits more coarser body :=
  proof.weaken (fun _ member => included member) coarse fun _ _ => trivial

abbrev Stages {γ α : Type} (kinds : List StageKind)
    (view : DiscoveryState → γ) (body : Discovery α) : Prop :=
  Confined (fun event => stageKind event ∈ kinds) view (fun _ => True) body

theorem executes_runtime {α : Type} {body : Discovery.Work α}
    {before after : DiscoveryState} {events : List DiscoveryEvent}
    {result : Except Raised α} :
    Executes (Discovery.runtime body) before events result after ↔
      ∃ own, events = own.map staged ∧
        Executes body before own result after := by
  unfold Discovery.runtime
  constructor
  · intro run
    obtain ⟨middle, rfl, inner⟩ := executes_inl.mp run
    obtain ⟨own, rfl, alone⟩ := executes_inl.mp inner
    exact ⟨own, by simp [staged, Function.comp_def], alone⟩
  · rintro ⟨own, rfl, alone⟩
    refine executes_inl.mpr ⟨own.map Event.inl, by
      simp [staged, Function.comp_def], executes_inl.mpr ⟨own, rfl, alone⟩⟩

theorem Emits.stages {γ α : Type} {kinds : List OpKind}
    {view : DiscoveryState → γ} {body : Discovery.Work α}
    (proof : Emits kinds view body) :
    Stages (kinds.map .runtime) view (Discovery.runtime body) where
  issued := by
    intro start all result final run event member
    obtain ⟨own, rfl, alone⟩ := executes_runtime.mp run
    obtain ⟨origin, within, rfl⟩ := List.mem_map.mp member
    exact List.mem_map_of_mem (proof.issued alone origin within)
  kept := by
    intro start all result final run
    obtain ⟨own, -, alone⟩ := executes_runtime.mp run
    exact proof.kept alone
  thrown := fun _ _ _ _ _ => trivial

/-! ## Views of the locals -/

namespace DiscoveryState

/-- The locals but the lease version. -/
def unleased (state : DiscoveryState) : DiscoveryState :=
  { state with leaseVersion := 0 }

/-- The locals but the lease version and the notes of the loop. -/
def settled (state : DiscoveryState) : DiscoveryState :=
  { state with
    leaseVersion := 0
    history := []
    previousFingerprint := none
    repeatedState := 0 }

/-- The session, the start of the time budget and the count of a repeated
operation. -/
def counters (state : DiscoveryState) :
    Option SurfaceSession × Int × Option String × Nat :=
  (state.session, state.startedAt, state.previousAction, state.repeatedAction)

/-- The verified trace, the captured outputs and the session. -/
def results (state : DiscoveryState) :
    List RecordedDiscoveryStep × Option ObservedBranch × Outputs ×
      Option SurfaceSession :=
  (state.recordings, state.observedBranch, state.outputs, state.session)

theorem outputs_of_unleased {left right : DiscoveryState}
    (same : left.unleased = right.unleased) : left.outputs = right.outputs := by
  have equal := congrArg outputs same
  exact equal

theorem results_eq_iff {left right : DiscoveryState} :
    left.results = right.results ↔
      left.recordings = right.recordings ∧
        left.observedBranch = right.observedBranch ∧
        left.outputs = right.outputs ∧ left.session = right.session := by
  simp [results]

theorem session_of_results {left right : DiscoveryState}
    (same : left.results = right.results) : left.session = right.session :=
  (results_eq_iff.mp same).2.2.2

theorem results_of_unleased {left right : DiscoveryState}
    (same : left.unleased = right.unleased) : left.results = right.results := by
  cases left
  cases right
  simp_all [unleased, results]

theorem settled_of_unleased {left right : DiscoveryState}
    (same : left.unleased = right.unleased) : left.settled = right.settled := by
  cases left
  cases right
  simp_all [unleased, settled]

theorem results_of_settled {left right : DiscoveryState}
    (same : left.settled = right.settled) : left.results = right.results := by
  cases left
  cases right
  simp_all [settled, results]

theorem counters_of_settled {left right : DiscoveryState}
    (same : left.settled = right.settled) :
    left.counters = right.counters := by
  cases left
  cases right
  simp_all [settled, counters]

end DiscoveryState

/-- What settled code leaves alone. -/
theorem Emits.results {α : Type} {kinds : List OpKind}
    {body : Runtime DiscoveryState α}
    (proof : Emits kinds DiscoveryState.settled body) :
    Emits kinds DiscoveryState.results body :=
  proof.weaken (fun _ member => member)
    (fun _ _ => DiscoveryState.results_of_settled) fun _ _ => trivial

theorem Emits.counters {α : Type} {kinds : List OpKind}
    {body : Runtime DiscoveryState α}
    (proof : Emits kinds DiscoveryState.settled body) :
    Emits kinds DiscoveryState.counters body :=
  proof.weaken (fun _ member => member)
    (fun _ _ => DiscoveryState.counters_of_settled) fun _ _ => trivial

namespace Discovery.Engine

variable {engine : Discovery.Engine} {run : DiscoveryRun}
  {proposal : ActProposal}

/-! ## Failures and leases -/

section Reports

variable {σ γ : Type} {v : σ → γ}

def failureKinds : List OpKind :=
  [.capture, .attach, .record "discovery_failed", .manifest]

def leaseKinds : List OpKind := [.getLease, .now, .swapLease]

theorem emits_captureEvidence {session : Option SurfaceSession}
    {failureFrame : Option Bytes} :
    Emits [.capture, .attach] v
      (captureEvidence session failureFrame : Runtime σ String) := by
  unfold captureEvidence
  refine confined_ite (fun _ => ?_) fun _ => confined_pure
  refine confined_bind (confined_catching (c := fun _ => True) ?_
    fun _ _ _ => trivial) fun outcome => ?_
  · unfold attachFailureState
    refine confined_bind ?_ fun content =>
      confined_bind (confined_attempt fun _ _ => trivial) fun payload =>
        (uses_attachScreenshot (by simp)).emits
    unfold failureContent
    split
    · exact (uses_session (by simp)).emits
    · exact confined_pure
    · exact confined_throw trivial
  · split
    · exact confined_pure
    · exact confined_pure

theorem emits_failure {request : DiscoveryRequest}
    {session : Option SurfaceSession} {code message : String}
    {privacyRejection : Option ArtifactPrivacyDiagnostic}
    {failureFrame : Option Bytes} :
    Emits failureKinds v
      (failure request session code message privacyRejection failureFrame :
        Runtime σ FailureResult) := by
  unfold failure
  refine confined_bind (emits_captureEvidence.widen (by decide)) fun evidenceFrame => ?_
  refine confined_bind (uses_record (by decide)).emits fun _ => ?_
  refine confined_bind (uses_manifest (by decide)) fun manifest => ?_
  exact confined_attempt fun _ _ => trivial

end Reports

section Work

variable {γ : Type} {v : DiscoveryState → γ}

theorem emits_actFailure {code message : String} :
    Emits failureKinds v (actFailure run code message) :=
  confined_bind emits_failure fun _ => confined_pure

theorem emits_completionFailed {code message : String}
    {rejection : Option ArtifactPrivacyDiagnostic} :
    Emits failureKinds v (completionFailed run code message rejection) :=
  confined_bind emits_failure fun _ => confined_pure

theorem emits_heartbeat {sessionId : String} {version : Nat} :
    Emits leaseKinds v (engine.leaseService.heartbeat sessionId version
      .automation : Work ControlLease) :=
  engine.leaseService.uses_heartbeat.emits.widen (by decide)

theorem emits_renewControl {session : SurfaceSession} :
    Emits leaseKinds DiscoveryState.unleased
      (engine.renewControl session) := by
  unfold renewControl
  refine confined_bind confined_get fun state => ?_
  refine confined_bind emits_heartbeat fun lease => ?_
  exact confined_modify fun _ => rfl

theorem emits_raiseIf {test : Prop} [Decidable test] {error : Raised} :
    Emits [] v (Runtime.raiseIf test error : Work Unit) :=
  confined_raiseIf fun _ => trivial

theorem emits_call {kinds : List OpKind} {op : SessionOp}
    (member : op.kind ∈ kinds) : Emits kinds v (run.call op) :=
  (uses_session member).emits

theorem emits_record {kinds : List OpKind} {eventType : String}
    {details : Fields} (member : OpKind.record eventType ∈ kinds) :
    Emits kinds v (run.record eventType details) :=
  (uses_record member).emits

theorem emits_waitUntil {kinds : List OpKind} {condition : Condition}
    (member : OpKind.wait ∈ kinds) :
    Emits kinds v (run.waitUntil condition) :=
  confined_bind confined_get fun _ => emits_call member

/-! ## The phases of an action -/

theorem emits_screen : Emits failureKinds v (engine.screen run proposal) := by
  unfold screen
  refine confined_bind confined_get fun state => ?_
  refine confined_bind (confined_attempt fun _ _ => trivial) fun _ => ?_
  refine confined_bind ?_ fun outcome => ?_
  · unfold screenValue
    split
    · exact confined_ite (fun _ => emits_actFailure) fun _ => confined_pure
    · split
      · exact confined_pure
      · exact confined_throw trivial
    · exact confined_pure
  · split
    · exact confined_pure
    · refine confined_bind ?_ fun _ => confined_pure
      exact confined_bind (emits_raiseIf.widen (by simp)) fun _ =>
        emits_raiseIf.widen (by simp)

theorem emits_bindTarget : Emits [] v (bindTarget run proposal) := by
  unfold bindTarget
  split
  · exact confined_pure
  · refine confined_bind (confined_catching (c := fun _ => True)
      (confined_attempt fun _ _ => trivial) fun _ _ _ => trivial)
      fun bound => ?_
    split
    · exact confined_pure
    · exact confined_throw trivial

theorem emits_resolveTarget {bound : Option LocatorBundle} :
    Emits [.resolve] v (resolveTarget run bound) := by
  cases bound with
  | none => exact confined_pure
  | some bundle => exact confined_bind (emits_call (by simp)) fun _ => confined_pure

theorem emits_stableTarget {bound : Option LocatorBundle}
    {target : Option ResolvedTarget} :
    Emits [.captureLocator] v (stableTarget run proposal bound target) := by
  unfold stableTarget
  split
  · refine confined_ite (fun _ => ?_) fun _ => confined_ite (fun _ => ?_)
      fun _ => confined_pure
    · exact confined_bind (emits_call (by simp)) fun _ => confined_pure
    · exact confined_bind (emits_call (by simp)) fun _ => confined_pure
  · exact confined_pure

theorem emits_actionPolicy {before : NormalizedObservation}
    {target : Option ResolvedTarget} :
    Emits [.origin, .record "policy_evaluated"] v
      (engine.actionPolicy run proposal before target) := by
  unfold actionPolicy
  refine confined_bind (emits_call (by simp))
    fun origin => ?_
  refine confined_bind (confined_attempt fun _ _ => trivial) fun decision => ?_
  exact confined_bind (emits_record (by simp))
    fun _ => confined_pure

theorem emits_awaitConditions {conditions : List AwaitedCondition} :
    Emits (.wait :: leaseKinds ++ failureKinds) DiscoveryState.unleased
      (engine.awaitConditions run conditions) := by
  induction conditions with
  | nil => exact confined_pure
  | cons awaited rest ih =>
      unfold awaitConditions
      refine confined_bind (emits_waitUntil (by simp)) fun holds => ?_
      refine confined_ite (fun _ => ?_) fun _ =>
        emits_actFailure.widen (by decide)
      exact confined_bind (emits_renewControl.widen (by decide)) fun _ => ih

theorem emits_validateOutput {output : String} :
    Emits (.record "output_validation_failed" :: failureKinds) v
      (engine.validateOutput run output) := by
  have reports : Emits (.record "output_validation_failed" :: failureKinds) v
      (do
        run.record "output_validation_failed" [("output", .str output)]
        actFailure run "output_invalid" "The extracted output is invalid.") :=
    confined_bind (emits_record (by simp))
      fun _ => emits_actFailure.widen (by decide)
  unfold validateOutput
  split
  · exact confined_throw trivial
  · refine confined_bind confined_get fun state => ?_
    dsimp only
    split
    · exact confined_pure
    · exact reports
    · exact reports
    · exact confined_throw trivial

def verifyKinds : List OpKind :=
  .record "output_validation_failed" :: .wait :: leaseKinds ++ failureKinds

theorem emits_verify : Emits verifyKinds DiscoveryState.unleased
    (engine.verify run proposal) := by
  unfold verify
  refine confined_bind (emits_renewControl.widen (by decide)) fun _ => ?_
  refine confined_bind (emits_awaitConditions.widen (by decide)) fun outcome => ?_
  split
  · exact confined_pure
  · split
    · exact emits_validateOutput.widen (by decide)
    · exact confined_pure

theorem emits_conclude {before : NormalizedObservation}
    {stable : Option LocatorBundle} {decision : PolicyDecision} :
    Emits [.observe, .record "action_result"] v
      (engine.conclude run proposal before stable decision) := by
  unfold conclude
  refine confined_bind (emits_call (by simp))
    fun after => ?_
  refine confined_bind (emits_record (by simp))
    fun _ => ?_
  exact confined_bind (confined_attempt fun _ _ => trivial) fun _ =>
    confined_pure

/-! ## Completion -/

theorem emits_publish {artifact : CapabilityArtifact} :
    Emits (.wait :: .record "artifact_compiled" :: failureKinds) v
      (engine.publish run artifact) := by
  unfold publish
  refine confined_bind (emits_waitUntil (by simp)) fun reached => ?_
  refine confined_ite (fun _ => ?_) fun _ =>
    emits_completionFailed.widen (by decide)
  refine confined_bind confined_get fun state => ?_
  split
  · exact emits_completionFailed.widen (by decide)
  · exact confined_throw trivial
  · refine confined_bind (emits_record (by simp))
      fun _ => ?_
    refine confined_bind (uses_manifest (by decide)) fun manifest => ?_
    exact confined_bind (confined_attempt fun _ _ => trivial) fun _ =>
      confined_pure

theorem emits_reportRejection {reason : CompletionFailure} :
    Emits failureKinds v (reportRejection run reason) := by
  unfold reportRejection
  split
  · exact confined_bind (confined_attempt fun _ _ => trivial) fun _ =>
      emits_completionFailed
  · exact emits_completionFailed
  · exact confined_ite (fun _ => emits_completionFailed) fun _ =>
      confined_throw trivial

def completeKinds : List OpKind :=
  .wait :: .record "artifact_compiled" :: failureKinds

theorem emits_complete {observation : NormalizedObservation} :
    Emits completeKinds v (engine.complete run observation) := by
  unfold complete
  refine confined_bind (uses_manifest (by decide)) fun manifest => ?_
  refine confined_bind confined_get fun state => ?_
  split
  · exact emits_reportRejection.widen (by decide)
  · exact emits_publish

theorem emits_allHold {conditions : List Condition} :
    Emits [.evaluate] v (allHold run conditions) := by
  induction conditions with
  | nil => exact confined_pure
  | cons condition rest ih =>
      unfold allHold
      refine confined_bind confined_get fun state => ?_
      refine confined_bind (emits_call (by simp))
        fun holds => ?_
      exact confined_ite (fun _ => ih) fun _ => confined_pure

theorem emits_completionReady :
    Emits [.resolve, .evaluate] v (completionReady run) := by
  unfold completionReady
  refine confined_bind confined_get fun state => ?_
  split
  · refine confined_ite (fun _ => confined_ite (fun _ => ?_)
      fun _ => confined_pure) fun _ => confined_pure
    unfold rejoinReady
    split
    · exact confined_pure
    · refine confined_bind (confined_catching (c := fun _ => True) ?_
        fun _ _ _ => trivial) fun outcome => ?_
      · unfold probeRejoin
        split
        · refine confined_bind (confined_attempt fun _ _ => trivial)
            fun bound => ?_
          refine confined_bind (emits_call (by simp)) fun _ => ?_
          exact emits_allHold.widen (by simp)
        · exact emits_allHold.widen (by simp)
      · split
        · exact confined_pure
        · exact confined_pure
  · exact confined_pure

def completionKinds : List OpKind :=
  .resolve :: .evaluate :: .record "proposal_rejected" ::
    leaseKinds ++ completeKinds

theorem emits_attemptCompletion {observation : NormalizedObservation} :
    Emits completionKinds DiscoveryState.settled
      (engine.attemptCompletion run observation) := by
  unfold attemptCompletion
  refine confined_bind confined_get fun state => ?_
  refine confined_ite (fun _ => ?_) fun _ => ?_
  · exact confined_bind (emits_completionFailed.widen (by decide)) fun _ =>
      confined_pure
  refine confined_bind (emits_completionReady.widen (by decide)) fun ready => ?_
  refine confined_ite (fun _ => ?_) fun _ => ?_
  · exact confined_bind (emits_complete.widen (by decide)) fun _ =>
      confined_pure
  refine confined_bind (emits_renewControl.coarsen (by decide)
    fun _ _ => DiscoveryState.settled_of_unleased) fun _ => ?_
  refine confined_bind (emits_record (by simp [completionKinds])) fun _ => ?_
  exact confined_bind (confined_modify fun _ => rfl) fun _ => confined_pure

/-! ## The loop -/

def lookKinds : List OpKind :=
  .observe :: .record "observation_captured" :: leaseKinds

theorem emits_noteObservation {observation : NormalizedObservation} :
    Emits [] DiscoveryState.settled (noteObservation run observation) := by
  unfold noteObservation
  refine confined_bind confined_get fun state => ?_
  exact confined_bind (confined_modify fun _ => rfl) fun _ => confined_pure

theorem emits_noteProposal :
    Emits [] DiscoveryState.results (engine.noteProposal run proposal) := by
  unfold noteProposal
  refine confined_bind confined_get fun state => ?_
  exact confined_bind (confined_modify fun _ => rfl) fun _ => confined_pure

theorem emits_rejectProposal {code : String} :
    Emits [.record "proposal_rejected"] DiscoveryState.settled
      (engine.rejectProposal run proposal code) := by
  unfold rejectProposal
  exact confined_bind (emits_record (by simp)) fun _ =>
    confined_modify fun _ => rfl

theorem emits_closeSession : Emits [.close] v closeSession := by
  unfold closeSession
  refine confined_bind confined_get fun state => ?_
  split
  · exact (uses_session (by simp)).emits
  · exact confined_pure

end Work

end Discovery.Engine

end ReplayForge

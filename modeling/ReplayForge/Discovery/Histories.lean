import ReplayForge.Discovery.Actions

/-!
# Histories of a discovery

What a run owes to the events before an operation: who proposed an action, on
which page the policy admitted it, what a recording and an output stand for.
`Sound` is the invariant of the loop.
-/

namespace ReplayForge

open Effect

/-! ## Calm events -/

/-- The operations that change the page or may let a human change it. -/
def stirringKinds : List StageKind :=
  [.runtime .execute, .runtime .extract, .pause]

def Calm (events : List DiscoveryEvent) : Prop :=
  ∀ event ∈ events, stageKind event ∉ stirringKinds

theorem calm_nil : Calm [] := by simp [Calm]

theorem Calm.append {first second : List DiscoveryEvent} (head : Calm first)
    (tail : Calm second) : Calm (first ++ second) := by
  intro event member
  rcases List.mem_append.mp member with here | there
  · exact head event here
  · exact tail event there

theorem calm_singleton {event : DiscoveryEvent}
    (still : stageKind event ∉ stirringKinds) : Calm [event] := by
  intro other member
  rw [List.mem_singleton] at member
  rwa [member]

theorem Idle.calm {events : List RuntimeEvent} (idle : Idle events) :
    Calm (events.map staged) := by
  intro event member
  obtain ⟨own, within, rfl⟩ := List.mem_map.mp member
  have apart := idle own within
  simp only [dispatchKinds, List.mem_cons, List.not_mem_nil, or_false,
    not_or] at apart
  simp [stirringKinds, apart]

/-- The session shows no other page, and nothing stirs. -/
def KeepsPage (events : List DiscoveryEvent) : Prop :=
  ∀ event ∈ events, stageKind event ∉ .runtime .observe :: stirringKinds

theorem KeepsPage.calm {events : List DiscoveryEvent}
    (keeps : KeepsPage events) : Calm events :=
  fun event member stirs => keeps event member (List.mem_cons_of_mem _ stirs)

theorem keepsPage_nil : KeepsPage [] := by simp [KeepsPage]

theorem KeepsPage.append {first second : List DiscoveryEvent}
    (head : KeepsPage first) (tail : KeepsPage second) :
    KeepsPage (first ++ second) := by
  intro event member
  rcases List.mem_append.mp member with here | there
  · exact head event here
  · exact tail event there

theorem Unseen.keepsPage {events : List RuntimeEvent} (unseen : Unseen events) :
    KeepsPage (events.map staged) := by
  intro event member
  obtain ⟨own, within, rfl⟩ := List.mem_map.mp member
  have apart := unseen own within
  simp only [pageKinds, dispatchKinds, List.mem_cons, List.not_mem_nil,
    or_false, not_or] at apart
  simp [stirringKinds, apart]

/-- An action on the page, or a value read off it. -/
def IsDispatch (event : DiscoveryEvent) : Prop :=
  stageKind event ∈ dispatchKinds.map StageKind.runtime

theorem not_isDispatch {event : DiscoveryEvent}
    (still : stageKind event ∉ stirringKinds) : ¬IsDispatch event := by
  intro dispatches
  apply still
  simp only [IsDispatch, dispatchKinds, List.map_cons, List.map_nil,
    List.mem_cons, List.not_mem_nil, or_false] at dispatches
  rcases dispatches with same | same
  · simp [same, stirringKinds]
  · simp [same, stirringKinds]

/-! ## Rules -/

/-- What runtime code keeps that avoids some kinds of operations and keeps a
view of the locals. -/
structure Steady {γ : Type} (avoided : List OpKind) (view : DiscoveryState → γ)
    (holds : List DiscoveryEvent → DiscoveryState → Prop) : Prop where
  idle : ∀ seen state own, Avoids avoided own → holds seen state →
    holds (seen ++ own.map staged) state
  kept : ∀ seen state other, view other = view state → holds seen state →
    holds seen other

/-- Runtime code, by what its own runs do. -/
theorem guarantees_runtime {α : Type} {body : Discovery.Work α}
    {before : List DiscoveryEvent → DiscoveryState → Prop}
    {after : α → List DiscoveryEvent → DiscoveryState → Prop}
    {raised : Raised → List DiscoveryEvent → DiscoveryState → Prop}
    (returned : ∀ seen start own value final, before seen start →
      Executes body start own (.ok value) final →
      after value (seen ++ own.map staged) final)
    (failed : ∀ seen start own error final, before seen start →
      Executes body start own (.error error) final →
      raised error (seen ++ own.map staged) final) :
    Guarantees Watch.history before (Discovery.runtime body) after raised := by
  intro seen start events result final here executed
  obtain ⟨own, rfl, alone⟩ := executes_runtime.mp executed
  rw [Watch.run_history]
  cases result with
  | ok value => exact returned seen start own value final here alone
  | error error => exact failed seen start own error final here alone

/-- Runtime code that avoids those operations keeps what is steady. -/
theorem guarantees_idle {α γ : Type} {avoided : List OpKind}
    {view : DiscoveryState → γ} {kinds : List OpKind} {body : Discovery.Work α}
    {holds : List DiscoveryEvent → DiscoveryState → Prop}
    (steady : Steady avoided view holds) (emits : Emits kinds view body)
    (apart : ∀ kind ∈ kinds, kind ∉ avoided) :
    Guarantees Watch.history holds (Discovery.runtime body) (fun _ => holds)
      (fun _ => holds) := by
  refine guarantees_runtime (fun seen start own value final here alone => ?_)
    fun seen start own error final here alone => ?_
  · exact steady.kept _ start final (emits.kept alone)
      (steady.idle _ _ _ (emits.avoids alone apart) here)
  · exact steady.kept _ start final (emits.kept alone)
      (steady.idle _ _ _ (emits.avoids alone apart) here)

namespace Discovery.Engine

variable (engine : Discovery.Engine) (run : DiscoveryRun)

/-! ## Proposals -/

/-- The session showed a page. -/
def observationEvent (observation : NormalizedObservation) : DiscoveryEvent :=
  staged ⟨.session run.session.sessionId .observe, .ok observation⟩

/-- The model answered. -/
def decisionEvent (context : ProviderContext) (answer : DiscoveryProposal) :
    DiscoveryEvent :=
  ⟨.inl (.inr (.decide context)), .ok answer⟩

/-- The action an answer of the model stands for. -/
inductive Grounds : DiscoveryProposal → ActProposal → Prop where
  | act (proposal : ActProposal) : Grounds (.act proposal) proposal
  | recordedAction {stepId : String} {rationale : ProposalText}
      {expected : Option Condition} {scenario : ScenarioContext} {step : Step}
      {proposal : ActProposal} :
      run.request.scenario = some scenario →
      scenario.primary.steps.find? (·.id = stepId) = some step →
      referenceProposal step rationale expected = .ok proposal →
      Grounds (.recordedAction stepId rationale expected) proposal
  | branch (condition : Condition) (rationale : ProposalText) :
      run.request.scenario.isSome →
      Grounds (.branch condition rationale) (branchProposal condition rationale)

/-- The session shows a page, and no other after that. -/
def Sighting (before : NormalizedObservation) (events : List DiscoveryEvent) :
    Prop :=
  ∃ rest, events = observationEvent run before :: rest ∧ KeepsPage rest

/-- The session shows a page, for which the model answers, and no other. -/
def Asking (before : NormalizedObservation) (answer : DiscoveryProposal)
    (events : List DiscoveryEvent) : Prop :=
  ∃ context middle rest,
    events = observationEvent run before ::
      (middle ++ decisionEvent context answer :: rest) ∧
    context.observation = before ∧ KeepsPage middle ∧ KeepsPage rest

/-- The model proposes an action for the page the session shows. -/
def Proposing (before : NormalizedObservation) (proposal : ActProposal)
    (events : List DiscoveryEvent) : Prop :=
  ∃ answer, Grounds run answer proposal ∧ Asking run before answer events

/-! ## Causes -/

/-- The model proposed the action for the page the session showed last, with
the confidence that the request asks for, and the policy admitted it there. -/
def Authorizes (proposal : ActProposal) (before : NormalizedObservation)
    (target : Option ResolvedTarget) (decision : PolicyDecision)
    (past : List DiscoveryEvent) : Prop :=
  ∃ front asking own, past = front ++ asking ++ own.map staged ∧
    Proposing run before proposal asking ∧
    run.request.minimumConfidence ≤ proposal.confidence ∧ Unseen own ∧
    Admitted engine run proposal before target decision own

/-- An operation carries out an action that was authorized. -/
def Authorized (past : List DiscoveryEvent) (event : DiscoveryEvent) : Prop :=
  ∃ proposal before target decision dispatch, event = staged dispatch ∧
    Dispatched run proposal.action target dispatch ∧
    Authorizes engine run proposal before target decision past

/-- Every dispatch is authorized. -/
def Cause (past : List DiscoveryEvent) (event : DiscoveryEvent) : Prop :=
  IsDispatch event → Authorized engine run past event

/-! ## Evidence -/

/-- The events of a recording: the page and the proposal, the admission, the
dispatch, and what was verified after it. -/
def Evidenced (segment : List DiscoveryEvent)
    (recording : RecordedDiscoveryStep) : Prop :=
  ∃ proposal before target decision outputs asking front event back,
    segment = asking ++ (front ++ event :: back).map staged ∧
    Proposing run before proposal asking ∧ Unseen front ∧ Idle back ∧
    Admitted engine run proposal before target decision front ∧
    Witnessed engine run proposal before target decision outputs event back
      recording

/-- The recordings of a history: each has its own events, in their order. -/
inductive Traced : List DiscoveryEvent → List RecordedDiscoveryStep → Prop where
  | start : Traced [] []
  | other {seen : List DiscoveryEvent} {recordings : List RecordedDiscoveryStep}
      (event : DiscoveryEvent) :
      Traced seen recordings → Traced (seen ++ [event]) recordings
  | record {seen segment : List DiscoveryEvent}
      {recordings : List RecordedDiscoveryStep}
      {recording : RecordedDiscoveryStep} :
      Traced seen recordings → Evidenced engine run segment recording →
      Traced (seen ++ segment) (recordings ++ [recording])

/-- An output was read off the page by an authorized extraction, since the
last pause. -/
def Extracted (seen : List DiscoveryEvent) (name value : String) : Prop :=
  ∃ front proposal before decision transform resolved text back,
    seen = front ++
      staged ⟨.session run.session.sessionId (.extract resolved), .ok text⟩ ::
        back ∧
    Authorizes engine run proposal before (some resolved) decision front ∧
    proposal.action = .extract name transform ∧
    value = transformExtractedText engine.libraries.host text transform ∧
    ∀ event ∈ back, stageKind event ≠ .pause

def Fresh (seen : List DiscoveryEvent) (outputs : Outputs) : Prop :=
  ∀ name value, outputs.get? name = some value →
    Extracted engine run seen name value

/-- A branch is a recorded assertion of its condition. -/
def Branches (recordings : List RecordedDiscoveryStep)
    (branch : ObservedBranch) : Prop :=
  ∃ recording, recordings[branch.afterStepCount]? = some recording ∧
    recording.action = .assert branch.condition ∧
    branch.condition ∈ recording.verifiedPostconditions

/-- What every history of a run owes to the results it has. -/
structure Sound (seen : List DiscoveryEvent) (state : DiscoveryState) : Prop
    where
  authorized : Justified (Cause engine run) [] seen
  traced : Traced engine run seen state.recordings
  fresh : Fresh engine run seen state.outputs
  branched : ∀ branch ∈ state.observedBranch,
    run.request.scenario.isSome ∧ Branches state.recordings branch

/-- A scenario that ends at its branch. -/
def endsAtBranch : Bool :=
  run.request.scenario.any (·.kind ≠ .recovery)

/-- What holds between two passes of the loop. -/
structure Looping (seen : List DiscoveryEvent) (state : DiscoveryState) : Prop
    where
  sound : Sound engine run seen state
  unbranched : endsAtBranch run = true → state.observedBranch = none

/-! ## Longer histories -/

variable {engine run} {seen front : List DiscoveryEvent}
  {state other : DiscoveryState} {proposal : ActProposal}
  {before : NormalizedObservation}

theorem Traced.append {recordings : List RecordedDiscoveryStep}
    (traced : Traced engine run seen recordings)
    (events : List DiscoveryEvent) :
    Traced engine run (seen ++ events) recordings := by
  induction events generalizing seen with
  | nil => simpa using traced
  | cons event rest ih =>
      rw [List.append_cons]
      exact ih (traced.other event)

theorem Extracted.append {name value : String} {events : List DiscoveryEvent}
    (extracted : Extracted engine run seen name value)
    (unpaused : ∀ event ∈ events, stageKind event ≠ .pause) :
    Extracted engine run (seen ++ events) name value := by
  obtain ⟨front, proposal, before, decision, transform, resolved, text, back,
    rfl, authorized, extraction, same, quiet⟩ := extracted
  refine ⟨front, proposal, before, decision, transform, resolved, text,
    back ++ events, by simp, authorized, extraction, same, ?_⟩
  intro event member
  rcases List.mem_append.mp member with here | there
  · exact quiet event here
  · exact unpaused event there

theorem Fresh.append {outputs : Outputs} {events : List DiscoveryEvent}
    (fresh : Fresh engine run seen outputs)
    (unpaused : ∀ event ∈ events, stageKind event ≠ .pause) :
    Fresh engine run (seen ++ events) outputs :=
  fun name value held => (fresh name value held).append unpaused

theorem fresh_nil : Fresh engine run seen [] :=
  fun name value held => by simp [Dict.get?] at held

theorem Branches.append {recordings : List RecordedDiscoveryStep}
    {branch : ObservedBranch} (branches : Branches recordings branch)
    (more : List RecordedDiscoveryStep) : Branches (recordings ++ more) branch
    := by
  obtain ⟨recording, there, asserted, verified⟩ := branches
  refine ⟨recording, ?_, asserted, verified⟩
  rw [List.getElem?_append_left]
  · exact there
  · obtain ⟨within, -⟩ := List.getElem?_eq_some_iff.mp there
    exact within

theorem justified_of_calm {past events : List DiscoveryEvent}
    (calm : Calm events) : Justified (Cause engine run) past events :=
  justified_of_forall fun event member _ dispatches =>
    absurd dispatches (not_isDispatch (calm event member))

theorem unpaused_of_calm {events : List DiscoveryEvent} (calm : Calm events) :
    ∀ event ∈ events, stageKind event ≠ .pause := by
  intro event member same
  apply calm event member
  simp [same, stirringKinds]

theorem Sound.append {events : List DiscoveryEvent}
    (sound : Sound engine run seen state) (calm : Calm events) :
    Sound engine run (seen ++ events) state where
  authorized := sound.authorized.append (justified_of_calm calm)
  traced := sound.traced.append events
  fresh := sound.fresh.append (unpaused_of_calm calm)
  branched := sound.branched

/-- Only the results of a run matter. -/
theorem Sound.congr (sound : Sound engine run seen state)
    (same : other.results = state.results) : Sound engine run seen other := by
  obtain ⟨recordings, branch, outputs, -⟩ :=
    DiscoveryState.results_eq_iff.mp same
  exact {
    authorized := sound.authorized
    traced := recordings ▸ sound.traced
    fresh := outputs ▸ sound.fresh
    branched := by rw [recordings, branch]; exact sound.branched }

theorem Looping.append {events : List DiscoveryEvent}
    (looping : Looping engine run seen state) (calm : Calm events) :
    Looping engine run (seen ++ events) state :=
  ⟨looping.sound.append calm, looping.unbranched⟩

theorem Looping.congr (looping : Looping engine run seen state)
    (same : other.results = state.results) : Looping engine run seen other := by
  refine ⟨looping.sound.congr same, ?_⟩
  rw [(DiscoveryState.results_eq_iff.mp same).2.1]
  exact looping.unbranched

end Discovery.Engine

end ReplayForge

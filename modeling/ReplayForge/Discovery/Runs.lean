import ReplayForge.Discovery.Endings

/-!
# Runs of a discovery

Each part of the loop keeps `Looping`, whatever the model proposes, the session
answers and a human does in a pause.  A run that succeeds ends with what its
artifact was compiled from.
-/

namespace ReplayForge

open Effect

namespace Discovery.Engine

variable {engine : Discovery.Engine} {run : DiscoveryRun}
  {observation : NormalizedObservation}

/-! ## Assertions -/

/-- A stretch of events after a pass of the loop. -/
def Following (engine : Discovery.Engine) (run : DiscoveryRun)
    (stretch : List DiscoveryEvent → Prop) (seen : List DiscoveryEvent)
    (state : DiscoveryState) : Prop :=
  ∃ past events, seen = past ++ events ∧ Looping engine run past state ∧
    Calm events ∧ stretch events

/-- Every dispatch of the history is authorized. -/
def Lawful (engine : Discovery.Engine) (run : DiscoveryRun)
    (seen : List DiscoveryEvent) : Prop :=
  Justified (Cause engine run) [] seen

theorem steady_looping :
    Steady dispatchKinds DiscoveryState.results (Looping engine run) where
  idle := fun _ _ _ idle here => here.append (Idle.calm idle)
  kept := fun _ _ _ same here => here.congr same

theorem steady_following {stretch : List DiscoveryEvent → Prop}
    (longer : ∀ events more, stretch events → KeepsPage more →
      stretch (events ++ more)) :
    Steady pageKinds DiscoveryState.results (Following engine run stretch) where
  idle := by
    rintro seen state own unseen ⟨past, events, rfl, looping, quiet, here⟩
    have keeps := Unseen.keepsPage unseen
    exact ⟨past, events ++ own.map staged, by simp, looping,
      quiet.append keeps.calm, longer events _ here keeps⟩
  kept := by
    rintro seen state other same ⟨past, events, rfl, looping, quiet, here⟩
    exact ⟨past, events, rfl, looping.congr same, quiet, here⟩

theorem Following.looping {stretch : List DiscoveryEvent → Prop}
    {seen : List DiscoveryEvent} {state : DiscoveryState}
    (following : Following engine run stretch seen state) :
    Looping engine run seen state := by
  obtain ⟨past, events, rfl, looping, quiet, -⟩ := following
  exact looping.append quiet

theorem Looping.lawful {seen : List DiscoveryEvent} {state : DiscoveryState}
    (looping : Looping engine run seen state) : Lawful engine run seen :=
  looping.sound.authorized

theorem steady_sighting {before : NormalizedObservation} :
    Steady pageKinds DiscoveryState.results
      (Following engine run (Sighting run before)) := by
  refine steady_following ?_
  rintro events more ⟨rest, rfl, keeps⟩ keeps'
  exact ⟨rest ++ more, by simp, keeps.append keeps'⟩

theorem steady_asking {before : NormalizedObservation}
    {answer : DiscoveryProposal} :
    Steady pageKinds DiscoveryState.results
      (Following engine run (Asking run before answer)) := by
  refine steady_following ?_
  rintro events more ⟨context, middle, rest, rfl, same, keeps, keeps'⟩ longer
  exact ⟨context, middle, rest ++ more, by simp, same, keeps,
    keeps'.append longer⟩

theorem steady_proposing {before : NormalizedObservation}
    {proposal : ActProposal} :
    Steady pageKinds DiscoveryState.results
      (Following engine run (Proposing run before proposal)) := by
  refine steady_following ?_
  rintro events more ⟨answer, grounds, context, middle, rest, rfl, same, keeps,
    keeps'⟩ longer
  exact ⟨answer, grounds, context, middle, rest ++ more, by simp, same, keeps,
    keeps'.append longer⟩

/-! ## Rules -/

/-- The rule of the loop: assertions on the history, and lawful at least when
the code raises. -/
abbrev Ensures {α : Type} (engine : Discovery.Engine) (run : DiscoveryRun)
    (before : List DiscoveryEvent → DiscoveryState → Prop)
    (body : Discovery α)
    (after : α → List DiscoveryEvent → DiscoveryState → Prop) : Prop :=
  Guarantees Watch.history before body after
    fun _ seen _ => Lawful engine run seen

/-- Calm runtime code of the loop. -/
theorem ensures_calm {α : Type} {kinds avoided : List OpKind}
    {body : Work α}
    {holds : List DiscoveryEvent → DiscoveryState → Prop}
    (steady : Steady avoided DiscoveryState.results holds)
    (emits : Emits kinds DiscoveryState.results body)
    (calm : ∀ kind ∈ kinds, kind ∉ avoided)
    (lawful : ∀ seen state, holds seen state → Lawful engine run seen) :
    Ensures engine run holds (Discovery.runtime body) fun _ => holds :=
  (guarantees_idle steady emits calm).weaken (fun _ _ here => here)
    (fun _ _ _ here => here) fun _ _ _ here => lawful _ _ here

theorem lawful_of_following {stretch : List DiscoveryEvent → Prop} :
    ∀ seen state, Following engine run stretch seen state →
      Lawful engine run seen :=
  fun _ _ following => following.looping.lawful

theorem lawful_of_looping :
    ∀ seen state, Looping engine run seen state → Lawful engine run seen :=
  fun _ _ looping => looping.lawful

theorem ensures_get {holds : List DiscoveryEvent → DiscoveryState → Prop} :
    Ensures engine run holds get fun _ => holds :=
  guarantees_get fun _ _ here => here

/-! ## The model -/

theorem ensures_look :
    Ensures engine run (Looping engine run) (Discovery.runtime (engine.look run))
      fun (shown, _) => Following engine run (Sighting run shown) := by
  refine guarantees_runtime (fun seen start own value final here looked => ?_)
    fun seen start own error final here looked => ?_
  · obtain ⟨shown, stuck⟩ := value
    have quiet := (emits_look.idle looked (by decide)).calm
    have same := (Emits.results emits_look).kept looked
    obtain ⟨front, back, rfl, unseen⟩ := observed_of_look looked
    rw [List.map_append, List.map_cons] at quiet ⊢
    refine ⟨seen ++ front.map staged, _, (List.append_assoc _ _ _).symm, ?_, ?_,
      _, rfl, unseen.keepsPage⟩
    · exact (here.append fun event member =>
        quiet event (List.mem_append_left _ member)).congr same
    · exact fun event member => quiet event (List.mem_append_right _ member)
  · exact (here.append (emits_look.idle looked (by decide)).calm).lawful

theorem ensures_renewControl
    {holds : List DiscoveryEvent → DiscoveryState → Prop}
    (steady : Steady pageKinds DiscoveryState.results holds)
    (lawful : ∀ seen state, holds seen state → Lawful engine run seen) :
    Ensures engine run holds
      (Discovery.runtime (engine.renewControl run.session)) fun _ => holds :=
  ensures_calm steady (emits_renewControl.coarsen (fun _ member => member)
    fun _ _ => DiscoveryState.results_of_unleased) (by decide) lawful

theorem ensures_propose :
    Ensures engine run (Following engine run (Sighting run observation))
      (engine.propose run observation)
      fun answer => Following engine run (Asking run observation answer) := by
  unfold propose
  refine guarantees_bind (ensures_calm steady_sighting
    (emits_call (List.mem_singleton.mpr rfl)) (by decide) lawful_of_following)
    fun screenshot => ?_
  refine guarantees_bind (ensures_renewControl steady_sighting
    lawful_of_following) fun _ => ?_
  refine guarantees_bind ensures_get fun state => ?_
  refine guarantees_bind (m := fun answer =>
    Following engine run (Asking run observation answer)) ?_ fun answer => ?_
  · refine guarantees_invoke (fun seen current resp answer here read => ?_)
      fun seen current resp error here read => ?_
    · obtain ⟨past, events, rfl, looping, quiet, rest, rfl, keeps⟩ := here
      cases resp with
      | error error => cases read
      | ok proposal =>
          cases read
          refine ⟨past, observationEvent run observation ::
            (rest ++ [decisionEvent (providerContext run state observation
              screenshot) answer]), ?_, looping, ?_, _, rest, [], rfl, rfl, keeps,
            keepsPage_nil⟩
          · rw [← List.cons_append, ← List.append_assoc]
            rfl
          · exact quiet.append (calm_singleton (by
              simp [stageKind, decisionEvent, stirringKinds]))
    · exact (here.looping.append (calm_singleton (by
        simp [stageKind, stirringKinds]))).lawful
  · refine guarantees_bind (ensures_renewControl steady_asking
      lawful_of_following) fun _ => ?_
    refine guarantees_bind (ensures_calm steady_asking
      (emits_record (List.mem_singleton.mpr rfl)) (by decide)
      lawful_of_following) fun _ => ?_
    exact guarantees_pure fun _ _ here => here

/-! ## Handoffs -/

/-- The results without the outputs, which a human may have invalidated. -/
def Handed (engine : Discovery.Engine) (run : DiscoveryRun)
    (seen : List DiscoveryEvent) (state : DiscoveryState) : Prop :=
  Looping engine run seen { state with outputs := [] }

theorem steady_handed :
    Steady dispatchKinds DiscoveryState.results (Handed engine run) where
  idle := fun _ _ _ idle here => Looping.append here (Idle.calm idle)
  kept := by
    intro seen state other same here
    refine Looping.congr here ?_
    obtain ⟨recordings, branch, -, session⟩ :=
      DiscoveryState.results_eq_iff.mp same
    exact DiscoveryState.results_eq_iff.mpr ⟨recordings, branch, rfl, session⟩

theorem Looping.paused {seen : List DiscoveryEvent} {state : DiscoveryState}
    {event : DiscoveryEvent} (looping : Looping engine run seen state)
    (paused : stageKind event = .pause) :
    Handed engine run (seen ++ [event]) state where
  sound := {
    authorized := by
      refine looping.sound.authorized.append (justified_of_forall ?_)
      intro other member past dispatches
      rw [List.mem_singleton] at member
      subst member
      simp [IsDispatch, paused] at dispatches
    traced := looping.sound.traced.other event
    fresh := fresh_nil
    branched := looping.sound.branched }
  unbranched := looping.unbranched

theorem ensures_handOver {number : Nat} {code : String}
    {current : NormalizedObservation} :
    Ensures engine run (Looping engine run)
      (engine.handOver run number code current)
      fun result seen state => result = none ∧ Looping engine run seen state
      := by
  have clock {holds : List DiscoveryEvent → DiscoveryState → Prop}
      (steady : Steady dispatchKinds DiscoveryState.results holds)
      (lawful : ∀ seen state, holds seen state → Lawful engine run seen) :
      Ensures engine run holds (Discovery.runtime Runtime.now)
        fun _ => holds :=
    ensures_calm steady (uses_now (List.mem_singleton.mpr rfl)) (by decide)
      lawful
  have lawful : ∀ seen state, Handed engine run seen state →
      Lawful engine run seen := fun _ _ here => Looping.lawful here
  unfold handOver handoff
  refine guarantees_bind (m := fun _ => Looping engine run) ?_ fun _ =>
    guarantees_pure fun _ _ here => ⟨rfl, here⟩
  refine guarantees_bind (clock steady_looping lawful_of_looping)
    fun pausedAt => ?_
  refine guarantees_bind ensures_get fun state => ?_
  refine guarantees_bind (m := fun _ => Handed engine run)
    (guarantees_invoke (fun _ _ _ _ here _ => here.paused rfl)
      fun _ _ _ _ here _ => lawful _ _ (here.paused rfl)) fun version => ?_
  refine guarantees_bind (clock steady_handed lawful) fun resumedAt => ?_
  refine guarantees_bind (m := fun _ => Handed engine run)
    (guarantees_modify fun _ _ here => Looping.congr here rfl) fun _ => ?_
  refine guarantees_bind (ensures_calm steady_handed emits_heartbeat
    (by decide) lawful) fun lease => ?_
  exact guarantees_modify fun _ _ here => Looping.congr here rfl

/-! ## Actions -/

section Dispatches

variable {proposal : ActProposal} {before : NormalizedObservation}
  {target : Option ResolvedTarget} {decision : PolicyDecision}
  {past asking : List DiscoveryEvent} {front back : List RuntimeEvent}
  {event : RuntimeEvent} {state final : DiscoveryState}

theorem staged_unpaused (own : List RuntimeEvent) :
    ∀ event ∈ own.map staged, stageKind event ≠ .pause := by
  intro event member
  obtain ⟨origin, -, rfl⟩ := List.mem_map.mp member
  simp

/-- A dispatch that was admitted keeps every dispatch authorized. -/
theorem lawful_dispatch (looping : Looping engine run past state)
    (quiet : Calm asking) (idle : Idle front) (idle' : Idle back)
    (authorized : Authorizes engine run proposal before target decision
      (past ++ asking ++ front.map staged))
    (dispatched : Dispatched run proposal.action target event) :
    Lawful engine run
      (past ++ asking ++ (front ++ event :: back).map staged) := by
  have head : Lawful engine run (past ++ asking ++ front.map staged) :=
    ((looping.append quiet).append idle.calm).lawful
  have tail : Justified (Cause engine run)
      (past ++ asking ++ front.map staged)
      (staged event :: back.map staged) := by
    refine justified_cons (fun _ => ?_) (justified_of_calm idle'.calm)
    exact ⟨proposal, before, target, decision, event, rfl, dispatched,
      authorized⟩
  rw [List.map_append, List.map_cons, ← List.append_assoc]
  exact head.append tail

theorem target_of_dispatched {action : Action} {resolved : ResolvedTarget}
    {answer : Except SessionError String}
    (dispatched : Dispatched run action target
      ⟨.session run.session.sessionId (.extract resolved), answer⟩) :
    target = some resolved := by
  cases dispatched with
  | extract answer extraction same => exact same

/-- The outputs after a dispatch are fresh when those before it are. -/
theorem fresh_dispatch (fresh : Fresh engine run past state.outputs)
    (authorized : Authorizes engine run proposal before target decision
      (past ++ front.map staged))
    (dispatched : Dispatched run proposal.action target event)
    (binds : Binds engine run proposal.action event state.outputs
      final.outputs) :
    Fresh engine run (past ++ (front ++ event :: back).map staged)
      final.outputs := by
  have kept := fresh.append (staged_unpaused (front ++ event :: back))
  rcases binds with same | ⟨output, transform, resolved, text, extraction,
    rfl, same⟩
  · rwa [same]
  · intro name value held
    rw [same, Dict.get?_set] at held
    by_cases here : name = output
    · rw [if_pos here] at held
      cases held
      subst here
      obtain rfl := target_of_dispatched dispatched
      exact ⟨past ++ front.map staged, proposal, before, decision, transform,
        resolved, text, back.map staged, by simp, authorized, extraction, rfl,
        staged_unpaused back⟩
    · rw [if_neg here] at held
      exact kept name value held

/-- A dispatch keeps what the loop keeps. -/
theorem looping_dispatch (looping : Looping engine run past state)
    (quiet : Calm asking) (idle : Idle front) (idle' : Idle back)
    (authorized : Authorizes engine run proposal before target decision
      (past ++ asking ++ front.map staged))
    (dispatched : Dispatched run proposal.action target event)
    (binds : Binds engine run proposal.action event state.outputs
      final.outputs)
    (framed : final.recordings = state.recordings ∧
      final.observedBranch = state.observedBranch) :
    Looping engine run (past ++ asking ++ (front ++ event :: back).map staged)
      final where
  sound := {
    authorized := lawful_dispatch looping quiet idle idle' authorized dispatched
    traced := framed.1 ▸ (looping.append quiet).sound.traced.append _
    fresh := fresh_dispatch (looping.append quiet).sound.fresh authorized
      dispatched binds
    branched := by
      rw [framed.1, framed.2]
      exact looping.sound.branched }
  unbranched := by
    rw [framed.2]
    exact looping.unbranched

end Dispatches

/-- The history holds what a recording stands for. -/
structure Kept (engine : Discovery.Engine) (run : DiscoveryRun)
    (proposal : ActProposal) (recording : RecordedDiscoveryStep)
    (seen : List DiscoveryEvent) (state : DiscoveryState) : Prop where
  looping : Looping engine run seen state
  traced : Traced engine run seen (state.recordings ++ [recording])
  action : recording.action = proposal.action
  conditions : recording.verifiedPostconditions =
    verifiedPostconditions proposal
  shown : observationEvent run recording.observationAfter ∈ seen

/-- What an attempt leaves behind. -/
def Attempted (engine : Discovery.Engine) (run : DiscoveryRun)
    (proposal : ActProposal) :
    Except (SurfaceError ⊕ String) ActOutcome → List DiscoveryEvent →
      DiscoveryState → Prop
  | .ok (.recorded recording _), seen, state =>
      Kept engine run proposal recording seen state
  | _, seen, state => Looping engine run seen state

/-- An action keeps the loop's assertion, and a recording stands for what it
did. -/
theorem kept_of_actRun {proposal : ActProposal} {past asking : List DiscoveryEvent}
    {start final : DiscoveryState} {own : List RuntimeEvent}
    {result : Except Raised ActOutcome}
    (confident : run.request.minimumConfidence ≤ proposal.confidence)
    (looping : Looping engine run past start) (quiet : Calm asking)
    (proposes : Proposing run observation proposal asking)
    (acted : ActRun engine run proposal observation start own result final) :
    Looping engine run (past ++ asking ++ own.map staged) final ∧
      ∀ recording history, result = .ok (.recorded recording history) →
        Kept engine run proposal recording
          (past ++ asking ++ own.map staged) final := by
  cases acted with
  | idle idle same never =>
      exact ⟨((looping.append quiet).append idle.calm).congr same,
        fun recording history impossible =>
          absurd impossible (never recording history)⟩
  | dispatch unseen idle admitted dispatched binds framed witnessed =>
      rename_i front back target decision event
      have authorized : Authorizes engine run proposal observation target
          decision (past ++ asking ++ front.map staged) :=
        ⟨past, asking, front, rfl, proposes, confident, unseen, admitted⟩
      have after := looping_dispatch looping quiet unseen.idle idle authorized
        dispatched binds framed
      refine ⟨after, fun recording history recorded => ?_⟩
      have witness := witnessed recording history recorded
      exact {
        looping := after
        traced := by
          rw [framed.1, List.append_assoc]
          exact looping.sound.traced.record ⟨proposal, observation, target,
            decision, final.outputs, asking, front, event, back, rfl, proposes,
            unseen, idle, admitted, witness⟩
        action := witness.action
        conditions := witness.conditions
        shown := by
          have there := List.mem_map_of_mem (f := staged) witness.after
          simp [observationEvent, there] }

/-! ## Endings -/

/-- What the history of a success holds: the trace, the outputs and the page
that its artifact was compiled from, and the checkpoint that was observed after
all of them. -/
structure Completed (engine : Discovery.Engine) (run : DiscoveryRun)
    (success : DiscoverySuccess) (recordings : List RecordedDiscoveryStep)
    (outputs : Outputs) (past : List DiscoveryEvent)
    (ending : List RuntimeEvent) : Prop where
  idle : Idle ending
  lawful : Lawful engine run past
  traced : Traced engine run past recordings
  fresh : Fresh engine run past outputs
  compiled : ∃ observation evidenceManifest,
    observationEvent run observation ∈ past ∧
    engine.publishable run recordings observation evidenceManifest
      outputs.fields = .ok success.artifact
  valid : ∃ validated, validateObject engine.libraries.host
    success.artifact.outputs outputs.fields = .ok validated
  reached : observedCondition run outputs
    success.artifact.checkpoint.condition ∈ ending
  branched : ∀ branch ∈ success.branch,
    run.request.scenario.isSome ∧ Branches recordings branch
  concluded : Concluded run recordings outputs success.branch ending
  runId : success.runId = run.request.runId

def Succeeded (engine : Discovery.Engine) (run : DiscoveryRun)
    (success : DiscoverySuccess) (seen : List DiscoveryEvent) : Prop :=
  ∃ recordings outputs past ending, seen = past ++ ending.map staged ∧
    Completed engine run success recordings outputs past ending

/-- What a result stands for. -/
def Answered (engine : Discovery.Engine) (run : DiscoveryRun) :
    DiscoveryResult → List DiscoveryEvent → Prop
  | .success success, seen => Succeeded engine run success seen
  | .failure _, seen => Lawful engine run seen

/-- A pass of the loop ends the run or keeps the loop's assertion. -/
def Passed (engine : Discovery.Engine) (run : DiscoveryRun) :
    Option DiscoveryResult → List DiscoveryEvent → DiscoveryState → Prop
  | some result, seen, _ => Answered engine run result seen
  | none, seen, state => Looping engine run seen state

theorem Succeeded.append {success : DiscoverySuccess}
    {seen : List DiscoveryEvent} {more : List RuntimeEvent}
    (succeeded : Succeeded engine run success seen) (idle : Idle more) :
    Succeeded engine run success (seen ++ more.map staged) := by
  obtain ⟨recordings, outputs, past, ending, rfl, completed⟩ := succeeded
  refine ⟨recordings, outputs, past, ending ++ more, by simp, ?_⟩
  exact { completed with
    idle := completed.idle.append idle
    reached := List.mem_append_left _ completed.reached
    concluded := completed.concluded.within (List.subset_append_left _ _) }

theorem Succeeded.lawful {success : DiscoverySuccess}
    {seen : List DiscoveryEvent}
    (succeeded : Succeeded engine run success seen) :
    Lawful engine run seen := by
  obtain ⟨recordings, outputs, past, ending, rfl, completed⟩ := succeeded
  exact completed.lawful.append (justified_of_calm completed.idle.calm)

theorem Answered.lawful {result : DiscoveryResult} {seen : List DiscoveryEvent}
    (answered : Answered engine run result seen) : Lawful engine run seen := by
  cases result with
  | success success => exact Succeeded.lawful answered
  | failure failure => exact answered

/-- A completion in a sound state. -/
theorem succeeded_of_published {success : DiscoverySuccess}
    {seen : List DiscoveryEvent} {state : DiscoveryState}
    {own : List RuntimeEvent} (sound : Sound engine run seen state)
    (shown : observationEvent run observation ∈ seen) (idle : Idle own)
    (published : Published engine run observation state success own)
    (concluded : Concluded run state.recordings state.outputs
      state.observedBranch own) :
    Succeeded engine run success (seen ++ own.map staged) := by
  obtain ⟨evidenceManifest, compiled⟩ := published.compiled
  exact ⟨state.recordings, state.outputs, seen, own, rfl, {
    idle
    lawful := sound.authorized
    traced := sound.traced
    fresh := sound.fresh
    compiled := ⟨observation, evidenceManifest, shown, compiled⟩
    valid := published.valid
    reached := published.reached
    branched := by
      rw [published.branch]
      exact sound.branched
    concluded := by
      rw [published.branch]
      exact concluded
    runId := published.runId }⟩

theorem Asking.shown {answer : DiscoveryProposal} {events : List DiscoveryEvent}
    (asking : Asking run observation answer events) :
    observationEvent run observation ∈ events := by
  obtain ⟨context, middle, rest, rfl, -⟩ := asking
  simp

theorem ensures_attemptCompletion {answer : DiscoveryProposal} :
    Ensures engine run (Following engine run (Asking run observation answer))
      (Discovery.runtime (engine.attemptCompletion run observation))
      (Passed engine run) := by
  refine guarantees_runtime (fun seen start own value final here ended => ?_)
    fun seen start own error final here ended => ?_
  · have idle := emits_attemptCompletion.idle ended (by decide)
    have looping := (here.looping.append idle.calm).congr
      ((Emits.results emits_attemptCompletion).kept ended)
    cases value with
    | none => exact looping
    | some result =>
        cases result with
        | failure failure => exact looping.lawful
        | success success =>
            obtain ⟨published, concluded⟩ :=
              published_of_attemptCompletion here.looping.unbranched ended
            obtain ⟨past, events, rfl, -, -, asking⟩ := id here
            exact succeeded_of_published here.looping.sound
              (List.mem_append_right _ asking.shown) idle published concluded
  · exact (here.looping.append
      (emits_attemptCompletion.idle ended (by decide)).calm).lawful

/-! ## Recordings -/

section Recordings

variable {proposal : ActProposal} {recording : RecordedDiscoveryStep}
  {seen : List DiscoveryEvent} {start final : DiscoveryState}
  {own : List RuntimeEvent}

/-- A pending branch is asserted by the proposal, after all recordings. -/
def Pends (run : DiscoveryRun) (proposal : ActProposal)
    (pending : Option ObservedBranch) (state : DiscoveryState) : Prop :=
  ∀ branch ∈ pending, run.request.scenario.isSome ∧
    branch.afterStepCount = state.recordings.length ∧
    proposal.action = .assert branch.condition

/-- The state with one more recording. -/
def recorded (recording : RecordedDiscoveryStep) (state : DiscoveryState) :
    DiscoveryState :=
  { state with recordings := state.recordings ++ [recording] }

theorem Kept.looping_recorded
    (kept : Kept engine run proposal recording seen start) :
    Looping engine run seen (recorded recording start) where
  sound := {
    authorized := kept.looping.sound.authorized
    traced := kept.traced
    fresh := kept.looping.sound.fresh
    branched := fun branch member =>
      ⟨(kept.looping.sound.branched branch member).1,
        (kept.looping.sound.branched branch member).2.append _⟩ }
  unbranched := kept.looping.unbranched

theorem branches_of_pends {branch : ObservedBranch}
    (kept : Kept engine run proposal recording seen start)
    (pends : Pends run proposal (some branch) start) :
    Branches (start.recordings ++ [recording]) branch := by
  obtain ⟨-, count, asserted⟩ := pends branch rfl
  refine ⟨recording, ?_, kept.action.trans asserted, ?_⟩
  · rw [count, List.getElem?_concat_length]
  · rw [kept.conditions, verifiedPostconditions, asserted]
    simp [Action.awaited?]

theorem Kept.sound_branched {branch : ObservedBranch}
    (kept : Kept engine run proposal recording seen start)
    (pends : Pends run proposal (some branch) start) :
    Sound engine run seen
      { recorded recording start with observedBranch := some branch } where
  authorized := kept.looping.sound.authorized
  traced := kept.traced
  fresh := kept.looping.sound.fresh
  branched := by
    intro other member
    cases member
    exact ⟨(pends branch rfl).1, branches_of_pends kept pends⟩

def branchKinds : List OpKind :=
  .record "branch_observed" :: leaseKinds ++ completeKinds

theorem emits_observeBranch {branch : ObservedBranch} :
    Emits branchKinds DiscoveryState.counters
      (engine.observeBranch run recording branch) := by
  unfold observeBranch
  refine confined_bind (confined_modify fun _ => rfl) fun _ => ?_
  refine confined_bind (emits_record (by simp [branchKinds])) fun _ => ?_
  refine confined_ite (fun _ => ?_) fun _ => confined_pure
  refine confined_bind (emits_renewControl.coarsen (by decide) fun _ _ same =>
    DiscoveryState.counters_of_settled
      (DiscoveryState.settled_of_unleased same)) fun _ => ?_
  exact confined_bind (emits_complete.widen (by decide)) fun _ => confined_pure

theorem emits_keepRecording {pending : Option ObservedBranch}
    {history : String} :
    Emits branchKinds DiscoveryState.counters
      (engine.keepRecording run pending recording history) := by
  unfold keepRecording
  refine confined_bind (confined_modify fun _ => rfl) fun _ => ?_
  refine confined_bind ?_ fun ended => ?_
  · cases pending with
    | some branch => exact emits_observeBranch
    | none => exact confined_pure
  · cases ended with
    | some result => exact confined_pure
    | none =>
        exact confined_bind (confined_modify fun _ => rfl) fun _ =>
          confined_pure

/-- A verified branch ends the trace of a scenario that ends at its branch. -/
theorem passed_of_observeBranch {branch : ObservedBranch}
    {result : Option DiscoveryResult}
    (kept : Kept engine run proposal recording seen start)
    (pends : Pends run proposal (some branch) start)
    (observed : Executes (engine.observeBranch run recording branch)
      (recorded recording start) own (.ok result) final) :
    Passed engine run result (seen ++ own.map staged) final := by
  have idle := emits_observeBranch.idle observed (by decide)
  have sound := kept.sound_branched pends
  unfold observeBranch at observed
  obtain ⟨first, _, branched, rest, rfl, marked, recordingIt⟩ :=
    executes_bind_ok.mp observed
  obtain ⟨rfl, -, rfl⟩ := executes_modify.mp marked
  obtain ⟨second, _, noted, back, rfl, noting, deciding⟩ :=
    executes_bind_ok.mp recordingIt
  obtain ⟨rfl, rfl⟩ := executes_record_ok.mp noting
  rcases executes_ite.mp deciding with ⟨ends, completing⟩ | ⟨goes, returned⟩
  · obtain ⟨third, _, leased, last, rfl, renewed, completed⟩ :=
      executes_bind_ok.mp completing
    obtain ⟨value, ended, rfl⟩ := executes_map_ok.mp completed
    cases value with
    | failure failure =>
        exact sound.authorized.append (justified_of_calm idle.calm)
    | success success =>
        have same := DiscoveryState.results_of_unleased
          (emits_renewControl.kept renewed)
        obtain ⟨recordings, branchSame, -⟩ :=
          DiscoveryState.results_eq_iff.mp same
        have published := published_of_complete ended
        have leasedSound : Sound engine run seen leased := sound.congr same
        refine succeeded_of_published leasedSound kept.shown idle { published with
            reached := by simp [published.reached] } ?_
        intro scenario scenarioSame
        refine ⟨branch, branchSame, ?_⟩
        have other : scenario.kind ≠ .recovery := by
          simpa [scenarioSame] using ends
        rw [if_neg other, recordings]
        obtain ⟨-, count, -⟩ := pends branch rfl
        simp [recorded, count]
  · obtain ⟨rfl, same, rfl⟩ := executes_pure.mp returned
    cases same
    refine ⟨sound.append idle.calm, fun ends => absurd ends ?_⟩
    simpa [endsAtBranch] using goes

theorem passed_of_keepRecording {pending : Option ObservedBranch}
    {history : String} {result : Option DiscoveryResult}
    (kept : Kept engine run proposal recording seen start)
    (pends : Pends run proposal pending start)
    (recording' : Executes (engine.keepRecording run pending recording history)
      start own (.ok result) final) :
    Passed engine run result (seen ++ own.map staged) final := by
  unfold keepRecording at recording'
  obtain ⟨first, _, middle, rest, rfl, added, observing⟩ :=
    executes_bind_ok.mp recording'
  obtain ⟨rfl, -, rfl⟩ := executes_modify.mp added
  obtain ⟨second, ended, observed, back, rfl, branching, finishing⟩ :=
    executes_bind_ok.mp observing
  have passed : Passed engine run ended (seen ++ second.map staged) observed := by
    cases pending with
    | none =>
        obtain ⟨rfl, same, rfl⟩ := executes_pure.mp branching
        cases same
        rw [List.map_nil, List.append_nil]
        exact kept.looping_recorded
    | some branch => exact passed_of_observeBranch kept pends branching
  cases ended with
  | some answer =>
      obtain ⟨rfl, same, rfl⟩ := executes_pure.mp finishing
      cases same
      simpa using passed
  | none =>
      obtain ⟨third, _, noted, last, rfl, noting, returned⟩ :=
        executes_bind_ok.mp finishing
      obtain ⟨rfl, -, rfl⟩ := executes_modify.mp noting
      obtain ⟨rfl, same, rfl⟩ := executes_pure.mp returned
      cases same
      simp only [List.nil_append, List.append_nil]
      exact Looping.congr passed rfl

end Recordings

/-! ## Attempts -/

section Attempts

variable {proposal : ActProposal} {pending : Option ObservedBranch}

theorem Pends.congr {state other : DiscoveryState}
    (pends : Pends run proposal pending state)
    (same : other.recordings = state.recordings) :
    Pends run proposal pending other := by
  intro branch member
  rw [same]
  exact pends branch member

theorem recordings_of_actRun {start final : DiscoveryState}
    {own : List RuntimeEvent} {result : Except Raised ActOutcome}
    (acted : ActRun engine run proposal observation start own result final) :
    final.recordings = start.recordings := by
  cases acted with
  | idle idle same never => exact (DiscoveryState.results_eq_iff.mp same).1
  | dispatch idle idle' admitted dispatched binds framed witnessed =>
      exact framed.1

/-- The proposal of a pass, with the branch it asserts. -/
def Pending (engine : Discovery.Engine) (run : DiscoveryRun)
    (observation : NormalizedObservation) (proposal : ActProposal)
    (pending : Option ObservedBranch) (seen : List DiscoveryEvent)
    (state : DiscoveryState) : Prop :=
  Following engine run (Proposing run observation proposal) seen state ∧
    Pends run proposal pending state

theorem steady_pending :
    Steady pageKinds DiscoveryState.results
      (Pending engine run observation proposal pending) where
  idle := fun _ _ _ idle here =>
    ⟨steady_proposing.idle _ _ _ idle here.1, here.2⟩
  kept := fun _ _ _ same here =>
    ⟨steady_proposing.kept _ _ _ same here.1,
      here.2.congr (DiscoveryState.results_eq_iff.mp same).1⟩

theorem ensures_act
    (confident : run.request.minimumConfidence ≤ proposal.confidence) :
    Ensures engine run (Pending engine run observation proposal pending)
      (handling actError (Discovery.runtime
        (engine.act run proposal observation)))
      fun outcome seen state => Attempted engine run proposal outcome seen state
        ∧ Pends run proposal pending state := by
  refine guarantees_handling (c := fun _ seen state =>
      Looping engine run seen state ∧ Pends run proposal pending state)
    (guarantees_runtime (fun seen start own value final here acted => ?_)
      fun seen start own error final here acted => ?_)
    (fun error value seen state here _ => here)
    fun error seen state here _ => here.1.lawful
  · have acted' := actRun_of_act acted
    obtain ⟨⟨past, asking, rfl, looping, quiet, proposes⟩, pends⟩ := here
    obtain ⟨after, kept⟩ :=
      kept_of_actRun confident looping quiet proposes acted'
    refine ⟨?_, pends.congr (recordings_of_actRun acted')⟩
    cases value with
    | failed result => exact after
    | recorded recording history => exact kept recording history rfl
  · have acted' := actRun_of_act acted
    obtain ⟨⟨past, asking, rfl, looping, quiet, proposes⟩, pends⟩ := here
    exact ⟨(kept_of_actRun confident looping quiet proposes acted').1,
      pends.congr (recordings_of_actRun acted')⟩

theorem ensures_keepRecording {recording : RecordedDiscoveryStep}
    {history : String} :
    Ensures engine run (fun seen state =>
        Kept engine run proposal recording seen state ∧
          Pends run proposal pending state)
      (Discovery.runtime (engine.keepRecording run pending recording history))
      (Passed engine run) :=
  guarantees_runtime
    (fun _ _ _ _ _ here ended => passed_of_keepRecording here.1 here.2 ended)
    fun _ _ _ _ _ here ended => here.1.looping.lawful.append
      (justified_of_calm (emits_keepRecording.idle ended (by decide)).calm)

theorem passed_handOver {number : Nat} {code : String}
    {current : NormalizedObservation}
    {before : List DiscoveryEvent → DiscoveryState → Prop}
    (looping : ∀ seen state, before seen state → Looping engine run seen state) :
    Ensures engine run before (engine.handOver run number code current)
      (Passed engine run) :=
  ensures_handOver.weaken looping
    (fun result seen state here => by
      obtain ⟨rfl, after⟩ := here
      exact after)
    fun _ _ _ here => here

theorem ensures_handleSurfaceError {number : Nat} {error : SurfaceError} :
    Ensures engine run (Looping engine run)
      (engine.handleSurfaceError run number proposal error)
      (Passed engine run) := by
  unfold handleSurfaceError
  refine guarantees_ite (fun _ => ?_) fun _ => ?_
  · exact guarantees_bind (ensures_calm steady_looping
      (Emits.results emits_rejectProposal) (by decide) lawful_of_looping)
      fun _ => guarantees_pure fun _ _ here => here
  · refine guarantees_ite (fun _ => ?_) fun _ =>
      guarantees_throw fun _ _ here => here.lawful
    exact guarantees_bind (ensures_calm steady_looping
      (emits_call (List.mem_singleton.mpr rfl)) (by decide) lawful_of_looping)
      fun current => passed_handOver fun _ _ here => here

theorem ensures_attemptAct {number : Nat} :
    Ensures engine run (Pending engine run observation proposal pending)
      (engine.attemptAct run number observation proposal pending)
      (Passed engine run) := by
  unfold attemptAct
  refine guarantees_bind (ensures_calm steady_pending emits_noteProposal
    (by decide) fun _ _ here => here.1.looping.lawful) fun stuck => ?_
  refine guarantees_ite (fun _ => passed_handOver fun _ _ here =>
    here.1.looping) fun _ => ?_
  refine guarantees_ite (fun _ => passed_handOver fun _ _ here =>
    here.1.looping) fun confident => ?_
  refine guarantees_bind (ensures_act (le_of_not_gt confident))
    fun outcome => ?_
  rcases outcome with (error | code) | (result | ⟨recording, history⟩)
  · exact ensures_handleSurfaceError.weaken (fun _ _ here => here.1)
      (fun _ _ _ here => here) fun _ _ _ here => here
  · exact passed_handOver fun _ _ here => here.1
  · exact guarantees_pure fun _ _ here => here.1.lawful
  · exact ensures_keepRecording

end Attempts

/-! ## The loop -/

theorem ensures_completionFailed {code message : String} :
    Ensures engine run (Looping engine run)
      (Discovery.runtime (completionFailed run code message))
      fun result seen _ => Answered engine run result seen := by
  have idle {start final : DiscoveryState} {own : List RuntimeEvent}
      {result : Except Raised DiscoveryResult}
      (ended : Executes (completionFailed run code message) start own result
        final) : Idle own :=
    (emits_completionFailed (v := id)).idle ended (by decide)
  refine guarantees_runtime (fun seen start own value final here ended => ?_)
    fun seen start own error final here ended => ?_
  · have lawful := here.lawful.append (justified_of_calm (idle ended).calm)
    obtain ⟨failure, -, rfl⟩ := executes_map_ok.mp ended
    exact lawful
  · exact here.lawful.append (justified_of_calm (idle ended).calm)

theorem ensures_endFailed {code message : String}
    {before : List DiscoveryEvent → DiscoveryState → Prop}
    (looping : ∀ seen state, before seen state → Looping engine run seen state) :
    Ensures engine run before (endFailed run code message)
      (Passed engine run) := by
  unfold endFailed
  rw [map_eq_pure_bind]
  exact guarantees_bind (ensures_completionFailed.weaken looping
    (fun _ _ _ here => here) fun _ _ _ here => here) fun result =>
      guarantees_pure fun _ _ here => here

theorem Following.grounded {answer : DiscoveryProposal}
    {proposal : ActProposal} {seen : List DiscoveryEvent}
    {state : DiscoveryState} (grounds : Grounds run answer proposal)
    (following : Following engine run (Asking run observation answer) seen
      state) :
    Following engine run (Proposing run observation proposal) seen state := by
  obtain ⟨past, events, rfl, looping, quiet, asking⟩ := following
  exact ⟨past, events, rfl, looping, quiet, answer, grounds, asking⟩

theorem pends_none {proposal : ActProposal} {state : DiscoveryState} :
    Pends run proposal none state := by
  intro branch impossible
  cases impossible

theorem ensures_follow {number : Nat} {answer : DiscoveryProposal} :
    Ensures engine run (Following engine run (Asking run observation answer))
      (engine.follow run number observation answer) (Passed engine run) := by
  have looping : ∀ seen state,
      Following engine run (Asking run observation answer) seen state →
      Looping engine run seen state := fun _ _ here => here.looping
  cases answer with
  | escalate reasonCode rationale => exact passed_handOver looping
  | complete rationale => exact ensures_attemptCompletion
  | act proposal =>
      exact ensures_attemptAct.weaken
        (fun _ _ here => ⟨here.grounded (.act proposal), pends_none⟩)
        (fun _ _ _ here => here) fun _ _ _ here => here
  | recordedAction stepId rationale expected =>
      unfold follow
      dsimp only
      cases found : run.request.scenario.bind fun scenario =>
          scenario.primary.steps.find? (·.id = stepId) with
      | none => exact ensures_endFailed looping
      | some step =>
          obtain ⟨scenario, same, listed⟩ := Option.bind_eq_some_iff.mp found
          refine guarantees_bind (m := fun proposal seen state =>
            Following engine run (Proposing run observation proposal) seen state)
            (guarantees_attempt (fun _ _ proposal here built => ?_)
              fun _ _ _ here _ => here.looping.lawful) fun proposal => ?_
          · exact here.grounded (.recordedAction same listed built)
          · exact ensures_attemptAct.weaken (fun _ _ here => ⟨here, pends_none⟩)
              (fun _ _ _ here => here) fun _ _ _ here => here
  | branch condition rationale =>
      unfold follow
      dsimp only
      refine guarantees_bind (m := fun held seen state =>
        Following engine run (Asking run observation
          (.branch condition rationale)) seen state ∧ held = state)
        (guarantees_get fun _ _ here => ⟨here, rfl⟩) fun held => ?_
      split
      next executed =>
        refine guarantees_ite (fun _ => ensures_endFailed fun _ _ here =>
          here.1.looping) fun apart => ?_
        have scenario : run.request.scenario.isSome := by
          cases given : run.request.scenario with
          | none => simp [given] at apart
          | some scenario => rfl
        refine ensures_attemptAct.weaken (fun seen state here => ?_)
          (fun _ _ _ here => here) fun _ _ _ here => here
        obtain ⟨asking, rfl⟩ := here
        refine ⟨asking.grounded (.branch condition rationale scenario), ?_⟩
        intro branch member
        cases member
        exact ⟨scenario, rfl, rfl⟩
      next unexecuted => exact ensures_endFailed fun _ _ here => here.1.looping

theorem ensures_step {number : Nat} :
    Ensures engine run (Looping engine run) (engine.step run number)
      (Passed engine run) := by
  unfold step
  refine guarantees_bind (ensures_calm steady_looping
    (uses_now (List.mem_singleton.mpr rfl)) (by decide) lawful_of_looping)
    fun now => ?_
  refine guarantees_bind ensures_get fun state => ?_
  refine guarantees_ite (fun _ => ensures_endFailed fun _ _ here => here)
    fun _ => ?_
  refine guarantees_bind ensures_look fun looked => ?_
  obtain ⟨shown, stuck⟩ := looked
  refine guarantees_ite (fun _ => passed_handOver fun _ _ here => here.looping)
    fun _ => ?_
  exact guarantees_bind ensures_propose fun answer => ensures_follow

theorem ensures_steps {remaining number : Nat} :
    Ensures engine run (Looping engine run)
      (engine.steps run remaining number)
      fun result seen _ => Answered engine run result seen := by
  induction remaining generalizing number with
  | zero => exact ensures_completionFailed
  | succ remaining ih =>
      unfold steps
      refine guarantees_bind ensures_step fun passed => ?_
      cases passed with
      | some result => exact guarantees_pure fun _ _ here => here
      | none => exact ih

end Discovery.Engine

end ReplayForge

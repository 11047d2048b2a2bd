import ReplayForge.Discovery.Histories

/-!
# What a completion has checked

The runtime parts around an action, inverted: what was observed when a page is
shown, and what a completion that succeeds has checked in its session.
-/

namespace ReplayForge

open Effect

theorem DiscoverySuccess.eq_of_make {success made : DiscoverySuccess}
    (checked : success.make = .ok made) : made = success := by
  unfold DiscoverySuccess.make at checked
  simp only [bind_eq_ok] at checked
  obtain ⟨_, -, _, -, same⟩ := checked
  cases same
  rfl

namespace Discovery.Engine

variable {engine : Discovery.Engine} {run : DiscoveryRun}

/-! ## Single parts -/

section Parts

variable {start final : DiscoveryState} {events : List RuntimeEvent}
  {observation : NormalizedObservation}

theorem returned_of_catching {α κ : Type} {select : Raised → Option κ}
    {body : Work α} {start final : DiscoveryState}
    {events : List RuntimeEvent} {value : α}
    (caught : Executes (Runtime.catching select body) start events
      (.ok (.ok value)) final) :
    Executes body start events (.ok value) final := by
  change Executes (handling select body) start events (.ok (.ok value)) final
    at caught
  obtain ⟨outcome, inner, same⟩ := executes_handling.mp caught
  cases outcome with
  | ok stored =>
      cases same
      exact inner
  | error error =>
      cases chosen : select error with
      | some value => simp [chosen] at same
      | none => simp [chosen] at same

theorem emits_look :
    Emits lookKinds DiscoveryState.settled (engine.look run) := by
  unfold look
  refine confined_bind (emits_renewControl.coarsen (by decide)
    fun _ _ => DiscoveryState.settled_of_unleased) fun _ => ?_
  refine confined_bind (emits_call (by decide)) fun observation => ?_
  refine confined_bind (emits_record (by simp [lookKinds])) fun _ => ?_
  exact confined_bind (emits_noteObservation.widen (by simp)) fun _ =>
    confined_pure

theorem observed_of_look {stuck : Bool}
    (looked : Executes (engine.look run) start events
      (.ok (observation, stuck)) final) :
    ∃ front back, events = front ++
        ⟨.session run.session.sessionId .observe, .ok observation⟩ :: back ∧
      Unseen back := by
  unfold look DiscoveryRun.call at looked
  obtain ⟨front, _, leased, rest, rfl, renewed, observing⟩ :=
    executes_bind_ok.mp looked
  obtain ⟨first, shown, middle, back, rfl, observed, recording⟩ :=
    executes_bind_ok.mp observing
  obtain ⟨rfl, rfl⟩ := executes_session_ok.mp observed
  obtain ⟨second, _, middle', last, rfl, recorded, noting⟩ :=
    executes_bind_ok.mp recording
  obtain ⟨third, noted, middle'', closing, rfl, marked, returned⟩ :=
    executes_bind_ok.mp noting
  obtain ⟨rfl, same, rfl⟩ := executes_pure.mp returned
  cases same
  have quiet : Unseen second :=
    (emits_record (v := id) (List.mem_singleton.mpr rfl)).avoids recorded
      (by decide)
  have quiet' : Unseen third := emits_noteObservation.avoids marked (by simp)
  exact ⟨front, second ++ third, by simp, quiet.append quiet'⟩

theorem published_of_publish {artifact : CapabilityArtifact}
    {success : DiscoverySuccess}
    (published : Executes (engine.publish run artifact) start events
      (.ok (.success success)) final) :
    success.artifact = artifact ∧ success.branch = start.observedBranch ∧
      success.runId = run.request.runId ∧
      (∃ validated, validateObject engine.libraries.host artifact.outputs
        start.outputs.fields = .ok validated) ∧
      observedCondition run start.outputs artifact.checkpoint.condition ∈
        events := by
  unfold publish at published
  obtain ⟨first, reached, middle, rest, rfl, waited, deciding⟩ :=
    executes_bind_ok.mp published
  obtain ⟨rfl, rfl⟩ := executes_waitUntil_ok waited
  rcases executes_ite.mp deciding with ⟨met, checking⟩ | ⟨-, failed⟩
  · obtain rfl : reached = true := met
    obtain ⟨second, state, middle', back, rfl, current, checked⟩ :=
      executes_bind_ok.mp checking
    obtain ⟨rfl, same, rfl⟩ := executes_get.mp current
    cases same
    split at checked
    · obtain ⟨result, -, impossible⟩ := executes_map_ok.mp checked
      cases impossible
    · obtain ⟨-, impossible, -⟩ := executes_throw.mp checked
      cases impossible
    next validated valid =>
      obtain ⟨third, _, recorded, others, rfl, -, naming⟩ :=
        executes_bind_ok.mp checked
      obtain ⟨fourth, manifest, named, last, rfl, -, making⟩ :=
        executes_bind_ok.mp naming
      obtain ⟨fifth, made, done, closing, rfl, built, returned⟩ :=
        executes_bind_ok.mp making
      obtain ⟨rfl, same, rfl⟩ := executes_attempt.mp built
      obtain ⟨rfl, equal, rfl⟩ := executes_pure.mp returned
      cases equal
      obtain rfl := DiscoverySuccess.eq_of_make same.symm
      exact ⟨rfl, rfl, rfl, ⟨validated, valid⟩, by simp [observedCondition]⟩
  · obtain ⟨result, -, impossible⟩ := executes_map_ok.mp failed
    cases impossible

/-- What a completion that succeeds has checked. -/
structure Published (engine : Discovery.Engine) (run : DiscoveryRun)
    (observation : NormalizedObservation) (state : DiscoveryState)
    (success : DiscoverySuccess) (events : List RuntimeEvent) : Prop where
  compiled : ∃ evidenceManifest, engine.publishable run state.recordings
    observation evidenceManifest state.outputs.fields = .ok success.artifact
  valid : ∃ validated, validateObject engine.libraries.host
    success.artifact.outputs state.outputs.fields = .ok validated
  branch : success.branch = state.observedBranch
  runId : success.runId = run.request.runId
  reached : observedCondition run state.outputs
    success.artifact.checkpoint.condition ∈ events

theorem published_of_complete {success : DiscoverySuccess}
    (completed : Executes (engine.complete run observation) start events
      (.ok (.success success)) final) :
    Published engine run observation start success events := by
  unfold complete at completed
  obtain ⟨first, manifest, middle, rest, rfl, named, reading⟩ :=
    executes_bind_ok.mp completed
  obtain ⟨second, state, middle', back, rfl, current, publishing⟩ :=
    executes_bind_ok.mp reading
  have keeps : Emits [.manifest] id
      (Runtime.evidenceManifestKey : Work String) :=
    uses_manifest (by simp)
  obtain rfl : middle = start := keeps.kept named
  obtain ⟨rfl, equal, rfl⟩ := executes_get.mp current
  cases equal
  split at publishing
  next reason refused =>
    unfold reportRejection at publishing
    split at publishing
    · obtain ⟨third, diagnostic, _, last, rfl, -, reported⟩ :=
        executes_bind_ok.mp publishing
      obtain ⟨result, -, impossible⟩ := executes_map_ok.mp reported
      cases impossible
    · obtain ⟨result, -, impossible⟩ := executes_map_ok.mp publishing
      cases impossible
    · rcases executes_ite.mp publishing with ⟨-, reported⟩ | ⟨-, raised⟩
      · obtain ⟨result, -, impossible⟩ := executes_map_ok.mp reported
        cases impossible
      · obtain ⟨-, impossible, -⟩ := executes_throw.mp raised
        cases impossible
  next artifact compiled =>
    obtain ⟨rfl, branch, runId, valid, reached⟩ :=
      published_of_publish publishing
    exact {
      compiled := ⟨manifest, compiled⟩
      valid
      branch
      runId
      reached := by simp [reached] }

/-- The session was ready for the step of the primary that follows the
branch. -/
def Rejoins (run : DiscoveryRun) (primary : CapabilityArtifact)
    (branch : ObservedBranch) (outputs : Outputs) (events : List RuntimeEvent) :
    Prop :=
  ∃ step, primary.steps[branch.afterStepCount]? = some step ∧
    (∀ target, step.target = some target → ∃ bound resolved,
      bindTargetInputs target run.request.inputs (some primary.inputs)
        run.policy.forbiddenFieldClasses = .ok bound ∧
      ⟨.session run.session.sessionId (.resolve bound step.timeoutMs),
        .ok resolved⟩ ∈ events) ∧
    ∀ condition ∈ step.preconditions,
      ⟨.session run.session.sessionId
        (.evaluate condition outputs run.request.inputs), .ok true⟩ ∈ events

theorem evaluated_of_allHold {conditions : List Condition}
    (held : Executes (allHold run conditions) start events (.ok true) final) :
    ∀ condition ∈ conditions,
      ⟨.session run.session.sessionId
        (.evaluate condition start.outputs run.request.inputs), .ok true⟩ ∈
          events := by
  induction conditions generalizing start events with
  | nil => simp
  | cons condition rest ih =>
      unfold allHold DiscoveryRun.call at held
      obtain ⟨first, state, middle, back, rfl, current, asking⟩ :=
        executes_bind_ok.mp held
      obtain ⟨rfl, same, rfl⟩ := executes_get.mp current
      cases same
      obtain ⟨second, holds, middle', last, rfl, asked, next⟩ :=
        executes_bind_ok.mp asking
      obtain ⟨rfl, rfl⟩ := executes_session_ok.mp asked
      rcases executes_ite.mp next with ⟨met, later⟩ | ⟨-, ended⟩
      · obtain rfl : holds = true := met
        intro other member
        rcases List.mem_cons.mp member with rfl | further
        · simp
        · simp [ih later other further]
      · obtain ⟨-, impossible, -⟩ := executes_pure.mp ended
        cases impossible

theorem rejoins_of_rejoinReady {primary : CapabilityArtifact}
    {branch : ObservedBranch}
    (ready : Executes (rejoinReady run primary branch) start events (.ok true)
      final) : Rejoins run primary branch start.outputs events := by
  unfold rejoinReady at ready
  split at ready
  · obtain ⟨-, impossible, -⟩ := executes_pure.mp ready
    cases impossible
  next step next =>
    obtain ⟨first, outcome, middle, rest, rfl, probed, returned⟩ :=
      executes_bind_ok.mp ready
    cases outcome with
    | error caught =>
        obtain ⟨-, impossible, -⟩ := executes_pure.mp returned
        cases impossible
    | ok holds =>
        obtain ⟨rfl, same, rfl⟩ := executes_pure.mp returned
        cases same
        have probing := returned_of_catching probed
        unfold probeRejoin DiscoveryRun.call at probing
        refine ⟨step, next, ?_⟩
        cases targeted : step.target with
        | none =>
            simp only [targeted] at probing
            refine ⟨fun target impossible => absurd impossible (by simp), ?_⟩
            intro condition member
            simp [evaluated_of_allHold probing condition member]
        | some target =>
            simp only [targeted] at probing
            obtain ⟨second, bound, bound', back, rfl, binding, resolving⟩ :=
              executes_bind_ok.mp probing
            obtain ⟨rfl, binds, rfl⟩ := executes_attempt.mp binding
            obtain ⟨third, resolved, resolved', last, rfl, found, holding⟩ :=
              executes_bind_ok.mp resolving
            obtain ⟨rfl, rfl⟩ := executes_session_ok.mp found
            constructor
            · rintro other same
              cases same
              exact ⟨bound, resolved, binds.symm, by simp⟩
            · intro condition member
              simp [evaluated_of_allHold holding condition member]

/-- What a scenario has shown when it succeeds: a branch, which ended the
trace or from which the surface was restored. -/
def Concluded (run : DiscoveryRun) (recordings : List RecordedDiscoveryStep)
    (outputs : Outputs) (branch : Option ObservedBranch)
    (events : List RuntimeEvent) : Prop :=
  ∀ scenario, run.request.scenario = some scenario → ∃ observed,
    branch = some observed ∧
    if scenario.kind = .recovery then
      provesRestoration recordings observed = true ∧
        Rejoins run scenario.primary observed outputs events
    else
      recordings.length = observed.afterStepCount + 1

theorem concluded_of_completionReady
    (recovers : ∀ scenario, run.request.scenario = some scenario →
      scenario.kind = .recovery ∧ start.observedBranch.isSome)
    (ready : Executes (completionReady run) start events (.ok true) final) :
    Concluded run start.recordings start.outputs start.observedBranch events
    := by
  intro scenario same
  obtain ⟨kind, present⟩ := recovers scenario same
  obtain ⟨observed, branch⟩ := Option.isSome_iff_exists.mp present
  refine ⟨observed, branch, ?_⟩
  rw [if_pos kind]
  unfold completionReady at ready
  obtain ⟨first, state, middle, back, rfl, current, deciding⟩ :=
    executes_bind_ok.mp ready
  obtain ⟨rfl, equal, rfl⟩ := executes_get.mp current
  cases equal
  simp only [same, branch, if_pos kind] at deciding
  rcases executes_ite.mp deciding with ⟨restored, rejoining⟩ | ⟨-, ended⟩
  · exact ⟨restored, by simpa using rejoins_of_rejoinReady rejoining⟩
  · obtain ⟨-, impossible, -⟩ := executes_pure.mp ended
    cases impossible

theorem Rejoins.within {primary : CapabilityArtifact} {branch : ObservedBranch}
    {outputs : Outputs} {more : List RuntimeEvent}
    (rejoins : Rejoins run primary branch outputs events)
    (included : events ⊆ more) : Rejoins run primary branch outputs more := by
  obtain ⟨step, next, resolved, held⟩ := rejoins
  refine ⟨step, next, fun target targeted => ?_, fun condition member =>
    included (held condition member)⟩
  obtain ⟨bound, found, binds, there⟩ := resolved target targeted
  exact ⟨bound, found, binds, included there⟩

theorem Concluded.within {recordings : List RecordedDiscoveryStep}
    {outputs : Outputs} {branch : Option ObservedBranch}
    {more : List RuntimeEvent}
    (concluded : Concluded run recordings outputs branch events)
    (included : events ⊆ more) :
    Concluded run recordings outputs branch more := by
  intro scenario same
  obtain ⟨observed, branched, shown⟩ := concluded scenario same
  refine ⟨observed, branched, ?_⟩
  split at shown
  next recovers =>
    rw [if_pos recovers]
    exact ⟨shown.1, shown.2.within included⟩
  next ends =>
    rw [if_neg ends]
    exact shown

theorem published_of_attemptCompletion {success : DiscoverySuccess}
    (unbranched : endsAtBranch run = true → start.observedBranch = none)
    (completed : Executes (engine.attemptCompletion run observation) start
      events (.ok (some (.success success))) final) :
    Published engine run observation start success events ∧
      Concluded run start.recordings start.outputs start.observedBranch
        events := by
  unfold attemptCompletion at completed
  obtain ⟨first, state, middle, back, rfl, current, deciding⟩ :=
    executes_bind_ok.mp completed
  obtain ⟨rfl, equal, rfl⟩ := executes_get.mp current
  cases equal
  rcases executes_ite.mp deciding with ⟨-, failed⟩ | ⟨branched, asking⟩
  · obtain ⟨result, reported, same⟩ := executes_map_ok.mp failed
    cases same
    obtain ⟨failure, -, impossible⟩ := executes_map_ok.mp reported
    cases impossible
  · obtain ⟨second, ready, middle', rest, rfl, asked, next⟩ :=
      executes_bind_ok.mp asking
    have kept : middle' = state :=
      (emits_completionReady (v := id)).kept asked
    subst kept
    rcases executes_ite.mp next with ⟨met, completing⟩ | ⟨-, rejected⟩
    · obtain rfl : ready = true := met
      obtain ⟨result, done, same⟩ := executes_map_ok.mp completing
      cases same
      have published := published_of_complete done
      have recovers : ∀ scenario, run.request.scenario = some scenario →
          scenario.kind = .recovery ∧ middle'.observedBranch.isSome := by
        intro scenario same
        have present : middle'.observedBranch.isSome := by
          cases held : middle'.observedBranch with
          | none => simp [same, held] at branched
          | some observed => rfl
        refine ⟨?_, present⟩
        by_contra other
        have none := unbranched (by simp [endsAtBranch, same, other])
        simp [none] at present
      constructor
      · exact { published with
          reached := by simp [published.reached] }
      · exact (concluded_of_completionReady recovers asked).within (by simp)
    · obtain ⟨third, _, _, rest', rfl, -, noting⟩ :=
        executes_bind_ok.mp rejected
      obtain ⟨fourth, _, _, rest'', rfl, -, noted⟩ :=
        executes_bind_ok.mp noting
      obtain ⟨fifth, _, _, last, rfl, -, returned⟩ := executes_bind_ok.mp noted
      obtain ⟨-, impossible, -⟩ := executes_pure.mp returned
      cases impossible

end Parts

end Discovery.Engine

end ReplayForge

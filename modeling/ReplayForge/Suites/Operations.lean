import ReplayForge.Suites.Saves

/-!
# The suite operations keep their promise

One walk through each operation of the service, and from them the safety of
every call.
-/

namespace ReplayForge.Suites

open Effect

variable {service : DiscoverySuiteService} {call : SuiteCall} {index : Nat}
  {past : List SuiteEvent} {store : SuiteStore}

/-- What every operation leaves behind with the suite it returns. -/
def Left (saved : DiscoverySuite) (past : List SuiteEvent) : Prop :=
  ⟨.save saved, ()⟩ ∈ past

theorem works_openSuite {suite : DiscoverySuite} (opening : Opening past)
    (artifact : suite.artifact = none) (status : suite.status ≠ .published) :
    Works service call index (DiscoverySuiteService.store suite) past store
      Left := by
  refine works_store ?_ (by simp [Left])
  exact .opened opening.suiteRead_eq artifact status

theorem opening_nil : Opening [] :=
  fun _ member => (List.not_mem_nil member).elim

theorem works_create {goal family tenant entryPoint : String} {inputs : Fields}
    {maxSteps timeout : Nat} {existing : Option String} :
    Works service call index
      (service.create goal family tenant entryPoint inputs maxSteps timeout
        existing) [] store Left := by
  refine works_bind (Q := fun _ past => Opening past)
    (works_assertApplicationTarget opening_nil fun answer => ?_) ?_
  · exact opening_nil.snoc fun _ => nofun
  · rintro _ past store opening
    refine works_bind (Q := fun _ past => Opening past)
      (works_discover fun result => opening.snoc fun _ => nofun) ?_
    rintro result past store opening
    refine works_bind (Q := fun _ past => Opening past)
      (works_newId fun suiteId => opening.snoc fun _ => nofun) ?_
    rintro suiteId past store opening
    refine works_openSuite opening rfl ?_
    dsimp only
    split <;> simp

theorem works_fromPublished {capabilityId version tenant : String}
    {inputs : Fields} :
    Works service call index
      (service.fromPublished capabilityId version tenant inputs) [] store
      Left := by
  refine works_bind (Q := fun _ past => Opening past)
    (works_ask rfl fun answer _ _ => opening_nil.snoc fun _ => nofun) ?_
  · rintro record past store opening
    refine works_bind (Q := fun _ past => Opening past)
      (works_assertApplicationTarget opening fun answer => ?_) ?_
    · exact opening.snoc fun _ => nofun
    · rintro _ past store opening
      refine works_bind (Q := fun _ past => Opening past)
        (works_demand fun _ => opening) ?_
      rintro _ past store opening
      refine works_bind (Q := fun _ past => Opening past)
        (works_replay fun _ => opening.snoc fun _ => nofun) ?_
      rintro proof past store opening
      refine works_bind (Q := fun _ past => Opening past)
        (works_demand fun _ => opening) ?_
      rintro _ past store opening
      refine works_bind (Q := fun _ past => Opening past)
        (works_attempt fun _ _ => opening) ?_
      rintro primary past store opening
      refine works_bind (Q := fun _ past => Opening past)
        (works_newId fun suiteId => opening.snoc fun _ => nofun) ?_
      rintro suiteId past store opening
      exact works_openSuite opening rfl (by simp)

theorem isOpen_of_collecting {suite : DiscoverySuite}
    (collecting : suite.status = .collecting) : suite.isOpen = true := by
  simp [DiscoverySuite.isOpen, collecting]

theorem works_restoreScenarios {suiteId : String}
    {scenarios : List DiscoveryScenario} :
    Works service call index (service.restoreScenarios suiteId scenarios) []
      store Left := by
  refine works_bind works_get ?_
  rintro suite past store ⟨-, found⟩
  refine works_bind (Q := fun _ past => Loads past suite ∧
    suite.status = .collecting ∧ suite.scenarios = [])
    (works_demand fun accepted => ?_) ?_
  · simp only [Bool.and_eq_true, decide_eq_true_eq, List.isEmpty_iff]
      at accepted
    exact ⟨⟨found, isOpen_of_collecting accepted.1⟩, accepted⟩
  · rintro _ past store ⟨loads, collecting, empty⟩
    dsimp only
    split
    next => exact works_refuse
    next primary _ =>
      refine works_bind (Q := fun _ past => Loads past suite)
        (works_demand fun _ => loads) ?_
      rintro _ past store loads
      refine works_bind (Q := fun _ past => Loads past suite)
        (works_attempt fun _ _ => loads) ?_
      rintro _ past store loads
      refine works_store ?_ (by simp [Left])
      exact .restored scenarios loads collecting empty

theorem works_addScenario {suiteId goal : String} {kind : ScenarioKind}
    {inputs : Fields} {code description : Option String}
    {maxSteps timeout : Nat} :
    Works service call index
      (DiscoverySuiteService.addScenario suiteId kind goal inputs code
        description maxSteps timeout) [] store
      fun saved past => Left saved past ∧ saved.suiteId = suiteId ∧
        ∃ scenario ∈ saved.scenarios, scenario.kind = kind ∧
          scenario.goal = goal ∧ scenario.inputs = inputs := by
  refine works_bind works_get ?_
  rintro suite past store ⟨named, found⟩
  dsimp only
  split
  next => exact works_refuse
  next primary _ =>
    refine works_bind (Q := fun _ past => Loads past suite)
      (works_demand fun accepts => ⟨found, accepts⟩) ?_
    rintro _ past store loads
    refine works_bind (Q := fun _ past => Loads past suite)
      (works_demand fun _ => loads) ?_
    rintro _ past store loads
    refine works_bind (Q := fun _ past => Loads past suite)
      (works_discover fun _ => loads.append _) ?_
    rintro result past store loads
    refine works_bind (Q := fun scenario past => Loads past suite ∧
      scenario.kind = kind ∧ scenario.goal = goal ∧ scenario.inputs = inputs)
      (works_attempt fun scenario accepted => ⟨loads, ?_⟩) ?_
    · unfold DiscoveryScenario.make at accepted
      simp only [check_bind_eq_ok] at accepted
      obtain ⟨-, -, same⟩ := accepted
      cases same
      exact ⟨rfl, rfl, rfl⟩
    · rintro scenario past store ⟨loads, fields⟩
      refine works_bind (Q := fun _ past => Loads past suite)
        (works_demand fun _ => loads) ?_
      rintro _ past store loads
      refine works_store (.added scenario loads) ?_
      exact ⟨by simp [Left], named, scenario, by simp, fields⟩

theorem works_validate {suiteId tenant : String} {inputs : Fields}
    (called : call = .validate suiteId tenant inputs) :
    Works service call index (service.validate suiteId tenant inputs) [] store
      Left := by
  refine works_bind works_get ?_
  rintro suite past store ⟨named, found⟩
  refine works_bind (Q := fun _ past => Loads past suite)
    (works_demand fun accepts => ⟨found, accepts⟩) ?_
  rintro _ past store loads
  split
  next => exact works_refuse
  next primary succeeded =>
    refine works_bind (Q := fun _ past => Loads past suite)
      (works_assertApplicationTarget loads fun _ => loads.append _) ?_
    rintro _ past store loads
    refine works_bind (Q := fun artifact past => Loads past suite ∧
      Tests service suite artifact)
      (works_attempt fun artifact accepted =>
        ⟨loads, primary, succeeded, accepted⟩) ?_
    rintro artifact past store ⟨loads, tests⟩
    refine works_bind (Q := fun _ past => Loads past suite)
      (works_demand fun _ => loads) ?_
    rintro _ past store loads
    refine works_replays loads ?_
    intro past store loads verified
    refine works_bind (Q := fun extended past' => past' = past ∧
      service.withTenant artifact tenant = .ok extended)
      (works_attempt fun extended accepted => ⟨rfl, accepted⟩) ?_
    rintro extended past' store' ⟨rfl, accepted⟩
    subst suiteId
    refine works_store ?_ (by simp [Left])
    exact .validated loads tests called verified accepted

theorem suiteLaw_publishNext {artifact : CapabilityArtifact}
    {answer : PublicationAnswer} {after : SuiteStore}
    (happens : suiteLaw index past store ⟨.publishNext artifact, answer⟩
      after) :
    (∀ record, answer.result = .ok record → answer.published = true ∧
      ∃ version contentHash,
        record.artifact = artifact.restamped version contentHash) ∧
    after = store := happens

/-- A publication that returns has restamped the artifact. -/
theorem works_publish {suite : DiscoverySuite} {artifact : CapabilityArtifact}
    (loads : Loads past suite) (tests : Tests service suite artifact)
    (called : call = .finalize suite.suiteId) :
    Works service call index (DiscoverySuiteService.publish suite artifact)
      past store fun record past' =>
        (∃ event, past' = past ++ [event]) ∧ ∃ version contentHash,
          record.artifact = artifact.restamped version contentHash := by
  refine keeps_tryCatch (Q := fun error _ past' _ =>
    Loads past' suite) ?_ ?_
  · refine keeps_invoke fun before answer final keyed _ happens => ?_
    obtain ⟨restamps, rfl⟩ :=
      @suiteLaw_publishNext index past before artifact answer final happens
    refine ⟨⟨keyed, fun _ _ => trivial, suite, loads, called⟩, ?_, ?_⟩
    · intro record returned
      exact ⟨⟨_, rfl⟩, (restamps record returned).2⟩
    · intro error failed
      exact loads.append _
  · rintro error _ past' store' loads'
    refine keeps_ite ?_ ?_
    · intro
      refine works_bind (Q := fun _ _ => True) ?_ ?_
      · refine works_store ?_ trivial
        exact .held loads' tests called (by simp)
      · intro _ _ _ _
        exact works_refuse
    · intro
      exact keeps_throw trivial

theorem works_finalize {suiteId : String} (called : call = .finalize suiteId) :
    Works service call index (service.finalize suiteId) [] store Left := by
  refine works_bind works_get ?_
  rintro suite past store ⟨named, found⟩
  refine works_bind (Q := fun _ past => Loads past suite)
    (works_demand fun accepts => ⟨found, accepts⟩) ?_
  rintro _ past store loads
  subst suiteId
  split
  next => exact works_refuse
  next primary succeeded =>
    refine works_bind (Q := fun artifact past => Loads past suite ∧
      Tests service suite artifact)
      (works_attempt fun artifact accepted =>
        ⟨loads, primary, succeeded, accepted⟩) ?_
    rintro artifact past store ⟨loads, tests⟩
    refine keeps_ite ?_ ?_
    · intro
      refine works_bind (Q := fun _ _ => True) ?_ ?_
      · refine works_store ?_ trivial
        exact .held loads tests called (by simp)
      · intro _ _ _ _
        exact works_refuse
    · intro
      refine works_bind (Q := fun _ past => Loads past suite)
        (works_demand fun _ => loads) ?_
      rintro _ past store loads
      refine works_replays loads ?_
      intro past store loads verified
      refine works_bind (works_publish loads tests called) ?_
      rintro record past' store' ⟨⟨event, rfl⟩, version, contentHash, same⟩
      refine works_store ?_ (by simp [Left])
      rw [same]
      exact .published (loads.append _) tests called
        (verified.append _)

/-- Every call is safe beside any others. -/
theorem safe_suiteCall (service : DiscoverySuiteService) (index : Nat)
    (call : SuiteCall) (store : SuiteStore) :
    Safe suiteShared index (SuitePromise service call)
      (fun result past _ => SuiteReturned call result.1 past)
      (call.program service) [] store := by
  have plain : ∀ {body : SuiteCode DiscoverySuite},
      (∀ suiteId kind goal inputs code description maxSteps timeout,
        call ≠ .addScenario suiteId kind goal inputs code description maxSteps
          timeout) →
      Works service call index body [] store Left →
      Safe suiteShared index (SuitePromise service call)
        (fun result past _ => SuiteReturned call result.1 past)
        (body.run.run ()) [] store := by
    intro body other works
    refine Safe.weaken works ?_
    rintro ⟨result, _⟩ past state left saved same
    cases same
    exact ⟨left, fun _ _ _ _ _ _ _ _ called => (other _ _ _ _ _ _ _ _ called).elim⟩
  cases call with
  | create => exact plain nofun works_create
  | fromPublished => exact plain nofun works_fromPublished
  | restoreScenarios => exact plain nofun works_restoreScenarios
  | validate => exact plain nofun (works_validate rfl)
  | finalize => exact plain nofun (works_finalize rfl)
  | addScenario suiteId kind goal inputs code description maxSteps timeout =>
      refine Safe.weaken (@works_addScenario service _ index store suiteId goal
        kind inputs code description maxSteps timeout) ?_
      rintro ⟨result, _⟩ past state left saved same
      cases same
      refine ⟨left.1, ?_⟩
      intro _ _ _ _ _ _ _ _ called
      cases called
      exact left.2

end ReplayForge.Suites

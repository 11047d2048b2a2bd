import ReplayForge.Suites.Service

/-!
# What the suite operations store

`Saving` says what a stored record is in terms of the events the operation has
seen: the suite it read and the replays the validator answered.  Every
operation keeps to it, whatever the others do meanwhile.
-/

namespace ReplayForge.Suites

open Effect

/-- The suite an operation works on; none when it opens a new one. -/
def suiteRead : List SuiteEvent → Option DiscoverySuite
  | ⟨.get _, found⟩ :: _ => found
  | _ => none

/-- A version of the registry was published, by a call that returned or
raised. -/
def isPublication : SuiteEvent → Bool
  | ⟨.publishNext _, answer⟩ => PublicationAnswer.published answer
  | _ => false

/-- The validator verified a tenant for some inputs and for every scenario of
the suite. -/
structure Verified (past : List SuiteEvent) (artifact : CapabilityArtifact)
    (tenant : String) (inputs : Fields) (scenarios : List DiscoveryScenario) :
    Prop where
  primary : ∃ proof, ⟨.validator artifact tenant inputs, .ok proof⟩ ∈ past ∧
    proof.verifies none = true
  scenarios : ∀ scenario ∈ scenarios, ∃ proof,
    ⟨.validator artifact tenant scenario.inputs, .ok proof⟩ ∈ past ∧
      proof.verifies (some scenario) = true

/-- The suite an operation has read, with the primary result it found there. -/
structure Loads (past : List SuiteEvent) (suite : DiscoverySuite) : Prop where
  found : suiteRead past = some suite
  accepts : suite.isOpen = true

/-- The artifact an operation on a suite validates. -/
def Tests (service : DiscoverySuiteService) (suite : DiscoverySuite)
    (artifact : CapabilityArtifact) : Prop :=
  ∃ primary, suite.primary.success? = some primary ∧
    suite.candidate service.host primary = .ok artifact

inductive Saving (service : DiscoverySuiteService) (call : SuiteCall)
    (past : List SuiteEvent) : DiscoverySuite → Prop where
  | opened {saved : DiscoverySuite} :
      suiteRead past = none → saved.artifact = none →
      saved.status ≠ .published → Saving service call past saved
  | restored {suite : DiscoverySuite} (scenarios : List DiscoveryScenario) :
      Loads past suite → suite.status = .collecting → suite.scenarios = [] →
      Saving service call past
        { suite with scenarios := scenarios, artifact := none }
  | added {suite : DiscoverySuite} (scenario : DiscoveryScenario) :
      Loads past suite →
      Saving service call past { suite with
        scenarios := suite.scenarios ++ [scenario]
        artifact := none
        status := .collecting }
  | refused {suite : DiscoverySuite}
      (failure : CompatibilityValidationFailure) :
      Loads past suite →
      Saving service call past { suite with
        validationFailures := suite.validationFailures ++ [failure] }
  | held {suite : DiscoverySuite} {artifact : CapabilityArtifact}
      {status : DiscoverySuiteStatus} :
      Loads past suite → Tests service suite artifact →
      call = .finalize suite.suiteId → status ≠ .published →
      Saving service call past { suite with
        artifact := some artifact
        status := status }
  | validated {suite : DiscoverySuite} {artifact extended : CapabilityArtifact}
      {tenant : String} {inputs : Fields} :
      Loads past suite → Tests service suite artifact →
      call = .validate suite.suiteId tenant inputs →
      Verified past artifact tenant inputs suite.scenarios →
      service.withTenant artifact tenant = .ok extended →
      Saving service call past { suite with
        artifact := some extended
        status := .validated }
  | published {suite : DiscoverySuite} {artifact : CapabilityArtifact}
      {version : String} {contentHash : Option String} :
      Loads past suite → Tests service suite artifact →
      call = .finalize suite.suiteId →
      Verified past artifact suite.tenant suite.primaryInputs
        suite.scenarios →
      Saving service call past { suite with
        artifact := some (artifact.restamped version contentHash)
        status := .published
        publishedVersion := some version }

/-- A version is published for the open suite that was read. -/
def Publishes (call : SuiteCall) (past : List SuiteEvent) : Prop :=
  ∃ suite, Loads past suite ∧ call = .finalize suite.suiteId

/-- What a step of a call promises, by what the call has seen. -/
def SuitePromise (service : DiscoverySuiteService) (call : SuiteCall) :
    Promise SuiteSig SuiteStore
  | past, _, ⟨.save saved, _⟩, _ => Saving service call past saved
  | past, _, ⟨.publishNext _, _⟩, _ => Publishes call past
  | _, _, _, _ => True

/-- Every record is stored under its own identifier. -/
def Keyed (store : SuiteStore) : Prop :=
  ∀ suiteId suite, store.get? suiteId = some suite → suite.suiteId = suiteId

/-- Nothing is assumed of the other operations but that they store records
under their identifiers. -/
def suiteShared : Shared SuiteSig SuiteStore where
  law := suiteLaw
  valid := Keyed
  rely _ _ _ := True
  refl _ _ := trivial
  trans _ _ := trivial

/-- What the caller of an operation learns. -/
def SuiteReturned (call : SuiteCall) (result : Except Raised DiscoverySuite)
    (past : List SuiteEvent) : Prop :=
  ∀ saved, result = .ok saved → ⟨.save saved, ()⟩ ∈ past ∧
    ∀ suiteId kind goal inputs code description maxSteps timeout,
      call = .addScenario suiteId kind goal inputs code description maxSteps
        timeout →
      saved.suiteId = suiteId ∧ ∃ scenario ∈ saved.scenarios,
        scenario.kind = kind ∧ scenario.goal = goal ∧
          scenario.inputs = inputs

theorem keyed_set {store : SuiteStore} (keyed : Keyed store)
    (suite : DiscoverySuite) : Keyed (store.set suite.suiteId suite) := by
  intro suiteId stored found
  rw [Dict.get?_set] at found
  split at found
  next same =>
    cases found
    exact same.symm
  next => exact keyed suiteId stored found

theorem suiteRead_append {past more : List SuiteEvent} {suite : DiscoverySuite}
    (found : suiteRead past = some suite) :
    suiteRead (past ++ more) = some suite := by
  cases past with
  | nil => cases found
  | cons event rest =>
      obtain ⟨op, answer⟩ := event
      cases op with
      | get suiteId => exact found
      | _ => cases found

theorem Loads.append {past : List SuiteEvent} {suite : DiscoverySuite}
    (loads : Loads past suite) (more : List SuiteEvent) :
    Loads (past ++ more) suite :=
  ⟨suiteRead_append loads.found, loads.accepts⟩

theorem Verified.append {past : List SuiteEvent} {artifact : CapabilityArtifact}
    {tenant : String} {inputs : Fields} {scenarios : List DiscoveryScenario}
    (verified : Verified past artifact tenant inputs scenarios)
    (more : List SuiteEvent) :
    Verified (past ++ more) artifact tenant inputs scenarios := by
  constructor
  · obtain ⟨proof, member, holds⟩ := verified.primary
    exact ⟨proof, List.mem_append_left _ member, holds⟩
  · intro scenario declared
    obtain ⟨proof, member, holds⟩ := verified.scenarios scenario declared
    exact ⟨proof, List.mem_append_left _ member, holds⟩

/-- An operation about to open a suite. -/
def Opening (past : List SuiteEvent) : Prop :=
  ∀ event ∈ past, ∀ suiteId, event.op ≠ .get suiteId

theorem Opening.snoc {past : List SuiteEvent} {event : SuiteEvent}
    (opening : Opening past) (other : ∀ suiteId, event.op ≠ .get suiteId) :
    Opening (past ++ [event]) := by
  intro earlier member
  rcases List.mem_append.mp member with early | last
  · exact opening earlier early
  · cases List.mem_singleton.mp last
    exact other

theorem Opening.suiteRead_eq {past : List SuiteEvent}
    (opening : Opening past) : suiteRead past = none := by
  cases past with
  | nil => rfl
  | cons event rest =>
      obtain ⟨op, answer⟩ := event
      cases op with
      | get suiteId =>
          exact absurd rfl
            (opening _ List.mem_cons_self suiteId)
      | _ => rfl

section Operations

variable {service : DiscoverySuiteService} {call : SuiteCall} {index : Nat}
  {past : List SuiteEvent} {store : SuiteStore} {α : Type}

/-- A procedure of a call, with what holds when it returns. -/
abbrev Works (service : DiscoverySuiteService) (call : SuiteCall) (index : Nat)
    (body : SuiteCode α) (past : List SuiteEvent) (store : SuiteStore)
    (after : α → List SuiteEvent → Prop) : Prop :=
  Keeps suiteShared index (SuitePromise service call) body () past store
    (fun value _ past _ => after value past) fun _ _ _ _ => True

/-- The operations that neither store nor publish. -/
def asks : SuiteOp → Bool
  | .save _ | .publishNext _ => false
  | _ => true

theorem suiteLaw_asks {op : SuiteOp} {answer : op.Result} {after : SuiteStore}
    (asking : asks op = true)
    (happens : suiteLaw index past store ⟨op, answer⟩ after) :
    after = store := by
  cases op with
  | newId => exact happens.2
  | get suiteId => exact happens.2
  | save suite => cases asking
  | publishNext artifact => cases asking
  | _ => exact happens

theorem suitePromise_asks {op : SuiteOp} {answer : op.Result}
    {after : SuiteStore} (asking : asks op = true) :
    SuitePromise service call past store ⟨op, answer⟩ after := by
  cases op with
  | save suite => cases asking
  | publishNext artifact => cases asking
  | _ => trivial

theorem works_ask {op : SuiteOp} {read : op.Result → Except Raised α}
    {after : α → List SuiteEvent → Prop} (asking : asks op = true)
    (returned : ∀ answer value, read answer = .ok value →
      after value (past ++ [⟨op, answer⟩])) :
    Works service call index
      (@invoke SuiteSig Unit Raised α op read) past store after := by
  refine keeps_invoke fun before answer final keyed _ happens => ?_
  refine ⟨⟨?_, fun _ _ => trivial, suitePromise_asks asking⟩,
    fun value read => returned answer value read, fun _ _ => trivial⟩
  rw [suiteLaw_asks asking happens]
  exact keyed

theorem works_demand {check : Bool} {message : String}
    {after : Unit → List SuiteEvent → Prop}
    (returned : check = true → after () past) :
    Works service call index (demand check message) past store after := by
  refine keeps_attempt ?_ fun _ _ => trivial
  intro value accepted
  cases check with
  | true => exact returned rfl
  | false => cases accepted

theorem works_attempt {value : Except Raised α}
    {after : α → List SuiteEvent → Prop}
    (returned : ∀ stored, value = .ok stored → after stored past) :
    Works service call index (attempt value) past store after :=
  keeps_attempt returned fun _ _ => trivial

theorem works_refuse {message : String} {after : α → List SuiteEvent → Prop} :
    Works service call index (refuse message) past store after :=
  keeps_throw trivial

/-- `newId` asks, without an exception to raise. -/
theorem works_newId {after : String → List SuiteEvent → Prop}
    (returned : ∀ suiteId, after suiteId (past ++ [⟨.newId, suiteId⟩])) :
    Works service call index
      (@perform SuiteSig Unit Raised .newId) past store after := by
  refine keeps_perform fun before answer final keyed _ happens => ?_
  refine ⟨⟨?_, fun _ _ => trivial, trivial⟩, returned answer⟩
  rw [happens.2]
  exact keyed

theorem works_store {suite : DiscoverySuite}
    {after : DiscoverySuite → List SuiteEvent → Prop}
    (saving : Saving service call past suite)
    (returned : after suite (past ++ [⟨.save suite, ()⟩])) :
    Works service call index (DiscoverySuiteService.store suite) past store
      after := by
  refine keeps_bind (Q := fun made _ past' _ =>
      made = suite ∧ past' = past) ?_ ?_
  · apply keeps_attempt
    · intro made accepted
      exact ⟨(DiscoverySuite.make_eq_ok.mp accepted).2, rfl⟩
    · exact fun _ _ => trivial
  · rintro made _ past' store' ⟨rfl, rfl⟩
    refine keeps_bind (Q := fun _ _ past'' _ =>
      past'' = past' ++ [⟨.save made, ()⟩]) ?_ ?_
    · refine keeps_perform fun before answer final keyed _ happens => ?_
      refine ⟨⟨?_, fun _ _ => trivial, saving⟩, rfl⟩
      cases happens
      exact keyed_set keyed made
    · rintro _ _ past'' store'' rfl
      exact keeps_pure returned

theorem works_bind {β : Type} {body : SuiteCode β} {next : β → SuiteCode α}
    {Q : β → List SuiteEvent → Prop} {after : α → List SuiteEvent → Prop}
    (first : Works service call index body past store Q)
    (rest : ∀ value past store, Q value past →
      Works service call index (next value) past store after) :
    Works service call index (body >>= next) past store after :=
  keeps_bind first fun value _ past store here => rest value past store here

theorem works_get {suiteId : String} :
    Works service call index (DiscoverySuiteService.get suiteId) [] store
      fun suite past => suite.suiteId = suiteId ∧
        suiteRead past = some suite := by
  refine keeps_bind (Q := fun found _ past _ =>
      past = [⟨.get suiteId, found⟩] ∧
        ∀ suite, found = some suite → suite.suiteId = suiteId) ?_ ?_
  · refine keeps_perform fun before answer final keyed _ happens => ?_
    obtain ⟨rfl, rfl⟩ := happens
    exact ⟨⟨keyed, fun _ _ => trivial, trivial⟩, rfl, keyed suiteId⟩
  · rintro found _ past store ⟨rfl, named⟩
    cases found with
    | none => exact keeps_throw trivial
    | some suite =>
        exact keeps_pure ⟨named suite rfl, rfl⟩

theorem works_replay {artifact : CapabilityArtifact} {tenant : String}
    {inputs : Fields} {after : ReplayValidation → List SuiteEvent → Prop}
    (returned : ∀ proof, after proof
      (past ++ [⟨.validator artifact tenant inputs, .ok proof⟩])) :
    Works service call index
      (DiscoverySuiteService.replay artifact tenant inputs) past store after := by
  refine works_ask rfl ?_
  intro answer proof read
  cases read
  exact returned proof

theorem works_discover {request : DiscoverRequest}
    {after : DiscoveryResult → List SuiteEvent → Prop}
    (returned : ∀ result, after result
      (past ++ [⟨.discover request, .ok result⟩])) :
    Works service call index (DiscoverySuiteService.discover request) past
      store after := by
  refine works_ask rfl ?_
  intro answer result read
  cases read
  exact returned result

/-- Looking the target up keeps what a step that asks keeps. -/
theorem works_assertApplicationTarget {family tenant entryPoint : String}
    {holds : List SuiteEvent → Prop} (now : holds past)
    (kept : ∀ answer, holds
      (past ++ [⟨.resolve family tenant entryPoint, answer⟩])) :
    Works service call index
      (service.assertApplicationTarget family tenant entryPoint) past store
      fun _ past => holds past := by
  unfold DiscoverySuiteService.assertApplicationTarget
  refine keeps_ite ?_ ?_
  · intro
    exact works_ask rfl fun answer _ _ => kept answer
  · intro
    exact keeps_pure now

theorem works_demandRecorded {suite : DiscoverySuite}
    {tenant reason message : String} {check : Bool}
    {after : Unit → List SuiteEvent → Prop} (loads : Loads past suite)
    (returned : check = true → after () past) :
    Works service call index
      (DiscoverySuiteService.demandRecorded suite tenant reason check message)
      past store after := by
  unfold DiscoverySuiteService.demandRecorded
  refine keeps_ite ?_ ?_
  · intro holds
    exact keeps_pure (returned holds)
  · intro
    refine works_bind (Q := fun _ _ => True) ?_ ?_
    · refine works_bind (Q := fun _ past' => past' = past) ?_ ?_
      · exact works_attempt fun _ _ => rfl
      · rintro failure past' store' rfl
        refine works_bind (Q := fun _ _ => True) ?_ ?_
        · exact works_store (.refused failure loads) trivial
        · intro _ _ _ _
          exact keeps_pure trivial
    · intro _ _ _ _
      exact works_refuse

/-- After the scenario replays every scenario of the list has its proof. -/
theorem works_validateScenarios {suite : DiscoverySuite}
    {artifact : CapabilityArtifact} {tenant : String}
    (scenarios : List DiscoveryScenario) (loads : Loads past suite) :
    Works service call index
      (DiscoverySuiteService.validateScenarios suite artifact tenant scenarios)
      past store fun _ past' => Loads past' suite ∧ past <+: past' ∧
        ∀ scenario ∈ scenarios, ∃ proof,
          ⟨.validator artifact tenant scenario.inputs, .ok proof⟩ ∈ past' ∧
            proof.verifies (some scenario) = true := by
  induction scenarios generalizing past store with
  | nil => exact keeps_pure ⟨loads, List.prefix_rfl, by simp⟩
  | cons scenario rest ih =>
      refine works_bind (Q := fun proof past' => past' =
        past ++ [⟨.validator artifact tenant scenario.inputs, .ok proof⟩])
        (works_replay fun _ => rfl) ?_
      rintro proof past' store' rfl
      have loads' : Loads (past ++
          [⟨.validator artifact tenant scenario.inputs, .ok proof⟩]) suite :=
        loads.append _
      refine works_bind (Q := fun _ past' => past' =
          past ++ [⟨.validator artifact tenant scenario.inputs, .ok proof⟩] ∧
          proof.verifies (some scenario) = true)
        (works_demandRecorded loads' fun holds => ⟨rfl, holds⟩) ?_
      rintro _ past' store'' ⟨rfl, holds⟩
      refine (ih loads').weaken ?_ fun _ _ _ _ _ => trivial
      rintro _ _ past'' _ ⟨loads'', longer, proofs⟩
      refine ⟨loads'', (List.prefix_append _ _).trans longer, ?_⟩
      intro other member
      rcases List.mem_cons.mp member with rfl | later
      · refine ⟨proof, longer.subset ?_, holds⟩
        simp
      · exact proofs other later

/-- The replay of the happy path and those of the scenarios. -/
theorem Verified.of_replays {suite : DiscoverySuite}
    {artifact : CapabilityArtifact} {tenant : String} {inputs : Fields}
    {proof : ReplayValidation} {past past' : List SuiteEvent}
    (holds : proof.verifies none = true)
    (longer : past ++ [⟨.validator artifact tenant inputs, .ok proof⟩] <+:
      past')
    (proofs : ∀ scenario ∈ suite.scenarios, ∃ proof,
      ⟨.validator artifact tenant scenario.inputs, .ok proof⟩ ∈ past' ∧
        proof.verifies (some scenario) = true) :
    Verified past' artifact tenant inputs suite.scenarios := by
  refine ⟨⟨proof, longer.subset ?_, holds⟩, proofs⟩
  simp

/-- The replays that every validation starts with. -/
theorem works_replays {suite : DiscoverySuite} {artifact : CapabilityArtifact}
    {tenant reason message : String} {inputs : Fields}
    {next : SuiteCode α} {after : α → List SuiteEvent → Prop}
    (loads : Loads past suite)
    (rest : ∀ past store, Loads past suite →
      Verified past artifact tenant inputs suite.scenarios →
      Works service call index next past store after) :
    Works service call index (do
      let proof ← DiscoverySuiteService.replay artifact tenant inputs
      DiscoverySuiteService.demandRecorded suite tenant reason
        (proof.verifies none) message
      DiscoverySuiteService.validateScenarios suite artifact tenant
        suite.scenarios
      next) past store after := by
  refine works_bind (Q := fun proof past' =>
    past' = past ++ [⟨.validator artifact tenant inputs, .ok proof⟩])
    (works_replay fun _ => rfl) ?_
  rintro proof past' store' rfl
  have loads' : Loads
      (past ++ [⟨.validator artifact tenant inputs, .ok proof⟩]) suite :=
    loads.append _
  refine works_bind (Q := fun _ past' =>
      past' = past ++ [⟨.validator artifact tenant inputs, .ok proof⟩] ∧
      proof.verifies none = true)
    (works_demandRecorded loads' fun holds => ⟨rfl, holds⟩) ?_
  rintro _ past' store'' ⟨rfl, holds⟩
  refine works_bind (works_validateScenarios suite.scenarios loads') ?_
  rintro _ past'' store'' ⟨loads'', longer, proofs⟩
  exact rest past'' store'' loads'' (.of_replays holds longer proofs)

end Operations

end ReplayForge.Suites

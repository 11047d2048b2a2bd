import ReplayForge.Suites.Environment
import ReplayForge.Suites.Operations

/-!
# Published variants are proven

A published artifact supports the variants of the primary artifact and those
the validator has verified since.  The proofs of a validated variant survive
in every record that keeps the artifact; those of an inherited variant are
nobody's task.
-/

namespace ReplayForge.Suites

open Effect

abbrev SuiteMove := Move SuiteSig SuiteStore SuiteCall

abbrev SuiteConfig :=
  Config SuiteSig SuiteStore SuiteCall (Except Raised DiscoverySuite × Unit)

/-- Calls of the service in any order and interleaving, from an empty
repository. -/
abbrev SuiteRun (service : DiscoverySuiteService) (moves : List SuiteMove)
    (config : SuiteConfig) : Prop :=
  Interleaves suiteLaw (SuiteCall.program service) [] moves config

/-- The validator has verified a tenant for the primary inputs, or for those of
a validation call, and for every scenario of the suite, on the artifact as it
is apart from its version, hash and variants. -/
def Proven (moves : List SuiteMove) (suite : DiscoverySuite)
    (artifact : CapabilityArtifact) (tenant : String) : Prop :=
  ∃ tested, tested.program = artifact.program ∧
    ∃ move ∈ moves, ∃ inputs, (inputs = suite.primaryInputs ∨
        move.call = .validate suite.suiteId tenant inputs) ∧
      Verified move.past tested tenant inputs suite.scenarios

/-- A validation call for the tenant has stored the suite as validated, with
the scenarios it has now, without recording a failure. -/
def Revalidated (moves : List SuiteMove) (suite : DiscoverySuite)
    (tenant : String) : Prop :=
  ∃ move ∈ moves, ∃ inputs read saved,
    move.call = .validate suite.suiteId tenant inputs ∧
    move.event = ⟨.save saved, ()⟩ ∧ saved.status = .validated ∧
    suiteRead move.past = some read ∧
    saved.validationFailures = read.validationFailures ∧
    saved.primary = suite.primary ∧ saved.scenarios = suite.scenarios

/-- The artifact is the merge of the suite's scenarios, apart from its version,
hash and variants. -/
def Based (service : DiscoverySuiteService) (suite : DiscoverySuite)
    (artifact : CapabilityArtifact) : Prop :=
  ∃ primary merged, suite.primary.success? = some primary ∧
    mergeScenarios service.host primary.artifact suite.scenarios =
      .ok merged ∧
    artifact.program = merged.program

/-- Every variant of an artifact is inherited or proven. -/
def VariantsProven (moves : List SuiteMove) (suite : DiscoverySuite)
    (artifact : CapabilityArtifact) : Prop :=
  ∀ tenant ∈ artifact.compatibility.supportedVariants,
    tenant ∈ suite.primaryVariants ∨ Proven moves suite artifact tenant

/-- What a record says of its artifact. -/
def Justified (service : DiscoverySuiteService) (moves : List SuiteMove)
    (suite : DiscoverySuite) : Prop :=
  ∀ artifact, suite.artifact = some artifact →
    Based service suite artifact ∧ VariantsProven moves suite artifact

section Records

variable {service : DiscoverySuiteService} {moves more : List SuiteMove}
  {suite : DiscoverySuite} {artifact other : CapabilityArtifact}
  {tenant : String}

theorem Proven.transport (proven : Proven moves suite artifact tenant)
    (kept : moves ⊆ more) (same : artifact.program = other.program) :
    Proven more suite other tenant := by
  obtain ⟨tested, like, move, member, rest⟩ := proven
  exact ⟨tested, like.trans same, move, kept member, rest⟩

theorem Justified.mono (justified : Justified service moves suite)
    (kept : moves ⊆ more) : Justified service more suite := by
  intro artifact held
  obtain ⟨based, proven⟩ := justified artifact held
  refine ⟨based, fun tenant member => ?_⟩
  exact (proven tenant member).imp_right fun found => found.transport kept rfl

/-- The artifact an operation tests is as justified as the record. -/
theorem Justified.tests (justified : Justified service moves suite)
    (tests : Tests service suite artifact) :
    Based service suite artifact ∧ VariantsProven moves suite artifact := by
  obtain ⟨primary, succeeded, accepted⟩ := tests
  unfold DiscoverySuite.candidate at accepted
  split at accepted
  next held found =>
    cases accepted
    exact justified artifact found
  next =>
    cases merging :
        mergeScenarios service.host primary.artifact suite.scenarios with
    | error error =>
        rw [merging] at accepted
        cases accepted
    | ok merged =>
        rw [merging] at accepted
        cases accepted
        refine ⟨⟨primary, artifact, succeeded, merging, rfl⟩, ?_⟩
        intro tenant member
        left
        rw [supportedVariants_mergeScenarios merging] at member
        simpa [DiscoverySuite.primaryVariants, DiscoverySuite.draft,
          succeeded] using member

/-- Two artifacts for the same primary and scenarios are alike. -/
theorem Based.program_eq {later : DiscoverySuite}
    (based : Based service suite artifact) (based' : Based service later other)
    (primary : suite.primary = later.primary)
    (scenarios : suite.scenarios = later.scenarios) :
    artifact.program = other.program := by
  obtain ⟨first, merged, succeeded, merging, like⟩ := based
  obtain ⟨second, merged', succeeded', merging', like'⟩ := based'
  rw [primary, succeeded', Option.some.injEq] at succeeded
  subst succeeded
  rw [scenarios, merging'] at merging
  cases merging
  exact like.trans like'.symm

theorem withTenant_eq_ok {extended : CapabilityArtifact}
    (accepted : service.withTenant artifact tenant = .ok extended) :
    extended.program = artifact.program ∧
      ∀ other ∈ extended.compatibility.supportedVariants,
        other ∈ artifact.compatibility.supportedVariants ∨ other = tenant := by
  unfold DiscoverySuiteService.withTenant at accepted
  split at accepted
  next =>
    cases accepted
    exact ⟨rfl, fun _ => .inl⟩
  next =>
    obtain ⟨-, same⟩ := check_bind_eq_ok.mp accepted
    cases same
    exact ⟨rfl, fun _ => CapabilityArtifact.mem_supporting.mp⟩

/-- What a call stores is justified when what it read is. -/
theorem justified_of_saving {move : SuiteMove} {saved : DiscoverySuite}
    (saving : Saving service move.call move.past saved)
    (read : ∀ suite, suiteRead move.past = some suite →
      Justified service moves suite) :
    Justified service (moves ++ [move]) saved := by
  have kept : moves ⊆ moves ++ [move] := List.subset_append_left _ _
  have here : move ∈ moves ++ [move] := by simp
  intro artifact held
  cases saving with
  | opened _ empty =>
      rw [empty] at held
      cases held
  | restored => cases held
  | added => cases held
  | @refused suite failure loads =>
      exact (read suite loads.found).mono kept artifact held
  | @held suite tested status loads tests =>
      cases held
      obtain ⟨based, proven⟩ := (read suite loads.found).tests tests
      refine ⟨based, fun tenant member => ?_⟩
      exact (proven tenant member).imp_right fun found =>
        found.transport kept rfl
  | @validated suite tested extended tenant inputs loads tests called verified
      accepted =>
      cases held
      obtain ⟨based, proven⟩ := (read suite loads.found).tests tests
      obtain ⟨like, variants⟩ := withTenant_eq_ok accepted
      refine ⟨?_, fun other member => ?_⟩
      · obtain ⟨primary, merged, succeeded, merging, same⟩ := based
        exact ⟨primary, merged, succeeded, merging, like.trans same⟩
      · rcases variants other member with old | rfl
        · exact (proven other old).imp_right fun found =>
            found.transport kept like.symm
        · exact .inr ⟨tested, like.symm, move, here, inputs, .inr called,
            verified⟩
  | @published suite tested version contentHash loads tests _ verified =>
      cases held
      obtain ⟨based, proven⟩ := (read suite loads.found).tests tests
      refine ⟨based, fun tenant member => ?_⟩
      exact (proven tenant member).imp_right fun found =>
        found.transport kept rfl

end Records

section Runs

variable {service : DiscoverySuiteService} {moves : List SuiteMove}
  {config : SuiteConfig}

theorem keyed_nil : Keyed [] := by
  intro suiteId suite found
  cases found

theorem SuiteRun.sound (run : SuiteRun service moves config) :
    Interleaves.Sound suiteShared (SuitePromise service)
      (fun call result past _ => SuiteReturned call result.1 past) moves
      config :=
  Interleaves.sound run
    (fun index call state _ => safe_suiteCall service index call state)
    keyed_nil

/-- Every step of every run keeps its promise. -/
theorem SuiteRun.promised (run : SuiteRun service moves config) :
    ∀ move ∈ moves, SuitePromise service move.call move.past move.before
      move.event move.after := by
  intro move member
  exact (run.sound.moves move member).2.2.2.2

theorem SuiteRun.stores (run : SuiteRun service moves config)
    {move : SuiteMove} {saved : DiscoverySuite} (member : move ∈ moves)
    (saves : move.event = ⟨.save saved, ()⟩) :
    Saving service move.call move.past saved := by
  have promised := run.promised move member
  rw [saves] at promised
  exact promised

/-- Every record that is stored, was read or was ever saved is justified. -/
structure Accounted (service : DiscoverySuiteService) (moves : List SuiteMove)
    (config : SuiteConfig) : Prop where
  stored : ∀ suiteId suite, config.store.get? suiteId = some suite →
    Justified service moves suite
  read : ∀ index thread suite, config.threads index = some thread →
    suiteRead thread.past = some suite → Justified service moves suite
  used : ∀ move ∈ moves, ∀ suite, suiteRead move.past = some suite →
    Justified service moves suite
  saved : ∀ move ∈ moves, ∀ suite, move.event = ⟨.save suite, ()⟩ →
    Justified service moves suite

/-- A suite is read by the first event of an operation. -/
theorem suiteRead_snoc {past : List SuiteEvent} {event : SuiteEvent}
    {suite : DiscoverySuite} (found : suiteRead (past ++ [event]) = some suite) :
    suiteRead past = some suite ∨
      ∃ suiteId, event = ⟨.get suiteId, some suite⟩ := by
  cases past with
  | nil =>
      obtain ⟨op, answer⟩ := event
      cases op with
      | get suiteId =>
          cases found
          exact .inr ⟨suiteId, rfl⟩
      | _ => cases found
  | cons first rest =>
      obtain ⟨op, answer⟩ := first
      cases op with
      | get suiteId => exact .inl found
      | _ => cases found

theorem accounted (run : SuiteRun service moves config) :
    Accounted service moves config := by
  induction run with
  | start =>
      refine ⟨?_, ?_, fun _ member => ?_, fun _ member => ?_⟩
      · intro suiteId suite found
        cases found
      · intro index thread suite found
        cases found
      · cases member
      · cases member
  | @spawn moves config index call _ free ih =>
      refine ⟨ih.stored, ?_, ih.used, ih.saved⟩
      intro other thread suite found read
      rcases Config.put_cases found with ⟨rfl, rfl⟩ | ⟨-, earlier⟩
      · cases read
      · exact ih.read other thread suite earlier read
  | @step moves config index call past op next answer after reached found
      happens ih =>
      have run := Interleaves.step reached found happens
      have kept : moves ⊆ moves ++
          [⟨index, call, past, config.store, ⟨op, answer⟩, after⟩] :=
        List.subset_append_left _ _
      have known : ∀ suite, suiteRead past = some suite →
          Justified service moves suite :=
        fun suite read => ih.read index _ suite found read
      refine ⟨?_, ?_, ?_, ?_⟩
      · intro suiteId suite stored
        by_cases asking : asks op = true
        · rw [suiteLaw_asks asking happens] at stored
          exact (ih.stored suiteId suite stored).mono kept
        · cases op with
          | save saved =>
              cases happens
              rw [Dict.get?_set] at stored
              split at stored
              next =>
                cases stored
                exact justified_of_saving
                  (SuiteRun.stores run (by simp) rfl) known
              next => exact (ih.stored suiteId suite stored).mono kept
          | publishNext artifact =>
              rw [(suiteLaw_publishNext happens).2] at stored
              exact (ih.stored suiteId suite stored).mono kept
          | _ => exact (asking rfl).elim
      · intro other thread suite stored read
        rcases Config.put_cases stored with ⟨rfl, rfl⟩ | ⟨-, earlier⟩
        · rcases suiteRead_snoc read with earlier | ⟨suiteId, same⟩
          · exact (known suite earlier).mono kept
          · cases same
            obtain ⟨answered, -⟩ := happens
            exact (ih.stored suiteId suite answered.symm).mono kept
        · exact (ih.read other thread suite earlier read).mono kept
      · intro move member suite read
        rcases List.mem_append.mp member with early | last
        · exact (ih.used move early suite read).mono kept
        · cases List.mem_singleton.mp last
          exact (known suite read).mono kept
      · intro move member suite saves
        rcases List.mem_append.mp member with early | last
        · exact (ih.saved move early suite saves).mono kept
        · have member' := member
          cases List.mem_singleton.mp last
          exact justified_of_saving (SuiteRun.stores run member' saves)
            known

/-- A published record carries the proof for its own tenant. -/
theorem own_proof {call : SuiteCall} {past : List SuiteEvent}
    {saved : DiscoverySuite} {artifact : CapabilityArtifact}
    (saving : Saving service call past saved) (status : saved.status = .published)
    (held : saved.artifact = some artifact) :
    ∃ tested, tested.program = artifact.program ∧
      Verified past tested saved.tenant saved.primaryInputs saved.scenarios := by
  cases saving with
  | opened _ _ other => exact absurd status other
  | restored _ _ collecting =>
      rw [collecting] at status
      cases status
  | added => cases status
  | @refused suite failure loads =>
      have published : suite.status = .published := status
      have accepts := loads.accepts
      simp [DiscoverySuite.isOpen, published] at accepts
  | held _ _ _ other => exact absurd status other
  | validated => cases status
  | @published suite tested version contentHash loads tests _ verified =>
      cases held
      exact ⟨tested, rfl, verified⟩

/-- A validation call stores what it has proven. -/
theorem revalidated_proof {suiteId tenant : String} {inputs : Fields}
    {past : List SuiteEvent} {read saved : DiscoverySuite}
    (saving : Saving service (.validate suiteId tenant inputs) past saved)
    (status : saved.status = .validated) (found : suiteRead past = some read)
    (unfailed : saved.validationFailures = read.validationFailures) :
    ∃ tested, Tests service read tested ∧ saved.primary = read.primary ∧
      saved.scenarios = read.scenarios ∧
      Verified past tested tenant inputs read.scenarios := by
  cases saving with
  | opened unread =>
      rw [unread] at found
      cases found
  | restored _ _ collecting =>
      rw [collecting] at status
      cases status
  | added => cases status
  | refused failure loads =>
      rw [loads.found, Option.some.injEq] at found
      subst found
      simp at unfailed
  | held _ _ called => cases called
  | validated loads tests called verified =>
      rw [loads.found, Option.some.injEq] at found
      subst found
      cases called
      exact ⟨_, tests, rfl, rfl, verified⟩
  | published => cases status

theorem Revalidated.proven {early : List SuiteMove} {suite : DiscoverySuite}
    {artifact : CapabilityArtifact} {tenant : String}
    (run : SuiteRun service moves config)
    (revalidated : Revalidated early suite tenant) (kept : early ⊆ moves)
    (based : Based service suite artifact) :
    Proven moves suite artifact tenant := by
  obtain ⟨move, member, inputs, read, saved, called, saves, status, found,
    unfailed, primary, scenarios⟩ := revalidated
  have saving := (run.stores (kept member) saves)
  rw [called] at saving
  obtain ⟨tested, tests, primary', scenarios', verified⟩ :=
    revalidated_proof saving status found unfailed
  have justified := (accounted run).used move (kept member) read found
  obtain ⟨tested_based, -⟩ := justified.tests tests
  have like := tested_based.program_eq based (primary'.symm.trans primary)
    (scenarios'.symm.trans scenarios)
  rw [← scenarios', scenarios] at verified
  exact ⟨tested, like, move, kept member, inputs, .inr called, verified⟩

/-- In every run whose publications come after a validation of each inherited
variant, every variant of every published artifact is proven. -/
theorem published_variants_proven (run : SuiteRun service moves config)
    (revalidated : ∀ early move late saved, moves = early ++ move :: late →
      move.event = ⟨.save saved, ()⟩ → saved.status = .published →
      ∀ tenant ∈ saved.primaryVariants, tenant ≠ saved.tenant →
        Revalidated early saved tenant) :
    ∀ move ∈ moves, ∀ suite artifact, move.event = ⟨.save suite, ()⟩ →
      suite.status = .published → suite.artifact = some artifact →
      ∀ tenant ∈ artifact.compatibility.supportedVariants,
        Proven moves suite artifact tenant := by
  intro move member suite artifact saves status held tenant supported
  obtain ⟨based, variants⟩ :=
    (accounted run).saved move member suite saves artifact held
  rcases variants tenant supported with inherited | proven
  · by_cases own : tenant = suite.tenant
    · obtain ⟨tested, like, verified⟩ :=
        own_proof (run.stores member saves) status held
      subst own
      exact ⟨tested, like, move, member, suite.primaryInputs, .inl rfl,
        verified⟩
    · obtain ⟨early, late, split⟩ := List.append_of_mem member
      have earlier :=
        revalidated early move late suite split saves status tenant inherited own
      refine earlier.proven run ?_ based
      rw [split]
      exact List.subset_append_left _ _
  · exact proven

end Runs

/-- A suite opened from an artifact published for two tenants, and finalized
once the other tenant is validated too. -/
def Sample.finalized : Execution SuiteSig SuiteStore SuiteCall
    (Except Raised DiscoverySuite × Unit) :=
  Sample.suiteRun ["north", "south"]
    (Sample.turns 0 (.fromPublished "bank.pay" "1.0.0" "north" []) 4 ++
      Sample.turns 1 (.validate Sample.suiteId "south" []) 3 ++
      Sample.turns 2 (.finalize Sample.suiteId) 4)

/-- A suite opened from an artifact published for two tenants. -/
def Sample.seeded : Execution SuiteSig SuiteStore SuiteCall
    (Except Raised DiscoverySuite × Unit) :=
  Sample.suiteRun ["north", "south"]
    (Sample.turns 0 (.fromPublished "bank.pay" "1.0.0" "north" []) 4 ++
      Sample.turns 1 (.finalize Sample.suiteId) 4)

/-- The record a step stores as published for a variant. -/
def publishedFor (tenant : String) (move : SuiteMove) :
    Option (DiscoverySuite × CapabilityArtifact) :=
  match move.event with
  | ⟨.save suite, _⟩ =>
      match suite.status, suite.artifact with
      | .published, some artifact =>
          if tenant ∈ artifact.compatibility.supportedVariants then
            some (suite, artifact)
          else none
      | _, _ => none
  | _ => none

theorem exists_published {tenant : String} {moves : List SuiteMove}
    (published : (moves.findSome? (publishedFor tenant)).isSome = true) :
    ∃ move ∈ moves, ∃ suite artifact, move.event = ⟨.save suite, ()⟩ ∧
      suite.status = .published ∧ suite.artifact = some artifact ∧
      tenant ∈ artifact.compatibility.supportedVariants := by
  obtain ⟨⟨suite, artifact⟩, found⟩ := Option.isSome_iff_exists.mp published
  obtain ⟨move, member, matched⟩ := List.exists_of_findSome?_eq_some found
  unfold publishedFor at matched
  split at matched
  next stored _ event =>
    split at matched
    next kept status held =>
      split at matched
      next supported =>
        cases matched
        exact ⟨move, member, suite, artifact, event, status, held, supported⟩
      next => cases matched
    next => cases matched
  next => cases matched

/-- The step stores what a validation call for the tenant has proven of the
suite. -/
def revalidates (suite : DiscoverySuite) (tenant : String)
    (move : SuiteMove) : Bool :=
  match move.call, move.event, suiteRead move.past with
  | .validate suiteId asked _, ⟨.save saved, _⟩, some read =>
      suiteId = suite.suiteId && asked = tenant &&
        saved.status = .validated &&
        saved.validationFailures = read.validationFailures &&
        saved.primary = suite.primary && saved.scenarios = suite.scenarios
  | _, _, _ => false

theorem revalidated_of_revalidates {suite : DiscoverySuite} {tenant : String}
    {early : List SuiteMove}
    (found : early.any (revalidates suite tenant) = true) :
    Revalidated early suite tenant := by
  obtain ⟨move, member, holds⟩ := List.any_eq_true.mp found
  unfold revalidates at holds
  split at holds
  next suiteId asked inputs saved _ read called event was =>
    simp only [Bool.and_eq_true, decide_eq_true_eq] at holds
    obtain ⟨⟨⟨⟨⟨rfl, rfl⟩, status⟩, unfailed⟩, primary⟩, scenarios⟩ := holds
    exact ⟨move, member, inputs, read, saved, called, event, status, was,
      unfailed, primary, scenarios⟩
  next => cases holds

/-- A suite that the step stores as published has its inherited variants
validated by the steps before. -/
def publishesValidated (early : List SuiteMove) (move : SuiteMove) : Bool :=
  match move.event with
  | ⟨.save saved, _⟩ =>
      saved.status ≠ .published || saved.primaryVariants.all fun tenant =>
        tenant = saved.tenant || early.any (revalidates saved tenant)
  | _ => true

/-- What holds of every step and the steps before it. -/
theorem holds_at_split {α : Type} {holds : List α → α → Bool} {moves : List α}
    (all : (List.range moves.length).all (fun position =>
      (moves[position]?).all (holds (moves.take position))) = true)
    {early late : List α} {move : α} (split : moves = early ++ move :: late) :
    holds early move = true := by
  have here := List.all_eq_true.mp all early.length (by
    rw [List.mem_range, split]
    simp)
  simpa [split] using here

theorem finalized_proven : ∃ move ∈ Sample.finalized.moves,
    ∃ suite artifact, move.event = ⟨.save suite, ()⟩ ∧
      suite.status = .published ∧ suite.artifact = some artifact ∧
      suite.tenant = "north" ∧
      Proven Sample.finalized.moves suite artifact "south" := by
  have validated : (List.range Sample.finalized.moves.length).all
      (fun position => (Sample.finalized.moves[position]?).all
        (publishesValidated (Sample.finalized.moves.take position))) = true := by
    decide +kernel
  have own : Sample.finalized.moves.all (fun move => match move.event with
      | ⟨.save suite, _⟩ => suite.tenant = "north"
      | _ => true) = true := by
    decide +kernel
  obtain ⟨move, member, suite, artifact, event, status, held, supported⟩ :=
    exists_published (show (Sample.finalized.moves.findSome?
      (publishedFor "south")).isSome = true by decide +kernel)
  have north := List.all_eq_true.mp own move member
  rw [event] at north
  refine ⟨move, member, suite, artifact, event, status, held,
    of_decide_eq_true north, ?_⟩
  refine published_variants_proven (Execution.interleaves _) ?_ move member
    suite artifact event status held "south" supported
  intro early step late stored split saves published tenant inherited other
  have holds := holds_at_split validated split
  unfold publishesValidated at holds
  rw [saves] at holds
  simp only [published, ne_eq, not_true_eq_false, decide_false, Bool.false_or]
    at holds
  have proven := List.all_eq_true.mp holds tenant inherited
  rw [Bool.or_eq_true, decide_eq_true_eq] at proven
  exact revalidated_of_revalidates (proven.resolve_left other)

/-- No validator was asked about the tenant in the events seen by a step. -/
def untested (tenant : String) (move : SuiteMove) : Bool :=
  move.past.all fun event => match event.op with
    | .validator _ asked _ => asked ≠ tenant
    | _ => true

/-- An inherited variant is published without a proof. -/
theorem inherited_variant_unproven :
    ¬ ∀ (service : DiscoverySuiteService) (moves : List SuiteMove)
      (config : SuiteConfig), SuiteRun service moves config →
      ∀ move ∈ moves, ∀ suite artifact, move.event = ⟨.save suite, ()⟩ →
        suite.status = .published → suite.artifact = some artifact →
        ∀ tenant ∈ artifact.compatibility.supportedVariants,
          Proven moves suite artifact tenant := by
  intro proven
  have absent : Sample.seeded.moves.all (untested "south") = true := by
    decide +kernel
  obtain ⟨move, member, suite, artifact, event, status, held, supported⟩ :=
    exists_published (show (Sample.seeded.moves.findSome?
      (publishedFor "south")).isSome = true by decide +kernel)
  obtain ⟨tested, -, step, present, inputs, -, verified⟩ :=
    proven _ _ _ (Execution.interleaves _) move member suite artifact event
      status held "south" supported
  obtain ⟨proof, asked, -⟩ := verified.primary
  have silent := List.all_eq_true.mp absent step present
  have other := List.all_eq_true.mp silent _ asked
  exact of_decide_eq_true other rfl

end ReplayForge.Suites

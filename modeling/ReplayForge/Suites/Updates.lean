import ReplayForge.Effect.Histories
import ReplayForge.Suites.Publication

/-!
# Discovery suites and overlapping operations

An operation stores the whole record it has read, extended.  As long as the
suite is still stored as the operation read it, nothing stored before is lost.
-/

namespace ReplayForge.Suites

open Effect ReplayForge.Sample

/-- Nothing of the earlier record is missing from the later one. -/
structure Extends (earlier later : DiscoverySuite) : Prop where
  scenarios : earlier.scenarios <+: later.scenarios
  failures : earlier.validationFailures <+: later.validationFailures
  published : earlier.status = .published → later.status = .published ∧
    later.publishedVersion = earlier.publishedVersion

theorem Extends.refl (suite : DiscoverySuite) : Extends suite suite :=
  ⟨List.prefix_rfl, List.prefix_rfl, fun status => ⟨status, rfl⟩⟩

theorem Extends.trans {first second third : DiscoverySuite}
    (early : Extends first second) (late : Extends second third) :
    Extends first third := by
  refine ⟨early.scenarios.trans late.scenarios,
    early.failures.trans late.failures, fun status => ?_⟩
  obtain ⟨status', version⟩ := early.published status
  obtain ⟨status'', version'⟩ := late.published status'
  exact ⟨status'', version'.trans version⟩

/-- Every stored record is kept or extended. -/
def Preserves (before after : SuiteStore) : Prop :=
  ∀ suiteId suite, before.get? suiteId = some suite →
    ∃ later, after.get? suiteId = some later ∧ Extends suite later

theorem Preserves.refl (store : SuiteStore) : Preserves store store :=
  fun _ suite found => ⟨suite, found, .refl suite⟩

theorem Preserves.trans {first second third : SuiteStore}
    (early : Preserves first second) (late : Preserves second third) :
    Preserves first third := by
  intro suiteId suite found
  obtain ⟨middle, found', extended⟩ := early suiteId suite found
  obtain ⟨later, found'', extended'⟩ := late suiteId middle found'
  exact ⟨later, found'', extended.trans extended'⟩

/-- When an operation stores or publishes, the suite is still stored as the
operation has read it; none is stored yet when it opens one. -/
def StoredAsRead (move : SuiteMove) : Prop :=
  match move.event with
  | ⟨.save saved, _⟩ =>
      move.before.get? saved.suiteId = suiteRead move.past
  | ⟨.publishNext _, _⟩ => ∀ suite, suiteRead move.past = some suite →
      move.before.get? suite.suiteId = some suite
  | _ => True

/-- When an operation publishes from a suite, every operation that has
published from it has stored it as published since. -/
def PublicationsStored (early : List SuiteMove) (move : SuiteMove) : Prop :=
  ∀ suiteId, move.call = .finalize suiteId →
    (∃ artifact, move.event.op = .publishNext artifact) →
    ∀ other ∈ early, other.call = .finalize suiteId →
      isPublication other.event = true →
      ∃ later ∈ early, ∃ saved, later.thread = other.thread ∧
        other.event ∈ later.past ∧ later.event = ⟨.save saved, ()⟩ ∧
        saved.suiteId = suiteId ∧ saved.status = .published

/-- No operation on a suite overlaps with another one's storing or publishing
of it. -/
def Undisturbed (moves : List SuiteMove) : Prop :=
  ∀ early move late, moves = early ++ move :: late →
    StoredAsRead move ∧ PublicationsStored early move

section Steps

variable {service : DiscoverySuiteService} {call : SuiteCall}
  {past : List SuiteEvent} {read saved : DiscoverySuite}

theorem status_of_open {suite : DiscoverySuite} (accepts : suite.isOpen = true) :
    suite.status ≠ .published := by
  intro published
  simp [DiscoverySuite.isOpen, published] at accepts

/-- An operation stores an extension of what it has read. -/
theorem extends_of_saving (saving : Saving service call past saved)
    (found : suiteRead past = some read) : Extends read saved := by
  have same : ∀ {suite : DiscoverySuite}, Loads past suite → suite = read := by
    intro suite loads
    rw [loads.found, Option.some.injEq] at found
    exact found
  cases saving with
  | opened unread =>
      rw [unread] at found
      cases found
  | @restored suite scenarios loads _ empty =>
      cases same loads
      refine ⟨?_, List.prefix_rfl, fun status => ?_⟩
      · rw [empty]
        exact List.nil_prefix
      · exact absurd status (status_of_open loads.accepts)
  | @added suite scenario loads =>
      cases same loads
      refine ⟨List.prefix_append _ _, List.prefix_rfl, fun status => ?_⟩
      exact absurd status (status_of_open loads.accepts)
  | @refused suite failure loads =>
      cases same loads
      exact ⟨List.prefix_rfl, List.prefix_append _ _, fun status =>
        ⟨status, rfl⟩⟩
  | @held suite artifact status loads =>
      cases same loads
      refine ⟨List.prefix_rfl, List.prefix_rfl, fun status => ?_⟩
      exact absurd status (status_of_open loads.accepts)
  | @validated suite artifact extended tenant inputs loads =>
      cases same loads
      refine ⟨List.prefix_rfl, List.prefix_rfl, fun status => ?_⟩
      exact absurd status (status_of_open loads.accepts)
  | @published suite artifact version contentHash loads =>
      cases same loads
      refine ⟨List.prefix_rfl, List.prefix_rfl, fun status => ?_⟩
      exact absurd status (status_of_open loads.accepts)

/-- A step in time preserves every record. -/
theorem preserves_of_step {move : SuiteMove}
    (happens : suiteLaw move.thread move.past move.before move.event move.after)
    (promised : SuitePromise service move.call move.past move.before move.event
      move.after) (inTime : StoredAsRead move) :
    Preserves move.before move.after := by
  obtain ⟨thread, call, past, before, ⟨op, answer⟩, after⟩ := move
  by_cases asking : asks op = true
  · rw [suiteLaw_asks asking happens]
    exact .refl before
  · cases op with
    | save saved =>
        have set : after = before.set saved.suiteId saved := happens
        subst set
        intro suiteId suite found
        by_cases same : suiteId = saved.suiteId
        · subst same
          refine ⟨saved, Dict.get?_set_self _ _ _, ?_⟩
          have read : suiteRead past = some suite := by
            rw [← show before.get? saved.suiteId = suiteRead past from inTime]
            exact found
          exact extends_of_saving promised read
        · exact ⟨suite, by rw [Dict.get?_set_ne _ _ same, found], .refl suite⟩
    | publishNext artifact =>
        rw [(suiteLaw_publishNext happens).2]
        exact .refl before
    | _ => exact (asking rfl).elim

end Steps

section Runs

variable {service : DiscoverySuiteService} {moves : List SuiteMove}
  {config : SuiteConfig}

/-- What a step has stored is never lost again. -/
theorem preserved_from (run : SuiteRun service moves config)
    (undisturbed : Undisturbed moves) {early late : List SuiteMove}
    {move : SuiteMove} {final : SuiteStore} {kept : List SuiteMove}
    (whole : moves = early ++ move :: late ++ kept)
    (chained : Chained move.after late final) :
    Preserves move.after final := by
  refine chained.related Preserves.refl (fun early late => early.trans late) ?_
  intro step member
  obtain ⟨before, after, split⟩ := List.append_of_mem member
  have present : step ∈ moves := by
    rw [whole]
    simp [member]
  have inTime := (undisturbed (early ++ move :: before) step (after ++ kept)
    (by rw [whole, split]; simp)).1
  obtain ⟨-, happens, -, -, promised⟩ := run.sound.moves step present
  exact preserves_of_step happens promised inTime

/-- A stored record is found, perhaps extended, in every later store. -/
theorem found_after (run : SuiteRun service moves config)
    (undisturbed : Undisturbed moves) {early kept : List SuiteMove}
    {final : SuiteStore} (whole : moves = early ++ kept)
    (chained : Chained [] early final) {move : SuiteMove}
    {saved : DiscoverySuite} (member : move ∈ early)
    (saves : move.event = ⟨.save saved, ()⟩) :
    ∃ stored, final.get? saved.suiteId = some stored ∧
      Extends saved stored := by
  obtain ⟨before, after, split⟩ := List.append_of_mem member
  rw [split] at chained
  have later := (chained_split.mp chained).2
  have preserved := preserved_from run undisturbed
    (whole.trans (congrArg (· ++ kept) split)) later
  have present : move ∈ moves := by
    rw [whole]
    exact List.mem_append_left _ member
  have happens := (run.sound.moves move present).2.1
  rw [saves] at happens
  apply preserved
  rw [show move.after = move.before.set saved.suiteId saved from happens]
  exact Dict.get?_set_self _ _ _

/-- No two steps publish a version of one suite. -/
theorem SuiteRun.published_once (run : SuiteRun service moves config)
    (undisturbed : Undisturbed moves) {early middle late : List SuiteMove}
    {first second : SuiteMove} {suiteId : String}
    (split : moves = early ++ first :: middle ++ second :: late)
    (finalizes : first.call = .finalize suiteId)
    (finalizes' : second.call = .finalize suiteId)
    (published : isPublication first.event = true)
    (published' : isPublication second.event = true) : False := by
  have present : second ∈ moves := by
    rw [split]
    simp
  obtain ⟨artifact, publishes⟩ :
      ∃ artifact, second.event.op = .publishNext artifact := by
    obtain ⟨thread, call, past, before, ⟨op, answer⟩, after⟩ := second
    cases op with
    | publishNext artifact => exact ⟨artifact, rfl⟩
    | _ => cases published'
  obtain ⟨inTime, stored⟩ := undisturbed _ second late split
  obtain ⟨later, member, saved, -, -, saves, named, status⟩ :=
    stored suiteId finalizes' ⟨artifact, publishes⟩ first (by simp) finalizes
      published
  have chained := run.chained
  rw [split] at chained
  obtain ⟨found, current, extended⟩ := found_after run undisturbed split
    (chained_split.mp chained).1 member saves
  have promised := (run.sound.moves second present).2.2.2.2
  obtain ⟨thread, call, past, before, ⟨op, answer⟩, after⟩ := second
  cases publishes
  obtain ⟨suite, loads, called⟩ := promised
  cases called.symm.trans finalizes'
  have unchanged : before.get? suite.suiteId = some suite :=
    inTime suite loads.found
  rw [named] at current
  rw [show before.get? suite.suiteId = some found from current,
    Option.some.injEq] at unchanged
  subst unchanged
  exact status_of_open loads.accepts (extended.published status).1

/-- In every run without overlaps, what an operation has stored is still in the
stored suite, a scenario that was added successfully among it, and a suite is
published once. -/
theorem no_lost_suite_update (run : SuiteRun service moves config)
    (undisturbed : Undisturbed moves) :
    (∀ move ∈ moves, ∀ saved, move.event = ⟨.save saved, ()⟩ →
      ∃ stored, config.store.get? saved.suiteId = some stored ∧
        Extends saved stored) ∧
    (∀ index thread suiteId kind goal inputs code description maxSteps timeout
      saved, config.threads index = some thread →
      thread.call = .addScenario suiteId kind goal inputs code description
        maxSteps timeout →
      thread.rest = .pure (.ok saved, ()) →
      ∃ stored, config.store.get? suiteId = some stored ∧
        ∃ scenario ∈ stored.scenarios, scenario.kind = kind ∧
          scenario.goal = goal ∧ scenario.inputs = inputs) ∧
    ∀ early first middle second late suiteId,
      moves = early ++ first :: middle ++ second :: late →
      first.call = .finalize suiteId → second.call = .finalize suiteId →
      isPublication first.event = true → isPublication second.event = true →
      False := by
  have kept : ∀ move ∈ moves, ∀ saved, move.event = ⟨.save saved, ()⟩ →
      ∃ stored, config.store.get? saved.suiteId = some stored ∧
        Extends saved stored :=
    fun move member saved saves =>
      found_after run undisturbed (List.append_nil _).symm run.chained member
        saves
  refine ⟨kept, ?_, ?_⟩
  · intro index thread suiteId kind goal inputs code description maxSteps
      timeout saved found called ended
    obtain ⟨state, -, safe⟩ := run.sound.threads index thread found
    rw [ended] at safe
    cases safe with
    | pure returned =>
        obtain ⟨seen, added⟩ := returned saved rfl
        obtain ⟨named, scenario, member, fields⟩ :=
          added _ _ _ _ _ _ _ _ called
        have own := run.eventsOf_eq index
        rw [found] at own
        rw [show thread.past = eventsOf index moves from own.symm] at seen
        obtain ⟨move, present, event⟩ := List.mem_map.mp seen
        obtain ⟨stored, current, extended⟩ :=
          kept move (List.mem_filter.mp present).1 saved event
        rw [named] at current
        exact ⟨stored, current, scenario, extended.scenarios.subset member,
          fields⟩
  · intro early first middle second late suiteId split finalizes finalizes'
      published published'
    exact run.published_once undisturbed split finalizes finalizes' published
      published'

end Runs

namespace Sample

/-- A suite with one scenario, added while nothing else happens. -/
def extended : Execution SuiteSig SuiteStore SuiteCall
    (Except Raised DiscoverySuite × Unit) :=
  suiteRun ["north"]
    (turns 0 (.create "Pay" "bank" "north" "home" [] 5 60 none) 3 ++
      turns 1 (.addScenario suiteId .recovery "Retry" [] none none 5 60) 3)

/-- Two scenarios are discovered at the same time. -/
def raced : Execution SuiteSig SuiteStore SuiteCall
    (Except Raised DiscoverySuite × Unit) :=
  suiteRun ["north"]
    (turns 0 (.create "Pay" "bank" "north" "home" [] 5 60 none) 3 ++
      turns 1 (.addScenario suiteId .recovery "Retry" [] none none 5 60) 2 ++
      turns 2 (.addScenario suiteId .recovery "Repeat" [] none none 5 60) 2 ++
      [.step 1 (), .step 2 ()])

/-- The step stores what it has read and publishes nothing. -/
def storesInTime (move : SuiteMove) : Bool :=
  match move.event with
  | ⟨.save saved, _⟩ =>
      move.before.get? saved.suiteId = suiteRead move.past
  | ⟨.publishNext _, _⟩ => false
  | _ => true

theorem undisturbed_of_storesInTime {moves : List SuiteMove}
    (inTime : moves.all storesInTime = true) : Undisturbed moves := by
  intro early move late split
  have holds := List.all_eq_true.mp inTime move (by rw [split]; simp)
  obtain ⟨thread, call, past, before, ⟨op, answer⟩, after⟩ := move
  constructor
  · cases op with
    | save saved =>
        have same : before.get? saved.suiteId = suiteRead past :=
          of_decide_eq_true holds
        exact same
    | publishNext artifact => cases holds
    | _ => trivial
  · rintro suiteId - ⟨artifact, publishes⟩
    cases publishes
    cases holds

/-- What a thread was called with and the suite it has returned. -/
def returnedSuite (config : SuiteConfig) (index : Nat) :
    Option (SuiteCall × DiscoverySuite) :=
  match config.threads index with
  | some ⟨call, _, .pure (.ok saved, _)⟩ => some (call, saved)
  | _ => none

theorem exists_returned {config : SuiteConfig} {index : Nat} {call : SuiteCall}
    (returned : (returnedSuite config index).map Prod.fst = some call) :
    ∃ thread saved, config.threads index = some thread ∧
      thread.call = call ∧ thread.rest = .pure (.ok saved, ()) := by
  unfold returnedSuite at returned
  split at returned
  next called past saved _ found =>
    cases returned
    exact ⟨_, saved, found, rfl, rfl⟩
  next => cases returned

/-- The suite with scenarios that a move saves. -/
def savedScenarios (move : SuiteMove) : Option DiscoverySuite :=
  match move.event with
  | ⟨.save saved, _⟩ => if saved.scenarios ≠ [] then some saved else none
  | _ => none

theorem savedScenarios_eq_some {move : SuiteMove} {saved : DiscoverySuite}
    (saves : savedScenarios move = some saved) :
    move.event = ⟨.save saved, ()⟩ ∧ saved.scenarios ≠ [] := by
  unfold savedScenarios at saves
  split at saves
  next kept _ event =>
    split at saves
    next nonempty =>
      cases saves
      exact ⟨event, nonempty⟩
    next => cases saves
  next => cases saves

end Sample

theorem extended_stored : ∃ move ∈ Sample.extended.moves, ∃ saved,
    move.event = ⟨.save saved, ()⟩ ∧ saved.scenarios ≠ [] ∧
      ∃ stored, Sample.extended.config.store.get? saved.suiteId = some stored ∧
        Extends saved stored := by
  have stores :
      (Sample.extended.moves.findSome? Sample.savedScenarios).isSome = true := by
    decide +kernel
  obtain ⟨saved, found⟩ := Option.isSome_iff_exists.mp stores
  obtain ⟨move, member, matched⟩ := List.exists_of_findSome?_eq_some found
  obtain ⟨event, nonempty⟩ := Sample.savedScenarios_eq_some matched
  refine ⟨move, member, saved, event, nonempty, ?_⟩
  exact (no_lost_suite_update (Execution.interleaves _)
    (Sample.undisturbed_of_storesInTime (by decide +kernel))).1 move member
      saved event

/-- A scenario added while another one is being discovered is lost. -/
theorem added_scenario_lost :
    ¬ ∀ (service : DiscoverySuiteService) (moves : List SuiteMove)
      (config : SuiteConfig), SuiteRun service moves config →
      ∀ index thread suiteId kind goal inputs code description maxSteps timeout
        saved, config.threads index = some thread →
        thread.call = .addScenario suiteId kind goal inputs code description
          maxSteps timeout →
        thread.rest = .pure (.ok saved, ()) →
        ∃ stored, config.store.get? suiteId = some stored ∧
          ∃ scenario ∈ stored.scenarios, scenario.kind = kind ∧
            scenario.goal = goal ∧ scenario.inputs = inputs := by
  intro kept
  obtain ⟨thread, saved, found, called, ended⟩ :=
    Sample.exists_returned (show (Sample.returnedSuite Sample.raced.config
      1).map Prod.fst = some (.addScenario ReplayForge.Sample.suiteId .recovery
        "Retry" [] none none 5 60) by decide +kernel)
  obtain ⟨stored, current, scenario, member, -, goal, -⟩ :=
    kept _ _ _ (Execution.interleaves _) 1 thread _ _ _ _ _ _ _ _ saved found
      called ended
  have missing : (Sample.raced.config.store.get?
      ReplayForge.Sample.suiteId).all (fun suite => suite.scenarios.all
        (·.goal ≠ "Retry")) = true := by
    decide +kernel
  rw [show Sample.raced.config.store.get? ReplayForge.Sample.suiteId =
    some stored from current] at missing
  have other := List.all_eq_true.mp missing scenario member
  exact of_decide_eq_true other goal

end ReplayForge.Suites

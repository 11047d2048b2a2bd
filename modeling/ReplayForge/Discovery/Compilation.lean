import ReplayForge.Capabilities.CanonicalJson
import ReplayForge.Capabilities.Restoration
import ReplayForge.Capabilities.RoundTrip
import ReplayForge.Capabilities.Versions
import ReplayForge.Discovery.Compiler
import ReplayForge.Policy.RouteAgreement

/-!
# What a compilation produces

The steps follow the recordings, the policy covers what was observed and the
checkpoint asks for what was verified.  The models strip the route patterns, so
a route whose own pattern ends in whitespace may match none of the artifact.
-/

namespace ReplayForge

/-! ## Stripped names -/

theorem isStripped_of_fieldName {name : String}
    (fits : Pattern.fieldName name = true) : Text.isStripped name = true := by
  apply isStripped_of_solid
  intro char member
  unfold Pattern.fieldName Pattern.ident at fits
  split at fits
  next empty => rw [empty] at member; cases member
  next head rest shape =>
    simp only [Bool.and_eq_true, List.all_eq_true] at fits
    obtain ⟨⟨⟨first, others⟩, -⟩, -⟩ := fits
    rw [shape] at member
    rcases List.mem_cons.mp member with rfl | later
    · exact Text.not_isSpace_of_lower first
    · have word := others char later
      simp only [Pattern.word, Bool.or_eq_true, decide_eq_true_eq] at word
      rcases word with (letter | digit) | rfl
      · exact Text.not_isSpace_of_lower letter
      · exact not_isSpace_of_digit digit
      · decide

theorem strip_eq_self {text : String} (stripped : Text.isStripped text = true) :
    Text.strip text = text := by
  unfold Text.isStripped at stripped
  exact of_decide_eq_true stripped

namespace ObjectContract

variable {host : Host} {contract : ObjectContract}

theorem strip_property (valid : contract.validate host = .ok ())
    {name : String} (declared : name ∈ contract.properties.keys) :
    Text.strip name = name := by
  unfold validate validateRequiredProperties at valid
  simp only [check_bind_eq_ok, require_eq_ok, List.all_eq_true] at valid
  obtain ⟨-, -, -, names⟩ := valid
  exact strip_eq_self (isStripped_of_fieldName (names name declared))

theorem strip_required (valid : contract.validate host = .ok ())
    {name : String} (listed : name ∈ contract.required) :
    Text.strip name = name := by
  apply strip_property valid
  unfold validate validateRequiredProperties at valid
  simp only [check_bind_eq_ok, require_eq_ok, List.all_eq_true,
    decide_eq_true_eq] at valid
  exact valid.2.1 name listed

end ObjectContract

/-! ## The largest risk -/

theorem Risk.isGreatest_foldl_max (first : Risk) (rest : List Risk) :
    IsGreatest {risk | risk ∈ first :: rest} (rest.foldl Risk.max first) := by
  induction rest generalizing first with
  | nil => simp [IsGreatest, upperBounds]
  | cons other rest induction =>
      obtain ⟨reached, above⟩ := induction (first.max other)
      constructor
      · rw [List.foldl_cons]
        rcases List.mem_cons.mp reached with top | later
        · rw [top]
          unfold Risk.max
          split
          · exact List.mem_cons_of_mem _ List.mem_cons_self
          · exact List.mem_cons_self
        · exact List.mem_cons_of_mem _ (List.mem_cons_of_mem _ later)
      · intro risk member
        rw [List.foldl_cons]
        have top : first.max other ≤ rest.foldl Risk.max (first.max other) :=
          above List.mem_cons_self
        rcases List.mem_cons.mp member with rfl | later
        · exact le_max_left.trans top
        · rcases List.mem_cons.mp later with rfl | later
          · exact le_max_right.trans top
          · exact above (List.mem_cons_of_mem _ later)

theorem Condition.holdsAll_eq_true {facts : AtomicCondition → Bool}
    {conditions : List Condition} :
    Condition.holdsAll facts conditions = true ↔
      ∀ condition ∈ conditions, condition.holds facts = true := by
  induction conditions with
  | nil => simp [Condition.holdsAll]
  | cons condition rest induction => simp [Condition.holdsAll, induction]

namespace TraceArtifactCompiler

variable {compiler : TraceArtifactCompiler} {request : CompilationRequest}
  {allowed : Option (List String)} {artifact : CapabilityArtifact}

/-! ## The checks that were passed -/

/-- The checks a compilation passed, with what it found on the way. -/
structure Compiles (compiler : TraceArtifactCompiler)
    (request : CompilationRequest) (allowed : Option (List String))
    (completion : Condition) (routes : RouteChoice) : Prop where
  trace : validateTrace request.draft request.steps = .ok ()
  completes : latestSurfaceCondition request.steps = some completion
  steps : ∀ step ∈ compileSteps 1 request.steps, step.validate = .ok ()
  ceiling : request.maximumRisk.all (request.traceRisk.rank ≤ ·.rank) = true
  actions : request.allowedActionTypes.all (fun allowed =>
    request.steps.all (·.action.kind ∈ allowed)) = true
  chosen : chooseRoutes request allowed = .ok routes
  landmarks : checkLandmarks request = .ok ()
  valid : (compiler.assemble request routes completion).validate
    compiler.host = .ok ()

theorem compileWithSpec_eq_ok :
    compiler.compileWithSpec request allowed = .ok artifact ↔
      ∃ completion routes,
        compiler.Compiles request allowed completion routes ∧
          compiler.stamp (compiler.assemble request routes completion) =
            artifact := by
  unfold compileWithSpec
  rw [check_bind_eq_ok]
  cases found : latestSurfaceCondition request.steps with
  | none =>
      constructor
      · rintro ⟨-, failed⟩
        cases failed
      · rintro ⟨completion, routes, compiles, -⟩
        have completes := compiles.completes
        rw [found] at completes
        cases completes
  | some completion =>
      dsimp only
      simp only [check_bind_eq_ok, require_eq_ok, forM_eq_ok]
      constructor
      · rintro ⟨trace, steps, ceiling, actions, rest⟩
        obtain ⟨routes, chosen, rest⟩ := bind_eq_ok.mp rest
        obtain ⟨landmarks, rest⟩ := check_bind_eq_ok.mp rest
        obtain ⟨valid, same⟩ := check_bind_eq_ok.mp rest
        exact ⟨completion, routes, ⟨trace, found, steps, ceiling, actions,
          chosen, landmarks, valid⟩, Except.ok.inj same⟩
      · rintro ⟨other, routes, compiles, same⟩
        obtain ⟨trace, completes, steps, ceiling, actions, chosen, landmarks,
          valid⟩ := compiles
        rw [found] at completes
        cases completes
        refine ⟨trace, steps, ceiling, actions, ?_⟩
        rw [← same]
        exact bind_eq_ok.mpr ⟨routes, chosen, check_bind_eq_ok.mpr
          ⟨landmarks, check_bind_eq_ok.mpr ⟨valid, rfl⟩⟩⟩

theorem narrowestRoutePattern_eq_ok {route pattern : String} :
    narrowestRoutePattern route allowed = .ok pattern ↔
      Text.hasPrefix route "/" = true ∧
        ((allowed.getD [] = [] ∧ pattern = route) ∨
          ((allowed.getD []).filter (routeMatches route)).argmax
            routeSpecificity = some pattern) := by
  unfold narrowestRoutePattern
  rw [check_bind_eq_ok, require_eq_ok]
  apply and_congr_right
  intro absolute
  cases known : allowed.getD [] with
  | nil =>
      simp only [pure, Except.pure, Except.ok.injEq, List.filter_nil,
        List.argmax_nil, reduceCtorEq, or_false, true_and]
      exact eq_comm
  | cons first rest =>
      dsimp only
      cases narrowest : ((first :: rest).filter (routeMatches route)).argmax
          routeSpecificity with
      | none => simp
      | some chosen => simp [pure, Except.pure]

theorem chooseRoutes_eq_ok {routes : RouteChoice} :
    chooseRoutes request allowed = .ok routes ↔
      List.Forall₂
          (fun route pattern => narrowestRoutePattern route allowed =
            .ok pattern) request.observedRoutes routes.patterns ∧
        startingRoute request.steps allowed = .ok routes.starting ∧
        narrowestRoutePattern request.finalObservation.route allowed =
          .ok routes.final := by
  unfold chooseRoutes
  simp only [bind_eq_ok, mapM_eq_ok, pure, Except.pure, Except.ok.injEq]
  constructor
  · rintro ⟨patterns, each, starting, first, final, last, rfl⟩
    exact ⟨each, first, last⟩
  · rintro ⟨each, first, last⟩
    exact ⟨routes.patterns, each, routes.starting, first, routes.final, last,
      rfl⟩

/-! ## Routes -/

theorem routeMatches_self {route : String}
    (observed : isObservedRoute route = true) :
    routeMatches route route = true := by
  unfold routeMatches matchesSegments
  rw [if_neg (by rw [observed_guard observed]; decide)]
  simp only [decide_true, Bool.true_and, List.all_eq_true]
  intro parts member
  have same : parts.1 = parts.2 := by
    generalize PolicyEvaluator.routeSegments route = segments at member
    induction segments with
    | nil => cases member
    | cons segment rest induction =>
        rcases List.mem_cons.mp member with rfl | later
        · rfl
        · exact induction later
  simp [same]

/-- The pattern chosen for a route matches it. -/
theorem routeMatches_narrowest {route pattern : String}
    (observed : isObservedRoute route = true)
    (chosen : narrowestRoutePattern route allowed = .ok pattern) :
    routeMatches route pattern = true := by
  obtain ⟨-, ⟨-, rfl⟩ | narrowest⟩ := narrowestRoutePattern_eq_ok.mp chosen
  · exact routeMatches_self observed
  · have member := List.argmax_mem narrowest
    exact (List.mem_filter.mp member).2

theorem isObservedRoute_of_mem {route : String}
    (member : route ∈ request.observedRoutes) :
    isObservedRoute route = true := by
  have listed := (List.mem_filter.mp member).1
  rcases List.mem_append.mp listed with around | last
  · obtain ⟨recording, -, here⟩ := List.mem_flatMap.mp around
    rcases List.mem_cons.mp here with rfl | after
    · exact recording.observationBefore.route_valid
    · rw [List.mem_singleton.mp after]
      exact recording.observationAfter.route_valid
  · rw [List.mem_singleton.mp last]
    exact request.finalObservation.route_valid

/-! ## Steps -/

/-- What a compiled step keeps of its recording. -/
structure Records (recording : RecordedDiscoveryStep) (step : Step) : Prop where
  action : step.action = recording.action
  target : step.target = recording.target
  risk : step.risk = recording.risk
  verified : recording.verifiedPostconditions ≠ [] →
    step.postconditions = recording.verifiedPostconditions
  extracted : recording.verifiedPostconditions = [] →
    step.postconditions = recording.action.extracted?.toList.map fun output =>
      .atom (.outputValid output)

theorem records_compileStep {index : Nat} {recording : RecordedDiscoveryStep}
    (stripped : ∀ output, recording.action.extracted? = some output →
      Text.strip output = output) :
    Records recording (compileStep index recording) where
  action := rfl
  target := rfl
  risk := rfl
  verified := by
    intro some
    unfold compileStep
    simp [some]
  extracted := by
    intro none
    unfold compileStep
    cases output : recording.action.extracted? with
    | none => simp [none]
    | some output => simp [none, stripped _ output]

theorem records_compileSteps {steps : List RecordedDiscoveryStep}
    (stripped : ∀ recording ∈ steps, ∀ output,
      recording.action.extracted? = some output →
        Text.strip output = output) (index : Nat) :
    List.Forall₂ Records steps (compileSteps index steps) := by
  induction steps generalizing index with
  | nil => exact .nil
  | cons recording rest induction =>
      have first := stripped recording List.mem_cons_self
      have later := induction fun other member =>
        stripped other (List.mem_cons_of_mem _ member)
      exact .cons (records_compileStep first) (later (index + 1))

/-- Every recorded target was checked. -/
theorem target_valid {steps : List RecordedDiscoveryStep} {index : Nat}
    (valid : ∀ step ∈ compileSteps index steps, step.validate = .ok ())
    {recording : RecordedDiscoveryStep} (member : recording ∈ steps)
    {target : LocatorBundle} (aimed : recording.target = some target) :
    target.validate = .ok () := by
  induction steps generalizing index with
  | nil => cases member
  | cons first rest induction =>
      rcases List.mem_cons.mp member with rfl | later
      · have checked := valid _ List.mem_cons_self
        unfold Step.validate at checked
        simp only [check_bind_eq_ok] at checked
        obtain ⟨-, -, -, here, -⟩ := checked
        simp only [compileStep, aimed] at here
        exact here
      · exact induction
          (fun step inside => valid step (List.mem_cons_of_mem _ inside)) later

theorem validateTrace_outputs {draft : CapabilityDraftSpec}
    {steps : List RecordedDiscoveryStep}
    (trace : validateTrace draft steps = .ok ())
    {recording : RecordedDiscoveryStep} (member : recording ∈ steps)
    {output : String} (extracts : recording.action.extracted? = some output) :
    output ∈ draft.outputs.properties.keys := by
  unfold validateTrace at trace
  simp only [check_bind_eq_ok, forM_eq_ok] at trace
  have checked := trace.2.1 recording member
  unfold validateRecording at checked
  simp only [check_bind_eq_ok, require_eq_ok] at checked
  obtain ⟨-, -, declared, -⟩ := checked
  rw [extracts] at declared
  simpa using declared

theorem traceRisk_isGreatest {steps : List RecordedDiscoveryStep}
    (same : request.steps = steps) (some : steps ≠ []) :
    IsGreatest {risk | ∃ recording ∈ steps, recording.risk = risk}
      request.traceRisk := by
  cases steps with
  | nil => exact absurd rfl some
  | cons first rest =>
      have greatest := Risk.isGreatest_foldl_max first.risk
        (rest.map RecordedDiscoveryStep.risk)
      unfold CompilationRequest.traceRisk
      rw [same]
      have listed : {risk | ∃ recording ∈ first :: rest,
          recording.risk = risk} =
          {risk | risk ∈ first.risk ::
            rest.map RecordedDiscoveryStep.risk} := by
        ext risk
        rw [← List.map_cons]
        exact List.mem_map.symm
      rw [listed]
      exact greatest

/-! ## The completion signature -/

theorem mem_foldl_addLabel {steps : List RecordedDiscoveryStep}
    {labels : List String} {label : String}
    (member : label ∈ steps.foldl addLabel labels) :
    label ∈ labels ∨ ∃ recording ∈ steps, label ∈ recording.fieldLabels := by
  induction steps generalizing labels with
  | nil => exact .inl member
  | cons recording rest induction =>
      rcases induction member with early | ⟨other, inside, listed⟩
      · rcases List.mem_append.mp early with before | joined
        · exact .inl before
        · have found := Option.mem_toList.mp joined
          exact .inr ⟨recording, List.mem_cons_self, List.mem_of_find?_eq_some
            (Option.mem_def.mp found)⟩
      · exact .inr ⟨other, List.mem_cons_of_mem _ inside, listed⟩

theorem mem_foldl_of_mem {steps : List RecordedDiscoveryStep}
    {labels : List String} {label : String} (member : label ∈ labels) :
    label ∈ steps.foldl addLabel labels := by
  induction steps generalizing labels with
  | nil => exact member
  | cons recording rest induction =>
      exact induction (List.mem_append_left _ member)

/-- The first label of every rendered extraction is listed. -/
theorem head_mem_foldl_addLabel {steps : List RecordedDiscoveryStep}
    {labels : List String} {recording : RecordedDiscoveryStep}
    (member : recording ∈ steps) {label : String}
    (first : recording.fieldLabels.head? = some label) :
    label ∈ steps.foldl addLabel labels := by
  induction steps generalizing labels with
  | nil => cases member
  | cons other rest induction =>
      rcases List.mem_cons.mp member with rfl | later
      · rw [List.foldl_cons]
        apply mem_foldl_of_mem
        unfold addLabel
        by_cases known : label ∈ labels
        · exact List.mem_append_left _ known
        · apply List.mem_append_right
          obtain ⟨others, shape⟩ := List.head?_eq_some_iff.mp first
          simp [shape, known]
      · exact induction later

/-- A condition that a completed run satisfies: a verified one with a surface
fact inside or, when there is none, the labels of the extracted fields. -/
inductive Signs (steps : List RecordedDiscoveryStep) (completion : Condition) :
    Prop where
  | verified (recording : RecordedDiscoveryStep) :
      recording ∈ steps →
      completion ∈ recording.verifiedPostconditions →
      completion.mentionsSurface = true →
      Signs steps completion
  | labels (labels : List String) :
      (∀ recording ∈ steps, ∀ condition ∈ recording.verifiedPostconditions,
        condition.mentionsSurface = false) →
      labels ≠ [] →
      (∀ label ∈ labels, ∃ recording ∈ steps,
        label ∈ recording.fieldLabels) →
      (∀ recording ∈ steps, ∀ label, recording.fieldLabels.head? = some label →
        label ∈ labels) →
      (∀ facts, completion.holds facts = true ↔
        ∀ label ∈ labels, facts (.renderedText label .exact) = true) →
      Signs steps completion

theorem mentionsSurface_of_verifiedSurface
    {steps : List RecordedDiscoveryStep} {condition : Condition}
    (found : verifiedSurface? steps = some condition) :
    ∃ recording ∈ steps, condition ∈ recording.verifiedPostconditions ∧
      condition.mentionsSurface = true := by
  obtain ⟨recording, inside, here⟩ := List.exists_of_findSome?_eq_some found
  have listed := List.mem_of_find?_eq_some here
  exact ⟨recording, List.mem_reverse.mp inside, List.mem_reverse.mp listed,
    List.find?_some here⟩

theorem not_mentionsSurface_of_verifiedSurface
    {steps : List RecordedDiscoveryStep}
    (none : verifiedSurface? steps = none) :
    ∀ recording ∈ steps, ∀ condition ∈ recording.verifiedPostconditions,
      condition.mentionsSurface = false := by
  intro recording member condition listed
  have missing := List.findSome?_eq_none_iff.mp none recording
    (List.mem_reverse.mpr member)
  have refused := List.find?_eq_none.mp missing condition
    (List.mem_reverse.mpr listed)
  unfold Condition.mentionsSurface
  simpa using refused

theorem strip_fieldLabel {recording : RecordedDiscoveryStep}
    (valid : ∀ target, recording.target = some target →
      target.validate = .ok ()) {label : String}
    (listed : label ∈ recording.fieldLabels) : Text.strip label = label := by
  unfold RecordedDiscoveryStep.fieldLabels at listed
  split at listed
  next output transform target extracts aimed =>
    have checked := valid target aimed
    unfold LocatorBundle.validate at checked
    simp only [check_bind_eq_ok, forM_eq_ok] at checked
    obtain ⟨-, -, -, candidates, -⟩ := checked
    obtain ⟨candidate, inside, labelled⟩ := List.mem_filterMap.mp listed
    have bounded := candidates candidate inside
    cases candidate with
    | renderedFieldValue text mode relation =>
        cases labelled
        unfold VisualLocatorCandidate.validate Text.isBounded at bounded
        simp only [check_bind_eq_ok, require_eq_ok, Bool.and_eq_true]
          at bounded
        exact strip_eq_self bounded.1.1.1
    | _ => cases labelled
  next => cases listed

theorem signs_of_latestSurfaceCondition
    {steps : List RecordedDiscoveryStep} {completion : Condition}
    (stripped : ∀ recording ∈ steps, ∀ label ∈ recording.fieldLabels,
      Text.strip label = label)
    (latest : latestSurfaceCondition steps = some completion) :
    Signs steps completion := by
  unfold latestSurfaceCondition at latest
  cases found : verifiedSurface? steps with
  | some condition =>
      rw [found] at latest
      cases latest
      obtain ⟨recording, member, listed, mentions⟩ :=
        mentionsSurface_of_verifiedSurface found
      exact .verified recording member listed mentions
  | none =>
      rw [found] at latest
      dsimp only at latest
      have known : ∀ label ∈ steps.foldl addLabel [],
          ∃ recording ∈ steps, label ∈ recording.fieldLabels := by
        intro label member
        rcases mem_foldl_addLabel member with early | later
        · cases early
        · exact later
      have same : (steps.foldl addLabel []).map (fun label =>
            Condition.atom (.renderedText (Text.strip label) .exact)) =
          (steps.foldl addLabel []).map fun label =>
            .atom (.renderedText label .exact) := by
        apply List.map_congr_left
        intro label member
        obtain ⟨recording, inside, listed⟩ := known label member
        rw [stripped recording inside label listed]
      rw [same] at latest
      have heads := fun recording inside label first =>
        @head_mem_foldl_addLabel steps [] recording inside label first
      generalize steps.foldl addLabel [] = labels at latest known heads
      have silent := not_mentionsSurface_of_verifiedSurface found
      refine .labels labels silent ?_ known heads ?_
      · intro none
        rw [none] at latest
        cases latest
      · intro facts
        match labels, latest with
        | [label], latest =>
            cases latest
            simp [Condition.holds]
        | first :: second :: rest, latest =>
            cases latest
            simp [Condition.holds, Condition.holdsAll_eq_true]

/-! ## Soundness -/

/-- No check reads the declared hash. -/
theorem validateSemantics_stamp (artifact : CapabilityArtifact) :
    (compiler.stamp artifact).validateSemantics =
      artifact.validateSemantics := rfl

theorem artifactContentHash_stamp (artifact : CapabilityArtifact) :
    compiler.serializers.artifactContentHash (compiler.stamp artifact) =
      compiler.serializers.artifactContentHash artifact := by
  unfold stamp
  rw [Serializers.artifactContentHash_restamped]
  exact Serializers.artifactContentHash_withoutHash

/-- What the compiler promises of an artifact. -/
structure Sound (compiler : TraceArtifactCompiler)
    (request : CompilationRequest) (allowed : Option (List String))
    (artifact : CapabilityArtifact) : Prop where
  semantics : artifact.validateSemantics = .ok ()
  steps : List.Forall₂ Records request.steps artifact.steps
  risk : IsGreatest {risk | ∃ recording ∈ request.steps,
    recording.risk = risk} artifact.capability.risk
  ceiling : ∀ ceiling, request.maximumRisk = some ceiling →
    artifact.capability.risk ≤ ceiling
  /-- The narrowest pattern of an observed route matches it and is, stripped,
  one of the artifact's. -/
  routes : ∀ route ∈ request.observedRoutes, ∃ pattern,
    narrowestRoutePattern route allowed = .ok pattern ∧
      routeMatches route pattern = true ∧
      Text.strip pattern ∈ artifact.policy.allowedRoutePatterns
  outputs : artifact.outputs = request.draft.outputs
  checkpoint : ∃ pattern completion,
    narrowestRoutePattern request.finalObservation.route allowed =
        .ok pattern ∧
      Signs request.steps completion ∧
      ∀ facts, artifact.checkpoint.condition.holds facts = true →
        facts (.route (Text.strip pattern)) = true ∧
          completion.holds facts = true ∧
          ∀ output ∈ artifact.outputs.required,
            facts (.outputValid output) = true
  hash : artifact.provenance.artifactContentHash =
    some (compiler.serializers.artifactContentHash artifact)

/-- Whatever the compiler returns is sound. -/
theorem compileWithSpec_sound
    (returned : compiler.compileWithSpec request allowed = .ok artifact) :
    compiler.Sound request allowed artifact := by
  obtain ⟨completion, routes, compiles, rfl⟩ :=
    compileWithSpec_eq_ok.mp returned
  obtain ⟨each, -, last⟩ := chooseRoutes_eq_ok.mp compiles.chosen
  have outputs : request.draft.outputs.validate compiler.host = .ok () := by
    have valid := compiles.valid
    unfold CapabilityArtifact.validate at valid
    simp only [check_bind_eq_ok] at valid
    obtain ⟨-, -, -, outputs, -⟩ := valid
    exact outputs
  have filled : request.steps ≠ [] := by
    have trace := compiles.trace
    unfold validateTrace at trace
    simp only [check_bind_eq_ok, require_eq_ok, Bool.not_eq_true',
      List.isEmpty_eq_false_iff] at trace
    exact trace.1
  constructor
  case semantics =>
    rw [validateSemantics_stamp]
    exact CapabilityArtifact.validate_semantics compiles.valid
  case steps =>
    apply records_compileSteps
    intro recording member output extracts
    exact ObjectContract.strip_property outputs
      (validateTrace_outputs compiles.trace member extracts)
  case risk => exact traceRisk_isGreatest rfl filled
  case ceiling =>
    intro ceiling limit
    have below := compiles.ceiling
    rw [limit, Option.all_some, decide_eq_true_eq] at below
    exact below
  case routes =>
    intro route observed
    obtain ⟨pattern, chosen, narrowest⟩ := exists_right each observed
    refine ⟨pattern, narrowest,
      routeMatches_narrowest (isObservedRoute_of_mem observed) narrowest, ?_⟩
    exact mem_sortedSet.mpr (List.mem_map_of_mem chosen)
  case outputs => rfl
  case checkpoint =>
    refine ⟨routes.final, completion, last, ?_, ?_⟩
    · apply signs_of_latestSurfaceCondition _ compiles.completes
      intro recording member label listed
      exact strip_fieldLabel
        (fun target aimed => target_valid compiles.steps member aimed) listed
    · intro facts reached
      simp only [stamp, CapabilityArtifact.restamped, assemble,
        checkpointConditions, Condition.holds, Condition.holdsAll_eq_true,
        List.forall_mem_cons, List.forall_mem_map] at reached
      obtain ⟨route, completed, valid⟩ := reached
      refine ⟨route, completed, ?_⟩
      intro output listed
      have checked := valid output listed
      rw [ObjectContract.strip_required outputs listed] at checked
      exact checked
  case hash =>
    rw [artifactContentHash_stamp]
    rfl

end TraceArtifactCompiler

namespace Sample

noncomputable def compiler : TraceArtifactCompiler where
  serializers := serializers
  host := host
  now := { year := 2026, month := 9, day := 10 }

/-- A page with the details of a customer. -/
def details (route : String) (observed : isObservedRoute route = true) :
    NormalizedObservation where
  sessionId := "ses_00000000000000000000000000000001"
  route := route
  fingerprint :=
    "0000000000000000000000000000000000000000000000000000000000000001"
  landmarks := ["Details"]
  session_valid := by decide
  route_valid := observed
  fingerprint_present := by decide
  titles_present := none_blank

/-- The customer is read off the page. -/
def reading (page : NormalizedObservation) : RecordedDiscoveryStep where
  action := .extract "customer" .text
  target := some (target "Customer")
  observationBefore := page
  observationAfter := page
  expectedEffect := "Read the customer."
  rationale := "The details were verified."
  risk := .readOnly
  verifiedPostconditions := [.atom (.text "Details" .exact)]
  targeted := rfl
  described := by decide

/-- A draft and the trace that reads one page. -/
def readingRequest (page : NormalizedObservation) : CompilationRequest where
  draft := {
    operationSlug := "read_customer"
    name := "Read customer"
    description := "Read a customer."
    inputs := { required := [], properties := [] }
    outputs := {
      required := ["customer"], properties := [("customer", textField)] } }
  runId := runId
  goal := "Read a customer."
  applicationFamily := "bank"
  tenant := "standard"
  entryPoint := "home"
  steps := [reading page]
  finalObservation := page
  providerName := "provider"
  modelName := "model"
  evidenceManifest := manifest

/-- The route of the page ends in a blank. -/
def blankRequest : CompilationRequest :=
  readingRequest (details "/details " (by decide))

theorem blankRequest_patterns :
    ((compiler.compileWithSpec blankRequest none).toOption.map
      fun artifact => artifact.policy.allowedRoutePatterns) =
        some ["/details"] := by
  decide +kernel

theorem blankRequest_compiles : ∃ artifact,
    compiler.compileWithSpec blankRequest none = .ok artifact ∧
      artifact.policy.allowedRoutePatterns = ["/details"] :=
  exists_ok_of_map blankRequest_patterns

/-- The blank is stripped off the pattern, which no longer matches. -/
theorem blank_route_unmatched : ∃ artifact,
    compiler.compileWithSpec blankRequest none = .ok artifact ∧
      ∃ route ∈ blankRequest.observedRoutes,
        Text.hasPrefix route "/" = true ∧
        ∀ pattern ∈ artifact.policy.allowedRoutePatterns,
          TraceArtifactCompiler.routeMatches route pattern = false := by
  obtain ⟨artifact, returned, patterns⟩ := blankRequest_compiles
  refine ⟨artifact, returned, "/details ", by decide, by decide, ?_⟩
  rw [patterns]
  decide

theorem blankRequest_sound : ∃ artifact,
    compiler.compileWithSpec blankRequest none = .ok artifact ∧
      compiler.Sound blankRequest none artifact := by
  obtain ⟨artifact, returned, -⟩ := blankRequest_compiles
  exact ⟨artifact, returned,
    TraceArtifactCompiler.compileWithSpec_sound returned⟩

end Sample

end ReplayForge

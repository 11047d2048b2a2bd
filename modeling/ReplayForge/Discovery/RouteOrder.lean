import ReplayForge.Discovery.Compilation

/-!
# The order of the allowed route patterns

Where two allowed patterns fit a route and are equally specific, the one that
comes first in the iteration of their set is chosen.  A compilation does not
depend on the order exactly when no such choice shows in the artifact.
-/

namespace ReplayForge

/-! ## The first of the largest -/

section Largest

variable {α β : Type} [LinearOrder β] {key : α → β} {items : List α} {item : α}

/-- The items with the largest key. -/
def largest (key : α → β) (items : List α) : List α :=
  items.filter fun item => items.all fun other => key other ≤ key item

theorem mem_largest : item ∈ largest key items ↔
    item ∈ items ∧ ∀ other ∈ items, key other ≤ key item := by
  simp [largest]

theorem mem_largest_of_argmax (found : items.argmax key = some item) :
    item ∈ largest key items :=
  mem_largest.mpr ⟨List.argmax_mem found,
    fun _ member => List.le_of_mem_argmax member found⟩

theorem exists_argmax (member : item ∈ items) :
    ∃ chosen, items.argmax key = some chosen := by
  cases found : items.argmax key with
  | some chosen => exact ⟨chosen, rfl⟩
  | none =>
      rw [List.argmax_eq_none.mp found] at member
      cases member

theorem largest_perm {order : List α} (same : order.Perm items) :
    item ∈ largest key order ↔ item ∈ largest key items := by
  simp only [mem_largest, same.mem_iff]

/-- If one of the largest items comes early, an early item is chosen. -/
theorem argmax_mem_left [DecidableEq α] {early late : List α}
    (found : (early ++ late).argmax key = some item) {other : α}
    (listed : other ∈ early)
    (top : other ∈ largest key (early ++ late)) : item ∈ early := by
  obtain ⟨member, -, first⟩ := List.argmax_eq_some_iff.mp found
  obtain ⟨inside, above⟩ := mem_largest.mp top
  have before := first other inside (above item member)
  by_contra absent
  rw [List.idxOf_append_of_mem listed,
    List.idxOf_append_of_notMem absent] at before
  have short := List.idxOf_lt_length_of_mem listed
  omega

end Largest

namespace TraceArtifactCompiler

variable {compiler : TraceArtifactCompiler} {request : CompilationRequest}
  {allowed order : List String} {artifact : CapabilityArtifact}

/-- The narrowest allowed patterns of a route, as the models store them. -/
def narrowestPatterns (allowed : List String) (route : String) :
    List String :=
  (largest routeSpecificity (allowed.filter (routeMatches route))).map
    Text.strip

/-- The route has no narrowest pattern but this one. -/
def Settles (allowed : List String) (route pattern : String) : Prop :=
  ∀ other ∈ narrowestPatterns allowed route, other = pattern

/-- No choice between equally narrow patterns shows in the artifact: the first
and the last route leave none, and whatever is chosen for an observed route is
chosen for one that leaves none. -/
structure OrderSettled (request : CompilationRequest)
    (allowed : List String) : Prop where
  starting : ∀ first rest, request.steps = first :: rest →
    ∃ pattern, Settles allowed first.observationBefore.route pattern
  final : ∃ pattern, Settles allowed request.finalObservation.route pattern
  policy : ∀ route ∈ request.observedRoutes,
    ∀ pattern ∈ narrowestPatterns allowed route,
      ∃ other ∈ request.observedRoutes, Settles allowed other pattern

/-- The patterns for which `chosen` holds come first. -/
def firstOrder (chosen : String → Bool) (allowed : List String) :
    List String :=
  allowed.filter chosen ++ allowed.filter (!chosen ·)

theorem firstOrder_perm (chosen : String → Bool) (allowed : List String) :
    (firstOrder chosen allowed).Perm allowed :=
  List.filter_append_perm chosen allowed

theorem argmax_of_narrowest (filled : allowed ≠ []) {route pattern : String}
    (chosen : narrowestRoutePattern route (some allowed) = .ok pattern) :
    (allowed.filter (routeMatches route)).argmax routeSpecificity =
      some pattern := by
  obtain ⟨-, ⟨none, -⟩ | narrowest⟩ := narrowestRoutePattern_eq_ok.mp chosen
  · exact absurd none filled
  · exact narrowest

theorem mem_narrowestPatterns (same : order.Perm allowed)
    (filled : allowed ≠ []) {route pattern : String}
    (chosen : narrowestRoutePattern route (some order) = .ok pattern) :
    Text.strip pattern ∈ narrowestPatterns allowed route := by
  have some : order ≠ [] := by
    intro none
    rw [none] at same
    exact filled same.nil_eq.symm
  have top := mem_largest_of_argmax (argmax_of_narrowest some chosen)
  exact List.mem_map_of_mem ((largest_perm (same.filter _)).mp top)

/-- A route that has a pattern has one in every order. -/
theorem exists_narrowest (same : order.Perm allowed) {route pattern : String}
    (chosen : narrowestRoutePattern route (some allowed) = .ok pattern) :
    ∃ other, narrowestRoutePattern route (some order) = .ok other := by
  obtain ⟨absolute, ⟨none, rfl⟩ | narrowest⟩ :=
    narrowestRoutePattern_eq_ok.mp chosen
  · have empty : order = [] := by
      rw [Option.getD_some] at none
      rw [none] at same
      exact same.eq_nil
    exact ⟨pattern, narrowestRoutePattern_eq_ok.mpr
      ⟨absolute, .inl ⟨empty, rfl⟩⟩⟩
  · have member := ((same.filter (routeMatches route)).mem_iff).mpr
      (List.argmax_mem narrowest)
    obtain ⟨other, found⟩ := @exists_argmax _ _ _ routeSpecificity _ _ member
    exact ⟨other, narrowestRoutePattern_eq_ok.mpr ⟨absolute, .inr found⟩⟩

/-- A narrowest pattern that is put first is chosen. -/
theorem chosen_of_firstOrder (filled : allowed ≠ []) (chosen : String → Bool)
    {route pattern : String}
    (narrowest : narrowestRoutePattern route
      (some (firstOrder (fun pattern => chosen (Text.strip pattern)) allowed)) =
        .ok pattern)
    {wanted : String} (top : wanted ∈ narrowestPatterns allowed route)
    (wish : chosen wanted = true) : chosen (Text.strip pattern) = true := by
  have same := firstOrder_perm (fun pattern => chosen (Text.strip pattern))
    allowed
  have some : firstOrder (fun pattern => chosen (Text.strip pattern)) allowed ≠
      [] := by
    intro none
    rw [none] at same
    exact filled same.nil_eq.symm
  have found := argmax_of_narrowest some narrowest
  obtain ⟨other, largest, rfl⟩ := List.mem_map.mp top
  have late := (largest_perm (same.filter (routeMatches route))).mpr largest
  have matched := (List.mem_filter.mp (mem_largest.mp largest).1)
  unfold firstOrder at found late
  rw [List.filter_append] at found late
  have listed : other ∈ (allowed.filter fun pattern =>
      chosen (Text.strip pattern)).filter (routeMatches route) :=
    List.mem_filter.mpr ⟨List.mem_filter.mpr ⟨matched.1, wish⟩, matched.2⟩
  have early := argmax_mem_left found listed late
  exact (List.mem_filter.mp (List.mem_filter.mp early).1).2

/-! ## What the artifact shows of the choice -/

/-- The chosen patterns as the artifact stores them. -/
structure SameChoice (first second : RouteChoice) : Prop where
  starting : Text.strip first.starting = Text.strip second.starting
  final : Text.strip first.final = Text.strip second.final
  patterns : ∀ pattern, pattern ∈ first.patterns.map Text.strip ↔
    pattern ∈ second.patterns.map Text.strip

theorem assemble_congr {first second : RouteChoice} {completion : Condition}
    (same : SameChoice first second) :
    compiler.assemble request first completion =
      compiler.assemble request second completion := by
  unfold assemble checkpointConditions
  rw [same.starting, same.final, sortedSet_congr same.patterns]

theorem SameChoice.of_stamp {first second : RouteChoice}
    {completion : Condition}
    (same : compiler.stamp (compiler.assemble request first completion) =
      compiler.stamp (compiler.assemble request second completion)) :
    SameChoice first second := by
  have starting := congrArg CapabilityArtifact.preconditions same
  have final := congrArg (·.checkpoint.condition) same
  have patterns := congrArg (·.policy.allowedRoutePatterns) same
  simp only [stamp, CapabilityArtifact.restamped, assemble,
    checkpointConditions, List.cons.injEq, Condition.atom.injEq,
    Condition.all.injEq, AtomicCondition.route.injEq, and_true]
    at starting final patterns
  refine ⟨starting, final, ?_⟩
  intro pattern
  rw [← mem_sortedSet, patterns, mem_sortedSet]

/-- Other allowed patterns give the same artifact exactly when the choice shows
no difference. -/
theorem Compiles.again {completion : Condition} {routes : RouteChoice}
    {before : Option (List String)}
    (compiles : compiler.Compiles request before completion routes)
    {after : Option (List String)} :
    compiler.compileWithSpec request after =
        .ok (compiler.stamp (compiler.assemble request routes completion)) ↔
      ∃ other, chooseRoutes request after = .ok other ∧
        SameChoice other routes := by
  rw [compileWithSpec_eq_ok]
  constructor
  · rintro ⟨completion', other, compiles', same⟩
    have completes := compiles'.completes
    rw [compiles.completes] at completes
    cases completes
    exact ⟨other, compiles'.chosen, .of_stamp same⟩
  · rintro ⟨other, chosen, same⟩
    have assembled := @assemble_congr compiler request _ _ completion same
    refine ⟨completion, other, { compiles with chosen := chosen, valid := ?_ },
      ?_⟩
    · rw [assembled]
      exact compiles.valid
    · rw [assembled]

/-! ## Independence of the order -/

/-- What is chosen in one order is chosen in the other. -/
theorem patterns_subset (settled : OrderSettled request allowed)
    (filled : allowed ≠ []) {first second : List String}
    (firstSame : first.Perm allowed) (secondSame : second.Perm allowed)
    {patterns others : List String}
    (each : List.Forall₂ (fun route pattern =>
      narrowestRoutePattern route (some first) = .ok pattern)
      request.observedRoutes patterns)
    (otherEach : List.Forall₂ (fun route pattern =>
      narrowestRoutePattern route (some second) = .ok pattern)
      request.observedRoutes others) {pattern : String}
    (member : pattern ∈ patterns.map Text.strip) :
    pattern ∈ others.map Text.strip := by
  obtain ⟨raw, listed, rfl⟩ := List.mem_map.mp member
  obtain ⟨route, observed, narrowest⟩ := exists_left each listed
  obtain ⟨other, alsoObserved, settles⟩ := settled.policy route observed _
    (mem_narrowestPatterns firstSame filled narrowest)
  obtain ⟨chosen, inside, narrowest'⟩ := exists_right otherEach alsoObserved
  have same := settles _ (mem_narrowestPatterns secondSame filled narrowest')
  rw [← same]
  exact List.mem_map_of_mem inside

theorem exists_forall₂ {α β : Type} {before after : α → β → Prop}
    (step : ∀ item result, before item result → ∃ other, after item other)
    {items : List α} {results : List β}
    (each : List.Forall₂ before items results) :
    ∃ others, List.Forall₂ after items others := by
  induction each with
  | nil => exact ⟨[], .nil⟩
  | cons first _ induction =>
      obtain ⟨other, here⟩ := step _ _ first
      obtain ⟨others, later⟩ := induction
      exact ⟨other :: others, .cons here later⟩

theorem exists_choice (same : order.Perm allowed) {routes : RouteChoice}
    (chosen : chooseRoutes request (some allowed) = .ok routes) :
    ∃ other, chooseRoutes request (some order) = .ok other := by
  obtain ⟨each, first, last⟩ := chooseRoutes_eq_ok.mp chosen
  obtain ⟨patterns, each'⟩ := exists_forall₂
    (fun _ _ narrowest => exists_narrowest same narrowest) each
  obtain ⟨final, last'⟩ := exists_narrowest same last
  cases shape : request.steps with
  | nil =>
      rw [shape] at first
      cases first
  | cons step rest =>
      rw [shape] at first
      obtain ⟨starting, first'⟩ := exists_narrowest same first
      refine ⟨⟨patterns, starting, final⟩,
        chooseRoutes_eq_ok.mpr ⟨each', ?_, last'⟩⟩
      rw [shape]
      exact first'

theorem sameChoice_of_settled (settled : OrderSettled request allowed)
    (filled : allowed ≠ []) (same : order.Perm allowed)
    {routes other : RouteChoice}
    (chosen : chooseRoutes request (some allowed) = .ok routes)
    (chosen' : chooseRoutes request (some order) = .ok other) :
    SameChoice other routes := by
  obtain ⟨each, first, last⟩ := chooseRoutes_eq_ok.mp chosen
  obtain ⟨each', first', last'⟩ := chooseRoutes_eq_ok.mp chosen'
  constructor
  case starting =>
    cases shape : request.steps with
    | nil =>
        rw [shape] at first
        cases first
    | cons step rest =>
        rw [shape] at first first'
        obtain ⟨pattern, settles⟩ := settled.starting step rest shape
        rw [settles _ (mem_narrowestPatterns same filled first'),
          settles _ (mem_narrowestPatterns (.refl _) filled first)]
  case final =>
    obtain ⟨pattern, settles⟩ := settled.final
    rw [settles _ (mem_narrowestPatterns same filled last'),
      settles _ (mem_narrowestPatterns (.refl _) filled last)]
  case patterns =>
    intro pattern
    constructor
    · exact patterns_subset settled filled same (.refl _) each' each
    · exact patterns_subset settled filled (.refl _) same each each'

theorem settled_of_sameChoice (filled : allowed ≠ []) {routes : RouteChoice}
    (chosen : chooseRoutes request (some allowed) = .ok routes)
    (independent : ∀ order, order.Perm allowed →
      ∃ other, chooseRoutes request (some order) = .ok other ∧
        SameChoice other routes) : OrderSettled request allowed := by
  have wish (wanted : String → Bool) := independent
    (firstOrder (fun pattern => wanted (Text.strip pattern)) allowed)
    (firstOrder_perm _ _)
  constructor
  case starting =>
    intro step rest shape
    refine ⟨Text.strip routes.starting, ?_⟩
    intro pattern top
    obtain ⟨other, chosen', same⟩ := wish (· = pattern)
    obtain ⟨-, first, -⟩ := chooseRoutes_eq_ok.mp chosen'
    rw [shape, startingRoute] at first
    have met := chosen_of_firstOrder filled (· = pattern) first top
      (decide_eq_true rfl)
    have stored : Text.strip other.starting = pattern := of_decide_eq_true met
    exact stored.symm.trans same.starting
  case final =>
    refine ⟨Text.strip routes.final, ?_⟩
    intro pattern top
    obtain ⟨other, chosen', same⟩ := wish (· = pattern)
    obtain ⟨-, -, last⟩ := chooseRoutes_eq_ok.mp chosen'
    have met := chosen_of_firstOrder filled (· = pattern) last top
      (decide_eq_true rfl)
    have stored : Text.strip other.final = pattern := of_decide_eq_true met
    exact stored.symm.trans same.final
  case policy =>
    intro route observed pattern top
    by_contra unsettled
    push Not at unsettled
    -- with the pattern first it is chosen, so it is one of the artifact's
    obtain ⟨favoured, chosen', same⟩ := wish (· = pattern)
    obtain ⟨each, -, -⟩ := chooseRoutes_eq_ok.mp chosen'
    obtain ⟨raw, listed, narrowest⟩ := exists_right each observed
    have met := chosen_of_firstOrder filled (· = pattern) narrowest top
      (decide_eq_true rfl)
    have stored : Text.strip raw = pattern := of_decide_eq_true met
    have shown : pattern ∈ routes.patterns.map Text.strip := by
      rw [← same.patterns, ← stored]
      exact List.mem_map_of_mem listed
    -- with the pattern last every route has another one
    obtain ⟨avoided, chosen'', same'⟩ := wish (· ≠ pattern)
    obtain ⟨each', -, -⟩ := chooseRoutes_eq_ok.mp chosen''
    rw [← same'.patterns] at shown
    obtain ⟨raw', listed', stored'⟩ := List.mem_map.mp shown
    obtain ⟨route', observed', narrowest'⟩ := exists_left each' listed'
    have open' := unsettled route' observed'
    unfold Settles at open'
    push Not at open'
    obtain ⟨other, top', different⟩ := open'
    have met' := chosen_of_firstOrder filled (· ≠ pattern) narrowest' top'
      (decide_eq_true different)
    exact of_decide_eq_true met' stored'

theorem orderSettled_nil : OrderSettled request [] where
  starting := fun _ _ _ => ⟨"", fun _ member => nomatch member⟩
  final := ⟨"", fun _ member => nomatch member⟩
  policy := fun _ _ _ member => nomatch member

/-- The artifact is the same in every order exactly when no choice between
equally narrow patterns shows in it. -/
theorem order_independent_iff
    (returned : compiler.compileWithSpec request (some allowed) =
      .ok artifact) :
    (∀ order, order.Perm allowed →
        compiler.compileWithSpec request (some order) = .ok artifact) ↔
      OrderSettled request allowed := by
  obtain ⟨completion, routes, compiles, rfl⟩ :=
    compileWithSpec_eq_ok.mp returned
  by_cases filled : allowed = []
  · subst filled
    constructor
    · exact fun _ => orderSettled_nil
    · intro _ order same
      rw [same.eq_nil]
      exact returned
  constructor
  · intro independent
    apply settled_of_sameChoice filled compiles.chosen
    intro order same
    exact compiles.again.mp (independent order same)
  · intro settled order same
    obtain ⟨other, chosen⟩ := exists_choice same compiles.chosen
    exact compiles.again.mpr ⟨other, chosen,
      sameChoice_of_settled settled filled same compiles.chosen chosen⟩

end TraceArtifactCompiler

namespace Sample

/-- The page of one member. -/
def memberRequest : CompilationRequest :=
  readingRequest (details "/members/42" (by decide))

/-- Two patterns that say the same of a member's page. -/
def memberPatterns : List String := ["/members/:id", "/members/*"]

theorem memberRequest_patterns :
    ((compiler.compileWithSpec memberRequest (some memberPatterns)).toOption.map
        fun artifact => artifact.policy.allowedRoutePatterns) =
      some ["/members/:id"] := by
  decide +kernel

theorem memberRequest_reversed :
    ((compiler.compileWithSpec memberRequest
        (some memberPatterns.reverse)).toOption.map
        fun artifact => artifact.policy.allowedRoutePatterns) =
      some ["/members/*"] := by
  decide +kernel

theorem memberRequest_compiles : ∃ artifact,
    compiler.compileWithSpec memberRequest (some memberPatterns) =
        .ok artifact ∧
      artifact.policy.allowedRoutePatterns = ["/members/:id"] :=
  exists_ok_of_map memberRequest_patterns

/-- The reversed set gives another artifact. -/
theorem memberRequest_order_matters : ∃ artifact order,
    order.Perm memberPatterns ∧
      compiler.compileWithSpec memberRequest (some memberPatterns) =
        .ok artifact ∧
      compiler.compileWithSpec memberRequest (some order) ≠ .ok artifact := by
  obtain ⟨artifact, returned, patterns⟩ := memberRequest_compiles
  refine ⟨artifact, memberPatterns.reverse, List.reverse_perm _, returned, ?_⟩
  intro same
  have reversed := memberRequest_reversed
  rw [same] at reversed
  simp [Except.toOption, patterns] at reversed

theorem memberRequest_unsettled :
    ¬TraceArtifactCompiler.OrderSettled memberRequest memberPatterns := by
  intro settled
  obtain ⟨pattern, settles⟩ := settled.final
  have named := settles "/members/:id" (by decide)
  have starred := settles "/members/*" (by decide)
  rw [← starred] at named
  exact absurd named (by decide)

theorem memberRequest_dependent : ∃ artifact,
    compiler.compileWithSpec memberRequest (some memberPatterns) =
        .ok artifact ∧
      ¬∀ order, order.Perm memberPatterns →
        compiler.compileWithSpec memberRequest (some order) =
          .ok artifact := by
  obtain ⟨artifact, returned, -⟩ := memberRequest_compiles
  refine ⟨artifact, returned, ?_⟩
  intro independent
  exact memberRequest_unsettled
    ((TraceArtifactCompiler.order_independent_iff returned).mp independent)

end Sample

end ReplayForge

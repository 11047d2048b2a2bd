import ReplayForge.Capabilities.Artifact
import ReplayForge.Policy.Routes
import ReplayForge.Surfaces.Models

/-!
# Where the route matchers agree

On a path without repeated slashes the expressions and the segment lists say
the same.  They differ where a repeated slash hides an empty segment, and the
evaluator alone takes a bare colon for itself.
-/

namespace ReplayForge

open Segments

theorem Text.containsText_iff {text part : String} :
    containsText text part = true ↔ part.toList <:+: text.toList := by
  unfold containsText
  rw [List.any_eq_true, List.infix_iff_prefix_suffix]
  simp only [List.mem_tails, List.isPrefixOf_iff_prefix]
  exact exists_congr fun tail => and_comm

section Shapes

variable {path route pattern : String}

/-- The text of an absolute path. -/
theorem toList_of_hasPrefix (absolute : Text.hasPrefix path "/" = true) :
    ∃ rest, path.toList = '/' :: rest := by
  unfold Text.hasPrefix at absolute
  obtain ⟨rest, same⟩ := List.isPrefixOf_iff_prefix.mp absolute
  exact ⟨rest, same.symm⟩

theorem eq_root_iff : path = "/" ↔ path.toList = ['/'] :=
  String.toList_inj.symm

/-- A path that repeats no slash, the root apart, has proper segments. -/
theorem isPath_slashSegments (absolute : Text.hasPrefix path "/" = true)
    (inner : path ≠ "/") (once : ¬Repeats '/' path.toList) :
    IsPath '/' path.toList (slashSegments path) := by
  obtain ⟨rest, same⟩ := toList_of_hasPrefix absolute
  have more : rest ≠ [] := by
    rintro rfl
    exact inner (eq_root_iff.mpr same)
  rw [same] at once
  obtain ⟨parts, shape⟩ := isPath_of_not_repeats more once
  have segments : slashSegments path = parts := by
    have split := shape.splitOn_trim
    rw [← same] at split
    exact split
  rw [segments, same]
  exact shape

theorem segments_of_isPath {parts : List (List Char)}
    (shape : IsPath '/' path.toList parts) : slashSegments path = parts :=
  shape.splitOn_trim

theorem ne_root_of_isPath {parts : List (List Char)}
    (shape : IsPath '/' path.toList parts) : path ≠ "/" := by
  intro root
  rw [eq_root_iff] at root
  obtain ⟨proper, same | same⟩ := shape
  · rw [root, List.cons.injEq] at same
    exact proper.intercalate_ne_nil same.2.symm
  · rw [root, List.cons.injEq] at same
    simp at same

/-- A pattern that layers and artifacts accept. -/
structure AcceptedPattern (pattern : String) : Prop where
  layer : PolicyLayer.checkRoutePattern pattern = .ok ()
  artifact : isSafePath pattern = true

theorem AcceptedPattern.absolute (accepted : AcceptedPattern pattern) :
    Text.hasPrefix pattern "/" = true := by
  have safe := accepted.artifact
  unfold isSafePath at safe
  simp only [Bool.and_eq_true] at safe
  exact safe.1.1.1.1

theorem AcceptedPattern.once (accepted : AcceptedPattern pattern) :
    ¬Repeats '/' pattern.toList := by
  have safe := accepted.artifact
  unfold isSafePath at safe
  simp only [Bool.and_eq_true, Bool.not_eq_true'] at safe
  intro repeats
  have contained : Text.containsText pattern "//" = true :=
    Text.containsText_iff.mpr repeats
  rw [safe.1.2] at contained
  cases contained

theorem AcceptedPattern.isPath (accepted : AcceptedPattern pattern)
    (inner : pattern ≠ "/") :
    IsPath '/' pattern.toList (slashSegments pattern) :=
  isPath_slashSegments accepted.absolute inner accepted.once

theorem observed_absolute (observed : isObservedRoute route = true) :
    Text.hasPrefix route "/" = true := by
  unfold isObservedRoute at observed
  simp only [Bool.and_eq_true] at observed
  exact observed.1.1

/-- The guard of three matchers lets every observed route through. -/
theorem observed_guard (observed : isObservedRoute route = true) :
    (!Text.hasPrefix route "/" || decide ('?' ∈ route.toList) ||
      decide ('#' ∈ route.toList)) = false := by
  unfold isObservedRoute at observed
  simp only [Bool.and_eq_true, Bool.not_eq_true'] at observed
  rw [observed.1.1, observed.1.2, observed.2]
  rfl

end Shapes

/-- A part of a pattern that the segment lists let stand for anything. -/
def Open (patternPart : List Char) : Prop :=
  patternPart = ['*'] ∨ patternPart.head? = some ':'

instance : DecidablePred Open :=
  fun patternPart => inferInstanceAs (Decidable (patternPart = ['*'] ∨ _))

/-- The evaluator wants a name after the colon. -/
def Named (patternPart : List Char) : Prop :=
  patternPart = ['*'] ∨
    (patternPart.head? = some ':' ∧ 1 < patternPart.length)

instance : DecidablePred Named :=
  fun patternPart => inferInstanceAs (Decidable (patternPart = ['*'] ∨ _))

/-- A bare colon. -/
def Bare (patternPart : List Char) : Prop :=
  patternPart = [':']

instance : DecidablePred Bare :=
  fun patternPart => inferInstanceAs (Decidable (patternPart = [':']))

theorem open_iff {patternPart : List Char} :
    Open patternPart ↔ Named patternPart ∨ Bare patternPart := by
  unfold Open Named Bare
  match patternPart with
  | [] => simp
  | [char] => simp
  | first :: second :: rest => simp

theorem not_named_of_bare {patternPart : List Char}
    (bare : Bare patternPart) : ¬Named patternPart := by
  unfold Bare at bare
  unfold Named
  simp [bare]

/-- The static segments of the pattern stand in the route, in number and
place. -/
def Corresponds (route pattern : String) : Prop :=
  List.Forall₂ (fun patternPart routePart =>
      Open patternPart ∨ patternPart = routePart)
    (PolicyEvaluator.routeSegments pattern)
    (PolicyEvaluator.routeSegments route)

/-- Where the pattern has a bare colon, the route has one too. -/
def ColonsStand (route pattern : String) : Prop :=
  List.Forall₂ (fun patternPart routePart =>
      Bare patternPart → routePart = [':'])
    (PolicyEvaluator.routeSegments pattern)
    (PolicyEvaluator.routeSegments route)

instance (route pattern : String) : Decidable (Corresponds route pattern) :=
  inferInstanceAs (Decidable (List.Forall₂ _ _ _))

instance (route pattern : String) : Decidable (ColonsStand route pattern) :=
  inferInstanceAs (Decidable (List.Forall₂ _ _ _))

section Matchers

variable {route pattern : String}

theorem matchesSegments_iff (observed : isObservedRoute route = true) :
    matchesSegments route pattern = true ↔ Corresponds route pattern := by
  unfold matchesSegments Corresponds
  rw [observed_guard observed]
  simp only [Bool.false_eq_true, if_false, Bool.and_eq_true,
    decide_eq_true_eq, List.all_eq_true, Bool.or_eq_true]
  constructor
  · rintro ⟨same, each⟩
    apply List.Forall₂.flip
    refine List.forall₂_iff_zip.mpr ⟨same, ?_⟩
    intro routePart patternPart member
    exact each (routePart, patternPart) member
  · intro corresponds
    obtain ⟨same, each⟩ := List.forall₂_iff_zip.mp corresponds.flip
    refine ⟨same, ?_⟩
    rintro ⟨routePart, patternPart⟩ member
    exact each member

theorem forall₂_both {α β : Type} {first second : α → β → Prop}
    {left : List α} {right : List β} (one : List.Forall₂ first left right)
    (two : List.Forall₂ second left right) :
    List.Forall₂ (fun a b => first a b ∧ second a b) left right := by
  induction one with
  | nil => exact .nil
  | cons here _ ih =>
      cases two with
      | cons there rest => exact .cons ⟨here, there⟩ (ih rest)

theorem fits_of_static {wild : List Char → Prop}
    {patternParts routeParts : List (List Char)}
    (static : List.Forall₂ (fun patternPart routePart =>
        ¬wild patternPart → routePart = patternPart) patternParts routeParts)
    (sound : ∀ part ∈ routeParts, part ≠ [] ∧ '/' ∉ part) :
    List.Forall₂ (Fits wild) patternParts routeParts := by
  induction static with
  | nil => exact .nil
  | cons here _ ih =>
      rw [List.forall_mem_cons] at sound
      exact .cons ⟨fun _ => sound.1, here⟩ (ih sound.2)

/-- An expression accepts a route that corresponds, repeats no slash and fits
wherever the expression has no wildcard. -/
theorem matchTokens_iff {wild : List Char → Prop} [DecidablePred wild]
    (narrow : ∀ part, wild part → Open part)
    (accepted : AcceptedPattern pattern) (inner : pattern ≠ "/")
    (observed : isObservedRoute route = true) :
    PolicyEvaluator.matchTokens (.char '/' :: List.intercalate [.char '/']
        ((slashSegments pattern).map (partTokens wild))) route.toList = true ↔
      Corresponds route pattern ∧ ¬Repeats '/' route.toList ∧
        List.Forall₂ (fun patternPart routePart =>
            ¬wild patternPart → routePart = patternPart)
          (PolicyEvaluator.routeSegments pattern)
          (PolicyEvaluator.routeSegments route) := by
  have proper := (accepted.isPath inner).1
  have patternParts : PolicyEvaluator.routeSegments pattern =
      slashSegments pattern := if_neg inner
  unfold Corresponds
  rw [matchTokens_path proper, patternParts]
  constructor
  · rintro ⟨routeParts, shape, fits⟩
    have parts : PolicyEvaluator.routeSegments route = routeParts :=
      (if_neg (ne_root_of_isPath shape)).trans (segments_of_isPath shape)
    rw [parts]
    refine ⟨fits.imp ?_, shape.not_repeats, fits.imp fun _ _ here => here.2⟩
    intro patternPart routePart here
    by_cases free : wild patternPart
    · exact .inl (narrow patternPart free)
    · exact .inr (here.2 free).symm
  · rintro ⟨corresponds, once, static⟩
    have inner' : route ≠ "/" := by
      rintro rfl
      have empty : slashSegments pattern = [] :=
        List.forall₂_nil_right_iff.mp corresponds
      exact proper.1 empty
    have shape := isPath_slashSegments (observed_absolute observed) inner' once
    have parts : PolicyEvaluator.routeSegments route = slashSegments route :=
      if_neg inner'
    rw [parts] at static
    refine ⟨slashSegments route, shape, ?_⟩
    exact fits_of_static static shape.1.2

/-- The browser session accepts a route that corresponds and repeats no
slash. -/
theorem playwright_matches_iff (accepted : AcceptedPattern pattern)
    (inner : pattern ≠ "/") (observed : isObservedRoute route = true) :
    PlaywrightSurfaceSession.routeMatches route pattern = true ↔
      Corresponds route pattern ∧ ¬Repeats '/' route.toList := by
  have tokens : PlaywrightSurfaceSession.segmentTokens = partTokens Open := rfl
  unfold PlaywrightSurfaceSession.routeMatches
  rw [tokens, matchTokens_iff (fun _ free => free) accepted inner observed]
  constructor
  · rintro ⟨corresponds, once, -⟩
    exact ⟨corresponds, once⟩
  · rintro ⟨corresponds, once⟩
    refine ⟨corresponds, once, corresponds.imp ?_⟩
    intro patternPart routePart here fixed
    exact (here.resolve_left fixed).symm

/-- The evaluator wants the bare colons to stand as well. -/
theorem evaluator_matches_iff (accepted : AcceptedPattern pattern)
    (inner : pattern ≠ "/") (observed : isObservedRoute route = true) :
    PolicyEvaluator.routeMatches route pattern = true ↔
      Corresponds route pattern ∧ ¬Repeats '/' route.toList ∧
        ColonsStand route pattern := by
  have tokens : PolicyEvaluator.segmentTokens = partTokens Named := rfl
  have parts : PolicyEvaluator.routeSegments pattern = slashSegments pattern :=
    if_neg inner
  unfold PolicyEvaluator.routeMatches
  rw [observed_guard observed]
  simp only [Bool.false_eq_true, if_false]
  rw [parts, tokens, matchTokens_iff (fun _ free => open_iff.mpr (.inl free))
    accepted inner observed]
  refine and_congr_right fun corresponds => and_congr_right fun _ => ?_
  constructor
  · intro static
    refine static.imp fun patternPart routePart here bare => ?_
    exact (here (not_named_of_bare bare)).trans bare
  · intro stand
    refine (forall₂_both stand corresponds).imp ?_
    rintro patternPart routePart ⟨colon, here⟩ fixed
    rcases here with free | same
    · have bare : Bare patternPart := (open_iff.mp free).resolve_left fixed
      exact (colon bare).trans bare.symm
    · exact same.symm

/-- The root pattern takes a second slash for a trailing one in the
expressions only. -/
theorem root_matches (observed : isObservedRoute route = true) :
    (PolicyEvaluator.routeMatches route "/" = true ↔
        route = "/" ∨ route = "//") ∧
      (PlaywrightSurfaceSession.routeMatches route "/" = true ↔
        route = "/" ∨ route = "//") ∧
      (matchesSegments route "/" = true ↔ route = "/") := by
  have single : PolicyEvaluator.matchTokens [.char '/'] route.toList = true ↔
      route = "/" ∨ route = "//" := by
    rw [matchTokens_char]
    simp only [matchTokens_nil, ← String.toList_inj]
    constructor
    · rintro ⟨rest, same, rfl | rfl⟩
      · exact .inl same
      · exact .inr same
    · rintro (same | same)
      · exact ⟨[], same, .inl rfl⟩
      · exact ⟨['/'], same, .inr rfl⟩
  refine ⟨?_, single, ?_⟩
  · unfold PolicyEvaluator.routeMatches
    rw [observed_guard observed]
    exact single
  · rw [matchesSegments_iff observed]
    unfold Corresponds
    constructor
    · intro corresponds
      have empty : PolicyEvaluator.routeSegments route = [] :=
        List.forall₂_nil_left_iff.mp corresponds
      by_contra inner
      unfold PolicyEvaluator.routeSegments at empty
      rw [if_neg inner] at empty
      exact List.splitOn_ne_nil _ _ empty
    · rintro rfl
      exact .nil

end Matchers

/-- The four matchers give one answer. -/
def MatchersAgree (route pattern : String) : Prop :=
  TraceArtifactCompiler.routeMatches route pattern =
      PolicyEvaluator.routeMatches route pattern ∧
    PlaywrightSurfaceSession.routeMatches route pattern =
      PolicyEvaluator.routeMatches route pattern ∧
    ApplicationRegistration.routeMatches route pattern =
      PolicyEvaluator.routeMatches route pattern

instance (route pattern : String) : Decidable (MatchersAgree route pattern) :=
  inferInstanceAs (Decidable (_ ∧ _))

/-- The matchers agree on a pattern and a route exactly where the static
segments differ anyway, or the route repeats no slash and has a colon at every
bare colon of the pattern. -/
theorem matchersAgree_iff {route pattern : String}
    (accepted : AcceptedPattern pattern)
    (observed : isObservedRoute route = true) :
    MatchersAgree route pattern ↔
      if pattern = "/" then route ≠ "//"
      else Corresponds route pattern →
        ¬Repeats '/' route.toList ∧ ColonsStand route pattern := by
  unfold MatchersAgree TraceArtifactCompiler.routeMatches
    ApplicationRegistration.routeMatches
  rw [@Bool.eq_iff_iff (matchesSegments route pattern),
    @Bool.eq_iff_iff (PlaywrightSurfaceSession.routeMatches route pattern)]
  by_cases root : pattern = "/"
  · subst root
    obtain ⟨evaluator, playwright, segments⟩ := root_matches observed
    rw [evaluator, playwright, segments, if_pos rfl]
    constructor
    · rintro ⟨agree, -, -⟩ rfl
      exact absurd (agree.mpr (.inr rfl)) (by decide)
    · intro single
      simp [single]
  · rw [if_neg root, evaluator_matches_iff accepted root observed,
      playwright_matches_iff accepted root observed,
      matchesSegments_iff observed]
    constructor
    · rintro ⟨agree, -, -⟩ corresponds
      exact (agree.mp corresponds).2
    · intro stand
      refine ⟨⟨fun here => ⟨here, stand here⟩, And.left⟩,
        ⟨fun here => ⟨here.1, stand here.1⟩, fun here => ⟨here.1, here.2.1⟩⟩,
        ⟨fun here => ⟨here, stand here⟩, And.left⟩⟩

/-- On an ordinary path the matchers agree. -/
theorem matchersAgree_account :
    MatchersAgree "/accounts/7" "/accounts/:id" :=
  (matchersAgree_iff ⟨by decide, by decide⟩ (by decide)).mpr (by decide)

/-- A bare colon is a wildcard for all but the evaluator. -/
theorem not_matchersAgree : ¬∀ route pattern, AcceptedPattern pattern →
    isObservedRoute route = true → MatchersAgree route pattern := by
  intro agree
  exact absurd (agree "/x" "/:" ⟨by decide, by decide⟩ (by decide))
    (by decide)

end ReplayForge

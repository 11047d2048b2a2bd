import Mathlib.Data.List.Forall2
import ReplayForge.Data.Segments
import ReplayForge.Policy.Evaluator

/-!
# The route matchers

Four components decide whether a route fits a pattern.  The evaluator and the
browser session compile the pattern to an expression, the discovery compiler
and the application registration compare segment lists.
-/

namespace ReplayForge

open PolicyEvaluator Segments

/-- `strip("/").split("/")` -/
def slashSegments (path : String) : List (List Char) :=
  let trimmed := path.toList.dropWhile (· = '/')
  let trimmed := (trimmed.reverse.dropWhile (· = '/')).reverse
  trimmed.splitOn '/'

/-- Compare the segments of a route with those of a pattern. -/
def matchesSegments (route pattern : String) : Bool :=
  if !Text.hasPrefix route "/" || '?' ∈ route.toList ||
      '#' ∈ route.toList then
    false
  else
    let routeParts := routeSegments route
    let patternParts := routeSegments pattern
    decide (routeParts.length = patternParts.length) &&
      (routeParts.zip patternParts).all fun (routePart, patternPart) =>
        patternPart = ['*'] || patternPart.head? = some ':' ||
          patternPart = routePart

/-- `_route_matches` of the discovery compiler. -/
def TraceArtifactCompiler.routeMatches (route pattern : String) : Bool :=
  matchesSegments route pattern

/-- `_route_matches` of the application registration. -/
def ApplicationRegistration.routeMatches (route pattern : String) : Bool :=
  matchesSegments route pattern

namespace PlaywrightSurfaceSession

def segmentTokens (segment : List Char) : List RouteToken :=
  if segment = ['*'] ∨ segment.head? = some ':' then [.segment]
  else segment.map .char

/-- `PlaywrightSurfaceSession._route_matches` -/
def routeMatches (route pattern : String) : Bool :=
  let pieces := (slashSegments pattern).map segmentTokens
  matchTokens (.char '/' :: List.intercalate [.char '/'] pieces) route.toList

end PlaywrightSurfaceSession

/-! ## Compiled expressions -/

section Tokens

variable {tokens : List RouteToken} {text : List Char}

theorem matchTokens_nil :
    matchTokens [] text = true ↔ text = [] ∨ text = ['/'] := by
  match text with
  | [] => simp [matchTokens]
  | [char] => simp [matchTokens]
  | first :: second :: rest => simp [matchTokens]

/-- Escaped text stands for itself. -/
theorem matchTokens_chars (expected : List Char) :
    matchTokens (expected.map .char ++ tokens) text = true ↔
      ∃ rest, text = expected ++ rest ∧ matchTokens tokens rest = true := by
  induction expected generalizing text with
  | nil => simp
  | cons char expected ih =>
      cases text with
      | nil => simp [matchTokens]
      | cons head text =>
          simp only [List.map_cons, List.cons_append, matchTokens,
            Bool.and_eq_true, decide_eq_true_eq, ih, List.cons.injEq]
          constructor
          · rintro ⟨rfl, rest, rfl, matched⟩
            exact ⟨rest, ⟨rfl, rfl⟩, matched⟩
          · rintro ⟨rest, ⟨rfl, rfl⟩, matched⟩
            exact ⟨rfl, rest, rfl, matched⟩

theorem matchTokens_char {char : Char} :
    matchTokens (.char char :: tokens) text = true ↔
      ∃ rest, text = char :: rest ∧ matchTokens tokens rest = true :=
  matchTokens_chars [char]

/-- A wildcard stands for some text without a slash. -/
theorem matchTokens_segment :
    matchTokens (.segment :: tokens) text = true ↔
      ∃ part rest, text = part ++ rest ∧ part ≠ [] ∧ '/' ∉ part ∧
        matchTokens tokens rest = true := by
  induction text with
  | nil =>
      constructor
      · intro matched
        simp [matchTokens] at matched
      · rintro ⟨part, rest, empty, some, -⟩
        exact absurd (List.append_eq_nil_iff.mp empty.symm).1 some
  | cons head text ih =>
      simp only [matchTokens, Bool.and_eq_true, Bool.or_eq_true, ih,
        decide_eq_true_eq]
      constructor
      · rintro ⟨apart, matched | ⟨part, rest, rfl, -, clean, matched⟩⟩
        · exact ⟨[head], text, rfl, by simp, by simp [Ne.symm apart], matched⟩
        · exact ⟨head :: part, rest, rfl, by simp,
            by simp [Ne.symm apart, clean], matched⟩
      · rintro ⟨part, rest, same, some, clean, matched⟩
        cases part with
        | nil => exact absurd rfl some
        | cons first part =>
            rw [List.cons_append, List.cons.injEq] at same
            obtain ⟨rfl, rfl⟩ := same
            rw [List.mem_cons, not_or] at clean
            refine ⟨Ne.symm clean.1, ?_⟩
            cases part with
            | nil => exact .inl matched
            | cons second part =>
                exact .inr ⟨second :: part, rest, rfl, by simp, clean.2,
                  matched⟩

end Tokens

section Expressions

variable {wild : List Char → Prop} [DecidablePred wild]

/-- The expression of one segment. -/
def partTokens (wild : List Char → Prop) [DecidablePred wild]
    (part : List Char) : List RouteToken :=
  if wild part then [.segment] else part.map .char

/-- A wildcard takes any segment, a static segment only itself. -/
def Fits (wild : List Char → Prop) (patternPart routePart : List Char) : Prop :=
  (wild patternPart → routePart ≠ [] ∧ '/' ∉ routePart) ∧
    (¬wild patternPart → routePart = patternPart)

theorem matchTokens_part {part text : List Char} {tokens : List RouteToken} :
    matchTokens (partTokens wild part ++ tokens) text = true ↔
      ∃ taken rest, text = taken ++ rest ∧ Fits wild part taken ∧
        matchTokens tokens rest = true := by
  unfold partTokens Fits
  by_cases free : wild part
  · rw [if_pos free, List.singleton_append, matchTokens_segment]
    constructor
    · rintro ⟨taken, rest, same, some, clean, matched⟩
      exact ⟨taken, rest, same, ⟨fun _ => ⟨some, clean⟩, absurd free⟩, matched⟩
    · rintro ⟨taken, rest, same, ⟨fits, -⟩, matched⟩
      obtain ⟨some, clean⟩ := fits free
      exact ⟨taken, rest, same, some, clean, matched⟩
  · rw [if_neg free, matchTokens_chars]
    constructor
    · rintro ⟨rest, same, matched⟩
      exact ⟨part, rest, same, ⟨(absurd · free), fun _ => rfl⟩, matched⟩
    · rintro ⟨taken, rest, same, ⟨-, fits⟩, matched⟩
      rw [fits free] at same
      exact ⟨rest, same, matched⟩

theorem matchTokens_parts {patternParts : List (List Char)}
    (some : patternParts ≠ []) {text : List Char} :
    matchTokens (List.intercalate [.char '/']
        (patternParts.map (partTokens wild))) text = true ↔
      ∃ routeParts, List.Forall₂ (Fits wild) patternParts routeParts ∧
        (text = ['/'].intercalate routeParts ∨
          text = ['/'].intercalate routeParts ++ ['/']) := by
  induction patternParts generalizing text with
  | nil => exact absurd rfl some
  | cons part rest ih =>
      cases rest with
      | nil =>
          rw [List.map_singleton, List.intercalate_singleton,
            ← List.append_nil (partTokens wild part), matchTokens_part]
          simp only [matchTokens_nil]
          constructor
          · rintro ⟨taken, last, rfl, fits, ended⟩
            refine ⟨[taken], .cons fits .nil, ?_⟩
            rcases ended with rfl | rfl
            · simp
            · simp
          · rintro ⟨routeParts, fits, shape⟩
            obtain ⟨taken, others, here, none, rfl⟩ :=
              List.forall₂_cons_left_iff.mp fits
            cases none
            rcases shape with rfl | rfl
            · exact ⟨taken, [], by simp, here, .inl rfl⟩
            · exact ⟨taken, ['/'], by simp, here, .inr rfl⟩
      | cons next rest =>
          rw [List.map_cons, List.map_cons, List.intercalate_cons_cons,
            List.append_assoc, matchTokens_part]
          simp only [List.cons_append, List.nil_append, matchTokens_char]
          have later := fun text => @ih (List.cons_ne_nil next rest) text
          simp only [List.map_cons] at later
          simp only [later]
          constructor
          · rintro ⟨taken, _, rfl, fits, text, rfl, routeParts, others, shape⟩
            have more : routeParts ≠ [] := by
              rintro rfl
              cases others
            refine ⟨taken :: routeParts, .cons fits others, ?_⟩
            rw [List.intercalate_cons_of_ne_nil more]
            rcases shape with rfl | rfl
            · simp
            · simp
          · rintro ⟨routeParts, fits, shape⟩
            obtain ⟨taken, others, here, there, rfl⟩ :=
              List.forall₂_cons_left_iff.mp fits
            have more : others ≠ [] := by
              rintro rfl
              cases there
            rw [List.intercalate_cons_of_ne_nil more] at shape
            rcases shape with rfl | rfl
            · exact ⟨taken, '/' :: ['/'].intercalate others, by simp, here,
                ['/'].intercalate others, rfl, others, there, .inl rfl⟩
            · exact ⟨taken, '/' :: (['/'].intercalate others ++ ['/']),
                by simp, here, ['/'].intercalate others ++ ['/'], rfl, others,
                there, .inr rfl⟩

theorem Fits.sound {patternPart routePart : List Char}
    (fits : Fits wild patternPart routePart)
    (sound : patternPart ≠ [] ∧ '/' ∉ patternPart) :
    routePart ≠ [] ∧ '/' ∉ routePart := by
  by_cases free : wild patternPart
  · exact fits.1 free
  · rw [fits.2 free]
    exact sound

theorem proper_of_fits {patternParts routeParts : List (List Char)}
    (proper : Proper '/' patternParts)
    (fits : List.Forall₂ (Fits wild) patternParts routeParts) :
    Proper '/' routeParts := by
  obtain ⟨some, each⟩ := proper
  constructor
  · rintro rfl
    exact some (List.forall₂_nil_right_iff.mp fits)
  · clear some
    induction fits with
    | nil => nofun
    | cons here _ ih =>
        rw [List.forall_mem_cons] at each ⊢
        exact ⟨here.sound each.1, ih each.2⟩

/-- The expression of a path accepts the paths whose segments fit. -/
theorem matchTokens_path {patternParts : List (List Char)}
    (proper : Proper '/' patternParts) {text : List Char} :
    matchTokens (.char '/' :: List.intercalate [.char '/']
        (patternParts.map (partTokens wild))) text = true ↔
      ∃ routeParts, IsPath '/' text routeParts ∧
        List.Forall₂ (Fits wild) patternParts routeParts := by
  rw [matchTokens_char]
  simp only [matchTokens_parts proper.1]
  constructor
  · rintro ⟨rest, rfl, routeParts, fits, shape⟩
    refine ⟨routeParts, ⟨proper_of_fits proper fits, ?_⟩, fits⟩
    rcases shape with rfl | rfl
    · exact .inl rfl
    · exact .inr rfl
  · rintro ⟨routeParts, ⟨-, shape⟩, fits⟩
    rcases shape with rfl | rfl
    · exact ⟨_, rfl, routeParts, fits, .inl rfl⟩
    · exact ⟨_, rfl, routeParts, fits, .inr rfl⟩

end Expressions

end ReplayForge

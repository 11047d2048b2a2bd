import ReplayForge.Policy.Models
import ReplayForge.Shared.Host

/-!
# Deny-by-default policy evaluation

The evaluation time and the decision's identifier are left out: no caller
reads either.
-/

namespace ReplayForge

namespace PolicyEvaluator

def sensitiveTargetWords : List String :=
  ["transfer", "wire", "close account", "approve", "reveal", "full account"]

def irreversibleTargetWords : List String :=
  ["submit transfer", "send wire", "close account", "delete account"]

variable (host : Host)

def canonicalOrigin (origin : String) : Option String :=
  if origin.toList.any Text.isSpace || '?' ∈ origin.toList ||
      '#' ∈ origin.toList then
    none
  else
    match host.urlsplit origin with
    | none => none
    | some parsed =>
        match parsed.hostname with
        | none => none
        | some hostname =>
            if (parsed.scheme ≠ "http" ∧ parsed.scheme ≠ "https") ∨
                hostname = "" then
              none
            else if (parsed.username.any (· ≠ "")) ||
                (parsed.password.any (· ≠ "")) ||
                (parsed.path ≠ "" && parsed.path ≠ "/") ||
                parsed.query ≠ "" || parsed.fragment ≠ "" then
              none
            else
              let lowered := host.lower hostname
              let bracketed :=
                if ':' ∈ lowered.toList then "[" ++ lowered ++ "]" else lowered
              match parsed.port with
              | none => none
              | some port =>
                  let suffix :=
                    match port with
                    | some number => ":" ++ toString number
                    | none => ""
                  some (host.lower parsed.scheme ++ "://" ++ bracketed ++ suffix)

/-- The tokens of the expression a route pattern is compiled to. -/
inductive RouteToken where
  /-- One escaped character. -/
  | char (char : Char)
  /-- `[^/]+` -/
  | segment
deriving DecidableEq

/-- The segments of a pattern, `pattern.strip("/").split("/")`. -/
def routeSegments (pattern : String) : List (List Char) :=
  if pattern = "/" then []
  else
    let trimmed := pattern.toList.dropWhile (· = '/')
    let trimmed := (trimmed.reverse.dropWhile (· = '/')).reverse
    trimmed.splitOn '/'

def segmentTokens (segment : List Char) : List RouteToken :=
  if segment = ['*'] ∨ (segment.head? = some ':' ∧ 1 < segment.length) then
    [.segment]
  else
    segment.map .char

/-- Match the whole text against the tokens followed by `/?`. -/
def matchTokens : List RouteToken → List Char → Bool
  | [], [] => true
  | [], [char] => char = '/'
  | [], _ :: _ :: _ => false
  | _ :: _, [] => false
  | .char expected :: tokens, char :: rest =>
      expected = char && matchTokens tokens rest
  | .segment :: tokens, char :: rest =>
      char ≠ '/' &&
        (matchTokens tokens rest || matchTokens (.segment :: tokens) rest)

def routeMatches (route pattern : String) : Bool :=
  if !Text.hasPrefix route "/" || '?' ∈ route.toList ||
      '#' ∈ route.toList then
    false
  else
    let parts := (routeSegments pattern).map segmentTokens
    matchTokens (.char '/' :: List.intercalate [.char '/'] parts) route.toList

def inferRisk (context : ActionContext) : Risk :=
  let description := host.casefold context.targetDescription
  let inferred :=
    -- Viewport movement activates no control; the registered floor remains.
    if context.actionType = "scroll" then
      context.registeredTargetRisk.getD .readOnly
    else if irreversibleTargetWords.any (Text.containsText description) then
      .irreversible
    else if sensitiveTargetWords.any (Text.containsText description) then
      .sensitive
    else
      match context.registeredTargetRisk with
      | some risk => risk
      | none =>
          if context.actionType = "type" ∨ context.actionType = "select" then
            .reversible
          else
            .readOnly
  Risk.max context.declaredRisk inferred

def locationAllowed (policy : EffectivePolicy) (origin route : String) :
    Bool :=
  match canonicalOrigin host origin with
  | none => false
  | some canonical =>
      decide (canonical ∈ policy.allowedOrigins) &&
        policy.allowedRoutePatterns.any fun pattern => routeMatches route pattern

def denial (policy : EffectivePolicy) (risk : Risk)
    (reasonCode explanation : String) : Except Raised PolicyDecision :=
  PolicyDecision.make {
    decision := .deny
    reasonCode
    explanation
    matchedLayers := policy.layerNames
    effectiveRisk := risk
    requiredEvidence := ["policy_context"]
    redactionDirectives := ["mask_customer_identifiers"] }

def evaluate (policy : EffectivePolicy) (context : ActionContext) :
    Except Raised PolicyDecision :=
  let risk := inferRisk host context
  let expectedOwner :=
    match context.principalType with
    | .human => "human:" ++ context.principalId
    | .automation => "automation"
  if context.controlOwner ≠ expectedOwner then
    denial policy risk "control_owner_mismatch"
      "The principal does not own the live session control lease."
  else if context.principalType = .human ∧ context.runMode ≠ .humanControl then
    denial policy risk "principal_mode_mismatch"
      "Human input is accepted only while the run is in human-control mode."
  else if !(canonicalOrigin host context.origin).any
      (· ∈ policy.allowedOrigins) then
    denial policy risk "origin_not_allowed"
      "The current origin is not allowlisted."
  else if !locationAllowed host policy context.origin context.route then
    denial policy risk "route_not_allowed"
      "The current route is not allowlisted."
  else if context.actionType ∉ policy.allowedActionTypes then
    denial policy risk "action_not_allowed"
      "The action type is not allowlisted."
  else if context.fieldClassification.any (· ∈ policy.forbiddenFieldClasses) then
    denial policy risk "field_classification_forbidden"
      "Policy forbids input into this field classification."
  else if risk = .irreversible then
    denial policy risk "irreversible_action_blocked"
      "Irreversible actions are blocked in this environment."
  else if policy.maximumRisk.rank < risk.rank then
    denial policy risk "risk_exceeds_policy"
      "The independently classified risk exceeds the effective policy ceiling."
  else if risk = .sensitive then
    PolicyDecision.make {
      decision := .requireHumanApproval
      reasonCode := "sensitive_action_requires_approval"
      explanation := "A scoped, single-use human approval is required."
      matchedLayers := policy.layerNames
      effectiveRisk := risk
      requiredEvidence := ["policy_context", "pre_action_screenshot"]
      redactionDirectives := ["mask_customer_identifiers"] }
  else
    PolicyDecision.make {
      decision := .allow
      reasonCode := "policy_allowed"
      explanation := "The action satisfies every effective policy layer."
      matchedLayers := policy.layerNames
      effectiveRisk := risk
      requiredEvidence := ["action_intent", "action_result"]
      redactionDirectives := ["mask_customer_identifiers"] }

end PolicyEvaluator

end ReplayForge

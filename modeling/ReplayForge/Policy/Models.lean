import ReplayForge.Policy.Types
import ReplayForge.Shared.Text
import ReplayForge.Shared.Host
import ReplayForge.Surfaces.Errors

/-!
# Policy layers, contexts and decisions

A frozen set is the list of its members in iteration order.
-/

namespace ReplayForge

inductive PrincipalType where
  | automation
  | human
deriving DecidableEq, Repr

inductive RunMode where
  | discovery
  | replay
  | humanControl
deriving DecidableEq, Repr

structure PolicyLayer where
  name : String
  allowedOrigins : List String
  allowedRoutePatterns : List String
  allowedActionTypes : List String
  maximumRisk : Risk
  forbiddenFieldClasses : List DataClassification :=
    [.credential, .secret]
deriving DecidableEq

namespace PolicyLayer

/-- A credential-free HTTP origin.  Splitting it or reading its port may
raise. -/
def checkOrigin (host : Host) (origin : String) : Except Raised Unit :=
  match host.urlsplit origin with
  | none => .error (.value "the origin cannot be split")
  | some parsed => do
      require parsed.port.isSome "policy origin contains an invalid port"
      require ((parsed.scheme = "http" || parsed.scheme = "https") &&
          parsed.hostname.any (· ≠ "") && !parsed.username.any (· ≠ "") &&
          !parsed.password.any (· ≠ "") && parsed.path = "" &&
          parsed.query = "" && parsed.fragment = "" &&
          '?' ∉ origin.toList && '#' ∉ origin.toList &&
          !origin.toList.any Text.isSpace)
        "policy origins must be credential-free HTTP origins"

def checkRoutePattern (pattern : String) : Except Raised Unit :=
  require (Text.hasPrefix pattern "/" && '?' ∉ pattern.toList &&
      '#' ∉ pattern.toList && !Text.containsText pattern "//" &&
      !Text.containsText pattern "..")
    "policy route patterns must be absolute paths"

/-- `PolicyLayer(...)` -/
def make (host : Host) (layer : PolicyLayer) : Except Raised PolicyLayer := do
  require (Pattern.ident Pattern.address 0 (some 63) layer.name)
    "policy layer name must be a stable identifier"
  layer.allowedOrigins.forM (checkOrigin host)
  layer.allowedRoutePatterns.forM checkRoutePattern
  require (layer.allowedActionTypes.all (Pattern.ident Pattern.word 0 none))
    "policy action types must be stable identifiers"
  pure layer

/-- The layer's name can be reported. -/
theorem name_of_make {host : Host} {layer made : PolicyLayer}
    (checked : layer.make host = .ok made) :
    Text.isBlank layer.name = false := by
  unfold make at checked
  rw [check_bind_eq_ok, require_eq_ok] at checked
  obtain ⟨named, -⟩ := checked
  unfold Pattern.ident at named
  unfold Text.isBlank
  split at named
  next => cases named
  next head rest same =>
    simp only [Bool.and_eq_true] at named
    obtain ⟨⟨⟨lower, -⟩, -⟩, -⟩ := named
    rw [same, List.all_cons, Text.not_isSpace_of_lower lower, Bool.false_and]

end PolicyLayer

structure EffectivePolicy where
  layerNames : List String
  allowedOrigins : List String
  allowedRoutePatterns : List String
  allowedActionTypes : List String
  maximumRisk : Risk
  forbiddenFieldClasses : List DataClassification

/-- `frozenset.intersection` of a non-empty family of sets. -/
def intersection (first : List String) (rest : List (List String)) :
    List String :=
  first.filter fun item => rest.all fun other => item ∈ other

def EffectivePolicy.intersect (layers : List PolicyLayer) :
    Except Raised EffectivePolicy :=
  match layers with
  | [] => .error (.value "at least one policy layer is required")
  | first :: rest =>
      .ok {
        layerNames := layers.map PolicyLayer.name
        allowedOrigins :=
          intersection first.allowedOrigins (rest.map PolicyLayer.allowedOrigins)
        allowedRoutePatterns :=
          intersection first.allowedRoutePatterns
            (rest.map PolicyLayer.allowedRoutePatterns)
        allowedActionTypes :=
          intersection first.allowedActionTypes
            (rest.map PolicyLayer.allowedActionTypes)
        maximumRisk :=
          (rest.map PolicyLayer.maximumRisk).foldl Risk.min first.maximumRisk
        forbiddenFieldClasses :=
          (layers.flatMap PolicyLayer.forbiddenFieldClasses).dedup }

structure ActionContext where
  principalType : PrincipalType
  principalId : String
  runMode : RunMode
  applicationFamily : String
  tenant : String
  origin : String
  route : String
  actionType : String
  targetDescription : String
  declaredRisk : Risk
  controlOwner : String
  fieldClassification : Option DataClassification := none
  registeredTargetRisk : Option Risk := none

structure PolicyDecision where
  decision : Decision
  reasonCode : String
  explanation : String
  matchedLayers : List String
  effectiveRisk : Risk
  requiredEvidence : List String
  redactionDirectives : List String
deriving DecidableEq

namespace PolicyDecision

/-- A tuple of names that is neither empty, repeated nor blank. -/
def namesValues (values : List String) : Bool :=
  !values.isEmpty && values.Nodup && values.all fun value => !Text.isBlank value

def make (decision : PolicyDecision) : Except Raised PolicyDecision := do
  require (Pattern.ident Pattern.word 0 none decision.reasonCode)
    "policy reason code must be a stable identifier"
  require (!Text.isBlank decision.explanation)
    "policy explanation cannot be empty"
  require (namesValues decision.matchedLayers)
    "policy matched layers must be non-empty and unique"
  require (namesValues decision.requiredEvidence)
    "policy required evidence must be non-empty and unique"
  require (namesValues decision.redactionDirectives)
    "policy redaction directives must be non-empty and unique"
  pure decision

end PolicyDecision

end ReplayForge

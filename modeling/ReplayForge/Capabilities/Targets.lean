import ReplayForge.Policy.Types
import ReplayForge.Shared.Text
import ReplayForge.Surfaces.Errors
import Mathlib.Algebra.Order.Ring.Rat

/-!
# Locators and targets

Each model carries a `validate` function with its field bounds and its model
validator.  Region coordinates are rationals.
-/

namespace ReplayForge

/-- `field or None` used as a truth value. -/
def isPresent (field : Option String) : Bool :=
  field.any (· ≠ "")

inductive MatchMode where
  | exact
  | contains
  | regex
deriving DecidableEq, Repr

inductive LocatorStrategy where
  | roleName
  | label
  | text
  | relativeText
  | placeholder
  | title
  | css
  | accessibilityPath
  | imageAnchor
  | coordinates
deriving DecidableEq, Repr

inductive Portability where
  | high
  | medium
  | low
deriving DecidableEq, Repr

structure LocatorCandidate where
  strategy : LocatorStrategy
  expectedCount : Nat := 1
  value : Option String := none
  role : Option String := none
  name : Option String := none
  matchMode : MatchMode := .exact
  anchor : Option String := none
  relation : Option String := none
  element : Option String := none
  text : Option String := none
  captureGroupLabel : Option String := none
  x : Option Nat := none
  y : Option Nat := none
  width : Option Nat := none
  height : Option Nat := none
  viewportWidth : Option Nat := none
  viewportHeight : Option Nat := none
  portability : Portability := .high
deriving DecidableEq

namespace LocatorCandidate

/-- The strategy-specific fields that are set. -/
def populated (candidate : LocatorCandidate) : List String :=
  let entry (name : String) (isSet : Bool) := if isSet then [name] else []
  entry "value" candidate.value.isSome ++
  entry "role" candidate.role.isSome ++
  entry "name" candidate.name.isSome ++
  entry "anchor" candidate.anchor.isSome ++
  entry "relation" candidate.relation.isSome ++
  entry "element" candidate.element.isSome ++
  entry "text" candidate.text.isSome ++
  entry "capture_group_label" candidate.captureGroupLabel.isSome ++
  entry "x" candidate.x.isSome ++
  entry "y" candidate.y.isSome ++
  entry "width" candidate.width.isSome ++
  entry "height" candidate.height.isSome ++
  entry "viewport_width" candidate.viewportWidth.isSome ++
  entry "viewport_height" candidate.viewportHeight.isSome

/-- The strategy-specific fields a strategy may set. -/
def allowedFields : LocatorStrategy → List String
  | .roleName => ["role", "name"]
  | .relativeText => ["anchor", "relation", "element", "text"]
  | .coordinates =>
      ["capture_group_label", "x", "y", "width", "height", "viewport_width",
        "viewport_height"]
  | _ => ["value"]

def validateCoordinates (candidate : LocatorCandidate) : Except Raised Unit :=
  match candidate.x, candidate.y, candidate.width, candidate.height,
    candidate.viewportWidth, candidate.viewportHeight with
  | some x, some y, some width, some height, some viewportWidth,
      some viewportHeight => do
      require (x + width ≤ viewportWidth && y + height ≤ viewportHeight)
        "coordinate region must fit inside the recorded viewport"
      require (candidate.portability = .low)
        "coordinate locator must declare low portability"
  | _, _, _, _, _, _ =>
      .error (.value
        "coordinate locator requires a region and viewport dimensions")

def validate (candidate : LocatorCandidate) : Except Raised Unit := do
  require (1 ≤ candidate.expectedCount && candidate.expectedCount ≤ 20)
    "expected_count"
  require (candidate.captureGroupLabel.all fun label =>
    Text.isBounded label 1 (some 200)) "capture_group_label"
  require ([candidate.width, candidate.height, candidate.viewportWidth,
    candidate.viewportHeight].all fun size => size.all (0 < ·)) "size"
  require (candidate.strategy ≠ .roleName ||
      (isPresent candidate.role && isPresent candidate.name))
    "role_name locator requires role and name"
  require (candidate.strategy ≠ .relativeText ||
      (isPresent candidate.anchor && isPresent candidate.relation &&
        isPresent candidate.element))
    "relative_text locator requires anchor, relation, and element"
  require (candidate.strategy ∈ [.roleName, .relativeText, .coordinates] ||
      isPresent candidate.value)
    "locator requires value"
  if candidate.strategy = .coordinates then
    validateCoordinates candidate
  require (candidate.populated.all (· ∈ allowedFields candidate.strategy))
    "locator contains unrelated fields"

end LocatorCandidate

structure NormalizedRegion where
  x : Rat
  y : Rat
  width : Rat
  height : Rat
deriving DecidableEq

def NormalizedRegion.validate (region : NormalizedRegion) :
    Except Raised Unit := do
  require (0 ≤ region.x && region.x ≤ 1) "x"
  require (0 ≤ region.y && region.y ≤ 1) "y"
  require (0 < region.width && region.width ≤ 1) "width"
  require (0 < region.height && region.height ≤ 1) "height"
  require (region.x + region.width ≤ 1 && region.y + region.height ≤ 1)
    "normalized region must fit inside the viewport"

structure RelativeRegion where
  x : Rat
  y : Rat
  width : Rat
  height : Rat
deriving DecidableEq

def RelativeRegion.validate (region : RelativeRegion) :
    Except Raised Unit := do
  require (-20 ≤ region.x && region.x ≤ 20) "x"
  require (-20 ≤ region.y && region.y ≤ 20) "y"
  require (0 < region.width && region.width ≤ 40) "width"
  require (0 < region.height && region.height ≤ 40) "height"

structure OcrAnchor where
  value : String
  matchMode : MatchMode := .exact
  searchRegion : Option NormalizedRegion := none
  minimumConfidence : Rat := 85 / 100
deriving DecidableEq

def OcrAnchor.validate (anchor : OcrAnchor) : Except Raised Unit := do
  require (Text.isBounded anchor.value 1 (some 200)) "value"
  anchor.searchRegion.forM NormalizedRegion.validate
  require (0 ≤ anchor.minimumConfidence && anchor.minimumConfidence ≤ 1)
    "minimum_confidence"

inductive RelativeDirection where
  | rightOf
  | below
  | sameRow
deriving DecidableEq, Repr

/-- The candidates resolved from the rendered frame. -/
inductive VisualLocatorCandidate where
  /-- A runtime-bound identity, optionally anchoring a nearby named control;
  `path` is the bound input. -/
  | inputText (path : String) (targetText : Option String)
      (relation : Option RelativeDirection)
  | ocrText (value : String) (matchMode : MatchMode)
      (searchRegion : Option NormalizedRegion) (minimumConfidence : Rat)
      (portability : Portability)
  | ocrRelative (anchor : String) (anchorMatch : MatchMode)
      (targetText : Option String) (relation : RelativeDirection)
      (relativeRegion : Option RelativeRegion)
      (searchRegion : Option NormalizedRegion) (minimumConfidence : Rat)
      (portability : Portability)
  | imageAnchor (assetKey contentHash : String)
      (searchRegion : Option NormalizedRegion)
      (contextAnchor : Option OcrAnchor)
      (relativeSearchRegion : Option RelativeRegion)
      (minimumScore uniquenessMargin minimumScale maximumScale scaleStep : Rat)
      (portability : Portability)
  | renderedText (value : String) (matchMode : MatchMode)
  | renderedLabeledControl (label : String) (labelMatch : MatchMode)
  | renderedFieldValue (label : String) (labelMatch : MatchMode)
      (relation : Option RelativeDirection)
  | renderedGroupImage (groupLabel : String) (groupLabelMatch : MatchMode)
      (assetKey contentHash : String)
deriving DecidableEq

namespace VisualLocatorCandidate

def unitInterval (value : Rat) : Bool := 0 ≤ value && value ≤ 1

def validateAsset (assetKey contentHash : String) : Except Raised Unit := do
  require (Pattern.hexAfter "asset://sha256/" 64 assetKey) "asset_key"
  require (Pattern.hexAfter "sha256:" 64 contentHash) "content_hash"

def validate : VisualLocatorCandidate → Except Raised Unit
  | .inputText path targetText relation => do
      require (Pattern.dottedPath path) "path"
      require (targetText.all fun text => Text.isBounded text 1 (some 200))
        "target_text"
      require (targetText.isNone = relation.isNone)
        "an input-relative target requires both target_text and relation"
  | .ocrText value _ region confidence _ => do
      require (Text.isBounded value 1 (some 200)) "value"
      region.forM NormalizedRegion.validate
      require (unitInterval confidence) "minimum_confidence"
  | .ocrRelative anchor _ targetText _ relativeRegion region confidence _ => do
      require (Text.isBounded anchor 1 (some 200)) "anchor"
      require (targetText.all fun text => Text.isBounded text 1 (some 200))
        "target_text"
      relativeRegion.forM RelativeRegion.validate
      region.forM NormalizedRegion.validate
      require (unitInterval confidence) "minimum_confidence"
      require (targetText.isNone ≠ relativeRegion.isNone)
        "ocr_relative requires exactly one target_text or relative_region"
  | .imageAnchor assetKey contentHash region contextAnchor relativeRegion score
      margin minimumScale maximumScale scaleStep _ => do
      validateAsset assetKey contentHash
      region.forM NormalizedRegion.validate
      contextAnchor.forM OcrAnchor.validate
      relativeRegion.forM RelativeRegion.validate
      require (unitInterval score && unitInterval margin) "score"
      require (0 < minimumScale && minimumScale ≤ 4) "minimum_scale"
      require (0 < maximumScale && maximumScale ≤ 4) "maximum_scale"
      require (0 < scaleStep && scaleStep ≤ 1 / 2) "scale_step"
      require (minimumScale ≤ maximumScale)
        "minimum_scale cannot exceed maximum_scale"
      require (contextAnchor.isNone = relativeRegion.isNone)
        "context_anchor and relative_search_region must be provided together"
      require (contextAnchor.isNone || region.isNone)
        "contextual image anchors cannot also declare a top-level search_region"
  | .renderedText value _ => require (Text.isBounded value 1 (some 200)) "value"
  | .renderedLabeledControl label _ =>
      require (Text.isBounded label 1 (some 200)) "label"
  | .renderedFieldValue label _ relation => do
      require (Text.isBounded label 1 (some 200)) "label"
      require (relation ≠ some .sameRow) "relation"
  | .renderedGroupImage groupLabel _ assetKey contentHash => do
      require (Text.isBounded groupLabel 1 (some 200)) "group_label"
      validateAsset assetKey contentHash

/-- `_is_geometry_free_candidate` -/
def isGeometryFree : VisualLocatorCandidate → Bool
  | .inputText _ _ _ | .renderedText _ _ | .renderedLabeledControl _ _
  | .renderedFieldValue _ _ _ | .renderedGroupImage _ _ _ _ => true
  | .ocrRelative _ _ targetText _ relativeRegion region _ _ =>
      targetText.isSome && relativeRegion.isNone && region.isNone
  | .ocrText _ _ _ _ _ | .imageAnchor _ _ _ _ _ _ _ _ _ _ _ => false

/-- The candidate carries visual geometry, which schema 1.4 rejects. -/
def persistsGeometry : VisualLocatorCandidate → Bool
  | .imageAnchor _ _ _ _ _ _ _ _ _ _ _ => true
  | .ocrText _ _ region _ _ => region.isSome
  | .ocrRelative _ _ _ _ relativeRegion region _ _ =>
      relativeRegion.isSome || region.isSome
  | _ => false

end VisualLocatorCandidate

structure LocatorScope where
  window : String := "primary"
  /-- The locator of each enclosing frame. -/
  framePath : List LocatorCandidate := []
deriving DecidableEq

structure TargetState where
  visible : Bool := true
  enabled : Option Bool := none
deriving DecidableEq

structure LocatorBundle where
  description : String
  registeredRisk : Option Risk := none
  scope : LocatorScope := {}
  visualCandidates : List VisualLocatorCandidate := []
  candidates : List LocatorCandidate := []
  state : TargetState := {}
  tenantOverridesAllowed : Bool := false
deriving DecidableEq

namespace LocatorBundle

def validate (target : LocatorBundle) : Except Raised Unit := do
  require (Text.isBounded target.description 1 none) "description"
  require (Text.isStripped target.scope.window) "window"
  target.scope.framePath.forM LocatorCandidate.validate
  target.visualCandidates.forM VisualLocatorCandidate.validate
  target.candidates.forM LocatorCandidate.validate
  require (!target.visualCandidates.isEmpty || !target.candidates.isEmpty)
    "a locator bundle requires at least one candidate"

/-- The symbolic input paths a target is bound to. -/
def targetInputPaths (target : LocatorBundle) : List String :=
  target.visualCandidates.filterMap fun
    | .inputText path _ _ => some path
    | _ => none

end LocatorBundle

end ReplayForge

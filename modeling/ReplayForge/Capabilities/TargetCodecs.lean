import ReplayForge.Capabilities.ContractCodecs

/-!
# Codecs of locators and conditions
-/

namespace ReplayForge

open Codec ReplayForge.Part

def Risk.codec : Codec Risk :=
  .enum [.readOnly, .reversible, .sensitive, .irreversible] value
    fun risk => by cases risk <;> rfl

instance : Risk.codec.Steady := ⟨fun _ _ => rfl⟩

def MatchMode.value : MatchMode → String
  | .exact => "exact"
  | .contains => "contains"
  | .regex => "regex"

def MatchMode.codec : Codec MatchMode :=
  .enum [.exact, .contains, .regex] value fun mode => by cases mode <;> rfl

instance : MatchMode.codec.Steady := ⟨fun _ _ => rfl⟩

def LocatorStrategy.value : LocatorStrategy → String
  | .roleName => "role_name"
  | .label => "label"
  | .text => "text"
  | .relativeText => "relative_text"
  | .placeholder => "placeholder"
  | .title => "title"
  | .css => "css"
  | .accessibilityPath => "accessibility_path"
  | .imageAnchor => "image_anchor"
  | .coordinates => "coordinates"

def LocatorStrategy.codec : Codec LocatorStrategy :=
  .enum [.roleName, .label, .text, .relativeText, .placeholder, .title, .css,
    .accessibilityPath, .imageAnchor, .coordinates] value
    fun strategy => by cases strategy <;> rfl

instance : LocatorStrategy.codec.Steady := ⟨fun _ _ => rfl⟩

def Portability.value : Portability → String
  | .high => "high"
  | .medium => "medium"
  | .low => "low"

def Portability.codec : Codec Portability :=
  .enum [.high, .medium, .low] value fun portability => by
    cases portability <;> rfl

instance : Portability.codec.Steady := ⟨fun _ _ => rfl⟩

/-- A field that holds an enumeration member by default. -/
def matched (name : String) : Part MatchMode :=
  defaulted name MatchMode.codec .exact fun _ => trivial

instance {name : String} : (matched name).Steady := ⟨fun _ _ => rfl⟩

def portable (default : Portability) : Part Portability :=
  defaulted "portability" Portability.codec default fun _ => trivial

instance {default : Portability} : (portable default).Steady :=
  ⟨fun _ _ => rfl⟩

/-- A real number with a default. -/
def measured (name : String) (default : Rat) : Part Rat :=
  defaulted name real default fun _ => trivial

instance {name : String} {default : Rat} : (measured name default).Steady :=
  ⟨fun _ _ => rfl⟩

/-- A number with a default. -/
def numbered (name : String) (default : Nat) : Part Nat :=
  defaulted name nat default fun _ => trivial

instance {name : String} {default : Nat} : (numbered name default).Steady :=
  ⟨fun _ _ => rfl⟩

/-- A flag with a default. -/
def flag (name : String) (default : Bool) : Part Bool :=
  defaulted name bool default fun _ => trivial

instance {name : String} {default : Bool} : (flag name default).Steady :=
  ⟨fun _ _ => rfl⟩

/-- `expected_count: Literal[1] = 1` -/
def expectsOne : Part Unit :=
  constant false "expected_count" (.int 1) (.int 1) (fun _ => rfl) trivial

instance : expectsOne.Steady := ⟨fun _ _ => rfl⟩

def LocatorCandidate.codec : Codec LocatorCandidate :=
  .record <|
    ((required "strategy" LocatorStrategy.codec).both <|
    (numbered "expected_count" 1).both <|
    (Part.optional "value" Codec.text).both <|
    (Part.optional "role" Codec.text).both <|
    (Part.optional "name" Codec.text).both <|
    (matched "match").both <|
    (Part.optional "anchor" Codec.text).both <|
    (Part.optional "relation" Codec.text).both <|
    (Part.optional "element" Codec.text).both <|
    (Part.optional "text" Codec.text).both <|
    (Part.optional "capture_group_label" Codec.text).both <|
    (Part.optional "x" nat).both <|
    (Part.optional "y" nat).both <|
    (Part.optional "width" nat).both <|
    (Part.optional "height" nat).both <|
    (Part.optional "viewport_width" nat).both <|
    (Part.optional "viewport_height" nat).both <|
    portable .high).map
    (fun (strategy, expectedCount, value, role, name, matchMode, anchor,
        relation, element, text, captureGroupLabel, x, y, width, height,
        viewportWidth, viewportHeight, portability) =>
      { strategy, expectedCount, value, role, name, matchMode, anchor,
        relation, element, text, captureGroupLabel, x, y, width, height,
        viewportWidth, viewportHeight, portability })
    fun candidate =>
      (candidate.strategy, candidate.expectedCount, candidate.value,
        candidate.role, candidate.name, candidate.matchMode, candidate.anchor,
        candidate.relation, candidate.element, candidate.text,
        candidate.captureGroupLabel, candidate.x, candidate.y,
        candidate.width, candidate.height, candidate.viewportWidth,
        candidate.viewportHeight, candidate.portability)

instance : LocatorCandidate.codec.Steady :=
  steady_record (steady_map fun _ => rfl)

def NormalizedRegion.codec : Codec NormalizedRegion :=
  .record <|
    ((required "x" real).both <| (required "y" real).both <|
    (required "width" real).both <| required "height" real).map
    (fun (x, y, width, height) => { x, y, width, height })
    fun region => (region.x, region.y, region.width, region.height)

instance : NormalizedRegion.codec.Steady :=
  steady_record (steady_map fun _ => rfl)

def RelativeRegion.codec : Codec RelativeRegion :=
  .record <|
    ((required "x" real).both <| (required "y" real).both <|
    (required "width" real).both <| required "height" real).map
    (fun (x, y, width, height) => { x, y, width, height })
    fun region => (region.x, region.y, region.width, region.height)

instance : RelativeRegion.codec.Steady :=
  steady_record (steady_map fun _ => rfl)

def OcrAnchor.codec : Codec OcrAnchor :=
  .record <|
    ((required "value" text).both <|
    (matched "match").both <|
    (optional "search_region" NormalizedRegion.codec).both <|
    measured "minimum_confidence" (85 / 100)).map
    (fun (value, matchMode, searchRegion, minimumConfidence) =>
      { value, matchMode, searchRegion, minimumConfidence })
    fun anchor => (anchor.value, anchor.matchMode, anchor.searchRegion,
      anchor.minimumConfidence)

instance : OcrAnchor.codec.Steady :=
  steady_record (steady_map fun _ => rfl)

def RelativeDirection.value : RelativeDirection → String
  | .rightOf => "right_of"
  | .below => "below"
  | .sameRow => "same_row"

def RelativeDirection.codec : Codec RelativeDirection :=
  .literal [.rightOf, .below, .sameRow] value fun direction => by
    cases direction <;> rfl

instance : RelativeDirection.codec.Steady := ⟨fun _ _ => rfl⟩

/-- `InputValue` -/
def inputValue : Codec String :=
  .record <|
    ((fixedText true "source" "input").both <|
    required "path" text).map
    (fun ((), path) => path) fun path => ((), path)

instance : inputValue.Steady := steady_record (steady_map fun _ => rfl)

namespace VisualLocatorCandidate

def strategy : VisualLocatorCandidate → String
  | .inputText _ _ _ => "input_text"
  | .ocrText _ _ _ _ _ => "ocr_text"
  | .ocrRelative _ _ _ _ _ _ _ _ => "ocr_relative"
  | .imageAnchor _ _ _ _ _ _ _ _ _ _ _ => "image_anchor"
  | .renderedText _ _ => "rendered_text"
  | .renderedLabeledControl _ _ => "rendered_labeled_control"
  | .renderedFieldValue _ _ _ => "rendered_field_value"
  | .renderedGroupImage _ _ _ _ => "rendered_group_image"

def codec : Codec VisualLocatorCandidate :=
  .union "strategy" strategy [
    variant "input_text"
      ((required "value" inputValue).both <|
      (optional "target_text" text).both <|
      optional "relation" RelativeDirection.codec)
      (fun (path, targetText, relation) => .inputText path targetText relation)
      fun
        | .inputText path targetText relation =>
            some (path, targetText, relation)
        | _ => none,
    variant "ocr_text"
      ((required "value" text).both <|
      (matched "match").both <|
      (optional "search_region" NormalizedRegion.codec).both <|
      (measured "minimum_confidence" (85 / 100)).both <|
      expectsOne.both <|
      portable .high)
      (fun (value, matchMode, region, confidence, (), portability) =>
        .ocrText value matchMode region confidence portability)
      fun
        | .ocrText value matchMode region confidence portability =>
            some (value, matchMode, region, confidence, (), portability)
        | _ => none,
    variant "ocr_relative"
      ((required "anchor" text).both <|
      (matched "anchor_match").both <|
      (optional "target_text" text).both <|
      (required "relation" RelativeDirection.codec).both <|
      (optional "relative_region" RelativeRegion.codec).both <|
      (optional "search_region" NormalizedRegion.codec).both <|
      (measured "minimum_confidence" (85 / 100)).both <|
      expectsOne.both <|
      portable .high)
      (fun (anchor, anchorMatch, targetText, relation, relativeRegion, region,
          confidence, (), portability) =>
        .ocrRelative anchor anchorMatch targetText relation relativeRegion
          region confidence portability)
      fun
        | .ocrRelative anchor anchorMatch targetText relation relativeRegion
            region confidence portability =>
            some (anchor, anchorMatch, targetText, relation, relativeRegion,
              region, confidence, (), portability)
        | _ => none,
    variant "image_anchor"
      ((required "asset_key" text).both <|
      (required "content_hash" text).both <|
      (optional "search_region" NormalizedRegion.codec).both <|
      (optional "context_anchor" OcrAnchor.codec).both <|
      (optional "relative_search_region" RelativeRegion.codec).both <|
      (measured "minimum_score" (90 / 100)).both <|
      (measured "uniqueness_margin" (8 / 100)).both <|
      (measured "minimum_scale" (80 / 100)).both <|
      (measured "maximum_scale" (125 / 100)).both <|
      (measured "scale_step" (5 / 100)).both <|
      expectsOne.both <|
      portable .medium)
      (fun (assetKey, contentHash, region, contextAnchor, relativeRegion,
          score, margin, minimumScale, maximumScale, scaleStep, (),
          portability) =>
        .imageAnchor assetKey contentHash region contextAnchor relativeRegion
          score margin minimumScale maximumScale scaleStep portability)
      fun
        | .imageAnchor assetKey contentHash region contextAnchor
            relativeRegion score margin minimumScale maximumScale scaleStep
            portability =>
            some (assetKey, contentHash, region, contextAnchor, relativeRegion,
              score, margin, minimumScale, maximumScale, scaleStep, (),
              portability)
        | _ => none,
    variant "rendered_text"
      ((required "value" text).both <| matched "match")
      (fun (value, matchMode) => .renderedText value matchMode)
      fun
        | .renderedText value matchMode => some (value, matchMode)
        | _ => none,
    variant "rendered_labeled_control"
      ((required "label" text).both <|
      (matched "label_match").both <|
      fixedText true "control_kind" "text_input")
      (fun (label, labelMatch, ()) => .renderedLabeledControl label labelMatch)
      fun
        | .renderedLabeledControl label labelMatch =>
            some (label, labelMatch, ())
        | _ => none,
    variant "rendered_field_value"
      ((required "label" text).both <|
      (matched "label_match").both <|
      optional "relation" RelativeDirection.codec)
      (fun (label, labelMatch, relation) =>
        .renderedFieldValue label labelMatch relation)
      fun
        | .renderedFieldValue label labelMatch relation =>
            some (label, labelMatch, relation)
        | _ => none,
    variant "rendered_group_image"
      ((required "group_label" text).both <|
      (matched "group_label_match").both <|
      (required "asset_key" text).both <|
      required "content_hash" text)
      (fun (groupLabel, groupLabelMatch, assetKey, contentHash) =>
        .renderedGroupImage groupLabel groupLabelMatch assetKey contentHash)
      fun
        | .renderedGroupImage groupLabel groupLabelMatch assetKey
            contentHash =>
            some (groupLabel, groupLabelMatch, assetKey, contentHash)
        | _ => none]

instance : codec.Steady := by
  apply steady_union
  repeat apply SteadyForms.cons
  exact .nil

end VisualLocatorCandidate

/-- `FrameLocator`, the tuple of frames of a scope -/
def frameLocator : Codec LocatorCandidate :=
  .record <| (required "locator" LocatorCandidate.codec).map id id

instance : frameLocator.Steady := steady_record (steady_map fun _ => rfl)

def LocatorScope.codec : Codec LocatorScope :=
  .record <|
    ((defaulted "window" text "primary" <|
      legal_of_load (.str "primary") fun _ =>
        (by decide : some (Text.strip "primary") = some "primary")).both <|
    listed false "frame_path" frameLocator).map
    (fun (window, framePath) => { window, framePath })
    fun scope => (scope.window, scope.framePath)

instance : LocatorScope.codec.Steady :=
  steady_record (steady_map fun _ => rfl)

def TargetState.codec : Codec TargetState :=
  .record <|
    ((flag "visible" true).both <| Part.optional "enabled" bool).map
    (fun (visible, enabled) => { visible, enabled })
    fun state => (state.visible, state.enabled)

instance : TargetState.codec.Steady := steady_record (steady_map fun _ => rfl)

def LocatorBundle.codec : Codec LocatorBundle :=
  .record <|
    ((required "description" text).both <|
    (Part.optional "registered_risk" Risk.codec).both <|
    (defaulted "scope" LocatorScope.codec {} <|
      legal_of_load (.obj []) fun _ => rfl).both <|
    (listed false "visual_candidates" VisualLocatorCandidate.codec).both <|
    (listed false "candidates" LocatorCandidate.codec).both <|
    (defaulted "state" TargetState.codec {} <|
      legal_of_load (.obj []) fun _ => rfl).both <|
    flag "tenant_overrides_allowed" false).map
    (fun (description, registeredRisk, scope, visualCandidates, candidates,
        state, tenantOverridesAllowed) =>
      { description, registeredRisk, scope, visualCandidates, candidates,
        state, tenantOverridesAllowed })
    fun target => (target.description, target.registeredRisk, target.scope,
      target.visualCandidates, target.candidates, target.state,
      target.tenantOverridesAllowed)

instance : LocatorBundle.codec.Steady :=
  steady_record (steady_map fun _ => rfl)

end ReplayForge

import ReplayForge.Data.Grouping
import ReplayForge.Surfaces.Errors
import Mathlib.Data.List.Sort
import Mathlib.Algebra.Order.Ring.Rat

/-!
# Field values in a rendered frame

How the grounder reads the value that stands beside or under a label.  Token
regions are integer rectangles; the policy's factors and the median text
height are doubles, so each product or quotient is `rounded`.
-/

namespace ReplayForge

structure ScreenRegion where
  x : Nat
  y : Nat
  width : Nat
  height : Nat
  positive : 0 < width ∧ 0 < height
deriving DecidableEq

namespace ScreenRegion

/-- `region.x + region.width` -/
def right (region : ScreenRegion) : Nat := region.x + region.width

/-- `region.y + region.height` -/
def bottom (region : ScreenRegion) : Nat := region.y + region.height

def area (region : ScreenRegion) : Nat := region.width * region.height

def contains (container child : ScreenRegion) : Bool :=
  container.x ≤ child.x && container.y ≤ child.y &&
    child.right ≤ container.right && child.bottom ≤ container.bottom

/-- `_overlap_length`; the difference of naturals is never negative. -/
def overlapLength (firstStart firstEnd secondStart secondEnd : Nat) : Nat :=
  min firstEnd secondEnd - max firstStart secondStart

def union (first second : ScreenRegion) : ScreenRegion where
  x := min first.x second.x
  y := min first.y second.y
  width := max first.right second.right - min first.x second.x
  height := max first.bottom second.bottom - min first.y second.y
  positive := by
    have firstPositive := first.positive
    unfold right bottom
    omega

/-- `_union_region`, where nothing was gathered yet at first. -/
def unionRegion (first : Option ScreenRegion) (second : ScreenRegion) :
    ScreenRegion :=
  match first with
  | none => second
  | some first => first.union second

end ScreenRegion

structure VisualToken where
  text : String
  confidence : Rat
  region : ScreenRegion
  normalized : text ≠ "" ∧ 0 ≤ confidence ∧ confidence ≤ 1
deriving DecidableEq

inductive VisualNodeKind where
  | phrase
  | control
  | textEnclosure
  | image
  | container
deriving DecidableEq, Repr

structure VisualNode where
  id : String
  kind : VisualNodeKind
  region : ScreenRegion
deriving DecidableEq

structure VisualLayoutGraph where
  medianTextHeight : Rat
  nodes : List VisualNode
deriving DecidableEq

def VisualLayoutGraph.ofKind (graph : VisualLayoutGraph)
    (kind : VisualNodeKind) : List VisualNode :=
  graph.nodes.filter fun node => node.kind = kind

/-! ## Policy -/

structure VisionPhrasePolicy where
  maximumLineGapInTextHeights : Rat
  gap_valid : 0 < maximumLineGapInTextHeights ∧
    maximumLineGapInTextHeights ≤ 10 := by decide +kernel
deriving DecidableEq

structure VisionAssociationPolicy where
  minimumAxisOverlapRatio : Rat
  maximumFollowingGapInTextHeights : Rat
  rowToleranceInTextHeights : Rat
  ratio_valid : 0 < minimumAxisOverlapRatio ∧
    minimumAxisOverlapRatio ≤ 1 := by decide +kernel
  following_valid : 0 < maximumFollowingGapInTextHeights ∧
    maximumFollowingGapInTextHeights ≤ 20 := by decide +kernel
  tolerance_valid : 0 < rowToleranceInTextHeights ∧
    rowToleranceInTextHeights ≤ 5 := by decide +kernel
deriving DecidableEq

structure VisionGroundingPolicy where
  phrases : VisionPhrasePolicy
  association : VisionAssociationPolicy
deriving DecidableEq

structure VisionGrounder where
  policy : Option VisionGroundingPolicy
  /-- The double nearest to an exact result. -/
  rounded : Rat → Rat

/-- The relation that a labeled extraction recorded. -/
inductive FieldRelation where
  | rightOf
  | below
deriving DecidableEq, Repr

namespace VisionGrounder

def requiredPolicy (grounder : VisionGrounder) :
    Except SurfaceError VisionGroundingPolicy :=
  match grounder.policy with
  | some policy => .ok policy
  | none => .error {
      code := "visual_policy_missing"
      safeMessage :=
        "Semantic visual grounding requires a configured visual policy."
      effectAbsent := true }

def cardinalityError (count : Nat) (target : String) : SurfaceError where
  code := if count > 1 then "target_ambiguous" else "target_absent"
  safeMessage := target ++ " did not resolve exactly once."
  recoverable := true
  effectAbsent := true
  expected := some [("count", .int 1)]
  observed := some [("count", .int count)]

/-- `_axis_overlap_ratio(first, second, vertical=True)` -/
def verticalOverlapRatio (grounder : VisionGrounder)
    (first second : ScreenRegion) : Rat :=
  let overlap := ScreenRegion.overlapLength first.y first.bottom
    second.y second.bottom
  let denominator := min first.height second.height
  grounder.rounded (overlap / (max 1 denominator : Nat))

/-! ## Groups of one line -/

def maximumGap (grounder : VisionGrounder) (policy : VisionGroundingPolicy)
    (medianHeight : Rat) : Rat :=
  grounder.rounded (policy.phrases.maximumLineGapInTextHeights * medianHeight)

/-- `sorted(line, key=lambda item: item.region.x)` -/
def leftToRight (line : List VisualToken) : List VisualToken :=
  line.insertionSort fun first second => first.region.x ≤ second.region.x

/-- How far a token starts past the end of an earlier one. -/
def gapAfter (previous token : VisualToken) : Rat :=
  token.region.x - previous.region.right

/-- `_token_groups`: a token starts a group where it starts more than the gap
after the token that was added last. -/
def tokenGroups (grounder : VisionGrounder) (line : List VisualToken)
    (medianHeight : Rat) : Except SurfaceError (List (List VisualToken)) := do
  let policy ← grounder.requiredPolicy
  let maximumGap := grounder.maximumGap policy medianHeight
  return groupRuns
    (fun previous token => !decide (maximumGap < gapAfter previous token))
    (leftToRight line)

/-! ## Lines of text -/

/-- Put a token on the first line whose first token it overlaps enough. -/
def placeToken (grounder : VisionGrounder) (minimumRatio : Rat)
    (token : VisualToken) : List (List VisualToken) → List (List VisualToken)
  | [] => [[token]]
  | line :: lines =>
      if line.head?.any fun first =>
          minimumRatio ≤ grounder.verticalOverlapRatio token.region first.region
      then (line ++ [token]) :: lines
      else line :: placeToken grounder minimumRatio token lines

def textLines (grounder : VisionGrounder) (tokens : List VisualToken) :
    Except SurfaceError (List (List VisualToken)) := do
  let policy ← grounder.requiredPolicy
  let topDown := tokens.insertionSort fun first second =>
    first.region.y < second.region.y ∨
      (first.region.y = second.region.y ∧ first.region.x ≤ second.region.x)
  let lines := topDown.foldl (fun lines token =>
    grounder.placeToken policy.association.minimumAxisOverlapRatio token lines)
    []
  return lines.map leftToRight

/-- The region that holds every token of a line. -/
def lineRegion (line : List VisualToken) : Option ScreenRegion :=
  line.foldl (fun region token =>
    some (ScreenRegion.unionRegion region token.region)) none

def lineHorizontalOverlap (line : List VisualToken) (region : ScreenRegion) :
    Nat :=
  match lineRegion line with
  | none => 0
  | some lineRegion =>
      ScreenRegion.overlapLength lineRegion.x lineRegion.right
        region.x region.right

/-- `min(token.region.y for token in line)`; no line is empty. -/
def lineTop (line : List VisualToken) : Nat :=
  (line.map fun token => token.region.y).min?.getD 0

/-! ## Candidates beside and under a label -/

def horizontalValueTokens (grounder : VisionGrounder) (label : ScreenRegion)
    (tokens : List VisualToken) (medianHeight : Rat) :
    Except SurfaceError (List VisualToken) := do
  let horizontal ← tokens.filterM fun token => do
    if label.right ≤ token.region.x then
      let policy ← grounder.requiredPolicy
      return policy.association.minimumAxisOverlapRatio ≤
        grounder.verticalOverlapRatio token.region label
    else
      return false
  if horizontal.isEmpty then
    return []
  match ← grounder.tokenGroups horizontal medianHeight with
  | [group] => return group
  | groups =>
      throw (cardinalityError groups.length "rendered field value")

def stackedValueTokens (grounder : VisionGrounder) (label : ScreenRegion)
    (tokens : List VisualToken) (medianHeight : Rat) :
    Except SurfaceError (List VisualToken) := do
  let policy ← grounder.requiredPolicy
  let lines ← grounder.textLines tokens
  let following := lines.filter fun line =>
    label.bottom ≤ lineTop line && 0 < lineHorizontalOverlap line label &&
      ((lineTop line : Rat) - label.bottom ≤ grounder.rounded
        (policy.association.maximumFollowingGapInTextHeights * medianHeight))
  if following.isEmpty then
    return []
  let nearestY := (following.map lineTop).min?.getD 0
  let nearest := following.filter fun line =>
    |(lineTop line : Rat) - nearestY| ≤ grounder.rounded
      (policy.association.rowToleranceInTextHeights * medianHeight)
  let groups ← nearest.mapM fun line => grounder.tokenGroups line medianHeight
  match groups.flatten.filter fun group =>
      0 < lineHorizontalOverlap group label with
  | [group] => return group
  | groups =>
      throw (cardinalityError groups.length "rendered field value")

/-! ## The enclosing containers -/

/-- The containers around a label, smallest first. -/
def enclosingContainers (graph : VisualLayoutGraph) (label : ScreenRegion) :
    List VisualNode :=
  ((graph.ofKind .container).filter fun node =>
      node.region.contains label).insertionSort
    fun first second => first.region.area ≤ second.region.area

/-- The tokens inside a container. -/
def tokensWithin (container : VisualNode) (tokens : List VisualToken) :
    List VisualToken :=
  tokens.filter fun token => container.region.contains token.region

/-- The loop of `_field_value_tokens`, with the stacked candidate found so
far. -/
def searchContainers (grounder : VisionGrounder) (label : ScreenRegion)
    (tokens : List VisualToken) (relation : Option FieldRelation)
    (medianHeight : Rat) :
    List VisualNode → (stacked : List VisualToken) →
      Except SurfaceError (List VisualToken)
  | [], stacked => return stacked
  | container :: containers, stacked => do
      let within := tokensWithin container tokens
      let horizontal ←
        if relation ≠ some .below then
          grounder.horizontalValueTokens label within medianHeight
        else pure []
      if !horizontal.isEmpty then
        if !stacked.isEmpty then
          throw (cardinalityError 2 "competing field value layouts")
        return horizontal
      if stacked.isEmpty ∧ relation ≠ some .rightOf then
        let stacked ← grounder.stackedValueTokens label within medianHeight
        if !stacked.isEmpty ∧ relation = some .below then
          return stacked
        searchContainers grounder label tokens relation medianHeight
          containers stacked
      else
        searchContainers grounder label tokens relation medianHeight
          containers stacked

def fieldValueTokens (grounder : VisionGrounder) (graph : VisualLayoutGraph)
    (label : ScreenRegion) (tokens : List VisualToken)
    (relation : Option FieldRelation := none) :
    Except SurfaceError (List VisualToken) :=
  grounder.searchContainers label tokens relation graph.medianTextHeight
    (enclosingContainers graph label) []

end VisionGrounder

end ReplayForge

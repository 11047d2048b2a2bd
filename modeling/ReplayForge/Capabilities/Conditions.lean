import ReplayForge.Capabilities.Targets

/-!
# Conditions

The eight atomic kinds are gathered in `AtomicCondition`; the three composite
kinds are the recursive constructors of `Condition`.
-/

namespace ReplayForge

inductive ElementState where
  | exists
  | absent
  | visible
  | hidden
  | enabled
  | disabled
deriving DecidableEq, Repr

inductive AtomicCondition where
  | route (pattern : String)
  | text (value : String) (matchMode : MatchMode)
  | renderedText (value : String) (matchMode : MatchMode)
  | visualText (value : String) (matchMode : MatchMode)
      (searchRegion : Option NormalizedRegion) (minimumConfidence : Rat)
  | element (target : LocatorBundle) (state : ElementState)
  | outputValid (output : String)
  | outputEquals (output value : String)
  | identityMatches (extractedOutput inputPath : String)
deriving DecidableEq

inductive Condition where
  | atom (condition : AtomicCondition)
  | all (conditions : List Condition)
  | any (conditions : List Condition)
  | not (condition : Condition)

namespace Condition

mutual

private def same : (left right : Condition) → Decidable (left = right)
  | .atom a, .atom b => decidable_of_iff (a = b) (by simp)
  | .all a, .all b =>
      match sameAll a b with
      | isTrue equal => isTrue (by rw [equal])
      | isFalse different => isFalse (by simpa using different)
  | .any a, .any b =>
      match sameAll a b with
      | isTrue equal => isTrue (by rw [equal])
      | isFalse different => isFalse (by simpa using different)
  | .not a, .not b =>
      match same a b with
      | isTrue equal => isTrue (by rw [equal])
      | isFalse different => isFalse (by simpa using different)
  | .atom _, .all _ | .atom _, .any _ | .atom _, .not _
  | .all _, .atom _ | .all _, .any _ | .all _, .not _
  | .any _, .atom _ | .any _, .all _ | .any _, .not _
  | .not _, .atom _ | .not _, .all _ | .not _, .any _ => isFalse (by simp)

private def sameAll : (left right : List Condition) → Decidable (left = right)
  | [], [] => isTrue rfl
  | [], _ :: _ => isFalse (by simp)
  | _ :: _, [] => isFalse (by simp)
  | a :: as, b :: bs =>
      match same a b, sameAll as bs with
      | isTrue head, isTrue tail => isTrue (by rw [head, tail])
      | isFalse different, _ => isFalse (by simp [different])
      | _, isFalse different => isFalse (by simp [different])

end

instance : DecidableEq Condition := same

/-- Induction on a condition, with the hypothesis for every member of a
composite. -/
theorem induct {motive : Condition → Prop}
    (atom : ∀ condition, motive (.atom condition))
    (all : ∀ conditions, (∀ item ∈ conditions, motive item) →
      motive (.all conditions))
    (any : ∀ conditions, (∀ item ∈ conditions, motive item) →
      motive (.any conditions))
    (not : ∀ condition, motive condition → motive (.not condition)) :
    ∀ condition, motive condition
  | .atom condition => atom condition
  | .all conditions =>
      all conditions fun item _ => induct atom all any not item
  | .any conditions =>
      any conditions fun item _ => induct atom all any not item
  | .not condition => not condition (induct atom all any not condition)

/-- The discriminator of a condition. -/
def kind : Condition → String
  | .atom (.route _) => "route"
  | .atom (.text _ _) => "text"
  | .atom (.renderedText _ _) => "rendered_text"
  | .atom (.visualText _ _ _ _) => "visual_text"
  | .atom (.element _ _) => "element"
  | .atom (.outputValid _) => "output_valid"
  | .atom (.outputEquals _ _) => "output_equals"
  | .atom (.identityMatches _ _) => "identity_matches"
  | .all _ => "all"
  | .any _ => "any"
  | .not _ => "not"

mutual

/-- Field bounds of a condition and of its parts. -/
def validate : Condition → Except Raised Unit
  | .atom (.route pattern) =>
      require (Text.isBounded pattern 1 none) "pattern"
  | .atom (.text value _) => require (Text.isBounded value 1 none) "value"
  | .atom (.renderedText value _) =>
      require (Text.isBounded value 1 (some 200)) "value"
  | .atom (.visualText value _ region confidence) => do
      require (Text.isBounded value 1 none) "value"
      region.forM NormalizedRegion.validate
      require (0 ≤ confidence && confidence ≤ 1) "minimum_confidence"
  | .atom (.element target _) => target.validate
  | .atom (.outputValid output) => require (Text.isStripped output) "output"
  | .atom (.outputEquals output value) => do
      require (Text.isStripped output) "output"
      require (Text.isBounded value 1 (some 200)) "value"
  | .atom (.identityMatches extractedOutput inputPath) => do
      require (Text.isStripped extractedOutput) "extracted_output"
      require (Text.isStripped inputPath) "input_path"
  | .all conditions => do
      require (!conditions.isEmpty) "conditions"
      validateAll conditions
  | .any conditions => do
      require (!conditions.isEmpty) "conditions"
      validateAll conditions
  | .not condition => condition.validate

def validateAll : List Condition → Except Raised Unit
  | [] => .ok ()
  | condition :: rest => do
      condition.validate
      validateAll rest

end

mutual

def conditionOutputs : Condition → List String
  | .atom (.outputValid output) => [output]
  | .atom (.outputEquals output _) => [output]
  | .atom (.identityMatches extractedOutput _) => [extractedOutput]
  | .atom _ => []
  | .all conditions => conditionOutputsAll conditions
  | .any conditions => conditionOutputsAll conditions
  | .not condition => condition.conditionOutputs

def conditionOutputsAll : List Condition → List String
  | [] => []
  | condition :: rest =>
      condition.conditionOutputs ++ conditionOutputsAll rest

end

mutual

def containsIdentity : Condition → Bool
  | .atom (.identityMatches _ _) => true
  | .atom _ => false
  | .all conditions => containsIdentityAny conditions
  | .any conditions => containsIdentityAny conditions
  | .not condition => condition.containsIdentity

def containsIdentityAny : List Condition → Bool
  | [] => false
  | condition :: rest => condition.containsIdentity || containsIdentityAny rest

end

mutual

/-- The surface facts a condition mentions; a negated fact stays negated. -/
def surfaceConditions : Condition → List Condition
  | .atom (.route pattern) => [.atom (.route pattern)]
  | .atom (.text value mode) => [.atom (.text value mode)]
  | .atom (.renderedText value mode) => [.atom (.renderedText value mode)]
  | .atom (.visualText value mode region confidence) =>
      [.atom (.visualText value mode region confidence)]
  | .atom (.element target state) => [.atom (.element target state)]
  | .atom _ => []
  | .all conditions => surfaceConditionsAll conditions
  | .any conditions => surfaceConditionsAll conditions
  | .not condition =>
      if condition.surfaceConditions.isEmpty then [] else [.not condition]

def surfaceConditionsAll : List Condition → List Condition
  | [] => []
  | condition :: rest =>
      condition.surfaceConditions ++ surfaceConditionsAll rest

end

/-- A condition that shows a surface fact rather than its absence. -/
def isPositive : Condition → Bool
  | .atom (.text _ _) | .atom (.renderedText _ _)
  | .atom (.visualText _ _ _ _) => true
  | .atom (.element _ state) => state ≠ .absent && state ≠ .hidden
  | _ => false

mutual

/-- A true assertion must require something other than the original
blocker. -/
def provesDistinctSurface (blocked : Condition) : Condition → Bool
  | .all conditions => provesDistinctSurfaceAny blocked conditions
  | .any conditions => provesDistinctSurfaceAll blocked conditions
  | .atom condition =>
      !(surfaceConditions (.atom condition)).isEmpty &&
        decide (Condition.atom condition ≠ blocked)
  | .not condition =>
      !(surfaceConditions (.not condition)).isEmpty &&
        decide (Condition.not condition ≠ blocked)

def provesDistinctSurfaceAny (blocked : Condition) : List Condition → Bool
  | [] => false
  | condition :: rest =>
      provesDistinctSurface blocked condition ||
        provesDistinctSurfaceAny blocked rest

def provesDistinctSurfaceAll (blocked : Condition) : List Condition → Bool
  | [] => true
  | condition :: rest =>
      provesDistinctSurface blocked condition &&
        provesDistinctSurfaceAll blocked rest

end

mutual

/-- A condition together with all its parts, outermost first. -/
def walkConditions : Condition → List Condition
  | .atom condition => [.atom condition]
  | .all conditions => .all conditions :: walkConditionsAll conditions
  | .any conditions => .any conditions :: walkConditionsAll conditions
  | .not condition => .not condition :: condition.walkConditions

def walkConditionsAll : List Condition → List Condition
  | [] => []
  | condition :: rest => condition.walkConditions ++ walkConditionsAll rest

end

end Condition

end ReplayForge

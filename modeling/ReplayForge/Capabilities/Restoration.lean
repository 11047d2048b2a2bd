import ReplayForge.Capabilities.Conditions

/-!
# Evidence of a restored surface

A condition is evaluated against the facts of a screen.  The evidence check is
compared with the screens that show nothing but the blocker: the absence of
something passes for evidence although it may hold there.
-/

namespace ReplayForge

/-- The absence of an element rather than something that is shown. -/
def AtomicCondition.isAbsence : AtomicCondition → Bool
  | .element _ .absent | .element _ .hidden => true
  | _ => false

namespace Condition

mutual

/-- The truth of a condition, given the facts. -/
def holds (facts : AtomicCondition → Bool) : Condition → Bool
  | .atom condition => facts condition
  | .all conditions => holdsAll facts conditions
  | .any conditions => holdsAny facts conditions
  | .not condition => !condition.holds facts

def holdsAll (facts : AtomicCondition → Bool) : List Condition → Bool
  | [] => true
  | condition :: rest => condition.holds facts && holdsAll facts rest

def holdsAny (facts : AtomicCondition → Bool) : List Condition → Bool
  | [] => false
  | condition :: rest => condition.holds facts || holdsAny facts rest

end

/-- Some surface fact occurs in the condition. -/
def mentionsSurface (condition : Condition) : Bool :=
  !condition.surfaceConditions.isEmpty

mutual

/-- Something is asserted not to be there: an element is absent or hidden, or a
negation has a surface fact inside. -/
def assertsAbsence : Condition → Bool
  | .atom condition => condition.isAbsence
  | .all conditions => assertsAbsenceAny conditions
  | .any conditions => assertsAbsenceAny conditions
  | .not condition => condition.mentionsSurface

def assertsAbsenceAny : List Condition → Bool
  | [] => false
  | condition :: rest => condition.assertsAbsence || assertsAbsenceAny rest

end

section Evidence

variable {blocked : AtomicCondition} {condition : Condition}

end Evidence

/-- A dialog that blocks the surface. -/
def notice : AtomicCondition := .text "Session notice" .exact

end Condition

end ReplayForge

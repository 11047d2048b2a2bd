import ReplayForge.Policy.Verdicts

/-!
# Risk floors

The risk of a context is meant to be the maximum of three levels: the declared
one, the registered one and the one its wording and action type imply.  The
evaluator takes the first of several cases instead, so that a wording may hide
a higher registered risk, and a registered risk a higher implied one.
-/

namespace ReplayForge

namespace PolicyEvaluator

variable {host : Host} {policy : EffectivePolicy} {context : ActionContext}
  {decision : PolicyDecision}

/-- The target description contains one of the words. -/
def mentions (host : Host) (context : ActionContext)
    (words : List String) : Bool :=
  words.any (Text.containsText (host.casefold context.targetDescription))

/-- The risk that the wording and the action type imply on their own.  Moving
the viewport activates no control, whatever its description says. -/
def impliedRisk (host : Host) (context : ActionContext) : Risk :=
  if context.actionType = "scroll" then .readOnly
  else if mentions host context irreversibleTargetWords then .irreversible
  else if mentions host context sensitiveTargetWords then .sensitive
  else if context.actionType = "type" ∨ context.actionType = "select" then
    .reversible
  else .readOnly

/-- A decision that respects every risk floor of its context. -/
structure FloorsKept (host : Host) (policy : EffectivePolicy)
    (context : ActionContext) (decision : PolicyDecision) : Prop where
  declared : context.declaredRisk ≤ decision.effectiveRisk
  registered : ∀ risk ∈ context.registeredTargetRisk,
    risk ≤ decision.effectiveRisk
  implied : impliedRisk host context ≤ decision.effectiveRisk
  /-- A floor that is irreversible or above the ceiling denies. -/
  denies : ∀ risk, risk = context.declaredRisk ∨
    risk ∈ context.registeredTargetRisk →
    risk = .irreversible ∨ policy.maximumRisk < risk →
    decision.decision = .deny

/-- A sensitive wording stands before an irreversible target. -/
def wordingMasks (host : Host) (context : ActionContext) : Bool :=
  mentions host context sensitiveTargetWords &&
    context.registeredTargetRisk = some .irreversible &&
    context.declaredRisk ≠ .irreversible

/-- A target registered as read-only stands before an action that writes. -/
def registrationMasks (host : Host) (context : ActionContext) : Bool :=
  !mentions host context sensitiveTargetWords &&
    (context.actionType = "type" || context.actionType = "select") &&
    context.registeredTargetRisk = some .readOnly &&
    context.declaredRisk = .readOnly

/-- The first matching case hides a higher level. -/
def masksFloor (host : Host) (context : ActionContext) : Bool :=
  context.actionType ≠ "scroll" &&
    !mentions host context irreversibleTargetWords &&
    (wordingMasks host context || registrationMasks host context)

theorem declared_le_inferRisk :
    context.declaredRisk ≤ inferRisk host context :=
  Risk.le_max_left

/-- The three floors, as a property of the inferred risk. -/
def RiskFloors (host : Host) (context : ActionContext) : Prop :=
  (∀ risk ∈ context.registeredTargetRisk, risk ≤ inferRisk host context) ∧
    impliedRisk host context ≤ inferRisk host context

/-- The levels that the evaluator and the floors compare. -/
private theorem floors_iff_of_cases (declared : Risk) (registered : Option Risk)
    (sensitive writes : Bool) :
    ((∀ risk ∈ registered, risk ≤ declared.max
          (if sensitive then .sensitive else registered.getD
            (if writes then .reversible else .readOnly))) ∧
        (if sensitive then Risk.sensitive
          else if writes then .reversible else .readOnly) ≤ declared.max
          (if sensitive then .sensitive else registered.getD
            (if writes then .reversible else .readOnly))) ↔
      ((sensitive && decide (registered = some .irreversible) &&
          decide (declared ≠ .irreversible)) ||
        (!sensitive && writes && decide (registered = some .readOnly) &&
          decide (declared = .readOnly))) = false := by
  simp only [Risk.le_iff_rank, Option.mem_def]
  cases registered with
  | none => cases declared <;> cases sensitive <;> cases writes <;> simp <;> decide
  | some risk =>
      cases risk <;> cases declared <;> cases sensitive <;> cases writes <;>
        simp <;> decide

/-- The inferred risk without its special cases. -/
private theorem inferRisk_plain (scroll : context.actionType ≠ "scroll")
    (harmless : mentions host context irreversibleTargetWords = false) :
    inferRisk host context = context.declaredRisk.max
      (if mentions host context sensitiveTargetWords then .sensitive
        else context.registeredTargetRisk.getD
          (if decide (context.actionType = "type" ∨
            context.actionType = "select") then .reversible else .readOnly)) := by
  unfold mentions at harmless ⊢
  unfold inferRisk
  simp only [scroll, harmless, if_false, Bool.false_eq_true]
  cases context.registeredTargetRisk <;> simp

theorem riskFloors_iff :
    RiskFloors host context ↔ masksFloor host context = false := by
  unfold RiskFloors masksFloor
  by_cases scroll : context.actionType = "scroll"
  · have moved : inferRisk host context = context.declaredRisk.max
        (context.registeredTargetRisk.getD .readOnly) := by
      unfold inferRisk
      simp only [scroll, if_true]
    have nothing : impliedRisk host context = .readOnly := if_pos scroll
    rw [moved, nothing]
    simp only [scroll, ne_eq, not_true_eq_false, decide_false, Bool.false_and,
      iff_true]
    refine ⟨fun risk registered => ?_, Risk.readOnly_le _⟩
    rw [Option.mem_def.mp registered, Option.getD_some]
    exact Risk.le_max_right
  · cases harmful : mentions host context irreversibleTargetWords with
    | true =>
        have highest : inferRisk host context =
            context.declaredRisk.max .irreversible := by
          unfold mentions at harmful
          unfold inferRisk
          simp only [scroll, harmful, if_false, if_true]
        rw [highest]
        have above : ∀ risk : Risk,
            risk ≤ context.declaredRisk.max .irreversible := fun risk =>
          le_trans (Risk.le_irreversible risk) Risk.le_max_right
        simp [above]
    | false =>
        have implied : impliedRisk host context =
            if mentions host context sensitiveTargetWords then .sensitive
            else if decide (context.actionType = "type" ∨
              context.actionType = "select") then .reversible
            else .readOnly := by
          unfold impliedRisk
          simp [scroll, harmful]
        rw [inferRisk_plain scroll harmful, implied, floors_iff_of_cases]
        unfold wordingMasks registrationMasks
        simp [scroll]

/-- Risk floors that hold decide what lies above the ceiling. -/
theorem denies_of_floors (decided : Decides host policy context decision)
    (floors : RiskFloors host context) (risk : Risk)
    (floor : risk = context.declaredRisk ∨
      risk ∈ context.registeredTargetRisk)
    (high : risk = .irreversible ∨ policy.maximumRisk < risk) :
    decision.decision = .deny := by
  have below : risk ≤ inferRisk host context := by
    rcases floor with rfl | registered
    · exact declared_le_inferRisk
    · exact floors.1 risk registered
  rcases decided.2 with ⟨permits, -⟩ | ⟨-, denied⟩
  · rcases high with rfl | above
    · exact absurd (le_antisymm (Risk.le_irreversible _) below)
        permits.reversible
    · exact absurd permits.ceiling (not_le_of_gt (lt_of_lt_of_le above below))
  · exact denied

/-- A decision keeps the floors exactly when no case masks one. -/
theorem floors_kept_iff
    (evaluated : evaluate host policy context = .ok decision) :
    FloorsKept host policy context decision ↔
      masksFloor host context = false := by
  have decided := evaluate_decides evaluated
  have risk := decided.1
  rw [← riskFloors_iff]
  constructor
  · intro kept
    unfold RiskFloors
    rw [← risk]
    exact ⟨kept.registered, kept.implied⟩
  · intro floors
    exact {
      declared := risk ▸ declared_le_inferRisk
      registered := risk ▸ floors.1
      implied := risk ▸ floors.2
      denies := denies_of_floors decided floors }

/-- A payment page under a ceiling of sensitive actions. -/
def payPolicy : EffectivePolicy where
  layerNames := ["platform"]
  allowedOrigins := ["https://bank"]
  allowedRoutePatterns := ["/pay"]
  allowedActionTypes := ["click"]
  maximumRisk := .sensitive
  forbiddenFieldClasses := [.credential, .secret]

/-- A click on a control that is registered as irreversible. -/
def irreversibleClick (description : String) : ActionContext where
  principalType := .automation
  principalId := "runtime"
  runMode := .replay
  applicationFamily := "bank"
  tenant := "standard"
  origin := "https://bank"
  route := "/pay"
  actionType := "click"
  targetDescription := description
  declaredRisk := .reversible
  controlOwner := "automation"
  registeredTargetRisk := some .irreversible

/-- Without a sensitive word the registered risk decides. -/
theorem confirm_floors_kept :
    ∃ decision, evaluate Sample.host payPolicy (irreversibleClick "confirm") =
        .ok decision ∧
      FloorsKept Sample.host payPolicy (irreversibleClick "confirm")
        decision := by
  obtain ⟨decision, evaluated, -⟩ := exists_decision Sample.host payPolicy
    (irreversibleClick "confirm") (by decide +kernel)
  exact ⟨decision, evaluated,
    (floors_kept_iff evaluated).mpr (by decide +kernel)⟩

/-- The word "transfer" takes an irreversible control for a sensitive one. -/
theorem transfer_lowers_floor :
    ¬ ∀ host policy context decision,
      evaluate host policy context = .ok decision →
      FloorsKept host policy context decision := by
  intro claim
  obtain ⟨decision, evaluated, -⟩ := exists_decision Sample.host
    payPolicy (irreversibleClick "transfer funds") (by decide +kernel)
  have kept := claim _ _ _ _ evaluated
  rw [floors_kept_iff evaluated] at kept
  revert kept
  decide +kernel

end PolicyEvaluator

end ReplayForge

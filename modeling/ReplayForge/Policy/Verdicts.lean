import ReplayForge.Policy.Evaluator

/-!
# What a policy decides

A policy permits a context or denies it.  A permitted context is allowed or,
at the sensitive level, left to a human; which of the two, the policy does not
say.
-/

namespace ReplayForge

namespace PolicyDecision

theorem make_eq_ok {decision made : PolicyDecision} :
    decision.make = .ok made ↔
      (decision.make = .ok decision ∧ made = decision) := by
  unfold make
  simp only [check_bind_eq_ok, require_eq_ok, pure, Except.pure,
    Except.ok.injEq]
  constructor
  · rintro ⟨first, second, third, fourth, fifth, rfl⟩
    exact ⟨⟨first, second, third, fourth, fifth, trivial⟩, rfl⟩
  · rintro ⟨⟨first, second, third, fourth, fifth, -⟩, rfl⟩
    exact ⟨first, second, third, fourth, fifth, rfl⟩

theorem make_renamed {decision made : PolicyDecision} {names : List String}
    (checked : decision.make = .ok made) (named : namesValues names = true) :
    make { decision with matchedLayers := names } =
      .ok { made with matchedLayers := names } := by
  obtain ⟨checked', rfl⟩ := make_eq_ok.mp checked
  refine make_eq_ok.mpr ⟨?_, rfl⟩
  unfold make at checked' ⊢
  simp only [check_bind_eq_ok, require_eq_ok] at checked' ⊢
  obtain ⟨coded, explained, -, first, second, -⟩ := checked'
  exact ⟨coded, explained, named, first, second, rfl⟩

/-- The texts of a decision that can be made. -/
def reportable (reasonCode explanation : String)
    (evidence directives : List String) : Bool :=
  Pattern.ident Pattern.word 0 none reasonCode && !Text.isBlank explanation &&
    namesValues evidence && namesValues directives

theorem make_ok {decision : Decision} {risk : Risk}
    {reasonCode explanation : String}
    {layers evidence directives : List String}
    (named : namesValues layers = true)
    (texts : reportable reasonCode explanation evidence directives = true) :
    ∃ made, make {
      decision
      reasonCode
      explanation
      matchedLayers := layers
      effectiveRisk := risk
      requiredEvidence := evidence
      redactionDirectives := directives } = .ok made := by
  unfold reportable at texts
  simp only [Bool.and_eq_true] at texts
  obtain ⟨⟨⟨coded, explained⟩, first⟩, second⟩ := texts
  refine ⟨_, make_eq_ok.mpr ⟨?_, rfl⟩⟩
  unfold make
  simp only [coded, explained, named, first, second]
  rfl

end PolicyDecision

namespace PolicyEvaluator

variable {host : Host} {policy : EffectivePolicy} {context : ActionContext}
  {decision : PolicyDecision}

/-- The lease owner that an action of the principal requires. -/
def expectedOwner (context : ActionContext) : String :=
  match context.principalType with
  | .human => "human:" ++ context.principalId
  | .automation => "automation"

/-- Nothing in the policy denies the context. -/
structure Permits (host : Host) (policy : EffectivePolicy)
    (context : ActionContext) : Prop where
  owner : context.controlOwner = expectedOwner context
  mode : context.principalType = .human → context.runMode = .humanControl
  location :
    locationAllowed host policy context.origin context.route = true
  action : context.actionType ∈ policy.allowedActionTypes
  field : ∀ classification ∈ context.fieldClassification,
    classification ∉ policy.forbiddenFieldClasses
  reversible : inferRisk host context ≠ .irreversible
  ceiling : inferRisk host context ≤ policy.maximumRisk

/-- What becomes of a permitted context. -/
def permittedDecision (host : Host) (context : ActionContext) : Decision :=
  if inferRisk host context = .sensitive then .requireHumanApproval else .allow

/-- An allowed location has an allowed origin. -/
theorem origin_of_location {origin route : String}
    (allowed : locationAllowed host policy origin route = true) :
    (canonicalOrigin host origin).any (· ∈ policy.allowedOrigins) = true := by
  unfold locationAllowed at allowed
  split at allowed
  next => cases allowed
  next canonical same =>
    rw [same, Option.any_some]
    exact (Bool.and_eq_true_iff.mp allowed).1

/-- The outcome of an evaluation, as its decision and its risk. -/
def Decides (host : Host) (policy : EffectivePolicy) (context : ActionContext)
    (decision : PolicyDecision) : Prop :=
  decision.effectiveRisk = inferRisk host context ∧
    ((Permits host policy context ∧
        decision.decision = permittedDecision host context) ∨
      (¬Permits host policy context ∧ decision.decision = .deny))

private theorem decides_denial {reasonCode explanation : String}
    (evaluated : denial policy (inferRisk host context) reasonCode explanation =
      .ok decision)
    (refused : ¬Permits host policy context) :
    Decides host policy context decision := by
  obtain ⟨-, rfl⟩ := PolicyDecision.make_eq_ok.mp evaluated
  exact ⟨rfl, .inr ⟨refused, rfl⟩⟩

private theorem ite_cases {condition : Prop} [Decidable condition]
    {yes no : Except Raised PolicyDecision} {goal : Prop}
    (evaluated : ite condition yes no = .ok decision)
    (positive : condition → yes = .ok decision → goal)
    (negative : ¬condition → no = .ok decision → goal) : goal := by
  by_cases holds : condition
  · rw [if_pos holds] at evaluated
    exact positive holds evaluated
  · rw [if_neg holds] at evaluated
    exact negative holds evaluated

theorem evaluate_decides (evaluated : evaluate host policy context =
      .ok decision) : Decides host policy context decision := by
  unfold evaluate at evaluated
  change ite (context.controlOwner ≠ expectedOwner context) _ _ = _ at evaluated
  refine ite_cases evaluated (fun owner refused => ?_) fun owner evaluated => ?_
  · exact decides_denial refused fun permits => owner permits.owner
  refine ite_cases evaluated (fun mode refused => ?_) fun mode evaluated => ?_
  · exact decides_denial refused fun permits => mode.2 (permits.mode mode.1)
  refine ite_cases evaluated (fun origin refused => ?_) fun _ evaluated => ?_
  · refine decides_denial refused fun permits => ?_
    rw [origin_of_location permits.location] at origin
    cases origin
  refine ite_cases evaluated (fun location refused => ?_)
    fun location evaluated => ?_
  · refine decides_denial refused fun permits => ?_
    rw [permits.location] at location
    cases location
  refine ite_cases evaluated (fun action refused => ?_)
    fun action evaluated => ?_
  · exact decides_denial refused fun permits => action permits.action
  refine ite_cases evaluated (fun field refused => ?_) fun field evaluated => ?_
  · refine decides_denial refused fun permits => ?_
    cases stored : context.fieldClassification with
    | none => simp [stored] at field
    | some classification =>
        rw [stored, Option.any_some, decide_eq_true_eq] at field
        exact permits.field classification stored field
  refine ite_cases evaluated (fun irreversible refused => ?_)
    fun reversible evaluated => ?_
  · exact decides_denial refused fun permits =>
      permits.reversible irreversible
  refine ite_cases evaluated (fun above refused => ?_)
    fun within evaluated => ?_
  · exact decides_denial refused fun permits =>
      Nat.not_le_of_lt above permits.ceiling
  have permits : Permits host policy context := {
    owner := Decidable.not_not.mp owner
    mode := fun human => Decidable.not_not.mp fun other => mode ⟨human, other⟩
    location := by simpa using location
    action := Decidable.not_not.mp action
    field := fun classification stored forbidden => field (by
      rw [Option.mem_def.mp stored, Option.any_some]
      exact decide_eq_true forbidden)
    reversible
    ceiling := Nat.le_of_not_lt within }
  refine ite_cases evaluated (fun sensitive asked => ?_) fun plain granted => ?_
  · obtain ⟨-, rfl⟩ := PolicyDecision.make_eq_ok.mp asked
    exact ⟨rfl, .inl ⟨permits, (if_pos sensitive).symm⟩⟩
  · obtain ⟨-, rfl⟩ := PolicyDecision.make_eq_ok.mp granted
    exact ⟨rfl, .inl ⟨permits, (if_neg plain).symm⟩⟩

private theorem exists_ite {condition : Prop} [Decidable condition]
    {yes no : Except Raised PolicyDecision}
    (positive : ∃ decision, yes = .ok decision)
    (negative : ∃ decision, no = .ok decision) :
    ∃ decision, ite condition yes no = .ok decision := by
  by_cases holds : condition
  · rw [if_pos holds]
    exact positive
  · rw [if_neg holds]
    exact negative

/-- Layer names that can be reported decide every context. -/
theorem exists_decision (host : Host) (policy : EffectivePolicy)
    (context : ActionContext)
    (named : PolicyDecision.namesValues policy.layerNames = true) :
    ∃ decision, evaluate host policy context = .ok decision ∧
      Decides host policy context decision := by
  have made : ∃ decision, evaluate host policy context = .ok decision := by
    unfold evaluate
    iterate 9
      refine exists_ite (PolicyDecision.make_ok named (by decide +kernel)) ?_
    exact PolicyDecision.make_ok named (by decide +kernel)
  obtain ⟨decision, evaluated⟩ := made
  exact ⟨decision, evaluated, evaluate_decides evaluated⟩

end PolicyEvaluator

end ReplayForge

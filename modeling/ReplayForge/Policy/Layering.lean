import Mathlib.Data.List.Dedup
import ReplayForge.Policy.Verdicts

/-!
# Policy layering

A composed policy grants what every one of its layers grants.  Taking layers
away therefore only widens it, and what it does grant, each layer grants on
its own.
-/

namespace ReplayForge

/-- What composing a list of layers means. -/
structure Composed (layers : List PolicyLayer) (policy : EffectivePolicy) :
    Prop where
  layerNames : policy.layerNames = layers.map PolicyLayer.name
  origins : ∀ item, item ∈ policy.allowedOrigins ↔
    ∀ layer ∈ layers, item ∈ layer.allowedOrigins
  routes : ∀ item, item ∈ policy.allowedRoutePatterns ↔
    ∀ layer ∈ layers, item ∈ layer.allowedRoutePatterns
  actions : ∀ item, item ∈ policy.allowedActionTypes ↔
    ∀ layer ∈ layers, item ∈ layer.allowedActionTypes
  ceiling : ∀ risk, risk ≤ policy.maximumRisk ↔
    ∀ layer ∈ layers, risk ≤ layer.maximumRisk
  forbidden : ∀ item, item ∈ policy.forbiddenFieldClasses ↔
    ∃ layer ∈ layers, item ∈ layer.forbiddenFieldClasses

namespace EffectivePolicy

theorem mem_intersection {item : String} {first : PolicyLayer}
    {rest : List PolicyLayer} (members : PolicyLayer → List String) :
    item ∈ intersection (members first) (rest.map members) ↔
      ∀ layer ∈ first :: rest, item ∈ members layer := by
  unfold intersection
  rw [List.mem_filter, List.forall_mem_cons]
  simp

/-- Some layers compose to a policy. -/
theorem intersect_composed {layers : List PolicyLayer}
    (nonempty : layers ≠ []) :
    ∃ policy, intersect layers = .ok policy ∧ Composed layers policy := by
  cases layers with
  | nil => exact absurd rfl nonempty
  | cons first rest =>
      refine ⟨_, rfl, ?_⟩
      exact {
        layerNames := rfl
        origins := fun _ => mem_intersection PolicyLayer.allowedOrigins
        routes := fun _ => mem_intersection PolicyLayer.allowedRoutePatterns
        actions := fun _ => mem_intersection PolicyLayer.allowedActionTypes
        ceiling := fun risk => by
          rw [Risk.le_foldl_min, List.forall_mem_map, List.forall_mem_cons]
        forbidden := fun item => by
          rw [List.mem_dedup, List.mem_flatMap] }

end EffectivePolicy

/-- The first policy grants nothing that the second denies. -/
structure Narrower (narrow wide : EffectivePolicy) : Prop where
  origins : narrow.allowedOrigins ⊆ wide.allowedOrigins
  routes : narrow.allowedRoutePatterns ⊆ wide.allowedRoutePatterns
  actions : narrow.allowedActionTypes ⊆ wide.allowedActionTypes
  ceiling : narrow.maximumRisk ≤ wide.maximumRisk
  forbidden : wide.forbiddenFieldClasses ⊆ narrow.forbiddenFieldClasses

theorem Composed.narrower {some all : List PolicyLayer}
    {wide narrow : EffectivePolicy} (few : Composed some wide)
    (many : Composed all narrow) (included : some ⊆ all) :
    Narrower narrow wide where
  origins := fun item granted => (few.origins item).mpr fun layer member =>
    (many.origins item).mp granted layer (included member)
  routes := fun item granted => (few.routes item).mpr fun layer member =>
    (many.routes item).mp granted layer (included member)
  actions := fun item granted => (few.actions item).mpr fun layer member =>
    (many.actions item).mp granted layer (included member)
  ceiling := (few.ceiling _).mpr fun layer member =>
    (many.ceiling _).mp le_rfl layer (included member)
  forbidden := by
    intro item refused
    obtain ⟨layer, member, field⟩ := (few.forbidden item).mp refused
    exact (many.forbidden item).mpr ⟨layer, included member, field⟩

/-- Layers with distinct names that were built. -/
structure Layered (host : Host) (layers : List PolicyLayer) : Prop where
  nonempty : layers ≠ []
  distinct : (layers.map PolicyLayer.name).Nodup
  built : ∀ layer ∈ layers, layer.make host = .ok layer

namespace Layered

variable {host : Host} {layers other : List PolicyLayer}

/-- Their names can be reported. -/
theorem namesValues (layered : Layered host layers) :
    PolicyDecision.namesValues (layers.map PolicyLayer.name) = true := by
  unfold PolicyDecision.namesValues
  rw [Bool.and_eq_true, Bool.and_eq_true]
  refine ⟨⟨?_, ?_⟩, ?_⟩
  · simpa using layered.nonempty
  · exact decide_eq_true layered.distinct
  · rw [List.all_map, List.all_eq_true]
    intro layer member
    have stated := PolicyLayer.name_of_make (layered.built layer member)
    rw [Function.comp_apply, stated, Bool.not_false]

theorem sublist (layered : Layered host layers) (nonempty : other ≠ [])
    (some : other.Sublist layers) : Layered host other where
  nonempty
  distinct := layered.distinct.sublist (some.map _)
  built := fun layer member => layered.built layer (some.subset member)

theorem perm (layered : Layered host layers) (same : other.Perm layers) :
    Layered host other where
  nonempty := fun empty => layered.nonempty
    (List.nil_perm.mp (empty ▸ same))
  distinct := (same.map PolicyLayer.name).nodup_iff.mpr layered.distinct
  built := fun layer member => layered.built layer (same.subset member)

end Layered

namespace PolicyEvaluator

variable {host : Host} {context : ActionContext}

/-- The decision on a context under the intersection of the layers. -/
def evaluateLayers (host : Host) (layers : List PolicyLayer)
    (context : ActionContext) : Except Raised PolicyDecision := do
  let policy ← EffectivePolicy.intersect layers
  evaluate host policy context

/-- The policy that the decision was made under. -/
theorem evaluateLayers_decides {layers : List PolicyLayer}
    (layered : Layered host layers) (context : ActionContext) :
    ∃ policy decision, Composed layers policy ∧
      evaluate host policy context = .ok decision ∧
      evaluateLayers host layers context = .ok decision ∧
      Decides host policy context decision := by
  obtain ⟨policy, intersected, composed⟩ :=
    EffectivePolicy.intersect_composed layered.nonempty
  have named := layered.namesValues
  rw [← composed.layerNames] at named
  obtain ⟨decision, evaluated, decided⟩ :=
    exists_decision host policy context named
  refine ⟨policy, decision, composed, evaluated, ?_, decided⟩
  unfold evaluateLayers
  rw [intersected]
  exact evaluated

theorem locationAllowed_mono {narrow wide : EffectivePolicy}
    (narrower : Narrower narrow wide) {origin route : String}
    (allowed : locationAllowed host narrow origin route = true) :
    locationAllowed host wide origin route = true := by
  unfold locationAllowed at allowed ⊢
  split at allowed
  next => cases allowed
  next canonical same =>
    rw [Bool.and_eq_true, decide_eq_true_eq, List.any_eq_true] at allowed ⊢
    obtain ⟨origins, pattern, listed, matched⟩ := allowed
    exact ⟨narrower.origins origins, pattern, narrower.routes listed, matched⟩

theorem Permits.mono {narrow wide : EffectivePolicy}
    (narrower : Narrower narrow wide)
    (permits : Permits host narrow context) :
    Permits host wide context where
  owner := permits.owner
  mode := permits.mode
  location := locationAllowed_mono narrower permits.location
  action := narrower.actions permits.action
  field := fun classification stored forbidden =>
    permits.field classification stored (narrower.forbidden forbidden)
  reversible := permits.reversible
  ceiling := permits.ceiling.trans narrower.ceiling

/-- What the narrower policy grants, the wider one decides alike. -/
theorem Decides.eq_of_narrower {narrow wide : EffectivePolicy}
    {few many : PolicyDecision} (narrower : Narrower narrow wide)
    (strict : Decides host narrow context many)
    (loose : Decides host wide context few) (granted : many.decision ≠ .deny) :
    many.decision = few.decision := by
  rcases strict.2 with ⟨permits, decided⟩ | ⟨-, denied⟩
  · rcases loose.2 with ⟨-, decided'⟩ | ⟨refused, -⟩
    · exact decided.trans decided'.symm
    · exact absurd (permits.mono narrower) refused
  · exact absurd denied granted

theorem Decides.le_of_narrower {narrow wide : EffectivePolicy}
    {few many : PolicyDecision} (narrower : Narrower narrow wide)
    (strict : Decides host narrow context many)
    (loose : Decides host wide context few) :
    many.decision ≤ few.decision := by
  by_cases denied : many.decision = .deny
  · rw [denied]
    exact Decision.deny_le _
  · exact (strict.eq_of_narrower narrower loose denied).le

/-- Policies with the same rules differ in the names they report. -/
theorem evaluate_of_mutual {one other : EffectivePolicy}
    (there : Narrower one other) (back : Narrower other one) :
    evaluate host other context =
      evaluate host { one with layerNames := other.layerNames } context := by
  have location : locationAllowed host other context.origin context.route =
      locationAllowed host { one with layerNames := other.layerNames }
        context.origin context.route :=
    Bool.eq_iff_iff.mpr ⟨fun allowed => locationAllowed_mono back allowed,
      fun allowed => locationAllowed_mono there allowed⟩
  have origins : ∀ origin, origin ∈ other.allowedOrigins ↔
      origin ∈ one.allowedOrigins :=
    fun origin => ⟨fun member => back.origins member,
      fun member => there.origins member⟩
  have actions : context.actionType ∈ other.allowedActionTypes ↔
      context.actionType ∈ one.allowedActionTypes :=
    ⟨fun member => back.actions member, fun member => there.actions member⟩
  have forbidden : ∀ field, field ∈ other.forbiddenFieldClasses ↔
      field ∈ one.forbiddenFieldClasses :=
    fun field => ⟨fun member => there.forbidden member,
      fun member => back.forbidden member⟩
  have ceiling : other.maximumRisk = one.maximumRisk :=
    le_antisymm back.ceiling there.ceiling
  unfold evaluate denial
  simp only [location, origins, actions, forbidden, ceiling]

private theorem renamed_ite {condition : Prop} [Decidable condition]
    {yes no yes' no' : Except Raised PolicyDecision}
    {decision decision' : PolicyDecision}
    (positive : yes = .ok decision → yes' = .ok decision')
    (negative : no = .ok decision → no' = .ok decision') :
    ite condition yes no = .ok decision →
      ite condition yes' no' = .ok decision' := by
  by_cases holds : condition
  · rw [if_pos holds, if_pos holds]
    exact positive
  · rw [if_neg holds, if_neg holds]
    exact negative

/-- The layer names are reported and decide nothing. -/
theorem evaluate_renamed {policy : EffectivePolicy} {decision : PolicyDecision}
    {names : List String} (named : PolicyDecision.namesValues names = true)
    (evaluated : evaluate host policy context = .ok decision) :
    evaluate host { policy with layerNames := names } context =
      .ok { decision with matchedLayers := names } := by
  have refused : ∀ {risk : Risk} {reasonCode explanation : String},
      denial policy risk reasonCode explanation = .ok decision →
      denial { policy with layerNames := names } risk reasonCode explanation =
        .ok { decision with matchedLayers := names } := by
    intro risk reasonCode explanation made
    have renamed := PolicyDecision.make_renamed made named
    exact renamed
  revert evaluated
  unfold evaluate
  -- Eight refusals, in the order of the source.
  iterate 8 refine renamed_ite refused ?_
  refine renamed_ite (fun made => ?_) fun made => ?_
  · have renamed := PolicyDecision.make_renamed made named
    exact renamed
  · have renamed := PolicyDecision.make_renamed made named
    exact renamed

/-- Layering only narrows: more layers never grant more, what they grant each
of them grants, and their order does not matter. -/
theorem layering_narrows (layers : List PolicyLayer) (context : ActionContext)
    (layered : Layered host layers) :
    ∃ decision, evaluateLayers host layers context = .ok decision ∧
      (∀ some, some ≠ [] → some.Sublist layers →
        ∃ wider, evaluateLayers host some context = .ok wider ∧
          decision.decision ≤ wider.decision) ∧
      (decision.decision ≠ .deny → ∀ layer ∈ layers,
        ∃ alone, evaluateLayers host [layer] context = .ok alone ∧
          decision.decision = alone.decision) ∧
      (∀ reordered, reordered.Perm layers →
        evaluateLayers host reordered context =
          .ok { decision with
            matchedLayers := reordered.map PolicyLayer.name }) := by
  obtain ⟨policy, decision, composed, evaluated, layersEvaluated, decided⟩ :=
    evaluateLayers_decides layered context
  refine ⟨decision, layersEvaluated, ?_, ?_, ?_⟩
  · intro some nonempty sublist
    obtain ⟨wide, wider, composed', -, evaluated', decided'⟩ :=
      evaluateLayers_decides (layered.sublist nonempty sublist) context
    exact ⟨wider, evaluated', decided.le_of_narrower
      (composed'.narrower composed sublist.subset) decided'⟩
  · intro granted layer member
    obtain ⟨wide, alone, composed', -, evaluated', decided'⟩ :=
      evaluateLayers_decides (layered.sublist (List.cons_ne_nil layer [])
        (List.singleton_sublist.mpr member)) context
    refine ⟨alone, evaluated', decided.eq_of_narrower
      (composed'.narrower composed ?_) decided' granted⟩
    exact List.cons_subset.mpr ⟨member, List.nil_subset _⟩
  · intro reordered same
    have relayered := layered.perm same
    obtain ⟨other, decision', composed', evaluated', layersEvaluated', -⟩ :=
      evaluateLayers_decides relayered context
    have alike : evaluate host other context = evaluate host
        { policy with layerNames := other.layerNames } context :=
      evaluate_of_mutual
        (composed'.narrower composed same.subset)
        (composed.narrower composed' same.symm.subset)
    have named := relayered.namesValues
    rw [← composed'.layerNames] at named
    rw [layersEvaluated', ← evaluated', alike, ← composed'.layerNames]
    exact evaluate_renamed named evaluated

/-- A platform layer that lets a payment page be searched and paid on. -/
def platformLayer : PolicyLayer where
  name := "platform"
  allowedOrigins := ["https://bank"]
  allowedRoutePatterns := ["/pay", "/search"]
  allowedActionTypes := ["click", "type"]
  maximumRisk := .sensitive

/-- An application layer that lets it be searched. -/
def searchLayer : PolicyLayer where
  name := "bank"
  allowedOrigins := ["https://bank"]
  allowedRoutePatterns := ["/search"]
  allowedActionTypes := ["click"]
  maximumRisk := .readOnly

def payClick : ActionContext where
  principalType := .automation
  principalId := "runtime"
  runMode := .replay
  applicationFamily := "bank"
  tenant := "standard"
  origin := "https://bank"
  route := "/pay"
  actionType := "click"
  targetDescription := "confirm"
  declaredRisk := .readOnly
  controlOwner := "automation"

theorem payment_narrowed :
    ∃ decision, evaluateLayers Sample.host [platformLayer, searchLayer]
        payClick = .ok decision ∧
      ∃ wider, evaluateLayers Sample.host [platformLayer] payClick =
          .ok wider ∧ decision.decision ≤ wider.decision := by
  have layered : Layered Sample.host [platformLayer, searchLayer] := {
    nonempty := List.cons_ne_nil _ _
    distinct := by decide
    built := by decide +kernel }
  obtain ⟨decision, evaluated, narrows, -, -⟩ :=
    layering_narrows [platformLayer, searchLayer] payClick layered
  exact ⟨decision, evaluated, narrows [platformLayer]
    (List.cons_ne_nil _ _) (List.cons_sublist_cons.mpr (List.nil_sublist _))⟩

end PolicyEvaluator

end ReplayForge

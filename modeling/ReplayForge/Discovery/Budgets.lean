import ReplayForge.Discovery.Outcomes

/-!
# Budgets of a discovery

A pass of the loop asks the model once, dispatches once and pauses once at
most, so that a run does so as often as its step budget allows, however often
it was handed over.
-/

namespace ReplayForge

open Effect

namespace Discovery.Engine

variable {engine : Discovery.Engine} {run : DiscoveryRun}
  {request : DiscoveryRequest}

/-- Whether an operation is of one of the kinds. -/
def ofKinds (kinds : List StageKind) (event : DiscoveryEvent) : Bool :=
  stageKind event ∈ kinds

/-- No run of the code issues more operations of the kinds. -/
abbrev Within {α : Type} (kinds : List StageKind) (limit : Nat)
    (body : Discovery α) : Prop :=
  AtMost (ofKinds kinds) limit body

section Counting

variable {counted : List StageKind} {decisions dispatches pauses : Nat}

theorem within_nothing {γ α : Type} {v : DiscoveryState → γ}
    {body : Discovery α} (silent : Stages [] v body) :
    Within counted 0 body :=
  silent.atMost fun event impossible => by cases impossible

theorem within_attempt {α : Type} {value : Except Raised α} :
    Within counted 0 (attempt value : Discovery α) :=
  within_nothing (v := id) (confined_attempt fun _ _ => trivial)

variable (apart : ∀ kind, kind ∉ dispatchKinds →
  StageKind.runtime kind ∉ counted)
include apart

section Parts

variable (decides : ∀ context, Within counted decisions
    (Discovery.decide context))
  (acts : ∀ proposal before, Within counted dispatches
    (Discovery.runtime (engine.act run proposal before)))
  (stops : ∀ stop, Within counted pauses (Discovery.pause stop))

end Parts

end Counting

/-! ## One run -/

section Runs

variable {counted : List StageKind}

end Runs

end Discovery.Engine

namespace Sample

open Discovery.Engine

end Sample

end ReplayForge

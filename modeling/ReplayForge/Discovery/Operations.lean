import ReplayForge.Discovery.Proposals
import ReplayForge.Effect.Handlers
import ReplayForge.Effect.Sums
import ReplayForge.Runtime.Operations

/-!
# The operations of a discovery run

A discovery run asks its environment for everything the runtime asks for, and
for the proposals of a model.  It pauses for a human by yielding, and goes on
with the lease version it is sent, unless it is closed.
-/

namespace ReplayForge

open Effect

inductive PlannerOp where
  /-- `contract_planner` -/
  | plan (context : PlanningContext)
  /-- `model_provider.decide` -/
  | decide (context : ProviderContext)

abbrev PlannerOp.Resp : PlannerOp → Type
  -- Nothing when the planner returns no draft.
  | .plan _ => Except Raised (Option CapabilityDraftSpec)
  | .decide _ => Except Raised DiscoveryProposal

abbrev PlannerSig : Signature where
  Op := PlannerOp
  Resp := PlannerOp.Resp

/-- What a run does between two pauses. -/
abbrev WorkSig : Signature := RuntimeSig.sum PlannerSig

/-- `yield DiscoveryPause(...)`, answered with the version that is sent;
nothing when the generator is closed. -/
abbrev PauseSig : Signature where
  Op := Discovery.Pause
  Resp := fun _ => Option Nat

abbrev DiscoverySig : Signature := WorkSig.sum PauseSig

abbrev DiscoveryEvent := Event DiscoverySig

/-- The mutable locals of a discovery run. -/
structure DiscoveryState where
  startedAt : Int := 0
  session : Option SurfaceSession := none
  leaseVersion : Nat := 0
  recordings : List RecordedDiscoveryStep := []
  observedBranch : Option ObservedBranch := none
  history : List String := []
  outputs : Outputs := []
  previousFingerprint : Option String := none
  repeatedState : Nat := 0
  repeatedAction : Nat := 0
  previousAction : Option String := none

/-- The parts of a run that only use the runtime. -/
abbrev Discovery.Work := Runtime DiscoveryState

abbrev Discovery := Procedure DiscoverySig DiscoveryState Raised

namespace Discovery

variable {α : Type}

def runtime (body : Work α) : Discovery α :=
  Procedure.inl (Procedure.inl body)

def plan (context : PlanningContext) :
    Discovery (Option CapabilityDraftSpec) :=
  @invoke DiscoverySig DiscoveryState Raised _ (.inl (.inr (.plan context))) id

def decide (context : ProviderContext) : Discovery DiscoveryProposal :=
  @invoke DiscoverySig DiscoveryState Raised _ (.inl (.inr (.decide context)))
    id

/-- The lease version the run goes on with; a closed run unwinds. -/
def pause (pause : Discovery.Pause) : Discovery Nat :=
  @invoke DiscoverySig DiscoveryState Raised Nat (.inr pause) fun
    | some version => .ok version
    | none => .error (.other "GeneratorExit")

end Discovery

end ReplayForge

import ReplayForge.Replay.Calls

/-!
# Chains of calls

A run that pauses goes on in another call, with the continuation its last call
handed to the sink.  A chain collects the events of all its calls.
-/

namespace ReplayForge

open Effect

/-- The continuations handed to the sink. -/
def retained (events : List RuntimeEvent) : List ReplayContinuation :=
  events.filterMap fun
    | ⟨.retain continuation, _⟩ => some continuation
    | _ => none

@[simp]
theorem retained_append (first second : List RuntimeEvent) :
    retained (first ++ second) = retained first ++ retained second :=
  List.filterMap_append

/-- `Chain engine request events continuation`: the calls of a chain issued
`events` and left `continuation` to go on with, if any.  The local state a call
starts in is arbitrary. -/
inductive Chain (engine : ReplayEngine) (request : ReplayRequest) :
    List RuntimeEvent → Option ReplayContinuation → Prop where
  | execute {visits : Nat} {start final : EngineState}
      {events : List RuntimeEvent} {result : Except Raised RunResult}
      {left : Option ReplayContinuation} :
      Executes (engine.execute visits request) start events result final →
      (∀ continuation ∈ left, continuation ∈ retained events) →
      Chain engine request events left
  /-- A validation leaves the outputs it read, also when it fails. -/
  | validate {past events : List RuntimeEvent}
      {continuation : ReplayContinuation} {start final : EngineState}
      {result : Except Raised (Option BusinessOutcome)} :
      Chain engine request past (some continuation) →
      Executes (engine.validateResume continuation) start events result final →
      Chain engine request (past ++ events)
        (some { continuation with outputs := final.outputs })
  | resume {visits version : Nat} {past events : List RuntimeEvent}
      {continuation : ReplayContinuation} {outcome : Option BusinessOutcome}
      {start final : EngineState} {result : Except Raised RunResult}
      {left : Option ReplayContinuation} :
      Chain engine request past (some continuation) →
      Executes (engine.resume visits continuation version outcome) start events
        result final →
      (∀ next ∈ left, next ∈ retained events) →
      Chain engine request (past ++ events) left

end ReplayForge

import ReplayForge.Effect.Interleaving

/-!
# Schedules

Where the environment can be computed, a list of turns determines a run.
-/

namespace ReplayForge.Effect

variable {S : Signature} {σ ι α β : Type}

/-- An environment that answers an operation, given some input, or blocks. -/
structure Reactor (S : Signature) (σ β : Type) (law : Law S σ) where
  react : β → Nat → σ → (op : S.Op) → Option (S.Resp op × σ)
  lawful : ∀ {input index past store op resp after},
    react input index store op = some (resp, after) →
      law index past store ⟨op, resp⟩ after

/-- The scheduler's choice: a call starts, or a thread takes a step. -/
inductive Turn (ι β : Type) where
  | spawn (index : Nat) (call : ι)
  | step (index : Nat) (input : β)

/-- The steps so far and the configuration they lead to. -/
structure Execution (S : Signature) (σ ι α : Type) where
  moves : List (Move S σ ι)
  config : Config S σ ι α

variable {law : Law S σ}

namespace Execution

/-- A turn that is not enabled changes nothing. -/
def take (reactor : Reactor S σ β law) (program : ι → Program S α)
    (execution : Execution S σ ι α) : Turn ι β → Execution S σ ι α
  | .spawn index call =>
      match execution.config.threads index with
      | some _ => execution
      | none => { execution with
          config := ⟨execution.config.store,
            execution.config.put index ⟨call, [], program call⟩⟩ }
  | .step index input =>
      match execution.config.threads index with
      | some ⟨call, past, .call op next⟩ =>
          match reactor.react input index execution.config.store op with
          | some (resp, after) => {
              moves := execution.moves ++
                [⟨index, call, past, execution.config.store, ⟨op, resp⟩, after⟩]
              config := ⟨after, execution.config.put index
                ⟨call, past ++ [⟨op, resp⟩], next resp⟩⟩ }
          | none => execution
      | _ => execution

def schedule (reactor : Reactor S σ β law) (program : ι → Program S α)
    (start : σ) (turns : List (Turn ι β)) : Execution S σ ι α :=
  turns.foldl (take reactor program) ⟨[], ⟨start, fun _ => none⟩⟩

variable {reactor : Reactor S σ β law} {program : ι → Program S α} {start : σ}
  {execution : Execution S σ ι α}

theorem interleaves_take (reached : Interleaves law program start
      execution.moves execution.config) (turn : Turn ι β) :
    Interleaves law program start (execution.take reactor program turn).moves
      (execution.take reactor program turn).config := by
  cases turn with
  | spawn index call =>
      simp only [take]
      split
      next => exact reached
      next free => exact .spawn call reached free
  | step index input =>
      simp only [take]
      split
      next found =>
        split
        next answer => exact .step reached found (reactor.lawful answer)
        next => exact reached
      next => exact reached

/-- A schedule is a run. -/
theorem interleaves (turns : List (Turn ι β)) :
    Interleaves law program start (schedule reactor program start turns).moves
      (schedule reactor program start turns).config := by
  refine List.foldlRecOn (motive := fun (execution : Execution S σ ι α) =>
    Interleaves law program start execution.moves execution.config) turns _
    ?_ ?_
  · exact .start
  · intro execution reached turn _
    exact interleaves_take reached turn

end Execution

end ReplayForge.Effect

import ReplayForge.Effect.Interleaving

/-!
# One thread alone

The events of one thread lead from store to store.  What a safe program keeps
among other threads it also keeps alone.
-/

namespace ReplayForge.Effect

variable {S : Signature} {σ τ ε α : Type}

/-- `Leads law index past before events after`: a thread that has seen `past`
can take the store from `before` to `after` by `events`. -/
inductive Leads (law : Law S σ) (index : Nat) :
    List (Event S) → σ → List (Event S) → σ → Prop where
  | nil {past : List (Event S)} {store : σ} :
      Leads law index past store [] store
  | cons {past events : List (Event S)} {before middle after : σ}
      {event : Event S} :
      law index past before event middle →
      Leads law index (past ++ [event]) middle events after →
      Leads law index past before (event :: events) after

theorem Safe.leads {shared : Shared S σ} {index : Nat} {promise : Promise S σ}
    {post : α → List (Event S) → σ → Prop} {program : Program S α}
    {past events : List (Event S)} {value : α} {before after : σ}
    (safe : Safe shared index promise post program past before)
    (runs : Runs program events value)
    (leads : Leads shared.law index past before events after)
    (valid : shared.valid before) :
    post value (past ++ events) after ∧ shared.valid after := by
  induction runs generalizing past before with
  | pure =>
      cases leads
      cases safe with
      | pure holds =>
          rw [List.append_nil]
          exact ⟨holds, valid⟩
  | call _ ih =>
      cases leads with
      | cons happens later =>
          cases safe with
          | call commit rest =>
              have here := commit _ _ _ valid (shared.refl _ _) happens
              have safe' := rest _ _ _ valid (shared.refl _ _) happens
              have ends := ih safe' later here.1
              rwa [List.append_assoc] at ends

/-- The specification of a procedure holds of its runs alone. -/
theorem Keeps.leads {shared : Shared S σ} {index : Nat}
    {promise : Promise S σ} {body : Procedure S τ ε α} {start final : τ}
    {past events : List (Event S)} {result : Except ε α} {before after : σ}
    {returned : α → τ → List (Event S) → σ → Prop}
    {raised : ε → τ → List (Event S) → σ → Prop}
    (keeps : Keeps shared index promise body start past before returned raised)
    (executes : Executes body start events result final)
    (leads : Leads shared.law index past before events after)
    (valid : shared.valid before) :
    (match result with
      | .ok value => returned value final (past ++ events) after
      | .error error => raised error final (past ++ events) after) ∧
      shared.valid after := by
  have ends := Safe.leads keeps executes leads valid
  cases result with
  | ok value => exact ends
  | error error => exact ends

/-- Answer the operations of a program from a store. -/
def Program.simulate (respond : σ → (op : S.Op) → S.Resp op × σ) :
    σ → Program S α → List (Event S) × α × σ
  | store, .pure value => ([], value, store)
  | store, .call op next =>
      let answer := respond store op
      let rest := simulate respond answer.2 (next answer.1)
      (⟨op, answer.1⟩ :: rest.1, rest.2)

theorem Program.simulate_bind {β : Type}
    {respond : σ → (op : S.Op) → S.Resp op × σ} (store : σ)
    (program : Program S β) (next : β → Program S α) :
    (program.bind next).simulate respond store =
      let first := program.simulate respond store
      let rest := (next first.2.1).simulate respond first.2.2
      (first.1 ++ rest.1, rest.2) := by
  induction program generalizing store with
  | pure value => rfl
  | call op later ih =>
      change (_, _) = (_, _)
      rw [ih]
      rfl

/-- A simulation is a run, when every answer is lawful. -/
theorem Program.simulate_runs {law : Law S σ} {index : Nat}
    {respond : σ → (op : S.Op) → S.Resp op × σ}
    (lawful : ∀ past store op,
      law index past store ⟨op, (respond store op).1⟩ (respond store op).2)
    (past : List (Event S)) (store : σ) (program : Program S α) :
    Runs program (program.simulate respond store).1
        (program.simulate respond store).2.1 ∧
      Leads law index past store (program.simulate respond store).1
        (program.simulate respond store).2.2 := by
  induction program generalizing past store with
  | pure value => exact ⟨.pure, .nil⟩
  | call op next ih =>
      obtain ⟨runs, leads⟩ := ih (respond store op).1
        (past ++ [⟨op, (respond store op).1⟩]) (respond store op).2
      exact ⟨.call runs, .cons (lawful past store op) leads⟩

end ReplayForge.Effect

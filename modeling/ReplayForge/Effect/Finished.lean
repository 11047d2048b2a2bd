import ReplayForge.Effect.Histories
import ReplayForge.Effect.Sequential

/-!
# Finished calls

What a call of an interleaved run has done is seen from the store in which it
took its first step.
-/

namespace ReplayForge.Effect

variable {S : Signature} {σ τ ε ι α β : Type}

/-- A sequence that returns has run both parts. -/
theorem executes_bind_ok {body : Procedure S τ ε α}
    {next : α → Procedure S τ ε β} {before after : τ}
    {events : List (Event S)} {value : β} :
    Executes (body >>= next) before events (.ok value) after ↔
      ∃ first found middle second, events = first ++ second ∧
        Executes body before first (.ok found) middle ∧
        Executes (next found) middle second (.ok value) after := by
  rw [executes_bind]
  simp

/-- The store in which a thread takes its first step; the last store, when it
has taken none. -/
def began (index : Nat) : σ → List (Move S σ ι) → σ
  | store, [] => store
  | _, move :: rest =>
      if move.thread = index then move.before
      else began index move.after rest

section Beginnings

variable {index : Nat} {start final : σ} {first second moves : List (Move S σ ι)}
  {move : Move S σ ι}

@[simp]
theorem eventsOf_cons_eq_nil : eventsOf index (move :: moves) = [] ↔
    move.thread ≠ index ∧ eventsOf index moves = [] := by
  by_cases same : move.thread = index <;> simp [eventsOf, same]

theorem began_of_idle (chained : Chained start moves final)
    (idle : eventsOf index moves = []) : began index start moves = final := by
  induction moves generalizing start with
  | nil => exact chained.symm
  | cons move rest ih =>
      obtain ⟨rfl, later⟩ := chained
      obtain ⟨other, idle⟩ := eventsOf_cons_eq_nil.mp idle
      rw [began, if_neg other]
      exact ih later idle

theorem began_concat (idle : eventsOf index moves = [])
    (same : move.thread = index) :
    began index start (moves ++ [move]) = move.before := by
  induction moves generalizing start with
  | nil => rw [List.nil_append, began, if_pos same]
  | cons first rest ih =>
      obtain ⟨other, idle⟩ := eventsOf_cons_eq_nil.mp idle
      rw [List.cons_append, began, if_neg other]
      exact ih idle

theorem began_append (busy : eventsOf index first ≠ []) :
    began index start (first ++ second) = began index start first := by
  induction first generalizing start with
  | nil => exact absurd rfl busy
  | cons move rest ih =>
      rw [List.cons_append, began, began]
      by_cases same : move.thread = index
      · rw [if_pos same, if_pos same]
      · rw [if_neg same, if_neg same]
        apply ih
        intro idle
        exact busy (eventsOf_cons_eq_nil.mpr ⟨same, idle⟩)

end Beginnings

namespace Interleaves

variable {law : Law S σ} {program : ι → Program S α} {start : σ}
  {moves : List (Move S σ ι)} {config : Config S σ ι α}

/-- A thread that has taken no step has its whole program before it. -/
theorem unbegun (reached : Interleaves law program start moves config)
    {index : Nat} {thread : Thread S ι α}
    (found : config.threads index = some thread) (fresh : thread.past = []) :
    thread.rest = program thread.call := by
  induction reached with
  | start => cases found
  | spawn call _ _ ih =>
      rcases Config.put_cases found with ⟨-, rfl⟩ | ⟨-, earlier⟩
      · rfl
      · exact ih earlier
  | step _ _ _ ih =>
      rcases Config.put_cases found with ⟨-, rfl⟩ | ⟨-, earlier⟩
      · simp at fresh
      · exact ih earlier

/-- What a thread has seen is a part of a run of its program. -/
theorem runs_rest (reached : Interleaves law program start moves config)
    {index : Nat} {thread : Thread S ι α}
    (found : config.threads index = some thread) {events : List (Event S)}
    {value : α} (runs : Runs thread.rest events value) :
    Runs (program thread.call) (thread.past ++ events) value := by
  induction reached generalizing index thread events with
  | start => cases found
  | spawn call _ _ ih =>
      rcases Config.put_cases found with ⟨-, rfl⟩ | ⟨-, earlier⟩
      · exact runs
      · exact ih earlier runs
  | step _ here _ ih =>
      rcases Config.put_cases found with ⟨-, rfl⟩ | ⟨-, earlier⟩
      · have whole := ih here (.call runs)
        rwa [List.append_assoc]
      · exact ih earlier runs

theorem runs_finished (reached : Interleaves law program start moves config)
    {index : Nat} {call : ι} {past : List (Event S)} {value : α}
    (found : config.threads index = some ⟨call, past, .pure value⟩) :
    Runs (program call) past value := by
  have whole := reached.runs_rest found .pure
  rwa [List.append_nil] at whole

variable {shared : Shared S σ} {promise : ι → Promise S σ}
  {post : Nat → ι → σ → α → List (Event S) → σ → Prop}

/-- Each call keeps its specification since the store in which it began. -/
theorem safe_since (reached : Interleaves shared.law program start moves config)
    (safe : ∀ index call state, shared.valid state →
      Safe shared index (promise call) (post index call state) (program call)
        [] state)
    (initial : shared.valid start) (index : Nat) (thread : Thread S ι α)
    (found : config.threads index = some thread) :
    ∃ state, shared.rely index state config.store ∧
      Safe shared index (promise thread.call)
        (post index thread.call (began index start moves)) thread.rest
        thread.past state := by
  have valid {moves : List (Move S σ ι)} {config : Config S σ ι α}
      (reached : Interleaves shared.law program start moves config) :
      Sound shared promise (fun _ _ _ _ => True) moves config :=
    reached.sound (fun index call state valid =>
      (safe index call state valid).weaken fun _ _ _ _ => trivial) initial
  induction reached generalizing index thread with
  | start => cases found
  | @spawn moves config own call reached free ih =>
      rcases Config.put_cases found with ⟨rfl, rfl⟩ | ⟨-, earlier⟩
      · have idle : eventsOf index moves = [] := by
          rw [reached.eventsOf_eq, free]
          rfl
        rw [began_of_idle reached.chained idle]
        exact ⟨config.store, shared.refl _ _,
          safe index call _ (valid reached).valid⟩
      · exact ih index thread earlier
  | @step moves config own call past op next resp after reached here happens
      ih =>
      have later : Interleaves shared.law program start
          (moves ++ [⟨own, call, past, config.store, ⟨op, resp⟩, after⟩])
          ⟨after, config.put own ⟨call, past ++ [⟨op, resp⟩], next resp⟩⟩ :=
        .step reached here happens
      have last := (valid later).moves
        ⟨own, call, past, config.store, ⟨op, resp⟩, after⟩ (by simp)
      have seen (index : Nat) (thread : Thread S ι α)
          (found : config.threads index = some thread) :
          eventsOf index moves = thread.past := by
        rw [reached.eventsOf_eq, found]
        rfl
      rcases Config.put_cases found with ⟨rfl, rfl⟩ | ⟨apart, earlier⟩
      · refine ⟨after, shared.refl _ _, ?_⟩
        by_cases fresh : past = []
        · -- The first step of the thread: its specification starts here.
          subst fresh
          have whole := reached.unbegun here rfl
          have running := safe index call config.store (valid reached).valid
          rw [← whole] at running
          have idle : eventsOf index moves = [] := seen index _ here
          rw [began_concat idle rfl]
          cases running with
          | call _ rest =>
              exact rest _ resp after (valid reached).valid
                (shared.refl _ _) happens
        · have busy : eventsOf index moves ≠ [] := by
            rw [seen index _ here]
            exact fresh
          rw [began_append busy]
          obtain ⟨state, grown, running⟩ := ih index _ here
          cases running with
          | call _ rest =>
              exact rest _ resp after (valid reached).valid grown happens
      · by_cases fresh : thread.past = []
        · have idle : eventsOf index
              (moves ++ [⟨own, call, past, config.store, ⟨op, resp⟩, after⟩]) =
              [] := by
            rw [later.eventsOf_eq, found]
            exact fresh
          rw [began_of_idle later.chained idle]
          have whole := later.unbegun found fresh
          rw [whole, fresh]
          exact ⟨after, shared.refl _ _, safe index thread.call after last.2.2.1⟩
        · have busy : eventsOf index moves ≠ [] := by
            rw [seen index _ earlier]
            exact fresh
          rw [began_append busy]
          obtain ⟨state, grown, running⟩ := ih index thread earlier
          exact ⟨state, shared.trans grown (last.2.2.2.1 index apart), running⟩

/-- What one thread does alone is a run. -/
theorem alone {call : ι} {past events : List (Event S)} {rest : Program S α}
    {before after : σ} {value : α}
    (reached : Interleaves law program start moves config)
    (here : config.store = before)
    (found : config.threads 0 = some ⟨call, past, rest⟩)
    (runs : Runs rest events value) (leads : Leads law 0 past before events after) :
    ∃ moves config, Interleaves law program start moves config ∧
      config.store = after ∧
      config.threads 0 = some ⟨call, past ++ events, .pure value⟩ := by
  induction runs generalizing past before moves config with
  | pure =>
      cases leads
      exact ⟨moves, config, reached, here, by rw [found, List.append_nil]⟩
  | @call op next resp events value _ ih =>
      cases leads with
      | @cons _ _ _ middle _ _ happens later =>
          rw [← here] at happens
          have step := Interleaves.step reached found happens
          obtain ⟨moves', config', reached', last, finished⟩ :=
            ih step rfl (by simp [Config.put]) later
          refine ⟨moves', config', reached', last, ?_⟩
          rw [finished, List.append_assoc, List.singleton_append]

end Interleaves

end ReplayForge.Effect

import ReplayForge.Effect.Watch

/-!
# Exception clauses

`handling` is an `except` clause and `closing` a `finally` clause, over any
signature, with the rules for the assertions around them.
-/

namespace ReplayForge.Effect

variable {S : Signature} {σ ε κ α Q : Type}

/-- The selected exceptions become values, the others pass. -/
def handling (select : ε → Option κ) (body : Procedure S σ ε α) :
    Procedure S σ ε (Except κ α) :=
  tryCatch (Except.ok <$> body) fun error =>
    match select error with
    | some caught => pure (.error caught)
    | none => throw error

/-- An exception of the final part replaces the outcome. -/
def closing (body : Procedure S σ ε α) (final : Procedure S σ ε Unit) :
    Procedure S σ ε α := do
  let outcome ← handling some body
  final
  attempt outcome

/-- What is known of an outcome: of its value or of its exception. -/
def either (value : α → Q → σ → Prop) (error : ε → Q → σ → Prop) :
    Except ε α → Q → σ → Prop
  | .ok result => value result
  | .error reason => error reason

section Inversion

variable {before after : σ} {events : List (Event S)}

theorem executes_handling {select : ε → Option κ} {body : Procedure S σ ε α}
    {result : Except ε (Except κ α)} :
    Executes (handling select body) before events result after ↔
      ∃ outcome, Executes body before events outcome after ∧
        match outcome with
        | .ok value => result = .ok (.ok value)
        | .error error =>
            match select error with
            | some caught => result = .ok (.error caught)
            | none => result = .error error := by
  unfold handling
  rw [executes_tryCatch]
  constructor
  · rintro (⟨value, inner, rfl⟩ |
      ⟨front, error, middle, back, rfl, inner, handled⟩)
    · rw [map_eq_pure_bind] at inner
      rcases executes_bind.mp inner with
        ⟨_, -, impossible⟩ | ⟨first, stored, state, second, rfl, head, tail⟩
      · cases impossible
      · obtain ⟨rfl, same, rfl⟩ := executes_pure.mp tail
        cases same
        exact ⟨.ok stored, by simpa using head, rfl⟩
    · rw [map_eq_pure_bind] at inner
      rcases executes_bind.mp inner with
        ⟨reason, head, same⟩ | ⟨_, stored, state, second, rfl, -, tail⟩
      · cases same
        refine ⟨.error error, ?_⟩
        cases selected : select error with
        | some caught =>
            simp only [selected] at handled
            obtain ⟨rfl, rfl, rfl⟩ := executes_pure.mp handled
            exact ⟨by simpa using head, by simp only [selected]⟩
        | none =>
            simp only [selected] at handled
            obtain ⟨rfl, rfl, rfl⟩ := executes_throw.mp handled
            exact ⟨by simpa using head, by simp only [selected]⟩
      · obtain ⟨-, impossible, -⟩ := executes_pure.mp tail
        cases impossible
  · rintro ⟨outcome, inner, same⟩
    cases outcome with
    | ok value =>
        left
        refine ⟨.ok value, ?_, same⟩
        rw [map_eq_pure_bind]
        exact executes_bind.mpr (.inr ⟨events, value, after, [], by simp, inner,
          executes_pure.mpr ⟨rfl, rfl, rfl⟩⟩)
    | error error =>
        right
        refine ⟨events, error, after, [], by simp, ?_, ?_⟩
        · rw [map_eq_pure_bind]
          exact executes_bind.mpr (.inl ⟨error, inner, rfl⟩)
        · cases selected : select error with
          | some caught =>
              simp only [selected] at same
              exact executes_pure.mpr ⟨rfl, same, rfl⟩
          | none =>
              simp only [selected] at same
              exact executes_throw.mpr ⟨rfl, same, rfl⟩

/-- The final part runs whatever the body's outcome; its own exception
replaces that outcome. -/
theorem executes_closing {body : Procedure S σ ε α}
    {final : Procedure S σ ε Unit} {result : Except ε α} :
    Executes (closing body final) before events result after ↔
      ∃ front outcome middle back ended, events = front ++ back ∧
        Executes body before front outcome middle ∧
        Executes final middle back ended after ∧
        result = ended.bind fun _ => outcome := by
  unfold closing
  constructor
  · intro run
    rcases executes_bind.mp run with
      ⟨error, caught, -⟩ | ⟨front, outcome, middle, rest, rfl, caught, next⟩
    · obtain ⟨outcome, -, same⟩ := executes_handling.mp caught
      cases outcome <;> cases same
    obtain ⟨inner, inside, same⟩ := executes_handling.mp caught
    have equal : inner = outcome := by
      cases inner <;> cases same <;> rfl
    subst equal
    rcases executes_bind.mp next with
      ⟨error, ended, rfl⟩ | ⟨back, value, between, last, rfl, ended, done⟩
    · exact ⟨front, inner, middle, rest, .error error, rfl, inside, ended, rfl⟩
    · obtain ⟨rfl, rfl, rfl⟩ := executes_attempt.mp done
      exact ⟨front, result, middle, back, .ok value, by simp, inside, ended,
        rfl⟩
  · rintro ⟨front, outcome, middle, back, ended, rfl, inside, last, rfl⟩
    refine executes_bind.mpr (.inr ⟨front, outcome, middle, back, rfl,
      executes_handling.mpr ⟨outcome, inside, ?_⟩, ?_⟩)
    · cases outcome <;> rfl
    · cases ended with
      | error error => exact executes_bind.mpr (.inl ⟨error, last, rfl⟩)
      | ok value =>
          exact executes_bind.mpr (.inr ⟨back, value, after, [], by simp, last,
            executes_attempt.mpr ⟨rfl, rfl, rfl⟩⟩)

end Inversion

section Rules

variable {watch : Watch S Q} {before : Q → σ → Prop}
  {raised : ε → Q → σ → Prop}

theorem guarantees_handling {select : ε → Option κ}
    {body : Procedure S σ ε α} {after : Except κ α → Q → σ → Prop}
    {c : ε → Q → σ → Prop}
    (first : Guarantees watch before body (fun value => after (.ok value)) c)
    (selected : ∀ error value seen state, c error seen state →
      select error = some value → after (.error value) seen state)
    (passed : ∀ error seen state, c error seen state →
      select error = none → raised error seen state) :
    Guarantees watch before (handling select body) after raised := by
  intro seen start events result final here run
  obtain ⟨outcome, inner, same⟩ := executes_handling.mp run
  have there := first here inner
  cases outcome with
  | ok value =>
      subst same
      exact there
  | error error =>
      cases chosen : select error with
      | some caught =>
          simp only [chosen] at same
          subst same
          exact selected error caught _ _ there chosen
      | none =>
          simp only [chosen] at same
          subst same
          exact passed error _ _ there chosen

theorem guarantees_closing {body : Procedure S σ ε α}
    {final : Procedure S σ ε Unit} {after m : α → Q → σ → Prop}
    {f : ε → Q → σ → Prop}
    (first : Guarantees watch before body m f)
    (returned : ∀ value, Guarantees watch (m value) final
      (fun _ => after value) raised)
    (failed : ∀ error, Guarantees watch (f error) final
      (fun _ => raised error) raised) :
    Guarantees watch before (closing body final) after raised := by
  refine guarantees_bind (m := either m f)
    (guarantees_handling first (fun error value seen state here same => ?_)
      fun error seen state here impossible => by cases impossible)
    fun outcome => ?_
  · cases same
    exact here
  · cases outcome with
    | ok value =>
        refine guarantees_bind (returned value) fun _ => ?_
        refine guarantees_attempt (fun seen state stored here same => ?_)
          (fun seen state error here impossible => by cases impossible)
        cases same
        exact here
    | error error =>
        refine guarantees_bind (failed error) fun _ => ?_
        refine guarantees_attempt
          (fun seen state stored here impossible => by cases impossible)
          (fun seen state other here same => ?_)
        cases same
        exact here

end Rules

section Confinement

variable {γ : Type} {allowed : Event S → Prop} {view : σ → γ}
  {raises c : ε → Prop}

theorem confined_handling {select : ε → Option κ} {body : Procedure S σ ε α}
    (first : Confined allowed view c body)
    (passed : ∀ error, c error → select error = none → raises error) :
    Confined allowed view raises (handling select body) where
  issued := by
    intro start events result final run
    obtain ⟨outcome, inner, -⟩ := executes_handling.mp run
    exact first.issued inner
  kept := by
    intro start events result final run
    obtain ⟨outcome, inner, -⟩ := executes_handling.mp run
    exact first.kept inner
  thrown := by
    intro start events error final run
    obtain ⟨outcome, inner, same⟩ := executes_handling.mp run
    cases outcome with
    | ok value => cases same
    | error reason =>
        cases chosen : select reason with
        | some caught =>
            simp only [chosen] at same
            cases same
        | none =>
            simp only [chosen] at same
            cases same
            exact passed error (first.thrown inner) chosen

end Confinement

/-! ## The history of a run -/

/-- Everything that has happened. -/
def Watch.history : Watch S (List (Event S)) :=
  fun seen event => seen ++ [event]

theorem Watch.run_history (seen events : List (Event S)) :
    Watch.history.run seen events = seen ++ events := by
  induction events generalizing seen with
  | nil => simp
  | cons event rest ih =>
      rw [Watch.run_cons, ih]
      simp [Watch.history]

end ReplayForge.Effect

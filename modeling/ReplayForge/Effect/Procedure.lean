import ReplayForge.Effect.Program

/-!
# Procedures: programs with local state and exceptions

A procedure threads a local state through a program and may raise.  The local
state survives an exception, as the mutable locals of an imperative language
do.  `Executes` is the run relation of procedures; the equivalences below
invert one construct at a time.
-/

namespace ReplayForge.Effect

abbrev Procedure (S : Signature) (σ ε : Type) := ExceptT ε (StateT σ (Program S))

variable {S : Signature} {σ ε α β : Type}

/-- `Executes body before events result after`: started in `before`, the body
can issue `events`, end with `result` and leave `after`. -/
def Executes (body : Procedure S σ ε α) (before : σ) (events : List (Event S))
    (result : Except ε α) (after : σ) : Prop :=
  Runs (body.run.run before) events (result, after)

/-- Issue one operation. -/
def perform (op : S.Op) : Procedure S σ ε (S.Resp op) :=
  fun before => .call op fun resp => .pure (.ok resp, before)

/-- Issue one operation whose response may be an exception. -/
def invoke (op : S.Op) (read : S.Resp op → Except ε α) : Procedure S σ ε α :=
  fun before => .call op fun resp => .pure (read resp, before)

/-- Raise the exception of a pure computation. -/
def attempt (value : Except ε α) : Procedure S σ ε α :=
  fun before => .pure (value, before)

theorem attempt_ok_bind (value : α) (next : α → Procedure S σ ε β) :
    (attempt (.ok value) >>= next) = next value := rfl

section Inversion

variable {before after : σ} {events : List (Event S)}

@[simp]
theorem executes_pure {value : α} {result : Except ε α} :
    Executes (pure value : Procedure S σ ε α) before events result after ↔
      events = [] ∧ result = .ok value ∧ after = before := by
  change Runs (.pure (.ok value, before)) events (result, after) ↔ _
  rw [runs_pure_iff, Prod.mk.injEq]

@[simp]
theorem executes_throw {error : ε} {result : Except ε α} :
    Executes (throw error : Procedure S σ ε α) before events result after ↔
      events = [] ∧ result = .error error ∧ after = before := by
  change Runs (.pure (.error error, before)) events (result, after) ↔ _
  rw [runs_pure_iff, Prod.mk.injEq]

@[simp]
theorem executes_attempt {value : Except ε α} {result : Except ε α} :
    Executes (attempt value : Procedure S σ ε α) before events result after ↔
      events = [] ∧ result = value ∧ after = before := by
  change Runs (.pure (value, before)) events (result, after) ↔ _
  rw [runs_pure_iff, Prod.mk.injEq]

@[simp]
theorem executes_get {result : Except ε σ} :
    Executes (get : Procedure S σ ε σ) before events result after ↔
      events = [] ∧ result = .ok before ∧ after = before := by
  change Runs (.pure (.ok before, before)) events (result, after) ↔ _
  rw [runs_pure_iff, Prod.mk.injEq]

@[simp]
theorem executes_modify {update : σ → σ} {result : Except ε PUnit} :
    Executes (modify update : Procedure S σ ε PUnit) before events result
        after ↔
      events = [] ∧ result = .ok ⟨⟩ ∧ after = update before := by
  change Runs (.pure (.ok ⟨⟩, update before)) events (result, after) ↔ _
  rw [runs_pure_iff, Prod.mk.injEq]

@[simp]
theorem executes_perform {op : S.Op} {result : Except ε (S.Resp op)} :
    Executes (perform op : Procedure S σ ε (S.Resp op)) before events result
        after ↔
      ∃ resp, events = [⟨op, resp⟩] ∧ result = .ok resp ∧ after = before := by
  change Runs (.call op fun resp => .pure (.ok resp, before)) events
    (result, after) ↔ _
  simp only [runs_call_iff, runs_pure_iff, Prod.mk.injEq]
  constructor
  · rintro ⟨resp, _, rfl, rfl, same, same'⟩
    exact ⟨resp, rfl, same, same'⟩
  · rintro ⟨resp, rfl, same, same'⟩
    exact ⟨resp, [], rfl, rfl, same, same'⟩

@[simp]
theorem executes_invoke {op : S.Op} {read : S.Resp op → Except ε α}
    {result : Except ε α} :
    Executes (invoke op read : Procedure S σ ε α) before events result
        after ↔
      ∃ resp, events = [⟨op, resp⟩] ∧ result = read resp ∧
        after = before := by
  change Runs (.call op fun resp => .pure (read resp, before)) events
    (result, after) ↔ _
  simp only [runs_call_iff, runs_pure_iff, Prod.mk.injEq]
  constructor
  · rintro ⟨resp, _, rfl, rfl, same, same'⟩
    exact ⟨resp, rfl, same, same'⟩
  · rintro ⟨resp, rfl, same, same'⟩
    exact ⟨resp, [], rfl, rfl, same, same'⟩

def bindStep (next : α → Procedure S σ ε β) :
    Except ε α × σ → Program S (Except ε β × σ)
  | (.ok value, state) => (next value).run.run state
  | (.error error, state) => .pure (.error error, state)

theorem run_bind (body : Procedure S σ ε α)
    (next : α → Procedure S σ ε β) (before : σ) :
    (body >>= next).run.run before =
      (body.run.run before).bind (bindStep next) := by
  change (body.run.run before).bind _ = _
  congr
  funext pair
  obtain ⟨value, state⟩ := pair
  cases value <;> rfl

/-- A sequence either stops with the first part's exception or runs its two
parts one after the other. -/
theorem executes_bind {body : Procedure S σ ε α}
    {next : α → Procedure S σ ε β} {result : Except ε β} :
    Executes (body >>= next) before events result after ↔
      (∃ error, Executes body before events (.error error) after ∧
        result = .error error) ∨
      (∃ first value middle second, events = first ++ second ∧
        Executes body before first (.ok value) middle ∧
        Executes (next value) middle second result after) := by
  unfold Executes
  rw [run_bind, runs_bind_iff]
  constructor
  · rintro ⟨first, ⟨outcome, middle⟩, second, rfl, head, tail⟩
    cases outcome with
    | ok value =>
        exact .inr ⟨first, value, middle, second, rfl, head, tail⟩
    | error error =>
        obtain ⟨rfl, same⟩ := runs_pure_iff.mp tail
        rw [Prod.mk.injEq] at same
        obtain ⟨rfl, rfl⟩ := same
        exact .inl ⟨error, by simpa using head, rfl⟩
  · rintro (⟨error, head, rfl⟩ | ⟨first, value, middle, second, rfl, head, tail⟩)
    · exact ⟨events, _, [], by simp, head, .pure⟩
    · exact ⟨first, _, second, rfl, head, tail⟩

def catchStep (handler : ε → Procedure S σ ε α) :
    Except ε α × σ → Program S (Except ε α × σ)
  | (.ok value, state) => .pure (.ok value, state)
  | (.error error, state) => (handler error).run.run state

theorem run_tryCatch (body : Procedure S σ ε α)
    (handler : ε → Procedure S σ ε α) (before : σ) :
    (tryCatch body handler : Procedure S σ ε α).run.run before =
      (body.run.run before).bind (catchStep handler) := by
  change (body.run.run before).bind _ = _
  congr
  funext pair
  obtain ⟨value, state⟩ := pair
  cases value <;> rfl

/-- A handler runs in the state the failed body left behind. -/
theorem executes_tryCatch {body : Procedure S σ ε α}
    {handler : ε → Procedure S σ ε α} {result : Except ε α} :
    Executes (tryCatch body handler) before events result after ↔
      (∃ value, Executes body before events (.ok value) after ∧
        result = .ok value) ∨
      (∃ first error middle second, events = first ++ second ∧
        Executes body before first (.error error) middle ∧
        Executes (handler error) middle second result after) := by
  unfold Executes
  rw [run_tryCatch, runs_bind_iff]
  constructor
  · rintro ⟨first, ⟨outcome, middle⟩, second, rfl, head, tail⟩
    cases outcome with
    | ok value =>
        obtain ⟨rfl, same⟩ := runs_pure_iff.mp tail
        rw [Prod.mk.injEq] at same
        obtain ⟨rfl, rfl⟩ := same
        exact .inl ⟨value, by simpa using head, rfl⟩
    | error error =>
        exact .inr ⟨first, error, middle, second, rfl, head, tail⟩
  · rintro (⟨value, head, rfl⟩ | ⟨first, error, middle, second, rfl, head, tail⟩)
    · exact ⟨events, _, [], by simp, head, .pure⟩
    · exact ⟨first, _, second, rfl, head, tail⟩

end Inversion

end ReplayForge.Effect

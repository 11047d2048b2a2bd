import ReplayForge.Effect.Procedure

/-!
# Watching a run

A watch reads the events of a run one by one.  `Guarantees` is the partial
correctness triple of a procedure whose assertions speak of the watch and of
the local state; `Confined` bounds what a procedure can issue, change and
raise, and a confined procedure keeps every assertion its events do not
disturb.
-/

namespace ReplayForge.Effect

/-- How one event changes what has been seen. -/
abbrev Watch (S : Signature) (Q : Type) := Q → Event S → Q

variable {S : Signature} {σ ε α β Q : Type}

/-- What has been seen after a list of events. -/
def Watch.run (watch : Watch S Q) (seen : Q) (events : List (Event S)) : Q :=
  events.foldl watch seen

@[simp]
theorem Watch.run_nil (watch : Watch S Q) (seen : Q) :
    watch.run seen [] = seen := rfl

@[simp]
theorem Watch.run_cons (watch : Watch S Q) (seen : Q) (event : Event S)
    (rest : List (Event S)) :
    watch.run seen (event :: rest) = watch.run (watch seen event) rest := rfl

@[simp]
theorem Watch.run_append (watch : Watch S Q) (seen : Q)
    (first second : List (Event S)) :
    watch.run seen (first ++ second) =
      watch.run (watch.run seen first) second :=
  List.foldl_append

/-- Events that each leave the watch unchanged leave it unchanged together. -/
theorem Watch.run_eq_self {watch : Watch S Q} {events : List (Event S)}
    {seen : Q} (silent : ∀ event ∈ events, watch seen event = seen) :
    watch.run seen events = seen := by
  induction events with
  | nil => rfl
  | cons event rest ih =>
      rw [Watch.run_cons, silent event List.mem_cons_self]
      exact ih fun other member => silent other (List.mem_cons_of_mem _ member)

/-- An invariant of single events is an invariant of event lists. -/
theorem Watch.run_invariant {watch : Watch S Q} {p : Q → Prop}
    {events : List (Event S)} {seen : Q}
    (step : ∀ seen, ∀ event ∈ events, p seen → p (watch seen event))
    (start : p seen) : p (watch.run seen events) := by
  induction events generalizing seen with
  | nil => exact start
  | cons event rest ih =>
      exact ih (fun seen other member =>
          step seen other (List.mem_cons_of_mem _ member))
        (step seen event List.mem_cons_self start)

/-- The number of events with a property. -/
def Watch.count (counted : Event S → Bool) : Watch S Nat :=
  fun seen event => if counted event then seen + 1 else seen

theorem Watch.run_count (counted : Event S → Bool) (seen : Nat)
    (events : List (Event S)) :
    (Watch.count counted).run seen events = seen + events.countP counted := by
  induction events generalizing seen with
  | nil => simp
  | cons event rest ih =>
      rw [Watch.run_cons, ih, List.countP_cons]
      unfold Watch.count
      split
      · omega
      · omega

/-- Started where `before` holds, the body ends a normal run where `after`
holds and an exceptional one where `raised` holds. -/
def Guarantees (watch : Watch S Q) (before : Q → σ → Prop)
    (body : Procedure S σ ε α) (after : α → Q → σ → Prop)
    (raised : ε → Q → σ → Prop) : Prop :=
  ∀ ⦃seen start events result final⦄, before seen start →
    Executes body start events result final →
    match result with
    | .ok value => after value (watch.run seen events) final
    | .error error => raised error (watch.run seen events) final

section Rules

variable {watch : Watch S Q} {before : Q → σ → Prop}
  {raised : ε → Q → σ → Prop}

theorem guarantees_pure {value : α} {after : α → Q → σ → Prop}
    (holds : ∀ seen state, before seen state → after value seen state) :
    Guarantees watch before (pure value : Procedure S σ ε α) after raised := by
  intro seen start events result final here run
  obtain ⟨rfl, rfl, rfl⟩ := executes_pure.mp run
  exact holds seen final here

theorem guarantees_throw {error : ε} {after : α → Q → σ → Prop}
    (holds : ∀ seen state, before seen state → raised error seen state) :
    Guarantees watch before (throw error : Procedure S σ ε α) after raised := by
  intro seen start events result final here run
  obtain ⟨rfl, rfl, rfl⟩ := executes_throw.mp run
  exact holds seen final here

theorem guarantees_attempt {value : Except ε α} {after : α → Q → σ → Prop}
    (returned : ∀ seen state stored, before seen state → value = .ok stored →
      after stored seen state)
    (failed : ∀ seen state error, before seen state → value = .error error →
      raised error seen state) :
    Guarantees watch before (attempt value : Procedure S σ ε α) after
      raised := by
  intro seen start events result final here run
  obtain ⟨rfl, rfl, rfl⟩ := executes_attempt.mp run
  cases result with
  | ok stored => exact returned seen final stored here rfl
  | error error => exact failed seen final error here rfl

theorem guarantees_get {after : σ → Q → σ → Prop}
    (holds : ∀ seen state, before seen state → after state seen state) :
    Guarantees watch before (get : Procedure S σ ε σ) after raised := by
  intro seen start events result final here run
  obtain ⟨rfl, rfl, rfl⟩ := executes_get.mp run
  exact holds seen final here

theorem guarantees_modify {update : σ → σ} {after : PUnit → Q → σ → Prop}
    (holds : ∀ seen state, before seen state →
      after ⟨⟩ seen (update state)) :
    Guarantees watch before (modify update : Procedure S σ ε PUnit) after
      raised := by
  intro seen start events result final here run
  obtain ⟨rfl, rfl, rfl⟩ := executes_modify.mp run
  exact holds seen start here

theorem guarantees_perform {op : S.Op} {after : S.Resp op → Q → σ → Prop}
    (holds : ∀ seen state resp, before seen state →
      after resp (watch seen ⟨op, resp⟩) state) :
    Guarantees watch before (perform op : Procedure S σ ε (S.Resp op)) after
      raised := by
  intro seen start events result final here run
  obtain ⟨resp, rfl, rfl, rfl⟩ := executes_perform.mp run
  exact holds seen final resp here

theorem guarantees_invoke {op : S.Op} {read : S.Resp op → Except ε α}
    {after : α → Q → σ → Prop}
    (returned : ∀ seen state resp value, before seen state →
      read resp = .ok value → after value (watch seen ⟨op, resp⟩) state)
    (failed : ∀ seen state resp error, before seen state →
      read resp = .error error → raised error (watch seen ⟨op, resp⟩) state) :
    Guarantees watch before (invoke op read : Procedure S σ ε α) after
      raised := by
  intro seen start events result final here run
  obtain ⟨resp, rfl, rfl, rfl⟩ := executes_invoke.mp run
  cases answer : read resp with
  | ok value => exact returned seen final resp value here answer
  | error error => exact failed seen final resp error here answer

/-- Sequencing: the first part's assertion is what the rest starts from. -/
theorem guarantees_bind {body : Procedure S σ ε α}
    {next : α → Procedure S σ ε β} {m : α → Q → σ → Prop}
    {after : β → Q → σ → Prop}
    (first : Guarantees watch before body m raised)
    (rest : ∀ value, Guarantees watch (m value) (next value) after
      raised) :
    Guarantees watch before (body >>= next) after raised := by
  intro seen start events result final here run
  rcases executes_bind.mp run with
    ⟨error, head, rfl⟩ | ⟨front, value, state, back, rfl, head, tail⟩
  · exact first here head
  · rw [Watch.run_append]
    exact rest value (first here head) tail

theorem guarantees_tryCatch {body : Procedure S σ ε α}
    {handler : ε → Procedure S σ ε α} {after : α → Q → σ → Prop}
    {c : ε → Q → σ → Prop}
    (first : Guarantees watch before body after c)
    (rest : ∀ error, Guarantees watch (c error) (handler error) after
      raised) :
    Guarantees watch before (tryCatch body handler) after raised := by
  intro seen start events result final here run
  rcases executes_tryCatch.mp run with
    ⟨value, head, rfl⟩ | ⟨front, error, state, back, rfl, head, tail⟩
  · exact first here head
  · rw [Watch.run_append]
    exact rest error (first here head) tail

theorem guarantees_ite {test : Prop} [Decidable test]
    {yes no : Procedure S σ ε α} {after : α → Q → σ → Prop}
    (positive : test → Guarantees watch before yes after raised)
    (negative : ¬test → Guarantees watch before no after raised) :
    Guarantees watch before (if test then yes else no) after raised := by
  by_cases holds : test
  · rw [if_pos holds]
    exact positive holds
  · rw [if_neg holds]
    exact negative holds

/-- A stronger start, a weaker end. -/
theorem Guarantees.weaken {body : Procedure S σ ε α}
    {stronger : Q → σ → Prop} {after weaker : α → Q → σ → Prop}
    {failing : ε → Q → σ → Prop}
    (proof : Guarantees watch before body after raised)
    (start : ∀ seen state, stronger seen state → before seen state)
    (stop : ∀ value seen state, after value seen state →
      weaker value seen state)
    (fail : ∀ error seen state, raised error seen state →
      failing error seen state) :
    Guarantees watch stronger body weaker failing := by
  intro seen begin events result final here run
  have there := proof (start _ _ here) run
  cases result with
  | ok value => exact stop value _ _ there
  | error error => exact fail error _ _ there

/-- Two guarantees of one procedure hold together. -/
theorem Guarantees.and {body : Procedure S σ ε α} {start : Q → σ → Prop}
    {after after' : α → Q → σ → Prop} {failing : ε → Q → σ → Prop}
    (left : Guarantees watch before body after raised)
    (right : Guarantees watch start body after' failing) :
    Guarantees watch (fun seen state => before seen state ∧ start seen state)
      body (fun value seen state =>
        after value seen state ∧ after' value seen state)
      (fun error seen state =>
        raised error seen state ∧ failing error seen state) := by
  intro seen begin events result final here run
  have first := left here.1 run
  have second := right here.2 run
  cases result with
  | ok value => exact ⟨first, second⟩
  | error error => exact ⟨first, second⟩

end Rules

/-- Every value the body returns has a property. -/
def Returns (property : α → Prop) (body : Procedure S σ ε α) : Prop :=
  ∀ ⦃start events value final⦄,
    Executes body start events (.ok value) final → property value

section Results

variable {property : α → Prop}

theorem returns_pure {value : α} (holds : property value) :
    Returns property (pure value : Procedure S σ ε α) := by
  intro start events other final run
  obtain ⟨-, same, -⟩ := executes_pure.mp run
  cases same
  exact holds

theorem returns_bind {body : Procedure S σ ε β}
    {next : β → Procedure S σ ε α}
    (rest : ∀ value, Returns property (next value)) :
    Returns property (body >>= next) := by
  intro start events value final run
  rcases executes_bind.mp run with
    ⟨error, -, impossible⟩ | ⟨front, stored, state, back, rfl, head, tail⟩
  · cases impossible
  · exact rest stored tail

/-- The rest may use what is known of the first part's value. -/
theorem Returns.bind {body : Procedure S σ ε β}
    {next : β → Procedure S σ ε α} {q : β → Prop} (first : Returns q body)
    (rest : ∀ value, q value → Returns property (next value)) :
    Returns property (body >>= next) := by
  intro start events value final run
  rcases executes_bind.mp run with
    ⟨error, -, impossible⟩ | ⟨front, stored, state, back, rfl, head, tail⟩
  · cases impossible
  · exact rest stored (first head) tail

theorem returns_ite {test : Prop} [Decidable test]
    {yes no : Procedure S σ ε α} (positive : Returns property yes)
    (negative : Returns property no) :
    Returns property (if test then yes else no) := by
  by_cases holds : test
  · rw [if_pos holds]
    exact positive
  · rw [if_neg holds]
    exact negative

/-- A property of the returned value, as a guarantee. -/
theorem Returns.guarantees {watch : Watch S Q} {before : Q → σ → Prop}
    {body : Procedure S σ ε α} (values : Returns property body) :
    Guarantees watch before body (fun value _ _ => property value)
      (fun _ _ _ => True) := by
  intro seen start events result final _ run
  cases result with
  | ok value => exact values run
  | error error => trivial

/-- A guarantee whose end also knows a property of the returned value. -/
theorem Returns.strengthen {watch : Watch S Q} {before : Q → σ → Prop}
    {body : Procedure S σ ε α} {after : α → Q → σ → Prop}
    {raised : ε → Q → σ → Prop} (values : Returns property body)
    (proof : Guarantees watch before body after raised) :
    Guarantees watch before body
      (fun value seen state => property value ∧ after value seen state)
      raised := by
  intro seen start events result final here run
  have there := proof here run
  cases result with
  | ok value => exact ⟨values run, there⟩
  | error error => exact there

end Results

/-- Every event lies in `allowed`, the observed part of the local state is
kept and every exception lies in `raises`. -/
structure Confined {γ : Type} (allowed : Event S → Prop) (view : σ → γ)
    (raises : ε → Prop) (body : Procedure S σ ε α) : Prop where
  issued : ∀ ⦃start events result final⦄,
    Executes body start events result final → ∀ event ∈ events, allowed event
  kept : ∀ ⦃start events result final⦄,
    Executes body start events result final → view final = view start
  thrown : ∀ ⦃start events error final⦄,
    Executes body start events (.error error) final → raises error

section Confinement

variable {γ : Type} {allowed : Event S → Prop} {view : σ → γ}
  {raises : ε → Prop}

theorem confined_pure {value : α} :
    Confined allowed view raises (pure value : Procedure S σ ε α) where
  issued := by
    intro start events result final run
    obtain ⟨rfl, -, -⟩ := executes_pure.mp run
    simp
  kept := by
    intro start events result final run
    obtain ⟨-, -, rfl⟩ := executes_pure.mp run
    rfl
  thrown := by
    intro start events error final run
    obtain ⟨-, impossible, -⟩ := executes_pure.mp run
    cases impossible

theorem confined_throw {error : ε} (allow : raises error) :
    Confined allowed view raises (throw error : Procedure S σ ε α) where
  issued := by
    intro start events result final run
    obtain ⟨rfl, -, -⟩ := executes_throw.mp run
    simp
  kept := by
    intro start events result final run
    obtain ⟨-, -, rfl⟩ := executes_throw.mp run
    rfl
  thrown := by
    intro start events other final run
    obtain ⟨-, same, -⟩ := executes_throw.mp run
    cases same
    exact allow

theorem confined_attempt {value : Except ε α}
    (allow : ∀ error, value = .error error → raises error) :
    Confined allowed view raises (attempt value : Procedure S σ ε α) where
  issued := by
    intro start events result final run
    obtain ⟨rfl, -, -⟩ := executes_attempt.mp run
    simp
  kept := by
    intro start events result final run
    obtain ⟨-, -, rfl⟩ := executes_attempt.mp run
    rfl
  thrown := by
    intro start events error final run
    obtain ⟨-, same, -⟩ := executes_attempt.mp run
    exact allow error same.symm

theorem confined_get :
    Confined allowed view raises (get : Procedure S σ ε σ) where
  issued := by
    intro start events result final run
    obtain ⟨rfl, -, -⟩ := executes_get.mp run
    simp
  kept := by
    intro start events result final run
    obtain ⟨-, -, rfl⟩ := executes_get.mp run
    rfl
  thrown := by
    intro start events error final run
    obtain ⟨-, impossible, -⟩ := executes_get.mp run
    cases impossible

theorem confined_modify {update : σ → σ}
    (same : ∀ state, view (update state) = view state) :
    Confined allowed view raises
      (modify update : Procedure S σ ε PUnit) where
  issued := by
    intro start events result final run
    obtain ⟨rfl, -, -⟩ := executes_modify.mp run
    simp
  kept := by
    intro start events result final run
    obtain ⟨-, -, rfl⟩ := executes_modify.mp run
    exact same start
  thrown := by
    intro start events error final run
    obtain ⟨-, impossible, -⟩ := executes_modify.mp run
    cases impossible

theorem confined_perform {op : S.Op} (allow : ∀ resp, allowed ⟨op, resp⟩) :
    Confined allowed view raises
      (perform op : Procedure S σ ε (S.Resp op)) where
  issued := by
    intro start events result final run event member
    obtain ⟨resp, rfl, -, -⟩ := executes_perform.mp run
    rw [List.mem_singleton] at member
    subst member
    exact allow resp
  kept := by
    intro start events result final run
    obtain ⟨resp, -, -, rfl⟩ := executes_perform.mp run
    rfl
  thrown := by
    intro start events error final run
    obtain ⟨resp, -, impossible, -⟩ := executes_perform.mp run
    cases impossible

theorem confined_invoke {op : S.Op} {read : S.Resp op → Except ε α}
    (allow : ∀ resp, allowed ⟨op, resp⟩)
    (errors : ∀ resp error, read resp = .error error → raises error) :
    Confined allowed view raises (invoke op read : Procedure S σ ε α) where
  issued := by
    intro start events result final run event member
    obtain ⟨resp, rfl, -, -⟩ := executes_invoke.mp run
    rw [List.mem_singleton] at member
    subst member
    exact allow resp
  kept := by
    intro start events result final run
    obtain ⟨resp, -, -, rfl⟩ := executes_invoke.mp run
    rfl
  thrown := by
    intro start events error final run
    obtain ⟨resp, -, same, -⟩ := executes_invoke.mp run
    exact errors resp error same.symm

theorem confined_bind {body : Procedure S σ ε α}
    {next : α → Procedure S σ ε β}
    (first : Confined allowed view raises body)
    (rest : ∀ value, Confined allowed view raises (next value)) :
    Confined allowed view raises (body >>= next) where
  issued := by
    intro start events result final run event member
    rcases executes_bind.mp run with
      ⟨error, head, rfl⟩ | ⟨front, value, state, back, rfl, head, tail⟩
    · exact first.issued head event member
    · rcases List.mem_append.mp member with here | there
      · exact first.issued head event here
      · exact (rest value).issued tail event there
  kept := by
    intro start events result final run
    rcases executes_bind.mp run with
      ⟨error, head, rfl⟩ | ⟨front, value, state, back, rfl, head, tail⟩
    · exact first.kept head
    · exact ((rest value).kept tail).trans (first.kept head)
  thrown := by
    intro start events error final run
    rcases executes_bind.mp run with
      ⟨other, head, same⟩ | ⟨front, value, state, back, rfl, head, tail⟩
    · cases same
      exact first.thrown head
    · exact (rest value).thrown tail

theorem confined_tryCatch {body : Procedure S σ ε α}
    {handler : ε → Procedure S σ ε α} {c : ε → Prop}
    (first : Confined allowed view c body)
    (rest : ∀ error, c error →
      Confined allowed view raises (handler error)) :
    Confined allowed view raises (tryCatch body handler) where
  issued := by
    intro start events result final run event member
    rcases executes_tryCatch.mp run with
      ⟨value, head, rfl⟩ | ⟨front, error, state, back, rfl, head, tail⟩
    · exact first.issued head event member
    · rcases List.mem_append.mp member with here | there
      · exact first.issued head event here
      · exact (rest error (first.thrown head)).issued tail event there
  kept := by
    intro start events result final run
    rcases executes_tryCatch.mp run with
      ⟨value, head, rfl⟩ | ⟨front, error, state, back, rfl, head, tail⟩
    · exact first.kept head
    · exact ((rest error (first.thrown head)).kept tail).trans
        (first.kept head)
  thrown := by
    intro start events error final run
    rcases executes_tryCatch.mp run with
      ⟨value, -, impossible⟩ | ⟨front, other, state, back, rfl, head, tail⟩
    · cases impossible
    · exact (rest other (first.thrown head)).thrown tail

theorem confined_ite {test : Prop} [Decidable test]
    {yes no : Procedure S σ ε α}
    (positive : test → Confined allowed view raises yes)
    (negative : ¬test → Confined allowed view raises no) :
    Confined allowed view raises (if test then yes else no) := by
  by_cases holds : test
  · rw [if_pos holds]
    exact positive holds
  · rw [if_neg holds]
    exact negative holds

/-- Larger bounds, a coarser view of the state. -/
theorem Confined.weaken {δ : Type} {body : Procedure S σ ε α}
    {wider : Event S → Prop} {more : ε → Prop} {coarser : σ → δ}
    (proof : Confined allowed view raises body)
    (events : ∀ event, allowed event → wider event)
    (coarse : ∀ left right, view left = view right →
      coarser left = coarser right)
    (errors : ∀ error, raises error → more error) :
    Confined wider coarser more body where
  issued := fun _ _ _ _ run event member =>
    events event (proof.issued run event member)
  kept := fun _ _ _ _ run => coarse _ _ (proof.kept run)
  thrown := fun _ _ error _ run => errors error (proof.thrown run)

/-- A confined procedure keeps an assertion that its events and its changes of
the state do not disturb. -/
theorem Confined.guarantees {body : Procedure S σ ε α} {watch : Watch S Q}
    {holds : Q → σ → Prop} (proof : Confined allowed view raises body)
    (silent : ∀ seen state event, holds seen state → allowed event →
      holds (watch seen event) state)
    (coarse : ∀ seen left right, view left = view right → holds seen right →
      holds seen left) :
    Guarantees watch holds body (fun _ => holds)
      (fun error seen state => raises error ∧ holds seen state) := by
  intro seen start events result final here run
  have settled : holds (watch.run seen events) final := by
    refine coarse _ _ start (proof.kept run) ?_
    refine Watch.run_invariant (p := fun seen => holds seen start)
      (fun seen event member here => ?_) here
    exact silent seen start event here (proof.issued run event member)
  cases result with
  | ok value => exact settled
  | error error => exact ⟨proof.thrown run, settled⟩

end Confinement

end ReplayForge.Effect

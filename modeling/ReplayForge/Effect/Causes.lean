import ReplayForge.Effect.Finished
import ReplayForge.Effect.Handlers

/-!
# Counted and justified events

`AtMost` bounds how often a procedure issues events of a kind.  `Justified`
says of a list of events that each of them is justified by the events before
it, wherever the list continues a longer one.
-/

namespace ReplayForge.Effect

variable {S : Signature} {σ ε α β : Type}

/-! ## Runs that return -/

section Returning

variable {before after : σ} {events : List (Event S)}

theorem executes_map_ok {body : Procedure S σ ε α} {f : α → β} {result : β} :
    Executes (f <$> body) before events (.ok result) after ↔
      ∃ value, Executes body before events (.ok value) after ∧
        f value = result := by
  rw [map_eq_pure_bind, executes_bind_ok]
  constructor
  · rintro ⟨first, value, middle, second, rfl, head, tail⟩
    obtain ⟨rfl, same, rfl⟩ := executes_pure.mp tail
    rw [List.append_nil]
    exact ⟨value, head, (Except.ok.inj same).symm⟩
  · rintro ⟨value, head, rfl⟩
    exact ⟨events, value, after, [], by simp, head, executes_pure.mpr
      ⟨rfl, rfl, rfl⟩⟩

theorem executes_ite {test : Prop} [Decidable test]
    {yes no : Procedure S σ ε α} {result : Except ε α} :
    Executes (if test then yes else no) before events result after ↔
      (test ∧ Executes yes before events result after) ∨
      (¬test ∧ Executes no before events result after) := by
  by_cases holds : test
  · simp [holds]
  · simp [holds]

end Returning

/-! ## Counting -/

/-- No run of the body issues more of the counted events. -/
def AtMost (counted : Event S → Bool) (limit : Nat)
    (body : Procedure S σ ε α) : Prop :=
  ∀ ⦃start events result final⦄, Executes body start events result final →
    events.countP counted ≤ limit

section Counting

variable {counted : Event S → Bool} {limit : Nat}

theorem AtMost.weaken {body : Procedure S σ ε α} {larger : Nat}
    (bounded : AtMost counted limit body) (within : limit ≤ larger) :
    AtMost counted larger body :=
  fun _ _ _ _ run => Nat.le_trans (bounded run) within

/-- A body whose events are never counted. -/
theorem Confined.atMost {γ : Type} {allowed : Event S → Prop} {view : σ → γ}
    {raises : ε → Prop} {body : Procedure S σ ε α}
    (confined : Confined allowed view raises body)
    (apart : ∀ event, allowed event → counted event = false) :
    AtMost counted 0 body := by
  intro start events result final run
  apply Nat.le_of_eq
  rw [List.countP_eq_zero]
  intro event member
  simp [apart event (confined.issued run event member)]

end Counting

/-! ## Justification -/

/-- Each event is justified by the events before it, the past included. -/
def Justified (cause : List (Event S) → Event S → Prop)
    (past events : List (Event S)) : Prop :=
  ∀ before event after, events = before ++ event :: after →
    cause (past ++ before) event

section Justification

variable {cause : List (Event S) → Event S → Prop}
  {past first second events : List (Event S)}

theorem justified_nil : Justified cause past [] :=
  fun before event after same => by simp at same

/-- Events that need no justification. -/
theorem justified_of_forall
    (plain : ∀ event ∈ events, ∀ past, cause past event) :
    Justified cause past events := by
  rintro before event after rfl
  exact plain event (by simp) _

theorem Justified.append (head : Justified cause past first)
    (tail : Justified cause (past ++ first) second) :
    Justified cause past (first ++ second) := by
  intro before event after same
  rcases List.append_eq_append_iff.mp same with
    ⟨gap, rfl, later⟩ | ⟨gap, whole, here⟩
  · rw [← List.append_assoc]
    exact tail gap event after later
  · cases gap with
    | nil =>
        rw [List.append_nil] at whole
        rw [List.nil_append] at here
        subst whole
        have start := tail [] event after here.symm
        rwa [List.append_nil] at start
    | cons other gap =>
        obtain ⟨rfl, rfl⟩ := List.cons.inj here
        exact head before event gap whole

theorem justified_cons {event : Event S} (here : cause past event)
    (rest : Justified cause (past ++ [event]) events) :
    Justified cause past (event :: events) := by
  have single : Justified cause past [event] := by
    intro before other after same
    cases before with
    | nil =>
        cases same
        rwa [List.append_nil]
    | cons first before => simp at same
  exact single.append rest

end Justification

end ReplayForge.Effect

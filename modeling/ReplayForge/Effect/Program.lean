import Mathlib.Data.List.Basic

/-!
# Programs over an operation signature

A program issues operations and continues with their responses.  It fixes no
meaning for the operations: a run pairs every issued operation with an
arbitrary response of its type, so a statement about all runs is a statement
about every environment.
-/

namespace ReplayForge.Effect

/-- Operation names together with the type of each operation's response. -/
structure Signature where
  Op : Type
  Resp : Op → Type

/-- One operation and the response the environment gave to it. -/
structure Event (S : Signature) where
  op : S.Op
  resp : S.Resp op

inductive Program (S : Signature) (α : Type) : Type where
  | pure (value : α)
  | call (op : S.Op) (next : S.Resp op → Program S α)

namespace Program

variable {S : Signature} {α β γ : Type}

def bind : Program S α → (α → Program S β) → Program S β
  | .pure value, next => next value
  | .call op rest, next => .call op (fun resp => (rest resp).bind next)

instance : Monad (Program S) where
  pure := .pure
  bind := bind

theorem bind_pure_value (program : Program S α) :
    program.bind .pure = program := by
  induction program with
  | pure value => rfl
  | call op rest ih =>
      simp only [bind]
      congr
      funext resp
      exact ih resp

theorem bind_assoc_value (program : Program S α)
    (first : α → Program S β) (second : β → Program S γ) :
    (program.bind first).bind second =
      program.bind fun value => (first value).bind second := by
  induction program with
  | pure value => rfl
  | call op rest ih =>
      simp only [bind]
      congr
      funext resp
      exact ih resp

instance : LawfulMonad (Program S) :=
  LawfulMonad.mk' _ bind_pure_value (fun _ _ => rfl) bind_assoc_value

/-- Answer every operation with `answer`, which sees the events so far. -/
def play (answer : List (Event S) → (op : S.Op) → S.Resp op) :
    List (Event S) → Program S α → List (Event S) × α
  | _, .pure value => ([], value)
  | past, .call op next =>
      let event : Event S := ⟨op, answer past op⟩
      let rest := play answer (past ++ [event]) (next event.resp)
      (event :: rest.1, rest.2)

end Program

variable {S : Signature} {α β : Type}

/-- `Runs program events value`: the program can issue exactly `events`, with
the responses they carry, and return `value`. -/
inductive Runs : Program S α → List (Event S) → α → Prop where
  | pure {value : α} : Runs (.pure value) [] value
  | call {op : S.Op} {next : S.Resp op → Program S α} {resp : S.Resp op}
      {events : List (Event S)} {value : α} :
      Runs (next resp) events value →
      Runs (.call op next) (⟨op, resp⟩ :: events) value

theorem runs_pure_iff {value result : α} {events : List (Event S)} :
    Runs (.pure value) events result ↔ events = [] ∧ result = value := by
  constructor
  · intro run
    cases run
    exact ⟨rfl, rfl⟩
  · rintro ⟨rfl, rfl⟩
    exact .pure

theorem runs_call_iff {op : S.Op} {next : S.Resp op → Program S α}
    {events : List (Event S)} {result : α} :
    Runs (.call op next) events result ↔
      ∃ resp rest, events = ⟨op, resp⟩ :: rest ∧
        Runs (next resp) rest result := by
  constructor
  · intro run
    cases run with
    | call tail => exact ⟨_, _, rfl, tail⟩
  · rintro ⟨resp, rest, rfl, tail⟩
    exact .call tail

theorem runs_bind_iff {program : Program S α} {next : α → Program S β}
    {events : List (Event S)} {result : β} :
    Runs (program.bind next) events result ↔
      ∃ first value second, events = first ++ second ∧
        Runs program first value ∧ Runs (next value) second result := by
  induction program generalizing events with
  | pure value =>
      constructor
      · intro run
        exact ⟨[], value, events, rfl, .pure, run⟩
      · rintro ⟨first, _, second, rfl, head, tail⟩
        cases head
        exact tail
  | call op rest ih =>
      simp only [Program.bind]
      constructor
      · intro run
        obtain ⟨resp, later, rfl, tail⟩ := runs_call_iff.mp run
        obtain ⟨first, value, second, rfl, head, last⟩ := (ih resp).mp tail
        exact ⟨⟨op, resp⟩ :: first, value, second, rfl, .call head, last⟩
      · rintro ⟨first, value, second, rfl, head, last⟩
        obtain ⟨resp, later, rfl, tail⟩ := runs_call_iff.mp head
        exact .call ((ih resp).mpr ⟨later, value, second, rfl, tail, last⟩)

theorem Program.runs_play
    (answer : List (Event S) → (op : S.Op) → S.Resp op)
    (past : List (Event S)) (program : Program S α) :
    Runs program (program.play answer past).1 (program.play answer past).2 := by
  induction program generalizing past with
  | pure value => exact .pure
  | call op next ih => exact .call (ih _ _)

end ReplayForge.Effect

import ReplayForge.Effect.Watch

/-!
# Programs over two signatures

Code written for one signature runs unchanged over the sum of it with another.
Its runs are the same, up to the names of the operations, so that what holds of
the code alone holds of it as a part of a larger program.
-/

namespace ReplayForge.Effect

/-- The operations of both signatures. -/
abbrev Signature.sum (S T : Signature) : Signature where
  Op := S.Op ⊕ T.Op
  Resp := Sum.elim S.Resp T.Resp

variable {S T : Signature} {σ ε α β Q : Type}

/-- An event of the first signature. -/
def Event.inl (event : Event S) : Event (S.sum T) :=
  ⟨.inl event.op, event.resp⟩

/-- The program over the sum with another signature. -/
def Program.inl : Program S α → Program (S.sum T) α
  | .pure value => .pure value
  | .call op next => .call (.inl op) fun resp => (next resp).inl

theorem runs_inl_iff {program : Program S α} {events : List (Event (S.sum T))}
    {value : α} :
    Runs (program.inl : Program (S.sum T) α) events value ↔
      ∃ own, events = own.map Event.inl ∧ Runs program own value := by
  induction program generalizing events with
  | pure result =>
      simp only [Program.inl, runs_pure_iff]
      constructor
      · rintro ⟨rfl, rfl⟩
        exact ⟨[], rfl, rfl, rfl⟩
      · rintro ⟨own, rfl, rfl, rfl⟩
        exact ⟨rfl, rfl⟩
  | call op next ih =>
      simp only [Program.inl, runs_call_iff]
      constructor
      · rintro ⟨resp, rest, rfl, run⟩
        obtain ⟨own, rfl, alone⟩ := (ih resp).mp run
        exact ⟨⟨op, resp⟩ :: own, rfl, resp, own, rfl, alone⟩
      · rintro ⟨own, rfl, resp, rest, rfl, alone⟩
        exact ⟨resp, rest.map Event.inl, rfl, (ih resp).mpr ⟨rest, rfl, alone⟩⟩

/-- A procedure over the sum with another signature. -/
def Procedure.inl (body : Procedure S σ ε α) : Procedure (S.sum T) σ ε α :=
  fun start => (body.run.run start).inl

theorem executes_inl {body : Procedure S σ ε α} {before after : σ}
    {events : List (Event (S.sum T))} {result : Except ε α} :
    Executes (Procedure.inl body : Procedure (S.sum T) σ ε α) before events
        result after ↔
      ∃ own, events = own.map Event.inl ∧
        Executes body before own result after :=
  runs_inl_iff

end ReplayForge.Effect

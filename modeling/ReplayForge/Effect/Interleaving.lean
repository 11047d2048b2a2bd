import Mathlib.Logic.Function.Basic
import ReplayForge.Effect.Procedure

/-!
# Interleaved programs over a shared store

Threads run programs whose operations act on one store.  An operation is one
atomic step, and any thread may take the next one.  `Safe` is the
rely-guarantee judgement of a single program: whatever the other threads did
in the meantime, each of its own steps keeps the invariant, does to the store
only what the others rely on and makes good a promise.  Programs that are safe
alone are safe together.
-/

namespace ReplayForge.Effect

variable {S : Signature} {σ τ ε ι α β : Type}

/-- One program in execution. -/
structure Thread (S : Signature) (ι α : Type) where
  /-- What was called. -/
  call : ι
  /-- Its own events so far. -/
  past : List (Event S)
  rest : Program S α

structure Config (S : Signature) (σ ι α : Type) where
  store : σ
  threads : Nat → Option (Thread S ι α)

/-- The thread of an index is replaced. -/
def Config.put (config : Config S σ ι α) (index : Nat)
    (thread : Thread S ι α) : Nat → Option (Thread S ι α) :=
  Function.update config.threads index (some thread)

/-- One step of a thread, with the store before and after it. -/
structure Move (S : Signature) (σ ι : Type) where
  thread : Nat
  call : ι
  past : List (Event S)
  before : σ
  event : Event S
  after : σ

/-- The effect of an event, issued by the thread of an index after its earlier
events. -/
abbrev Law (S : Signature) (σ : Type) :=
  Nat → List (Event S) → σ → Event S → σ → Prop

/-- What a store allows: the effect of an event, the invariant of its states
and what a thread relies on between its own steps. -/
structure Shared (S : Signature) (σ : Type) where
  law : Law S σ
  valid : σ → Prop
  rely : Nat → σ → σ → Prop
  refl : ∀ index store, rely index store store
  trans : ∀ {index first second third}, rely index first second →
    rely index second third → rely index first third

/-- What a step promises, given the thread's earlier events. -/
abbrev Promise (S : Signature) (σ : Type) :=
  List (Event S) → σ → Event S → σ → Prop

/-- `Interleaves law program start moves config`: from the store `start`,
threads that run `program` for some calls can take the steps `moves`. -/
inductive Interleaves (law : Law S σ)
    (program : ι → Program S α) (start : σ) :
    List (Move S σ ι) → Config S σ ι α → Prop where
  | start : Interleaves law program start [] ⟨start, fun _ => none⟩
  | spawn {moves : List (Move S σ ι)} {config : Config S σ ι α} {index : Nat}
      (call : ι) :
      Interleaves law program start moves config →
      config.threads index = none →
      Interleaves law program start moves
        ⟨config.store, config.put index ⟨call, [], program call⟩⟩
  | step {moves : List (Move S σ ι)} {config : Config S σ ι α} {index : Nat}
      {call : ι} {past : List (Event S)} {op : S.Op}
      {next : S.Resp op → Program S α} {resp : S.Resp op} {after : σ} :
      Interleaves law program start moves config →
      config.threads index = some ⟨call, past, .call op next⟩ →
      law index past config.store ⟨op, resp⟩ after →
      Interleaves law program start
        (moves ++ [⟨index, call, past, config.store, ⟨op, resp⟩, after⟩])
        ⟨after, config.put index ⟨call, past ++ [⟨op, resp⟩], next resp⟩⟩

/-- The rest of a program is safe since the state of its last step. -/
inductive Safe (shared : Shared S σ) (index : Nat) (promise : Promise S σ)
    (post : α → List (Event S) → σ → Prop) :
    Program S α → List (Event S) → σ → Prop where
  | pure {value : α} {past : List (Event S)} {state : σ} :
      post value past state →
      Safe shared index promise post (.pure value) past state
  | call {op : S.Op} {next : S.Resp op → Program S α}
      {past : List (Event S)} {state : σ} :
      (∀ before resp after, shared.valid before →
        shared.rely index state before →
        shared.law index past before ⟨op, resp⟩ after →
        shared.valid after ∧
          (∀ other, other ≠ index → shared.rely other before after) ∧
          promise past before ⟨op, resp⟩ after) →
      (∀ before resp after, shared.valid before →
        shared.rely index state before →
        shared.law index past before ⟨op, resp⟩ after →
        Safe shared index promise post (next resp) (past ++ [⟨op, resp⟩])
          after) →
      Safe shared index promise post (.call op next) past state

theorem Config.put_cases {config : Config S σ ι α} {index other : Nat}
    {thread stored : Thread S ι α}
    (found : config.put index thread other = some stored) :
    (other = index ∧ stored = thread) ∨
      (other ≠ index ∧ config.threads other = some stored) := by
  unfold Config.put at found
  by_cases same : other = index
  · subst same
    rw [Function.update_self, Option.some.injEq] at found
    exact .inl ⟨rfl, found.symm⟩
  · rw [Function.update_of_ne same] at found
    exact .inr ⟨same, found⟩

theorem Config.put_none {config : Config S σ ι α} {index other : Nat}
    {thread : Thread S ι α} (unused : config.put index thread other = none) :
    other ≠ index ∧ config.threads other = none := by
  unfold Config.put at unused
  by_cases same : other = index
  · subst same
    rw [Function.update_self] at unused
    cases unused
  · rw [Function.update_of_ne same] at unused
    exact ⟨same, unused⟩

namespace Safe

variable {shared : Shared S σ} {index : Nat} {promise : Promise S σ}
  {post : α → List (Event S) → σ → Prop} {past : List (Event S)} {state : σ}

theorem weaken {program : Program S α}
    {post' : α → List (Event S) → σ → Prop}
    (safe : Safe shared index promise post program past state)
    (weaker : ∀ value past state, post value past state →
      post' value past state) : Safe shared index promise post' program past state := by
  induction safe with
  | pure done => exact .pure (weaker _ _ _ done)
  | call commit rest ih => exact .call commit ih

theorem bind {program : Program S β} {next : β → Program S α}
    {first : β → List (Event S) → σ → Prop}
    (safe : Safe shared index promise first program past state)
    (rest : ∀ value past state, first value past state →
      Safe shared index promise post (next value) past state) :
    Safe shared index promise post (program.bind next) past state := by
  induction safe with
  | pure done => exact rest _ _ _ done
  | call commit later ih => exact .call commit ih

/-- A promise may use what is known of the events of the past. -/
theorem promises {promise' : Promise S σ} {program : Program S α}
    (safe : Safe shared index promise post program past state)
    (stronger : ∀ past' before event after, past <+: past' →
      promise past' before event after → promise' past' before event after) :
    Safe shared index promise' post program past state := by
  induction safe with
  | pure done => exact .pure done
  | @call op next past state commit rest ih =>
      apply Safe.call
      · intro before resp after valid grown happens
        obtain ⟨valid', grows, promised⟩ :=
          commit before resp after valid grown happens
        exact ⟨valid', grows, stronger _ _ _ _ List.prefix_rfl promised⟩
      · intro before resp after valid grown happens
        apply ih before resp after valid grown happens
        intro past' before' event after' extends_
        exact stronger past' before' event after'
          ((List.prefix_append past _).trans extends_)

end Safe

/-- Safety of a procedure started in a local state, with what holds at a normal
and at an exceptional end. -/
def Keeps (shared : Shared S σ) (index : Nat) (promise : Promise S σ)
    (body : Procedure S τ ε α) (start : τ) (past : List (Event S)) (state : σ)
    (after : α → τ → List (Event S) → σ → Prop)
    (raised : ε → τ → List (Event S) → σ → Prop) : Prop :=
  Safe shared index promise (fun outcome past state => match outcome with
    | (.ok value, final) => after value final past state
    | (.error error, final) => raised error final past state)
    (body.run.run start) past state

section Rules

variable {shared : Shared S σ} {index : Nat} {promise : Promise S σ} {start : τ}
  {past : List (Event S)} {state : σ}
  {after : α → τ → List (Event S) → σ → Prop}
  {raised : ε → τ → List (Event S) → σ → Prop}

theorem keeps_pure {value : α} (holds : after value start past state) :
    Keeps shared index promise (pure value : Procedure S τ ε α) start past state
      after raised :=
  .pure holds

theorem keeps_throw {error : ε} (holds : raised error start past state) :
    Keeps shared index promise (throw error : Procedure S τ ε α) start past state
      after raised :=
  .pure holds

theorem keeps_attempt {value : Except ε α}
    (returned : ∀ stored, value = .ok stored → after stored start past state)
    (failed : ∀ error, value = .error error → raised error start past state) :
    Keeps shared index promise (attempt value : Procedure S τ ε α) start past state
      after raised := by
  apply Safe.pure
  cases value with
  | ok stored => exact returned stored rfl
  | error error => exact failed error rfl

theorem keeps_perform {op : S.Op}
    {after : S.Resp op → τ → List (Event S) → σ → Prop}
    (commit : ∀ before resp after', shared.valid before →
      shared.rely index state before →
      shared.law index past before ⟨op, resp⟩ after' →
      (shared.valid after' ∧
        (∀ other, other ≠ index → shared.rely other before after') ∧
        promise past before ⟨op, resp⟩ after') ∧
      after resp start (past ++ [⟨op, resp⟩]) after') :
    Keeps shared index promise (perform op : Procedure S τ ε (S.Resp op)) start past
      state after raised :=
  .call
    (fun before resp final valid grown happens =>
      (commit before resp final valid grown happens).1)
    fun before resp final valid grown happens =>
      .pure (commit before resp final valid grown happens).2

theorem keeps_invoke {op : S.Op} {read : S.Resp op → Except ε α}
    (commit : ∀ before resp after', shared.valid before →
      shared.rely index state before →
      shared.law index past before ⟨op, resp⟩ after' →
      (shared.valid after' ∧
        (∀ other, other ≠ index → shared.rely other before after') ∧
        promise past before ⟨op, resp⟩ after') ∧
      (∀ value, read resp = .ok value →
        after value start (past ++ [⟨op, resp⟩]) after') ∧
      (∀ error, read resp = .error error →
        raised error start (past ++ [⟨op, resp⟩]) after')) :
    Keeps shared index promise (invoke op read : Procedure S τ ε α) start past state
      after raised := by
  apply Safe.call
  · intro before resp final valid grown happens
    exact (commit before resp final valid grown happens).1
  · intro before resp final valid grown happens
    obtain ⟨-, returned, failed⟩ :=
      commit before resp final valid grown happens
    apply Safe.pure
    cases answer : read resp with
    | ok value => exact returned value answer
    | error error => exact failed error answer

theorem keeps_bind {body : Procedure S τ ε β} {next : β → Procedure S τ ε α}
    {Q : β → τ → List (Event S) → σ → Prop}
    (first : Keeps shared index promise body start past state Q raised)
    (rest : ∀ value local' past state, Q value local' past state →
      Keeps shared index promise (next value) local' past state after raised) :
    Keeps shared index promise (body >>= next) start past state after raised := by
  unfold Keeps
  rw [run_bind]
  apply Safe.bind first
  rintro ⟨outcome, final⟩ later current here
  cases outcome with
  | ok value => exact rest value final later current here
  | error error => exact .pure here

theorem keeps_tryCatch {body : Procedure S τ ε α}
    {handler : ε → Procedure S τ ε α}
    {Q : ε → τ → List (Event S) → σ → Prop}
    (first : Keeps shared index promise body start past state after Q)
    (rest : ∀ error local' past state, Q error local' past state →
      Keeps shared index promise (handler error) local' past state after
        raised) :
    Keeps shared index promise (tryCatch body handler) start past state after
      raised := by
  unfold Keeps
  rw [run_tryCatch]
  apply Safe.bind first
  rintro ⟨outcome, final⟩ later current here
  cases outcome with
  | ok value => exact .pure here
  | error error => exact rest error final later current here

theorem keeps_discard {body : Procedure S τ ε β}
    (keeps : Keeps shared index promise body start past state
      (fun _ _ _ _ => True) raised) :
    Keeps shared index promise (body >>= fun _ => (pure () : Procedure S τ ε Unit))
      start past state (fun _ _ _ _ => True) raised :=
  keeps_bind keeps fun _ _ _ _ _ => keeps_pure trivial

theorem keeps_ite {test : Prop} [Decidable test]
    {yes no : Procedure S τ ε α}
    (positive : test → Keeps shared index promise yes start past state after raised)
    (negative : ¬test → Keeps shared index promise no start past state after raised) :
    Keeps shared index promise (if test then yes else no) start past state after
      raised := by
  by_cases holds : test
  · rw [if_pos holds]
    exact positive holds
  · rw [if_neg holds]
    exact negative holds

theorem Keeps.weaken {body : Procedure S τ ε α}
    {after' : α → τ → List (Event S) → σ → Prop}
    {raised' : ε → τ → List (Event S) → σ → Prop}
    (keeps : Keeps shared index promise body start past state after raised)
    (returned : ∀ value final past state, after value final past state →
      after' value final past state)
    (failed : ∀ error final past state, raised error final past state →
      raised' error final past state) :
    Keeps shared index promise body start past state after' raised' := by
  apply Safe.weaken keeps
  rintro ⟨outcome, final⟩ later current here
  cases outcome with
  | ok value => exact returned value final later current here
  | error error => exact failed error final later current here

end Rules

namespace Interleaves

variable {shared : Shared S σ} {program : ι → Program S α} {start : σ}
  {moves : List (Move S σ ι)} {config : Config S σ ι α}
  {promise : ι → Promise S σ} {post : ι → α → List (Event S) → σ → Prop}

/-- What safe programs keep together. -/
structure Sound (shared : Shared S σ) (promise : ι → Promise S σ)
    (post : ι → α → List (Event S) → σ → Prop) (moves : List (Move S σ ι))
    (config : Config S σ ι α) : Prop where
  valid : shared.valid config.store
  threads : ∀ index thread, config.threads index = some thread →
    ∃ state, shared.rely index state config.store ∧
      Safe shared index (promise thread.call) (post thread.call) thread.rest
        thread.past state
  moves : ∀ move ∈ moves, shared.valid move.before ∧
    shared.law move.thread move.past move.before move.event move.after ∧
    shared.valid move.after ∧
    (∀ other, other ≠ move.thread →
      shared.rely other move.before move.after) ∧
    promise move.call move.past move.before move.event move.after

/-- Programs that are safe alone are safe together; `idle` is what holds of a
thread that has not started. -/
theorem sound_of_idle (idle : Nat → σ → Prop)
    (reached : Interleaves shared.law program start moves config)
    (safe : ∀ index call state, shared.valid state → idle index state →
      Safe shared index (promise call) (post call) (program call) [] state)
    (kept : ∀ {index before after}, shared.rely index before after →
      idle index before → idle index after)
    (initial : shared.valid start) (unstarted : ∀ index, idle index start) :
    Sound shared promise post moves config ∧
      ∀ index, config.threads index = none → idle index config.store := by
  induction reached with
  | start =>
      refine ⟨?_, fun index _ => unstarted index⟩
      exact {
        valid := initial
        threads := fun _ _ found => nomatch found
        moves := fun _ member => nomatch member }
  | @spawn moves config index call _ free ih =>
      obtain ⟨sound, unstarted⟩ := ih
      refine ⟨⟨sound.valid, ?_, sound.moves⟩, ?_⟩
      · intro other thread found
        rcases Config.put_cases found with ⟨rfl, rfl⟩ | ⟨-, earlier⟩
        · exact ⟨config.store, shared.refl _ _,
            safe other call _ sound.valid (unstarted other free)⟩
        · exact sound.threads other thread earlier
      · intro other unused
        exact unstarted other (Config.put_none unused).2
  | @step moves config index call past op next resp after _ found happens ih =>
      obtain ⟨sound, unstarted⟩ := ih
      obtain ⟨state, grown, running⟩ := sound.threads index _ found
      cases running with
      | call commit rest =>
          obtain ⟨valid, grows, promised⟩ :=
            commit _ resp after sound.valid grown happens
          refine ⟨⟨valid, ?_, ?_⟩, ?_⟩
          · intro other thread stored
            rcases Config.put_cases stored with ⟨rfl, rfl⟩ | ⟨apart, unmoved⟩
            · exact ⟨after, shared.refl _ _,
                rest _ resp after sound.valid grown happens⟩
            · obtain ⟨earlier, older, kept⟩ :=
                sound.threads other thread unmoved
              exact ⟨earlier, shared.trans older (grows other apart), kept⟩
          · intro move member
            rcases List.mem_append.mp member with early | last
            · exact sound.moves move early
            · cases List.mem_singleton.mp last
              exact ⟨sound.valid, happens, valid, grows, promised⟩
          · intro other unused
            obtain ⟨apart, unmoved⟩ := Config.put_none unused
            exact kept (grows other apart) (unstarted other unmoved)

theorem sound (reached : Interleaves shared.law program start moves config)
    (safe : ∀ index call state, shared.valid state →
      Safe shared index (promise call) (post call) (program call) [] state)
    (initial : shared.valid start) :
    Sound shared promise post moves config :=
  (sound_of_idle (fun _ _ => True) reached
    (fun index call state valid _ => safe index call state valid)
    (fun _ _ => trivial) initial fun _ => trivial).1

end Interleaves

end ReplayForge.Effect

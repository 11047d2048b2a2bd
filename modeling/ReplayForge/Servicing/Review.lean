import ReplayForge.Servicing.Sessions
import ReplayForge.Servicing.Workspace
import Mathlib.Data.List.Induction

/-!
# What is reviewed is what is posted

`Outcome` lists what an action can do to the bank and to the pending command.
While a command is pending the bank stays as it was reviewed, so `confirm`
performs that command with the receipt the review showed.
-/

namespace ReplayForge.Servicing

inductive Input where
  | act (action : String)
  | edit (key text : String)
deriving DecidableEq

namespace Workspace

def step (state : Workspace) : Input → Workspace
  | .act action => state.act action
  | .edit key text => state.edit key text

def run (state : Workspace) (inputs : List Input) : Workspace :=
  inputs.foldl step state

theorem run_append (state : Workspace) (first second : List Input) :
    state.run (first ++ second) = (state.run first).run second :=
  List.foldl_append

/-! ## One action -/

/-- The bank is kept, and the pending command is kept or dropped. -/
structure Idle (state next : Workspace) : Prop where
  bank : next.bank = state.bank
  number : next.requestNumber = state.requestNumber
  pending : next.pending = state.pending ∨ next.pending = none

structure SetsRole (state next : Workspace) (role : Role) : Prop where
  bank : next.bank = { state.bank with role }
  number : next.requestNumber = state.requestNumber
  pending : next.pending = none

structure Confirms (state next : Workspace) (pending : Pending)
    (receipt : Receipt) : Prop where
  held : state.pending = some pending
  performed : execute state.bank pending.command pending.key
    pending.revision = .ok (next.bank, receipt)
  receipt : next.receipt = some receipt
  number : next.requestNumber = state.requestNumber
  pending : next.pending = none

structure Reviews (state next : Workspace) (command : Command)
    (preview : Bank) (receipt : Receipt) : Prop where
  performed : execute state.bank command (requestKey state.requestNumber)
    state.bank.revision = .ok (preview, receipt)
  bank : next.bank = state.bank
  number : next.requestNumber = state.requestNumber + 1
  pending : next.pending = some {
    command
    key := requestKey state.requestNumber
    revision := state.bank.revision
    receipt
    returnPage := state.page
    returnFields := state.fields }

inductive Outcome (state : Workspace) (action : String) (next : Workspace) :
    Prop where
  | idle : Idle state next → Outcome state action next
  | role {role : Role} :
      action = "set-role" → SetsRole state next role →
      Outcome state action next
  | confirm {pending : Pending} {receipt : Receipt} :
      action = "confirm" → Confirms state next pending receipt →
      Outcome state action next
  | review {command : Command} {preview : Bank} {receipt : Receipt} :
      state.command? action = some command →
      Reviews state next command preview receipt →
      Outcome state action next

section Action

variable {state next : Workspace}

theorem Idle.self (state : Workspace) : Idle state state :=
  ⟨rfl, rfl, .inl rfl⟩

theorem idle_enter (state : Workspace) (page : Page) :
    Idle state (state.enter page) := by
  unfold enter
  split <;> exact ⟨rfl, rfl, .inr rfl⟩

theorem Idle.trans {middle : Workspace} (first : Idle state middle)
    (second : Idle middle next) : Idle state next := by
  refine ⟨second.bank.trans first.bank, second.number.trans first.number, ?_⟩
  rcases second.pending with kept | dropped
  · rw [kept]
    exact first.pending
  · exact .inr dropped

theorem idle_enter_of {middle : Workspace} (kept : Idle state middle)
    (page : Page) : Idle state (middle.enter page) :=
  kept.trans (idle_enter middle page)

theorem idle_navigate {id : String} (done : state.navigate id = .ok next) :
    Idle state next := by
  unfold navigate at done
  split at done
  · cases done
    exact .self state
  · split at done
    · cases done
    · cases done
      exact idle_enter state _

theorem idle_selectMember (state : Workspace) (id : String) :
    Idle state (state.selectMember id) := by
  unfold selectMember
  split
  · apply idle_enter_of
    exact ⟨rfl, rfl, .inl rfl⟩
  · exact .self state

theorem idle_applyFilter (done : state.applyFilter = .ok next) :
    Idle state next := by
  simp only [applyFilter, bind_eq_ok, requireRule_eq_ok, exists_const] at done
  obtain ⟨_, _, result⟩ := done
  cases result
  exact ⟨rfl, rfl, .inl rfl⟩

theorem setRole_cases (state : Workspace) :
    Idle state state.setRole ∨ ∃ role, SetsRole state state.setRole role := by
  unfold setRole
  split
  · exact .inl (.self state)
  · exact .inr ⟨_, rfl, rfl, rfl⟩

theorem idle_cancel (state : Workspace) : Idle state state.cancel := by
  unfold cancel
  split
  · exact idle_enter state _
  · have entered := idle_enter state (by assumption : Pending).returnPage
    exact ⟨entered.bank, entered.number, entered.pending⟩

theorem confirms_confirm {pending : Pending} (held : state.pending = some pending)
    (done : state.confirm pending = .ok next) :
    ∃ receipt, Confirms state next pending receipt := by
  simp only [confirm, bind_eq_ok] at done
  obtain ⟨⟨bank, receipt⟩, performed, result⟩ := done
  cases result
  exact ⟨receipt, held, performed, rfl, rfl, rfl⟩

theorem reviews_review {command : Command}
    (done : state.review command = .ok next) :
    ∃ preview receipt, Reviews state next command preview receipt := by
  unfold review at done
  simp only at done
  split at done
  · cases done
  · simp only [bind_eq_ok] at done
    obtain ⟨⟨preview, receipt⟩, performed, result⟩ := done
    cases result
    exact ⟨preview, receipt, performed, rfl, rfl, rfl⟩

theorem outcome_tryAct {action : String}
    (done : state.tryAct action = .ok next) : Outcome state action next := by
  unfold tryAct at done
  split at done
  · exact .idle (idle_navigate done)
  split at done
  · cases done
    exact .idle ⟨rfl, rfl, .inl rfl⟩
  split at done
  · cases done
    exact .idle (idle_selectMember state _)
  split at done
  · cases done
    exact .idle ⟨rfl, rfl, .inl rfl⟩
  split at done
  · cases done
    apply Outcome.idle
    apply idle_enter_of
    exact ⟨rfl, rfl, .inl rfl⟩
  split at done
  · cases done
    exact .idle ⟨rfl, rfl, .inl rfl⟩
  split at done
  · cases done
    exact .idle ⟨rfl, rfl, .inl rfl⟩
  split at done
  · cases done
    exact .idle ⟨rfl, rfl, .inl rfl⟩
  split at done
  · exact .idle (idle_applyFilter done)
  split at done
  · cases done
    apply Outcome.idle
    apply idle_enter_of
    exact ⟨rfl, rfl, .inl rfl⟩
  split at done
  · rename_i chosen
    cases done
    rcases setRole_cases state with idle | ⟨role, sets⟩
    · exact .idle idle
    · exact .role chosen sets
  split at done
  · cases done
    exact .idle (idle_cancel state)
  split at done
  · obtain ⟨pending, held, done⟩ : ∃ pending,
        state.pending = some pending ∧ state.confirm pending = .ok next :=
      ⟨_, by assumption, done⟩
    obtain ⟨receipt, confirms⟩ := confirms_confirm held done
    exact .confirm rfl confirms
  · split at done
    · cases done
      exact .idle (.self state)
    · rename_i asked
      obtain ⟨preview, receipt, reviews⟩ := reviews_review done
      exact .review asked reviews

theorem outcome_act (state : Workspace) (action : String) :
    Outcome state action (state.act action) := by
  unfold act
  split
  · exact outcome_tryAct (by assumption)
  · exact .idle ⟨rfl, rfl, .inl rfl⟩

end Action

/-! ## One step -/

/-- What a step can do, edits included. -/
theorem step_cases (state : Workspace) (input : Input) :
    Idle state (state.step input) ∨
      (∃ role, input = .act "set-role" ∧ SetsRole state (state.step input) role) ∨
      (∃ pending receipt, input = .act "confirm" ∧
        Confirms state (state.step input) pending receipt) ∨
      ∃ action command preview receipt, input = .act action ∧
        state.command? action = some command ∧
        Reviews state (state.step input) command preview receipt := by
  cases input with
  | edit key text => exact .inl ⟨rfl, rfl, .inl rfl⟩
  | act action =>
      cases outcome_act state action with
      | idle idle => exact .inl idle
      | role chosen sets => exact .inr (.inl ⟨_, by rw [chosen], sets⟩)
      | confirm chosen confirms =>
          exact .inr (.inr (.inl ⟨_, _, by rw [chosen], confirms⟩))
      | review asked reviews =>
          exact .inr (.inr (.inr ⟨_, _, _, _, rfl, asked, reviews⟩))

theorem requestKey_injective : Function.Injective requestKey := by
  intro first second same
  simp only [requestKey, String.append_right_inj] at same
  exact padStart_injective 8 same

/-- The pending command would be performed as its review showed, under a key
that was not used, and keys are numbered below the next request. -/
structure Linked (state : Workspace) : Prop where
  shown : ∀ pending, state.pending = some pending → ∃ bank,
    execute state.bank pending.command pending.key pending.revision =
      .ok (bank, pending.receipt)
  fresh : ∀ pending, state.pending = some pending →
    state.bank.completed.get? pending.key = none
  pendingNumbered : ∀ pending, state.pending = some pending →
    ∃ number < state.requestNumber, pending.key = requestKey number
  numbered : ∀ number, state.requestNumber ≤ number →
    state.bank.completed.get? (requestKey number) = none

theorem linked_createWorkspace (tenant : Tenant) :
    Linked (createWorkspace tenant) where
  shown := by
    intro pending held
    cases held
  fresh := by
    intro pending held
    cases held
  pendingNumbered := by
    intro pending held
    cases held
  numbered _ _ := rfl

namespace Linked

variable {state next : Workspace}

/-- A step that keeps the records and holds nothing new keeps the link. -/
theorem of_dropped (linked : Linked state) (dropped : next.pending = none)
    (completed : next.bank.completed = state.bank.completed)
    (number : next.requestNumber = state.requestNumber) : Linked next where
  shown := by simp [dropped]
  fresh := by simp [dropped]
  pendingNumbered := by simp [dropped]
  numbered := by
    rw [completed, number]
    exact linked.numbered

theorem idle (linked : Linked state) (idle : Idle state next) :
    Linked next := by
  rcases idle.pending with kept | dropped
  · refine ⟨?_, ?_, ?_, ?_⟩
    · rw [kept, idle.bank]
      exact linked.shown
    · rw [kept, idle.bank]
      exact linked.fresh
    · rw [kept, idle.number]
      exact linked.pendingNumbered
    · rw [idle.bank, idle.number]
      exact linked.numbered
  · exact linked.of_dropped dropped (by rw [idle.bank]) idle.number

/-- Confirming records the key of the pending command only. -/
theorem completed_confirm {pending : Pending} {receipt : Receipt}
    (linked : Linked state) (confirms : Confirms state next pending receipt)
    {key : String} (different : key ≠ pending.key) :
    next.bank.completed.get? key = state.bank.completed.get? key := by
  obtain ⟨performed, _, change, same⟩ :=
    recorded_of_new confirms.performed (linked.fresh pending confirms.held)
  have bank := congrArg Prod.fst same
  simp only at bank
  rw [bank]
  change (performed.next.completed.set pending.key _).get? key = _
  rw [Dict.get?_set_ne _ _ different, change.completed_eq]

theorem confirm {pending : Pending} {receipt : Receipt} (linked : Linked state)
    (confirms : Confirms state next pending receipt) : Linked next where
  shown := by simp [confirms.pending]
  fresh := by simp [confirms.pending]
  pendingNumbered := by simp [confirms.pending]
  numbered := by
    intro number enough
    rw [confirms.number] at enough
    obtain ⟨own, small, key⟩ := linked.pendingNumbered pending confirms.held
    have different : requestKey number ≠ pending.key := by
      rw [key]
      intro same
      have equal := requestKey_injective same
      omega
    rw [linked.completed_confirm confirms different]
    exact linked.numbered number enough

theorem review {command : Command} {preview : Bank} {receipt : Receipt}
    (linked : Linked state) (reviews : Reviews state next command preview receipt) :
    Linked next where
  shown := by
    intro pending held
    rw [reviews.pending, Option.some.injEq] at held
    subst held
    exact ⟨preview, by rw [reviews.bank]; exact reviews.performed⟩
  fresh := by
    intro pending held
    rw [reviews.pending, Option.some.injEq] at held
    subst held
    rw [reviews.bank]
    exact linked.numbered _ le_rfl
  pendingNumbered := by
    intro pending held
    rw [reviews.pending, Option.some.injEq] at held
    subst held
    rw [reviews.number]
    exact ⟨state.requestNumber, Nat.lt_succ_self _, rfl⟩
  numbered := by
    intro number enough
    rw [reviews.number] at enough
    rw [reviews.bank]
    exact linked.numbered number (Nat.le_of_succ_le enough)

theorem step (linked : Linked state) (input : Input) :
    Linked (state.step input) := by
  rcases state.step_cases input with idle | ⟨role, _, sets⟩ |
    ⟨_, _, _, confirms⟩ | ⟨_, _, _, _, _, _, reviews⟩
  · exact linked.idle idle
  · exact linked.of_dropped sets.pending (by rw [sets.bank]) sets.number
  · exact linked.confirm confirms
  · exact linked.review reviews

theorem run (linked : Linked state) (inputs : List Input) :
    Linked (state.run inputs) := by
  induction inputs generalizing state with
  | nil => exact linked
  | cons input rest ih => exact ih (linked.step input)

end Linked

/-! ## The whole history -/

/-- Where a pending command was reviewed, and that nothing changed since. -/
structure ReviewedAt (start : Workspace) (before : List Input)
    (action : String) (after : List Input) (pending : Pending) : Prop where
  asked : (start.run before).command? action = some pending.command
  shown : ∃ preview, execute (start.run before).bank pending.command
    pending.key (start.run before).bank.revision =
      .ok (preview, pending.receipt)
  kept : ∀ front, front <+: after →
    (start.run (before ++ .act action :: front)).bank =
        (start.run before).bank ∧
      (start.run (before ++ .act action :: front)).pending = some pending

theorem run_concat (state : Workspace) (inputs : List Input) (input : Input) :
    state.run (inputs ++ [input]) = (state.run inputs).step input := by
  rw [run_append]
  rfl

/-- A step with the same pending command after it extends its history. -/
theorem ReviewedAt.concat {start : Workspace} {before after : List Input}
    {action : String} {pending : Pending} {input : Input}
    (reviewed : ReviewedAt start before action after pending)
    (bank : (start.run (before ++ .act action :: (after ++ [input]))).bank =
      (start.run (before ++ .act action :: after)).bank)
    (held : (start.run (before ++ .act action :: (after ++ [input]))).pending =
      some pending) :
    ReviewedAt start before action (after ++ [input]) pending where
  asked := reviewed.asked
  shown := reviewed.shown
  kept := by
    intro front leads
    rcases List.prefix_concat_iff.mp leads with whole | shorter
    · subst whole
      have earlier := reviewed.kept after (List.prefix_refl after)
      exact ⟨bank.trans earlier.1, held⟩
    · exact reviewed.kept front shorter

/-- Every pending command was stored by the last review. -/
theorem reviewedAt_of_pending {start : Workspace} (blank : start.pending = none)
    (inputs : List Input) {pending : Pending}
    (held : (start.run inputs).pending = some pending) :
    ∃ before action after, inputs = before ++ .act action :: after ∧
      ReviewedAt start before action after pending := by
  induction inputs using List.reverseRecOn with
  | nil =>
      change start.pending = _ at held
      rw [blank] at held
      cases held
  | append_singleton inputs input ih =>
      have stepped := start.run_concat inputs input
      rw [stepped] at held
      rcases (start.run inputs).step_cases input with idle | ⟨role, _, sets⟩ |
        ⟨_, _, _, confirms⟩ | ⟨action, command, preview, receipt, chosen, asked,
          reviews⟩
      · rcases idle.pending with kept | dropped
        · rw [kept] at held
          obtain ⟨before, action, after, split, reviewed⟩ := ih held
          have whole : inputs ++ [input] =
              before ++ .act action :: (after ++ [input]) := by
            simp [split]
          refine ⟨before, action, after ++ [input], whole, ?_⟩
          apply reviewed.concat
          · rw [← whole, ← split, stepped]
            exact idle.bank
          · rw [← whole, stepped, kept]
            exact held
        · rw [dropped] at held
          cases held
      · rw [sets.pending] at held
        cases held
      · rw [confirms.pending] at held
        cases held
      · rw [reviews.pending, Option.some.injEq] at held
        subst held
        subst chosen
        refine ⟨inputs, action, [], rfl, asked, ⟨preview, reviews.performed⟩, ?_⟩
        intro front leads
        rw [List.prefix_nil.mp leads, stepped]
        exact ⟨reviews.bank, reviews.pending⟩

/-- A recorded key stays recorded. -/
theorem completed_step {state : Workspace} (linked : Linked state)
    {key : String} {completed : Completed}
    (stored : state.bank.completed.get? key = some completed) (input : Input) :
    (state.step input).bank.completed.get? key = some completed := by
  rcases state.step_cases input with idle | ⟨role, _, sets⟩ |
    ⟨pending, _, _, confirms⟩ | ⟨_, _, _, _, _, _, reviews⟩
  · rw [idle.bank]
    exact stored
  · rw [sets.bank]
    exact stored
  · have different : key ≠ pending.key := by
      intro same
      rw [same, linked.fresh pending confirms.held] at stored
      cases stored
    rw [linked.completed_confirm confirms different]
    exact stored
  · rw [reviews.bank]
    exact stored

theorem completed_run {state : Workspace} (linked : Linked state)
    {key : String} {completed : Completed}
    (stored : state.bank.completed.get? key = some completed)
    (inputs : List Input) :
    (state.run inputs).bank.completed.get? key = some completed := by
  induction inputs generalizing state with
  | nil => exact stored
  | cons input rest ih =>
      exact ih (linked.step input) (completed_step linked stored input)

/-- Confirming a linked command performs it with the receipt of its review. -/
theorem Linked.confirms {state : Workspace} (linked : Linked state)
    {pending : Pending} (held : state.pending = some pending) :
    Confirms state (state.act "confirm") pending pending.receipt := by
  obtain ⟨bank, performed⟩ := linked.shown pending held
  have done : state.tryAct "confirm" = .ok { state with
      bank
      page := .receipt
      receipt := some pending.receipt
      pending := none
      error := "" } := by
    have confirmed : state.tryAct "confirm" = state.confirm pending := by
      simp [tryAct, after?, held]
    rw [confirmed]
    simp [Workspace.confirm, performed, bind, Except.bind, pure, Except.pure]
  unfold act
  rw [done]
  exact ⟨held, performed, rfl, rfl, rfl⟩

end Workspace

open Workspace in
/-- In every session of the workspace: a pending command was stored by the
last review and the bank and the role are those it was reviewed on; `confirm`
performs it, publishes the receipt of the review and uses its key once; and
the bank changes only by a confirmation or a role change. -/
theorem servicing_reviews (tenant : Tenant) (inputs : List Input) :
    (∀ pending, ((createWorkspace tenant).run inputs).pending = some pending →
      ∃ before action after, inputs = before ++ .act action :: after ∧
        ReviewedAt (createWorkspace tenant) before action after pending) ∧
    (∀ pending, ((createWorkspace tenant).run inputs).pending = some pending →
      Confirms ((createWorkspace tenant).run inputs)
        (((createWorkspace tenant).run inputs).act "confirm") pending
        pending.receipt ∧
      ((createWorkspace tenant).run inputs).bank.completed.get? pending.key =
        none ∧
      ∀ later other,
        ((((createWorkspace tenant).run inputs).act "confirm").run
          later).pending = some other → other.key ≠ pending.key) ∧
    (∀ input, (((createWorkspace tenant).run inputs).step input).bank ≠
        ((createWorkspace tenant).run inputs).bank →
      (input = .act "confirm" ∧ ∃ pending,
        ((createWorkspace tenant).run inputs).pending = some pending) ∨
      (input = .act "set-role" ∧ ∃ role,
        (((createWorkspace tenant).run inputs).step input).bank =
          { ((createWorkspace tenant).run inputs).bank with role })) := by
  have linked := (linked_createWorkspace tenant).run inputs
  refine ⟨fun pending held => reviewedAt_of_pending rfl inputs held, ?_, ?_⟩
  · intro pending held
    have confirms := linked.confirms held
    refine ⟨confirms, linked.fresh pending held, ?_⟩
    intro later other holds same
    have after := linked.confirm confirms
    have recorded := completedAs_of_done confirms.performed
    have stored := completed_run after recorded.stored later
    have unused := (after.run later).fresh other holds
    rw [same, stored] at unused
    cases unused
  · intro input changed
    rcases ((createWorkspace tenant).run inputs).step_cases input with
      idle | ⟨role, chosen, sets⟩ | ⟨pending, _, chosen, confirms⟩ |
        ⟨_, _, _, _, _, _, reviews⟩
    · exact absurd idle.bank changed
    · exact .inr ⟨chosen, role, sets.bank⟩
    · exact .inl ⟨chosen, pending, confirms.held⟩
    · exact absurd reviews.bank changed

end ReplayForge.Servicing

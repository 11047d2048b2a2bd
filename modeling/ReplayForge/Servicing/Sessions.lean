import ReplayForge.Servicing.Ledger

/-!
# Sessions of role changes and commands

A session starts from `createBank`.  Every call keeps the deposits and the
covered holds, a new command gets a new number, and a completed key is
answered from its record for the rest of the session.
-/

namespace ReplayForge.Servicing

inductive BankCall where
  | setRole (role : Role)
  | execute (command : Command) (key : String) (expectedRevision : Int)
deriving DecidableEq

/-- The bank after a call; a command that is refused throws. -/
def Bank.after (bank : Bank) : BankCall → Bank
  | .setRole role => { bank with role }
  | .execute command key expectedRevision =>
      match execute bank command key expectedRevision with
      | .ok (next, _) => next
      | .error _ => bank

def Bank.run (bank : Bank) (calls : List BankCall) : Bank :=
  calls.foldl Bank.after bank

theorem Bank.run_cons (bank : Bank) (call : BankCall) (calls : List BankCall) :
    bank.run (call :: calls) = (bank.after call).run calls := rfl

/-- A call sets the role, leaves the bank as it was, or records a change. -/
theorem Bank.after_cases (bank : Bank) (call : BankCall) :
    (∃ role, bank.after call = { bank with role }) ∨ bank.after call = bank ∨
      ∃ command key expectedRevision receipt, bank.completed.get? key = none ∧
        execute bank command key expectedRevision =
          .ok (bank.after call, receipt) := by
  cases call with
  | setRole role => exact .inl ⟨role, rfl⟩
  | execute command key expectedRevision =>
      rw [Bank.after]
      cases done : execute bank command key expectedRevision with
      | error error => exact .inr (.inl rfl)
      | ok result =>
          obtain ⟨next, receipt⟩ := result
          obtain ⟨_, _, ⟨_, _, _, same, _⟩ | ⟨new, _⟩⟩ := execute_cases done
          · exact .inr (.inl same)
          · exact .inr (.inr ⟨command, key, expectedRevision, receipt, new, done⟩)

theorem Sound.after {bank : Bank} (sound : Sound bank) (call : BankCall) :
    Sound (bank.after call) := by
  rcases bank.after_cases call with ⟨role, same⟩ | same | ⟨_, _, _, _, _, done⟩
  · rw [same]
    exact sound.setRole role
  · rw [same]
    exact sound
  · exact sound.execute done

theorem Sound.run {bank : Bank} (sound : Sound bank) (calls : List BankCall) :
    Sound (bank.run calls) := by
  induction calls generalizing bank with
  | nil => exact sound
  | cons call rest ih => exact ih (sound.after call)

theorem Sound.total_after {bank : Bank} (sound : Sound bank) (call : BankCall) :
    totalDeposits (bank.after call) = totalDeposits bank := by
  rcases bank.after_cases call with
    ⟨role, same⟩ | same | ⟨_, _, _, _, new, done⟩
  · rw [same]
    rfl
  · rw [same]
  · obtain ⟨performed, _, change, recorded⟩ := recorded_of_new done new
    have same := congrArg Prod.fst recorded
    simp only at same
    rw [same]
    exact change.total_eq sound.distinct

/-! ## Completed keys -/

theorem Command.properties_injective :
    Function.Injective Command.properties := by
  intro first second same
  cases first <;> cases second <;>
    simp_all [Command.properties]
  rename_i desired _ _ _ other _
  cases desired <;> cases other <;> simp_all [DesiredStatus.card, CardStatus.text]

theorem Command.fingerprint_injective :
    Function.Injective Command.fingerprint := by
  intro first second same
  apply Command.properties_injective
  have objects := Json.text_injective same
  rw [Json.obj.injEq] at objects
  apply List.map_injective_iff.mpr _ objects
  intro left right equal
  obtain ⟨name, value⟩ := left
  obtain ⟨name', value'⟩ := right
  simpa using equal

/-- The record under which a command was completed. -/
structure CompletedAs (bank : Bank) (command : Command) (key : String)
    (receipt : Receipt) : Prop where
  valid : isOperationKey key = true
  stored : bank.completed.get? key =
    some { fingerprint := command.fingerprint, receipt }

theorem completedAs_of_done {bank next : Bank} {command : Command}
    {key : String} {expectedRevision : Int} {receipt : Receipt}
    (done : execute bank command key expectedRevision = .ok (next, receipt)) :
    CompletedAs next command key receipt := by
  obtain ⟨_, valid, ⟨completed, found, printed, same, received⟩ |
    ⟨_, _, performed, _, same⟩⟩ := execute_cases done
  · refine ⟨valid, ?_⟩
    subst same
    rw [found, received, ← printed]
  · refine ⟨valid, ?_⟩
    cases same
    exact Dict.get?_set_self _ _ _

namespace CompletedAs

variable {bank : Bank} {command : Command} {key : String} {receipt : Receipt}

theorem after (completed : CompletedAs bank command key receipt)
    (call : BankCall) : CompletedAs (bank.after call) command key receipt := by
  refine ⟨completed.valid, ?_⟩
  rcases bank.after_cases call with
    ⟨role, same⟩ | same | ⟨other, name, _, _, new, done⟩
  · rw [same]
    exact completed.stored
  · rw [same]
    exact completed.stored
  · obtain ⟨performed, _, change, recorded⟩ := recorded_of_new done new
    have same := congrArg Prod.fst recorded
    simp only at same
    have different : key ≠ name := by
      intro equal
      rw [← equal, completed.stored] at new
      cases new
    rw [same]
    change (performed.next.completed.set name _).get? key = _
    rw [Dict.get?_set_ne _ _ different, change.completed_eq]
    exact completed.stored

theorem run (completed : CompletedAs bank command key receipt)
    (calls : List BankCall) :
    CompletedAs (bank.run calls) command key receipt := by
  induction calls generalizing bank with
  | nil => exact completed
  | cons call rest ih => exact ih (completed.after call)

/-- The same command is answered from the record, whatever the revision. -/
theorem repeated (completed : CompletedAs bank command key receipt)
    (permitted : bank.role ≠ .inquiry) (expectedRevision : Int) :
    execute bank command key expectedRevision = .ok (bank, receipt) := by
  simp [execute, requireRule, permitted, completed.valid, completed.stored,
    bind, Except.bind, pure, Except.pure]

/-- Another command is refused under the key. -/
theorem conflicting (completed : CompletedAs bank command key receipt)
    {other : Command} (different : other ≠ command) (expectedRevision : Int) :
    ∃ error, execute bank other key expectedRevision = .error error := by
  have printed : command.fingerprint ≠ other.fingerprint := by
    intro same
    exact different (Command.fingerprint_injective same.symm)
  cases done : execute bank other key expectedRevision with
  | error error => exact ⟨error, rfl⟩
  | ok result =>
      obtain ⟨_, _, ⟨record, found, same, _⟩ | ⟨new, _⟩⟩ := execute_cases done
      · rw [completed.stored, Option.some.injEq] at found
        rw [← found] at same
        exact absurd same printed
      · rw [completed.stored] at new
        cases new

end CompletedAs

/-- An inquiry-only operator performs nothing. -/
theorem execute_inquiry {bank : Bank} (role : bank.role = .inquiry)
    (command : Command) (key : String) (expectedRevision : Int) :
    ∃ error, execute bank command key expectedRevision = .error error ∧
      error.code = "permission_denied" := by
  cases done : execute bank command key expectedRevision with
  | ok result => exact absurd role (execute_cases done).1
  | error error =>
      refine ⟨error, rfl, ?_⟩
      simp [execute, requireRule, role, bind, Except.bind] at done
      rw [← done]

/-- Over every session: deposits are conserved, no deposit account is
overdrawn, a new command raises the revision and takes a new reference, a
refused one changes nothing, and a completed key is answered from its record
unless the operator is inquiry-only. -/
theorem servicing_sessions (tenant : Tenant) (calls : List BankCall) :
    (∀ call, totalDeposits (((createBank tenant).run calls).after call) =
      totalDeposits ((createBank tenant).run calls)) ∧
    (∀ account ∈ ((createBank tenant).run calls).accounts, account.isDeposit →
      ∃ cents, available ((createBank tenant).run calls) account.id =
        .ok cents ∧ 0 ≤ cents) ∧
    (∀ command key expectedRevision next receipt,
      execute ((createBank tenant).run calls) command key expectedRevision =
        .ok (next, receipt) →
      ((createBank tenant).run calls).completed.get? key = none →
      next.revision = ((createBank tenant).run calls).revision + 1 ∧
        receipt.reference ∉ usedReferences ((createBank tenant).run calls)) ∧
    (∀ command key expectedRevision error,
      execute ((createBank tenant).run calls) command key expectedRevision =
        .error error →
      ((createBank tenant).run calls).after
          (.execute command key expectedRevision) =
        (createBank tenant).run calls) ∧
    (∀ command key expectedRevision next receipt later,
      execute ((createBank tenant).run calls) command key expectedRevision =
        .ok (next, receipt) →
      ((next.run later).role ≠ .inquiry → ∀ revision,
        execute (next.run later) command key revision =
          .ok (next.run later, receipt)) ∧
      ((next.run later).role = .inquiry → ∀ revision, ∃ error,
        execute (next.run later) command key revision = .error error ∧
          error.code = "permission_denied") ∧
      ∀ other, other ≠ command → ∀ revision, ∃ error,
        execute (next.run later) other key revision = .error error) := by
  have sound := (sound_createBank tenant).run calls
  refine ⟨sound.total_after, ?_, ?_, ?_, ?_⟩
  · intro account member deposit
    have covered := sound.covered account member deposit
    exact ⟨_, available_eq sound.distinct member, by omega⟩
  · intro command key expectedRevision next receipt done new
    obtain ⟨performed, _, change, same⟩ := recorded_of_new done new
    cases same
    constructor
    · change performed.next.revision + 1 = _
      rw [change.revision_eq]
    · intro used
      have bound := sound.numbered _ used
      omega
  · intro command key expectedRevision error failed
    simp [Bank.after, failed]
  · intro command key expectedRevision next receipt later done
    have completed := (completedAs_of_done done).run later
    exact ⟨completed.repeated, fun role => execute_inquiry role command key,
      fun other different => completed.conflicting different⟩

/-! ## A repetition under the inquiry role -/

namespace Sample

def quote : Command := .quote "12345" "12345-03" "2026-09-20"

def quoted : Bank :=
  (createBank .harbor).after (.execute quote "request-0001" 0)

theorem quote_done : ∃ receipt,
    execute (createBank .harbor) quote "request-0001" 0 =
      .ok (quoted, receipt) := by
  have succeeds : (execute (createBank .harbor) quote "request-0001"
      0).toOption.isSome = true := by
    decide +kernel
  rw [quoted, Bank.after]
  cases done : execute (createBank .harbor) quote "request-0001" 0 with
  | error error => simp [done, Except.toOption] at succeeds
  | ok result => exact ⟨result.2, rfl⟩

end Sample

/-- After a role change the same command under its key is refused. -/
theorem repetition_refused :
    ¬ ∀ (tenant : Tenant) (calls : List BankCall) (command : Command)
        (key : String) (expectedRevision : Int) (next : Bank)
        (receipt : Receipt) (later : List BankCall) (revision : Int),
      execute ((createBank tenant).run calls) command key expectedRevision =
        .ok (next, receipt) →
      execute (next.run later) command key revision =
        .ok (next.run later, receipt) := by
  intro claimed
  obtain ⟨receipt, done⟩ := Sample.quote_done
  have answered := claimed .harbor [] Sample.quote "request-0001" 0 Sample.quoted
    receipt [.setRole .inquiry] 0 done
  obtain ⟨error, refused, _⟩ := @execute_inquiry
    (Sample.quoted.run [.setRole .inquiry]) rfl Sample.quote "request-0001" 0
  rw [refused] at answered
  cases answered

end ReplayForge.Servicing

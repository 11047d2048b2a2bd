import ReplayForge.Servicing.Execute
import ReplayForge.Surfaces.Errors

/-!
# What a command can change

Each performed command makes one `Change` of the bank: it posts a funded
transfer, places a funded hold, releases a hold, changes cards or cases, or
changes nothing.  Every invariant of the ledger is derived from this list.
-/

namespace ReplayForge.Servicing

@[simp]
theorem requireRule_eq_ok {condition : Bool} {code message : String}
    {checked : Unit} :
    requireRule condition code message = .ok checked ↔ condition = true := by
  cases condition <;> simp [requireRule]

@[simp]
theorem requireFound_eq_ok {α : Type} {found : Option α} {item : α}
    {code message : String} :
    requireFound found code message = .ok item ↔ found = some item := by
  cases found <;> simp [requireFound]

def Account.isDeposit (account : Account) : Bool :=
  account.kind ≠ .autoLoan

inductive Change (bank : Bank) (reference : String) : Bank → Prop where
  | transfer {source target : Account} {cents funds : Int}
      {debit credit : Posting} :
      source ∈ bank.accounts → target ∈ bank.accounts →
      source.isDeposit → target.isDeposit → source.id ≠ target.id →
      0 < cents → available bank source.id = .ok funds → cents ≤ funds →
      debit.accountId = source.id ∧ debit.cents = -cents ∧
        debit.status = .posted ∧ debit.reference = reference →
      credit.accountId = target.id ∧ credit.cents = cents ∧
        credit.status = .posted ∧ credit.reference = reference →
      Change bank reference
        { bank with postings := bank.postings ++ [debit, credit] }
  | cards (cards : List Card) : Change bank reference { bank with cards }
  | hold {account : Account} {funds : Int} {hold : Hold} :
      account ∈ bank.accounts → account.isDeposit →
      available bank account.id = .ok funds → 0 < hold.cents →
      hold.cents ≤ funds → hold.accountId = account.id → hold.id = reference →
      Change bank reference { bank with holds := bank.holds ++ [hold] }
  | release (test : Hold → Bool) :
      Change bank reference { bank with
        holds := changeFirst test
          (fun hold => { hold with status := .released }) bank.holds }
  | quote : Change bank reference bank
  | opened {item : ServiceCase} :
      item.id = reference →
      Change bank reference { bank with cases := bank.cases ++ [item] }
  | resolved (test : ServiceCase → Bool) {change : ServiceCase → ServiceCase} :
      (∀ item, (change item).id = item.id) →
      Change bank reference { bank with
        cases := changeFirst test change bank.cases }

theorem parseMoney_pos {value : String} {cents : Int}
    (parsed : parseMoney value = .ok cents) : 0 < cents := by
  simp only [parseMoney, bind_eq_ok, requireRule_eq_ok,
    requireFound_eq_ok, exists_const] at parsed
  obtain ⟨groups, _, limits, result⟩ := parsed
  simp only [Bool.and_eq_true, decide_eq_true_eq] at limits
  cases result
  exact limits.1

theorem mem_of_owned {bank : Bank} {memberId accountId : String}
    {account : Account} (found : owned bank memberId accountId = .ok account) :
    account ∈ bank.accounts := by
  simp only [owned, bind_eq_ok, requireRule_eq_ok,
    requireFound_eq_ok, exists_const] at found
  obtain ⟨member, _, _, other, listed, _, result⟩ := found
  cases result
  exact List.mem_of_find?_eq_some listed

section Perform

variable {bank : Bank} {reference : String} {performed : Performed}

theorem transfer_change {memberId debit credit amount memo : String}
    (done : transfer bank reference memberId debit credit amount memo =
      .ok performed) : Change bank reference performed.next := by
  simp only [transfer, bind_eq_ok, requireRule_eq_ok, exists_const] at done
  obtain ⟨source, sourceOwned, target, targetOwned, different, deposits, cents,
    parsed, funds, found, covered, stated, _, _, _, result⟩ := done
  cases result
  simp only [Bool.and_eq_true, decide_eq_true_eq] at different deposits covered
  exact .transfer (mem_of_owned sourceOwned) (mem_of_owned targetOwned)
    (by simpa [Account.isDeposit] using deposits.1)
    (by simpa [Account.isDeposit] using deposits.2) different
    (parseMoney_pos parsed) found covered ⟨rfl, rfl, rfl, rfl⟩
    ⟨rfl, rfl, rfl, rfl⟩

theorem changeCard_change {memberId cardId why : String}
    {desired : DesiredStatus}
    (done : changeCard bank memberId cardId desired why = .ok performed) :
    Change bank reference performed.next := by
  simp only [changeCard, bind_eq_ok, requireRule_eq_ok,
    requireFound_eq_ok, exists_const] at done
  obtain ⟨card, _, _, _, _, _, _, _, result⟩ := done
  cases result
  exact .cards _

theorem placeHold_change {memberId accountId amount why : String}
    (done : placeHold bank reference memberId accountId amount why =
      .ok performed) : Change bank reference performed.next := by
  simp only [placeHold, bind_eq_ok, requireRule_eq_ok, exists_const] at done
  obtain ⟨_, account, found, deposit, cents, parsed, funds, counted, covered,
    stated, _, _, _, result⟩ := done
  cases result
  simp only [decide_eq_true_eq] at deposit covered
  exact .hold (mem_of_owned found) (by simpa [Account.isDeposit] using deposit)
    counted (parseMoney_pos parsed) covered rfl rfl

theorem releaseHold_change {memberId holdId why : String}
    (done : releaseHold bank memberId holdId why = .ok performed) :
    Change bank reference performed.next := by
  simp only [releaseHold, bind_eq_ok, requireRule_eq_ok,
    requireFound_eq_ok, exists_const] at done
  obtain ⟨_, hold, _, _, _, _, _, _, _, _, result⟩ := done
  cases result
  exact .release _

theorem issueQuote_change {memberId accountId date : String}
    (done : issueQuote bank memberId accountId date = .ok performed) :
    Change bank reference performed.next := by
  simp only [issueQuote, bind_eq_ok] at done
  obtain ⟨quote, _, result⟩ := done
  cases result
  exact .quote

theorem openCase_change {memberId accountId category subject : String}
    (done : openCase bank reference memberId accountId category subject =
      .ok performed) : Change bank reference performed.next := by
  simp only [openCase, bind_eq_ok, requireRule_eq_ok, exists_const] at done
  obtain ⟨_, _, _, stated, _, result⟩ := done
  cases result
  exact .opened rfl

theorem resolveCase_change {memberId caseId resolution : String}
    (done : resolveCase bank memberId caseId resolution = .ok performed) :
    Change bank reference performed.next := by
  simp only [resolveCase, bind_eq_ok, requireRule_eq_ok,
    requireFound_eq_ok, exists_const] at done
  obtain ⟨item, _, _, _, _, stated, _, result⟩ := done
  cases result
  exact .resolved _ fun _ => rfl

theorem perform_change {command : Command}
    (done : perform bank reference command = .ok performed) :
    Change bank reference performed.next := by
  cases command with
  | transfer => exact transfer_change done
  | card => exact changeCard_change done
  | hold => exact placeHold_change done
  | release => exact releaseHold_change done
  | quote => exact issueQuote_change done
  | openCase => exact openCase_change done
  | resolve => exact resolveCase_change done

end Perform

/-! ## What a call can do -/

/-- A repeated key is answered from its record; a new one makes a change. -/
theorem execute_cases {bank next : Bank} {command : Command} {key : String}
    {expectedRevision : Int} {receipt : Receipt}
    (done : execute bank command key expectedRevision = .ok (next, receipt)) :
    bank.role ≠ .inquiry ∧ isOperationKey key = true ∧
      ((∃ completed, bank.completed.get? key = some completed ∧
          completed.fingerprint = command.fingerprint ∧ next = bank ∧
          receipt = completed.receipt) ∨
        (bank.completed.get? key = none ∧ expectedRevision = bank.revision ∧
          ∃ performed,
            perform bank (referenceOf bank.tenant (bank.revision + 1)) command =
              .ok performed ∧
            (next, receipt) = recorded bank command key
              (referenceOf bank.tenant (bank.revision + 1)) performed)) := by
  simp only [execute, bind_eq_ok, requireRule_eq_ok, exists_const] at done
  obtain ⟨role, valid, done⟩ := done
  refine ⟨by simpa using role, valid, ?_⟩
  cases found : bank.completed.get? key with
  | some completed =>
      simp only [found, bind_eq_ok, requireRule_eq_ok, exists_const,
        decide_eq_true_eq] at done
      obtain ⟨same, result⟩ := done
      cases result
      exact .inl ⟨completed, rfl, same, rfl, rfl⟩
  | none =>
      simp only [found, bind_eq_ok, requireRule_eq_ok, exists_const,
        decide_eq_true_eq] at done
      obtain ⟨current, performed, result, same⟩ := done
      cases same
      exact .inr ⟨rfl, current, performed, result, rfl⟩

end ReplayForge.Servicing

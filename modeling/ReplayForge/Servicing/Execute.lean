import ReplayForge.Servicing.Bank

/-!
# Performing a command

`execute` checks the operator and the operation key, answers a repeated key
from its record and otherwise performs the command on the current revision.
-/

namespace ReplayForge.Servicing

/-- What performing a command yields before it is recorded. -/
structure Performed where
  next : Bank
  title : String
  details : List (String × String)
deriving DecidableEq

/-- Change the first item that passes the test. -/
def changeFirst {α : Type} (test : α → Bool) (change : α → α) (items : List α) :
    List α :=
  items.modify (items.findIdx test) change

section Operations

variable (bank : Bank) (reference : String)

def transfer (memberId debit credit amount memo : String) :
    Except BankError Performed := do
  let source ← owned bank memberId debit
  let target ← owned bank memberId credit
  requireRule (source.id ≠ target.id) "same_account"
    "Debit and credit accounts must differ."
  requireRule (source.kind ≠ .autoLoan && target.kind ≠ .autoLoan)
    "deposit_only" "Internal transfers support deposit accounts only."
  let cents ← parseMoney amount
  requireRule (cents ≤ (← available bank source.id)) "insufficient_funds"
    "Insufficient available funds after active holds."
  let memo ← reason memo
  let next := { bank with
    postings := bank.postings ++ [
      { id := reference ++ "-D"
        accountId := source.id
        cents := -cents
        date := bank.businessDate
        description := "Transfer to " ++ target.suffix ++ ": " ++ memo
        status := .posted
        reference },
      { id := reference ++ "-C"
        accountId := target.id
        cents
        date := bank.businessDate
        description := "Transfer from " ++ source.suffix ++ ": " ++ memo
        status := .posted
        reference }] }
  return {
    next
    title := "Internal transfer posted"
    details := [("Debit account", source.id), ("Credit account", target.id),
      ("Amount", money cents), ("Purpose", memo),
      ("Source available", money (← available next source.id))] }

def changeCard (memberId cardId : String) (desired : DesiredStatus)
    (why : String) : Except BankError Performed := do
  let card ← requireFound (bank.cards.find? fun card => card.id = cardId)
    "card_missing" "Select an existing card."
  let _ ← owned bank memberId card.accountId
  let _ ← reason why
  requireRule (card.status ≠ .expired) "card_expired"
    "Expired cards cannot be locked or unlocked."
  requireRule (card.status ≠ desired.card) "already_in_state"
    ("Card is already " ++ card.status.lower ++ "; no change was made.")
  return {
    next := { bank with
      cards := changeFirst (fun card => card.id = cardId)
        (fun card => { card with status := desired.card }) bank.cards }
    title :=
      if desired = .active then "Card unlocked" else "Card temporarily locked"
    details := [("Card ID", card.id), ("Card last 4", card.suffix),
      ("Cardholder", card.holder), ("Lock status", desired.card.text),
      ("Reason", trim why)] }

def placeHold (memberId accountId amount why : String) :
    Except BankError Performed := do
  requireRule (bank.role = .supervisor) "permission_denied"
    "Placing an administrative hold requires the supervisor role."
  let account ← owned bank memberId accountId
  requireRule (account.kind ≠ .autoLoan) "deposit_only"
    "Holds apply to deposit accounts only."
  let cents ← parseMoney amount
  requireRule (cents ≤ (← available bank account.id)) "insufficient_funds"
    "Hold cannot exceed available funds."
  let stated ← reason why
  let next := { bank with
    holds := bank.holds ++ [
      { id := reference
        accountId := account.id
        cents
        reason := stated
        status := .active }] }
  return {
    next
    title := "Administrative hold placed"
    details := [("Account", account.id), ("Amount", money cents),
      ("Reason", trim why),
      ("Available balance", money (← available next account.id))] }

def releaseHold (memberId holdId why : String) :
    Except BankError Performed := do
  requireRule (bank.role = .supervisor) "permission_denied"
    "Releasing a hold requires the supervisor role."
  let hold ← requireFound (bank.holds.find? fun hold => hold.id = holdId)
    "hold_missing" "Hold no longer exists."
  let _ ← owned bank memberId hold.accountId
  let _ ← reason why
  requireRule (hold.status = .active) "hold_released"
    "Hold has already been released."
  let next := { bank with
    holds := changeFirst (fun hold => hold.id = holdId)
      (fun hold => { hold with status := .released }) bank.holds }
  return {
    next
    title := "Hold released"
    details := [("Hold reference", hold.id),
      ("Released amount", money hold.cents), ("Reason", trim why),
      ("Available balance", money (← available next hold.accountId))] }

def issueQuote (memberId accountId date : String) :
    Except BankError Performed := do
  let quote ← payoff bank memberId accountId date
  return {
    next := bank
    title := "Payoff quote issued"
    details := [("Loan account", accountId),
      ("Principal", money quote.principal),
      ("Accrued interest", money quote.accrued),
      ("Additional interest", money quote.interest),
      ("Payoff amount", money quote.total), ("Good through", date)] }

def openCase (memberId accountId category subject : String) :
    Except BankError Performed := do
  let _ ← owned bank memberId accountId
  requireRule (category ∈
      ["Transaction inquiry", "Account maintenance", "Card inquiry"])
    "invalid_category" "Select a supported service category."
  let stated ← reason subject
  return {
    next := { bank with
      cases := bank.cases ++ [
        { id := reference
          memberId
          accountId
          category
          subject := stated
          status := .isOpen
          resolution := "" }] }
    title := "Service case opened"
    details := [("Case ID", reference), ("Account", accountId),
      ("Category", category), ("Request summary", trim subject),
      ("Status", "Open")] }

def resolveCase (memberId caseId resolution : String) :
    Except BankError Performed := do
  let item ← requireFound
    (bank.cases.find? fun item =>
      item.id = caseId && item.memberId = memberId)
    "case_missing" "Case does not belong to the selected member."
  let _ ← owned bank memberId item.accountId
  requireRule (item.status = .isOpen) "case_resolved"
    "Case is already resolved."
  let stated ← reason resolution
  return {
    next := { bank with
      cases := changeFirst
        (fun item => item.id = caseId && item.memberId = memberId)
        (fun item => { item with status := .resolved, resolution := stated })
        bank.cases }
    title := "Service case resolved"
    details := [("Case ID", item.id), ("Status", CaseStatus.resolved.text),
      ("Resolution", stated)] }

/-- The branches of `execute` on the kind of a command. -/
def perform : Command → Except BankError Performed
  | .transfer memberId debit credit amount memo =>
      transfer bank reference memberId debit credit amount memo
  | .card memberId cardId desired why =>
      changeCard bank memberId cardId desired why
  | .hold memberId accountId amount why =>
      placeHold bank reference memberId accountId amount why
  | .release memberId holdId why => releaseHold bank memberId holdId why
  | .quote memberId accountId date => issueQuote bank memberId accountId date
  | .openCase memberId accountId category subject =>
      openCase bank reference memberId accountId category subject
  | .resolve memberId caseId resolution =>
      resolveCase bank memberId caseId resolution

end Operations

/-- `^[a-zA-Z0-9-]{8,80}$` -/
def isOperationKey (key : String) : Bool :=
  8 ≤ key.length && key.length ≤ 80 && key.toList.all fun char =>
    ('a' ≤ char && char ≤ 'z') || ('A' ≤ char && char ≤ 'Z') ||
      isDigit char || char = '-'

/-- The reference of an operation number. -/
def referenceOf (tenant : Tenant) (number : Nat) : String :=
  (if tenant = .harbor then "HBR" else "SUM") ++ "-" ++ padStart 6 number

/-- Bookkeeping of a performed command. -/
def recorded (bank : Bank) (command : Command) (key reference : String)
    (performed : Performed) : Bank × Receipt :=
  let receipt : Receipt := {
    reference
    title := performed.title
    details := ("Member ID", command.memberId) :: performed.details ++
      [("Business date", bank.businessDate)] }
  ({ performed.next with
      revision := performed.next.revision + 1
      journal := performed.next.journal ++ [
        { reference
          operation := performed.title
          memberId := command.memberId
          role := bank.role
          date := bank.businessDate }]
      completed := performed.next.completed.set key
        { fingerprint := command.fingerprint, receipt } },
    receipt)

def execute (bank : Bank) (command : Command) (key : String)
    (expectedRevision : Int) : Except BankError (Bank × Receipt) := do
  requireRule (bank.role ≠ .inquiry) "permission_denied"
    ("Inquiry-only operator: changes and quote issuance require " ++
      "servicing permission.")
  requireRule (isOperationKey key) "invalid_request"
    "Invalid operation reference."
  match bank.completed.get? key with
  | some completed =>
      requireRule (completed.fingerprint = command.fingerprint)
        "request_conflict"
        "This operation reference was already used for different instructions."
      return (bank, completed.receipt)
  | none =>
      requireRule (expectedRevision = bank.revision) "stale_review"
        "Records changed after review. Cancel and review the operation again."
      let reference := referenceOf bank.tenant (bank.revision + 1)
      return recorded bank command key reference
        (← perform bank reference command)

/-! ## The first state -/

def initialMembers : List Member := [
  { id := "12345", name := "Alex Morgan", city := "Port Mason"
    branch := "014 / Central", since := "2009-04-18", status := .active
    notice := "" },
  { id := "12346", name := "Alexandra Morgan", city := "Fairhaven"
    branch := "022 / North", since := "2016-08-03", status := .active
    notice := "" },
  { id := "23456", name := "Jordan Patel", city := "Port Mason"
    branch := "014 / Central", since := "2012-11-27", status := .active
    notice := "Address review outstanding. Confirm the member record " ++
      "before proceeding." },
  { id := "34567", name := "Taylor Chen", city := "Westbridge"
    branch := "031 / West", since := "2019-02-12", status := .restricted
    notice := "Restricted servicing. Contact branch supervisor." },
  { id := "45678", name := "Sam Rivera", city := "Fairhaven"
    branch := "022 / North", since := "2021-05-19", status := .active
    notice := "" },
  { id := "56789", name := "Morgan Lee", city := "Westbridge"
    branch := "031 / West", since := "2010-09-22", status := .active
    notice := "" }]

def initialAccounts : Member × Nat → List Account
  | (member, index) => [
      { id := member.id ++ "-01", memberId := member.id, kind := .checking
        suffix := padStart 4 (110 + index * 113)
        openingCents := 245000 + index * 37115
        status := .isOpen, aprBps := 0, accruedCents := 0 },
      { id := member.id ++ "-02", memberId := member.id, kind := .savings
        suffix := padStart 4 (421 + index * 117)
        openingCents := 142057 + index * 72500
        status := if index = 4 then .frozen else .isOpen
        aprBps := 0, accruedCents := 0 },
      { id := member.id ++ "-03", memberId := member.id, kind := .autoLoan
        suffix := (9902 - index * 131).repr
        openingCents := 780000 + index * 120000
        status := .isOpen, aprBps := 725, accruedCents := 2140 }]

def initialPostings : Member × Nat → List Posting
  | (member, index) => [
      { id := member.id ++ "-P1", accountId := member.id ++ "-01"
        date := "2026-09-11", description := "ACH CREDIT / PAYROLL NORTHSTAR"
        cents := 185000 + index * 2000, status := .posted
        reference := "ACH-" ++ (1001 + index).repr },
      { id := member.id ++ "-P2", accountId := member.id ++ "-01"
        date := "2026-09-08", description := "NORTHWIND MARKET / POS PURCHASE"
        cents := -8427, status := .posted
        reference := "POS-" ++ (80419 + index * 10).repr },
      { id := member.id ++ "-P3", accountId := member.id ++ "-01"
        date := "2026-09-09", description := "NORTHWIND MARKET / POS PURCHASE"
        cents := -3162, status := .posted
        reference := "POS-" ++ (80420 + index * 10).repr },
      { id := member.id ++ "-P4", accountId := member.id ++ "-01"
        date := "2026-09-13", description := "CONTOSO FUEL / AUTHORIZATION"
        cents := -5210, status := .pending
        reference := "AUTH-" ++ (7001 + index).repr },
      { id := member.id ++ "-P5", accountId := member.id ++ "-01"
        date := "2026-09-10", description := "ONLINE PAYMENT / UTILITIES"
        cents := -13749, status := .posted
        reference := "BILL-" ++ (4001 + index).repr }]

def initialCards (member : Member) : List Card := [
  { id := member.id ++ "-D1", accountId := member.id ++ "-01"
    suffix := "0110", holder := member.name, status := .active },
  { id := member.id ++ "-D2", accountId := member.id ++ "-01"
    suffix := "7824", holder := member.name ++ " / Joint"
    status := .temporarilyLocked },
  { id := member.id ++ "-D3", accountId := member.id ++ "-01"
    suffix := "9301", holder := member.name, status := .expired }]

def initialHold : Member × Nat → Hold
  | (member, index) =>
      { id := "AUTH-" ++ (7001 + index).repr, accountId := member.id ++ "-01"
        cents := 5210, reason := "Contoso Fuel authorization"
        status := .active }

def createBank (tenant : Tenant) : Bank where
  tenant := tenant
  role := .servicing
  businessDate := "2026-09-13"
  revision := 0
  members :=
    if tenant = .summit then initialMembers.reverse else initialMembers
  accounts := initialMembers.zipIdx.flatMap initialAccounts
  postings := initialMembers.zipIdx.flatMap initialPostings
  cards := initialMembers.flatMap initialCards
  holds := initialMembers.zipIdx.map initialHold
  cases := [
    { id := "CASE-2104", memberId := "12345", accountId := "12345-01"
      category := "Transaction inquiry"
      subject := "Member requests duplicate merchant charge review"
      status := .isOpen, resolution := "" }]
  journal := []
  completed := []

end ReplayForge.Servicing

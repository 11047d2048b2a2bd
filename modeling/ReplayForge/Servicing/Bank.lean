import ReplayForge.Servicing.Strings
import ReplayForge.Shared.JsonText

/-!
# The servicing ledger of the demo bank

Synthetic training rules for one session: members and their accounts, posted
activity, holds, cards and service cases.  `execute` performs one command
under an operation key and records its receipt.  Amounts are whole cents.
-/

namespace ReplayForge.Servicing

inductive Tenant where
  | harbor
  | summit
deriving DecidableEq, Repr

inductive Role where
  | servicing
  | inquiry
  | supervisor
deriving DecidableEq, Repr

def Role.text : Role → String
  | .servicing => "servicing"
  | .inquiry => "inquiry"
  | .supervisor => "supervisor"

inductive AccountKind where
  | checking
  | savings
  | autoLoan
deriving DecidableEq, Repr

def AccountKind.text : AccountKind → String
  | .checking => "Checking"
  | .savings => "Savings"
  | .autoLoan => "Auto loan"

inductive MemberStatus where
  | active
  | restricted
deriving DecidableEq, Repr

inductive AccountStatus where
  | isOpen
  | frozen
deriving DecidableEq, Repr

def AccountStatus.text : AccountStatus → String
  | .isOpen => "Open"
  | .frozen => "Frozen"

inductive PostingStatus where
  | posted
  | pending
deriving DecidableEq, Repr

inductive HoldStatus where
  | active
  | released
deriving DecidableEq, Repr

inductive CardStatus where
  | active
  | temporarilyLocked
  | expired
deriving DecidableEq, Repr

def CardStatus.text : CardStatus → String
  | .active => "Active"
  | .temporarilyLocked => "Temporarily locked"
  | .expired => "Expired"

/-- `card.status.toLowerCase()` -/
def CardStatus.lower : CardStatus → String
  | .active => "active"
  | .temporarilyLocked => "temporarily locked"
  | .expired => "expired"

inductive CaseStatus where
  | isOpen
  | resolved
deriving DecidableEq, Repr

def CaseStatus.text : CaseStatus → String
  | .isOpen => "Open"
  | .resolved => "Resolved"

structure Member where
  id : String
  name : String
  city : String
  branch : String
  since : String
  status : MemberStatus
  notice : String
deriving DecidableEq

structure Account where
  id : String
  memberId : String
  kind : AccountKind
  suffix : String
  openingCents : Int
  status : AccountStatus
  aprBps : Nat
  accruedCents : Int
deriving DecidableEq

structure Posting where
  id : String
  accountId : String
  date : String
  description : String
  cents : Int
  status : PostingStatus
  reference : String
deriving DecidableEq

structure Hold where
  id : String
  accountId : String
  cents : Int
  reason : String
  status : HoldStatus
deriving DecidableEq

structure Card where
  id : String
  accountId : String
  suffix : String
  holder : String
  status : CardStatus
deriving DecidableEq

structure ServiceCase where
  id : String
  memberId : String
  accountId : String
  category : String
  subject : String
  status : CaseStatus
  resolution : String
deriving DecidableEq

structure Receipt where
  reference : String
  title : String
  details : List (String × String)
deriving DecidableEq

structure AuditEntry where
  reference : String
  operation : String
  memberId : String
  role : Role
  date : String
deriving DecidableEq

structure Completed where
  fingerprint : String
  receipt : Receipt
deriving DecidableEq

structure Bank where
  tenant : Tenant
  role : Role
  businessDate : String
  revision : Nat
  members : List Member
  accounts : List Account
  postings : List Posting
  holds : List Hold
  cards : List Card
  cases : List ServiceCase
  journal : List AuditEntry
  completed : Dict Completed
deriving DecidableEq

/-- The state a card command asks for. -/
inductive DesiredStatus where
  | active
  | temporarilyLocked
deriving DecidableEq, Repr

def DesiredStatus.card : DesiredStatus → CardStatus
  | .active => .active
  | .temporarilyLocked => .temporarilyLocked

inductive Command where
  | transfer (memberId debit credit amount memo : String)
  | card (memberId cardId : String) (desired : DesiredStatus) (reason : String)
  | hold (memberId accountId amount reason : String)
  | release (memberId holdId reason : String)
  | quote (memberId accountId date : String)
  | openCase (memberId accountId category subject : String)
  | resolve (memberId caseId resolution : String)
deriving DecidableEq

namespace Command

def memberId : Command → String
  | .transfer memberId .. | .card memberId .. | .hold memberId ..
  | .release memberId .. | .quote memberId .. | .openCase memberId ..
  | .resolve memberId .. => memberId

/-- The properties of a command object, in the order it is written. -/
def properties : Command → List (String × String)
  | .transfer memberId debit credit amount memo =>
      [("kind", "transfer"), ("memberId", memberId), ("from", debit),
        ("to", credit), ("amount", amount), ("memo", memo)]
  | .card memberId cardId desired reason =>
      [("kind", "card"), ("memberId", memberId), ("cardId", cardId),
        ("desired", desired.card.text), ("reason", reason)]
  | .hold memberId accountId amount reason =>
      [("kind", "hold"), ("memberId", memberId), ("accountId", accountId),
        ("amount", amount), ("reason", reason)]
  | .release memberId holdId reason =>
      [("kind", "release"), ("memberId", memberId), ("holdId", holdId),
        ("reason", reason)]
  | .quote memberId accountId date =>
      [("kind", "quote"), ("memberId", memberId), ("accountId", accountId),
        ("date", date)]
  | .openCase memberId accountId category subject =>
      [("kind", "case"), ("memberId", memberId), ("accountId", accountId),
        ("category", category), ("subject", subject)]
  | .resolve memberId caseId resolution =>
      [("kind", "resolve"), ("memberId", memberId), ("caseId", caseId),
        ("resolution", resolution)]

/-- `JSON.stringify(command)`, up to how the text is escaped. -/
def fingerprint (command : Command) : String :=
  (Json.obj (command.properties.map fun (name, value) =>
    (name, .str value))).text

end Command

structure BankError where
  code : String
  message : String
deriving DecidableEq

def requireRule (condition : Bool) (code message : String) :
    Except BankError Unit :=
  if condition then .ok () else .error ⟨code, message⟩

/-- An item that must have been found. -/
def requireFound {α : Type} (found : Option α) (code message : String) :
    Except BankError α :=
  match found with
  | some item => .ok item
  | none => .error ⟨code, message⟩

/-! ## Money -/

/-- Digits with a comma before each group of three. -/
def grouped (digits : List Char) : List Char :=
  (digits.reverse.zipIdx.flatMap fun (digit, index) =>
    if index % 3 = 0 ∧ index ≠ 0 then [',', digit] else [digit]).reverse

def money (cents : Int) : String :=
  let size := cents.natAbs
  String.ofList
    ((if cents < 0 then ['-', '$'] else ['$']) ++
      grouped (size / 100).repr.toList ++ ['.'] ++
      (padStart 2 (size % 100)).toList)

/-- The whole and the fraction digits of
`^(0|[1-9]\d{0,6})(\.\d{1,2})?$`. -/
def amountGroups? (text : String) : Option (List Char × List Char) :=
  let whole := text.toList.takeWhile isDigit
  let isWhole := whole = ['0'] ∨
    (1 ≤ whole.length ∧ whole.length ≤ 7 ∧ whole.head? ≠ some '0')
  match text.toList.dropWhile isDigit with
  | [] => if isWhole then some (whole, []) else none
  | '.' :: fraction =>
      if isWhole ∧ fraction.all isDigit ∧ 1 ≤ fraction.length ∧
          fraction.length ≤ 2 then
        some (whole, fraction)
      else none
  | _ => none

def parseMoney (value : String) : Except BankError Int := do
  let (whole, fraction) ← requireFound (amountGroups? (trim value))
    "invalid_amount"
    "Enter dollars and cents, without commas; at most two decimal places."
  let padded := fraction ++ List.replicate (2 - fraction.length) '0'
  let cents : Int := digitsValue whole * 100 + digitsValue padded
  requireRule (0 < cents && cents ≤ 100000000) "amount_limit"
    "Amount must be between $0.01 and $1,000,000.00."
  return cents

/-! ## Balances -/

/-- The posted amounts of an account. -/
def postedCents (bank : Bank) (id : String) : Int :=
  ((bank.postings.filter fun posting =>
    posting.accountId = id && posting.status = .posted).map Posting.cents).sum

/-- The amounts of its active holds. -/
def heldCents (bank : Bank) (id : String) : Int :=
  ((bank.holds.filter fun hold =>
    hold.accountId = id && hold.status = .active).map Hold.cents).sum

def ledger (bank : Bank) (id : String) : Except BankError Int := do
  let account ← requireFound (bank.accounts.find? fun item => item.id = id)
    "account_missing" "Account no longer exists."
  return account.openingCents + postedCents bank id

def available (bank : Bank) (id : String) : Except BankError Int := do
  return (← ledger bank id) - heldCents bank id

/-! ## Checks -/

def owned (bank : Bank) (memberId accountId : String) :
    Except BankError Account := do
  let member ← requireFound
    (bank.members.find? fun member => member.id = memberId)
    "member_missing" "Select a valid member."
  requireRule (member.status ≠ .restricted) "member_restricted"
    ("Member is restricted. Refer to the branch supervisor; " ++
      "no servicing changes are allowed.")
  let account ← requireFound
    (bank.accounts.find? fun account =>
      account.id = accountId && account.memberId = memberId)
    "account_mismatch" "Account does not belong to the selected member."
  requireRule (account.status = .isOpen) "account_frozen"
    "Account is frozen. This operation cannot proceed."
  return account

def reason (value : String) : Except BankError String := do
  requireRule (8 ≤ lengthOf (trim value) && lengthOf (trim value) ≤ 160)
    "reason_required" "Enter a meaningful reason of 8–160 characters."
  return trim value

/-- The day a date stands for. -/
def dateNumber (value : String) : Except BankError Int := do
  let (year, month, day) ← requireFound (dateGroups? value) "invalid_date"
    "Use YYYY-MM-DD for the date."
  requireRule (isCalendarDate year month day) "invalid_date"
    "That calendar date does not exist."
  return dayNumber year month day

structure Payoff where
  principal : Int
  accrued : Int
  interest : Int
  total : Int
  days : Int
deriving DecidableEq

def payoff (bank : Bank) (memberId accountId date : String) :
    Except BankError Payoff := do
  let account ← owned bank memberId accountId
  requireRule (account.kind = .autoLoan) "not_loan" "Select a loan account."
  let days := (← dateNumber date) - (← dateNumber bank.businessDate)
  requireRule (0 ≤ days && days ≤ 30) "date_window"
    "Quote date must be within 30 days of the business date, inclusive."
  let principal ← ledger bank accountId
  let numerator := principal * account.aprBps * days
  let interest := (numerator + 1825000).tdiv 3650000
  return {
    principal
    accrued := account.accruedCents
    interest
    total := principal + account.accruedCents + interest
    days }

end ReplayForge.Servicing

import ReplayForge.Servicing.Execute

/-!
# The servicing workspace

A page, the selection and the field texts around one bank.  `act` performs an
action of the operator; a review keeps its command pending and only `confirm`
publishes it.
-/

namespace ReplayForge.Servicing

inductive Page where
  | inquiry
  | member
  | accounts
  | transactions
  | transaction
  | transfers
  | cards
  | card
  | holds
  | loans
  | cases
  | case
  | journal
  | settings
  | review
  | receipt
deriving DecidableEq, Repr

/-- The pages of the navigation, by their ids. -/
def nav : List (String × Page) := [
  ("inquiry", .inquiry), ("member", .member), ("accounts", .accounts),
  ("transactions", .transactions), ("transfers", .transfers),
  ("cards", .cards), ("holds", .holds), ("loans", .loans), ("cases", .cases),
  ("journal", .journal), ("settings", .settings)]

structure Filter where
  text : String := ""
  start : String := ""
  stop : String := ""
  status : String := "All"
deriving DecidableEq

structure Pending where
  command : Command
  key : String
  revision : Nat
  receipt : Receipt
  returnPage : Page
  returnFields : Dict String
deriving DecidableEq

structure Workspace where
  bank : Bank
  page : Page
  memberId : String
  accountId : String
  selectedId : String
  fields : Dict String
  query : String
  filter : Filter
  error : String
  noticeAccepted : List String
  requestNumber : Nat
  pending : Option Pending := none
  receipt : Option Receipt := none
deriving DecidableEq

def createWorkspace (tenant : Tenant) : Workspace where
  bank := createBank tenant
  page := .inquiry
  memberId := ""
  accountId := ""
  selectedId := ""
  fields := [("query", ""), ("role", "servicing")]
  query := ""
  filter := {}
  error := ""
  noticeAccepted := []
  requestNumber := 1

namespace Workspace

/-- The values of `accountOptions`: the member's deposits, or its loans. -/
def accountOptions (state : Workspace) (loans : Bool) : List String :=
  (state.bank.accounts.filter fun account =>
    account.memberId = state.memberId &&
      (if loans then account.kind = .autoLoan
        else account.kind ≠ .autoLoan)).map Account.id

/-- The selection that the inquiry page starts from. -/
def cleared (state : Workspace) : Workspace :=
  { state with
    memberId := ""
    accountId := ""
    selectedId := ""
    receipt := none
    filter := {} }

def enter (state : Workspace) (page : Page) : Workspace :=
  let state := if page = .inquiry then state.cleared else state
  let deposits := state.accountOptions false
  let selected :=
    if state.accountId ∈ deposits then state.accountId
    else deposits.head?.getD ""
  { state with
    page
    error := ""
    pending := none
    fields := [
      ("query", state.query), ("account", selected),
      ("fromAccount", selected),
      ("toAccount", (deposits.find? fun id => id ≠ selected).getD ""),
      ("loan", (state.accountOptions true).head?.getD ""),
      ("quoteDate", state.bank.businessDate), ("text", state.filter.text),
      ("startDate", state.filter.start), ("endDate", state.filter.stop),
      ("postingStatus", state.filter.status),
      ("category", "Transaction inquiry"), ("role", state.bank.role.text)] }

/-- `state.fields[key] ?? ""` -/
def value (state : Workspace) (key : String) : String :=
  (state.fields.get? key).getD ""

/-- A filter date that is empty or a calendar date. -/
def isFilterDate (date : String) : Bool :=
  date = "" || (dateGroups? date).any fun (year, month, day) =>
    isCalendarDate year month day

def navigate (state : Workspace) (id : String) :
    Except BankError Workspace := do
  match nav.lookup id with
  | none => return state
  | some page =>
      if page ∉ [.inquiry, .journal, .settings] ∧ state.memberId = "" then
        throw ⟨"member_required",
          "Select a member from Member inquiry first."⟩
      return state.enter page

def selectMember (state : Workspace) (id : String) : Workspace :=
  if state.bank.members.any fun member => member.id = id then
    { state with
      memberId := id
      accountId := id ++ "-01"
      selectedId := ""
      filter := {} }.enter .member
  else state

def applyFilter (state : Workspace) : Except BankError Workspace := do
  let start := state.value "startDate"
  let stop := state.value "endDate"
  requireRule (isFilterDate start && isFilterDate stop) "invalid_date"
    "Filter dates must be valid YYYY-MM-DD dates."
  requireRule (start = "" || stop = "" || start ≤ stop) "invalid_range"
    "Start date must not follow end date."
  return { state with
    accountId := state.value "account"
    filter := {
      text := state.value "text"
      start
      stop
      status := (state.fields.get? "postingStatus").getD "All" }
    error := "" }

def setRole (state : Workspace) : Workspace :=
  match [Role.inquiry, .servicing, .supervisor].find? fun role =>
      state.fields.get? "role" = some role.text with
  | none => state
  | some role =>
      { state with bank := { state.bank with role }, error := "", pending := none }

def cancel (state : Workspace) : Workspace :=
  match state.pending with
  | none => state.enter .member
  | some pending =>
      { state.enter pending.returnPage with fields := pending.returnFields }

def confirm (state : Workspace) (pending : Pending) :
    Except BankError Workspace := do
  let (bank, receipt) ← execute state.bank pending.command pending.key
    pending.revision
  return { state with
    bank
    page := .receipt
    receipt := some receipt
    pending := none
    error := "" }

/-- The command an action asks to review. -/
def command? (state : Workspace) (action : String) : Option Command :=
  if action = "review-transfer" then
    some (.transfer state.memberId (state.value "fromAccount")
      (state.value "toAccount") (state.value "amount") (state.value "memo"))
  else if action = "lock" ∨ action = "unlock" then
    some (.card state.memberId state.selectedId
      (if action = "lock" then .temporarilyLocked else .active)
      (state.value "reason"))
  else if action = "review-hold" then
    some (.hold state.memberId (state.value "account") (state.value "amount")
      (state.value "reason"))
  else if let some holdId := after? "release:" action then
    some (.release state.memberId holdId (state.value "reason"))
  else if action = "review-quote" then
    some (.quote state.memberId (state.value "loan") (state.value "quoteDate"))
  else if action = "review-case" then
    some (.openCase state.memberId (state.value "account")
      (state.value "category") (state.value "subject"))
  else if action = "resolve" then
    some (.resolve state.memberId state.selectedId (state.value "resolution"))
  else none

def requestKey (number : Nat) : String :=
  "request-" ++ padStart 8 number

/-- Validate a command on a detached state and keep it pending. -/
def review (state : Workspace) (command : Command) :
    Except BankError Workspace := do
  let member := state.bank.members.find? fun member =>
    member.id = state.memberId
  if member.any fun member =>
      member.notice ≠ "" && member.id ∉ state.noticeAccepted then
    throw ⟨"review_notice",
      "Open Relationship summary and acknowledge the member notice " ++
        "before servicing."⟩
  let key := requestKey state.requestNumber
  let (_, receipt) ← execute state.bank command key state.bank.revision
  return { state with
    page := .review
    pending := some {
      command
      key
      revision := state.bank.revision
      receipt
      returnPage := state.page
      returnFields := state.fields }
    requestNumber := state.requestNumber + 1
    error := "" }

/-- The actions up to those that name a command. -/
def tryAct (state : Workspace) (action : String) :
    Except BankError Workspace :=
  if let some id := after? "nav:" action then
    state.navigate id
  else if action = "search" then
    return { state with
      query := ((state.fields.get? "query").map trim).getD "", error := "" }
  else if let some id := after? "member:" action then
    return state.selectMember id
  else if action = "acknowledge" then
    return { state with
      noticeAccepted := state.noticeAccepted ++ [state.memberId] }
  else if let some id := after? "account:" action then
    return { state with accountId := id }.enter .transactions
  else if let some id := after? "transaction:" action then
    return { state with page := .transaction, selectedId := id, error := "" }
  else if let some id := after? "card:" action then
    return { state with
      page := .card, selectedId := id, fields := [("reason", "")], error := "" }
  else if let some id := after? "case:" action then
    return { state with
      page := .case, selectedId := id, fields := [("resolution", "")]
      error := "" }
  else if action = "apply-filter" then
    state.applyFilter
  else if action = "clear-filter" then
    return { state with filter := {} }.enter .transactions
  else if action = "set-role" then
    return state.setRole
  else if action = "cancel" then
    return state.cancel
  else
    match action, state.pending with
    | "confirm", some pending => state.confirm pending
    | _, _ =>
        match state.command? action with
        | none => return state
        | some command => state.review command

/-- A refused action shows its error. -/
def act (state : Workspace) (action : String) : Workspace :=
  match state.tryAct action with
  | .ok next => next
  | .error error =>
      { state with error := error.code ++ ": " ++ error.message }

/-- A keystroke in a field. -/
def edit (state : Workspace) (key text : String) : Workspace :=
  { state with fields := state.fields.set key text }

end Workspace

end ReplayForge.Servicing

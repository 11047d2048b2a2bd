import Mathlib.Data.List.Forall2
import ReplayForge.Shared.Json

/-!
# Exceptions

`SurfaceError` is the classified failure of a surface operation.  `Raised`
collects every exception the modelled code raises or lets through, with the
class tests its handlers use.
-/

namespace ReplayForge

/-- The content of a captured frame. -/
abbrev Bytes := List UInt8

structure SurfaceError where
  code : String
  safeMessage : String
  recoverable : Bool := false
  effectAbsent : Bool := false
  interventionRecommended : Bool := false
  expected : Option Fields := none
  observed : Option Fields := none
  failureFrame : Option Bytes := none
deriving DecidableEq

inductive Raised where
  | surface (error : SurfaceError)
  /-- `ContractValidationError`, a `ValueError`. -/
  | contract (path code : String)
  /-- `LeaseConflictError`, a `RuntimeError`. -/
  | leaseConflict
  /-- `LeaseExpiredError`, a `LeaseConflictError`. -/
  | leaseExpired
  /-- `LeaseNotFoundError`, a `KeyError`. -/
  | leaseNotFound
  /-- `InterventionConflictError`, a `RuntimeError`. -/
  | interventionConflict
  /-- `InterventionNotFoundError`, a `KeyError`. -/
  | interventionNotFound
  /-- `InterventionTransitionError`, a `ValueError`. -/
  | interventionTransition
  /-- `InterventionAuthorizationError`, a `ValueError`. -/
  | interventionAuthorization
  /-- `ResumeValidationError`, a `RuntimeError`. -/
  | resumeValidation (code message : String)
  /-- `ModelProviderError`, a `RuntimeError`. -/
  | modelProvider (code message : String)
  /-- `DiscoveryBlockedError`, a `RuntimeError`. -/
  | discoveryBlocked (code : String)
  /-- `CapabilityNotFoundError`, a `KeyError`. -/
  | capabilityNotFound
  /-- `CapabilityConflictError`, a `RuntimeError`. -/
  | capabilityConflict
  /-- `CapabilityIntegrityError`, a `ValueError`. -/
  | capabilityIntegrity (message : String)
  /-- `CapabilityPublicationError`, a `RuntimeError`. -/
  | capabilityPublication
  /-- `DiscoverySuiteError`, a `ValueError`. -/
  | discoverySuite (message : String)
  | value (message : String)
  | runtime (message : String)
  | os (message : String)
  | key (message : String)
  | assertion
  /-- The bound of a modelled loop ran out; no exception of the code. -/
  | unfinished
  /-- Any other exception, interpreter shutdown included. -/
  | other (message : String)
deriving DecidableEq

namespace Raised

/-- `isinstance(error, (OSError, RuntimeError, ValueError))` -/
def isOsRuntimeOrValue : Raised → Bool
  | .leaseNotFound | .interventionNotFound | .capabilityNotFound | .key _
  | .assertion | .unfinished | .other _ => false
  | _ => true

/-- `isinstance(error, ValueError)` -/
def isValueError : Raised → Bool
  | .contract _ _ | .interventionTransition | .interventionAuthorization
  | .capabilityIntegrity _ | .discoverySuite _ | .value _ => true
  | _ => false

/-- `except SurfaceError as error` -/
def surface? : Raised → Option SurfaceError
  | .surface error => some error
  | _ => none

/-- `except ContractValidationError as error`: the path and the code. -/
def contract? : Raised → Option (String × String)
  | .contract path code => some (path, code)
  | _ => none

end Raised

/-- `raise ValueError(message)` unless the check holds. -/
def require (check : Bool) (message : String) : Except Raised Unit :=
  if check then .ok () else .error (.value message)

@[simp]
theorem require_eq_ok {check : Bool} {message : String} :
    require check message = .ok () ↔ check = true := by
  cases check <;> simp [require]

theorem bind_eq_ok {ε α β : Type} {value : Except ε α}
    {next : α → Except ε β} {result : β} :
    (value >>= next) = .ok result ↔
      ∃ stored, value = .ok stored ∧ next stored = .ok result := by
  cases value with
  | ok stored => simp [bind, Except.bind]
  | error error => simp [bind, Except.bind]

theorem check_bind_eq_ok {ε β : Type} {check : Except ε Unit}
    {next : Unit → Except ε β} {result : β} :
    (check >>= next) = .ok result ↔
      check = .ok () ∧ next () = .ok result := by
  rw [bind_eq_ok]
  exact ⟨fun ⟨_, first, rest⟩ => ⟨first, rest⟩,
    fun ⟨first, rest⟩ => ⟨(), first, rest⟩⟩

/-- A view of a result that is shown is that of a result. -/
theorem exists_ok_of_map {α β : Type} {result : Except Raised α} {view : α → β}
    {shown : β} (evaluated : result.toOption.map view = some shown) :
    ∃ value, result = .ok value ∧ view value = shown := by
  obtain ⟨value, found, same⟩ := Option.map_eq_some_iff.mp evaluated
  cases result with
  | error reason => cases found
  | ok stored =>
      cases found
      exact ⟨value, rfl, same⟩

/-- A check of every item passes exactly when it passes on each. -/
theorem forM_eq_ok {α : Type} {items : List α}
    {check : α → Except Raised Unit} :
    items.forM check = .ok () ↔ ∀ item ∈ items, check item = .ok () := by
  rw [List.forM_eq_forM]
  induction items with
  | nil => simp [pure, Except.pure]
  | cons item rest ih =>
      rw [List.forM_cons, check_bind_eq_ok, List.forall_mem_cons, ih]

/-- Every item has its result. -/
theorem mapM_eq_ok {ε α β : Type} {f : α → Except ε β} {items : List α}
    {results : List β} : items.mapM f = .ok results ↔
      List.Forall₂ (fun item result => f item = .ok result) items results := by
  induction items generalizing results with
  | nil =>
      rw [List.mapM_nil]
      constructor
      · intro same
        cases same
        exact .nil
      · intro all
        cases all
        rfl
  | cons item rest ih =>
      rw [List.mapM_cons, bind_eq_ok]
      constructor
      · rintro ⟨result, first, later⟩
        obtain ⟨others, all, same⟩ := bind_eq_ok.mp later
        cases same
        exact .cons first (ih.mp all)
      · intro all
        cases all with
        | cons first later =>
            exact ⟨_, first, bind_eq_ok.mpr ⟨_, ih.mpr later, rfl⟩⟩

theorem exists_right {α β : Type} {relation : α → β → Prop} {items : List α}
    {results : List β} (all : List.Forall₂ relation items results) {item : α}
    (member : item ∈ items) : ∃ result ∈ results, relation item result := by
  induction all with
  | nil => cases member
  | cons first _ ih =>
      rcases List.mem_cons.mp member with rfl | later
      · exact ⟨_, List.mem_cons_self, first⟩
      · obtain ⟨result, inside, holds⟩ := ih later
        exact ⟨result, List.mem_cons_of_mem _ inside, holds⟩

theorem exists_left {α β : Type} {relation : α → β → Prop} {items : List α}
    {results : List β} (all : List.Forall₂ relation items results) {result : β}
    (member : result ∈ results) : ∃ item ∈ items, relation item result :=
  exists_right all.flip member

/-- Raise the error when the test holds. -/
def refuseIf (test : Bool) (error : Raised) : Except Raised Unit :=
  if test then .error error else .ok ()

/-- Every exception of a pure check lies in `raises`. -/
def Throws {α : Type} (raises : Raised → Prop) (value : Except Raised α) :
    Prop :=
  ∀ error, value = .error error → raises error

section Throws

variable {α β : Type} {raises : Raised → Prop}

theorem throws_pure {value : α} :
    Throws raises (pure value : Except Raised α) := by
  intro error impossible
  cases impossible

theorem throws_error {error : Raised} (allowed : raises error) :
    Throws raises (.error error : Except Raised α) := by
  intro other same
  cases same
  exact allowed

theorem throws_require {check : Bool} {message : String}
    (allowed : raises (.value message)) :
    Throws raises (require check message) := by
  intro error failed
  cases check with
  | true => cases failed
  | false =>
      cases failed
      exact allowed

theorem throws_refuseIf {test : Bool} {error : Raised}
    (allowed : raises error) : Throws raises (refuseIf test error) := by
  intro other failed
  cases test with
  | false => cases failed
  | true =>
      cases failed
      exact allowed

theorem throws_bind {value : Except Raised α} {next : α → Except Raised β}
    (first : Throws raises value) (rest : ∀ stored, Throws raises (next stored)) :
    Throws raises (value >>= next) := by
  intro error failed
  cases value with
  | ok stored => exact rest stored error failed
  | error other =>
      cases failed
      exact first _ rfl

theorem throws_ite {test : Prop} [Decidable test] {yes no : Except Raised α}
    (positive : Throws raises yes) (negative : Throws raises no) :
    Throws raises (if test then yes else no) := by
  by_cases holds : test
  · rw [if_pos holds]
    exact positive
  · rw [if_neg holds]
    exact negative

theorem throws_mapM {items : List α} {step : α → Except Raised β}
    (each : ∀ item ∈ items, Throws raises (step item)) :
    Throws raises (items.mapM step) := by
  induction items with
  | nil => exact throws_pure
  | cons item rest ih =>
      rw [List.mapM_cons]
      refine throws_bind (each item List.mem_cons_self) fun head => ?_
      refine throws_bind (ih fun other member =>
        each other (List.mem_cons_of_mem _ member)) fun tail => throws_pure

theorem throws_option_forM {item : Option α} {step : α → Except Raised PUnit}
    (each : ∀ value ∈ item, Throws raises (step value)) :
    Throws raises (item.forM step) := by
  cases item with
  | none => exact throws_pure
  | some value => exact each value rfl

end Throws

/-- An exception of none of the domain's own classes, as storage raises. -/
inductive Fault where
  | os (message : String)
  | runtime (message : String)
  | value (message : String)
  | other (message : String)
deriving DecidableEq

def Fault.raised : Fault → Raised
  | .os message => .os message
  | .runtime message => .runtime message
  | .value message => .value message
  | .other message => .other message

/-- What a surface operation raises: usually a surface error. -/
inductive SessionError where
  | surface (error : SurfaceError)
  | fault (reason : Fault)
deriving DecidableEq

def SessionError.raised : SessionError → Raised
  | .surface error => .surface error
  | .fault reason => reason.raised

end ReplayForge

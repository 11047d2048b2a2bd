import Mathlib.Data.List.Basic
import Mathlib.Order.Lattice
import Mathlib.Order.Nat

/-!
# Risks, classifications and decisions
-/

namespace ReplayForge

inductive Risk where
  | readOnly
  | reversible
  | sensitive
  | irreversible
deriving DecidableEq, Repr

namespace Risk

/-- Position in the enumeration order. -/
def rank : Risk → Nat
  | .readOnly => 0
  | .reversible => 1
  | .sensitive => 2
  | .irreversible => 3

theorem rank_injective : Function.Injective rank := by
  intro left right same
  cases left <;> cases right <;> first | rfl | cases same

/-- The enumeration order. -/
instance : LinearOrder Risk :=
  LinearOrder.lift' rank rank_injective

theorem le_iff_rank {left right : Risk} :
    left ≤ right ↔ left.rank ≤ right.rank := Iff.rfl

theorem readOnly_le (risk : Risk) : .readOnly ≤ risk :=
  Nat.zero_le _

theorem le_irreversible (risk : Risk) : risk ≤ .irreversible := by
  rw [le_iff_rank]
  cases risk <;> decide

/-- `max(left, right, key=RISK_RANK)`: the first argument wins a tie. -/
def max (left right : Risk) : Risk :=
  if left.rank < right.rank then right else left

/-- `min(left, right, key=RISK_RANK)`: the first argument wins a tie. -/
def min (left right : Risk) : Risk :=
  if right.rank < left.rank then right else left

theorem le_max_left {left right : Risk} : left ≤ left.max right := by
  unfold max
  split
  next below => exact Nat.le_of_lt below
  next => exact le_rfl

theorem le_max_right {left right : Risk} : right ≤ left.max right := by
  unfold max
  split
  next => exact le_rfl
  next above => exact Nat.le_of_not_lt above

theorem min_le_left {left right : Risk} : left.min right ≤ left := by
  unfold min
  split
  next below => exact Nat.le_of_lt below
  next => exact le_rfl

theorem min_le_right {left right : Risk} : left.min right ≤ right := by
  unfold min
  split
  next => exact le_rfl
  next above => exact Nat.le_of_not_lt above

theorem le_min {left right bound : Risk} (first : bound ≤ left)
    (second : bound ≤ right) : bound ≤ left.min right := by
  unfold min
  split
  · exact second
  · exact first

theorem le_foldl_min {bound first : Risk} {rest : List Risk} :
    bound ≤ rest.foldl Risk.min first ↔
      bound ≤ first ∧ ∀ other ∈ rest, bound ≤ other := by
  induction rest generalizing first with
  | nil => simp
  | cons other rest ih =>
      rw [List.foldl_cons, ih, List.forall_mem_cons, ← and_assoc]
      refine and_congr_left fun _ => ⟨fun below => ?_, fun both => ?_⟩
      · exact ⟨below.trans min_le_left, below.trans min_le_right⟩
      · exact le_min both.1 both.2

def value : Risk → String
  | .readOnly => "read_only"
  | .reversible => "reversible"
  | .sensitive => "sensitive"
  | .irreversible => "irreversible"

end Risk

inductive DataClassification where
  | publicData
  | operational
  | customerIdentifier
  | personal
  | financial
  | credential
  | secret
deriving DecidableEq, Repr

inductive Decision where
  | allow
  | deny
  | requireHumanApproval
deriving DecidableEq, Repr

namespace Decision

def value : Decision → String
  | .allow => "allow"
  | .deny => "deny"
  | .requireHumanApproval => "require_human_approval"

/-- How much a decision grants. -/
def rank : Decision → Nat
  | .deny => 0
  | .requireHumanApproval => 1
  | .allow => 2

theorem rank_injective : Function.Injective rank := by
  intro left right same
  cases left <;> cases right <;> first | rfl | cases same

instance : LinearOrder Decision :=
  LinearOrder.lift' rank rank_injective

theorem deny_le (decision : Decision) : .deny ≤ decision :=
  Nat.zero_le decision.rank

end Decision

end ReplayForge

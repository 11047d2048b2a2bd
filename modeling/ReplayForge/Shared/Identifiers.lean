import ReplayForge.Shared.Text
import ReplayForge.Surfaces.Errors

/-!
# Typed identifiers

An identifier is a three-letter kind prefix, an underscore and thirty-two
lower-case hexadecimal digits.
-/

namespace ReplayForge

inductive EntityKind where
  | execution
  | run
  | suite
  | session
  | intervention
  | evidence
  | decision
  | event
  | trace
deriving DecidableEq, Repr

def EntityKind.value : EntityKind → String
  | .execution => "exe"
  | .run => "run"
  | .suite => "sui"
  | .session => "ses"
  | .intervention => "int"
  | .evidence => "evd"
  | .decision => "dec"
  | .event => "evt"
  | .trace => "trc"

/-- `value` is an identifier of the given kind. -/
def isEntityId (kind : EntityKind) (value : String) : Bool :=
  Pattern.hexAfter (kind.value ++ "_") 32 value

/-- `parse_id` with an expected kind. -/
def parseId (value : String) (expectedKind : EntityKind) :
    Except Raised String :=
  if isEntityId expectedKind value then
    .ok value
  else
    .error (.value "expected another identifier")

theorem throws_parseId {raises : Raised → Prop} {value : String}
    {kind : EntityKind} (allowed : ∀ message, raises (.value message)) :
    Throws raises (parseId value kind) := by
  unfold parseId
  split
  · exact throws_pure
  · exact throws_error (allowed _)

/-- An identifier of a fixed kind, as `new_id` returns. -/
abbrev EntityId (kind : EntityKind) :=
  { value : String // isEntityId kind value = true }

end ReplayForge

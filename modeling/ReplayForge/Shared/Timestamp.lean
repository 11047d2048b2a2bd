import Mathlib.Algebra.Ring.Nat
import Mathlib.Data.Fin.Basic

/-!
# Timestamps

A date and time of day with the offset from UTC it was written with, if any.
Two timestamps of one instant with different offsets are different values.
-/

namespace ReplayForge

section Bounds

instance neZero_hours : NeZero 24 := ⟨by decide⟩

instance neZero_minutes : NeZero 60 := ⟨by decide⟩

instance neZero_microseconds : NeZero 1000000 := ⟨by decide⟩

instance neZero_years : NeZero 10000 := ⟨by decide⟩

instance neZero_months : NeZero 13 := ⟨by decide⟩

instance neZero_days : NeZero 32 := ⟨by decide⟩

end Bounds

/-- The distance from UTC, shorter than a day. -/
structure Offset where
  isNegative : Bool := false
  hours : Fin 24 := 0
  minutes : Fin 60 := 0
  seconds : Fin 60 := 0
  microseconds : Fin 1000000 := 0
  /-- There is no negative zero. -/
  signed : isNegative = true → hours ≠ 0 ∨ minutes ≠ 0 ∨ seconds ≠ 0 ∨
    microseconds ≠ 0 := by simp
deriving DecidableEq

abbrev Offset.utc : Offset := {}

structure Timestamp where
  year : Fin 10000
  month : Fin 13
  day : Fin 32
  hour : Fin 24 := 0
  minute : Fin 60 := 0
  second : Fin 60 := 0
  microsecond : Fin 1000000 := 0
  offset : Option Offset := some .utc
deriving DecidableEq

/-- `value.tzinfo is not None and value.utcoffset() is not None` -/
def Timestamp.hasOffset (value : Timestamp) : Bool :=
  value.offset.isSome

end ReplayForge

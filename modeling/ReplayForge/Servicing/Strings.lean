import Mathlib.Algebra.Ring.Int.Defs
import Mathlib.Algebra.Ring.Nat
import Mathlib.Data.List.Basic
import Mathlib.Logic.Function.Basic

/-!
# Strings of the demo bank

The string operations that the servicing ledger uses, with the meaning that
ECMAScript gives them.  A string is a sequence of characters here; lengths
count UTF-16 units.
-/

namespace ReplayForge.Servicing

/-- The characters `trim` removes. -/
def isTrimmed (char : Char) : Bool :=
  let code := char.toNat
  (9 ≤ code && code ≤ 13) || code = 0x20 || code = 0xA0 || code = 0x1680 ||
    (0x2000 ≤ code && code ≤ 0x200A) || code = 0x2028 || code = 0x2029 ||
    code = 0x202F || code = 0x205F || code = 0x3000 || code = 0xFEFF

def trim (text : String) : String :=
  String.ofList
    ((text.toList.dropWhile isTrimmed).reverse.dropWhile isTrimmed).reverse

/-- `text.length` -/
def lengthOf (text : String) : Nat :=
  (text.toList.map fun char => if char.toNat < 0x10000 then 1 else 2).sum

/-- `String(value).padStart(width, "0")` -/
def padStart (width value : Nat) : String :=
  String.ofList
    (List.replicate (width - value.repr.length) '0' ++ value.repr.toList)

/-- `text.startsWith(start)`, and what follows. -/
def after? (start text : String) : Option String :=
  if start.toList.isPrefixOf text.toList then
    some (String.ofList (text.toList.drop start.length))
  else none

def isDigit (char : Char) : Bool := '0' ≤ char && char ≤ '9'

/-- `Number(digits)` -/
def digitsValue (digits : List Char) : Nat :=
  Nat.ofDigitChars 10 digits 0

theorem digitsValue_padStart (width value : Nat) :
    digitsValue (padStart width value).toList = value := by
  rw [digitsValue, padStart, String.toList_ofList, Nat.ofDigitChars_append,
    Nat.ofDigitChars_replicate_zero, Nat.mul_zero, Nat.toList_repr]
  exact Nat.ofDigitChars_ten_toDigits

theorem padStart_injective (width : Nat) :
    Function.Injective (padStart width) := by
  intro first second same
  rw [← digitsValue_padStart width first, same, digitsValue_padStart]

/-! ## Calendar dates -/

/-- The groups of `^\d{4}-\d{2}-\d{2}$`. -/
def dateGroups? (text : String) : Option (Nat × Nat × Nat) :=
  match text.toList with
  | [y1, y2, y3, y4, '-', m1, m2, '-', d1, d2] =>
      if [y1, y2, y3, y4, m1, m2, d1, d2].all isDigit then
        some (digitsValue [y1, y2, y3, y4], digitsValue [m1, m2],
          digitsValue [d1, d2])
      else none
  | _ => none

def isLeapYear (year : Nat) : Bool :=
  year % 4 = 0 && (year % 100 ≠ 0 || year % 400 = 0)

def daysInMonth (year month : Nat) : Nat :=
  match month with
  | 2 => if isLeapYear year then 29 else 28
  | 4 | 6 | 9 | 11 => 30
  | _ => 31

def isCalendarDate (year month day : Nat) : Bool :=
  1 ≤ month && month ≤ 12 && 1 ≤ day && day ≤ daysInMonth year month

/-- The days before a date, counted from the first day of the year 0. -/
def dayNumber (year month day : Nat) : Nat :=
  let leapDays := (year + 3) / 4 - (year + 99) / 100 + (year + 399) / 400
  let months := ((List.range (month - 1)).map fun index =>
    daysInMonth year (index + 1)).sum
  365 * year + leapDays + months + (day - 1)

end ReplayForge.Servicing

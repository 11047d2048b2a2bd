import Mathlib.Data.List.Basic

/-!
# The text functions of the host language

The code calls a few standard-library functions whose full definition is a
Unicode table or a parser: case folding, URL splitting, regular-expression
matching and the date and decimal readers.  They are gathered in one record
and every result holds for any such record.
-/

namespace ReplayForge

/-- What `urlsplit` returns.  The outer option of `port` is empty when reading
the port raises. -/
structure UrlParts where
  scheme : String
  hostname : Option String
  username : Option String
  password : Option String
  path : String
  query : String
  fragment : String
  port : Option (Option Nat)

structure Host where
  casefold : String → String
  lower : String → String
  /-- Empty when splitting raises. -/
  urlsplit : String → Option UrlParts
  /-- `re.fullmatch(pattern, value)` finds a match. -/
  fullmatch : String → String → Bool
  /-- `re.compile(pattern)` succeeds. -/
  compiles : String → Bool
  /-- `Decimal(value)` succeeds and is finite. -/
  isFiniteDecimal : String → Bool
  /-- `date.fromisoformat(value)` succeeds. -/
  isIsoDate : String → Bool
  /-- `datetime.fromisoformat(value)` succeeds. -/
  isIsoDateTime : String → Bool
  /-- The parsed date-time carries an offset. -/
  hasOffset : String → Bool

/-- Text functions for concrete runs: one-case text, one bank. -/
def Sample.host : Host where
  casefold text := text
  lower text := text
  urlsplit _ := some {
    scheme := "https"
    hostname := some "bank"
    username := none
    password := none
    path := ""
    query := ""
    fragment := ""
    port := some none }
  fullmatch _ _ := true
  compiles _ := true
  isFiniteDecimal _ := true
  isIsoDate _ := true
  isIsoDateTime _ := true
  hasOffset _ := true

end ReplayForge

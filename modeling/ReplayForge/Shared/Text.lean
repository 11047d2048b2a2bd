import Mathlib.Data.List.DropRight

/-!
# Text

Whitespace stripping and the identifier patterns of the models.  A pattern is
read off its regular expression as a predicate on the characters.
-/

namespace ReplayForge

namespace Text

/-- The characters `str.strip` removes. -/
def isSpace (char : Char) : Bool :=
  let code := char.toNat
  (9 ≤ code && code ≤ 13) || (28 ≤ code && code ≤ 32) || code = 0x85 ||
    code = 0xA0 || code = 0x1680 || (0x2000 ≤ code && code ≤ 0x200A) ||
    code = 0x2028 || code = 0x2029 || code = 0x202F || code = 0x205F ||
    code = 0x3000

def strip (text : String) : String :=
  String.ofList
    ((text.toList.dropWhile isSpace).reverse.dropWhile isSpace).reverse

/-- Already stripped, as every string field of a validated model is. -/
def isStripped (text : String) : Bool :=
  strip text = text

def isBlank (text : String) : Bool :=
  text.toList.all isSpace

def hasPrefix (text start : String) : Bool :=
  start.toList.isPrefixOf text.toList

def containsText (text part : String) : Bool :=
  text.toList.tails.any part.toList.isPrefixOf

def splitOnChar (separator : Char) (text : String) : List String :=
  (text.toList.splitOn separator).map String.ofList

/-- A stripped string whose length lies between the bounds. -/
def isBounded (text : String) (minimum : Nat) (maximum : Option Nat) : Bool :=
  isStripped text && minimum ≤ text.length &&
    maximum.all fun bound => text.length ≤ bound

end Text

namespace Pattern

def lower (char : Char) : Bool := 'a' ≤ char && char ≤ 'z'

def digit (char : Char) : Bool := '0' ≤ char && char ≤ '9'

def hex (char : Char) : Bool := digit char || ('a' ≤ char && char ≤ 'f')

/-- `[a-z0-9_]` -/
def word (char : Char) : Bool := lower char || digit char || char = '_'

/-- `[a-z0-9_.-]` -/
def address (char : Char) : Bool := word char || char = '.' || char = '-'

/-- `[a-z0-9_-]` -/
def slug (char : Char) : Bool := word char || char = '-'

/-- `[a-z]` followed by between `minimum` and `maximum` characters of a
class. -/
def ident (tail : Char → Bool) (minimum : Nat) (maximum : Option Nat)
    (text : String) : Bool :=
  match text.toList with
  | [] => false
  | head :: rest =>
      lower head && rest.all tail && minimum ≤ rest.length &&
        maximum.all fun bound => rest.length ≤ bound

/-- `[a-z][a-z0-9_]{0,63}` -/
def fieldName : String → Bool := ident word 0 (some 63)

/-- `[a-z][a-z0-9_]{0,63}`, the codes of results and interventions. -/
def stableCode : String → Bool := ident word 0 (some 63)

/-- `[a-z][a-z0-9_.-]*` -/
def stableId : String → Bool := ident address 0 none

/-- `[a-z][a-z0-9_.-]+` -/
def stepId : String → Bool := ident address 1 none

/-- `[a-z][a-z0-9_]+` -/
def declaredCode : String → Bool := ident word 1 none

/-- `[a-z][a-z0-9_]{1,63}` -/
def family : String → Bool := ident word 1 (some 63)

/-- `[a-z][a-z0-9_-]{1,63}` -/
def tenant : String → Bool := ident slug 1 (some 63)

/-- `[a-z][a-z0-9_]*(\.[a-z][a-z0-9_]*)*` -/
def dottedPath (text : String) : Bool :=
  (Text.splitOnChar '.' text).all (ident word 0 none)

/-- `[a-z][a-z0-9_]*(\.[a-z][a-z0-9_]*)+` -/
def capabilityId (text : String) : Bool :=
  dottedPath text && 2 ≤ (Text.splitOnChar '.' text).length

/-- `0|[1-9][0-9]*` -/
def versionPart (text : String) : Bool :=
  match text.toList with
  | [] => false
  | ['0'] => true
  | head :: rest => digit head && head ≠ '0' && rest.all digit

/-- Three version parts separated by dots. -/
def semanticVersion (text : String) : Bool :=
  let parts := Text.splitOnChar '.' text
  parts.length = 3 && parts.all versionPart

/-- A fixed prefix followed by `count` lower-case hexadecimal digits. -/
def hexAfter (start : String) (count : Nat) (text : String) : Bool :=
  Text.hasPrefix text start &&
    (let payload := text.toList.drop start.toList.length
     payload.length = count && payload.all hex)

/-- `evidence://[^\s]+` -/
def evidenceKey (text : String) : Bool :=
  Text.hasPrefix text "evidence://" &&
    (let payload := text.toList.drop "evidence://".toList.length
     !payload.isEmpty && payload.all fun char => !Text.isSpace char)

end Pattern

/-- Stripping leaves no whitespace to strip. -/
theorem Text.isStripped_strip (text : String) :
    Text.isStripped (Text.strip text) := by
  unfold Text.isStripped Text.strip
  simp only [decide_eq_true_eq, String.toList_ofList, String.ofList_inj]
  generalize started : text.toList.dropWhile isSpace = front
  generalize ended : front.reverse.dropWhile isSpace = back
  have start : back.reverse.dropWhile isSpace = back.reverse := by
    cases first : back.reverse with
    | nil => rfl
    | cons head rest =>
        have part : back.reverse <+: front := by
          rw [← ended, ← List.reverse_reverse front, List.reverse_prefix,
            List.reverse_reverse]
          exact List.dropWhile_suffix _
        rw [first] at part
        have kept := List.head?_dropWhile_not isSpace text.toList
        obtain ⟨others, whole⟩ := part
        rw [started, ← whole] at kept
        have solid : isSpace head = false := by simpa using kept
        simp [solid]
  rw [start, List.reverse_reverse, ← ended, List.dropWhile_idempotent]

/-- A letter is no whitespace. -/
theorem Text.not_isSpace_of_lower {char : Char}
    (letter : Pattern.lower char = true) : Text.isSpace char = false := by
  unfold Pattern.lower at letter
  rw [Bool.and_eq_true, decide_eq_true_eq, decide_eq_true_eq] at letter
  obtain ⟨low, high⟩ := letter
  have low' : 97 ≤ char.toNat := low
  have high' : char.toNat ≤ 122 := high
  unfold Text.isSpace
  simp only [Bool.or_eq_false_iff, Bool.and_eq_false_iff,
    decide_eq_false_iff_not]
  omega

end ReplayForge

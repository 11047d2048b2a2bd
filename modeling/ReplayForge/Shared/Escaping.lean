import ReplayForge.Shared.Host
import Mathlib.Data.List.Infix

/-!
# Escaped and folded text

The JSON encoder writes quotes, backslashes and control characters of a string
as escapes.  Escaping and case folding both replace one character after the
other, and they commute: no other character folds to one that is escaped.
-/

namespace ReplayForge

namespace Text

/-- The characters the JSON encoder escapes. -/
def isEscaped (char : Char) : Bool :=
  char = '"' || char = '\\' || char.toNat < 32

/-- A lower-case hexadecimal digit. -/
def hexDigit (value : Nat) : Char :=
  Char.ofNat (if value < 10 then 48 + value else 87 + value)

/-- The escape of a character that is escaped. -/
def escapeSequence (char : Char) : List Char :=
  match char.toNat with
  | 8 => ['\\', 'b']
  | 9 => ['\\', 't']
  | 10 => ['\\', 'n']
  | 12 => ['\\', 'f']
  | 13 => ['\\', 'r']
  | 34 => ['\\', '"']
  | 92 => ['\\', '\\']
  | code => ['\\', 'u', '0', '0', hexDigit (code / 16), hexDigit (code % 16)]

def escapeChar (char : Char) : List Char :=
  if isEscaped char then escapeSequence char else [char]

/-- `json.dumps(text, ensure_ascii=False)[1:-1]` -/
def escape (text : String) : String :=
  String.ofList (text.toList.flatMap escapeChar)

end Text

/-- What the code relies on of `str.casefold`: a text is folded character by
character, an ASCII character to lower case, and no other character to one that
the encoder escapes. -/
structure Host.FoldsBy (host : Host) (fold : Char → List Char) : Prop where
  each : ∀ text, host.casefold text = String.ofList (text.toList.flatMap fold)
  ascii : ∀ char, char.toNat < 128 → fold char = [char.toLower]
  clean : ∀ char, 128 ≤ char.toNat → ∀ folded ∈ fold char,
    Text.isEscaped folded = false

namespace Text

theorem escapeChar_of_not {char : Char} (plain : isEscaped char = false) :
    escapeChar char = [char] := by
  simp [escapeChar, plain]

/-- An escaped character is one of the first 128. -/
theorem toNat_lt_of_isEscaped {char : Char} (escaped : isEscaped char = true) :
    char.toNat < 128 := by
  simp only [isEscaped, Bool.or_eq_true, decide_eq_true_eq] at escaped
  rcases escaped with (rfl | rfl) | control
  · decide
  · decide
  · omega

/-- What holds of the first 128 characters holds of every ASCII character. -/
theorem forall_ascii (property : Char → Prop)
    (each : ∀ code : Fin 128, property (Char.ofNat code)) {char : Char}
    (ascii : char.toNat < 128) : property char := by
  have here := each ⟨char.toNat, ascii⟩
  rwa [Char.ofNat_toNat] at here

/-- An ASCII character is escaped if and only if its lower case is. -/
theorem isEscaped_toLower {char : Char} (ascii : char.toNat < 128) :
    isEscaped char.toLower = isEscaped char :=
  forall_ascii (fun char => isEscaped char.toLower = isEscaped char)
    (by decide) ascii

/-- Lower case changes neither an escape nor what it stands for. -/
theorem toLower_escaped {char : Char} (escaped : isEscaped char = true) :
    char.toLower = char ∧
      ∀ shown ∈ escapeSequence char,
        shown.toNat < 128 ∧ shown.toLower = shown := by
  have claim : ∀ {char : Char}, char.toNat < 128 → isEscaped char = true →
      char.toLower = char ∧ (escapeSequence char).all (fun shown =>
        shown.toNat < 128 && shown.toLower == shown) = true :=
    fun ascii => forall_ascii (fun char =>
      isEscaped char = true → char.toLower = char ∧
        (escapeSequence char).all (fun shown =>
          shown.toNat < 128 && shown.toLower == shown) = true)
      (by decide) ascii
  obtain ⟨lower, each⟩ := claim (toNat_lt_of_isEscaped escaped) escaped
  refine ⟨lower, fun shown member => ?_⟩
  simpa using List.all_eq_true.mp each shown member

variable {host : Host} {fold : Char → List Char}

/-- Characters that fold to themselves. -/
theorem flatMap_fold_of_lower (folds : host.FoldsBy fold) {chars : List Char}
    (lower : ∀ char ∈ chars, char.toNat < 128 ∧ char.toLower = char) :
    chars.flatMap fold = chars := by
  induction chars with
  | nil => rfl
  | cons char rest ih =>
      obtain ⟨ascii, same⟩ := lower char List.mem_cons_self
      rw [List.flatMap_cons, folds.ascii char ascii, same,
        ih fun other member => lower other (List.mem_cons_of_mem _ member)]
      rfl

/-- Characters that need no escape. -/
theorem flatMap_escapeChar_of_not {chars : List Char}
    (plain : ∀ char ∈ chars, isEscaped char = false) :
    chars.flatMap escapeChar = chars := by
  induction chars with
  | nil => rfl
  | cons char rest ih =>
      rw [List.flatMap_cons, escapeChar_of_not (plain char List.mem_cons_self),
        ih fun other member => plain other (List.mem_cons_of_mem _ member)]
      rfl

/-- For one character, folding the escape is escaping the folded character. -/
theorem fold_escapeChar (folds : host.FoldsBy fold) (char : Char) :
    (escapeChar char).flatMap fold = (fold char).flatMap escapeChar := by
  cases escaped : isEscaped char with
  | true =>
      obtain ⟨same, lower⟩ := toLower_escaped escaped
      rw [folds.ascii char (toNat_lt_of_isEscaped escaped), same]
      simp only [escapeChar, escaped, if_true, List.flatMap_singleton]
      exact flatMap_fold_of_lower folds lower
  | false =>
      rw [escapeChar_of_not escaped, List.flatMap_singleton]
      refine (flatMap_escapeChar_of_not ?_).symm
      by_cases ascii : char.toNat < 128
      · intro folded member
        rw [folds.ascii char ascii, List.mem_singleton] at member
        rw [member, isEscaped_toLower ascii, escaped]
      · exact folds.clean char (Nat.le_of_not_lt ascii)

/-- Folding an escaped text is escaping the folded text. -/
theorem casefold_escape (folds : host.FoldsBy fold) (text : String) :
    host.casefold (escape text) = escape (host.casefold text) := by
  rw [folds.each, folds.each]
  simp only [escape, String.toList_ofList, List.flatMap_assoc]
  congr 2
  funext char
  exact fold_escapeChar folds char

/-- A part of a text is still a part of it once both are escaped. -/
theorem escape_infix {part whole : String}
    (within : part.toList <:+: whole.toList) :
    (escape part).toList <:+: (escape whole).toList := by
  simp only [escape, String.toList_ofList]
  exact within.flatMap escapeChar

/-- The encoded and folded forms keep the parts of a folded text. -/
theorem casefold_escape_infix (folds : host.FoldsBy fold)
    {part whole : String}
    (within : (host.casefold part).toList <:+:
      (host.casefold whole).toList) :
    (host.casefold (escape part)).toList <:+:
      (host.casefold (escape whole)).toList := by
  rw [casefold_escape folds, casefold_escape folds]
  exact escape_infix within

end Text

/-- Text functions that fold ASCII letters only. -/
def Sample.foldingHost : Host :=
  { Sample.host with
    casefold := fun text => String.ofList (text.toList.map Char.toLower) }

namespace Sample

theorem toLower_of_not_ascii {char : Char} (high : 128 ≤ char.toNat) :
    char.toLower = char := by
  unfold Char.toLower
  split
  next upper =>
    have low : char.toNat ≤ 90 := upper.2
    omega
  next => rfl

theorem foldingHost_folds :
    foldingHost.FoldsBy fun char => [char.toLower] where
  each text := by
    simp only [foldingHost]
    rw [← List.map_eq_flatMap]
  ascii char _ := rfl
  clean char high folded member := by
    rw [List.mem_singleton, toLower_of_not_ascii high] at member
    subst member
    cases escaped : Text.isEscaped folded with
    | false => rfl
    | true =>
        have low := Text.toNat_lt_of_isEscaped escaped
        omega

end Sample

end ReplayForge

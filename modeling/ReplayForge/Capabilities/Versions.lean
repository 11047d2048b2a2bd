import Mathlib.Data.Prod.Lex
import ReplayForge.Shared.Text
import ReplayForge.Surfaces.Errors

/-!
# Semantic versions

Versions are compared as numbers.  The host language refuses to convert an
integer of very many digits from or to text, so that not every version text
that fits the pattern can be compared.
-/

namespace ReplayForge

/-- `tuple[int, int, int]`, compared in order -/
abbrev SemanticVersion := Nat ×ₗ Nat ×ₗ Nat

/-- `sys.get_int_max_str_digits()` -/
def maxStrDigits : Nat := 4300

/-- `int(text)` on the texts of a version -/
def parseInt (text : String) : Except Raised Nat :=
  if text.isEmpty || !text.toList.all Pattern.digit then
    .error (.value "invalid literal for int()")
  else if maxStrDigits < text.length then
    .error (.value "Exceeds the limit for integer string conversion")
  else
    .ok (Nat.ofDigitChars 10 text.toList 0)

/-- `str(value)` -/
def showInt (value : Nat) : Except Raised String :=
  if maxStrDigits < value.repr.length then
    .error (.value "Exceeds the limit for integer string conversion")
  else
    .ok value.repr

/-- `_semantic_version` -/
def semanticVersion (value : String) : Except Raised SemanticVersion :=
  match Text.splitOnChar '.' value with
  | [major, minor, patch] => do
      let major ← parseInt major
      let minor ← parseInt minor
      let patch ← parseInt patch
      return toLex (major, toLex (minor, patch))
  | _ => .error (.value "wrong number of values to unpack")

namespace SemanticVersion

/-- The version after another one. -/
def nextPatch (version : SemanticVersion) : SemanticVersion :=
  let (major, rest) := ofLex version
  let (minor, patch) := ofLex rest
  toLex (major, toLex (minor, patch + 1))

/-- `".".join(str(part) for part in version)` -/
def text (version : SemanticVersion) : Except Raised String := do
  let (major, rest) := ofLex version
  let (minor, patch) := ofLex rest
  let major ← showInt major
  let minor ← showInt minor
  let patch ← showInt patch
  return String.ofList
    (['.'].intercalate [major.toList, minor.toList, patch.toList])

theorem lt_nextPatch (version : SemanticVersion) :
    version < version.nextPatch := by
  obtain ⟨major, minor, patch⟩ := version
  exact Prod.Lex.right _ (Prod.Lex.right _ (Nat.lt_succ_self _))

end SemanticVersion

section Digits

theorem exists_digitChar {char : Char} (digit : Pattern.digit char = true) :
    ∃ value < 10, char = value.digitChar := by
  have bounds : 48 ≤ char.toNat ∧ char.toNat ≤ 57 := by
    simpa [Pattern.digit, Char.le_def, UInt32.le_iff_toNat_le] using digit
  refine ⟨char.toNat - 48, by omega, ?_⟩
  apply Char.toNat_inj.mp
  rw [Nat.toNat_digitChar_of_lt_ten (by omega)]
  omega

theorem digit_of_isDigit {char : Char} (digit : char.isDigit = true) :
    Pattern.digit char = true := by
  simpa [Pattern.digit, Char.isDigit, Char.le_def] using digit

/-- A text of digits with no leading zero is the text of its number. -/
theorem toDigits_ofDigitChars {chars : List Char}
    (digits : ∀ char ∈ chars, Pattern.digit char = true)
    (nonzero : chars.head? ≠ some '0') (filled : chars ≠ []) :
    0 < Nat.ofDigitChars 10 chars 0 ∧
      Nat.toDigits 10 (Nat.ofDigitChars 10 chars 0) = chars := by
  induction chars using List.reverseRecOn with
  | nil => exact absurd rfl filled
  | append_singleton front last ih =>
      obtain ⟨value, small, rfl⟩ := exists_digitChar (digits last (by simp))
      rw [Nat.ofDigitChars_append,
        Nat.ofDigitChars_cons_digitChar_of_lt_ten small, Nat.ofDigitChars_nil]
      by_cases empty : front = []
      · subst empty
        have positive : value ≠ 0 := by simpa using nonzero
        rw [Nat.ofDigitChars_nil, Nat.mul_zero, Nat.zero_add,
          Nat.toDigits_of_lt_base small]
        exact ⟨Nat.pos_of_ne_zero positive, rfl⟩
      · have head : front.head? ≠ some '0' := by
          rwa [List.head?_append_of_ne_nil _ empty] at nonzero
        obtain ⟨positive, back⟩ := ih
          (fun char member => digits char (List.mem_append_left _ member))
          head empty
        rw [← Nat.toDigits_append_toDigits (by decide) positive small, back,
          Nat.toDigits_of_lt_base small]
        exact ⟨by omega, rfl⟩

/-- A part of a version is the text of its number. -/
theorem repr_of_versionPart {part : String}
    (fits : Pattern.versionPart part = true) :
    (Nat.ofDigitChars 10 part.toList 0).repr = part := by
  apply String.toList_inj.mp
  rw [Nat.toList_repr]
  unfold Pattern.versionPart at fits
  split at fits
  next => cases fits
  next zero => rw [zero]; decide
  next head rest shape =>
    simp only [Bool.and_eq_true, decide_eq_true_eq, List.all_eq_true] at fits
    obtain ⟨⟨first, nonzero⟩, others⟩ := fits
    rw [shape]
    refine (toDigits_ofDigitChars ?_ (by simpa using nonzero) (by simp)).2
    intro char member
    rcases List.mem_cons.mp member with rfl | later
    · exact first
    · exact others char later

theorem digits_of_versionPart {part : String}
    (fits : Pattern.versionPart part = true) :
    part.toList ≠ [] ∧ ∀ char ∈ part.toList, Pattern.digit char = true := by
  have back := congrArg String.toList (repr_of_versionPart fits)
  rw [Nat.toList_repr] at back
  rw [← back]
  refine ⟨Nat.toDigits_ne_nil, fun char member => ?_⟩
  exact digit_of_isDigit (Nat.isDigit_of_mem_toDigits (by decide)
    (by decide) member)

end Digits

/-- No part of the version has more digits than can be converted. -/
def isConvertible (version : String) : Bool :=
  (Text.splitOnChar '.' version).all (·.length ≤ maxStrDigits)

theorem parseInt_of_versionPart {part : String}
    (fits : Pattern.versionPart part = true) :
    parseInt part =
      if maxStrDigits < part.length then
        .error (.value "Exceeds the limit for integer string conversion")
      else
        .ok (Nat.ofDigitChars 10 part.toList 0) := by
  obtain ⟨filled, digits⟩ := digits_of_versionPart fits
  have nonempty : part.isEmpty = false := by
    rw [Bool.eq_false_iff]
    intro empty
    exact filled (by simpa using empty)
  have all : part.toList.all Pattern.digit = true := List.all_eq_true.mpr digits
  simp [parseInt, nonempty, all]

/-- The three parts of a version that fits the pattern. -/
theorem parts_of_semanticVersion {version : String}
    (fits : Pattern.semanticVersion version = true) :
    ∃ major minor patch, Text.splitOnChar '.' version = [major, minor, patch] ∧
      Pattern.versionPart major = true ∧ Pattern.versionPart minor = true ∧
      Pattern.versionPart patch = true := by
  simp only [Pattern.semanticVersion, Bool.and_eq_true, decide_eq_true_eq,
    List.all_eq_true] at fits
  obtain ⟨count, all⟩ := fits
  obtain ⟨major, minor, patch, parts⟩ := List.length_eq_three.mp count
  rw [parts] at all
  exact ⟨major, minor, patch, parts, all _ (by simp), all _ (by simp),
    all _ (by simp)⟩

theorem join_parts {version major minor patch : String}
    (parts : Text.splitOnChar '.' version = [major, minor, patch]) :
    String.ofList (['.'].intercalate
      [major.toList, minor.toList, patch.toList]) = version := by
  apply String.toList_inj.mp
  rw [String.toList_ofList]
  have lists := congrArg (List.map String.toList) parts
  simp only [Text.splitOnChar, List.map_map, Function.comp_def,
    String.toList_ofList, List.map_id'] at lists
  have joined : ['.'].intercalate (version.toList.splitOn '.') =
      version.toList := List.intercalate_splitOn '.'
  rw [← joined, lists]
  rfl

/-- The number of a convertible version, which is written back as it was. -/
theorem semanticVersion_convertible {version : String}
    (fits : Pattern.semanticVersion version = true)
    (convertible : isConvertible version = true) :
    ∃ number : SemanticVersion, semanticVersion version = .ok number ∧
      number.text = .ok version := by
  obtain ⟨major, minor, patch, parts, first, second, third⟩ :=
    parts_of_semanticVersion fits
  simp only [isConvertible, parts, List.all_cons, List.all_nil, Bool.and_true,
    Bool.and_eq_true, decide_eq_true_eq, ← Nat.not_lt] at convertible
  obtain ⟨short, short', short''⟩ := convertible
  refine ⟨toLex (Nat.ofDigitChars 10 major.toList 0,
    toLex (Nat.ofDigitChars 10 minor.toList 0,
      Nat.ofDigitChars 10 patch.toList 0)), ?_, ?_⟩
  · simp only [semanticVersion, parts, parseInt_of_versionPart first,
      parseInt_of_versionPart second, parseInt_of_versionPart third, if_neg,
      short, short', short'', not_false_eq_true]
    rfl
  · simp only [SemanticVersion.text, ofLex_toLex, showInt,
      repr_of_versionPart first, repr_of_versionPart second,
      repr_of_versionPart third, if_neg, short, short', short'',
      not_false_eq_true]
    exact congrArg Except.ok (join_parts parts)

theorem semanticVersion_inconvertible {version : String}
    (fits : Pattern.semanticVersion version = true)
    (long : isConvertible version = false) :
    ∃ message, semanticVersion version = .error (.value message) := by
  obtain ⟨major, minor, patch, parts, first, second, third⟩ :=
    parts_of_semanticVersion fits
  simp only [semanticVersion, parts, parseInt_of_versionPart first,
    parseInt_of_versionPart second, parseInt_of_versionPart third]
  by_cases long₁ : maxStrDigits < major.length
  · rw [if_pos long₁]
    exact ⟨_, rfl⟩
  rw [if_neg long₁]
  by_cases long₂ : maxStrDigits < minor.length
  · rw [if_pos long₂]
    exact ⟨_, rfl⟩
  rw [if_neg long₂]
  by_cases long₃ : maxStrDigits < patch.length
  · rw [if_pos long₃]
    exact ⟨_, rfl⟩
  · simp [isConvertible, parts] at long
    omega

theorem semanticVersion_unique {version other : String}
    {number : SemanticVersion}
    (fits : Pattern.semanticVersion version = true)
    (fits' : Pattern.semanticVersion other = true)
    (reads : semanticVersion version = .ok number)
    (reads' : semanticVersion other = .ok number) : version = other := by
  have back {version : String} (fits : Pattern.semanticVersion version = true)
      (reads : semanticVersion version = .ok number) :
      number.text = .ok version := by
    by_cases convertible : isConvertible version = true
    · obtain ⟨found, reads', text⟩ :=
        semanticVersion_convertible fits convertible
      rw [reads, Except.ok.injEq] at reads'
      rw [reads', text]
    · obtain ⟨message, fails⟩ :=
        semanticVersion_inconvertible fits (by simpa using convertible)
      rw [reads] at fails
      cases fails
  have same := (back fits reads).symm.trans (back fits' reads')
  rwa [Except.ok.injEq] at same

theorem versionPart_repr (value : Nat) :
    Pattern.versionPart value.repr = true := by
  have digits : ∀ char ∈ Nat.toDigits 10 value,
      Pattern.digit char = true := fun char member =>
    digit_of_isDigit (Nat.isDigit_of_mem_toDigits (by decide) (by decide)
      member)
  have start (positive : 0 < value) :
      (Nat.toDigits 10 value).head? ≠ some '0' := by
    induction value using Nat.strongRecOn with
    | ind value ih =>
        by_cases small : value < 10
        · rw [Nat.toDigits_of_lt_base small]
          simpa using Nat.ne_of_gt positive
        · rw [Nat.toDigits_of_base_le (by decide) (by omega),
            List.head?_append_of_ne_nil _ Nat.toDigits_ne_nil]
          exact ih (value / 10) (by omega)
            (fun char member => digit_of_isDigit
              (Nat.isDigit_of_mem_toDigits (by decide) (by decide) member))
            (by omega)
  unfold Pattern.versionPart
  rw [Nat.toList_repr]
  rcases Nat.eq_zero_or_pos value with rfl | positive
  · decide
  · have first := start positive
    cases shape : Nat.toDigits 10 value with
    | nil => exact absurd shape Nat.toDigits_ne_nil
    | cons head rest =>
        rw [shape] at first digits
        have nonzero : head ≠ '0' := by simpa using first
        have all : rest.all Pattern.digit = true :=
          List.all_eq_true.mpr fun char member =>
            digits char (List.mem_cons_of_mem _ member)
        split
        next impossible => cases impossible
        next => rfl
        next equal =>
          cases equal
          simp [digits head List.mem_cons_self, nonzero, all]

theorem showInt_eq_ok {value : Nat} {text : String} :
    showInt value = .ok text ↔
      value.repr.length ≤ maxStrDigits ∧ value.repr = text := by
  unfold showInt
  split
  next long => simp [Nat.not_le.mpr long]
  next short => simp [Nat.not_lt.mp short]

theorem parseInt_repr {value : Nat}
    (short : value.repr.length ≤ maxStrDigits) :
    parseInt value.repr = .ok value := by
  rw [parseInt_of_versionPart (versionPart_repr value),
    if_neg (Nat.not_lt.mpr short), Nat.toList_repr,
    Nat.ofDigitChars_ten_toDigits]

theorem splitOnChar_join {first second third : List Char}
    (clean : ∀ part ∈ [first, second, third], '.' ∉ part) :
    Text.splitOnChar '.'
        (String.ofList (['.'].intercalate [first, second, third])) =
      [String.ofList first, String.ofList second, String.ofList third] := by
  rw [Text.splitOnChar, String.toList_ofList,
    List.splitOn_intercalate '.' clean (by simp)]
  rfl

theorem dot_not_mem_repr (value : Nat) : '.' ∉ value.repr.toList := by
  intro member
  rw [Nat.toList_repr] at member
  have digit := Nat.isDigit_of_mem_toDigits (by decide) (by decide) member
  simp [Char.isDigit] at digit

/-- What is written for a version number is a version that reads as it. -/
theorem semanticVersion_text {number : SemanticVersion} {version : String}
    (written : number.text = .ok version) :
    Pattern.semanticVersion version = true ∧
      isConvertible version = true ∧ semanticVersion version = .ok number := by
  obtain ⟨major, minor, patch⟩ := number
  change (do
    let major ← showInt major
    let minor ← showInt minor
    let patch ← showInt patch
    return String.ofList
      (['.'].intercalate [major.toList, minor.toList, patch.toList])) =
        Except.ok version at written
  obtain ⟨_, first, written⟩ := bind_eq_ok.mp written
  obtain ⟨_, second, written⟩ := bind_eq_ok.mp written
  obtain ⟨_, third, written⟩ := bind_eq_ok.mp written
  obtain ⟨short₁, rfl⟩ := showInt_eq_ok.mp first
  obtain ⟨short₂, rfl⟩ := showInt_eq_ok.mp second
  obtain ⟨short₃, rfl⟩ := showInt_eq_ok.mp third
  cases written
  have parts := @splitOnChar_join major.repr.toList minor.repr.toList
    patch.repr.toList (by
      simp only [List.mem_cons, List.not_mem_nil, or_false, forall_eq_or_imp,
        forall_eq]
      exact ⟨dot_not_mem_repr _, dot_not_mem_repr _, dot_not_mem_repr _⟩)
  simp only [String.ofList_toList] at parts
  refine ⟨?_, ?_, ?_⟩
  · simp only [Pattern.semanticVersion, parts, List.all_cons, List.all_nil,
      versionPart_repr]
    rfl
  · simp only [isConvertible, parts, List.all_cons, List.all_nil, short₁,
      short₂, short₃]
    rfl
  · simp only [semanticVersion, parts, parseInt_repr short₁,
      parseInt_repr short₂, parseInt_repr short₃]
    rfl

theorem not_isSpace_of_digit {char : Char}
    (digit : Pattern.digit char = true) : Text.isSpace char = false := by
  obtain ⟨value, small, rfl⟩ := exists_digitChar digit
  have code := Nat.toNat_digitChar_of_lt_ten small
  simp only [Text.isSpace, code, Bool.or_eq_false_iff, Bool.and_eq_false_iff,
    decide_eq_false_iff_not]
  omega

/-- A text without whitespace is stripped. -/
theorem isStripped_of_solid {text : String}
    (solid : ∀ char ∈ text.toList, Text.isSpace char = false) :
    Text.isStripped text = true := by
  have kept {chars : List Char}
      (solid : ∀ char ∈ chars, Text.isSpace char = false) :
      chars.dropWhile Text.isSpace = chars := by
    cases chars with
    | nil => rfl
    | cons head rest => simp [solid head List.mem_cons_self]
  have back : ∀ char ∈ text.toList.reverse, Text.isSpace char = false :=
    fun char member => solid char (List.mem_reverse.mp member)
  simp [Text.isStripped, Text.strip, kept solid, kept back]

/-- A version that fits the pattern has no whitespace around it. -/
theorem isStripped_of_semanticVersion {version : String}
    (fits : Pattern.semanticVersion version = true) :
    Text.isStripped version = true := by
  apply isStripped_of_solid
  obtain ⟨major, minor, patch, parts, first, second, third⟩ :=
    parts_of_semanticVersion fits
  rw [← join_parts parts, String.toList_ofList]
  intro char member
  have dot : Text.isSpace '.' = false := by decide
  have part {text : String} (fits : Pattern.versionPart text = true)
      (member : char ∈ text.toList) : Text.isSpace char = false :=
    not_isSpace_of_digit ((digits_of_versionPart fits).2 char member)
  simp only [List.intercalate_cons_cons, List.intercalate_singleton,
    List.mem_append, List.mem_singleton] at member
  rcases member with ((member | rfl) | ((member | rfl) | member))
  · exact part first member
  · exact dot
  · exact part second member
  · exact dot
  · exact part third member

end ReplayForge

import ReplayForge.Capabilities.Contracts
import ReplayForge.Data.DictOrder
import Mathlib.Data.List.Dedup

/-!
# What the value validator accepts

`Conforms` says what a contract asks of a value.  `Rejects` names the place
and the reason of the first check that a value fails, in the order of the
validator.  A report is built from the place and the reason alone.
-/

namespace ReplayForge

/-- Why a value is rejected. -/
inductive Reason where
  | missingRequired (names : List String)
  | unknownProperties
  | expected (type : JsonValueType)
  | tooShort
  | tooLong
  | patternMismatch
  | invalidDecimal
  | invalidDate
  | invalidDatetime
  | datetimeRequiresTimezone
  | notInEnum
  | constMismatch
deriving DecidableEq

namespace Reason

def code : Reason → String
  | .missingRequired names => "missing_required:" ++ ",".intercalate names
  | .unknownProperties => "unknown_properties"
  | .expected .string => "expected_string"
  | .expected .integer => "expected_integer"
  | .expected .boolean => "expected_boolean"
  | .expected .object => "expected_object"
  | .tooShort => "too_short"
  | .tooLong => "too_long"
  | .patternMismatch => "pattern_mismatch"
  | .invalidDecimal => "invalid_decimal"
  | .invalidDate => "invalid_date"
  | .invalidDatetime => "invalid_datetime"
  | .datetimeRequiresTimezone => "datetime_requires_timezone"
  | .notInEnum => "not_in_enum"
  | .constMismatch => "const_mismatch"

/-- The property names that the code shows. -/
def names : Reason → List String
  | .missingRequired names => names
  | _ => []

/-- The error for a reason at a place below `path`. -/
def report (reason : Reason) (path : String) (parts : List String) : Raised :=
  .contract (parts.foldl propertyPath path) reason.code

end Reason

/-! ## Conforming values -/

def FormatFits (host : Host) (text : String) : ValueFormat → Prop
  | .decimal => host.isFiniteDecimal text = true
  | .date => host.isIsoDate text = true
  | .dateTime =>
      host.isIsoDateTime (expandOffset text) = true ∧
        host.hasOffset (expandOffset text) = true

structure LengthFits (schema : ValueSchema) (text : String) : Prop where
  long : ∀ low, schema.minLength = some low → low ≤ text.length
  short : ∀ high, schema.maxLength = some high → text.length ≤ high

structure PatternFits (host : Host) (schema : ValueSchema) (text : String) :
    Prop extends LengthFits schema text where
  matched : ∀ pattern, schema.pattern = some pattern →
    host.fullmatch pattern text = true

structure StringFits (host : Host) (schema : ValueSchema) (text : String) :
    Prop extends PatternFits host schema text where
  formatted : ∀ format, schema.format = some format → FormatFits host text format

structure ChoiceFits (schema : ValueSchema) (value : Json) : Prop where
  listed : schema.enum ≠ [] → value ∈ schema.enum.map Scalar.json
  constant : ∀ const, schema.const = some const → value = const.json

structure KeysFit (contract : ObjectContract) (fields : Fields) : Prop where
  required : ∀ name ∈ contract.required, name ∈ fields.keys
  declared : ∀ key ∈ fields.keys, key ∈ contract.properties.keys

mutual

/-- A value of the declared type within its constraints, at every depth. -/
inductive Conforms (host : Host) : ValueSchema → Json → Prop where
  | intro {schema : ValueSchema} {value : Json} :
      Shaped host schema value → ChoiceFits schema value →
      Conforms host schema value

/-- The type, the string constraints and the members, but not the choice. -/
inductive Shaped (host : Host) : ValueSchema → Json → Prop where
  | string {schema : ValueSchema} {text : String} :
      schema.type = .string → StringFits host schema text →
      Shaped host schema (.str text)
  | integer {schema : ValueSchema} {number : Int} :
      schema.type = .integer → Shaped host schema (.int number)
  | boolean {schema : ValueSchema} {flag : Bool} :
      schema.type = .boolean → Shaped host schema (.bool flag)
  | object {schema : ValueSchema} {fields : List (String × Json)} :
      schema.type = .object → KeysFit schema.contract fields →
      (∀ key item inner, (key, item) ∈ fields →
        schema.contract.properties.get? key = some inner →
        Conforms host inner item) →
      Shaped host schema (.obj fields)

end

/-- Every field conforms to the schema declared for it. -/
def MembersConform (host : Host) (contract : ObjectContract)
    (fields : List (String × Json)) : Prop :=
  ∀ key item inner, (key, item) ∈ fields →
    contract.properties.get? key = some inner → Conforms host inner item

structure ObjectConforms (host : Host) (contract : ObjectContract)
    (fields : Fields) : Prop extends KeysFit contract fields where
  members : MembersConform host contract fields

/-! ## The first failing check -/

def HasType : JsonValueType → Json → Prop
  | .string, .str _ | .integer, .int _ | .boolean, .bool _
  | .object, .obj _ => True
  | _, _ => False

inductive StringRejects (host : Host) (schema : ValueSchema) (text : String) :
    Reason → Prop where
  | tooShort {low : Nat} :
      schema.minLength = some low → text.length < low →
      StringRejects host schema text .tooShort
  | tooLong {high : Nat} :
      (∀ low, schema.minLength = some low → low ≤ text.length) →
      schema.maxLength = some high → high < text.length →
      StringRejects host schema text .tooLong
  | pattern {pattern : String} :
      LengthFits schema text → schema.pattern = some pattern →
      host.fullmatch pattern text = false →
      StringRejects host schema text .patternMismatch
  | decimal :
      PatternFits host schema text →
      schema.format = some .decimal → host.isFiniteDecimal text = false →
      StringRejects host schema text .invalidDecimal
  | date :
      PatternFits host schema text →
      schema.format = some .date → host.isIsoDate text = false →
      StringRejects host schema text .invalidDate
  | datetime :
      PatternFits host schema text →
      schema.format = some .dateTime →
      host.isIsoDateTime (expandOffset text) = false →
      StringRejects host schema text .invalidDatetime
  | timezone :
      PatternFits host schema text →
      schema.format = some .dateTime →
      host.isIsoDateTime (expandOffset text) = true →
      host.hasOffset (expandOffset text) = false →
      StringRejects host schema text .datetimeRequiresTimezone

inductive ChoiceRejects (schema : ValueSchema) (value : Json) :
    Reason → Prop where
  | notInEnum :
      schema.enum ≠ [] → value ∉ schema.enum.map Scalar.json →
      ChoiceRejects schema value .notInEnum
  | constMismatch {const : Scalar} :
      (schema.enum ≠ [] → value ∈ schema.enum.map Scalar.json) →
      schema.const = some const → value ≠ const.json →
      ChoiceRejects schema value .constMismatch

/-- The required properties that a value lacks. -/
def missingNames (contract : ObjectContract) (fields : Fields) : List String :=
  sortedSet (contract.required.filter (· ∉ fields.keys))

mutual

inductive ObjectRejects (host : Host) :
    ObjectContract → List (String × Json) → List String → Reason → Prop where
  | missing {contract : ObjectContract} {fields : List (String × Json)} :
      missingNames contract fields ≠ [] →
      ObjectRejects host contract fields []
        (.missingRequired (missingNames contract fields))
  | unknown {contract : ObjectContract} {fields : List (String × Json)}
      {key : String} :
      (∀ name ∈ contract.required, name ∈ Dict.keys fields) →
      key ∈ Dict.keys fields → key ∉ contract.properties.keys →
      ObjectRejects host contract fields [] .unknownProperties
  /-- The first member that does not conform, in the order of the value. -/
  | member {contract : ObjectContract} {before after : List (String × Json)}
      {key : String} {item : Json} {inner : ValueSchema}
      {parts : List String} {reason : Reason} :
      KeysFit contract (before ++ (key, item) :: after) →
      MembersConform host contract before →
      contract.properties.get? key = some inner →
      ValueRejects host inner item parts reason →
      ObjectRejects host contract (before ++ (key, item) :: after)
        (key :: parts) reason

inductive ValueRejects (host : Host) :
    ValueSchema → Json → List String → Reason → Prop where
  | expected {schema : ValueSchema} {value : Json} :
      ¬ HasType schema.type value →
      ValueRejects host schema value [] (.expected schema.type)
  | string {schema : ValueSchema} {text : String} {reason : Reason} :
      schema.type = .string → StringRejects host schema text reason →
      ValueRejects host schema (.str text) [] reason
  | object {schema : ValueSchema} {fields : List (String × Json)}
      {parts : List String} {reason : Reason} :
      schema.type = .object →
      ObjectRejects host schema.contract fields parts reason →
      ValueRejects host schema (.obj fields) parts reason
  | choice {schema : ValueSchema} {value : Json} {reason : Reason} :
      Shaped host schema value → ChoiceRejects schema value reason →
      ValueRejects host schema value [] reason

end

/-! ## The validator on conforming values -/

theorem missingNames_eq_nil {contract : ObjectContract} {fields : Fields} :
    missingNames contract fields = [] ↔
      ∀ name ∈ contract.required, name ∈ fields.keys := by
  constructor
  · intro none name required
    by_contra absent
    have listed : name ∈ missingNames contract fields := by
      rw [missingNames, mem_sortedSet]
      simp [required, absent]
    simp [none] at listed
  · intro present
    apply List.eq_nil_iff_forall_not_mem.mpr
    intro name listed
    rw [missingNames, mem_sortedSet] at listed
    simp only [List.mem_filter, decide_eq_true_eq] at listed
    exact listed.2 (present name listed.1)

theorem KeysFit.accepted {contract : ObjectContract} {fields : Fields}
    (fits : KeysFit contract fields) (path : String) :
    validateKeys contract fields path = .ok () := by
  have none := missingNames_eq_nil.mpr fits.required
  have known : (fields.keys.any (· ∉ contract.properties.keys)) = false := by
    simpa using fits.declared
  rw [missingNames] at none
  simp only [validateKeys, none, known, refuseIf, bind,
    Except.bind, List.isEmpty_nil, Bool.not_true, Bool.false_eq_true, if_false]

theorem LengthFits.notShort {schema : ValueSchema} {text : String}
    (enough : ∀ low, schema.minLength = some low → low ≤ text.length) :
    schema.minLength.any (text.length < ·) = false := by
  cases bound : schema.minLength with
  | none => rfl
  | some low => simpa using enough low bound

theorem LengthFits.notLong {schema : ValueSchema} {text : String}
    (fits : LengthFits schema text) :
    schema.maxLength.any (· < text.length) = false := by
  cases bound : schema.maxLength with
  | none => rfl
  | some high => simpa using fits.short high bound

theorem PatternFits.matches {host : Host} {schema : ValueSchema}
    {text : String} (fits : PatternFits host schema text) :
    (schema.pattern.any fun pattern => !host.fullmatch pattern text) =
      false := by
  cases declared : schema.pattern with
  | none => rfl
  | some pattern => simp [fits.matched pattern declared]

/-- Once the lengths and the pattern fit, only the format is checked. -/
theorem PatternFits.validateString_eq {host : Host} {schema : ValueSchema}
    {text : String} (fits : PatternFits host schema text) (path : String) :
    validateString host schema text path =
      match schema.format with
      | none => pure ()
      | some .decimal =>
          refuseIf (!host.isFiniteDecimal text)
            (.contract path "invalid_decimal")
      | some .date =>
          refuseIf (!host.isIsoDate text) (.contract path "invalid_date")
      | some .dateTime =>
          (refuseIf (!host.isIsoDateTime (expandOffset text))
            (.contract path "invalid_datetime")).bind fun _ =>
          refuseIf (!host.hasOffset (expandOffset text))
            (.contract path "datetime_requires_timezone") := by
  unfold validateString
  rw [LengthFits.notShort fits.long, fits.notLong, fits.matches]
  rfl

theorem StringFits.accepted {host : Host} {schema : ValueSchema}
    {text : String} (fits : StringFits host schema text) (path : String) :
    validateString host schema text path = .ok () := by
  rw [fits.validateString_eq]
  cases declared : schema.format with
  | none => rfl
  | some format =>
      have formatted := fits.formatted format declared
      cases format with
      | date | decimal =>
          simp only [FormatFits] at formatted
          simp [formatted, refuseIf]
      | dateTime => simp [formatted.1, formatted.2, refuseIf, Except.bind]

theorem ChoiceFits.accepted {schema : ValueSchema} {value : Json}
    (fits : ChoiceFits schema value) (path : String) :
    validateChoice schema value path = .ok () := by
  have listed : (!schema.enum.isEmpty &&
      decide (value ∉ schema.enum.map Scalar.json)) = false := by
    by_cases empty : schema.enum = []
    · simp [empty]
    · have member := fits.listed empty
      simp [member]
  have constant : (schema.const.any fun scalar =>
      decide (value ≠ scalar.json)) = false := by
    cases declared : schema.const with
    | none => rfl
    | some const => simpa using fits.constant const declared
  simp only [validateChoice, listed, constant, refuseIf, bind,
    Except.bind, Bool.false_eq_true, if_false]

theorem validateFields_ok {host : Host} {contract : ObjectContract}
    {fields : List (String × Json)}
    (each : ∀ key item, (key, item) ∈ fields → ∃ inner,
      contract.properties.get? key = some inner ∧
        ∀ path, validateValue host inner item path = .ok item)
    (path : String) :
    validateFields host contract fields path = .ok fields := by
  induction fields with
  | nil => rfl
  | cons entry rest ih =>
      obtain ⟨key, item⟩ := entry
      obtain ⟨inner, declared, accepted⟩ := each key item (by simp)
      have others := ih fun key item member => each key item (by simp [member])
      simp [validateFields, declared, accepted, others, bind, Except.bind,
        pure, Except.pure]

theorem Dict.get?_of_mem_keys {β : Type} {dict : Dict β} {key : String}
    (listed : key ∈ dict.keys) : ∃ value, dict.get? key = some value := by
  induction dict with
  | nil => simp [Dict.keys] at listed
  | cons entry rest ih =>
      obtain ⟨stored, value⟩ := entry
      rw [Dict.get?_cons]
      by_cases same : key = stored
      · exact ⟨value, by simp [same]⟩
      · simp only [same, if_false]
        apply ih
        simpa [Dict.keys, same] using listed

theorem KeysFit.get? {contract : ObjectContract} {fields : Fields}
    (fits : KeysFit contract fields) {key : String} {item : Json}
    (member : (key, item) ∈ fields) :
    ∃ inner, contract.properties.get? key = some inner :=
  Dict.get?_of_mem_keys (fits.declared key (Dict.mem_keys.mpr ⟨item, member⟩))

mutual

theorem Conforms.accepted {host : Host} : {schema : ValueSchema} →
    {value : Json} → Conforms host schema value → (path : String) →
    validateValue host schema value path = .ok value
  | _, _, .intro shaped choice, path => by
      rw [shaped.validateValue_eq, choice.accepted]
      rfl

/-- A shaped value is left to the choice checks. -/
theorem Shaped.validateValue_eq {host : Host} : {schema : ValueSchema} →
    {value : Json} → Shaped host schema value → (path : String) →
    validateValue host schema value path =
      (validateChoice schema value path).map fun _ => value
  | _, _, .string type fits, path => by
      simp only [validateValue, validateType, type, fits.accepted]
      rfl
  | _, _, .integer type, path => by
      simp only [validateValue, validateType, type]
      rfl
  | _, _, .boolean type, path => by
      simp only [validateValue, validateType, type]
      rfl
  | schema, .obj fields, .object type keys members, path => by
      have each : ∀ key item, (key, item) ∈ fields → ∃ inner,
          schema.contract.properties.get? key = some inner ∧
            ∀ path, validateValue host inner item path = .ok item := by
        intro key item member
        obtain ⟨inner, declared⟩ := keys.get? member
        exact ⟨inner, declared,
          (members key item inner member declared).accepted⟩
      simp only [validateValue, validateType, type, keys.accepted,
        validateFields_ok each]
      rfl

end

theorem MembersConform.each {host : Host} {contract : ObjectContract}
    {fields : List (String × Json)} (conform : MembersConform host contract fields)
    (declared : ∀ key ∈ Dict.keys fields, key ∈ contract.properties.keys) :
    ∀ key item, (key, item) ∈ fields → ∃ inner,
      contract.properties.get? key = some inner ∧
        ∀ path, validateValue host inner item path = .ok item := by
  intro key item member
  obtain ⟨inner, found⟩ := Dict.get?_of_mem_keys
    (declared key (Dict.mem_keys.mpr ⟨item, member⟩))
  exact ⟨inner, found, (conform key item inner member found).accepted⟩

theorem ObjectConforms.accepted {host : Host} {contract : ObjectContract}
    {fields : Fields} (conforms : ObjectConforms host contract fields)
    (path : String) :
    validateObject host contract fields path = .ok fields := by
  have keys := conforms.toKeysFit.accepted path
  have members := validateFields_ok
    (conforms.members.each conforms.declared) path
  simp [validateObject, keys, members, bind, Except.bind]

/-! ## The validator on rejected values -/

theorem StringRejects.refused {host : Host} {schema : ValueSchema}
    {text : String} {reason : Reason}
    (rejects : StringRejects host schema text reason) (path : String) :
    validateString host schema text path =
      .error (.contract path reason.code) := by
  cases rejects with
  | tooShort bound short =>
      have below : schema.minLength.any (text.length < ·) = true := by
        simp [bound, short]
      unfold validateString
      rw [below]
      rfl
  | tooLong enough bound long =>
      have above : schema.maxLength.any (· < text.length) = true := by
        simp [bound, long]
      unfold validateString
      rw [LengthFits.notShort enough, above]
      rfl
  | pattern lengths declared differs =>
      have apart : (schema.pattern.any fun pattern =>
          !host.fullmatch pattern text) = true := by
        simp [declared, differs]
      unfold validateString
      rw [LengthFits.notShort lengths.long, lengths.notLong, apart]
      rfl
  | decimal fits declared broken | date fits declared broken
  | datetime fits declared broken =>
      rw [fits.validateString_eq]
      simp only [declared, broken, refuseIf, Bool.not_false, if_true]
      rfl
  | timezone fits declared parsed broken =>
      rw [fits.validateString_eq]
      simp only [declared, parsed, broken, refuseIf, Bool.not_true,
        Bool.not_false, Bool.false_eq_true, if_true, if_false]
      rfl

theorem ChoiceRejects.refused {schema : ValueSchema} {value : Json}
    {reason : Reason} (rejects : ChoiceRejects schema value reason)
    (path : String) :
    validateChoice schema value path = .error (.contract path reason.code) := by
  cases rejects with
  | notInEnum declared absent =>
      have failed : (!schema.enum.isEmpty &&
          decide (value ∉ schema.enum.map Scalar.json)) = true := by
        simp only [Bool.and_eq_true, decide_eq_true_eq]
        exact ⟨by simp [declared], absent⟩
      simp only [validateChoice, failed, refuseIf, if_true, bind, Except.bind]
      rfl
  | @constMismatch const listed declared differs =>
      have passed : (!schema.enum.isEmpty &&
          decide (value ∉ schema.enum.map Scalar.json)) = false := by
        by_cases empty : schema.enum = []
        · simp [empty]
        · have member := listed empty
          simp [member]
      simp only [validateChoice, passed, refuseIf, Bool.false_eq_true, if_false,
        bind, Except.bind, declared, Option.any_some, ne_eq, differs,
        not_false_eq_true, decide_true, if_true]
      rfl

theorem validateFields_error {host : Host} {contract : ObjectContract}
    {before after : List (String × Json)} {key : String} {item : Json}
    {inner : ValueSchema} {path : String} {error : Raised}
    (each : ∀ key item, (key, item) ∈ before → ∃ inner,
      contract.properties.get? key = some inner ∧
        ∀ path, validateValue host inner item path = .ok item)
    (declared : contract.properties.get? key = some inner)
    (failed : validateValue host inner item (propertyPath path key) =
      .error error) :
    validateFields host contract (before ++ (key, item) :: after) path =
      .error error := by
  induction before with
  | nil =>
      simp [validateFields, declared, failed, bind, Except.bind]
  | cons entry rest ih =>
      obtain ⟨name, value⟩ := entry
      obtain ⟨schema, found, accepted⟩ := each name value (by simp)
      have others := ih fun key item member => each key item (by simp [member])
      simp [validateFields, found, accepted, others, bind, Except.bind]

theorem validateKeys_missing {contract : ObjectContract} {fields : Fields}
    (lacking : missingNames contract fields ≠ []) (path : String) :
    validateKeys contract fields path =
      .error (.contract path
        (Reason.missingRequired (missingNames contract fields)).code) := by
  have failed : (!(missingNames contract fields).isEmpty) = true := by
    simp [lacking]
  rw [missingNames] at failed
  simp only [validateKeys, failed, refuseIf, if_true, bind, Except.bind]
  rfl

theorem validateKeys_unknown {contract : ObjectContract} {fields : Fields}
    {key : String} (present : ∀ name ∈ contract.required, name ∈ fields.keys)
    (member : key ∈ fields.keys) (undeclared : key ∉ contract.properties.keys)
    (path : String) :
    validateKeys contract fields path =
      .error (.contract path Reason.unknownProperties.code) := by
  have none := missingNames_eq_nil.mpr present
  rw [missingNames] at none
  have failed : fields.keys.any (· ∉ contract.properties.keys) = true := by
    rw [List.any_eq_true]
    exact ⟨key, member, by simpa using undeclared⟩
  simp only [validateKeys, none, failed, refuseIf, if_true, bind, Except.bind,
    List.isEmpty_nil, Bool.not_true, Bool.false_eq_true, if_false]
  rfl

/-- A value of another type is refused. -/
theorem validateType_expected {host : Host} {schema : ValueSchema}
    {value : Json} (differs : ¬ HasType schema.type value) (path : String) :
    validateType host schema value path =
      .error (.contract path (Reason.expected schema.type).code) := by
  unfold validateType
  generalize schema.type = type at differs ⊢
  cases type <;> cases value <;> first | rfl | exact absurd trivial differs

theorem validateValue_of_type {host : Host} {schema : ValueSchema}
    {value : Json} {path : String} {error : Raised}
    (refused : validateType host schema value path = .error error) :
    validateValue host schema value path = .error error := by
  cases value <;> simp [validateValue, refused, bind, Except.bind]

mutual

theorem ObjectRejects.refused {host : Host} : {contract : ObjectContract} →
    {fields : List (String × Json)} → {parts : List String} →
    {reason : Reason} → ObjectRejects host contract fields parts reason →
    (path : String) → validateObject host contract fields path =
      .error (reason.report path parts)
  | _, _, _, _, .missing lacking, path => by
      simp [validateObject, validateKeys_missing lacking, bind, Except.bind,
        Reason.report]
  | _, _, _, _, .unknown present member undeclared, path => by
      simp [validateObject, validateKeys_unknown present member undeclared,
        bind, Except.bind, Reason.report]
  | contract, _, _, _, @ObjectRejects.member _ _ before after key item inner
      parts reason keys early declared rejects, path => by
      have known : ∀ name ∈ Dict.keys before,
          name ∈ contract.properties.keys := by
        intro name listed
        apply keys.declared name
        simp only [Dict.keys_append, List.mem_append]
        exact .inl listed
      have failed := rejects.refused (propertyPath path key)
      have fields := @validateFields_error _ _ _ after _ _ _ path _
        (early.each known) declared failed
      simp [validateObject, keys.accepted, fields, bind, Except.bind,
        Reason.report]

theorem ValueRejects.refused {host : Host} : {schema : ValueSchema} →
    {value : Json} → {parts : List String} → {reason : Reason} →
    ValueRejects host schema value parts reason → (path : String) →
    validateValue host schema value path = .error (reason.report path parts)
  | _, _, _, _, .expected differs, path =>
      validateValue_of_type (validateType_expected differs path)
  | _, _, _, _, .string type rejects, path => by
      simp [validateValue, validateType, type, rejects.refused, bind,
        Except.bind, Reason.report]
  | schema, .obj fields, _, _, .object type rejects, path => by
      have failed := rejects.refused path
      unfold validateObject at failed
      simp only [validateValue, validateType, type, bind, Except.bind] at failed ⊢
      cases keys : validateKeys schema.contract fields path with
      | error other =>
          rw [keys] at failed
          cases failed
          rfl
      | ok _ =>
          rw [keys] at failed
          simp only [failed]
  | _, _, _, _, .choice shaped rejects, path => by
      rw [shaped.validateValue_eq, rejects.refused]
      rfl

end

/-! ## Every value conforms or is rejected -/

theorem string_cases (host : Host) (schema : ValueSchema) (text : String) :
    StringFits host schema text ∨
      ∃ reason, StringRejects host schema text reason := by
  by_cases long : ∀ low, schema.minLength = some low → low ≤ text.length
  swap
  · push Not at long
    obtain ⟨low, bound, short⟩ := long
    exact .inr ⟨_, .tooShort bound short⟩
  by_cases short : ∀ high, schema.maxLength = some high → text.length ≤ high
  swap
  · push Not at short
    obtain ⟨high, bound, exceeds⟩ := short
    exact .inr ⟨_, .tooLong long bound exceeds⟩
  have lengths : LengthFits schema text := ⟨long, short⟩
  by_cases matched : ∀ pattern, schema.pattern = some pattern →
      host.fullmatch pattern text = true
  swap
  · push Not at matched
    obtain ⟨pattern, declared, differs⟩ := matched
    exact .inr ⟨_, .pattern lengths declared (by simpa using differs)⟩
  have fits : PatternFits host schema text := ⟨lengths, matched⟩
  cases declared : schema.format with
  | none => exact .inl ⟨fits, by simp [declared]⟩
  | some format =>
      by_cases formatted : FormatFits host text format
      · refine .inl ⟨fits, ?_⟩
        intro other same
        rw [declared, Option.some.injEq] at same
        subst same
        exact formatted
      · cases format with
        | decimal =>
            exact .inr ⟨_, .decimal fits declared
              (by simpa [FormatFits] using formatted)⟩
        | date =>
            exact .inr ⟨_, .date fits declared
              (by simpa [FormatFits] using formatted)⟩
        | dateTime =>
            by_cases parsed : host.isIsoDateTime (expandOffset text) = true
            · exact .inr ⟨_, .timezone fits declared parsed
                (by simpa [FormatFits, parsed] using formatted)⟩
            · exact .inr ⟨_, .datetime fits declared (by simpa using parsed)⟩

theorem choice_cases (schema : ValueSchema) (value : Json) :
    ChoiceFits schema value ∨ ∃ reason, ChoiceRejects schema value reason := by
  by_cases listed : schema.enum ≠ [] → value ∈ schema.enum.map Scalar.json
  swap
  · push Not at listed
    exact .inr ⟨_, .notInEnum listed.1 listed.2⟩
  by_cases constant : ∀ const, schema.const = some const → value = const.json
  · exact .inl ⟨listed, constant⟩
  · push Not at constant
    obtain ⟨const, declared, differs⟩ := constant
    exact .inr ⟨_, .constMismatch listed declared differs⟩

theorem keys_cases (host : Host) (contract : ObjectContract)
    (fields : Fields) :
    KeysFit contract fields ∨
      ∃ reason, ObjectRejects host contract fields [] reason := by
  by_cases required : missingNames contract fields = []
  swap
  · exact .inr ⟨_, .missing required⟩
  rw [missingNames_eq_nil] at required
  by_cases declared : ∀ key ∈ fields.keys, key ∈ contract.properties.keys
  · exact .inl ⟨required, declared⟩
  · push Not at declared
    obtain ⟨key, member, undeclared⟩ := declared
    exact .inr ⟨_, .unknown required member undeclared⟩

/-- A shaped value conforms or fails a choice check. -/
theorem Shaped.cases {host : Host} {schema : ValueSchema} {value : Json}
    (shaped : Shaped host schema value) :
    Conforms host schema value ∨
      ∃ reason, ValueRejects host schema value [] reason := by
  rcases choice_cases schema value with fits | ⟨reason, rejects⟩
  · exact .inl (.intro shaped fits)
  · exact .inr ⟨reason, .choice shaped rejects⟩

mutual

theorem shaped_cases (host : Host) : (value : Json) → (schema : ValueSchema) →
    Shaped host schema value ∨
      ∃ parts reason, ValueRejects host schema value parts reason
  | .null, schema | .real _, schema | .arr _, schema =>
      .inr ⟨_, _, .expected (by cases schema.type <;> exact id)⟩
  | .bool flag, schema => by
      by_cases type : schema.type = .boolean
      · exact .inl (.boolean type)
      · refine .inr ⟨_, _, .expected ?_⟩
        cases given : schema.type <;> simp_all [HasType]
  | .int number, schema => by
      by_cases type : schema.type = .integer
      · exact .inl (.integer type)
      · refine .inr ⟨_, _, .expected ?_⟩
        cases given : schema.type <;> simp_all [HasType]
  | .str text, schema => by
      by_cases type : schema.type = .string
      · rcases string_cases host schema text with fits | ⟨reason, rejects⟩
        · exact .inl (.string type fits)
        · exact .inr ⟨_, _, .string type rejects⟩
      · refine .inr ⟨_, _, .expected ?_⟩
        cases given : schema.type <;> simp_all [HasType]
  | .obj fields, schema => by
      by_cases type : schema.type = .object
      swap
      · refine .inr ⟨_, _, .expected ?_⟩
        cases given : schema.type <;> simp_all [HasType]
      rcases keys_cases host schema.contract fields with keys | ⟨_, rejects⟩
      swap
      · exact .inr ⟨_, _, .object type rejects⟩
      rcases members_cases host fields schema.contract keys.declared with
        conform | ⟨before, key, item, after, inner, parts, reason, split,
          early, declared, rejects⟩
      · exact .inl (.object type keys conform)
      · subst split
        exact .inr ⟨_, _, .object type (.member keys early declared rejects)⟩

/-- Every member conforms, or there is a first one that does not. -/
theorem members_cases (host : Host) : (fields : List (String × Json)) →
    (contract : ObjectContract) →
    (∀ key ∈ Dict.keys fields, key ∈ contract.properties.keys) →
    MembersConform host contract fields ∨
      ∃ before key item after inner parts reason,
        fields = before ++ (key, item) :: after ∧
        MembersConform host contract before ∧
        contract.properties.get? key = some inner ∧
        ValueRejects host inner item parts reason
  | [], _, _ => .inl (by simp [MembersConform])
  | (key, item) :: rest, contract, declared => by
      obtain ⟨inner, found⟩ := Dict.get?_of_mem_keys (declared key (by simp [Dict.keys]))
      have verdict : Conforms host inner item ∨
          ∃ parts reason, ValueRejects host inner item parts reason := by
        rcases shaped_cases host item inner with shaped | rejected
        · exact shaped.cases.imp id fun ⟨reason, rejects⟩ => ⟨_, reason, rejects⟩
        · exact .inr rejected
      rcases verdict with conforms | ⟨parts, reason, rejects⟩
      swap
      · exact .inr ⟨[], key, item, rest, inner, parts, reason, rfl,
          by simp [MembersConform], found, rejects⟩
      have first : ∀ other, contract.properties.get? key = some other →
          Conforms host other item := by
        intro other same
        rw [found, Option.some.injEq] at same
        subst same
        exact conforms
      rcases members_cases host rest contract (fun name listed =>
          declared name (List.mem_cons_of_mem _ listed)) with
        others | ⟨before, name, value, after, schema, parts, reason, split,
          early, known, rejects⟩
      · refine .inl ?_
        intro name value other member same
        rcases List.mem_cons.mp member with here | later
        · cases here
          exact first other same
        · exact others name value other later same
      · refine .inr ⟨(key, item) :: before, name, value, after, schema, parts,
          reason, by simp [split], ?_, known, rejects⟩
        intro other value schema member same
        rcases List.mem_cons.mp member with here | later
        · cases here
          exact first schema same
        · exact early other value schema later same

end

theorem object_cases (host : Host) (contract : ObjectContract)
    (fields : Fields) :
    ObjectConforms host contract fields ∨
      ∃ parts reason, ObjectRejects host contract fields parts reason := by
  rcases keys_cases host contract fields with keys | ⟨reason, rejects⟩
  swap
  · exact .inr ⟨_, reason, rejects⟩
  rcases members_cases host fields contract keys.declared with
    conform | ⟨before, key, item, after, inner, parts, reason, split, early,
      declared, rejects⟩
  · exact .inl ⟨keys, conform⟩
  · subst split
    exact .inr ⟨_, _, .member keys early declared rejects⟩

/-- What the validator accepts conforms. -/
theorem ObjectConforms.of_accepted {host : Host} {contract : ObjectContract}
    {fields result : Fields}
    (accepted : validateObject host contract fields = .ok result) :
    ObjectConforms host contract fields := by
  rcases object_cases host contract fields with conforms | ⟨_, _, rejects⟩
  · exact conforms
  · rw [rejects.refused] at accepted
    cases accepted

/-! ## Reports name what the contract declares -/

/-- The contract of the declared object at a place. -/
def contractAt : ObjectContract → List String → Option ObjectContract
  | contract, [] => some contract
  | contract, part :: rest =>
      match contract.properties.get? part with
      | none => none
      | some schema => contractAt schema.contract rest

/-- Every part of the place is a declared property, and the reason shows only
names that the contract there requires. -/
def IsDeclared (contract : ObjectContract) (parts : List String)
    (reason : Reason) : Prop :=
  ∃ site, contractAt contract parts = some site ∧
    ∀ name ∈ reason.names, name ∈ site.required

theorem isDeclared_here {contract : ObjectContract} {reason : Reason}
    (shown : ∀ name ∈ reason.names, name ∈ contract.required) :
    IsDeclared contract [] reason :=
  ⟨contract, rfl, shown⟩

theorem StringRejects.names_eq {host : Host} {schema : ValueSchema}
    {text : String} {reason : Reason}
    (rejects : StringRejects host schema text reason) : reason.names = [] := by
  cases rejects <;> rfl

theorem ChoiceRejects.names_eq {schema : ValueSchema} {value : Json}
    {reason : Reason} (rejects : ChoiceRejects schema value reason) :
    reason.names = [] := by
  cases rejects <;> rfl

mutual

theorem ObjectRejects.isDeclared {host : Host} : {contract : ObjectContract} →
    {fields : List (String × Json)} → {parts : List String} →
    {reason : Reason} → ObjectRejects host contract fields parts reason →
    IsDeclared contract parts reason
  | _, _, _, _, .missing _ => by
      apply isDeclared_here
      intro name shown
      simp only [Reason.names, missingNames, mem_sortedSet] at shown
      exact (List.mem_filter.mp shown).1
  | _, _, _, _, .unknown _ _ _ => isDeclared_here (by simp [Reason.names])
  | _, _, _, _, .member _ _ found rejects => by
      obtain ⟨site, placed, shown⟩ := rejects.isDeclared
      exact ⟨site, by simpa [contractAt, found] using placed, shown⟩

theorem ValueRejects.isDeclared {host : Host} : {schema : ValueSchema} →
    {value : Json} → {parts : List String} → {reason : Reason} →
    ValueRejects host schema value parts reason →
    IsDeclared schema.contract parts reason
  | _, _, _, _, .expected _ => isDeclared_here (by simp [Reason.names])
  | _, _, _, _, .string _ rejects =>
      isDeclared_here (by simp [rejects.names_eq])
  | _, _, _, _, .object _ rejects => rejects.isDeclared
  | _, _, _, _, .choice _ rejects =>
      isDeclared_here (by simp [rejects.names_eq])

end

/-- The validator accepts exactly the conforming values, returns what it was
given, and reports a rejection by its declared place and its reason alone. -/
theorem validateObject_exact (host : Host) (contract : ObjectContract) :
    (∀ value, (∃ result, validateObject host contract value = .ok result) ↔
      ObjectConforms host contract value) ∧
    (∀ value result, validateObject host contract value = .ok result →
      result = value) ∧
    (∀ value error, validateObject host contract value = .error error →
      ∃ parts reason, ObjectRejects host contract value parts reason ∧
        IsDeclared contract parts reason ∧ error = reason.report "$" parts) ∧
    (∀ first second parts reason,
      ObjectRejects host contract first parts reason →
      ObjectRejects host contract second parts reason →
      validateObject host contract first =
        validateObject host contract second) := by
  refine ⟨?_, ?_, ?_, ?_⟩
  · intro value
    constructor
    · intro ⟨result, succeeded⟩
      exact .of_accepted succeeded
    · intro conforms
      exact ⟨value, conforms.accepted "$"⟩
  · intro value result succeeded
    have conforms := ObjectConforms.of_accepted succeeded
    rw [conforms.accepted, Except.ok.injEq] at succeeded
    exact succeeded.symm
  · intro value error failed
    rcases object_cases host contract value with
      conforms | ⟨parts, reason, rejects⟩
    · rw [conforms.accepted] at failed
      cases failed
    · rw [rejects.refused, Except.error.injEq] at failed
      exact ⟨parts, reason, rejects, rejects.isDeclared, failed.symm⟩
  · intro first second parts reason early late
    rw [early.refused, late.refused]

end ReplayForge

import ReplayForge.Policy.Types
import ReplayForge.Shared.Host
import ReplayForge.Shared.Json
import ReplayForge.Shared.Text
import ReplayForge.Surfaces.Errors
import Mathlib.Data.List.Dedup
import Mathlib.Data.List.Sort

/-!
# Value contracts

The schemas of invocation inputs and extracted outputs, the validator of a
value against them and the lookup of a dotted input path.
-/

namespace ReplayForge

inductive JsonValueType where
  | string
  | integer
  | boolean
  | object
deriving DecidableEq, Repr

inductive PersistenceMode where
  | full
  | redacted
  | forbidden
deriving DecidableEq, Repr

inductive ValueFormat where
  | date
  | dateTime
  | decimal
deriving DecidableEq, Repr

/-- `str | int | bool` -/
inductive Scalar where
  | str (value : String)
  | int (value : Int)
  | bool (value : Bool)
deriving DecidableEq

def Scalar.json : Scalar → Json
  | .str value => .str value
  | .int value => .int value
  | .bool value => .bool value

structure ValueSchema where
  type : JsonValueType
  description : String
  dataClassification : DataClassification
  persistence : PersistenceMode
  required : List String
  properties : List (String × ValueSchema)
  pattern : Option String
  format : Option ValueFormat
  enum : List Scalar
  const : Option Scalar
  minLength : Option Nat
  maxLength : Option Nat
  example_ : Option Scalar

namespace ValueSchema

mutual

private def same : (left right : ValueSchema) → Decidable (left = right)
  | ⟨type, description, dataClassification, persistence, required, properties,
      pattern, format, enum, const, minLength, maxLength, example_⟩,
    ⟨type', description', dataClassification', persistence', required',
      properties', pattern', format', enum', const', minLength', maxLength',
      example'⟩ =>
      match sameProperties properties properties' with
      | isTrue equal => decidable_of_iff
          (type = type' ∧ description = description' ∧
            dataClassification = dataClassification' ∧
            persistence = persistence' ∧ required = required' ∧
            pattern = pattern' ∧ format = format' ∧ enum = enum' ∧
            const = const' ∧ minLength = minLength' ∧
            maxLength = maxLength' ∧ example_ = example')
          (by simp [equal])
      | isFalse different => isFalse (by simp [different])

private def sameProperties :
    (left right : List (String × ValueSchema)) → Decidable (left = right)
  | [], [] => isTrue rfl
  | [], _ :: _ => isFalse (by simp)
  | _ :: _, [] => isFalse (by simp)
  | (k, a) :: as, (l, b) :: bs =>
      match decEq k l, same a b, sameProperties as bs with
      | isTrue key, isTrue head, isTrue tail =>
          isTrue (by rw [key, head, tail])
      | isFalse different, _, _ => isFalse (by simp [different])
      | _, isFalse different, _ => isFalse (by simp [different])
      | _, _, isFalse different => isFalse (by simp [different])

end

instance : DecidableEq ValueSchema := same

mutual

/-- The schema with the properties of every level in key order. -/
def sorted : ValueSchema → ValueSchema
  | ⟨type, description, dataClassification, persistence, required, properties,
      pattern, format, enum, const, minLength, maxLength, example_⟩ =>
      ⟨type, description, dataClassification, persistence, required,
        Dict.sorted (sortedProperties properties), pattern, format, enum,
        const, minLength, maxLength, example_⟩

def sortedProperties : List (String × ValueSchema) → Dict ValueSchema
  | [] => []
  | (name, schema) :: rest => (name, schema.sorted) :: sortedProperties rest

end

end ValueSchema

structure ObjectContract where
  required : List String
  properties : Dict ValueSchema
deriving DecidableEq

/-- The contract with the properties of every level in key order.  Two
contracts are equal when their sorted forms are. -/
def ObjectContract.sorted (contract : ObjectContract) : ObjectContract :=
  { contract with
    properties := Dict.sorted
      (ValueSchema.sortedProperties contract.properties) }

/-- The declared properties as a contract of their own. -/
def ValueSchema.contract (schema : ValueSchema) : ObjectContract :=
  { required := schema.required, properties := schema.properties }

/-- `sorted(set(names))` -/
def sortedSet (names : List String) : List String :=
  names.dedup.insertionSort (· ≤ ·)

theorem mem_sortedSet {name : String} {names : List String} :
    name ∈ sortedSet names ↔ name ∈ names := by
  rw [sortedSet, List.mem_insertionSort, List.mem_dedup]

/-- Sets with the same members are enumerated alike. -/
theorem sortedSet_congr {first second : List String}
    (same : ∀ name, name ∈ first ↔ name ∈ second) :
    sortedSet first = sortedSet second := by
  have shuffled : first.dedup.Perm second.dedup := by
    rw [List.perm_ext_iff_of_nodup first.nodup_dedup second.nodup_dedup]
    intro name
    rw [List.mem_dedup, List.mem_dedup, same]
  have total : Std.Total fun first second : String => first ≤ second :=
    ⟨String.le_total⟩
  have trans : IsTrans String fun first second => first ≤ second :=
    ⟨fun _ _ _ => String.le_trans⟩
  refine List.Perm.eq_of_pairwise
    (fun name other _ _ below above => String.le_antisymm below above)
    (List.pairwise_insertionSort _ _) (List.pairwise_insertionSort _ _)
    ((List.perm_insertionSort _ _).trans
      (shuffled.trans (List.perm_insertionSort _ _).symm))

namespace ObjectContract

def validateRequiredProperties (contract : ObjectContract) :
    Except Raised Unit := do
  require (contract.required.all (· ∈ contract.properties.keys))
    "required properties are not declared"
  require contract.required.Nodup "required properties must be unique"
  require (contract.properties.keys.all Pattern.fieldName)
    "property names are invalid"

end ObjectContract

def matchesJsonType : JsonValueType → Scalar → Bool
  | .string, .str _ | .integer, .int _ | .boolean, .bool _ => true
  | _, _ => false

namespace ValueSchema

def declaresStringConstraint (schema : ValueSchema) : Bool :=
  schema.pattern.isSome || schema.format.isSome ||
    schema.minLength.isSome || schema.maxLength.isSome

/-- The schema's own checks, without those of its properties. -/
def validateShape (host : Host) (schema : ValueSchema) :
    Except Raised Unit := do
  require (Text.isBounded schema.description 1 none) "description"
  if schema.type = .object then
    require (schema.required.all (· ∈ schema.contract.properties.keys))
      "required properties are not declared"
    require (schema.pattern.isNone && schema.format.isNone &&
        schema.enum.isEmpty && schema.const.isNone &&
        schema.minLength.isNone && schema.maxLength.isNone)
      "object schemas cannot declare scalar constraints"
    require schema.example_.isNone "object schema examples are not supported"
  else
    require (schema.properties.isEmpty && schema.required.isEmpty)
      "only object schemas may declare properties or required fields"
  require schema.required.Nodup "required properties must be unique"
  require (schema.contract.properties.keys.all Pattern.fieldName)
    "property names are invalid"
  require (schema.type = .string || !schema.declaresStringConstraint)
    "only string schemas may declare string constraints"
  require (schema.minLength.all fun low =>
      schema.maxLength.all fun high => low ≤ high)
    "min_length cannot exceed max_length"
  require (schema.pattern.all host.compiles)
    "pattern must be a valid regular expression"
  require schema.enum.Nodup "enum values must be unique"
  require (schema.enum.all (matchesJsonType schema.type))
    "enum values must match the declared value type"
  require (schema.const.all (matchesJsonType schema.type))
    "const must match the declared value type"
  require (schema.example_.all (matchesJsonType schema.type))
    "example must match the declared value type"
  require (schema.enum.isEmpty || schema.const.all (· ∈ schema.enum))
    "const must be included in enum"

mutual

def validate (host : Host) : ValueSchema → Except Raised Unit
  | ⟨type, description, dataClassification, persistence, required, properties,
      pattern, format, enum, const, minLength, maxLength, example_⟩ => do
      validateProperties host properties
      validateShape host ⟨type, description, dataClassification, persistence,
        required, properties, pattern, format, enum, const, minLength,
        maxLength, example_⟩

def validateProperties (host : Host) :
    List (String × ValueSchema) → Except Raised Unit
  | [] => .ok ()
  | (_, schema) :: rest => do
      schema.validate host
      validateProperties host rest

end

end ValueSchema

def ObjectContract.validate (host : Host) (contract : ObjectContract) :
    Except Raised Unit := do
  ValueSchema.validateProperties host contract.properties
  contract.validateRequiredProperties

/-- `_contract_has_path`, on the parts of the path. -/
def propertiesHavePath (properties : Dict ValueSchema) : List String → Bool
  | [] => false
  | part :: rest =>
      match properties.get? part with
      | none => false
      | some schema =>
          match rest with
          | [] => true
          | _ :: _ =>
              schema.type = .object && propertiesHavePath schema.properties rest

def contractHasPath (contract : ObjectContract) (path : String) : Bool :=
  propertiesHavePath contract.properties (Text.splitOnChar '.' path)

def resolveParts : Json → List String → Option Json
  | current, [] => some current
  | current, part :: rest =>
      match current.field? part with
      | none => none
      | some value => resolveParts value rest

/-- Resolve a declared dotted object path. -/
def resolveInput (inputs : Fields) (path : String) : Except Raised Json :=
  match resolveParts (.obj inputs) (Text.splitOnChar '.' path) with
  | none => .error (.contract path "input_binding_missing")
  | some value => .ok value

def classifyParts (forbidden : List DataClassification) :
    Dict ValueSchema → Option DataClassification → List String →
      Option DataClassification
  | _, classification, [] => classification
  | properties, _, part :: rest =>
      match properties.get? part with
      | none => none
      | some schema =>
          if schema.dataClassification ∈ forbidden then
            some schema.dataClassification
          else
            classifyParts forbidden schema.properties
              (some schema.dataClassification) rest

/-- A forbidden parent classification also protects its nested fields. -/
def bindingClassification (contract : ObjectContract) (path : String)
    (forbidden : List DataClassification) : Option DataClassification :=
  classifyParts forbidden contract.properties none (Text.splitOnChar '.' path)

/-- `value.replace("Z", "+00:00")` -/
def expandOffset (value : String) : String :=
  String.ofList (value.toList.flatMap fun char =>
    if char = 'Z' then "+00:00".toList else [char])

def validateString (host : Host) (schema : ValueSchema) (value path : String) :
    Except Raised Unit := do
  refuseIf (schema.minLength.any (value.length < ·))
    (.contract path "too_short")
  refuseIf (schema.maxLength.any (· < value.length))
    (.contract path "too_long")
  refuseIf (schema.pattern.any fun pattern => !host.fullmatch pattern value)
    (.contract path "pattern_mismatch")
  match schema.format with
  | none => pure ()
  | some .decimal =>
      refuseIf (!host.isFiniteDecimal value) (.contract path "invalid_decimal")
  | some .date =>
      refuseIf (!host.isIsoDate value) (.contract path "invalid_date")
  | some .dateTime => do
      refuseIf (!host.isIsoDateTime (expandOffset value))
        (.contract path "invalid_datetime")
      refuseIf (!host.hasOffset (expandOffset value))
        (.contract path "datetime_requires_timezone")

/-- The key checks of `validate_object`. -/
def validateKeys (contract : ObjectContract) (value : Fields)
    (path : String) : Except Raised Unit := do
  let missing := sortedSet (contract.required.filter (· ∉ value.keys))
  refuseIf (!missing.isEmpty)
    (.contract path ("missing_required:" ++ ",".intercalate missing))
  refuseIf (value.keys.any (· ∉ contract.properties.keys))
    (.contract path "unknown_properties")

/-- The `enum` and `const` checks of `_validate_value`. -/
def validateChoice (schema : ValueSchema) (value : Json) (path : String) :
    Except Raised Unit := do
  refuseIf (!schema.enum.isEmpty && value ∉ schema.enum.map Scalar.json)
    (.contract path "not_in_enum")
  refuseIf (schema.const.any fun scalar => value ≠ scalar.json)
    (.contract path "const_mismatch")

/-- The type check of `_validate_value`, with the string constraints. -/
def validateType (host : Host) (schema : ValueSchema) (value : Json)
    (path : String) : Except Raised Unit :=
  match schema.type, value with
  | .string, .str text => validateString host schema text path
  | .integer, .int _ | .boolean, .bool _ | .object, .obj _ => .ok ()
  | .string, _ => .error (.contract path "expected_string")
  | .integer, _ => .error (.contract path "expected_integer")
  | .boolean, _ => .error (.contract path "expected_boolean")
  | .object, _ => .error (.contract path "expected_object")

/-- The path of a property, below the root. -/
def propertyPath (path key : String) : String :=
  if path = "$" then key else path ++ "." ++ key

mutual

def validateValue (host : Host) (schema : ValueSchema) :
    Json → String → Except Raised Json
  | .obj fields, path => do
      validateType host schema (.obj fields) path
      validateKeys schema.contract fields path
      let validated ← validateFields host schema.contract fields path
      validateChoice schema (.obj validated) path
      return .obj validated
  | value, path => do
      validateType host schema value path
      validateChoice schema value path
      return value

def validateFields (host : Host) (contract : ObjectContract) :
    List (String × Json) → String → Except Raised (List (String × Json))
  | [], _ => .ok []
  | (key, item) :: rest, path =>
      match contract.properties.get? key with
      | none => .error (.key key)
      | some schema => do
          let value ← validateValue host schema item (propertyPath path key)
          let others ← validateFields host contract rest path
          return (key, value) :: others

end

def validateObject (host : Host) (contract : ObjectContract) (value : Fields)
    (path : String := "$") : Except Raised Fields := do
  validateKeys contract value path
  validateFields host contract value path

end ReplayForge

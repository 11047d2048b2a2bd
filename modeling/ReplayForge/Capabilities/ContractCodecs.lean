import ReplayForge.Capabilities.Artifact
import ReplayForge.Data.FieldCodec

/-!
# Codecs of value contracts

The fields of each model stand in the order of its class, with the defaults of
the class.
-/

namespace ReplayForge

open Codec ReplayForge.Part

def JsonValueType.value : JsonValueType → String
  | .string => "string"
  | .integer => "integer"
  | .boolean => "boolean"
  | .object => "object"

def JsonValueType.codec : Codec JsonValueType :=
  .enum [.string, .integer, .boolean, .object] value fun type => by
    cases type <;> rfl

instance : JsonValueType.codec.Steady := ⟨fun _ _ => rfl⟩

def DataClassification.value : DataClassification → String
  | .publicData => "public"
  | .operational => "operational"
  | .customerIdentifier => "customer_identifier"
  | .personal => "personal"
  | .financial => "financial"
  | .credential => "credential"
  | .secret => "secret"

def DataClassification.codec : Codec DataClassification :=
  .enum [.publicData, .operational, .customerIdentifier, .personal, .financial,
    .credential, .secret] value fun classification => by
      cases classification <;> rfl

instance : DataClassification.codec.Steady := ⟨fun _ _ => rfl⟩

def PersistenceMode.value : PersistenceMode → String
  | .full => "full"
  | .redacted => "redacted"
  | .forbidden => "forbidden"

def PersistenceMode.codec : Codec PersistenceMode :=
  .enum [.full, .redacted, .forbidden] value fun mode => by
    cases mode <;> rfl

instance : PersistenceMode.codec.Steady := ⟨fun _ _ => rfl⟩

def ValueFormat.value : ValueFormat → String
  | .date => "date"
  | .dateTime => "date-time"
  | .decimal => "decimal"

def ValueFormat.codec : Codec ValueFormat :=
  .literal [.date, .dateTime, .decimal] value fun format => by
    cases format <;> rfl

instance : ValueFormat.codec.Steady := ⟨fun _ _ => rfl⟩

namespace Scalar

/-- An exact type is preferred to a conversion. -/
def load (reader : Reader) : Json → Option Scalar
  | .str value => some (.str (Text.strip value))
  | .int value => some (.int value)
  | .bool value => some (.bool value)
  | json => (reader.int json).map .int <|> (reader.bool json).map .bool

def dump : Scalar → Tree
  | .str value => .str value
  | .int value => .int value
  | .bool value => .bool value

/-- A string is stripped. -/
def isClean : Scalar → Bool
  | .str value => Text.isStripped value
  | .int _ | .bool _ => true

def codec : Codec Scalar where
  dump := dump
  load := load
  normal _ value := value
  Legal _ value := value.isClean
  firm := []
  sound {_ json value} loaded := by
    cases value with
    | int _ | bool _ => rfl
    | str text =>
        cases json with
        | str raw =>
            cases loaded
            exact Text.isStripped_strip raw
        | int _ | bool _ => cases loaded
        | null | real _ | arr _ | obj _ =>
            simp [load, Option.or_eq_some_iff] at loaded
  plain {_ value} _ := by
    cases value <;> trivial
  reads {_ _ value} _ _ legal := by
    cases value with
    | str text =>
        have stripped : Text.strip text = text := by
          simpa [isClean, Text.isStripped] using legal
        simp [dump, Rendering.render, load, stripped]
    | int _ | bool _ => rfl

instance : codec.Steady := ⟨fun _ _ => rfl⟩

end Scalar

namespace ValueSchema

mutual

/-- Induction on a schema, with the hypothesis for every property. -/
theorem induct {motive : ValueSchema → Prop}
    (step : ∀ schema : ValueSchema,
      (∀ entry ∈ schema.properties, motive entry.2) → motive schema) :
    ∀ schema, motive schema
  | ⟨type, description, dataClassification, persistence, required, properties,
      pattern, format, enum, const, minLength, maxLength, example_⟩ =>
      step ⟨type, description, dataClassification, persistence, required,
        properties, pattern, format, enum, const, minLength, maxLength,
        example_⟩ (inductProperties step properties)

theorem inductProperties {motive : ValueSchema → Prop}
    (step : ∀ schema : ValueSchema,
      (∀ entry ∈ schema.properties, motive entry.2) → motive schema) :
    ∀ (properties : List (String × ValueSchema)),
      ∀ entry ∈ properties, motive entry.2
  | [], _, member => nomatch member
  | (_, schema) :: rest, _, member =>
      match List.mem_cons.mp member with
      | .inl here => here ▸ induct step schema
      | .inr later => inductProperties step rest _ later

end

mutual

def dump : ValueSchema → Tree
  | ⟨type, description, dataClassification, persistence, names, properties,
      pattern, format, enum, const, minLength, maxLength, example_⟩ =>
      .obj (
        [("type", .enum type.value),
          ("description", .str description),
          ("data_classification", .enum dataClassification.value),
          ("persistence", .enum persistence.value),
          ("required", .arr (names.map .str)),
          ("properties", .obj (dumpProperties properties)),
          ("additional_properties", .bool false)] ++
        (optional "pattern" text).dump pattern ++
        (optional "format" ValueFormat.codec).dump format ++
        [("enum", .arr (enum.map Scalar.dump))] ++
        (optional "const" Scalar.codec).dump const ++
        (optional "min_length" nat).dump minLength ++
        (optional "max_length" nat).dump maxLength ++
        (optional "example" Scalar.codec).dump example_)

def dumpProperties : List (String × ValueSchema) → Dict Tree
  | [] => []
  | (name, schema) :: rest =>
      (name, schema.dump) :: dumpProperties rest

end

mutual

/-- The schema with the properties of every level rearranged. -/
def arranged (rendering : Rendering) : ValueSchema → ValueSchema
  | ⟨type, description, dataClassification, persistence, required, properties,
      pattern, format, enum, const, minLength, maxLength, example_⟩ =>
      ⟨type, description, dataClassification, persistence, required,
        rendering.arrange (arrangedProperties rendering properties), pattern,
        format, enum, const, minLength, maxLength, example_⟩

def arrangedProperties (rendering : Rendering) :
    List (String × ValueSchema) → Dict ValueSchema
  | [] => []
  | (name, schema) :: rest =>
      (name, schema.arranged rendering) :: arrangedProperties rendering rest

end

theorem dumpProperties_eq (properties : Dict ValueSchema) :
    dumpProperties properties =
      properties.mapValues dump := by
  induction properties with
  | nil => rfl
  | cons entry rest ih => simp [dumpProperties, Dict.mapValues, ih]

theorem arrangedProperties_eq (rendering : Rendering)
    (properties : Dict ValueSchema) :
    arrangedProperties rendering properties =
      properties.mapValues (arranged rendering) := by
  induction properties with
  | nil => rfl
  | cons entry rest ih => simp [arrangedProperties, Dict.mapValues, ih]

/-- The fields, given the codec of the nested schemas. -/
def fields (inner : Codec ValueSchema)
    (solid : ∀ value, (inner.dump value).isEmpty = false) :
    Part ValueSchema :=
  ((Part.required "type" JsonValueType.codec).both <|
    (Part.required "description" text).both <|
    (Part.required "data_classification" DataClassification.codec).both <|
    (Part.defaulted "persistence" PersistenceMode.codec .redacted
      fun _ => trivial).both <|
    (Part.listed false "required" text).both <|
    (Part.defaulted "properties" (dict inner solid) []
      fun _ => ⟨List.nodup_nil, fun _ member => nomatch member⟩).both <|
    (fixedFlag false "additional_properties" false).both <|
    (Part.optional "pattern" text).both <|
    (Part.optional "format" ValueFormat.codec).both <|
    (Part.listed false "enum" Scalar.codec).both <|
    (Part.optional "const" Scalar.codec).both <|
    (Part.optional "min_length" nat).both <|
    (Part.optional "max_length" nat).both <|
    Part.optional "example" Scalar.codec).map
  (fun (type, description, dataClassification, persistence, required,
      properties, (), pattern, format, enum, const, minLength, maxLength,
      example_) =>
    ⟨type, description, dataClassification, persistence, required, properties,
      pattern, format, enum, const, minLength, maxLength, example_⟩)
  (fun schema =>
    (schema.type, schema.description, schema.dataClassification,
      schema.persistence, schema.required, schema.properties, (),
      schema.pattern, schema.format, schema.enum, schema.const,
      schema.minLength, schema.maxLength, schema.example_))
  fun _ => rfl

theorem fields_distinct (inner : Codec ValueSchema)
    (solid : ∀ value, (inner.dump value).isEmpty = false) :
    (fields inner solid).names.Nodup := by
  change ["type", "description", "data_classification", "persistence",
    "required", "properties", "additional_properties", "pattern", "format",
    "enum", "const", "min_length", "max_length", "example"].Nodup
  decide

theorem dump_solid (schema : ValueSchema) :
    schema.dump.isEmpty = false := by
  cases schema
  rfl

/-- A schema with at most the given number of levels. -/
def codecAt : (depth : Nat) →
    { codec : Codec ValueSchema // ∀ value,
      (codec.dump value).isEmpty = false }
  | 0 => ⟨.never dump arranged, dump_solid⟩
  | depth + 1 =>
      let inner := codecAt depth
      ⟨.record (fields inner.1 inner.2) (fields_distinct inner.1 inner.2),
        fun _ => rfl⟩

theorem dump_codecAt (depth : Nat) : (codecAt depth).1.dump = dump := by
  induction depth with
  | zero => rfl
  | succ depth ih =>
      funext schema
      cases schema with
      | mk type description dataClassification persistence names properties
          pattern format enum const minLength maxLength example_ =>
          have nested : dumpProperties properties =
              Dict.mapValues (codecAt depth).1.dump properties := by
            rw [ih, dumpProperties_eq]
          simp only [dump, nested, List.append_assoc]
          rfl

theorem normal_fields (inner : Codec ValueSchema)
    (solid : ∀ value, (inner.dump value).isEmpty = false)
    (rendering : Rendering) (schema : ValueSchema) :
    (fields inner solid).normal rendering schema =
      { schema with
        properties := Dict.mapValues (inner.normal rendering)
          (rendering.arrange schema.properties) } := by
  simp only [fields, Part.map, embed, both, Part.normal_eq]
  rfl

theorem normal_codecAt (depth : Nat) :
    (codecAt depth).1.normal = arranged := by
  induction depth with
  | zero => rfl
  | succ depth ih =>
      funext rendering schema
      cases schema
      simp only [codecAt, record, normal_fields, arranged, ih,
        arrangedProperties_eq, Rendering.arrange_mapValues]

/-- The names of the fields that may be empty without being a default. -/
def firmNames : List String :=
  ["type", "description", "data_classification", "persistence", "properties",
    "additional_properties", "pattern", "format", "const", "min_length",
    "max_length", "example"]

theorem firm_codecAt (depth : Nat) : (codecAt depth).1.firm ⊆ firmNames := by
  induction depth with
  | zero => exact List.nil_subset _
  | succ depth ih =>
      change "type" :: "description" :: "data_classification" ::
        "persistence" :: "properties" :: ((codecAt depth).1.firm ++
          ["additional_properties", "pattern", "format", "const",
            "min_length", "max_length", "example"]) ⊆ firmNames
      intro name member
      simp only [List.mem_cons, List.mem_append] at member
      rcases member with rfl | rfl | rfl | rfl | rfl | deeper | member
      · simp [firmNames]
      · simp [firmNames]
      · simp [firmNames]
      · simp [firmNames]
      · simp [firmNames]
      · exact ih deeper
      · revert member
        simp only [firmNames, List.mem_cons]
        tauto

/-- A schema whose levels are no more than the reader's depth. -/
def codec : Codec ValueSchema where
  dump := dump
  load reader json := (codecAt reader.depth).1.load reader json
  normal := arranged
  Legal depth schema := (codecAt depth).1.Legal depth schema
  firm := firmNames
  sound loaded := (codecAt _).1.sound loaded
  plain {depth _} legal := by
    rw [← dump_codecAt depth]
    exact (codecAt depth).1.plain legal
  reads {_ reader _} written spares legal := by
    rw [← dump_codecAt reader.depth, ← normal_codecAt reader.depth]
    refine (codecAt reader.depth).1.reads written ?_ legal
    exact fun name pruned member =>
      spares name pruned (firm_codecAt reader.depth member)

end ValueSchema

/-- The properties of a contract. -/
def propertiesCodec : Codec (Dict ValueSchema) :=
  .dict ValueSchema.codec ValueSchema.dump_solid

namespace ObjectContract

def codec : Codec ObjectContract :=
  .record <|
    ((constant false "type" (.enum "object") (.str "object")
      (fun _ => rfl) trivial).both <|
    (fixedFlag false "additional_properties" false).both <|
    (Part.required "required" text.list).both <|
    Part.required "properties" propertiesCodec).map
    (fun ((), (), required, properties) => ⟨required, properties⟩)
    fun contract => ((), (), contract.required, contract.properties)

end ObjectContract

namespace ValueSource

def kind : ValueSource → String
  | .input _ => "input"
  | .literal _ => "literal"

def codec : Codec ValueSource :=
  .union "source" kind [
    variant "input" (required "path" text) .input
      fun | .input path => some path | _ => none,
    variant "literal" (required "value" Scalar.codec) .literal
      fun | .literal value => some value | _ => none]

instance : codec.Steady := by
  apply steady_union
  repeat apply SteadyForms.cons
  exact .nil

end ValueSource

end ReplayForge

import ReplayForge.Capabilities.Conformance

/-!
# Walking a contract and a value by a dotted path

Three walkers step through nested contracts: the check that a path is
declared, the classification of a binding and the lookup of an input.  In a
validated contract only objects have properties, so they agree.
-/

namespace ReplayForge

/-- The schema declared at a path. -/
def schemaAt : Dict ValueSchema → List String → Option ValueSchema
  | _, [] => none
  | properties, part :: rest =>
      match properties.get? part with
      | none => none
      | some schema =>
          match rest with
          | [] => some schema
          | _ :: _ => schemaAt schema.properties rest

/-- The keys of a path are present in a value, one inside the other. -/
inductive IsPresent : Json → List String → Prop where
  | key {fields : List (String × Json)} {key : String} {item : Json} :
      Dict.get? fields key = some item → IsPresent (.obj fields) [key]
  | inside {fields : List (String × Json)} {key : String} {item : Json}
      {parts : List String} :
      Dict.get? fields key = some item → IsPresent item parts →
      IsPresent (.obj fields) (key :: parts)

def pathParts (path : String) : List String :=
  Text.splitOnChar '.' path

theorem pathParts_ne_nil (path : String) : pathParts path ≠ [] := by
  simp [pathParts, Text.splitOnChar, List.splitOn, List.splitOnP_ne_nil]

/-! ## Validated schemas -/

section Validated

variable {host : Host} {properties : Dict ValueSchema} {schema : ValueSchema}

theorem validateProperties_get? {key : String}
    (validated : ValueSchema.validateProperties host properties = .ok ())
    (found : properties.get? key = some schema) :
    schema.validate host = .ok () := by
  induction properties with
  | nil => simp at found
  | cons entry rest ih =>
      obtain ⟨name, declared⟩ := entry
      rw [ValueSchema.validateProperties, check_bind_eq_ok] at validated
      rw [Dict.get?_cons] at found
      by_cases same : key = name
      · rw [if_pos same, Option.some.injEq] at found
        rw [← found]
        exact validated.1
      · rw [if_neg same] at found
        exact ih validated.2 found

theorem ValueSchema.validate_properties
    (validated : schema.validate host = .ok ()) :
    ValueSchema.validateProperties host schema.properties = .ok () := by
  cases schema
  rw [ValueSchema.validate, check_bind_eq_ok] at validated
  exact validated.1

/-- Only an object declares properties. -/
theorem ValueSchema.properties_eq_nil
    (validated : schema.validate host = .ok ())
    (scalar : schema.type ≠ .object) : schema.properties = [] := by
  cases schema
  rw [ValueSchema.validate, check_bind_eq_ok] at validated
  have shape := validated.2
  simp only [ValueSchema.validateShape, check_bind_eq_ok, scalar,
    if_false] at shape
  have empty := shape.2.1
  simp only [require_eq_ok, Bool.and_eq_true, List.isEmpty_iff] at empty
  exact empty.1

end Validated

/-! ## The three walkers -/

section Walkers

variable {host : Host} {properties : Dict ValueSchema} {parts : List String}

theorem propertiesHavePath_iff :
    propertiesHavePath properties parts = true ↔
      ∃ part rest schema, parts = part :: rest ∧
        properties.get? part = some schema ∧
        (rest ≠ [] → schema.type = .object ∧
          propertiesHavePath schema.properties rest = true) := by
  cases parts with
  | nil => simp [propertiesHavePath]
  | cons part rest =>
      rw [propertiesHavePath]
      cases found : properties.get? part with
      | none => simp [found]
      | some schema => cases rest <;> simp [found]

/-- Without a forbidden class, exactly the declared paths are classified. -/
theorem classifyParts_isSome_iff (present : parts ≠ [])
    (validated : ValueSchema.validateProperties host properties = .ok ())
    (classification : Option DataClassification) :
    (classifyParts [] properties classification parts).isSome = true ↔
      propertiesHavePath properties parts = true := by
  induction parts generalizing properties classification with
  | nil => exact absurd rfl present
  | cons part rest ih =>
      rw [classifyParts, propertiesHavePath]
      cases found : properties.get? part with
      | none => simp
      | some schema =>
          have sound := validateProperties_get? validated found
          cases rest with
          | nil => simp [classifyParts]
          | cons next others =>
              have deeper := ih (by simp) (ValueSchema.validate_properties sound)
                (some schema.dataClassification)
              simp only [List.not_mem_nil, if_false, deeper,
                Bool.and_eq_true, decide_eq_true_eq]
              constructor
              · intro declared
                refine ⟨?_, declared⟩
                by_contra scalar
                rw [ValueSchema.properties_eq_nil sound scalar] at declared
                simp [propertiesHavePath] at declared
              · exact fun both => both.2

/-- A forbidden class on the way is returned, whatever follows. -/
theorem classifyParts_forbidden {forbidden : List DataClassification}
    {front : List String} {schema : ValueSchema}
    (placed : schemaAt properties front = some schema)
    (withheld : schema.dataClassification ∈ forbidden) (back : List String)
    (classification : Option DataClassification) :
    ∃ found ∈ forbidden,
      classifyParts forbidden properties classification (front ++ back) =
        some found := by
  induction front generalizing properties classification with
  | nil => simp [schemaAt] at placed
  | cons part rest ih =>
      rw [schemaAt] at placed
      rw [List.cons_append, classifyParts]
      cases found : properties.get? part with
      | none => simp [found] at placed
      | some declared =>
          by_cases early : declared.dataClassification ∈ forbidden
          · exact ⟨_, early, by simp [early]⟩
          · rw [found] at placed
            cases rest with
            | nil =>
                rw [Option.some.injEq] at placed
                subst placed
                exact absurd withheld early
            | cons next others =>
                simp only [early, if_false]
                exact ih placed (some declared.dataClassification)

theorem resolveParts_isSome_iff {value : Json} (present : parts ≠ []) :
    (resolveParts value parts).isSome = true ↔ IsPresent value parts := by
  induction parts generalizing value with
  | nil => exact absurd rfl present
  | cons part rest ih =>
      rw [resolveParts]
      cases value with
      | obj fields =>
          rw [show Json.field? (.obj fields) part = Dict.get? fields part from
            rfl]
          constructor
          · intro resolved
            cases found : Dict.get? fields part with
            | none => simp [found] at resolved
            | some item =>
                rw [found] at resolved
                cases rest with
                | nil => exact .key found
                | cons next others =>
                    exact .inside found ((ih (by simp)).mp resolved)
          · intro found
            cases found with
            | key found => simp [found, resolveParts]
            | @inside _ _ item _ found inner =>
                rw [found]
                cases rest with
                | nil => cases inner
                | cons next others => exact (ih (by simp)).mpr inner
      | null | bool _ | int _ | real _ | str _ | arr _ =>
          constructor
          · intro resolved
            simp [Json.field?] at resolved
          · intro found
            cases found

/-- Every prefix of a present path is present. -/
theorem IsPresent.front {value : Json} (whole : IsPresent value parts)
    {front : List String} (some : front ≠ []) (leads : front <+: parts) :
    IsPresent value front := by
  induction whole generalizing front with
  | @key fields key item found =>
      cases front with
      | nil => exact absurd rfl some
      | cons first rest =>
          obtain ⟨same, shorter⟩ := List.cons_prefix_cons.mp leads
          rw [List.prefix_nil.mp shorter, same]
          exact .key found
  | @inside fields key item parts found _ ih =>
      cases front with
      | nil => exact absurd rfl some
      | cons first rest =>
          obtain ⟨same, shorter⟩ := List.cons_prefix_cons.mp leads
          subst same
          cases rest with
          | nil => exact .key found
          | cons next others => exact .inside found (ih (by simp) shorter)

/-- A value resolved from a conforming object conforms to the schema at its
path. -/
theorem MembersConform.resolved {contract : ObjectContract}
    {fields : List (String × Json)}
    (conform : MembersConform host contract fields)
    (declared : propertiesHavePath contract.properties parts = true)
    {item : Json} (resolved : resolveParts (.obj fields) parts = some item) :
    ∃ schema, schemaAt contract.properties parts = some schema ∧
      Conforms host schema item := by
  induction parts generalizing contract fields with
  | nil => simp [propertiesHavePath] at declared
  | cons part rest ih =>
      obtain ⟨_, _, schema, same, found, deeper⟩ :=
        propertiesHavePath_iff.mp declared
      cases same
      rw [resolveParts] at resolved
      rw [show Json.field? (.obj fields) part = Dict.get? fields part from
        rfl] at resolved
      cases held : Dict.get? fields part with
      | none => simp [held] at resolved
      | some inner =>
          rw [held] at resolved
          change resolveParts inner rest = some item at resolved
          have conforms := conform part inner schema (Dict.mem_of_get? held) found
          rw [schemaAt, found]
          cases rest with
          | nil =>
              rw [resolveParts, Option.some.injEq] at resolved
              subst resolved
              exact ⟨schema, rfl, conforms⟩
          | cons next others =>
              obtain ⟨isObject, declared⟩ := deeper (by simp)
              obtain ⟨shaped, _⟩ := conforms
              cases shaped with
              | object _ _ members => exact ih members declared resolved
              | string type _ | integer type | boolean type =>
                  rw [isObject] at type
                  cases type

end Walkers

/-- The three walkers agree on every dotted path. -/
theorem contractPaths_agree {host : Host} {contract : ObjectContract}
    (validated : contract.validate host = .ok ()) (path : String) :
    ((∃ found, bindingClassification contract path [] = some found) ↔
      contractHasPath contract path = true) ∧
    (∀ value result, validateObject host contract value = .ok result →
      contractHasPath contract path = true →
      ((∃ item, resolveInput value path = .ok item) ↔
        ∀ front, front ≠ [] → front <+: pathParts path →
          IsPresent (.obj value) front) ∧
      ∀ item, resolveInput value path = .ok item →
        ∃ schema, schemaAt contract.properties (pathParts path) = some schema ∧
          Conforms host schema item) ∧
    (∀ forbidden declared schema,
      pathParts declared <+: pathParts path →
      schemaAt contract.properties (pathParts declared) = some schema →
      schema.dataClassification ∈ forbidden →
      ∃ found ∈ forbidden,
        bindingClassification contract path forbidden = some found) := by
  have properties : ValueSchema.validateProperties host contract.properties =
      .ok () := by
    rw [ObjectContract.validate, check_bind_eq_ok] at validated
    exact validated.1
  have resolves : ∀ value item, resolveInput value path = .ok item ↔
      resolveParts (.obj value) (pathParts path) = some item := by
    intro value item
    rw [resolveInput, pathParts]
    cases resolveParts (.obj value) (Text.splitOnChar '.' path) <;> simp
  refine ⟨?_, ?_, ?_⟩
  · rw [← Option.isSome_iff_exists]
    exact classifyParts_isSome_iff (pathParts_ne_nil path) properties none
  · intro value result accepted declared
    have conforms := ObjectConforms.of_accepted accepted
    constructor
    · simp only [resolves, ← Option.isSome_iff_exists,
        resolveParts_isSome_iff (pathParts_ne_nil path)]
      constructor
      · intro whole front some leads
        exact whole.front some leads
      · intro fronts
        exact fronts _ (pathParts_ne_nil path) (List.prefix_refl _)
    · intro item resolved
      exact conforms.members.resolved declared ((resolves value item).mp resolved)
  · intro forbidden declared schema leads placed withheld
    obtain ⟨back, split⟩ := leads
    rw [bindingClassification, ← pathParts, ← split]
    exact classifyParts_forbidden placed withheld back none

namespace PathSample

def name : ValueSchema where
  type := .string
  description := "Full name"
  dataClassification := .personal
  persistence := .redacted
  required := []
  properties := []
  pattern := none
  format := none
  enum := []
  const := none
  minLength := none
  maxLength := none
  example_ := none

def holder : ValueSchema := { name with
  type := .object
  description := "Account holder"
  dataClassification := .operational
  required := ["name"]
  properties := [("name", name)] }

def contract : ObjectContract where
  required := []
  properties := [("holder", holder)]

theorem validated : contract.validate Sample.host = .ok () := by
  decide +kernel

def ada : List (String × Json) := [("holder", .obj [("name", .str "Ada")])]

theorem accepted : validateObject Sample.host contract ada = .ok ada := by
  decide +kernel

theorem present : ∀ front, front ≠ [] → front <+: pathParts "holder.name" →
    IsPresent (.obj ada) front := by
  have whole : IsPresent (.obj ada) (pathParts "holder.name") :=
    .inside rfl (.key rfl)
  intro front some leads
  exact whole.front some leads

end PathSample

/-- A holder's name is declared, resolves to a string, and is withheld with the
personal data. -/
theorem contractPaths_agree_sample :
    (∃ found, bindingClassification PathSample.contract "holder.name" [] =
      some found) ∧
    (∃ item schema,
      resolveInput PathSample.ada "holder.name" = .ok item ∧
      schemaAt PathSample.contract.properties (pathParts "holder.name") =
        some schema ∧
      Conforms Sample.host schema item) ∧
    bindingClassification PathSample.contract "holder.name" [.personal] =
      some .personal := by
  obtain ⟨classified, resolved, withheld⟩ :=
    contractPaths_agree PathSample.validated "holder.name"
  have declared : contractHasPath PathSample.contract "holder.name" = true := by
    decide +kernel
  refine ⟨classified.mpr declared, ?_, ?_⟩
  · obtain ⟨present, conforms⟩ :=
      resolved PathSample.ada _ PathSample.accepted declared
    obtain ⟨item, found⟩ := present.mpr PathSample.present
    obtain ⟨schema, placed, holds⟩ := conforms item found
    exact ⟨item, schema, found, placed, holds⟩
  · obtain ⟨found, member, classification⟩ :=
      withheld [.personal] "holder.name" PathSample.name (List.prefix_refl _)
        rfl (by simp [PathSample.name])
    rw [List.mem_singleton.mp member] at classification
    exact classification

end ReplayForge

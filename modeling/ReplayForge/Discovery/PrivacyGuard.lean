import ReplayForge.Capabilities.Attributes
import ReplayForge.Discovery.Privacy
import ReplayForge.Shared.Escaping

/-!
# The privacy guard of a publication

Before an artifact is published every string of it, keys included, is compared
with the known private values.  Both sides are encoded and folded, and bound
identifiers are exempt from all but whole copies of captured values.
-/

namespace ReplayForge

/-- `ArtifactPrivacyError` or another `EvidenceRejectedError`. -/
inductive PrivacyRejection where
  | artifactPrivacy (source : ValueOrigin) (location : String)
  | evidence (error : Raised)
deriving DecidableEq

/-- The libraries the guard calls. -/
structure GuardLibraries extends PrivacyLibraries where
  /-- `json.dumps` of a real number. -/
  realText : Rat → String
  /-- One of the personal patterns is found in the text. -/
  personalFound : Bytes → Bool

/-- `_REFERENCE_FIELDS`, and the names a contract declares -/
def ModelClass.isReference (type : ModelClass) (name : String) : Bool :=
  match type with
  | .capabilityPolicy => name = "output_redaction"
  | .inputValue => name = "path"
  | .extractAction | .outputValidCondition | .outputEqualsCondition =>
      name = "output"
  | .identityMatchesCondition => name ∈ ["extracted_output", "input_path"]
  | .objectContract | .valueSchema => name ∈ ["properties", "required"]
  | .plain => false

/-- `_matches_literal` -/
def matchesLiteral (encoded serialized : String) (source : ValueOrigin)
    (reference : Bool) : Bool :=
  if source = .captured && reference then encoded = serialized
  else Text.containsText encoded serialized

namespace GuardLibraries

variable (libraries : GuardLibraries)

/-- `json.dumps(text, ensure_ascii=False)[1:-1].casefold()` -/
def encoded (text : String) : String :=
  libraries.host.casefold (Text.escape text)

/-- `serialized in json.dumps(value).casefold()` -/
def numberMatches (serialized text : String) : Bool :=
  Text.containsText (libraries.host.casefold text) serialized

/-- The first of the members that matches. -/
def matchMembers (serialized : String) (source : ValueOrigin) (path : String)
    (reference : Bool) : Nat → List String → Option String
  | _, [] => none
  | index, member :: rest =>
      if matchesLiteral (libraries.encoded member) serialized source reference
      then some (path ++ "[" ++ toString index ++ "]")
      else matchMembers serialized source path reference (index + 1) rest

mutual

/-- `_match_location` -/
def matchLocation (serialized : String) (source : ValueOrigin) :
    (path : String) → (reference : Bool) → Attribute → Option String
  | path, _, .model type fields =>
      matchFields serialized source path type fields
  | path, reference, .dict entries =>
      matchEntries serialized source path reference entries
  | path, reference, .seq items =>
      matchItems serialized source path reference 0 items
  | path, reference, .set members =>
      libraries.matchMembers serialized source path reference 0 members
  | path, reference, .str value | path, reference, .enum value =>
      if matchesLiteral (libraries.encoded value) serialized source reference
      then some path else none
  | path, _, .bool value =>
      if libraries.numberMatches serialized (if value then "true" else "false")
      then some path else none
  | path, _, .int value =>
      if libraries.numberMatches serialized (toString value) then some path
      else none
  | path, _, .real value =>
      if libraries.numberMatches serialized (libraries.realText value)
      then some path else none
  | _, _, .stamp _ | _, _, .none => none

def matchFields (serialized : String) (source : ValueOrigin) (path : String)
    (type : ModelClass) : List (String × Attribute) → Option String
  | [] => none
  | (name, value) :: rest =>
      if path = "artifact" && name = "provenance" then
        matchFields serialized source path type rest
      else if source = .invocation &&
          Text.containsText (libraries.host.casefold name) serialized then
        some (path ++ "." ++ name ++ ":key")
      else
        match matchLocation serialized source (path ++ "." ++ name)
            (type.isReference name) value with
        | some found => some found
        | none => matchFields serialized source path type rest

/-- The values of a dictionary are no identifiers. -/
def matchEntries (serialized : String) (source : ValueOrigin) (path : String)
    (reference : Bool) : List (String × Attribute) → Option String
  | [] => none
  | (key, value) :: rest =>
      if matchesLiteral (libraries.encoded key) serialized source reference
      then some (path ++ ".*:key")
      else
        match matchLocation serialized source (path ++ ".*") false value with
        | some found => some found
        | none => matchEntries serialized source path reference rest

def matchItems (serialized : String) (source : ValueOrigin) (path : String)
    (reference : Bool) : Nat → List Attribute → Option String
  | _, [] => none
  | index, value :: rest =>
      match matchLocation serialized source
          (path ++ "[" ++ toString index ++ "]") reference value with
      | some found => some found
      | none => matchItems serialized source path reference (index + 1) rest

end

/-- The comparison of the artifact with the known values. -/
def checkKnownValues (artifact : CapabilityArtifact) :
    List (ValueOrigin × String) → Except PrivacyRejection Unit
  | [] => .ok ()
  | (source, value) :: rest =>
      match libraries.matchLocation (libraries.encoded value) source "artifact"
          false artifact.attributes with
      | some location => .error (.artifactPrivacy source location)
      | none => checkKnownValues artifact rest

/-- `validate_artifact_privacy` -/
def validateArtifactPrivacy (redactor : StructuredRedactor)
    (artifact : CapabilityArtifact) (inputs outputs : Fields) :
    Except PrivacyRejection Unit := do
  let content := libraries.modelDumpJson artifact
  (redactor.scan libraries.encoders content).mapError .evidence
  if libraries.personalFound content then
    throw (.evidence (.value "artifact contains personal-data-shaped text"))
  else
    libraries.checkKnownValues artifact (knownValues artifact inputs outputs)

end GuardLibraries

/-! ## The texts of an artifact -/

/-- The text is a string leaf or a mapping key of the attribute; the first flag
says whether the attribute is a bound identifier, the second whether the text
is one. -/
inductive Attribute.Appears : Bool → Attribute → Bool → String → Prop where
  | str {reference : Bool} {value : String} :
      Appears reference (.str value) reference value
  | enum {reference : Bool} {value : String} :
      Appears reference (.enum value) reference value
  | member {reference : Bool} {members : List String} {value : String} :
      value ∈ members → Appears reference (.set members) reference value
  | key {reference : Bool} {entries : List (String × Attribute)}
      {key : String} {value : Attribute} :
      (key, value) ∈ entries → Appears reference (.dict entries) reference key
  | entry {reference symbol : Bool} {entries : List (String × Attribute)}
      {key text : String} {value : Attribute} :
      (key, value) ∈ entries → Appears false value symbol text →
      Appears reference (.dict entries) symbol text
  | item {reference symbol : Bool} {items : List Attribute}
      {value : Attribute} {text : String} :
      value ∈ items → Appears reference value symbol text →
      Appears reference (.seq items) symbol text
  | field {reference symbol : Bool} {type : ModelClass}
      {fields : List (String × Attribute)} {name text : String}
      {value : Attribute} :
      (name, value) ∈ fields →
      Appears (type.isReference name) value symbol text →
      Appears reference (.model type fields) symbol text

def Attribute.fields : Attribute → List (String × Attribute)
  | .model _ fields => fields
  | _ => []

/-- The text stands in the artifact outside its provenance. -/
def CapabilityArtifact.Publishes (artifact : CapabilityArtifact)
    (symbol : Bool) (text : String) : Prop :=
  ∃ name value, (name, value) ∈ artifact.attributes.fields ∧
    name ≠ "provenance" ∧ value.Appears false symbol text

/-- The text is a string leaf of the tree. -/
inductive Tree.Leaf : Tree → String → Prop where
  | str {value : String} : Leaf (.str value) value
  | enum {value : String} : Leaf (.enum value) value
  | member {members : List String} {value : String} :
      value ∈ members → Leaf (.set members) value
  | item {items : List Tree} {tree : Tree} {text : String} :
      tree ∈ items → Leaf tree text → Leaf (.arr items) text
  | entry {fields : List (String × Tree)} {name text : String} {tree : Tree} :
      (name, tree) ∈ fields → Leaf tree text → Leaf (.obj fields) text

namespace Attribute

theorem exists_of_mem_dumpFields {name : String} {tree : Tree}
    {fields : List (String × Attribute)}
    (member : (name, tree) ∈ dumpFields fields) :
    ∃ value, (name, value) ∈ fields ∧ value.dump = some tree := by
  induction fields with
  | nil => cases member
  | cons field rest ih =>
      obtain ⟨other, value⟩ := field
      rw [dumpFields, List.mem_append] at member
      rcases member with here | there
      · simp only [List.mem_map, Option.mem_toList, Prod.mk.injEq] at here
        obtain ⟨shown, held, rfl, rfl⟩ := here
        exact ⟨value, List.mem_cons_self, held⟩
      · obtain ⟨value, member, held⟩ := ih there
        exact ⟨value, List.mem_cons_of_mem _ member, held⟩

theorem exists_of_mem_dumpAll {tree : Tree} {items : List Attribute}
    (member : tree ∈ dumpAll items) :
    ∃ value ∈ items, value.dump = some tree := by
  induction items with
  | nil => cases member
  | cons item rest ih =>
      rw [dumpAll, List.mem_append] at member
      rcases member with here | there
      · exact ⟨item, List.mem_cons_self, by simpa using here⟩
      · obtain ⟨value, member, held⟩ := ih there
        exact ⟨value, List.mem_cons_of_mem _ member, held⟩

/-- A leaf of the dump is a text of the attribute. -/
theorem appears_of_leaf {tree : Tree} {text : String} (leaf : tree.Leaf text) :
    ∀ {whole : Attribute} (reference : Bool),
      whole.dump = some tree →
        ∃ symbol, whole.Appears reference symbol text := by
  induction leaf with
  | str =>
      intro whole reference held
      cases whole <;> cases held
      exact ⟨_, .str⟩
  | enum =>
      intro whole reference held
      cases whole <;> cases held
      exact ⟨_, .enum⟩
  | member within =>
      intro whole reference held
      cases whole <;> cases held
      exact ⟨_, .member within⟩
  | item within _ ih =>
      intro whole reference held
      cases whole <;> cases held
      obtain ⟨value, member, shown⟩ := exists_of_mem_dumpAll within
      obtain ⟨symbol, appears⟩ := ih reference shown
      exact ⟨symbol, .item member appears⟩
  | entry within _ ih =>
      intro whole reference held
      cases whole with
      | model type fields =>
          cases held
          obtain ⟨value, member, shown⟩ := exists_of_mem_dumpFields within
          obtain ⟨symbol, appears⟩ := ih (type.isReference _) shown
          exact ⟨symbol, .field member appears⟩
      | dict entries =>
          cases held
          obtain ⟨value, member, shown⟩ := exists_of_mem_dumpFields within
          obtain ⟨symbol, appears⟩ := ih false shown
          exact ⟨symbol, .entry member appears⟩
      | _ => cases held

end Attribute

/-- Every string leaf of a dump outside the provenance is published. -/
theorem CapabilityArtifact.publishes_of_leaf {artifact : CapabilityArtifact}
    {fields : Dict Tree} {name text : String} {tree : Tree}
    (dumped : (codec false).dump artifact = .obj fields)
    (member : (name, tree) ∈ fields) (apart : name ≠ "provenance")
    (leaf : tree.Leaf text) : ∃ symbol, artifact.Publishes symbol text := by
  have shown := CapabilityArtifact.shows artifact
  rw [dumped] at shown
  injection shown with shown
  injection shown with shown
  rw [← shown] at member
  obtain ⟨value, within, held⟩ := Attribute.exists_of_mem_dumpFields member
  obtain ⟨symbol, appears⟩ := Attribute.appears_of_leaf leaf false held
  exact ⟨symbol, name, value, within, apart, appears⟩

/-! ## What passes the guard -/

namespace GuardLibraries

variable {libraries : GuardLibraries} {serialized : String}
  {source : ValueOrigin} {path : String} {reference : Bool}

theorem not_matches_of_mem_members {index : Nat} {members : List String}
    (clear : libraries.matchMembers serialized source path reference index
      members = none) {value : String} (member : value ∈ members) :
    matchesLiteral (libraries.encoded value) serialized source reference =
      false := by
  induction members generalizing index with
  | nil => cases member
  | cons first rest ih =>
      rw [matchMembers] at clear
      split at clear
      · cases clear
      next apart =>
        rcases List.mem_cons.mp member with rfl | later
        · simpa using apart
        · exact ih clear later

theorem matchLocation_of_mem_items {index : Nat} {items : List Attribute}
    (clear : libraries.matchItems serialized source path reference index
      items = none) {value : Attribute} (member : value ∈ items) :
    ∃ index : Nat, libraries.matchLocation serialized source
      (path ++ "[" ++ toString index ++ "]") reference value = none := by
  induction items generalizing index with
  | nil => cases member
  | cons first rest ih =>
      rw [matchItems] at clear
      split at clear
      · cases clear
      next none =>
        rcases List.mem_cons.mp member with rfl | later
        · exact ⟨index, none⟩
        · exact ih clear later

theorem matchLocation_of_mem_entries {entries : List (String × Attribute)}
    (clear : libraries.matchEntries serialized source path reference
      entries = none) {key : String} {value : Attribute}
    (member : (key, value) ∈ entries) :
    matchesLiteral (libraries.encoded key) serialized source reference =
        false ∧
      libraries.matchLocation serialized source (path ++ ".*") false value =
        none := by
  induction entries with
  | nil => cases member
  | cons entry rest ih =>
      rw [matchEntries] at clear
      split at clear
      · cases clear
      next apart =>
        split at clear
        · cases clear
        next none =>
          rcases List.mem_cons.mp member with rfl | later
          · exact ⟨by simpa using apart, none⟩
          · exact ih clear later

theorem matchLocation_of_mem_fields {type : ModelClass}
    {fields : List (String × Attribute)}
    (clear : libraries.matchFields serialized source path type fields = none)
    {name : String} {value : Attribute} (member : (name, value) ∈ fields)
    (kept : path = "artifact" → name ≠ "provenance") :
    libraries.matchLocation serialized source (path ++ "." ++ name)
      (type.isReference name) value = none := by
  induction fields with
  | nil => cases member
  | cons field rest ih =>
      rw [matchFields] at clear
      rcases List.mem_cons.mp member with rfl | later
      · rw [if_neg] at clear
        · split at clear
          · cases clear
          · split at clear
            · cases clear
            next none => exact none
        · simpa using kept
      · apply ih ?_ later
        split at clear
        · exact clear
        · split at clear
          · cases clear
          · split at clear
            · cases clear
            · exact clear

/-- A path below another one is not the top. -/
theorem below_ne_artifact {suffix : String} (below : path.length ≥ 8)
    (longer : suffix ≠ "") : path ++ suffix ≠ "artifact" := by
  intro same
  have lengths := congrArg String.length same
  rw [String.length_append] at lengths
  have long : "artifact".length = 8 := rfl
  rw [long] at lengths
  have empty : suffix.length = 0 := by omega
  exact longer (String.length_eq_zero_iff.mp empty)

/-- Where nothing matches, no text of the attribute does.  The induction is on
the place of the text; no path below the top is the top. -/
theorem not_matches_of_appears {whole : Attribute} {symbol : Bool}
    {text : String} (appears : whole.Appears reference symbol text) :
    ∀ {path : String}, 8 ≤ path.length → path ≠ "artifact" →
      libraries.matchLocation serialized source path reference whole =
        none →
      matchesLiteral (libraries.encoded text) serialized source symbol =
        false := by
  induction appears with
  | str =>
      intro path _ _ clear
      rw [matchLocation] at clear
      simpa using clear
  | enum =>
      intro path _ _ clear
      rw [matchLocation] at clear
      simpa using clear
  | member within =>
      intro path _ _ clear
      rw [matchLocation] at clear
      exact not_matches_of_mem_members clear within
  | key within =>
      intro path _ _ clear
      rw [matchLocation] at clear
      exact (matchLocation_of_mem_entries clear within).1
  | entry within _ ih =>
      intro path long _ clear
      rw [matchLocation] at clear
      exact ih (by rw [String.length_append]; omega)
        (below_ne_artifact long (by decide))
        (matchLocation_of_mem_entries clear within).2
  | item within _ ih =>
      intro path long _ clear
      rw [matchLocation] at clear
      obtain ⟨index, none⟩ := matchLocation_of_mem_items clear within
      rw [String.append_assoc, String.append_assoc] at none
      refine ih (by rw [String.length_append]; omega)
        (below_ne_artifact long ?_) none
      intro empty
      have lengths := congrArg String.length empty
      rw [String.length_append] at lengths
      have one : "[".length = 1 := rfl
      have zero : "".length = 0 := rfl
      omega
  | field within _ ih =>
      intro path long inner clear
      rw [matchLocation] at clear
      have none := matchLocation_of_mem_fields clear within
        fun top => absurd top inner
      rw [String.append_assoc] at none
      refine ih (by rw [String.length_append]; omega)
        (below_ne_artifact long ?_) none
      intro empty
      have lengths := congrArg String.length empty
      rw [String.length_append] at lengths
      have one : ".".length = 1 := rfl
      have zero : "".length = 0 := rfl
      omega

/-- The known values were each compared with the whole artifact. -/
theorem matchLocation_of_checkKnownValues {artifact : CapabilityArtifact}
    {known : List (ValueOrigin × String)}
    (passed : libraries.checkKnownValues artifact known = .ok ())
    {value : String} (member : (source, value) ∈ known) :
    libraries.matchLocation (libraries.encoded value) source "artifact" false
      artifact.attributes = none := by
  induction known with
  | nil => cases member
  | cons first rest ih =>
      rw [checkKnownValues] at passed
      split at passed
      · cases passed
      next none =>
        rcases List.mem_cons.mp member with rfl | later
        · exact none
        · exact ih passed later

/-- No published text matches a known value of an artifact that passed. -/
theorem not_matches_of_publishes {artifact : CapabilityArtifact}
    {known : List (ValueOrigin × String)}
    (passed : libraries.checkKnownValues artifact known = .ok ())
    {value text : String} {symbol : Bool} (member : (source, value) ∈ known)
    (publishes : artifact.Publishes symbol text) :
    matchesLiteral (libraries.encoded text) (libraries.encoded value) source
      symbol = false := by
  have clear := matchLocation_of_checkKnownValues passed member
  obtain ⟨name, held, within, apart, appears⟩ := publishes
  have top : artifact.attributes =
      .model .plain artifact.attributes.fields := rfl
  rw [top, matchLocation] at clear
  have none := matchLocation_of_mem_fields clear within fun _ => apart
  rw [String.append_assoc] at none
  refine not_matches_of_appears appears ?_ ?_ none
  · rw [String.length_append]
    exact Nat.le_add_right 8 _
  · have top : "artifact".length ≥ 8 := Nat.le_refl 8
    apply below_ne_artifact top
    intro empty
    have lengths := congrArg String.length empty
    rw [String.length_append] at lengths
    have one : ".".length = 1 := rfl
    have zero : "".length = 0 := rfl
    omega

theorem validateArtifactPrivacy_eq_ok {redactor : StructuredRedactor}
    {artifact : CapabilityArtifact} {inputs outputs : Fields}
    (returned : libraries.validateArtifactPrivacy redactor artifact inputs
      outputs = .ok ()) :
    libraries.checkKnownValues artifact
      (knownValues artifact inputs outputs) = .ok () := by
  unfold validateArtifactPrivacy at returned
  dsimp only at returned
  cases scanned : redactor.scan libraries.encoders
      (libraries.modelDumpJson artifact) with
  | error error =>
      rw [scanned] at returned
      cases returned
  | ok passed =>
      rw [scanned] at returned
      by_cases personal : libraries.personalFound
          (libraries.modelDumpJson artifact)
      · rw [if_pos personal] at returned
        cases returned
      · rw [if_neg personal] at returned
        exact returned

theorem mem_knownValues_of_invocation {artifact : CapabilityArtifact}
    {inputs outputs : Fields} {value : String}
    (member : value ∈ (Json.obj inputs).knownStrings) :
    (ValueOrigin.invocation, value) ∈ knownValues artifact inputs outputs :=
  List.mem_append_left _ (List.mem_map_of_mem member)

theorem mem_knownValues_of_captured {artifact : CapabilityArtifact}
    {inputs outputs : Fields} {name value : String} {held : Json}
    {schema : ValueSchema} (output : (name, held) ∈ outputs)
    (declared : artifact.outputs.properties.get? name = some schema)
    (classified : schema.dataClassification ∈ privateClassifications)
    (member : value ∈ held.knownStrings) :
    (ValueOrigin.captured, value) ∈ knownValues artifact inputs outputs := by
  refine List.mem_append_right _ (List.mem_flatMap.mpr ⟨_, output, ?_⟩)
  simp only [declared, if_pos classified]
  exact List.mem_map_of_mem member

variable {fold : Char → List Char}

/-- A folded value that occurs in a folded text also occurs once both are
encoded. -/
theorem not_infix_of_not_matches (folds : libraries.host.FoldsBy fold)
    {value text : String}
    (apart : Text.containsText (libraries.encoded text)
      (libraries.encoded value) = false) :
    ¬(libraries.host.casefold value).toList <:+:
      (libraries.host.casefold text).toList := by
  intro within
  have contained := Text.containsText_iff.mpr
    (Text.casefold_escape_infix folds within)
  rw [encoded, encoded, contained] at apart
  cases apart

/-- What the guard keeps out of an artifact. -/
structure Guards (libraries : GuardLibraries) (artifact : CapabilityArtifact)
    (inputs outputs : Fields) : Prop where
  /-- No published text contains an invocation value. -/
  invocation : ∀ value ∈ (Json.obj inputs).knownStrings, ∀ symbol text,
    artifact.Publishes symbol text →
      ¬(libraries.host.casefold value).toList <:+:
        (libraries.host.casefold text).toList
  /-- No published text contains a private captured value, except that an
  identifier may contain but not be one. -/
  captured : ∀ name held schema, (name, held) ∈ outputs →
    artifact.outputs.properties.get? name = some schema →
    schema.dataClassification ∈ privateClassifications →
    ∀ value ∈ held.knownStrings, ∀ symbol text,
      artifact.Publishes symbol text →
        if symbol then
          libraries.host.casefold text ≠ libraries.host.casefold value
        else
          ¬(libraries.host.casefold value).toList <:+:
            (libraries.host.casefold text).toList
  /-- Every string leaf of a dump outside the provenance is such a text. -/
  leaves : ∀ fields name tree text,
    (CapabilityArtifact.codec false).dump artifact = .obj fields →
    (name, tree) ∈ fields → name ≠ "provenance" → tree.Leaf text →
      ∃ symbol, artifact.Publishes symbol text

/-- The guard is sound. -/
theorem validateArtifactPrivacy_guards (folds : libraries.host.FoldsBy fold)
    {redactor : StructuredRedactor} {artifact : CapabilityArtifact}
    {inputs outputs : Fields}
    (returned : libraries.validateArtifactPrivacy redactor artifact inputs
      outputs = .ok ()) :
    libraries.Guards artifact inputs outputs := by
  have passed := validateArtifactPrivacy_eq_ok returned
  constructor
  case invocation =>
    intro value known symbol text publishes
    have apart := not_matches_of_publishes passed
      (mem_knownValues_of_invocation known) publishes
    simp only [matchesLiteral, reduceCtorEq, decide_false, Bool.false_and,
      Bool.false_eq_true, if_false] at apart
    exact not_infix_of_not_matches folds apart
  case captured =>
    intro name held schema output declared classified value known symbol text
      publishes
    have apart := not_matches_of_publishes passed
      (mem_knownValues_of_captured output declared classified known) publishes
    cases symbol with
    | true =>
        simp only [matchesLiteral, decide_true, Bool.and_self, if_true,
          decide_eq_false_iff_not] at apart
        rw [if_pos rfl]
        intro same
        apply apart
        rw [encoded, encoded, Text.casefold_escape folds,
          Text.casefold_escape folds, same]
    | false =>
        simp only [matchesLiteral, Bool.and_false, Bool.false_eq_true,
          if_false] at apart
        rw [if_neg Bool.false_ne_true]
        exact not_infix_of_not_matches folds apart
  case leaves =>
    intro fields name tree text dumped member apart leaf
    exact CapabilityArtifact.publishes_of_leaf dumped member apart leaf

end GuardLibraries

namespace Sample

/-- Texts without tokens and personal data. -/
noncomputable def guardLibraries : GuardLibraries where
  toPrivacyLibraries := { privacyLibraries with host := foldingHost }
  realText _ := "0.85"
  personalFound _ := false

/-- A redactor without configured secrets. -/
def plainRedactor : StructuredRedactor where
  pseudonymKey := []

/-- A value with a quote and a line break in it. -/
def quotedInputs : Fields :=
  [("note", .str "Jane \"J\"\nDoe")]

theorem payment_guarded :
    guardLibraries.validateArtifactPrivacy plainRedactor payment quotedInputs
      [] = .ok () := by
  decide +kernel

theorem payment_guards :
    guardLibraries.Guards payment quotedInputs [] :=
  GuardLibraries.validateArtifactPrivacy_guards foldingHost_folds
    payment_guarded

end Sample

end ReplayForge

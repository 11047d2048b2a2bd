import ReplayForge.Capabilities.Artifact
import ReplayForge.Data.DictOrder
import ReplayForge.Runs.JournalAtomicity

/-!
# Confidential results

Two results that differ only in values their contract withholds leave the same
terminal evidence.  A customer identifier shows nothing but its keyed token.
-/

namespace ReplayForge

namespace ValueSchema

mutual

/-- The classes of a schema and of the properties below it, stored in turn. -/
def visit (path : String) (result : Dict DataClassification) :
    ValueSchema → Dict DataClassification
  | ⟨_, _, dataClassification, _, _, properties, _, _, _, _, _, _, _⟩ =>
      visitProperties path (result.set path dataClassification) properties

def visitProperties (path : String) (result : Dict DataClassification) :
    List (String × ValueSchema) → Dict DataClassification
  | [] => result
  | (name, child) :: rest =>
      visitProperties path (visit (path ++ "." ++ name) result child) rest

end

end ValueSchema

/-- One directive of an output policy.  Tokenization reveals less than the last
four characters, and a stronger class stands. -/
def restrictOutput (start : String) (result : Dict DataClassification)
    (directive : String × OutputRedaction) : Dict DataClassification :=
  let path := start ++ "." ++ directive.1
  if directive.2 = .remove then result.set path .personal
  else if (result.get? path).any DataClassification.isOpen then
    result.set path .customerIdentifier
  else result

def contractClassifications (contract : ObjectContract) (start : String)
    (redactions : Dict OutputRedaction) : Dict DataClassification :=
  redactions.foldl (restrictOutput start)
    (ValueSchema.visitProperties start [] contract.properties)

/-- What the journal of a replay is told of its result. -/
def resultClassifications (outputs : ObjectContract)
    (redactions : Dict OutputRedaction) : Dict DataClassification :=
  ((contractClassifications outputs "outputs" redactions).set
    "expected" .personal).set "observed" .personal

/-- The paths below a start. -/
def Below (start path : String) : Prop :=
  ∃ rest, path = start ++ "." ++ rest

theorem Below.child {start path : String} (below : Below start path)
    (name : String) : Below start (path ++ "." ++ name) := by
  obtain ⟨rest, rfl⟩ := below
  exact ⟨rest ++ "." ++ name, by simp only [String.append_assoc]⟩

/-- A dictionary whose keys are distinct paths below a start. -/
structure FiledBelow (start : String) (dict : Dict DataClassification) :
    Prop where
  distinct : dict.keys.Nodup
  below : ∀ key ∈ dict.keys, Below start key

theorem FiledBelow.set {start path : String} {dict : Dict DataClassification}
    (filed : FiledBelow start dict) (below : Below start path)
    (classification : DataClassification) :
    FiledBelow start (dict.set path classification) := by
  have stored := Dict.distinct_set filed.distinct path classification
  refine ⟨stored.1, fun key member => ?_⟩
  rcases (stored.2 key).mp member with rfl | earlier
  · exact below
  · exact filed.below key earlier

namespace ValueSchema

variable {start : String}

mutual

theorem visit_filed {path : String} {result : Dict DataClassification}
    (filed : FiledBelow start result) (below : Below start path) :
    ∀ schema : ValueSchema, FiledBelow start (visit path result schema)
  | ⟨_, _, _, _, _, properties, _, _, _, _, _, _, _⟩ => by
      rw [visit]
      exact visitProperties_filed (filed.set below _) below.child properties

theorem visitProperties_filed {path : String}
    {result : Dict DataClassification} (filed : FiledBelow start result)
    (children : ∀ name, Below start (path ++ "." ++ name)) :
    ∀ properties : List (String × ValueSchema),
      FiledBelow start (visitProperties path result properties)
  | [] => by
      rw [visitProperties]
      exact filed
  | (name, child) :: rest => by
      rw [visitProperties]
      exact visitProperties_filed (visit_filed filed (children name) child)
        children rest

end

end ValueSchema

theorem restrictOutput_filed {start : String}
    {result : Dict DataClassification} (filed : FiledBelow start result)
    (directive : String × OutputRedaction) :
    FiledBelow start (restrictOutput start result directive) := by
  unfold restrictOutput
  dsimp only
  split
  next => exact filed.set ⟨_, rfl⟩ _
  next =>
    split
    next => exact filed.set ⟨_, rfl⟩ _
    next => exact filed

theorem contractClassifications_filed (contract : ObjectContract)
    (start : String) (redactions : Dict OutputRedaction) :
    FiledBelow start (contractClassifications contract start redactions) := by
  have empty : FiledBelow start [] :=
    ⟨List.nodup_nil, fun key member => by cases member⟩
  exact List.foldlRecOn (motive := FiledBelow start) redactions _
    (ValueSchema.visitProperties_filed empty (fun name => ⟨name, rfl⟩) _)
    fun _ filed directive _ => restrictOutput_filed filed directive

section Results

variable (outputs : ObjectContract) (redactions : Dict OutputRedaction)

theorem resultClassifications_keys :
    (resultClassifications outputs redactions).keys.Nodup ∧
      ∀ key ∈ (resultClassifications outputs redactions).keys,
        Below "outputs" key ∨ key = "expected" ∨ key = "observed" := by
  have filed := contractClassifications_filed outputs "outputs" redactions
  have expected := Dict.distinct_set filed.distinct "expected" .personal
  have observed := Dict.distinct_set expected.1 "observed" .personal
  refine ⟨observed.1, fun key member => ?_⟩
  rcases (observed.2 key).mp member with rfl | earlier
  · exact .inr (.inr rfl)
  rcases (expected.2 key).mp earlier with rfl | declared
  · exact .inr (.inl rfl)
  · exact .inl (filed.below key declared)

/-- No contract declares a field that the journal keeps. -/
theorem operational_undeclared {key : String}
    (operational : key ∈ operationalFields) :
    (resultClassifications outputs redactions).get? key = none := by
  have apart : ∀ key ∈ operationalFields, key.toList.head? ≠ some 'o' ∧
      key ≠ "expected" ∧ key ≠ "observed" := by decide
  obtain ⟨first, unexpected, unobserved⟩ := apart key operational
  refine Dict.get?_eq_none fun member => ?_
  rcases (resultClassifications_keys outputs redactions).2 key member with
    ⟨rest, rfl⟩ | same | same
  · exact first (by simp)
  · exact unexpected same
  · exact unobserved same

end Results

theorem Dict.ofEntries_append {β : Type} (front back : List (String × β))
    (key : String) :
    (∃ value, (key, value) ∈ back ∧
      (ofEntries (front ++ back)).get? key = some value) ∨
    (∀ value, (key, value) ∉ back) ∧
      (ofEntries (front ++ back)).get? key = (ofEntries front).get? key := by
  induction back using List.reverseRecOn with
  | nil => exact .inr ⟨fun _ member => by simp at member, by simp⟩
  | append_singleton back last ih =>
      have grown : ofEntries (front ++ (back ++ [last])) =
          (ofEntries (front ++ back)).set last.1 last.2 := by
        simp [ofEntries, List.foldl_append]
      rw [grown, Dict.get?_set]
      by_cases same : key = last.1
      · exact .inl ⟨last.2, by simp [same], if_pos same⟩
      · rw [if_neg same]
        rcases ih with ⟨value, member, found⟩ | ⟨absent, unchanged⟩
        · exact .inl ⟨value, List.mem_append_left _ member, found⟩
        · refine .inr ⟨fun value member => ?_, unchanged⟩
          rcases List.mem_append.mp member with earlier | latest
          · exact absent value earlier
          · exact same (congrArg Prod.fst (List.mem_singleton.mp latest))

/-- Values of these classes leave nothing of themselves in the evidence. -/
def DataClassification.isWithheld : DataClassification → Bool
  | .personal | .financial | .credential | .secret => true
  | _ => false

section Alike

variable (declared : Dict DataClassification) (token : Json → String)

mutual

/-- Values of one shape that differ only where their declared classes withhold
them, and outside the declared outputs. -/
inductive Alike : Bool → String → Json → Json → Prop
  | same {within : Bool} {path : String} {value : Json} :
      Alike within path value value
  | withheld {within : Bool} {path : String} {first second : Json}
      {classification : DataClassification}
      (found : declared.get? path = some classification)
      (hides : classification.isWithheld = true) :
      Alike within path first second
  | identifier {within : Bool} {path : String} {first second : Json}
      (found : declared.get? path = some .customerIdentifier)
      (tokens : token first = token second) : Alike within path first second
  | undeclared {path : String} {first second : Json}
      (absent : declared.get? path = none)
      (leaf : ∀ fields, first ≠ .obj fields)
      (other : ∀ fields, second ≠ .obj fields) : Alike false path first second
  | members {within : Bool} {path : String} {first second : Fields}
      (absent : declared.get? path = none)
      (fields : AlikeMembers within path first second) :
      Alike within path (.obj first) (.obj second)
  | opened {within : Bool} {path : String} {first second : Fields}
      {classification : DataClassification}
      (found : declared.get? path = some classification)
      (shows : classification.isOpen = true)
      (fields : AlikeMembers true path first second) :
      Alike within path (.obj first) (.obj second)

inductive AlikeMembers : Bool → String → Fields → Fields → Prop
  | nil {within : Bool} {path : String} : AlikeMembers within path [] []
  | cons {within : Bool} {path key : String} {first second : Json}
      {rest others : Fields}
      (item : Alike within (path ++ "." ++ key) first second)
      (items : AlikeMembers within path rest others) :
      AlikeMembers within path ((key, first) :: rest) ((key, second) :: others)

end

/-- A field beside the outputs that the contract withholds, or that the journal
does not keep. -/
def hidesField (key : String) : Bool :=
  match declared.get? key with
  | some classification => classification.isWithheld
  | none => key ∉ operationalFields

/-- Results with the same fields that differ only in what is withheld. -/
inductive AlikeResults : Fields → Fields → Prop
  | nil : AlikeResults [] []
  | outputs {first second : Json} {rest others : Fields}
      (values : Alike declared token false "outputs" first second)
      (fields : AlikeResults rest others) :
      AlikeResults (("outputs", first) :: rest) (("outputs", second) :: others)
  | field {key : String} {first second : Json} {rest others : Fields}
      (beside : key ≠ "outputs")
      (values : first = second ∨ hidesField declared key = true)
      (fields : AlikeResults rest others) :
      AlikeResults ((key, first) :: rest) ((key, second) :: others)

end Alike

variable {declared table : Dict DataClassification} {token : Json → String}

section Classes

theorem classifyOutputs_declared {path : String}
    {classification : DataClassification}
    (found : declared.get? path = some classification) (value : Json) :
    classifyOutputs declared path value = [(path, classification)] := by
  cases value <;> simp [classifyOutputs, found]

theorem classifyOutputs_leaf {path : String} {value : Json}
    (leaf : ∀ fields, value ≠ .obj fields) :
    classifyOutputs declared path value =
      [(path, (declared.get? path).getD .personal)] := by
  cases value with
  | obj fields => exact (leaf fields rfl).elim
  | _ => simp [classifyOutputs]

theorem classifyOutputs_members {path : String} (fields : Fields)
    (absent : declared.get? path = none) :
    classifyOutputs declared path (.obj fields) =
      classifyEntries declared path fields := by
  simp [classifyOutputs, absent]

mutual

/-- A path of an output has its declared class, or is personal. -/
theorem classifyOutputs_class {path : String} :
    ∀ value : Json, ∀ entry ∈ classifyOutputs declared path value,
      entry.2 = (declared.get? entry.1).getD .personal
  | .obj fields => by
      cases found : declared.get? path with
      | some classification =>
          intro entry member
          rw [classifyOutputs_declared found, List.mem_singleton] at member
          rw [member, found]
          rfl
      | none =>
          rw [classifyOutputs_members fields found]
          exact classifyEntries_class fields
  | .null | .bool _ | .int _ | .real _ | .str _ | .arr _ => by
      intro entry member
      rw [classifyOutputs_leaf (by simp), List.mem_singleton] at member
      rw [member]

theorem classifyEntries_class {path : String} :
    ∀ fields : List (String × Json),
      ∀ entry ∈ classifyEntries declared path fields,
        entry.2 = (declared.get? entry.1).getD .personal
  | [] => by simp [classifyEntries]
  | (key, item) :: rest => by
      intro entry member
      rw [classifyEntries, List.mem_append] at member
      rcases member with here | later
      · exact classifyOutputs_class item entry here
      · exact classifyEntries_class rest entry later

end

mutual

/-- Alike values have the same classes. -/
theorem classifyOutputs_alike {path : String} {first second : Json}
    (alike : Alike declared token false path first second) :
    classifyOutputs declared path first =
      classifyOutputs declared path second := by
  cases alike with
  | same => rfl
  | withheld found =>
      rw [classifyOutputs_declared found, classifyOutputs_declared found]
  | identifier found =>
      rw [classifyOutputs_declared found, classifyOutputs_declared found]
  | undeclared absent leaf other =>
      rw [classifyOutputs_leaf leaf, classifyOutputs_leaf other]
  | members absent fields =>
      rw [classifyOutputs_members _ absent, classifyOutputs_members _ absent]
      exact classifyEntries_alike fields
  | opened found =>
      rw [classifyOutputs_declared found, classifyOutputs_declared found]

theorem classifyEntries_alike {path : String} {first second : Fields}
    (alike : AlikeMembers declared token false path first second) :
    classifyEntries declared path first =
      classifyEntries declared path second := by
  cases alike with
  | nil => rfl
  | cons item items =>
      rw [classifyEntries, classifyEntries, classifyOutputs_alike item,
        classifyEntries_alike items]

end

/-- The classes of the fields beside the outputs. -/
def fieldClasses (result : Fields) : List (String × DataClassification) :=
  (result.filter fun entry => entry.1 ≠ "outputs").map fun entry =>
    (entry.1,
      if entry.1 ∈ operationalFields then DataClassification.operational
      else .personal)

def outputClasses (declared : Dict DataClassification) (result : Fields) :
    List (String × DataClassification) :=
  match result.get? "outputs" with
  | none => []
  | some value => classifyOutputs declared "outputs" value

/-- The declared classes that hold whatever the result is. -/
def forcedClasses (declared : Dict DataClassification) :
    List (String × DataClassification) :=
  declared.filter fun entry =>
    Text.hasPrefix entry.1 "outputs." || !entry.2.isOpen

theorem terminalClassifications_eq (result : Fields) :
    terminalClassifications result declared =
      Dict.ofEntries (fieldClasses result ++ outputClasses declared result ++
        forcedClasses declared) := rfl

theorem fieldClasses_alike {first second : Fields}
    (alike : AlikeResults declared token first second) :
    fieldClasses first = fieldClasses second := by
  induction alike with
  | nil => rfl
  | outputs _ _ ih => simpa [fieldClasses] using ih
  | field beside _ _ ih =>
      simp only [fieldClasses, List.filter_cons, beside, ne_eq,
        not_false_eq_true, decide_true, if_true, List.map_cons] at ih ⊢
      rw [ih]

theorem outputClasses_alike {first second : Fields}
    (alike : AlikeResults declared token first second) :
    outputClasses declared first = outputClasses declared second := by
  induction alike with
  | nil => rfl
  | outputs values =>
      simp only [outputClasses, Dict.get?_cons, if_true]
      exact classifyOutputs_alike values
  | field beside _ _ ih =>
      simpa [outputClasses, Dict.get?_cons, Ne.symm beside] using ih

theorem terminalClassifications_alike {first second : Fields}
    (alike : AlikeResults declared token first second) :
    terminalClassifications first declared =
      terminalClassifications second declared := by
  rw [terminalClassifications_eq, terminalClassifications_eq,
    fieldClasses_alike alike, outputClasses_alike alike]

end Classes

section SettledClasses

/-- The classes a redaction goes by keep what the contract declares, and only a
declared path is tokenized. -/
structure SettledClasses (declared table : Dict DataClassification) :
    Prop where
  closed : ∀ {path : String} {classification : DataClassification},
    declared.get? path = some classification →
      classification.isOpen = false →
        table.get? path = some classification
  plain : ∀ {path : String},
    declared.get? path ≠ some .customerIdentifier →
      table.get? path ≠ some .customerIdentifier

variable {result : Fields} {path : String}

theorem settled_terminal (distinct : declared.keys.Nodup) (result : Fields) :
    SettledClasses declared (terminalClassifications result declared) := by
  rw [terminalClassifications_eq]
  constructor
  · intro path classification found closed
    rcases Dict.ofEntries_append
        (fieldClasses result ++ outputClasses declared result)
        (forcedClasses declared) path with ⟨value, member, held⟩ | ⟨absent, -⟩
    · have same := Dict.get?_of_mem distinct (List.mem_of_mem_filter member)
      rw [held, ← same, found]
    · refine (absent classification (List.mem_filter.mpr ?_)).elim
      exact ⟨Dict.mem_of_get? found, by simp [closed]⟩
  · intro path other held
    rcases Dict.ofEntries_append
        (fieldClasses result ++ outputClasses declared result)
        (forcedClasses declared) path with ⟨value, member, found⟩ | ⟨-, found⟩
    · have same := Dict.get?_of_mem distinct (List.mem_of_mem_filter member)
      rw [held] at found
      exact other (same.trans found.symm)
    · rw [held] at found
      rcases Dict.ofEntries_append (fieldClasses result)
          (outputClasses declared result) path with
        ⟨value, member, kept⟩ | ⟨-, kept⟩
      · rw [← found, Option.some.injEq] at kept
        subst kept
        unfold outputClasses at member
        split at member
        next => simp at member
        next value _ =>
          have same := classifyOutputs_class value _ member
          cases declares : declared.get? path with
          | none => simp [declares] at same
          | some classification =>
              simp only [declares, Option.getD_some] at same
              exact other (by rw [declares, same])
      · rw [← found] at kept
        have each : ∀ entry ∈ fieldClasses result,
            entry.2 ≠ .customerIdentifier := by
          intro entry member
          obtain ⟨field, -, rfl⟩ := List.mem_map.mp member
          dsimp only
          split <;> simp
        exact (Dict.ofEntries_keeps each).2 _
          (Dict.mem_of_get? kept.symm) rfl

/-- An output that the contract does not declare is personal. -/
theorem output_personal {value : Json}
    (found : result.get? "outputs" = some value)
    {entry : String × DataClassification}
    (member : entry ∈ classifyOutputs declared "outputs" value)
    (absent : declared.get? entry.1 = none) :
    (terminalClassifications result declared).get? entry.1 =
      some .personal := by
  have listed : outputClasses declared result =
      classifyOutputs declared "outputs" value := by
    simp [outputClasses, found]
  rw [terminalClassifications_eq, listed]
  rcases Dict.ofEntries_append
      (fieldClasses result ++ classifyOutputs declared "outputs" value)
      (forcedClasses declared) entry.1 with ⟨kept, forced, -⟩ | ⟨-, found⟩
  · have present := Dict.exists_get?
      (Dict.mem_keys.mpr ⟨kept, List.mem_of_mem_filter forced⟩)
    simp [absent] at present
  · rw [found]
    rcases Dict.ofEntries_append (fieldClasses result)
        (classifyOutputs declared "outputs" value) entry.1 with
      ⟨kept, classified, held⟩ | ⟨none, -⟩
    · have same : kept = (declared.get? entry.1).getD .personal :=
        classifyOutputs_class value _ classified
      rw [held, same, absent]
      rfl
    · exact (none entry.2 member).elim

/-- A field that the journal does not keep is personal. -/
theorem field_personal {key : String} {value : Json}
    (member : (key, value) ∈ result) (beside : key ≠ "outputs")
    (absent : declared.get? key = none) (unkept : key ∉ operationalFields) :
    (terminalClassifications result declared).get? key = some .personal := by
  rw [terminalClassifications_eq]
  rcases Dict.ofEntries_append
      (fieldClasses result ++ outputClasses declared result)
      (forcedClasses declared) key with ⟨kept, forced, -⟩ | ⟨-, found⟩
  · have present := Dict.exists_get?
      (Dict.mem_keys.mpr ⟨kept, List.mem_of_mem_filter forced⟩)
    simp [absent] at present
  rw [found]
  rcases Dict.ofEntries_append (fieldClasses result)
      (outputClasses declared result) key with
    ⟨kept, classified, held⟩ | ⟨-, found⟩
  · unfold outputClasses at classified
    split at classified
    next => simp at classified
    next value _ =>
      have same : kept = (declared.get? key).getD .personal :=
        classifyOutputs_class value _ classified
      rw [held, same, absent]
      rfl
  rw [found]
  rcases Dict.ofEntries_append [] (fieldClasses result) key with
    ⟨kept, classified, held⟩ | ⟨none, -⟩
  · rw [List.nil_append] at held
    obtain ⟨field, -, same⟩ := List.mem_map.mp classified
    obtain ⟨rfl, rfl⟩ := Prod.mk.inj same
    rw [held, if_neg unkept]
  · refine (none .personal (List.mem_map.mpr ⟨(key, value), ?_, ?_⟩)).elim
    · exact List.mem_filter.mpr ⟨member, by simpa using beside⟩
    · simp [unkept]

end SettledClasses

theorem DataClassification.closed_of_withheld
    {classification : DataClassification}
    (hides : classification.isWithheld = true) :
    classification.isOpen = false := by
  cases classification <;> first | rfl | cases hides

namespace SettledClasses

variable {path : String} {first second : Json}

theorem identifier (settled : SettledClasses declared table)
    (held : table.get? path = some .customerIdentifier) :
    declared.get? path = some .customerIdentifier := by
  by_contra other
  exact settled.plain other held

/-- A path that is tokenized holds values of the same token. -/
theorem tokens_alike (settled : SettledClasses declared table) {within : Bool}
    (alike : Alike declared token within path first second)
    (held : table.get? path = some .customerIdentifier) :
    token first = token second := by
  have declares := settled.identifier held
  cases alike with
  | same => rfl
  | withheld found hides =>
      rw [declares, Option.some.injEq] at found
      subst found
      cases hides
  | identifier _ tokens => exact tokens
  | undeclared absent => simp [declares] at absent
  | members absent => simp [declares] at absent
  | opened found shows =>
      rw [declares, Option.some.injEq] at found
      subst found
      cases shows

end SettledClasses

namespace StructuredRedactor

section Alike

variable {redactor : StructuredRedactor} {encoders : EvidenceEncoders}
variable {salt parent key : String} {first second : Json}

/-- Only a tokenized entry is redacted by its value. -/
theorem redaction_congr
    (tokens : table.get? (childPath parent key) = some .customerIdentifier →
      redactor.tokenize encoders first salt =
        redactor.tokenize encoders second salt) :
    redactor.redaction encoders table salt parent key first =
      redactor.redaction encoders table salt parent key second := by
  unfold redaction
  dsimp only
  split
  next => rfl
  split
  next => rfl
  cases found : table.get? (childPath parent key) with
  | none => rfl
  | some classification =>
      cases classification <;>
        first | rfl | rw [tokens found]

/-- What is kept is not classified, or of an open class. -/
theorem open_of_keep {item : Json}
    (kept : redactor.redaction encoders table salt parent key item = .keep)
    {classification : DataClassification}
    (found : table.get? (childPath parent key) = some classification) :
    classification.isOpen = true := by
  unfold redaction at kept
  dsimp only at kept
  split at kept
  next => cases kept
  split at kept
  next => cases kept
  rw [found] at kept
  cases classification <;> first | rfl | cases kept

theorem redactMapping_cons {rest others : List (String × Json)}
    (tail : redactor.redactMapping encoders table salt parent rest =
      redactor.redactMapping encoders table salt parent others)
    (tokens : table.get? (childPath parent key) = some .customerIdentifier →
      redactor.tokenize encoders first salt =
        redactor.tokenize encoders second salt)
    (value : (∀ classification,
        table.get? (childPath parent key) = some classification →
          classification.isOpen = true) →
      redactor.redactValue encoders table salt (childPath parent key) first =
        redactor.redactValue encoders table salt (childPath parent key)
          second) :
    redactor.redactMapping encoders table salt parent ((key, first) :: rest) =
      redactor.redactMapping encoders table salt parent
        ((key, second) :: others) := by
  rw [redactMapping, redactMapping, tail, redaction_congr tokens]
  cases decided :
      redactor.redaction encoders table salt parent key second with
  | drop directive => rfl
  | replace text directive => rfl
  | keep =>
      have nested := value fun _ found => open_of_keep decided found
      simp only [nested]

/-- The paths of these classes that the contract does not declare are
personal. -/
def Personal (declared table : Dict DataClassification)
    (classes : List (String × DataClassification)) : Prop :=
  ∀ entry ∈ classes, declared.get? entry.1 = none →
    table.get? entry.1 = some .personal

theorem append_ne_empty (path key : String) : path ++ "." ++ key ≠ "" := by
  intro empty
  have counted := congrArg String.length empty
  simp [String.length_append] at counted

mutual

theorem redactValue_alike (settled : SettledClasses declared table)
    {within : Bool} {path : String} {first second : Json}
    (alike : Alike declared
      (fun value => redactor.tokenize encoders value salt)
      within path first second)
    (named : path ≠ "")
    (outside : within = false →
      Personal declared table (classifyOutputs declared path first))
    (shown : ∀ classification, table.get? path = some classification →
      classification.isOpen = true) :
    redactor.redactValue encoders table salt path first =
      redactor.redactValue encoders table salt path second := by
  cases alike with
  | same => rfl
  | withheld found hides =>
      have closed := DataClassification.closed_of_withheld hides
      have kept := shown _ (settled.closed found closed)
      rw [closed] at kept
      cases kept
  | identifier found =>
      have kept := shown _ (settled.closed found rfl)
      cases kept
  | undeclared absent leaf =>
      have listed : (path, DataClassification.personal) ∈
          classifyOutputs declared path first := by
        rw [classifyOutputs_leaf leaf, absent]
        exact List.mem_singleton_self _
      have kept := shown _ (outside rfl _ listed absent)
      cases kept
  | members absent fields =>
      rw [redactValue, redactValue,
        redactMapping_alike settled fields named fun unsheltered => by
          rw [← classifyOutputs_members _ absent]
          exact outside unsheltered]
  | opened found shows fields =>
      rw [redactValue, redactValue,
        redactMapping_alike settled fields named fun sheltered => by
          cases sheltered]

theorem redactMapping_alike (settled : SettledClasses declared table)
    {within : Bool} {path : String} {first second : Fields}
    (alike : AlikeMembers declared
      (fun value => redactor.tokenize encoders value salt)
      within path first second)
    (named : path ≠ "")
    (outside : within = false →
      Personal declared table (classifyEntries declared path first)) :
    redactor.redactMapping encoders table salt path first =
      redactor.redactMapping encoders table salt path second := by
  cases alike with
  | nil => rfl
  | @cons _ _ key first second rest others item items =>
      have child : childPath path key = path ++ "." ++ key := if_neg named
      refine redactMapping_cons ?_ ?_ ?_
      · refine redactMapping_alike settled items named
          fun unsheltered entry member => outside unsheltered entry ?_
        rw [classifyEntries]
        exact List.mem_append_right _ member
      · rw [child]
        exact settled.tokens_alike item
      · rw [child]
        refine redactValue_alike settled item (append_ne_empty path key)
          fun unsheltered entry member => outside unsheltered entry ?_
        rw [classifyEntries]
        exact List.mem_append_left _ member

end

/-- A hidden field has a class that withholds it. -/
theorem withheld_of_hides (settled : SettledClasses declared table)
    (hidden : hidesField declared key = true)
    (unkept : declared.get? key = none → key ∉ operationalFields →
      table.get? key = some .personal) :
    ∃ classification, table.get? key = some classification ∧
      classification.isWithheld = true := by
  unfold hidesField at hidden
  cases found : declared.get? key with
  | some classification =>
      rw [found] at hidden
      exact ⟨classification, settled.closed found
        (DataClassification.closed_of_withheld hidden), hidden⟩
  | none =>
      rw [found] at hidden
      exact ⟨.personal, unkept found (of_decide_eq_true hidden), rfl⟩

theorem redactMapping_results (settled : SettledClasses declared table)
    {first second : Fields}
    (alike : AlikeResults declared
      (fun value => redactor.tokenize encoders value salt) first second)
    (outputs : ∀ value, ("outputs", value) ∈ first →
      Personal declared table (classifyOutputs declared "outputs" value))
    (fields : ∀ key value, (key, value) ∈ first → key ≠ "outputs" →
      declared.get? key = none → key ∉ operationalFields →
        table.get? key = some .personal) :
    redactor.redactMapping encoders table salt "" first =
      redactor.redactMapping encoders table salt "" second := by
  induction alike with
  | nil => rfl
  | @outputs first second rest others values _ ih =>
      have top : childPath "" "outputs" = "outputs" := if_pos rfl
      refine redactMapping_cons (ih ?_ ?_) ?_ ?_
      · exact fun value member =>
          outputs value (List.mem_cons_of_mem _ member)
      · exact fun key value member =>
          fields key value (List.mem_cons_of_mem _ member)
      · rw [top]
        exact settled.tokens_alike values
      · rw [top]
        exact redactValue_alike settled values (by decide)
          fun _ => outputs first List.mem_cons_self
  | @field key first second rest others beside values _ ih =>
      have top : childPath "" key = key := if_pos rfl
      refine redactMapping_cons (ih ?_ ?_) ?_ ?_
      · exact fun value member =>
          outputs value (List.mem_cons_of_mem _ member)
      · exact fun key value member =>
          fields key value (List.mem_cons_of_mem _ member)
      all_goals rw [top]
      · rcases values with rfl | hidden
        · exact fun _ => rfl
        · obtain ⟨classification, found, hides⟩ := withheld_of_hides settled
            hidden (fields key first List.mem_cons_self beside)
          intro held
          rw [held, Option.some.injEq] at found
          subst found
          cases hides
      · rcases values with rfl | hidden
        · exact fun _ => rfl
        · obtain ⟨classification, found, hides⟩ := withheld_of_hides settled
            hidden (fields key first List.mem_cons_self beside)
          intro shown
          have kept := shown _ found
          rw [DataClassification.closed_of_withheld hides] at kept
          cases kept

end Alike

end StructuredRedactor

section Alike

variable {first second : Fields}

theorem AlikeResults.set (alike : AlikeResults declared token first second)
    {key : String} (beside : key ≠ "outputs") (value : Json) :
    AlikeResults declared token (first.set key value)
      (second.set key value) := by
  induction alike with
  | nil => exact .field beside (.inl rfl) .nil
  | outputs values fields ih =>
      simp only [Dict.set, if_neg beside]
      exact .outputs values ih
  | @field stored _ _ _ _ apart values fields ih =>
      by_cases same : key = stored
      · simp only [Dict.set, if_pos same]
        exact .field beside (.inl rfl) fields
      · simp only [Dict.set, if_neg same]
        exact .field apart values ih

/-- A field that is not hidden is the same. -/
theorem AlikeResults.get?_eq
    (alike : AlikeResults declared token first second) {key : String}
    (beside : key ≠ "outputs") (shown : hidesField declared key = false) :
    first.get? key = second.get? key := by
  induction alike with
  | nil => rfl
  | outputs _ _ ih =>
      rw [Dict.get?_cons, Dict.get?_cons, if_neg beside, if_neg beside, ih]
  | @field stored _ _ _ _ _ values _ ih =>
      rw [Dict.get?_cons, Dict.get?_cons, ih]
      by_cases same : key = stored
      · subst stored
        rcases values with rfl | hidden
        · rfl
        · rw [shown] at hidden
          cases hidden
      · rw [if_neg same, if_neg same]

end Alike

namespace JournalContext

variable {σ : Type} (context : JournalContext σ)

/-- Results of which the journal of a run may show no difference. -/
abbrev AlikeFor (declared : Dict DataClassification)
    (first second : Fields) : Prop :=
  AlikeResults declared (fun value =>
    context.redactor.tokenize context.encoders value context.runId)
    first second

theorem sanitizeTerminal_alike (distinct : declared.keys.Nodup)
    {first second : Fields} (single : first.keys.Nodup)
    (alike : context.AlikeFor declared first second) :
    context.sanitizeTerminal first declared =
      context.sanitizeTerminal second declared := by
  have redacted := StructuredRedactor.redactMapping_results
    (settled_terminal distinct first) alike
    (fun value member entry =>
      output_personal (Dict.get?_of_mem single member))
    (fun key value member => field_personal member)
  unfold sanitizeTerminal StructuredRedactor.sanitizeJson
  rw [← terminalClassifications_alike alike, redacted]

/-- Finalizing a run says and stores the same for two results that differ only
in what the contract withholds, in outputs that it does not declare and in
fields that the journal does not keep.  An identifier counts as its token. -/
theorem finalize_alike (outputs : ObjectContract)
    (redactions : Dict OutputRedaction) (first second : Fields)
    (single : first.keys.Nodup)
    (alike : context.AlikeFor (resultClassifications outputs redactions)
      first second) :
    context.finalize first (resultClassifications outputs redactions) =
      context.finalize second (resultClassifications outputs redactions) := by
  have distinct := (resultClassifications_keys outputs redactions).1
  have kept : ∀ key ∈ operationalFields,
      first.get? key = second.get? key := by
    intro key operational
    refine alike.get?_eq ?_ ?_
    · rintro rfl
      revert operational
      decide
    · unfold hidesField
      rw [operational_undeclared outputs redactions operational]
      simpa using operational
  have run := kept "run_id" (by decide)
  have status := kept "status" (by decide)
  have checked : context.checkTerminal first
      (resultClassifications outputs redactions) =
        context.checkTerminal second
          (resultClassifications outputs redactions) := by
    unfold checkTerminal
    rw [run, status, context.sanitizeTerminal_alike distinct single alike]
  have enriched : ∀ trace : Json,
      context.sanitizeTerminal (first.set "diagnostic_trace" trace)
          (resultClassifications outputs redactions) =
        context.sanitizeTerminal (second.set "diagnostic_trace" trace)
          (resultClassifications outputs redactions) := fun trace =>
    context.sanitizeTerminal_alike distinct
      (Dict.distinct_set single _ _).1 (alike.set (by decide) trace)
  have published : ∀ (store : EvidenceStore σ) sanitized,
      context.publishTerminal store first sanitized =
        context.publishTerminal store second sanitized := by
    intro store sanitized
    unfold publishTerminal terminalRetention
    rw [status]
  unfold finalize
  simp only [checked, enriched, published]

end JournalContext

namespace ResultSample

def text (classification : DataClassification) : ValueSchema where
  type := .string
  description := "Shown on the page"
  dataClassification := classification
  persistence := .redacted
  required := []
  properties := []
  pattern := none
  format := none
  enum := []
  const := none
  minLength := none
  maxLength := none
  example_ := none

def outputs : ObjectContract where
  required := []
  properties :=
    [("name", text .personal), ("reference", text .operational)]

/-- The result of a run that read a name. -/
def result (name : String) : Fields :=
  [("run_id", .str FullDisk.runId), ("status", .str "success"),
    ("outputs", .obj [("name", .str name), ("reference", .str "A-1"),
      ("nickname", .str name)]),
    ("message", .str name)]

theorem names_alike :
    (FullDisk.context 3).finalize (result "Ada")
        (resultClassifications outputs []) =
      (FullDisk.context 3).finalize (result "Grace")
        (resultClassifications outputs []) := by
  have named : (resultClassifications outputs []).get?
      ("outputs" ++ "." ++ "name") = some .personal := by decide +kernel
  refine JournalContext.finalize_alike _ _ _ _ _ (by decide) ?_
  refine .field (by decide) (.inl rfl) (.field (by decide) (.inl rfl)
    (.outputs ?_ (.field (by decide) (.inr (by decide +kernel)) .nil)))
  refine .members (by decide +kernel) (.cons ?_ (.cons .same (.cons ?_ .nil)))
  · exact .withheld named rfl
  · exact .undeclared (by decide +kernel) (by simp) (by simp)

end ResultSample

end ReplayForge

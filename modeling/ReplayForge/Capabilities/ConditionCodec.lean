import ReplayForge.Capabilities.TargetCodecs

/-!
# The codec of conditions

A condition is a recursive union.  The forms are described for any codec of
the nested conditions, and the codec nests them to the depth of the reader.
-/

namespace ReplayForge

open Codec ReplayForge.Part

def ElementState.value : ElementState → String
  | .exists => "exists"
  | .absent => "absent"
  | .visible => "visible"
  | .hidden => "hidden"
  | .enabled => "enabled"
  | .disabled => "disabled"

def ElementState.codec : Codec ElementState :=
  .literal [.exists, .absent, .visible, .hidden, .enabled, .disabled] value
    fun state => by cases state <;> rfl

instance : ElementState.codec.Steady := ⟨fun _ _ => rfl⟩

namespace Condition

abbrev routeFields : Part String := required "pattern" text

abbrev textFields : Part (String × MatchMode) :=
  (required "value" text).both <| matched "match"

abbrev visualTextFields :
    Part (String × MatchMode × Option NormalizedRegion × Rat) :=
  (required "value" text).both <|
    (matched "match").both <|
    (optional "search_region" NormalizedRegion.codec).both <|
    measured "minimum_confidence" (85 / 100)

abbrev elementFields : Part (LocatorBundle × ElementState) :=
  (required "target" LocatorBundle.codec).both <|
    required "state" ElementState.codec

abbrev outputValidFields : Part String := required "output" text

abbrev outputEqualsFields : Part (String × String) :=
  (required "output" text).both <| required "value" text

abbrev identityMatchesFields : Part (String × String) :=
  (required "extracted_output" text).both <| required "input_path" text

mutual

def dump : Condition → Tree
  | .atom (.route pattern) =>
      .obj (("kind", .str "route") :: routeFields.dump pattern)
  | .atom (.text value matchMode) =>
      .obj (("kind", .str "text") :: textFields.dump (value, matchMode))
  | .atom (.renderedText value matchMode) =>
      .obj (("kind", .str "rendered_text") ::
        textFields.dump (value, matchMode))
  | .atom (.visualText value matchMode region confidence) =>
      .obj (("kind", .str "visual_text") ::
        visualTextFields.dump (value, matchMode, region, confidence))
  | .atom (.element target state) =>
      .obj (("kind", .str "element") ::
        elementFields.dump (target, state))
  | .atom (.outputValid output) =>
      .obj (("kind", .str "output_valid") ::
        outputValidFields.dump output)
  | .atom (.outputEquals output value) =>
      .obj (("kind", .str "output_equals") ::
        outputEqualsFields.dump (output, value))
  | .atom (.identityMatches extractedOutput inputPath) =>
      .obj (("kind", .str "identity_matches") ::
        identityMatchesFields.dump (extractedOutput, inputPath))
  | .all conditions =>
      .obj [("kind", .str "all"),
        ("conditions", .arr (dumpAll conditions))]
  | .any conditions =>
      .obj [("kind", .str "any"),
        ("conditions", .arr (dumpAll conditions))]
  | .not condition =>
      .obj [("kind", .str "not"), ("condition", condition.dump)]

def dumpAll : List Condition → List Tree
  | [] => []
  | condition :: rest => condition.dump :: dumpAll rest

end

theorem dumpAll_eq_map (conditions : List Condition) :
    dumpAll conditions = conditions.map dump := by
  induction conditions with
  | nil => rfl
  | cons condition rest ih => simp [dumpAll, ih]

def atomForms : List (Variant "kind" kind) := [
  variant "route" routeFields (fun pattern => .atom (.route pattern))
    fun
      | .atom (.route pattern) => some pattern
      | _ => none,
  variant "text" textFields
    (fun (value, matchMode) => .atom (.text value matchMode))
    fun
      | .atom (.text value matchMode) => some (value, matchMode)
      | _ => none,
  variant "rendered_text" textFields
    (fun (value, matchMode) => .atom (.renderedText value matchMode))
    fun
      | .atom (.renderedText value matchMode) => some (value, matchMode)
      | _ => none,
  variant "visual_text" visualTextFields
    (fun (value, matchMode, region, confidence) =>
      .atom (.visualText value matchMode region confidence))
    fun
      | .atom (.visualText value matchMode region confidence) =>
          some (value, matchMode, region, confidence)
      | _ => none,
  variant "element" elementFields
    (fun (target, state) => .atom (.element target state))
    fun
      | .atom (.element target state) => some (target, state)
      | _ => none,
  variant "output_valid" outputValidFields
    (fun output => .atom (.outputValid output))
    fun
      | .atom (.outputValid output) => some output
      | _ => none,
  variant "output_equals" outputEqualsFields
    (fun (output, value) => .atom (.outputEquals output value))
    fun
      | .atom (.outputEquals output value) => some (output, value)
      | _ => none,
  variant "identity_matches" identityMatchesFields
    (fun (extractedOutput, inputPath) =>
      .atom (.identityMatches extractedOutput inputPath))
    fun
      | .atom (.identityMatches extractedOutput inputPath) =>
          some (extractedOutput, inputPath)
      | _ => none]

/-- The forms of a condition, given the codec of the nested ones. -/
def forms (inner : Codec Condition) : List (Variant "kind" kind) := atomForms ++ [
  variant "all" (required "conditions" inner.list) .all
    fun
      | .all conditions => some conditions
      | _ => none,
  variant "any" (required "conditions" inner.list) .any
    fun
      | .any conditions => some conditions
      | _ => none,
  variant "not" (required "condition" inner) .not
    fun
      | .not condition => some condition
      | _ => none]

/-- A condition with at most the given number of levels. -/
def codecAt : (depth : Nat) → Codec Condition
  | 0 => .never dump fun _ value => value
  | depth + 1 => .union "kind" kind (forms (codecAt depth))

theorem dump_codecAt (depth : Nat) : (codecAt depth).dump = dump := by
  induction depth with
  | zero => rfl
  | succ depth ih =>
      funext condition
      cases condition with
      | atom condition => cases condition <;> rfl
      | all conditions =>
          rw [dump, dumpAll_eq_map, ← ih]
          rfl
      | any conditions =>
          rw [dump, dumpAll_eq_map, ← ih]
          rfl
      | not condition =>
          rw [dump, ← ih]
          rfl

theorem steady_codecAt (depth : Nat) : (codecAt depth).Steady := by
  induction depth with
  | zero => exact ⟨fun _ _ => rfl⟩
  | succ depth ih =>
      apply steady_union
      repeat apply SteadyForms.cons
      exact .nil

/-- The names of the fields that may be empty without being a default. -/
def firmNames : List String :=
  "kind" :: "conditions" :: "condition" :: atomForms.flatMap (·.part.firm)

theorem firm_codecAt (depth : Nat) : (codecAt depth).firm ⊆ firmNames := by
  induction depth with
  | zero => exact List.nil_subset _
  | succ depth ih =>
      have parts : (codecAt (depth + 1)).firm =
          "kind" :: (atomForms.flatMap (·.part.firm) ++
            ("conditions" :: (codecAt depth).firm ++
            ("conditions" :: (codecAt depth).firm ++
            ("condition" :: (codecAt depth).firm ++ [])))) :=
        congrArg ("kind" :: ·) List.flatMap_append
      intro name member
      simp only [parts, List.mem_cons, List.mem_append, List.not_mem_nil,
        or_false] at member
      have deeper : name ∈ (codecAt depth).firm → name ∈ firmNames :=
        fun there => ih there
      simp only [firmNames, List.mem_cons] at deeper ⊢
      tauto

/-- A condition whose levels are no more than the reader's depth. -/
def codec : Codec Condition where
  dump := dump
  load reader json := (codecAt reader.depth).load reader json
  normal _ condition := condition
  Legal depth condition := (codecAt depth).Legal depth condition
  firm := firmNames
  sound loaded := (codecAt _).sound loaded
  plain {depth _} legal := by
    rw [← dump_codecAt depth]
    exact (codecAt depth).plain legal
  reads {_ reader _} written spares legal := by
    have read := (codecAt reader.depth).reads written
      (fun name pruned member =>
        spares name pruned (firm_codecAt reader.depth member)) legal
    rwa [dump_codecAt, (steady_codecAt reader.depth).normal_eq] at read

instance : codec.Steady := ⟨fun _ _ => rfl⟩

end Condition

end ReplayForge

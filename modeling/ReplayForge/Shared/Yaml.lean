import ReplayForge.Data.Tree

/-!
# YAML with unambiguous mappings

The YAML library reads a text into a node tree, with merge keys flattened.
`load_unique_yaml` constructs the value and rejects a key that comes twice.
-/

namespace ReplayForge

inductive YamlNode where
  /-- A scalar with its resolved value. -/
  | scalar (value : Json)
  | sequence (items : List YamlNode)
  | mapping (entries : List (YamlNode × YamlNode))

namespace YamlNode

mutual

/-- The node tree of a value. -/
def ofJson : Json → YamlNode
  | .arr items => .sequence (ofJsonAll items)
  | .obj fields => .mapping (ofJsonFields fields)
  | json => .scalar json

def ofJsonAll : List Json → List YamlNode
  | [] => []
  | json :: rest => ofJson json :: ofJsonAll rest

def ofJsonFields : List (String × Json) → List (YamlNode × YamlNode)
  | [] => []
  | (name, json) :: rest =>
      (.scalar (.str name), ofJson json) :: ofJsonFields rest

end

mutual

/-- The value of a node; none when the loader raises.  A key that is no string
is refused here already, as no model accepts one. -/
def construct : YamlNode → Option Json
  | .scalar value => some value
  | .sequence items => (constructAll items).map .arr
  | .mapping entries => (constructMapping entries []).map .obj

def constructAll : List YamlNode → Option (List Json)
  | [] => some []
  | node :: rest => (construct node).bind fun value =>
      (constructAll rest).map (value :: ·)

/-- `_mapping` -/
def constructMapping :
    List (YamlNode × YamlNode) → Dict Json → Option (Dict Json)
  | [], held => some held
  | (keyNode, valueNode) :: rest, held =>
      match construct keyNode with
      | some (.str key) =>
          if key ∈ held.keys then none
          else (construct valueNode).bind fun value =>
            constructMapping rest (held.set key value)
      | _ => none

end

mutual

/-- A value whose keys are distinct is constructed from its node tree. -/
theorem construct_ofJson : ∀ {json : Json}, json.Distinct →
    construct (ofJson json) = some json
  | .null, _ | .bool _, _ | .int _, _ | .real _, _ | .str _, _ => rfl
  | .arr items, distinct => by
      rw [Json.distinct_arr] at distinct
      rw [ofJson, construct, constructAll_ofJson distinct]
      rfl
  | .obj fields, distinct => by
      rw [Json.distinct_obj] at distinct
      have built := @constructMapping_ofJson fields [] distinct.1 distinct.2
      rw [ofJson, construct, built]
      rfl

theorem constructAll_ofJson : ∀ {items : List Json},
    (∀ item ∈ items, item.Distinct) →
    constructAll (ofJsonAll items) = some items
  | [], _ => rfl
  | item :: rest, distinct => by
      obtain ⟨here, later⟩ := List.forall_mem_cons.mp distinct
      rw [ofJsonAll, constructAll, construct_ofJson here,
        constructAll_ofJson later]
      rfl

theorem constructMapping_ofJson : ∀ {fields : List (String × Json)}
    {held : Dict Json}, (Dict.keys (held ++ fields)).Nodup →
    (∀ entry ∈ fields, entry.2.Distinct) →
    constructMapping (ofJsonFields fields) held = some (held ++ fields)
  | [], held, _, _ => by simp [ofJsonFields, constructMapping]
  | (name, json) :: rest, held, distinct, each => by
      obtain ⟨here, later⟩ := List.forall_mem_cons.mp each
      have fresh : name ∉ held.keys := by
        rw [Dict.keys_append, Dict.keys_cons] at distinct
        intro present
        exact (List.nodup_append.mp distinct).2.2 _ present _
          List.mem_cons_self rfl
      have stored : held.set name json = held ++ [(name, json)] := by
        refine Dict.foldl_set_of_distinct [(name, json)] ?_
        rw [Dict.keys_append] at distinct ⊢
        exact distinct.sublist (.append_left (by simp [Dict.keys]) _)
      have distinct' : (Dict.keys (held ++ [(name, json)] ++ rest)).Nodup := by
        simpa using distinct
      rw [ofJsonFields, constructMapping]
      simp only [construct, fresh, if_false, construct_ofJson here,
        Option.bind_some]
      rw [stored, constructMapping_ofJson distinct' later, List.append_assoc]
      rfl

end

end YamlNode

end ReplayForge

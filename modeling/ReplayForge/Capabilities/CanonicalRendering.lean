import ReplayForge.Capabilities.Serialization

/-!
# The canonical payload as a rendering

The canonical payload is made from a dump in several passes: the values are
made plain, neutral defaults are taken out, empty entries are pruned and keys
are sorted.  Together they render the dump of the trimmed artifact once.
-/

namespace ReplayForge

namespace Serializers

variable (serializers : Serializers)

theorem perm_sortMembers (members : List String) :
    (serializers.sortMembers members).Perm members :=
  List.perm_insertionSort _ members

/-- The passes that turn a dump into canonical JSON, as one rendering. -/
def canonicalRendering : Rendering where
  stamp := Timestamp.canonical
  members := serializers.sortMembers
  members_perm := serializers.perm_sortMembers
  sorts := true
  prunes := ["visual_candidates"]

variable {serializers}

theorem canonicalizeAll_eq (items : List Tree) :
    serializers.canonicalizeAll items =
      items.map serializers.canonicalize := by
  induction items with
  | nil => rfl
  | cons item rest ih => simp [canonicalizeAll, ih]

theorem canonicalizeFields_eq (fields : Dict Tree) :
    serializers.canonicalizeFields fields =
      fields.mapValues serializers.canonicalize := by
  induction fields with
  | nil => rfl
  | cons entry rest ih => simp [canonicalizeFields, Dict.mapValues, ih]

theorem isEmpty_canonicalize (tree : Tree) :
    (serializers.canonicalize tree).isEmpty = tree.isEmpty := by
  cases tree with
  | bool _ | int _ | real _ | str _ | enum _ => rfl
  | stamp value =>
      have written := value.canonical_ne_empty
      simp [canonicalize, Json.isEmpty, Tree.isEmpty, written]
  | arr items =>
      cases items <;> simp [canonicalize, canonicalizeAll_eq, Json.isEmpty,
        Tree.isEmpty]
  | set members =>
      have same : (serializers.sortMembers members).isEmpty =
          members.isEmpty := by
        rw [Bool.eq_iff_iff, List.isEmpty_iff, List.isEmpty_iff]
        constructor
        · intro none
          exact (none ▸ serializers.perm_sortMembers members).symm.eq_nil
        · rintro rfl
          rfl
      simp [canonicalize, Json.isEmpty, Tree.isEmpty, same]
  | obj fields =>
      cases fields <;> simp [canonicalize, canonicalizeFields_eq,
        Dict.mapValues, Json.isEmpty, Tree.isEmpty]

mutual

theorem sortKeys_canonicalize : ∀ tree : Tree,
    (Json.pruneEmpty "visual_candidates"
      (serializers.canonicalize tree)).sortKeys =
        serializers.canonicalRendering.render tree
  | .bool _ | .int _ | .real _ | .str _ | .enum _ | .stamp _ => rfl
  | .arr items => by
      have each := sortKeysAll_canonicalize items
      simp only [canonicalize, Json.pruneEmpty, Json.sortKeys,
        Rendering.render, each]
  | .set members => by
      have same : ∀ names : List String,
          Json.sortKeysAll (Json.pruneAll "visual_candidates"
            (names.map .str)) = names.map .str := by
        intro names
        induction names with
        | nil => rfl
        | cons name rest ih =>
            simp [Json.pruneAll, Json.sortKeysAll, ih, Json.pruneEmpty,
              Json.sortKeys]
      simp only [canonicalize, Json.pruneEmpty, Json.sortKeys, same,
        Rendering.render]
      rfl
  | .obj fields => by
      have each := sortKeysFields_canonicalize fields
      simp only [canonicalize, Json.pruneEmpty, Json.sortKeys,
        Rendering.render, each]
      rfl

theorem sortKeysAll_canonicalize : ∀ items : List Tree,
    Json.sortKeysAll (Json.pruneAll "visual_candidates"
      (serializers.canonicalizeAll items)) =
        serializers.canonicalRendering.renderAll items
  | [] => rfl
  | item :: rest => by
      have here := sortKeys_canonicalize item
      have later := sortKeysAll_canonicalize rest
      simp only [canonicalizeAll, Json.pruneAll, Json.sortKeysAll,
        Rendering.renderAll, here, later]

theorem sortKeysFields_canonicalize : ∀ fields : List (String × Tree),
    Json.sortKeysFields (Json.pruneFields "visual_candidates"
      (serializers.canonicalizeFields fields)) =
        serializers.canonicalRendering.renderFields fields
  | [] => rfl
  | (name, tree) :: rest => by
      have here := sortKeys_canonicalize tree
      have later := sortKeysFields_canonicalize rest
      have dropped : (name = "visual_candidates" ∧
          (serializers.canonicalize tree).isEmpty = true) =
            (serializers.canonicalRendering.drops name tree = true) := by
        simp [Rendering.drops, isEmpty_canonicalize, canonicalRendering]
      simp only [canonicalizeFields, Json.pruneFields, Rendering.renderFields,
        dropped]
      split
      · exact later
      · rw [Json.sortKeysFields, here, later]

end

end Serializers

end ReplayForge

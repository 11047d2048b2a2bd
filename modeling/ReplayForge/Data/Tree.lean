import ReplayForge.Data.DictOrder
import ReplayForge.Shared.Json
import ReplayForge.Shared.Timestamp

/-!
# Model trees

A model is dumped into a tree that still knows its enumeration members,
timestamps and sets.  A rendering turns the tree into JSON: it fixes the text
of a timestamp and the order of sets and keys, and may leave empty entries of
some names out.
-/

namespace ReplayForge

inductive Tree where
  | bool (value : Bool)
  | int (value : Int)
  | real (value : Rat)
  | str (value : String)
  /-- An enumeration member with the given value. -/
  | enum (value : String)
  | stamp (value : Timestamp)
  | arr (items : List Tree)
  | set (members : List String)
  | obj (fields : List (String × Tree))

/-- `not value` -/
def Tree.isEmpty : Tree → Bool
  | .bool value => !value
  | .int value => value = 0
  | .real value => value = 0
  | .str value | .enum value => value.isEmpty
  | .stamp _ => false
  | .arr items => items.isEmpty
  | .set members => members.isEmpty
  | .obj fields => fields.isEmpty

namespace Tree

mutual

/-- The keys of every object are distinct. -/
def Distinct : Tree → Prop
  | .arr items => DistinctAll items
  | .obj fields => (Dict.keys fields).Nodup ∧ DistinctFields fields
  | _ => True

def DistinctAll : List Tree → Prop
  | [] => True
  | item :: rest => item.Distinct ∧ DistinctAll rest

def DistinctFields : List (String × Tree) → Prop
  | [] => True
  | (_, tree) :: rest => tree.Distinct ∧ DistinctFields rest

end

theorem distinct_arr {items : List Tree} :
    (Tree.arr items).Distinct ↔ ∀ item ∈ items, item.Distinct := by
  rw [Distinct]
  induction items with
  | nil => simp [DistinctAll]
  | cons item rest ih => rw [DistinctAll, ih, List.forall_mem_cons]

theorem distinct_obj {fields : Dict Tree} :
    (Tree.obj fields).Distinct ↔
      fields.keys.Nodup ∧ ∀ entry ∈ fields, entry.2.Distinct := by
  rw [Distinct]
  refine and_congr Iff.rfl ?_
  induction fields with
  | nil => simp [DistinctFields]
  | cons entry rest ih => rw [DistinctFields, ih, List.forall_mem_cons]

end Tree

namespace Json

mutual

/-- The keys of every object are distinct. -/
def Distinct : Json → Prop
  | .arr items => DistinctAll items
  | .obj fields => (Dict.keys fields).Nodup ∧ DistinctFields fields
  | _ => True

def DistinctAll : List Json → Prop
  | [] => True
  | item :: rest => item.Distinct ∧ DistinctAll rest

def DistinctFields : List (String × Json) → Prop
  | [] => True
  | (_, json) :: rest => json.Distinct ∧ DistinctFields rest

end

theorem distinct_arr {items : List Json} :
    (Json.arr items).Distinct ↔ ∀ item ∈ items, item.Distinct := by
  rw [Distinct]
  induction items with
  | nil => simp [DistinctAll]
  | cons item rest ih => rw [DistinctAll, ih, List.forall_mem_cons]

theorem distinct_obj {fields : Dict Json} :
    (Json.obj fields).Distinct ↔
      fields.keys.Nodup ∧ ∀ entry ∈ fields, entry.2.Distinct := by
  rw [Distinct]
  refine and_congr Iff.rfl ?_
  induction fields with
  | nil => simp [DistinctFields]
  | cons entry rest ih => rw [DistinctFields, ih, List.forall_mem_cons]

end Json

structure Rendering where
  stamp : Timestamp → String
  /-- The order in which the members of a set are written. -/
  members : List String → List String
  members_perm : ∀ names, (members names).Perm names
  /-- Entries are written in key order. -/
  sorts : Bool
  /-- The names whose entry is left out when it is empty. -/
  prunes : List String

namespace Rendering

variable (rendering : Rendering)

def arrange {β : Type} (fields : Dict β) : Dict β :=
  if rendering.sorts then fields.sorted else fields

def drops (name : String) (tree : Tree) : Bool :=
  decide (name ∈ rendering.prunes) && tree.isEmpty

mutual

def render : Tree → Json
  | .bool value => .bool value
  | .int value => .int value
  | .real value => .real value
  | .str value => .str value
  | .enum value => .str value
  | .stamp value => .str (rendering.stamp value)
  | .arr items => .arr (renderAll items)
  | .set members => .arr ((rendering.members members).map .str)
  | .obj fields => .obj (rendering.arrange (renderFields fields))

def renderAll : List Tree → List Json
  | [] => []
  | item :: rest => render item :: renderAll rest

def renderFields : List (String × Tree) → Dict Json
  | [] => []
  | (name, tree) :: rest =>
      if rendering.drops name tree then renderFields rest
      else (name, render tree) :: renderFields rest

end

variable {rendering}

theorem renderAll_eq_map (items : List Tree) :
    rendering.renderAll items = items.map rendering.render := by
  induction items with
  | nil => rfl
  | cons item rest ih => simp [renderAll, ih]

theorem render_ne_null (tree : Tree) : rendering.render tree ≠ .null := by
  cases tree <;> simp [render]

/-- The entries that are not dropped. -/
def kept (rendering : Rendering) (fields : Dict Tree) : Dict Tree :=
  fields.filter fun entry => !rendering.drops entry.1 entry.2

theorem renderFields_eq (fields : Dict Tree) :
    rendering.renderFields fields =
      (rendering.kept fields).mapValues rendering.render := by
  induction fields with
  | nil => rfl
  | cons entry rest ih =>
      obtain ⟨name, tree⟩ := entry
      cases dropped : rendering.drops name tree
      · simp [renderFields, kept, Dict.mapValues, dropped, ih]
      · simp [renderFields, kept, dropped, ih]

theorem arrange_perm {β : Type} (fields : Dict β) :
    (rendering.arrange fields).Perm fields := by
  unfold arrange
  split
  · exact Dict.perm_sorted fields
  · exact .refl fields

theorem arrange_mapValues {β γ : Type} (change : β → γ) (fields : Dict β) :
    rendering.arrange (fields.mapValues change) =
      (rendering.arrange fields).mapValues change := by
  unfold arrange
  split
  · exact Dict.sorted_mapValues change fields
  · rfl

theorem distinct_arrange {β : Type} {fields : Dict β}
    (distinct : fields.keys.Nodup) : (rendering.arrange fields).keys.Nodup :=
  (Dict.keys_perm (arrange_perm fields)).nodup_iff.mpr distinct

theorem mem_kept {fields : Dict Tree} {entry : String × Tree} :
    entry ∈ rendering.kept fields ↔
      entry ∈ fields ∧ rendering.drops entry.1 entry.2 = false := by
  simp [kept]

theorem keys_kept (fields : Dict Tree) :
    (rendering.kept fields).keys.Sublist fields.keys :=
  List.filter_sublist.map _

mutual

/-- Rendering keeps the keys of every object distinct. -/
theorem distinct_render : ∀ {tree : Tree}, tree.Distinct →
    (rendering.render tree).Distinct
  | .bool _, _ | .int _, _ | .real _, _ | .str _, _ | .enum _, _
  | .stamp _, _ => trivial
  | .arr items, distinct => by
      rw [Tree.distinct_arr] at distinct
      rw [render, Json.distinct_arr]
      exact distinct_renderAll distinct
  | .set members, _ => by
      rw [render, Json.distinct_arr]
      rintro _ member
      obtain ⟨name, -, rfl⟩ := List.mem_map.mp member
      trivial
  | .obj fields, distinct => by
      rw [Tree.distinct_obj] at distinct
      have each := distinct_renderFields distinct.2
      rw [render, Json.distinct_obj]
      constructor
      · apply distinct_arrange
        rw [renderFields_eq, Dict.keys_mapValues]
        exact distinct.1.sublist (keys_kept fields)
      · intro entry member
        exact each entry ((arrange_perm _).mem_iff.mp member)

theorem distinct_renderAll : ∀ {items : List Tree},
    (∀ item ∈ items, item.Distinct) →
    ∀ json ∈ rendering.renderAll items, json.Distinct
  | [], _, _, member => nomatch member
  | item :: rest, distinct, json, member => by
      obtain ⟨here, later⟩ := List.forall_mem_cons.mp distinct
      rcases List.mem_cons.mp member with rfl | deeper
      · exact distinct_render here
      · exact distinct_renderAll later json deeper

theorem distinct_renderFields : ∀ {fields : List (String × Tree)},
    (∀ entry ∈ fields, entry.2.Distinct) →
    ∀ entry ∈ rendering.renderFields fields, entry.2.Distinct
  | [], _, _, member => nomatch member
  | (name, tree) :: rest, distinct, entry, member => by
      obtain ⟨here, later⟩ := List.forall_mem_cons.mp distinct
      rw [renderFields] at member
      split at member
      · exact distinct_renderFields later entry member
      · rcases List.mem_cons.mp member with rfl | deeper
        · exact distinct_render here
        · exact distinct_renderFields later entry deeper

end

/-- The lookups in a rendered object: an entry shows its rendered tree unless
it is dropped. -/
structure Shows (rendering : Rendering) (fields : Dict Tree)
    (get : String → Option Json) : Prop where
  present : ∀ name tree, (name, tree) ∈ fields →
    get name = if rendering.drops name tree then none
      else some (rendering.render tree)
  absent : ∀ name, name ∉ fields.keys → get name = none

theorem shows {fields : Dict Tree} (distinct : fields.keys.Nodup) :
    ∃ shown : Dict Json, rendering.render (.obj fields) = .obj shown ∧
      rendering.Shows fields shown.get? ∧ shown.keys ⊆ fields.keys := by
  refine ⟨_, rfl, ?_, ?_⟩
  all_goals rw [renderFields_eq, arrange_mapValues]
  · have distinct' : ((rendering.arrange (rendering.kept fields)).mapValues
        rendering.render).keys.Nodup := by
      rw [Dict.keys_mapValues]
      exact distinct_arrange (distinct.sublist (keys_kept fields))
    have mem (name : String) (json : Json) :
        (name, json) ∈ (rendering.arrange (rendering.kept fields)).mapValues
          rendering.render ↔ ∃ tree, (name, tree) ∈ fields ∧
            rendering.drops name tree = false ∧
            rendering.render tree = json := by
      simp only [Dict.mapValues, List.mem_map, Prod.mk.injEq,
        (arrange_perm (rendering.kept fields)).mem_iff, mem_kept]
      constructor
      · rintro ⟨⟨_, tree⟩, ⟨member, kept'⟩, rfl, rfl⟩
        exact ⟨tree, member, kept', rfl⟩
      · rintro ⟨tree, member, kept', rfl⟩
        exact ⟨(name, tree), ⟨member, kept'⟩, rfl, rfl⟩
    constructor
    · intro name tree member
      cases dropped : rendering.drops name tree
      · apply Dict.get?_of_mem distinct'
        exact (mem _ _).mpr ⟨tree, member, dropped, rfl⟩
      · apply Dict.get?_eq_none
        intro present
        obtain ⟨json, found⟩ := Dict.mem_keys.mp present
        obtain ⟨tree', member', kept', -⟩ := (mem _ _).mp found
        have same := Dict.get?_of_mem distinct member
        rw [Dict.get?_of_mem distinct member', Option.some.injEq] at same
        rw [same, dropped] at kept'
        cases kept'
    · intro name missing
      apply Dict.get?_eq_none
      intro present
      obtain ⟨json, found⟩ := Dict.mem_keys.mp present
      obtain ⟨tree, member, -, -⟩ := (mem _ _).mp found
      exact missing (Dict.mem_keys.mpr ⟨tree, member⟩)
  · rw [Dict.keys_mapValues]
    intro name present
    exact (keys_kept fields).subset
      ((Dict.keys_perm (arrange_perm _)).mem_iff.mp present)

end Rendering

end ReplayForge

import ReplayForge.Data.Tree
import ReplayForge.Shared.Text
import Mathlib.Data.List.Dedup
import Mathlib.Data.List.Forall2

/-!
# Codecs

A codec dumps a value into a tree and loads a value from JSON.  It carries the
proof that a value which some load returned is loaded again from any rendering
of its dump, so that a codec composed of codecs needs no proof of its own.
-/

namespace ReplayForge

/-- How scalars are read, and how deep a recursive model may nest. -/
structure Reader where
  int : Json → Option Int
  bool : Json → Option Bool
  real : Json → Option Rat
  stamp : Json → Option Timestamp
  depth : Nat

/-- The reader gets back what the rendering wrote. -/
structure Rendering.ReadBy (rendering : Rendering) (reader : Reader) :
    Prop where
  int : ∀ value, reader.int (.int value) = some value
  bool : ∀ value, reader.bool (.bool value) = some value
  real : ∀ value, reader.real (.real value) = some value
  stamp : ∀ value, reader.stamp (.str (rendering.stamp value)) = some value

/-- Takes every scalar from its own form only. -/
def Reader.exact (stamp : String → Option Timestamp) (depth : Nat) :
    Reader where
  int
    | .int value => some value
    | _ => none
  bool
    | .bool value => some value
    | _ => none
  real
    | .real value => some value
    | _ => none
  stamp
    | .str text => stamp text
    | _ => none
  depth := depth

theorem Rendering.readBy_exact {rendering : Rendering}
    {stamp : String → Option Timestamp} {depth : Nat}
    (back : ∀ value, stamp (rendering.stamp value) = some value) :
    rendering.ReadBy (.exact stamp depth) where
  int _ := rfl
  bool _ := rfl
  real _ := rfl
  stamp := back

/-- None of the given names is pruned. -/
def Rendering.Spares (rendering : Rendering) (names : List String) : Prop :=
  ∀ name ∈ rendering.prunes, name ∉ names

theorem Rendering.spares_append {rendering : Rendering}
    {first second : List String} :
    rendering.Spares (first ++ second) ↔
      rendering.Spares first ∧ rendering.Spares second := by
  simp only [Spares, List.mem_append, not_or]
  exact ⟨fun both => ⟨fun name member => (both name member).1,
    fun name member => (both name member).2⟩,
    fun both name member => ⟨both.1 name member, both.2 name member⟩⟩

theorem Rendering.Spares.tail {rendering : Rendering} {name : String}
    {names : List String} (spares : rendering.Spares (name :: names)) :
    rendering.Spares names :=
  fun pruned member there => spares pruned member (.tail name there)

structure Codec (α : Type) where
  dump : α → Tree
  load : Reader → Json → Option α
  /-- The value as it is read back, with sets and dictionaries rearranged. -/
  normal : Rendering → α → α
  /-- The values that a load with the given depth can return. -/
  Legal : Nat → α → Prop
  /-- The names whose entries may be empty without being a default. -/
  firm : List String
  sound : ∀ {reader json value}, load reader json = some value →
    Legal reader.depth value
  /-- No key is dumped twice. -/
  plain : ∀ {depth value}, Legal depth value → (dump value).Distinct
  reads : ∀ {rendering reader value}, rendering.ReadBy reader →
    rendering.Spares firm → Legal reader.depth value →
    load reader (rendering.render (dump value)) =
      some (normal rendering value)

namespace Codec

variable {α : Type}

/-- What every reader loads from some JSON is legal at every depth. -/
theorem legal_of_load {codec : Codec α} (json : Json) {value : α}
    (loads : ∀ reader, codec.load reader json = some value) (depth : Nat) :
    codec.Legal depth value := by
  let reader : Reader :=
    ⟨fun _ => none, fun _ => none, fun _ => none, fun _ => none, depth⟩
  exact codec.sound (loads reader)

/-- A string, stripped when it is read. -/
def text : Codec String where
  dump value := .str value
  load _
    | .str value => some (Text.strip value)
    | _ => none
  normal _ value := value
  Legal _ value := Text.isStripped value
  firm := []
  sound {_ json _} loaded := by
    cases json with
    | str value =>
        cases loaded
        exact Text.isStripped_strip value
    | _ => cases loaded
  plain _ := trivial
  reads _ _ legal := by
    simpa [Rendering.render, Text.isStripped] using legal

def bool : Codec Bool where
  dump value := .bool value
  load reader json := reader.bool json
  normal _ value := value
  Legal _ _ := True
  firm := []
  sound _ := trivial
  plain _ := trivial
  reads written _ _ := written.bool _

def int : Codec Int where
  dump value := .int value
  load reader json := reader.int json
  normal _ value := value
  Legal _ _ := True
  firm := []
  sound _ := trivial
  plain _ := trivial
  reads written _ _ := written.int _

/-- An integer that is not negative. -/
def nat : Codec Nat where
  dump value := .int value
  load reader json := (reader.int json).bind fun value =>
    if 0 ≤ value then some value.toNat else none
  normal _ value := value
  Legal _ _ := True
  firm := []
  sound _ := trivial
  plain _ := trivial
  reads {_ _ value} written _ _ := by
    simp [Rendering.render, written.int value]

def real : Codec Rat where
  dump value := .real value
  load reader json := reader.real json
  normal _ value := value
  Legal _ _ := True
  firm := []
  sound _ := trivial
  plain _ := trivial
  reads written _ _ := written.real _

def stamp : Codec Timestamp where
  dump value := .stamp value
  load reader json := reader.stamp json
  normal _ value := value
  Legal _ _ := True
  firm := []
  sound _ := trivial
  plain _ := trivial
  reads written _ _ := written.stamp _

/-- One of the values listed, under its name. -/
def choice (write : String → Tree) (written : ∀ rendering : Rendering,
      ∀ name, rendering.render (write name) = .str name)
    (whole : ∀ name, (write name).Distinct)
    (values : List α) (name : α → String)
    (named : ∀ value, values.find? (name · = name value) = some value) :
    Codec α where
  dump value := write (name value)
  load _
    | .str text => values.find? (name · = text)
    | _ => none
  normal _ value := value
  Legal _ _ := True
  firm := []
  sound _ := trivial
  plain _ := whole _
  reads _ _ _ := by
    rw [written]
    exact named _

/-- The members of an enumeration. -/
def enum (values : List α) (name : α → String)
    (named : ∀ value, values.find? (name · = name value) = some value) :
    Codec α :=
  choice .enum (fun _ _ => rfl) (fun _ => trivial) values name named

/-- The literals of a literal type. -/
def literal (values : List α) (name : α → String)
    (named : ∀ value, values.find? (name · = name value) = some value) :
    Codec α :=
  choice .str (fun _ _ => rfl) (fun _ => trivial) values name named

/-- Below the deepest level nothing is loaded. -/
def never (dump : α → Tree) (normal : Rendering → α → α) :
    Codec α where
  dump := dump
  load _ _ := none
  normal := normal
  Legal _ _ := False
  firm := []
  sound loaded := nomatch loaded
  plain legal := legal.elim
  reads _ _ legal := legal.elim

/-- Read every item, or fail with the first that cannot be read. -/
def collect {β : Type} (read : β → Option α) : List β → Option (List α)
  | [] => some []
  | item :: rest => (read item).bind fun value =>
      (collect read rest).map (value :: ·)

theorem collect_eq_some {β : Type} {read : β → Option α} {items : List β} :
    ∀ {values : List α}, collect read items = some values ↔
      List.Forall₂ (fun item value => read item = some value) items values := by
  induction items with
  | nil =>
      intro values
      simp [collect, eq_comm]
  | cons item rest ih =>
      intro values
      simp only [collect, Option.bind_eq_some_iff, Option.map_eq_some_iff]
      constructor
      · rintro ⟨value, here, others, later, rfl⟩
        exact .cons here (ih.mp later)
      · intro both
        cases both with
        | cons here later => exact ⟨_, here, _, ih.mpr later, rfl⟩

/-- What is collected has been read from some item. -/
theorem read_of_collect {β : Type} {read : β → Option α} {items : List β}
    {values : List α} (collected : collect read items = some values)
    {value : α} (member : value ∈ values) :
    ∃ item, read item = some value := by
  have each := collect_eq_some.mp collected
  clear collected
  induction each with
  | nil => cases member
  | @cons item here _ _ read _ ih =>
      rcases List.mem_cons.mp member with rfl | later
      · exact ⟨item, read⟩
      · exact ih later

/-- Items that are written from values and read back. -/
theorem collect_map {β γ : Type} {read : β → Option α} {write : γ → β}
    {view : γ → α} {sources : List γ}
    (each : ∀ source ∈ sources, read (write source) = some (view source)) :
    collect read (sources.map write) = some (sources.map view) := by
  rw [collect_eq_some, List.forall₂_map_left_iff, List.forall₂_map_right_iff,
    List.forall₂_same]
  exact each

/-- A tuple. -/
def list (codec : Codec α) : Codec (List α) where
  dump items := .arr (items.map codec.dump)
  load reader
    | .arr items => collect (codec.load reader) items
    | _ => none
  normal rendering items := items.map (codec.normal rendering)
  Legal depth items := ∀ item ∈ items, codec.Legal depth item
  firm := codec.firm
  sound {_ json _} loaded := by
    cases json with
    | arr items =>
        intro item member
        obtain ⟨_, read⟩ := read_of_collect loaded member
        exact codec.sound read
    | _ => cases loaded
  plain legal := by
    rw [Tree.distinct_arr]
    rintro _ member
    obtain ⟨item, here, rfl⟩ := List.mem_map.mp member
    exact codec.plain (legal item here)
  reads {_ _ items} written spares legal := by
    simp only [Rendering.render, Rendering.renderAll_eq_map, List.map_map]
    exact collect_map fun item member =>
      codec.reads written spares (legal item member)

/-- A set of strings. -/
def set : Codec (List String) where
  dump names := .set names
  load reader
    | .arr items => (collect (text.load reader) items).map List.dedup
    | _ => none
  normal rendering names := rendering.members names
  Legal _ names := names.Nodup ∧ ∀ name ∈ names, Text.isStripped name
  firm := []
  sound {reader json _} loaded := by
    cases json with
    | arr items =>
        obtain ⟨names, collected, rfl⟩ := Option.map_eq_some_iff.mp loaded
        refine ⟨List.nodup_dedup names, fun name member => ?_⟩
        obtain ⟨_, read⟩ :=
          read_of_collect collected (List.mem_dedup.mp member)
        exact text.sound read
    | _ => cases loaded
  plain _ := trivial
  reads {rendering reader names} _ _ legal := by
    have members := rendering.members_perm names
    have read : collect (text.load reader)
        ((rendering.members names).map .str) =
          some ((rendering.members names).map id) := by
      refine collect_map fun name member => ?_
      have stripped := legal.2 name (members.mem_iff.mp member)
      simpa [text, Text.isStripped] using stripped
    simp only [Rendering.render, read, List.map_id, Option.map_some]
    rw [List.Nodup.dedup (members.nodup_iff.mpr legal.1)]

/-- A dictionary whose values are never dumped empty. -/
def dict (codec : Codec α)
    (solid : ∀ value, (codec.dump value).isEmpty = false) :
    Codec (Dict α) where
  dump dict := .obj (dict.mapValues codec.dump)
  load reader
    | .obj fields =>
        (collect (fun entry : String × Json =>
            (codec.load reader entry.2).map (Text.strip entry.1, ·))
          fields).map Dict.ofEntries
    | _ => none
  normal rendering dict :=
    (rendering.arrange dict).mapValues (codec.normal rendering)
  Legal depth dict := dict.keys.Nodup ∧ ∀ entry ∈ dict,
    Text.isStripped entry.1 ∧ codec.Legal depth entry.2
  firm := codec.firm
  sound {reader json _} loaded := by
    cases json with
    | obj fields =>
        obtain ⟨entries, collected, rfl⟩ := Option.map_eq_some_iff.mp loaded
        have each : ∀ entry ∈ entries, Text.isStripped entry.1 ∧
            codec.Legal reader.depth entry.2 := by
          intro entry member
          obtain ⟨item, read⟩ := read_of_collect collected member
          obtain ⟨value, loaded, rfl⟩ := Option.map_eq_some_iff.mp read
          exact ⟨Text.isStripped_strip _, codec.sound loaded⟩
        exact Dict.ofEntries_keeps each
    | _ => cases loaded
  plain legal := by
    rw [Tree.distinct_obj, Dict.keys_mapValues]
    refine ⟨legal.1, fun _ member => ?_⟩
    obtain ⟨entry, here, rfl⟩ := List.mem_map.mp member
    exact codec.plain (legal.2 entry here).2
  reads {rendering reader dict} written spares legal := by
    have whole : rendering.kept (dict.mapValues codec.dump) =
        dict.mapValues codec.dump := by
      refine List.filter_eq_self.mpr fun entry member => ?_
      obtain ⟨source, -, rfl⟩ := List.mem_map.mp member
      simp [Rendering.drops, solid]
    simp only [Rendering.render, Rendering.renderFields_eq, whole,
      Dict.mapValues_mapValues, Rendering.arrange_mapValues]
    have order := @Rendering.arrange_perm rendering _ dict
    have loaded : collect (fun entry : String × Json =>
        (codec.load reader entry.2).map (Text.strip entry.1, ·))
          ((rendering.arrange dict).mapValues
            (rendering.render ∘ codec.dump)) =
        some ((rendering.arrange dict).mapValues
          (codec.normal rendering)) := by
      refine collect_map fun entry member => ?_
      obtain ⟨stripped, legal'⟩ := legal.2 entry (order.mem_iff.mp member)
      have read := codec.reads written spares legal'
      simpa [read, Text.isStripped] using stripped
    rw [loaded, Option.map_some, Dict.ofEntries_of_distinct]
    rw [Dict.keys_mapValues]
    exact Rendering.distinct_arrange legal.1

/-- The codec gives every value back as it was. -/
class Steady (codec : Codec α) : Prop where
  normal_eq : ∀ rendering value, codec.normal rendering value = value

export Steady (normal_eq)

attribute [simp] normal_eq

instance : text.Steady := ⟨fun _ _ => rfl⟩
instance : bool.Steady := ⟨fun _ _ => rfl⟩
instance : int.Steady := ⟨fun _ _ => rfl⟩
instance : nat.Steady := ⟨fun _ _ => rfl⟩
instance : real.Steady := ⟨fun _ _ => rfl⟩
instance : stamp.Steady := ⟨fun _ _ => rfl⟩

instance {values : List α} {name : α → String}
    {named : ∀ value, values.find? (name · = name value) = some value} :
    (enum values name named).Steady := ⟨fun _ _ => rfl⟩

instance {values : List α} {name : α → String}
    {named : ∀ value, values.find? (name · = name value) = some value} :
    (literal values name named).Steady := ⟨fun _ _ => rfl⟩

instance {codec : Codec α} [codec.Steady] : codec.list.Steady where
  normal_eq rendering items := by
    have same : codec.normal rendering = id := funext (normal_eq rendering)
    simp [list, same]

end Codec

end ReplayForge

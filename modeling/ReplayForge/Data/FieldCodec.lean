import ReplayForge.Data.Codec

/-!
# Codecs of records and unions

The fields of a record are described one by one: required, with a default, or
optional and left out when there is no value.  A union is told apart by a tag.
-/

namespace ReplayForge

/-- A lookup that shows the entries, except that an empty entry may be missing
unless its name is firm. -/
structure Rendering.Presents (rendering : Rendering)
    (names firm : List String) (entries : Dict Tree)
    (get : String → Option Json) : Prop where
  present : ∀ name tree, (name, tree) ∈ entries →
    get name = some (rendering.render tree) ∨
      get name = none ∧ name ∉ firm ∧ tree.isEmpty
  absent : ∀ name ∈ names, name ∉ entries.keys → get name = none

/-- The description of some fields of a record. -/
structure Part (α : Type) where
  names : List String
  dump : α → Dict Tree
  load : Reader → (String → Option Json) → Option α
  normal : Rendering → α → α
  Legal : Nat → α → Prop
  firm : List String
  named : ∀ {value}, (dump value).keys.Sublist names
  sound : ∀ {reader get value}, load reader get = some value →
    Legal reader.depth value
  plain : ∀ {depth value}, Legal depth value →
    ∀ entry ∈ dump value, entry.2.Distinct
  reads : ∀ {rendering reader value get}, rendering.ReadBy reader →
    rendering.Spares firm → names.Nodup → Legal reader.depth value →
    rendering.Presents names firm (dump value) get →
    load reader get = some (normal rendering value)

namespace Part

variable {α β υ : Type}

/-- A field without a default. -/
def required (name : String) (codec : Codec α) : Part α where
  names := [name]
  dump value := [(name, codec.dump value)]
  load reader get := (get name).bind (codec.load reader)
  normal := codec.normal
  Legal := codec.Legal
  firm := name :: codec.firm
  named := .refl _
  sound loaded := by
    obtain ⟨json, -, read⟩ := Option.bind_eq_some_iff.mp loaded
    exact codec.sound read
  plain legal := by
    intro entry member
    rw [List.mem_singleton.mp member]
    exact codec.plain legal
  reads written spares _ legal presents := by
    rcases presents.present name _ List.mem_cons_self with
      shown | ⟨-, loose, -⟩
    · rw [shown]
      exact codec.reads written spares.tail legal
    · exact (loose List.mem_cons_self).elim

/-- A field with a default. -/
def defaulted (name : String) (codec : Codec α) (default : α)
    (legal : ∀ depth, codec.Legal depth default) : Part α where
  names := [name]
  dump value := [(name, codec.dump value)]
  load reader get :=
    match get name with
    | none => some default
    | some json => codec.load reader json
  normal := codec.normal
  Legal := codec.Legal
  firm := name :: codec.firm
  named := .refl _
  sound {reader get value} loaded := by
    cases found : get name with
    | none =>
        simp only [found, Option.some.injEq] at loaded
        exact loaded ▸ legal _
    | some json =>
        simp only [found] at loaded
        exact codec.sound loaded
  plain legal := by
    intro entry member
    rw [List.mem_singleton.mp member]
    exact codec.plain legal
  reads written spares _ legal presents := by
    rcases presents.present name _ List.mem_cons_self with
      shown | ⟨-, loose, -⟩
    · simp only [shown]
      exact codec.reads written spares.tail legal
    · exact (loose List.mem_cons_self).elim

/-- A field whose default is its only empty value.  A hidden one is left out
of the dump when it is empty. -/
def lenient (hidden : Bool) (name : String) (codec : Codec α) (default : α)
    (legal : ∀ depth, codec.Legal depth default)
    (steady : ∀ rendering, codec.normal rendering default = default)
    (empty : ∀ value, (codec.dump value).isEmpty → value = default) :
    Part α where
  names := [name]
  dump value :=
    if hidden && (codec.dump value).isEmpty then []
    else [(name, codec.dump value)]
  load reader get :=
    match get name with
    | none => some default
    | some json => codec.load reader json
  normal := codec.normal
  Legal := codec.Legal
  firm := codec.firm
  named {value} := by
    split
    · exact List.nil_sublist _
    · exact .refl _
  sound {reader get value} loaded := by
    cases found : get name with
    | none =>
        simp only [found, Option.some.injEq] at loaded
        exact loaded ▸ legal _
    | some json =>
        simp only [found] at loaded
        exact codec.sound loaded
  plain legal := by
    intro entry member
    split at member
    · cases member
    · rw [List.mem_singleton.mp member]
      exact codec.plain legal
  reads {rendering reader value get} written spares _ legal
      presents := by
    have missing : get name = none → (codec.dump value).isEmpty →
        (match get name with
          | none => some default
          | some json => codec.load reader json) =
          some (codec.normal rendering value) := by
      intro none hollow
      rw [empty value hollow, steady]
      simp only [none]
    split at presents
    next left =>
      simp only [Bool.and_eq_true] at left
      exact missing (presents.absent name List.mem_cons_self (by simp [Dict.keys]))
        left.2
    next =>
      rcases presents.present name _ List.mem_cons_self with
        shown | ⟨none, -, hollow⟩
      · simp only [shown]
        exact codec.reads written spares legal
      · exact missing none hollow

/-- A tuple that is empty by default. -/
def listed (hidden : Bool) (name : String) (codec : Codec α) :
    Part (List α) :=
  lenient hidden name codec.list [] (fun _ _ member => nomatch member)
    (fun _ => rfl) fun _ hollow => by
      simpa [Codec.list, Tree.isEmpty] using hollow

/-- A field that may be missing or null, and is left out when it is. -/
def optional (name : String) (codec : Codec α) : Part (Option α) where
  names := [name]
  dump
    | none => []
    | some value => [(name, codec.dump value)]
  load reader get :=
    match get name with
    | none | some .null => some none
    | some json => (codec.load reader json).map some
  normal rendering value := value.map (codec.normal rendering)
  Legal depth value := ∀ held ∈ value, codec.Legal depth held
  firm := name :: codec.firm
  named {value} := by
    cases value with
    | none => exact List.nil_sublist _
    | some value => exact .refl _
  sound {reader get value} loaded := by
    intro held member
    cases found : get name with
    | none => simp_all
    | some json =>
        by_cases null : json = .null
        · simp_all
        · simp only [found, Option.map_eq_some_iff] at loaded
          obtain ⟨other, read, rfl⟩ := loaded
          cases member
          exact codec.sound read
  plain {_ value} legal := by
    intro entry member
    cases value with
    | none => cases member
    | some value =>
        rw [List.mem_singleton.mp member]
        exact codec.plain (legal value rfl)
  reads {rendering reader value get} written spares _ legal
      presents := by
    cases value with
    | none =>
        have missing := presents.absent name List.mem_cons_self
          (by simp [Dict.keys])
        simp [missing]
    | some value =>
        rcases presents.present name _ List.mem_cons_self with
          shown | ⟨-, loose, -⟩
        · have solid := @Rendering.render_ne_null rendering
            (codec.dump value)
          have read := codec.reads written spares.tail
            (legal value rfl)
          simp [shown, read]
        · exact (loose List.mem_cons_self).elim

/-- A field with one possible value, which is its default or required. -/
def constant (mandatory : Bool) (name : String) (tree : Tree) (json : Json)
    (shown : ∀ rendering : Rendering, rendering.render tree = json)
    (whole : tree.Distinct) : Part Unit where
  names := [name]
  dump _ := [(name, tree)]
  load _ get :=
    match get name with
    | none => if mandatory then none else some ()
    | some found => if found = json then some () else none
  normal _ _ := ()
  Legal _ _ := True
  firm := [name]
  named := .refl _
  sound _ := trivial
  plain _ := by
    intro entry member
    rw [List.mem_singleton.mp member]
    exact whole
  reads _ _ _ _ presents := by
    rcases presents.present name _ List.mem_cons_self with
      present | ⟨-, loose, -⟩
    · simp [present, shown]
    · exact (loose List.mem_cons_self).elim

/-- A literal type with one string. -/
def fixedText (mandatory : Bool) (name value : String) : Part Unit :=
  constant mandatory name (.str value) (.str value) (fun _ => rfl) trivial

/-- A literal type with one flag. -/
def fixedFlag (mandatory : Bool) (name : String) (value : Bool) : Part Unit :=
  constant mandatory name (.bool value) (.bool value) (fun _ => rfl) trivial

/-- No fields. -/
def nothing : Part Unit where
  names := []
  dump _ := []
  load _ _ := some ()
  normal _ _ := ()
  Legal _ _ := True
  firm := []
  named := .refl _
  sound _ := trivial
  plain _ _ member := nomatch member
  reads _ _ _ _ _ := rfl

/-- The fields of both descriptions. -/
def both (first : Part α) (second : Part β) : Part (α × β) where
  names := first.names ++ second.names
  dump value :=
    first.dump value.1 ++ second.dump value.2
  load reader get := (first.load reader get).bind fun left =>
    (second.load reader get).map (left, ·)
  normal rendering value :=
    (first.normal rendering value.1, second.normal rendering value.2)
  Legal depth value := first.Legal depth value.1 ∧ second.Legal depth value.2
  firm := first.firm ++ second.firm
  named {_} := by
    rw [Dict.keys_append]
    exact first.named.append second.named
  sound loaded := by
    obtain ⟨left, early, rest⟩ := Option.bind_eq_some_iff.mp loaded
    obtain ⟨right, late, rfl⟩ := Option.map_eq_some_iff.mp rest
    exact ⟨first.sound early, second.sound late⟩
  plain legal := by
    intro entry member
    rcases List.mem_append.mp member with here | there
    · exact first.plain legal.1 entry here
    · exact second.plain legal.2 entry there
  reads {rendering reader value get} written spares distinct legal
      presents := by
    obtain ⟨distinct, distinct', apart⟩ := List.nodup_append.mp distinct
    obtain ⟨spares, spares'⟩ := Rendering.spares_append.mp spares
    have early : rendering.Presents first.names first.firm
        (first.dump value.1) get := by
      constructor
      · intro name tree member
        refine (presents.present name tree
          (List.mem_append_left _ member)).imp_right ?_
        exact fun loose => ⟨loose.1,
          fun firm => loose.2.1 (List.mem_append_left _ firm), loose.2.2⟩
      · intro name member missing
        refine presents.absent name (List.mem_append_left _ member) ?_
        rw [Dict.keys_append, List.mem_append, not_or]
        refine ⟨missing, fun there => ?_⟩
        exact apart _ member _ (second.named.subset there) rfl
    have late : rendering.Presents second.names second.firm
        (second.dump value.2) get := by
      constructor
      · intro name tree member
        refine (presents.present name tree
          (List.mem_append_right _ member)).imp_right ?_
        exact fun loose => ⟨loose.1,
          fun firm => loose.2.1 (List.mem_append_right _ firm), loose.2.2⟩
      · intro name member missing
        refine presents.absent name (List.mem_append_right _ member) ?_
        rw [Dict.keys_append, List.mem_append, not_or]
        refine ⟨fun there => ?_, missing⟩
        exact apart _ (first.named.subset there) _ member rfl
    rw [first.reads written spares distinct legal.1 early,
      second.reads written spares' distinct' legal.2 late]
    rfl

/-- Fields that make up the values of one form of another type. -/
def embed (part : Part α) (make : α → υ) (view : υ → Option α)
    (back : ∀ value, view (make value) = some value) : Part υ where
  names := part.names
  dump value :=
    match view value with
    | none => []
    | some source => part.dump source
  load reader get := (part.load reader get).map make
  normal rendering value :=
    match view value with
    | none => value
    | some source => make (part.normal rendering source)
  Legal depth value := ∃ source, make source = value ∧ part.Legal depth source
  firm := part.firm
  named {value} := by
    cases view value with
    | none => exact List.nil_sublist _
    | some source => exact part.named
  sound loaded := by
    obtain ⟨source, read, rfl⟩ := Option.map_eq_some_iff.mp loaded
    exact ⟨source, rfl, part.sound read⟩
  plain legal := by
    obtain ⟨source, rfl, legal⟩ := legal
    simp only [back]
    exact part.plain legal
  reads {_ _ value _} written spares distinct legal presents := by
    obtain ⟨source, rfl, legal⟩ := legal
    simp only [back] at presents ⊢
    rw [part.reads written spares distinct legal presents, Option.map_some]

/-- Fields that make up the values of another type. -/
def map (part : Part α) (make : α → υ) (view : υ → α)
    (back : ∀ value, view (make value) = value := by exact fun _ => rfl) :
    Part υ :=
  part.embed make (fun value => some (view value)) fun value =>
    congrArg some (back value)

/-- The fields are given back as they were. -/
class Steady (part : Part α) : Prop where
  normal_eq : ∀ rendering value, part.normal rendering value = value

export Steady (normal_eq)

attribute [simp] normal_eq

section Steady

variable {name : String} {codec : Codec α} [codec.Steady]
  {first : Part α} [first.Steady] {second : Part β} [second.Steady]

instance : (required name codec).Steady := ⟨Codec.normal_eq⟩

instance {default : α} {legal : ∀ depth, codec.Legal depth default} :
    (defaulted name codec default legal).Steady := ⟨Codec.normal_eq⟩

instance {hidden : Bool} {default : α}
    {legal : ∀ depth, codec.Legal depth default}
    {steady : ∀ rendering, codec.normal rendering default = default}
    {empty : ∀ value, (codec.dump value).isEmpty → value = default} :
    (lenient hidden name codec default legal steady empty).Steady :=
  ⟨Codec.normal_eq⟩

instance {hidden : Bool} : (listed hidden name codec).Steady :=
  ⟨(inferInstance : codec.list.Steady).normal_eq⟩

instance : (optional name codec).Steady where
  normal_eq rendering value := by
    cases value <;> simp [optional]

instance : nothing.Steady := ⟨fun _ _ => rfl⟩

instance {mandatory : Bool} {value : String} :
    (fixedText mandatory name value).Steady := ⟨fun _ _ => rfl⟩

instance {mandatory value : Bool} :
    (fixedFlag mandatory name value).Steady := ⟨fun _ _ => rfl⟩

instance : (both first second).Steady where
  normal_eq rendering value := by
    simp [both]

theorem steady_map {make : α → υ} {view : υ → α}
    {back : ∀ value, view (make value) = value}
    (forth : ∀ value, make (view value) = value) :
    (map first make view back).Steady where
  normal_eq rendering value := by
    simp [map, embed, forth]

end Steady

end Part

namespace Codec

variable {α υ : Type}

/-- Rendered entries present the fields, since no firm one is dropped. -/
theorem presents_of_shows {rendering : Rendering} {names firm : List String}
    {entries : Dict Tree} {get : String → Option Json}
    (spares : rendering.Spares firm) (shows : rendering.Shows entries get) :
    rendering.Presents names firm entries get := by
  constructor
  · intro name tree member
    rw [shows.present name tree member]
    cases dropped : rendering.drops name tree with
    | false => exact .inl rfl
    | true =>
        simp only [Rendering.drops, Bool.and_eq_true, decide_eq_true_eq]
          at dropped
        exact .inr ⟨rfl, spares name dropped.1, dropped.2⟩
  · intro name _ missing
    exact shows.absent name missing

/-- A record, which forbids fields that are not described. -/
def record (part : Part α)
    (distinct : part.names.Nodup := by first | decide | decide +revert) :
    Codec α where
  dump value := .obj (part.dump value)
  load reader
    | .obj fields =>
        if (Dict.keys fields).all (· ∈ part.names) then
          part.load reader (Dict.get? fields)
        else
          none
    | _ => none
  normal := part.normal
  Legal := part.Legal
  firm := part.firm
  sound {_ json _} loaded := by
    cases json with
    | obj fields =>
        obtain ⟨-, read⟩ := Option.ite_none_right_eq_some.mp loaded
        exact part.sound read
    | _ => cases loaded
  plain legal := by
    rw [Tree.distinct_obj]
    exact ⟨distinct.sublist part.named, part.plain legal⟩
  reads {_ _ value} written spares legal := by
    obtain ⟨shown, rendered, shows, known⟩ := Rendering.shows
      (distinct.sublist (@Part.named _ part value))
    rw [rendered]
    have within : shown.keys.all (· ∈ part.names) := by
      rw [List.all_eq_true]
      intro name member
      simpa using part.named.subset (known member)
    simp only [within, if_true]
    exact part.reads written spares distinct legal
      (presents_of_shows spares shows)

theorem steady_record {part : Part α} {distinct : part.names.Nodup}
    (steady : part.Steady) : (record part distinct).Steady :=
  ⟨steady.normal_eq⟩

/-- A form of a union with the tag that tells it apart. -/
structure Variant (key : String) (kind : υ → String) where
  tag : String
  part : Part υ
  kinds : ∀ {depth value}, part.Legal depth value → kind value = tag
  distinct : (key :: part.names).Nodup

/-- The form of a union that is made up of some fields. -/
def variant {key : String} {kind : υ → String} (tag : String) (part : Part α)
    (make : α → υ) (view : υ → Option α)
    (back : ∀ value, view (make value) = some value := by exact fun _ => rfl)
    (kinds : ∀ value, kind (make value) = tag := by exact fun _ => rfl)
    (_forth : ∀ value source, view value = some source → make source = value :=
      by intro _ _ found; split at found <;> cases found; rfl)
    (distinct : (key :: part.names).Nodup := by
      first | decide | (change List.Nodup [_, _]; decide)) :
    Variant key kind where
  tag := tag
  part := part.embed make view back
  kinds legal := by
    obtain ⟨source, rfl, -⟩ := legal
    exact kinds source
  distinct := distinct

/-- A union that is discriminated by a key. -/
def union (key : String) (kind : υ → String)
    (variants : List (Variant key kind)) : Codec υ where
  dump value :=
    match variants.find? (·.tag = kind value) with
    | none => .obj []
    | some form =>
        .obj ((key, .str (kind value)) :: form.part.dump value)
  load reader
    | .obj fields =>
        match Dict.get? fields key with
        | some (.str tag) =>
            (variants.find? (·.tag = tag)).bind fun form =>
              if (Dict.keys fields).all (· ∈ key :: form.part.names) then
                form.part.load reader (Dict.get? fields)
              else
                none
        | _ => none
    | _ => none
  normal rendering value :=
    match variants.find? (·.tag = kind value) with
    | none => value
    | some form => form.part.normal rendering value
  Legal depth value := ∃ form,
    variants.find? (·.tag = kind value) = some form ∧
      form.part.Legal depth value
  firm := key :: variants.flatMap (·.part.firm)
  sound {_ json value} loaded := by
    cases json with
    | obj fields =>
        simp only at loaded
        split at loaded
        next tag found =>
          obtain ⟨form, chosen, read⟩ := Option.bind_eq_some_iff.mp loaded
          obtain ⟨-, read⟩ := Option.ite_none_right_eq_some.mp read
          have legal := form.part.sound read
          have same : form.tag = tag := by simpa using List.find?_some chosen
          rw [← same, ← form.kinds legal] at chosen
          exact ⟨form, chosen, legal⟩
        next => cases loaded
    | _ => cases loaded
  plain legal := by
    obtain ⟨form, chosen, legal⟩ := legal
    simp only [chosen, Tree.distinct_obj, List.forall_mem_cons]
    refine ⟨form.distinct.sublist (.cons_cons key form.part.named), trivial, ?_⟩
    exact form.part.plain legal
  reads {rendering reader value} written spares legal := by
    obtain ⟨form, chosen, legal⟩ := legal
    simp only [chosen]
    have member := List.mem_of_find?_eq_some chosen
    have spares' : rendering.Spares (key :: form.part.firm) := by
      intro name pruned among
      rcases List.mem_cons.mp among with rfl | firm
      · exact spares _ pruned List.mem_cons_self
      · refine spares name pruned (List.mem_cons_of_mem _ ?_)
        exact List.mem_flatMap.mpr ⟨form, member, firm⟩
    have distinct : Dict.keys ((key, Tree.str (kind value)) ::
        form.part.dump value) |>.Nodup :=
      form.distinct.sublist (.cons_cons key form.part.named)
    obtain ⟨shown, rendered, shows, known⟩ := Rendering.shows distinct
    have presents : rendering.Presents (key :: form.part.names)
        (key :: form.part.firm) _ _ := presents_of_shows spares' shows
    have tag : shown.get? key = some (.str (kind value)) := by
      rcases presents.present key _ List.mem_cons_self with
        there | ⟨-, loose, -⟩
      · exact there
      · exact (loose List.mem_cons_self).elim
    have within : shown.keys.all (· ∈ key :: form.part.names) := by
      rw [List.all_eq_true]
      intro name there
      have named := (List.Sublist.cons_cons key form.part.named).subset
        (known there)
      simpa using named
    have presents' : rendering.Presents form.part.names form.part.firm
        (form.part.dump value) shown.get? := by
      constructor
      · intro name tree there
        refine (presents.present name tree (.tail _ there)).imp_right ?_
        exact fun loose => ⟨loose.1, fun firm => loose.2.1 (.tail _ firm),
          loose.2.2⟩
      · intro name there missing
        refine presents.absent name (.tail _ there) ?_
        rw [Dict.keys_cons, List.mem_cons, not_or]
        refine ⟨?_, missing⟩
        rintro rfl
        exact (List.nodup_cons.mp form.distinct).1 there
    rw [rendered]
    simp only [tag, chosen, Option.bind_some, within, if_true]
    exact form.part.reads written (fun name pruned firm =>
      spares' name pruned (.tail _ firm)) (List.nodup_cons.mp form.distinct).2
      legal presents'

/-- Forms whose fields are given back as they were. -/
structure SteadyForms {key : String} {kind : υ → String}
    (variants : List (Variant key kind)) : Prop where
  normal_eq : ∀ form ∈ variants, ∀ rendering value,
    form.part.normal rendering value = value

section SteadyForms

variable {key : String} {kind : υ → String} {variants : List (Variant key kind)}

theorem SteadyForms.nil : SteadyForms ([] : List (Variant key kind)) :=
  ⟨fun _ member => nomatch member⟩

theorem SteadyForms.cons {tag : String} {part : Part α} [part.Steady]
    {make : α → υ}
    {view : υ → Option α} {back : ∀ value, view (make value) = some value}
    {kinds : ∀ value, kind (make value) = tag}
    {forth : ∀ value source, view value = some source → make source = value}
    {distinct : (key :: part.names).Nodup} (others : SteadyForms variants) :
    SteadyForms
      (variant tag part make view back kinds forth distinct :: variants) where
  normal_eq form member rendering value := by
    rcases List.mem_cons.mp member with rfl | later
    · simp only [variant, Part.embed]
      split
      next => rfl
      next source found =>
        rw [Part.normal_eq]
        exact forth value source found
    · exact others.normal_eq form later rendering value

theorem steady_union (forms : SteadyForms variants) :
    (union key kind variants).Steady where
  normal_eq rendering value := by
    simp only [union]
    split
    next => rfl
    next form found =>
      exact forms.normal_eq form (List.mem_of_find?_eq_some found) _ _

end SteadyForms

end Codec

end ReplayForge

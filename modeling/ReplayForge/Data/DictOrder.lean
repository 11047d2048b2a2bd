import ReplayForge.Data.Dict

/-!
# Key order of dictionaries

The entries of a dictionary whose keys are distinct are determined by its
lookups, and sorting them forgets only the order of insertion.
-/

namespace ReplayForge

namespace Dict

variable {β γ : Type} {dict other : Dict β}

theorem keys_cons (entry : String × β) (rest : Dict β) :
    keys (entry :: rest) = entry.1 :: keys rest := rfl

theorem keys_append (first second : Dict β) :
    keys (first ++ second) = first.keys ++ second.keys :=
  List.map_append

theorem mem_keys {key : String} :
    key ∈ dict.keys ↔ ∃ value, (key, value) ∈ dict := by
  simp [keys]

theorem get?_eq_none {key : String} (absent : key ∉ dict.keys) :
    dict.get? key = none := by
  cases found : dict.get? key with
  | none => rfl
  | some value => exact (absent (mem_keys.mpr ⟨value, mem_of_get? found⟩)).elim

theorem exists_get? {key : String} (present : key ∈ dict.keys) :
    ∃ value, dict.get? key = some value := by
  induction dict with
  | nil => cases present
  | cons entry rest ih =>
      obtain ⟨stored, value⟩ := entry
      rw [get?_cons]
      by_cases same : key = stored
      · exact ⟨value, by rw [if_pos same]⟩
      · rw [if_neg same]
        rw [keys_cons, List.mem_cons] at present
        exact ih (present.resolve_left same)

theorem get?_of_mem (distinct : dict.keys.Nodup) {key : String} {value : β}
    (member : (key, value) ∈ dict) : dict.get? key = some value := by
  induction dict with
  | nil => cases member
  | cons entry rest ih =>
      obtain ⟨stored, old⟩ := entry
      rw [keys_cons, List.nodup_cons] at distinct
      rw [get?_cons]
      rcases List.mem_cons.mp member with here | later
      · cases here
        simp
      · have different : key ≠ stored := by
          rintro rfl
          exact distinct.1 (mem_keys.mpr ⟨value, later⟩)
        rw [if_neg different]
        exact ih distinct.2 later

section Middle

variable {before after : Dict β} {key : String} {value : β}

/-- The value of an entry whose key does not come before it. -/
theorem get?_middle (early : key ∉ before.keys) :
    get? (before ++ (key, value) :: after) key = some value := by
  induction before with
  | nil => simp [get?_cons]
  | cons entry rest ih =>
      rw [keys_cons, List.mem_cons, not_or] at early
      rw [List.cons_append, get?_cons, if_neg early.1]
      exact ih early.2

theorem erase_absent (absent : key ∉ dict.keys) : dict.erase key = dict := by
  induction dict with
  | nil => rfl
  | cons entry rest ih =>
      rw [keys_cons, List.mem_cons, not_or] at absent
      rw [erase, if_neg absent.1, ih absent.2]

theorem erase_middle (early : key ∉ before.keys) (late : key ∉ after.keys) :
    erase (before ++ (key, value) :: after) key = before ++ after := by
  induction before with
  | nil => simp [erase, erase_absent late]
  | cons entry rest ih =>
      rw [keys_cons, List.mem_cons, not_or] at early
      rw [List.cons_append, erase, if_neg early.1, ih early.2]
      rfl

end Middle

theorem perm_sorted (dict : Dict β) : (sorted dict).Perm dict :=
  List.perm_insertionSort _ dict

theorem mem_sorted {entry : String × β} : entry ∈ dict.sorted ↔ entry ∈ dict :=
  (perm_sorted dict).mem_iff

theorem keys_perm (same : dict.Perm other) : dict.keys.Perm other.keys :=
  same.map _

/-- Change the values and keep the keys. -/
def mapValues (change : β → γ) (dict : Dict β) : Dict γ :=
  dict.map fun entry => (entry.1, change entry.2)

theorem keys_mapValues (change : β → γ) (dict : Dict β) :
    (mapValues change dict).keys = dict.keys := by
  simp [mapValues, keys]

theorem mapValues_append (change : β → γ) (first second : Dict β) :
    mapValues change (first ++ second) =
      mapValues change first ++ mapValues change second :=
  List.map_append

theorem sorted_mapValues (change : β → γ) (dict : Dict β) :
    (mapValues change dict).sorted = mapValues change dict.sorted := by
  unfold mapValues sorted
  rw [List.map_insertionSort _ (s := fun first second => first.1 ≤ second.1)]
  intro _ _ _ _
  exact Iff.rfl

theorem mapValues_id (dict : Dict β) : mapValues id dict = dict := by
  simp [mapValues]

theorem mapValues_mapValues {δ : Type} (first : β → γ) (second : γ → δ)
    (dict : Dict β) :
    mapValues second (mapValues first dict) =
      mapValues (second ∘ first) dict := by
  simp [mapValues]

theorem mapValues_congr {first second : β → γ}
    (same : ∀ entry ∈ dict, first entry.2 = second entry.2) :
    mapValues first dict = mapValues second dict := by
  refine List.map_congr_left fun entry member => ?_
  rw [same entry member]

/-- Storing entries under distinct new keys one after the other. -/
theorem foldl_set_of_distinct (entries : List (String × β)) :
    ∀ {dict : Dict β}, (dict ++ entries).keys.Nodup →
      entries.foldl (fun held entry => held.set entry.1 entry.2) dict =
        dict ++ entries := by
  induction entries with
  | nil => simp
  | cons entry rest ih =>
      intro dict distinct
      have fresh : dict.set entry.1 entry.2 = dict ++ [entry] := by
        have absent : entry.1 ∉ dict.keys := by
          intro present
          simp only [keys, List.map_append, List.map_cons] at distinct
          exact (List.nodup_append.mp distinct).2.2 _ present _
            List.mem_cons_self rfl
        clear ih distinct
        induction dict with
        | nil => rfl
        | cons stored others inner =>
            rw [keys_cons, List.mem_cons, not_or] at absent
            simp [set, absent.1, inner absent.2]
      rw [List.foldl_cons, fresh, ih (by simpa using distinct)]
      simp

theorem distinct_set (distinct : dict.keys.Nodup) (key : String) (value : β) :
    (dict.set key value).keys.Nodup ∧
      ∀ other, other ∈ (dict.set key value).keys ↔
        other = key ∨ other ∈ dict.keys := by
  induction dict with
  | nil => simp [set, keys]
  | cons entry rest ih =>
      obtain ⟨stored, old⟩ := entry
      rw [keys_cons, List.nodup_cons] at distinct
      obtain ⟨distinct', members⟩ := ih distinct.2
      by_cases same : key = stored
      · subst stored
        simp [set, keys_cons, distinct.1, distinct.2]
      · simp only [set, if_neg same, keys_cons, List.nodup_cons,
          List.mem_cons, members]
        refine ⟨⟨?_, distinct'⟩, fun other => by tauto⟩
        rintro (rfl | present)
        · exact same rfl
        · exact distinct.1 present

/-- Later entries replace earlier ones of the same key. -/
def ofEntries (entries : List (String × β)) : Dict β :=
  entries.foldl (fun (held : Dict β) entry => held.set entry.1 entry.2) []

theorem ofEntries_of_distinct {entries : Dict β}
    (distinct : entries.keys.Nodup) : ofEntries entries = entries :=
  foldl_set_of_distinct entries distinct

/-- The keys are distinct, and only what was stored is there. -/
theorem ofEntries_keeps {keeps : String × β → Prop}
    {entries : List (String × β)} (each : ∀ entry ∈ entries, keeps entry) :
    (ofEntries entries).keys.Nodup ∧
      ∀ entry ∈ ofEntries entries, keeps entry := by
  unfold ofEntries
  refine List.foldlRecOn (motive := fun held : Dict β =>
    held.keys.Nodup ∧ ∀ entry ∈ held, keeps entry) entries _
      ⟨List.nodup_nil, fun _ member => nomatch member⟩ ?_
  intro held keep entry member
  refine ⟨(distinct_set keep.1 entry.1 entry.2).1, fun stored present => ?_⟩
  rcases mem_set present with rfl | old
  · exact each _ member
  · exact keep.2 stored old

section Entries

variable {key : String} {value : β}

/-- Where the entry of a key stands, and what storing under it changes. -/
theorem split_of_get? (found : dict.get? key = some value) :
    ∃ before after : Dict β, dict = before ++ (key, value) :: after ∧
      key ∉ before.keys ∧
      ∀ fresh, dict.set key fresh = before ++ (key, fresh) :: after := by
  induction dict with
  | nil => simp at found
  | cons entry rest ih =>
      obtain ⟨stored, old⟩ := entry
      rw [get?_cons] at found
      by_cases same : key = stored
      · subst stored
        rw [if_pos rfl, Option.some.injEq] at found
        subst found
        exact ⟨[], rest, rfl, by simp [keys], by simp [set]⟩
      · rw [if_neg same] at found
        obtain ⟨before, after, split, early, stores⟩ := ih found
        have early' : key ∉ keys ((stored, old) :: before) := by
          rw [keys_cons]
          simp [same, early]
        exact ⟨(stored, old) :: before, after, by rw [split]; rfl, early',
          fun fresh => by simp [set, same, stores]⟩

theorem set_absent (absent : key ∉ dict.keys) :
    dict.set key value = dict ++ [(key, value)] := by
  induction dict with
  | nil => rfl
  | cons entry rest ih =>
      rw [keys_cons, List.mem_cons, not_or] at absent
      simp [set, absent.1, ih absent.2]

theorem erase_sublist (dict : Dict β) (key : String) :
    (dict.erase key).Sublist dict := by
  induction dict with
  | nil => exact .slnil
  | cons entry rest ih =>
      obtain ⟨stored, old⟩ := entry
      by_cases same : key = stored
      · simpa [erase, same] using ih.trans (List.sublist_cons_self _ _)
      · simpa [erase, same] using ih

theorem mem_erase {entry : String × β} (member : entry ∈ dict.erase key) :
    entry.1 ≠ key := by
  induction dict with
  | nil => cases member
  | cons head rest ih =>
      obtain ⟨stored, old⟩ := head
      by_cases same : key = stored
      · exact ih (by simpa [erase, same] using member)
      · rw [erase, if_neg same] at member
        rcases List.mem_cons.mp member with here | later
        · subst here
          exact Ne.symm same
        · exact ih later

theorem mem_erase_of_ne {entry : String × β} (member : entry ∈ dict)
    (different : entry.1 ≠ key) : entry ∈ dict.erase key := by
  induction dict with
  | nil => cases member
  | cons head rest ih =>
      obtain ⟨stored, old⟩ := head
      by_cases same : key = stored
      · rw [erase, if_pos same]
        rcases List.mem_cons.mp member with here | later
        · subst here
          exact (different same.symm).elim
        · exact ih later
      · rw [erase, if_neg same]
        rcases List.mem_cons.mp member with here | later
        · exact here ▸ List.mem_cons_self
        · exact List.mem_cons_of_mem _ (ih later)

theorem length_erase_lt {key : String} (present : key ∈ dict.keys) :
    (dict.erase key).length < dict.length := by
  have fewer := erase_sublist dict key
  rcases Nat.lt_or_ge (dict.erase key).length dict.length with less | more
  · exact less
  · rw [← fewer.eq_of_length_le more] at present
    obtain ⟨value, member⟩ := mem_keys.mp present
    exact (mem_erase member rfl).elim

end Entries

end Dict

end ReplayForge

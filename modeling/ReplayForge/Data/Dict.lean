import Mathlib.Data.List.Sort

/-!
# Insertion-ordered dictionaries

A dictionary is the list of its entries in insertion order.  Storing under a
present key replaces that entry in place and storing under a new key appends.
-/

namespace ReplayForge

abbrev Dict (β : Type) := List (String × β)

namespace Dict

variable {β : Type}

def get? (dict : Dict β) (key : String) : Option β :=
  dict.lookup key

def keys (dict : Dict β) : List String :=
  dict.map Prod.fst

def set : Dict β → String → β → Dict β
  | [], key, value => [(key, value)]
  | (stored, old) :: rest, key, value =>
      if key = stored then (key, value) :: rest
      else (stored, old) :: set rest key value

def erase : Dict β → String → Dict β
  | [], _ => []
  | (stored, value) :: rest, key =>
      if key = stored then erase rest key
      else (stored, value) :: erase rest key

/-- The entries in key order. -/
def sorted (dict : Dict β) : Dict β :=
  dict.insertionSort fun first second => first.1 ≤ second.1

@[simp]
theorem get?_nil (key : String) : get? ([] : Dict β) key = none := rfl

theorem get?_cons (stored : String) (value : β) (rest : Dict β)
    (key : String) :
    get? ((stored, value) :: rest) key =
      if key = stored then some value else rest.get? key := by
  unfold get?
  rw [List.lookup_cons]
  by_cases same : key = stored
  · simp [same]
  · have different : (key == stored) = false := by simp [same]
    simp [same, different]

@[simp]
theorem get?_set_self (dict : Dict β) (key : String) (value : β) :
    (dict.set key value).get? key = some value := by
  induction dict with
  | nil => simp [set, get?_cons]
  | cons entry rest ih =>
      obtain ⟨stored, old⟩ := entry
      by_cases same : key = stored
      · simp [set, same, get?_cons]
      · simp [set, same, get?_cons, ih]

theorem get?_set_ne (dict : Dict β) {key other : String} (value : β)
    (different : other ≠ key) :
    (dict.set key value).get? other = dict.get? other := by
  induction dict with
  | nil => simp [set, get?_cons, different]
  | cons entry rest ih =>
      obtain ⟨stored, old⟩ := entry
      by_cases same : key = stored
      · subst stored
        simp [set, get?_cons, different]
      · simp [set, same, get?_cons, ih]

theorem get?_set (dict : Dict β) (key other : String) (value : β) :
    (dict.set key value).get? other =
      if other = key then some value else dict.get? other := by
  by_cases same : other = key
  · subst other
    simp
  · rw [get?_set_ne dict value same, if_neg same]

theorem mem_of_get? {dict : Dict β} {key : String} {value : β}
    (found : dict.get? key = some value) : (key, value) ∈ dict := by
  induction dict with
  | nil => simp at found
  | cons entry rest ih =>
      obtain ⟨stored, old⟩ := entry
      rw [get?_cons] at found
      by_cases same : key = stored
      · rw [if_pos same, Option.some.injEq] at found
        subst same found
        exact List.mem_cons_self
      · rw [if_neg same] at found
        exact List.mem_cons_of_mem _ (ih found)

theorem mem_set {dict : Dict β} {key : String} {value : β}
    {entry : String × β} (member : entry ∈ dict.set key value) :
    entry = (key, value) ∨ entry ∈ dict := by
  induction dict with
  | nil => exact .inl (by simpa [set] using member)
  | cons head rest ih =>
      obtain ⟨stored, old⟩ := head
      by_cases same : key = stored
      · simp only [set, if_pos same, List.mem_cons] at member
        rcases member with here | later
        · exact .inl here
        · exact .inr (List.mem_cons_of_mem _ later)
      · simp only [set, if_neg same, List.mem_cons] at member
        rcases member with here | later
        · exact .inr (by simp [here])
        · exact (ih later).imp id (List.mem_cons_of_mem _)

end Dict

end ReplayForge

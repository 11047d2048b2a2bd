import Mathlib.Data.List.ModifyLast

/-!
# Splitting a list at its gaps

`groupRuns` scans a list and joins each item to the group of the item just
before it, or starts a new group.  Only neighbours are compared, so the groups
are far apart as wholes exactly when the list is `Clear`: what is far from its
neighbour is far from all that came earlier.
-/

namespace ReplayForge

variable {α : Type*}

/-- Put `item` into the last group, or into one of its own. -/
def growRuns (joins : α → α → Bool) (groups : List (List α)) (item : α) :
    List (List α) :=
  match groups.getLast?.bind List.getLast? with
  | none => groups ++ [[item]]
  | some previous =>
      if joins previous item then groups.modifyLast (· ++ [item])
      else groups ++ [[item]]

def groupRuns (joins : α → α → Bool) (items : List α) : List (List α) :=
  items.foldl (growRuns joins) []

/-- The groups that a scan of the items forms. -/
inductive Grouped (joins : α → α → Bool) :
    List α → List (List α) → Prop where
  | nil : Grouped joins [] []
  | first (item : α) : Grouped joins [item] [[item]]
  | joined {done last : List α} {earlier : List (List α)} {previous item : α} :
      Grouped joins (done ++ [previous]) (earlier ++ [last ++ [previous]]) →
      joins previous item = true →
      Grouped joins (done ++ [previous] ++ [item])
        (earlier ++ [last ++ [previous] ++ [item]])
  | split {done last : List α} {earlier : List (List α)} {previous item : α} :
      Grouped joins (done ++ [previous]) (earlier ++ [last ++ [previous]]) →
      joins previous item = false →
      Grouped joins (done ++ [previous] ++ [item])
        (earlier ++ [last ++ [previous]] ++ [[item]])

namespace Grouped

variable {joins : α → α → Bool} {items : List α} {groups : List (List α)}

/-- Either nothing was scanned, or the last item closes the last group. -/
theorem last_cases (grouped : Grouped joins items groups) :
    (items = [] ∧ groups = []) ∨
      ∃ done last earlier previous, items = done ++ [previous] ∧
        groups = earlier ++ [last ++ [previous]] := by
  cases grouped with
  | nil => exact .inl ⟨rfl, rfl⟩
  | first item => exact .inr ⟨[], [], [], item, rfl, rfl⟩
  | joined _ _ => exact .inr ⟨_, _, _, _, rfl, rfl⟩
  | @split done last earlier previous item _ _ =>
      exact .inr ⟨_, [], _, item, rfl, rfl⟩

theorem grow (grouped : Grouped joins items groups) (item : α) :
    Grouped joins (items ++ [item]) (growRuns joins groups item) := by
  obtain ⟨noItems, noGroups⟩ | ⟨done, last, earlier, previous, itemsEq, groupsEq⟩ :=
    grouped.last_cases
  · subst noItems noGroups
    exact .first item
  · subst itemsEq groupsEq
    have closing : (earlier ++ [last ++ [previous]]).getLast?.bind
        List.getLast? = some previous := by
      simp
    rw [growRuns, closing]
    by_cases near : joins previous item = true
    · simp only [near, if_true, List.modifyLast_concat]
      exact .joined grouped near
    · have apart : joins previous item = false := by
        simpa using near
      simp only [apart, Bool.false_eq_true, if_false]
      exact .split grouped apart

theorem run (items : List α) : Grouped joins items (groupRuns joins items) := by
  have scan : ∀ {done groups}, Grouped joins done groups →
      Grouped joins (done ++ items) (items.foldl (growRuns joins) groups) := by
    induction items with
    | nil => simp
    | cons item rest ih =>
        intro done groups grouped
        have next := ih (grouped.grow item)
        simpa using next
  exact scan .nil

theorem flatten (grouped : Grouped joins items groups) :
    groups.flatten = items := by
  induction grouped with
  | nil => rfl
  | first item => rfl
  | joined _ _ ih | split _ _ ih =>
      rw [← ih]
      simp

theorem nil_notMem (grouped : Grouped joins items groups) : [] ∉ groups := by
  induction grouped with
  | nil => simp
  | first item => simp
  | joined _ _ ih | split _ _ ih => simpa using ih

end Grouped

/-! ## When the groups are apart as wholes -/

/-- Every item of an earlier group is apart from every item of a later one. -/
def AreApart (apart : α → α → Prop) (groups : List (List α)) : Prop :=
  groups.Pairwise fun earlier later =>
    ∀ first ∈ earlier, ∀ second ∈ later, apart first second

/-- An item apart from its predecessor is apart from all that came earlier. -/
def IsClear (apart : α → α → Prop) (items : List α) : Prop :=
  ∀ front previous item back, items = front ++ previous :: item :: back →
    apart previous item → ∀ earlier ∈ front, apart earlier item

section Apart

variable {apart : α → α → Prop} {items : List α}

theorem areApart_concat {groups : List (List α)} {last : List α} :
    AreApart apart (groups ++ [last]) ↔ AreApart apart groups ∧
      ∀ first ∈ groups.flatten, ∀ second ∈ last, apart first second := by
  simp only [AreApart, List.pairwise_append, List.pairwise_singleton,
    List.mem_singleton, true_and, List.mem_flatten]
  constructor
  · intro separated
    refine ⟨separated.1, ?_⟩
    intro first inside second present
    obtain ⟨group, member, held⟩ := inside
    exact separated.2 group member last rfl first held second present
  · intro separated
    refine ⟨separated.1, ?_⟩
    intro group member later same first held second present
    subst same
    exact separated.2 first ⟨group, member, held⟩ second present

theorem isClear_concat {done : List α} {previous item : α} :
    IsClear apart (done ++ [previous] ++ [item]) ↔
      IsClear apart (done ++ [previous]) ∧
        (apart previous item → ∀ earlier ∈ done, apart earlier item) := by
  constructor
  · intro clear
    constructor
    · intro front before next back split
      exact clear front before next (back ++ [item]) (by simp [split])
    · exact clear done previous item [] (by simp)
  · intro clear front before next back split
    obtain rfl | ⟨shorter, final, rfl⟩ := List.eq_nil_or_concat back
    · have ends : done ++ [previous] ++ [item] =
          front ++ [before] ++ [next] := by
        simpa using split
      have heads := List.append_inj_left' ends rfl
      have lasts := List.append_inj_right' ends rfl
      have fronts := List.append_inj_left' heads rfl
      have befores := List.append_inj_right' heads rfl
      cases lasts
      cases befores
      cases fronts
      exact clear.2
    · have ends : done ++ [previous] ++ [item] =
          (front ++ before :: next :: shorter) ++ [final] := by
        simpa using split
      exact clear.1 front before next shorter (List.append_inj_left' ends rfl)

/-- Neighbours that do not join are apart, and what is apart from an item is
apart from all that follow it. -/
theorem Grouped.areApart_iff {joins : α → α → Bool} {follows : α → α → Prop}
    {groups : List (List α)}
    (grouped : Grouped joins items groups)
    (ordered : items.Pairwise follows)
    (cut : ∀ first second, joins first second = false ↔ apart first second)
    (carried : ∀ first second third, apart first second →
      follows second third → apart first third) :
    AreApart apart groups ↔ IsClear apart items := by
  induction grouped with
  | nil => simp [AreApart, IsClear]
  | first item => simp [AreApart, IsClear, List.cons_eq_append_iff]
  | @joined done last earlier previous item grouped near ih =>
      have kept : ¬ apart previous item := by
        simp [← cut, near]
      have inOrder : (done ++ [previous]).Pairwise follows :=
        (List.pairwise_append.mp ordered).1
      have toItem : ∀ held ∈ done ++ [previous], follows held item := by
        intro held member
        exact (List.pairwise_append.mp ordered).2.2 held member item (by simp)
      have nextEq := ih inOrder
      rw [isClear_concat, ← nextEq]
      constructor
      · intro separated
        refine ⟨?_, fun far => (kept far).elim⟩
        rw [areApart_concat] at separated ⊢
        refine ⟨separated.1, ?_⟩
        intro first inside second present
        exact separated.2 first inside second (List.mem_append_left _ present)
      · intro clear
        have separated := clear.1
        rw [areApart_concat] at separated ⊢
        refine ⟨separated.1, ?_⟩
        intro first inside second present
        rw [List.mem_append, List.mem_singleton] at present
        cases present with
        | inl old => exact separated.2 first inside second old
        | inr new =>
            subst new
            have far := separated.2 first inside previous (by simp)
            exact carried first previous second far (toItem previous (by simp))
  | @split done last earlier previous item grouped far ih =>
      have inOrder : (done ++ [previous]).Pairwise follows :=
        (List.pairwise_append.mp ordered).1
      have parted : apart previous item := (cut previous item).mp far
      rw [areApart_concat, grouped.flatten, ih inOrder, isClear_concat]
      simp only [List.mem_append, List.mem_singleton, forall_eq, parted,
        forall_const, or_imp, forall_and, and_true]

end Apart

end ReplayForge

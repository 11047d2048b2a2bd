import Mathlib.Data.List.Basic
import Mathlib.Data.List.Infix

/-!
# Segments of a separated text

A text whose parts are joined by a separator, between a leading separator and
at most one trailing separator, is one that repeats no separator.  Trimming the
separators and splitting at them recovers the parts.
-/

namespace ReplayForge.Segments

variable {α : Type} [DecidableEq α] {separator : α} {text : List α}
  {parts first second : List (List α)}

/-- Parts that can be joined and split again. -/
def Proper (separator : α) (parts : List (List α)) : Prop :=
  parts ≠ [] ∧ ∀ part ∈ parts, part ≠ [] ∧ separator ∉ part

/-- `strip(separator)` -/
def trim (separator : α) (text : List α) : List α :=
  ((text.dropWhile (· = separator)).reverse.dropWhile (· = separator)).reverse

/-- The separator occurs twice in a row. -/
def Repeats (separator : α) (text : List α) : Prop :=
  [separator, separator] <:+: text

instance : Decidable (Repeats separator text) :=
  inferInstanceAs (Decidable ([separator, separator] <:+: text))

theorem not_mem_of_mem_splitOn {part : List α}
    (member : part ∈ text.splitOn separator) : separator ∉ part := by
  induction text generalizing part with
  | nil =>
      simp only [List.splitOn_nil, List.mem_singleton] at member
      simp [member]
  | cons head text ih =>
      rw [List.splitOn_cons_eq_if_modifyHead] at member
      split at member
      next =>
        rcases List.mem_cons.mp member with rfl | later
        · simp
        · exact ih later
      next different =>
        cases split : text.splitOn separator with
        | nil => exact absurd split (List.splitOn_ne_nil _ _)
        | cons start others =>
            rw [split, List.modifyHead_cons] at member
            rcases List.mem_cons.mp member with rfl | later
            · have clean : separator ∉ start :=
                ih (split ▸ List.mem_cons_self)
              rw [List.mem_cons, not_or]
              exact ⟨fun same => different (by simp [same]), clean⟩
            · exact ih (split ▸ List.mem_cons_of_mem _ later)

omit [DecidableEq α] in
theorem intercalate_append (some : first ≠ []) (others : second ≠ []) :
    [separator].intercalate (first ++ second) =
      [separator].intercalate first ++
        separator :: [separator].intercalate second := by
  induction first with
  | nil => exact absurd rfl some
  | cons part rest ih =>
      cases rest with
      | nil => simp [List.intercalate_cons_of_ne_nil others]
      | cons next rest =>
          rw [List.cons_append, List.cons_append,
            List.intercalate_cons_cons, ← List.cons_append,
            ih (List.cons_ne_nil _ _), List.intercalate_cons_cons]
          simp

/-- A repeated separator is an empty part inside the text. -/
theorem repeats_iff : Repeats separator text ↔
    ∃ before after, before ≠ [] ∧ after ≠ [] ∧
      text.splitOn separator = before ++ [] :: after := by
  constructor
  · rintro ⟨early, late, rfl⟩
    refine ⟨early.splitOn separator, late.splitOn separator,
      List.splitOn_ne_nil _ _, List.splitOn_ne_nil _ _, ?_⟩
    rw [List.append_assoc, List.cons_append, List.cons_append,
      List.nil_append, List.splitOn_append_cons_self]
    rw [List.splitOn_cons_eq_if_modifyHead]
    simp
  · rintro ⟨before, after, some, others, split⟩
    have joined : [separator].intercalate (text.splitOn separator) = text :=
      List.intercalate_splitOn separator
    rw [← joined, split,
      intercalate_append some (List.cons_ne_nil _ _),
      List.intercalate_cons_of_ne_nil others]
    refine ⟨[separator].intercalate before, [separator].intercalate after, ?_⟩
    simp

namespace Proper

variable (proper : Proper separator parts)

include proper

theorem splitOn : ([separator].intercalate parts).splitOn separator = parts :=
  List.splitOn_intercalate separator (fun part member => (proper.2 part member).2)
    proper.1

omit [DecidableEq α] in
theorem intercalate_ne_nil : [separator].intercalate parts ≠ [] := by
  obtain ⟨some, each⟩ := proper
  cases parts with
  | nil => exact absurd rfl some
  | cons part rest =>
      have present := (each part List.mem_cons_self).1
      cases rest with
      | nil => simpa using present
      | cons next rest => simp [List.intercalate_cons_cons]

omit [DecidableEq α] in
theorem not_start {rest : List α} :
    [separator].intercalate parts ≠ separator :: rest := by
  intro same
  obtain ⟨some, each⟩ := proper
  cases parts with
  | nil => exact absurd rfl some
  | cons part others =>
      obtain ⟨present, clean⟩ := each part List.mem_cons_self
      cases part with
      | nil => exact absurd rfl present
      | cons head part =>
          have starts : head = separator := by
            cases others with
            | nil =>
                rw [List.intercalate_singleton, List.cons.injEq] at same
                exact same.1
            | cons next others =>
                rw [List.intercalate_cons_cons, List.cons_append,
                  List.cons_append, List.cons.injEq] at same
                exact same.1
          exact clean (by simp [starts])

omit [DecidableEq α] in
theorem not_end {rest : List α} :
    [separator].intercalate parts ≠ rest ++ [separator] := by
  intro same
  obtain ⟨some, each⟩ := proper
  obtain ⟨init, last, rfl⟩ :=
    (List.eq_nil_or_concat parts).resolve_left some
  rw [List.concat_eq_append] at same each
  obtain ⟨present, clean⟩ := each last (by simp)
  obtain ⟨start, final, rfl⟩ :=
    (List.eq_nil_or_concat last).resolve_left present
  rw [List.concat_eq_append] at same clean
  have ends : final = separator := by
    by_cases alone : init = []
    · rw [alone, List.nil_append, List.intercalate_singleton] at same
      exact List.singleton_inj.mp (List.append_inj' same rfl).2
    · rw [intercalate_append alone (List.cons_ne_nil _ _),
        List.intercalate_singleton, ← List.cons_append, ← List.append_assoc]
        at same
      exact List.singleton_inj.mp (List.append_inj' same rfl).2
  exact clean (by simp [ends])

/-- Trimming leaves what a proper path joins. -/
theorem dropWhile_eq (tail : List α) :
    ([separator].intercalate parts ++ tail).dropWhile (· = separator) =
      [separator].intercalate parts ++ tail := by
  cases body : [separator].intercalate parts with
  | nil => exact absurd body proper.intercalate_ne_nil
  | cons head rest =>
      have apart : head ≠ separator := by
        rintro rfl
        exact proper.not_start body
      rw [List.cons_append, List.dropWhile_cons_of_neg (by simpa using apart)]

theorem dropWhile_reverse :
    ([separator].intercalate parts).reverse.dropWhile (· = separator) =
      ([separator].intercalate parts).reverse := by
  obtain ⟨init, last, body⟩ := (List.eq_nil_or_concat _).resolve_left
    proper.intercalate_ne_nil
  rw [List.concat_eq_append] at body
  have apart : last ≠ separator := by
    rintro rfl
    exact proper.not_end body
  rw [body, List.reverse_append, List.reverse_singleton, List.singleton_append,
    List.dropWhile_cons_of_neg (by simpa using apart)]

theorem trim_path : trim separator (separator :: [separator].intercalate parts) =
    [separator].intercalate parts := by
  have front := proper.dropWhile_eq []
  rw [List.append_nil] at front
  unfold trim
  rw [List.dropWhile_cons_of_pos (by simp), front, proper.dropWhile_reverse,
    List.reverse_reverse]

theorem trim_closed : trim separator
    (separator :: ([separator].intercalate parts ++ [separator])) =
      [separator].intercalate parts := by
  unfold trim
  rw [List.dropWhile_cons_of_pos (by simp), proper.dropWhile_eq,
    List.reverse_append, List.reverse_singleton, List.singleton_append,
    List.dropWhile_cons_of_pos (by simp), proper.dropWhile_reverse,
    List.reverse_reverse]

/-- The parts after a leading separator. -/
theorem splitOn_path :
    (separator :: [separator].intercalate parts).splitOn separator =
      [] :: parts := by
  rw [List.splitOn_cons_eq_if_modifyHead, if_pos (by simp), proper.splitOn]

theorem splitOn_closed :
    (separator :: ([separator].intercalate parts ++ [separator])).splitOn
      separator = [] :: (parts ++ [[]]) := by
  rw [List.splitOn_cons_eq_if_modifyHead, if_pos (by simp),
    List.splitOn_append_cons_self, proper.splitOn, List.splitOn_nil]

end Proper

/-- A path: a leading separator, proper parts, at most one trailing one. -/
def IsPath (separator : α) (text : List α) (parts : List (List α)) : Prop :=
  Proper separator parts ∧
    (text = separator :: [separator].intercalate parts ∨
      text = separator :: ([separator].intercalate parts ++ [separator]))

theorem IsPath.splitOn_trim (path : IsPath separator text parts) :
    (trim separator text).splitOn separator = parts := by
  obtain ⟨proper, rfl | rfl⟩ := path
  · rw [proper.trim_path, proper.splitOn]
  · rw [proper.trim_closed, proper.splitOn]

theorem IsPath.not_repeats (path : IsPath separator text parts) :
    ¬Repeats separator text := by
  obtain ⟨⟨some, each⟩, shape⟩ := path
  rw [repeats_iff]
  rintro ⟨before, after, present, others, split⟩
  have inside : [] ∈ parts := by
    obtain ⟨start, before, rfl⟩ := List.exists_cons_of_ne_nil present
    rcases shape with rfl | rfl
    · rw [Proper.splitOn_path ⟨some, each⟩, List.cons_append,
        List.cons.injEq] at split
      rw [split.2]
      simp
    · rw [Proper.splitOn_closed ⟨some, each⟩, List.cons_append,
        List.cons.injEq] at split
      obtain ⟨init, last, rfl⟩ :=
        (List.eq_nil_or_concat after).resolve_left others
      have same : parts ++ [[]] = (before ++ [] :: init) ++ [last] := by
        rw [split.2]
        simp
      rw [(List.append_inj' same rfl).1]
      simp
  exact (each [] inside).1 rfl

/-- A text that starts with a separator, says more and never repeats it is a
path. -/
theorem isPath_of_not_repeats {rest : List α} (more : rest ≠ [])
    (once : ¬Repeats separator (separator :: rest)) :
    ∃ parts, IsPath separator (separator :: rest) parts := by
  rw [repeats_iff] at once
  have split : (separator :: rest).splitOn separator =
      [] :: rest.splitOn separator := by
    rw [List.splitOn_cons_eq_if_modifyHead, if_pos (by simp)]
  have inner : ∀ before after, after ≠ [] →
      rest.splitOn separator ≠ before ++ [] :: after := by
    intro before after others same
    exact once ⟨[] :: before, after, List.cons_ne_nil _ _, others, by
      rw [split, same, List.cons_append]⟩
  have joined : [separator].intercalate (rest.splitOn separator) = rest :=
    List.intercalate_splitOn separator
  obtain ⟨init, last, whole⟩ := (List.eq_nil_or_concat _).resolve_left
    (List.splitOn_ne_nil separator rest)
  rw [List.concat_eq_append] at whole
  have clean : ∀ part ∈ rest.splitOn separator, separator ∉ part :=
    fun part member => not_mem_of_mem_splitOn member
  have filled : ∀ part ∈ init, part ≠ [] := by
    rintro part member rfl
    obtain ⟨before, after, rfl⟩ := List.append_of_mem member
    exact inner before (after ++ [last]) (by simp) (by rw [whole]; simp)
  by_cases closed : last = []
  · subst closed
    have some : init ≠ [] := by
      rintro rfl
      rw [whole] at joined
      exact more (by simpa using joined.symm)
    refine ⟨init, ⟨some, fun part member => ⟨filled part member,
      clean part (by rw [whole]; exact List.mem_append_left _ member)⟩⟩,
      .inr ?_⟩
    rw [← joined, whole, intercalate_append some (List.cons_ne_nil _ _)]
    simp
  · refine ⟨rest.splitOn separator, ⟨List.splitOn_ne_nil _ _, ?_⟩, .inl ?_⟩
    · intro part member
      refine ⟨?_, clean part member⟩
      rw [whole] at member
      rcases List.mem_append.mp member with early | final
      · exact filled part early
      · rw [List.mem_singleton.mp final]
        exact closed
    · rw [joined]

end ReplayForge.Segments
